import Mathlib.Logic.Function.Basic

/-!
# Patches

A map with its changes applied one after the other; a change gives a key its new value, or
deletes it. Changes that all lead to one map, and that leave out no key at which it differs,
lead to it (`patch_eq`), in whatever order and however often they come.
-/

namespace Concord.Base

variable {κ α : Type*} [DecidableEq κ]

def patch (m : κ → Option α) (changes : List (κ × Option α)) : κ → Option α :=
  changes.foldl (fun m change => Function.update m change.1 change.2) m

theorem patch_eq {m target : κ → Option α} {changes : List (κ × Option α)}
    (hsound : ∀ change ∈ changes, change.2 = target change.1)
    (hcomplete : ∀ key, m key ≠ target key → key ∈ changes.map Prod.fst) :
    patch m changes = target := by
  induction changes generalizing m with
  | nil =>
    refine funext fun key => ?_
    by_contra hne
    exact List.not_mem_nil (hcomplete key hne)
  | cons change changes ih =>
    rw [List.forall_mem_cons] at hsound
    refine ih hsound.2 fun key (hne : Function.update m change.1 change.2 key ≠ target key) => ?_
    -- a key that still differs is not the one that was just written
    have hkey : key ≠ change.1 := by
      rintro rfl
      exact hne ((Function.update_self ..).trans hsound.1)
    rw [Function.update_of_ne hkey] at hne
    obtain heq | hmem := List.mem_cons.mp (hcomplete key hne)
    · exact absurd heq hkey
    · exact hmem

end Concord.Base
