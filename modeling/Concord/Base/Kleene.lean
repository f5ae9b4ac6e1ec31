import Mathlib.Data.List.Forall2

/-!
# Three truth values

A verdict is `some true`, `some false`, or `none` where nothing can be said. `all` and `any` are
the strong connectives: a verdict that one part settles is had whatever the other parts say.
Both keep the order of information (`Settles.all`, `Settles.any`): what is said with less is
said with more.
-/

namespace Concord.Base.Kleene

/-- What the first verdict says, the second one says. -/
def Settles (a b : Option Bool) : Prop := ∀ v, a = some v → b = some v

theorem settles_refl (a : Option Bool) : Settles a a := fun _ h => h

theorem settles_none (b : Option Bool) : Settles none b := fun _ h => nomatch h

def all (verdicts : List (Option Bool)) : Option Bool :=
  if verdicts.any (· = some false) then some false
  else if verdicts.any (· = none) then none
  else some true

def any (verdicts : List (Option Bool)) : Option Bool :=
  if verdicts.any (· = some true) then some true
  else if verdicts.any (· = none) then none
  else some false

section Connectives

variable {verdicts : List (Option Bool)}

theorem any_eq {v : Option Bool} :
    verdicts.any (fun a => decide (a = v)) = true ↔ v ∈ verdicts := by
  simp

theorem all_eq_false : all verdicts = some false ↔ some false ∈ verdicts := by
  unfold all
  by_cases hfalse : some false ∈ verdicts
  · rw [if_pos (any_eq.mpr hfalse)]
    exact iff_of_true rfl hfalse
  · rw [if_neg (mt any_eq.mp hfalse)]
    refine iff_of_false (fun h => ?_) hfalse
    split at h <;> cases h

theorem all_eq_true : all verdicts = some true ↔ ∀ v ∈ verdicts, v = some true := by
  unfold all
  constructor
  · intro h v hv
    split at h
    · cases h
    · rename_i hfalse
      split at h
      · cases h
      · rename_i hnone
        match v, hv with
        | some true, _ => rfl
        | some false, hv => exact absurd (any_eq.mpr hv) hfalse
        | none, hv => exact absurd (any_eq.mpr hv) hnone
  · intro h
    have hfalse : some false ∉ verdicts := fun hv => absurd (h _ hv) (by decide)
    have hnone : none ∉ verdicts := fun hv => absurd (h _ hv) (by decide)
    rw [if_neg (mt any_eq.mp hfalse), if_neg (mt any_eq.mp hnone)]

theorem any_eq_true : any verdicts = some true ↔ some true ∈ verdicts := by
  unfold any
  by_cases htrue : some true ∈ verdicts
  · rw [if_pos (any_eq.mpr htrue)]
    exact iff_of_true rfl htrue
  · rw [if_neg (mt any_eq.mp htrue)]
    refine iff_of_false (fun h => ?_) htrue
    split at h <;> cases h

theorem any_eq_false : any verdicts = some false ↔ ∀ v ∈ verdicts, v = some false := by
  unfold any
  constructor
  · intro h v hv
    split at h
    · cases h
    · rename_i htrue
      split at h
      · cases h
      · rename_i hnone
        match v, hv with
        | some false, _ => rfl
        | some true, hv => exact absurd (any_eq.mpr hv) htrue
        | none, hv => exact absurd (any_eq.mpr hv) hnone
  · intro h
    have htrue : some true ∉ verdicts := fun hv => absurd (h _ hv) (by decide)
    have hnone : none ∉ verdicts := fun hv => absurd (h _ hv) (by decide)
    rw [if_neg (mt any_eq.mp htrue), if_neg (mt any_eq.mp hnone)]

end Connectives

section Order

variable {as bs : List (Option Bool)}

theorem Settles.mem (h : List.Forall₂ Settles as bs) {v : Bool} (hv : some v ∈ as) :
    some v ∈ bs := by
  induction h with
  | nil => exact absurd hv List.not_mem_nil
  | cons hab _ ih =>
    obtain heq | hv := List.mem_cons.mp hv
    · rw [hab v heq.symm]
      exact List.mem_cons_self
    · exact List.mem_cons_of_mem _ (ih hv)

theorem Settles.every (h : List.Forall₂ Settles as bs) {v : Bool}
    (hv : ∀ a ∈ as, a = some v) : ∀ b ∈ bs, b = some v := by
  induction h with
  | nil => exact fun b hb => absurd hb List.not_mem_nil
  | cons hab _ ih =>
    rw [List.forall_mem_cons] at hv ⊢
    exact ⟨hab v hv.1, ih hv.2⟩

theorem Settles.all (h : List.Forall₂ Settles as bs) : Settles (all as) (all bs) := by
  rintro (_ | _) hv
  · exact all_eq_false.mpr (Settles.mem h (all_eq_false.mp hv))
  · exact all_eq_true.mpr (Settles.every h (all_eq_true.mp hv))

theorem Settles.any (h : List.Forall₂ Settles as bs) : Settles (any as) (any bs) := by
  rintro (_ | _) hv
  · exact any_eq_false.mpr (Settles.every h (any_eq_false.mp hv))
  · exact any_eq_true.mpr (Settles.mem h (any_eq_true.mp hv))

end Order

end Concord.Base.Kleene
