import Concord.Python.Json
import Mathlib.Data.List.Sort

/-!
# Code point order

`Json.keyLt` is the order that Python compares strings by: a strict total order. `keyLe` is
`<=`, what `sorted` sorts by.
-/

namespace Concord.Python.Json

theorem keyLt_self (s : Text) : keyLt s s = false := by
  induction s with
  | nil => rfl
  | cons c s ih => rw [keyLt, if_pos rfl, ih]

theorem keyLt_cons (c : Char) (s t : Text) : keyLt (c :: s) (c :: t) = keyLt s t := by
  rw [keyLt, if_pos rfl]

theorem keyLt_cons_ne {c d : Char} (h : c ≠ d) (s t : Text) :
    keyLt (c :: s) (d :: t) = decide (c.toNat < d.toNat) := by
  rw [keyLt, if_neg h]

theorem keyLt_trans {s t u : Text} (h : keyLt s t = true) (h' : keyLt t u = true) :
    keyLt s u = true := by
  induction s generalizing t u with
  | nil =>
    cases u with
    | nil =>
      cases t <;> cases h'
    | cons d u => rfl
  | cons c s ih =>
    cases t with
    | nil => cases h
    | cons d t =>
      cases u with
      | nil => cases h'
      | cons e u =>
        by_cases hcd : c = d
        · subst hcd
          by_cases hce : c = e
          · subst hce
            rw [keyLt_cons] at h h' ⊢
            exact ih h h'
          · rw [keyLt_cons_ne hce] at h' ⊢
            exact h'
        · rw [keyLt_cons_ne hcd] at h
          by_cases hde : d = e
          · subst hde
            rw [keyLt_cons_ne hcd]
            exact h
          · rw [keyLt_cons_ne hde] at h'
            have hlt := of_decide_eq_true h
            have hlt' := of_decide_eq_true h'
            have hce : c ≠ e := by
              rintro rfl
              omega
            rw [keyLt_cons_ne hce]
            exact decide_eq_true (by omega)

theorem keyLt_asymm {s t : Text} (h : keyLt s t = true) : keyLt t s = false := by
  by_contra hts
  have hss := keyLt_trans h (by simpa using hts)
  rw [keyLt_self] at hss
  cases hss

theorem keyLt_total {s t : Text} (h : s ≠ t) : keyLt s t = true ∨ keyLt t s = true := by
  induction s generalizing t with
  | nil =>
    cases t with
    | nil => exact absurd rfl h
    | cons d t => exact .inl rfl
  | cons c s ih =>
    cases t with
    | nil => exact .inr rfl
    | cons d t =>
      by_cases hcd : c = d
      · subst hcd
        rw [keyLt_cons, keyLt_cons]
        exact ih fun hst => h (congrArg _ hst)
      · rw [keyLt_cons_ne hcd, keyLt_cons_ne (Ne.symm hcd), decide_eq_true_iff, decide_eq_true_iff]
        have hne : c.toNat ≠ d.toNat := fun heq => hcd (Char.toNat_inj.mp heq)
        omega

/-- `s <= t`. -/
def keyLe (s t : Text) : Prop := keyLt t s = false

instance : DecidableRel keyLe := fun s t => inferInstanceAs (Decidable (keyLt t s = false))

theorem keyLe_total (s t : Text) : keyLe s t ∨ keyLe t s := by
  by_cases h : keyLt t s = true
  · exact .inr (keyLt_asymm h)
  · exact .inl (by simpa [keyLe] using h)

theorem keyLe_trans {s t u : Text} (h : keyLe s t) (h' : keyLe t u) : keyLe s u := by
  show keyLt u s = false
  by_contra hus
  have hus : keyLt u s = true := by simpa using hus
  by_cases hst : s = t
  · subst hst
    rw [h'] at hus
    cases hus
  · obtain hlt | hgt := keyLt_total hst
    · have hut := keyLt_trans hus hlt
      rw [h'] at hut
      cases hut
    · rw [h] at hgt
      cases hgt

theorem keyLe_antisymm {s t : Text} (h : keyLe s t) (h' : keyLe t s) : s = t := by
  by_contra hne
  obtain hlt | hgt := keyLt_total hne
  · rw [h'] at hlt
    cases hlt
  · rw [h] at hgt
    cases hgt

instance : Std.Total keyLe := ⟨keyLe_total⟩

instance : IsTrans Text keyLe := ⟨fun _ _ _ => keyLe_trans⟩

instance : Std.Antisymm keyLe := ⟨fun _ _ => keyLe_antisymm⟩

/-! Items by their keys. -/

instance {α : Type} : Std.Total fun a b : Text × α => keyLe a.1 b.1 :=
  ⟨fun a b => keyLe_total a.1 b.1⟩

instance {α : Type} : IsTrans (Text × α) fun a b => keyLe a.1 b.1 :=
  ⟨fun _ _ _ => keyLe_trans⟩

theorem eq_of_sorted {l l' : List Text} (h : l.Pairwise keyLe) (h' : l'.Pairwise keyLe)
    (hn : l.Nodup) (hn' : l'.Nodup) (hmem : ∀ t, t ∈ l ↔ t ∈ l') : l = l' :=
  ((List.perm_ext_iff_of_nodup hn hn').mpr hmem).eq_of_pairwise
    (fun _ _ _ _ => keyLe_antisymm) h h'

end Concord.Python.Json
