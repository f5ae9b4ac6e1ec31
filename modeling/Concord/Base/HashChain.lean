import Mathlib.Data.List.Basic

/-!
# Hash chains

A chain is a list of entries of any type, each naming its predecessor's hash
(`prev`) and carrying its own (`hash`), starting from a genesis value. The list
is `Linked` when every entry's `prev` is the hash of the entry before it.

The library result is `prefix_of_linked`: if the hashes of one chain identify
its entries and never equal the genesis value, then *every* linked list made of
entries of that chain is a prefix of it. A linear check of the links therefore
catches every rearrangement of known entries except cutting off the end.
-/

namespace Concord.Base

universe u v

namespace HashChain

variable {α : Type u} {H : Type v} (prev hash : α → H)

/-- Every entry names the hash of the entry before it, the first one `g`. -/
def Linked : H → List α → Prop
  | _, [] => True
  | g, a :: l => prev a = g ∧ Linked (hash a) l

def tip : H → List α → H
  | g, [] => g
  | _, a :: l => tip (hash a) l

@[simp] theorem linked_nil (g : H) : Linked prev hash g [] := trivial

@[simp] theorem linked_cons (g : H) (a : α) (l : List α) :
    Linked prev hash g (a :: l) ↔ prev a = g ∧ Linked prev hash (hash a) l :=
  Iff.rfl

@[simp] theorem tip_nil (g : H) : tip hash g [] = g := rfl

@[simp] theorem tip_cons (g : H) (a : α) (l : List α) :
    tip hash g (a :: l) = tip hash (hash a) l := rfl

theorem linked_append (g : H) (l m : List α) :
    Linked prev hash g (l ++ m) ↔
      Linked prev hash g l ∧ Linked prev hash (tip hash g l) m := by
  induction l generalizing g with
  | nil => simp
  | cons a l ih => simp [ih, and_assoc]

theorem tip_append (g : H) (l m : List α) :
    tip hash g (l ++ m) = tip hash (tip hash g l) m := by
  induction l generalizing g with
  | nil => rfl
  | cons a l ih => exact ih (hash a)

theorem tip_concat (g : H) (l : List α) (a : α) :
    tip hash g (l ++ [a]) = hash a := by
  rw [tip_append]
  rfl

/-- What an entry of a linked list names: the genesis value, or the hash of
another entry of the list. -/
theorem prev_eq_of_mem {g : H} {l : List α} (hl : Linked prev hash g l) {b : α}
    (hb : b ∈ l) : prev b = g ∨ ∃ a ∈ l, prev b = hash a := by
  induction l generalizing g with
  | nil => cases hb
  | cons a l ih =>
    rcases List.mem_cons.mp hb with rfl | hb'
    · exact .inl hl.1
    · right
      rcases ih hl.2 hb' with h | ⟨c, hc, h⟩
      · exact ⟨a, List.mem_cons_self, h⟩
      · exact ⟨c, List.mem_cons_of_mem a hc, h⟩

/-- **Cutting is all that is left.** Where the hashes of a linked list `l`
identify its entries and avoid the genesis value, a linked list of entries of
`l` is a prefix of `l`. -/
theorem prefix_of_linked {g : H} {l m : List α} (hl : Linked prev hash g l)
    (hm : Linked prev hash g m) (hsub : ∀ b ∈ m, b ∈ l)
    (hinj : ∀ a ∈ l, ∀ b ∈ l, hash a = hash b → a = b)
    (hfresh : ∀ a ∈ l, hash a ≠ g) : m <+: l := by
  induction l generalizing g m with
  | nil =>
    cases m with
    | nil => exact List.nil_prefix
    | cons b m => exact absurd (hsub b List.mem_cons_self) List.not_mem_nil
  | cons a l ih =>
    cases m with
    | nil => exact List.nil_prefix
    | cons b m =>
      -- the head of `m` names `g`, and only the head of the chain does
      have hba : b = a := by
        rcases List.mem_cons.mp (hsub b List.mem_cons_self) with h | hb
        · exact h
        · exfalso
          rcases prev_eq_of_mem prev hash hl.2 hb with h | ⟨c, hc, h⟩
          · exact hfresh a List.mem_cons_self (h.symm.trans hm.1)
          · exact hfresh c (List.mem_cons_of_mem a hc) (h.symm.trans hm.1)
      subst hba
      have hfresh' : ∀ c ∈ l, hash c ≠ hash b := by
        intro c hc heq
        have hcb : c = b :=
          hinj c (List.mem_cons_of_mem b hc) b List.mem_cons_self heq
        subst hcb
        rcases prev_eq_of_mem prev hash hl.2 hc with h | ⟨d, hd, h⟩
        · exact hfresh c List.mem_cons_self (h.symm.trans hl.1)
        · exact hfresh d (List.mem_cons_of_mem c hd) (h.symm.trans hl.1)
      refine List.cons_prefix_cons.mpr ⟨rfl, ih hl.2 hm.2 ?_ ?_ hfresh'⟩
      · intro c hc
        rcases List.mem_cons.mp (hsub c (List.mem_cons_of_mem b hc)) with rfl | h
        · exfalso
          rcases prev_eq_of_mem prev hash hm.2 hc with h | ⟨d, hd, h⟩
          · exact hfresh c List.mem_cons_self (h.symm.trans hl.1)
          · exact hfresh d (hsub d (List.mem_cons_of_mem c hd))
              (h.symm.trans hl.1)
        · exact h
      · intro c hc d hd
        exact hinj c (List.mem_cons_of_mem b hc) d (List.mem_cons_of_mem b hd)

end HashChain

end Concord.Base
