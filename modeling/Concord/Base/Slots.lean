import Mathlib.Data.List.Basic
import Mathlib.Data.List.Find
import Mathlib.Data.List.Nodup

/-!
# Registers with exclusive slots

A register is a list of rows, some of which occupy a slot. `Exclusive`: no slot
is occupied twice, which is what a lookup by slot needs to find at most one row.
A row may join, or move, if the slot it takes is free.

`upsert` writes the row of a key, which is replaced or joins.
-/

namespace Concord.Base

universe u v

variable {α : Type u} {κ : Type v} {slot : α → Option κ} {rows : List α}

def Exclusive (slot : α → Option κ) (rows : List α) : Prop :=
  rows.Pairwise fun a b => ∀ k, slot a = some k → slot b ≠ some k

theorem exclusive_nil : Exclusive slot [] := List.Pairwise.nil

theorem Exclusive.concat (h : Exclusive slot rows) {a : α}
    (hfree : ∀ b ∈ rows, ∀ k, slot a = some k → slot b ≠ some k) :
    Exclusive slot (rows ++ [a]) := by
  refine List.pairwise_append.mpr ⟨h, List.pairwise_singleton _ _, fun b hb c hc k hk => ?_⟩
  rw [List.mem_singleton] at hc
  rw [hc]
  exact fun hak => hfree b hb k hak hk

theorem Exclusive.update {ι : Type*} [DecidableEq ι] {ident : α → ι}
    (h : Exclusive slot rows) (hid : (rows.map ident).Nodup) {i : ι} {f : α → α}
    (hf : ∀ a ∈ rows, ident a = i → ∀ b ∈ rows, ident b ≠ i →
      ∀ k, slot (f a) = some k → slot b ≠ some k) :
    Exclusive slot (rows.map fun a => if ident a = i then f a else a) := by
  have hne := List.pairwise_map.mp hid
  refine List.pairwise_map.mpr ?_
  refine (h.and hne).imp_of_mem fun {a b} ha hb hab k => ?_
  by_cases hai : ident a = i
  · have hbi : ident b ≠ i := fun hb' => hab.2 (hai.trans hb'.symm)
    rw [if_pos hai, if_neg hbi]
    exact hf a ha hai b hb hbi k
  · rw [if_neg hai]
    by_cases hbi : ident b = i
    · rw [if_pos hbi]
      exact fun hak hbk => hf b hb hbi a ha hai k hbk hak
    · rw [if_neg hbi]
      exact hab.1 k

theorem Exclusive.rewrite {slot' : α → Option κ} (h : Exclusive slot rows) {f : α → α}
    (hf : ∀ a ∈ rows, ∀ k, slot' (f a) = some k → slot a = some k) :
    Exclusive slot' (rows.map f) := by
  refine List.pairwise_map.mpr (h.imp_of_mem fun {a b} ha hb hab k hak hbk => ?_)
  exact hab k (hf a ha k hak) (hf b hb k hbk)

/-- **A lookup within a slot finds at most one row.** -/
theorem Exclusive.lookup (h : Exclusive slot rows) {q : α → Bool} {k : κ}
    (hq : ∀ a ∈ rows, q a = true → slot a = some k) :
    rows.filter q = [] ∨ ∃ a, rows.filter q = [a] := by
  have hsub : Exclusive slot (rows.filter q) := h.sublist List.filter_sublist
  have hall : ∀ a ∈ rows.filter q, slot a = some k := by
    intro a ha
    rw [List.mem_filter] at ha
    exact hq a ha.1 ha.2
  generalize rows.filter q = found at hsub hall
  match found with
  | [] => exact .inl rfl
  | [a] => exact .inr ⟨a, rfl⟩
  | a :: b :: rest =>
    have hab := (List.pairwise_cons.mp hsub).1 b List.mem_cons_self
    exact absurd (hall b (List.mem_cons_of_mem a List.mem_cons_self))
      (hab k (hall a List.mem_cons_self))

/-! ## One row per key -/

section Keys

variable {ι : Type*} [DecidableEq ι] {key : α → ι}

theorem find_of_nodup (h : (rows.map key).Nodup) {a : α} (ha : a ∈ rows) :
    (rows.find? fun r => key r = key a) = some a := by
  cases hfind : rows.find? fun r => key r = key a with
  | none => exact absurd (List.find?_eq_none.mp hfind a ha) (by simp)
  | some b =>
    have hkey : key b = key a := by simpa using List.find?_some hfind
    rw [List.inj_on_of_nodup_map h (List.mem_of_find?_eq_some hfind) ha hkey]

def upsert (key : α → ι) (a : α) (rows : List α) : List α :=
  if rows.any fun r => key r = key a then rows.map fun r => if key r = key a then a else r
  else rows ++ [a]

theorem find_upsert (a : α) (rows : List α) (k : ι) :
    ((upsert key a rows).find? fun r => key r = k) =
      if key a = k then some a else rows.find? fun r => key r = k := by
  unfold upsert
  split
  · rename_i hany
    have hkeys : ∀ r ∈ rows, ((fun r => decide (key r = k)) ∘
        fun r => if key r = key a then a else r) r = decide (key r = k) := by
      intro r _
      rw [Function.comp_apply]
      split
      · rename_i h
        rw [h]
      · rfl
    rw [List.find?_map, List.find?_congr hkeys]
    cases hfind : rows.find? fun r => key r = k with
    | none =>
      have hne : key a ≠ k := by
        rintro rfl
        obtain ⟨r, hr, hkey⟩ := List.any_eq_true.mp hany
        exact List.find?_eq_none.mp hfind r hr hkey
      rw [if_neg hne]
      rfl
    | some q =>
      have hq : key q = k := by simpa using List.find?_some hfind
      rw [Option.map_some, hq]
      by_cases h : key a = k
      · rw [if_pos h, if_pos h.symm]
      · rw [if_neg h, if_neg (Ne.symm h)]
  · rename_i hnone
    rw [List.find?_append, List.find?_singleton]
    by_cases h : key a = k
    · have hnot : (rows.find? fun r => key r = k) = none :=
        List.find?_eq_none.mpr fun r hr hkey =>
          hnone (List.any_eq_true.mpr ⟨r, hr, h ▸ hkey⟩)
      rw [hnot, if_pos h, if_pos (decide_eq_true h), Option.none_or]
    · rw [if_neg h, if_neg (by simpa using h), Option.or_none]

end Keys

end Concord.Base
