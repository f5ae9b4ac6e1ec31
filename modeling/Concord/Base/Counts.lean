import Mathlib.Algebra.BigOperators.Group.List.Basic
import Mathlib.Algebra.GroupWithZero.Nat
import Mathlib.Data.List.Perm.Subperm

/-!
# Counting rows

Counts over a list of rows, as a loop with a counter or as a query makes them: by the value of
a key, for a set of keys at once, and with a condition more or less.
-/

namespace Concord.Base

universe u v

variable {α : Type u} {κ : Type v}

theorem foldl_count {σ : Type*} (get : σ → Nat) {add : σ → α → σ} {p : α → Bool}
    (h : ∀ s a, get (add s a) = get s + if p a then 1 else 0) (rows : List α) (s : σ) :
    get (rows.foldl add s) = get s + rows.countP p := by
  induction rows generalizing s with
  | nil => rfl
  | cons a rows ih =>
    rw [List.foldl_cons, ih, h, List.countP_cons]
    omega

theorem sum_filter (p : α → Bool) (f : α → Nat) (rows : List α) :
    ((rows.filter p).map f).sum = (rows.map fun a => if p a then f a else 0).sum := by
  induction rows with
  | nil => rfl
  | cons a rows ih =>
    rw [List.map_cons, List.sum_cons, ← ih]
    by_cases h : p a = true
    · rw [List.filter_cons_of_pos h, List.map_cons, List.sum_cons, if_pos h]
    · rw [List.filter_cons_of_neg h, if_neg h, Nat.zero_add]

theorem countP_eq_sum (p : α → Bool) (rows : List α) :
    rows.countP p = ((rows.filter p).map fun _ => 1).sum := by
  rw [List.countP_eq_length_filter]
  induction rows.filter p with
  | nil => rfl
  | cons a kept ih => rw [List.length_cons, List.map_cons, List.sum_cons, ih, Nat.add_comm]

theorem sum_sum_comm {ι : Type*} (f : κ → ι → Nat) (ks : List κ) (is : List ι) :
    (ks.map fun k => (is.map (f k)).sum).sum = (is.map fun i => (ks.map (f · i)).sum).sum := by
  induction ks with
  | nil =>
    refine (List.sum_eq_zero fun n hn => ?_).symm
    obtain ⟨i, -, rfl⟩ := List.mem_map.mp hn
    rfl
  | cons k ks ih =>
    simp only [List.map_cons, List.sum_cons]
    rw [ih, List.sum_map_add]

section Keys

variable [DecidableEq κ] {ks : List κ}

theorem sum_ite_key (hks : ks.Nodup) (x : κ) (n : Nat) :
    (ks.map fun k => if x = k then n else 0).sum = if x ∈ ks then n else 0 := by
  induction ks with
  | nil => rfl
  | cons k ks ih =>
    obtain ⟨hk, hks⟩ := List.nodup_cons.mp hks
    rw [List.map_cons, List.sum_cons, ih hks]
    by_cases hx : x = k
    · rw [if_pos hx, if_neg (hx ▸ hk), if_pos (List.mem_cons.mpr (.inl hx)), Nat.add_zero]
    · simp only [hx, if_false, List.mem_cons, false_or, Nat.zero_add]

theorem sum_filter_key (key : α → κ) (hks : ks.Nodup) (f : α → Nat) (p : α → Bool) (rows : List α) :
    (ks.map fun k => ((rows.filter fun a => decide (key a = k) && p a).map f).sum).sum =
      ((rows.filter fun a => decide (key a ∈ ks) && p a).map f).sum := by
  simp only [sum_filter]
  rw [sum_sum_comm]
  refine congrArg List.sum (List.map_congr_left fun a _ => ?_)
  by_cases hp : p a = true
  · simp only [hp, Bool.and_true, decide_eq_true_eq]
    exact sum_ite_key hks (key a) (f a)
  · simp only [hp, Bool.and_false, Bool.false_eq_true, if_false]
    refine List.sum_eq_zero fun n hn => ?_
    obtain ⟨k, -, rfl⟩ := List.mem_map.mp hn
    rfl

theorem sum_countP_key (key : α → κ) (hks : ks.Nodup) (p : α → Bool) (rows : List α) :
    (ks.map fun k => rows.countP fun a => decide (key a = k) && p a).sum =
      rows.countP fun a => decide (key a ∈ ks) && p a := by
  simp only [countP_eq_sum]
  exact sum_filter_key key hks _ p rows

end Keys

/-- The rows that meet a condition are all there is, exactly if every row that counts meets
it. -/
theorem countP_and_eq_iff {p q : α → Bool} {rows : List α} :
    (rows.countP fun a => q a && p a) = rows.countP p ↔
      ∀ a ∈ rows, p a = true → q a = true := by
  induction rows with
  | nil => simp
  | cons a rows ih =>
    have hle : (rows.countP fun a => q a && p a) ≤ rows.countP p :=
      List.countP_mono_left fun a _ h => by simp only [Bool.and_eq_true] at h; exact h.2
    rw [List.countP_cons, List.countP_cons, List.forall_mem_cons, ← ih]
    cases hp : p a with
    | false => simp
    | true =>
      cases hq : q a with
      | false =>
        simp
        omega
      | true => simp

theorem countP_neither {p q : α → Bool} (h : ∀ a, p a = true → q a = false) (rows : List α) :
    rows.countP p + rows.countP q + (rows.countP fun a => !p a && !q a) = rows.length := by
  induction rows with
  | nil => rfl
  | cons a rows ih =>
    simp only [List.countP_cons, List.length_cons]
    have hexcl := h a
    cases hp : p a <;> cases hq : q a <;> simp_all <;> omega

section Expected

variable [BEq κ] [LawfulBEq κ] (expected returned : List κ)

theorem filter_returned_perm :
    (expected.filter (· ∈ returned) ++ expected.filter (· ∉ returned)).Perm expected := by
  have h := List.filter_append_perm (fun k => decide (k ∈ returned)) expected
  simpa only [decide_not] using h

/-- **When a count of what came back adds up**: the keys that came back, of those expected, and the
expected ones that did not, are as many as were expected and no key is among them twice, exactly
if no key was expected twice and no expected key came back twice. -/
theorem accounted_iff :
    expected.length = (returned.filter (· ∈ expected)).length
        + (expected.filter (· ∉ returned)).length ∧
      (returned.filter (· ∈ expected) ++ expected.filter (· ∉ returned)).Nodup ↔
    expected.Nodup ∧ (returned.filter (· ∈ expected)).Nodup := by
  have hperm := filter_returned_perm expected returned
  have hmem : ∀ k, k ∈ returned.filter (· ∈ expected) ↔ k ∈ expected.filter (· ∈ returned) :=
    fun k => by simp only [List.mem_filter, decide_eq_true_eq, and_comm]
  constructor
  · rintro ⟨hlen, hnodup⟩
    have hreturned := (List.nodup_append.mp hnodup).1
    have hsub := hreturned.subperm fun k hk => (hmem k).mp hk
    have hle : (expected.filter (· ∈ returned)).length
        ≤ (returned.filter (· ∈ expected)).length := by
      have := hperm.length_eq
      rw [List.length_append] at this
      omega
    have hsame := hsub.perm_of_length_le hle
    exact ⟨((hsame.append_right _).trans hperm).nodup_iff.mp hnodup, hreturned⟩
  · rintro ⟨hexpected, hreturned⟩
    have hsame : (returned.filter (· ∈ expected)).Perm (expected.filter (· ∈ returned)) :=
      (List.perm_ext_iff_of_nodup hreturned (hexpected.filter _)).mpr hmem
    have hall := (hsame.append_right (expected.filter (· ∉ returned))).trans hperm
    exact ⟨by rw [← hall.length_eq, List.length_append], hall.nodup_iff.mpr hexpected⟩

end Expected

end Concord.Base
