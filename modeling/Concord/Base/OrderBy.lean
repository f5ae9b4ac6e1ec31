import Mathlib.Data.List.Sort
import Mathlib.Data.List.MinMax
import Mathlib.Data.Prod.Lex

/-!
# Queries that are cut off

`SELECT … ORDER BY key LIMIT n`: the rows come in an order of their keys, and which order that is
among rows of one key is up to the database. There is one answer exactly if rows of one key come
only after `n` others (`answers_unique_iff`): a tie matters where it stands, at the cut-off too.

`ORDER BY time DESC, id DESC LIMIT 1` has one answer, the `newest` row, where two rows of one time
are told apart by their ids (`Stamp`).
-/

namespace Concord.Base

universe u v

variable {α : Type u} {κ : Type v} [LinearOrder κ] {key : α → κ} {n : Nat} {rows out : List α}

def Answers (key : α → κ) (n : Nat) (rows out : List α) : Prop :=
  ∃ full : List α, full.Perm rows ∧ full.Pairwise (fun a b => key a ≤ key b) ∧ out = full.take n

/-- Rows of one key have at least `n` rows before them. -/
def Untied (key : α → κ) (n : Nat) (rows : List α) : Prop :=
  ∀ a ∈ rows, ∀ b ∈ rows, key a = key b → a ≠ b → n ≤ rows.countP fun c => key c < key a

theorem Answers.sublist_perm (h : Answers key n rows out) :
    ∃ full : List α, full.Perm rows ∧ out.Sublist full := by
  obtain ⟨full, hperm, -, rfl⟩ := h
  exact ⟨full, hperm, List.take_sublist n full⟩

theorem Answers.mem (h : Answers key n rows out) {a : α} (ha : a ∈ out) : a ∈ rows := by
  obtain ⟨full, hperm, hsub⟩ := h.sublist_perm
  exact hperm.mem_iff.mp (hsub.subset ha)

theorem Answers.nodup_map {β : Type*} {f : α → β} (h : Answers key n rows out)
    (hrows : (rows.map f).Nodup) : (out.map f).Nodup := by
  obtain ⟨full, hperm, hsub⟩ := h.sublist_perm
  exact (hsub.map f).nodup ((hperm.map f).nodup_iff.mpr hrows)

theorem pairwise_insertionSort_key (key : α → κ) (rows : List α) :
    (rows.insertionSort fun a b => key a ≤ key b).Pairwise (fun a b => key a ≤ key b) := by
  have : Std.Total fun a b : α => key a ≤ key b := ⟨fun a b => le_total (key a) (key b)⟩
  have : IsTrans α fun a b : α => key a ≤ key b := ⟨fun a b c => le_trans⟩
  exact List.pairwise_insertionSort _ _

theorem answers_insertionSort (key : α → κ) (n : Nat) (rows : List α) :
    Answers key n rows ((rows.insertionSort fun a b => key a ≤ key b).take n) :=
  ⟨_, List.perm_insertionSort _ _, pairwise_insertionSort_key key rows, rfl⟩

theorem countP_lt_le {full : List α} (hsorted : full.Pairwise fun a b => key a ≤ key b) {i : Nat}
    (hi : i < full.length) : (full.countP fun c => key c < key full[i]) ≤ i := by
  -- from `i` on no key is smaller
  have hrest : ((full.drop i).countP fun c => key c < key full[i]) = 0 := by
    refine List.countP_eq_zero.mpr fun c hc hlt => ?_
    rw [List.drop_eq_getElem_cons hi] at hc
    have hsorted := hsorted.drop (i := i)
    rw [List.drop_eq_getElem_cons hi, List.pairwise_cons] at hsorted
    rcases List.mem_cons.mp hc with rfl | hc
    · exact lt_irrefl _ (of_decide_eq_true hlt)
    · exact not_lt_of_ge (hsorted.1 c hc) (of_decide_eq_true hlt)
  have hsplit := congrArg (List.countP fun c => decide (key c < key full[i]))
    (List.take_append_drop i full)
  rw [List.countP_append, hrest, Nat.add_zero] at hsplit
  rw [← hsplit]
  exact List.countP_le_length.trans (List.length_take_le _ _)

theorem answers_unique (h : Untied key n rows) {out' : List α} (hout : Answers key n rows out)
    (hout' : Answers key n rows out') : out = out' := by
  obtain ⟨full, hperm, hsorted, rfl⟩ := hout
  obtain ⟨full', hperm', hsorted', rfl⟩ := hout'
  have hlength : full.length = full'.length := hperm.length_eq.trans hperm'.length_eq.symm
  -- row by row the keys are the same, so two rows that differ are tied
  have hkeys : full.map key = full'.map key :=
    ((hperm.trans hperm'.symm).map key).eq_of_pairwise' (List.pairwise_map.mpr hsorted)
      (List.pairwise_map.mpr hsorted')
  refine List.ext_getElem (by rw [List.length_take, List.length_take, hlength]) fun i hi hi' => ?_
  rw [List.length_take] at hi hi'
  have hfull : i < full.length := by omega
  have hfull' : i < full'.length := by omega
  rw [List.getElem_take, List.getElem_take]
  by_contra hne
  have hkey : key full[i] = key full'[i] := by
    have hget := congrArg (·[i]?) hkeys
    simpa [hfull, hfull'] using hget
  have hbefore := h full[i] (hperm.mem_iff.mp (List.getElem_mem hfull)) full'[i]
    (hperm'.mem_iff.mp (List.getElem_mem hfull')) hkey hne
  rw [← hperm.countP_eq] at hbefore
  have hle := countP_lt_le hsorted hfull
  omega

theorem exists_answer_first [DecidableEq α] {a : α} (ha : a ∈ rows)
    (hn : (rows.countP fun c => key c < key a) < n) :
    ∃ out, Answers key n rows out ∧ out[rows.countP fun c => key c < key a]? = some a := by
  set before := (rows.filter fun c => key c < key a).insertionSort fun b c => key b ≤ key c
  set rest := ((rows.filter fun c => !decide (key c < key a)).erase a).insertionSort
    fun b c => key b ≤ key c
  have hlength : before.length = rows.countP fun c => key c < key a := by
    rw [List.length_insertionSort, List.countP_eq_length_filter]
  have hmem : a ∈ rows.filter fun c => !decide (key c < key a) :=
    List.mem_filter.mpr ⟨ha, by simp⟩
  -- the rows with smaller keys, then `a`, then the others in order
  have hperm : (before ++ a :: rest).Perm rows := by
    refine ((List.perm_insertionSort _ _).append
      ((List.perm_insertionSort _ _).cons a)).trans ?_
    refine ((List.Perm.refl _).append (List.perm_cons_erase hmem).symm).trans ?_
    exact List.filter_append_perm _ rows
  have hbefore : ∀ b ∈ before, key b < key a := fun b hb =>
    of_decide_eq_true (List.mem_filter.mp ((List.mem_insertionSort _).mp hb)).2
  have hrest : ∀ c ∈ rest, key a ≤ key c := by
    intro c hc
    have hc := List.mem_of_mem_erase ((List.mem_insertionSort _).mp hc)
    simpa using (List.mem_filter.mp hc).2
  refine ⟨(before ++ a :: rest).take n, ⟨_, hperm, ?_, rfl⟩, ?_⟩
  · refine List.pairwise_append.mpr ⟨pairwise_insertionSort_key key _, ?_, fun b hb c hc => ?_⟩
    · exact List.pairwise_cons.mpr ⟨hrest, pairwise_insertionSort_key key _⟩
    · rcases List.mem_cons.mp hc with rfl | hc
      · exact (hbefore b hb).le
      · exact (hbefore b hb).le.trans (hrest c hc)
  · rw [List.getElem?_take, if_pos hn, ← hlength, List.getElem?_append_right le_rfl,
      Nat.sub_self]
    rfl

/-- **One answer**, exactly if no tie stands before the cut-off or across it. -/
theorem answers_unique_iff [DecidableEq α] :
    (∀ out out', Answers key n rows out → Answers key n rows out' → out = out') ↔
      Untied key n rows := by
  refine ⟨fun h a ha b hb hkey hne => ?_, fun h out out' => answers_unique h⟩
  by_contra hn
  obtain ⟨out, hout, hfirst⟩ := exists_answer_first (n := n) ha (Nat.lt_of_not_le hn)
  have hbefore : (rows.countP fun c => key c < key b) < n := hkey ▸ Nat.lt_of_not_le hn
  obtain ⟨out', hout', hfirst'⟩ := exists_answer_first hb hbefore
  rw [← hkey, ← h out out' hout hout', hfirst] at hfirst'
  exact hne (Option.some.inj hfirst')

/-! ## The newest row -/

section Newest

abbrev Stamp := Int ×ₗ Nat

def stamp (time : Int) (id : Nat) : Stamp := toLex (time, id)

theorem stamp_lt_stamp {time time' : Int} {id id' : Nat} :
    stamp time id < stamp time' id' ↔ time < time' ∨ time = time' ∧ id < id' :=
  Prod.Lex.toLex_lt_toLex

theorem stamp_inj {time time' : Int} {id id' : Nat} :
    stamp time id = stamp time' id' ↔ time = time' ∧ id = id' := Prod.mk.injEq _ _ _ _ ▸ Iff.rfl

variable {α τ : Type*} [LinearOrder τ] {time : α → τ} {rows : List α} {row e : α}

def newest (time : α → τ) (rows : List α) : Option α := rows.argmax time

theorem newest_eq_none : newest time rows = none ↔ rows = [] := List.argmax_eq_none

theorem mem_of_newest (h : newest time rows = some e) : e ∈ rows := List.argmax_mem h

theorem le_newest (h : newest time rows = some e) (hrow : row ∈ rows) : time row ≤ time e :=
  List.le_of_mem_argmax hrow h

theorem newest_append_of_lt (h : ∀ row ∈ rows, time row < time e) :
    newest time (rows ++ [e]) = some e := by
  unfold newest
  rw [List.argmax_concat]
  cases hc : rows.argmax time with
  | none => rfl
  | some c => exact if_pos (h c (List.argmax_mem hc))

theorem newest_append_of_le (h : newest time rows = some e) (hrow : time row ≤ time e) :
    newest time (rows ++ [row]) = some e := by
  unfold newest at h ⊢
  rw [List.argmax_concat, h]
  exact if_neg (not_lt_of_ge hrow)

theorem newest_eq_some_iff (h : ∀ a ∈ rows, ∀ b ∈ rows, time a = time b → a = b) :
    newest time rows = some e ↔ e ∈ rows ∧ ∀ row ∈ rows, time row ≤ time e := by
  constructor
  · exact fun he => ⟨mem_of_newest he, fun row hrow => le_newest he hrow⟩
  · rintro ⟨hmem, hle⟩
    cases he : newest time rows with
    | none => rw [newest_eq_none.mp he] at hmem; cases hmem
    | some e' =>
      have hmem' := mem_of_newest he
      exact congrArg some (h _ hmem' _ hmem (le_antisymm (hle _ hmem') (le_newest he hmem)))

end Newest

end Concord.Base
