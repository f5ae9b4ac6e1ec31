import Mathlib.Data.List.Sort
import Mathlib.Data.List.TakeWhile
import Mathlib.Order.Lattice

/-!
# The newest of the best

Of rows that are listed newest first, `best` is the first one of the lowest rank. Rows of one
time may come in any order, so which row that is depends on the listing; which ones it may be
does not (`best_iff`), and rows that are outranked make no difference (`Leads.of_agree`).
-/

namespace Concord.Base

variable {α τ : Type*} [LinearOrder τ] {rank : α → Nat} {time : α → τ} {rows rows' : List α}
  {e : α}

def best (rank : α → Nat) (rows : List α) : Option α :=
  (rows.map rank).min?.bind fun least => rows.find? fun row => rank row = least

/-- The order of a listing that has the newest first. -/
def NotOlder (time : α → τ) (a b : α) : Prop := time b ≤ time a

instance (time : α → τ) : DecidableRel (NotOlder time) :=
  fun a b => inferInstanceAs (Decidable (time b ≤ time a))

instance (time : α → τ) : Std.Total (NotOlder time) := ⟨fun a b => le_total (time b) (time a)⟩

instance (time : α → τ) : IsTrans α (NotOlder time) := ⟨fun _ _ _ h h' => le_trans h' h⟩

/-- A listing of the rows, newest first. -/
structure Listing (time : α → τ) (rows listed : List α) : Prop where
  perm : listed.Perm rows
  newestFirst : listed.Pairwise (NotOlder time)

/-- Nothing outranks the row, and nothing of its rank is newer. -/
structure Leads (rank : α → Nat) (time : α → τ) (rows : List α) (e : α) : Prop where
  mem : e ∈ rows
  least : ∀ row ∈ rows, rank e ≤ rank row
  newest : ∀ row ∈ rows, rank row = rank e → time row ≤ time e

theorem best_eq_some : best rank rows = some e ↔
    (∀ row ∈ rows, rank e ≤ rank row) ∧
      (rows.find? fun row => rank row = rank e) = some e := by
  unfold best
  rw [Option.bind_eq_some_iff]
  constructor
  · rintro ⟨least, hleast, hfind⟩
    obtain rfl : rank e = least := by simpa using List.find?_some hfind
    rw [List.min?_eq_some_iff] at hleast
    exact ⟨fun row hrow => hleast.2 _ (List.mem_map_of_mem hrow), hfind⟩
  · rintro ⟨hleast, hfind⟩
    refine ⟨rank e, List.min?_eq_some_iff.mpr ⟨?_, ?_⟩, hfind⟩
    · exact List.mem_map_of_mem (List.mem_of_find?_eq_some hfind)
    · exact List.forall_mem_map.mpr hleast

theorem best_of_mem (rank : α → Nat) {row : α} (h : row ∈ rows) :
    ∃ e, best rank rows = some e := by
  have hmem : rank row ∈ rows.map rank := List.mem_map_of_mem h
  obtain ⟨least, hleast⟩ := Option.isSome_iff_exists.mp (List.isSome_min?_of_mem hmem)
  obtain ⟨row', hrow', hrank⟩ := List.mem_map.mp (List.min?_eq_some_iff.mp hleast).1
  have hfind : (rows.find? fun row => rank row = least).isSome = true :=
    List.find?_isSome.mpr ⟨row', hrow', decide_eq_true hrank⟩
  obtain ⟨e, he⟩ := Option.isSome_iff_exists.mp hfind
  exact ⟨e, Option.bind_eq_some_iff.mpr ⟨least, hleast, he⟩⟩

theorem Listing.leads {listed : List α} (h : Listing time rows listed)
    (he : best rank listed = some e) : Leads rank time rows e := by
  obtain ⟨hleast, hfind⟩ := best_eq_some.mp he
  refine ⟨h.perm.mem_iff.mp (List.mem_of_find?_eq_some hfind),
    fun row hrow => hleast row (h.perm.mem_iff.mpr hrow), fun row hrow hrank => ?_⟩
  obtain ⟨-, as, bs, rfl, has⟩ := List.find?_eq_some_iff_append.mp hfind
  have hsorted := (List.pairwise_append.mp h.newestFirst).2.1
  obtain hmem | hmem := List.mem_append.mp (h.perm.mem_iff.mpr hrow)
  · exact absurd hrank (by simpa using has row hmem)
  · obtain rfl | hmem := List.mem_cons.mp hmem
    · exact le_rfl
    · exact (List.pairwise_cons.mp hsorted).1 row hmem

theorem Leads.listing (h : Leads rank time rows e) :
    ∃ listed, Listing time rows listed ∧ best rank listed = some e := by
  obtain ⟨as, bs, rfl⟩ := List.append_of_mem h.mem
  have hperm : ((e :: (as ++ bs)).insertionSort (NotOlder time)).Perm (as ++ e :: bs) :=
    (List.perm_insertionSort _ _).trans List.perm_middle.symm
  refine ⟨_, ⟨hperm, List.pairwise_insertionSort _ _⟩, best_eq_some.mpr ⟨?_, ?_⟩⟩
  · exact fun row hrow => h.least row (hperm.mem_iff.mp hrow)
  · rw [List.insertionSort_cons_eq_take_drop] at hperm ⊢
    refine List.find?_eq_some_iff_append.mpr ⟨decide_eq_true rfl, _, _, rfl, fun row hrow => ?_⟩
    -- what comes before it is newer, so it is not of its rank
    have holder := List.mem_takeWhile_imp hrow
    have hmem := hperm.mem_iff.mp (List.mem_append_left _ hrow)
    have hne : rank row ≠ rank e := fun hrank => of_decide_eq_true holder (h.newest row hmem hrank)
    simpa using hne

/-- **What may be found.** -/
theorem best_iff : (∃ listed, Listing time rows listed ∧ best rank listed = some e) ↔
    Leads rank time rows e :=
  ⟨fun ⟨_, hlisted, he⟩ => hlisted.leads he, Leads.listing⟩

/-- Where the rows of two lists are the same down to a rank, and there is one, what leads in
the one leads in the other. -/
theorem Leads.of_agree {lowest : Nat} (hsome : ∃ row ∈ rows, rank row ≤ lowest)
    (hagree : ∀ row, rank row ≤ lowest → (row ∈ rows ↔ row ∈ rows'))
    (h : Leads rank time rows e) : Leads rank time rows' e := by
  obtain ⟨row, hrow, hlowest⟩ := hsome
  have he : rank e ≤ lowest := (h.least row hrow).trans hlowest
  refine ⟨(hagree e he).mp h.mem, fun row' hrow' => ?_, fun row' hrow' hrank => ?_⟩
  · by_contra hlt
    have hle : rank row' ≤ lowest := (Nat.le_of_not_le hlt).trans he
    exact hlt (h.least row' ((hagree row' hle).mpr hrow'))
  · exact h.newest row' ((hagree row' (hrank ▸ he)).mpr hrow') hrank

end Concord.Base
