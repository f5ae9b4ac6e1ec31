import Concord.Base.Slots
import Concord.Cci.Service
import Mathlib.Data.List.Dedup

/-!
# When a load converges

A list that is not the one stored takes the place of what is stored where the database takes all
of it and it leaves none of the stored CCIs out: `Writable`. The one that is stored is not read
again, so it has to resolve as it did (`SameAnswers`). `loads_iff` puts both together for every
run of loads.
-/

namespace Concord.Cci

open Concord.Base Concord.Python

section List

variable {list : CciList} {stored : List CciItemRow} {cci : Text} {i j : CciItem}

theorem last_eq_some (h : list.last cci = some i) : i ∈ list.items ∧ i.cci = cci := by
  refine ⟨List.mem_reverse.mp (List.mem_of_find?_eq_some h), ?_⟩
  simpa using List.find?_some h

theorem exists_last (h : i ∈ list.items) : ∃ j, list.last i.cci = some j := by
  refine Option.isSome_iff_exists.mp (List.find?_isSome.mpr ⟨i, List.mem_reverse.mpr h, ?_⟩)
  exact decide_eq_true rfl

theorem mem_fresh : i ∈ list.fresh stored ↔
    i ∈ list.items ∧ i.cci ∉ stored.map CciItemRow.cci := by
  rw [CciList.fresh, List.mem_filter, decide_eq_true_iff]

theorem rows_cci : (list.rows stored).map CciItemRow.cci =
    stored.map CciItemRow.cci ++ (list.fresh stored).map CciItem.cci := by
  rw [CciList.rows, List.map_append, List.map_map, List.map_map]
  congr 1
  · refine List.map_congr_left fun r _ => ?_
    show (((list.last r.cci).map fun i => i.row list r.id).getD r).cci = r.cci
    cases hlast : list.last r.cci with
    | none => rfl
    | some i => exact (last_eq_some hlast).2
  · calc ((list.fresh stored).zipIdx stored.length).map (CciItemRow.cci ∘ fun p => p.1.row list p.2)
        = (((list.fresh stored).zipIdx stored.length).map Prod.fst).map CciItem.cci := by
          rw [List.map_map]
          rfl
      _ = (list.fresh stored).map CciItem.cci := by rw [List.zipIdx_map_fst]

theorem rows_id (h : stored.map CciItemRow.id = List.range stored.length) :
    (list.rows stored).map CciItemRow.id = List.range (list.rows stored).length := by
  have hold : (stored.map fun r => ((list.last r.cci).map fun i => i.row list r.id).getD r).map
      CciItemRow.id = stored.map CciItemRow.id := by
    rw [List.map_map]
    refine List.map_congr_left fun r _ => ?_
    show (((list.last r.cci).map fun i => i.row list r.id).getD r).id = r.id
    cases list.last r.cci <;> rfl
  have hnew : (((list.fresh stored).zipIdx stored.length).map fun p => p.1.row list p.2).map
      CciItemRow.id = List.range' stored.length (list.fresh stored).length := by
    rw [List.map_map]
    exact List.zipIdx_map_snd stored.length (list.fresh stored)
  rw [CciList.rows, List.map_append, hold, hnew, h, List.range_eq_range', List.range_eq_range',
    List.length_append, List.length_map, List.length_map, List.length_zipIdx,
    ← List.range'_append_1, Nat.zero_add]

theorem rows_nodup (h : (stored.map CciItemRow.cci).Nodup) :
    ((list.rows stored).map CciItemRow.cci).Nodup ↔
      ((list.fresh stored).map CciItem.cci).Nodup := by
  rw [rows_cci, List.nodup_append]
  constructor
  · exact fun hrows => hrows.2.1
  · refine fun hfresh => ⟨h, hfresh, fun a ha b hb hab => ?_⟩
    obtain ⟨i, hi, rfl⟩ := List.mem_map.mp hb
    exact (mem_fresh.mp hi).2 (hab ▸ ha)

theorem exists_row (h : i ∈ list.items) : ∃ row ∈ list.rows stored, row.cci = i.cci := by
  have hmem : i.cci ∈ (list.rows stored).map CciItemRow.cci := by
    rw [rows_cci, List.mem_append]
    by_cases hold : i.cci ∈ stored.map CciItemRow.cci
    · exact .inl hold
    · exact .inr (List.mem_map_of_mem (mem_fresh.mpr ⟨h, hold⟩))
  exact List.mem_map.mp hmem

theorem row_eq_last (hnodup : ((list.rows stored).map CciItemRow.cci).Nodup) {row : CciItemRow}
    (hrow : row ∈ list.rows stored) (hlast : list.last row.cci = some j) :
    row = j.row list row.id := by
  obtain hrow | hrow := List.mem_append.mp hrow
  · obtain ⟨r, -, rfl⟩ := List.mem_map.mp hrow
    cases hr : list.last r.cci with
    | none =>
      rw [hr] at hlast
      cases hr.symm.trans hlast
    | some i =>
      rw [hr] at hlast
      have hlast : list.last i.cci = some j := hlast
      rw [(last_eq_some hr).2, hr, Option.some.injEq] at hlast
      rw [← hlast]
      rfl
  · obtain ⟨⟨i, k⟩, hi, rfl⟩ := List.mem_map.mp hrow
    have hfresh : ((list.fresh stored).map CciItem.cci).Nodup := by
      rw [rows_cci, List.nodup_append] at hnodup
      exact hnodup.2.1
    have hi : i ∈ list.fresh stored := (List.mem_zipIdx hi).2.2 ▸ List.getElem_mem _
    obtain ⟨hj, hcci⟩ := last_eq_some hlast
    have hj : j ∈ list.fresh stored := by
      refine mem_fresh.mpr ⟨hj, ?_⟩
      rw [hcci]
      exact (mem_fresh.mp hi).2
    rw [List.inj_on_of_nodup_map hfresh hj hi hcci]
    rfl

theorem last_of_touched (hnodup : ((list.rows stored).map CciItemRow.cci).Nodup) {row : CciItemRow}
    (hrow : row ∈ list.touched stored) :
    ∃ j, list.last row.cci = some j ∧ row = j.row list row.id := by
  obtain ⟨hrow, hcci⟩ := List.mem_filter.mp hrow
  obtain ⟨i, hi, hcci⟩ := List.mem_map.mp (of_decide_eq_true hcci)
  obtain ⟨j, hj⟩ := exists_last hi
  rw [hcci] at hj
  exact ⟨j, hj, row_eq_last hnodup hrow hj⟩

theorem rowIds_nodup (h : stored.map CciItemRow.id = List.range stored.length) :
    ((list.rows stored).map CciItemRow.id).Nodup :=
  (rows_id h).symm ▸ List.nodup_range

theorem touched_eq_rows (h : ∀ row ∈ stored, row.cci ∈ list.items.map CciItem.cci) :
    list.touched stored = list.rows stored := by
  refine List.filter_eq_self.mpr fun row hrow => decide_eq_true ?_
  have hmem : row.cci ∈ (list.rows stored).map CciItemRow.cci := List.mem_map_of_mem hrow
  rw [rows_cci, List.mem_append] at hmem
  obtain hmem | hmem := hmem
  · obtain ⟨r, hr, heq⟩ := List.mem_map.mp hmem
    exact heq ▸ h r hr
  · obtain ⟨i, hi, heq⟩ := List.mem_map.mp hmem
    exact heq ▸ List.mem_map_of_mem (mem_fresh.mp hi).1

end List

/-! ## The second pass -/

def idOf (rows : List CciItemRow) (cci : Text) : Nat :=
  ((rows.find? fun r => r.cci = cci).map CciItemRow.id).getD 0

section References

variable {lib : Library} {catalog : OscalCatalog} {list : CciList} {rows : List CciItemRow}

theorem idOf_row (hnodup : (rows.map CciItemRow.cci).Nodup) {row : CciItemRow} (h : row ∈ rows) :
    idOf rows row.cci = row.id := by
  rw [idOf, Base.find_of_nodup hnodup h]
  rfl

theorem newRefs_eq (h : ∀ i ∈ list.items, ∃ row ∈ rows, row.cci = i.cci) :
    newRefs lib catalog list rows = list.items.flatMap fun i => i.references.map fun r =>
      ⟨idOf rows i.cci, r.revision, r.rawIndex, resolveIn lib catalog r⟩ := by
  refine List.flatMap_congr fun i hi => ?_
  obtain ⟨row, hrow, hcci⟩ := h i hi
  cases hfind : rows.find? fun r => r.cci = i.cci with
  | none => exact absurd (List.find?_eq_none.mp hfind row hrow) (by simpa using hcci)
  | some row =>
    have hid : idOf rows i.cci = row.id := by rw [idOf, hfind, Option.map_some, Option.getD_some]
    rw [hid]

def CciList.keys (list : CciList) : List (Text × Text × Text) :=
  list.items.flatMap fun i => i.references.map fun r => (i.cci, r.revision, r.rawIndex)

theorem newRefs_keys (h : ∀ i ∈ list.items, ∃ row ∈ rows, row.cci = i.cci) :
    (newRefs lib catalog list rows).map CciControlRef.key =
      list.keys.map fun k => (idOf rows k.1, k.2) := by
  rw [newRefs_eq h, CciList.keys, List.map_flatMap, List.map_flatMap]
  refine List.flatMap_congr fun i _ => ?_
  rw [List.map_map, List.map_map]
  rfl

theorem newRefs_nodup (h : ∀ i ∈ list.items, ∃ row ∈ rows, row.cci = i.cci)
    (hnodup : (rows.map CciItemRow.cci).Nodup) (hids : (rows.map CciItemRow.id).Nodup) :
    ((newRefs lib catalog list rows).map CciControlRef.key).Nodup ↔ list.keys.Nodup := by
  rw [newRefs_keys h]
  refine ⟨List.Nodup.of_map _, fun hkeys => hkeys.map_on fun x hx y hy hxy => ?_⟩
  have hrow : ∀ k ∈ list.keys, ∃ row ∈ rows, row.cci = k.1 := by
    intro k hk
    obtain ⟨i, hi, hk⟩ := List.mem_flatMap.mp hk
    obtain ⟨r, -, rfl⟩ := List.mem_map.mp hk
    exact h i hi
  obtain ⟨row, hrow₁, hcci₁⟩ := hrow x hx
  obtain ⟨row', hrow₂, hcci₂⟩ := hrow y hy
  obtain ⟨hid, hrest⟩ := Prod.mk.inj hxy
  rw [← hcci₁, ← hcci₂, idOf_row hnodup hrow₁, idOf_row hnodup hrow₂] at hid
  obtain rfl := List.inj_on_of_nodup_map hids hrow₁ hrow₂ hid
  exact Prod.ext (hcci₁.symm.trans hcci₂) hrest

end References

/-! ## What is returned -/

section Queries

variable {lib : Library} {catalog : OscalCatalog} {list : CciList} {t : Tables}
  {control revision cci : Text} {c : CciCoverage}

theorem mem_refsOf {row : CciItemRow} {r : CciControlRef} :
    r ∈ t.refsOf row revision ↔ r ∈ t.refs ∧ r.cciId = row.id ∧ r.revision = revision := by
  rw [Tables.refsOf, List.mem_filter, decide_eq_true_iff]

theorem mem_ccisForControl : c ∈ t.ccisForControl control revision ↔
    ∃ row ∈ t.items, ∃ r ∈ t.refs, r.cciId = row.id ∧ r.revision = revision ∧
      r.resolved.canonicalControl = some control ∧
        c = ⟨row.cci, row.status, row.type, row.definition, r.rawIndex,
          r.resolved.oscalPartId⟩ := by
  rw [Tables.ccisForControl, List.mem_insertionSort, List.mem_flatMap]
  refine exists_congr fun row => and_congr_right fun _ => ?_
  rw [List.mem_map]
  constructor
  · rintro ⟨r, hr, rfl⟩
    obtain ⟨hr, hcontrol⟩ := List.mem_filter.mp hr
    obtain ⟨hr, hid, hrevision⟩ := mem_refsOf.mp hr
    exact ⟨r, hr, hid, hrevision, of_decide_eq_true hcontrol, rfl⟩
  · rintro ⟨r, hr, hid, hrevision, hcontrol, rfl⟩
    exact ⟨r, List.mem_filter.mpr ⟨mem_refsOf.mpr ⟨hr, hid, hrevision⟩,
      decide_eq_true hcontrol⟩, rfl⟩

theorem mem_controlsForCci : control ∈ t.controlsForCci cci revision ↔
    control ≠ [] ∧ ∃ c ∈ t.ccisForControl control revision, c.cci = cci := by
  rw [Tables.controlsForCci, Packs.Catalog.sorted, List.mem_insertionSort, List.mem_dedup,
    List.mem_filter, decide_eq_true_iff, and_comm, List.mem_flatMap]
  refine and_congr_right fun _ => ?_
  constructor
  · rintro ⟨row, hrow, hr⟩
    obtain ⟨hrow, hcci⟩ := List.mem_filter.mp hrow
    obtain ⟨r, hr, hcontrol⟩ := List.mem_filterMap.mp hr
    obtain ⟨hr, hid, hrevision⟩ := mem_refsOf.mp hr
    exact ⟨_, mem_ccisForControl.mpr ⟨row, hrow, r, hr, hid, hrevision, hcontrol, rfl⟩,
      of_decide_eq_true hcci⟩
  · rintro ⟨c, hc, hcci⟩
    obtain ⟨row, hrow, r, hr, hid, hrevision, hcontrol, rfl⟩ := mem_ccisForControl.mp hc
    exact ⟨row, List.mem_filter.mpr ⟨hrow, decide_eq_true hcci⟩,
      List.mem_filterMap.mpr ⟨r, mem_refsOf.mpr ⟨hr, hid, hrevision⟩, hcontrol⟩⟩

theorem refers_iff : Refers lib catalog list cci revision control ↔
    ∃ c, Covers lib catalog list control revision c ∧ c.cci = cci := by
  constructor
  · rintro ⟨i, hi, rfl, r, hr, hrevision, hcontrol⟩
    exact ⟨_, ⟨i, hi, r, hr, hrevision, hcontrol, rfl⟩, rfl⟩
  · rintro ⟨c, ⟨i, hi, r, hr, hrevision, hcontrol, rfl⟩, rfl⟩
    exact ⟨i, hi, rfl, r, hr, hrevision, hcontrol⟩

theorem absorb_ne_nil (lib : Library) (ids : List Text) (tokens : List Text) :
    ∀ {canonical : Text}, canonical ≠ [] → (absorb lib ids canonical tokens).1 ≠ [] := by
  induction tokens with
  | nil => exact fun h => h
  | cons token tokens ih =>
    intro canonical h
    unfold absorb
    split
    · exact h
    · dsimp only
      split
      · exact ih (List.append_ne_nil_of_left_ne_nil (List.append_ne_nil_of_left_ne_nil h _) _)
      · exact h

theorem canonicalize_ne_nil {raw : Text} {id : Packs.Catalog.CanonicalId}
    (h : Packs.Catalog.canonicalize raw = some id) : id.value ≠ [] := by
  unfold Packs.Catalog.canonicalize at h
  split at h
  · split at h
    · simp only [Option.bind_eq_bind, Option.bind_eq_some_iff, Option.pure_def,
        Option.some.injEq] at h
      obtain ⟨number, -, enhancements, -, rfl⟩ := h
      exact List.cons_ne_nil _ _
    · cases h
  · cases h

theorem resolveIn_ne_nil {r : CciReference}
    (h : (resolveIn lib catalog r).canonicalControl = some control) : control ≠ [] := by
  unfold resolveIn resolveReference at h
  split at h
  · cases h
  · split at h
    · cases h
    · rename_i base hbase
      split at h
      · rw [← Option.some.inj h]
        exact absorb_ne_nil lib _ _ (canonicalize_ne_nil hbase)
      · cases h

theorem converged_iff : Converged lib catalog list t ↔ ∀ control revision c,
    c ∈ t.ccisForControl control revision ↔ Covers lib catalog list control revision c := by
  refine ⟨Converged.ccis, fun h => ⟨h, fun cci revision control => ?_⟩⟩
  rw [mem_controlsForCci, refers_iff]
  simp only [h]
  refine and_iff_right_of_imp ?_
  rintro ⟨c, ⟨i, -, r, -, -, hcontrol, -⟩, -⟩
  exact resolveIn_ne_nil hcontrol

end Queries

/-! ## A list that is written -/

section Written

variable (lib : Library) (catalog : OscalCatalog) (list : CciList)

/-- Where a CCI is listed more than once, the entries that resolve to a control say of it what
the last one says. -/
def Agreeing : Prop :=
  ∀ i ∈ list.items, ∀ r ∈ i.references, (resolveIn lib catalog r).canonicalControl.isSome = true →
    ∀ j, list.last i.cci = some j →
      j.status = i.status ∧ j.type = i.type ∧ j.definition = i.definition

/-- The database takes all of the list, and nothing that is stored is left out of it. -/
structure Writable (stored : List CciItemRow) : Prop where
  items : ∀ i, list.last i.cci = some i → (i.row list 0).storable = true
  references : ∀ i ∈ list.items, ∀ r ∈ i.references,
    (CciControlRef.mk 0 r.revision r.rawIndex (resolveIn lib catalog r)).storable = true
  once : ((list.fresh stored).map CciItem.cci).Nodup
  distinct : list.keys.Nodup
  agreeing : Agreeing lib catalog list
  kept : ∀ row ∈ stored, row.cci ∈ list.items.map CciItem.cci

def Answered (control revision : Text) (c : CciCoverage) : Prop :=
  ∃ i ∈ list.items, ∃ r ∈ i.references, ∃ j, list.last i.cci = some j ∧ r.revision = revision ∧
    (resolveIn lib catalog r).canonicalControl = some control ∧ c = j.coverage lib catalog r

variable {lib catalog list}

theorem agreeing_iff : Agreeing lib catalog list ↔ ∀ control revision c,
    Answered lib catalog list control revision c ↔
      Covers lib catalog list control revision c := by
  constructor
  · intro hagree control revision c
    have hsame : ∀ i ∈ list.items, ∀ r ∈ i.references, ∀ j, list.last i.cci = some j →
        (resolveIn lib catalog r).canonicalControl = some control →
          j.coverage lib catalog r = i.coverage lib catalog r := by
      intro i hi r hr j hj hcontrol
      obtain ⟨hstatus, htype, hdefinition⟩ := hagree i hi r hr (by rw [hcontrol]; rfl) j hj
      unfold CciItem.coverage
      rw [hstatus, htype, hdefinition, (last_eq_some hj).2]
    constructor
    · rintro ⟨i, hi, r, hr, j, hj, hrevision, hcontrol, rfl⟩
      exact ⟨i, hi, r, hr, hrevision, hcontrol, hsame i hi r hr j hj hcontrol⟩
    · rintro ⟨i, hi, r, hr, hrevision, hcontrol, rfl⟩
      obtain ⟨j, hj⟩ := exists_last hi
      exact ⟨i, hi, r, hr, j, hj, hrevision, hcontrol, (hsame i hi r hr j hj hcontrol).symm⟩
  · intro h i hi r hr hsome j hj
    obtain ⟨control, hcontrol⟩ := Option.isSome_iff_exists.mp hsome
    obtain ⟨i', -, r', -, j', hj', -, -, hc⟩ :=
      (h control r.revision _).mpr ⟨i, hi, r, hr, rfl, hcontrol, rfl⟩
    obtain ⟨hcci, hstatus, htype, hdefinition, -⟩ := CciCoverage.mk.inj hc
    rw [← (last_eq_some hj').2, ← hcci, hj] at hj'
    obtain rfl := Option.some.inj hj'
    exact ⟨hstatus.symm, htype.symm, hdefinition.symm⟩

theorem coverage_of_row {row : CciItemRow} {j : CciItem} {id : Nat} (hrow : row = j.row list id)
    (r : CciReference) :
    (⟨row.cci, row.status, row.type, row.definition, r.rawIndex,
      (resolveIn lib catalog r).oscalPartId⟩ : CciCoverage) = j.coverage lib catalog r := by
  rw [hrow]
  rfl

theorem answered_iff {stored : List CciItemRow}
    (hids : stored.map CciItemRow.id = List.range stored.length)
    (hnodup : ((list.rows stored).map CciItemRow.cci).Nodup) {control revision : Text}
    {c : CciCoverage} :
    c ∈ Tables.ccisForControl ⟨list.rows stored, newRefs lib catalog list (list.rows stored)⟩
        control revision ↔ Answered lib catalog list control revision c := by
  have hrows : ∀ i ∈ list.items, ∃ row ∈ list.rows stored, row.cci = i.cci :=
    fun i hi => exists_row hi
  have hrowIds : ((list.rows stored).map CciItemRow.id).Nodup :=
    rowIds_nodup hids
  rw [mem_ccisForControl]
  constructor
  · rintro ⟨row, hrow, ref, href, hid, hrevision, hcontrol, rfl⟩
    rw [newRefs_eq hrows] at href
    obtain ⟨i, hi, href⟩ := List.mem_flatMap.mp href
    obtain ⟨r, hr, rfl⟩ := List.mem_map.mp href
    obtain ⟨row', hrow', hcci⟩ := hrows i hi
    -- the reference is of the row of its own entry
    have hid : row'.id = row.id := by
      rw [← idOf_row hnodup hrow', hcci]
      exact hid
    obtain rfl := List.inj_on_of_nodup_map hrowIds hrow' hrow hid
    obtain ⟨j, hj⟩ := exists_last hi
    have heq := row_eq_last hnodup hrow (hcci ▸ hj)
    exact ⟨i, hi, r, hr, j, hj, hrevision, hcontrol, coverage_of_row heq r⟩
  · rintro ⟨i, hi, r, hr, j, hj, hrevision, hcontrol, rfl⟩
    obtain ⟨row, hrow, hcci⟩ := hrows i hi
    have heq := row_eq_last hnodup hrow (hcci ▸ hj)
    refine ⟨row, hrow, ⟨idOf (list.rows stored) i.cci, r.revision, r.rawIndex,
      resolveIn lib catalog r⟩, ?_, ?_, hrevision, hcontrol, (coverage_of_row heq r).symm⟩
    · rw [newRefs_eq hrows]
      exact List.mem_flatMap.mpr ⟨i, hi, List.mem_map_of_mem hr⟩
    · show idOf (list.rows stored) i.cci = row.id
      rw [← hcci]
      exact idOf_row hnodup hrow

end Written

/-! ## One load -/

section Load

variable {lib : Library} {catalog : OscalCatalog} {list : CciList} {s s' : Sys}

/-- What every state of a run is like: rows are numbered and have a CCI each, and where there are
some, they are of the list that was written last. -/
structure Inv (lib : Library) (s : Sys) : Prop where
  ids : s.tables.items.map CciItemRow.id = List.range s.tables.items.length
  ccis : (s.tables.items.map CciItemRow.cci).Nodup
  refs : ∀ r ∈ s.tables.refs, r.cciId < s.tables.items.length
  unwritten : s.last = none → s.tables.items = []
  written : ∀ list catalog, s.last = some (list, catalog) →
    Converged lib catalog list s.tables ∧ list.unchanged s.tables.items = true

theorem inv_start (lib : Library) : Inv lib start where
  ids := rfl
  ccis := List.nodup_nil
  refs := fun _ h => (nomatch h)
  unwritten := fun _ => rfl
  written := fun _ _ h => (nomatch h)

/-- Both lists come to the same, against their catalogs. -/
def SameAnswers (lib : Library) (list : CciList) (catalog : OscalCatalog) (list' : CciList)
    (catalog' : OscalCatalog) : Prop :=
  ∀ control revision c, Covers lib catalog list control revision c ↔
    Covers lib catalog' list' control revision c

/-- A list that is taken for the stored one comes to what that one came to, and any other can be
written over what is stored. -/
def Loadable (lib : Library) (s : Sys) : Action → Prop
  | .load body catalog => ∀ list, readCciHtml lib body = some list →
      (list.unchanged s.tables.items = true → ∃ list' catalog', s.last = some (list', catalog') ∧
        SameAnswers lib list' catalog' list catalog) ∧
      (list.unchanged s.tables.items = false → Writable lib catalog list s.tables.items)

theorem unchanged_iff {items : List CciItemRow} : list.unchanged items = true ↔
    items ≠ [] ∧ ∀ row ∈ items, row.sourceSha256 = list.sourceSha256 := by
  cases items <;> simp [CciList.unchanged]

variable (lib catalog) in
theorem load_unchanged {t : Tables} (h : list.unchanged t.items = true) :
    ∃ r, loadCciList lib catalog list t = some (t, r) ∧ r.skippedUnchanged = true := by
  rw [loadCciList, if_pos h]
  exact ⟨_, rfl, rfl⟩

theorem unchanged_of_skipped {t t' : Tables} {r : LoadResult}
    (h : loadCciList lib catalog list t = some (t', r)) (hskip : r.skippedUnchanged = true) :
    list.unchanged t.items = true := by
  unfold loadCciList at h
  split at h
  · rename_i hunchanged
    exact hunchanged
  · dsimp only at h
    split at h
    · obtain ⟨-, rfl⟩ := Prod.mk.inj (Option.some.inj h)
      cases hskip
    · cases h

/-- What a load has written, and what it was checked for. -/
structure Stored (lib : Library) (catalog : OscalCatalog) (list : CciList) (t t' : Tables) :
    Prop where
  items : t'.items = list.rows t.items
  refs : t'.refs =
    (t.refs.filter fun r => r.cciId ∉ (list.touched t.items).map CciItemRow.id) ++
      newRefs lib catalog list (list.rows t.items)
  takesItems : ∀ row ∈ list.touched t.items, row.storable = true
  once : ((list.rows t.items).map CciItemRow.cci).Nodup
  takesRefs : ∀ r ∈ newRefs lib catalog list (list.rows t.items), r.storable = true
  distinct : (t'.refs.map CciControlRef.key).Nodup

theorem load_changed {t t' : Tables} (h : list.unchanged t.items = false) :
    (∃ r, loadCciList lib catalog list t = some (t', r)) ↔ Stored lib catalog list t t' := by
  rw [loadCciList, if_neg (by rw [h]; exact Bool.false_ne_true)]
  dsimp only
  constructor
  · rintro ⟨r, hload⟩
    split at hload
    · rename_i hchecks
      obtain ⟨hitems, honce, hrefs, hdistinct⟩ := hchecks
      obtain ⟨rfl, -⟩ := Prod.mk.inj (Option.some.inj hload)
      exact ⟨rfl, rfl, List.all_eq_true.mp hitems, honce, List.all_eq_true.mp hrefs, hdistinct⟩
    · cases hload
  · intro hstored
    obtain ⟨items, refs⟩ := t'
    obtain ⟨rfl, rfl, hitems, honce, hrefs, hdistinct⟩ := hstored
    rw [if_pos ⟨List.all_eq_true.mpr hitems, honce, List.all_eq_true.mpr hrefs, hdistinct⟩]
    exact ⟨_, rfl⟩

theorem refs_of_kept (h : Inv lib s)
    (hkept : ∀ row ∈ s.tables.items, row.cci ∈ list.items.map CciItem.cci) :
    (s.tables.refs.filter fun r => r.cciId ∉ (list.touched s.tables.items).map CciItemRow.id) =
      [] := by
  refine List.filter_eq_nil_iff.mpr fun r hr => ?_
  rw [decide_eq_true_iff, not_not, touched_eq_rows hkept, rows_id h.ids, List.mem_range]
  refine Nat.lt_of_lt_of_le (h.refs r hr) ?_
  rw [CciList.rows, List.length_append, List.length_map]
  exact Nat.le_add_right _ _

theorem unchanged_rows (hkept : ∀ row ∈ s.tables.items, row.cci ∈ list.items.map CciItem.cci)
    (hnodup : ((list.rows s.tables.items).map CciItemRow.cci).Nodup) :
    list.unchanged (list.rows s.tables.items) = true := by
  refine unchanged_iff.mpr ⟨fun hnil => ?_, fun row hrow => ?_⟩
  · obtain ⟨i, hi⟩ := List.exists_mem_of_ne_nil _ list.nonempty
    obtain ⟨row, hrow, -⟩ := @exists_row _ s.tables.items _ hi
    rw [hnil] at hrow
    cases hrow
  · rw [← touched_eq_rows hkept] at hrow
    obtain ⟨j, -, heq⟩ := last_of_touched hnodup hrow
    rw [heq]
    rfl

theorem stored_of_writable (h : Inv lib s) (hw : Writable lib catalog list s.tables.items) :
    ∃ t, Stored lib catalog list s.tables t ∧ Converged lib catalog list t ∧
      list.unchanged t.items = true := by
  have hnodup := (rows_nodup h.ccis).mpr hw.once
  have hrows : ∀ i ∈ list.items, ∃ row ∈ list.rows s.tables.items, row.cci = i.cci :=
    fun i hi => exists_row hi
  have hids : ((list.rows s.tables.items).map CciItemRow.id).Nodup :=
    rowIds_nodup h.ids
  have hrefs := refs_of_kept h hw.kept
  refine ⟨⟨list.rows s.tables.items, newRefs lib catalog list (list.rows s.tables.items)⟩,
    ⟨rfl, by rw [hrefs, List.nil_append], ?_, hnodup, ?_, ?_⟩, ?_,
    unchanged_rows hw.kept hnodup⟩
  · intro row hrow
    obtain ⟨j, hj, heq⟩ := last_of_touched hnodup hrow
    rw [heq]
    exact hw.items j ((last_eq_some hj).2 ▸ hj)
  · intro ref href
    rw [newRefs_eq hrows] at href
    obtain ⟨i, hi, href⟩ := List.mem_flatMap.mp href
    obtain ⟨r, hr, rfl⟩ := List.mem_map.mp href
    exact hw.references i hi r hr
  · exact (newRefs_nodup hrows hnodup hids).mpr hw.distinct
  · exact converged_iff.mpr fun control revision c =>
      (answered_iff h.ids hnodup).trans (agreeing_iff.mp hw.agreeing control revision c)

theorem writable_of_stored (h : Inv lib s) (hchanged : list.unchanged s.tables.items = false)
    {t : Tables} (hstored : Stored lib catalog list s.tables t)
    (hconverged : Converged lib catalog list t) (hunchanged : list.unchanged t.items = true) :
    Writable lib catalog list s.tables.items := by
  have hnodup := hstored.once
  rw [hstored.items] at hunchanged
  have hkept : ∀ row ∈ s.tables.items, row.cci ∈ list.items.map CciItem.cci := by
    -- a row that is left out keeps its file, and so do all the others that are stored
    intro row hrow
    by_contra hout
    have hsame : row ∈ list.rows s.tables.items := by
      refine List.mem_append_left _ (List.mem_map.mpr ⟨row, hrow, ?_⟩)
      cases hlast : list.last row.cci with
      | none => rfl
      | some j =>
        obtain ⟨hj, hcci⟩ := last_eq_some hlast
        exact absurd (hcci ▸ List.mem_map_of_mem hj) hout
    have hsha := (unchanged_iff.mp hunchanged).2 row hsame
    cases hlast : s.last with
    | none =>
      rw [h.unwritten hlast] at hrow
      cases hrow
    | some last =>
      have hold := unchanged_iff.mp (h.written last.1 last.2 hlast).2
      have hall : list.unchanged s.tables.items = true :=
        unchanged_iff.mpr ⟨hold.1, fun r hr =>
          (hold.2 r hr).trans ((hold.2 row hrow).symm.trans hsha)⟩
      exact Bool.false_ne_true (hchanged.symm.trans hall)
  have hrows : ∀ i ∈ list.items, ∃ row ∈ list.rows s.tables.items, row.cci = i.cci :=
    fun i hi => exists_row hi
  have hids : ((list.rows s.tables.items).map CciItemRow.id).Nodup :=
    rowIds_nodup h.ids
  have hrefs : t.refs = newRefs lib catalog list (list.rows s.tables.items) := by
    rw [hstored.refs, refs_of_kept h hkept, List.nil_append]
  refine ⟨fun i hi => ?_, fun i hi r hr => ?_, (rows_nodup h.ccis).mp hnodup, ?_, ?_, hkept⟩
  · obtain ⟨row, hrow, hcci⟩ := hrows i (last_eq_some hi).1
    have heq := row_eq_last hnodup hrow (hcci ▸ hi)
    have htakes := hstored.takesItems row (touched_eq_rows hkept ▸ hrow)
    rw [heq] at htakes
    exact htakes
  · refine hstored.takesRefs
      ⟨idOf (list.rows s.tables.items) i.cci, r.revision, r.rawIndex, resolveIn lib catalog r⟩ ?_
    rw [newRefs_eq hrows]
    exact List.mem_flatMap.mpr ⟨i, hi, List.mem_map_of_mem hr⟩
  · exact (newRefs_nodup hrows hnodup hids).mp (hrefs ▸ hstored.distinct)
  · refine agreeing_iff.mpr fun control revision c => ?_
    rw [← answered_iff h.ids hnodup, ← hconverged.ccis]
    obtain ⟨items, refs⟩ := t
    obtain rfl := hstored.items
    obtain rfl := hrefs
    exact Iff.rfl

/-- **One load**: the condition is what the claim comes to. -/
theorem loads_iff_loadable (h : Inv lib s) (a : Action) : Loadable lib s a ↔ Loads lib s a := by
  obtain ⟨body, catalog⟩ := a
  refine forall_congr' fun list => imp_congr_right fun _ => ?_
  cases hunchanged : list.unchanged s.tables.items with
  | true =>
    obtain ⟨r, hload, hskip⟩ := load_unchanged lib catalog hunchanged
    have hlast : ∃ last, s.last = some last := by
      cases hlast : s.last with
      | none => exact absurd (h.unwritten hlast) (unchanged_iff.mp hunchanged).1
      | some last => exact ⟨last, rfl⟩
    obtain ⟨⟨list', catalog'⟩, hlast⟩ := hlast
    have hold := (h.written list' catalog' hlast).1
    constructor
    · rintro ⟨hsame, -⟩
      obtain ⟨list₁, catalog₁, hlast₁, hsame⟩ := hsame rfl
      obtain ⟨rfl, rfl⟩ := Prod.mk.inj (Option.some.inj (hlast.symm.trans hlast₁))
      exact ⟨s.tables, r, hload, converged_iff.mpr fun control revision c =>
        (hold.ccis control revision c).trans (hsame control revision c), r, hload, hskip⟩
    · rintro ⟨t, r', hload', hconverged, -⟩
      obtain ⟨rfl, -⟩ := Prod.mk.inj (Option.some.inj (hload.symm.trans hload'))
      refine ⟨fun _ => ⟨list', catalog', hlast, fun control revision c => ?_⟩,
        fun hfalse => Bool.noConfusion hfalse⟩
      exact (hold.ccis control revision c).symm.trans (hconverged.ccis control revision c)
  | false =>
    constructor
    · rintro ⟨-, hwritable⟩
      obtain ⟨t, hstored, hconverged, hdone⟩ := stored_of_writable h (hwritable rfl)
      obtain ⟨r, hload⟩ := (load_changed hunchanged).mpr hstored
      obtain ⟨r', hagain, hskip⟩ := load_unchanged lib catalog hdone
      exact ⟨t, r, hload, hconverged, r', hagain, hskip⟩
    · rintro ⟨t, r, hload, hconverged, r', hagain, hskip⟩
      refine ⟨fun htrue => Bool.noConfusion htrue, fun _ => ?_⟩
      exact writable_of_stored h hunchanged ((load_changed hunchanged).mp ⟨r, hload⟩) hconverged
        (unchanged_of_skipped hagain hskip)

/-- A load that does what is claimed leaves such a state. -/
theorem Inv.step (h : Inv lib s) {a : Action} (hloads : Loads lib s a)
    (hstep : step lib s a = some s') : Inv lib s' := by
  obtain ⟨body, catalog⟩ := a
  simp only [Cci.step] at hstep
  split at hstep
  · obtain rfl := Option.some.inj hstep
    exact h
  · rename_i list hread
    obtain ⟨t, r, hload, hconverged, r', hagain, hskip⟩ := hloads list hread
    rw [hload] at hstep
    obtain rfl := Option.some.inj hstep
    cases hunchanged : list.unchanged s.tables.items with
    | true =>
      obtain ⟨r₁, hload₁, hskip₁⟩ := load_unchanged lib catalog hunchanged
      obtain ⟨rfl, rfl⟩ := Prod.mk.inj (Option.some.inj (hload₁.symm.trans hload))
      rw [if_pos hskip₁]
      exact h
    | false =>
      have hstored := (load_changed hunchanged).mp ⟨r, hload⟩
      have hwritten : r.skippedUnchanged = false := by
        cases hr : r.skippedUnchanged with
        | false => rfl
        | true => exact absurd (unchanged_of_skipped hload hr) (by rw [hunchanged]; decide)
      have hdone := unchanged_of_skipped hagain hskip
      have hrefs := hstored.refs
      rw [refs_of_kept h (writable_of_stored h hunchanged hstored hconverged hdone).kept,
        List.nil_append] at hrefs
      have hids := @rows_id list _ h.ids
      rw [hwritten]
      refine ⟨?_, ?_, fun ref href => ?_, fun hnone => (nomatch hnone), ?_⟩
      · show t.items.map CciItemRow.id = _
        rw [hstored.items]
        exact hids
      · show (t.items.map CciItemRow.cci).Nodup
        rw [hstored.items]
        exact hstored.once
      · -- a new reference is of a row
        have href : ref ∈ t.refs := href
        rw [hrefs] at href
        obtain ⟨i, hi, href⟩ := List.mem_flatMap.mp href
        split at href
        · cases href
        · rename_i row hfind
          obtain ⟨q, -, rfl⟩ := List.mem_map.mp href
          have hmem : row.id ∈ (list.rows s.tables.items).map CciItemRow.id :=
            List.mem_map_of_mem (List.mem_of_find?_eq_some hfind)
          rw [hids] at hmem
          show row.id < t.items.length
          rw [hstored.items]
          exact List.mem_range.mp hmem
      · intro list' catalog' hlast
        obtain ⟨rfl, rfl⟩ := Prod.mk.inj (Option.some.inj hlast)
        exact ⟨hconverged, hdone⟩

end Load

/-- **The load converges** at every step of a run of loads exactly if every list that is read can
be loaded: one that is passed over comes to what the list written last came to, and any other
fits, repeats nothing that it may not, and leaves no stored CCI out. -/
theorem loads_iff (lib : Library) (as : List Action) :
    Guarded (step lib) (Loadable lib) start as ↔ Guarded (step lib) (Loads lib) start as := by
  constructor
  · refine Guarded.consequence (I := Inv lib) ?_ ?_ (inv_start lib)
    · exact fun s a s' h hg hstep => h.step ((loads_iff_loadable h a).mp hg) hstep
    · exact fun s a h hg => (loads_iff_loadable h a).mp hg
  · refine Guarded.consequence (I := Inv lib) ?_ ?_ (inv_start lib)
    · exact fun s a s' h hg hstep => h.step hg hstep
    · exact fun s a h hg => (loads_iff_loadable h a).mpr hg

/-! ## A list that is not loaded -/

def rowEvents (cells : List (List Event)) : List Event :=
  .startTag .tr :: cells.flatMap (fun cell => .startTag .td :: cell ++ [.endTag .td]) ++
    [.endTag .tr]

def referenceEvents (index : Text) : List Event :=
  rowEvents [[.data "NIST: ".toList, .startTag .a,
    .data "NIST SP 800-53 Revision 5 (v5)".toList, .endTag .a, .data (": ".toList ++ index)]]

def twiceReferred : Library where
  lower := List.map Char.toLower
  repr := id
  events := fun _ =>
    .startTag .table :: rowEvents [[.data "CCI:".toList], [.data "CCI-000001".toList]] ++
      referenceEvents "AC-1".toList ++ referenceEvents "AC-1".toList ++ [.endTag .table]

theorem twiceReferred_wellFormed :
    ∃ list, readCciHtml twiceReferred [] = some list ∧ ∀ i ∈ list.items, WellFormed i := by
  have hread : (readCciHtml twiceReferred []).isSome = true := by decide +kernel
  obtain ⟨list, hlist⟩ := Option.isSome_iff_exists.mp hread
  exact ⟨list, hlist, readCciHtml_wellFormed hlist⟩

/-- The list parses, and the second reference violates `uq_cci_ref`. -/
theorem repeated_reference :
    ¬ ∀ (lib : Library) (as : List Action), Guarded (step lib) (Loads lib) start as := by
  intro h
  obtain ⟨hloads, -⟩ := h twiceReferred [.load [] ⟨[]⟩]
  have hread : (readCciHtml twiceReferred []).isSome = true := by decide +kernel
  obtain ⟨list, hlist⟩ := Option.isSome_iff_exists.mp hread
  obtain ⟨t, r, hload, -⟩ := hloads list hlist
  have hrefused : ((readCciHtml twiceReferred []).bind fun list =>
      loadCciList twiceReferred ⟨[]⟩ list start.tables).isNone = true := by decide +kernel
  rw [hlist, Option.bind_some, hload] at hrefused
  cases hrefused

end Concord.Cci
