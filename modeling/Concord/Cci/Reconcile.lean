import Concord.Cci.RowIdentifiers
import Concord.Cci.Service
import Concord.Python.Dict
import Mathlib

/-!
# Reconciling the workbook with the list

`ccf/cci/reconcile.py`. The rows of a control, all together, are compared with what the list has
for it. `reconcile_exact_iff` says when the report is exact: a row has to be folded to the control
that it denotes.
-/

namespace Concord.Cci

open Concord.Python Concord.Packs.Catalog

/-! ## The report -/

/-- `_CCI.findall(value)`. -/
def findCcis : Nat → Text → List Text
  | 0, _ => []
  | _ + 1, [] => []
  | k + 1, c :: s =>
    let digits := ((c :: s).drop 4).take 6
    if "CCI-".toList.isPrefixOf (c :: s) ∧ digits.length = 6 ∧ digits.all isDecimal then
      ((c :: s).take 10) :: findCcis k ((c :: s).drop 10)
    else findCcis k s

/-- `parse_workbook_cci_value`. -/
def parseWorkbookCciValue (value : Option Text) : List Text :=
  match value with
  | none => []
  | some value => if strip value = [] then [] else findCcis value.length value

example : parseWorkbookCciValue (some "CCI-003624*; CCI-003615".toList) =
    ["CCI-003624".toList, "CCI-003615".toList] := by
  decide +kernel

/-- `RowFinding`. -/
structure RowFinding where
  rowIdentifier : Text
  workbookOnly : List Text

/-- `Disagreement`. -/
structure Disagreement where
  controlIdentifier : Text
  disaOnly : List Text
  rows : List RowFinding

/-- `sorted(a - b)`. -/
def sortedDiff (a b : List Text) : List Text := sorted (a.filter (· ∉ b))

/-- `compare_cci_sets`. -/
def compareCciSets (rowIdentifier : Text) (workbook disa : List Text) : Option RowFinding :=
  if workbook = [] then none
  else if sortedDiff workbook disa = [] then none
  else some ⟨rowIdentifier, sortedDiff workbook disa⟩

/-- A row of the workbook: an identifier, and its cell in the column of the CCIs. -/
abbrev WorkbookRow := Text × Option Text

/-- The controls of the Rev. 5 references, with the CCIs that refer to them. -/
def rev5Pairs (t : Tables) : List (Text × Text) :=
  t.refs.flatMap fun r =>
    (t.items.filter fun i => r.revision = "5".toList ∧ r.cciId = i.id).filterMap fun i =>
      r.resolved.canonicalControl.map fun control => (control, i.cci)

/-- The rows that have CCIs and are of a control, with the control. -/
def claims (rows : List WorkbookRow) : List (Text × Text × List Text) :=
  rows.filterMap fun row =>
    (foldToCanonical row.1).bind fun canonical =>
      let workbook := parseWorkbookCciValue row.2
      if workbook = [] then none else some (canonical.value, row.1, workbook)

def disagreement (rowValues : List (Text × List Text)) (disa : List Text) (control : Text) :
    Option Disagreement :=
  let disaOnly := sortedDiff disa (rowValues.flatMap Prod.snd)
  let rows := rowValues.filterMap fun row => compareCciSets row.1 row.2 disa
  if disaOnly = [] ∧ rows = [] then none else some ⟨control, disaOnly, rows⟩

/-- `reconcile_cci`. -/
def reconcileCci (t : Tables) (rows : List WorkbookRow) : List Disagreement :=
  let disa := Dict.collect Prod.fst Prod.snd (rev5Pairs t)
  let byControl := Dict.collect Prod.fst Prod.snd (claims rows)
  let controls := (byControl.items.map Prod.fst ++ disa.items.map Prod.fst).dedup
  (controls.filterMap fun control =>
    disagreement ((byControl.get? control).getD []) ((disa.get? control).getD [])
      control).insertionSort fun d e => Json.keyLe d.controlIdentifier e.controlIdentifier

/-! ## The report is exact -/

def disaCcis (t : Tables) (control : Text) : Set Text :=
  {cci | ∃ r ∈ t.refs, r.revision = "5".toList ∧ r.resolved.canonicalControl = some control ∧
    ∃ i ∈ t.items, r.cciId = i.id ∧ i.cci = cci}

/-- What the rows that denote a control have, all together. -/
def workbookCcis (rows : List WorkbookRow) (control : Text) : Set Text :=
  {cci | ∃ row ∈ rows, (denoted row.1).map CanonicalId.value = some control ∧
    cci ∈ parseWorkbookCciValue row.2}

/-- **An exact report**: of the controls of which the two differ, each once, with what only the one
or only the other has. -/
structure ReportExact (t : Tables) (rows : List WorkbookRow) (report : List Disagreement) : Prop where
  once : (report.map Disagreement.controlIdentifier).Nodup
  reported : ∀ control, control ∈ report.map Disagreement.controlIdentifier ↔
    (symmDiff (disaCcis t control) (workbookCcis rows control)).Nonempty
  ccis : ∀ d ∈ report, {cci | cci ∈ d.disaOnly ∨ ∃ f ∈ d.rows, cci ∈ f.workbookOnly} =
    symmDiff (disaCcis t d.controlIdentifier) (workbookCcis rows d.controlIdentifier)

theorem mem_sortedDiff {a b : List Text} {x : Text} : x ∈ sortedDiff a b ↔ x ∈ a ∧ x ∉ b := by
  rw [sortedDiff, sorted, List.mem_insertionSort, List.mem_dedup, List.mem_filter,
    decide_eq_true_iff]

theorem mem_rev5Pairs {t : Tables} {control cci : Text} :
    (control, cci) ∈ rev5Pairs t ↔ cci ∈ disaCcis t control := by
  simp only [rev5Pairs, disaCcis, List.mem_flatMap, List.mem_filterMap, List.mem_filter,
    decide_eq_true_eq, Set.mem_ofPred_eq, Option.map_eq_some_iff, Prod.mk.injEq]
  constructor
  · rintro ⟨r, hr, i, ⟨hi, hrev, hid⟩, c, hc, rfl, rfl⟩
    exact ⟨r, hr, hrev, hc, i, hi, hid, rfl⟩
  · rintro ⟨r, hr, hrev, hc, i, hi, hid, rfl⟩
    exact ⟨r, hr, i, ⟨hi, hrev, hid⟩, control, hc, rfl, rfl⟩

theorem mem_compareCciSets {identifier : Text} {workbook disa : List Text} {x : Text} :
    (∃ f, compareCciSets identifier workbook disa = some f ∧ x ∈ f.workbookOnly) ↔
      x ∈ workbook ∧ x ∉ disa := by
  rw [← mem_sortedDiff]
  unfold compareCciSets
  constructor
  · rintro ⟨f, hf, hx⟩
    split at hf
    · cases hf
    · split at hf
      · cases hf
      · rw [← Option.some.inj hf] at hx
        exact hx
  · intro hx
    have hdiff : sortedDiff workbook disa ≠ [] := List.ne_nil_of_mem hx
    have hworkbook : workbook ≠ [] := List.ne_nil_of_mem (mem_sortedDiff.mp hx).1
    rw [if_neg hworkbook, if_neg hdiff]
    exact ⟨_, rfl, hx⟩

/-- What is reported of a control, and when. -/
theorem disagreement_iff {rowValues : List (Text × List Text)} {disa : List Text} {control : Text}
    {d : Option Disagreement} (h : disagreement rowValues disa control = d) :
    (d.isSome = true ↔ ∃ x, (x ∈ disa ∧ x ∉ rowValues.flatMap Prod.snd) ∨
      (x ∈ rowValues.flatMap Prod.snd ∧ x ∉ disa)) ∧
    ∀ e, d = some e → e.controlIdentifier = control ∧
      ∀ x, (x ∈ e.disaOnly ∨ ∃ f ∈ e.rows, x ∈ f.workbookOnly) ↔
        (x ∈ disa ∧ x ∉ rowValues.flatMap Prod.snd) ∨
          (x ∈ rowValues.flatMap Prod.snd ∧ x ∉ disa) := by
  have hfindings : ∀ x, (∃ f ∈ rowValues.filterMap fun row => compareCciSets row.1 row.2 disa,
      x ∈ f.workbookOnly) ↔ x ∈ rowValues.flatMap Prod.snd ∧ x ∉ disa := by
    intro x
    simp only [List.mem_filterMap, List.mem_flatMap]
    constructor
    · rintro ⟨f, ⟨row, hrow, hf⟩, hx⟩
      obtain ⟨hmem, hnot⟩ := mem_compareCciSets.mp ⟨f, hf, hx⟩
      exact ⟨⟨row, hrow, hmem⟩, hnot⟩
    · rintro ⟨⟨row, hrow, hmem⟩, hnot⟩
      obtain ⟨f, hf, hx⟩ := mem_compareCciSets.mpr ⟨hmem, hnot⟩
      exact ⟨f, ⟨row, hrow, hf⟩, hx⟩
  have hmem : ∀ x, (x ∈ sortedDiff disa (rowValues.flatMap Prod.snd) ∨
      ∃ f ∈ rowValues.filterMap fun row => compareCciSets row.1 row.2 disa, x ∈ f.workbookOnly) ↔
        (x ∈ disa ∧ x ∉ rowValues.flatMap Prod.snd) ∨
          (x ∈ rowValues.flatMap Prod.snd ∧ x ∉ disa) :=
    fun x => or_congr mem_sortedDiff (hfindings x)
  unfold disagreement at h
  dsimp only at h
  split at h
  case isTrue hnil =>
    subst h
    refine ⟨iff_of_false Bool.false_ne_true ?_, fun e he => nomatch he⟩
    rintro ⟨x, hx⟩
    rcases (hmem x).mpr hx with hx | ⟨f, hf, -⟩
    · rw [hnil.1] at hx
      cases hx
    · rw [hnil.2] at hf
      cases hf
  case isFalse hsome =>
    subst h
    refine ⟨iff_of_true rfl ?_, ?_⟩
    · -- one of the two lists has something, and a finding is not empty
      by_contra hnone
      refine hsome ⟨List.eq_nil_iff_forall_not_mem.mpr fun x hx => hnone ⟨x, ?_⟩,
        List.eq_nil_iff_forall_not_mem.mpr fun f hf => ?_⟩
      · exact (hmem x).mp (.inl hx)
      · obtain ⟨row, hrow, heq⟩ := List.mem_filterMap.mp hf
        have hne : f.workbookOnly ≠ [] := by
          unfold compareCciSets at heq
          split at heq
          · cases heq
          · split at heq
            · cases heq
            · rename_i hdiff
              rw [← Option.some.inj heq]
              exact hdiff
        obtain ⟨x, hx⟩ := List.exists_mem_of_ne_nil _ hne
        exact hnone ⟨x, (hmem x).mp (.inr ⟨f, hf, hx⟩)⟩
    · rintro e ⟨⟩
      exact ⟨rfl, hmem⟩

theorem mem_claims {rows : List WorkbookRow}
    (h : ∀ row ∈ rows, foldToCanonical row.1 = denoted row.1) {control cci : Text} :
    cci ∈ (((Dict.collect Prod.fst Prod.snd (claims rows)).get? control).getD []).flatMap Prod.snd ↔
      cci ∈ workbookCcis rows control := by
  rw [Dict.getD_collect]
  simp only [claims, workbookCcis, List.mem_flatMap, List.mem_map, List.mem_filter,
    List.mem_filterMap, decide_eq_true_eq, Set.mem_ofPred_eq]
  constructor
  · rintro ⟨q, ⟨claim, ⟨⟨row, hrow, hclaim⟩, rfl⟩, rfl⟩, hcci⟩
    obtain ⟨canonical, hfold, hclaim⟩ := Option.bind_eq_some_iff.mp hclaim
    split at hclaim
    · cases hclaim
    · obtain rfl := Option.some.inj hclaim
      refine ⟨row, hrow, ?_, hcci⟩
      rw [← h row hrow, hfold]
      rfl
  · rintro ⟨row, hrow, hdenoted, hcci⟩
    rw [← h row hrow] at hdenoted
    obtain ⟨canonical, hfold, rfl⟩ := Option.map_eq_some_iff.mp hdenoted
    refine ⟨_, ⟨(canonical.value, row.1, parseWorkbookCciValue row.2), ⟨⟨row, hrow, ?_⟩, rfl⟩, rfl⟩,
      hcci⟩
    rw [hfold]
    exact if_neg (List.ne_nil_of_mem hcci)

theorem mem_disa {t : Tables} {control cci : Text} :
    cci ∈ ((Dict.collect Prod.fst Prod.snd (rev5Pairs t)).get? control).getD [] ↔
      cci ∈ disaCcis t control := by
  rw [Dict.getD_collect, ← mem_rev5Pairs]
  simp only [List.mem_map, List.mem_filter, decide_eq_true_eq]
  constructor
  · rintro ⟨q, ⟨hq, rfl⟩, rfl⟩
    exact hq
  · exact fun h => ⟨(control, cci), ⟨h, rfl⟩, rfl⟩

theorem mem_keys_of_mem {α : Type} {d : Dict Text (List α)} {key : Text} {x : α}
    (h : x ∈ (d.get? key).getD []) : key ∈ d.items.map Prod.fst := by
  rw [Dict.mem_keys_iff]
  cases hget : d.get? key with
  | some values => rfl
  | none =>
    rw [hget] at h
    cases h

theorem sublist_controls (f : Text → Option Disagreement)
    (hf : ∀ control d, f control = some d → d.controlIdentifier = control) (controls : List Text) :
    ((controls.filterMap f).map Disagreement.controlIdentifier).Sublist controls := by
  induction controls with
  | nil => exact List.Sublist.slnil
  | cons control controls ih =>
    cases hd : f control with
    | none =>
      rw [List.filterMap_cons_none hd]
      exact ih.cons control
    | some d =>
      rw [List.filterMap_cons_some hd, List.map_cons, hf control d hd]
      exact ih.cons_cons control

theorem report_exact {t : Tables} {rows : List WorkbookRow}
    (h : ∀ row ∈ rows, foldToCanonical row.1 = denoted row.1) :
    ReportExact t rows (reconcileCci t rows) := by
  set disa := Dict.collect Prod.fst Prod.snd (rev5Pairs t) with hdisa
  set byControl := Dict.collect Prod.fst Prod.snd (claims rows) with hby
  set controls := (byControl.items.map Prod.fst ++ disa.items.map Prod.fst).dedup with hcontrols
  have hdiff : ∀ control x, ((x ∈ (disa.get? control).getD [] ∧
      x ∉ ((byControl.get? control).getD []).flatMap Prod.snd) ∨
        (x ∈ ((byControl.get? control).getD []).flatMap Prod.snd ∧
          x ∉ (disa.get? control).getD [])) ↔
      x ∈ symmDiff (disaCcis t control) (workbookCcis rows control) := by
    intro control x
    rw [Set.mem_symmDiff, mem_claims h, mem_disa]
  have hmem : ∀ d, d ∈ reconcileCci t rows ↔ ∃ control ∈ controls,
      disagreement ((byControl.get? control).getD []) ((disa.get? control).getD []) control =
        some d := by
    intro d
    rw [reconcileCci, List.mem_insertionSort, List.mem_filterMap]
  refine ⟨?_, fun control => ?_, fun d hd => ?_⟩
  · -- a control is taken once, and sorting loses nothing
    have hperm := List.perm_insertionSort
      (fun d e : Disagreement => Json.keyLe d.controlIdentifier e.controlIdentifier)
      (controls.filterMap fun control =>
        disagreement ((byControl.get? control).getD []) ((disa.get? control).getD []) control)
    refine ((hperm.map Disagreement.controlIdentifier).nodup_iff).mpr ?_
    have hsub := sublist_controls (fun control => disagreement
      ((byControl.get? control).getD []) ((disa.get? control).getD []) control)
      (fun control d hd => ((disagreement_iff hd).2 d rfl).1) controls
    exact hsub.nodup (List.nodup_dedup _)
  · rw [List.mem_map]
    constructor
    · rintro ⟨d, hd, rfl⟩
      obtain ⟨control, -, hd⟩ := (hmem d).mp hd
      obtain ⟨hsome, hall⟩ := disagreement_iff hd
      obtain ⟨x, hx⟩ := hsome.mp rfl
      rw [(hall d rfl).1]
      exact ⟨x, (hdiff control x).mp hx⟩
    · rintro ⟨x, hx⟩
      obtain ⟨hsome, hall⟩ := disagreement_iff (rfl : disagreement
        ((byControl.get? control).getD []) ((disa.get? control).getD []) control = _)
      have hx := (hdiff control x).mpr hx
      obtain ⟨d, hd⟩ := Option.isSome_iff_exists.mp (hsome.mpr ⟨x, hx⟩)
      refine ⟨d, (hmem d).mpr ⟨control, ?_, hd⟩, (hall d hd).1⟩
      rw [hcontrols, List.mem_dedup, List.mem_append]
      rcases hx with ⟨hx, -⟩ | ⟨hx, -⟩
      · exact .inr (mem_keys_of_mem hx)
      · obtain ⟨q, hq, -⟩ := List.mem_flatMap.mp hx
        exact .inl (mem_keys_of_mem hq)
  · obtain ⟨control, -, hd⟩ := (hmem d).mp hd
    obtain ⟨hcontrol, hccis⟩ := (disagreement_iff hd).2 d rfl
    rw [hcontrol]
    exact Set.ext fun x => (hccis x).trans (hdiff control x)

/-- **When the reconciliation is exact**: the report, and the fold of every row. -/
theorem reconcile_exact_iff (t : Tables) (rows : List WorkbookRow) :
    (ReportExact t rows (reconcileCci t rows) ∧
      ∀ row ∈ rows, foldToCanonical row.1 = denoted row.1) ↔ ∀ row ∈ rows, Tidy row.1 := by
  constructor
  · exact fun h row hrow => (fold_iff_tidy row.1).mp (h.2 row hrow)
  · intro h
    have hfold : ∀ row ∈ rows, foldToCanonical row.1 = denoted row.1 :=
      fun row hrow => (fold_iff_tidy row.1).mpr (h row hrow)
    exact ⟨report_exact hfold, hfold⟩

/-! ## A padded enhancement -/

def paddedTables : Tables where
  items := [
    { id := 1
      cci := "CCI-000015".toList
      status := "draft".toList
      type := "technical".toList
      contributor := none
      publishedDate := none
      definition := "The organization employs automated mechanisms.".toList
      sourceVersion := "2024".toList
      sourceSha256 := [] }]
  refs := [
    { cciId := 1
      revision := "5".toList
      rawIndex := "AC-2 (1)".toList
      resolved :=
        { canonicalControl := some "AC-2(1)".toList
          oscalControlId := some "ac-2.1".toList
          oscalPartId := none
          status := .resolved } }]

def paddedRows : List WorkbookRow := [("AC-2(0001)".toList, some "CCI-000015".toList)]

/-- The enhancement is folded away. -/
theorem paddedRows_not_exact : ¬(ReportExact paddedTables paddedRows
    (reconcileCci paddedTables paddedRows) ∧
      ∀ row ∈ paddedRows, foldToCanonical row.1 = denoted row.1) := by
  rintro ⟨-, hfold⟩
  exact absurd (hfold _ List.mem_cons_self) (by decide +kernel)

/-- Both of its controls are reported. -/
example : (reconcileCci paddedTables paddedRows).map Disagreement.controlIdentifier =
    ["AC-2".toList, "AC-2(1)".toList] := by
  decide +kernel

end Concord.Cci
