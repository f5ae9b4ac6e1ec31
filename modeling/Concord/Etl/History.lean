import Concord.Base.Run
import Concord.Catalog.Oscal
import Concord.Etl.Reingest

/-!
# The history of a workbook

`ingest_workbook` of `ccf/etl/pipeline.py` on PostgreSQL, which keeps a version for each digest and
writes what the sheet says into two histories under it. The version of a digest is found again; the
histories are appended to on every run.

The load goes through the rows in batches: mappings are written 500 at a time, their history 1000 at
a time, and the history of the controls at the end. `ccf ingest` rolls back what raises. A poll of
the sources records the exception and goes on, and what has been written by then is committed.

`histories_iff`: the histories have one snapshot for each version that was ingested, in every state
of a sequence of ingests, if and only if every ingest that is committed adds a version that has none
and gives no two rows one key, or adds nothing.
-/

namespace Concord.Etl.History

open Concord.Base Concord.Python Concord.Catalog

/-! ## The tables -/

/-- A row of `ccf_audit.control_history`. A version is told by its digest, which is unique. -/
structure ControlHistory where
  identifier : Text
  version : Text
  payload : List (Text × Cell)
  deriving DecidableEq

/-- A row of `ccf_audit.mapping_history`. -/
structure MappingHistory where
  identifier : Text
  version : Text
  columnKey : Text
  value : Text
  deriving DecidableEq

inductive RunStatus
  | running | succeeded | failed
  deriving DecidableEq

/-- A row of `ccf.ingestion_runs`, with the workbook itself for its digest. -/
structure IngestionRun where
  file : Bytes
  status : RunStatus

structure Store where
  tables : Tables
  versions : List Text
  runs : List IngestionRun
  controlHistory : List ControlHistory
  mappingHistory : List MappingHistory

/-- What becomes of a call: a database error loses the transaction, and any other exception leaves
what the session holds. -/
inductive Outcome (α : Type)
  | lost
  | raised (a : α)
  | done (a : α)

/-! ## The load, in batches -/

def controlSnapshot (version : Text) (row : Text × Record) : ControlHistory :=
  ⟨row.1, version, row.2.items.filter fun kv => clean kv.2 ≠ .empty⟩

def mappingSnapshot (version : Text) (row : Text × Record) : List MappingHistory :=
  (row.2.items.filter fun kv => kv.1 ∉ coreHeaders ∧ clean kv.2 ≠ .empty).map fun kv =>
    ⟨row.1, version, kv.1, (clean kv.2).text⟩

/-- A family that has no `strip`. -/
def unreadable (r : Record) : Bool :=
  match clean (r.cell "family".toList) with
  | .other _ truthy => truthy
  | _ => false

/-- `uq_mapping_control_column`. -/
def Fits (mappings : List FrameworkMapping) : Prop :=
  mappings.Pairwise fun a b => clashes a b = false

instance (mappings : List FrameworkMapping) : Decidable (Fits mappings) :=
  inferInstanceAs (Decidable (mappings.Pairwise fun a b => clashes a b = false))

/-- The load, up to a row: of the mappings and their history, what is written and what waits. -/
structure Progress where
  loading : Loading
  mappingBatch : List FrameworkMapping
  historyControls : List ControlHistory
  written : List MappingHistory
  historyMappings : List MappingHistory

section Load

variable (env : Workbench) (existing : Dict Text Control) (headers : List Text) (version : Text)

def Progress.add (p : Progress) (row : Text × Record) (control : Control) (nextId : Nat) :
    Progress where
  loading := { p.loading with
    controls := p.loading.controls.set row.1 control
    nextId := nextId
    seen := p.loading.seen ++ [row.1] }
  mappingBatch := p.mappingBatch ++ mappingsOf env control.id row.2
  historyControls := p.historyControls ++ [controlSnapshot version row]
  written := p.written
  historyMappings := p.historyMappings ++ mappingSnapshot version row

def Progress.flush (p : Progress) : Outcome Progress :=
  let full := 500 ≤ p.mappingBatch.length
  if full ∧ ¬Fits (p.loading.mappings ++ p.mappingBatch) then .lost
  else
    let p := if full then
      { p with
        loading := { p.loading with mappings := p.loading.mappings ++ p.mappingBatch }
        mappingBatch := [] } else p
    .done (if 1000 ≤ p.historyMappings.length then
      { p with written := p.written ++ p.historyMappings, historyMappings := [] } else p)

def loadTurn (p : Progress) (idx : Nat) (row : Row) : Outcome Progress :=
  match rowIdentifier headers row with
  | none => .done (if blank row then p else
      { p with loading := { p.loading with rejected := p.loading.rejected ++ [idx] } })
  | some identifier =>
    let r := record headers row
    let key := rowKey p.loading.seen idx identifier
    if unreadable r then .raised p
    else
      match contentOf env idx r with
      | .error _ => .lost
      | .ok content =>
        if !env.accepts key content then .lost
        else
          match upsert existing p.loading key content with
          | .error _ => .lost
          | .ok (control, nextId) => (p.add env version (key, r) control nextId).flush

def loadTurns : Progress → Nat → List Row → Outcome Progress
  | p, _, [] => .done p
  | p, idx, row :: rows =>
    match loadTurn env existing headers version p idx row with
    | .lost => .lost
    | .raised p => .raised p
    | .done p => loadTurns p (idx + 1) rows

end Load

/-! ## An ingest -/

/-- The sheet as it is read: its rows, and whether reading raises behind them. -/
structure Reading where
  sheet : Sheet
  damaged : Bool

/-- What a sheet brings: the tables, and what is added to the histories. -/
structure Written where
  tables : Tables
  controls : List ControlHistory
  mappings : List MappingHistory

/-- `_ingest_assessment`. -/
def ingestSheet (env : Workbench) (version : Text) (t : Tables) (reading : Reading) :
    Outcome Written :=
  match env.contract reading.sheet.headers with
  | .error _ => .raised ⟨t, [], []⟩
  | .ok _ =>
    let interrupted := fun p : Progress => Outcome.raised
      { tables := { t with
          controls := p.loading.controls
          mappings := p.loading.mappings
          nextId := p.loading.nextId }
        controls := []
        mappings := p.written }
    match loadTurns env t.controls reading.sheet.headers version ⟨t.begin, [], [], [], []⟩ 1
      reading.sheet.rows with
    | .lost => .lost
    | .raised p => interrupted p
    | .done p =>
      if reading.damaged then interrupted p
      else if Fits (p.loading.mappings ++ p.mappingBatch) then
        .done
          { tables := retireAbsentControls t.controls p.loading.seen
              { t with
                controls := p.loading.controls
                mappings := p.loading.mappings ++ p.mappingBatch
                nextId := p.loading.nextId }
            controls := p.historyControls
            mappings := p.written ++ p.historyMappings }
      else .lost

/-- Who calls: `ccf ingest`, or a poll of the sources. -/
inductive Caller
  | cli | poll
  deriving DecidableEq

/-- What becomes of the other sheets, and of the rest of the transaction. -/
inductive Others
  | done | raised | refused
  deriving DecidableEq

/-- An ingest: the file, who calls, and what becomes of the sheets before and after the
assessment. -/
structure Ingest where
  file : Bytes
  caller : Caller
  before : Others := .done
  after : Others := .done

/-- The workbench, and what `openpyxl` makes of a file: nothing, or its assessment sheet if it has
one. -/
structure Package extends Workbench where
  loadWorkbook : Bytes → Option (Option Reading)

/-- The run is recorded, and what it has written. -/
def Store.record (s : Store) (file : Bytes) (status : RunStatus) (w : Written) : Store where
  tables := w.tables
  versions := if sha256Hex file ∈ s.versions then s.versions else s.versions ++ [sha256Hex file]
  runs := s.runs ++ [⟨file, status⟩]
  controlHistory := s.controlHistory ++ w.controls
  mappingHistory := s.mappingHistory ++ w.mappings

/-- `ingest_workbook`. -/
def ingestWorkbook (pkg : Package) (s : Store) (a : Ingest) : Outcome Store :=
  let nothing : Written := ⟨s.tables, [], []⟩
  match pkg.loadWorkbook a.file, a.before with
  | none, _ => .raised (s.record a.file .running nothing)
  | some _, .refused => .lost
  | some _, .raised => .raised (s.record a.file .failed nothing)
  | some assessment, .done =>
    let sheet : Outcome Written := match assessment with
      | none => .done nothing
      | some reading => ingestSheet pkg.toWorkbench (sha256Hex a.file) s.tables reading
    match sheet, a.after with
    | .lost, _ => .lost
    | .raised w, _ => .raised (s.record a.file .failed w)
    | .done _, .refused => .lost
    | .done w, .raised => .raised (s.record a.file .failed w)
    | .done w, .done => .done (s.record a.file .succeeded w)

def step (pkg : Package) (s : Store) (a : Ingest) : Option Store :=
  match ingestWorkbook pkg s a, a.caller with
  | .lost, _ => some s
  | .raised _, .cli => some s
  | .raised s', .poll => some s'
  | .done s', _ => some s'

/-! ## What a sheet says -/

def keyedRow (headers : List Text) (seen : List Text) (idx : Nat) (row : Row) :
    List (Text × Record) :=
  ((rowIdentifier headers row).map fun i => (rowKey seen idx i, record headers row)).toList

def keyedRows (headers : List Text) : List Text → Nat → List Row → List (Text × Record)
  | _, _, [] => []
  | seen, idx, row :: rows =>
    let here := keyedRow headers seen idx row
    here ++ keyedRows headers (seen ++ here.map Prod.fst) (idx + 1) rows

def raisesAt (headers : List Text) (row : Row) : Bool :=
  (rowIdentifier headers row).isSome && unreadable (record headers row)

def passedRows (headers : List Text) (rows : List Row) : List Row :=
  rows.takeWhile fun row => !raisesAt headers row

/-- What the load has passed: `rows` are the keyed ones, up to `p'`. -/
structure Passed (version : Text) (rows : List (Text × Record)) (p p' : Progress) : Prop where
  seen : p'.loading.seen = p.loading.seen ++ rows.map Prod.fst
  controls : p'.historyControls = p.historyControls ++ rows.map (controlSnapshot version)
  mappings : p'.written ++ p'.historyMappings =
    p.written ++ p.historyMappings ++ rows.flatMap (mappingSnapshot version)

/-- Only full batches are written, and they are. -/
structure Batched (p : Progress) : Prop where
  waiting : p.historyMappings.length < 1000
  full : p.written ≠ [] → 1000 ≤ p.written.length

theorem Batched.written_eq_nil_iff {p : Progress} (h : Batched p) :
    p.written = [] ↔ (p.written ++ p.historyMappings).length < 1000 := by
  have hwaiting := h.waiting
  rw [List.length_append]
  constructor
  · intro hnil
    rw [hnil, List.length_nil]
    omega
  · intro hlt
    by_contra hne
    have hfull := h.full hne
    omega

section Passed

variable {env : Workbench} {existing : Dict Text Control} {headers : List Text} {version : Text}

theorem Passed.refl (p : Progress) : Passed version [] p p where
  seen := (List.append_nil _).symm
  controls := (List.append_nil _).symm
  mappings := (List.append_nil _).symm

theorem Passed.trans {p q r : Progress} {rows rows' : List (Text × Record)}
    (h : Passed version rows p q) (h' : Passed version rows' q r) :
    Passed version (rows ++ rows') p r where
  seen := by rw [h'.seen, h.seen, List.map_append, List.append_assoc]
  controls := by rw [h'.controls, h.controls, List.map_append, List.append_assoc]
  mappings := by rw [h'.mappings, h.mappings, List.flatMap_append, List.append_assoc]

theorem flush_eq_done {p p' : Progress} (h : p.flush = .done p') :
    p'.loading.seen = p.loading.seen ∧ p'.historyControls = p.historyControls ∧
      p'.written ++ p'.historyMappings = p.written ++ p.historyMappings ∧
        p'.historyMappings.length < 1000 ∧
          (p'.written = p.written ∨
            p'.written = p.written ++ p.historyMappings ∧ 1000 ≤ p.historyMappings.length) := by
  unfold Progress.flush at h
  dsimp only at h
  split at h
  · cases h
  · obtain rfl := Outcome.done.inj h
    by_cases hfull : 500 ≤ p.mappingBatch.length
    · simp only [hfull, if_true]
      split
      · rename_i hlength
        exact ⟨rfl, rfl, List.append_nil _, Nat.succ_pos 999, .inr ⟨rfl, hlength⟩⟩
      · rename_i hlength
        exact ⟨rfl, rfl, rfl, Nat.lt_of_not_le hlength, .inl rfl⟩
    · simp only [hfull, if_false]
      split
      · rename_i hlength
        exact ⟨rfl, rfl, List.append_nil _, Nat.succ_pos 999, .inr ⟨rfl, hlength⟩⟩
      · rename_i hlength
        exact ⟨rfl, rfl, rfl, Nat.lt_of_not_le hlength, .inl rfl⟩

theorem loadTurn_eq_done {p p' : Progress} {idx : Nat} {row : Row} (hp : Batched p)
    (h : loadTurn env existing headers version p idx row = .done p') :
    raisesAt headers row = false ∧ Batched p' ∧
      Passed version (keyedRow headers p.loading.seen idx row) p p' := by
  unfold loadTurn at h
  unfold raisesAt keyedRow
  cases hrow : rowIdentifier headers row with
  | none =>
    rw [hrow] at h
    obtain rfl := Outcome.done.inj h
    refine ⟨rfl, ?_, ?_⟩
    · split
      · exact hp
      · exact ⟨hp.waiting, hp.full⟩
    · split
      · exact Passed.refl p
      · exact ⟨(List.append_nil _).symm, (List.append_nil _).symm, (List.append_nil _).symm⟩
  | some identifier =>
    rw [hrow] at h
    dsimp only at h
    split at h
    · cases h
    · rename_i hreadable
      split at h
      · cases h
      · rename_i content hcontent
        split at h
        · cases h
        · split at h
          · cases h
          · rename_i control nextId hup
            obtain ⟨hseen, hcontrols, hmappings, hwaiting, hwritten⟩ := flush_eq_done h
            refine ⟨?_, ⟨hwaiting, fun hne => ?_⟩, hseen, hcontrols, ?_⟩
            · rw [Option.isSome_some, Bool.true_and]
              exact Bool.eq_false_iff.mpr hreadable
            · rcases hwritten with heq | ⟨heq, hfull⟩
              · rw [heq] at hne ⊢
                exact hp.full hne
              · rw [heq, List.length_append]
                exact Nat.le_trans hfull (Nat.le_add_left _ _)
            · rw [hmappings]
              simp [Progress.add]

theorem loadTurn_eq_raised {p p' : Progress} {idx : Nat} {row : Row}
    (h : loadTurn env existing headers version p idx row = .raised p') :
    raisesAt headers row = true ∧ p' = p := by
  unfold loadTurn at h
  unfold raisesAt
  cases hrow : rowIdentifier headers row with
  | none =>
    rw [hrow] at h
    cases h
  | some identifier =>
    rw [hrow] at h
    dsimp only at h
    split at h
    · rename_i hunreadable
      exact ⟨hunreadable, (Outcome.raised.inj h).symm⟩
    · split at h
      · cases h
      · split at h
        · cases h
        · split at h
          · cases h
          · unfold Progress.flush at h
            dsimp only at h
            split at h <;> cases h

theorem loadTurns_eq_done {rows : List Row} {p p' : Progress} {idx : Nat} (hp : Batched p)
    (h : loadTurns env existing headers version p idx rows = .done p') :
    (∀ row ∈ rows, raisesAt headers row = false) ∧ Batched p' ∧
      Passed version (keyedRows headers p.loading.seen idx rows) p p' := by
  induction rows generalizing p idx with
  | nil =>
    obtain rfl := Outcome.done.inj h
    exact ⟨fun row hrow => absurd hrow List.not_mem_nil, hp, Passed.refl p⟩
  | cons row rows ih =>
    rw [loadTurns] at h
    split at h
    · cases h
    · cases h
    · rename_i q hturn
      obtain ⟨hrow, hq, hpassed⟩ := loadTurn_eq_done hp hturn
      obtain ⟨hrows, hp', hrest⟩ := ih hq h
      rw [hpassed.seen] at hrest
      exact ⟨List.forall_mem_cons.mpr ⟨hrow, hrows⟩, hp', hpassed.trans hrest⟩

theorem loadTurns_eq_raised {rows : List Row} {p p' : Progress} {idx : Nat} (hp : Batched p)
    (h : loadTurns env existing headers version p idx rows = .raised p') :
    (∃ row ∈ rows, raisesAt headers row = true) ∧ Batched p' ∧
      Passed version (keyedRows headers p.loading.seen idx (passedRows headers rows)) p p' := by
  induction rows generalizing p idx with
  | nil => cases h
  | cons row rows ih =>
    rw [loadTurns] at h
    split at h
    · cases h
    · rename_i q hturn
      obtain rfl := Outcome.raised.inj h
      obtain ⟨hrow, rfl⟩ := loadTurn_eq_raised hturn
      refine ⟨⟨row, List.mem_cons_self, hrow⟩, hp, ?_⟩
      rw [passedRows, List.takeWhile_cons_of_neg (by simp [hrow])]
      exact Passed.refl _
    · rename_i q hturn
      obtain ⟨hrow, hq, hpassed⟩ := loadTurn_eq_done hp hturn
      obtain ⟨⟨bad, hbad, hraises⟩, hp', hrest⟩ := ih hq h
      refine ⟨⟨bad, List.mem_cons_of_mem row hbad, hraises⟩, hp', ?_⟩
      rw [hpassed.seen] at hrest
      rw [passedRows, List.takeWhile_cons_of_pos (by simp [hrow])]
      exact hpassed.trans hrest

end Passed

/-! ## What a workbook says -/

def Reading.rows (reading : Reading) : List (Text × Record) :=
  keyedRows reading.sheet.headers [] 1 reading.sheet.rows

def Reading.passed (reading : Reading) : List (Text × Record) :=
  keyedRows reading.sheet.headers [] 1 (passedRows reading.sheet.headers reading.sheet.rows)

def Reading.interrupted (reading : Reading) : Bool :=
  reading.damaged || reading.sheet.rows.any (raisesAt reading.sheet.headers)

/-- What an exception in the sheet leaves. -/
structure Interrupted (version : Text) (reading : Reading) (w : Written) : Prop where
  controls : w.controls = []
  mappings : w.mappings = [] ↔ (reading.passed.flatMap (mappingSnapshot version)).length < 1000
  version : ∀ m ∈ w.mappings, m.version = version

theorem version_controlSnapshot (version : Text) (rows : List (Text × Record)) :
    ∀ row ∈ rows.map (controlSnapshot version), row.version = version := by
  intro row hrow
  obtain ⟨keyed, -, rfl⟩ := List.mem_map.mp hrow
  rfl

theorem version_mappingSnapshot (version : Text) (rows : List (Text × Record)) :
    ∀ m ∈ rows.flatMap (mappingSnapshot version), m.version = version := by
  intro m hm
  obtain ⟨row, -, hm⟩ := List.mem_flatMap.mp hm
  obtain ⟨kv, -, rfl⟩ := List.mem_map.mp hm
  rfl

section Sheet

variable {env : Workbench} {version : Text} {t : Tables} {reading : Reading} {w : Written}

def atStart (t : Tables) : Progress := ⟨t.begin, [], [], [], []⟩

theorem batched_atStart (t : Tables) : Batched (atStart t) where
  waiting := Nat.succ_pos 999
  full h := absurd rfl h

theorem interrupted_of_passed {p : Progress} (hp : Batched p)
    (hpassed : Passed version reading.passed (atStart t) p) (hcontrols : w.controls = [])
    (hmappings : w.mappings = p.written) : Interrupted version reading w where
  controls := hcontrols
  mappings := by
    have hall : p.written ++ p.historyMappings =
        reading.passed.flatMap (mappingSnapshot version) := hpassed.mappings
    rw [hmappings, hp.written_eq_nil_iff, hall]
  version := by
    have hall : p.written ++ p.historyMappings =
        reading.passed.flatMap (mappingSnapshot version) := hpassed.mappings
    intro m hm
    refine version_mappingSnapshot version reading.passed m ?_
    rw [← hall, ← hmappings]
    exact List.mem_append_left _ hm

theorem ingestSheet_eq_done (h : ingestSheet env version t reading = .done w) :
    reading.interrupted = false ∧ (env.contract reading.sheet.headers).isOk = true ∧
      w.controls = reading.rows.map (controlSnapshot version) ∧
        w.mappings = reading.rows.flatMap (mappingSnapshot version) := by
  unfold ingestSheet at h
  split at h
  · cases h
  · rename_i hcontract
    dsimp only at h
    split at h
    · cases h
    · cases h
    · rename_i p hturns
      obtain ⟨hrows, -, hpassed⟩ := loadTurns_eq_done (batched_atStart t) hturns
      split at h
      · cases h
      · rename_i hdamaged
        split at h
        · obtain rfl := Outcome.done.inj h
          refine ⟨?_, by rw [hcontract]; rfl, hpassed.controls, hpassed.mappings⟩
          rw [Reading.interrupted, Bool.eq_false_iff.mpr hdamaged, Bool.false_or,
            List.any_eq_false]
          exact fun row hrow => Bool.eq_false_iff.mp (hrows row hrow)
        · cases h

theorem ingestSheet_eq_raised (h : ingestSheet env version t reading = .raised w) :
    ((env.contract reading.sheet.headers).isOk = false ∧ w.controls = [] ∧ w.mappings = []) ∨
      (env.contract reading.sheet.headers).isOk = true ∧ reading.interrupted = true ∧
        Interrupted version reading w := by
  unfold ingestSheet at h
  split at h
  · rename_i hcontract
    obtain rfl := Outcome.raised.inj h
    exact .inl ⟨by rw [hcontract]; rfl, rfl, rfl⟩
  · rename_i hcontract
    refine .inr ⟨by rw [hcontract]; rfl, ?_⟩
    dsimp only at h
    split at h
    · cases h
    · rename_i p hturns
      obtain rfl := Outcome.raised.inj h
      obtain ⟨⟨row, hrow, hraises⟩, hp, hpassed⟩ :=
        loadTurns_eq_raised (batched_atStart t) hturns
      refine ⟨?_, interrupted_of_passed hp hpassed rfl rfl⟩
      rw [Reading.interrupted, List.any_eq_true.mpr ⟨row, hrow, hraises⟩, Bool.or_true]
    · rename_i p hturns
      obtain ⟨hrows, hp, hpassed⟩ := loadTurns_eq_done (batched_atStart t) hturns
      split at h
      · rename_i hdamaged
        obtain rfl := Outcome.raised.inj h
        refine ⟨by rw [Reading.interrupted, hdamaged, Bool.true_or], ?_⟩
        -- every row is passed
        have hall : passedRows reading.sheet.headers reading.sheet.rows = reading.sheet.rows :=
          List.takeWhile_eq_self_iff.mpr fun row hrow => by rw [hrows row hrow]; rfl
        have hreached : Passed version reading.passed (atStart t) p := by
          rw [Reading.passed, hall]
          exact hpassed
        exact interrupted_of_passed hp hreached rfl rfl
      · split at h <;> cases h

end Sheet

/-! ## The tables of a sheet -/

def Progress.merged (p : Progress) : Loading :=
  { p.loading with mappings := p.loading.mappings ++ p.mappingBatch }

section Tables

variable {env : Workbench} {existing : Dict Text Control} {headers : List Text} {version : Text}
  {p p' : Progress}

theorem merged_flush (h : p.flush = .done p') : p'.merged = p.merged := by
  unfold Progress.flush at h
  dsimp only at h
  split at h
  · cases h
  · obtain rfl := Outcome.done.inj h
    unfold Progress.merged
    by_cases hfull : 500 ≤ p.mappingBatch.length
    · simp only [hfull, if_true]
      split <;> simp only [List.append_nil]
    · simp only [hfull, if_false]
      split <;> rfl

/-- A turn is one of `_ingest_assessment`, if its mappings are accepted in the end. -/
theorem loadRow_of_loadTurn {idx : Nat} {row : Row}
    (h : loadTurn env existing headers version p idx row = .done p') :
    (∃ added, p'.merged.mappings = p.merged.mappings ++ added) ∧
      (Fits p'.merged.mappings → loadRow env existing headers p.merged idx row = .ok p'.merged) := by
  unfold loadTurn at h
  unfold loadRow
  cases hrow : rowIdentifier headers row with
  | none =>
    rw [hrow] at h
    obtain rfl := Outcome.done.inj h
    dsimp only
    split
    · exact ⟨⟨[], (List.append_nil _).symm⟩, fun _ => rfl⟩
    · exact ⟨⟨[], (List.append_nil _).symm⟩, fun _ => rfl⟩
  | some identifier =>
    rw [hrow] at h
    dsimp only at h ⊢
    split at h
    · cases h
    · split at h
      · cases h
      · rename_i content hcontent
        split at h
        · cases h
        · rename_i haccepts
          split at h
          · cases h
          · rename_i control nextId hup
            have hmerged := merged_flush h
            have hmappings : p'.merged.mappings =
                p.merged.mappings ++ mappingsOf env control.id (record headers row) := by
              rw [hmerged]
              exact (List.append_assoc _ _ _).symm
            refine ⟨⟨_, hmappings⟩, fun hfits => ?_⟩
            rw [hmappings] at hfits
            have hclash : (p.merged.mappings.any fun m =>
                (mappingsOf env control.id (record headers row)).any (clashes m)) = false := by
              refine List.any_eq_false.mpr fun m hm => ?_
              rw [List.any_eq_true]
              rintro ⟨m', hm', hbad⟩
              rw [(List.pairwise_append.mp hfits).2.2 m hm m' hm'] at hbad
              cases hbad
            rw [show p.merged.seen = p.loading.seen from rfl, hcontent]
            change (if _ then _ else _) = _
            rw [if_neg haccepts]
            change (upsert existing p.loading _ content >>= _) = _
            rw [hup]
            change (if _ then _ else _) = _
            rw [if_neg (Bool.eq_false_iff.mp hclash), hmerged, Progress.merged, Progress.merged,
              Progress.add, List.append_assoc]
            rfl

theorem loadRows_of_loadTurns {rows : List Row} {idx : Nat}
    (h : loadTurns env existing headers version p idx rows = .done p') :
    (∃ added, p'.merged.mappings = p.merged.mappings ++ added) ∧
      (Fits p'.merged.mappings →
        loadRows env existing headers p.merged idx rows = .ok p'.merged) := by
  induction rows generalizing p idx with
  | nil =>
    obtain rfl := Outcome.done.inj h
    exact ⟨⟨[], (List.append_nil _).symm⟩, fun _ => rfl⟩
  | cons row rows ih =>
    rw [loadTurns] at h
    split at h
    · cases h
    · cases h
    · rename_i q hturn
      obtain ⟨⟨added, hadded⟩, hrow⟩ := loadRow_of_loadTurn hturn
      obtain ⟨⟨more, hmore⟩, hrest⟩ := ih h
      refine ⟨⟨added ++ more, by rw [hmore, hadded, List.append_assoc]⟩, fun hfits => ?_⟩
      have hmid : Fits q.merged.mappings := by
        rw [hmore] at hfits
        exact (List.pairwise_append.mp hfits).1
      rw [loadRows, hrow hmid]
      exact hrest hfits

theorem ingestAssessment_of_ingestSheet {t : Tables} {reading : Reading} {w : Written}
    (h : ingestSheet env version t reading = .done w) :
    ingestAssessment env t reading.sheet = .ok w.tables := by
  unfold ingestSheet at h
  unfold ingestAssessment
  split at h
  · cases h
  · rename_i hcontract
    dsimp only at h
    split at h
    · cases h
    · cases h
    · rename_i p hturns
      split at h
      · cases h
      · split at h
        · rename_i hfits
          obtain rfl := Outcome.done.inj h
          have hrows := (loadRows_of_loadTurns hturns).2 hfits
          have hstart : (atStart t).merged = t.begin := rfl
          rw [hcontract]
          change (loadRows env t.controls reading.sheet.headers t.begin 1 reading.sheet.rows >>= _)
            = _
          change loadRows env t.controls reading.sheet.headers (atStart t).merged 1 _ = _ at hrows
          rw [hstart] at hrows
          rw [hrows]
          rfl
        · cases h

end Tables

/-! ## One snapshot for each version -/

def Store.completed (s : Store) : List Bytes :=
  (s.runs.filter fun run => run.status = .succeeded).map IngestionRun.file

/-- A history of versions: of each workbook that is completed the rows it has, and no others. -/
structure Snapshots {α : Type} (version : α → Text) (rowsOf : Bytes → List α)
    (completed : List Bytes) (history : List α) : Prop where
  each : ∀ f ∈ completed,
    (history.filter fun row => version row = sha256Hex f).Perm (rowsOf f)
  only : ∀ row ∈ history, ∃ f ∈ completed, version row = sha256Hex f

section Snapshots

variable {α : Type} {version : α → Text} {rowsOf : Bytes → List α} {completed : List Bytes}
  {history added : List α} {file : Bytes}

theorem filter_version (hadded : ∀ row ∈ added, version row = sha256Hex file) (f : Bytes) :
    (added.filter fun row => version row = sha256Hex f) =
      if sha256Hex f = sha256Hex file then added else [] := by
  split
  · rename_i hsame
    exact List.filter_eq_self.mpr fun row hrow => by simp [hadded row hrow, hsame]
  · rename_i hother
    refine List.filter_eq_nil_iff.mpr fun row hrow => ?_
    rw [hadded row hrow, decide_eq_true_eq]
    exact fun heq => hother heq.symm

theorem Snapshots.append_iff (h : Snapshots version rowsOf completed history)
    (hadded : ∀ row ∈ added, version row = sha256Hex file) :
    Snapshots version rowsOf completed (history ++ added) ↔ added = [] := by
  constructor
  · intro h'
    cases hrows : added with
    | nil => rfl
    | cons row rest =>
      have hrow : row ∈ added := hrows ▸ List.mem_cons_self
      obtain ⟨f, hf, hversion⟩ := h'.only row (List.mem_append_right _ hrow)
      have hlength := ((h'.each f hf).trans (h.each f hf).symm).length_eq
      rw [List.filter_append, filter_version hadded, if_pos (by rw [← hversion, hadded row hrow]),
        List.length_append, hrows, List.length_cons] at hlength
      omega
  · rintro rfl
    rw [List.append_nil]
    exact h

/-- What completes a workbook adds its rows, if there are none under the version. -/
theorem Snapshots.complete_iff (h : Snapshots version rowsOf completed history)
    (hrowsOf : ∀ row ∈ rowsOf file, version row = sha256Hex file) :
    Snapshots version rowsOf (completed ++ [file]) (history ++ rowsOf file) ↔
      ∀ f ∈ completed, sha256Hex f = sha256Hex file → rowsOf f = [] ∧ rowsOf file = [] := by
  constructor
  · intro h' f hf hsame
    have hself := (h'.each file (List.mem_append_right _ (List.mem_singleton_self file))).length_eq
    have hother := (h'.each f (List.mem_append_left _ hf)).length_eq
    have hbefore := (h.each f hf).length_eq
    rw [List.filter_append, List.length_append, filter_version hrowsOf, if_pos rfl, ← hsame] at hself
    rw [List.filter_append, List.length_append, filter_version hrowsOf, if_pos hsame] at hother
    exact ⟨List.length_eq_zero_iff.mp (by omega), List.length_eq_zero_iff.mp (by omega)⟩
  · intro hnone
    constructor
    · intro f hf
      rw [List.filter_append, filter_version hrowsOf]
      rcases List.mem_append.mp hf with hf | hf
      · split
        · rename_i hsame
          obtain ⟨-, hempty⟩ := hnone f hf hsame
          rw [hempty, List.append_nil]
          exact h.each f hf
        · rw [List.append_nil]
          exact h.each f hf
      · obtain rfl := List.mem_singleton.mp hf
        have hempty : (history.filter fun row => version row = sha256Hex f) = [] := by
          by_cases hseen : ∃ g ∈ completed, sha256Hex g = sha256Hex f
          · obtain ⟨g, hg, hsame⟩ := hseen
            have heach := h.each g hg
            rw [hsame, (hnone g hg hsame).1] at heach
            exact List.perm_nil.mp heach
          · refine List.filter_eq_nil_iff.mpr fun row hrow hversion => hseen ?_
            obtain ⟨g, hg, hg'⟩ := h.only row hrow
            exact ⟨g, hg, hg'.symm.trans (of_decide_eq_true hversion)⟩
        rw [if_pos rfl, hempty, List.nil_append]
    · intro row hrow
      rcases List.mem_append.mp hrow with hrow | hrow
      · obtain ⟨f, hf, hversion⟩ := h.only row hrow
        exact ⟨f, List.mem_append_left _ hf, hversion⟩
      · exact ⟨file, List.mem_append_right _ (List.mem_singleton_self file), hrowsOf row hrow⟩

end Snapshots

def Package.rows (pkg : Package) (file : Bytes) : List (Text × Record) :=
  match pkg.loadWorkbook file with
  | some (some reading) => reading.rows
  | _ => []

def Package.controlRows (pkg : Package) (file : Bytes) : List ControlHistory :=
  (pkg.rows file).map (controlSnapshot (sha256Hex file))

def Package.mappingRows (pkg : Package) (file : Bytes) : List MappingHistory :=
  (pkg.rows file).flatMap (mappingSnapshot (sha256Hex file))

/-- The histories have one snapshot of each version that was ingested: its rows, one for each
identifier, and their values, one for each identifier and column. -/
structure OneSnapshot (pkg : Package) (s : Store) : Prop where
  identifiers : ∀ f ∈ s.completed, ((pkg.rows f).map Prod.fst).Nodup
  columns : ∀ f ∈ s.completed,
    ((pkg.mappingRows f).map fun row => (row.identifier, row.columnKey)).Nodup
  controls : Snapshots ControlHistory.version pkg.controlRows s.completed s.controlHistory
  mappings : Snapshots MappingHistory.version pkg.mappingRows s.completed s.mappingHistory

/-- An ingest that raises has written no history: the sheet was not reached, or not enough of it to
fill a batch, or it has no row with a key. -/
def Unwritten (pkg : Package) (a : Ingest) : Prop :=
  a.before = .done → ∀ reading, pkg.loadWorkbook a.file = some (some reading) →
    (pkg.contract reading.sheet.headers).isOk = true →
      if reading.interrupted then
        (reading.passed.flatMap (mappingSnapshot (sha256Hex a.file))).length < 1000
      else reading.rows = []

/-- An ingest is lost, or raises with nothing written or nothing committed, or it completes a
version that was not completed before (or has no rows), and its rows have keys of their own. -/
def Clean (pkg : Package) (s : Store) (a : Ingest) : Prop :=
  match ingestWorkbook pkg s a with
  | .lost => True
  | .raised _ => a.caller = .poll → Unwritten pkg a
  | .done _ => ((pkg.rows a.file).map Prod.fst).Nodup ∧
      ∀ f ∈ s.completed, sha256Hex f = sha256Hex a.file → pkg.rows f = [] ∧ pkg.rows a.file = []

section Workbook

variable {pkg : Package} {s s' : Store} {a : Ingest} {w : Written}

theorem ingestWorkbook_eq_done (h : ingestWorkbook pkg s a = .done s') :
    ∃ w, s' = s.record a.file .succeeded w ∧ w.controls = pkg.controlRows a.file ∧
      w.mappings = pkg.mappingRows a.file := by
  unfold ingestWorkbook at h
  unfold Package.controlRows Package.mappingRows Package.rows
  dsimp only at h
  split at h
  · cases h
  · cases h
  · cases h
  · rename_i assessment hload _
    rw [hload]
    split at h
    · cases h
    · cases h
    · cases h
    · cases h
    · rename_i w hsheet _
      obtain rfl := Outcome.done.inj h
      refine ⟨w, rfl, ?_⟩
      cases assessment with
      | none =>
        obtain rfl := Outcome.done.inj hsheet
        exact ⟨rfl, rfl⟩
      | some reading => exact (ingestSheet_eq_done hsheet).2.2

theorem unwritten_iff {reading : Reading} (hbefore : a.before = .done)
    (hload : pkg.loadWorkbook a.file = some (some reading))
    (hcontract : (pkg.contract reading.sheet.headers).isOk = true) :
    Unwritten pkg a ↔
      if reading.interrupted then
        (reading.passed.flatMap (mappingSnapshot (sha256Hex a.file))).length < 1000
      else reading.rows = [] := by
  constructor
  · exact fun h => h hbefore reading hload hcontract
  · intro h _ reading' hload' _
    rw [hload] at hload'
    obtain rfl := Option.some.inj (Option.some.inj hload')
    exact h

theorem rows_eq_nil_iff {version : Text} {rows : List (Text × Record)} :
    rows = [] ↔
      rows.map (controlSnapshot version) = [] ∧ rows.flatMap (mappingSnapshot version) = [] := by
  constructor
  · rintro rfl
    exact ⟨rfl, rfl⟩
  · exact fun h => List.map_eq_nil_iff.mp h.1

/-- What an ingest that raises has written, of its own version. -/
structure Unfinished (pkg : Package) (a : Ingest) (w : Written) : Prop where
  controls : ∀ row ∈ w.controls, row.version = sha256Hex a.file
  mappings : ∀ row ∈ w.mappings, row.version = sha256Hex a.file
  unwritten : Unwritten pkg a ↔ w.controls = [] ∧ w.mappings = []

theorem part_nothing (h : Unwritten pkg a) (t : Tables) : Unfinished pkg a ⟨t, [], []⟩ where
  controls _ hrow := absurd hrow List.not_mem_nil
  mappings _ hrow := absurd hrow List.not_mem_nil
  unwritten := iff_of_true h ⟨rfl, rfl⟩

theorem part_sheet {reading : Reading} {t : Tables} (hbefore : a.before = .done)
    (hload : pkg.loadWorkbook a.file = some (some reading))
    (h : ingestSheet pkg.toWorkbench (sha256Hex a.file) t reading = .raised w) :
    Unfinished pkg a w := by
  rcases ingestSheet_eq_raised h with ⟨hcontract, hcontrols, hmappings⟩ |
    ⟨hcontract, hinterrupted, hw⟩
  · refine ⟨by simp [hcontrols], by simp [hmappings], iff_of_true ?_ ⟨hcontrols, hmappings⟩⟩
    intro _ reading' hload' hcontract'
    rw [hload] at hload'
    obtain rfl := Option.some.inj (Option.some.inj hload')
    rw [hcontract] at hcontract'
    cases hcontract'
  · refine ⟨by simp [hw.controls], hw.version, ?_⟩
    rw [unwritten_iff hbefore hload hcontract, hinterrupted, if_pos rfl, ← hw.mappings]
    exact ⟨fun h => ⟨hw.controls, h⟩, And.right⟩

theorem part_after {reading : Reading} {t : Tables} (hbefore : a.before = .done)
    (hload : pkg.loadWorkbook a.file = some (some reading))
    (h : ingestSheet pkg.toWorkbench (sha256Hex a.file) t reading = .done w) :
    Unfinished pkg a w := by
  obtain ⟨hinterrupted, hcontract, hcontrols, hmappings⟩ := ingestSheet_eq_done h
  refine ⟨?_, ?_, ?_⟩
  · rw [hcontrols]
    exact version_controlSnapshot _ _
  · rw [hmappings]
    exact version_mappingSnapshot _ _
  · rw [unwritten_iff hbefore hload hcontract, hinterrupted, if_neg Bool.false_ne_true, hcontrols,
      hmappings]
    exact rows_eq_nil_iff

theorem ingestWorkbook_eq_raised (h : ingestWorkbook pkg s a = .raised s') :
    ∃ w status, s' = s.record a.file status w ∧ status ≠ .succeeded ∧ Unfinished pkg a w := by
  unfold ingestWorkbook at h
  dsimp only at h
  split at h
  · rename_i hload
    obtain rfl := Outcome.raised.inj h
    refine ⟨_, _, rfl, RunStatus.noConfusion, part_nothing (fun _ reading hread => ?_) _⟩
    rw [hload] at hread
    cases hread
  · cases h
  · rename_i hbefore
    obtain rfl := Outcome.raised.inj h
    refine ⟨_, _, rfl, RunStatus.noConfusion, part_nothing (fun hdone => ?_) _⟩
    rw [hbefore] at hdone
    cases hdone
  · rename_i assessment hload hbefore
    have hunread : assessment = none → Unwritten pkg a := by
      rintro rfl _ reading hread
      rw [hload] at hread
      cases hread
    split at h
    · cases h
    · rename_i w hsheet
      obtain rfl := Outcome.raised.inj h
      refine ⟨_, _, rfl, RunStatus.noConfusion, ?_⟩
      cases assessment with
      | none => cases hsheet
      | some reading => exact part_sheet hbefore hload hsheet
    · cases h
    · rename_i w hsheet _
      obtain rfl := Outcome.raised.inj h
      refine ⟨_, _, rfl, RunStatus.noConfusion, ?_⟩
      cases assessment with
      | none =>
        obtain rfl := Outcome.done.inj hsheet
        exact part_nothing (hunread rfl) _
      | some reading => exact part_after hbefore hload hsheet
    · cases h

end Workbook

/-! ## Every sequence of ingests -/

theorem completed_record (s : Store) (file : Bytes) (status : RunStatus) (w : Written) :
    (s.record file status w).completed =
      s.completed ++ if status = .succeeded then [file] else [] := by
  unfold Store.completed Store.record
  rw [List.filter_append, List.map_append]
  cases status <;> rfl

theorem nodup_columns {version : Text} {rows : List (Text × Record)}
    (h : (rows.map Prod.fst).Nodup) :
    ((rows.flatMap (mappingSnapshot version)).map fun row =>
      (row.identifier, row.columnKey)).Nodup := by
  induction rows with
  | nil => exact List.nodup_nil
  | cons row rows ih =>
    rw [List.map_cons, List.nodup_cons] at h
    rw [List.flatMap_cons, List.map_append, List.nodup_append]
    refine ⟨?_, ih h.2, ?_⟩
    · have hcolumns : (mappingSnapshot version row).map (fun r => (r.identifier, r.columnKey)) =
          ((row.2.items.filter fun kv => kv.1 ∉ coreHeaders ∧ clean kv.2 ≠ .empty).map
            Prod.fst).map fun column => (row.1, column) := by
        rw [mappingSnapshot, List.map_map, List.map_map]
        rfl
      rw [hcolumns]
      exact ((List.filter_sublist.map _).nodup row.2.nodup).map fun _ _ heq => (Prod.mk.inj heq).2
    · rintro x hx y hy rfl
      obtain ⟨r, hr, rfl⟩ := List.mem_map.mp hx
      obtain ⟨kv, -, rfl⟩ := List.mem_map.mp hr
      obtain ⟨r', hr', heq⟩ := List.mem_map.mp hy
      obtain ⟨row', hrow', hr'⟩ := List.mem_flatMap.mp hr'
      obtain ⟨kv', -, rfl⟩ := List.mem_map.mp hr'
      have hkey : row'.1 = row.1 := (Prod.mk.inj heq).1
      exact h.1 (hkey ▸ List.mem_map_of_mem hrow')

section Runs

variable {pkg : Package} {s s' : Store} {a : Ingest} {w : Written}

theorem oneSnapshot_unfinished_iff (h : OneSnapshot pkg s) {status : RunStatus}
    (hstatus : status ≠ .succeeded) (hw : Unfinished pkg a w) :
    OneSnapshot pkg (s.record a.file status w) ↔ Unwritten pkg a := by
  have hcompleted : (s.record a.file status w).completed = s.completed := by
    rw [completed_record, if_neg hstatus, List.append_nil]
  rw [hw.unwritten, ← h.controls.append_iff hw.controls, ← h.mappings.append_iff hw.mappings]
  constructor
  · intro h'
    rw [← hcompleted]
    exact ⟨h'.controls, h'.mappings⟩
  · rintro ⟨hcontrols, hmappings⟩
    constructor <;> rw [hcompleted]
    exacts [h.identifiers, h.columns, hcontrols, hmappings]

/-- An ingest that completes does if the version is new and the keys are distinct. -/
theorem oneSnapshot_completed_iff (h : OneSnapshot pkg s)
    (hcontrols : w.controls = pkg.controlRows a.file)
    (hmappings : w.mappings = pkg.mappingRows a.file) :
    OneSnapshot pkg (s.record a.file .succeeded w) ↔
      ((pkg.rows a.file).map Prod.fst).Nodup ∧
        ∀ f ∈ s.completed, sha256Hex f = sha256Hex a.file →
          pkg.rows f = [] ∧ pkg.rows a.file = [] := by
  have hcompleted : (s.record a.file .succeeded w).completed = s.completed ++ [a.file] := by
    rw [completed_record, if_pos rfl]
  have hcontrolHistory : (s.record a.file .succeeded w).controlHistory =
      s.controlHistory ++ pkg.controlRows a.file := by rw [← hcontrols]; rfl
  have hmappingHistory : (s.record a.file .succeeded w).mappingHistory =
      s.mappingHistory ++ pkg.mappingRows a.file := by rw [← hmappings]; rfl
  have hcontrolsIff := h.controls.complete_iff (version_controlSnapshot _ (pkg.rows a.file))
  have hmappingsIff := h.mappings.complete_iff (version_mappingSnapshot _ (pkg.rows a.file))
  rw [← hcompleted, ← hcontrolHistory] at hcontrolsIff
  rw [← hcompleted, ← hmappingHistory] at hmappingsIff
  constructor
  · intro h'
    refine ⟨h'.identifiers _ (hcompleted ▸ List.mem_append_right _ List.mem_cons_self), ?_⟩
    intro f hf hsame
    obtain ⟨hf, hfile⟩ := hcontrolsIff.mp h'.controls f hf hsame
    exact ⟨List.map_eq_nil_iff.mp hf, List.map_eq_nil_iff.mp hfile⟩
  · rintro ⟨hkeys, hnone⟩
    have hidentifiers : ∀ f ∈ (s.record a.file .succeeded w).completed,
        ((pkg.rows f).map Prod.fst).Nodup := by
      intro f hf
      rw [hcompleted, List.mem_append, List.mem_singleton] at hf
      rcases hf with hf | rfl
      · exact h.identifiers f hf
      · exact hkeys
    refine ⟨hidentifiers, fun f hf => nodup_columns (hidentifiers f hf), ?_, ?_⟩
    · refine hcontrolsIff.mpr fun f hf hsame => ?_
      obtain ⟨hf, hfile⟩ := hnone f hf hsame
      exact ⟨(rows_eq_nil_iff.mp hf).1, (rows_eq_nil_iff.mp hfile).1⟩
    · refine hmappingsIff.mpr fun f hf hsame => ?_
      obtain ⟨hf, hfile⟩ := hnone f hf hsame
      exact ⟨(rows_eq_nil_iff.mp hf).2, (rows_eq_nil_iff.mp hfile).2⟩

theorem clean_iff (h : OneSnapshot pkg s) (hstep : step pkg s a = some s') :
    Clean pkg s a ↔ OneSnapshot pkg s' := by
  unfold step at hstep
  unfold Clean
  cases hout : ingestWorkbook pkg s a with
  | lost =>
    rw [hout] at hstep
    obtain rfl := Option.some.inj hstep
    exact iff_of_true trivial h
  | raised left =>
    rw [hout] at hstep
    obtain ⟨w, status, hleft, hstatus, hw⟩ := ingestWorkbook_eq_raised hout
    cases hcaller : a.caller with
    | cli =>
      rw [hcaller] at hstep
      obtain rfl := Option.some.inj hstep
      exact iff_of_true (fun hpoll => Caller.noConfusion hpoll) h
    | poll =>
      rw [hcaller] at hstep
      obtain rfl := Option.some.inj hstep
      rw [hleft, oneSnapshot_unfinished_iff h hstatus hw]
      exact ⟨fun hclean => hclean rfl, fun hnone _ => hnone⟩
  | done left =>
    rw [hout] at hstep
    obtain rfl := Option.some.inj hstep
    obtain ⟨w, rfl, hcontrols, hmappings⟩ := ingestWorkbook_eq_done hout
    exact (oneSnapshot_completed_iff h hcontrols hmappings).symm

def start (t : Tables) : Store := ⟨t, [], [], [], []⟩

theorem oneSnapshot_start (pkg : Package) (t : Tables) : OneSnapshot pkg (start t) where
  identifiers _ hf := absurd hf List.not_mem_nil
  columns _ hf := absurd hf List.not_mem_nil
  controls := ⟨fun _ hf => absurd hf List.not_mem_nil, fun _ hr => absurd hr List.not_mem_nil⟩
  mappings := ⟨fun _ hf => absurd hf List.not_mem_nil, fun _ hr => absurd hr List.not_mem_nil⟩

/-- **When there is one snapshot for each version.** -/
theorem histories_iff (pkg : Package) (t : Tables) (as : List Ingest) :
    (∀ bs s, bs <+: as → exec (step pkg) (start t) bs = some s → OneSnapshot pkg s) ↔
      Guarded (step pkg) (Clean pkg) (start t) as := by
  have hsome : ∀ s a, step pkg s a ≠ none := by
    intro s a
    unfold step
    split <;> exact Option.some_ne_none _
  refine (guarded_iff_invariant (I := fun _ => True) (fun _ _ _ _ _ => trivial)
    (fun s a _ hnone => absurd hnone (hsome s a)) ?_ trivial (oneSnapshot_start pkg t)).symm
  exact fun s a s' _ h hstep => clean_iff h hstep

end Runs

/-! ## A workbook that is ingested again -/

def oneControl : Package :=
  { plainWorkbench with
    loadWorkbook := fun _ =>
      some (some ⟨⟨identifierHeader, [identified "AC-1".toList]⟩, false⟩) }

def oneSheet : Reading :=
  ⟨⟨identifierHeader, [identified "AC-1".toList]⟩, false⟩

theorem ingestAssessment_of_oneSheet :
    ∃ w, ingestSheet plainWorkbench [] noTables oneSheet = .done w ∧
      ingestAssessment plainWorkbench noTables oneSheet.sheet = .ok w.tables :=
  have h : ingestSheet plainWorkbench [] noTables oneSheet = .done _ := rfl
  ⟨_, h, ingestAssessment_of_ingestSheet h⟩

/-- The second ingest adds a second snapshot. -/
theorem ingested_twice :
    ¬ ∀ (pkg : Package) (t : Tables) (as : List Ingest) (s : Store),
      exec (step pkg) (start t) as = some s → OneSnapshot pkg s := by
  intro h
  let again : Ingest := ⟨[], .cli, .done, .done⟩
  obtain ⟨s₁, s₂, hfirst, hsecond, hcompleted, hrows⟩ :
      ∃ s₁ s₂, ingestWorkbook oneControl (start noTables) again = .done s₁ ∧
        ingestWorkbook oneControl s₁ again = .done s₂ ∧ s₁.completed = [[]] ∧
          oneControl.rows [] ≠ [] := by
    refine ⟨_, _, rfl, rfl, rfl, List.cons_ne_nil _ _⟩
  have hstep₁ : step oneControl (start noTables) again = some s₁ := by
    unfold step
    rw [hfirst]
  have hstep₂ : step oneControl s₁ again = some s₂ := by
    unfold step
    rw [hsecond]
  have hone₁ := h oneControl noTables [again] s₁ (exec_cons_eq_some.mpr ⟨s₁, hstep₁, rfl⟩)
  have hone₂ := h oneControl noTables [again, again] s₂
    (exec_cons_eq_some.mpr ⟨s₁, hstep₁, exec_cons_eq_some.mpr ⟨s₂, hstep₂, rfl⟩⟩)
  have hclean := (clean_iff hone₁ hstep₂).mpr hone₂
  unfold Clean at hclean
  rw [hsecond] at hclean
  exact hrows (hclean.2 [] (hcompleted ▸ List.mem_singleton_self []) rfl).1

end Concord.Etl.History
