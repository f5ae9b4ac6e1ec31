import Concord.Ssp.Generate

/-!
# The scan view and the readiness gate

What live test evidence means for an SSP project is read in two more places than its statements:
`project_scan_sync` of `ccf/ssp/sync.py`, which lists the evidence of each entry, and
`_machine_evidence_dict` of `ccf/ssp/completeness_query.py`, which counts what stands in the way of
declaring the project ready (`_readiness_blockers` and `assess` of `ccf/ssp/completeness.py`).

The scan view reads the latest result of a test and every control the test declares; the gate reads
the latest result, or the last status where there is none, and the first control alone. Neither
looks at the practices of a check.

How complete the document itself is, and its score, are given or left out.
-/

namespace Concord.Ssp

open Concord.Python

/-! ## What is read beside the tests -/

/-- A row of `control_test_results`. -/
structure TestResult where
  id : Nat
  controlTestId : Nat
  runAt : Int
  status : Governance.ValidationStatus
  detail : Option Text
  evidenceRef : Option Text
  expected : Option Text
  evaluated : Nat
  failing : Nat
  waived : Nat

/-- A POA&M, as the gate counts them. -/
structure TrackedPoam where
  systemId : Option Nat
  severity : Text
  active : Bool
  deriving DecidableEq

/-- The tables the two views read beside the tests. -/
structure Ledger where
  results : List TestResult
  /-- `run_at.date().isoformat()` -/
  isodate : Int → Text
  /-- `ControlTest.connector_type` and `ControlTest.expected`, by the id of the test -/
  connectorType : Nat → Option Text
  expected : Nat → Option Text
  poams : List TrackedPoam
  /-- `needs_manual_responsibility_assignment` on the platform of the project -/
  needsManualAssignment : Option Text → Bool

/-- `ORDER BY run_at DESC, id DESC`. -/
def TestResult.later (r b : TestResult) : Bool :=
  b.runAt < r.runAt || (r.runAt = b.runAt && b.id < r.id)

/-- `latest_result_id`: the first of the results of a test in that order. -/
def Ledger.latest (l : Ledger) (t : ControlTest) : Option TestResult :=
  (l.results.filter fun r => r.controlTestId = t.id).foldl
    (fun best r =>
      match best with
      | none => some r
      | some b => if r.later b then some r else some b)
    none

/-- `_FINDING_STATUSES`. -/
def isFinding (status : Governance.ValidationStatus) : Bool := status = .fail || status = .warn

/-- `_GAP_STATUSES`. -/
def isGap (status : Governance.ValidationStatus) : Bool :=
  isFinding status || status = .manualReviewRequired

def Surroundings.testsOf (w : Surroundings) (systemId : Nat) : List ControlTest :=
  w.tests.filter fun t => t.systemId = some systemId

/-! ## `project_scan_sync` -/

/-- What the view says of a result. -/
structure ScanRow where
  testId : Nat
  resultId : Nat
  checkKey : Option Text
  check : Text
  connector : Option Text
  status : Governance.ValidationStatus
  detail : Option Text
  expected : Option Text
  evidenceRef : Option Text
  evaluated : Nat
  failing : Nat
  waived : Nat
  observedOn : Text
  poam : Option Nat

/-- A row under `manual_review_required`. -/
inductive ManualRow
  | result (row : ScanRow)
  | unlinked (reason : Text)

inductive ScanImpact
  | openPoamOrFinding | manualEvidenceRequired | automatedEvidenceAvailable | noScanEvidence
  deriving DecidableEq

/-- What the view shows of an entry. -/
structure ScanControl where
  entry : Entry
  passingEvidence : List ScanRow
  openFindings : List ScanRow
  manualReviewRequired : List ManualRow
  impact : ScanImpact

/-- The numbers over the view. -/
structure ScanSummary where
  controls : Nat
  withPassingEvidence : Nat
  withOpenFindings : Nat
  manualReviewRequired : Nat
  sspBlockers : Nat
  deriving DecidableEq

structure ScanSync where
  systemId : Option Nat
  summary : ScanSummary
  controls : List ScanControl

section

variable (w : Surroundings) (l : Ledger)

def scanRow (t : ControlTest) (r : TestResult) : ScanRow where
  testId := t.id
  resultId := r.id
  checkKey := t.checkKey
  check := t.name
  connector := l.connectorType t.id
  status := r.status
  detail := r.detail
  expected := (orElse r.expected none).or (l.expected t.id)
  evidenceRef := r.evidenceRef
  evaluated := r.evaluated
  failing := r.failing
  waived := r.waived
  observedOn := l.isodate r.runAt
  poam := if isFinding r.status then w.poamByTest t.id else none

/-- `result_rows`. -/
def resultRows (systemId : Nat) : List (ControlTest × TestResult) :=
  (w.testsOf systemId).filterMap fun t => (l.latest t).map fun r => (t, r)

/-- The rows of the results that are selected, under each control their test names. -/
def scanned (systemId : Nat) (names : ControlTest → List Text)
    (selects : Governance.ValidationStatus → Bool) (controlId : Text) : List ScanRow :=
  (resultRows w l systemId).flatMap fun tr =>
    if selects tr.2.status then
      ((names tr.1).filter (· = controlId)).map fun _ => scanRow w l tr.1 tr.2
    else []

/-- `passing_by_control`. -/
def passingByControl (systemId : Nat) : Text → List ScanRow :=
  scanned w l systemId (fun t => evidencedControls t.controlId []) fun s => s = .pass

/-- `findings_by_control`. -/
def findingsByControl (systemId : Nat) : Text → List ScanRow :=
  scanned w l systemId (fun t => evidencedControls t.controlId t.controlIds) isFinding

/-- `manual_by_control`. -/
def manualByControl (systemId : Nat) : Text → List ScanRow :=
  scanned w l systemId (fun t => evidencedControls t.controlId t.controlIds) fun s =>
    s = .manualReviewRequired

def scanControl (systemId : Nat) (e : Entry) : ScanControl :=
  let passing := passingByControl w l systemId e.controlId
  let findings := findingsByControl w l systemId e.controlId
  let manual := manualByControl w l systemId e.controlId
  { entry := e
    passingEvidence := passing
    openFindings := findings
    manualReviewRequired := manual.map .result
    impact :=
      if !findings.isEmpty then .openPoamOrFinding
      else if !manual.isEmpty then .manualEvidenceRequired
      else if !passing.isEmpty then .automatedEvidenceAvailable
      else .noScanEvidence }

/-- The view of an entry of a project without a system. -/
def unlinkedControl (e : Entry) : ScanControl where
  entry := e
  passingEvidence := []
  openFindings := []
  manualReviewRequired := [.unlinked "SSP project is not linked to a system".toList]
  impact := .manualEvidenceRequired

/-- `project_scan_sync`. -/
def projectScanSync (p : Project) : ScanSync :=
  match p.systemId with
  | none =>
    { systemId := none
      summary := ⟨p.entries.length, 0, 0, 0, p.entries.length⟩
      controls := p.entries.map unlinkedControl }
  | some systemId =>
    let controls := p.entries.map (scanControl w l systemId)
    { systemId := some systemId
      summary := {
        controls := p.entries.length
        withPassingEvidence := controls.countP fun c => !c.passingEvidence.isEmpty
        withOpenFindings := controls.countP fun c => !c.openFindings.isEmpty
        manualReviewRequired := controls.countP fun c => !c.manualReviewRequired.isEmpty
        sspBlockers := controls.countP fun c =>
          !c.openFindings.isEmpty || !c.manualReviewRequired.isEmpty }
      controls := controls }

/-! ## The gate -/

/-- The control ids of a project, those that say nothing apart. -/
def Project.controlIds (p : Project) : List Text :=
  (p.entries.map Entry.controlId).filter (· ≠ [])

def gateStatus (t : ControlTest) : Option Governance.ValidationStatus :=
  match l.latest t with
  | some r => some r.status
  | none => t.lastStatus

/-- The control and the status of each row of the gate's query. -/
def gapRows (systemId : Nat) (p : Project) : List (Text × Governance.ValidationStatus) :=
  (w.testsOf systemId).filterMap fun t =>
    (gateStatus l t).bind fun status =>
      if isGap status && decide (t.controlId ∈ p.controlIds) then some (t.controlId, status)
      else none

/-- `failing_controls`. -/
def failingControls (systemId : Nat) (p : Project) : List Text :=
  ((gapRows w l systemId p).filterMap fun q =>
    if q.2 = .manualReviewRequired then none else some q.1).dedup

/-- `unverified_controls`, less the failing ones. -/
def unverifiedControls (systemId : Nat) (p : Project) : List Text :=
  ((gapRows w l systemId p).filterMap fun q =>
    if q.2 = .manualReviewRequired ∧ q.1 ∉ failingControls w l systemId p then some q.1
    else none).dedup

/-- What `_machine_evidence_dict` returns. -/
structure MachineEvidence where
  controlsWithOpenFindings : Nat
  controlsNotMachineVerified : Nat
  openPoamsBySeverity : Text → Nat
  missingResponsibilityTemplates : List Text

/-- `_machine_evidence_dict`. -/
def machineEvidence (p : Project) : Option MachineEvidence :=
  p.systemId.map fun systemId =>
    { controlsWithOpenFindings := (failingControls w l systemId p).length
      controlsNotMachineVerified := (unverifiedControls w l systemId p).length
      openPoamsBySeverity := fun severity =>
        l.poams.countP fun q => q.systemId = some systemId && q.active && q.severity = severity
      missingResponsibilityTemplates :=
        (p.entries.filter fun e => l.needsManualAssignment e.domain).map Entry.controlId }

end

/-- `BLOCKING_POAM_SEVERITIES`. -/
def blockingPoamSeverities : List Text := ["critical".toList, "high".toList]

/-- `_readiness_blockers`. -/
def readinessBlockers (m : MachineEvidence) : List Text :=
  (if m.controlsNotMachineVerified = 0 then []
    else [natText m.controlsNotMachineVerified ++
      " control(s) could not be assessed automatically ".toList ++
      "(manual_review_required) and rest on manual evidence".toList]) ++
  (if m.controlsWithOpenFindings = 0 then []
    else [natText m.controlsWithOpenFindings ++
      " control(s) have an open finding from automated testing".toList]) ++
  (blockingPoamSeverities.filterMap fun severity =>
    if m.openPoamsBySeverity severity = 0 then none
    else some (natText (m.openPoamsBySeverity severity) ++ " open ".toList ++ severity ++
      "-severity POA&M(s)".toList)) ++
  (if m.missingResponsibilityTemplates = [] then []
    else [natText m.missingResponsibilityTemplates.length ++
      " control(s) lack provider shared-responsibility template coverage".toList])

/-- What `assess` finds of the document itself: the controls that lack nothing, and the sections
that are missing. -/
structure Document where
  controlsComplete : Nat
  missingSections : List Text

/-- The report of `assess`, as far as readiness goes. -/
structure Readiness where
  ready : Bool
  controlsTotal : Nat
  controlsComplete : Nat
  missingSections : List Text
  readinessBlockers : List Text
  readinessMeasured : Bool
  notYetGated : List Text
  deriving DecidableEq

/-- `assess`. -/
def assess (total : Nat) (doc : Document) (m : Option MachineEvidence) : Readiness :=
  let blockers := (m.map readinessBlockers).getD []
  { ready := total ≠ 0 && doc.controlsComplete = total && doc.missingSections.isEmpty &&
      blockers.isEmpty
    controlsTotal := total
    controlsComplete := doc.controlsComplete
    missingSections := doc.missingSections
    readinessBlockers := blockers
    readinessMeasured := m.isSome
    notYetGated :=
      if m.isSome then []
      else ["automated findings and POA&Ms (no system linked to this project)".toList] }

/-- `project_completeness`, of a document that is so far complete. -/
def projectCompleteness (w : Surroundings) (l : Ledger) (p : Project) (doc : Document) :
    Readiness :=
  assess p.entries.length doc (machineEvidence w l p)

end Concord.Ssp
