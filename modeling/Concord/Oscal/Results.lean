import Concord.Oscal.Tokens
import Mathlib.Data.List.ReduceOption

/-!
# The assessment results

`build_sar_doc` of `ccf/api/routes/oscal.py`: its findings. Two tables hold what was determined.
`assessment_results` has one row for an implementation that was assessed; a row of
`assessment_control_results` is of a control, and has the findings of its objectives. The document
goes through the first and looks up the second.

Every finding is given with what it reports.
-/

namespace Concord.Oscal

open Concord.Python Concord.Assessment

/-! ## Determinations -/

/-- `ALL_CANONICAL_FINDINGS`. -/
inductive CanonicalFinding
  | satisfied | otherThanSatisfied | notApplicable | notAssessed | unknown
  deriving DecidableEq

/-- `_FINDING_ALIASES`. -/
def findingAliases : List (Text × CanonicalFinding) :=
  [("satisfied".toList, .satisfied),
    ("other_than_satisfied".toList, .otherThanSatisfied),
    ("not_applicable".toList, .notApplicable),
    ("not_assessed".toList, .notAssessed),
    ("implemented".toList, .satisfied),
    ("inherited".toList, .satisfied),
    ("not_implemented".toList, .otherThanSatisfied),
    ("planned".toList, .otherThanSatisfied),
    ("partial".toList, .otherThanSatisfied),
    ("not_satisfied".toList, .otherThanSatisfied),
    ("insufficient_evidence".toList, .notAssessed),
    ("pass".toList, .satisfied),
    ("fail".toList, .otherThanSatisfied),
    ("warn".toList, .otherThanSatisfied),
    ("not_tested".toList, .notAssessed),
    ("manual_review_required".toList, .notAssessed)]

/-- `normalize_finding`. -/
def normalizeFinding (lower : Text → Text) (value : Option Text) : CanonicalFinding :=
  let key := lower (strip (value.getD []))
  if value = none ∨ key = [] then .notAssessed
  else (findingAliases.lookup key).getD .unknown

/-- The two states OSCAL has. -/
inductive FindingState
  | satisfied | notSatisfied
  deriving DecidableEq

/-- `_OSCAL_FINDING_STATE`. -/
def oscalFindingState : CanonicalFinding → FindingState
  | .satisfied => .satisfied
  | _ => .notSatisfied

/-- `_finding_status_props`. -/
def findingStatusProps (lower : Text → Text) (rawFinding : Option Text) :
    FindingState × List (Text × Text) :=
  let canonical := normalizeFinding lower rawFinding
  let raw := (orElse rawFinding none).getD "not_assessed".toList
  let determination := (lower (strip raw)).map fun c => if c = '_' then '-' else c
  let props := match canonical with
    | .notApplicable => [("applicability".toList, "not-applicable".toList)]
    | .notAssessed | .unknown => [("determination".toList, oscalToken determination)]
    | _ => []
  (oscalFindingState canonical, props)

theorem findingStatusProps_satisfied {lower : Text → Text} {finding : Option Text} :
    (findingStatusProps lower finding).1 = .satisfied ↔
      normalizeFinding lower finding = .satisfied := by
  show oscalFindingState (normalizeFinding lower finding) = .satisfied ↔ _
  cases normalizeFinding lower finding <;> simp [oscalFindingState]

/-! ## What is stored -/

/-- An entry of `objective_findings`. -/
structure Part where
  label : Option Text
  finding : Option Text
  text : Option Text
  rationale : Option Text

/-- A row of `assessment_control_results`; an entry of its list need not be an object. -/
structure AssessmentControlResult where
  id : Nat
  controlId : Text
  finding : Text
  objectiveFindings : List (Option Part)

/-- `[p for p in (row.objective_findings or []) if isinstance(p, dict)]`. -/
def AssessmentControlResult.parts (row : AssessmentControlResult) : List Part :=
  row.objectiveFindings.reduceOption

/-- A part, with the row it is of and its place there. -/
structure Objective where
  row : Nat
  index : Nat
  part : Part

def AssessmentControlResult.objectives (row : AssessmentControlResult) : List Objective :=
  row.parts.zipIdx.map fun p => ⟨row.id, p.2, p.1⟩

/-- `finding_status`. -/
inductive FindingStatus
  | satisfied | otherThanSatisfied | notApplicable
  deriving DecidableEq

def FindingStatus.text : FindingStatus → Text
  | .satisfied => "satisfied".toList
  | .otherThanSatisfied => "other_than_satisfied".toList
  | .notApplicable => "not_applicable".toList

/-- A row of `assessment_results`. -/
structure AssessmentResult where
  implementationId : Nat
  finding : FindingStatus
  rationale : Option Text

/-- The columns of `controls` that are read. -/
structure CatalogControl where
  identifier : Text
  controlName : Option Text

/-- One assessment, each table in the order it is read, with the catalog control of an
implementation and the evidence there is. -/
structure Assessed where
  control : Nat → Option CatalogControl
  /-- `evidence_objects`: the ids, with the implementation -/
  evidence : List (Nat × Option Nat)
  results : List AssessmentResult
  controlResults : List AssessmentControlResult
  /-- the primary key of `assessment_control_results` -/
  ids : (controlResults.map AssessmentControlResult.id).Nodup

/-! ## `build_sar_doc` -/

/-- What a finding reports. -/
inductive Origin
  | objective (row index : Nat)
  | control (oscalCid : Text)
  deriving DecidableEq

/-- A finding of the document; an observation stands for its evidence. -/
structure Finding where
  title : Text
  description : Text
  targetId : Text
  state : FindingState
  props : List (Text × Text)
  relatedObservations : List Nat

structure Reported where
  origin : Origin
  finding : Finding

/-- `f"{target_id}-{len(seen_targets) + 1}"`. -/
def numbered (targetId : Text) (n : Nat) : Text := targetId ++ '-' :: natText n

section Build

variable (lower : Text → Text)

/-- `_objective_findings_by_control`: what it has for one control. -/
def objectiveFindings (rows : List AssessmentControlResult) (oscalCid : Text) : List Objective :=
  (rows.filter fun row => oscalControlId lower row.controlId = oscalCid).flatMap
    AssessmentControlResult.objectives

def objectiveFinding (oscalCid controlTitle : Text) (related : List Nat) (targetId : Text)
    (objective : Objective) : Reported :=
  let part := objective.part
  let display := strip (stripDedupSuffix (part.label.getD []))
  let status := findingStatusProps lower part.finding
  { origin := .objective objective.row objective.index
    finding := {
      title :=
        if display = [] then oscalCid ++ ": ".toList ++ controlTitle
        else oscalCid ++ " [".toList ++ display ++ "]: ".toList ++ controlTitle
      description := (orElse part.rationale part.text).getD []
      targetId := targetId
      state := status.1
      props := status.2
      relatedObservations := related } }

/-- The loop over the parts of a control, from the targets seen so far. -/
def partFindings (oscalCid controlTitle : Text) (related : List Nat) :
    List Text → List Objective → List Reported
  | _, [] => []
  | seen, objective :: objectives =>
    let targetId := statementId oscalCid (objective.part.label.getD [])
    let targetId := if targetId ∈ seen then numbered targetId (seen.length + 1) else targetId
    objectiveFinding lower oscalCid controlTitle related targetId objective ::
      partFindings oscalCid controlTitle related (seen.insert targetId) objectives

def controlFinding (oscalCid controlTitle : Text) (related : List Nat) (r : AssessmentResult) :
    Reported :=
  let status := findingStatusProps lower (some r.finding.text)
  { origin := .control oscalCid
    finding := {
      title := oscalCid ++ ": ".toList ++ controlTitle
      description := r.rationale.getD []
      targetId := oscalCid ++ "_smt".toList
      state := status.1
      props := status.2
      relatedObservations := related } }

/-- `oscal_cid_by_impl[r.implementation_id]`. -/
def Assessed.oscalCid (a : Assessed) (r : AssessmentResult) : Text :=
  oscalControlId lower ((a.control r.implementationId).map CatalogControl.identifier)

/-- What one row of `assessment_results` comes to. -/
def Assessed.resultFindings (a : Assessed) (r : AssessmentResult) : List Reported :=
  let oscalCid := a.oscalCid lower r
  let controlTitle := ((a.control r.implementationId).bind CatalogControl.controlName).getD []
  let related := (a.evidence.filter fun e => e.2 = some r.implementationId).map Prod.fst
  match objectiveFindings lower a.controlResults oscalCid with
  | [] => [controlFinding lower oscalCid controlTitle related r]
  | parts => partFindings lower oscalCid controlTitle related [] parts

/-- `build_sar_doc`: the findings. -/
def buildSarDoc (a : Assessed) : List Reported := a.results.flatMap (a.resultFindings lower)

end Build

end Concord.Oscal
