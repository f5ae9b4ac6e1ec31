import Concord.Base.Counts
import Concord.Fedramp20x.Context
import Concord.Packs.Catalog
import Concord.Python.Floats
import Concord.Scoring.Engine
import Mathlib.Data.List.Lex

/-!
# Posture against a framework

`ccf/analytics/framework_posture.py`, with `ccf/catalog/crosswalk.py` and `ccf/posture/evidence.py`:
the controls of a baseline, or the requirements of 800-171, by what tests and claims say of them.

A verdict reaches a requirement by the practices that its check was written for or, where there are
none, by the controls that it declares and the requirements that these are related to. A pass goes
by the primary one alone. Whatever the route, the five buckets part the denominator
(`Buckets.partition`).

The sum over the systems of a framework has four of the five: what is to be reviewed by hand is in
its total and in none of its counts (`orgPosture_accounts_iff`).
-/

namespace Concord.Analytics.FrameworkPosture

open Concord.Python
open Concord.Fedramp20x (evidencedControls)
open Concord.Packs.Catalog (sorted)
open Concord.Scoring (metStates partlyDone)

/-! ## Identifiers -/

/-- `s.split(marker)[0]`. -/
def cutAt (marker : Text) : Text → Text
  | [] => []
  | c :: s => if marker <+: c :: s then [] else c :: cutAt marker s

/-- The value of `0*(\d+)` at the start, with the rest. -/
def leadingNumber (s : Text) : Option (Nat × Text) :=
  match s.takeWhile isDecimal with
  | [] => none
  | digits => some (digits.foldl (fun n c => 10 * n + decimalValue c) 0, s.dropWhile isDecimal)

/-- `[A-Z]`. -/
def isCapital (c : Char) : Bool := 'A' ≤ c ∧ c ≤ 'Z'

/-- `^([A-Z]{2,3})-0*(\d+)(?:\(0*(\d+)\))?`, in its spelling without zeros. -/
def controlAt (s : Text) : Option Text :=
  let family := s.takeWhile isCapital
  match s.dropWhile isCapital with
  | '-' :: rest =>
    if family.length = 2 ∨ family.length = 3 then
      (leadingNumber rest).map fun (number, rest) =>
        let base := family ++ '-' :: natText number
        match rest with
        | '(' :: rest =>
          match leadingNumber rest with
          | some (enhancement, ')' :: _) => base ++ '(' :: natText enhancement ++ [')']
          | _ => base
        | _ => base
    else none
  | _ => none

/-- `identifier.strip().upper().split("_ODP")[0]`. -/
def cleaned (upper : Text → Text) (identifier : Text) : Text :=
  cutAt "_ODP".toList (upper (strip identifier))

/-- `fold_to_control`. -/
def foldToControl (upper : Text → Text) (identifier : Text) : Option Text :=
  if identifier = [] then none else controlAt (cleaned upper identifier)

/-- `_canonical`. -/
def canonical (upper : Text → Text) (identifier : Text) : Text :=
  (controlAt (cleaned upper identifier)).getD (cleaned upper identifier)

/-- `re.sub(r"\(\d+\)$", "", s)`. -/
def withoutEnhancement (s : Text) : Text :=
  let body := beforeEnd s
  match body.reverse with
  | ')' :: rest =>
    match rest.takeWhile isDecimal, rest.dropWhile isDecimal with
    | _ :: _, '(' :: before => before.reverse ++ s.drop body.length
    | _, _ => s
  | _ => s

/-- `^(3)\.(\d+)\.(\d+)`. -/
def dotted : Text → Option Text
  | '3' :: '.' :: rest =>
    match leadingNumber rest with
    | some (section', '.' :: rest) => (leadingNumber rest).map fun (item, _) =>
        "3.".toList ++ natText section' ++ '.' :: natText item
    | _ => none
  | _ => none

/-- `^0*(\d+)-0*(\d+)-0*(\d+)`, of the family 3. -/
def dashed (s : Text) : Option Text :=
  match leadingNumber s with
  | some (3, '-' :: rest) =>
    match leadingNumber rest with
    | some (section', '-' :: rest) => (leadingNumber rest).map fun (item, _) =>
        "3.".toList ++ natText section' ++ '.' :: natText item
    | _ => none
  | _ => none

/-- `requirement_from_value`. -/
def requirementFromValue (value : Text) : Option Text :=
  (dotted (strip value)).orElse fun _ => dashed (strip value)

/-- `practice.split("-", 1)[1] if "-" in practice else practice`. -/
def requirementOf (practice : Text) : Text :=
  if '-' ∈ practice then (practice.dropWhile (· ≠ '-')).drop 1 else practice

example : [" ac-02(03)(c)", "AC-06(01)_ODP_02", "AC2"].map (fun s =>
    foldToControl (·.map Char.toUpper) s.toList) =
      [some "AC-2(3)".toList, some "AC-6(1)".toList, none] ∧
    ["3.1.1 Limit access", "03-01-01f.03", "04-01-01"].map (fun s =>
      requirementFromValue s.toList) = [some "3.1.1".toList, some "3.1.1".toList, none] := by
  decide +kernel

/-! ## Rows -/

structure Control where
  id : Nat
  identifier : Text
  fismaLow : Option Bool
  fismaMod : Option Bool
  fismaHigh : Option Bool

structure ControlImplementation where
  controlId : Nat
  systemId : Nat
  status : Text

structure FrameworkMapping where
  controlId : Nat
  frameworkId : Nat
  columnKey : Text
  value : Text

structure ControlTest where
  systemId : Option Nat
  controlId : Text
  controlIds : Option (List Text)
  checkKey : Option Text
  checkSource : Option Text
  lastStatus : Option Text

structure ScoringControl where
  id : Nat
  nistId : Option Text
  controlId : Text

structure ScoringStatus where
  scoringControlId : Nat
  systemId : Nat
  state : Text
  source : Text

structure System where
  id : Nat
  organizationId : Nat
  name : Text
  baseline : Option Text
  deletedAt : Option Int

structure SystemProfile where
  systemId : Nat
  frameworks : List Text

/-- The tables, with the maps of `ccf/posture/practices.py`. -/
structure Db where
  controls : List Control := []
  implementations : List ControlImplementation := []
  /-- ids and codes -/
  frameworks : List (Nat × Text) := []
  frameworkMappings : List FrameworkMapping := []
  controlTests : List ControlTest := []
  scoringControls : List ScoringControl := []
  scoringStatuses : List ScoringStatus := []
  systems : List System := []
  profiles : List SystemProfile := []
  /-- `CHECK_PRACTICES` -/
  checkPractices : List (Text × List Text) := []
  /-- `UNMAPPED` -/
  unmapped : List Text := []

/-- A test of a system that has a verdict; what is null is empty. -/
structure Verdict where
  controlId : Text
  controlIds : List Text
  checkKey : Text
  checkSource : Text
  status : Text

/-- `ControlTest`s of the system with a `last_status`. -/
def Db.verdicts (db : Db) (systemId : Nat) : List Verdict :=
  (db.controlTests.filter fun t => t.systemId = some systemId).filterMap fun t =>
    t.lastStatus.map fun status =>
      ⟨t.controlId, t.controlIds.getD [], t.checkKey.getD [], t.checkSource.getD [], status⟩

def pass : Text := "pass".toList

def fail : Text := "fail".toList

def toReview : List Text := ["manual_review_required".toList, "warn".toList]

/-! ## Evidence -/

/-- `pass_attribution`. -/
def passAttribution (controlId : Text) : List Text :=
  if strip controlId ≠ [] then [strip controlId] else []

/-- `non_passing_attribution`. -/
def nonPassingAttribution (controlId : Text) (controlIds : List Text) : List Text :=
  evidencedControls controlId controlIds

/-- How a verdict comes to what it is about: all of it, the primary one, and what it names in the
first place, without a crosswalk. -/
structure Route where
  declared : Verdict → List Text
  primary : Verdict → List Text
  named : Verdict → List Text

/-- What a verdict is put down for. A pass credits the primary one only. -/
def Route.reach (r : Route) (v : Verdict) : List Text :=
  if v.status = pass then r.primary v else r.declared v

/-- What the tests of a system say: sets of statuses, by what they are of, as pairs. -/
structure Evidence where
  statuses : List (Text × Text)
  declaredByAPass : List Text
  passedByAttestation : List Text
  passedBySecurescore : List Text
  passedByConcord : List Text

def Evidence.having (e : Evidence) (statuses : List Text) : List Text :=
  (e.statuses.filter fun p => p.2 ∈ statuses).map Prod.fst

def attestedSource : Text := "attested:securityhub".toList

def securescoreSource : Text := "crosswalk:securescore".toList

def Route.evidence (r : Route) (verdicts : List Verdict) : Evidence :=
  let passes := verdicts.filter fun v => v.status = pass
  let passedBy := fun source : Text → Bool =>
    (passes.filter fun v => source v.checkSource).flatMap r.reach
  { statuses := verdicts.flatMap fun v => (r.reach v).map (·, v.status)
    declaredByAPass := passes.flatMap r.named
    passedByAttestation := passedBy (· = attestedSource)
    passedBySecurescore := passedBy (· = securescoreSource)
    passedByConcord := passedBy fun s => s ≠ attestedSource ∧ s ≠ securescoreSource }

structure Buckets where
  failing : List Text := []
  passing : List Text := []
  manualReview : List Text := []
  documented : List Text := []
  unaddressed : List Text := []
  partiallyEvidenced : List Text := []
  providerAttestedOnly : List Text := []
  securescoreCrosswalkOnly : List Text := []

/-- The buckets of a denominator, in its order. -/
def buckets (e : Evidence) (claimed total : List Text) : Buckets :=
  let failing := total.filter (· ∈ e.having [fail])
  let passing := total.filter fun c => c ∈ e.having [pass] ∧ c ∉ failing
  let manualReview := total.filter fun c => c ∈ e.having toReview ∧ c ∉ failing ∧ c ∉ passing
  let documented := total.filter fun c =>
    c ∈ claimed ∧ c ∉ failing ∧ c ∉ passing ∧ c ∉ manualReview
  let unaddressed := total.filter fun c =>
    c ∉ failing ∧ c ∉ passing ∧ c ∉ documented ∧ c ∉ manualReview
  { failing, passing, manualReview, documented, unaddressed
    partiallyEvidenced := unaddressed.filter (· ∈ e.declaredByAPass)
    providerAttestedOnly := passing.filter fun c =>
      c ∈ e.passedByAttestation ∧ c ∉ e.passedByConcord
    securescoreCrosswalkOnly := passing.filter fun c =>
      c ∈ e.passedBySecurescore ∧ c ∉ e.passedByConcord ∧ c ∉ e.passedByAttestation }

/-- What is measured of a system; percentages are in tenths. -/
structure Measured where
  baseline : Option Text
  total : Nat := 0
  buckets : Buckets := {}
  addressedPct : Int := 0
  assessedPct : Int := 0

/-- The measure of a denominator that is not empty. -/
def measured (baseline : Option Text) (b : Buckets) (total : List Text) : Measured where
  baseline := baseline
  total := total.length
  buckets := b
  addressedPct := percentTenths (b.passing.length + b.documented.length) total.length
  assessedPct := percentTenths (b.passing.length + b.failing.length) total.length

/-! ## A baseline -/

/-- `str.upper`, `str.lower` and `str.title`. -/
structure Strings where
  upper : Text → Text
  lower : Text → Text
  title : Text → Text

section Posture

variable (lib : Strings) (db : Db)

/-- `BASELINE_COLUMNS`. -/
def baselineColumn (baseline : Text) : Option (Control → Option Bool) :=
  if baseline = "low".toList then some Control.fismaLow
  else if baseline = "moderate".toList then some Control.fismaMod
  else if baseline = "high".toList then some Control.fismaHigh
  else none

/-- `baseline_controls`. -/
def baselineControls (baseline : Text) : List Text :=
  match baselineColumn (lib.lower baseline) with
  | none => []
  | some column =>
    sorted ((db.controls.filter fun c => column c = some true).filterMap fun c =>
      foldToControl lib.upper c.identifier)

def baselineRoute : Route where
  declared v := (nonPassingAttribution v.controlId v.controlIds).filterMap (foldToControl lib.upper)
  primary v := (passAttribution v.controlId).filterMap (foldToControl lib.upper)
  named v := (nonPassingAttribution v.controlId v.controlIds).filterMap (foldToControl lib.upper)

/-- `ADDRESSED_STATUSES`. -/
def addressedStatuses : List Text :=
  ["implemented".toList, "inherited".toList, "partially_implemented".toList]

/-- The controls of a system with such an implementation. -/
def implemented (systemId : Nat) : List Text :=
  (db.implementations.filter fun i =>
    i.systemId = systemId ∧ i.status ∈ addressedStatuses).flatMap fun i =>
      (db.controls.filter fun c => c.id = i.controlId).filterMap fun c =>
        foldToControl lib.upper c.identifier

/-- The system, unless it is of another organization. -/
def Db.findSystem (orgId : Option Nat) (systemId : Nat) : Option System :=
  (db.systems.find? fun s => s.id = systemId).filter fun s =>
    ∀ org ∈ orgId, s.organizationId = org

/-- `framework_posture`. -/
def frameworkPosture (orgId : Option Nat) (systemId : Nat) : Measured :=
  match db.findSystem orgId systemId with
  | none => { baseline := none }
  | some system =>
    let baseline := system.baseline.getD []
    let controls := baselineControls lib db baseline
    if controls = [] then { baseline := orElse (some baseline) none }
    else
      let e := (baselineRoute lib).evidence (db.verdicts systemId)
      measured (some baseline) (buckets e (implemented lib db systemId) controls) controls

/-! ## The framework that applies -/

inductive Denominator
  | fips199Baseline | nist800171
  deriving DecidableEq

structure AppliedFramework where
  key : Text
  label : Text
  denominator : Denominator
  source : Text
  baseline : Option Text

/-- `_NIST_171_CODES`. -/
def nist171Codes : List Text :=
  ["NIST_800_171".toList, "NIST_800_171_R2".toList, "CMMC_L2".toList, "CMMC".toList]

/-- `resolve_applied_framework`. -/
def resolveAppliedFramework (system : System) : Option AppliedFramework :=
  let baseline := system.baseline.getD []
  if (baselineColumn (lib.lower baseline)).isSome then
    some {
      key := "fedramp_".toList ++ lib.lower baseline
      label := "NIST SP 800-53 Rev. 5, FedRAMP/FISMA ".toList ++ lib.title baseline ++
        " baseline".toList
      denominator := .fips199Baseline
      source := "system.baseline".toList
      baseline := some (lib.lower baseline) }
  else
    let declared := ((db.profiles.find? fun p => p.systemId = system.id).map
      SystemProfile.frameworks).getD []
    if declared.any fun code => lib.upper (strip code) ∈ nist171Codes then
      some {
        key := "nist_800_171".toList
        label := "NIST SP 800-171 Rev. 2 (110 requirements)".toList
        denominator := .nist800171
        source := "profile.frameworks".toList
        baseline := none }
    else none

/-! ## The requirements of 800-171 -/

/-- The rows that `practices_for_controls` reads: the mappings of the crosswalk, with their
control's identifier. -/
def Db.crosswalk : List (Text × Text) :=
  db.frameworkMappings.flatMap fun m =>
    if m.columnKey = "NIST 800-171 Rev. 2".toList ∧
        ∃ f ∈ db.frameworks, f.1 = m.frameworkId ∧ f.2 = "NIST_800_171_R2".toList then
      (db.controls.filter fun c => c.id = m.controlId).map fun c => (c.identifier, m.value)
    else []

/-- `by_control`, of one control. -/
def byControl (control : Text) : List Text :=
  (db.crosswalk.filter fun row => canonical lib.upper row.1 = control).filterMap fun row =>
    requirementFromValue row.2

/-- `practices_for_controls`, of one control: none when it is unmapped. An enhancement without
requirements has those of its base control. -/
def requirementsFor (controlId : Text) : List Text :=
  let canon := canonical lib.upper controlId
  if byControl lib db canon ≠ [] then byControl lib db canon
  else if withoutEnhancement canon ≠ canon then byControl lib db (withoutEnhancement canon)
  else []

/-- `practices_for_check`. -/
def practicesForCheck (checkKey : Text) : List Text :=
  if checkKey = [] then [] else (db.checkPractices.lookup checkKey).getD []

/-- The check is one that no requirement matches. -/
def excluded (v : Verdict) : Bool := v.checkKey ≠ [] ∧ v.checkKey ∈ db.unmapped

/-- The practices of a check come first; only a test without them goes by the crosswalk. -/
def requirementRoute : Route where
  declared v :=
    match practicesForCheck db v.checkKey with
    | [] =>
      if excluded db v then []
      else (nonPassingAttribution v.controlId v.controlIds).flatMap (requirementsFor lib db)
    | practices => practices.map requirementOf
  primary v :=
    match practicesForCheck db v.checkKey with
    | [] =>
      if excluded db v then [] else (passAttribution v.controlId).flatMap (requirementsFor lib db)
    | practice :: _ => [requirementOf practice]
  named v := (practicesForCheck db v.checkKey).map requirementOf

/-- The controls for which the crosswalk is asked. -/
def needsCrosswalk (verdicts : List Verdict) : List Text :=
  (verdicts.filter fun v => practicesForCheck db v.checkKey = [] ∧ !excluded db v).flatMap fun v =>
    if v.status = pass then passAttribution v.controlId
    else nonPassingAttribution v.controlId v.controlIds

/-- `_requirement_sort`. -/
def requirementSort (requirement : Text) : List Int :=
  ((requirement.splitOn '.').mapM pyInt).getD [0]

/-- `practices`: the practice of each requirement. -/
def practices : Dict Text Text :=
  Dict.ofPairs (db.scoringControls.filterMap fun c => c.nistId.map (·, c.controlId))

def requirements : List Text :=
  ((practices db).items.map Prod.fst).insertionSort fun a b =>
    requirementSort a ≤ requirementSort b

/-- `_CLAIMED_STATES`. -/
def claimedStates : List Text := metStates ++ [partlyDone]

/-- The requirements that somebody claims of a system. -/
def claimed (systemId : Nat) : List Text :=
  (db.scoringStatuses.filter fun s => s.systemId = systemId ∧ s.source ≠ "derived".toList ∧
    s.state ∈ claimedStates).flatMap fun s =>
      (db.scoringControls.filter fun c => c.id = s.scoringControlId).filterMap fun c =>
        orElse c.nistId none

/-- `_crosswalk_reachable`. -/
def crosswalkReachable : List Text :=
  db.crosswalk.flatMap fun row => requirementsFor lib db row.1

/-- What is said of a system, with the limits of the view. -/
structure Posture extends Measured where
  framework : Option AppliedFramework
  unit : Option Text := none
  unmappedChecks : List Text := []
  unmappableControls : List Text := []
  unreachable : List Text := []
  practiceIds : List (Text × Text) := []
  reason : Option Text := none

/-- `_empty_framework`. -/
def emptyFramework (applied : Option AppliedFramework) (reason : Text) : Posture where
  baseline := applied.bind AppliedFramework.baseline
  framework := applied
  reason := some reason

/-- `_nist_171_posture`. -/
def nist171Posture (systemId : Nat) (applied : AppliedFramework) : Posture :=
  let total := requirements db
  if total = [] then
    emptyFramework (some applied) "the 800-171 requirement matrix is not loaded".toList
  else
    let verdicts := db.verdicts systemId
    let e := (requirementRoute lib db).evidence verdicts
    { measured none (buckets e (claimed db systemId) total) total with
      framework := some applied
      unit := some "requirement".toList
      unmappedChecks := sorted ((verdicts.filter fun v =>
        practicesForCheck db v.checkKey = [] ∧ excluded db v).map Verdict.checkKey)
      unmappableControls :=
        sorted ((needsCrosswalk db verdicts).filter fun c => requirementsFor lib db c = [])
      unreachable := total.filter (· ∉ crosswalkReachable lib db)
      practiceIds := total.map fun r => (r, ((practices db).get? r).getD []) }

/-! ## Systems and organizations -/

/-- The answer for one system. -/
structure Answer extends Posture where
  systemId : Nat
  system : Option Text

/-- `system_framework_posture`. -/
def systemFrameworkPosture (orgId : Option Nat) (systemId : Nat) : Answer :=
  match db.findSystem orgId systemId with
  | none =>
    { emptyFramework none "system not found".toList with systemId := systemId, system := none }
  | some system =>
    let posture :=
      match resolveAppliedFramework lib db system with
      | none =>
        emptyFramework none
          ("no framework is declared for this system: set a FIPS-199 baseline, " ++
            "or name a framework in its intake profile").toList
      | some applied =>
        match applied.denominator with
        | .nist800171 => nist171Posture lib db systemId applied
        | .fips199Baseline =>
          let base := frameworkPosture lib db orgId systemId
          if base.total = 0 then
            emptyFramework (some applied)
              ("the ".toList ++ applied.baseline.getD [] ++
                (" baseline resolves to no controls: " ++
                  "the 800-53 catalog is not loaded with FIPS-199 membership").toList)
          else { base with framework := some applied, unit := some "control".toList }
    { posture with systemId := systemId, system := some system.name }

/-- The sum over the systems of a framework. -/
structure Group where
  label : Text
  unit : Option Text
  systems : Nat := 0
  total : Nat := 0
  passing : Nat := 0
  failing : Nat := 0
  documented : Nat := 0
  unaddressed : Nat := 0

def Group.add (g : Group) (entry : Answer) : Group :=
  { g with
    systems := g.systems + 1
    total := g.total + entry.total
    passing := g.passing + entry.buckets.passing.length
    failing := g.failing + entry.buckets.failing.length
    documented := g.documented + entry.buckets.documented.length
    unaddressed := g.unaddressed + entry.buckets.unaddressed.length }

/-- The group that the first system of a framework opens. -/
def newGroup (entry : Answer) : Group where
  label := (entry.framework.map AppliedFramework.label).getD []
  unit := entry.unit

structure OrgPosture where
  systems : List Answer
  byFramework : Dict Text Group
  systemsWithoutAFramework : List (Nat × Option Text × Option Text)

/-- The systems of an organization that are not deleted. -/
def liveSystems (orgId : Nat) : List System :=
  (db.systems.filter fun s => s.organizationId = orgId ∧ s.deletedAt = none).insertionSort
    fun a b => a.id ≤ b.id

/-- `org_framework_posture`. -/
def orgFrameworkPosture : Option Nat → OrgPosture
  | none => ⟨[], .empty, []⟩
  | some orgId =>
    let entries := (liveSystems db orgId).map fun s =>
      systemFrameworkPosture lib db (some orgId) s.id
    { systems := entries
      byFramework := Dict.gather (fun e => e.framework.map AppliedFramework.key)
        (fun group entry => (group.getD (newGroup entry)).add entry) entries
      systemsWithoutAFramework := (entries.filter fun e => e.framework.isNone).map fun e =>
        (e.systemId, e.system, e.reason) }

end Posture

/-! ## One denominator -/

section Buckets

variable {r : Route} {verdicts : List Verdict} {e : Evidence} {claimed total : List Text} {c : Text}

theorem mem_having (statuses : List Text) :
    c ∈ (r.evidence verdicts).having statuses ↔
      ∃ v ∈ verdicts, v.status ∈ statuses ∧ c ∈ r.reach v := by
  unfold Evidence.having Route.evidence
  simp only [List.mem_map, List.mem_filter, List.mem_flatMap, decide_eq_true_eq]
  constructor
  · rintro ⟨_, ⟨⟨v, hv, d, hd, rfl⟩, hstatus⟩, rfl⟩
    exact ⟨v, hv, hstatus, hd⟩
  · rintro ⟨v, hv, hstatus, hc⟩
    exact ⟨(c, v.status), ⟨⟨v, hv, c, hc, rfl⟩, hstatus⟩, rfl⟩

theorem mem_having_singleton (status : Text) :
    c ∈ (r.evidence verdicts).having [status] ↔
      ∃ v ∈ verdicts, v.status = status ∧ c ∈ r.reach v := by
  simp only [mem_having, List.mem_singleton]

/-- The five buckets. -/
inductive Bucket
  | failing | passing | manualReview | documented | unaddressed
  deriving DecidableEq

/-- The one that a control is in: the first whose condition it meets. -/
def bucketOf (e : Evidence) (claimed : List Text) (c : Text) : Bucket :=
  if c ∈ e.having [fail] then .failing
  else if c ∈ e.having [pass] then .passing
  else if c ∈ e.having toReview then .manualReview
  else if c ∈ claimed then .documented
  else .unaddressed

theorem bucketOf_eq_manualReview : bucketOf e claimed c = .manualReview ↔
    c ∉ e.having [fail] ∧ c ∉ e.having [pass] ∧ c ∈ e.having toReview := by
  unfold bucketOf
  split_ifs <;> simp_all

def Buckets.members (b : Buckets) : Bucket → List Text
  | .failing => b.failing
  | .passing => b.passing
  | .manualReview => b.manualReview
  | .documented => b.documented
  | .unaddressed => b.unaddressed

theorem members_eq (k : Bucket) : (buckets e claimed total).members k =
    total.filter fun c => bucketOf e claimed c = k := by
  cases k <;> refine List.filter_congr fun c hc => ?_ <;>
    simp only [List.mem_filter, hc, true_and, decide_eq_true_eq, bucketOf] <;>
    grind

theorem mem_members {k : Bucket} :
    c ∈ (buckets e claimed total).members k ↔ c ∈ total ∧ bucketOf e claimed c = k := by
  rw [members_eq, List.mem_filter, decide_eq_true_eq]

theorem disjoint_members {j k : Bucket} (h : j ≠ k) :
    ((buckets e claimed total).members j).Disjoint ((buckets e claimed total).members k) :=
  fun _ hj hk => h ((mem_members.mp hj).2.symm.trans (mem_members.mp hk).2)

def Bucket.all : List Bucket := [.failing, .passing, .manualReview, .documented, .unaddressed]

theorem Bucket.all_nodup : Bucket.all.Nodup := by decide

theorem Bucket.mem_all (k : Bucket) : k ∈ Bucket.all := by
  cases k <;> decide

/-- **The buckets part the denominator.** -/
theorem Buckets.partition (e : Evidence) (claimed total : List Text) :
    (Bucket.all.map (buckets e claimed total).members).Pairwise List.Disjoint ∧
      (Bucket.all.map fun k => ((buckets e claimed total).members k).length).sum =
        total.length := by
  refine ⟨List.pairwise_map.mpr (Bucket.all_nodup.imp disjoint_members), ?_⟩
  have hsum := Base.sum_countP_key (bucketOf e claimed) Bucket.all_nodup (fun _ => true) total
  simp only [Bool.and_true, Bucket.mem_all, decide_true, List.countP_true] at hsum
  simp only [members_eq, ← List.countP_eq_length_filter]
  exact hsum

def addressed (e : Evidence) (claimed : List Text) (c : Text) : Bool :=
  bucketOf e claimed c = .passing ∨ bucketOf e claimed c = .documented

theorem addressed_iff : addressed e claimed c = true ↔
    c ∉ e.having [fail] ∧ (c ∈ e.having [pass] ∨ c ∉ e.having toReview ∧ c ∈ claimed) := by
  unfold addressed bucketOf
  split_ifs <;> simp_all

theorem length_addressed (e : Evidence) (claimed total : List Text) :
    (buckets e claimed total).passing.length + (buckets e claimed total).documented.length =
      total.countP (addressed e claimed) := by
  show ((buckets e claimed total).members .passing).length +
    ((buckets e claimed total).members .documented).length = _
  have hnodup : [Bucket.passing, .documented].Nodup := by decide
  have hsum := Base.sum_countP_key (bucketOf e claimed) hnodup (fun _ => true) total
  simp only [Bool.and_true, List.map_cons, List.map_nil, List.sum_cons, List.sum_nil,
    Nat.add_zero, List.mem_cons, List.not_mem_nil, or_false] at hsum
  rw [members_eq, members_eq, ← List.countP_eq_length_filter, ← List.countP_eq_length_filter]
  exact hsum

theorem mem_failing_iff : c ∈ (buckets (r.evidence verdicts) claimed total).failing ↔
    c ∈ total ∧ ∃ v ∈ verdicts, v.status = fail ∧ c ∈ r.reach v := by
  rw [← mem_having_singleton]
  exact List.mem_filter.trans (and_congr_right fun _ => decide_eq_true_iff)

theorem exists_pass (h : c ∈ (buckets (r.evidence verdicts) claimed total).passing) :
    ∃ v ∈ verdicts, v.status = pass ∧ c ∈ r.primary v := by
  obtain ⟨v, hv, hpass, hc⟩ := (mem_having_singleton pass).mp
    (of_decide_eq_true (List.mem_filter.mp h).2).1
  refine ⟨v, hv, hpass, ?_⟩
  rwa [Route.reach, if_pos hpass] at hc

theorem mem_manualReview_iff :
    c ∈ (buckets (r.evidence verdicts) claimed total).manualReview ↔
      c ∈ total ∧ (∃ v ∈ verdicts, v.status ∈ toReview ∧ c ∈ r.reach v) ∧
        ∀ v ∈ verdicts, v.status = fail ∨ v.status = pass → c ∉ r.reach v := by
  refine (mem_members (k := .manualReview)).trans (and_congr_right fun _ => ?_)
  rw [bucketOf_eq_manualReview, mem_having_singleton, mem_having_singleton, mem_having]
  constructor
  · rintro ⟨hfail, hpass, hreview⟩
    refine ⟨hreview, fun v hv hstatus hc => ?_⟩
    exact hstatus.elim (fun h => hfail ⟨v, hv, h, hc⟩) fun h => hpass ⟨v, hv, h, hc⟩
  · rintro ⟨hreview, hnone⟩
    exact ⟨fun ⟨v, hv, h, hc⟩ => hnone v hv (.inl h) hc,
      fun ⟨v, hv, h, hc⟩ => hnone v hv (.inr h) hc, hreview⟩

theorem mem_having_insert {before after : List Verdict} {v : Verdict} {statuses : List Text} :
    c ∈ (r.evidence (before ++ v :: after)).having statuses ↔
      v.status ∈ statuses ∧ c ∈ r.reach v ∨
        c ∈ (r.evidence (before ++ after)).having statuses := by
  simp only [mem_having, List.mem_append, List.mem_cons]
  grind

theorem addressed_of_failing {before after : List Verdict} {v : Verdict} (hv : v.status = fail)
    (h : addressed (r.evidence (before ++ v :: after)) claimed c = true) :
    addressed (r.evidence (before ++ after)) claimed c = true := by
  have hpass : fail ∉ [pass] := by decide
  have hreview : fail ∉ toReview := by decide
  rw [addressed_iff] at h ⊢
  simp only [mem_having_insert, hv, hpass, hreview, false_and, false_or] at h
  exact ⟨fun hfail => h.1 (.inr hfail), h.2⟩

end Buckets

/-! ## One system -/

section System

variable (lib : Strings) (db : Db) (orgId : Option Nat) (systemId : Nat)

def appliedTo : Option AppliedFramework :=
  (db.findSystem orgId systemId).bind (resolveAppliedFramework lib db)

def denominatorOf : List Text :=
  match db.findSystem orgId systemId, appliedTo lib db orgId systemId with
  | some system, some applied =>
    match applied.denominator with
    | .fips199Baseline => baselineControls lib db (system.baseline.getD [])
    | .nist800171 => requirements db
  | _, _ => []

def routeOf : Route :=
  match (appliedTo lib db orgId systemId).map AppliedFramework.denominator with
  | some .nist800171 => requirementRoute lib db
  | _ => baselineRoute lib

def claimedOf : List Text :=
  match (appliedTo lib db orgId systemId).map AppliedFramework.denominator with
  | some .nist800171 => claimed db systemId
  | _ => implemented lib db systemId

def bucketsOf : Buckets :=
  buckets ((routeOf lib db orgId systemId).evidence (db.verdicts systemId))
    (claimedOf lib db orgId systemId) (denominatorOf lib db orgId systemId)

/-- What the answer says of a denominator, be it empty. -/
structure Says (m : Measured) (b : Buckets) (total : List Text) : Prop where
  buckets_eq : m.buckets = b
  total_eq : m.total = total.length
  addressedPct_eq : m.addressedPct =
    percentTenths (b.passing.length + b.documented.length) total.length

theorem says_empty (m : Measured) (e : Evidence) (claimed : List Text) (hbuckets : m.buckets = {})
    (htotal : m.total = 0) (hpct : m.addressedPct = 0) : Says m (buckets e claimed []) [] where
  buckets_eq := hbuckets
  total_eq := htotal
  addressedPct_eq := hpct.trans (percentTenths_zero 0).symm

theorem says_measured (baseline : Option Text) (b : Buckets) (total : List Text) :
    Says (measured baseline b total) b total :=
  ⟨rfl, rfl, rfl⟩

theorem frameworkPosture_says {system : System}
    (hsystem : db.findSystem orgId systemId = some system) :
    Says (frameworkPosture lib db orgId systemId)
      (buckets ((baselineRoute lib).evidence (db.verdicts systemId)) (implemented lib db systemId)
        (baselineControls lib db (system.baseline.getD [])))
      (baselineControls lib db (system.baseline.getD [])) := by
  unfold frameworkPosture
  rw [hsystem]
  dsimp only
  split
  · rename_i hnil
    rw [hnil]
    exact says_empty _ _ _ rfl rfl rfl
  · exact says_measured _ _ _

theorem says_systemPosture : Says (systemFrameworkPosture lib db orgId systemId).toMeasured
    (bucketsOf lib db orgId systemId) (denominatorOf lib db orgId systemId) := by
  unfold bucketsOf systemFrameworkPosture denominatorOf routeOf claimedOf appliedTo
  cases hsystem : db.findSystem orgId systemId with
  | none => exact says_empty _ _ _ rfl rfl rfl
  | some system =>
    dsimp only [Option.bind_some]
    cases happlied : resolveAppliedFramework lib db system with
    | none => exact says_empty _ _ _ rfl rfl rfl
    | some applied =>
      dsimp only [Option.map_some]
      cases hden : applied.denominator with
      | nist800171 =>
        dsimp only
        unfold nist171Posture
        dsimp only
        split
        · rename_i hnil
          rw [hnil]
          exact says_empty _ _ _ rfl rfl rfl
        · exact says_measured _ _ _
      | fips199Baseline =>
        have hbase := frameworkPosture_says lib db orgId systemId hsystem
        dsimp only
        split
        · rename_i hzero
          -- an empty baseline is answered like a system without one
          rw [List.length_eq_zero_iff.mp (hbase.total_eq.symm.trans hzero)]
          exact says_empty _ _ _ rfl rfl rfl
        · exact hbase

/-- What is asked of the answer for one system: the buckets part its denominator, what a failing
test declares is failing, and a pass credits what it is about in the first place. -/
structure Honest (a : Answer) (verdicts : List Verdict) (route : Route) (denominator : List Text) :
    Prop where
  disjoint : (Bucket.all.map a.buckets.members).Pairwise List.Disjoint
  total_eq : a.total = denominator.length
  sum_eq : (Bucket.all.map fun k => (a.buckets.members k).length).sum = a.total
  failing : ∀ v ∈ verdicts, v.status = fail → ∀ c ∈ route.declared v, c ∈ denominator →
    c ∈ a.buckets.failing
  passing : ∀ c ∈ a.buckets.passing, ∃ v ∈ verdicts, v.status = pass ∧ c ∈ route.primary v

theorem answer_honest : Honest (systemFrameworkPosture lib db orgId systemId)
    (db.verdicts systemId) (routeOf lib db orgId systemId)
    (denominatorOf lib db orgId systemId) := by
  have hsays := says_systemPosture lib db orgId systemId
  obtain ⟨hdisjoint, hsum⟩ := Buckets.partition
    ((routeOf lib db orgId systemId).evidence (db.verdicts systemId))
    (claimedOf lib db orgId systemId) (denominatorOf lib db orgId systemId)
  have hbuckets := hsays.buckets_eq
  refine ⟨?_, hsays.total_eq, ?_, fun v hv hfail c hc hden => ?_, fun c hc => ?_⟩
  · rw [hbuckets]
    exact hdisjoint
  · rw [hbuckets, hsays.total_eq]
    exact hsum
  · rw [hbuckets]
    refine mem_failing_iff.mpr ⟨hden, v, hv, hfail, ?_⟩
    -- a verdict that is no pass reaches all that it declares
    have hnot : v.status ≠ pass := by
      rw [hfail]
      decide
    rwa [Route.reach, if_neg hnot]
  · rw [hbuckets] at hc
    exact exists_pass hc

def Db.withTests (db : Db) (tests : List ControlTest) : Db := { db with controlTests := tests }

def ControlTest.failed (t : ControlTest) : ControlTest := { t with lastStatus := some fail }

theorem verdicts_insert (before after : List ControlTest) (t : ControlTest) :
    (db.withTests (before ++ t.failed :: after)).verdicts systemId =
        (db.withTests (before ++ after)).verdicts systemId ∨
      ∃ vs v ws, v.status = fail ∧
        (db.withTests (before ++ t.failed :: after)).verdicts systemId = vs ++ v :: ws ∧
        (db.withTests (before ++ after)).verdicts systemId = vs ++ ws := by
  unfold Db.verdicts Db.withTests
  dsimp only
  rw [List.filter_append, List.filter_append, List.filterMap_append, List.filterMap_append]
  by_cases ht : t.systemId = some systemId
  · refine .inr ⟨_, ⟨t.controlId, t.controlIds.getD [], t.checkKey.getD [],
      t.checkSource.getD [], fail⟩, _, rfl, ?_, rfl⟩
    rw [List.filter_cons_of_pos (by exact decide_eq_true ht)]
    rfl
  -- a test of another system is not read
  · refine .inl ?_
    have hskip : (t.failed :: after).filter (fun t => t.systemId = some systemId) =
        after.filter fun t => t.systemId = some systemId :=
      List.filter_cons_of_neg fun h => ht (of_decide_eq_true h)
    rw [hskip]

theorem addressedPct_insert (before after : List ControlTest) (t : ControlTest) :
    (systemFrameworkPosture lib (db.withTests (before ++ t.failed :: after)) orgId
        systemId).addressedPct ≤
      (systemFrameworkPosture lib (db.withTests (before ++ after)) orgId systemId).addressedPct := by
  have hmore := says_systemPosture lib (db.withTests (before ++ t.failed :: after)) orgId systemId
  have hless := says_systemPosture lib (db.withTests (before ++ after)) orgId systemId
  rw [hmore.addressedPct_eq, hless.addressedPct_eq]
  refine percentTenths_mono _ ?_
  rw [bucketsOf, bucketsOf, length_addressed, length_addressed]
  refine List.countP_mono_left fun c _ hc => ?_
  rcases verdicts_insert db systemId before after t with hsame | ⟨vs, v, ws, hv, hvs, hws⟩
  · rw [hsame] at hc
    exact hc
  · rw [hvs] at hc
    rw [hws]
    exact addressed_of_failing hv hc

end System

/-! ## An organization -/

section Organization

variable (lib : Strings) (db : Db)

def Group.counted (g : Group) : Nat := g.passing + g.failing + g.documented + g.unaddressed

/-- What an answer has in the four buckets that are counted. -/
def Answer.counted (a : Answer) : Nat :=
  a.buckets.passing.length + a.buckets.failing.length + a.buckets.documented.length +
    a.buckets.unaddressed.length

/-- What is gathered from the answers of one framework. -/
def gathered (group : Option Group) (entries : List Answer) : Option Group :=
  entries.foldl (fun group entry => some ((group.getD (newGroup entry)).add entry)) group

theorem gathered_some (entries : List Answer) (g : Group) :
    ∃ g', gathered (some g) entries = some g' ∧
      g'.total = g.total + (entries.map fun e => e.total).sum ∧
      g'.counted = g.counted + (entries.map Answer.counted).sum := by
  induction entries generalizing g with
  | nil => exact ⟨g, rfl, rfl, rfl⟩
  | cons entry entries ih =>
    obtain ⟨g', hg', htotal, hcounted⟩ := ih (g.add entry)
    refine ⟨g', hg', ?_, ?_⟩
    · rw [htotal, List.map_cons, List.sum_cons, Group.add, Nat.add_assoc]
    · rw [hcounted, List.map_cons, List.sum_cons]
      unfold Group.counted Group.add Answer.counted
      dsimp only
      omega

theorem group_sums {entries : List Answer} {key : Text} {g : Group}
    (h : (Dict.gather (fun e : Answer => e.framework.map AppliedFramework.key)
      (fun group entry => (group.getD (newGroup entry)).add entry) entries).get? key = some g) :
    let own := entries.filter fun e => e.framework.map AppliedFramework.key = some key
    g.total = (own.map fun e => e.total).sum ∧ g.counted = (own.map Answer.counted).sum := by
  rw [Dict.get?_gather] at h
  dsimp only
  generalize entries.filter _ = own at h ⊢
  cases own with
  | nil => cases h
  | cons entry own =>
    obtain ⟨g', hg', htotal, hcounted⟩ := gathered_some own ((newGroup entry).add entry)
    obtain rfl := Option.some.inj (hg'.symm.trans h)
    rw [htotal, hcounted, List.map_cons, List.map_cons, List.sum_cons, List.sum_cons]
    unfold Group.counted Group.add newGroup Answer.counted
    dsimp only
    omega

theorem exists_group {entries : List Answer} {entry : Answer} (hentry : entry ∈ entries)
    {key : Text} (hkey : entry.framework.map AppliedFramework.key = some key) :
    ∃ g, (Dict.gather (fun e : Answer => e.framework.map AppliedFramework.key)
      (fun group entry => (group.getD (newGroup entry)).add entry) entries).get? key = some g := by
  rw [Dict.get?_gather]
  have hmem : entry ∈ entries.filter fun e => e.framework.map AppliedFramework.key = some key :=
    List.mem_filter.mpr ⟨hentry, decide_eq_true hkey⟩
  generalize entries.filter _ = own at hmem ⊢
  cases own with
  | nil => cases hmem
  | cons first own =>
    obtain ⟨g, hg, -⟩ := gathered_some own ((newGroup first).add first)
    exact ⟨g, hg⟩

theorem sum_total_split {own : List Answer}
    (h : ∀ e ∈ own, e.total = e.counted + e.buckets.manualReview.length) :
    (own.map fun e => e.total).sum = (own.map Answer.counted).sum +
      (own.map fun e => e.buckets.manualReview.length).sum := by
  rw [← List.sum_map_add]
  exact congrArg List.sum (List.map_congr_left h)

theorem groups_account_iff {entries : List Answer}
    (h : ∀ e ∈ entries, e.total = e.counted + e.buckets.manualReview.length) :
    (∀ key g, (Dict.gather (fun e : Answer => e.framework.map AppliedFramework.key)
      (fun group entry => (group.getD (newGroup entry)).add entry) entries).get? key = some g →
        g.counted = g.total) ↔
      ∀ e ∈ entries, e.framework ≠ none → e.buckets.manualReview = [] := by
  constructor
  · intro hall e he hframework
    obtain ⟨applied, happlied⟩ := Option.ne_none_iff_exists'.mp hframework
    have hkey : e.framework.map AppliedFramework.key = some applied.key := by
      rw [happlied]
      rfl
    obtain ⟨g, hg⟩ := exists_group he hkey
    obtain ⟨htotal, hcounted⟩ := group_sums hg
    have hmem : e ∈ entries.filter fun e =>
        e.framework.map AppliedFramework.key = some applied.key :=
      List.mem_filter.mpr ⟨he, decide_eq_true hkey⟩
    have hown : ∀ a ∈ entries.filter fun e =>
        e.framework.map AppliedFramework.key = some applied.key,
        a.total = a.counted + a.buckets.manualReview.length :=
      fun a ha => h a (List.mem_filter.mp ha).1
    have hsplit := sum_total_split hown
    -- what one system has to review is part of what the group lacks
    have hle := List.single_le_sum (fun _ _ => Nat.zero_le _) _
      (List.mem_map_of_mem (f := fun a : Answer => a.buckets.manualReview.length) hmem)
    have hequal := hall applied.key g hg
    refine List.eq_nil_of_length_eq_zero ?_
    omega
  · intro hnone key g hg
    obtain ⟨htotal, hcounted⟩ := group_sums hg
    rw [htotal, hcounted]
    -- with nothing to review, each answer is counted in full
    refine congrArg List.sum (List.map_congr_left fun e he => ?_)
    obtain ⟨he, hkey⟩ := List.mem_filter.mp he
    have hframework : e.framework ≠ none := by
      intro hnil
      rw [hnil] at hkey
      exact nomatch of_decide_eq_true hkey
    rw [h e he, hnone e he hframework]
    rfl

theorem answer_framework (orgId : Option Nat) (systemId : Nat) :
    (systemFrameworkPosture lib db orgId systemId).framework =
      appliedTo lib db orgId systemId := by
  unfold systemFrameworkPosture appliedTo
  cases hsystem : db.findSystem orgId systemId with
  | none => rfl
  | some system =>
    dsimp only [Option.bind_some]
    cases happlied : resolveAppliedFramework lib db system with
    | none => rfl
    | some applied =>
      dsimp only
      cases applied.denominator with
      | nist800171 =>
        dsimp only
        unfold nist171Posture
        dsimp only
        split <;> rfl
      | fips199Baseline =>
        dsimp only
        split <;> rfl

theorem denominatorOf_none {orgId : Option Nat} {systemId : Nat}
    (h : appliedTo lib db orgId systemId = none) : denominatorOf lib db orgId systemId = [] := by
  unfold denominatorOf
  rw [h]
  cases db.findSystem orgId systemId <;> rfl

/-- Somebody has to look at a control, and no test decides it. -/
def Undecided (r : Route) (verdicts : List Verdict) (c : Text) : Prop :=
  (∃ v ∈ verdicts, v.status ∈ toReview ∧ c ∈ r.reach v) ∧
    ∀ v ∈ verdicts, v.status = fail ∨ v.status = pass → c ∉ r.reach v

theorem manualReview_eq_nil_iff (orgId : Option Nat) (systemId : Nat) :
    (systemFrameworkPosture lib db orgId systemId).buckets.manualReview = [] ↔
      ∀ c ∈ denominatorOf lib db orgId systemId,
        ¬ Undecided (routeOf lib db orgId systemId) (db.verdicts systemId) c := by
  rw [(says_systemPosture lib db orgId systemId).buckets_eq, List.eq_nil_iff_forall_not_mem]
  refine forall_congr' fun c => ?_
  rw [bucketsOf, mem_manualReview_iff, not_and]
  rfl

theorem total_eq_counted (orgId : Option Nat) (systemId : Nat) :
    (systemFrameworkPosture lib db orgId systemId).total =
      (systemFrameworkPosture lib db orgId systemId).counted +
        (systemFrameworkPosture lib db orgId systemId).buckets.manualReview.length := by
  rw [← (answer_honest lib db orgId systemId).sum_eq]
  unfold Answer.counted Bucket.all
  simp only [List.map_cons, List.map_nil, List.sum_cons, List.sum_nil, Buckets.members]
  omega

/-- What is asked of the posture of an organization: honest answers that a failing test never makes
look better, and sums that account for their totals. -/
structure Accounts (orgId : Option Nat) : Prop where
  honest : ∀ systemId, Honest (systemFrameworkPosture lib db orgId systemId) (db.verdicts systemId)
    (routeOf lib db orgId systemId) (denominatorOf lib db orgId systemId)
  monotone : ∀ (systemId : Nat) (before after : List ControlTest) (t : ControlTest),
    (systemFrameworkPosture lib (db.withTests (before ++ t.failed :: after)) orgId
        systemId).addressedPct ≤
      (systemFrameworkPosture lib (db.withTests (before ++ after)) orgId systemId).addressedPct
  sums : ∀ key g, (orgFrameworkPosture lib db orgId).byFramework.get? key = some g →
    g.passing + g.failing + g.documented + g.unaddressed = g.total

/-- **The sums account for their totals** where nothing is left for somebody to look at. -/
theorem orgPosture_accounts_iff (orgId : Option Nat) :
    Accounts lib db orgId ↔
      ∀ org ∈ orgId, ∀ s ∈ liveSystems db org, ∀ c ∈ denominatorOf lib db orgId s.id,
        ¬ Undecided (routeOf lib db orgId s.id) (db.verdicts s.id) c := by
  have hsums : Accounts lib db orgId ↔
      ∀ key g, (orgFrameworkPosture lib db orgId).byFramework.get? key = some g →
        g.counted = g.total :=
    ⟨Accounts.sums, fun h => ⟨answer_honest lib db orgId, addressedPct_insert lib db orgId, h⟩⟩
  rw [hsums]
  cases orgId with
  | none => exact iff_of_true (fun key g hg => nomatch hg) fun org horg => nomatch horg
  | some orgId =>
    have hsplit : ∀ e ∈ (liveSystems db orgId).map fun s =>
        systemFrameworkPosture lib db (some orgId) s.id,
        e.total = e.counted + e.buckets.manualReview.length := by
      intro e he
      obtain ⟨s, -, rfl⟩ := List.mem_map.mp he
      exact total_eq_counted lib db (some orgId) s.id
    refine (groups_account_iff hsplit).trans ?_
    simp only [List.forall_mem_map, Option.mem_some_iff, forall_eq', answer_framework,
      manualReview_eq_nil_iff]
    refine forall₂_congr fun s _ => ⟨fun h => ?_, fun h _ => h⟩
    -- a system without a framework is in no group, and has an empty denominator
    by_cases happlied : appliedTo lib db (some orgId) s.id = none
    · rw [denominatorOf_none lib db happlied]
      exact List.forall_mem_nil _
    · exact h happlied

end Organization

def asciiStrings : Strings where
  upper := List.map Char.toUpper
  lower := List.map Char.toLower
  title := id

def oneToReview : Db where
  controls := [⟨1, "AC-03".toList, none, some true, some true⟩]
  controlTests := [⟨some 1, "AC-3".toList, some ["AC-3".toList], none, some "platform".toList,
    some "manual_review_required".toList⟩]
  systems := [⟨1, 1, "payroll".toList, some "moderate".toList, none⟩]

/-- The control is in the total of its framework and in none of its counts. -/
theorem oneToReview_not_accounted :
    ¬ Accounts asciiStrings oneToReview (some 1) ∧
      ((orgFrameworkPosture asciiStrings oneToReview (some 1)).byFramework.items.map fun p =>
        (p.1, p.2.total, p.2.counted)) = [("fedramp_moderate".toList, 1, 0)] := by
  have hitems : ((orgFrameworkPosture asciiStrings oneToReview (some 1)).byFramework.items.map
      fun p => (p.1, p.2.total, p.2.counted)) = [("fedramp_moderate".toList, 1, 0)] := by
    decide +kernel
  refine ⟨fun h => ?_, hitems⟩
  have hmem : ("fedramp_moderate".toList, 1, 0) ∈
      ((orgFrameworkPosture asciiStrings oneToReview (some 1)).byFramework.items.map
        fun p => (p.1, p.2.total, p.2.counted)) := by
    rw [hitems]
    exact List.mem_singleton.mpr rfl
  obtain ⟨⟨key, g⟩, hp, hg⟩ := List.mem_map.mp hmem
  have hcounts := h.sums key g (Dict.mem_items_iff.mp hp)
  have htotal : g.total = 1 := congrArg (fun p => p.2.1) hg
  have hcounted : g.counted = 0 := congrArg (fun p => p.2.2) hg
  rw [← Group.counted, htotal, hcounted] at hcounts
  cases hcounts

end Concord.Analytics.FrameworkPosture
