import Concord.Base.Counts
import Concord.Base.Raises
import Concord.Governance.Inventory
import Concord.Posture.ScanAll
import Concord.Python.Dict

/-!
# Scanning one system with one connector

`ccf/posture/scan.py`: `scan_for_system`, with `_capability_id_for` and
`_upsert_generated_test`. What resolves the checks, builds the connector and records a result
is given (`Calls`), and each of these may raise. The metrics are left out.

A report is addable where no check is counted twice. The loop counts each outcome of an expected
check, so a connector that returns one check twice is counted twice (`balanced_iff`).
-/

namespace Concord.Posture.Scan

open Concord.Base Concord.Python

structure PostureCheck where
  key : Text
  title : Text
  resourceType : Text
  expected : Text
  controlIds : List Text
  capabilityKey : Option Text
  requiredPermissions : List Text
  deriving DecidableEq

structure ResolvedCheck where
  check : PostureCheck
  source : Text
  deriving DecidableEq

structure CheckOutcome where
  checkKey : Text
  verdict : Text
  expected : Text
  findings : List Governance.ResourceFinding
  deriving DecidableEq

namespace CheckOutcome

def evaluated (o : CheckOutcome) : Nat := o.findings.length

/-- `EXCLUDED_FROM_ROLLUP`. -/
def excludedFromRollup : List Text := ["not_applicable".toList, "not_tested".toList]

def considered (o : CheckOutcome) : Nat :=
  o.findings.countP fun f => f.verdict ∉ excludedFromRollup

def failing (o : CheckOutcome) : Nat := o.findings.countP fun f => f.verdict = "fail".toList

end CheckOutcome

/-- A generated row of `control_tests`. A scan writes all but `name` and `active`, which a person
may edit. -/
structure GeneratedTest where
  id : Nat
  organizationId : Nat
  systemId : Nat
  controlId : Text
  controlIds : List Text
  name : Text
  checkKey : Text
  checkSource : Text
  capabilityId : Option Nat
  description : Text
  expected : Text
  connectorType : Text
  active : Bool
  deriving DecidableEq

/-- A row of `capabilities`. -/
structure Capability where
  id : Nat
  organizationId : Nat
  key : Text
  deriving DecidableEq

/-- The tables a scan reads and writes itself, and the rest of the database. -/
structure Store (ρ : Type) where
  systems : List System
  capabilities : List Capability
  tests : List GeneratedTest
  nextTestId : Nat
  rest : ρ
  deriving DecidableEq

/-- The arguments of `record_result`. -/
structure ResultArgs where
  status : Text
  detail : Text
  actor : Text
  evaluated : Nat
  failing : Nat
  expected : Text
  resources : List Governance.ResourceFinding

/-- `ConfigConnector.scan`. -/
abbrev Connector := List ResolvedCheck → Except Raised (List CheckOutcome)

/-- What the scan calls. -/
structure Calls (ρ : Type) where
  resolveChecks : Store ρ → Text → Nat → Except Raised (List ResolvedCheck)
  connectorForOrg : Store ρ → Nat → Text → Except Raised (Option Connector)
  recordResult : GeneratedTest → ResultArgs → Store ρ → Except Raised (Store ρ)
  latestDrift : Nat → Store ρ → Except Raised Unit

/-! ## The report -/

structure RecordedCheck where
  checkKey : Text
  verdict : Text
  evaluated : Nat
  failing : Nat
  controlIds : List Text
  requiredPermissions : List Text
  deriving DecidableEq

structure SkippedCheck where
  checkKey : Text
  title : Text
  controlIds : List Text
  resourceType : Text
  source : Text
  requiredPermissions : List Text
  reason : Text
  deriving DecidableEq

structure UnexpectedOutcome where
  checkKey : Text
  verdict : Text
  reason : Text
  deriving DecidableEq

structure Report where
  systemId : Nat
  connector : Text
  checksExpected : Nat
  checksRun : Nat
  results : List RecordedCheck
  skippedChecks : List SkippedCheck
  unexpectedOutcomes : List UnexpectedOutcome
  reason : Option Text
  deriving DecidableEq

def skippedCheck (rc : ResolvedCheck) (checkKey reason : Text) : SkippedCheck where
  checkKey := checkKey
  title := rc.check.title
  controlIds := rc.check.controlIds
  resourceType := rc.check.resourceType
  source := rc.source
  requiredPermissions := rc.check.requiredPermissions
  reason := reason

def notConfigured : Text := "connector not configured for this organization".toList

def inactive : Text := "generated control test is inactive".toList

def noOutcome : Text := "connector returned no outcome for this check".toList

def noDefinition : Text := "no definition for this check in this build".toList

/-! ## The scan -/

section Scan

variable {ρ : Type}

/-- `_capability_id_for`. -/
def capabilityIdFor (store : Store ρ) (organizationId : Nat) (capabilityKey : Option Text) :
    Except Raised (Option Nat) :=
  match capabilityKey with
  | none | some [] => .ok none
  | some key =>
    match store.capabilities.filter fun c => c.organizationId = organizationId ∧ c.key = key with
    | [] => .ok none
    | [c] => .ok (some c.id)
    | _ => .error ⟨"MultipleResultsFound".toList,
        "Multiple rows were found when one or none was required".toList⟩

/-- `check.control_ids[0]`. -/
def primaryControl (check : PostureCheck) : Except Raised Text :=
  match check.controlIds with
  | [] => .error ⟨"IndexError".toList, "tuple index out of range".toList⟩
  | controlId :: _ => .ok controlId

/-- `_upsert_generated_test`. -/
def upsertGeneratedTest (store : Store ρ) (system : System) (connectorKey : Text)
    (rc : ResolvedCheck) (checkKey controlId : Text) (capabilityId : Option Nat) :
    GeneratedTest × Store ρ :=
  let description := "Generated from posture check ".toList ++ checkKey ++ ['.']
  match store.tests.find? fun t => t.systemId = system.id ∧ t.checkKey = checkKey with
  | none =>
    let test : GeneratedTest := {
      id := store.nextTestId, organizationId := system.organizationId, systemId := system.id
      controlId := controlId, controlIds := rc.check.controlIds, name := rc.check.title
      checkKey := checkKey, checkSource := rc.source, capabilityId := capabilityId
      description := description, expected := rc.check.expected, connectorType := connectorKey
      active := true }
    (test, { store with tests := store.tests ++ [test], nextTestId := store.nextTestId + 1 })
  | some found =>
    let test : GeneratedTest := { found with
      controlId := controlId, controlIds := rc.check.controlIds, checkSource := rc.source
      capabilityId := capabilityId, description := description, expected := rc.check.expected
      connectorType := connectorKey }
    (test, { store with tests := store.tests.map fun t => if t.id = found.id then test else t })

/-- `detail`, of an outcome. -/
def detailOf (o : CheckOutcome) (check : PostureCheck) : Text :=
  if o.considered = 0 then "no resources in scope".toList
  else natText o.failing ++ " of ".toList ++ natText o.considered ++ [' '] ++ check.resourceType
    ++ "(s) failing".toList

/-- What the loop over the outcomes has gathered. -/
structure Progress (ρ : Type) where
  store : Store ρ
  recorded : List RecordedCheck
  skipped : List SkippedCheck
  unexpected : List UnexpectedOutcome

variable (calls : Calls ρ)

def takeOutcome (system : System) (connectorKey actor : Text) (byKey : Dict Text ResolvedCheck)
    (p : Progress ρ) (o : CheckOutcome) : Except Raised (Progress ρ) :=
  match byKey.get? o.checkKey with
  | none =>
    .ok { p with unexpected := p.unexpected ++ [⟨o.checkKey, o.verdict, noDefinition⟩] }
  | some rc => do
    let capabilityId ← capabilityIdFor p.store system.organizationId rc.check.capabilityKey
    let controlId ← primaryControl rc.check
    let (test, store) :=
      upsertGeneratedTest p.store system connectorKey rc o.checkKey controlId capabilityId
    if test.active then
      let store ← calls.recordResult test {
        status := o.verdict, detail := detailOf o rc.check, actor := actor
        evaluated := o.evaluated, failing := o.failing, expected := o.expected
        resources := o.findings } store
      calls.latestDrift test.id store
      return { p with
        store := store
        recorded := p.recorded ++ [{
          checkKey := o.checkKey, verdict := o.verdict, evaluated := o.evaluated
          failing := o.failing, controlIds := rc.check.controlIds
          requiredPermissions := rc.check.requiredPermissions }] }
    else
      return { p with
        store := store
        skipped := p.skipped ++ [skippedCheck rc o.checkKey inactive] }

/-- `resolved`, where only some checks were asked for. -/
def allowed (checkKeys : Option (List Text)) (resolved : List ResolvedCheck) :
    List ResolvedCheck :=
  match checkKeys with
  | none => resolved
  | some keys => resolved.filter fun rc => rc.check.key ∈ keys

def keysOf (resolved : List ResolvedCheck) : List Text := resolved.map fun rc => rc.check.key

/-- The rest of `scan_for_system`, once it has its checks. -/
def scanWith (store : Store ρ) (system : System) (connectorKey actor : Text)
    (resolved : List ResolvedCheck) : Option Connector → Except Raised (Report × Store ρ)
  | none => .ok ({
      systemId := system.id, connector := connectorKey, checksExpected := resolved.length
      checksRun := 0, results := []
      skippedChecks := resolved.map fun rc => skippedCheck rc rc.check.key notConfigured
      unexpectedOutcomes := [], reason := some notConfigured }, store)
  | some scan => do
    let outcomes ← scan resolved
    let byKey := Dict.ofPairs (resolved.map fun rc => (rc.check.key, rc))
    let p ← outcomes.foldlM (takeOutcome calls system connectorKey actor byKey)
      ⟨store, [], [], []⟩
    let missing := resolved.filter fun rc => rc.check.key ∉ outcomes.map CheckOutcome.checkKey
    return ({
      systemId := system.id, connector := connectorKey, checksExpected := resolved.length
      checksRun := p.recorded.length, results := p.recorded
      skippedChecks := p.skipped ++ missing.map fun rc => skippedCheck rc rc.check.key noOutcome
      unexpectedOutcomes := p.unexpected, reason := none }, p.store)

/-- `scan_for_system`. -/
def scanForSystem (store : Store ρ) (systemId : Nat) (connectorKey actor : Text)
    (checkKeys : Option (List Text)) : Except Raised (Report × Store ρ) :=
  match store.systems.find? fun s => s.id = systemId with
  | none => .error ⟨"ValueError".toList, "unknown system: ".toList ++ natText systemId⟩
  | some system => do
    let resolved ← calls.resolveChecks store connectorKey system.organizationId
    let connector ← calls.connectorForOrg store system.organizationId connectorKey
    scanWith calls store system connectorKey actor (allowed checkKeys resolved) connector

end Scan

/-! ## What a report counts -/

/-- The keys a report counts: those with a result, and those that were skipped. -/
def Report.counted (r : Report) : List Text :=
  r.results.map RecordedCheck.checkKey ++ r.skippedChecks.map SkippedCheck.checkKey

/-- A report that can be added up, on the keys it was expected to account for. -/
structure Report.Balanced (expected : List Text) (r : Report) : Prop where
  adds : r.checksExpected = r.checksRun + r.skippedChecks.length
  once : r.counted.Nodup
  visible : ∀ key ∈ expected, key ∉ r.results.map RecordedCheck.checkKey →
    key ∈ r.skippedChecks.map SkippedCheck.checkKey

/-- The keys of the outcomes of expected checks, as the connector returned them. -/
def returnedKeys (expected : List Text) (outcomes : List CheckOutcome) : List Text :=
  (outcomes.map CheckOutcome.checkKey).filter (· ∈ expected)

section Accounting

variable {ρ : Type} {calls : Calls ρ} {store store' : Store ρ} {system : System}
  {connectorKey actor : Text} {resolved : List ResolvedCheck}

theorem byKey_isSome (key : Text) :
    ((Dict.ofPairs (resolved.map fun rc => (rc.check.key, rc))).get? key).isSome = true ↔
      key ∈ keysOf resolved := by
  rw [Dict.get?_ofPairs, Option.isSome_map, List.find?_isSome]
  simp only [List.mem_reverse, List.mem_map, keysOf, decide_eq_true_eq]
  constructor
  · rintro ⟨_, ⟨rc, hrc, rfl⟩, hkey⟩
    exact ⟨rc, hrc, hkey⟩
  · rintro ⟨rc, hrc, hkey⟩
    exact ⟨_, ⟨rc, hrc, rfl⟩, hkey⟩

def Progress.counted (p : Progress ρ) : List Text :=
  p.recorded.map RecordedCheck.checkKey ++ p.skipped.map SkippedCheck.checkKey

theorem takeOutcome_counted {byKey : Dict Text ResolvedCheck} {p p' : Progress ρ}
    {o : CheckOutcome}
    (h : takeOutcome calls system connectorKey actor byKey p o = .ok p') :
    p'.counted.Perm
      (p.counted ++ if (byKey.get? o.checkKey).isSome then [o.checkKey] else []) := by
  unfold takeOutcome at h
  cases hrc : byKey.get? o.checkKey with
  | none =>
    rw [hrc] at h
    obtain rfl := Except.ok.inj h
    simp [Progress.counted]
  | some rc =>
    rw [hrc] at h
    obtain ⟨capabilityId, _, h⟩ := bind_eq_ok.mp h
    obtain ⟨controlId, _, h⟩ := bind_eq_ok.mp h
    dsimp only at h
    split at h
    · obtain ⟨s, _, h⟩ := bind_eq_ok.mp h
      obtain ⟨_, _, h⟩ := bind_eq_ok.mp h
      obtain rfl := Except.ok.inj h
      -- the result stands before the skipped ones
      simp only [Progress.counted, List.map_append, List.map_cons, List.map_nil,
        Option.isSome_some, if_true, List.append_assoc]
      exact List.perm_append_comm.append_left _
    · obtain rfl := Except.ok.inj h
      simp [Progress.counted, skippedCheck]

theorem outcomes_counted {outcomes : List CheckOutcome} {p : Progress ρ}
    (h : outcomes.foldlM (takeOutcome calls system connectorKey actor
        (Dict.ofPairs (resolved.map fun rc => (rc.check.key, rc)))) ⟨store, [], [], []⟩ = .ok p) :
    p.counted.Perm (returnedKeys (keysOf resolved) outcomes) := by
  refine foldlM_invariant (I := fun seen p =>
    p.counted.Perm (returnedKeys (keysOf resolved) seen)) ?_ (List.Perm.refl _) h
  intro seen o p p' hp hstep
  have hturn := takeOutcome_counted hstep
  have hseen : returnedKeys (keysOf resolved) (seen ++ [o]) =
      returnedKeys (keysOf resolved) seen ++
        if o.checkKey ∈ keysOf resolved then [o.checkKey] else [] := by
    unfold returnedKeys
    rw [List.map_append, List.filter_append, List.map_singleton]
    by_cases ho : o.checkKey ∈ keysOf resolved
    · simp [ho]
    · simp [ho]
  rw [hseen]
  simp only [byKey_isSome] at hturn
  exact hturn.trans (hp.append_right _)

theorem scanWith_counted {scan : Connector} {outcomes : List CheckOutcome} {r : Report}
    (hscan : scan resolved = .ok outcomes)
    (h : scanWith calls store system connectorKey actor resolved (some scan) = .ok (r, store')) :
    r.checksExpected = (keysOf resolved).length ∧ r.checksRun = r.results.length ∧
      r.counted.Perm (returnedKeys (keysOf resolved) outcomes ++
        (keysOf resolved).filter (· ∉ outcomes.map CheckOutcome.checkKey)) := by
  obtain ⟨_, hout, h⟩ := bind_eq_ok.mp h
  obtain rfl := Except.ok.inj (hscan.symm.trans hout)
  obtain ⟨p, hp, h⟩ := bind_eq_ok.mp h
  obtain ⟨rfl, rfl⟩ := Prod.mk.inj (Except.ok.inj h)
  refine ⟨(List.length_map _).symm, rfl, ?_⟩
  have hmissing : (resolved.filter fun rc => rc.check.key ∉ outcomes.map CheckOutcome.checkKey).map
        (fun rc => (skippedCheck rc rc.check.key noOutcome).checkKey) =
      (keysOf resolved).filter (· ∉ outcomes.map CheckOutcome.checkKey) := by
    rw [keysOf, List.filter_map]
    rfl
  have hcounted := outcomes_counted hp
  simp only [Report.counted, List.map_append, List.map_map, Function.comp_def]
  rw [hmissing, ← List.append_assoc]
  exact hcounted.append_right _

theorem visible_of_counted {expected : List Text} {outcomes : List CheckOutcome} {r : Report}
    (h : r.counted.Perm (returnedKeys expected outcomes ++
      expected.filter (· ∉ outcomes.map CheckOutcome.checkKey))) :
    ∀ key ∈ expected, key ∉ r.results.map RecordedCheck.checkKey →
      key ∈ r.skippedChecks.map SkippedCheck.checkKey := by
  intro key hkey hresult
  have hcounted : key ∈ r.counted := by
    refine h.mem_iff.mpr (List.mem_append.mpr ?_)
    simp only [returnedKeys, List.mem_filter, decide_eq_true_eq]
    -- it came back, or it is missing
    by_cases hout : key ∈ outcomes.map CheckOutcome.checkKey
    · exact Or.inl ⟨hout, hkey⟩
    · exact Or.inr ⟨hkey, hout⟩
  exact (List.mem_append.mp hcounted).resolve_left hresult

theorem scanWith_balanced_iff {scan : Connector} {outcomes : List CheckOutcome} {r : Report}
    (hscan : scan resolved = .ok outcomes)
    (h : scanWith calls store system connectorKey actor resolved (some scan) = .ok (r, store')) :
    r.Balanced (keysOf resolved) ↔
      (keysOf resolved).Nodup ∧ (returnedKeys (keysOf resolved) outcomes).Nodup := by
  obtain ⟨hexpected, hrun, hcounted⟩ := scanWith_counted hscan h
  have hlength : r.checksRun + r.skippedChecks.length =
      (returnedKeys (keysOf resolved) outcomes).length +
        ((keysOf resolved).filter (· ∉ outcomes.map CheckOutcome.checkKey)).length := by
    have hlen := hcounted.length_eq
    simp only [Report.counted, List.length_append, List.length_map] at hlen
    rw [hrun, hlen]
  refine Iff.trans ?_ (accounted_iff (keysOf resolved) (outcomes.map CheckOutcome.checkKey))
  constructor
  · rintro ⟨hadds, honce, -⟩
    exact ⟨hexpected.symm.trans (hadds.trans hlength), hcounted.nodup_iff.mp honce⟩
  · rintro ⟨hadds, honce⟩
    exact ⟨hexpected.trans (hadds.trans hlength.symm), hcounted.nodup_iff.mpr honce,
      visible_of_counted hcounted⟩

theorem scanWith_none_balanced_iff {r : Report}
    (h : scanWith calls store system connectorKey actor resolved none = .ok (r, store')) :
    r.Balanced (keysOf resolved) ↔ (keysOf resolved).Nodup := by
  obtain ⟨rfl, rfl⟩ := Prod.mk.inj (Except.ok.inj h)
  have hskipped : (resolved.map fun rc => skippedCheck rc rc.check.key notConfigured).map
      SkippedCheck.checkKey = keysOf resolved := List.map_map ..
  constructor
  · rintro ⟨-, honce, -⟩
    rw [Report.counted, hskipped] at honce
    exact honce
  · intro hnodup
    refine ⟨by simp, ?_, fun key hkey _ => ?_⟩
    · rw [Report.counted, hskipped]
      exact hnodup
    · rw [hskipped]
      exact hkey

end Accounting

/-! ## When a report adds up -/

/-- The connector, where there is one, returned no outcome for an expected check twice. -/
def ReturnedOnce (resolved : List ResolvedCheck) : Option Connector → Prop
  | none => True
  | some scan => ∀ outcomes, scan resolved = .ok outcomes →
      (returnedKeys (keysOf resolved) outcomes).Nodup

/-- **A report can be added up exactly if no check was resolved twice and the connector returned
no expected check twice.** Unknown outcomes, failed checks and inactive tests do no harm. -/
theorem report_balanced_iff {ρ : Type} {calls : Calls ρ} {store store' : Store ρ}
    {systemId : Nat} {connectorKey actor : Text} {checkKeys : Option (List Text)}
    {system : System} {resolved : List ResolvedCheck} {connector : Option Connector}
    {r : Report}
    (hsystem : store.systems.find? (fun s => s.id = systemId) = some system)
    (hresolved : calls.resolveChecks store connectorKey system.organizationId = .ok resolved)
    (hconnector :
      calls.connectorForOrg store system.organizationId connectorKey = .ok connector)
    (h : scanForSystem calls store systemId connectorKey actor checkKeys = .ok (r, store')) :
    r.Balanced (keysOf (allowed checkKeys resolved)) ↔
      (keysOf (allowed checkKeys resolved)).Nodup ∧
        ReturnedOnce (allowed checkKeys resolved) connector := by
  unfold scanForSystem at h
  rw [hsystem] at h
  obtain ⟨_, hres, h⟩ := bind_eq_ok.mp h
  obtain rfl := Except.ok.inj (hresolved.symm.trans hres)
  obtain ⟨_, hconn, h⟩ := bind_eq_ok.mp h
  obtain rfl := Except.ok.inj (hconnector.symm.trans hconn)
  cases connector with
  | none => rw [scanWith_none_balanced_iff h, ReturnedOnce, and_true]
  | some scan =>
    obtain ⟨outcomes, hscan, -⟩ := bind_eq_ok.mp h
    rw [scanWith_balanced_iff hscan h, ReturnedOnce, hscan]
    simp only [Except.ok.injEq, forall_eq']

def rootMfa : ResolvedCheck where
  check := {
    key := "aws.iam.root_mfa_enabled".toList
    title := "The account root user has MFA enabled".toList
    resourceType := "aws_account".toList
    expected := "the account root user has a multi-factor authentication device enabled".toList
    controlIds := ["IA-2".toList, "IA-2(1)".toList]
    capabilityKey := none
    requiredPermissions := [] }
  source := "platform".toList

def rootMfaPassed : CheckOutcome where
  checkKey := "aws.iam.root_mfa_enabled".toList
  verdict := "pass".toList
  expected := "a root MFA device".toList
  findings := [⟨"123456789012".toList, "aws_account".toList, "pass".toList, "enabled".toList⟩]

/-- A connector that returns these outcomes, where nothing else raises. -/
def returning (outcomes : List CheckOutcome) : Calls Unit where
  resolveChecks _ _ _ := .ok [rootMfa]
  connectorForOrg _ _ _ := .ok (some fun _ => .ok outcomes)
  recordResult _ _ store := .ok store
  latestDrift _ _ := .ok ()

def oneSystem : Store Unit where
  systems := [⟨1, 1, false⟩]
  capabilities := []
  tests := []
  nextTestId := 1
  rest := ()

/-- The scan of the system with a connector that returns these outcomes. -/
def scanReturning (outcomes : List CheckOutcome) : Except Raised (Report × Store Unit) :=
  scanForSystem (returning outcomes) oneSystem 1 "aws_govcloud".toList "scan".toList none

theorem report_balanced_iff_once :
    ∃ r store', scanReturning [rootMfaPassed] = .ok (r, store') ∧
      (r.Balanced (keysOf [rootMfa]) ↔
        (keysOf [rootMfa]).Nodup ∧
          ReturnedOnce [rootMfa] (some fun _ => .ok [rootMfaPassed])) := by
  obtain ⟨r, store', h⟩ : ∃ r store', scanForSystem (returning [rootMfaPassed]) oneSystem 1
      "aws_govcloud".toList "scan".toList none = .ok (r, store') := ⟨_, _, rfl⟩
  exact ⟨r, store', h, report_balanced_iff rfl rfl rfl h⟩

/-- One expected check, two results. -/
theorem returned_twice_not_balanced :
    ∃ r store', scanReturning [rootMfaPassed, rootMfaPassed] = .ok (r, store') ∧
      r.checksExpected = 1 ∧ r.checksRun = 2 ∧ r.skippedChecks = [] ∧
        ¬ r.Balanced (keysOf [rootMfa]) :=
  ⟨_, _, rfl, rfl, rfl, rfl, fun h => absurd h.adds (by decide)⟩

end Concord.Posture.Scan
