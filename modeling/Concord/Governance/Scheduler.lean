import Concord.Posture.ScanAll
import Concord.Python.Ints

/-!
# The per-tenant cycle

`ccf/governance/scheduler.py`: `_run_per_tenant_cycle` runs the steps of every organization, each
in a savepoint; `_scan_org_systems` is the posture step, and `cycle_summary` the line an operator
reads. What the other steps do is given, as is what a scan calls (`Posture.Calls`).

The posture step scans all systems of an organization in the one savepoint of the step
(`postureStep_contained_iff`): a scan that raises takes those of its neighbours with it.
-/

namespace Concord.Scheduler

open Concord.Base
open Concord.Python
open Concord.Posture

/-- The steps of an organization, in order. -/
inductive Step
  | collection | packSync | conmon | controlTests | postureScan | capabilityDerive
  | assuranceGraph
  deriving DecidableEq

/-- The `step` of a failure. -/
def Step.name : Step → Text
  | .collection => "collection".toList
  | .packSync => "pack_sync".toList
  | .conmon => "conmon".toList
  | .controlTests => "control_tests".toList
  | .postureScan => "posture_scan".toList
  | .capabilityDerive => "capability_derive".toList
  | .assuranceGraph => "assurance_graph".toList

/-- What `_scan_org_systems` returns. -/
structure PostureResult where
  organizationId : Nat
  systemsScanned : Nat
  checksRun : Int
  checksExpected : Int
  manualReview : Int
  deriving DecidableEq

/-- An entry of `step_failures`: a `dict[str, str]`. -/
abbrev StepFailure := List (Text × Text)

/-- `{"organization_id": str(org_id), "step": step}`. -/
def stepFailure (orgId : Nat) (step : Step) : StepFailure :=
  [("organization_id".toList, natText orgId), ("step".toList, step.name)]

/-- What a cycle calls: the scan, and the other steps, which return a `ρ`. -/
structure CycleCalls (σ ρ : Type) extends Calls σ where
  setTenant : Option Nat → σ → σ
  step : Step → Nat → Txn σ Raised ρ
  deriveEnabled : Bool

/-- A cycle under way. The lists are Python's: a rollback leaves them alone. -/
structure Cycle (σ ρ : Type) where
  session : Session σ
  results : List (Step × Nat × ρ) := []
  postureResults : List PostureResult := []
  stepFailures : List StepFailure := []

/-- The numbers of the posture scan in the summary. -/
structure PostureTotals where
  systems : Nat := 0
  checksRun : Int := 0
  checksExpected : Int := 0
  manualReview : Int := 0
  deriving DecidableEq

/-- `cycle_summary`, as far as the steps of the organizations go. -/
structure Summary where
  failures : Nat
  posture : PostureTotals
  failedSteps : List Text
  deriving DecidableEq

/-- `_total` of each field of the posture results. -/
def postureTotals (rs : List PostureResult) : PostureTotals where
  systems := (rs.map PostureResult.systemsScanned).sum
  checksRun := (rs.map PostureResult.checksRun).sum
  checksExpected := (rs.map PostureResult.checksExpected).sum
  manualReview := (rs.map PostureResult.manualReview).sum

/-- `f['step']` and the like. -/
def field (f : StepFailure) (key : Text) : Text :=
  ((f.find? fun kv => kv.1 = key).map Prod.snd).getD []

def failedStep (f : StepFailure) : Text :=
  field f "step".toList ++ "@".toList ++ field f "organization_id".toList

def cycleSummary {σ ρ : Type} (out : Cycle σ ρ) : Summary where
  failures := out.stepFailures.length
  posture := postureTotals out.postureResults
  failedSteps := ((out.stepFailures.map failedStep).dedup).insertionSort Json.keyLe

/-- The result of an organization, from the reports of its systems. -/
def orgResult (orgId : Nat) (outs : List ScanReport) : PostureResult where
  organizationId := orgId
  systemsScanned := outs.length
  checksRun := (outs.map ScanReport.checksRun).sum
  checksExpected := (outs.map ScanReport.checksExpected).sum
  manualReview := (outs.map fun r => (r.manualReviewTotal : Int)).sum

namespace CycleCalls

variable {σ ρ : Type} (c : CycleCalls σ ρ)

/-- The systems `_scan_org_systems` enumerates. -/
def liveSystems (rows : σ) (orgId : Nat) : List Nat :=
  ((c.systems rows).filter fun s => s.organizationId = orgId && !s.deleted).map System.id

/-- One turn of the loop: `commit=False`, since the cycle owns the transaction. -/
def scanSystem (orgId systemId : Nat) : Txn σ Raised ScanReport :=
  c.scanAllProviders systemId orgId "scheduler".toList false

/-- `_scan_org_systems`. -/
def scanOrgSystems (orgId : Nat) : Txn σ Raised PostureResult := do
  let systemIds ← .statement inFailedTransaction fun rows => some (c.liveSystems rows orgId, rows)
  let outs ← systemIds.mapM (c.scanSystem orgId)
  return orgResult orgId outs

/-- `set_session_tenant`. -/
def setSessionTenant (tenant : Option Nat) : Txn σ Raised Unit :=
  .statement inFailedTransaction fun rows => some ((), c.setTenant tenant rows)

/-- The posture step: the scan in the savepoint of the step. -/
def postureStep (orgId : Nat) (st : Cycle σ ρ) : Cycle σ ρ :=
  let n := (c.scanOrgSystems orgId).nested inFailedTransaction st.session
  -- what the body returned is recorded before the savepoint is released
  { st with
    session := n.session
    postureResults := st.postureResults ++ (match n.body with | .ok r => [r] | .error _ => [])
    stepFailures := st.stepFailures ++
      (match n.exit with | .ok _ => [] | .error _ => [stepFailure orgId .postureScan]) }

def otherStep (step : Step) (orgId : Nat) (st : Cycle σ ρ) : Cycle σ ρ :=
  let n := (c.step step orgId).nested inFailedTransaction st.session
  { st with
    session := n.session
    results := st.results ++
      (match n.body with | .ok r => [(step, orgId, r)] | .error _ => [])
    stepFailures := st.stepFailures ++
      (match n.exit with | .ok _ => [] | .error _ => [stepFailure orgId step]) }

/-- The slice of an organization up to its posture step. -/
def beforePosture (orgId : Nat) (st : Cycle σ ρ) : Except Raised (Cycle σ ρ) := do
  let (r, session) := (c.setSessionTenant (some orgId)).run st.session
  r
  return [Step.collection, .packSync, .conmon, .controlTests].foldl
    (fun st step => c.otherStep step orgId st) { st with session := session }

def orgSlice (st : Cycle σ ρ) (orgId : Nat) : Except Raised (Cycle σ ρ) := do
  let st := c.postureStep orgId (← c.beforePosture orgId st)
  let st := if c.deriveEnabled then c.otherStep .capabilityDerive orgId st else st
  return c.otherStep .assuranceGraph orgId st

/-- The loop of `_run_per_tenant_cycle`. -/
def slices (orgIds : List Nat) (st : Cycle σ ρ) : Except Raised (Cycle σ ρ) :=
  orgIds.foldlM c.orgSlice st

/-- `_run_per_tenant_cycle`: the loop, then the clamp is lifted, and what that raises is
suppressed. -/
def runPerTenantCycle (orgIds : List Nat) (st : Cycle σ ρ) : Except Raised (Cycle σ ρ) := do
  let st ← c.slices orgIds st
  return { st with session := ((c.setSessionTenant none).run st.session).2 }

/-! ## Every organization gets its slice -/

/-- What every step keeps: the session is usable, and the failures are of the one shape. -/
structure Sound (st : Cycle σ ρ) : Prop where
  usable : st.session.aborted = false
  shape : ∀ f ∈ st.stepFailures, ∃ orgId step, f = stepFailure orgId step

theorem run_setSessionTenant {s : Session σ} (hs : s.aborted = false) (tenant : Option Nat) :
    (c.setSessionTenant tenant).run s = (.ok (), ⟨c.setTenant tenant s.rows, false⟩) := by
  show (if s.aborted then _ else _) = _
  rw [if_neg (by simp [hs])]

theorem shape_append {fs : List StepFailure} {r : Except Raised Unit} {orgId : Nat} {step : Step}
    (h : ∀ f ∈ fs, ∃ orgId step, f = stepFailure orgId step) :
    ∀ f ∈ fs ++ (match r with | .ok _ => [] | .error _ => [stepFailure orgId step]),
      ∃ orgId step, f = stepFailure orgId step := by
  intro f hf
  rcases List.mem_append.mp hf with hf | hf
  · exact h f hf
  · cases r with
    | ok _ => cases hf
    | error _ => exact ⟨orgId, step, List.mem_singleton.mp hf⟩

theorem otherStep_sound (step : Step) (orgId : Nat) {st : Cycle σ ρ} (h : Sound st) :
    Sound (c.otherStep step orgId st) :=
  ⟨Txn.nested_usable h.usable, shape_append h.shape⟩

theorem postureStep_sound (orgId : Nat) {st : Cycle σ ρ} (h : Sound st) :
    Sound (c.postureStep orgId st) :=
  ⟨Txn.nested_usable h.usable, shape_append h.shape⟩

theorem otherSteps_sound (steps : List Step) (orgId : Nat) {st : Cycle σ ρ} (h : Sound st) :
    Sound (steps.foldl (fun st step => c.otherStep step orgId st) st) := by
  induction steps generalizing st with
  | nil => exact h
  | cons step steps ih => exact ih (c.otherStep_sound step orgId h)

theorem beforePosture_sound (orgId : Nat) {st : Cycle σ ρ} (h : Sound st) :
    ∃ st', c.beforePosture orgId st = .ok st' ∧ Sound st' := by
  rw [beforePosture, c.run_setSessionTenant h.usable]
  exact ⟨_, rfl, c.otherSteps_sound _ orgId ⟨rfl, h.shape⟩⟩

theorem orgSlice_sound (orgId : Nat) {st : Cycle σ ρ} (h : Sound st) :
    ∃ st', c.orgSlice st orgId = .ok st' ∧ Sound st' := by
  obtain ⟨u, hu, hsound⟩ := c.beforePosture_sound orgId h
  refine ⟨_, by rw [orgSlice, hu]; rfl, ?_⟩
  apply otherStep_sound
  split
  · exact c.otherStep_sound _ orgId (c.postureStep_sound orgId hsound)
  · exact c.postureStep_sound orgId hsound

theorem slices_sound (orgIds : List Nat) {st : Cycle σ ρ} (h : Sound st) :
    ∃ st', c.slices orgIds st = .ok st' ∧ Sound st' := by
  induction orgIds generalizing st with
  | nil => exact ⟨st, rfl, h⟩
  | cons orgId orgIds ih =>
    obtain ⟨u, hu, hsound⟩ := c.orgSlice_sound orgId h
    obtain ⟨st', hst', h'⟩ := ih hsound
    refine ⟨st', ?_, h'⟩
    rw [slices, List.foldlM_cons, hu]
    exact hst'

/-- **No step of an organization ends the cycle**, and each failure it records is of one step of
one organization. -/
theorem runPerTenantCycle_sound (orgIds : List Nat) {st : Cycle σ ρ} (h : Sound st) :
    ∃ st', c.runPerTenantCycle orgIds st = .ok st' ∧ Sound st' := by
  obtain ⟨u, hu, hsound⟩ := c.slices_sound orgIds h
  have hlifted := c.run_setSessionTenant hsound.usable none
  refine ⟨{ u with session := ⟨c.setTenant none u.session.rows, false⟩ }, ?_, rfl, hsound.shape⟩
  rw [runPerTenantCycle, hu]
  show Except.ok { u with session := ((c.setSessionTenant none).run u.session).2 } = _
  rw [hlifted]

/-- The state in which the posture step of an organization begins, after the slices of others. -/
def postureBegins (rows : σ) (before : List Nat) (orgId : Nat) : Except Raised (Cycle σ ρ) := do
  c.beforePosture orgId (← c.slices before { session := ⟨rows, false⟩ })

theorem postureBegins_sound (rows : σ) (before : List Nat) (orgId : Nat) :
    ∃ st, c.postureBegins rows before orgId = .ok st ∧ Sound st := by
  have hstart : Sound ({ session := ⟨rows, false⟩ } : Cycle σ ρ) := ⟨rfl, fun f hf => by cases hf⟩
  obtain ⟨st, hst, hsound⟩ := c.slices_sound before hstart
  rw [postureBegins, hst]
  exact c.beforePosture_sound orgId hsound

/-! ## What the posture step is to do -/

/-- The scans of an organization, each in a savepoint of its own. -/
def scanEach (orgId : Nat) (s : Session σ) :
    List (Nat × Txn.Nested σ Raised ScanReport) × Session σ :=
  eachNested inFailedTransaction (c.scanSystem orgId) (c.liveSystems s.rows orgId) s

end CycleCalls

/-- A failure names a system: it tells more of it than the organization it belongs to. -/
def Names (f : StepFailure) (systemId : Nat) : Prop :=
  ∃ kv ∈ f, kv.1 ≠ "organization_id".toList ∧ kv.2 = natText systemId

def PostureTotals.add (a b : PostureTotals) : PostureTotals :=
  ⟨a.systems + b.systems, a.checksRun + b.checksRun, a.checksExpected + b.checksExpected,
    a.manualReview + b.manualReview⟩

/-- **A system's scan survives its neighbours' failures.** With `each` what becomes of the scans
in savepoints of their own: the session holds what the kept scans wrote and no more, the summary
counts them, and the failures name the systems whose scan was not kept. -/
structure Contained {σ ρ : Type} (each : List (Nat × Txn.Nested σ Raised ScanReport) × Session σ)
    (before after : Cycle σ ρ) (orgId : Nat) : Prop where
  stored : after.session = each.2
  counted : (cycleSummary after).posture =
    (cycleSummary before).posture.add (postureTotals [orgResult orgId (keptValues each.1)])
  named : ∀ bn ∈ each.1, ¬ bn.2.Kept → ∃ f ∈ after.stepFailures, Names f bn.1

theorem name_ne_natText (step : Step) (n : Nat) : step.name ≠ natText n := by
  have hletter : step.name.any (fun ch => !ch.isDigit) = true := by cases step <;> rfl
  obtain ⟨ch, hch, hdigit⟩ := List.any_eq_true.mp hletter
  intro h
  rw [isDigit_of_mem_natText ch (h ▸ hch)] at hdigit
  cases hdigit

theorem not_names_stepFailure (orgId : Nat) (step : Step) (systemId : Nat) :
    ¬ Names (stepFailure orgId step) systemId := by
  rintro ⟨kv, hkv, hkey, hval⟩
  rcases List.mem_cons.mp hkv with rfl | hkv
  · exact hkey rfl
  · rw [List.mem_singleton.mp hkv] at hval
    exact name_ne_natText step systemId hval

theorem postureTotals_append (rs : List PostureResult) (r : PostureResult) :
    postureTotals (rs ++ [r]) = (postureTotals rs).add (postureTotals [r]) := by
  simp [postureTotals, PostureTotals.add]

namespace CycleCalls

variable {σ ρ : Type} (c : CycleCalls σ ρ)

theorem run_liveSystems {orgId : Nat} {s : Session σ} (hs : s.aborted = false) :
    (Txn.statement inFailedTransaction fun rows =>
      some (c.liveSystems rows orgId, rows)).run s = (.ok (c.liveSystems s.rows orgId), s) := by
  show (if s.aborted then _ else _) = _
  rw [if_neg (by simp [hs])]
  show _ = (_, (⟨s.rows, s.aborted⟩ : Session σ))
  rw [hs]

/-- Where every scan returns, `_scan_org_systems` returns what they count, and leaves what scans
in savepoints of their own leave. -/
theorem run_scanOrgSystems {orgId : Nat} {s : Session σ} (hs : s.aborted = false)
    (h : ∀ bn ∈ (c.scanEach orgId s).1, bn.2.Kept) :
    (c.scanOrgSystems orgId).run s =
      (.ok (orgResult orgId (keptValues (c.scanEach orgId s).1)), (c.scanEach orgId s).2) := by
  rw [scanOrgSystems, Txn.run_bind_ok (c.run_liveSystems hs),
    Txn.run_bind_ok (run_mapM_of_kept hs h)]
  rfl

theorem scanOrgSystems_not_kept {orgId : Nat} {s : Session σ} (hs : s.aborted = false)
    (h : ∃ bn ∈ (c.scanEach orgId s).1, ¬ bn.2.Kept) :
    ¬ ((c.scanOrgSystems orgId).nested inFailedTransaction s).Kept := by
  intro hk
  obtain ⟨-, r, t, hrun, ht⟩ := Txn.nested_kept_iff.mp hk
  rw [scanOrgSystems, Txn.run_bind_ok (c.run_liveSystems hs)] at hrun
  cases hscans : ((c.liveSystems s.rows orgId).mapM (c.scanSystem orgId)).run s with
  | mk outs u =>
    rcases run_mapM_of_not_kept hs h with ⟨e, v, he⟩ | hu
    · rw [Txn.run_bind_error he] at hrun
      cases (Prod.mk.inj hrun).1
    · rw [hscans] at hu
      cases outs with
      | error e =>
        rw [Txn.run_bind_error hscans] at hrun
        cases (Prod.mk.inj hrun).1
      | ok outs =>
        rw [Txn.run_bind_ok hscans] at hrun
        -- the scans returned, in a transaction that one of them had aborted
        have hsame : u = t := (Prod.mk.inj hrun).2
        rw [hsame, ht] at hu
        cases hu

/-- **All or nothing**: where the scan of one system fails, no write of any scan of its
organization is left, and the one failure recorded is the organization's. -/
theorem postureStep_lost {orgId : Nat} {st : Cycle σ ρ} (hs : st.session.aborted = false)
    (h : ∃ bn ∈ (c.scanEach orgId st.session).1, ¬ bn.2.Kept) :
    (c.postureStep orgId st).session = st.session ∧
      (c.postureStep orgId st).stepFailures =
        st.stepFailures ++ [stepFailure orgId .postureScan] := by
  have hnot := c.scanOrgSystems_not_kept hs h
  refine ⟨Txn.nested_session_of_not_kept hnot, ?_⟩
  show st.stepFailures ++ (match ((c.scanOrgSystems orgId).nested inFailedTransaction
    st.session).exit with | .ok _ => [] | .error _ => [stepFailure orgId .postureScan]) = _
  rw [Txn.Nested.Kept] at hnot
  split
  · exact absurd ‹_› hnot
  · rfl

/-- **When the scans of an organization are contained**: exactly where none of them needs to be.
The posture step of every organization is reached, and it keeps, counts and names what it is to
if and only if the scan of every live system returns. -/
theorem postureStep_contained_iff (rows : σ) (before : List Nat) (orgId : Nat) :
    ∃ st, c.postureBegins rows before orgId = .ok st ∧
      (Contained (c.scanEach orgId st.session) st (c.postureStep orgId st) orgId ↔
        AllReturn (c.scanSystem orgId) (c.liveSystems st.session.rows orgId) st.session) := by
  obtain ⟨st, hst, hsound⟩ := c.postureBegins_sound rows before orgId
  refine ⟨st, hst, ?_⟩
  have hreturn : AllReturn (c.scanSystem orgId) (c.liveSystems st.session.rows orgId) st.session ↔
      ∀ bn ∈ (c.scanEach orgId st.session).1, bn.2.Kept := allReturn_iff hsound.usable
  rw [hreturn]
  constructor
  · intro h bn hbn
    by_contra hnot
    obtain ⟨f, hf, hnames⟩ := h.named bn hbn hnot
    obtain ⟨o, step, rfl⟩ := (c.postureStep_sound orgId hsound).shape f hf
    exact not_names_stepFailure o step bn.1 hnames
  · intro h
    have hrun := c.run_scanOrgSystems hsound.usable h
    have hkept : (c.scanOrgSystems orgId).nested inFailedTransaction st.session = _ :=
      Txn.nested_kept hsound.usable hrun (eachNested_usable _ hsound.usable)
    constructor
    · show ((c.scanOrgSystems orgId).nested inFailedTransaction st.session).session = _
      rw [hkept]
    · show postureTotals (st.postureResults ++ (match ((c.scanOrgSystems orgId).nested
        inFailedTransaction st.session).body with | .ok r => [r] | .error _ => [])) = _
      rw [hkept]
      exact postureTotals_append st.postureResults _
    · intro bn hbn hnot
      exact absurd (h bn hbn) hnot

/-! ## An organization with a system whose scope raises -/

/-- A store of systems and recorded results. -/
structure Store where
  systems : List System
  results : List (Nat × Text)
  deriving DecidableEq

/-- One ready provider, which records one result for each system; the scope of system 2 raises. -/
def oneBroken : CycleCalls Store Unit where
  systems := Store.systems
  knownProviders := ["msgraph".toList]
  applyProviderScope system _ :=
    if system.id = 2 then .raise ⟨"KeyError".toList, "cloud_platform".toList⟩
    else pure ⟨[], [], [], []⟩
  providerReadiness _ _ := pure ⟨true, "ready".toList, none, [], 1⟩
  recordManualReviewCheck _ _ check _ _ := pure ⟨check.checkKey, "not_tested".toList⟩
  scanForSystem systemId _ _ _ := do
    .statement inFailedTransaction fun store =>
      some ((), { store with results := store.results ++ [(systemId, "pass".toList)] })
    return ⟨1, 1, ["pass".toList], [], none⟩
  ingestAttestations systemId _ := pure ⟨systemId, false, none⟩
  ingestSecurescore systemId _ := pure ⟨systemId, false, none⟩
  commit := pure ()
  setTenant _ store := store
  step _ _ := pure ()
  deriveEnabled := true

def twoSystems : Store := ⟨[⟨1, 7, false⟩, ⟨2, 7, false⟩], []⟩

/-- The result of system 1 is rolled back with the failure of system 2. -/
theorem oneBroken_not_contained :
    ∃ st, oneBroken.postureBegins twoSystems [] 7 = .ok st ∧
      ¬ Contained (oneBroken.scanEach 7 st.session) st (oneBroken.postureStep 7 st) 7 := by
  refine ⟨_, rfl, fun h => ?_⟩
  have hlost : (oneBroken.postureStep 7 { session := ⟨twoSystems, false⟩ }).session.rows.results
      = [] := by decide +kernel
  have hkept : (oneBroken.scanEach 7 ⟨twoSystems, false⟩).2.rows.results =
      [(1, "pass".toList)] := by decide +kernel
  have hstored := congrArg (fun s : Session Store => s.rows.results) h.stored
  exact absurd (hlost.symm.trans (hstored.trans hkept)) (by decide)

theorem oneBroken_lost :
    (oneBroken.postureStep 7 { session := ⟨twoSystems, false⟩ }).session = ⟨twoSystems, false⟩ ∧
      (oneBroken.postureStep 7 { session := ⟨twoSystems, false⟩ }).stepFailures =
        [stepFailure 7 .postureScan] :=
  oneBroken.postureStep_lost rfl ⟨_, List.mem_cons_of_mem _ List.mem_cons_self, by
    intro hkept
    cases hkept⟩

theorem oneBroken_sound :
    ∃ st, oneBroken.runPerTenantCycle [7] { session := ⟨twoSystems, false⟩ } = .ok st ∧ Sound st :=
  oneBroken.runPerTenantCycle_sound [7] ⟨rfl, fun _ hf => by cases hf⟩

end CycleCalls

end Concord.Scheduler
