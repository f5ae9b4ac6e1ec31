import Concord.Governance.Register
import Concord.Governance.Remediation

/-!
# Recording a control test

`record_result` of `ccf/governance/control_tests.py`: the result is written, a
failure is alerted on (notification, task, POA&M), a pass after anything else is a
recovery. The event log (`bus.emit`) is left out.

`record_eq_ok` is all that a recorded result does: to the test, to the task of the
test (`taskAfter`) and to the register (`Written`, in the slot of the test).
-/

namespace Concord.Governance.ControlTests

open Concord.Python Concord.Base

/-- The arguments of `record_result`, with the clock. -/
structure ResultCall where
  status : Text
  detail : Option Text := none
  evidenceRef : Option Text := none
  evaluated : Int := 0
  failing : Int := 0
  expected : Option Text := none
  resources : List ResourceFinding := []
  openRemediation : Bool := true
  now : Moment

/-- `f"{test.name} ({test.control_id})"`. -/
def nameAndControl (t : ControlTest) : Text :=
  t.name ++ " (".toList ++ t.controlId ++ [')']

/-! ## The POA&M of a failing test -/

/-- The `SELECT` both for a failure and for a recovery. -/
def isOpenFor (system : Nat) (ref : Text) (p : Poam) : Bool :=
  decide (p.systemId = system ∧ p.source = some controlTestSource ∧ p.sourceRef = some ref) &&
    p.active

theorem isOpenFor_iff {system : Nat} {ref : Text} {p : Poam} :
    isOpenFor system ref p = true ↔ p.slot = some (.controlTest system ref) := by
  rw [isOpenFor, Bool.and_eq_true, decide_eq_true_iff, slot_eq_some, origin_eq_controlTest,
    and_comm]

/-- A repeated failure: the weakness follows the test, and so does a plan that was
generated, or is empty. -/
def refresh (weakness guidance : Text) (p : Poam) : Poam :=
  if p.remediationPlanSource = .generated then
    { p with weakness := some weakness, remediationPlan := some guidance }
  else if orElse p.remediationPlan none = none then
    { p with
      weakness := some weakness
      remediationPlan := some guidance
      remediationPlanSource := .generated }
  else { p with weakness := some weakness }

theorem refresh_face (weakness guidance : Text) (p : Poam) :
    (refresh weakness guidance p).face = p.face := by
  unfold refresh
  split
  · rfl
  · split <;> rfl

/-- The POA&M of a first failure; its id is set on insertion. -/
def newPoam (inv : Inventory) (t : ControlTest) (system : Nat) (weakness guidance : Text)
    (today : Int) : Poam where
  id := 0
  systemId := system
  controlId := inv.controlIdOf t.controlId
  title := "Control test failed: ".toList ++ nameAndControl t
  weakness := some weakness
  severity := .high
  status := .opened
  identifiedOn := some today
  dueOn := some (today + 30)
  closedOn := none
  ownerUserId := none
  source := some controlTestSource
  pointOfContact := none
  remediationPlan := some guidance
  remediationPlanSource := .generated
  resourcesRequired := none
  costEstimate := none
  scheduledCompletion := none
  originalDueOn := some (today + 30)
  riskId := none
  vendorId := none
  sourceRef := some (controlTestRef t.id)
  acceptanceRationale := none
  milestones :=
    [{ description := "Remediate ".toList ++ t.controlId, dueOn := some (today + 30),
       completedOn := none, status := .pending, sortOrder := 0 }]

theorem newPoam_slot (inv : Inventory) (t : ControlTest) (system : Nat)
    (weakness guidance : Text) (today : Int) :
    (newPoam inv t system weakness guidance today).slot =
      some (.controlTest system (controlTestRef t.id)) :=
  slot_eq_some.mpr ⟨rfl, origin_eq_controlTest.mpr ⟨rfl, rfl, rfl⟩⟩

/-- `ensure_poam_for_control_test`: the POA&M, if the test has a system, and whether
it is new. -/
def ensurePoamForControlTest (db : Db) (t : ControlTest) (detail : Text) (now : Moment) :
    Except Raised (Db × Option Poam × Bool) :=
  match t.systemId with
  | none => .ok (db, none, false)
  | some system => do
    let weakness := "Automated control test '".toList ++ t.name ++ "' (".toList ++
      t.controlId ++ ") failed: ".toList ++ detail
    let guidance := remediationGuidance t detail
    let existing ← scalarOneOrNone (db.poams.filter (isOpenFor system (controlTestRef t.id)))
    match existing with
    | some p =>
      return ({ db with poams := updatePoamRow p.id (refresh weakness guidance) db.poams },
        some (refresh weakness guidance p), false)
    | none =>
      let p := newPoam db.inventory t system weakness guidance now.date
      return ({ db with poams := insertPoam p db.poams },
        some { p with id := nextId (db.poams.map Poam.id) }, true)

/-! ## Failure and recovery -/

def remediationTask (t : ControlTest) (detail : Text) : Task where
  organizationId := t.organizationId
  systemId := t.systemId
  title := "Remediate failed control test: ".toList ++ t.name
  description := some detail
  kind := "remediation".toList
  status := .opened
  priority := .high
  source := "auto".toList
  entityType := some "control_test".toList
  entityId := some (natText t.id)
  dedupeKey := some (ctltestFix t.id)
  dueOn := none
  closedAt := none

/-- A task of the key is found in whatever status, and then there is no new one. -/
def openTask (t : ControlTest) (detail : Text) (tasks : List Task) : List Task :=
  match findTask (ctltestFix t.id) tasks with
  | some _ => tasks
  | none => tasks ++ [remediationTask t detail]

def failureNotice (t : ControlTest) (status : ValidationStatus) (detail : Text) :
    Notification where
  organizationId := t.organizationId
  severity := if status = .fail then .critical else .warning
  category := "conmon".toList
  title := "Control test ".toList ++ status.text ++ ": ".toList ++ nameAndControl t
  body := some detail
  entityType := some "control_test".toList
  entityId := some (natText t.id)
  dedupeKey := some ("ctltest:".toList ++ natText t.id)

/-- `_alert_on_failure`. -/
def alertOnFailure (db : Db) (t : ControlTest) (status : ValidationStatus) (detail : Text)
    (now : Moment) : Except Raised Db :=
  let notices := notify (failureNotice t status detail) db.notifications
  if status = .fail then
    (ensurePoamForControlTest
      { db with notifications := notices, tasks := openTask t detail db.tasks }
      t detail now).map Prod.fst
  else .ok { db with notifications := notices }

def recoveryNotice (t : ControlTest) (poam : Nat) (note : Text) : Notification where
  organizationId := t.organizationId
  severity := .info
  category := "conmon".toList
  title := "Control test recovered: ".toList ++ nameAndControl t
  body := some note
  entityType := some "poam".toList
  entityId := some (natText poam)
  dedupeKey := some ("poam-recovery:".toList ++ natText poam)

/-- `_resolve_on_recovery`, inside its savepoint. -/
def resolve (db : Db) (t : ControlTest) (resultId : Nat) (now : Moment) : Except Raised Db :=
  let resolved :=
    { db with tasks := updateTask (ctltestFix t.id) (Task.resolve now) db.tasks }
  match t.systemId with
  | none => .ok resolved
  | some system => do
    let found ← scalarOneOrNone (db.poams.filter (isOpenFor system (controlTestRef t.id)))
    match found with
    | none => return resolved
    | some p =>
      let note := "Control test '".toList ++ t.name ++ "' now passes as of ".toList ++
        now.isoformat ++ " (result #".toList ++ natText resultId ++
        ") -- review for closure.".toList
      return { resolved with
        poams := updatePoamRow p.id (appendNote note) db.poams
        notifications := notify (recoveryNotice t p.id note) db.notifications }

/-- `_resolve_on_recovery`: what raises inside the savepoint is undone and logged. -/
def resolveOnRecovery (db : Db) (t : ControlTest) (resultId : Nat) (now : Moment) : Db :=
  db.commit (resolve db t resultId now)

/-! ## Recording -/

/-- The waivers' part in a result; none if there is no candidate. -/
def coverage (db : Db) (t : ControlTest) (c : ResultCall) (status : ValidationStatus) :
    Option Coverage :=
  if status = .fail ∨ status = .warn then
    match waiversForTest db.waivers t with
    | [] => none
    | candidates => some (cover c.resources candidates c.now.date)
  else none

/-- The row of the result and its resource rows. -/
def resultRow (db : Db) (t : ControlTest) (c : ResultCall) (status : ValidationStatus)
    (coverage : Option Coverage) : ControlTestResult where
  id := nextId (db.results.map ControlTestResult.id)
  controlTestId := t.id
  status := status
  detail := c.detail
  evidenceRef := c.evidenceRef
  evaluated := c.evaluated
  failing := c.failing
  expected := c.expected
  waived := (coverage.map Coverage.waived).getD 0
  resources := c.resources.map fun f =>
    { resourceId := f.resourceId.take 512
      resourceType := f.resourceType.take 64
      verdict := f.verdict
      observed := f.observed
      waiverId := coverage.bind fun v => v.byResource.lookup f.resourceId }

/-- `", ".join(repr(s) for s in VALIDATION_STATUSES)` in its message. -/
def statusError : Raised :=
  .valueError ("status must be one of ('pass', 'warn', 'fail', 'not_tested', " ++
    "'manual_review_required', 'not_applicable')").toList

def tested (status : ValidationStatus) (now : Moment) (t : ControlTest) : ControlTest :=
  { t with lastStatus := some status, lastTestedAt := some now }

/-- What the caller is alerted to or spared, once the result is written. -/
def consequence (db : Db) (t : ControlTest) (previous : Option ValidationStatus)
    (c : ResultCall) (status : ValidationStatus) (coverage : Option Coverage)
    (resultId : Nat) : Except Raised Db :=
  if status = .fail ∨ status = .warn then
    if !c.openRemediation then .ok db
    else if (coverage.map Coverage.suppress).getD false then .ok db
    else alertOnFailure db t status (c.detail.getD []) c.now
  -- the status before this result, not the one just written
  else if status = .pass ∧ previous ≠ some .pass then
    .ok (resolveOnRecovery db t resultId c.now)
  else .ok db

/-- The result and the test, written before anything follows from them. -/
def written (db : Db) (t : ControlTest) (c : ResultCall) (status : ValidationStatus)
    (res : ControlTestResult) : Db :=
  { db with
    tests := db.tests.map fun u => if u.id = t.id then tested status c.now u else u
    results := db.results ++ [res] }

/-- `record_result`. -/
def recordResult (db : Db) (t : ControlTest) (c : ResultCall) :
    Except Raised (Db × ControlTestResult) :=
  match parseStatus c.status with
  | none => .error statusError
  | some status => do
    let cov := coverage db t c status
    let res := resultRow db t c status cov
    let db' ← consequence (written db t c status res) (tested status c.now t) t.lastStatus
      c status cov res.id
    return (db', res)

/-! ## What a recorded result does -/

section Effect

variable {db : Db} {t : ControlTest} {system : Nat}

def testSlot (system : Nat) (t : ControlTest) : Slot :=
  .controlTest system (controlTestRef t.id)

theorem ensure_eq_ok (hsystem : ∀ s ∈ t.systemId, s = system) {detail : Text}
    {now : Moment} {r : Db × Option Poam × Bool}
    (h : ensurePoamForControlTest db t detail now = .ok r) :
    ∃ poams, r.1 = { db with poams := poams } ∧
      Written (testSlot system t) (controlTestRef t.id) db.poams poams := by
  unfold ensurePoamForControlTest at h
  cases hs : t.systemId with
  | none =>
    rw [hs] at h
    exact ⟨_, (congrArg Prod.fst (Except.ok.inj h)).symm, .same⟩
  | some s =>
    obtain rfl := hsystem s hs
    rw [hs] at h
    obtain ⟨existing, hlookup, h⟩ := bind_eq_ok.mp h
    have hrows := scalarOneOrNone_eq_ok hlookup
    cases existing with
    | some p =>
      exact ⟨_, (congrArg Prod.fst (Except.ok.inj h)).symm,
        .refreshed p.id _ (refresh_face _ _)⟩
    | none =>
      refine ⟨_, (congrArg Prod.fst (Except.ok.inj h)).symm,
        .opened _ (newPoam_slot ..) rfl fun b hb hslot => ?_⟩
      have hmem := List.mem_filter.mpr ⟨hb, isOpenFor_iff.mpr hslot⟩
      rw [hrows] at hmem
      exact nomatch hmem

theorem lookup_ok (hk : Kept db.poams) (system : Nat) (ref : Text) :
    ∃ found, scalarOneOrNone (db.poams.filter (isOpenFor system ref)) = .ok found :=
  hk.lookup_ok fun _ _ => isOpenFor_iff.mp

theorem ensure_isOk (hk : Kept db.poams) (t : ControlTest) (detail : Text) (now : Moment) :
    ∃ r, ensurePoamForControlTest db t detail now = .ok r := by
  unfold ensurePoamForControlTest
  cases t.systemId with
  | none => exact ⟨_, rfl⟩
  | some system =>
    obtain ⟨found, hfound⟩ := lookup_ok hk system (controlTestRef t.id)
    show ∃ r, (scalarOneOrNone _ >>= _) = .ok r
    rw [hfound]
    cases found with
    | none => exact ⟨_, rfl⟩
    | some p => exact ⟨_, rfl⟩

theorem alert_eq_ok (hsystem : ∀ s ∈ t.systemId, s = system) {status : ValidationStatus}
    {detail : Text} {now : Moment} {db' : Db}
    (h : alertOnFailure db t status detail now = .ok db') :
    ∃ poams, Written (testSlot system t) (controlTestRef t.id) db.poams poams ∧
      db' = { db with
        poams := poams
        notifications := notify (failureNotice t status detail) db.notifications
        tasks := if status = .fail then openTask t detail db.tasks else db.tasks } := by
  unfold alertOnFailure at h
  by_cases hf : status = .fail
  · rw [if_pos hf] at h
    rw [if_pos hf]
    obtain ⟨r, hr, hdb⟩ := bind_eq_ok.mp h
    obtain ⟨poams, hpoams, hw⟩ := ensure_eq_ok hsystem hr
    exact ⟨poams, hw, (Except.ok.inj hdb).symm.trans hpoams⟩
  · rw [if_neg hf] at h
    rw [if_neg hf]
    exact ⟨_, .same, (Except.ok.inj h).symm⟩

theorem resolveOnRecovery_eq (t : ControlTest) (system resultId : Nat) (now : Moment) :
    ∃ poams notices tasks,
      Written (testSlot system t) (controlTestRef t.id) db.poams poams ∧
      (Kept db.poams → tasks = updateTask (ctltestFix t.id) (Task.resolve now) db.tasks) ∧
      resolveOnRecovery db t resultId now =
        { db with poams := poams, notifications := notices, tasks := tasks } := by
  unfold resolveOnRecovery resolve
  cases t.systemId with
  | none => exact ⟨_, _, _, .same, fun _ => rfl, rfl⟩
  | some s =>
    show ∃ poams notices tasks, _ ∧ _ ∧ db.commit (scalarOneOrNone _ >>= _) = _
    cases hlookup : scalarOneOrNone (db.poams.filter (isOpenFor s (controlTestRef t.id))) with
    | error e =>
      refine ⟨_, _, _, .same, fun hk => ?_, rfl⟩
      obtain ⟨found, hfound⟩ := lookup_ok hk s (controlTestRef t.id)
      rw [hlookup] at hfound
      exact nomatch hfound
    | ok found =>
      cases found with
      | none => exact ⟨_, _, _, .same, fun _ => rfl, rfl⟩
      | some p => exact ⟨_, _, _, .refreshed p.id _ (appendNote_face _), fun _ => rfl, rfl⟩

def tasksAfter (tasks : List Task) (t : ControlTest) (previous : Option ValidationStatus)
    (c : ResultCall) (status : ValidationStatus) (cov : Option Coverage) : List Task :=
  if status = .fail ∧ c.openRemediation = true ∧
      (cov.map Coverage.suppress).getD false = false then
    openTask t (c.detail.getD []) tasks
  else if status = .pass ∧ previous ≠ some .pass then
    updateTask (ctltestFix t.id) (Task.resolve c.now) tasks
  else tasks

/-- What follows from a result, beside notifications. -/
structure Follows (system : Nat) (db : Db) (t : ControlTest)
    (previous : Option ValidationStatus) (c : ResultCall) (status : ValidationStatus)
    (cov : Option Coverage) (db' : Db) : Prop where
  inventory : db'.inventory = db.inventory
  waivers : db'.waivers = db.waivers
  tests : db'.tests = db.tests
  tasks : Kept db.poams → db'.tasks = tasksAfter db.tasks t previous c status cov
  poams : Written (testSlot system t) (controlTestRef t.id) db.poams db'.poams

theorem consequence_eq_ok (hsystem : ∀ s ∈ t.systemId, s = system)
    {previous : Option ValidationStatus} {c : ResultCall} {status : ValidationStatus}
    {cov : Option Coverage} {resultId : Nat} {db' : Db}
    (h : consequence db t previous c status cov resultId = .ok db') :
    Follows system db t previous c status cov db' := by
  unfold consequence at h
  by_cases hbad : status = .fail ∨ status = .warn
  · rw [if_pos hbad] at h
    have hpass : ¬ (status = .pass ∧ previous ≠ some .pass) := by
      rintro ⟨rfl, -⟩
      exact hbad.elim (nomatch ·) (nomatch ·)
    by_cases halert : c.openRemediation = true ∧
        (cov.map Coverage.suppress).getD false = false
    · rw [halert.1, halert.2, Bool.not_true, if_neg Bool.false_ne_true,
        if_neg Bool.false_ne_true] at h
      obtain ⟨poams, hw, rfl⟩ := alert_eq_ok hsystem h
      refine ⟨rfl, rfl, rfl, fun _ => ?_, hw⟩
      rw [tasksAfter, if_neg hpass]
      simp only [halert, and_true]
    · have hdb : db' = db := by
        split at h
        · exact (Except.ok.inj h).symm
        · split at h
          · exact (Except.ok.inj h).symm
          · next hopen hsup =>
            refine absurd ⟨?_, Bool.eq_false_of_not_eq_true hsup⟩ halert
            simpa using hopen
      refine hdb ▸ ⟨rfl, rfl, rfl, fun _ => ?_, .same⟩
      rw [tasksAfter, if_neg (fun h => halert h.2), if_neg hpass]
  · rw [if_neg hbad] at h
    have hfail : ¬ (status = .fail ∧ c.openRemediation = true ∧
        (cov.map Coverage.suppress).getD false = false) := fun h => hbad (.inl h.1)
    by_cases hpass : status = .pass ∧ previous ≠ some .pass
    · rw [if_pos hpass] at h
      obtain ⟨poams, notices, tasks, hw, htasks, heq⟩ :=
        resolveOnRecovery_eq t system resultId c.now
      rw [← Except.ok.inj h, heq]
      refine ⟨rfl, rfl, rfl, fun hk => ?_, hw⟩
      rw [tasksAfter, if_neg hfail, if_pos hpass]
      exact htasks hk
    · rw [if_neg hpass] at h
      rw [← Except.ok.inj h]
      refine ⟨rfl, rfl, rfl, fun _ => ?_, .same⟩
      rw [tasksAfter, if_neg hfail, if_neg hpass]

/-- What a recorded result does, beside the result and notifications. -/
structure Recorded (system : Nat) (db : Db) (t : ControlTest) (c : ResultCall)
    (status : ValidationStatus) (db' : Db) : Prop where
  parsed : parseStatus c.status = some status
  inventory : db'.inventory = db.inventory
  waivers : db'.waivers = db.waivers
  tests : db'.tests = db.tests.map fun u => if u.id = t.id then tested status c.now u else u
  tasks : Kept db.poams →
    db'.tasks = tasksAfter db.tasks t t.lastStatus c status (coverage db t c status)
  poams : Written (testSlot system t) (controlTestRef t.id) db.poams db'.poams

theorem system_getD (t : ControlTest) : ∀ s ∈ t.systemId, s = t.systemId.getD 0 := by
  intro s hs
  rw [Option.mem_def.mp hs]
  rfl

/-- **All that a recorded result does.** -/
theorem record_eq_ok (hsystem : ∀ s ∈ t.systemId, s = system)
    {c : ResultCall} {r : Db × ControlTestResult} (h : recordResult db t c = .ok r) :
    ∃ status, Recorded system db t c status r.1 := by
  unfold recordResult at h
  cases hparse : parseStatus c.status with
  | none =>
    rw [hparse] at h
    exact nomatch h
  | some status =>
    rw [hparse] at h
    obtain ⟨db', hdb', hr⟩ := bind_eq_ok.mp h
    rw [← Except.ok.inj hr]
    have hsystem' : ∀ s ∈ (tested status c.now t).systemId, s = system := hsystem
    have hf := consequence_eq_ok hsystem' hdb'
    exact ⟨status, hparse, hf.inventory, hf.waivers, hf.tests, hf.tasks, hf.poams⟩

theorem consequence_isOk (hk : Kept db.poams) (t : ControlTest)
    (previous : Option ValidationStatus) (c : ResultCall) (status : ValidationStatus)
    (cov : Option Coverage) (resultId : Nat) :
    ∃ db', consequence db t previous c status cov resultId = .ok db' := by
  unfold consequence
  by_cases hbad : status = .fail ∨ status = .warn
  · rw [if_pos hbad]
    split
    · exact ⟨_, rfl⟩
    · split
      · exact ⟨_, rfl⟩
      · unfold alertOnFailure
        by_cases hf : status = .fail
        · have hk' : Kept { db with
              notifications := notify (failureNotice t status (c.detail.getD []))
                db.notifications
              tasks := openTask t (c.detail.getD []) db.tasks }.poams := hk
          obtain ⟨r, hr⟩ := ensure_isOk hk' t (c.detail.getD []) c.now
          rw [if_pos hf, hr]
          exact ⟨_, rfl⟩
        · rw [if_neg hf]
          exact ⟨_, rfl⟩
  · rw [if_neg hbad]
    split <;> exact ⟨_, rfl⟩

/-- **A result is recorded** in a kept register. -/
theorem record_isOk (hk : Kept db.poams) (t : ControlTest) {c : ResultCall}
    {status : ValidationStatus} (hparse : parseStatus c.status = some status) :
    ∃ r, recordResult db t c = .ok r := by
  unfold recordResult
  rw [hparse]
  show ∃ r, (consequence _ _ _ _ _ _ _ >>= _) = .ok r
  obtain ⟨db', hdb'⟩ := consequence_isOk
    (show Kept (written db t c status _).poams from hk) (tested status c.now t) t.lastStatus c
    status (coverage db t c status) (resultRow db t c status (coverage db t c status)).id
  rw [hdb']
  exact ⟨_, rfl⟩

end Effect

end Concord.Governance.ControlTests
