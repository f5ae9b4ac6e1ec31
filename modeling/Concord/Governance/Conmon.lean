import Mathlib.Data.List.Infix
import Concord.Governance.Register

/-!
# Continuous monitoring

`ccf/governance/conmon.py`: `assess_health`, and `scan` with what it does to the
task and the POA&M of each control. A scan reads evidence and open POA&Ms once, at
its start. The rows it refreshes belong to the control that it is at, and a control
comes up once, so what it read stays what it would read.

`assessHealth_poams` separates what the POA&Ms contribute to the health of a control.
`scanControl_eq_ok` is what a scan does at one control, `scan_eq_ok` at all of them.
-/

namespace Concord.Governance.Conmon

open Concord.Python Concord.Base

/-! ## Health -/

inductive Health
  | healthy | dueSoon | atRisk | overdue
  deriving DecidableEq

/-- `_RANK`. -/
def Health.rank : Health → Nat
  | .healthy => 0
  | .dueSoon => 1
  | .atRisk => 2
  | .overdue => 3

/-- `status.replace('_', ' ')`. -/
def Health.text : Health → Text
  | .healthy => "healthy".toList
  | .dueSoon => "due soon".toList
  | .atRisk => "at risk".toList
  | .overdue => "overdue".toList

def Health.degraded : Health → Bool
  | .atRisk | .overdue => true
  | _ => false

/-- `_escalate`. -/
def escalate (current candidate : Health) : Health :=
  if current.rank < candidate.rank then candidate else current

theorem escalate_assoc (a b c : Health) :
    escalate (escalate a b) c = escalate a (escalate b c) := by
  cases a <;> cases b <;> cases c <;> rfl

def worst (found : List (Health × Text)) : Health :=
  found.foldl (fun status f => escalate status f.1) .healthy

theorem foldl_escalate (found : List (Health × Text)) (status : Health) :
    found.foldl (fun status f => escalate status f.1) status =
      escalate status (worst found) := by
  induction found generalizing status with
  | nil => cases status <;> rfl
  | cons f found ih =>
    have hf : escalate .healthy f.1 = f.1 := by cases f.1 <;> rfl
    rw [worst, List.foldl_cons, List.foldl_cons, ih, ih (escalate .healthy f.1), hf,
      escalate_assoc]

theorem worst_append (found more : List (Health × Text)) :
    worst (found ++ more) = escalate (worst found) (worst more) := by
  rw [worst, List.foldl_append, foldl_escalate]
  rfl

/-- `DUE_SOON_DAYS`. -/
def dueSoonDays : Int := 30

def severe (p : Poam) : Bool := decide (p.severity = .high ∨ p.severity = .critical)

/-- What the dates, the evidence and the assessment say. -/
def dateFindings (impl : ControlImplementation) (evidences : List Evidence) (today : Int) :
    List (Health × Text) :=
  let horizon := today + dueSoonDays
  let dated := evidences.filterMap Evidence.expiresOn
  (if dated.any fun d => d < today then [(.overdue, "evidence expired".toList)]
    else if dated.any fun d => d ≤ horizon then
      [(.dueSoon, "evidence expiring soon".toList)]
    else []) ++
  (if evidences = [] ∧ (impl.status = .implemented ∨ impl.status = .inherited) then
      [(.dueSoon, "no evidence on record".toList)]
    else []) ++
  (match impl.nextAssessmentDue with
    | none => []
    | some due =>
      if due < today then [(.overdue, "assessment overdue".toList)]
      else if due ≤ horizon then [(.dueSoon, "assessment due soon".toList)]
      else [])

def poamFindings (openPoams : List Poam) : List (Health × Text) :=
  let crit := openPoams.filter severe
  if crit = [] then []
  else [(.atRisk, natText crit.length ++ " open high/critical POA&M".toList)]

/-- What the status of the implementation says. -/
def statusFindings (impl : ControlImplementation) : List (Health × Text) :=
  if impl.status = .notImplemented ∨ impl.status = .planned then
    [(.atRisk, "implementation status: ".toList ++ impl.status.text)]
  else []

/-- `assess_health`: each finding escalates the status and adds its reason. -/
def assessHealth (impl : ControlImplementation) (evidences : List Evidence)
    (openPoams : List Poam) (today : Int) : Health × List Text :=
  let found := dateFindings impl evidences today ++ poamFindings openPoams ++
    statusFindings impl
  (worst found, found.map Prod.snd)

/-- **The part of the POA&Ms**: a severe one is at-risk, and that is all. -/
theorem assessHealth_poams (impl : ControlImplementation) (evidences : List Evidence)
    (openPoams : List Poam) (today : Int) :
    (assessHealth impl evidences openPoams today).1 =
      escalate (assessHealth impl evidences [] today).1
        (if openPoams.any severe then .atRisk else .healthy) := by
  have hpoams : worst (poamFindings openPoams) =
      if openPoams.any severe then .atRisk else .healthy := by
    unfold poamFindings
    by_cases h : openPoams.filter severe = []
    · rw [if_pos h, if_neg]
      · rfl
      · rw [List.any_eq_true]
        rintro ⟨p, hp, hs⟩
        exact List.filter_eq_nil_iff.mp h p hp hs
    · rw [if_neg h, if_pos]
      · rfl
      · obtain ⟨p, hp⟩ := List.exists_mem_of_ne_nil _ h
        exact List.any_eq_true.mpr ⟨p, List.mem_filter.mp hp⟩
  show worst _ = escalate (worst _) _
  rw [worst_append, worst_append, worst_append, worst_append, hpoams]
  generalize worst (dateFindings impl evidences today) = d
  generalize worst (statusFindings impl) = s
  rw [show worst (poamFindings []) = .healthy from rfl]
  cases openPoams.any severe <;> cases d <;> cases s <;> rfl

/-- `_kind_for`. -/
def kindFor (reasons : List Text) : Text :=
  let joined := List.intercalate [' '] reasons
  if "POA&M".toList <:+: joined then "remediation".toList
  else if "assessment".toList <:+: joined then "reassessment".toList
  else if "evidence".toList <:+: joined then "evidence_refresh".toList
  else "review".toList

/-! ## Task and POA&M of a control -/

/-- The arguments of `scan`, with the clock. -/
structure ScanCall where
  today : Int
  orgId : Option Nat := none
  now : Moment

/-- `_POAM_SEVERITY`. -/
def poamSeverity : Health → Severity
  | .overdue => .high
  | _ => .moderate

def monitoringTitle (impl : ControlImplementation) (status : Health) : Text :=
  "Control ".toList ++ natText impl.controlId ++ " monitoring: ".toList ++ status.text

/-- `"; ".join(reasons)`. -/
def reasonText (reasons : List Text) : Text := List.intercalate "; ".toList reasons

def conmonTask (c : ScanCall) (impl : ControlImplementation) (status : Health)
    (reasons : List Text) : Task where
  organizationId := c.orgId
  systemId := some impl.systemId
  title := monitoringTitle impl status
  description := some (reasonText reasons)
  kind := kindFor reasons
  status := .opened
  priority := if status = .overdue then .high else .medium
  source := "auto".toList
  entityType := some "control_implementation".toList
  entityId := some (natText impl.id)
  dedupeKey := some (conmonRef impl.id)
  dueOn := some (c.today + 14)
  closedAt := none

def refreshTask (new t : Task) : Task :=
  { t with title := new.title, description := new.description, priority := new.priority }

/-- `_upsert_task`: a closed task is found, and left as it is. -/
def upsertTask (impl : Nat) (new : Task) (tasks : List Task) : List Task × Bool :=
  match findTask (conmonRef impl) tasks with
  | some t =>
    if t.live then (updateTask (conmonRef impl) (refreshTask new) tasks, false)
    else (tasks, false)
  | none => (tasks ++ [new], true)

/-- The POA&M of a degraded control; its id is set on insertion. -/
def conmonPoam (c : ScanCall) (impl : ControlImplementation) (status : Health)
    (reasons : List Text) : Poam :=
  let due := c.today + if poamSeverity status = .high then 14 else 30
  { id := 0
    systemId := impl.systemId
    controlId := some impl.controlId
    title := monitoringTitle impl status
    weakness := some (reasonText reasons)
    severity := poamSeverity status
    status := .opened
    identifiedOn := some c.today
    dueOn := some due
    closedOn := none
    ownerUserId := none
    source := some conmonSource
    pointOfContact := none
    remediationPlan := none
    remediationPlanSource := .analyst
    resourcesRequired := none
    costEstimate := none
    scheduledCompletion := none
    originalDueOn := some due
    riskId := none
    vendorId := none
    sourceRef := some (conmonRef impl.id)
    acceptanceRationale := none
    milestones :=
      [{ description := "Remediate: ".toList ++ monitoringTitle impl status
         dueOn := some due, completedOn := none, status := .pending, sortOrder := 0 }] }

def controlSlot (impl : ControlImplementation) : Slot := .conmon impl.systemId impl.controlId

theorem conmonPoam_slot (c : ScanCall) (impl : ControlImplementation) (status : Health)
    (reasons : List Text) :
    (conmonPoam c impl status reasons).slot = some (controlSlot impl) :=
  slot_eq_some.mpr ⟨rfl, origin_eq_conmon.mpr ⟨rfl, rfl, rfl⟩⟩

/-- The `SELECT` of `_upsert_poam`. -/
def isOpenConmon (system control : Nat) (p : Poam) : Bool :=
  decide (p.systemId = system ∧ p.controlId = some control ∧ p.source = some conmonSource) &&
    p.active

theorem isOpenConmon_iff {impl : ControlImplementation} {p : Poam} :
    isOpenConmon impl.systemId impl.controlId p = true ↔
      p.slot = some (controlSlot impl) := by
  rw [isOpenConmon, Bool.and_eq_true, decide_eq_true_iff, slot_eq_some, controlSlot,
    origin_eq_conmon, and_comm]

/-- A POA&M that is there gets the severity and the reasons of today. -/
def regrade (new p : Poam) : Poam :=
  { p with severity := new.severity, weakness := new.weakness }

/-- `_upsert_poam`: the register, and whether there is a new row. -/
def upsertPoam (impl : ControlImplementation) (new : Poam) (poams : List Poam) :
    Except Raised (List Poam × Bool) := do
  let existing ← scalarOneOrNone (poams.filter (isOpenConmon impl.systemId impl.controlId))
  match existing with
  | some p => return (updatePoamRow p.id (regrade new) poams, false)
  | none => return (insertPoam new poams, true)

/-! ## Recovery -/

/-- The `SELECT` of `_resolve_on_recovery`, which asks for the `source_ref`. -/
def isOpenRef (system : Nat) (ref : Text) (p : Poam) : Bool :=
  decide (p.systemId = system ∧ p.source = some conmonSource ∧ p.sourceRef = some ref) &&
    p.active

def recoveryNotice (c : ScanCall) (impl poam : Nat) (note : Text) : Notification where
  organizationId := c.orgId
  severity := .info
  category := "conmon".toList
  title := "Control ".toList ++ natText impl ++ " recovered: POA&M ready for review".toList
  body := some note
  entityType := some "poam".toList
  entityId := some (natText poam)
  dedupeKey := some ("poam-recovery:".toList ++ natText poam)

/-- What a scan did at one control. -/
structure Outcome where
  status : Health
  taskCreated : Bool := false
  poamCreated : Bool := false
  taskResolved : Bool := false
  poamRecovered : Bool := false
  deriving DecidableEq

/-- `f"Control implementation {impl_id} returned to healthy …"`. -/
def recoveryNote (c : ScanCall) (impl : ControlImplementation) : Text :=
  "Control implementation ".toList ++ natText impl.id ++
    " returned to healthy as of ".toList ++ c.now.isoformat ++
    " -- review for closure.".toList

/-- The task is resolved, the POA&M that was found is noted. -/
def recovered (c : ScanCall) (impl : ControlImplementation) (db : Db) (found : Option Poam) :
    Db × Outcome :=
  let key := conmonRef impl.id
  let tasks := updateTask key (Task.resolve c.now) db.tasks
  let resolves := (findTask key db.tasks).any fun t => t.status = .opened
  match found with
  | none => ({ db with tasks := tasks }, { status := .healthy, taskResolved := resolves })
  | some p =>
    ({ db with
        tasks := tasks
        poams := updatePoamRow p.id (appendNote (recoveryNote c impl)) db.poams
        notifications := notify (recoveryNotice c impl.id p.id (recoveryNote c impl))
          db.notifications },
      { status := .healthy, taskResolved := resolves, poamRecovered := true })

/-- `_resolve_on_recovery`: what raises inside the savepoint is undone and logged. -/
def resolveOnRecovery (c : ScanCall) (impl : ControlImplementation) (db : Db) :
    Db × Outcome :=
  match scalarOneOrNone (db.poams.filter (isOpenRef impl.systemId (conmonRef impl.id))) with
  | .ok found => recovered c impl db found
  | .error _ => (db, { status := .healthy })

/-! ## The scan -/

def healthNotice (c : ScanCall) (impl : ControlImplementation) (status : Health)
    (reasons : List Text) : Notification where
  organizationId := c.orgId
  severity := match status with
    | .overdue => .critical
    | .atRisk => .warning
    | _ => .info
  category := "conmon".toList
  title := monitoringTitle impl status
  body := some (reasonText reasons)
  entityType := some "control_implementation".toList
  entityId := some (natText impl.id)
  dedupeKey := some ("conmon:".toList ++ natText impl.id)

/-- The health of a control, as a scan of the database on a day finds it. -/
def health (db : Db) (today : Int) (impl : ControlImplementation) : Health × List Text :=
  assessHealth impl (db.inventory.evidenceFor impl.id)
    ((db.poams.filter Poam.active).filter fun p =>
      p.systemId = impl.systemId ∧ p.controlId = some impl.controlId) today

/-- The body of the loop, at a control of the given health. -/
def scanControl (c : ScanCall) (impl : ControlImplementation) (h : Health × List Text)
    (db : Db) : Except Raised (Db × Outcome) :=
  if h.1 = .healthy then .ok (resolveOnRecovery c impl db)
  else
    let notices := notify (healthNotice c impl h.1 h.2) db.notifications
    if h.1.degraded then do
      let upserted := upsertTask impl.id (conmonTask c impl h.1 h.2) db.tasks
      let register ← upsertPoam impl (conmonPoam c impl h.1 h.2) db.poams
      return ({ db with
          notifications := notices
          tasks := upserted.1
          poams := register.1 },
        { status := h.1, taskCreated := upserted.2, poamCreated := register.2 })
    else .ok ({ db with notifications := notices }, { status := h.1 })

def scanControls (c : ScanCall) (assess : ControlImplementation → Health × List Text) :
    List ControlImplementation → Db → Except Raised (Db × List Outcome)
  | [], db => .ok (db, [])
  | impl :: impls, db => do
    let r ← scanControl c impl (assess impl) db
    let rest ← scanControls c assess impls r.1
    return (rest.1, r.2 :: rest.2)

/-- What `scan` returns. -/
structure Summary where
  controlsChecked : Nat
  findings : Nat
  tasksCreated : Nat
  notificationsCreated : Nat
  poamsCreated : Nat
  tasksResolved : Nat
  poamsRecovered : Nat
  byStatus : Health → Nat

def summary (outcomes : List Outcome) : Summary where
  controlsChecked := outcomes.length
  findings := outcomes.countP fun o => o.status ≠ .healthy
  tasksCreated := outcomes.countP Outcome.taskCreated
  notificationsCreated := outcomes.countP fun o => o.status ≠ .healthy
  poamsCreated := outcomes.countP Outcome.poamCreated
  tasksResolved := outcomes.countP Outcome.taskResolved
  poamsRecovered := outcomes.countP Outcome.poamRecovered
  byStatus := fun h => outcomes.countP fun o => o.status = h

/-- `scan`. -/
def scan (db : Db) (c : ScanCall) : Except Raised (Db × Summary) := do
  let r ← scanControls c (health db c.today) (db.inventory.inScope c.orgId) db
  return (r.1, summary r.2)

/-! ## What a scan does at one control -/

section Effect

variable {c : ScanCall} {impl : ControlImplementation} {db db' : Db}

theorem upsertPoam_eq_ok {new : Poam} (hslot : new.slot = some (controlSlot impl))
    (href : new.sourceRef = some (conmonRef impl.id)) {poams : List Poam}
    {r : List Poam × Bool} (h : upsertPoam impl new poams = .ok r) :
    Written (controlSlot impl) (conmonRef impl.id) poams r.1 ∧
      (∀ p ∈ poams, p.slot = some (controlSlot impl) →
        ∃ p' ∈ r.1, p'.face = { p.face with severity := new.severity }) ∧
      ∃ p' ∈ r.1, p'.slot = some (controlSlot impl) ∧ p'.severity = new.severity := by
  obtain ⟨existing, hlookup, h⟩ := bind_eq_ok.mp h
  have hrows := scalarOneOrNone_eq_ok hlookup
  have hfound : ∀ p ∈ poams, p.slot = some (controlSlot impl) → p ∈ existing.toList :=
    fun p hp hs => hrows ▸ List.mem_filter.mpr ⟨hp, isOpenConmon_iff.mpr hs⟩
  cases existing with
  | some e =>
    have hmem : e ∈ poams.filter (isOpenConmon impl.systemId impl.controlId) := by
      rw [hrows]
      exact List.mem_singleton_self e
    rw [List.mem_filter, isOpenConmon_iff] at hmem
    rw [← Except.ok.inj h]
    have hrow : ∃ p' ∈ updatePoamRow e.id (regrade new) poams,
        p'.face = { e.face with severity := new.severity } :=
      ⟨_, mem_updatePoamRow hmem.1, by rw [if_pos rfl]; rfl⟩
    refine ⟨.graded e _ new.severity hmem.1 hmem.2 fun p => rfl, fun p hp hs => ?_, ?_⟩
    · obtain rfl : p = e := List.mem_singleton.mp (hfound p hp hs)
      exact hrow
    · obtain ⟨p', hp', hface⟩ := hrow
      exact ⟨p', hp', (slot_of_face hface).trans hmem.2, congrArg Face.severity hface⟩
  | none =>
    rw [← Except.ok.inj h]
    refine ⟨.opened new hslot href fun p hp hs => (nomatch hfound p hp hs),
      fun p hp hs => (nomatch hfound p hp hs), ?_⟩
    exact ⟨_, List.mem_append_right _ (List.mem_singleton_self _), hslot, rfl⟩

theorem upsertPoam_isOk {poams : List Poam} (hk : Kept poams) (impl : ControlImplementation)
    (new : Poam) : ∃ r, upsertPoam impl new poams = .ok r := by
  obtain ⟨found, hfound⟩ := hk.lookup_ok fun p _ => (@isOpenConmon_iff impl p).mp
  unfold upsertPoam
  rw [hfound]
  cases found with
  | none => exact ⟨_, rfl⟩
  | some p => exact ⟨_, rfl⟩

/-- The severity a scan leaves on the POA&M of a control. -/
def gradeAfter (h : Health) (severity : Severity) : Severity :=
  if h.degraded then poamSeverity h else severity

/-- The signal of a control's health for its task. -/
def signalOf : Health → Signal
  | .healthy => .cleared
  | .dueSoon => .quiet
  | .atRisk | .overdue => .raised

theorem upsertTask_moves (impl : Nat) {new : Task} (hkey : new.dedupeKey = some (conmonRef impl))
    (hopen : new.status = .opened) (tasks : List Task) :
    Moves (conmonRef impl) .raised tasks (upsertTask impl new tasks).1 := by
  unfold upsertTask
  cases h : findTask (conmonRef impl) tasks with
  | none => exact moves_concat h hkey hopen
  | some t =>
    show Moves _ _ _ (if t.live = true then _ else _ : List Task × Bool).1
    split
    · exact moves_refresh h (fun _ => rfl) (fun _ => rfl)
    · exact moves_found h

/-- The lookup by reference, in which a recovery is undone if it raises. -/
def RefFound (impl : ControlImplementation) (poams : List Poam) : Prop :=
  ∃ found, scalarOneOrNone (poams.filter (isOpenRef impl.systemId (conmonRef impl.id))) =
    .ok found

/-- What a scan does at one control of health `h`. -/
structure Visited (impl : ControlImplementation) (h : Health) (db db' : Db) : Prop where
  inventory : db'.inventory = db.inventory
  waivers : db'.waivers = db.waivers
  tests : db'.tests = db.tests
  poams : Written (controlSlot impl) (conmonRef impl.id) db.poams db'.poams
  graded : ∀ p ∈ db.poams, p.slot = some (controlSlot impl) →
    ∃ p' ∈ db'.poams, p'.face = { p.face with severity := gradeAfter h p.severity }
  held : h.degraded = true → ∃ p' ∈ db'.poams, p'.slot = some (controlSlot impl) ∧
    p'.severity = poamSeverity h
  tasks : Automatic (conmonRef impl.id) db.tasks → RefFound impl db.poams →
    Moves (conmonRef impl.id) (signalOf h) db.tasks db'.tasks
  others : ∀ key, key ≠ conmonRef impl.id → findTask key db'.tasks = findTask key db.tasks

theorem findTask_resolve {key key' : Text} (hne : key' ≠ key) (now : Moment)
    (tasks : List Task) :
    findTask key' (updateTask key (Task.resolve now) tasks) = findTask key' tasks := by
  rw [findTask_updateTask]
  · simp [hne]
  · intro t
    unfold Task.resolve
    split <;> rfl

theorem Visited.recovered (c : ScanCall) (impl : ControlImplementation) (db : Db)
    (found : Option Poam) : Visited impl .healthy db (recovered c impl db found).1 := by
  cases found with
  | none =>
    exact ⟨rfl, rfl, rfl, .same, fun p hp _ => ⟨p, hp, rfl⟩, (nomatch ·),
      fun hauto _ => moves_resolve hauto c.now, fun key hne => findTask_resolve hne _ _⟩
  | some p =>
    refine ⟨rfl, rfl, rfl, .refreshed p.id _ (appendNote_face _), fun q hq _ => ?_,
      (nomatch ·), fun hauto _ => moves_resolve hauto c.now, fun key hne => findTask_resolve hne _ _⟩
    refine ⟨_, mem_updatePoamRow hq, ?_⟩
    split <;> rfl

theorem Visited.recovery (c : ScanCall) (impl : ControlImplementation) (db : Db) :
    Visited impl .healthy db (resolveOnRecovery c impl db).1 := by
  unfold resolveOnRecovery
  cases hlookup : scalarOneOrNone
      (db.poams.filter (isOpenRef impl.systemId (conmonRef impl.id))) with
  | error e =>
    refine ⟨rfl, rfl, rfl, .same, fun p hp _ => ⟨p, hp, rfl⟩, (nomatch ·),
      fun _ hfound => ?_, fun _ _ => rfl⟩
    rw [RefFound, hlookup] at hfound
    obtain ⟨found, hfound⟩ := hfound
    exact nomatch hfound
  | ok found => exact Visited.recovered c impl db found

/-- **All that a scan does at one control.** -/
theorem scanControl_eq_ok {h : Health × List Text} {r : Db × Outcome}
    (hscan : scanControl c impl h db = .ok r) : Visited impl h.1 db r.1 := by
  unfold scanControl at hscan
  by_cases hhealthy : h.1 = .healthy
  · rw [if_pos hhealthy] at hscan
    rw [← Except.ok.inj hscan, hhealthy]
    exact Visited.recovery c impl db
  · rw [if_neg hhealthy] at hscan
    cases hdeg : h.1.degraded with
    | true =>
      rw [hdeg, if_pos rfl] at hscan
      obtain ⟨register, hreg, hr⟩ := bind_eq_ok.mp hscan
      obtain ⟨hwritten, hgraded, hheld⟩ := upsertPoam_eq_ok (conmonPoam_slot ..) rfl hreg
      have hsignal : signalOf h.1 = .raised := by
        revert hdeg
        cases h.1 <;> simp [signalOf, Health.degraded]
      have hmoves : Moves _ _ _ (upsertTask impl.id (conmonTask c impl h.1 h.2) db.tasks).1 :=
        upsertTask_moves impl.id rfl rfl db.tasks
      rw [← Except.ok.inj hr]
      refine ⟨rfl, rfl, rfl, hwritten, fun p hp hs => ?_, fun _ => hheld,
        fun _ _ => hsignal ▸ hmoves, hmoves.others⟩
      rw [gradeAfter, hdeg, if_pos rfl]
      exact hgraded p hp hs
    | false =>
      rw [hdeg, if_neg Bool.false_ne_true] at hscan
      have hsignal : signalOf h.1 = .quiet := by
        revert hdeg hhealthy
        cases h.1 <;> simp [signalOf, Health.degraded]
      rw [← Except.ok.inj hscan]
      refine ⟨rfl, rfl, rfl, .same, fun p hp _ => ⟨p, hp, ?_⟩, fun h => (nomatch hdeg ▸ h),
        fun _ _ => hsignal ▸ moves_quiet, fun _ _ => rfl⟩
      rw [gradeAfter, hdeg, if_neg Bool.false_ne_true]
      rfl

theorem scanControl_isOk (hk : Kept db.poams) (c : ScanCall) (impl : ControlImplementation)
    (h : Health × List Text) : ∃ r, scanControl c impl h db = .ok r := by
  unfold scanControl
  split
  · exact ⟨_, rfl⟩
  · split
    · obtain ⟨register, hreg⟩ := upsertPoam_isOk hk impl (conmonPoam c impl h.1 h.2)
      show ∃ r, (upsertPoam _ _ _ >>= _) = .ok r
      rw [hreg]
      exact ⟨_, rfl⟩
    · exact ⟨_, rfl⟩

/-! ## What a scan does -/

/-- The implementation of a control among those scanned. -/
def visited (impls : List ControlImplementation) (k : Slot) : Option ControlImplementation :=
  impls.find? fun i => controlSlot i = k

theorem controlSlot_nodup {impls : List ControlImplementation}
    (h : (impls.map ControlImplementation.key).Nodup) : (impls.map controlSlot).Nodup := by
  have heq : impls.map controlSlot =
      (impls.map ControlImplementation.key).map fun k => Slot.conmon k.1 k.2 := by
    rw [List.map_map]
    rfl
  rw [heq]
  refine h.map fun a b hab => ?_
  obtain ⟨h₁, h₂⟩ := Slot.conmon.inj hab
  exact Prod.ext h₁ h₂

theorem visited_eq_none {impls : List ControlImplementation} {k : Slot}
    (h : k ∉ impls.map controlSlot) : visited impls k = none := by
  refine List.find?_eq_none.mpr fun i hi hk => h ?_
  exact List.mem_map.mpr ⟨i, hi, of_decide_eq_true hk⟩

theorem visited_eq_some {impls : List ControlImplementation}
    (h : (impls.map controlSlot).Nodup) {i : ControlImplementation} (hi : i ∈ impls) :
    visited impls (controlSlot i) = some i :=
  find_of_nodup h hi

/-- What a scan leaves unread and unwritten. -/
structure Untouched (db db' : Db) : Prop where
  inventory : db'.inventory = db.inventory
  waivers : db'.waivers = db.waivers
  tests : db'.tests = db.tests

variable {assess : ControlImplementation → Health × List Text}
  {impls : List ControlImplementation}

theorem scanControls_cons {impl : ControlImplementation} {r : Db × List Outcome}
    (hscan : scanControls c assess (impl :: impls) db = .ok r) :
    ∃ first rest, scanControl c impl (assess impl) db = .ok first ∧
      scanControls c assess impls first.1 = .ok rest ∧ r.1 = rest.1 := by
  obtain ⟨first, hfirst, hrest⟩ := bind_eq_ok.mp hscan
  obtain ⟨rest, hrest, hr⟩ := bind_eq_ok.mp hrest
  exact ⟨first, rest, hfirst, hrest, Except.ok.inj hr ▸ rfl⟩

theorem scanControls_invariant {I : Db → Prop}
    (hkeep : ∀ impl db first, I db → scanControl c impl (assess impl) db = .ok first → I first.1)
    {r : Db × List Outcome} (hdb : I db) (hscan : scanControls c assess impls db = .ok r) :
    I r.1 := by
  induction impls generalizing db r with
  | nil => exact Except.ok.inj hscan ▸ hdb
  | cons impl impls ih =>
    obtain ⟨first, rest, hfirst, hrest, hr⟩ := scanControls_cons hscan
    exact hr ▸ ih (hkeep impl db first hdb hfirst) hrest

theorem scanControls_eq_ok {r : Db × List Outcome}
    (hscan : scanControls c assess impls db = .ok r) (hk : Kept db.poams) :
    Kept r.1.poams ∧ Untouched db r.1 := by
  refine scanControls_invariant (I := fun after => Kept after.poams ∧ Untouched db after) ?_
    ⟨hk, rfl, rfl, rfl⟩ hscan
  rintro impl after first ⟨hk', hu⟩ hfirst
  have hv := scanControl_eq_ok hfirst
  exact ⟨hv.poams.kept hk', hv.inventory.trans hu.inventory, hv.waivers.trans hu.waivers,
    hv.tests.trans hu.tests⟩

theorem scanControls_ids {r : Db × List Outcome}
    (hscan : scanControls c assess impls db = .ok r) (hids : (db.poams.map Poam.id).Nodup) :
    (r.1.poams.map Poam.id).Nodup :=
  scanControls_invariant (I := fun after => (after.poams.map Poam.id).Nodup)
    (fun _ _ _ h hfirst => (scanControl_eq_ok hfirst).poams.ids h) hids hscan

theorem scanControls_isOk (hk : Kept db.poams) (c : ScanCall)
    (assess : ControlImplementation → Health × List Text)
    (impls : List ControlImplementation) : ∃ r, scanControls c assess impls db = .ok r := by
  induction impls generalizing db with
  | nil => exact ⟨_, rfl⟩
  | cons impl impls ih =>
    obtain ⟨first, hfirst⟩ := scanControl_isOk hk c impl (assess impl)
    obtain ⟨rest, hrest⟩ := ih ((scanControl_eq_ok hfirst).poams.kept hk)
    unfold scanControls
    rw [hfirst]
    show ∃ r, (scanControls c assess impls first.1 >>= _) = .ok r
    rw [hrest]
    exact ⟨_, rfl⟩

/-- The severity a scan leaves on the open conmon POA&M of a slot: set by the health
of the control, if the control is scanned. -/
def severityAfter (assess : ControlImplementation → Health × List Text)
    (impls : List ControlImplementation) (k : Slot) (severity : Severity) : Severity :=
  match visited impls k with
  | some i => gradeAfter (assess i).1 severity
  | none => severity

/-- **The severity after a scan.** -/
theorem scanControls_graded {r : Db × List Outcome}
    (hscan : scanControls c assess impls db = .ok r)
    (hids : (db.poams.map Poam.id).Nodup) (hkeys : (impls.map controlSlot).Nodup)
    {k : Slot} {p : Poam} (hp : p ∈ db.poams)
    (hslot : p.slot = some k) :
    ∃ p' ∈ r.1.poams,
      p'.face = { p.face with severity := severityAfter assess impls k p.severity } := by
  induction impls generalizing db p r with
  | nil => exact Except.ok.inj hscan ▸ ⟨p, hp, rfl⟩
  | cons impl impls ih =>
    obtain ⟨first, rest, hfirst, hrest, hr⟩ := scanControls_cons hscan
    have hv := scanControl_eq_ok hfirst
    have hids' := hv.poams.ids hids
    rw [List.map_cons, List.nodup_cons] at hkeys
    rw [hr]
    by_cases hik : controlSlot impl = k
    · -- the control itself; it does not come up again
      obtain ⟨q, hq, hface⟩ := hv.graded p hp (hik ▸ hslot)
      have hqslot : q.slot = some k := (slot_of_face hface).trans hslot
      obtain ⟨p', hp', hface'⟩ := ih hrest hids' hkeys.2 hq hqslot
      have hnone := visited_eq_none (hik ▸ hkeys.1)
      refine ⟨p', hp', ?_⟩
      have hafter : severityAfter assess (impl :: impls) k p.severity =
          gradeAfter (assess impl).1 p.severity := by
        rw [severityAfter, visited, List.find?_cons_of_pos (by simpa using hik)]
      rw [severityAfter, hnone] at hface'
      rw [hafter, hface']
      show { q.face with severity := q.face.severity } = _
      rw [hface]
    · obtain ⟨q, hq, hface⟩ := hv.poams.frame hids (Ne.symm hik) hp hslot
      have hqslot : q.slot = some k := (slot_congr hface).trans hslot
      obtain ⟨p', hp', hface'⟩ := ih hrest hids' hkeys.2 hq hqslot
      have hafter : severityAfter assess (impl :: impls) k p.severity =
          severityAfter assess impls k p.severity := by
        rw [severityAfter, visited, List.find?_cons_of_neg (by simpa using hik)]
        rfl
      have hseverity : q.severity = p.severity := congrArg Face.severity hface
      refine ⟨p', hp', ?_⟩
      rw [hface', hafter, hface, hseverity]

theorem scanControls_held {r : Db × List Outcome}
    (hscan : scanControls c assess impls db = .ok r)
    (hids : (db.poams.map Poam.id).Nodup) (hkeys : (impls.map controlSlot).Nodup)
    {i : ControlImplementation} (hi : i ∈ impls) (hdeg : (assess i).1.degraded = true) :
    ∃ p ∈ r.1.poams, p.slot = some (controlSlot i) ∧ p.severity = poamSeverity (assess i).1 := by
  induction impls generalizing db r with
  | nil => exact nomatch hi
  | cons impl impls ih =>
    obtain ⟨first, rest, hfirst, hrest, hr⟩ := scanControls_cons hscan
    have hv := scanControl_eq_ok hfirst
    have hids' := hv.poams.ids hids
    rw [List.map_cons, List.nodup_cons] at hkeys
    rw [hr]
    rcases List.mem_cons.mp hi with rfl | hi
    · obtain ⟨p, hp, hslot, hseverity⟩ := hv.held hdeg
      obtain ⟨p', hp', hface⟩ := scanControls_graded hrest hids' hkeys.2 hp hslot
      rw [severityAfter, visited_eq_none hkeys.1] at hface
      refine ⟨p', hp', (slot_of_face hface).trans hslot, ?_⟩
      exact (congrArg Face.severity hface).trans hseverity
    · obtain ⟨p, hp, hheld⟩ := ih hrest hids' hkeys.2 hi
      exact ⟨p, hp, hheld⟩

end Effect

end Concord.Governance.Conmon
