import Concord.Base.Run
import Concord.Governance.Tasks

/-!
# Onboarding and offboarding

`ccf/governance/personnel.py`: an onboarding opens a screening task where the background check is
not done, and an offboarding the task of revoking a person's access. Each is looked up by its key,
`_ensure_task`, and a row of the key is enough, in whatever status.

`duties_open_iff`: a run of calls opens what it is to open if and only if no call finds its task
closed. A person who is offboarded again after the first revocation is done gets no second one.

The tenant of a session, and whom a task is assigned to, are left out.
-/

namespace Concord.Personnel

open Concord.Base Concord.Python Concord.Governance

/-! ## Rows -/

/-- A row of `people`. -/
structure Person where
  id : Nat
  organizationId : Option Nat
  fullName : Text
  email : Option Text
  position : Option Text
  status : Text
  startDate : Option Int
  endDate : Option Int
  riskDesignation : Text
  backgroundCheckStatus : Text
  backgroundCheckCompletedOn : Option Int
  deriving DecidableEq

/-- A row of `training_records`. -/
structure TrainingRecord where
  personId : Nat
  course : Text
  kind : Text
  controlRef : Option Text
  assignedOn : Option Int
  dueOn : Option Int
  status : Text
  deriving DecidableEq

/-- `BASELINE_TRAINING`. -/
def baselineTraining : Text := "Security Awareness Training".toList

/-- `_TRAINING_DUE_DAYS`. -/
def trainingDueDays : Int := 30

def Person.screened (p : Person) : Bool :=
  p.backgroundCheckStatus ∈ ["completed".toList, "waived".toList]

/-! ## Duties -/

/-- The arguments of `_ensure_task`. -/
structure Duty where
  title : Text
  kind : Text
  priority : Priority
  dedupe : Text

/-- The screening task of `onboard`. -/
def Person.screening (p : Person) : Duty where
  title := "Complete background screening: ".toList ++ p.fullName
  kind := "onboarding".toList
  priority := if p.riskDesignation = "high".toList then .high else .medium
  dedupe := "onboard-screen:".toList ++ natText p.id

/-- The task of `offboard`. -/
def Person.revocation (p : Person) : Duty where
  title := "Revoke all access for offboarded personnel: ".toList ++ p.fullName
  kind := "offboarding".toList
  priority := .high
  dedupe := "offboard-revoke:".toList ++ natText p.id

def Person.task (p : Person) (duty : Duty) : Task where
  organizationId := p.organizationId
  systemId := none
  title := duty.title
  description :=
    some ((orElse p.position none).getD "Personnel".toList ++ " — ".toList ++
      (orElse p.email none).getD p.fullName)
  kind := duty.kind
  status := .opened
  priority := duty.priority
  source := "auto".toList
  entityType := some "person".toList
  entityId := some (natText p.id)
  dedupeKey := some duty.dedupe
  dueOn := none
  closedAt := none

/-- `_ensure_task`. -/
def ensureTask (p : Person) (duty : Duty) (tasks : List Task) : List Task :=
  match findTask duty.dedupe tasks with
  | some _ => tasks
  | none => tasks ++ [p.task duty]

/-! ## The calls -/

/-- A person, with the rows that the calls read and write. -/
structure Desk where
  person : Person
  training : List TrainingRecord
  tasks : List Task
  now : Moment

/-- The training that every person gets, where there is none. -/
def assignBaseline (p : Person) (today : Int) (training : List TrainingRecord) :
    List TrainingRecord :=
  if training.any fun t => t.personId = p.id && t.course = baselineTraining then training
  else
    training ++ [{
      personId := p.id
      course := baselineTraining
      kind := "awareness".toList
      controlRef := some "AT-2".toList
      assignedOn := some today
      dueOn := some (today + trainingDueDays)
      status := "assigned".toList }]

/-- `onboard`. -/
def Desk.onboard (d : Desk) : Desk :=
  let person :=
    { d.person with
      status := "active".toList
      startDate := d.person.startDate.or (some d.now.date) }
  { d with
    person := person
    training := assignBaseline person d.now.date d.training
    tasks := if person.screened then d.tasks else ensureTask person person.screening d.tasks }

/-- `offboard`. -/
def Desk.offboard (d : Desk) (endDate : Option Int) : Desk :=
  let person :=
    { d.person with
      status := "offboarded".toList
      endDate := endDate.or (some d.now.date) }
  { d with person := person, tasks := ensureTask person person.revocation d.tasks }

/-- `PersonUpdate`, of the fields that the calls read. -/
structure PersonUpdate where
  fullName : Option Text := none
  email : Option Text := none
  position : Option Text := none
  riskDesignation : Option Text := none
  backgroundCheckStatus : Option Text := none
  backgroundCheckCompletedOn : Option Int := none

/-- `update_person`. -/
def Desk.updatePerson (d : Desk) (u : PersonUpdate) : Desk :=
  let p :=
    { d.person with
      fullName := u.fullName.getD d.person.fullName
      email := u.email.or d.person.email
      position := u.position.or d.person.position
      riskDesignation := u.riskDesignation.getD d.person.riskDesignation
      backgroundCheckStatus := u.backgroundCheckStatus.getD d.person.backgroundCheckStatus
      backgroundCheckCompletedOn :=
        u.backgroundCheckCompletedOn.or d.person.backgroundCheckCompletedOn }
  { d with
    person :=
      if p.backgroundCheckStatus = "completed".toList ∧ p.backgroundCheckCompletedOn = none then
        { p with backgroundCheckCompletedOn := some d.now.date }
      else p }

/-- `TaskUpdate`. -/
structure TaskUpdate where
  title : Option Text := none
  description : Option Text := none
  status : Option TaskStatus := none
  priority : Option Priority := none
  dueOn : Option Int := none

/-- `update_task`, of the row it addresses: completion and cancellation are two of its uses. -/
def TaskUpdate.apply (u : TaskUpdate) (now : Moment) (t : Task) : Task :=
  { t with
    title := u.title.getD t.title
    description := u.description.or t.description
    status := u.status.getD t.status
    priority := u.priority.getD t.priority
    dueOn := u.dueOn.or t.dueOn
    closedAt :=
      if (u.status = some .done ∨ u.status = some .cancelled) ∧ t.closedAt = none then some now
      else t.closedAt }

/-! ## Runs -/

/-- A call, an edit, or the passage of time. -/
inductive Action
  | onboard
  | offboard (endDate : Option Int)
  | updatePerson (u : PersonUpdate)
  | updateTask (row : Nat) (u : TaskUpdate)
  | elapse (now : Moment)

def step (d : Desk) : Action → Option Desk
  | .onboard => some d.onboard
  | .offboard endDate => some (d.offboard endDate)
  | .updatePerson u => some (d.updatePerson u)
  | .updateTask row u => some { d with tasks := d.tasks.modify row (u.apply d.now) }
  | .elapse now => some { d with now := now }

def Desk.Open (d : Desk) (kind : Text) : Prop :=
  ∃ t ∈ d.tasks, t.kind = kind ∧ t.entityType = some "person".toList ∧
    t.entityId = some (natText d.person.id) ∧ t.live = true

/-- What is to be open right after a call: the revocation of one who is offboarded, the screening
of one who is onboarded and not screened. -/
def Opens (d : Desk) : Action → Prop
  | .offboard endDate => (d.offboard endDate).Open "offboarding".toList
  | .onboard => d.onboard.person.screened = false → d.onboard.Open "onboarding".toList
  | _ => True

/-- The task of a duty was never opened, or a task of its kind is open still. -/
def Desk.Unspent (d : Desk) (duty : Duty) : Prop :=
  findTask duty.dedupe d.tasks = none ∨ d.Open duty.kind

def Meets (d : Desk) : Action → Prop
  | .offboard _ => d.Unspent d.person.revocation
  | .onboard => d.person.screened = false → d.Unspent d.person.screening
  | _ => True

theorem open_ensureTask_iff {d d' : Desk} {duty : Duty} (hid : d'.person.id = d.person.id)
    (htasks : d'.tasks = ensureTask d'.person duty d.tasks) :
    d'.Open duty.kind ↔ d.Unspent duty := by
  unfold Desk.Unspent Desk.Open
  rw [htasks, hid]
  unfold ensureTask
  cases hfind : findTask duty.dedupe d.tasks with
  | some t => exact (or_iff_right (Option.some_ne_none t)).symm
  | none =>
    refine iff_of_true ⟨d'.person.task duty, ?_, rfl, rfl, ?_, rfl⟩ (Or.inl rfl)
    · exact List.mem_append_right _ (List.mem_singleton_self _)
    · show some (natText d'.person.id) = _
      rw [hid]

/-- **When every call opens its task**: in a run of onboardings, offboardings, edits of the person
and of tasks, if and only if none finds the task it is to open spent. -/
theorem duties_open_iff (d : Desk) (actions : List Action) :
    Guarded step Opens d actions ↔ Guarded step Meets d actions := by
  refine guarded_congr fun d a => ?_
  cases a with
  | onboard =>
    have hscreened : d.onboard.person.screened = d.person.screened := rfl
    show (_ → _) ↔ (_ → _)
    rw [hscreened]
    refine imp_congr_right fun hopen => ?_
    refine @open_ensureTask_iff d _ d.onboard.person.screening rfl ?_
    show (if d.onboard.person.screened = true then _ else _) = _
    rw [hscreened, if_neg (Bool.eq_false_iff.mp hopen)]
    rfl
  | offboard endDate =>
    exact @open_ensureTask_iff d _ (d.offboard endDate).person.revocation rfl rfl
  | updatePerson u => exact Iff.rfl
  | updateTask row u => exact Iff.rfl
  | elapse now => exact Iff.rfl

/-! ## A second offboarding -/

def employee : Desk where
  person := {
    id := 4
    organizationId := some 1
    fullName := "Dana Reyes".toList
    email := none
    position := none
    status := "active".toList
    startDate := some 739000
    endDate := none
    riskDesignation := "low".toList
    backgroundCheckStatus := "completed".toList
    backgroundCheckCompletedOn := some 739000 }
  training := []
  tasks := []
  now := ⟨739100, "2024-08-02T09:00:00+00:00".toList⟩

/-- The revocation of the first offboarding is done, and the person is back and leaves again. -/
theorem employee_not_revoked :
    ∃ d, exec step employee
        [.offboard none, .updateTask 0 { status := some .done }, .onboard] = some d ∧
      ¬Opens d (.offboard none) := by
  refine ⟨_, rfl, ?_⟩
  rintro ⟨t, ht, -, -, -, hlive⟩
  rw [List.mem_singleton.mp ht] at hlive
  exact absurd hlive (by decide)

end Concord.Personnel
