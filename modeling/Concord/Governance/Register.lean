import Concord.Base.Slots
import Concord.Governance.Waivers
import Concord.Governance.Tasks

/-!
# The governance register

The tables that monitoring and people write: POA&Ms, notifications, approvals and
test results (`ccf/models.py`, `ccf/models_grc.py`), with `bus.notify`; `Db` is
all of them. Values written are taken to fit their columns.

Nothing in the schema says that a source has one POA&M. The monitors look up *the*
active POA&M of a source with `scalar_one_or_none`, which raises if there are two.
`Poam.slot` is the source such a lookup asks for, and `Kept` what it relies on: ids
are unique, and no source has two active rows.
-/

namespace Concord.Governance

open Concord.Python Concord.Base

/-- What a call raises. -/
inductive Raised
  | valueError (text : Text)
  | multipleResultsFound
  | httpException (status : Nat) (detail : Text)
  deriving DecidableEq

/-- `Result.scalar_one_or_none()`. -/
def scalarOneOrNone {α : Type} : List α → Except Raised (Option α)
  | [] => .ok none
  | [a] => .ok (some a)
  | _ => .error .multipleResultsFound

def raisedBy {α : Type} : Except Raised α → Option Raised
  | .error e => some e
  | .ok _ => none

theorem scalarOneOrNone_eq_ok {α : Type} {rows : List α} {r : Option α}
    (h : scalarOneOrNone rows = .ok r) : rows = r.toList := by
  match rows, h with
  | [], h => exact Except.ok.inj h ▸ rfl
  | [a], h => exact Except.ok.inj h ▸ rfl

/-! ## POA&Ms -/

/-- `POAM_STATUSES`. -/
inductive PoamStatus
  | opened | inProgress | completed | riskAccepted | closed
  deriving DecidableEq

def PoamStatus.text : PoamStatus → Text
  | .opened => "open".toList
  | .inProgress => "in_progress".toList
  | .completed => "completed".toList
  | .riskAccepted => "risk_accepted".toList
  | .closed => "closed".toList

def poamStatuses : List PoamStatus :=
  [.opened, .inProgress, .completed, .riskAccepted, .closed]

/-- `POAM_ACTIVE_STATUSES`. -/
def PoamStatus.active : PoamStatus → Bool
  | .opened | .inProgress => true
  | _ => false

/-- The `severity` enumeration. -/
inductive Severity
  | low | moderate | high | critical
  deriving DecidableEq

def Severity.text : Severity → Text
  | .low => "low".toList
  | .moderate => "moderate".toList
  | .high => "high".toList
  | .critical => "critical".toList

def severities : List Severity := [.low, .moderate, .high, .critical]

/-- Who wrote the remediation plan. -/
inductive PlanSource
  | generated | ai | analyst
  deriving DecidableEq

inductive MilestoneStatus
  | pending | inProgress | completed | delayed
  deriving DecidableEq

/-- A row of `poam_milestones`. -/
structure Milestone where
  description : Text
  dueOn : Option Int
  completedOn : Option Int
  status : MilestoneStatus
  sortOrder : Int
  deriving DecidableEq

/-- A row of `poams`. -/
structure Poam where
  id : Nat
  systemId : Nat
  controlId : Option Nat
  title : Text
  weakness : Option Text
  severity : Severity
  status : PoamStatus
  identifiedOn : Option Int
  dueOn : Option Int
  closedOn : Option Int
  ownerUserId : Option Nat
  source : Option Text
  pointOfContact : Option Text
  remediationPlan : Option Text
  remediationPlanSource : PlanSource
  resourcesRequired : Option Text
  costEstimate : Option Text
  scheduledCompletion : Option Int
  originalDueOn : Option Int
  riskId : Option Nat
  vendorId : Option Nat
  sourceRef : Option Text
  acceptanceRationale : Option Text
  milestones : List Milestone
  /-- what reported it, for a row that a scan opened -/
  scanner : Option Text := none
  /-- the finding it stands for -/
  findingUid : Option Text := none
  deriving DecidableEq

/-- `source` of the POA&Ms that failed control tests open. -/
def controlTestSource : Text := "control_test".toList

/-- `source` of the POA&Ms that continuous monitoring opens. -/
def conmonSource : Text := "conmon".toList

theorem conmonSource_ne : conmonSource ≠ controlTestSource := by decide +kernel

/-- `f"control_test:{test.id}"`. -/
def controlTestRef (test : Nat) : Text := "control_test:".toList ++ natText test

/-! ## Slots -/

/-- What a monitor looks up an active POA&M by: a control test by its system and
`source_ref`, continuous monitoring by system and control. -/
inductive Slot
  | controlTest (system : Nat) (ref : Text)
  | conmon (system control : Nat)
  deriving DecidableEq

def Poam.origin (p : Poam) : Option Slot :=
  if p.source = some controlTestSource then p.sourceRef.map (.controlTest p.systemId)
  else if p.source = some conmonSource then p.controlId.map (.conmon p.systemId)
  else none

def Poam.active (p : Poam) : Bool := p.status.active

def Poam.slot (p : Poam) : Option Slot := if p.active then p.origin else none

theorem slot_eq_some {p : Poam} {k : Slot} :
    p.slot = some k ↔ p.active = true ∧ p.origin = some k := by
  unfold Poam.slot
  cases p.active <;> simp

theorem origin_eq_controlTest {p : Poam} {system : Nat} {ref : Text} :
    p.origin = some (.controlTest system ref) ↔
      p.systemId = system ∧ p.source = some controlTestSource ∧ p.sourceRef = some ref := by
  unfold Poam.origin
  by_cases h : p.source = some controlTestSource
  · simp [h, and_comm]
  · by_cases h' : p.source = some conmonSource <;> simp [h, h', conmonSource_ne]

theorem origin_eq_conmon {p : Poam} {system control : Nat} :
    p.origin = some (.conmon system control) ↔
      p.systemId = system ∧ p.controlId = some control ∧ p.source = some conmonSource := by
  unfold Poam.origin
  by_cases h : p.source = some controlTestSource
  · simp [h, Ne.symm conmonSource_ne]
  · by_cases h' : p.source = some conmonSource <;> simp [h, h', conmonSource_ne, and_comm]

/-- **What the monitors rely on**: ids are unique, and so is the active row of a
source. -/
structure Kept (poams : List Poam) : Prop where
  ids : (poams.map Poam.id).Nodup
  exclusive : Exclusive Poam.slot poams

theorem kept_nil : Kept [] := ⟨List.nodup_nil, exclusive_nil⟩

theorem Kept.lookup_ok {poams : List Poam} (h : Kept poams) {q : Poam → Bool} {k : Slot}
    (hq : ∀ p ∈ poams, q p = true → p.slot = some k) :
    ∃ found, scalarOneOrNone (poams.filter q) = .ok found := by
  rcases h.exclusive.lookup hq with hnil | ⟨a, hone⟩
  · exact ⟨none, by rw [hnil]; rfl⟩
  · exact ⟨some a, by rw [hone]; rfl⟩

theorem Kept.slot_unique {poams : List Poam} (h : Kept poams) {p q : Poam} {k : Slot}
    (hp : p ∈ poams) (hq : q ∈ poams) (hpk : p.slot = some k) (hqk : q.slot = some k) :
    p = q := by
  have hmem : ∀ {r : Poam}, r ∈ poams → r.slot = some k →
      r ∈ poams.filter fun p => p.slot = some k :=
    fun hr hrk => List.mem_filter.mpr ⟨hr, decide_eq_true hrk⟩
  have hp' := hmem hp hpk
  have hq' := hmem hq hqk
  rcases h.exclusive.lookup (q := fun p => p.slot = some k)
    fun p _ hp => of_decide_eq_true hp with hnil | ⟨a, hone⟩
  · rw [hnil] at hp'
    exact nomatch hp'
  · rw [hone, List.mem_singleton] at hp' hq'
    exact hp'.trans hq'.symm

def nextId (ids : List Nat) : Nat := ids.foldr max 0 + 1

theorem lt_nextId {ids : List Nat} {i : Nat} (h : i ∈ ids) : i < nextId ids := by
  induction ids with
  | nil => exact nomatch h
  | cons j js ih =>
    rcases List.mem_cons.mp h with rfl | h
    · exact Nat.lt_succ_of_le (Nat.le_max_left _ _)
    · have := ih h
      unfold nextId at this ⊢
      rw [List.foldr_cons]
      omega

/-- `poams` with one more row, under a new id. -/
def insertPoam (p : Poam) (poams : List Poam) : List Poam :=
  poams ++ [{ p with id := nextId (poams.map Poam.id) }]

def updatePoamRow (i : Nat) (f : Poam → Poam) (poams : List Poam) : List Poam :=
  poams.map fun p => if p.id = i then f p else p

theorem updatePoamRow_ids {i : Nat} {f : Poam → Poam} (hf : ∀ p, (f p).id = p.id)
    (poams : List Poam) : (updatePoamRow i f poams).map Poam.id = poams.map Poam.id := by
  rw [updatePoamRow, List.map_map]
  refine List.map_congr_left fun p _ => ?_
  show (if p.id = i then f p else p).id = p.id
  split
  · exact hf p
  · rfl

theorem insertPoam_ids {p : Poam} {poams : List Poam}
    (h : (poams.map Poam.id).Nodup) :
    ((insertPoam p poams).map Poam.id).Nodup := by
  rw [insertPoam, List.map_append, List.map_singleton]
  refine List.Nodup.append h (List.nodup_singleton _) fun i hi hi' => ?_
  rw [List.mem_singleton] at hi'
  exact absurd (lt_nextId hi) (by rw [hi']; exact Nat.lt_irrefl _)

theorem Kept.insert {poams : List Poam} (h : Kept poams) {p : Poam}
    (hfree : ∀ b ∈ poams, ∀ k, p.slot = some k → b.slot ≠ some k) :
    Kept (insertPoam p poams) :=
  ⟨insertPoam_ids h.ids, h.exclusive.concat hfree⟩

theorem Kept.update {poams : List Poam} (h : Kept poams) {i : Nat} {f : Poam → Poam}
    (hid : ∀ p, (f p).id = p.id)
    (hslot : ∀ p ∈ poams, p.id = i → ∀ q ∈ poams, q.id ≠ i →
      ∀ k, (f p).slot = some k → q.slot ≠ some k) :
    Kept (updatePoamRow i f poams) := by
  refine ⟨?_, h.exclusive.update h.ids hslot⟩
  rw [updatePoamRow_ids hid]
  exact h.ids

theorem find_id {poams : List Poam} (hids : (poams.map Poam.id).Nodup) {p : Poam}
    (hp : p ∈ poams) : (poams.find? fun q => q.id = p.id) = some p :=
  find_of_nodup hids hp

theorem updatePoamRow_congr {poams : List Poam} (hids : (poams.map Poam.id).Nodup) {p : Poam}
    (hp : p ∈ poams) {f g : Poam → Poam} (h : f p = g p) :
    updatePoamRow p.id f poams = updatePoamRow p.id g poams := by
  refine List.map_congr_left fun q hq => ?_
  by_cases hqp : q.id = p.id
  · rw [if_pos hqp, if_pos hqp, List.inj_on_of_nodup_map hids hq hp hqp, h]
  · rw [if_neg hqp, if_neg hqp]

/-! ## What a monitor writes -/

/-- What tells a POA&M from another, where it stands, and how severe it is. -/
structure Face where
  id : Nat
  systemId : Nat
  controlId : Option Nat
  source : Option Text
  sourceRef : Option Text
  status : PoamStatus
  severity : Severity
  deriving DecidableEq

def Poam.face (p : Poam) : Face where
  id := p.id
  systemId := p.systemId
  controlId := p.controlId
  source := p.source
  sourceRef := p.sourceRef
  status := p.status
  severity := p.severity

theorem slot_of_face {p q : Poam} {severity : Severity}
    (h : q.face = { p.face with severity := severity }) : q.slot = p.slot := by
  obtain ⟨-, h₁, h₂, h₃, h₄, h₅, -⟩ := Face.mk.inj h
  unfold Poam.slot Poam.origin Poam.active
  rw [h₁, h₂, h₃, h₄, h₅]
  rfl

theorem slot_congr {p q : Poam} (h : q.face = p.face) : q.slot = p.slot :=
  slot_of_face (show q.face = { p.face with severity := p.severity } from h)

theorem id_of_face {p q : Poam} {severity : Severity}
    (h : q.face = { p.face with severity := severity }) : q.id = p.id :=
  (Face.mk.inj h).1

/-- One call of a monitor for its slot `k`, under the reference `ref`: it leaves the
register, changes a text of a row, grades the row of the slot, or opens a row where
the slot was free. -/
inductive Written (k : Slot) (ref : Text) (poams : List Poam) : List Poam → Prop
  | same : Written k ref poams poams
  | refreshed (i : Nat) (f : Poam → Poam) (face : ∀ p, (f p).face = p.face) :
      Written k ref poams (updatePoamRow i f poams)
  | graded (e : Poam) (f : Poam → Poam) (severity : Severity) (found : e ∈ poams)
      (occupies : e.slot = some k)
      (face : ∀ p, (f p).face = { p.face with severity := severity }) :
      Written k ref poams (updatePoamRow e.id f poams)
  | opened (p : Poam) (occupies : p.slot = some k) (refers : p.sourceRef = some ref)
      (free : ∀ b ∈ poams, b.slot ≠ some k) : Written k ref poams (insertPoam p poams)

variable {k k' : Slot} {ref : Text} {poams poams' : List Poam}

theorem mem_updatePoamRow {i : Nat} {f : Poam → Poam} {poams : List Poam} {p : Poam}
    (hp : p ∈ poams) : (if p.id = i then f p else p) ∈ updatePoamRow i f poams :=
  List.mem_map.mpr ⟨p, hp, rfl⟩

/-- **Monitors keep the register.** -/
theorem Written.kept (h : Written k ref poams poams') (hk : Kept poams) :
    Kept poams' := by
  have hrow : ∀ (i : Nat) (f : Poam → Poam),
      (∀ p, ∃ severity, (f p).face = { p.face with severity := severity }) →
        Kept (updatePoamRow i f poams) := by
    intro i f hf
    refine hk.update (fun p => id_of_face (hf p).choose_spec) ?_
    intro p hp hpi q hq hqi k' hk' hqk
    rw [slot_of_face (hf p).choose_spec] at hk'
    -- two rows of one slot would be one row
    exact hqi (hk.slot_unique hp hq hk' hqk ▸ hpi)
  cases h with
  | same => exact hk
  | refreshed i f face => exact hrow i f fun p => ⟨p.severity, face p⟩
  | graded e f severity found occupies face =>
    exact hrow e.id f fun p => ⟨severity, face p⟩
  | opened p occupies refers free =>
    refine hk.insert fun b hb k' hk' => ?_
    rw [occupies, Option.some.injEq] at hk'
    exact hk' ▸ free b hb

theorem Written.ids (h : Written k ref poams poams') (hids : (poams.map Poam.id).Nodup) :
    (poams'.map Poam.id).Nodup := by
  cases h with
  | same => exact hids
  | refreshed i f face =>
    rw [updatePoamRow_ids fun p => congrArg Face.id (face p)]
    exact hids
  | graded e f severity found occupies face =>
    rw [updatePoamRow_ids fun p => id_of_face (face p)]
    exact hids
  | opened p occupies refers free => exact insertPoam_ids hids

/-- **A monitor's frame**: the rows of the other slots look as before. -/
theorem Written.frame (h : Written k ref poams poams') (hids : (poams.map Poam.id).Nodup)
    (hne : k' ≠ k) {p : Poam} (hp : p ∈ poams) (hslot : p.slot = some k') :
    ∃ p' ∈ poams', p'.face = p.face := by
  cases h with
  | same => exact ⟨p, hp, rfl⟩
  | refreshed i f face =>
    refine ⟨_, mem_updatePoamRow hp, ?_⟩
    split
    · exact face p
    · rfl
  | graded e f severity found occupies face =>
    have hid : p.id ≠ e.id := by
      intro hid
      rw [List.inj_on_of_nodup_map hids hp found hid, occupies, Option.some.injEq] at hslot
      exact hne hslot.symm
    exact ⟨_, mem_updatePoamRow hp, by rw [if_neg hid]⟩
  | opened q occupies refers free => exact ⟨p, List.mem_append_left _ hp, rfl⟩

theorem Written.origin (h : Written k ref poams poams') {p' : Poam} (hp' : p' ∈ poams') :
    (∃ p ∈ poams, ∃ severity, p'.face = { p.face with severity := severity }) ∨
      p'.slot = some k ∧ p'.sourceRef = some ref := by
  have hrow : ∀ (i : Nat) (f : Poam → Poam),
      (∀ p, ∃ severity, (f p).face = { p.face with severity := severity }) →
        p' ∈ updatePoamRow i f poams →
          ∃ p ∈ poams, ∃ severity, p'.face = { p.face with severity := severity } := by
    intro i f hf hmem
    obtain ⟨p, hp, rfl⟩ := List.mem_map.mp hmem
    refine ⟨p, hp, ?_⟩
    split
    · exact hf p
    · exact ⟨p.severity, rfl⟩
  cases h with
  | same => exact .inl ⟨p', hp', p'.severity, rfl⟩
  | refreshed i f face => exact .inl (hrow i f (fun p => ⟨p.severity, face p⟩) hp')
  | graded e f severity found occupies face =>
    exact .inl (hrow e.id f (fun p => ⟨severity, face p⟩) hp')
  | opened q occupies refers free =>
    rcases List.mem_append.mp hp' with hp | hq
    · exact .inl ⟨p', hp, p'.severity, rfl⟩
    · rw [List.mem_singleton] at hq
      rw [hq]
      exact .inr ⟨occupies, refers⟩

def appendNote (note : Text) (p : Poam) : Poam :=
  { p with remediationPlan := some (match orElse p.remediationPlan none with
      | some plan => plan ++ ['\n'] ++ note
      | none => note) }

theorem appendNote_face (note : Text) (p : Poam) : (appendNote note p).face = p.face := rfl

/-! ## Notifications and approvals -/

inductive NoticeSeverity
  | info | warning | critical
  deriving DecidableEq

/-- A row of `notifications`. -/
structure Notification where
  organizationId : Option Nat
  severity : NoticeSeverity
  category : Text
  title : Text
  body : Option Text
  entityType : Option Text
  entityId : Option Text
  dedupeKey : Option Text
  deriving DecidableEq

/-- `bus.notify` with a dedupe key, which is unique: the row of the key is
refreshed, or there is a new one. -/
def notify (n : Notification) (rows : List Notification) : List Notification :=
  if rows.any fun r => r.dedupeKey = n.dedupeKey then
    rows.map fun r =>
      if r.dedupeKey = n.dedupeKey then
        { r with title := n.title.take 512, severity := n.severity, body := n.body }
      else r
  else rows ++ [{ n with title := n.title.take 512 }]

/-- Where an entity is in the approval workflow. -/
inductive ApprovalState
  | draft | submitted | approved | rejected
  deriving DecidableEq

def ApprovalState.text : ApprovalState → Text
  | .draft => "draft".toList
  | .submitted => "submitted".toList
  | .approved => "approved".toList
  | .rejected => "rejected".toList

/-- A row of `approvals`, one per entity. -/
structure Approval where
  entityType : Text
  entityId : Text
  state : ApprovalState
  organizationId : Option Nat := none
  submittedBy : Option Text := none
  reviewedBy : Option Text := none
  decisionNote : Option Text := none
  deriving DecidableEq

/-! ## The database -/

/-- A row of `control_test_resource_results`. -/
structure ResourceResult where
  resourceId : Text
  resourceType : Text
  verdict : Text
  observed : Text
  waiverId : Option Nat
  deriving DecidableEq

/-- A row of `control_test_results`, with its resource rows. -/
structure ControlTestResult where
  id : Nat
  controlTestId : Nat
  status : ValidationStatus
  detail : Option Text
  evidenceRef : Option Text
  evaluated : Int
  failing : Int
  expected : Option Text
  waived : Nat
  resources : List ResourceResult
  deriving DecidableEq

structure Db where
  inventory : Inventory
  tests : List ControlTest
  waivers : List Waiver
  approvals : List Approval
  poams : List Poam
  tasks : List Task
  notifications : List Notification
  results : List ControlTestResult

/-- The transaction of a call: what it did is kept, or nothing is if it raises. -/
def Db.commit (db : Db) : Except Raised Db → Db
  | .ok db' => db'
  | .error _ => db

end Concord.Governance
