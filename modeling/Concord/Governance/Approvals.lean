import Mathlib.Data.List.Infix
import Concord.Governance.Poams

/-!
# Reviews

`ccf/governance/approvals.py` with its routes: an entity is submitted, and someone else
approves or rejects it. There is one row per entity, and an approved one is final:
`submit` refuses it, and `decide` takes only what was submitted.
-/

namespace Concord.Governance

open Concord.Python Concord.Base

/-- `ENTITY_TYPES`. -/
def entityTypes : List Text :=
  ["ssp_project".toList, "poam".toList, "risk".toList, "assessment".toList]

/-- `APPROVER_ROLES`. -/
def approverRoles : List Text := ["admin".toList, "authorizing_official".toList]

/-- Who signs. -/
structure Principal where
  email : Option Text
  role : Option Text

/-- `_get_or_create`, without the insertion. -/
def approvalOf (db : Db) (entityType entityId : Text) (orgId : Option Nat) : Approval :=
  (db.approvals.find? fun a => a.entityType = entityType ∧ a.entityId = entityId).getD
    { entityType := entityType, entityId := entityId, state := .draft, organizationId := orgId }

/-- `uq_approval_entity`. -/
def Approval.key (a : Approval) : Text × Text := (a.entityType, a.entityId)

/-- A row that is submitted, whoever reviewed it before. -/
def Approval.submit (a : Approval) (actor : Option Text) : Approval :=
  { a with state := .submitted, submittedBy := actor, reviewedBy := none }

def reviewNotice (entityType entityId : Text) (actor : Option Text) (orgId : Option Nat) :
    Notification where
  organizationId := orgId
  severity := .info
  category := "approval".toList
  title := "Review requested: ".toList ++ entityType ++ ' ' :: entityId
  body := some ("Submitted by ".toList ++ actor.getD "None".toList ++ ['.'])
  entityType := some entityType
  entityId := some entityId
  dedupeKey := some ("review-req:".toList ++ entityType ++ ':' :: entityId)

def decisionNotice (entityType entityId : Text) (state : ApprovalState) (note : Option Text)
    (orgId : Option Nat) : Notification where
  organizationId := orgId
  severity := if state = .approved then .info else .warning
  category := "approval".toList
  title := entityType ++ ' ' :: entityId ++ ' ' :: state.text
  body := some (note.getD [])
  entityType := some entityType
  entityId := some entityId
  dedupeKey := some ("decision:".toList ++ entityType ++ ':' :: entityId ++ ':' :: state.text)

def unsupported (entityType : Text) : Text := "unsupported entity type: ".toList ++ entityType

/-- `submit`, up to its commit; the route answers a `WorkflowError` with a conflict. -/
def submitReview (c : Caller) (db : Db) (entityType entityId : Text) (actor : Option Text) :
    Except Raised Db :=
  let a := approvalOf db entityType entityId c.orgId
  if entityType ∉ entityTypes then .error (.httpException 409 (unsupported entityType))
  else if a.state = .approved then .error (.httpException 409 "already approved".toList)
  else
    .ok { db with
      approvals := upsert Approval.key (a.submit actor) db.approvals
      notifications := notify (reviewNotice entityType entityId actor c.orgId)
        db.notifications }

/-- `_decide` answers what breaks a rule about people with 403. -/
def workflowError (text : Text) : Raised :=
  .httpException (if "duties".toList <:+: text ∨ "role".toList <:+: text then 403 else 409) text

/-- `actor and a.submitted_by and actor == a.submitted_by`. -/
def samePerson (actor submitter : Option Text) : Bool :=
  (orElse actor none).isSome && decide (actor = submitter)

/-- What a decision is: approve or reject, and the note. -/
structure Decision where
  approve : Bool
  note : Option Text := none

def Decision.state (d : Decision) : ApprovalState := if d.approve then .approved else .rejected

def Approval.decide (a : Approval) (who : Principal) (d : Decision) : Approval :=
  { a with state := d.state, reviewedBy := who.email, decisionNote := d.note }

/-- What `decide` refuses. An approved SSP project is stamped by its number: `parseInt` is
`int`, with the text of its `ValueError`. -/
def admitDecision (parseInt : Text → Except Text Int) (c : Caller) (a : Approval)
    (who : Principal) (d : Decision) : Except Raised Unit :=
  if a.entityType ∉ entityTypes then .error (workflowError (unsupported a.entityType))
  else if a.state ≠ .submitted then
    .error (workflowError ("cannot decide from state '".toList ++ a.state.text ++
      "' (must be submitted)".toList))
  else if c.authEnabled ∧ ¬∃ role ∈ approverRoles, who.role = some role then
    .error (workflowError "approver must hold an authorizing role".toList)
  else if c.authEnabled ∧ samePerson who.email a.submittedBy then
    .error (workflowError
      "separation of duties: approver must differ from submitter".toList)
  else if d.approve ∧ a.entityType = "ssp_project".toList then
    match parseInt a.entityId with
    | .error e => .error (.valueError e)
    | .ok _ => .ok ()
  else .ok ()

/-- `decide`, up to its commit. -/
def decideReview (parseInt : Text → Except Text Int) (c : Caller) (db : Db)
    (entityType entityId : Text) (who : Principal) (d : Decision) : Except Raised Db := do
  let a := approvalOf db entityType entityId c.orgId
  admitDecision parseInt c a who d
  return { db with
    approvals := upsert Approval.key (a.decide who d) db.approvals
    notifications := notify (decisionNotice entityType entityId d.state d.note c.orgId)
      db.notifications }

/-! ## What they leave -/

section Effect

variable {db db' : Db} {c : Caller} {entityType entityId : Text}

theorem approvalOf_key (orgId : Option Nat) :
    (approvalOf db entityType entityId orgId).key = (entityType, entityId) := by
  unfold approvalOf
  cases h : db.approvals.find? fun a => a.entityType = entityType ∧ a.entityId = entityId with
  | none => rfl
  | some a => simpa [Approval.key] using List.find?_some h

theorem approvalOf_state (orgId : Option Nat) :
    (approvalOf db entityType entityId orgId).state = entityState db entityType entityId := by
  unfold approvalOf entityState
  cases db.approvals.find? fun a => a.entityType = entityType ∧ a.entityId = entityId <;> rfl

theorem entityState_upsert (a : Approval)
    (h : db'.approvals = upsert Approval.key a db.approvals) (t i : Text) :
    entityState db' t i = if a.key = (t, i) then a.state else entityState db t i := by
  have hkey : (fun a : Approval => decide (a.entityType = t ∧ a.entityId = i)) =
      fun a => decide (a.key = (t, i)) :=
    funext fun a => by simp only [Approval.key, Prod.mk.injEq]
  unfold entityState
  rw [h, hkey, find_upsert]
  by_cases hti : a.key = (t, i)
  · rw [if_pos hti, if_pos hti]
  · rw [if_neg hti, if_neg hti]

theorem submitReview_eq_ok {actor : Option Text}
    (h : submitReview c db entityType entityId actor = .ok db') :
    entityState db entityType entityId ≠ .approved ∧ db'.poams = db.poams ∧
      ∀ t i, entityState db' t i =
        if (entityType, entityId) = (t, i) then .submitted else entityState db t i := by
  unfold submitReview at h
  dsimp only at h
  split at h
  · cases h
  · split at h
    · cases h
    · rename_i happroved
      obtain rfl := Except.ok.inj h
      rw [approvalOf_state] at happroved
      refine ⟨happroved, rfl, fun t i => ?_⟩
      rw [← @approvalOf_key db entityType entityId c.orgId]
      exact entityState_upsert ((approvalOf db entityType entityId c.orgId).submit actor) rfl t i

/-- Who may decide. -/
structure MayDecide (c : Caller) (a : Approval) (who : Principal) : Prop where
  submitted : a.state = .submitted
  authorized : c.authEnabled = true → ∃ role ∈ approverRoles, who.role = some role
  separate : c.authEnabled = true → samePerson who.email a.submittedBy = false

theorem decideReview_eq_ok {parseInt : Text → Except Text Int} {who : Principal}
    {d : Decision} (h : decideReview parseInt c db entityType entityId who d = .ok db') :
    MayDecide c (approvalOf db entityType entityId c.orgId) who ∧ db'.poams = db.poams ∧
      ∀ t i, entityState db' t i =
        if (entityType, entityId) = (t, i) then d.state else entityState db t i := by
  obtain ⟨_, hadmit, h⟩ := bind_eq_ok.mp h
  obtain rfl := Except.ok.inj h
  refine ⟨?_, rfl, fun t i => ?_⟩
  swap
  · rw [← @approvalOf_key db entityType entityId c.orgId]
    exact entityState_upsert ((approvalOf db entityType entityId c.orgId).decide who d) rfl t i
  unfold admitDecision at hadmit
  split at hadmit
  · cases hadmit
  split at hadmit
  · cases hadmit
  rename_i hstate
  split at hadmit
  · cases hadmit
  rename_i hrole
  split at hadmit
  · cases hadmit
  rename_i hperson
  exact ⟨of_not_not hstate, fun hauth => of_not_not fun hno => hrole ⟨hauth, hno⟩,
    fun hauth => by simpa [hauth] using hperson⟩

end Effect

end Concord.Governance
