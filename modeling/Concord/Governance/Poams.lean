import Concord.Governance.Register

/-!
# What people do to a POA&M

`update_poam` and `close_poam` of `ccf/api/routes/poams.py`, with the gates before a
closure and before an accepted risk. The route decides by the row alone: it reads no
other POA&M, so a closed one may be reopened while its source has another.
-/

namespace Concord.Governance

open Concord.Python Concord.Base

/-- The body of a PATCH; a field that is absent is left as it is. -/
structure PoamUpdate where
  title : Option Text := none
  weakness : Option Text := none
  severity : Option Severity := none
  status : Option PoamStatus := none
  identifiedOn : Option Int := none
  dueOn : Option Int := none
  closedOn : Option Int := none
  ownerUserId : Option Nat := none
  source : Option Text := none
  pointOfContact : Option Text := none
  remediationPlan : Option Text := none
  resourcesRequired : Option Text := none
  costEstimate : Option Text := none
  scheduledCompletion : Option Int := none
  riskId : Option Nat := none
  vendorId : Option Nat := none
  acceptanceRationale : Option Text := none

/-- Who calls, under which settings: the organization of the principal (none for a
global one) and `auth_enabled`. -/
structure Caller where
  orgId : Option Nat
  authEnabled : Bool

/-- `is_blank`, of a text or null. -/
def isBlank : Option Text → Bool
  | none => true
  | some t => (strip t).isEmpty

/-- `POAM_CLOSED_STATUSES`. -/
def PoamStatus.closes : PoamStatus → Bool
  | .completed | .closed => true
  | _ => false

/-- `poam_leaves_risk_accepted`. -/
def poamLeavesRiskAccepted (old new : PoamStatus) : Bool :=
  decide (old = .riskAccepted ∧ new ≠ .riskAccepted)

/-! ## The gates -/

/-- `_milestones_satisfy_closure`. -/
def milestonesSatisfyClosure (p : Poam) : Bool :=
  !p.milestones.isEmpty && p.milestones.all fun m => m.status = .completed

/-- `_has_closure_evidence`. -/
def hasClosureEvidence (inv : Inventory) (p : Poam) : Bool :=
  match p.controlId with
  | none => false
  | some control =>
    inv.evidence.any fun e =>
      (inv.implementations.any fun i =>
        e.implementationId = some i.id ∧ i.systemId = p.systemId ∧ i.controlId = control) &&
      match e.collectedOn, p.identifiedOn with
      | none, _ => false
      | some _, none => true
      | some collected, some identified => decide (identified ≤ collected)

/-- `entity_state`. -/
def entityState (db : Db) (entityType entityId : Text) : ApprovalState :=
  match db.approvals.find? fun a => a.entityType = entityType ∧ a.entityId = entityId with
  | some a => a.state
  | none => .draft

def poamApproved (db : Db) (pid : Nat) : Bool :=
  decide (entityState db "poam".toList (natText pid) = .approved)

/-- `_require_closure_gate`. -/
def requireClosureGate (c : Caller) (db : Db) (p : Poam) : Except Raised Unit :=
  if !milestonesSatisfyClosure p && !hasClosureEvidence db.inventory p then
    .error (.httpException 409 ("cannot close: requires either all milestones completed " ++
      "or a linked closure evidence artifact for the remediated control").toList)
  else if c.authEnabled && !poamApproved db p.id then
    .error (.httpException 409 ("cannot close: requires an approved review (submit for " ++
      "approval, then have a different principal approve it — separation of duties)").toList)
  else .ok ()

/-- `_require_risk_accepted_gate`. -/
def requireRiskAcceptedGate (c : Caller) (db : Db) (ownerUserId : Option Nat)
    (dueOn : Option Int) (pid : Nat) (rationale : Option Text) : Except Raised Unit :=
  if ownerUserId = none ∨ dueOn = none then
    .error (.httpException 409 ("risk_accepted requires an owner (owner_user_id) and an " ++
      "expiration/due_on date").toList)
  else if isBlank rationale then
    .error (.httpException 409 ("risk_accepted requires a written acceptance rationale " ++
      "(acceptance_rationale)").toList)
  else if c.authEnabled && !poamApproved db pid then
    .error (.httpException 409 ("risk_accepted requires an approved authorizing-official " ++
      "review (submit for approval, then have an AO/admin approve it)").toList)
  else .ok ()

/-! ## The routes -/

/-- `_require_poam`. -/
def requirePoam (c : Caller) (db : Db) (pid : Nat) : Except Raised Poam :=
  match db.poams.find? fun p => p.id = pid with
  | none => .error (.httpException 404 "poam not found".toList)
  | some p =>
    let visible := match c.orgId with
      | none => true
      | some org => db.inventory.systems.any fun s =>
          s.id = p.systemId ∧ s.organizationId = some org
    if visible then .ok p else .error (.httpException 404 "poam not found".toList)

/-- The loop of `setattr`. -/
def PoamUpdate.assign (body : PoamUpdate) (p : Poam) : Poam :=
  { p with
    title := body.title.getD p.title
    weakness := body.weakness <|> p.weakness
    severity := body.severity.getD p.severity
    status := body.status.getD p.status
    identifiedOn := body.identifiedOn <|> p.identifiedOn
    dueOn := body.dueOn <|> p.dueOn
    closedOn := body.closedOn <|> p.closedOn
    ownerUserId := body.ownerUserId <|> p.ownerUserId
    source := body.source <|> p.source
    pointOfContact := body.pointOfContact <|> p.pointOfContact
    remediationPlan := body.remediationPlan <|> p.remediationPlan
    resourcesRequired := body.resourcesRequired <|> p.resourcesRequired
    costEstimate := body.costEstimate <|> p.costEstimate
    scheduledCompletion := body.scheduledCompletion <|> p.scheduledCompletion
    riskId := body.riskId <|> p.riskId
    vendorId := body.vendorId <|> p.vendorId
    acceptanceRationale := body.acceptanceRationale <|> p.acceptanceRationale }

def PoamUpdate.provenance (body : PoamUpdate) (p : Poam) : PlanSource :=
  if body.remediationPlan.isSome then .analyst else p.remediationPlanSource

/-- A status that is not a closed one clears `closed_on`, unless the body has it. -/
def PoamUpdate.closure (body : PoamUpdate) (p : Poam) : Option Int :=
  match body.status with
  | some status =>
    if !status.closes && body.closedOn.isNone then none else body.closedOn <|> p.closedOn
  | none => body.closedOn <|> p.closedOn

/-- Leaving `risk_accepted` clears the rationale, also one in the body. -/
def PoamUpdate.rationale (body : PoamUpdate) (p : Poam) : Option Text :=
  if poamLeavesRiskAccepted p.status (body.status.getD p.status) then none
  else body.acceptanceRationale <|> p.acceptanceRationale

def PoamUpdate.apply (body : PoamUpdate) (p : Poam) : Poam :=
  { body.assign p with
    remediationPlanSource := body.provenance p
    closedOn := body.closure p
    acceptanceRationale := body.rationale p }

@[simp] theorem PoamUpdate.apply_status (body : PoamUpdate) (p : Poam) :
    (body.apply p).status = body.status.getD p.status := rfl

/-- What `update_poam` refuses before it writes. -/
def admitUpdate (c : Caller) (db : Db) (p : Poam) (body : PoamUpdate) :
    Except Raised Unit :=
  if body.acceptanceRationale.isSome && isBlank body.acceptanceRationale &&
      decide (body.status.getD p.status = .riskAccepted) then
    .error (.httpException 409 ("cannot blank acceptance_rationale while risk_accepted -- " ++
      "move the POA&M out of risk_accepted first, or supply a replacement").toList)
  else if body.status = some .closed then
    requireClosureGate c db p
  -- the gate is for the transition, not for a row that is there already
  else if body.status = some .riskAccepted ∧ p.status ≠ .riskAccepted then
    requireRiskAcceptedGate c db (body.ownerUserId <|> p.ownerUserId)
      (body.dueOn <|> p.dueOn) p.id (body.acceptanceRationale <|> p.acceptanceRationale)
  else .ok ()

/-- `update_poam`, up to its commit. -/
def updatePoam (c : Caller) (db : Db) (pid : Nat) (body : PoamUpdate) :
    Except Raised Db := do
  let p ← requirePoam c db pid
  admitUpdate c db p body
  return { db with poams := updatePoamRow pid body.apply db.poams }

def Poam.close (today : Int) (p : Poam) : Poam :=
  { p with status := .closed, closedOn := some today }

/-- `close_poam`, up to its commit. -/
def closePoam (c : Caller) (db : Db) (pid : Nat) (today : Int) : Except Raised Db := do
  let p ← requirePoam c db pid
  requireClosureGate c db p
  return { db with poams := updatePoamRow pid (Poam.close today) db.poams }

theorem updatePoam_eq_ok {c : Caller} {db db' : Db} {pid : Nat} {body : PoamUpdate}
    (h : updatePoam c db pid body = .ok db') :
    db' = { db with poams := updatePoamRow pid body.apply db.poams } := by
  obtain ⟨p, -, h⟩ := bind_eq_ok.mp h
  obtain ⟨-, -, h⟩ := bind_eq_ok.mp h
  exact (Except.ok.inj h).symm

theorem closePoam_eq_ok {c : Caller} {db db' : Db} {pid : Nat} {today : Int}
    (h : closePoam c db pid today = .ok db') :
    db' = { db with poams := updatePoamRow pid (Poam.close today) db.poams } := by
  obtain ⟨p, -, h⟩ := bind_eq_ok.mp h
  obtain ⟨-, -, h⟩ := bind_eq_ok.mp h
  exact (Except.ok.inj h).symm

end Concord.Governance
