import Concord.Python.Columns
import Concord.Python.Ints

/-!
# The typed actions and what they are about

`src/ccf/ai_actions/registry.py`, and `_resolve_context` and `_load_entity` of
`src/ccf/ai_actions/service.py`: which actions there are, what each may change once a human
has approved it, and whose the entity of a run is. What the model is told of an entity (its
facts and sources) is not read back, and left out.
-/

namespace Concord.AiActions

open Concord.Python

inductive AllowedMutation where
  | setResponseSuggestion
  | setPoamRemediation
  | createControlTest
  | createTask
  deriving DecidableEq

structure ActionDef where
  key : Text
  inputEntityTypes : List Text
  requiresApproval : Bool
  citationRequired : Bool
  allowedMutation : Option AllowedMutation
  guardrails : List Text := []

def noProvenance : Text := "no_provenance".toList

/-- `_DEFS`. -/
def defs : List ActionDef :=
  [⟨"draft_questionnaire_answer".toList, ["questionnaire_response".toList], true, true,
      some .setResponseSuggestion, []⟩,
    ⟨"find_evidence_for_control".toList, ["control".toList, "system".toList], false, true, none,
      []⟩,
    ⟨"explain_failed_ksi".toList, ["ksi".toList, "system".toList], false, false, none, []⟩,
    ⟨"draft_poam_remediation".toList, ["poam".toList], true, false, some .setPoamRemediation,
      []⟩,
    ⟨"prepare_authorization_delta".toList, ["system".toList], false, false, none, []⟩,
    ⟨"summarize_regulatory_impact".toList, ["regulatory_update".toList], false, false, none, []⟩,
    ⟨"map_vendor_gap_to_controls".toList, ["vendor".toList], false, true, none, []⟩,
    ⟨"generate_assessor_brief".toList, ["system".toList], false, false, none, []⟩,
    ⟨"propose_control_test".toList, ["control".toList, "system".toList], true, false,
      some .createControlTest, []⟩,
    ⟨"classify_evidence_strength".toList, ["evidence_object".toList], false, false, none, []⟩,
    ⟨"build_trust_package".toList, ["system".toList, "organization".toList], true, true, none,
      [noProvenance]⟩,
    ⟨"open_task_with_owner_due_date".toList,
      ["poam".toList, "risk".toList, "system".toList, "control".toList, "vendor".toList],
      true, false, some .createTask, []⟩,
    ⟨"summarize_package_diff".toList, ["system".toList], false, false, none, []⟩,
    ⟨"recommend_evidence_replacement".toList, ["evidence_object".toList, "system".toList], false,
      true, none, []⟩,
    ⟨"generate_control_owner_brief".toList, ["control".toList, "system".toList], false, false,
      none, []⟩,
    ⟨"draft_policy_exception_review".toList, ["policy".toList], true, false, none, []⟩,
    ⟨"draft_vendor_remediation_plan".toList, ["vendor".toList], true, false, none, []⟩,
    ⟨"draft_ai_agent_risk_review".toList, ["ai_agent".toList], true, false, none, []⟩,
    ⟨"classify_evidence_unit".toList, ["evidence_object".toList, "system".toList], false, true,
      none, []⟩,
    ⟨"evaluate_assessment_objective".toList, ["assessment_objective".toList], false, true, none,
      []⟩]

def getAction (key : Text) : Option ActionDef := defs.find? fun d => d.key = key

/-! ## The entities -/

/-- A row with an organisation of its own, and the column it is called by. -/
structure Owned where
  organizationId : Option Int
  name : Text

/-- A row that is part of another one. -/
structure Part (α : Type) where
  parentId : α
  title : Text

/-- `session.get`; an id that the column does not take is an exception. -/
abbrev Get (α : Type) : Type := Int → Except Unit (Option α)

/-- The tables a run may be about, which no run changes in what is read here. -/
structure Tables where
  systems : Get Owned
  /-- Of a system. -/
  poams : Get (Part Int)
  risks : Get (Part (Option Int))
  vendors : Get Owned
  /-- Of a system, by the id of that. -/
  implementations : Get Int
  policies : Get Owned
  evidenceObjects : Get Owned
  /-- Of a questionnaire. -/
  responses : Get (Part Int)
  questionnaires : Get Owned
  /-- The system has an authorization package. -/
  packaged : Int → Bool

/-- What was found: whose it is, and what it is called. -/
structure Entity where
  ownerOrg : Option Int
  label : Option Text
  deriving DecidableEq

def Entity.nones : Entity := ⟨none, none⟩

def Owned.entity (r : Owned) : Entity := ⟨r.organizationId, some r.name⟩

def entityOf {α : Type} (get : Get α) (entity : α → Except Unit Entity) (eid : Int) :
    Except Unit Entity :=
  (get eid).bind fun
    | none => .ok .nones
    | some r => entity r

def partOf (parents : Get Owned) (parentId : Int) (label : Text) : Except Unit Entity :=
  (parents parentId).map fun parent => ⟨parent.bind (·.organizationId), some label⟩

namespace Tables

variable (db : Tables)

/-- `_load_entity`. -/
def loadEntity (entityType entityId : Text) : Except Unit Entity :=
  let eid := (pyInt entityId).getD (-1)
  if entityType = "system".toList then
    entityOf db.systems (fun s => .ok s.entity) eid
  else if entityType = "poam".toList then
    entityOf db.poams (fun p => partOf db.systems p.parentId p.title) eid
  else if entityType = "risk".toList then
    entityOf db.risks (fun r =>
      match r.parentId with
      | none | some 0 => .ok ⟨none, some r.title⟩
      | some systemId => partOf db.systems systemId r.title) eid
  else if entityType = "vendor".toList then
    entityOf db.vendors (fun v => .ok v.entity) eid
  else if entityType = "control".toList then
    entityOf db.implementations
      (fun systemId => partOf db.systems systemId ("control impl ".toList ++ (toString eid).toList))
      eid
  else if entityType = "policy".toList then
    entityOf db.policies (fun pol => .ok pol.entity) eid
  else if entityType = "evidence_object".toList then
    entityOf db.evidenceObjects (fun o => .ok o.entity) eid
  else if entityType = "questionnaire_response".toList then
    entityOf db.responses
      (fun resp => partOf db.questionnaires resp.parentId (resp.title.take 80)) eid
  else
    -- nothing is loaded, and nobody owns it
    .ok ⟨none, some (entityType ++ ' ' :: entityId)⟩

/-- What `_resolve_context` makes of an entity. -/
inductive Context where
  | notFound
  /-- `PermissionError`. -/
  | refused
  | found (ownerOrg : Option Int)
  deriving DecidableEq

def resolveContext (orgId : Option Int) (entityType entityId : Text) : Except Unit Context :=
  (db.loadEntity entityType entityId).map fun e =>
    if e.ownerOrg = none ∧ e.label = none then .notFound
    else if orgId ≠ none ∧ e.ownerOrg ≠ none ∧ e.ownerOrg ≠ orgId then .refused
    else .found e.ownerOrg

def owner (entityType entityId : Text) : Except Unit (Option Int) :=
  (db.loadEntity entityType entityId).map Entity.ownerOrg

variable {db} {orgId ownerOrg : Option Int} {entityType entityId : Text}

theorem found_cases (h : db.resolveContext orgId entityType entityId = .ok (.found ownerOrg)) :
    db.owner entityType entityId = .ok ownerOrg ∧
      ¬(orgId ≠ none ∧ ownerOrg ≠ none ∧ ownerOrg ≠ orgId) := by
  unfold resolveContext at h
  unfold owner
  cases hload : db.loadEntity entityType entityId with
  | error e =>
    rw [hload] at h
    cases h
  | ok e =>
    rw [hload] at h
    have hctx := Except.ok.inj h
    dsimp only at hctx
    split at hctx
    · cases hctx
    · split at hctx
      · cases hctx
      · rename_i hsame
        obtain rfl := Context.found.inj hctx
        exact ⟨rfl, hsame⟩

theorem owner_eq_iff (h : db.resolveContext orgId entityType entityId = .ok (.found ownerOrg)) :
    ownerOrg = orgId ↔ ownerOrg.isSome = orgId.isSome := by
  obtain ⟨-, hsame⟩ := found_cases h
  constructor
  · intro heq
    rw [heq]
  · intro hsome
    cases orgId with
    | none => simpa using hsome
    | some org =>
      by_contra hne
      refine hsame ⟨Option.some_ne_none org, ?_, hne⟩
      intro hnone
      rw [hnone] at hsome
      cases hsome

end Tables

end Concord.AiActions
