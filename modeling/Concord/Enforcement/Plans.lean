import Concord.Base.Run
import Concord.Governance.Waivers

/-!
# Remediation plans

`ccf/enforcement/types.py` and `ccf/enforcement/service.py`: a plan is built from a
recorded finding, approved by someone else, applied once and reversed once. The
connector that makes the changes is a `Provider`: whatever it answers to each call is
given, exceptions included.
-/

namespace Concord.Enforcement

open Concord.Python Concord.Governance

/-- One resource's change, with what it takes to undo it. -/
structure RemediationStep where
  resourceId : Text
  resourceType : Text
  action : Text
  description : Text
  currentState : List (Text × Json)
  targetState : List (Text × Json)

/-- `OUTCOME_STATUSES`. -/
inductive OutcomeStatus
  | applied | failed | skipped | uncertain
  deriving DecidableEq

/-- What happened to one resource. -/
structure StepOutcome where
  resourceId : Text
  status : OutcomeStatus
  detail : Text
  recordedAt : Option Text := none
  deriving DecidableEq

/-- The outcomes that are reversed: the provider changed the resource, or may have. -/
def OutcomeStatus.live : OutcomeStatus → Bool
  | .applied | .uncertain => true
  | _ => false

/-- `PLAN_STATUSES`. -/
inductive PlanStatus
  | draft | pendingApproval | approved | applied | failed | reversed | refused | rejected
  deriving DecidableEq

def PlanStatus.text : PlanStatus → Text
  | .draft => "draft".toList
  | .pendingApproval => "pending_approval".toList
  | .approved => "approved".toList
  | .applied => "applied".toList
  | .failed => "failed".toList
  | .reversed => "reversed".toList
  | .refused => "refused".toList
  | .rejected => "rejected".toList

/-- A row of `remediation_plans`. Times are seconds. -/
structure RemediationPlan where
  id : Nat
  organizationId : Option Nat
  systemId : Nat
  checkKey : Text
  providerKey : Text
  status : PlanStatus
  steps : List RemediationStep
  outcomes : List StepOutcome
  resourceCount : Int
  refusalReason : Option Text
  requestedBy : Option Text
  approvedBy : Option Text
  approvedAt : Option Int
  appliedAt : Option Int
  reversedAt : Option Int
  resultId : Option Nat

/-- A provider bound to a credential, as it answers in one call of the service: an
error is the text of what it raises, and the number is that of the step, so that equal
steps may fare differently. -/
structure Provider where
  key : Text
  writeCredentialType : Text
  requiredPermissions : List Text
  isWriteConfigured : Bool
  plan : List ResourceFinding → Except Text (List RemediationStep)
  apply : Nat → RemediationStep → Except Text StepOutcome
  reverse : Nat → RemediationStep → Except Text StepOutcome

/-- One call of the service: who calls and when, under which settings, and the
provider of the plan's check, if one handles it. -/
structure Call where
  actor : Option Text
  now : Int
  isoformat : Text
  maxResources : Int
  approvalMaxAgeHours : Int
  provider : Option Provider

/-! ## Planning -/

def exceedsLimit (count : Nat) (limit : Int) : Text :=
  natText count ++ " resources exceeds the enforcement limit of ".toList ++
    (toString limit).toList

/-- `build_steps`: the steps, or why there is no plan. -/
def buildSteps (findings : List ResourceFinding) (provider : Provider) (maxResources : Int)
    (only : Option (List Text)) : Except Text (List RemediationStep) :=
  let failing := findings.filter fun f =>
    f.verdict ∈ requiresCover.map ValidationStatus.text
  let remediable := match only with
    | none => failing
    | some wanted => failing.filter fun f => f.resourceId ∈ wanted
  if maxResources < remediable.length then
    .error (exceedsLimit remediable.length maxResources)
  else
    match provider.plan remediable with
    | .error e => .error ("could not evaluate remediation candidates: ".toList ++ e)
    | .ok planned =>
      let steps := planned.filter fun s => !s.currentState.isEmpty
      if steps.isEmpty then .error "no resources to remediate".toList
      else if maxResources < steps.length then
        .error (exceedsLimit steps.length maxResources)
      else .ok steps

/-- The row `create_plan` starts from. -/
def draftPlan (c : Call) (provider : Provider) (id : Nat) (system : System)
    (checkKey : Text) : RemediationPlan where
  id := id
  organizationId := system.organizationId
  systemId := system.id
  checkKey := checkKey
  providerKey := provider.key
  status := .draft
  steps := []
  outcomes := []
  resourceCount := 0
  refusalReason := none
  requestedBy := c.actor
  approvedBy := none
  approvedAt := none
  appliedAt := none
  reversedAt := none
  resultId := none

def RemediationPlan.refuse (p : RemediationPlan) (reason : Text) : RemediationPlan :=
  { p with status := .refused, refusalReason := some reason }

/-- `create_plan`, for a system that is there: `recorded` is the latest result of the
check on it, with its findings. A refusal is a row too. -/
def createPlan (c : Call) (id : Nat) (system : System) (checkKey : Text)
    (only : Option (List Text)) (recorded : Option (Nat × List ResourceFinding)) :
    Except Text RemediationPlan :=
  match c.provider with
  | none => .error ("no remediation provider handles check '".toList ++ checkKey ++ ['\''])
  | some provider =>
    let plan := draftPlan c provider id system checkKey
    if !provider.isWriteConfigured then
      .ok (plan.refuse ("no write credential configured for '".toList ++
        provider.writeCredentialType ++ "'; requires ".toList ++
        (orElse (some ((", ".toList).intercalate provider.requiredPermissions)) none).getD
          "write scopes".toList))
    else match recorded with
      | none => .ok (plan.refuse ("no recorded result for '".toList ++ checkKey ++
          "' on this system; scan before remediating".toList))
      | some (result, findings) =>
        let plan := { plan with resultId := some result }
        match buildSteps findings provider c.maxResources only with
        | .error reason => .ok (plan.refuse reason)
        | .ok steps => .ok { plan with
            steps := steps, resourceCount := steps.length, status := .pendingApproval }

/-! ## Approving, applying, reversing -/

def statusIs (what : String) (p : RemediationPlan) : Text :=
  what.toList ++ " (status=".toList ++ p.status.text ++ [')']

/-- `approve_plan`. -/
def approvePlan (c : Call) (p : RemediationPlan) : Except Text RemediationPlan :=
  if p.status ≠ .pendingApproval then .error (statusIs "plan is not awaiting approval" p)
  else if !canApprove p.requestedBy c.actor false then
    .error "the requester may not approve their own remediation plan".toList
  else .ok { p with status := .approved, approvedBy := c.actor, approvedAt := some c.now }

/-- What `_run_steps` records of one step. -/
def recordOutcome (act : Nat → RemediationStep → Except Text StepOutcome) (now : Text)
    (i : Nat) (step : RemediationStep) : StepOutcome :=
  match act i step with
  | .ok outcome => { outcome with recordedAt := some now }
  | .error e =>
    { resourceId := step.resourceId, status := .failed, detail := e.take 300,
      recordedAt := some now }

/-- `_run_steps`: a step that raises does not keep the others from running. -/
def runSteps (act : Nat → RemediationStep → Except Text StepOutcome) (now : Text)
    (steps : List RemediationStep) : List StepOutcome :=
  steps.mapIdx (recordOutcome act now)

/-- What `apply_plan` and `reverse_plan` both check again: provider, credential and
blast radius. -/
def recheck (c : Call) (p : RemediationPlan) : Except Text Provider :=
  match c.provider with
  | none => .error ("no remediation provider handles check '".toList ++ p.checkKey ++ ['\''])
  | some chosen =>
    if !chosen.isWriteConfigured then
      .error ("no write credential configured for '".toList ++ chosen.writeCredentialType ++
        ['\''])
    else if c.maxResources < p.resourceCount then
      .error ((toString p.resourceCount).toList ++
        " resources exceeds the enforcement limit of ".toList ++
        (toString c.maxResources).toList)
    else .ok chosen

/-- Whether the approval is too old. No limit is a limit of zero hours. -/
def stale (c : Call) (p : RemediationPlan) : Bool :=
  match p.approvedAt with
  | none => false
  | some at₀ =>
    decide (c.approvalMaxAgeHours ≠ 0 ∧ c.approvalMaxAgeHours * 3600 < c.now - at₀)

/-- The plan after `apply` answered for each of its steps. -/
def RemediationPlan.applied (c : Call) (chosen : Provider) (p : RemediationPlan) :
    RemediationPlan :=
  let outcomes := runSteps chosen.apply c.isoformat p.steps
  { p with
    outcomes := outcomes
    appliedAt := some c.now
    status := if outcomes.any fun o => o.status = .applied then .applied else .failed }

/-- `apply_plan`. -/
def applyPlan (c : Call) (p : RemediationPlan) : Except Text RemediationPlan :=
  if p.status ≠ .approved then .error (statusIs "plan is not approved" p)
  else if stale c p then
    .error ("approval is more than ".toList ++ (toString c.approvalMaxAgeHours).toList ++
      ("h old; the resource set it was reviewed against may be stale -- " ++
        "create and approve a new plan").toList)
  else do
    let chosen ← recheck c p
    return p.applied c chosen

/-- The steps `reverse_plan` undoes: those of the resources it may have changed. -/
def RemediationPlan.reversible (p : RemediationPlan) : List RemediationStep :=
  let live := (p.outcomes.filter fun o => o.status.live).map StepOutcome.resourceId
  p.steps.filter fun s => s.resourceId ∈ live

/-- The plan after `reverse` answered for each of these steps. -/
def RemediationPlan.undone (c : Call) (chosen : Provider) (p : RemediationPlan) :
    RemediationPlan :=
  { p with
    outcomes := p.outcomes ++ runSteps chosen.reverse c.isoformat p.reversible
    reversedAt := some c.now
    status := .reversed }

/-- `reverse_plan`. -/
def reversePlan (c : Call) (p : RemediationPlan) : Except Text RemediationPlan :=
  if p.status ≠ .applied then .error (statusIs "plan is not applied" p)
  else do
    let chosen ← recheck c p
    return p.undone c chosen

/-- Some call of `reverse_plan` is granted: the status of the plan does not refuse it. -/
def RemediationPlan.CanReverse (p : RemediationPlan) : Prop :=
  ∃ c p', reversePlan c p = .ok p'

/-! ## What a granted call does -/

section Granted

variable {c : Call} {chosen : Provider} {p p' : RemediationPlan}

theorem recheck_eq_ok (h : recheck c p = .ok chosen) : c.provider = some chosen := by
  unfold recheck at h
  split at h
  · cases h
  · rename_i provider hprovider
    split at h
    · cases h
    · split at h
      · cases h
      · rw [hprovider, Except.ok.inj h]

theorem applyPlan_eq_ok (h : applyPlan c p = .ok p') :
    p.status = .approved ∧ ∃ chosen, c.provider = some chosen ∧ p' = p.applied c chosen := by
  unfold applyPlan at h
  split at h
  · cases h
  · rename_i hstatus
    split at h
    · cases h
    · obtain ⟨chosen, hchosen, h⟩ := Base.bind_eq_ok.mp h
      exact ⟨of_not_not hstatus, chosen, recheck_eq_ok hchosen, (Except.ok.inj h).symm⟩

theorem reversePlan_eq_ok (h : reversePlan c p = .ok p') :
    p.status = .applied ∧ ∃ chosen, c.provider = some chosen ∧ p' = p.undone c chosen := by
  unfold reversePlan at h
  split at h
  · cases h
  · rename_i hstatus
    obtain ⟨chosen, hchosen, h⟩ := Base.bind_eq_ok.mp h
    exact ⟨of_not_not hstatus, chosen, recheck_eq_ok hchosen, (Except.ok.inj h).symm⟩

theorem canReverse_iff : p.CanReverse ↔ p.status = .applied := by
  constructor
  · rintro ⟨c, p', h⟩
    exact (reversePlan_eq_ok h).1
  · intro h
    let chosen : Provider :=
      { key := p.providerKey, writeCredentialType := [], requiredPermissions := [],
        isWriteConfigured := true, plan := fun _ => .ok [],
        apply := fun _ s => .ok ⟨s.resourceId, .applied, [], none⟩,
        reverse := fun _ s => .ok ⟨s.resourceId, .applied, [], none⟩ }
    let c : Call :=
      { actor := none, now := 0, isoformat := [], maxResources := p.resourceCount,
        approvalMaxAgeHours := 0, provider := some chosen }
    refine ⟨c, p.undone c chosen, ?_⟩
    have hcheck : recheck c p = .ok chosen := by simp [recheck, c, chosen]
    rw [reversePlan, if_neg (not_not_intro h), hcheck]
    rfl

/-- The provider answers step `i` with an outcome of this status. -/
def Answers (act : Nat → RemediationStep → Except Text StepOutcome) (i : Nat)
    (s : RemediationStep) (status : OutcomeStatus) : Prop :=
  ∃ o, act i s = .ok o ∧ o.status = status

theorem recordOutcome_status {act : Nat → RemediationStep → Except Text StepOutcome}
    {now : Text} {i : Nat} {s : RemediationStep} {status : OutcomeStatus}
    (hne : status ≠ .failed) :
    (recordOutcome act now i s).status = status ↔ Answers act i s status := by
  unfold recordOutcome Answers
  cases h : act i s with
  | error e => simpa using fun he => hne he.symm
  | ok o => simp

theorem mem_runSteps {act : Nat → RemediationStep → Except Text StepOutcome} {now : Text}
    {steps : List RemediationStep} {o : StepOutcome} :
    o ∈ runSteps act now steps ↔
      ∃ i s, steps[i]? = some s ∧ o = recordOutcome act now i s := by
  rw [runSteps, List.mem_mapIdx]
  constructor
  · rintro ⟨i, hi, rfl⟩
    exact ⟨i, steps[i], List.getElem?_eq_getElem hi, rfl⟩
  · rintro ⟨i, s, hs, rfl⟩
    obtain ⟨hi, rfl⟩ := List.getElem?_eq_some_iff.mp hs
    exact ⟨i, hi, rfl⟩

/-- Some step is recorded under a status, failures apart, if the provider answers one
so. -/
theorem exists_mem_runSteps (act : Nat → RemediationStep → Except Text StepOutcome)
    (now : Text) (steps : List RemediationStep) {status : OutcomeStatus}
    (hne : status ≠ .failed) :
    (∃ o ∈ runSteps act now steps, o.status = status) ↔
      ∃ i s, steps[i]? = some s ∧ Answers act i s status := by
  constructor
  · rintro ⟨o, ho, hstatus⟩
    obtain ⟨i, s, hs, rfl⟩ := mem_runSteps.mp ho
    exact ⟨i, s, hs, (recordOutcome_status hne).mp hstatus⟩
  · rintro ⟨i, s, hs, h⟩
    exact ⟨_, mem_runSteps.mpr ⟨i, s, hs, rfl⟩, (recordOutcome_status hne).mpr h⟩

theorem live_iff {status : OutcomeStatus} :
    status.live = true ↔ status = .applied ∨ status = .uncertain := by
  cases status <;> simp [OutcomeStatus.live]

/-! ## What stays reversible -/

/-- **When an applied plan can be reversed**: where a step was applied, or none is
uncertain. A plan whose steps are all uncertain or unchanged ends as `failed`, and is
refused the reversal its uncertain steps are recorded for. -/
theorem apply_reversible_iff (hchosen : c.provider = some chosen)
    (h : applyPlan c p = .ok p') :
    ((∃ o ∈ p'.outcomes, o.status.live = true) → p'.CanReverse) ↔
      (∃ i s, p.steps[i]? = some s ∧ Answers chosen.apply i s .applied) ∨
        ¬∃ i s, p.steps[i]? = some s ∧ Answers chosen.apply i s .uncertain := by
  obtain ⟨-, chosen', hchosen', rfl⟩ := applyPlan_eq_ok h
  obtain rfl : chosen' = chosen := Option.some.inj (hchosen'.symm.trans hchosen)
  have hout : (p.applied c chosen').outcomes = runSteps chosen'.apply c.isoformat p.steps := rfl
  have hstatus : (p.applied c chosen').status = .applied ↔
      ∃ o ∈ (p.applied c chosen').outcomes, o.status = .applied := by
    unfold RemediationPlan.applied
    simp
  have happlied := exists_mem_runSteps chosen'.apply c.isoformat p.steps
    (show OutcomeStatus.applied ≠ .failed by decide)
  have huncertain := exists_mem_runSteps chosen'.apply c.isoformat p.steps
    (show OutcomeStatus.uncertain ≠ .failed by decide)
  rw [canReverse_iff, hstatus, hout, ← happlied, ← huncertain]
  constructor
  · intro himp
    by_cases hu : ∃ o ∈ runSteps chosen'.apply c.isoformat p.steps, o.status = .uncertain
    · obtain ⟨o, ho, hlive⟩ := hu
      exact .inl (himp ⟨o, ho, live_iff.mpr (.inr hlive)⟩)
    · exact .inr hu
  · rintro (ha | hu) ⟨o, ho, hlive⟩
    · exact ha
    · rcases live_iff.mp hlive with hlive | hlive
      · exact ⟨o, ho, hlive⟩
      · exact absurd ⟨o, ho, hlive⟩ hu

end Granted

/-! A provider that disables accounts, and one account to disable. -/

def accountStep : RemediationStep where
  resourceId := "user-0".toList
  resourceType := "account".toList
  action := "disable".toList
  description := "disable the account".toList
  currentState := [("accountEnabled".toList, .bool true)]
  targetState := [("accountEnabled".toList, .bool false)]

def approvedPlan (steps : List RemediationStep) : RemediationPlan where
  id := 1
  organizationId := some 1
  systemId := 1
  checkKey := "mfa".toList
  providerKey := "accounts".toList
  status := .approved
  steps := steps
  outcomes := []
  resourceCount := steps.length
  refusalReason := none
  requestedBy := some "ana".toList
  approvedBy := some "ao".toList
  approvedAt := some 0
  appliedAt := none
  reversedAt := none
  resultId := some 1

/-- A provider that answers each change and each undo with these outcomes. -/
def accounts (change undo : OutcomeStatus) : Provider where
  key := "accounts".toList
  writeCredentialType := "accounts_write".toList
  requiredPermissions := []
  isWriteConfigured := true
  plan := fun _ => .ok []
  apply := fun _ s => .ok { resourceId := s.resourceId, status := change, detail := [] }
  reverse := fun _ s => .ok { resourceId := s.resourceId, status := undo, detail := [] }

def callWith (change undo : OutcomeStatus) : Call where
  actor := some "ao".toList
  now := 60
  isoformat := "1970-01-01T00:01:00".toList
  maxResources := 25
  approvalMaxAgeHours := 24
  provider := some (accounts change undo)

/-- What applying the one step makes of the plan. -/
def appliedPlan (change : OutcomeStatus) : RemediationPlan :=
  (approvedPlan [accountStep]).applied (callWith change .applied) (accounts change .applied)

theorem apply_reversible_iff_disabled :
    ((∃ o ∈ (appliedPlan .applied).outcomes, o.status.live = true) →
        (appliedPlan .applied).CanReverse) ↔
      (∃ i s, [accountStep][i]? = some s ∧
          Answers (accounts .applied .applied).apply i s .applied) ∨
        ¬∃ i s, [accountStep][i]? = some s ∧
          Answers (accounts .applied .applied).apply i s .uncertain :=
  apply_reversible_iff (c := callWith .applied .applied) (p := approvedPlan [accountStep])
    rfl rfl

/-- A plan whose one change timed out cannot be reversed. -/
theorem timed_out_not_reversible :
    ¬∀ c p p', applyPlan c p = .ok p' →
      (∃ o ∈ p'.outcomes, o.status.live = true) → p'.CanReverse := by
  intro h
  have hrev := h (callWith .uncertain .applied) (approvedPlan [accountStep])
    (appliedPlan .uncertain) rfl ⟨_, List.mem_cons_self, rfl⟩
  rw [canReverse_iff] at hrev
  exact absurd hrev (by decide)

end Concord.Enforcement
