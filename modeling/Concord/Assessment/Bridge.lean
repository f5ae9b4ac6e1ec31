import Concord.Assessment.Reevaluation
import Concord.Poams.Operations

/-!
# From a finding to its POA&M

`accept_control_proposal` with `_ensure_poam_for_other_than_satisfied`
(`ccf/assessment/engine/service.py`), the routes that close and reopen a POA&M, and what a closure
queues (`_maybe_enqueue_reevaluation`), over any number of proposals and POA&Ms.

The POA&M of a finding is looked up by the result row alone, whatever its status. The row is
written again when a re-evaluation is accepted, so a POA&M that was closed answers for every
later failure of the control (`never_without_plan_iff`).
-/

namespace Concord.Assessment.Bridge

open Concord.Base Concord.Python Concord.Governance Concord.Assessment.Reevaluation

/-! ## What is stored -/

/-- `content`: what a proposal has beside the columns it is opened with. -/
structure Sys where
  catalog : List Control
  /-- the system of an assessment -/
  systemOf : Nat → Nat
  work : Reevaluation.Sys
  content : Nat → Option (ControlProposal × List ObjectiveProposal)
  db : Db

def Sys.proposal (s : Sys) (p : Reevaluation.Proposal) :
    ControlProposal × List ObjectiveProposal :=
  (s.content p.id).getD (.new p.controlIdentifier, [])

def Sys.setProposal (s : Sys) (id : Nat)
    (content : ControlProposal × List ObjectiveProposal) : Sys :=
  { s with content := fun i => if i = id then some content else s.content i }

/-- `f"assessment_control_result:{result.id}"`. -/
def resultRef (resultId : Nat) : Text := sourcePrefix ++ natText resultId

def isOf (resultId : Nat) (p : Poam) : Bool := p.sourceRef = some (resultRef resultId)

/-! ## Acceptance -/

/-- The result row of a control in an assessment, found or inserted. -/
def upsertResult (assessmentId : Nat) (controlId : Text) (results : List ResultRow) :
    List ResultRow × Nat :=
  match results.find? fun r => r.assessmentId = assessmentId ∧ r.controlId = controlId with
  | some r => (results, r.id)
  | none =>
    let id := nextId (results.map ResultRow.id)
    (results ++ [⟨id, assessmentId, controlId⟩], id)

/-- The POA&M that an acceptance opens; its id is set on insertion. -/
def acceptedPoam (systemId : Nat) (p : ControlProposal) (sourceRef : Text) (today : Int) : Poam where
  id := 0
  systemId := systemId
  controlId := none
  title := p.controlIdentifier ++ " — other than satisfied".toList
  weakness := some ((orElse (p.rollupRationale.map String.toList) none).getD
    (p.controlIdentifier ++ " assessed other than satisfied.".toList))
  severity := .moderate
  status := .opened
  identifiedOn := some today
  dueOn := some (today + Ingest.slaDays .moderate)
  closedOn := none
  ownerUserId := none
  source := some "assessment".toList
  pointOfContact := none
  remediationPlan := none
  remediationPlanSource := .analyst
  resourcesRequired := none
  costEstimate := none
  scheduledCompletion := none
  originalDueOn := some (today + Ingest.slaDays .moderate)
  riskId := none
  vendorId := none
  sourceRef := some sourceRef
  acceptanceRationale := none
  milestones := []

/-- `_ensure_poam_for_other_than_satisfied`; where the lookup raises, the savepoint is rolled
back. -/
def ensurePoamForOtherThanSatisfied (systemId : Nat) (p : ControlProposal) (finding : Finding)
    (resultId : Nat) (today : Int) (poams : List Poam) : List Poam :=
  if finding ≠ .otherThanSatisfied then poams
  else
    match scalarOneOrNone (poams.filter (isOf resultId)) with
    | .ok none => insertPoam (acceptedPoam systemId p (resultRef resultId) today) poams
    | .ok (some _) => poams
    | .error _ => poams

/-- An acceptance that is not refused. -/
structure Acceptance where
  row : Reevaluation.Proposal
  proposal : ControlProposal
  result : ControlResult

def Sys.acceptance (s : Sys) (proposalId : Nat) (limit : Int) (acceptedBy : Text) :
    Option Acceptance :=
  (s.work.proposals.find? fun p => p.id = proposalId).bind fun p =>
    let (proposal, rows) := s.proposal p
    match acceptControlProposal limit s.catalog proposal rows acceptedBy with
    | .ok (q, result) => some ⟨p, q, result⟩
    | .error _ => none

def Sys.resultOf (s : Sys) (a : Acceptance) : List ResultRow × Nat :=
  upsertResult a.row.assessmentId a.result.controlId s.work.tables.results

def Sys.accept (s : Sys) (a : Acceptance) (today : Int) : Sys :=
  let (results, resultId) := s.resultOf a
  { s.setProposal a.row.id (a.proposal, (s.proposal a.row).2) with
    work := { s.work with tables := { s.work.tables with results := results } }
    db := { s.db with
      poams := ensurePoamForOtherThanSatisfied (s.systemOf a.row.assessmentId) a.proposal
        a.result.finding resultId today s.db.poams } }

/-! ## Closure -/

/-- The POA&M that a request closes, which was not closed. -/
def closedBy (db : Db) : Poams.Operation → Option Poam
  | .patch _ pid body =>
    if body.status = some .closed then db.poams.find? fun p => p.id = pid ∧ p.status ≠ .closed
    else none
  | .close _ pid _ => db.poams.find? fun p => p.id = pid ∧ p.status ≠ .closed
  | _ => none

/-- `_maybe_enqueue_reevaluation`; what it raises is logged. -/
def Sys.maybeEnqueueReevaluation (s : Sys) (p : Poam) : Sys :=
  match orElse p.sourceRef none,
      (s.db.inventory.systems.find? fun y => y.id = p.systemId).bind (·.organizationId) with
  | some sourceRef, some organizationId =>
    match enqueueReevaluation p.id sourceRef organizationId s.work with
    | .ok (work, _) => { s with work := work }
    | .error _ => s
  | _, _ => s

/-- The body of a POST to the milestones of a POA&M. -/
structure MilestoneIn where
  description : Text
  dueOn : Option Int := none
  status : MilestoneStatus := .pending
  sortOrder : Int := 0

def MilestoneIn.row (m : MilestoneIn) : Milestone where
  description := m.description
  dueOn := m.dueOn
  completedOn := none
  status := m.status
  sortOrder := m.sortOrder

/-- `add_milestone`. -/
def addMilestone (c : Caller) (pid : Nat) (m : MilestoneIn) (db : Db) : Except Raised Db :=
  (requirePoam c db pid).map fun _ =>
    { db with
      poams := updatePoamRow pid (fun p => { p with milestones := p.milestones ++ [m.row] })
        db.poams }

/-! ## Runs -/

inductive Action
  | changeCatalog (catalog : List Control)
  | enqueueControl (assessmentId : Nat) (controlIdentifier : Text)
  /-- the clock, a claim, a reap, or the end of a worker -/
  | work (a : Queue.Action)
  /-- the next job of a worker's run is driven, and its evaluation returns -/
  | evaluate (run : Nat) (settings : Settings) (answer : Objective → Answers)
  /-- or it raises -/
  | fail (run : Nat) (error : Text)
  | accept (proposalId : Nat) (limit : Int) (acceptedBy : Text) (today : Int)
  /-- a request for a POA&M or for its review -/
  | request (op : Poams.Operation)
  | addMilestone (c : Caller) (pid : Nat) (m : MilestoneIn)

def drives : Queue.Action → Bool
  | .drive .. => true
  | _ => false

/-- The routes; files and scans are not requests for a POA&M. -/
def routed : Poams.Operation → Bool
  | .importFile .. | .reconcile .. => false
  | _ => true

/-- The proposal of the job that a run drives next. -/
def Sys.next (s : Sys) (run : Nat) : Option Reevaluation.Proposal :=
  match s.work.queue.runs run with
  | some ⟨_, l :: _⟩ =>
    s.work.proposals.find? fun p => p.id = (s.work.columns l.job).controlProposalId
  | _ => none

/-- The outcome of the job, and the proposal it leaves. -/
def Sys.drive (s : Sys) (run : Nat) (p : Reevaluation.Proposal)
    (content : ControlProposal × List ObjectiveProposal) (outcome : Queue.Driven) : Option Sys :=
  (Reevaluation.step s.work (.work (.drive run outcome))).map fun work =>
    { s.setProposal p.id content with work := work }

variable (intOf : IntOf)

def step (s : Sys) : Action → Option Sys
  | .changeCatalog catalog => some { s with catalog := catalog }
  | .enqueueControl assessmentId controlIdentifier =>
    (Reevaluation.step s.work (.enqueueControl assessmentId controlIdentifier)).map fun work =>
      { s with work := work }
  | .work a =>
    if drives a then none
    else (Reevaluation.step s.work (.work a)).map fun work => { s with work := work }
  | .evaluate run settings answer =>
    (s.next run).bind fun p =>
      match evaluateControlProposal settings intOf answer s.catalog (s.proposal p).1 with
      | .ok content => s.drive run p content .done
      | .error _ => none
  | .fail run error =>
    (s.next run).bind fun p =>
      s.drive run p
        ({ (s.proposal p).1 with
            state := .failed, error := some (Queue.truncateLastError error) }, (s.proposal p).2)
        (.raised error)
  | .accept proposalId limit acceptedBy today =>
    match s.acceptance proposalId limit acceptedBy with
    | some a => some (s.accept a today)
    | none => some s
  | .request op =>
    if routed op then
      match Poams.step s.db op with
      | some db =>
        match closedBy s.db op with
        | some p => some (Sys.maybeEnqueueReevaluation { s with db := db } p)
        | none => some { s with db := db }
      | none => some s
    else none
  | .addMilestone c pid m =>
    match addMilestone c pid m s.db with
    | .ok db => some { s with db := db }
    | .error _ => some s

def findingRef (p : Poam) : Option Text :=
  p.sourceRef.filter fun ref => sourcePrefix.isPrefixOf ref

/-- A deployment: no result has two POA&Ms. -/
structure Deployment where
  catalog : List Control
  systemOf : Nat → Nat
  tables : Tables
  now : Int
  db : Db
  exclusive : Exclusive findingRef db.poams

def start (d : Deployment) : Sys where
  catalog := d.catalog
  systemOf := d.systemOf
  work := Reevaluation.start d.tables d.now
  content := fun _ => none
  db := d.db

/-! ## No result has two POA&Ms -/

section Invariant

variable {poams : List Poam} {resultId : Nat}

theorem findingRef_of_isOf {p : Poam} (h : isOf resultId p = true) :
    findingRef p = some (resultRef resultId) := by
  have hstem : sourcePrefix.isPrefixOf (resultRef resultId) = true :=
    List.isPrefixOf_iff_prefix.mpr (List.prefix_append sourcePrefix (natText resultId))
  rw [findingRef, of_decide_eq_true h, Option.filter_some, if_pos hstem]

/-- **What the bridge does**: a POA&M is opened where the result has none, and one that it has is
left alone, whatever its status. -/
theorem ensure_cases (h : Exclusive findingRef poams) (systemId : Nat) (p : ControlProposal)
    (today : Int) :
    (poams.filter (isOf resultId) = [] ∧
      ensurePoamForOtherThanSatisfied systemId p .otherThanSatisfied resultId today poams =
        insertPoam (acceptedPoam systemId p (resultRef resultId) today) poams) ∨
    ∃ q, poams.filter (isOf resultId) = [q] ∧
      ensurePoamForOtherThanSatisfied systemId p .otherThanSatisfied resultId today poams =
        poams := by
  unfold ensurePoamForOtherThanSatisfied
  rw [if_neg (not_not.mpr rfl)]
  rcases h.lookup fun q _ hq => findingRef_of_isOf hq with hnone | ⟨q, hq⟩
  · rw [hnone]
    exact .inl ⟨rfl, rfl⟩
  · rw [hq]
    exact .inr ⟨q, rfl, rfl⟩

theorem exclusive_ensure (h : Exclusive findingRef poams) (systemId : Nat) (p : ControlProposal)
    (finding : Finding) (today : Int) :
    Exclusive findingRef
      (ensurePoamForOtherThanSatisfied systemId p finding resultId today poams) := by
  by_cases hf : finding = .otherThanSatisfied
  · subst hf
    rcases @ensure_cases _ resultId h systemId p today with ⟨hnone, heq⟩ | ⟨q, -, heq⟩
    · rw [heq]
      refine h.concat fun q hq ref hnew href => ?_
      have hof : isOf resultId q = false := by
        simpa using List.filter_eq_nil_iff.mp hnone q hq
      have hrow : findingRef (acceptedPoam systemId p (resultRef resultId) today) =
          some (resultRef resultId) := findingRef_of_isOf (decide_eq_true rfl)
      obtain rfl : resultRef resultId = ref := Option.some.inj (hrow.symm.trans hnew)
      exact absurd (Option.filter_eq_some_iff.mp href).1 (of_decide_eq_false hof)
    · rw [heq]
      exact h
  · rw [ensurePoamForOtherThanSatisfied, if_pos hf]
    exact h

theorem exclusive_of_request {u v : Db} {op : Poams.Operation} (h : Exclusive findingRef u.poams)
    (hrouted : routed op = true) (hstep : Poams.step u op = some v) :
    Exclusive findingRef v.poams := by
  -- neither a PATCH nor a closure writes `source_ref`
  have hrow : ∀ (pid : Nat) (f : Poam → Poam), (∀ p, (f p).sourceRef = p.sourceRef) →
      Exclusive findingRef (updatePoamRow pid f u.poams) := by
    intro pid f hf
    refine h.rewrite fun p _ ref hp => ?_
    rw [← hp, findingRef, findingRef]
    split
    · rw [hf]
    · rfl
  cases op with
  | create c body =>
    obtain ⟨-, -, heq⟩ := bind_eq_ok.mp (toOption_eq_some hstep)
    obtain rfl := Except.ok.inj heq
    -- nor does a body have one
    exact h.concat fun q _ ref hnew => by cases hnew
  | patch c pid body =>
    obtain rfl := updatePoam_eq_ok (toOption_eq_some hstep)
    exact hrow pid body.apply fun _ => rfl
  | close c pid today =>
    obtain rfl := closePoam_eq_ok (toOption_eq_some hstep)
    exact hrow pid (Poam.close today) fun _ => rfl
  | importFile committed call => cases hrouted
  | reconcile call => cases hrouted
  | submit c entityType entityId actor =>
    rw [(submitReview_eq_ok (toOption_eq_some hstep)).2.1]
    exact h
  | decide parseInt c entityType entityId who d =>
    rw [(decideReview_eq_ok (toOption_eq_some hstep)).2.1]
    exact h

theorem maybeEnqueueReevaluation_db (s : Sys) (p : Poam) :
    (s.maybeEnqueueReevaluation p).db = s.db := by
  unfold Sys.maybeEnqueueReevaluation
  split
  · split
    · rfl
    · rfl
  · rfl

theorem drive_db {s s' : Sys} {run : Nat} {p : Reevaluation.Proposal}
    {content : ControlProposal × List ObjectiveProposal} {outcome : Queue.Driven}
    (h : s.drive run p content outcome = some s') : s'.db = s.db := by
  obtain ⟨work, -, rfl⟩ := Option.map_eq_some_iff.mp h
  rfl

theorem exclusive_of_step (s : Sys) (a : Action) (s' : Sys)
    (h : Exclusive findingRef s.db.poams) (hstep : step intOf s a = some s') :
    Exclusive findingRef s'.db.poams := by
  cases a with
  | changeCatalog catalog =>
    obtain rfl := Option.some.inj hstep
    exact h
  | enqueueControl assessmentId controlIdentifier =>
    obtain ⟨work, -, rfl⟩ := Option.map_eq_some_iff.mp hstep
    exact h
  | work a =>
    rcases ite_eq_iff.mp hstep with ⟨-, hstep⟩ | ⟨-, hstep⟩
    · cases hstep
    · obtain ⟨work, -, rfl⟩ := Option.map_eq_some_iff.mp hstep
      exact h
  | evaluate run settings answer =>
    obtain ⟨p, -, hstep⟩ := Option.bind_eq_some_iff.mp hstep
    split at hstep
    · rw [drive_db hstep]
      exact h
    · cases hstep
  | fail run error =>
    obtain ⟨p, -, hstep⟩ := Option.bind_eq_some_iff.mp hstep
    rw [drive_db hstep]
    exact h
  | accept proposalId limit acceptedBy today =>
    rw [step] at hstep
    split at hstep
    · obtain rfl := Option.some.inj hstep
      exact exclusive_ensure h _ _ _ _
    · obtain rfl := Option.some.inj hstep
      exact h
  | request op =>
    rcases ite_eq_iff.mp hstep with ⟨hrouted, hstep⟩ | ⟨-, hstep⟩
    · split at hstep
      · rename_i db hdb
        have hnew := exclusive_of_request h hrouted hdb
        split at hstep
        · obtain rfl := Option.some.inj hstep
          rw [maybeEnqueueReevaluation_db]
          exact hnew
        · obtain rfl := Option.some.inj hstep
          exact hnew
      · obtain rfl := Option.some.inj hstep
        exact h
    · cases hstep
  | addMilestone c pid m =>
    rw [step] at hstep
    split at hstep
    · rename_i db hdb
      obtain rfl := Option.some.inj hstep
      obtain ⟨p, -, rfl⟩ := map_eq_ok.mp hdb
      refine h.rewrite fun q _ ref hq => ?_
      rw [← hq, findingRef, findingRef]
      split
      · rfl
      · rfl
    · obtain rfl := Option.some.inj hstep
      exact h

end Invariant

/-! ## After an acceptance -/

def unresolved (p : Poam) : Bool :=
  p.status = .opened ∨ p.status = .inProgress ∨ p.status = .riskAccepted

/-- A POA&M that still plans what is to be done about a result. -/
def plans (resultId : Nat) (p : Poam) : Bool := isOf resultId p && unresolved p

/-- The result that an action accepts as other than satisfied. -/
def Sys.failing (s : Sys) : Action → Option Nat
  | .accept proposalId limit acceptedBy _ =>
    (s.acceptance proposalId limit acceptedBy).bind fun a =>
      if a.result.finding = .otherThanSatisfied then some (s.resultOf a).2 else none
  | _ => none

/-- What is to be after such an acceptance. -/
structure PlanStands (u v : Sys) (resultId : Nat) : Prop where
  /-- one POA&M plans for the result, and no second one -/
  planned : ∃ p, v.db.poams.filter (plans resultId) = [p]
  /-- what was unresolved is left as it was -/
  kept : ∀ p ∈ u.db.poams, unresolved p = true → p ∈ v.db.poams

def NeverWithoutPlan (s : Sys) (a : Action) : Prop :=
  ∀ s', step intOf s a = some s' → ∀ resultId, s.failing a = some resultId →
    PlanStands s s' resultId

/-- The POA&M that the result has, if any, is neither completed nor closed. -/
def PlanOpen (s : Sys) (a : Action) : Prop :=
  ∀ resultId, s.failing a = some resultId →
    ∀ p ∈ s.db.poams, isOf resultId p = true → unresolved p = true

theorem filter_plans (resultId : Nat) (poams : List Poam) :
    poams.filter (plans resultId) =
      (poams.filter (isOf resultId)).filter unresolved := by
  rw [List.filter_filter]
  exact List.filter_congr fun p _ => Bool.and_comm _ _

/-- One acceptance of a failure. -/
theorem planStands_iff {s : Sys} (h : Exclusive findingRef s.db.poams) {a : Acceptance}
    (hfailing : a.result.finding = .otherThanSatisfied) (today : Int) :
    PlanStands s (s.accept a today) (s.resultOf a).2 ↔
      ∀ p ∈ s.db.poams, isOf (s.resultOf a).2 p = true → unresolved p = true := by
  have hpoams : (s.accept a today).db.poams =
      ensurePoamForOtherThanSatisfied (s.systemOf a.row.assessmentId) a.proposal
        .otherThanSatisfied (s.resultOf a).2 today s.db.poams := hfailing ▸ rfl
  rcases @ensure_cases _ (s.resultOf a).2 h (s.systemOf a.row.assessmentId) a.proposal today with
    ⟨hnone, heq⟩ | ⟨q, hq, heq⟩
  · -- the first failure: its POA&M is opened
    rw [heq] at hpoams
    let row : Poam :=
      { acceptedPoam (s.systemOf a.row.assessmentId) a.proposal (resultRef (s.resultOf a).2) today
        with id := nextId (s.db.poams.map Poam.id) }
    have hrow : isOf (s.resultOf a).2 row = true := decide_eq_true rfl
    have hplanned : (s.accept a today).db.poams.filter (plans (s.resultOf a).2) = [row] := by
      rw [hpoams, insertPoam, filter_plans, List.filter_append, hnone, List.nil_append,
        List.filter_cons_of_pos hrow]
      rfl
    refine iff_of_true ⟨⟨row, hplanned⟩, fun p hp _ => ?_⟩ fun p hp hof => ?_
    · rw [hpoams]
      exact List.mem_append_left _ hp
    · exact absurd hof (List.filter_eq_nil_iff.mp hnone p hp)
  · -- a later one: the POA&M of the first stands for it as it is
    rw [heq] at hpoams
    have hplans : (s.accept a today).db.poams.filter (plans (s.resultOf a).2) =
        if unresolved q then [q] else [] := by
      rw [hpoams, filter_plans, hq, List.filter_singleton, Bool.cond_eq_ite]
    obtain ⟨hin, hof⟩ := List.mem_filter.mp (hq ▸ List.mem_singleton_self q)
    constructor
    · rintro ⟨⟨p, hp⟩, -⟩ r hr hrof
      have hmem : r ∈ s.db.poams.filter (isOf (s.resultOf a).2) := List.mem_filter.mpr ⟨hr, hrof⟩
      rw [hq, List.mem_singleton] at hmem
      rw [hmem]
      by_contra hresolved
      rw [hplans, if_neg hresolved] at hp
      cases hp
    · intro hopen
      refine ⟨⟨q, ?_⟩, fun p hp _ => hpoams ▸ hp⟩
      rw [hplans, if_pos (hopen q hin hof)]

theorem neverWithoutPlan_iff (s : Sys) (a : Action) (h : Exclusive findingRef s.db.poams) :
    NeverWithoutPlan intOf s a ↔ PlanOpen s a := by
  cases a with
  | accept proposalId limit acceptedBy today =>
    cases hacc : s.acceptance proposalId limit acceptedBy with
    | none =>
      have hnone : s.failing (.accept proposalId limit acceptedBy today) = none := by
        rw [Sys.failing, hacc]
        rfl
      refine iff_of_true (fun s' _ resultId hf => ?_) fun resultId hf => ?_
      · rw [hnone] at hf
        cases hf
      · rw [hnone] at hf
        cases hf
    | some a =>
      have hstep : step intOf s (.accept proposalId limit acceptedBy today) =
          some (s.accept a today) := by
        rw [step, hacc]
      have hsome : s.failing (.accept proposalId limit acceptedBy today) =
          if a.result.finding = .otherThanSatisfied then some (s.resultOf a).2 else none := by
        rw [Sys.failing, hacc]
        rfl
      unfold NeverWithoutPlan PlanOpen
      rw [hsome]
      by_cases hfailing : a.result.finding = .otherThanSatisfied
      · rw [if_pos hfailing, hstep]
        constructor
        · rintro hnever _ ⟨⟩
          exact (planStands_iff h hfailing today).mp (hnever _ rfl _ rfl)
        · rintro hopen _ ⟨⟩ _ ⟨⟩
          exact (planStands_iff h hfailing today).mpr (hopen _ rfl)
      · rw [if_neg hfailing]
        exact iff_of_true (fun _ _ _ hf => by cases hf) fun _ hf => by cases hf
  | _ => exact iff_of_true (fun _ _ _ hf => by cases hf) fun _ hf => by cases hf

/-- **When a failure is never without a plan**: at each acceptance of one, the POA&M of its result
is not one that was completed or closed. -/
theorem never_without_plan_iff (d : Deployment) (as : List Action) :
    Guarded (step intOf) (NeverWithoutPlan intOf) (start d) as ↔
      Guarded (step intOf) PlanOpen (start d) as :=
  guarded_congr_of_invariant (exclusive_of_step intOf) (neverWithoutPlan_iff intOf) d.exclusive

def oneSystem : Deployment where
  catalog := Lifecycle.oneObjective
  systemOf := fun _ => 1
  tables := ⟨fun _ => some 1, []⟩
  now := 0
  db := Poams.register []
  exclusive := exclusive_nil

def staff : Caller := ⟨none, false⟩

/-- A worker claims the job of a proposal and finds its objective not satisfied. -/
def notSatisfied (run job : Nat) : List Action :=
  [.work (.claim run ['w'] 10 [] [job]),
    .evaluate run ⟨false, 200⟩ fun _ => answered .notSatisfied none]

/-- The control fails, its POA&M is worked off and closed, and the re-evaluation that the closure
queues fails too. -/
def failedAgain : List Action :=
  .enqueueControl 7 Lifecycle.controlAc2 :: notSatisfied 0 0 ++
    [.accept 0 200 ['h'] 0,
      .addMilestone staff 1 { description := ['m'], status := .completed },
      .request (.close staff 1 5)] ++ notSatisfied 1 1

/-- The second failure is accepted, and the only POA&M is the closed one. -/
theorem failed_again_without_plan :
    ¬ Guarded (step natIntOf) (NeverWithoutPlan natIntOf) (start oneSystem)
      (failedAgain ++ [.accept 1 200 ['h'] 6]) := by
  intro hnever
  have hrun : ((exec (step natIntOf) (start oneSystem) failedAgain).bind fun s =>
      (step natIntOf s (.accept 1 200 ['h'] 6)).map fun s' =>
        (s.failing (.accept 1 200 ['h'] 6), (s'.db.poams.filter (plans 1)).length)) =
      some (some 1, 0) := by decide +kernel
  obtain ⟨s, hs, hrun⟩ := Option.bind_eq_some_iff.mp hrun
  obtain ⟨s', hs', hrun⟩ := Option.map_eq_some_iff.mp hrun
  obtain ⟨hfailing, hlength⟩ := Prod.mk.inj hrun
  have hlast := guarded_iff.mp hnever failedAgain (.accept 1 200 ['h'] 6) [] s rfl hs
  obtain ⟨⟨p, hp⟩, -⟩ := hlast s' hs' 1 hfailing
  rw [hp] at hlength
  cases hlength

end Concord.Assessment.Bridge
