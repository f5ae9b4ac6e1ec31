import Mathlib.Data.List.Range
import Concord.Assessment.Lifecycle
import Concord.Governance.Register
import Concord.Queue.Attempts

/-!
# Queueing evaluations

`enqueue_control` and `enqueue_reevaluation` of `ccf/assessment/engine/jobs.py`, with the
proposals they open (`open_control_proposal`, `open_reevaluation_proposal`), over any
number of assessments, proposals and POA&Ms, and the workers of the queue between them.

Both entry points look before they write, on one key each: the control of an assessment
for a first pass, the POA&M for a re-evaluation, and the proposal for a job. `Inv` is that
each key has at most one row. The workers keep it because a job is claimed from `pending`,
and what is terminal stays so.

`one_outstanding`: at most one job of a proposal is going to run at any time, at most one
proposal is opened for a POA&M, and a request is there until a worker settles its job.
-/

namespace Concord.Assessment.Reevaluation

open Concord.Base Concord.Python Concord.Queue Concord.Assessment.Lifecycle
open Concord.Governance (scalarOneOrNone Raised)

/-- A row of `assessment_control_proposals`, by the columns that opening one sets. -/
structure Proposal where
  id : Nat
  organizationId : Nat
  assessmentId : Nat
  controlIdentifier : Text
  sourcePoamId : Option Nat
  deriving DecidableEq

/-- A row of `assessment_control_results`. -/
structure ResultRow where
  id : Nat
  assessmentId : Nat
  controlId : Text
  deriving DecidableEq

/-- What the entry points only read. -/
structure Tables where
  /-- the organization of an assessment's system -/
  organizationOf : Nat → Option Nat
  results : List ResultRow

/-- What an assessment job has beside the columns of `JobLike`. -/
structure JobColumns where
  organizationId : Nat
  controlProposalId : Nat

structure Sys where
  tables : Tables
  proposals : List Proposal
  queue : Queue.Sys
  columns : Nat → JobColumns

/-- What a call raises. -/
inductive Refused
  | proposalError (text : Text)
  | lookup (error : Raised)

def assessmentNotFound (id : Nat) : Refused :=
  .proposalError ("assessment ".toList ++ natText id ++ " not found".toList)

/-! ## Proposals -/

/-- `scalar_one_or_none` over the proposals. -/
def findProposal (q : Proposal → Bool) (ps : List Proposal) : Except Refused (Option Proposal) :=
  (scalarOneOrNone (ps.filter q)).mapError .lookup

/-- The proposal as it is inserted, under the next id. -/
def insertProposal (new : Nat → Proposal) (ps : List Proposal) : List Proposal × Proposal :=
  (ps ++ [new ps.length], new ps.length)

def isFirstPass (assessmentId : Nat) (canonical : Text) (p : Proposal) : Bool :=
  p.assessmentId = assessmentId ∧ p.controlIdentifier = canonical ∧ p.sourcePoamId = none

/-- `open_control_proposal`. -/
def openControlProposal (t : Tables) (assessmentId : Nat) (controlIdentifier : Text)
    (ps : List Proposal) : Except Refused (List Proposal × Proposal) :=
  match t.organizationOf assessmentId with
  | none => .error (assessmentNotFound assessmentId)
  | some org =>
    let canonical := normalizeControlIdentifier controlIdentifier
    (findProposal (isFirstPass assessmentId canonical) ps).map fun
      | some p => (ps, p)
      | none => insertProposal (fun id => ⟨id, org, assessmentId, canonical, none⟩) ps

def isReevaluation (poamId : Nat) (p : Proposal) : Bool := p.sourcePoamId = some poamId

/-- `open_reevaluation_proposal`. -/
def openReevaluationProposal (t : Tables) (result : ResultRow) (sourcePoamId : Nat)
    (ps : List Proposal) : Except Refused (List Proposal × Proposal) :=
  (findProposal (isReevaluation sourcePoamId) ps).bind fun
    | some p => .ok (ps, p)
    | none =>
      match t.organizationOf result.assessmentId with
      | none => .error (assessmentNotFound result.assessmentId)
      | some org =>
        .ok (insertProposal (fun id => ⟨id, org, result.assessmentId,
          normalizeControlIdentifier result.controlId, some sourcePoamId⟩) ps)

/-! ## Jobs -/

/-- A job of the proposal that is still going to run. -/
def Sys.runs (s : Sys) (proposalId : Nat) (j : Job) : Bool :=
  (s.columns j.id).controlProposalId = proposalId ∧ outstanding j = true

/-- `order_by(id.desc()).limit(1)`. -/
def latest (jobs : List Job) : Option Job :=
  (jobs.insertionSort fun j k => k.id ≤ j.id).head?

/-- The new job of a proposal, under the next id. -/
def insertJob (p : Proposal) (s : Sys) : Sys :=
  { s with
    queue :=
      { s.queue with jobs := s.queue.jobs ++ [Job.new s.queue.jobs.length s.queue.now] }
    columns := fun i =>
      if i = s.queue.jobs.length then ⟨p.organizationId, p.id⟩ else s.columns i }

/-- The end of both entry points: the job that is going to run, or a new one. -/
def queueJob (p : Proposal) (s : Sys) : Sys × Nat :=
  match latest (s.queue.jobs.filter (s.runs p.id)) with
  | some j => (s, j.id)
  | none => (insertJob p s, s.queue.jobs.length)

/-- `enqueue_control`. -/
def enqueueControl (assessmentId : Nat) (controlIdentifier : Text) (s : Sys) :
    Except Refused (Sys × Nat) :=
  (openControlProposal s.tables assessmentId controlIdentifier s.proposals).map fun r =>
    queueJob r.2 { s with proposals := r.1 }

def sourcePrefix : Text := "assessment_control_result:".toList

/-- The result a `source_ref` names. An `int` that is no key of the table finds none. -/
def namedResult (t : Tables) (sourceRef : Text) : Option ResultRow :=
  if sourcePrefix.isPrefixOf sourceRef then
    (pyInt ((sourceRef.dropWhile (· ≠ ':')).drop 1)).bind fun resultId =>
      t.results.find? fun r => (r.id : Int) = resultId
  else none

/-- `enqueue_reevaluation`. -/
def enqueueReevaluation (poamId : Nat) (sourceRef : Text) (organizationId : Nat) (s : Sys) :
    Except Refused (Sys × Option Nat) :=
  match namedResult s.tables sourceRef with
  | none => .ok (s, none)
  | some result =>
    if s.tables.organizationOf result.assessmentId = some organizationId then
      (openReevaluationProposal s.tables result poamId s.proposals).map fun r =>
        let (s', id) := queueJob r.2 { s with proposals := r.1 }
        (s', some id)
    else .ok (s, none)

/-! ## Runs -/

inductive Action
  /-- assessments, systems and control results change -/
  | edit (tables : Tables)
  | enqueueControl (assessmentId : Nat) (controlIdentifier : Text)
  | enqueueReevaluation (poamId : Nat) (sourceRef : Text) (organizationId : Nat)
  /-- the clock, a claim, an outcome, a reap, or the end of a worker -/
  | work (a : Queue.Action)

def start (tables : Tables) (now : Int) : Sys where
  tables := tables
  proposals := []
  queue := Queue.start now
  columns := fun _ => ⟨0, 0⟩

def inserts : Queue.Action → Bool
  | .enqueue _ => true
  | _ => false

def step (s : Sys) : Action → Option Sys
  | .edit tables => some { s with tables := tables }
  | .enqueueControl assessmentId controlIdentifier =>
    match enqueueControl assessmentId controlIdentifier s with
    | .ok (s', _) => some s'
    | .error _ => some s
  | .enqueueReevaluation poamId sourceRef organizationId =>
    match enqueueReevaluation poamId sourceRef organizationId s with
    | .ok (s', _) => some s'
    | .error _ => some s
  | .work a =>
    if inserts a then none
    else (Queue.step .assessment s.queue a).map fun q => { s with queue := q }

/-! ## The invariant -/

/-- The keys that have one proposal each. -/
inductive Slot
  | firstPass (assessmentId : Nat) (controlIdentifier : Text)
  | reevaluation (poamId : Nat)
  deriving DecidableEq

def Proposal.slot (p : Proposal) : Option Slot :=
  match p.sourcePoamId with
  | none => some (.firstPass p.assessmentId p.controlIdentifier)
  | some poamId => some (.reevaluation poamId)

def Sys.slot (s : Sys) (j : Job) : Option Nat :=
  if outstanding j then some (s.columns j.id).controlProposalId else none

/-- Rows are numbered in order, and every key has one. -/
structure Inv (s : Sys) : Prop where
  jobIds : s.queue.jobs.map Job.id = List.range s.queue.jobs.length
  jobs : Exclusive s.slot s.queue.jobs
  proposalIds : s.proposals.map Proposal.id = List.range s.proposals.length
  proposals : Exclusive Proposal.slot s.proposals

theorem inv_start (tables : Tables) (now : Int) : Inv (start tables now) :=
  ⟨rfl, exclusive_nil, rfl, exclusive_nil⟩

theorem slot_firstPass {p : Proposal} {a : Nat} {c : Text} :
    p.slot = some (.firstPass a c) ↔ isFirstPass a c p = true := by
  unfold Proposal.slot isFirstPass
  cases p.sourcePoamId <;> simp

theorem slot_reevaluation {p : Proposal} {poamId : Nat} :
    p.slot = some (.reevaluation poamId) ↔ isReevaluation poamId p = true := by
  unfold Proposal.slot isReevaluation
  cases p.sourcePoamId <;> simp

theorem slot_eq_some {s : Sys} {j : Job} {i : Nat} :
    s.slot j = some i ↔ s.runs i j = true := by
  unfold Sys.slot Sys.runs
  cases outstanding j <;> simp

/-! ## Opening a proposal -/

/-- What opening a proposal for a key comes to. -/
structure Opened (k : Slot) (ps : List Proposal) (r : List Proposal × Proposal) : Prop where
  mem : r.2 ∈ r.1
  slot : r.2.slot = some k
  keeps : ps ⊆ r.1
  ids : r.1.map Proposal.id = List.range r.1.length
  exclusive : Exclusive Proposal.slot r.1

section Opening

variable {t : Tables} {ps : List Proposal} {k : Slot} {r : List Proposal × Proposal}
  {q : Proposal → Bool}

theorem findProposal_eq_ok {found : Option Proposal} (h : findProposal q ps = .ok found) :
    ps.filter q = found.toList := by
  unfold findProposal at h
  cases hrows : scalarOneOrNone (ps.filter q) with
  | error e => rw [hrows] at h; cases h
  | ok found' =>
    rw [hrows] at h
    obtain rfl : found' = found := Except.ok.inj h
    exact Governance.scalarOneOrNone_eq_ok hrows

variable (hids : ps.map Proposal.id = List.range ps.length)
  (hps : Exclusive Proposal.slot ps) (hq : ∀ p, p.slot = some k ↔ q p = true)

include hids hps hq

theorem opened_of_found {p : Proposal} (h : ps.filter q = [p]) : Opened k ps (ps, p) := by
  have hp : p ∈ ps.filter q := h ▸ List.mem_singleton_self p
  obtain ⟨hmem, hqp⟩ := List.mem_filter.mp hp
  exact ⟨hmem, (hq p).mpr hqp, List.Subset.refl ps, hids, hps⟩

theorem opened_of_inserted (h : ps.filter q = []) {new : Nat → Proposal}
    (hid : ∀ id, (new id).id = id) (hslot : ∀ id, (new id).slot = some k) :
    Opened k ps (insertProposal new ps) where
  mem := List.mem_append_right ps (List.mem_singleton_self _)
  slot := hslot ps.length
  keeps := List.subset_append_left ps _
  ids := by
    rw [insertProposal, List.map_append, hids, List.length_append, List.length_singleton,
      List.range_succ, List.map_singleton, hid]
  exclusive := by
    refine hps.concat fun p hp k' hk hpk => ?_
    rw [hslot, Option.some.injEq] at hk
    have hmem : p ∈ ps.filter q := List.mem_filter.mpr ⟨hp, (hq p).mp (hk ▸ hpk)⟩
    rw [h] at hmem
    exact absurd hmem List.not_mem_nil

omit hids in
theorem found_ok : ∃ found, findProposal q ps = .ok found := by
  rcases hps.lookup fun p _ h => (hq p).mpr h with hnil | ⟨p, hone⟩
  · exact ⟨none, by rw [findProposal, hnil]; rfl⟩
  · exact ⟨some p, by rw [findProposal, hone]; rfl⟩

end Opening

section Calls

variable {t : Tables} {ps : List Proposal} {r : List Proposal × Proposal}

theorem opened_control (hids : ps.map Proposal.id = List.range ps.length)
    (hps : Exclusive Proposal.slot ps) {assessmentId : Nat} {controlIdentifier : Text}
    (h : openControlProposal t assessmentId controlIdentifier ps = .ok r) :
    Opened (.firstPass assessmentId (normalizeControlIdentifier controlIdentifier)) ps r := by
  unfold openControlProposal at h
  split at h
  · cases h
  · rename_i org _
    dsimp only at h
    cases hfound : findProposal (isFirstPass assessmentId
        (normalizeControlIdentifier controlIdentifier)) ps with
    | error e => rw [hfound] at h; cases h
    | ok found =>
      have hfilter := findProposal_eq_ok hfound
      rw [hfound] at h
      cases found with
      | some p =>
        obtain rfl := Except.ok.inj h
        exact opened_of_found hids hps (fun _ => slot_firstPass) hfilter
      | none =>
        obtain rfl := Except.ok.inj h
        exact opened_of_inserted hids hps (fun _ => slot_firstPass) hfilter (fun _ => rfl)
          fun _ => rfl

theorem opened_reevaluation (hids : ps.map Proposal.id = List.range ps.length)
    (hps : Exclusive Proposal.slot ps) {result : ResultRow} {poamId : Nat}
    (h : openReevaluationProposal t result poamId ps = .ok r) :
    Opened (.reevaluation poamId) ps r := by
  unfold openReevaluationProposal at h
  cases hfound : findProposal (isReevaluation poamId) ps with
  | error e => rw [hfound] at h; cases h
  | ok found =>
    have hfilter := findProposal_eq_ok hfound
    rw [hfound] at h
    cases found with
    | some p =>
      obtain rfl := Except.ok.inj h
      exact opened_of_found hids hps (fun _ => slot_reevaluation) hfilter
    | none =>
      simp only [Except.bind] at h
      split at h
      · cases h
      · obtain rfl := Except.ok.inj h
        exact opened_of_inserted hids hps (fun _ => slot_reevaluation) hfilter (fun _ => rfl)
          fun _ => rfl

theorem openReevaluation_ok (hps : Exclusive Proposal.slot ps) {result : ResultRow}
    (poamId : Nat) {org : Nat} (horg : t.organizationOf result.assessmentId = some org) :
    ∃ r, openReevaluationProposal t result poamId ps = .ok r := by
  obtain ⟨found, hfound⟩ := found_ok hps fun p : Proposal => @slot_reevaluation p poamId
  unfold openReevaluationProposal
  rw [hfound]
  cases found with
  | some p => exact ⟨_, rfl⟩
  | none =>
    simp only [Except.bind, horg]
    exact ⟨_, rfl⟩

end Calls

/-! ## Queueing a job -/

def Runs (s : Sys) (proposalId i : Nat) : Prop :=
  ∃ j ∈ s.queue.jobs, j.id = i ∧ s.runs proposalId j = true

section Jobs

variable {s s' : Sys} {p : Proposal} {i : Nat}

theorem latest_eq_none {jobs : List Job} (h : latest jobs = none) : jobs = [] := by
  have hsorted := List.head?_eq_none_iff.mp h
  have hlength := List.length_insertionSort (fun j k : Job => k.id ≤ j.id) jobs
  rw [hsorted] at hlength
  exact List.length_eq_zero_iff.mp hlength.symm

theorem latest_eq_some {jobs : List Job} {j : Job} (h : latest jobs = some j) : j ∈ jobs :=
  (List.mem_insertionSort _).mp (List.mem_of_mem_head? h)

theorem Inv.jobId_lt (h : Inv s) {j : Job} (hj : j ∈ s.queue.jobs) :
    j.id < s.queue.jobs.length := by
  have hmem : j.id ∈ s.queue.jobs.map Job.id := List.mem_map_of_mem hj
  rw [h.jobIds] at hmem
  exact List.mem_range.mp hmem

theorem Inv.nodup (h : Inv s) : (s.queue.jobs.map Job.id).Nodup := by
  rw [h.jobIds]
  exact List.nodup_range

theorem slot_insertJob {j : Job} (hj : j.id < s.queue.jobs.length) :
    (insertJob p s).slot j = s.slot j := by
  unfold Sys.slot insertJob
  dsimp only
  rw [if_neg hj.ne]

theorem runs_insertJob :
    (insertJob p s).runs p.id (Job.new s.queue.jobs.length s.queue.now) = true := by
  refine decide_eq_true ⟨?_, rfl⟩
  exact congrArg JobColumns.controlProposalId (if_pos rfl)

theorem Inv.insertJob (h : Inv s) (hfree : ∀ j ∈ s.queue.jobs, s.slot j ≠ some p.id) :
    Inv (insertJob p s) where
  jobIds := by
    show (s.queue.jobs ++ [_]).map Job.id = List.range (s.queue.jobs ++ [_]).length
    rw [List.map_append, h.jobIds, List.length_append, List.length_singleton, List.range_succ]
    rfl
  jobs := by
    have hold : Exclusive (Reevaluation.insertJob p s).slot s.queue.jobs := by
      have hmap := h.jobs.rewrite (f := id) fun j hj k hk =>
        (slot_insertJob (p := p) (h.jobId_lt hj)).symm.trans hk
      rwa [List.map_id] at hmap
    refine hold.concat fun j hj k hk hjk => ?_
    have hk' : k = p.id := by
      rw [slot_eq_some.mpr runs_insertJob] at hk
      exact (Option.some.inj hk).symm
    rw [slot_insertJob (h.jobId_lt hj), hk'] at hjk
    exact hfree j hj hjk
  proposalIds := h.proposalIds
  proposals := h.proposals

/-- **What queueing does**: the proposal has its job, and the invariant is kept. -/
theorem Inv.queueJob (h : Inv s) (p : Proposal) :
    Inv (queueJob p s).1 ∧ Runs (queueJob p s).1 p.id (queueJob p s).2 ∧
      (queueJob p s).1.proposals = s.proposals := by
  unfold Reevaluation.queueJob
  split
  · rename_i j hlatest
    obtain ⟨hj, hruns⟩ := List.mem_filter.mp (latest_eq_some hlatest)
    exact ⟨h, ⟨j, hj, rfl, hruns⟩, rfl⟩
  · rename_i hlatest
    have hfree : ∀ j ∈ s.queue.jobs, s.slot j ≠ some p.id := by
      intro j hj hslot
      have hmem : j ∈ s.queue.jobs.filter (s.runs p.id) :=
        List.mem_filter.mpr ⟨hj, slot_eq_some.mp hslot⟩
      rw [latest_eq_none hlatest] at hmem
      exact List.not_mem_nil hmem
    refine ⟨h.insertJob hfree, ⟨_, ?_, rfl, runs_insertJob⟩, rfl⟩
    exact List.mem_append_right _ (List.mem_singleton_self _)

theorem Inv.opened (h : Inv s) {k : Slot} {r : List Proposal × Proposal}
    (hr : Opened k s.proposals r) : Inv { s with proposals := r.1 } :=
  ⟨h.jobIds, h.jobs, hr.ids, hr.exclusive⟩

theorem enqueueControl_eq_ok {a : Nat} {c : Text} (h : Inv s)
    (hok : enqueueControl a c s = .ok (s', i)) :
    ∃ r, Opened (.firstPass a (normalizeControlIdentifier c)) s.proposals r ∧
      (s', i) = Reevaluation.queueJob r.2 { s with proposals := r.1 } := by
  unfold enqueueControl at hok
  cases hopen : openControlProposal s.tables a c s.proposals with
  | error e => rw [hopen] at hok; cases hok
  | ok r =>
    rw [hopen] at hok
    exact ⟨r, opened_control h.proposalIds h.proposals hopen, (Except.ok.inj hok).symm⟩

/-- The requests that are for this deployment: the `source_ref` names a control result of
the organization. -/
def Qualifies (s : Sys) (sourceRef : Text) (organizationId : Nat) : Prop :=
  ∃ result, namedResult s.tables sourceRef = some result ∧
    s.tables.organizationOf result.assessmentId = some organizationId

/-- **A request that qualifies** has the re-evaluation of its POA&M queued. -/
theorem enqueueReevaluation_qualified (h : Inv s) (poamId : Nat) {org : Nat} {ref : Text}
    (hq : Qualifies s ref org) :
    ∃ r s' i, Opened (.reevaluation poamId) s.proposals r ∧
      Reevaluation.queueJob r.2 { s with proposals := r.1 } = (s', i) ∧
      enqueueReevaluation poamId ref org s = .ok (s', some i) := by
  obtain ⟨result, hnamed, horg⟩ := hq
  obtain ⟨r, hr⟩ := openReevaluation_ok h.proposals poamId horg
  refine ⟨r, _, _, opened_reevaluation h.proposalIds h.proposals hr, rfl, ?_⟩
  unfold enqueueReevaluation
  rw [hnamed]
  simp only [if_pos horg, hr]
  rfl

theorem enqueueReevaluation_declined {poamId org : Nat} {ref : Text}
    (hq : ¬ Qualifies s ref org) : enqueueReevaluation poamId ref org s = .ok (s, none) := by
  unfold enqueueReevaluation
  cases hnamed : namedResult s.tables ref with
  | none => rfl
  | some result => exact if_neg fun horg => hq ⟨result, hnamed, horg⟩

end Jobs

/-! ## Working the queue -/

section Working

variable {s s' : Sys} {q : Queue.Sys} {a : Queue.Action}

theorem outstanding_iff {j : Job} :
    outstanding j = true ↔ j.status = .pending ∨ j.status = .claimed := decide_eq_true_iff

theorem outstanding_of_reap {j : Job} {now older cap : Int}
    (h : outstanding (j.reap now older cap) = true) : outstanding j = true := by
  by_cases hstale : j.stale (threshold now older) = true
  · have hclaimed := (Bool.and_eq_true _ _ ▸ hstale : _ ∧ _).1
    exact outstanding_iff.mpr (.inr (of_decide_eq_true hclaimed))
  · rwa [reap_of_not_stale (Bool.not_eq_true _ ▸ hstale)] at h

theorem not_outstanding_write {j : Job} {o : Driven} (ho : o.possible .assessment = true) :
    outstanding (j.write o) = false := by
  cases o with
  | pending => cases ho
  | done => rfl
  | failed error => rfl
  | raised error => rfl

theorem rewritten_of_work (h : Inv s) (ha : inserts a = false)
    (hstep : Queue.step .assessment s.queue a = some q) :
    ∃ f : Job → Job, q.jobs = s.queue.jobs.map f ∧ (∀ j, (f j).id = j.id) ∧
      ∀ j ∈ s.queue.jobs, outstanding (f j) = true → outstanding j = true := by
  cases rows_of_step hstep with
  | same quiet rows =>
    exact ⟨id, by rw [rows, List.map_id], fun _ => rfl, fun _ _ h => h⟩
  | queued id action => rw [action] at ha; cases ha
  | claimed r limit worker locked batch action pending rows =>
    refine ⟨_, rows, fun j => by split <;> rfl, fun j hj hout => ?_⟩
    split at hout
    · rename_i hmem
      obtain ⟨k, hk, hid, hp⟩ := pending j.id hmem
      obtain rfl : k = j := List.inj_on_of_nodup_map h.nodup hk hj hid
      exact outstanding_iff.mpr (.inl hp)
    · exact hout
  | driven r outcome worker l rest action run rows =>
    rw [action] at hstep
    refine ⟨_, rows, fun j => ?_, fun j hj hout => ?_⟩
    · split
      · exact write_id j outcome
      · rfl
    · split at hout
      · rw [not_outstanding_write (possible_of_drive hstep)] at hout
        cases hout
      · exact hout
  | reaped older cap action rows =>
    exact ⟨_, rows, reap_id _ _ _, fun j _ hout => outstanding_of_reap hout⟩

theorem Inv.work (h : Inv s) (ha : inserts a = false)
    (hstep : Queue.step .assessment s.queue a = some q) : Inv { s with queue := q } := by
  obtain ⟨f, hrows, hid, hout⟩ := rewritten_of_work h ha hstep
  refine ⟨?_, ?_, h.proposalIds, h.proposals⟩
  · show q.jobs.map Job.id = List.range q.jobs.length
    rw [hrows, List.map_map, List.length_map, ← h.jobIds]
    exact List.map_congr_left fun j _ => hid j
  · show Exclusive _ q.jobs
    rw [hrows]
    refine h.jobs.rewrite fun j hj k hk => ?_
    obtain ⟨hproposal, hruns⟩ := of_decide_eq_true (slot_eq_some.mp hk)
    refine slot_eq_some.mpr (decide_eq_true ⟨?_, hout j hj hruns⟩)
    rw [← hid j]
    exact hproposal

/-- **Step lemma.** -/
theorem inv_step (s : Sys) (a : Action) (s' : Sys) (h : Inv s) (hstep : step s a = some s') :
    Inv s' := by
  cases a with
  | edit tables =>
    cases hstep
    exact ⟨h.jobIds, h.jobs, h.proposalIds, h.proposals⟩
  | enqueueControl assessmentId controlIdentifier =>
    simp only [step] at hstep
    split at hstep
    · rename_i s₁ i hok
      cases hstep
      obtain ⟨r, hr, hqueue⟩ := enqueueControl_eq_ok h hok
      have hinv := ((h.opened hr).queueJob r.2).1
      rwa [← hqueue] at hinv
    · cases hstep
      exact h
  | enqueueReevaluation poamId ref org =>
    by_cases hq : Qualifies s ref org
    · obtain ⟨r, s₁, i, hr, hqueue, hok⟩ := enqueueReevaluation_qualified h poamId hq
      have hinv := ((h.opened hr).queueJob r.2).1
      simp only [step, hok] at hstep
      cases hstep
      rwa [hqueue] at hinv
    · simp only [step, enqueueReevaluation_declined hq] at hstep
      cases hstep
      exact h
  | work a =>
    simp only [step] at hstep
    split at hstep
    · cases hstep
    · rename_i ha
      obtain ⟨q, hq, rfl⟩ := Option.map_eq_some_iff.mp hstep
      exact h.work (Bool.not_eq_true _ ▸ ha) hq

end Working

/-! ## Requests -/

/-- The step settles the job: it writes an outcome to it, or dead-letters it. -/
def Settles (i : Nat) (s : Sys) : Action → Prop
  | .work (.drive r _) => ∃ worker l rest, s.queue.runs r = some ⟨worker, l :: rest⟩ ∧ l.job = i
  | .work (.reap older cap) => ∃ j ∈ s.queue.jobs, j.id = i ∧
      j.stale (threshold s.queue.now older) = true ∧ cap ≤ j.attempts
  | _ => False

section Requests

variable {s s' : Sys} {q : Queue.Sys} {i n : Nat}

theorem Runs.queueJob (h : Runs s n i) (hs : Inv s) (p : Proposal) :
    Runs (queueJob p s).1 n i := by
  unfold Reevaluation.queueJob
  split
  · exact h
  · obtain ⟨j, hj, hid, hruns⟩ := h
    refine ⟨j, List.mem_append_left _ hj, hid, slot_eq_some.mp ?_⟩
    rw [slot_insertJob (hs.jobId_lt hj)]
    exact slot_eq_some.mpr hruns

theorem Runs.of_map {f : Job → Job} (h : Runs s n i) (hrows : q.jobs = s.queue.jobs.map f)
    (hid : ∀ j, (f j).id = j.id)
    (hout : ∀ j ∈ s.queue.jobs, j.id = i → outstanding j = true → outstanding (f j) = true) :
    Runs { s with queue := q } n i := by
  obtain ⟨j, hj, hji, hruns⟩ := h
  obtain ⟨hproposal, houtstanding⟩ := of_decide_eq_true hruns
  refine ⟨f j, ?_, (hid j).trans hji, decide_eq_true ⟨?_, hout j hj hji houtstanding⟩⟩
  · show f j ∈ q.jobs
    rw [hrows]
    exact List.mem_map_of_mem hj
  · rw [hid j]
    exact hproposal

theorem Runs.work (h : Runs s n i) {a : Queue.Action} (ha : inserts a = false)
    (hsettles : ¬ Settles i s (.work a))
    (hstep : Queue.step .assessment s.queue a = some q) : Runs { s with queue := q } n i := by
  cases rows_of_step hstep with
  | same quiet rows =>
    exact h.of_map (rows.trans (List.map_id _).symm) (fun _ => rfl) fun _ _ _ hout => hout
  | queued id action => rw [action] at ha; cases ha
  | claimed r limit worker locked batch action pending rows =>
    refine h.of_map rows (fun j => by split <;> rfl) fun j _ _ hout => ?_
    split
    · rfl
    · exact hout
  | driven r outcome worker l rest action run rows =>
    rw [action] at hsettles
    refine h.of_map rows (fun j => ?_) fun j _ hji hout => ?_
    · split
      · exact write_id j outcome
      · rfl
    · rw [if_neg fun hl => hsettles ⟨worker, l, rest, run, hl.symm.trans hji⟩]
      exact hout
  | reaped older cap action rows =>
    rw [action] at hsettles
    refine h.of_map rows (reap_id _ _ _) fun j hj hji hout => ?_
    unfold Job.reap
    split
    · rename_i hstale
      rw [if_pos (not_le.mp fun hcap => hsettles ⟨j, hj, hji, hstale, hcap⟩)]
      rfl
    · exact hout

/-- **A job that is going to run** does, until a worker settles it. -/
theorem Runs.step (h : Runs s n i) (hs : Inv s) {a : Action} (hsettles : ¬ Settles i s a)
    (hstep : step s a = some s') : Runs s' n i := by
  cases a with
  | edit tables =>
    cases hstep
    exact h
  | enqueueControl assessmentId controlIdentifier =>
    simp only [Reevaluation.step] at hstep
    split at hstep
    · rename_i s₁ j hok
      cases hstep
      obtain ⟨r, hr, hqueue⟩ := enqueueControl_eq_ok hs hok
      have hruns : Runs { s with proposals := r.1 } n i := h
      have hlater := hruns.queueJob (hs.opened hr) r.2
      rwa [← hqueue] at hlater
    · cases hstep
      exact h
  | enqueueReevaluation poamId ref org =>
    by_cases hq : Qualifies s ref org
    · obtain ⟨r, s₁, j, hr, hqueue, hok⟩ := enqueueReevaluation_qualified hs poamId hq
      have hruns : Runs { s with proposals := r.1 } n i := h
      have hlater := hruns.queueJob (hs.opened hr) r.2
      simp only [Reevaluation.step, hok] at hstep
      cases hstep
      rwa [hqueue] at hlater
    · simp only [Reevaluation.step, enqueueReevaluation_declined hq] at hstep
      cases hstep
      exact h
  | work a =>
    simp only [Reevaluation.step] at hstep
    split at hstep
    · cases hstep
    · rename_i ha
      obtain ⟨q, hq, rfl⟩ := Option.map_eq_some_iff.mp hstep
      exact h.work (Bool.not_eq_true _ ▸ ha) hsettles hq

theorem proposals_of_step (hs : Inv s) {a : Action} (hstep : step s a = some s') :
    s.proposals ⊆ s'.proposals := by
  cases a with
  | edit tables =>
    cases hstep
    exact List.Subset.refl _
  | enqueueControl assessmentId controlIdentifier =>
    simp only [Reevaluation.step] at hstep
    split at hstep
    · rename_i s₁ j hok
      cases hstep
      obtain ⟨r, hr, hqueue⟩ := enqueueControl_eq_ok hs hok
      have hsame := ((hs.opened hr).queueJob r.2).2.2
      rw [← hqueue] at hsame
      exact hsame ▸ hr.keeps
    · cases hstep
      exact List.Subset.refl _
  | enqueueReevaluation poamId ref org =>
    by_cases hq : Qualifies s ref org
    · obtain ⟨r, s₁, j, hr, hqueue, hok⟩ := enqueueReevaluation_qualified hs poamId hq
      have hsame := ((hs.opened hr).queueJob r.2).2.2
      simp only [Reevaluation.step, hok] at hstep
      cases hstep
      rw [hqueue] at hsame
      exact hsame ▸ hr.keeps
    · simp only [Reevaluation.step, enqueueReevaluation_declined hq] at hstep
      cases hstep
      exact List.Subset.refl _
  | work a =>
    simp only [Reevaluation.step] at hstep
    split at hstep
    · cases hstep
    · obtain ⟨q, -, rfl⟩ := Option.map_eq_some_iff.mp hstep
      exact List.Subset.refl _

end Requests

/-! ## Runs -/

/-- No key has two rows: one job of a proposal is going to run, a POA&M has one
re-evaluation, and the control of an assessment one first pass. -/
structure OneEach (s : Sys) : Prop where
  ids : (s.proposals.map Proposal.id).Nodup
  jobs : ∀ n, (s.queue.jobs.filter (s.runs n)).length ≤ 1
  reevaluations : ∀ poamId, (s.proposals.filter (isReevaluation poamId)).length ≤ 1
  firstPass : ∀ a c, (s.proposals.filter (isFirstPass a c)).length ≤ 1

/-- A request made in `s` has its job there, and one that still runs at the end of the run
or that a step of it has settled. -/
def Served (poamId : Nat) (s : Sys) (as : List Action) (t : Sys) : Prop :=
  ∃ p ∈ t.proposals, p.sourcePoamId = some poamId ∧ ∃ i, Runs s p.id i ∧
    (Runs t p.id i ∨ ∃ bs a cs u, as = bs ++ a :: cs ∧ exec step s bs = some u ∧
      Runs u p.id i ∧ Settles i u a)

theorem length_le_one {α κ : Type} {slot : α → Option κ} {rows : List α} {q : α → Bool} {k : κ}
    (h : Exclusive slot rows) (hq : ∀ a, q a = true → slot a = some k) :
    (rows.filter q).length ≤ 1 := by
  rcases h.lookup fun a _ ha => hq a ha with hnil | ⟨a, hone⟩
  · rw [hnil]
    exact Nat.zero_le 1
  · rw [hone]
    exact Nat.le_refl 1

theorem Inv.oneEach {s : Sys} (h : Inv s) : OneEach s where
  ids := h.proposalIds ▸ List.nodup_range
  jobs _ := length_le_one h.jobs fun _ => slot_eq_some.mpr
  reevaluations _ := length_le_one h.proposals fun _ => slot_reevaluation.mpr
  firstPass _ _ := length_le_one h.proposals fun _ => slot_firstPass.mpr

theorem runs_or_settled {s t : Sys} {as : List Action} {n i : Nat} (hs : Inv s)
    (h : Runs s n i) (hrun : exec step s as = some t) :
    Runs t n i ∨ ∃ bs a cs u, as = bs ++ a :: cs ∧ exec step s bs = some u ∧ Runs u n i ∧
      Settles i u a := by
  by_cases ht : Runs t n i
  · exact .inl ht
  · obtain ⟨bs, a, cs, u, v, heq, hbs, hstep, hu, hv⟩ :=
      exec_turns (P := fun s => ¬ Runs s n i) hrun (not_not.mpr h) ht
    refine .inr ⟨bs, a, cs, u, heq, hbs, not_not.mp hu, ?_⟩
    by_contra hsettles
    exact hv ((not_not.mp hu).step (exec_invariant inv_step hs hbs) hsettles hstep)

/-- **One outstanding job a proposal, one re-evaluation a POA&M**, in every state that a
run reaches; and a request is there until it is settled. -/
theorem one_outstanding {tables : Tables} {now : Int} {as : List Action} {t : Sys}
    (hrun : exec step (start tables now) as = some t) :
    OneEach t ∧ ∀ bs poamId ref org cs u v,
      as = bs ++ .enqueueReevaluation poamId ref org :: cs →
      exec step (start tables now) bs = some u → Qualifies u ref org →
      step u (.enqueueReevaluation poamId ref org) = some v → Served poamId v cs t := by
  refine ⟨(exec_invariant inv_step (inv_start tables now) hrun).oneEach, ?_⟩
  rintro bs poamId ref org cs u v rfl hbs hq hv
  have hu := exec_invariant inv_step (inv_start tables now) hbs
  obtain ⟨u', hu', hrest⟩ := exec_append_eq_some.mp hrun
  obtain rfl : u = u' := Option.some.inj (hbs.symm.trans hu')
  obtain ⟨v', hv', hcs⟩ := exec_cons_eq_some.mp hrest
  obtain rfl : v = v' := Option.some.inj (hv.symm.trans hv')
  obtain ⟨r, s₁, i, hr, hqueue, hok⟩ := enqueueReevaluation_qualified hu poamId hq
  obtain ⟨hinv, hruns, hsame⟩ := (hu.opened hr).queueJob r.2
  simp only [step, hok] at hv
  cases hv
  rw [hqueue] at hinv hruns hsame
  have hproposal : r.2 ∈ t.proposals := by
    refine exec_invariant (I := fun s => Inv s ∧ r.2 ∈ s.proposals) (fun s a s' hs h => ?_)
      ⟨hinv, hsame ▸ hr.mem⟩ hcs |>.2
    exact ⟨inv_step s a s' hs.1 h, proposals_of_step hs.1 h hs.2⟩
  have hsource : r.2.sourcePoamId = some poamId := by
    have hslot := slot_reevaluation.mp hr.slot
    exact of_decide_eq_true hslot
  exact ⟨r.2, hproposal, hsource, i, hruns, runs_or_settled hinv hruns hcs⟩

/-- POA&M 3 is closed, and closed again while its job is claimed. -/
theorem one_outstanding_closed_twice :
    let tables : Tables := ⟨fun a => if a = 1 then some 7 else none, [⟨5, 1, "AC-2".toList⟩]⟩
    let close : Action := .enqueueReevaluation 3 "assessment_control_result:5".toList 7
    let before : List Action := [close, .work (.claim 0 ['w'] 1 [] [0])]
    let after : List Action := [.work (.drive 0 .done), close]
    ∃ v t, exec step (start tables 0) (before ++ [close]) = some v ∧
      exec step (start tables 0) (before ++ close :: after) = some t ∧
      t.queue.jobs.map (fun j => j.status) = [.done, .pending] ∧ OneEach t ∧
      Served 3 v after t := by
  intro tables close before after
  refine ⟨_, _, rfl, rfl, rfl, ?_⟩
  have h := one_outstanding (t := _) (show exec step (start tables 0) (before ++ close :: after) =
    some _ from rfl)
  exact ⟨h.1, h.2 before 3 _ 7 after _ _ rfl rfl ⟨_, rfl, rfl⟩ rfl⟩

end Concord.Assessment.Reevaluation
