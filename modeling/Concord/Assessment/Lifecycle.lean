import Concord.Base.Run
import Concord.Queue.Jobs
import Concord.Queue.Workers
import Concord.Assessment.Acceptance

/-!
# The life of a control proposal

The five code paths that write a proposal's state, as one transition system:
`enqueue_control` (`ccf/assessment/engine/jobs.py`) opens it and queues a job,
`claim_jobs` claims one, `run_once` drives it to an evaluation or to a failure, and
an assessor accepts or rejects. The catalog changes in between. Operations are
serial; one that is refused leaves everything as it was.

Two results about its runs:

- `accept_covers_iff`: what an acceptance covers, in every reachable state;
- `decision_terminal_iff`: a run keeps an accepted proposal accepted exactly where
  no worker drives a job of it afterwards. Neither the evaluation nor the failure
  path of `run_once` looks at the proposal's state, and `enqueue_control` queues a
  job for a proposal in any state.
-/

namespace Concord.Assessment

open Concord.Base Concord.Python Concord.Queue

namespace Lifecycle

/-- One proposal with its objective rows, its jobs, the catalog, and the control
result an acceptance has written from it. -/
structure Sys where
  catalog : List Control
  proposal : Option ControlProposal
  rows : List ObjectiveProposal
  jobs : List Job
  result : Option ControlResult

inductive Action
  | enqueueControl (controlIdentifier : Text) (now : Int)
  | claim (worker : Text) (now : Int) (limit : Nat) (locked : List Nat)
  /-- a claimed job is driven, and its evaluation returns -/
  | evaluate (job : Nat) (settings : Settings) (answer : Objective → Answers)
  /-- a claimed job is driven, and raises -/
  | fail (job : Nat) (error : Text)
  | changeCatalog (catalog : List Control)
  | accept (limit : Int) (acceptedBy : Text)
  | reject (rejectedBy : Text) (correctedFinding : Option Finding) (note : Text)

def Action.drives : Action → Bool
  | .evaluate .. => true
  | .fail .. => true
  | _ => false

def start (catalog : List Control) : Sys where
  catalog := catalog
  proposal := none
  rows := []
  jobs := []
  result := none

/-- `_OUTSTANDING_JOB_STATUSES`. -/
def outstanding (j : Job) : Bool := j.status = .pending ∨ j.status = .claimed

/-- A new job, unless one is going to run already. -/
def queueJob (now : Int) (jobs : List Job) : List Job :=
  if jobs.any outstanding then jobs else jobs ++ [Job.new jobs.length now]

/-- `enqueue_control`: `open_control_proposal`, and a job. -/
def enqueueControl (controlIdentifier : Text) (now : Int) (s : Sys) : Option Sys :=
  let canonical := normalizeControlIdentifier controlIdentifier
  match s.proposal with
  | none =>
    some { s with proposal := some (.new canonical), jobs := queueJob now s.jobs }
  | some p =>
    if p.controlIdentifier = canonical then some { s with jobs := queueJob now s.jobs }
    else none

def Sys.claimed (s : Sys) (job : Nat) : Bool :=
  s.jobs.any fun j => j.id = job ∧ j.status = .claimed

def Sys.writeJob (s : Sys) (job : Nat) (o : Driven) : List Job :=
  s.jobs.map fun j => if j.id = job then j.write o else j

variable (intOf : IntOf)

def step (s : Sys) : Action → Option Sys
  | .enqueueControl controlIdentifier now => enqueueControl controlIdentifier now s
  | .claim worker now limit locked =>
    some { s with jobs := claimJobs worker now (candidates locked limit s.jobs) s.jobs }
  | .evaluate job settings answer =>
    match s.proposal with
    | none => none
    | some p =>
      if s.claimed job then
        match evaluateControlProposal settings intOf answer s.catalog p with
        | .error _ => none
        | .ok (q, rows) =>
          some { s with proposal := some q, rows := rows, jobs := s.writeJob job .done }
      else none
  | .fail job error =>
    match s.proposal with
    | none => none
    | some p =>
      if s.claimed job then
        some { s with
          proposal :=
            some { p with state := .failed, error := some (truncateLastError error) }
          jobs := s.writeJob job (.raised error) }
      else none
  | .changeCatalog catalog => some { s with catalog := catalog }
  | .accept limit acceptedBy =>
    match s.proposal with
    | none => some s
    | some p =>
      match acceptControlProposal limit s.catalog p s.rows acceptedBy with
      | .error _ => some s
      | .ok (q, result) => some { s with proposal := some q, result := some result }
  | .reject rejectedBy correctedFinding note =>
    match s.proposal with
    | none => some s
    | some p =>
      match rejectControlProposal p rejectedBy correctedFinding note with
      | .error _ => some s
      | .ok q => some { s with proposal := some q }

/-! ## What one step does to the proposal -/

/-- The ways a step touches the proposal, its rows and the result. -/
inductive Effect (s : Sys) (a : Action) (s' : Sys) : Prop
  | keeps (proposal : s'.proposal = s.proposal) (rows : s'.rows = s.rows)
      (result : s'.result = s.result) (quiet : a.drives = false)
  | opens (canonical : Text) (none : s.proposal = none)
      (proposal : s'.proposal = some (.new canonical)) (rows : s'.rows = s.rows)
      (result : s'.result = s.result) (quiet : a.drives = false)
  | evaluates (job : Nat) (settings : Settings) (answer : Objective → Answers)
      (p q : ControlProposal) (action : a = .evaluate job settings answer)
      (before : s.proposal = some p) (after : s'.proposal = some q)
      (evaluation : evaluateControlProposal settings intOf answer s.catalog p =
        .ok (q, s'.rows)) (result : s'.result = s.result)
  | fails (job : Nat) (error : Text) (p : ControlProposal) (action : a = .fail job error)
      (before : s.proposal = some p)
      (after : s'.proposal =
        some { p with state := .failed, error := some (truncateLastError error) })
      (rows : s'.rows = s.rows) (result : s'.result = s.result)
  | accepts (limit : Int) (acceptedBy : Text) (p q : ControlProposal) (r : ControlResult)
      (before : s.proposal = some p) (after : s'.proposal = some q)
      (acceptance : acceptControlProposal limit s.catalog p s.rows acceptedBy =
        .ok (q, r)) (rows : s'.rows = s.rows) (result : s'.result = some r)
      (quiet : a.drives = false)
  | rejects (p q : ControlProposal) (rejectedBy note : Text) (finding : Option Finding)
      (before : s.proposal = some p) (after : s'.proposal = some q)
      (rejection : rejectControlProposal p rejectedBy finding note = .ok q)
      (rows : s'.rows = s.rows) (result : s'.result = s.result) (quiet : a.drives = false)

variable {intOf}

theorem effect_of_step {s s' : Sys} {a : Action} (h : step intOf s a = some s') :
    Effect intOf s a s' := by
  cases a with
  | enqueueControl controlIdentifier now =>
    simp only [step, enqueueControl] at h
    cases hp : s.proposal with
    | none =>
      rw [hp] at h
      cases h
      exact .opens _ hp rfl rfl rfl rfl
    | some p =>
      rw [hp] at h
      simp only at h
      split at h
      · cases h
        exact .keeps hp.symm rfl rfl rfl
      · cases h
  | claim worker now limit locked =>
    cases h
    exact .keeps rfl rfl rfl rfl
  | evaluate job settings answer =>
    simp only [step] at h
    split at h
    · cases h
    · rename_i p hp
      split at h
      · split at h
        · cases h
        · rename_i q rows hev
          cases h
          exact .evaluates job settings answer p q rfl hp rfl hev rfl
      · cases h
  | fail job error =>
    simp only [step] at h
    split at h
    · cases h
    · rename_i p hp
      split at h
      · cases h
        exact .fails job error p rfl hp rfl rfl rfl
      · cases h
  | changeCatalog catalog =>
    cases h
    exact .keeps rfl rfl rfl rfl
  | accept limit acceptedBy =>
    simp only [step] at h
    split at h
    · cases h
      exact .keeps rfl rfl rfl rfl
    · rename_i p hp
      split at h
      · cases h
        exact .keeps rfl rfl rfl rfl
      · rename_i q r hacc
        cases h
        exact .accepts limit acceptedBy p q r hp rfl hacc rfl rfl rfl
  | reject rejectedBy finding note =>
    simp only [step] at h
    split at h
    · cases h
      exact .keeps rfl rfl rfl rfl
    · rename_i p hp
      split at h
      · cases h
        exact .keeps rfl rfl rfl rfl
      · rename_i q hrej
        cases h
        exact .rejects p q rejectedBy note finding hp rfl hrej rfl rfl rfl

/-! ## Decisions are terminal -/

def Sys.accepted (s : Sys) : Prop := ∃ p, s.proposal = some p ∧ p.state = .accepted

/-- No worker drives a job of an accepted proposal. -/
def LeavesAccepted (s : Sys) (a : Action) : Prop := s.accepted → a.drives = false

/-- **Human decisions are terminal** along a run: an accepted proposal stays
accepted, and no state holds a rejected or failed proposal beside the result
written from it. -/
structure Terminal (intOf : IntOf) (s₀ : Sys) (as : List Action) : Prop where
  stays : ∀ bs cs s u, (bs ++ cs) <+: as → exec (step intOf) s₀ bs = some s →
    s.accepted → exec (step intOf) s cs = some u → u.accepted
  stands : ∀ bs u, bs <+: as → exec (step intOf) s₀ bs = some u → u.result ≠ none →
    ∃ p, u.proposal = some p ∧ p.state ≠ .rejected ∧ p.state ≠ .failed

theorem accepted_of_step {s s' : Sys} {a : Action} (hs : s.accepted)
    (ha : LeavesAccepted s a) (h : step intOf s a = some s') : s'.accepted := by
  obtain ⟨p, hp, hstate⟩ := hs
  have hquiet := ha ⟨p, hp, hstate⟩
  cases effect_of_step h with
  | keeps proposal => exact ⟨p, proposal.trans hp, hstate⟩
  | opens canonical none =>
    rw [hp] at none
    cases none
  | evaluates job settings answer p q action =>
    rw [action] at hquiet
    cases hquiet
  | fails job error p action =>
    rw [action] at hquiet
    cases hquiet
  | accepts limit acceptedBy p q r before after acceptance =>
    exact ⟨q, after, (accept_eq_ok acceptance).2.2.2⟩
  | rejects p' q rejectedBy note finding before after rejection =>
    rw [hp, Option.some.injEq] at before
    exact absurd (before ▸ hstate) (reject_eq_ok rejection).1

/-- A result stands beside the accepted proposal it was written from. -/
def ResultStands (s : Sys) : Prop := s.result ≠ none → s.accepted

theorem resultStands_of_step (s : Sys) (a : Action) (s' : Sys) (hs : ResultStands s)
    (ha : LeavesAccepted s a) (h : step intOf s a = some s') : ResultStands s' := by
  intro hresult
  cases effect_of_step h with
  | accepts limit acceptedBy p q r before after acceptance =>
    exact ⟨q, after, (accept_eq_ok acceptance).2.2.2⟩
  | keeps proposal rows result => exact accepted_of_step (hs (result ▸ hresult)) ha h
  | opens canonical none proposal rows result =>
    exact accepted_of_step (hs (result ▸ hresult)) ha h
  | evaluates job settings answer p q action before after evaluation result =>
    exact accepted_of_step (hs (result ▸ hresult)) ha h
  | fails job error p action before after rows result =>
    exact accepted_of_step (hs (result ▸ hresult)) ha h
  | rejects p q rejectedBy note finding before after rejection rows result =>
    exact accepted_of_step (hs (result ▸ hresult)) ha h

theorem not_accepted_of_drives {s s' : Sys} {a : Action} (ha : a.drives = true)
    (h : step intOf s a = some s') : ¬ s'.accepted := by
  rintro ⟨p', hp', hstate⟩
  cases effect_of_step h with
  | evaluates job settings answer p q action before after evaluation =>
    obtain ⟨-, -, -, -, -, -, -, hq, -⟩ := evaluateControlProposal_eq_ok evaluation
    rw [after, Option.some.injEq] at hp'
    rw [← hp', hq] at hstate
    cases hstate
  | fails job error p action before after =>
    rw [after, Option.some.injEq] at hp'
    rw [← hp'] at hstate
    cases hstate
  | keeps _ _ _ quiet => exact Bool.false_ne_true (quiet.symm.trans ha)
  | opens _ _ _ _ _ quiet => exact Bool.false_ne_true (quiet.symm.trans ha)
  | accepts _ _ _ _ _ _ _ _ _ _ quiet => exact Bool.false_ne_true (quiet.symm.trans ha)
  | rejects _ _ _ _ _ _ _ _ _ _ quiet => exact Bool.false_ne_true (quiet.symm.trans ha)

/-- **When decisions are terminal.** -/
theorem decision_terminal_iff {catalog : List Control} {as : List Action} {t : Sys}
    (hrun : exec (step intOf) (start catalog) as = some t) :
    Terminal intOf (start catalog) as ↔
      Guarded (step intOf) LeavesAccepted (start catalog) as := by
  constructor
  · intro hterm
    refine guarded_iff.mpr fun bs a cs u heq hu hacc => ?_
    by_contra hdrives
    rw [heq, exec_append_eq_some] at hrun
    obtain ⟨u', hu', hrest⟩ := hrun
    obtain rfl : u = u' := Option.some.inj (hu.symm.trans hu')
    obtain ⟨v, hv, -⟩ := exec_cons_eq_some.mp hrest
    have hpre : (bs ++ [a]) <+: as := ⟨cs, by rw [heq, List.append_assoc]; rfl⟩
    have hlast : exec (step intOf) u [a] = some v :=
      exec_cons_eq_some.mpr ⟨v, hv, rfl⟩
    exact not_accepted_of_drives (Bool.not_eq_false _ ▸ hdrives) hv
      (hterm.stays bs [a] u v hpre hu hacc hlast)
  · intro hguard
    constructor
    · rintro bs cs s u ⟨ds, rfl⟩ hs hacc hu
      exact guarded_invariant (I := Sys.accepted)
        (fun s a s' hs ha h => accepted_of_step hs ha h) hacc
        (hguard.take.drop hs) hu
    · rintro bs u ⟨ds, rfl⟩ hu hresult
      have hstands := guarded_invariant (I := ResultStands) resultStands_of_step
        (fun hne => absurd rfl hne) hguard.take hu
      obtain ⟨p, hp, hstate⟩ := hstands hresult
      refine ⟨p, hp, ?_, ?_⟩ <;> rw [hstate] <;> exact fun h => nomatch h

/-! ## Runs of one proposal -/

def controlAc2 : Text := ['A', 'C', '-', '2']

def oneObjective : List Control := [subClause 1 ['a'] ['x']]

def evaluated : List Action :=
  [.enqueueControl controlAc2 0, .claim ['w'] 1 10 [],
   .evaluate 0 ⟨false, 200⟩ fun _ => answered .satisfied none]

/-- A second request for the control of an accepted proposal: another evaluation,
and then the rejection that `accepted` was to rule out. -/
def acceptedThenRejected : List Action :=
  evaluated ++
    [.accept 200 ['h'], .enqueueControl controlAc2 2, .claim ['w'] 3 10 [],
     .evaluate 1 ⟨false, 200⟩ fun _ => answered .satisfied none,
     .reject ['h'] (some .otherThanSatisfied) ['n']]

theorem decision_terminal_iff_accepted :
    ∃ t, exec (step natIntOf) (start oneObjective) (evaluated ++ [.accept 200 ['h']]) =
        some t ∧
      (Terminal natIntOf (start oneObjective) (evaluated ++ [.accept 200 ['h']]) ↔
        Guarded (step natIntOf) LeavesAccepted (start oneObjective)
          (evaluated ++ [.accept 200 ['h']])) := by
  have hrun : (exec (step natIntOf) (start oneObjective)
      (evaluated ++ [.accept 200 ['h']])).isSome = true := by decide +kernel
  obtain ⟨t, ht⟩ := Option.isSome_iff_exists.mp hrun
  exact ⟨t, ht, decision_terminal_iff ht⟩

/-- A rejected proposal beside the result written from it. -/
theorem not_terminal_of_second_evaluation :
    ¬ Terminal natIntOf (start oneObjective) acceptedThenRejected := by
  have hrun : (exec (step natIntOf) (start oneObjective) acceptedThenRejected).map
      (fun t => (t.proposal.map ControlProposal.state, t.result.isSome)) =
      some (some .rejected, true) := by decide +kernel
  obtain ⟨t, ht, hend⟩ := Option.map_eq_some_iff.mp hrun
  rw [Prod.mk.injEq] at hend
  intro hterm
  obtain ⟨p, hp, hne, -⟩ := hterm.stands acceptedThenRejected t (List.prefix_refl _) ht
    (Option.isSome_iff_ne_none.mp hend.2)
  rw [hp] at hend
  exact hne (Option.some.inj hend.1)

/-! ## What an acceptance covers -/

/-- A complete proposal's finding is the rollup of its rows' verdicts. -/
def Backed (p : ControlProposal) (rows : List ObjectiveProposal) : Prop :=
  ∃ verdicts failed r, rollUp verdicts failed = .ok r ∧
    p.proposedFinding = some r.finding ∧
    (failed = 0 → rows.map ObjectiveProposal.verdict = verdicts.map some)

theorem map_verdict_zipWith {os : List Objective} {es : List ObjectiveEvaluation}
    (h : os.length = es.length) :
    (List.zipWith Objective.row os es).map ObjectiveProposal.verdict =
      (es.map ObjectiveEvaluation.verdict).map some := by
  induction os generalizing es with
  | nil =>
    rw [List.length_nil] at h
    rw [List.eq_nil_of_length_eq_zero h.symm]
    rfl
  | cons o os ih =>
    cases es with
    | nil => cases h
    | cons e es =>
      simp only [List.zipWith_cons_cons, List.map_cons]
      rw [ih (Nat.succ.inj h)]
      rfl

theorem backed_of_evaluation {settings : Settings} {answer : Objective → Answers}
    {catalog : List Control} {p q : ControlProposal} {rows : List ObjectiveProposal}
    (h : evaluateControlProposal settings intOf answer catalog p = .ok (q, rows)) :
    Backed q rows := by
  obtain ⟨os, t, r, -, ht, hroll, hrows, -, -, hfinding, -⟩ :=
    evaluateControlProposal_eq_ok h
  refine ⟨t.verdicts, t.failed, r, hroll, hfinding, fun h0 => ?_⟩
  have hadds : Adds settings intOf answer ⟨[], [], 0, 0⟩
      (os.foldl (evaluateOne settings intOf answer) ⟨[], [], 0, 0⟩) os := tally_spec os _
  rw [← ht] at hadds
  obtain ⟨es, hmap, hrows', hverdicts, -⟩ := hadds.clean (by exact_mod_cast h0)
  have hlen : os.length = es.length := by
    have := congrArg List.length hmap
    rwa [List.length_map, List.length_map] at this
  rw [hrows, hrows', hverdicts, List.nil_append, List.nil_append, map_verdict_zipWith hlen]

def BackedState (s : Sys) : Prop :=
  ∀ p, s.proposal = some p → p.state = .complete → Backed p s.rows

theorem backed_of_step (s : Sys) (a : Action) (s' : Sys) (hs : BackedState s)
    (h : step intOf s a = some s') : BackedState s' := by
  intro p' hp' hstate
  cases effect_of_step h with
  | keeps proposal rows =>
    rw [rows]
    exact hs p' (proposal ▸ hp') hstate
  | opens canonical none proposal =>
    rw [proposal, Option.some.injEq] at hp'
    rw [← hp'] at hstate
    cases hstate
  | evaluates job settings answer p q action before after evaluation =>
    rw [after, Option.some.injEq] at hp'
    rw [← hp']
    exact backed_of_evaluation evaluation
  | fails job error p action before after =>
    rw [after, Option.some.injEq] at hp'
    rw [← hp'] at hstate
    cases hstate
  | accepts limit acceptedBy p q r before after acceptance =>
    rw [after, Option.some.injEq] at hp'
    rw [← hp', (accept_eq_ok acceptance).2.2.2] at hstate
    cases hstate
  | rejects p q rejectedBy note finding before after rejection =>
    rw [after, Option.some.injEq] at hp'
    rw [← hp', (reject_eq_ok rejection).2] at hstate
    cases hstate

/-- The stored row of a live objective: the same label, the same text. -/
def StoredFor (r : ObjectiveProposal) (o : Objective) : Prop :=
  r.label = o.label ∧ r.objectiveTextSha256 = o.textSha256

/-- **The acceptance covers the live catalog**: the stored pairs of label and hash
are the live ones, and a `satisfied` finding means every live objective was
evaluated satisfied or not applicable, and one satisfied. -/
structure Covers (live : List Objective) (rows : List ObjectiveProposal)
    (finding : Finding) : Prop where
  pairs : ∀ pair : Text × Text,
    pair ∈ rows.map (fun r => (r.label, r.objectiveTextSha256)) ↔
      pair ∈ live.map fun o => (o.label, o.textSha256)
  satisfied : finding = .satisfied →
    (∀ o ∈ live, ∃ r ∈ rows, StoredFor r o ∧
      (r.verdict = some .satisfied ∨ r.verdict = some .notApplicable)) ∧
    ∃ o ∈ live, ∃ r ∈ rows, StoredFor r o ∧ r.verdict = some .satisfied

/-- Every live label is stored, and no label is live with two texts. -/
structure NothingNew (live : List Objective) (rows : List ObjectiveProposal) : Prop where
  stored : ∀ o ∈ live, o.label ∈ rows.map ObjectiveProposal.label
  single : ∀ o ∈ live, ∀ o' ∈ live, o.label = o'.label → o.textSha256 = o'.textSha256

section Coverage

variable {live : List Objective} {rows : List ObjectiveProposal}

theorem exists_live_of_stored (hfresh : rows.any (rowIsStale live) = false)
    {r : ObjectiveProposal} (hr : r ∈ rows) : ∃ o ∈ live, StoredFor r o := by
  obtain ⟨o, ho, hlabel, hhash⟩ :=
    liveHash_eq_some (stored_subset_of_not_stale hfresh hr)
  exact ⟨o, ho, hlabel.symm, hhash.symm⟩

theorem exists_stored_of_live (hfresh : rows.any (rowIsStale live) = false)
    (hnew : NothingNew live rows) {o : Objective} (ho : o ∈ live) :
    ∃ r ∈ rows, StoredFor r o := by
  obtain ⟨r, hr, hlabel⟩ := List.mem_map.mp (hnew.stored o ho)
  obtain ⟨o', ho', hlabel', hhash'⟩ := exists_live_of_stored hfresh hr
  refine ⟨r, hr, hlabel, ?_⟩
  rw [hhash', hnew.single o' ho' o ho (hlabel'.symm.trans hlabel)]

theorem pairs_iff (hfresh : rows.any (rowIsStale live) = false) :
    (∀ pair : Text × Text,
      pair ∈ rows.map (fun r => (r.label, r.objectiveTextSha256)) ↔
        pair ∈ live.map fun o => (o.label, o.textSha256)) ↔ NothingNew live rows := by
  constructor
  · intro hpairs
    have hstored : ∀ o ∈ live, ∃ r ∈ rows, StoredFor r o := by
      intro o ho
      obtain ⟨r, hr, heq⟩ := List.mem_map.mp
        ((hpairs (o.label, o.textSha256)).mpr (List.mem_map.mpr ⟨o, ho, rfl⟩))
      rw [Prod.mk.injEq] at heq
      exact ⟨r, hr, heq⟩
    constructor
    · intro o ho
      obtain ⟨r, hr, hlabel, -⟩ := hstored o ho
      exact List.mem_map.mpr ⟨r, hr, hlabel⟩
    · intro o ho o' ho' hlabel
      obtain ⟨r, hr, hl, hh⟩ := hstored o ho
      obtain ⟨r', hr', hl', hh'⟩ := hstored o' ho'
      -- the rows of one label carry the hash the catalog has last for it
      have hr1 := stored_subset_of_not_stale hfresh hr
      have hr2 := stored_subset_of_not_stale hfresh hr'
      rw [hl, hlabel, ← hl', hr2, Option.some.injEq] at hr1
      rw [← hh, ← hh', hr1]
  · intro hnew pair
    constructor
    · intro hp
      obtain ⟨r, hr, rfl⟩ := List.mem_map.mp hp
      obtain ⟨o, ho, hlabel, hhash⟩ := exists_live_of_stored hfresh hr
      exact List.mem_map.mpr ⟨o, ho, by rw [hlabel, hhash]⟩
    · intro hp
      obtain ⟨o, ho, rfl⟩ := List.mem_map.mp hp
      obtain ⟨r, hr, hlabel, hhash⟩ := exists_stored_of_live hfresh hnew ho
      exact List.mem_map.mpr ⟨r, hr, by rw [hlabel, hhash]⟩

theorem covers_of_nothingNew {p : ControlProposal} {finding : Finding}
    (hfresh : rows.any (rowIsStale live) = false) (hnew : NothingNew live rows)
    (hbacked : Backed p rows) (hfinding : p.proposedFinding = some finding) :
    Covers live rows finding := by
  refine ⟨(pairs_iff hfresh).mpr hnew, fun hsat => ?_⟩
  obtain ⟨verdicts, failed, r, hroll, hr, hrows⟩ := hbacked
  rw [hfinding, hsat, Option.some.injEq] at hr
  obtain ⟨h0, hall, hone⟩ := (finding_satisfied_iff hroll).mp hr.symm
  have hverdicts := hrows h0
  constructor
  · intro o ho
    obtain ⟨row, hrow, hstored⟩ := exists_stored_of_live hfresh hnew ho
    have hmem : row.verdict ∈ verdicts.map some :=
      hverdicts ▸ List.mem_map_of_mem hrow
    obtain ⟨v, hv, hveq⟩ := List.mem_map.mp hmem
    refine ⟨row, hrow, hstored, ?_⟩
    rcases hall v hv with rfl | rfl
    · exact .inl hveq.symm
    · exact .inr hveq.symm
  · have hmem : some Verdict.satisfied ∈ rows.map ObjectiveProposal.verdict :=
      hverdicts ▸ List.mem_map_of_mem hone
    obtain ⟨row, hrow, hveq⟩ := List.mem_map.mp hmem
    obtain ⟨o, ho, hstored⟩ := exists_live_of_stored hfresh hrow
    exact ⟨o, ho, row, hrow, hstored, hveq⟩

end Coverage

/-- **What an acceptance covers**, in every reachable state. -/
theorem accept_covers_iff {catalog : List Control} {as : List Action} {s : Sys}
    (hrun : exec (step intOf) (start catalog) as = some s) {p q : ControlProposal}
    (hp : s.proposal = some p) {limit : Int} {acceptedBy : Text} {result : ControlResult}
    (hacc : acceptControlProposal limit s.catalog p s.rows acceptedBy = .ok (q, result))
    {live : List Objective}
    (hlive : objectivesFor limit s.catalog p.controlIdentifier = .ok live) :
    Covers live s.rows result.finding ↔ NothingNew live s.rows := by
  obtain ⟨⟨live', hlive', hfresh⟩, hstate, hfinding, -⟩ := accept_eq_ok hacc
  obtain rfl : live = live' := Except.ok.inj (hlive.symm.trans hlive')
  have hstart : BackedState (start catalog) := fun p hp => by cases hp
  have hbacked : BackedState s := exec_invariant backed_of_step hstart hrun
  constructor
  · exact fun hcovers => (pairs_iff hfresh).mp hcovers.pairs
  · exact fun hnew => covers_of_nothingNew hfresh hnew (hbacked p hp hstate) hfinding

theorem accept_covers_iff_unchanged :
    ∃ s p q result live, exec (step natIntOf) (start oneObjective) evaluated = some s ∧
      s.proposal = some p ∧
      acceptControlProposal 200 s.catalog p s.rows ['h'] = .ok (q, result) ∧
      (Covers live s.rows result.finding ↔ NothingNew live s.rows) := by
  have hrun : ((exec (step natIntOf) (start oneObjective) evaluated).bind fun s =>
      s.proposal.bind fun p =>
        (acceptControlProposal 200 s.catalog p s.rows ['h']).toOption.bind fun _ =>
          (objectivesFor 200 s.catalog p.controlIdentifier).toOption).isSome = true := by
    decide +kernel
  obtain ⟨live, h⟩ := Option.isSome_iff_exists.mp hrun
  obtain ⟨s, hs, h⟩ := Option.bind_eq_some_iff.mp h
  obtain ⟨p, hp, h⟩ := Option.bind_eq_some_iff.mp h
  obtain ⟨qr, hacc, hlive⟩ := Option.bind_eq_some_iff.mp h
  have hacc' := toOption_eq_some hacc
  exact ⟨s, p, qr.1, qr.2, live, hs, hp, hacc',
    accept_covers_iff hs hp hacc' (toOption_eq_some hlive)⟩

/-- An objective added after the evaluation: the acceptance goes through, and the
`satisfied` finding says nothing of it. -/
theorem accept_misses_new_objective :
    ((exec (step natIntOf) (start oneObjective)
      (evaluated ++ [.changeCatalog twoObjectives, .accept 200 ['h']])).map fun s =>
        (s.result.map ControlResult.finding, s.rows.map ObjectiveProposal.label,
          (objectivesFor 200 s.catalog controlAc2).toOption.map
            (List.map Objective.label))) =
      some (some .satisfied, [['a']], some [['a'], ['b']]) := by
  decide +kernel

end Lifecycle

end Concord.Assessment
