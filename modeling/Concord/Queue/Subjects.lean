import Concord.Queue.Attempts

/-!
# Jobs and what they drive

A job of either queue drives a row of another table: a prep run, or a control proposal. Two
rows have to be moved together, by `_drive_one`, by the handler of `run_once` around it, and
by `reap_stale_jobs`, which sees the jobs alone. A `Line` is a queue with what it drives.

`Attended`: what still waits has exactly one job that is going to run, and what a job has
failed on is marked so. `attended_iff`: so it is throughout a run exactly if no step fails a
job over a subject that is not marked.
-/

namespace Concord.Queue

open Concord.Base Concord.Python

universe u v w

/-- `_OUTSTANDING_JOB_STATUSES`. -/
def Job.outstanding (j : Job) : Bool := j.status = .pending ∨ j.status = .claimed

/-- A queue, and what its jobs drive. -/
structure Line (ρ : Type w) (θ : Type u) (ω : Type v) where
  kind : Kind
  /-- The row a request inserts; `none` where it is refused. -/
  opens : ρ → Option θ
  /-- The row that is found instead of inserting this one. -/
  find : θ → List θ → Option ℕ
  /-- `_drive_one`; `none` where it raises, and is rolled back. -/
  drive : ω → θ → Option (θ × Driven)
  /-- What the handler of an exception makes of the subject. -/
  raised : Text → θ → θ
  /-- It is not finished. -/
  waits : θ → Bool
  failed : θ → Bool

structure LineState (θ : Type u) where
  queue : Sys
  /-- What a job drives. -/
  target : ℕ → ℕ
  subjects : List θ
  /-- For each job that has ended failed, whether its subject was marked so. -/
  failures : List Bool

inductive LineAction (ρ : Type w) (ω : Type v)
  | enqueue (request : ρ)
  /-- The clock, a claim, or the end of a worker. -/
  | work (a : Action)
  | drive (run : ℕ) (w : ω) (error : Text)
  | reap (olderThanMinutes maxAttempts : Int)

def Action.plain : Action → Bool
  | .tick _ | .claim .. | .stop _ => true
  | .enqueue _ | .drive _ _ | .reap _ _ => false

def Job.exhausted (now olderThanMinutes maxAttempts : Int) (j : Job) : Bool :=
  j.stale (threshold now olderThanMinutes) && decide (maxAttempts ≤ j.attempts)

def Driven.fails : Driven → Bool
  | .failed _ | .raised _ => true
  | .done | .pending => false

namespace LineState

variable {θ : Type u}

def start (now : Int) : LineState θ := ⟨Queue.start now, fun _ => 0, [], []⟩

def serves (s : LineState θ) (i : ℕ) (j : Job) : Bool := s.target j.id = i ∧ j.outstanding = true

def insertJob (s : LineState θ) (i : ℕ) : LineState θ :=
  { s with
    queue := { s.queue with jobs := s.queue.jobs ++ [Job.new s.queue.jobs.length s.queue.now] }
    target := fun k => if k = s.queue.jobs.length then i else s.target k }

end LineState

namespace Line

variable {ρ : Type w} {θ : Type u} {ω : Type v} (L : Line ρ θ ω)

/-- The subject after a drive, and the outcome of the job. -/
def outcome (w : ω) (error : Text) (t : θ) : θ × Driven :=
  (L.drive w t).getD (L.raised error t, .raised error)

def step (s : LineState θ) : LineAction ρ ω → Option (LineState θ)
  | .enqueue request =>
    match L.opens request with
    | none => some s
    | some t =>
      match L.find t s.subjects with
      | some i => if s.queue.jobs.any (s.serves i) then some s else some (s.insertJob i)
      | none =>
        some ({ s with subjects := s.subjects ++ [t] }.insertJob s.subjects.length)
  | .work a =>
    if a.plain then (Queue.step L.kind s.queue a).map fun q => { s with queue := q } else none
  | .drive r w error =>
    match s.queue.runs r with
    | some ⟨_, l :: _⟩ =>
      (s.subjects[s.target l.job]?).bind fun t =>
        let o := L.outcome w error t
        (Queue.step L.kind s.queue (.drive r o.2)).map fun q =>
          { s with
            queue := q
            subjects := s.subjects.set (s.target l.job) o.1
            failures := s.failures ++ if o.2.fails then [L.failed o.1] else [] }
    | _ => none
  | .reap older cap =>
    (Queue.step L.kind s.queue (.reap older cap)).map fun q =>
      { s with
        queue := q
        failures := s.failures ++ (s.queue.jobs.filter (Job.exhausted s.queue.now older cap)).map
          fun j => (s.subjects[s.target j.id]?).any L.failed }

/-! ## Nothing is stranded -/

/-- What waits has exactly one job that is going to run, and what a job has failed on is
marked. -/
structure Attended (s : LineState θ) : Prop where
  served : ∀ (i : ℕ) (t : θ), s.subjects[i]? = some t → L.waits t = true →
    s.queue.jobs.countP (s.serves i) = 1
  marked : ∀ b ∈ s.failures, b = true

/-- The step fails no job whose subject is not marked: where `_drive_one` raises, the handler
leaves it marked, and what a reap fails was marked before. -/
def Marks (s : LineState θ) : LineAction ρ ω → Prop
  | .drive r w error => ∀ worker l rest t, s.queue.runs r = some ⟨worker, l :: rest⟩ →
      s.subjects[s.target l.job]? = some t → L.drive w t = none →
      L.failed (L.raised error t) = true
  | .reap older cap => ∀ j ∈ s.queue.jobs, j.exhausted s.queue.now older cap = true →
      ∀ t, s.subjects[s.target j.id]? = some t → L.failed t = true
  | _ => True

/-- `_drive_one` returns once the subject is finished, and fails the job only over a subject
it has marked. -/
structure Lawful : Prop where
  settles : ∀ w t t' o, L.drive w t = some (t', o) →
    o ≠ .pending ∧ L.waits t' = false ∧ (o.fails = true → L.failed t' = true)
  failed : ∀ t, L.failed t = true → L.waits t = false
  find : ∀ t subjects i, L.find t subjects = some i → i < subjects.length

/-- Rows are numbered, and each job has a subject. -/
structure Numbered (s : LineState θ) : Prop where
  ids : s.queue.jobs.map Job.id = List.range s.queue.jobs.length
  targets : ∀ j ∈ s.queue.jobs, s.target j.id < s.subjects.length

/-- What a step does, and when. -/
inductive Effect (s : LineState θ) : LineAction ρ ω → LineState θ → Prop
  /-- The request is refused, or its subject is served already. -/
  | same (request : ρ) : Effect s (.enqueue request) s
  | again (request : ρ) (t : θ) (i : ℕ) (found : L.find t s.subjects = some i)
      (unserved : ¬s.queue.jobs.any (s.serves i) = true) :
      Effect s (.enqueue request) (s.insertJob i)
  | opened (request : ρ) (t : θ) : Effect s (.enqueue request)
      ({ s with subjects := s.subjects ++ [t] }.insertJob s.subjects.length)
  | worked (a : Action) (q : Sys) (plain : a.plain = true)
      (queue : Queue.step L.kind s.queue a = some q) : Effect s (.work a) { s with queue := q }
  | driven (r : ℕ) (w : ω) (error worker : Text) (l : Lease) (rest : List Lease) (t : θ) (q : Sys)
      (run : s.queue.runs r = some ⟨worker, l :: rest⟩)
      (subject : s.subjects[s.target l.job]? = some t)
      (queue : Queue.step L.kind s.queue (.drive r (L.outcome w error t).2) = some q) :
      Effect s (.drive r w error)
        { s with
          queue := q
          subjects := s.subjects.set (s.target l.job) (L.outcome w error t).1
          failures := s.failures ++
            if (L.outcome w error t).2.fails then [L.failed (L.outcome w error t).1] else [] }
  | reaped (older cap : Int) (q : Sys)
      (queue : Queue.step L.kind s.queue (.reap older cap) = some q) :
      Effect s (.reap older cap)
        { s with
          queue := q
          failures := s.failures ++ (s.queue.jobs.filter (Job.exhausted s.queue.now older cap)).map
            fun j => (s.subjects[s.target j.id]?).any L.failed }

section Steps

variable {L} {s s' : LineState θ}

theorem effect_of_step {a : LineAction ρ ω} (hstep : L.step s a = some s') : L.Effect s a s' := by
  cases a with
  | enqueue request =>
    simp only [Line.step] at hstep
    split at hstep
    · obtain rfl := Option.some.inj hstep
      exact .same request
    · rename_i t _
      split at hstep
      · rename_i i hfind
        split at hstep
        · obtain rfl := Option.some.inj hstep
          exact .same request
        · rename_i hnone
          obtain rfl := Option.some.inj hstep
          exact .again request t i hfind hnone
      · obtain rfl := Option.some.inj hstep
        exact .opened request t
  | work a =>
    simp only [Line.step] at hstep
    split at hstep
    · rename_i hplain
      obtain ⟨q, hq, rfl⟩ := Option.map_eq_some_iff.mp hstep
      exact .worked a q hplain hq
    · cases hstep
  | drive r w error =>
    simp only [Line.step] at hstep
    split at hstep
    · rename_i worker l rest hrun
      obtain ⟨t, ht, hstep⟩ := Option.bind_eq_some_iff.mp hstep
      obtain ⟨q, hq, rfl⟩ := Option.map_eq_some_iff.mp hstep
      exact .driven r w error worker l rest t q hrun ht hq
    · cases hstep
  | reap older cap =>
    simp only [Line.step] at hstep
    obtain ⟨q, hq, rfl⟩ := Option.map_eq_some_iff.mp hstep
    exact .reaped older cap q hq

theorem Numbered.id_lt (h : Numbered s) {j : Job} (hj : j ∈ s.queue.jobs) :
    j.id < s.queue.jobs.length := by
  have hmem : j.id ∈ s.queue.jobs.map Job.id := List.mem_map_of_mem hj
  rw [h.ids] at hmem
  exact List.mem_range.mp hmem

theorem Numbered.insertJob (h : Numbered s) {i : ℕ} (hi : i < s.subjects.length) :
    Numbered (s.insertJob i) where
  ids := by
    show (s.queue.jobs ++ [_]).map Job.id = List.range (s.queue.jobs ++ [_]).length
    rw [List.map_append, h.ids, List.length_append, List.length_singleton, List.range_succ]
    rfl
  targets := by
    intro j hj
    show (if j.id = s.queue.jobs.length then i else s.target j.id) < s.subjects.length
    split
    · exact hi
    · rename_i hne
      obtain hj | hj := List.mem_append.mp hj
      · exact h.targets j hj
      · exact absurd (congrArg Job.id (List.mem_singleton.mp hj)) hne

theorem Numbered.insertSubject (h : Numbered s) (t : θ) :
    Numbered { s with subjects := s.subjects ++ [t] } := by
  refine ⟨h.ids, fun j hj => ?_⟩
  rw [List.length_append]
  exact Nat.lt_add_right _ (h.targets j hj)

theorem Numbered.rewrite (h : Numbered s) {f : Job → Job} (hid : ∀ j, (f j).id = j.id)
    (hrows : s'.queue.jobs = s.queue.jobs.map f) (htarget : s'.target = s.target)
    (hsubjects : s'.subjects.length = s.subjects.length) : Numbered s' where
  ids := by
    rw [hrows, List.map_map, List.length_map, ← h.ids]
    exact List.map_congr_left fun j _ => hid j
  targets := by
    intro j hj
    rw [hrows] at hj
    obtain ⟨k, hk, rfl⟩ := List.mem_map.mp hj
    rw [htarget, hid, hsubjects]
    exact h.targets k hk

theorem countP_rewrite {jobs : List Job} {f : Job → Job} {i : ℕ} (hid : ∀ j, (f j).id = j.id)
    (hrows : jobs = s.queue.jobs.map f)
    (hout : ∀ j ∈ s.queue.jobs, s.target j.id = i → (f j).outstanding = j.outstanding) :
    jobs.countP (s.serves i) = s.queue.jobs.countP (s.serves i) := by
  rw [hrows, List.countP_map]
  refine List.countP_congr fun j hj => ?_
  simp only [Function.comp_apply, LineState.serves, hid, decide_eq_true_iff]
  exact and_congr_right fun hi => by rw [hout j hj hi]

theorem countP_insertJob (h : Numbered s) (i k : ℕ) :
    (s.insertJob k).queue.jobs.countP ((s.insertJob k).serves i) =
      s.queue.jobs.countP (s.serves i) + if k = i then 1 else 0 := by
  show (s.queue.jobs ++ [_]).countP _ = _
  rw [List.countP_append, List.countP_singleton]
  congr 1
  · refine List.countP_congr fun j hj => ?_
    have hne := (h.id_lt hj).ne
    simp [LineState.serves, LineState.insertJob, hne]
  · simp [LineState.serves, LineState.insertJob, Job.new, Job.outstanding]

theorem countP_new (h : Numbered s) : s.queue.jobs.countP (s.serves s.subjects.length) = 0 := by
  refine List.countP_eq_zero.mpr fun j hj hserves => ?_
  have htarget := (of_decide_eq_true hserves).1
  have hlt := h.targets j hj
  omega

theorem outstanding_reap (now older cap : Int) (j : Job) :
    (j.reap now older cap).outstanding = (j.outstanding && !j.exhausted now older cap) := by
  unfold Job.reap Job.exhausted
  split
  · rename_i hstale
    have hclaimed := (Bool.and_eq_true _ _ ▸ hstale : _ ∧ _).1
    have hstatus : j.status = .claimed := of_decide_eq_true hclaimed
    split
    · rename_i hlt
      simp [Job.outstanding, Job.requeue, hstatus, hlt]
    · rename_i hge
      simp [Job.outstanding, Job.deadLetter, hstale, not_lt.mp hge]
  · rename_i hstale
    simp [Bool.not_eq_true _ ▸ hstale]

theorem numbered_start (now : Int) : Numbered (LineState.start now : LineState θ) :=
  ⟨rfl, fun _ hj => nomatch hj⟩

theorem outcome_raised {w : ω} {t : θ} (h : L.drive w t = none) (error : Text) :
    L.outcome w error t = (L.raised error t, .raised error) := by
  rw [outcome, h, Option.getD_none]

theorem outcome_settles (hL : L.Lawful) (w : ω) (error : Text) (t : θ) :
    (L.outcome w error t).2 ≠ .pending ∧
      ((L.drive w t).isSome = true → L.waits (L.outcome w error t).1 = false ∧
        ((L.outcome w error t).2.fails = true → L.failed (L.outcome w error t).1 = true)) := by
  unfold outcome
  cases hdrive : L.drive w t with
  | none => exact ⟨Driven.noConfusion, fun hsome => absurd hsome Bool.false_ne_true⟩
  | some r =>
    obtain ⟨hpending, hwaits, hfails⟩ := hL.settles w t r.1 r.2 hdrive
    exact ⟨hpending, fun _ => ⟨hwaits, hfails⟩⟩

theorem plain_rows {q : Sys} {a : Action} (ha : a.plain = true) (h : Numbered s)
    (hstep : Queue.step L.kind s.queue a = some q) :
    ∃ f : Job → Job, q.jobs = s.queue.jobs.map f ∧ (∀ j, (f j).id = j.id) ∧
      ∀ j ∈ s.queue.jobs, (f j).outstanding = j.outstanding := by
  cases rows_of_step hstep with
  | same quiet rows => exact ⟨id, by rw [rows, List.map_id], fun _ => rfl, fun _ _ => rfl⟩
  | queued id action => rw [action] at ha; cases ha
  | claimed r limit worker locked batch action pending rows =>
    refine ⟨_, rows, fun j => by split <;> rfl, fun j hj => ?_⟩
    split
    · rename_i hmem
      obtain ⟨k, hk, hid, hp⟩ := pending j.id hmem
      have hnodup : (s.queue.jobs.map Job.id).Nodup := h.ids ▸ List.nodup_range
      obtain rfl : k = j := List.inj_on_of_nodup_map hnodup hk hj hid
      simp [Job.outstanding, Job.claim, hp]
    · rfl
  | driven r outcome worker l rest action => rw [action] at ha; cases ha
  | reaped older cap action => rw [action] at ha; cases ha

theorem drive_rows {q : Sys} {r : ℕ} {o : Driven} {worker : Text} {l : Lease} {rest : List Lease}
    (hrun : s.queue.runs r = some ⟨worker, l :: rest⟩)
    (hstep : Queue.step L.kind s.queue (.drive r o) = some q) :
    ∃ f : Job → Job, q.jobs = s.queue.jobs.map f ∧ (∀ j, (f j).id = j.id) ∧
      ∀ j, j.id ≠ l.job → f j = j := by
  cases rows_of_step hstep with
  | same quiet rows => exact ⟨id, by rw [rows, List.map_id], fun _ => rfl, fun _ _ => rfl⟩
  | queued id action => cases action
  | claimed r limit worker locked batch action => cases action
  | driven r' o' worker' l' rest' action run rows =>
    cases action
    obtain ⟨rfl, rfl, rfl⟩ : worker = worker' ∧ l = l' ∧ rest = rest' := by
      simpa using hrun.symm.trans run
    refine ⟨_, rows, fun j => ?_, fun j hj => if_neg hj⟩
    split
    · exact write_id j o
    · rfl
  | reaped older cap action => cases action

theorem reap_rows {q : Sys} {older cap : Int}
    (hstep : Queue.step L.kind s.queue (.reap older cap) = some q) :
    q.jobs = s.queue.jobs.map (Job.reap s.queue.now older cap) := by
  cases hstep
  exact reapStaleJobs_jobs s.queue.now older cap s.queue.jobs

theorem step_raised_isSome {r : ℕ} {worker : Text} {l : Lease} {rest : List Lease}
    (hrun : s.queue.runs r = some ⟨worker, l :: rest⟩) (error : Text) :
    ∃ q, Queue.step L.kind s.queue (.drive r (.raised error)) = some q := by
  have hpossible : (Driven.raised error).possible L.kind = true := by
    cases L.kind <;> rfl
  simp only [Queue.step, hrun, hpossible, if_true]
  split
  · exact ⟨_, rfl⟩
  · exact ⟨_, rfl⟩

/-- **The rows stay numbered.** -/
theorem Numbered.step (hL : L.Lawful) (h : Numbered s) {a : LineAction ρ ω}
    (hstep : L.step s a = some s') : Numbered s' := by
  cases effect_of_step hstep with
  | same request => exact h
  | again request t i found unserved => exact h.insertJob (hL.find t s.subjects i found)
  | opened request t => exact (h.insertSubject t).insertJob (by simp)
  | worked a q plain queue =>
    obtain ⟨f, hrows, hid, -⟩ := plain_rows plain h queue
    exact h.rewrite hid hrows rfl rfl
  | driven r w error worker l rest t q run subject queue =>
    obtain ⟨f, hrows, hid, -⟩ := drive_rows run queue
    exact h.rewrite hid hrows rfl (List.length_set ..)
  | reaped older cap q queue => exact h.rewrite (reap_id _ _ _) (reap_rows queue) rfl rfl

/-! ### What one step does to what waits -/

theorem attended_enqueue (h : Numbered s) (hatt : L.Attended s) {request : ρ}
    (hstep : L.step s (.enqueue request : LineAction ρ ω) = some s') : L.Attended s' := by
  cases effect_of_step hstep with
  | same => exact hatt
  | again _ t i found unserved =>
    refine ⟨fun k u hu hwaits => ?_, hatt.marked⟩
    have hserved := hatt.served k u hu hwaits
    -- the subject it is enqueued for had no job, so it does not wait
    have hne : i ≠ k := by
      rintro rfl
      refine unserved (List.any_eq_true.mpr (List.countP_pos_iff.mp ?_))
      omega
    rw [countP_insertJob h, if_neg hne, hserved]
  | opened _ t =>
    refine ⟨fun k u hu hwaits => ?_, hatt.marked⟩
    rw [countP_insertJob (h.insertSubject t)]
    show s.queue.jobs.countP (s.serves k) + _ = 1
    by_cases hk : k < s.subjects.length
    · rw [if_neg (by omega)]
      have hold : s.subjects[k]? = some u := (List.getElem?_append_left hk).symm.trans hu
      exact hatt.served k u hold hwaits
    · -- the new subject
      have hlt : k < (s.subjects ++ [t]).length := (List.getElem?_eq_some_iff.mp hu).1
      obtain rfl : k = s.subjects.length := by
        rw [List.length_append, List.length_singleton] at hlt
        omega
      rw [countP_new h, if_pos rfl]

theorem attended_work (h : Numbered s) (hatt : L.Attended s) {a : Action}
    (hstep : L.step s (.work a : LineAction ρ ω) = some s') : L.Attended s' := by
  cases effect_of_step hstep with
  | worked _ q plain queue =>
    obtain ⟨f, hrows, hid, hout⟩ := plain_rows plain h queue
    refine ⟨fun k u hu hwaits => ?_, hatt.marked⟩
    exact (countP_rewrite hid hrows fun j hj _ => hout j hj).trans (hatt.served k u hu hwaits)

/-- A drive is attended exactly if it does not leave its subject unmarked. -/
theorem attended_drive (hL : L.Lawful) (hatt : L.Attended s) {r : ℕ} {w : ω} {error : Text}
    (hstep : L.step s (.drive r w error) = some s') :
    L.Marks s (.drive r w error) ↔ L.Attended s' := by
  cases effect_of_step hstep with
  | driven _ _ _ worker l rest t q hrun ht queue =>
    obtain ⟨f, hrows, hid, hother⟩ := drive_rows hrun queue
    obtain ⟨-, hreturns⟩ := outcome_settles hL w error t
    constructor
    · intro hmarks
      have hdone : L.waits (L.outcome w error t).1 = false ∧
          ((L.outcome w error t).2.fails = true → L.failed (L.outcome w error t).1 = true) := by
        cases hdrive : L.drive w t with
        | none =>
          -- it raises, and the handler leaves a subject that is marked
          have hfailed := hmarks worker l rest t hrun ht hdrive
          rw [outcome_raised hdrive error]
          exact ⟨hL.failed _ hfailed, fun _ => hfailed⟩
        | some o => exact hreturns (by rw [hdrive]; rfl)
      constructor
      · intro k u hu hwaits
        by_cases hk : s.target l.job = k
        · -- the subject that was driven does not wait
          have hlt : s.target l.job < s.subjects.length := (List.getElem?_eq_some_iff.mp ht).1
          rw [← hk, List.getElem?_set_self hlt, Option.some.injEq] at hu
          rw [← hu, hdone.1] at hwaits
          cases hwaits
        · rw [List.getElem?_set_ne hk] at hu
          have hsame : ∀ j ∈ s.queue.jobs, s.target j.id = k → (f j).outstanding = j.outstanding :=
            fun j _ hj => by rw [hother j fun hjl => hk (hjl ▸ hj)]
          exact (countP_rewrite hid hrows hsame).trans (hatt.served k u hu hwaits)
      · intro b hb
        obtain hb | hb := List.mem_append.mp hb
        · exact hatt.marked b hb
        · split at hb
          · rename_i hfails
            rw [List.mem_singleton.mp hb]
            exact hdone.2 hfails
          · cases hb
    · intro hatt' worker' l' rest' t' hrun' ht' hraises
      obtain ⟨rfl, rfl, rfl⟩ : worker = worker' ∧ l = l' ∧ rest = rest' := by
        simpa using hrun.symm.trans hrun'
      obtain rfl := Option.some.inj (ht.symm.trans ht')
      refine hatt'.marked _ (List.mem_append_right _ ?_)
      rw [outcome_raised hraises error]
      exact List.mem_singleton_self _

theorem attended_reap (hL : L.Lawful) (h : Numbered s) (hatt : L.Attended s) {older cap : Int}
    (hstep : L.step s (.reap older cap : LineAction ρ ω) = some s') :
    L.Marks s (.reap older cap : LineAction ρ ω) ↔ L.Attended s' := by
  obtain _ | _ | _ | _ | _ | ⟨_, _, q, queue⟩ := effect_of_step hstep
  have hrows := reap_rows queue
  constructor
  · intro hmarks
    constructor
    · intro k u hu hwaits
      have hsame : ∀ j ∈ s.queue.jobs, s.target j.id = k →
          (j.reap s.queue.now older cap).outstanding = j.outstanding := by
        intro j hj hk
        rw [outstanding_reap]
        cases hexhausted : j.exhausted s.queue.now older cap with
        | false => simp
        | true =>
          -- its subject is marked, and does not wait
          have hfailed := hmarks j hj hexhausted u (hk ▸ hu)
          rw [hL.failed u hfailed] at hwaits
          cases hwaits
      exact (countP_rewrite (reap_id _ _ _) hrows hsame).trans (hatt.served k u hu hwaits)
    · intro b hb
      obtain hb | hb := List.mem_append.mp hb
      · exact hatt.marked b hb
      · obtain ⟨j, hj, rfl⟩ := List.mem_map.mp hb
        obtain ⟨hj, hexhausted⟩ := List.mem_filter.mp hj
        have hlt := h.targets j hj
        rw [List.getElem?_eq_getElem hlt, Option.any_some]
        exact hmarks j hj hexhausted _ (List.getElem?_eq_getElem hlt)
  · intro hatt' j hj hexhausted t ht
    have hmem : (s.subjects[s.target j.id]?).any L.failed ∈
        (s.queue.jobs.filter (Job.exhausted s.queue.now older cap)).map
          fun j => (s.subjects[s.target j.id]?).any L.failed :=
      List.mem_map.mpr ⟨j, List.mem_filter.mpr ⟨hj, hexhausted⟩, rfl⟩
    have hmarked := hatt'.marked _ (List.mem_append_right _ hmem)
    rwa [ht, Option.any_some] at hmarked

end Steps

/-- **Nothing is stranded** throughout a run exactly if no step fails a job over a subject that
is not marked. -/
theorem attended_iff (hL : L.Lawful) (now : Int) (as : List (LineAction ρ ω)) :
    Guarded L.step L.Marks (LineState.start now) as ↔
      ∀ bs s, bs <+: as → exec L.step (LineState.start now) bs = some s → L.Attended s := by
  refine guarded_iff_invariant (I := Numbered) (J := L.Attended)
    (fun _ _ _ h => h.step hL) ?_ ?_ (numbered_start now) ?_
  · intro s a _ hnone
    cases a with
    | drive r w error =>
      intro worker l rest t hrun ht hraises
      obtain ⟨q, hq⟩ := step_raised_isSome (L := L) hrun error
      simp only [step, hrun, ht, Option.bind_some, outcome_raised hraises error, hq] at hnone
      cases hnone
    | reap older cap => cases hnone
    | _ => trivial
  · intro s a s' h hatt hstep
    cases a with
    | enqueue request => exact ⟨fun _ => attended_enqueue h hatt hstep, fun _ => trivial⟩
    | work a => exact ⟨fun _ => attended_work h hatt hstep, fun _ => trivial⟩
    | drive r w error => exact attended_drive hL hatt hstep
    | reap older cap => exact attended_reap hL h hatt hstep
  · exact ⟨fun _ _ ht => (nomatch ht), fun _ hb => (nomatch hb)⟩

end Line

end Concord.Queue
