import Concord.Base.Run
import Concord.Queue.Jobs

/-!
# Workers over the shared queue

`run_once` of `ccf/prep/jobs.py` and `ccf/assessment/engine/jobs.py`: a worker
claims a batch, commits, and then drives the jobs of the batch one by one,
writing each outcome by the job's id. Nothing between the claim and the write
looks at the row again, and `reap_stale_jobs` may have taken the claim away in
the meantime.

`step` interleaves any number of such runs with enqueues, reaps and the clock.
A claim is identified by the job and the value `attempts` has from it on: the
counter grows with every claim and never goes back, so the pair is the fencing
token the code could check but does not (`Lease`). The state records, for every
outcome written, whether the writer still held the claim (`Written`).

`fenced_of_run`: outcomes are written by the holder of the claim only, and no
claim is driven twice, in every run whose reaps take nothing that a live worker
still has in its batch. The guard is about reaps alone; `late_write` is a run
that breaks it.
-/

namespace Concord.Queue

open Concord.Base Concord.Python

/-- The two queues. -/
inductive Kind
  | prep | assessment
  deriving DecidableEq

/-- What `_drive_one` comes to. `failed` carries what it leaves in `last_error`,
`raised` the text of the exception. -/
inductive Driven
  | done
  | failed (error : Option Text)
  | pending
  | raised (error : Text)
  deriving DecidableEq

/-- Only the prep queue hands a job back for the next cycle. -/
def Driven.possible : Kind → Driven → Bool
  | .assessment, .pending => false
  | _, _ => true

/-- The outcome on the row. A `NULL` error leaves `last_error` as it is: the
column is `NULL` in the session already, and nothing is flushed. -/
def Job.write (j : Job) : Driven → Job
  | .done => { j with status := .done }
  | .failed error => { j with status := .failed, lastError := error <|> j.lastError }
  | .pending => { j with status := .pending, claimedBy := none, claimedAt := none }
  | .raised error =>
    { j with status := .failed, lastError := some (truncateLastError error) }

/-- One claim of one job: `attempts` as the claim left it. -/
structure Lease where
  job : Nat
  token : Nat
  deriving DecidableEq

/-- A run of `run_once` after its claim: the part of the batch not driven yet. -/
structure WorkerRun where
  worker : Text
  batch : List Lease

/-- The row is claimed by the worker under this very claim. -/
def Job.heldBy (j : Job) (worker : Text) (l : Lease) : Bool :=
  decide (j.id = l.job ∧ j.status = .claimed ∧ j.claimedBy = some worker ∧
    j.attempts = l.token)

/-- An outcome that was written, and whether the writer held the claim. -/
structure Written where
  lease : Lease
  held : Bool
  deriving DecidableEq

structure Sys where
  now : Int
  jobs : List Job
  runs : Nat → Option WorkerRun
  written : List Written

inductive Action
  /-- a new job -/
  | enqueue (id : Nat)
  /-- the clock -/
  | tick (seconds : Nat)
  /-- `run_once` up to its first commit; `batch` is the order the rows came in -/
  | claim (run : Nat) (worker : Text) (limit : Nat) (locked batch : List Nat)
  /-- the next job of the batch, to the commit of its outcome -/
  | drive (run : Nat) (outcome : Driven)
  /-- the run returns, or its process dies -/
  | stop (run : Nat)
  /-- `reap_stale_jobs` -/
  | reap (olderThanMinutes maxAttempts : Int)

def start (now : Int) : Sys where
  now := now
  jobs := []
  runs := fun _ => none
  written := []

def Job.lease (j : Job) : Lease := ⟨j.id, j.attempts⟩

/-- The claims of a batch, in the order of the batch. -/
def leases (batch : List Nat) (jobs : List Job) : List Lease :=
  batch.filterMap fun i => (jobs.find? fun j => j.id = i).map Job.lease

def Sys.setRun (s : Sys) (r : Nat) (x : Option WorkerRun) : Sys :=
  { s with runs := fun q => if q = r then x else s.runs q }

def step (kind : Kind) (s : Sys) : Action → Option Sys
  | .enqueue id =>
    if s.jobs.any fun j => j.id = id then none
    else some { s with jobs := s.jobs ++ [Job.new id s.now] }
  | .tick seconds => some { s with now := s.now + seconds }
  | .claim r worker limit locked batch =>
    if (s.runs r).isNone ∧ batch.isPerm (candidates locked limit s.jobs) then
      let jobs := claimJobs worker s.now batch s.jobs
      some { s.setRun r (some ⟨worker, leases batch jobs⟩) with jobs := jobs }
    else none
  | .drive r outcome =>
    match s.runs r with
    | some ⟨worker, l :: rest⟩ =>
      if outcome.possible kind then
        match s.jobs.find? fun j => j.id = l.job with
        | none => some (s.setRun r (some ⟨worker, rest⟩))
        | some j =>
          some { s.setRun r (some ⟨worker, rest⟩) with
            jobs := s.jobs.map fun k => if k.id = l.job then k.write outcome else k
            written := s.written ++ [⟨l, j.heldBy worker l⟩] }
      else none
    | _ => none
  | .stop r =>
    match s.runs r with
    | some _ => some (s.setRun r none)
    | none => none
  | .reap older cap => some { s with jobs := (reapStaleJobs s.now older cap s.jobs).jobs }

/-- **Fencing.** Every outcome was written by the holder of the claim, and no
claim was driven twice. -/
structure Fenced (s : Sys) : Prop where
  held : ∀ w ∈ s.written, w.held = true
  once : (s.written.map Written.lease).Nodup

/-- A reap that takes no claim which a live run still has to drive. -/
def SparesLive (s : Sys) : Action → Prop
  | .reap older _ => ∀ r wr, s.runs r = some wr → ∀ l ∈ wr.batch, ∀ j ∈ s.jobs,
      j.id = l.job → j.stale (threshold s.now older) = false
  | _ => True

/-! ## The invariant -/

/-- What the guarded runs keep: ids are unique; a live run holds every claim of
its batch, no job is in two batches; and a claim that was driven is over. -/
structure Inv (s : Sys) : Prop where
  ids : (s.jobs.map Job.id).Nodup
  leased : ∀ r wr, s.runs r = some wr → ∀ l ∈ wr.batch,
    ∃ j ∈ s.jobs, j.heldBy wr.worker l = true
  apart : ∀ r wr, s.runs r = some wr → (wr.batch.map Lease.job).Nodup
  disjoint : ∀ r wr q wq, s.runs r = some wr → s.runs q = some wq → r ≠ q →
    ∀ l ∈ wr.batch, ∀ m ∈ wq.batch, l.job ≠ m.job
  spent : ∀ w ∈ s.written, ∃ j ∈ s.jobs, j.id = w.lease.job ∧
    (w.lease.token < j.attempts ∨ w.lease.token = j.attempts ∧ j.status ≠ .claimed)
  fenced : Fenced s

theorem inv_start (now : Int) : Inv (start now) where
  ids := List.nodup_nil
  leased := fun _ _ h => nomatch h
  apart := fun _ _ h => nomatch h
  disjoint := fun _ _ _ _ h => nomatch h
  spent := fun _ h => nomatch h
  fenced := ⟨fun _ h => (nomatch h), List.nodup_nil⟩

theorem heldBy_iff {j : Job} {worker : Text} {l : Lease} :
    j.heldBy worker l = true ↔ j.id = l.job ∧ j.status = .claimed ∧
      j.claimedBy = some worker ∧ j.attempts = l.token := by
  rw [Job.heldBy, decide_eq_true_iff]

theorem setRun_runs {s : Sys} {r q : Nat} {x : Option WorkerRun} {wr : WorkerRun} :
    (s.setRun r x).runs q = some wr ↔
      (q = r ∧ x = some wr) ∨ (q ≠ r ∧ s.runs q = some wr) := by
  by_cases h : q = r <;> simp [Sys.setRun, h]

theorem mem_of_find {jobs : List Job} {i : Nat} {j : Job}
    (h : (jobs.find? fun j => j.id = i) = some j) : j ∈ jobs ∧ j.id = i := by
  refine ⟨List.mem_of_find?_eq_some h, ?_⟩
  have hid := List.find?_some h
  rwa [decide_eq_true_iff] at hid

theorem Inv.row_unique {s : Sys} (h : Inv s) {j k : Job} (hj : j ∈ s.jobs)
    (hk : k ∈ s.jobs) (hid : j.id = k.id) : j = k :=
  List.inj_on_of_nodup_map h.ids hj hk hid

theorem Inv.shrink {s : Sys} (h : Inv s) {r : Nat} {x : Option WorkerRun}
    (hx : ∀ wr, x = some wr → ∃ old, s.runs r = some old ∧ wr.worker = old.worker ∧
      wr.batch.Sublist old.batch) : Inv (s.setRun r x) := by
  -- every batch left is part of an old one
  have hold : ∀ q wq, (s.setRun r x).runs q = some wq →
      ∃ old, s.runs q = some old ∧ wq.worker = old.worker ∧
        wq.batch.Sublist old.batch := by
    intro q wq hq
    rcases setRun_runs.mp hq with ⟨rfl, hwq⟩ | ⟨-, hwq⟩
    · exact hx wq hwq
    · exact ⟨wq, hwq, rfl, List.Sublist.refl _⟩
  refine ⟨h.ids, ?_, ?_, ?_, h.spent, ⟨h.fenced.held, h.fenced.once⟩⟩
  · intro q wq hq l hl
    obtain ⟨old, hold, hw, hsub⟩ := hold q wq hq
    rw [hw]
    exact h.leased q old hold l (hsub.subset hl)
  · intro q wq hq
    obtain ⟨old, hold, -, hsub⟩ := hold q wq hq
    exact (h.apart q old hold).sublist (hsub.map _)
  · intro q wq q' wq' hq hq' hne l hl m hm
    obtain ⟨old, hold₁, -, hsub⟩ := hold q wq hq
    obtain ⟨old', hold₂, -, hsub'⟩ := hold q' wq' hq'
    exact h.disjoint q old q' old' hold₁ hold₂ hne l (hsub.subset hl) m (hsub'.subset hm)

/-- Rewriting the rows one by one keeps the invariant, if the claims of live runs
survive it and the claims that are over stay over. -/
theorem Inv.rewrite {s : Sys} (h : Inv s) {f : Job → Job} (hid : ∀ j, (f j).id = j.id)
    (hlease : ∀ r wr, s.runs r = some wr → ∀ l ∈ wr.batch, ∀ j ∈ s.jobs,
      j.heldBy wr.worker l = true → (f j).heldBy wr.worker l = true)
    (hspent : ∀ j ∈ s.jobs, j.attempts < (f j).attempts ∨
      j.attempts = (f j).attempts ∧ ((f j).status = .claimed → j.status = .claimed)) :
    Inv { s with jobs := s.jobs.map f } where
  ids := by
    show ((s.jobs.map f).map Job.id).Nodup
    have hmap : (s.jobs.map f).map Job.id = s.jobs.map Job.id := by
      rw [List.map_map]
      exact List.map_congr_left fun j _ => hid j
    rw [hmap]
    exact h.ids
  leased := by
    intro r wr hr l hl
    obtain ⟨j, hj, hheld⟩ := h.leased r wr hr l hl
    exact ⟨f j, List.mem_map_of_mem hj, hlease r wr hr l hl j hj hheld⟩
  apart := h.apart
  disjoint := h.disjoint
  spent := by
    intro w hw
    obtain ⟨j, hj, hjid, htoken⟩ := h.spent w hw
    refine ⟨f j, List.mem_map_of_mem hj, (hid j).trans hjid, ?_⟩
    rcases hspent j hj with hlt | ⟨heq, hback⟩
    · left
      rcases htoken with ht | ⟨ht, -⟩ <;> omega
    · rcases htoken with ht | ⟨ht, hst⟩
      · left
        omega
      · exact .inr ⟨by omega, fun hc => hst (hback hc)⟩
  fenced := ⟨h.fenced.held, h.fenced.once⟩

theorem Inv.record {s : Sys} (h : Inv s) {l : Lease}
    (hrow : ∃ j ∈ s.jobs, j.id = l.job ∧ j.attempts = l.token ∧ j.status ≠ .claimed)
    (hnew : l ∉ s.written.map Written.lease) :
    Inv { s with written := s.written ++ [⟨l, true⟩] } where
  ids := h.ids
  leased := h.leased
  apart := h.apart
  disjoint := h.disjoint
  spent := by
    intro w hw
    rcases List.mem_append.mp hw with hw | hw
    · exact h.spent w hw
    · obtain ⟨j, hj, hjid, hatt, hst⟩ := hrow
      rw [List.mem_singleton.mp hw]
      exact ⟨j, hj, hjid, .inr ⟨hatt.symm, hst⟩⟩
  fenced := by
    constructor
    · intro w hw
      rcases List.mem_append.mp hw with hw | hw
      · exact h.fenced.held w hw
      · rw [List.mem_singleton.mp hw]
    · rw [List.map_append]
      have hnodup := h.fenced.once.concat hnew
      rwa [List.concat_eq_append] at hnodup

/-! ## The steps -/

theorem write_id (j : Job) (o : Driven) : (j.write o).id = j.id := by
  cases o <;> rfl

theorem write_attempts (j : Job) (o : Driven) : (j.write o).attempts = j.attempts := by
  cases o <;> rfl

theorem write_status (j : Job) (o : Driven) : (j.write o).status ≠ .claimed := by
  cases o <;> exact fun h => nomatch h

theorem leases_job_sublist (batch : List Nat) (jobs : List Job) :
    ((leases batch jobs).map Lease.job).Sublist batch := by
  induction batch with
  | nil => exact List.Sublist.refl _
  | cons i batch ih =>
    cases hf : jobs.find? fun j => j.id = i with
    | none =>
      rw [leases, List.filterMap_cons_none (by rw [hf]; rfl)]
      exact ih.cons i
    | some j =>
      have hid : j.id = i := (mem_of_find hf).2
      rw [leases, List.filterMap_cons_some (by rw [hf]; rfl), List.map_cons]
      show List.Sublist (j.id :: _) (i :: batch)
      rw [hid]
      exact ih.cons_cons i

theorem heldBy_of_mem_leases {worker : Text} {now : Int} {batch : List Nat}
    {jobs : List Job} {l : Lease}
    (hl : l ∈ leases batch (claimJobs worker now batch jobs)) :
    l.job ∈ batch ∧ ∃ j ∈ claimJobs worker now batch jobs, j.heldBy worker l = true := by
  obtain ⟨i, hi, hlease⟩ := List.mem_filterMap.mp hl
  obtain ⟨j, hfind, rfl⟩ := Option.map_eq_some_iff.mp hlease
  obtain ⟨hj, hid⟩ := mem_of_find hfind
  refine ⟨by rw [Job.lease, hid]; exact hi, j, hj, ?_⟩
  obtain ⟨k, -, rfl⟩ := List.mem_map.mp hj
  have hk : k.id ∈ batch := by
    by_contra hk
    rw [if_neg hk] at hid
    exact hk (hid ▸ hi)
  rw [if_pos hk]
  exact heldBy_iff.mpr ⟨rfl, rfl, rfl, rfl⟩

theorem Inv.not_leased {s : Sys} (h : Inv s) {j : Job} (hj : j ∈ s.jobs)
    (hpending : j.status = .pending) {r : Nat} {wr : WorkerRun}
    (hr : s.runs r = some wr) {l : Lease} (hl : l ∈ wr.batch) : l.job ≠ j.id := by
  intro heq
  obtain ⟨k, hk, hheld⟩ := h.leased r wr hr l hl
  obtain ⟨hkid, hst, -⟩ := heldBy_iff.mp hheld
  have hkj : k = j := h.row_unique hk hj (hkid.trans heq)
  rw [hkj, hpending] at hst
  cases hst

/-- Claiming keeps the invariant. -/
theorem Inv.claim {s : Sys} (h : Inv s) {r limit : Nat} {worker : Text}
    {locked batch : List Nat}
    (hbatch : batch.Perm (candidates locked limit s.jobs)) :
    Inv { s.setRun r (some ⟨worker,
        leases batch (claimJobs worker s.now batch s.jobs)⟩) with
      jobs := claimJobs worker s.now batch s.jobs } := by
  have hnodup : batch.Nodup := hbatch.nodup_iff.mpr (nodup_candidates h.ids)
  have hfree : ∀ i ∈ batch, ∀ q wq, s.runs q = some wq → ∀ l ∈ wq.batch, l.job ≠ i := by
    intro i hi q wq hq l hl
    obtain ⟨j, hj, rfl, hp⟩ := mem_candidates (hbatch.mem_iff.mp hi)
    exact h.not_leased hj hp hq hl
  -- the rows first, then the new run beside the old ones
  have hrows : Inv { s with jobs := claimJobs worker s.now batch s.jobs } := by
    refine h.rewrite (fun j => ?_) ?_ ?_
    · show (if j.id ∈ batch then j.claim worker s.now else j).id = j.id
      split <;> rfl
    · intro q wq hq l hl j _ hheld
      have hjid : j.id = l.job := (heldBy_iff.mp hheld).1
      have hj : j.id ∉ batch := fun hi => hfree j.id hi q wq hq l hl hjid.symm
      rw [if_neg hj]
      exact hheld
    · intro j _
      by_cases hi : j.id ∈ batch
      · rw [if_pos hi]
        exact .inl (Nat.lt_succ_self j.attempts)
      · rw [if_neg hi]
        exact .inr ⟨rfl, id⟩
  refine ⟨hrows.ids, ?_, ?_, ?_, hrows.spent, ⟨h.fenced.held, h.fenced.once⟩⟩
  · intro q wq hq l hl
    rcases setRun_runs.mp hq with ⟨-, hwq⟩ | ⟨-, hq⟩
    · cases hwq
      exact (heldBy_of_mem_leases hl).2
    · exact hrows.leased q wq hq l hl
  · intro q wq hq
    rcases setRun_runs.mp hq with ⟨-, hwq⟩ | ⟨-, hq⟩
    · cases hwq
      exact hnodup.sublist (leases_job_sublist _ _)
    · exact h.apart q wq hq
  · intro q wq q' wq' hq hq' hne l hl m hm
    rcases setRun_runs.mp hq with ⟨hqr, hwq⟩ | ⟨-, hold⟩
    · rcases setRun_runs.mp hq' with ⟨hqr', -⟩ | ⟨-, hold'⟩
      · exact absurd (hqr.trans hqr'.symm) hne
      · cases hwq
        exact (hfree l.job (heldBy_of_mem_leases hl).1 q' wq' hold' m hm).symm
    · rcases setRun_runs.mp hq' with ⟨-, hwq'⟩ | ⟨-, hold'⟩
      · cases hwq'
        exact hfree m.job (heldBy_of_mem_leases hm).1 q wq hold l hl
      · exact h.disjoint q wq q' wq' hold hold' hne l hl m hm

/-- Driving the next job of a batch keeps the invariant, and the writer holds the
claim. -/
theorem Inv.drive {s : Sys} (h : Inv s) {r : Nat} {worker : Text} {l : Lease}
    {rest : List Lease} (hr : s.runs r = some ⟨worker, l :: rest⟩) {j : Job}
    (hfind : (s.jobs.find? fun k => k.id = l.job) = some j) (o : Driven) :
    Inv { s.setRun r (some ⟨worker, rest⟩) with
      jobs := s.jobs.map fun k => if k.id = l.job then k.write o else k
      written := s.written ++ [⟨l, j.heldBy worker l⟩] } := by
  obtain ⟨hj, hjid⟩ := mem_of_find hfind
  have hheld : j.heldBy worker l = true := by
    obtain ⟨k, hk, hkheld⟩ := h.leased r _ hr l List.mem_cons_self
    have hkj : k = j := h.row_unique hk hj ((heldBy_iff.mp hkheld).1.trans hjid.symm)
    exact hkj ▸ hkheld
  obtain ⟨-, hst, -, hatt⟩ := heldBy_iff.mp hheld
  have hshrunk : Inv (s.setRun r (some ⟨worker, rest⟩)) := by
    refine h.shrink fun wr hwr => ⟨_, hr, ?_, ?_⟩ <;> cases hwr
    · rfl
    · exact List.sublist_cons_self l rest
  -- no claim left in a batch is one of this job
  have hothers : ∀ q wq, (s.setRun r (some ⟨worker, rest⟩)).runs q = some wq →
      ∀ m ∈ wq.batch, m.job ≠ l.job := by
    intro q wq hq m hm heq
    rcases setRun_runs.mp hq with ⟨rfl, hwq⟩ | ⟨hne, hq⟩
    · cases hwq
      have hapart := h.apart q _ hr
      rw [List.map_cons, List.nodup_cons] at hapart
      exact hapart.1 (heq ▸ List.mem_map_of_mem hm)
    · exact h.disjoint q wq r _ hq hr hne m hm l List.mem_cons_self heq
  have hrows := hshrunk.rewrite
    (f := fun k => if k.id = l.job then k.write o else k) ?_ ?_ ?_
  · rw [hheld]
    refine hrows.record ⟨j.write o, ?_, ?_, ?_, write_status j o⟩ ?_
    · refine List.mem_map.mpr ⟨j, hj, ?_⟩
      rw [if_pos hjid]
    · rw [write_id, hjid]
    · rw [write_attempts, hatt]
    · intro hmem
      obtain ⟨w, hw, hwl⟩ := List.mem_map.mp hmem
      obtain ⟨k, hk, hkid, htoken⟩ := h.spent w hw
      have hkj : k = j := h.row_unique hk hj (by rw [hkid, hwl, hjid])
      rw [hkj, hwl] at htoken
      rcases htoken with ht | ⟨-, hne⟩
      · omega
      · exact hne hst
  · intro k
    show (if k.id = l.job then k.write o else k).id = k.id
    split
    · exact write_id k o
    · rfl
  · intro q wq hq m hm k _ hk
    have hne : ¬ k.id = l.job := by
      rw [(heldBy_iff.mp hk).1]
      exact hothers q wq hq m hm
    rw [if_neg hne]
    exact hk
  · intro k _
    refine .inr ?_
    split
    · exact ⟨(write_attempts k o).symm, fun hc => absurd hc (write_status k o)⟩
    · exact ⟨rfl, id⟩

theorem Inv.enqueue {s : Sys} (h : Inv s) {id : Nat} (hnew : id ∉ s.jobs.map Job.id) :
    Inv { s with jobs := s.jobs ++ [Job.new id s.now] } := by
  refine ⟨?_, ?_, h.apart, h.disjoint, ?_, ⟨h.fenced.held, h.fenced.once⟩⟩
  · show ((s.jobs ++ [Job.new id s.now]).map Job.id).Nodup
    rw [List.map_append]
    have hnodup := h.ids.concat hnew
    rwa [List.concat_eq_append] at hnodup
  · intro r wr hr l hl
    obtain ⟨j, hj, hheld⟩ := h.leased r wr hr l hl
    exact ⟨j, List.mem_append_left _ hj, hheld⟩
  · intro w hw
    obtain ⟨j, hj, hrest⟩ := h.spent w hw
    exact ⟨j, List.mem_append_left _ hj, hrest⟩

/-- **Step lemma.** -/
theorem inv_step (kind : Kind) (s : Sys) (a : Action) (s' : Sys) (h : Inv s)
    (hspares : SparesLive s a) (hstep : step kind s a = some s') : Inv s' := by
  cases a with
  | enqueue id =>
    simp only [step] at hstep
    split at hstep
    · cases hstep
    · rename_i hfresh
      cases hstep
      refine h.enqueue fun hmem => hfresh ?_
      obtain ⟨j, hj, hjid⟩ := List.mem_map.mp hmem
      exact List.any_eq_true.mpr ⟨j, hj, decide_eq_true hjid⟩
  | tick seconds =>
    cases hstep
    exact ⟨h.ids, h.leased, h.apart, h.disjoint, h.spent,
      ⟨h.fenced.held, h.fenced.once⟩⟩
  | claim r worker limit locked batch =>
    simp only [step] at hstep
    split at hstep
    · rename_i hok
      cases hstep
      exact h.claim (List.isPerm_iff.mp hok.2)
    · cases hstep
  | drive r outcome =>
    simp only [step] at hstep
    split at hstep
    · rename_i worker l rest hr
      split at hstep
      · split at hstep
        · -- the row is gone: the batch goes on without it
          cases hstep
          refine h.shrink fun wr hwr => ⟨_, hr, ?_, ?_⟩ <;> cases hwr
          · rfl
          · exact List.sublist_cons_self l rest
        · rename_i j hfind
          cases hstep
          exact h.drive hr hfind outcome
      · cases hstep
    · cases hstep
  | stop r =>
    simp only [step] at hstep
    split at hstep
    · cases hstep
      exact h.shrink fun _ hwr => nomatch hwr
    · cases hstep
  | reap older cap =>
    cases hstep
    rw [reapStaleJobs_jobs]
    refine h.rewrite (reap_id s.now older cap) ?_ ?_
    -- a claim in a live batch is not stale, so its row is left alone
    · intro r wr hr l hl j hj hheld
      have hlive := hspares r wr hr l hl j hj (heldBy_iff.mp hheld).1
      rw [reap_of_not_stale hlive]
      exact hheld
    · intro j _
      exact .inr ⟨(reap_attempts _ _ _ j).symm, status_of_reap_claimed⟩

/-- **Fencing of the guarded runs.** -/
theorem fenced_of_run (kind : Kind) (now : Int) {as : List Action} {s : Sys}
    (hspares : Guarded (step kind) SparesLive (start now) as)
    (hrun : exec (step kind) (start now) as = some s) : Fenced s :=
  (guarded_invariant (I := Inv) (inv_step kind) (inv_start now) hspares hrun).fenced

/-- Two jobs over two workers, in any order the batch came in: the first worker
dies with one job left, and the reap hands it to the second. -/
def crashAndReclaim : List Action :=
  [.enqueue 1, .tick 1, .enqueue 2, .claim 1 ['a'] 10 [] [2, 1], .drive 1 .done,
   .stop 1, .tick 3600, .reap 60 5, .claim 2 ['b'] 10 [] [1],
   .drive 2 (.raised ['x']), .stop 2]

theorem fenced_of_run_crash :
    ∃ s, exec (step .assessment) (start 0) crashAndReclaim = some s ∧
      s.written.map Written.lease = [⟨2, 1⟩, ⟨1, 2⟩] ∧ Fenced s := by
  have hleases : ((exec (step .assessment) (start 0) crashAndReclaim).map
      fun s => s.written.map Written.lease) = some [⟨2, 1⟩, ⟨1, 2⟩] := by decide +kernel
  obtain ⟨s, hrun, hs⟩ := Option.map_eq_some_iff.mp hleases
  refine ⟨s, hrun, hs, fenced_of_run .assessment 0 ?_ hrun⟩
  refine .cons rfl trivial (.cons rfl trivial (.cons rfl trivial (.cons rfl trivial
    (.cons rfl trivial (.cons rfl trivial (.cons rfl trivial (.cons rfl ?_
    (.cons rfl trivial (.cons rfl trivial (.cons rfl trivial trivial))))))))))
  -- at the reap no run is live
  intro r wr hr
  by_cases h1 : r = 1 <;> simp [Sys.setRun, start, h1] at hr

/-- A slow worker: its claim is reaped after an hour and taken by another worker,
and then it writes the outcome of its own attempt onto the row. -/
theorem late_write :
    ∃ s, exec (step .assessment) (start 0)
        [.enqueue 1, .claim 1 ['a'] 10 [] [1], .tick 3660, .reap 60 5,
          .claim 2 ['b'] 10 [] [1], .drive 1 .done] = some s ∧
      s.written = [⟨⟨1, 1⟩, false⟩] ∧
      s.jobs = [⟨1, .done, 2, some 3660, some ['b'], none, 0⟩] ∧ ¬ Fenced s := by
  refine ⟨_, rfl, rfl, rfl, fun h => ?_⟩
  exact absurd (h.held ⟨⟨1, 1⟩, false⟩ List.mem_cons_self) Bool.false_ne_true

end Concord.Queue
