import Mathlib.Data.List.Sort
import Concord.Python.Json

/-!
# The shared job queue

`ccf/queue.py`: `claim_jobs` and `reap_stale_jobs`, the two operations the prep
queue and the assessment queue share. Times are seconds. A queue is the list of
its rows; `claimJobs` and `reapStaleJobs` rewrite rows in place, so each is a map
over them, and what it does to one row (`Job.claim`, `Job.reap`) is all a proof
has to look at.
-/

namespace Concord.Queue

open Concord.Python

/-- The values of the `status` column. -/
inductive Status
  | pending | claimed | done | failed
  deriving DecidableEq

/-- A row of a job table (`JobLike`). -/
structure Job where
  id : Nat
  status : Status
  attempts : Nat
  claimedAt : Option Int
  claimedBy : Option Text
  lastError : Option Text
  createdAt : Int
  deriving DecidableEq

def Job.new (id : Nat) (createdAt : Int) : Job where
  id := id
  status := .pending
  attempts := 0
  claimedAt := none
  claimedBy := none
  lastError := none
  createdAt := createdAt

/-- `_truncate_last_error`. -/
def truncateLastError (text : Text) : Text := text.take 4000

/-! ## Claiming -/

/-- `order_by(created_at)`; rows of one time stay in table order. -/
def orderByCreatedAt (jobs : List Job) : List Job :=
  jobs.insertionSort fun j k => j.createdAt ≤ k.createdAt

/-- The claiming `SELECT`: up to `limit` pending rows, oldest first, skipping the
rows that other transactions have locked. -/
def candidates (locked : List Nat) (limit : Nat) (jobs : List Job) : List Nat :=
  ((orderByCreatedAt (jobs.filter fun j => j.status = .pending ∧ j.id ∉ locked)).take
    limit).map Job.id

/-- The claiming `UPDATE`, on one row. -/
def Job.claim (worker : Text) (now : Int) (j : Job) : Job :=
  { j with
    status := .claimed
    claimedBy := some worker
    claimedAt := some now
    attempts := j.attempts + 1 }

/-- `claim_jobs`, once its candidates are locked. -/
def claimJobs (worker : Text) (now : Int) (ids : List Nat) (jobs : List Job) :
    List Job :=
  jobs.map fun j => if j.id ∈ ids then j.claim worker now else j

/-! ## Reaping -/

/-- `DEAD_LETTER_REASON`. -/
def deadLetterReason (cap : Int) : Text :=
  "exceeded max attempts (".toList ++ (toString cap).toList ++
    ") via repeated stale reclaim".toList

/-- `now - timedelta(minutes=max(1, older_than_minutes))`. -/
def threshold (now olderThanMinutes : Int) : Int := now - 60 * max 1 olderThanMinutes

def Job.stale (threshold : Int) (j : Job) : Bool :=
  decide (j.status = .claimed) &&
    match j.claimedAt with
    | some t => decide (t ≤ threshold)
    | none => false

def Job.requeue (j : Job) : Job :=
  { j with status := .pending, claimedBy := none, claimedAt := none }

def Job.deadLetter (reason : Text) (j : Job) : Job :=
  { j with status := .failed, claimedBy := none, claimedAt := none, lastError := some reason }

/-- What `reap_stale_jobs` does and counts. -/
structure Reaped where
  jobs : List Job
  requeued : Nat
  deadLettered : Nat

/-- `reap_stale_jobs`: the two `UPDATE`s, one after the other. -/
def reapStaleJobs (now olderThanMinutes maxAttempts : Int) (jobs : List Job) : Reaped :=
  let thr := threshold now olderThanMinutes
  let requeues := fun j : Job => j.stale thr && decide (j.attempts < maxAttempts)
  let jobs₁ := jobs.map fun j => if requeues j then j.requeue else j
  let exhausted := fun j : Job => j.stale thr && decide (maxAttempts ≤ j.attempts)
  let reason := truncateLastError (deadLetterReason maxAttempts)
  { jobs := jobs₁.map fun j => if exhausted j then j.deadLetter reason else j
    requeued := jobs.countP requeues
    deadLettered := jobs₁.countP exhausted }

/-! ## One row at a time -/

def Job.reap (now olderThanMinutes maxAttempts : Int) (j : Job) : Job :=
  if j.stale (threshold now olderThanMinutes) then
    if j.attempts < maxAttempts then j.requeue
    else j.deadLetter (truncateLastError (deadLetterReason maxAttempts))
  else j

theorem requeue_stale (thr : Int) (j : Job) : j.requeue.stale thr = false := rfl

theorem reapStaleJobs_jobs (now older cap : Int) (jobs : List Job) :
    (reapStaleJobs now older cap jobs).jobs = jobs.map (Job.reap now older cap) := by
  simp only [reapStaleJobs, List.map_map]
  refine List.map_congr_left fun j _ => ?_
  simp only [Function.comp_apply, Job.reap]
  by_cases hs : j.stale (threshold now older) = true
  · by_cases hc : (j.attempts : Int) < cap
    · simp [hs, hc, requeue_stale]
    · simp [hs, hc, Int.not_lt.mp hc]
  · simp [hs]

theorem reap_id (now older cap : Int) (j : Job) : (j.reap now older cap).id = j.id := by
  unfold Job.reap
  split
  · split <;> rfl
  · rfl

theorem reap_attempts (now older cap : Int) (j : Job) :
    (j.reap now older cap).attempts = j.attempts := by
  unfold Job.reap
  split
  · split <;> rfl
  · rfl

theorem reap_of_not_stale {now older cap : Int} {j : Job}
    (h : j.stale (threshold now older) = false) : j.reap now older cap = j := by
  rw [Job.reap, h]
  rfl

theorem status_of_reap_claimed {now older cap : Int} {j : Job}
    (h : (j.reap now older cap).status = .claimed) : j.status = .claimed := by
  unfold Job.reap at h
  split at h
  · split at h <;> cases h
  · exact h

theorem mem_candidates {locked : List Nat} {limit : Nat} {jobs : List Job} {i : Nat}
    (h : i ∈ candidates locked limit jobs) : ∃ j ∈ jobs, j.id = i ∧ j.status = .pending := by
  obtain ⟨j, hj, rfl⟩ := List.mem_map.mp h
  have hmem := (List.mem_insertionSort _).mp (List.mem_of_mem_take hj)
  obtain ⟨hjobs, hp⟩ := List.mem_filter.mp hmem
  exact ⟨j, hjobs, rfl, (of_decide_eq_true hp).1⟩

theorem nodup_candidates {locked : List Nat} {limit : Nat} {jobs : List Job}
    (h : (jobs.map Job.id).Nodup) : (candidates locked limit jobs).Nodup := by
  unfold candidates
  rw [List.map_take]
  refine List.Nodup.sublist (List.take_sublist _ _) ?_
  refine ((List.perm_insertionSort _ _).map Job.id).nodup_iff.mpr ?_
  exact h.sublist (List.filter_sublist.map Job.id)

end Concord.Queue
