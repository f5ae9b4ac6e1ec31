import Concord.Prep.Advance

/-!
# Attempts

`claim_jobs` counts a claim and `reap_stale_jobs` compares the count, one with the status
it finds and the other with the cap. What ties them is kept row by row: a row that may be
claimed is below the cap (`Job.Within`), and one that nothing ever drives is where its
claims and their expiries have brought it (`Crashing`).

The cap is the setting of the queue (`prep_job_max_attempts`,
`assessment_job_max_attempts`), which may be any integer. A job is claimed before it is
compared, so below one the cap acts as one (`bound`).
-/

namespace Concord.Queue

open Concord.Base Concord.Python

/-- What driving a job comes to: what `_drive_one` of the queue returns, or an exception. -/
def Outcome : Kind → Driven → Prop
  | .assessment, o => o.possible .assessment = true
  | .prep, o => (∃ error, o = .raised error) ∨
      ∃ w runId run after, Prep.driveOne w runId run = some (after, o)

/-- A step as the queue takes it: outcomes are those of its `_drive_one`, and its reaps
have its cap. -/
def Action.ofQueue (kind : Kind) (cap : Int) : Action → Prop
  | .drive _ outcome => Outcome kind outcome
  | .reap _ maxAttempts => maxAttempts = cap
  | _ => True

/-- The claims a job is given before it is dead-lettered. -/
def bound (cap : Int) : Nat := max 1 cap.toNat

def Job.terminal (j : Job) : Bool := j.status = .done || j.status = .failed

def claims (i : Nat) (_ : Sys) : Action → Bool
  | .claim _ _ _ _ batch => decide (i ∈ batch)
  | _ => false

/-- The step finds the claim of the job expired. -/
def expires (i : Nat) (s : Sys) : Action → Bool
  | .reap older _ => s.jobs.any fun j => j.id = i && j.stale (threshold s.now older)
  | _ => false

/-- The step writes no outcome to the job: its workers crash before. -/
def Undriven (i : Nat) (s : Sys) : Action → Prop
  | .drive r _ => ∀ worker l rest, s.runs r = some ⟨worker, l :: rest⟩ → l.job ≠ i
  | _ => True

section Steps

variable {kind : Kind} {cap : Int} {s s' : Sys} {a : Action}

theorem outcome_settles {o : Driven} (h : Outcome kind o) : o ≠ .pending := by
  rintro rfl
  cases kind with
  | assessment => cases h
  | prep =>
    rcases h with ⟨error, h⟩ | ⟨w, runId, run, after, h⟩
    · cases h
    · exact Prep.driveOne_settles h rfl

theorem bound_pos (cap : Int) : 1 ≤ bound cap := Nat.le_max_left 1 _

theorem lt_bound {n : Nat} (h : (n : Int) < cap) : n < bound cap := by
  unfold bound
  omega

theorem bound_le {n : Nat} (hn : 1 ≤ n) (h : ¬ (n : Int) < cap) : bound cap ≤ n := by
  unfold bound
  omega

/-- **What a step does to the rows**: it appends a new one, or rewrites each. -/
inductive Rows (s : Sys) (a : Action) (s' : Sys) : Prop
  | same (quiet : ∀ i, claims i s a = false ∧ expires i s a = false) (rows : s'.jobs = s.jobs)
  | queued (id : Nat) (action : a = .enqueue id) (fresh : ∀ j ∈ s.jobs, j.id ≠ id)
      (rows : s'.jobs = s.jobs ++ [Job.new id s.now])
  | claimed (r limit : Nat) (worker : Text) (locked batch : List Nat)
      (action : a = .claim r worker limit locked batch)
      (pending : ∀ i ∈ batch, ∃ j ∈ s.jobs, j.id = i ∧ j.status = .pending)
      (rows : s'.jobs = s.jobs.map fun j => if j.id ∈ batch then j.claim worker s.now else j)
  | driven (r : Nat) (outcome : Driven) (worker : Text) (l : Lease) (rest : List Lease)
      (action : a = .drive r outcome) (run : s.runs r = some ⟨worker, l :: rest⟩)
      (rows : s'.jobs = s.jobs.map fun j => if j.id = l.job then j.write outcome else j)
  | reaped (older cap : Int) (action : a = .reap older cap)
      (rows : s'.jobs = s.jobs.map (Job.reap s.now older cap))

theorem rows_of_step (h : step kind s a = some s') : Rows s a s' := by
  cases a with
  | enqueue id =>
    simp only [step] at h
    split at h
    · cases h
    · rename_i hfresh
      cases h
      refine .queued id rfl (fun j hj hid => hfresh ?_) rfl
      exact List.any_eq_true.mpr ⟨j, hj, decide_eq_true hid⟩
  | tick seconds =>
    cases h
    exact .same (fun _ => ⟨rfl, rfl⟩) rfl
  | claim r worker limit locked batch =>
    simp only [step] at h
    split at h
    · rename_i hok
      cases h
      refine .claimed r limit worker locked batch rfl (fun i hi => ?_) rfl
      exact mem_candidates ((List.isPerm_iff.mp hok.2).mem_iff.mp hi)
    · cases h
  | drive r outcome =>
    simp only [step] at h
    split at h
    · rename_i worker l rest hr
      split at h
      · split at h
        · cases h
          exact .same (fun _ => ⟨rfl, rfl⟩) rfl
        · cases h
          exact .driven r outcome worker l rest rfl hr rfl
      · cases h
    · cases h
  | stop r =>
    simp only [step] at h
    split at h
    · cases h
      exact .same (fun _ => ⟨rfl, rfl⟩) rfl
    · cases h
  | reap older cap =>
    cases h
    exact .reaped older cap rfl (reapStaleJobs_jobs s.now older cap s.jobs)

theorem possible_of_drive {r : Nat} {o : Driven} (h : step kind s (.drive r o) = some s') :
    o.possible kind = true := by
  simp only [step] at h
  split at h
  · split at h
    · assumption
    · cases h
  · cases h

/-! ## The cap -/

/-- A row is within the bound, below it where it may be claimed, and a claim has its time. -/
structure Job.Within (m : Nat) (j : Job) : Prop where
  attempts : j.attempts ≤ m
  pending : j.status = .pending → j.attempts < m
  dated : j.status = .claimed → j.claimedAt ≠ none

theorem Job.Within.write {m : Nat} {j : Job} (h : j.Within m) {o : Driven} (ho : o ≠ .pending) :
    (j.write o).Within m := by
  refine ⟨(write_attempts j o).symm ▸ h.attempts, fun hp => ?_,
    fun hc => absurd hc (write_status j o)⟩
  cases o with
  | pending => exact absurd rfl ho
  | done => cases hp
  | failed error => cases hp
  | raised error => cases hp

theorem Job.Within.reap {j : Job} (h : j.Within (bound cap)) (now older : Int) :
    (j.reap now older cap).Within (bound cap) := by
  unfold Job.reap
  split
  · split
    · rename_i hlt
      exact ⟨h.attempts, fun _ => lt_bound hlt, fun hc => nomatch hc⟩
    · exact ⟨h.attempts, fun hp => (nomatch hp), fun hc => nomatch hc⟩
  · exact h

theorem within_of_step (hs : ∀ j ∈ s.jobs, j.Within (bound cap)) (ha : a.ofQueue kind cap)
    (hnodup : (s.jobs.map Job.id).Nodup) (h : step kind s a = some s') :
    ∀ j ∈ s'.jobs, j.Within (bound cap) := by
  intro j hj
  cases rows_of_step h with
  | same quiet rows => exact hs j (rows ▸ hj)
  | queued id action fresh rows =>
    rw [rows] at hj
    rcases List.mem_append.mp hj with hj | hj
    · exact hs j hj
    · rw [List.mem_singleton.mp hj]
      exact ⟨Nat.zero_le _, fun _ => bound_pos cap, fun hc => nomatch hc⟩
  | claimed r limit worker locked batch action pending rows =>
    rw [rows] at hj
    obtain ⟨k, hk, rfl⟩ := List.mem_map.mp hj
    split
    · rename_i hmem
      obtain ⟨k', hk', hid, hp⟩ := pending k.id hmem
      obtain rfl : k' = k := List.inj_on_of_nodup_map hnodup hk' hk hid
      exact ⟨(hs k' hk).pending hp, fun hc => (nomatch hc), fun _ => Option.some_ne_none s.now⟩
    · exact hs k hk
  | driven r outcome worker l rest action run rows =>
    rw [rows] at hj
    obtain ⟨k, hk, rfl⟩ := List.mem_map.mp hj
    rw [action] at ha
    split
    · exact (hs k hk).write (outcome_settles ha)
    · exact hs k hk
  | reaped older cap' action rows =>
    rw [rows] at hj
    obtain ⟨k, hk, rfl⟩ := List.mem_map.mp hj
    rw [action] at ha
    obtain rfl : cap' = cap := ha
    exact (hs k hk).reap s.now older

/-! ## Rows keep their ids -/

theorem nodup_of_step (hs : (s.jobs.map Job.id).Nodup) (h : step kind s a = some s') :
    (s'.jobs.map Job.id).Nodup := by
  have hrewrite : ∀ f : Job → Job, (∀ j, (f j).id = j.id) →
      ((s.jobs.map f).map Job.id).Nodup := by
    intro f hf
    have hmap : (s.jobs.map f).map Job.id = s.jobs.map Job.id := by
      rw [List.map_map]
      exact List.map_congr_left fun j _ => hf j
    exact hmap ▸ hs
  cases rows_of_step h with
  | same quiet rows => exact rows ▸ hs
  | queued id action fresh rows =>
    have hnew : id ∉ s.jobs.map Job.id := by
      intro hmem
      obtain ⟨j, hj, hid⟩ := List.mem_map.mp hmem
      exact fresh j hj hid
    have hnodup := hs.concat hnew
    rw [List.concat_eq_append] at hnodup
    rw [rows, List.map_append]
    exact hnodup
  | claimed r limit worker locked batch action pending rows =>
    rw [rows]
    refine hrewrite _ fun j => ?_
    split <;> rfl
  | driven r outcome worker l rest action run rows =>
    rw [rows]
    refine hrewrite _ fun j => ?_
    split
    · exact write_id j outcome
    · rfl
  | reaped older cap action rows =>
    rw [rows]
    exact hrewrite _ (reap_id s.now older cap)

/-! ## Terminal rows -/

/-- The row of a settled job: it keeps its count and stays settled. -/
def Settled (i n : Nat) (s : Sys) : Prop :=
  ∃ j ∈ s.jobs, j.id = i ∧ j.attempts = n ∧ j.terminal = true

theorem terminal_iff {j : Job} : j.terminal = true ↔ j.status = .done ∨ j.status = .failed := by
  unfold Job.terminal
  rw [Bool.or_eq_true, decide_eq_true_eq, decide_eq_true_eq]

theorem terminal_write {j : Job} {o : Driven} (ho : o ≠ .pending) :
    (j.write o).terminal = true := by
  cases o with
  | pending => exact absurd rfl ho
  | done => rfl
  | failed error => rfl
  | raised error => rfl

theorem reap_of_terminal {j : Job} (h : j.terminal = true) (now older cap : Int) :
    j.reap now older cap = j := by
  refine reap_of_not_stale ?_
  unfold Job.stale
  rcases terminal_iff.mp h with hs | hs <;> rw [hs] <;> rfl

theorem settled_of_step {i n : Nat} (hs : Settled i n s) (ha : a.ofQueue kind cap)
    (hnodup : (s.jobs.map Job.id).Nodup) (h : step kind s a = some s') :
    Settled i n s' ∧ claims i s a = false := by
  obtain ⟨j, hj, rfl, rfl, hterminal⟩ := hs
  cases rows_of_step h with
  | same quiet rows => exact ⟨⟨j, rows ▸ hj, rfl, rfl, hterminal⟩, (quiet j.id).1⟩
  | queued id action fresh rows =>
    rw [action]
    exact ⟨⟨j, rows ▸ List.mem_append_left _ hj, rfl, rfl, hterminal⟩, rfl⟩
  | claimed r limit worker locked batch action pending rows =>
    have hout : j.id ∉ batch := by
      intro hmem
      obtain ⟨k, hk, hid, hp⟩ := pending j.id hmem
      obtain rfl : k = j := List.inj_on_of_nodup_map hnodup hk hj hid
      rcases terminal_iff.mp hterminal with hs | hs <;> rw [hp] at hs <;> cases hs
    rw [action]
    refine ⟨⟨j, ?_, rfl, rfl, hterminal⟩, decide_eq_false hout⟩
    rw [rows]
    exact List.mem_map.mpr ⟨j, hj, if_neg hout⟩
  | driven r outcome worker l rest action run rows =>
    rw [action] at ha ⊢
    refine ⟨⟨_, rows ▸ List.mem_map_of_mem hj, ?_⟩, rfl⟩
    split
    · exact ⟨write_id j outcome, write_attempts j outcome,
        terminal_write (outcome_settles ha)⟩
    · exact ⟨rfl, rfl, hterminal⟩
  | reaped older cap' action rows =>
    rw [action]
    refine ⟨⟨j, ?_, rfl, rfl, hterminal⟩, rfl⟩
    rw [rows]
    exact List.mem_map.mpr ⟨j, hj, reap_of_terminal hterminal _ _ _⟩

/-! ## A job that nothing drives -/

/-- Where `c` claims and `e` expiries have brought the row. -/
inductive Crashing (m c e : Nat) (j : Job) : Prop
  | waiting (status : j.status = .pending) (claims : c = e) (below : c < m)
  | held (status : j.status = .claimed) (claims : c = e + 1) (below : c ≤ m)
  | dead (status : j.status = .failed) (claims : c = m) (expired : e = m)

/-- The job's row, or that it has not been queued yet. -/
structure Crashed (i m c e : Nat) (s : Sys) : Prop where
  nodup : (s.jobs.map Job.id).Nodup
  absent : (∀ j ∈ s.jobs, j.id ≠ i) → c = 0 ∧ e = 0
  row : ∀ j ∈ s.jobs, j.id = i → j.attempts = c ∧ Crashing m c e j

theorem Crashing.claim {m c e : Nat} {j : Job} (h : Crashing m c e j)
    (hp : j.status = .pending) (worker : Text) (now : Int) :
    Crashing m (c + 1) e (j.claim worker now) := by
  cases h with
  | waiting status claims below => exact .held rfl (by rw [claims]) below
  | held status => rw [hp] at status; cases status
  | dead status => rw [hp] at status; cases status

theorem Crashing.expire {c e : Nat} {j : Job} (h : Crashing (bound cap) c e j)
    (hc : j.attempts = c) {now older : Int} (hstale : j.stale (threshold now older) = true) :
    Crashing (bound cap) c (e + 1) (j.reap now older cap) := by
  have hclaimed : j.status = .claimed := by
    unfold Job.stale at hstale
    rw [Bool.and_eq_true] at hstale
    exact of_decide_eq_true hstale.1
  cases h with
  | waiting status => rw [hclaimed] at status; cases status
  | dead status => rw [hclaimed] at status; cases status
  | held status claims below =>
    rw [Job.reap, if_pos hstale, hc]
    split
    · rename_i hlt
      exact .waiting rfl claims (lt_bound hlt)
    · rename_i hcap
      have hdone : c = bound cap := Nat.le_antisymm below (bound_le (by omega) hcap)
      exact .dead rfl hdone (by omega)

theorem Crashed.rewrite {i m c e c' e' : Nat} (hs : Crashed i m c e s) {f : Job → Job}
    (hid : ∀ j, (f j).id = j.id) (rows : s'.jobs = s.jobs.map f)
    (hnodup : (s'.jobs.map Job.id).Nodup)
    (habsent : (∀ j ∈ s.jobs, j.id ≠ i) → c' = c ∧ e' = e)
    (hrow : ∀ j ∈ s.jobs, j.id = i → (f j).attempts = c' ∧ Crashing m c' e' (f j)) :
    Crashed i m c' e' s' where
  nodup := hnodup
  absent := by
    intro habs
    have hold : ∀ j ∈ s.jobs, j.id ≠ i := fun j hj hji =>
      habs (f j) (rows ▸ List.mem_map_of_mem hj) ((hid j).trans hji)
    obtain ⟨rfl, rfl⟩ := habsent hold
    exact hs.absent hold
  row := by
    intro k hk hki
    rw [rows] at hk
    obtain ⟨j, hj, rfl⟩ := List.mem_map.mp hk
    exact hrow j hj ((hid j).symm.trans hki)

theorem expires_reap {i : Nat} (hnodup : (s.jobs.map Job.id).Nodup) {j : Job} (hj : j ∈ s.jobs)
    (hid : j.id = i) (older : Int) (cap' : Int) :
    expires i s (.reap older cap') = j.stale (threshold s.now older) := by
  refine Bool.eq_iff_iff.mpr (List.any_eq_true.trans ⟨?_, fun h => ?_⟩)
  · rintro ⟨k, hk, hexp⟩
    rw [Bool.and_eq_true, decide_eq_true_eq] at hexp
    obtain rfl : k = j := List.inj_on_of_nodup_map hnodup hk hj (hexp.1.trans hid.symm)
    exact hexp.2
  · exact ⟨j, hj, by rw [decide_eq_true hid, h]; rfl⟩

theorem expires_of_absent {i : Nat} (habs : ∀ j ∈ s.jobs, j.id ≠ i) (older : Int) (cap' : Int) :
    expires i s (.reap older cap') = false := by
  refine List.any_eq_false.mpr fun j hj hexp => ?_
  rw [Bool.and_eq_true, decide_eq_true_eq] at hexp
  exact habs j hj hexp.1

/-- **Step lemma** for a job that nothing drives. -/
theorem crashed_of_step {i c e : Nat} (hs : Crashed i (bound cap) c e s)
    (ha : a.ofQueue kind cap) (hi : Undriven i s a) (h : step kind s a = some s') :
    Crashed i (bound cap) (c + (claims i s a).toNat) (e + (expires i s a).toNat) s' := by
  have hnodup := nodup_of_step hs.nodup h
  cases rows_of_step h with
  | same quiet rows =>
    rw [(quiet i).1, (quiet i).2]
    exact ⟨hnodup, rows ▸ hs.absent, rows ▸ hs.row⟩
  | queued id action fresh rows =>
    rw [action]
    refine ⟨hnodup, fun habs => hs.absent fun j hj => ?_, fun j hj hid => ?_⟩
    · exact habs j (rows ▸ List.mem_append_left _ hj)
    · rcases List.mem_append.mp (rows ▸ hj) with hj | hj
      · exact hs.row j hj hid
      · rw [List.mem_singleton.mp hj] at hid ⊢
        obtain ⟨rfl, rfl⟩ := hs.absent fun k hk hki => fresh k hk (hki.trans hid.symm)
        exact ⟨rfl, .waiting rfl rfl (bound_pos cap)⟩
  | claimed r limit worker locked batch action pending rows =>
    rw [action]
    refine hs.rewrite (fun j => by split <;> rfl) rows hnodup (fun habs => ?_) fun j hj hid => ?_
    · have hout : i ∉ batch := by
        intro hmem
        obtain ⟨j, hj, hid, -⟩ := pending i hmem
        exact habs j hj hid
      exact ⟨by rw [claims, decide_eq_false hout]; rfl, rfl⟩
    · obtain ⟨hc, hrow⟩ := hs.row j hj hid
      subst hid
      by_cases hmem : j.id ∈ batch
      · obtain ⟨k, hk, hki, hp⟩ := pending j.id hmem
        obtain rfl : k = j := List.inj_on_of_nodup_map hs.nodup hk hj hki
        rw [if_pos hmem, claims, decide_eq_true hmem]
        exact ⟨congrArg (· + 1) hc, hrow.claim hp worker s.now⟩
      · rw [if_neg hmem, claims, decide_eq_false hmem]
        exact ⟨hc, hrow⟩
  | driven r outcome worker l rest action run rows =>
    rw [action] at hi ⊢
    refine hs.rewrite (fun j => ?_) rows hnodup (fun _ => ⟨rfl, rfl⟩) fun j hj hid => ?_
    · split
      · exact write_id j outcome
      · rfl
    · rw [if_neg fun h => hi worker l rest run (h.symm.trans hid)]
      exact hs.row j hj hid
  | reaped older cap' action rows =>
    rw [action] at ha ⊢
    obtain rfl : cap' = cap := ha
    refine hs.rewrite (reap_id s.now older cap') rows hnodup (fun habs => ?_)
      fun j hj hid => ?_
    · exact ⟨rfl, by rw [expires_of_absent habs]; rfl⟩
    · obtain ⟨hc, hrow⟩ := hs.row j hj hid
      rw [expires_reap hs.nodup hj hid]
      cases hstale : j.stale (threshold s.now older) with
      | true => exact ⟨(reap_attempts _ _ _ j).trans hc, hrow.expire hc hstale⟩
      | false =>
        rw [reap_of_not_stale hstale]
        exact ⟨hc, hrow⟩

/-! ## Crashing to the end -/

/-- There is a way on in which nothing drives the job, and which leaves it failed, with
`bound cap` claims where it has had `c`. -/
def Ends (kind : Kind) (cap : Int) (i c : Nat) (s : Sys) : Prop :=
  ∃ bs u, exec (step kind) s bs = some u ∧ (∀ a ∈ bs, a.ofQueue kind cap) ∧
    Guarded (step kind) (Undriven i) s bs ∧
    c + tally (step kind) (claims i) s bs = bound cap ∧
    ∃ k ∈ u.jobs, k.id = i ∧ k.status = .failed

theorem Ends.step {i c : Nat} (h : step kind s a = some s') (ha : a.ofQueue kind cap)
    (hi : Undriven i s a) (hends : Ends kind cap i (c + (claims i s a).toNat) s') :
    Ends kind cap i c s := by
  obtain ⟨bs, u, hrun, hqueue, hguard, hcount, hrow⟩ := hends
  refine ⟨a :: bs, u, exec_cons_eq_some.mpr ⟨s', h, hrun⟩, ?_, .cons h hi hguard, ?_, hrow⟩
  · exact List.forall_mem_cons.mpr ⟨ha, hqueue⟩
  · rw [tally_cons h, ← Nat.add_assoc]
    exact hcount

theorem mem_candidates_of_pending {jobs : List Job} {j : Job} (hj : j ∈ jobs)
    (hp : j.status = .pending) : j.id ∈ candidates [] jobs.length jobs := by
  refine List.mem_map_of_mem ?_
  rw [List.take_of_length_le]
  · refine (List.mem_insertionSort _).mpr (List.mem_filter.mpr ⟨hj, ?_⟩)
    exact decide_eq_true ⟨hp, List.not_mem_nil⟩
  · refine le_trans (List.length_insertionSort _ _).le ?_
    exact List.length_filter_le _ _

theorem step_claim_all (kind : Kind) (hfree : s.runs 0 = none) :
    (step kind s (.claim 0 [] s.jobs.length [] (candidates [] s.jobs.length s.jobs))).isSome =
      true := by
  have hok : (s.runs 0).isNone ∧
      (candidates [] s.jobs.length s.jobs).isPerm (candidates [] s.jobs.length s.jobs) :=
    ⟨by rw [hfree]; rfl, List.isPerm_iff.mpr (List.Perm.refl _)⟩
  simp only [step, if_pos hok, Option.isSome_some]

/-- A job that has been queued, and that nothing has driven. -/
structure Queued (cap : Int) (i c e : Nat) (s : Sys) : Prop where
  crashed : Crashed i (bound cap) c e s
  within : ∀ j ∈ s.jobs, j.Within (bound cap)
  row : i ∈ s.jobs.map Job.id

theorem ids_of_step (h : step kind s a = some s') : s.jobs.map Job.id ⊆ s'.jobs.map Job.id := by
  have hrewrite : ∀ f : Job → Job, (∀ j, (f j).id = j.id) →
      s.jobs.map Job.id ⊆ (s.jobs.map f).map Job.id := by
    intro f hf
    rw [List.map_map]
    rw [List.map_congr_left fun j _ => (hf j).symm]
    exact List.Subset.refl _
  cases rows_of_step h with
  | same quiet rows => exact rows ▸ List.Subset.refl _
  | queued id action fresh rows =>
    rw [rows, List.map_append]
    exact List.subset_append_left _ _
  | claimed r limit worker locked batch action pending rows =>
    rw [rows]
    exact hrewrite _ fun j => by split <;> rfl
  | driven r outcome worker l rest action run rows =>
    rw [rows]
    refine hrewrite _ fun j => ?_
    split
    · exact write_id j outcome
    · rfl
  | reaped older cap action rows =>
    rw [rows]
    exact hrewrite _ (reap_id s.now older cap)

theorem Queued.step {i c e : Nat} (hs : Queued cap i c e s) (h : step kind s a = some s')
    (ha : a.ofQueue kind cap) (hi : Undriven i s a) :
    Queued cap i (c + (claims i s a).toNat) (e + (expires i s a).toNat) s' where
  crashed := crashed_of_step hs.crashed ha hi h
  within := within_of_step hs.within ha hs.crashed.nodup h
  row := ids_of_step h hs.row

theorem ends_of_pending {i c e : Nat} (hs : Queued cap i c e s) {j : Job} (hj : j ∈ s.jobs)
    (hid : j.id = i) (hp : j.status = .pending)
    (hnext : ∀ s', Queued cap i (c + 1) e s' → Ends kind cap i (c + 1) s') :
    Ends kind cap i c s := by
  -- once run 0 is free
  have hfree : ∀ u : Sys, u.runs 0 = none → u.jobs = s.jobs → Queued cap i c e u →
      Ends kind cap i c u := by
    intro u hu hjobs hq
    obtain ⟨v, hv⟩ := Option.isSome_iff_exists.mp (step_claim_all kind hu)
    have hmem : i ∈ candidates [] u.jobs.length u.jobs :=
      hid ▸ mem_candidates_of_pending (hjobs ▸ hj) hp
    have hclaims : ∀ w l, claims i u (.claim 0 w l [] (candidates [] u.jobs.length u.jobs)) =
        true := fun _ _ => decide_eq_true hmem
    have hq' := hq.step hv trivial trivial
    refine Ends.step hv trivial trivial ?_
    rw [hclaims] at hq' ⊢
    exact hnext v hq'
  cases hrun : s.runs 0 with
  | none => exact hfree s hrun rfl hs
  | some wr =>
    have hstop : Queue.step kind s (.stop 0) = some (s.setRun 0 none) := by
      simp only [Queue.step, hrun]
    refine Ends.step hstop trivial trivial (hfree (s.setRun 0 none) rfl rfl ?_)
    exact hs.step hstop trivial trivial

theorem ends_of_claimed {i c e : Nat} (hs : Queued cap i c e s) {j : Job} (hj : j ∈ s.jobs)
    (hid : j.id = i) (hclaimed : j.status = .claimed)
    (hnext : ∀ s', Queued cap i c (e + 1) s' → Ends kind cap i c s') :
    Ends kind cap i c s := by
  obtain ⟨t, ht⟩ := Option.ne_none_iff_exists'.mp ((hs.within j hj).dated hclaimed)
  have htick : Queue.step kind s (.tick ((t - s.now).toNat + 60)) =
      some { s with now := s.now + ((t - s.now).toNat + 60 : Nat) } := rfl
  have hq := hs.step htick trivial trivial
  refine Ends.step htick trivial trivial ?_
  generalize hu : ({ s with now := s.now + ((t - s.now).toNat + 60 : Nat) } : Sys) = u at hq ⊢
  have hreap : Queue.step kind u (.reap 1 cap) =
      some { u with jobs := (reapStaleJobs u.now 1 cap u.jobs).jobs } := rfl
  have hexp : expires i u (.reap 1 cap) = true := by
    refine List.any_eq_true.mpr ⟨j, by rw [← hu]; exact hj, ?_⟩
    have hdue : t ≤ threshold u.now 1 := by
      rw [← hu, threshold]
      show t ≤ s.now + ((t - s.now).toNat + 60 : Nat) - 60 * max 1 1
      omega
    rw [Bool.and_eq_true, decide_eq_true_eq, Job.stale, ht, decide_eq_true hclaimed]
    exact ⟨hid, decide_eq_true hdue⟩
  have hq' := hq.step hreap rfl trivial
  rw [hexp] at hq'
  exact Ends.step hreap rfl trivial (hnext _ hq')

/-- **A job that crashes its worker every time comes to its end.** -/
theorem ends_of_queued {i c e : Nat} (hs : Queued cap i c e s) : Ends kind cap i c s := by
  -- on the claims and expiries still to come
  induction hd : 2 * bound cap - (c + e) using Nat.strongRecOn generalizing s c e with
  | ind d ih =>
  obtain ⟨j, hj, hid⟩ := List.mem_map.mp hs.row
  cases (hs.crashed.row j hj hid).2 with
  | waiting status hclaims below =>
    exact ends_of_pending hs hj hid status fun s' h => ih _ (by omega) h rfl
  | held status hclaims below =>
    exact ends_of_claimed hs hj hid status fun s' h => ih _ (by omega) h rfl
  | dead status hclaims expired =>
    exact ⟨[], s, rfl, List.forall_mem_nil _, trivial, hclaims, j, hj, hid, status⟩

end Steps

/-! ## The contract -/

/-- **The retry contract** of a run that has come to `t`, for `m` claims a job. -/
structure Contract (kind : Kind) (cap : Int) (m : Nat) (s : Sys) (as : List Action) (t : Sys) :
    Prop where
  /-- no job is claimed more than `m` times -/
  attempts : ∀ j ∈ t.jobs, j.attempts ≤ m
  /-- a job that nothing drives is failed once its `m`-th claim has expired, and not before -/
  crashing : ∀ i, Guarded (step kind) (Undriven i) s as → ∀ j ∈ t.jobs, j.id = i →
    j.attempts = tally (step kind) (claims i) s as ∧
    Crashing m (tally (step kind) (claims i) s as) (tally (step kind) (expires i) s as) j
  /-- and its claims can always go on to be that many -/
  ends : ∀ i, Guarded (step kind) (Undriven i) s as → (∃ j ∈ t.jobs, j.id = i) →
    ∃ bs u, exec (step kind) t bs = some u ∧ (∀ a ∈ bs, a.ofQueue kind cap) ∧
      Guarded (step kind) (Undriven i) t bs ∧
      tally (step kind) (claims i) s (as ++ bs) = m ∧
      ∃ k ∈ u.jobs, k.id = i ∧ k.status = .failed
  /-- a terminal job stays so, and no step claims it -/
  settled : ∀ bs cs u, as = bs ++ cs → exec (step kind) s bs = some u → ∀ j ∈ u.jobs,
    j.terminal = true → tally (step kind) (claims j.id) u cs = 0 ∧
      ∃ k ∈ t.jobs, k.id = j.id ∧ k.terminal = true

section Runs

variable {kind : Kind} {cap now : Int} {as : List Action} {s t : Sys}

theorem rows_of_run (hqueue : ∀ a ∈ as, a.ofQueue kind cap)
    (hrun : exec (step kind) (start now) as = some t) :
    (t.jobs.map Job.id).Nodup ∧ ∀ j ∈ t.jobs, j.Within (bound cap) := by
  refine exec_invariant_of_mem (G := fun a => a.ofQueue kind cap)
    (I := fun s => (s.jobs.map Job.id).Nodup ∧ ∀ j ∈ s.jobs, j.Within (bound cap))
    (fun s a s' hs ha h => ?_) ⟨List.nodup_nil, List.forall_mem_nil _⟩ hqueue hrun
  exact ⟨nodup_of_step hs.1 h, within_of_step hs.2 ha hs.1 h⟩

theorem crashed_of_run {i : Nat} (hqueue : ∀ a ∈ as, a.ofQueue kind cap)
    (hcrash : Guarded (step kind) (Undriven i) (start now) as)
    (hrun : exec (step kind) (start now) as = some t) :
    Crashed i (bound cap) (tally (step kind) (claims i) (start now) as)
      (tally (step kind) (expires i) (start now) as) t := by
  have hstart : Crashed i (bound cap) 0 0 (start now) :=
    ⟨List.nodup_nil, fun _ => ⟨rfl, rfl⟩, List.forall_mem_nil _⟩
  have hboth : Guarded (step kind) (fun s a => Undriven i s a ∧ a.ofQueue kind cap)
      (start now) as := by
    refine guarded_iff.mpr fun bs a cs u heq hbs => ⟨guarded_iff.mp hcrash bs a cs u heq hbs, ?_⟩
    exact hqueue a (heq ▸ List.mem_append_right bs List.mem_cons_self)
  have hcount := tally_invariant (I := fun c e s => Crashed i (bound cap) c e s)
    (fun c e s a s' hs hg h => crashed_of_step hs hg.2 hg.1 h) hstart hboth hrun
  rwa [Nat.zero_add, Nat.zero_add] at hcount

theorem settled_of_run {i n : Nat} (hs : Settled i n s) (hnodup : (s.jobs.map Job.id).Nodup)
    (hqueue : ∀ a ∈ as, a.ofQueue kind cap) (hrun : exec (step kind) s as = some t) :
    Settled i n t ∧ tally (step kind) (claims i) s as = 0 := by
  have hcount := tally_invariant (P := claims i) (Q := claims i)
    (I := fun c _ s => c = 0 ∧ Settled i n s ∧ (s.jobs.map Job.id).Nodup)
    (G := fun _ a => a.ofQueue kind cap) (fun c e s a s' hs ha h => ?_) ⟨rfl, hs, hnodup⟩
    (guarded_of_forall_mem hqueue s) hrun (n := 0)
  · rw [Nat.zero_add] at hcount
    exact ⟨hcount.2.1, hcount.1⟩
  · obtain ⟨hsettled, hquiet⟩ := settled_of_step hs.2.1 ha hs.2.2 h
    exact ⟨by rw [hs.1, hquiet]; rfl, hsettled, nodup_of_step hs.2.2 h⟩

/-- **Attempts are capped**, in every run of a queue, with late outcomes and all. -/
theorem retry_contract (hqueue : ∀ a ∈ as, a.ofQueue kind cap)
    (hrun : exec (step kind) (start now) as = some t) :
    Contract kind cap (bound cap) (start now) as t where
  attempts j hj := ((rows_of_run hqueue hrun).2 j hj).attempts
  crashing i hcrash := (crashed_of_run hqueue hcrash hrun).row
  ends := by
    intro i hcrash ⟨j, hj, hid⟩
    have hq : Queued cap i _ _ t := ⟨crashed_of_run hqueue hcrash hrun,
      (rows_of_run hqueue hrun).2, hid ▸ List.mem_map_of_mem hj⟩
    obtain ⟨bs, u, hbs, hqueue', hguard, hcount, hrow⟩ := ends_of_queued hq
    exact ⟨bs, u, hbs, hqueue', hguard, (tally_append hrun bs).trans hcount, hrow⟩
  settled := by
    rintro bs cs u rfl hbs j hj hterminal
    obtain ⟨u', hu', hcs⟩ := exec_append_eq_some.mp hrun
    obtain rfl : u = u' := Option.some.inj (hbs.symm.trans hu')
    have hqueue₁ : ∀ a ∈ bs, a.ofQueue kind cap := fun a ha =>
      hqueue a (List.mem_append_left cs ha)
    have hqueue₂ : ∀ a ∈ cs, a.ofQueue kind cap := fun a ha =>
      hqueue a (List.mem_append_right bs ha)
    obtain ⟨⟨k, hk, hki, -, hkt⟩, hzero⟩ := settled_of_run ⟨j, hj, rfl, rfl, hterminal⟩
      (rows_of_run hqueue₁ hbs).1 hqueue₂ hcs
    exact ⟨hzero, k, hk, hki, hkt⟩

end Runs

/-- Two workers crash on one job, whose first claim has a late outcome. -/
theorem retry_contract_late :
    let as : List Action := [.enqueue 1, .claim 0 ['a'] 1 [] [1], .tick 60, .reap 1 2,
      .claim 1 ['b'] 1 [] [1], .drive 0 .done]
    ∃ t, exec (step .assessment) (start 0) as = some t ∧
      t.jobs.map (fun j => (j.status, j.attempts)) = [(.done, 2)] ∧
      Contract .assessment 2 2 (start 0) as t := by
  intro as
  have hqueue : ∀ a ∈ as, a.ofQueue .assessment 2 := by
    intro a ha
    simp only [as, List.mem_cons, List.not_mem_nil, or_false] at ha
    rcases ha with rfl | rfl | rfl | rfl | rfl | rfl <;> trivial
  exact ⟨_, rfl, rfl, retry_contract hqueue rfl⟩

/-- With a cap of zero a job is claimed all the same, and only then dead-lettered. -/
theorem claimed_over_cap_zero :
    let as : List Action := [.enqueue 1, .claim 0 ['a'] 1 [] [1], .stop 0, .tick 60, .reap 1 0]
    ∃ t, exec (step .prep) (start 0) as = some t ∧ (∀ a ∈ as, a.ofQueue .prep 0) ∧
      t.jobs.map (fun j => (j.status, j.attempts)) = [(.failed, 1)] ∧
      ¬ ∀ j ∈ t.jobs, (j.attempts : Int) ≤ 0 := by
  intro as
  have hqueue : ∀ a ∈ as, a.ofQueue .prep 0 := by
    intro a ha
    simp only [as, List.mem_cons, List.not_mem_nil, or_false] at ha
    rcases ha with rfl | rfl | rfl | rfl | rfl <;> trivial
  refine ⟨_, rfl, hqueue, rfl, fun h => ?_⟩
  exact absurd (h _ List.mem_cons_self) (by decide)

end Concord.Queue
