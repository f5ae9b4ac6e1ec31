import Concord.Governance.DigestAlerts

/-!
# The digest twice a day

A run of the digest raises the priority of every overdue task: to high, or from high to critical. It
does so on each run, and not once for each task or day, so that a second run on the same day raises
the tasks that the first one left at high. The alert of a task is kept under its id and due date;
its row is written for the organization of the run, which is none for the platform, and stays with
whom it was first written for.

`steady_iff`: the digests of a history are idempotent, never lower a priority, and alert each
organization to the tasks that they raise, if and only if every task they find overdue is already of
high priority, and its organization has the alert or is the one that the digest is for.
-/

namespace Concord.Digest

open Concord.Base
open Concord.Bus
open Concord.Python

/-! ## Notices that repeat -/

def rowAfter (rows : Notifications) (n : Notice) : Notification :=
  match rows.get? n.heldKey with
  | some r => r.refresh n
  | none => n.row

theorem rowAfter_refresh (rows : Notifications) (n : Notice) :
    (rowAfter rows n).refresh n = rowAfter rows n := by
  unfold rowAfter
  split <;> rfl

/-- What a notice that was taken has left, and has asked for. -/
structure Taken (tenant : Option Nat) (rows : Notifications) (n : Notice) : Prop where
  takes : n.takes = true
  seen : sees tenant (rowAfter rows n) = true
  short : (rows.get? n.heldKey).isSome = true → n.dedupeKey.length ≤ 200

section Notices

variable {tenant : Option Nat} {rows rows' : Notifications} {n : Notice} {ns : List Notice}

theorem notify_eq_ok :
    notify tenant rows n = .ok rows' ↔
      Taken tenant rows n ∧ rows' = rows.set n.heldKey (rowAfter rows n) := by
  unfold notify
  cases hrow : existing tenant rows n with
  | some r =>
    obtain ⟨hget, hshort, hsees⟩ := existing_eq_some.mp hrow
    have hafter : rowAfter rows n = r.refresh n := by rw [rowAfter, hget]
    dsimp only
    rw [hafter]
    constructor
    · intro h
      split at h
      · rename_i htakes
        exact ⟨⟨htakes, hafter ▸ hsees, fun _ => hshort⟩, (Except.ok.inj h).symm⟩
      · cases h
    · rintro ⟨htaken, rfl⟩
      exact if_pos htaken.takes
  | none =>
    dsimp only
    rw [insert_eq_ok]
    constructor
    · rintro ⟨htakes, hsees, hnone, rfl⟩
      have hafter : rowAfter rows n = n.row := by rw [rowAfter, hnone]
      refine ⟨⟨htakes, hafter ▸ hsees, fun hsome => ?_⟩, by rw [hafter]⟩
      rw [hnone] at hsome
      cases hsome
    · rintro ⟨htaken, rfl⟩
      cases hget : rows.get? n.heldKey with
      | some r =>
        have hafter : rowAfter rows n = r.refresh n := by rw [rowAfter, hget]
        have hsees : sees tenant (r.refresh n) = true := hafter ▸ htaken.seen
        have hfound := existing_eq_some.mpr ⟨hget, htaken.short (by rw [hget]; rfl), hsees⟩
        rw [hfound] at hrow
        cases hrow
      | none =>
        have hafter : rowAfter rows n = n.row := by rw [rowAfter, hget]
        rw [hafter]
        exact ⟨htaken.takes, hafter ▸ htaken.seen, rfl, rfl⟩

theorem rowAfter_congr (h : rows'.get? n.heldKey = rows.get? n.heldKey) :
    rowAfter rows' n = rowAfter rows n := by
  unfold rowAfter
  rw [h]

theorem Taken.congr (h : rows'.get? n.heldKey = rows.get? n.heldKey)
    (ht : Taken tenant rows n) : Taken tenant rows' n where
  takes := ht.takes
  seen := by
    rw [rowAfter_congr h]
    exact ht.seen
  short := by
    rw [h]
    exact ht.short

/-- **A series of notices** with keys of their own is taken if each is. -/
theorem exists_notifyAll_iff (hnodup : (ns.map Notice.heldKey).Nodup) :
    (∃ rows', notifyAll tenant rows ns = .ok rows') ↔ ∀ n ∈ ns, Taken tenant rows n := by
  induction ns generalizing rows with
  | nil => exact iff_of_true ⟨rows, rfl⟩ (fun n hn => absurd hn List.not_mem_nil)
  | cons n ns ih =>
    rw [List.map_cons, List.nodup_cons] at hnodup
    -- the others do not see the row of the first
    have hother : ∀ m ∈ ns,
        (rows.set n.heldKey (rowAfter rows n)).get? m.heldKey = rows.get? m.heldKey := by
      intro m hm
      have hne : n.heldKey ≠ m.heldKey := fun heq => hnodup.1 (heq ▸ List.mem_map_of_mem hm)
      rw [Dict.get?_set, if_neg hne]
    rw [List.forall_mem_cons]
    constructor
    · rintro ⟨rows', h⟩
      obtain ⟨mid, hn, hns⟩ := notifyAll_cons_eq_ok.mp h
      obtain ⟨htaken, rfl⟩ := notify_eq_ok.mp hn
      have hall := (ih hnodup.2).mp ⟨rows', hns⟩
      exact ⟨htaken, fun m hm => (hall m hm).congr (hother m hm).symm⟩
    · rintro ⟨htaken, hall⟩
      obtain ⟨rows', h⟩ := (ih hnodup.2).mpr fun m hm => (hall m hm).congr (hother m hm)
      exact ⟨rows', notifyAll_cons_eq_ok.mpr ⟨_, notify_eq_ok.mpr ⟨htaken, rfl⟩, h⟩⟩

theorem get?_notifyAll (hnodup : (ns.map Notice.heldKey).Nodup)
    (h : notifyAll tenant rows ns = .ok rows') (hn : n ∈ ns) :
    rows'.get? n.heldKey = some (rowAfter rows n) := by
  induction ns generalizing rows with
  | nil => exact absurd hn List.not_mem_nil
  | cons m ns ih =>
    rw [List.map_cons, List.nodup_cons] at hnodup
    obtain ⟨mid, hm, hns⟩ := notifyAll_cons_eq_ok.mp h
    obtain ⟨-, rfl⟩ := notify_eq_ok.mp hm
    rcases List.mem_cons.mp hn with rfl | hn
    · rw [get?_notifyAll_of_notMem hns hnodup.1, Dict.get?_set, if_pos rfl]
    · have hne : m.heldKey ≠ n.heldKey := fun heq => hnodup.1 (heq ▸ List.mem_map_of_mem hn)
      rw [ih hnodup.2 hns hn, rowAfter_congr]
      rw [Dict.get?_set, if_neg hne]

theorem notifyAll_again (hrows : ∀ n ∈ ns, ∃ r, rows.get? n.heldKey = some r ∧ r.refresh n = r)
    (h : notifyAll tenant rows ns = .ok rows') : rows' = rows := by
  induction ns generalizing rows with
  | nil => exact (Except.ok.inj h).symm
  | cons n ns ih =>
    rw [List.forall_mem_cons] at hrows
    obtain ⟨⟨r, hr, hrefresh⟩, hrest⟩ := hrows
    obtain ⟨mid, hn, hns⟩ := notifyAll_cons_eq_ok.mp h
    obtain ⟨-, rfl⟩ := notify_eq_ok.mp hn
    have hsame : rows.set n.heldKey (rowAfter rows n) = rows := by
      rw [rowAfter, hr]
      exact Dict.set_eq_self (hrefresh ▸ hr)
    rw [hsame] at hns
    exact ih hrest hns

end Notices

/-! ## The tasks after a run -/

/-- How high a priority is; what is no priority is lowest. -/
def rank (priority : Text) : Nat :=
  if priority = "critical".toList then 3
  else if priority = "high".toList then 2
  else if priority = "medium".toList then 1
  else 0

/-- The task is overdue, and its priority is not yet critical. -/
def escalates (org : Option Nat) (today : Date) (task : Task) : Bool :=
  task.dueOn.any fun due => overdue today org task due && decide (task.priority ≠ "critical".toList)

def Tables.after (org : Option Nat) (today : Date) (t : Tables) : Tables :=
  { t with tasks := escalated org today t }

section Tasks

variable {org : Option Nat} {today : Date} {t : Tables} {id : RowId}

theorem mem_escalatable {q : RowId × Task × Date} : q ∈ escalatable org today t ↔
    t.tasks.get? q.1 = some q.2.1 ∧ q.2.1.dueOn = some q.2.2 ∧ escalates org today q.2.1 = true := by
  rw [escalatable, mem_dated]
  refine and_congr_right fun _ => and_congr_right fun hdue => ?_
  rw [escalates, hdue, Option.any_some]

theorem get?_escalated : (escalated org today t).get? id =
    (t.tasks.get? id).map fun task => if escalates org today task then task.escalate else task := by
  let writes := (escalatable org today t).map fun q => (q.1, q.2.1.escalate)
  have hwrite : escalated org today t =
      writes.foldl (fun tasks p => tasks.set p.1 p.2) t.tasks := by
    rw [escalated, List.foldl_map]
  have hnone : (∀ task, t.tasks.get? id = some task → escalates org today task = false) →
      (writes.reverse.find? fun p => p.1 = id) = none := by
    intro hall
    refine List.find?_eq_none.mpr fun p hp hkey => ?_
    obtain ⟨q, hq, rfl⟩ := List.mem_map.mp (List.mem_reverse.mp hp)
    obtain ⟨hrow, -, hdue⟩ := mem_escalatable.mp hq
    have hid : q.1 = id := by simpa using hkey
    rw [hall q.2.1 (hid ▸ hrow)] at hdue
    cases hdue
  rw [hwrite, Dict.get?_foldl_set]
  cases hrow : t.tasks.get? id with
  | none =>
    rw [hnone fun task htask => by rw [hrow] at htask; cases htask]
    rfl
  | some task =>
    cases hdue : escalates org today task with
    | false =>
      rw [hnone fun task' htask' => by rw [hrow] at htask'; exact Option.some.inj htask' ▸ hdue]
      simp [hdue]
    | true =>
      obtain ⟨d, hd, -⟩ := (Option.any_eq_true _ _).mp hdue
      have hmem : (id, task.escalate) ∈ writes.reverse :=
        List.mem_reverse.mpr (List.mem_map.mpr
          ⟨(id, task, d), mem_escalatable.mpr ⟨hrow, hd, hdue⟩, rfl⟩)
      have hnodup : (writes.reverse.map Prod.fst).Nodup := by
        rw [List.map_reverse, List.nodup_reverse, List.map_map]
        exact nodup_dated
      rw [Base.find_of_nodup hnodup hmem]
      simp [hdue]

theorem priority_escalate (task : Task) : task.escalate.priority =
    if task.priority = "high".toList then "critical".toList else "high".toList := rfl

theorem escalates_escalate {task : Task} (h : escalates org today task = true) :
    escalates org today task.escalate = true ↔ task.priority ≠ "high".toList := by
  obtain ⟨d, hd, hoverdue⟩ := (Option.any_eq_true _ _).mp h
  rw [Bool.and_eq_true] at hoverdue
  have hsame : escalates org today task.escalate =
      decide (task.escalate.priority ≠ "critical".toList) := by
    rw [escalates, show task.escalate.dueOn = some d from hd, Option.any_some,
      show overdue today org task.escalate d = true from hoverdue.1, Bool.true_and]
  rw [hsame, decide_eq_true_eq, priority_escalate]
  split
  · rename_i hhigh
    exact iff_of_false (fun hne => hne rfl) (fun hne => hne hhigh)
  · rename_i hhigh
    exact iff_of_true (by decide) hhigh

/-- **What a second run escalates** are the tasks that the first has not brought to critical. -/
theorem mem_escalatable_after {q : RowId × Task × Date} :
    q ∈ escalatable org today (t.after org today) ↔
      ∃ task, (q.1, task, q.2.2) ∈ escalatable org today t ∧ task.priority ≠ "high".toList ∧
        q.2.1 = task.escalate := by
  have hrow : (t.after org today).tasks.get? q.1 =
      (t.tasks.get? q.1).map fun task => if escalates org today task then task.escalate else task :=
    get?_escalated
  rw [mem_escalatable, hrow]
  constructor
  · rintro ⟨htask, hdate, hdue⟩
    obtain ⟨task, hold, htask⟩ := Option.map_eq_some_iff.mp htask
    cases hbefore : escalates org today task with
    | false =>
      rw [hbefore, if_neg Bool.false_ne_true] at htask
      rw [htask, hdue] at hbefore
      cases hbefore
    | true =>
      rw [hbefore, if_pos rfl] at htask
      rw [← htask] at hdate hdue
      refine ⟨task, mem_escalatable.mpr ⟨hold, hdate, hbefore⟩, ?_, htask.symm⟩
      exact (escalates_escalate hbefore).mp hdue
  · rintro ⟨task, hmem, hhigh, htask⟩
    obtain ⟨hold, hdate, hbefore⟩ := mem_escalatable.mp hmem
    rw [hold, Option.map_some, hbefore, if_pos rfl, htask]
    exact ⟨rfl, hdate, (escalates_escalate hbefore).mpr hhigh⟩

theorem rank_escalate {task : Task} (h : escalates org today task = true) :
    rank task.priority < rank task.escalate.priority := by
  obtain ⟨d, -, hoverdue⟩ := (Option.any_eq_true _ _).mp h
  rw [Bool.and_eq_true, decide_eq_true_eq] at hoverdue
  rw [priority_escalate]
  by_cases hhigh : task.priority = "high".toList
  · rw [if_pos hhigh, hhigh]
    decide
  · rw [if_neg hhigh, rank, if_neg hoverdue.2, if_neg hhigh]
    split <;> decide

end Tasks

/-! ## The alerts of a second run -/

section Again

variable {org tenant : Option Nat} {today : Date} {d d' : Desk}

theorem run_eq_ok {c : Counts} (h : run org today tenant d = .ok (d', c)) :
    d'.tables = d.tables.after org today ∧
      notifyAll tenant d.notifications (alerts org today d.tables) = .ok d'.notifications := by
  obtain ⟨rows, hrows, heq⟩ := map_eq_ok.mp h
  obtain ⟨rfl, -⟩ := Prod.mk.inj heq
  exact ⟨rfl, hrows⟩

theorem alerts_after (org : Option Nat) (today : Date) (t : Tables) :
    alerts org today (t.after org today) =
      ((escalatable org today (t.after org today)).map fun q =>
        taskAlert org q.1 q.2.1.escalate q.2.2) ++ (sections org today t).flatMap Prod.snd := rfl

theorem length_taskAlert (org : Option Nat) (id : RowId) (task : Task) (date : Date) :
    (taskAlert org id task date).dedupeKey.length ≤ 200 := by
  have hid := id.digits
  have hlength : (taskAlert org id task date).dedupeKey.length =
      "task-overdue".toList.length + ((natText id.id).length + 1) + (10 + 1) := by
    simp only [taskAlert, alertKey, Option.elim_some, List.length_append, List.length_cons,
      isoformat_length]
  have hfamily : "task-overdue".toList.length = 12 := rfl
  omega

theorem taken_again {rows rows' : Notifications} {ns : List Notice}
    (hnodup : (ns.map Notice.heldKey).Nodup) (h : notifyAll tenant rows ns = .ok rows')
    {n m : Notice} (hn : n ∈ ns) (hkey : m.dedupeKey = n.dedupeKey)
    (hshort : m.dedupeKey.length ≤ 200) (htakes : n.takes = true → m.takes = true) :
    Taken tenant rows' m := by
  have htaken := (exists_notifyAll_iff hnodup).mp ⟨rows', h⟩ n hn
  have hheld : m.heldKey = n.heldKey := by rw [Notice.heldKey, Notice.heldKey, hkey]
  have hrow : rows'.get? m.heldKey = some (rowAfter rows n) := hheld ▸ get?_notifyAll hnodup h hn
  have hafter : rowAfter rows' m = (rowAfter rows n).refresh m := by rw [rowAfter, hrow]
  refine ⟨htakes htaken.takes, ?_, fun _ => hshort⟩
  rw [hafter]
  exact htaken.seen

theorem nulFree_append {s s' : Text} :
    nulFree (s ++ s') = true ↔ nulFree s = true ∧ nulFree s' = true := by
  simp [nulFree]

theorem takes_taskAlert {id : RowId} {task : Task} {date : Date}
    (h : (taskAlert org id task date).takes = true) :
    (taskAlert org id task.escalate date).takes = true := by
  have hpriority : nulFree task.escalate.priority = true := by
    rw [priority_escalate]
    split <;> decide
  simp only [Notice.takes, taskAlert, Option.all_some, nulFree_append, Bool.and_eq_true] at h ⊢
  exact ⟨h.1, ⟨h.2.1.1, hpriority⟩, h.2.2⟩

/-- The tasks that are escalated are of high priority already. -/
def AllHigh (org : Option Nat) (today : Date) (t : Tables) : Prop :=
  ∀ q ∈ escalatable org today t, q.2.1.priority = "high".toList

/-- The key of an alert is cut off by its column, so that its row is not found again. -/
def Unfindable (org : Option Nat) (today : Date) (t : Tables) : Prop :=
  ∃ n ∈ alerts org today t, 200 < n.dedupeKey.length

section Twice

variable {c : Counts}

theorem exists_run_again (h : run org today tenant d = .ok (d', c))
    (hshort : ¬Unfindable org today d.tables) :
    ∃ d'' c', run org today tenant d' = .ok (d'', c') := by
  obtain ⟨htables, hrows⟩ := run_eq_ok h
  have hnodup := nodup_alerts org today d.tables
  have htaken : ∀ n ∈ alerts org today d'.tables, Taken tenant d'.notifications n := by
    intro n hn
    rw [htables, alerts_after, List.mem_append] at hn
    rcases hn with hn | hn
    · obtain ⟨q, hq, rfl⟩ := List.mem_map.mp hn
      obtain ⟨task, hmem, -, htask⟩ := mem_escalatable_after.mp hq
      have hfirst : taskAlert org q.1 task.escalate q.2.2 ∈ alerts org today d.tables :=
        List.mem_append_left _ (List.mem_map.mpr ⟨_, hmem, rfl⟩)
      rw [htask]
      exact taken_again hnodup hrows hfirst rfl (length_taskAlert _ _ _ _) takes_taskAlert
    · have hsame : n ∈ alerts org today d.tables := List.mem_append_right _ hn
      refine taken_again hnodup hrows hsame rfl (Nat.le_of_not_lt fun hlong => ?_) id
      exact hshort ⟨n, hsame, hlong⟩
  obtain ⟨rows, hagain⟩ := (exists_notifyAll_iff (nodup_alerts org today d'.tables)).mpr htaken
  exact ⟨_, _, map_eq_ok.mpr ⟨rows, hagain, rfl⟩⟩

theorem tables_run_again (h : run org today tenant d = .ok (d', c)) {d'' : Desk} {c' : Counts}
    (h' : run org today tenant d' = .ok (d'', c')) (hsame : d''.tables = d'.tables) :
    AllHigh org today d.tables := by
  obtain ⟨htables, -⟩ := run_eq_ok h
  obtain ⟨htables', -⟩ := run_eq_ok h'
  intro q hq
  by_contra hhigh
  obtain ⟨hrow, -, hescalates⟩ := mem_escalatable.mp hq
  have hfirst : d'.tables.tasks.get? q.1 = some q.2.1.escalate := by
    rw [htables]
    refine get?_escalated.trans ?_
    rw [hrow, Option.map_some, if_pos hescalates]
  have hagain := (escalates_escalate hescalates).mpr hhigh
  have hsecond : d''.tables.tasks.get? q.1 = some q.2.1.escalate.escalate := by
    rw [htables']
    refine get?_escalated.trans ?_
    rw [hfirst, Option.map_some, if_pos hagain]
  rw [hsame, hfirst, Option.some.injEq] at hsecond
  have hrank := rank_escalate hagain
  rw [← hsecond] at hrank
  exact absurd hrank (Nat.lt_irrefl _)

theorem run_again_eq (h : run org today tenant d = .ok (d', c)) {d'' : Desk} {c' : Counts}
    (h' : run org today tenant d' = .ok (d'', c')) (hhigh : AllHigh org today d.tables) :
    d'' = d' := by
  obtain ⟨htables, hrows⟩ := run_eq_ok h
  obtain ⟨htables', hrows'⟩ := run_eq_ok h'
  have hnone : escalatable org today (d.tables.after org today) = [] := by
    refine List.eq_nil_iff_forall_not_mem.mpr fun q hq => ?_
    obtain ⟨task, hmem, hne, -⟩ := mem_escalatable_after.mp hq
    exact hne (hhigh _ hmem)
  have htasks : d'.tables.after org today = d'.tables := by
    rw [htables, Tables.after, escalated, hnone]
    rfl
  have hnotices : alerts org today d'.tables = (sections org today d.tables).flatMap Prod.snd := by
    rw [htables, alerts_after, hnone]
    rfl
  rw [hnotices] at hrows'
  have hnotifications : d''.notifications = d'.notifications := by
    refine notifyAll_again (fun n hn => ?_) hrows'
    have hmem : n ∈ alerts org today d.tables := List.mem_append_right _ hn
    exact ⟨_, get?_notifyAll (nodup_alerts org today d.tables) hrows hmem,
      rowAfter_refresh _ n⟩
  cases d''
  cases d'
  simp only [Desk.mk.injEq]
  exact ⟨htables'.trans htasks, hnotifications⟩

theorem run_again_error (h : run org today tenant d = .ok (d', c))
    (hlong : Unfindable org today d.tables) : ¬∃ d'' c', run org today tenant d' = .ok (d'', c') := by
  rintro ⟨d'', c', h'⟩
  obtain ⟨htables, hrows⟩ := run_eq_ok h
  obtain ⟨-, hrows'⟩ := run_eq_ok h'
  obtain ⟨n, hn, hlength⟩ := hlong
  have hsection : n ∈ (sections org today d.tables).flatMap Prod.snd := by
    refine (List.mem_append.mp hn).resolve_left fun htask => ?_
    obtain ⟨q, -, rfl⟩ := List.mem_map.mp htask
    have hshort := length_taskAlert org q.1 q.2.1.escalate q.2.2
    omega
  have hagain : n ∈ alerts org today d'.tables := by
    rw [htables, alerts_after]
    exact List.mem_append_right _ hsection
  have htaken := (exists_notifyAll_iff (nodup_alerts org today d'.tables)).mp ⟨_, hrows'⟩ n hagain
  have hfound := get?_notifyAll (nodup_alerts org today d.tables) hrows hn
  have hshort := htaken.short (by rw [hfound]; rfl)
  omega

end Twice

end Again

/-! ## Histories -/

/-- **What is asked of a digest**: run again on the same day it changes nothing, no priority is
lowered, and the organization of a task whose priority is raised has the alert. -/
def Steady (d : Desk) : Action → Prop
  | .digest today org clamped => ∀ d', step d (.digest today org clamped) = some d' →
      step d' (.digest today org clamped) = some d' ∧
      (∀ id task, d.tables.tasks.get? id = some task → ∃ task',
        d'.tables.tasks.get? id = some task' ∧ rank task.priority ≤ rank task'.priority) ∧
      ∀ id task task' due owner, d.tables.tasks.get? id = some task →
        d'.tables.tasks.get? id = some task' → task'.priority ≠ task.priority →
          task'.dueOn = some due → task'.organizationId = some owner →
            Shown Any owner d'.notifications (taskAlert org id task' due)
  | .elsewhere _ => True

/-- The organization has the row of a notice; or there is none, and the notice is for it. -/
def Held (owner : Nat) (rows : Notifications) (n : Notice) : Prop :=
  (∀ r, rows.get? n.heldKey = some r → r.organizationId = some owner) ∧
    (rows.get? n.heldKey = none → n.orgId = some owner)

/-- **When it is met**: the digest raises; or the tasks that it escalates are of high priority (or
it raises the second time), and the alert of each is its organization's. -/
def MeetsTwice (d : Desk) : Action → Prop
  | .digest today org clamped =>
      (run org today (sessionTenant clamped org) d).isOk = true →
        (AllHigh org today d.tables ∨ Unfindable org today d.tables) ∧
        ∀ q ∈ escalatable org today d.tables, ∀ owner, q.2.1.organizationId = some owner →
          Held owner d.notifications (taskAlert org q.1 q.2.1.escalate q.2.2)
  | .elsewhere _ => True

theorem held_iff {owner : Nat} {rows : Notifications} {n : Notice} :
    Held owner rows n ↔ (rowAfter rows n).organizationId = some owner := by
  unfold Held rowAfter
  cases rows.get? n.heldKey with
  | some r =>
    refine ⟨fun h => h.1 r rfl, fun h => ⟨fun r' hr => Option.some.inj hr ▸ h, fun hnone => ?_⟩⟩
    cases hnone
  | none =>
    refine ⟨fun h => h.2 rfl, fun h => ⟨fun r' hr => ?_, fun _ => h⟩⟩
    cases hr

theorem shown_iff {owner : Nat} {rows rows' : Notifications} {n : Notice}
    (h : rows'.get? n.heldKey = some (rowAfter rows n)) :
    Shown Any owner rows' n ↔ Held owner rows n := by
  have hsays : Notification.says (rowAfter rows n) n := by
    unfold rowAfter
    split <;> exact ⟨rfl, rfl, rfl⟩
  rw [held_iff]
  constructor
  · rintro ⟨r, hr, howner, -⟩
    rw [h, Option.some.injEq] at hr
    rw [hr]
    exact howner
  · exact fun howner => ⟨_, h, howner, trivial, hsays⟩

section Steps

variable {org tenant : Option Nat} {today : Date} {clamped : Bool} {d d' : Desk} {c : Counts}

theorem rank_le_run (h : run org today tenant d = .ok (d', c)) {id : RowId} {task : Task}
    (htask : d.tables.tasks.get? id = some task) :
    ∃ task', d'.tables.tasks.get? id = some task' ∧ rank task.priority ≤ rank task'.priority := by
  obtain ⟨htables, -⟩ := run_eq_ok h
  have hrow : d'.tables.tasks.get? id = (d.tables.tasks.get? id).map fun task =>
      if escalates org today task then task.escalate else task := by
    rw [htables]
    exact get?_escalated
  rw [hrow, htask]
  refine ⟨_, rfl, ?_⟩
  dsimp only
  split
  · rename_i hescalates
    exact (rank_escalate hescalates).le
  · exact le_rfl

theorem changed_iff (h : run org today tenant d = .ok (d', c)) {id : RowId} {task task' : Task}
    {due : Date} (hdue : task'.dueOn = some due) :
    (d.tables.tasks.get? id = some task ∧ d'.tables.tasks.get? id = some task' ∧
      task'.priority ≠ task.priority) ↔
    (id, task, due) ∈ escalatable org today d.tables ∧ task' = task.escalate := by
  obtain ⟨htables, -⟩ := run_eq_ok h
  have hrow : d'.tables.tasks.get? id = (d.tables.tasks.get? id).map fun task =>
      if escalates org today task then task.escalate else task := by
    rw [htables]
    exact get?_escalated
  rw [mem_escalatable, hrow]
  constructor
  · rintro ⟨htask, htask', hne⟩
    rw [htask, Option.map_some, Option.some.injEq] at htask'
    cases hescalates : escalates org today task with
    | false =>
      rw [hescalates, if_neg Bool.false_ne_true] at htask'
      exact absurd (htask' ▸ rfl) hne
    | true =>
      rw [hescalates, if_pos rfl] at htask'
      rw [← htask'] at hdue
      exact ⟨⟨htask, hdue, rfl⟩, htask'.symm⟩
  · rintro ⟨⟨htask, -, hescalates⟩, rfl⟩
    rw [htask, Option.map_some, if_pos hescalates]
    refine ⟨rfl, rfl, fun hsame => ?_⟩
    have hrank := rank_escalate hescalates
    rw [hsame] at hrank
    exact absurd hrank (Nat.lt_irrefl _)

theorem step_of_run (h : run org today (sessionTenant clamped org) d = .ok (d', c)) :
    step d (.digest today org clamped) = some d' := by
  rw [step, h]

theorem step_again_iff (h : run org today (sessionTenant clamped org) d = .ok (d', c)) :
    step d' (.digest today org clamped) = some d' ↔
      AllHigh org today d.tables ∨ Unfindable org today d.tables := by
  constructor
  · intro hsame
    by_cases hlong : Unfindable org today d.tables
    · exact .inr hlong
    · obtain ⟨d'', c', h'⟩ := exists_run_again h hlong
      rw [step_of_run h', Option.some.injEq] at hsame
      exact .inl (tables_run_again h h' (congrArg Desk.tables hsame))
  · intro hcond
    cases h' : run org today (sessionTenant clamped org) d' with
    | error e => rw [step, h']
    | ok out =>
      rw [step_of_run h']
      rcases hcond with hhigh | hlong
      · rw [run_again_eq h h' hhigh]
      · exact absurd ⟨_, _, h'⟩ (run_again_error h hlong)

theorem steady_iff_meetsTwice (d : Desk) (a : Action) : Steady d a ↔ MeetsTwice d a := by
  cases a with
  | elsewhere d' => exact Iff.rfl
  | digest today org clamped =>
    unfold Steady MeetsTwice
    cases h : run org today (sessionTenant clamped org) d with
    | error e =>
      have hstep : step d (.digest today org clamped) = some d := by rw [step, h]
      refine iff_of_true ?_ ?_
      · intro d' hd'
        rw [hstep, Option.some.injEq] at hd'
        subst hd'
        refine ⟨hstep, fun id task htask => ⟨task, htask, le_rfl⟩, ?_⟩
        intro id task task' due owner htask htask' hne
        rw [htask, Option.some.injEq] at htask'
        exact absurd (htask' ▸ rfl) hne
      · intro hok
        rw [h] at hok
        cases hok
    | ok out =>
      obtain ⟨d', c⟩ := out
      have hstep := step_of_run h
      have hrows := (run_eq_ok h).2
      have hshown : ∀ q ∈ escalatable org today d.tables, ∀ owner,
          (Shown Any owner d'.notifications (taskAlert org q.1 q.2.1.escalate q.2.2) ↔
            Held owner d.notifications (taskAlert org q.1 q.2.1.escalate q.2.2)) := by
        intro q hq owner
        refine shown_iff (get?_notifyAll (nodup_alerts org today d.tables) hrows ?_)
        exact List.mem_append_left _ (List.mem_map_of_mem hq)
      constructor
      · intro hsteady _
        obtain ⟨hagain, -, halerts⟩ := hsteady d' hstep
        refine ⟨(step_again_iff h).mp hagain, fun q hq owner howner => ?_⟩
        have hdue : q.2.1.escalate.dueOn = some q.2.2 := (mem_escalatable.mp hq).2.1
        obtain ⟨htask, htask', hne⟩ := (changed_iff h hdue).mpr ⟨hq, rfl⟩
        exact (hshown q hq owner).mp (halerts _ _ _ _ _ htask htask' hne hdue howner)
      · intro hmeets d'' hd''
        obtain ⟨hcond, hheld⟩ := hmeets (by rw [h]; rfl)
        rw [hstep, Option.some.injEq] at hd''
        subst hd''
        refine ⟨(step_again_iff h).mpr hcond, fun id task htask => rank_le_run h htask, ?_⟩
        intro id task task' due owner htask htask' hne hdue howner
        obtain ⟨hmem, rfl⟩ := (changed_iff h hdue).mp ⟨htask, htask', hne⟩
        exact (hshown _ hmem owner).mpr (hheld _ hmem owner howner)

/-- **When the digests of a history are steady.** -/
theorem steady_iff (d : Desk) (history : List Action) :
    Guarded step Steady d history ↔ Guarded step MeetsTwice d history :=
  guarded_congr steady_iff_meetsTwice

end Steps

/-! ## An overdue task -/

theorem june_year_pos : 1 ≤ 2026 := by decide

theorem june_year_le : 2026 ≤ 9999 := by decide

theorem june_month_pos : 1 ≤ 6 := by decide

theorem june_month_le : 6 ≤ 12 := by decide

theorem june_day_pos : 1 ≤ 1 := le_rfl

theorem june_day_le : 1 ≤ daysInMonth 2026 6 := by decide

def june : Date where
  year := 2026
  month := 6
  day := 1
  year_pos := june_year_pos
  year_le := june_year_le
  month_pos := june_month_pos
  month_le := june_month_le
  day_pos := june_day_pos
  day_le := june_day_le

/-- An organization has an open task, which was due in June. -/
def overdueTask (priority : Text) : Desk :=
  { changedCatalog with
    tables := { changedCatalog.tables with
      catalogSources := .empty
      tasks := .ofPairs [(firstId,
        { organizationId := some 1
          title := "Renew the certificate".toList
          status := "open".toList
          priority := priority
          dueOn := some june })] } }

/-- A task of medium priority is escalated twice on one day; one of high priority is escalated once,
and its organization has no alert where the digest is the platform's. -/
theorem overdueTask_not_steady :
    ∃ today, Date.mk? 2026 7 1 = .ok today ∧
      ¬Guarded step Steady (overdueTask "medium".toList) [.digest today (some 1) true] ∧
      ¬Guarded step Steady (overdueTask "high".toList) [.digest today none false] := by
  refine ⟨_, rfl, fun h => ?_, fun h => ?_⟩
  · obtain ⟨hagain, -⟩ := (steady_iff_meetsTwice _ _).mp h.1 (by decide +kernel)
    unfold AllHigh Unfindable at hagain
    exact absurd hagain (by decide +kernel)
  · obtain ⟨-, hheld⟩ := (steady_iff_meetsTwice _ _).mp h.1 (by decide +kernel)
    have hnone := (hheld _ List.mem_cons_self 1 rfl).2 rfl
    cases hnone

end Concord.Digest
