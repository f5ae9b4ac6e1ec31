import Concord.Base.WorkItem
import Concord.Governance.Inventory
import Concord.Python.Ints

/-!
# Automatic tasks

The table of tasks (`ccf/models.py`) as the monitors use it: a task is looked up by
its `dedupe_key`, opened if there is none, and done when its alarm clears. `ticket` is
the work item of a key; `Moves` says that the tasks of one key take one signal, and
those of the other keys none.
-/

namespace Concord.Governance

open Concord.Python Concord.Base

/-- `f"conmon:impl:{impl_id}"`, both the `source_ref` and the key of the task. -/
def conmonRef (impl : Nat) : Text := "conmon:impl:".toList ++ natText impl

/-- `f"ctltest-fix:{test.id}"`. -/
def ctltestFix (test : Nat) : Text := "ctltest-fix:".toList ++ natText test

theorem conmonRef_injective {i j : Nat} (h : conmonRef i = conmonRef j) : i = j := by
  unfold conmonRef at h
  exact natText_injective ((List.append_cancel_left_eq ..).mp h)

theorem conmonRef_ne_ctltestFix (i j : Nat) : conmonRef i ≠ ctltestFix j := by
  unfold conmonRef ctltestFix
  intro h
  have h₁ := congrArg (fun key => key[1]?) h
  rw [List.getElem?_append_left (by decide +kernel),
    List.getElem?_append_left (by decide +kernel)] at h₁
  exact absurd h₁ (by decide +kernel)

/-! ## The table -/

/-- The `status` of a task; the column takes any text. -/
inductive TaskStatus
  | opened | done | cancelled
  | other (text : Text)
  deriving DecidableEq

inductive Priority
  | medium | high
  deriving DecidableEq

/-- A row of `tasks`. -/
structure Task where
  organizationId : Option Nat
  systemId : Option Nat
  title : Text
  description : Option Text
  kind : Text
  status : TaskStatus
  priority : Priority
  source : Text
  entityType : Option Text
  entityId : Option Text
  dedupeKey : Option Text
  dueOn : Option Int
  closedAt : Option Moment
  deriving DecidableEq

def Task.live (t : Task) : Bool := decide (t.status ≠ .done ∧ t.status ≠ .cancelled)

/-- The task of a key; `dedupe_key` is unique. -/
def findTask (key : Text) (tasks : List Task) : Option Task :=
  tasks.find? fun t => t.dedupeKey = some key

def updateTask (key : Text) (f : Task → Task) (tasks : List Task) : List Task :=
  tasks.map fun t => if t.dedupeKey = some key then f t else t

/-- A recovered alarm's task: done, if it is still as it was opened. -/
def Task.resolve (now : Moment) (t : Task) : Task :=
  if t.status = .opened then { t with status := .done, closedAt := some now } else t

theorem findTask_updateTask {key : Text} {f : Task → Task}
    (hf : ∀ t, (f t).dedupeKey = t.dedupeKey) (key' : Text) (tasks : List Task) :
    findTask key' (updateTask key f tasks) =
      (findTask key' tasks).map fun t => if key' = key then f t else t := by
  induction tasks with
  | nil => rfl
  | cons t ts ih =>
    rw [findTask, findTask, updateTask, List.map_cons, List.find?_cons, List.find?_cons]
    have hkey : (if t.dedupeKey = some key then f t else t).dedupeKey = t.dedupeKey := by
      split
      · exact hf t
      · rfl
    rw [hkey]
    by_cases h : t.dedupeKey = some key'
    · simp [h]
    · rw [decide_eq_false h]
      exact ih

theorem findTask_concat {key : Text} {tasks : List Task} {t : Task}
    (h : findTask key tasks = none) (hkey : t.dedupeKey = some key) (key' : Text) :
    findTask key' (tasks ++ [t]) = if key' = key then some t else findTask key' tasks := by
  rw [findTask, List.find?_append, List.find?_singleton, hkey]
  by_cases hk : key' = key
  · subst hk
    rw [if_pos rfl]
    show (findTask key' tasks).or _ = _
    rw [h]
    simp
  · rw [if_neg hk]
    simp [findTask, Ne.symm hk]

/-! ## Work items -/

def ticket (key : Text) (tasks : List Task) : Item :=
  match findTask key tasks with
  | none => .absent
  | some t => if t.live then .opened else .closed

/-- The task of a key is as the monitors leave it. -/
def Automatic (key : Text) (tasks : List Task) : Prop :=
  ∀ t, findTask key tasks = some t → t.status = .opened ∨ t.status = .done

/-- One key takes a signal; the others keep their task. -/
structure Moves (key : Text) (e : Signal) (tasks tasks' : List Task) : Prop where
  item : ticket key tasks' = (ticket key tasks).next e
  automatic : Automatic key tasks → Automatic key tasks'
  others : ∀ key', key' ≠ key → findTask key' tasks' = findTask key' tasks

variable {key : Text} {tasks : List Task}

/-- There is work of the key: a task that is neither done nor cancelled. -/
def hasLiveTask (key : Text) (tasks : List Task) : Bool := (findTask key tasks).any Task.live

theorem hasLiveTask_iff : hasLiveTask key tasks = true ↔ ticket key tasks = .opened := by
  unfold hasLiveTask ticket
  cases findTask key tasks with
  | none => exact ⟨(nomatch ·), (nomatch ·)⟩
  | some t => cases hl : t.live <;> simp [hl]

theorem ticket_congr {tasks' : List Task} (h : findTask key tasks' = findTask key tasks) :
    ticket key tasks' = ticket key tasks := by
  rw [ticket, h, ticket]

theorem moves_quiet : Moves key .quiet tasks tasks :=
  ⟨(Item.next_quiet _).symm, id, fun _ _ => rfl⟩

theorem moves_concat {t : Task} (h : findTask key tasks = none)
    (hkey : t.dedupeKey = some key) (hopen : t.status = .opened) :
    Moves key .raised tasks (tasks ++ [t]) := by
  have hfind : findTask key (tasks ++ [t]) = some t := by
    rw [findTask_concat h hkey, if_pos rfl]
  refine ⟨?_, fun _ u hu => ?_, fun key' hne => ?_⟩
  · have hlive : t.live = true := by simp [Task.live, hopen]
    rw [ticket, hfind, ticket, h]
    simp only [hlive, if_true]
    rfl
  · rw [hfind, Option.some.injEq] at hu
    exact .inl (hu ▸ hopen)
  · rw [findTask_concat h hkey, if_neg hne]

theorem moves_found {t : Task} (h : findTask key tasks = some t) :
    Moves key .raised tasks tasks := by
  refine ⟨?_, id, fun _ _ => rfl⟩
  unfold ticket
  rw [h]
  show (if t.live = true then Item.opened else .closed) =
    (if t.live = true then Item.opened else .closed).next .raised
  split <;> rfl

theorem moves_refresh {t : Task} {f : Task → Task} (h : findTask key tasks = some t)
    (hkey : ∀ t, (f t).dedupeKey = t.dedupeKey) (hstatus : ∀ t, (f t).status = t.status) :
    Moves key .raised tasks (updateTask key f tasks) := by
  have hfind : findTask key (updateTask key f tasks) = some (f t) := by
    rw [findTask_updateTask hkey, h]
    simp
  have hlive : (f t).live = t.live := by
    unfold Task.live
    rw [hstatus]
  refine ⟨?_, fun hauto u hu => ?_, fun key' hne => ?_⟩
  · rw [← (moves_found h).item]
    unfold ticket
    rw [hfind, h]
    show (if (f t).live = true then Item.opened else .closed) = if t.live then .opened else .closed
    rw [hlive]
  · rw [hfind, Option.some.injEq] at hu
    rw [← hu, hstatus]
    exact hauto t h
  · rw [findTask_updateTask hkey]
    simp [hne]

theorem moves_resolve (hauto : Automatic key tasks) (now : Moment) :
    Moves key .cleared tasks (updateTask key (Task.resolve now) tasks) := by
  have hkey : ∀ t : Task, (t.resolve now).dedupeKey = t.dedupeKey := by
    intro t
    unfold Task.resolve
    split <;> rfl
  have hfind : findTask key (updateTask key (Task.resolve now) tasks) =
      (findTask key tasks).map (Task.resolve now) := by
    rw [findTask_updateTask hkey]
    simp
  refine ⟨?_, fun _ u hu => ?_, fun key' hne => ?_⟩
  · unfold ticket
    rw [hfind]
    cases h : findTask key tasks with
    | none => rfl
    | some t => rcases hauto t h with hs | hs <;> simp [Task.resolve, Task.live, hs, Item.next]
  · rw [hfind, Option.map_eq_some_iff] at hu
    obtain ⟨t, ht, rfl⟩ := hu
    rcases hauto t ht with hs | hs <;> simp [Task.resolve, hs]
  · rw [findTask_updateTask hkey]
    simp [hne]

end Concord.Governance
