import Concord.Base.Run
import Concord.Governance.Poams
import Concord.Governance.ControlTests
import Concord.Governance.Conmon

/-!
# Monitoring beside people

The register under both monitors and everybody else: test results, scans, PATCHes and
closures in any order, each in a transaction of its own, while implementations,
evidence, waivers, approvals, milestones and the POA&Ms of other sources change.

`Completes`: a further result and a further scan are recorded. It holds in every state
of every run in which no PATCH makes a POA&M active while its source has another active
one (`KeepsSlots`). The route does not look, so such a PATCH is admitted: then the next
failure of the test, or the next scan of the control, raises, and is lost
(`reopened_beside_another`).
-/

namespace Concord.Governance

open Concord.Python Concord.Base ControlTests

/-- What can happen to the database. -/
inductive Action
  /-- implementations, assessments and evidence change -/
  | evolve (inventory : Inventory)
  /-- a POA&M of another source -/
  | file (p : Poam)
  /-- waivers are requested, approved and revoked -/
  | waive (waivers : List Waiver)
  /-- approvals are given -/
  | review (approvals : List Approval)
  /-- the milestones of a POA&M are edited -/
  | plan (pid : Nat) (milestones : List Milestone)
  /-- `record_result` for the test of an id -/
  | record (test : Nat) (call : ResultCall)
  /-- `conmon.scan` -/
  | scan (call : Conmon.ScanCall)
  /-- `update_poam` -/
  | patch (caller : Caller) (pid : Nat) (body : PoamUpdate)
  /-- `close_poam` -/
  | close (caller : Caller) (pid : Nat) (today : Int)

def Poam.withMilestones (milestones : List Milestone) (p : Poam) : Poam :=
  { p with milestones := milestones }

def Db.test (db : Db) (i : Nat) : Option ControlTest := db.tests.find? fun t => t.id = i

/-- One call. A call that raises leaves the database as it was. -/
def step (db : Db) : Action → Option Db
  | .evolve inventory => some { db with inventory := inventory }
  | .file p =>
    if p.source = some controlTestSource ∨ p.source = some conmonSource then none
    else some { db with poams := insertPoam p db.poams }
  | .waive waivers => some { db with waivers := waivers }
  | .review approvals => some { db with approvals := approvals }
  | .plan pid milestones =>
    some { db with poams := updatePoamRow pid (Poam.withMilestones milestones) db.poams }
  | .record test call =>
    (db.test test).map fun t => db.commit ((recordResult db t call).map Prod.fst)
  | .scan call => some (db.commit ((Conmon.scan db call).map Prod.fst))
  | .patch caller pid body => some (db.commit (updatePoam caller db pid body))
  | .close caller pid today => some (db.commit (closePoam caller db pid today))

theorem commit_map {α : Type} (db : Db) (x : Except Raised (Db × α)) :
    (∃ r, x = .ok r ∧ db.commit (x.map Prod.fst) = r.1) ∨ db.commit (x.map Prod.fst) = db := by
  cases x with
  | error e => exact .inr rfl
  | ok r => exact .inl ⟨r, rfl, rfl⟩

theorem file_eq_some {p : Poam} {db db' : Db} (h : step db (.file p) = some db') :
    ¬ (p.source = some controlTestSource ∨ p.source = some conmonSource) ∧
      { db with poams := insertPoam p db.poams } = db' := by
  rw [step, Option.ite_none_left_eq_some, Option.some.injEq] at h
  exact h

theorem scan_eq_ok {db : Db} {c : Conmon.ScanCall} {r : Db × Conmon.Summary}
    (h : Conmon.scan db c = .ok r) : ∃ outcomes, Conmon.scanControls c
      (Conmon.health db c.today) (db.inventory.inScope c.orgId) db = .ok (r.1, outcomes) := by
  obtain ⟨x, hx, hr⟩ := bind_eq_ok.mp h
  exact ⟨x.2, by rw [hx, ← Except.ok.inj hr]⟩

/-- A PATCH makes no row active beside another active row of its source. -/
def KeepsSlots (db : Db) : Action → Prop
  | .patch caller pid body => (∃ db', updatePoam caller db pid body = .ok db') →
      ∀ p ∈ db.poams, p.id = pid → ∀ q ∈ db.poams, q.id ≠ pid →
        ∀ k, (body.apply p).slot = some k → q.slot ≠ some k
  | _ => True

/-- **A further result, and a further scan, is not lost.** -/
structure Completes (db : Db) : Prop where
  result : ∀ t c, parseStatus c.status ≠ none → ∃ r, recordResult db t c = .ok r
  scan : ∀ c, ∃ r, Conmon.scan db c = .ok r
  lookup : ∀ k, (db.poams.filter fun p => p.slot = some k).length ≤ 1

theorem record_kept {db : Db} {t : ControlTest} {c : ResultCall}
    {r : Db × ControlTestResult} (h : recordResult db t c = .ok r) (hk : Kept db.poams) :
    Kept r.1.poams := by
  obtain ⟨status, hrec⟩ := record_eq_ok (system_getD t) h
  exact hrec.poams.kept hk

theorem kept_of_step (db : Db) (a : Action) (db' : Db) (hk : Kept db.poams)
    (hg : KeepsSlots db a) (h : step db a = some db') : Kept db'.poams := by
  cases a with
  | evolve inventory => exact Option.some.inj h ▸ hk
  | file p =>
    obtain ⟨hs, rfl⟩ := file_eq_some h
    rw [not_or] at hs
    refine hk.insert fun b _ k hpk => ?_
    -- a row of another source is in no slot
    rw [slot_eq_some, Poam.origin, if_neg hs.1, if_neg hs.2] at hpk
    exact nomatch hpk.2
  | waive waivers => exact Option.some.inj h ▸ hk
  | review approvals => exact Option.some.inj h ▸ hk
  | plan pid milestones =>
    rw [← Option.some.inj h]
    have hw : Written (.conmon 0 0) [] db.poams
        (updatePoamRow pid (Poam.withMilestones milestones) db.poams) :=
      .refreshed pid (Poam.withMilestones milestones) fun _ => rfl
    exact hw.kept hk
  | record test call =>
    obtain ⟨t, -, rfl⟩ := Option.map_eq_some_iff.mp h
    rcases commit_map db (recordResult db t call) with ⟨r, hr, heq⟩ | heq
    · rw [heq]
      exact record_kept hr hk
    · rw [heq]
      exact hk
  | scan call =>
    rw [← Option.some.inj h]
    rcases commit_map db (Conmon.scan db call) with ⟨r, hr, heq⟩ | heq
    · rw [heq]
      obtain ⟨outcomes, hloop⟩ := scan_eq_ok hr
      exact (Conmon.scanControls_eq_ok hloop hk).1
    · rw [heq]
      exact hk
  | patch caller pid body =>
    rw [← Option.some.inj h]
    cases hp : updatePoam caller db pid body with
    | error e => exact hk
    | ok db' =>
      rw [updatePoam_eq_ok hp]
      exact hk.update (fun _ => rfl) (hg ⟨db', hp⟩)
  | close caller pid today =>
    rw [← Option.some.inj h]
    cases hp : closePoam caller db pid today with
    | error e => exact hk
    | ok db' =>
      rw [closePoam_eq_ok hp]
      refine hk.update (fun _ => rfl) fun p _ _ q _ _ k hpk => ?_
      exact nomatch (slot_eq_some.mp hpk).1

theorem completes_of_kept {db : Db} (hk : Kept db.poams) : Completes db := by
  constructor
  · intro t c hparse
    obtain ⟨status, hstatus⟩ := Option.ne_none_iff_exists'.mp hparse
    exact record_isOk hk t hstatus
  · intro c
    obtain ⟨r, hr⟩ := Conmon.scanControls_isOk hk c (Conmon.health db c.today)
      (db.inventory.inScope c.orgId)
    unfold Conmon.scan
    rw [hr]
    exact ⟨_, rfl⟩
  · intro k
    rcases hk.exclusive.lookup (q := fun p => p.slot = some k)
      fun p _ hp => of_decide_eq_true hp with hnil | ⟨a, hone⟩
    · rw [hnil]
      exact Nat.zero_le 1
    · rw [hone]
      exact Nat.le_refl 1

/-- **No result is lost** in a run in which no PATCH takes an occupied slot. -/
theorem completes_of_run {s t : Db} {as : List Action} (hs : Kept s.poams)
    (hg : Guarded step KeepsSlots s as) (hrun : exec step s as = some t) : Completes t :=
  completes_of_kept (guarded_invariant (I := fun db => Kept db.poams) kept_of_step hs hg hrun)

/-! ## Two rows of one source -/

def plannedControl : Inventory where
  systems := []
  controls := []
  implementations := [⟨1, 1, 1, .planned, none⟩]
  evidence := []
  ids := List.nodup_singleton _
  keys := List.nodup_singleton _
  identifiers := List.nodup_nil

def oneTest : ControlTest where
  id := 1
  organizationId := none
  systemId := some 1
  controlId := ['A']
  name := ['t']
  connectorType := none
  expected := none
  checkKey := none
  lastStatus := none
  lastTestedAt := none

def unmonitored (inventory : Inventory) : Db where
  inventory := inventory
  tests := [oneTest]
  waivers := []
  approvals := []
  poams := []
  tasks := []
  notifications := []
  results := []

def noon (day : Int) : Moment := ⟨day, ['T']⟩

def failing : ResultCall where
  status := ['f', 'a', 'i', 'l']
  now := noon 0

def global : Caller := ⟨none, false⟩

/-- The first POA&M is completed, the second one is opened, and the first reopened. -/
def reopened (monitor : Action) : List Action :=
  [monitor, .patch global 1 { status := some .completed }, monitor,
   .patch global 1 { status := some .opened }]

def failedTwice : List Action :=
  [.record 1 failing, .patch global 1 { status := some .completed }, .record 1 failing]

theorem completes_of_run_completed :
    ∃ t, exec step (unmonitored noInventory) failedTwice = some t ∧ Completes t := by
  have hrun : (exec step (unmonitored noInventory) failedTwice).isSome = true := by
    decide +kernel
  obtain ⟨t, ht⟩ := Option.isSome_iff_exists.mp hrun
  -- a completed row occupies no slot
  have hg : Guarded step KeepsSlots (unmonitored noInventory) failedTwice := by
    refine ⟨trivial, fun _ _ => ⟨?_, fun _ _ => ⟨trivial, fun _ _ => trivial⟩⟩⟩
    intro _ p hp hid q hq hne k hk
    exact nomatch (slot_eq_some.mp hk).1
  exact ⟨t, ht, completes_of_run kept_nil hg ht⟩

/-- Both monitors raise. -/
theorem reopened_beside_another :
    ((exec step (unmonitored noInventory) (reopened (.record 1 failing))).bind fun t =>
      (t.test 1).map fun u => raisedBy (recordResult t u failing)) =
        some (some .multipleResultsFound) ∧
    ((exec step (unmonitored plannedControl) (reopened (.scan ⟨0, none, noon 0⟩))).map fun t =>
      raisedBy (Conmon.scan t ⟨0, none, noon 0⟩)) = some (some .multipleResultsFound) := by
  constructor <;> decide +kernel

end Concord.Governance
