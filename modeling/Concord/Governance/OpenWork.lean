import Concord.Governance.Monitoring

/-!
# Failing controls and open work

Both monitors keep one task per source: they open it when the source fails, and do it
when the source recovers. The task of a source that fails again is found, and it is
done. So a failure is left without open work exactly where the source has recovered
before: `remediated_iff` for control tests, `live_work_iff` for continuous monitoring.
Both are the guarantee of `Base.WorkItem` for the task of the source.
-/

namespace Concord.Governance

open Concord.Python Concord.Base ControlTests

/-! ## Control tests -/

/-- The signal of a result for the task of its test. -/
def statusSignal : Option ValidationStatus → Signal
  | some .fail => .raised
  | some .pass => .cleared
  | _ => .quiet

def resultSignal (c : ResultCall) : Signal := statusSignal (parseStatus c.status)

/-- A test whose latest status is `fail` has open work. -/
def Remediated (i : Nat) (db : Db) : Prop :=
  ∀ t, db.test i = some t → t.lastStatus = some .fail →
    hasLiveTask (ctltestFix i) db.tasks = true

/-- A test of a system that has no result, no task and no waiver. -/
structure Untested (i : Nat) (db : Db) : Prop where
  test : ∃ t system, db.test i = some t ∧ t.systemId = some system ∧ t.lastStatus = none ∧
    waiversForTest db.waivers t = []
  task : findTask (ctltestFix i) db.tasks = none
  register : Kept db.poams

/-- What the runs of one test keep. An open task belongs to a test that does not pass. -/
structure TestInv (i : Nat) (db : Db) : Prop where
  test : ∃ t, db.test i = some t ∧ waiversForTest db.waivers t = [] ∧
    (ticket (ctltestFix i) db.tasks = .opened → t.lastStatus ≠ some .pass)
  automatic : Automatic (ctltestFix i) db.tasks
  register : Kept db.poams

theorem Untested.inv {i : Nat} {db : Db} (h : Untested i db) : TestInv i db := by
  obtain ⟨t, system, ht, hsystem, hlast, hwaivers⟩ := h.test
  refine ⟨⟨t, ht, hwaivers, fun _ hpass => ?_⟩, fun u hu => ?_, h.register⟩
  · rw [hlast] at hpass
    exact nomatch hpass
  · rw [h.task] at hu
    exact nomatch hu

theorem find_updated {tests : List ControlTest} {f : ControlTest → ControlTest}
    (hf : ∀ t, (f t).id = t.id) {i : Nat} {t : ControlTest}
    (ht : tests.find? (fun u => u.id = i) = some t) :
    (tests.map fun u => if u.id = t.id then f u else u).find? (fun u => u.id = i) =
      some (f t) := by
  have hid : t.id = i := by simpa using List.find?_some ht
  have hp : (fun u : ControlTest => decide (u.id = i)) ∘
      (fun u => if u.id = t.id then f u else u) = fun u => decide (u.id = i) := by
    funext u
    show decide ((if u.id = t.id then f u else u).id = i) = _
    split
    · rw [hf]
    · rfl
  rw [List.find?_map, hp, ht, Option.map_some, if_pos rfl]

theorem openTask_moves (t : ControlTest) (detail : Text) (tasks : List Task) :
    Moves (ctltestFix t.id) .raised tasks (openTask t detail tasks) := by
  unfold openTask
  cases h : findTask (ctltestFix t.id) tasks with
  | none => exact moves_concat h rfl rfl
  | some u => exact moves_found h

/-- The tasks of a result: its signal, in a state where an open task is of a test
that does not pass. -/
theorem tasksAfter_moves {tasks : List Task} {t : ControlTest} {c : ResultCall}
    (status : ValidationStatus) (hopen : c.openRemediation = true)
    (hauto : Automatic (ctltestFix t.id) tasks)
    (hpass : ticket (ctltestFix t.id) tasks = .opened → t.lastStatus ≠ some .pass) :
    Moves (ctltestFix t.id) (statusSignal (some status)) tasks
      (tasksAfter tasks t t.lastStatus c status none) := by
  unfold tasksAfter
  cases status with
  | fail =>
    rw [if_pos ⟨rfl, hopen, rfl⟩]
    exact openTask_moves t _ tasks
  | pass =>
    rw [if_neg (fun h => nomatch h.1)]
    by_cases hlast : t.lastStatus = some .pass
    · -- a second pass: the task is not open
      rw [if_neg (fun h => h.2 hlast)]
      refine ⟨?_, id, fun _ _ => rfl⟩
      cases hticket : ticket (ctltestFix t.id) tasks with
      | opened => exact absurd hlast (hpass hticket)
      | absent => rfl
      | closed => rfl
    · rw [if_pos ⟨rfl, hlast⟩]
      exact moves_resolve hauto c.now
  -- nothing is opened or done
  | warn => exact moves_quiet
  | notTested => exact moves_quiet
  | manualReviewRequired => exact moves_quiet
  | notApplicable => exact moves_quiet

/-- One result of the test: it is refused and nothing changes, or it is the latest. -/
structure ResultStep (i : Nat) (db : Db) (c : ResultCall) (db' : Db) : Prop where
  inv : TestInv i db'
  item : ticket (ctltestFix i) db'.tasks =
    (ticket (ctltestFix i) db.tasks).next (resultSignal c)
  latest : (parseStatus c.status = none ∧ db' = db) ∨
    ∃ t, db'.test i = some t ∧ t.lastStatus = parseStatus c.status

theorem result_step {i : Nat} {db db' : Db} {c : ResultCall} (hinv : TestInv i db)
    (hopen : c.openRemediation = true) (h : step db (.record i c) = some db') :
    ResultStep i db c db' := by
  obtain ⟨t, ht, hwaivers, hpass⟩ := hinv.test
  obtain rfl : t.id = i := by simpa using List.find?_some ht
  obtain ⟨u, hu, rfl⟩ := Option.map_eq_some_iff.mp h
  obtain rfl : t = u := Option.some.inj (ht.symm.trans hu)
  cases hparse : parseStatus c.status with
  | none =>
    have hraise : recordResult db t c = .error statusError := by
      unfold recordResult
      rw [hparse]
    have hsignal : resultSignal c = .quiet := by
      unfold resultSignal
      rw [hparse]
      rfl
    rw [hraise]
    refine ⟨hinv, ?_, .inl ⟨hparse, rfl⟩⟩
    rw [hsignal, Item.next_quiet]
    rfl
  | some status =>
    obtain ⟨r, hr⟩ := record_isOk hinv.register t hparse
    rw [hr]
    obtain ⟨status', hrec⟩ := record_eq_ok (system_getD t) hr
    obtain rfl : status = status' := Option.some.inj (hparse.symm.trans hrec.parsed)
    have hcov : coverage db t c status = none := by
      unfold coverage
      rw [hwaivers]
      split <;> rfl
    have hmoves := tasksAfter_moves status hopen hinv.automatic hpass
    have htasks := hrec.tasks hinv.register
    rw [hcov] at htasks
    rw [← htasks] at hmoves
    have htest : r.1.test t.id = some (tested status c.now t) := by
      unfold Db.test
      rw [hrec.tests]
      exact find_updated (f := tested status c.now) (fun _ => rfl) ht
    have hsignal : resultSignal c = statusSignal (some status) := by
      rw [resultSignal, hparse]
    refine ⟨⟨⟨_, htest, ?_, ?_⟩, hmoves.automatic hinv.automatic, hrec.poams.kept hinv.register⟩,
      hsignal ▸ hmoves.item, .inr ⟨_, htest, hparse.symm⟩⟩
    · show waiversForTest r.1.waivers (tested status c.now t) = []
      rw [hrec.waivers]
      exact hwaivers
    · -- after a pass no task is open
      intro hticket hlast
      obtain rfl : status = .pass := Option.some.inj hlast
      have hnext := hmoves.item.symm.trans hticket
      revert hnext
      cases ticket (ctltestFix t.id) db.tasks <;> exact (nomatch ·)

def results (i : Nat) (calls : List ResultCall) : List Action := calls.map (.record i)

/-- What an action of such a run means for the task. -/
def recordSignal (_ : Db) : Action → Signal
  | .record _ c => resultSignal c
  | _ => .quiet

def RecordsFor (i : Nat) (_ : Db) (a : Action) : Prop :=
  ∃ c : ResultCall, a = .record i c ∧ c.openRemediation = true

theorem recordsFor_results {i : Nat} {calls : List ResultCall}
    (hopen : ∀ c ∈ calls, c.openRemediation = true) (db : Db) :
    Guarded step (RecordsFor i) db (results i calls) := by
  refine guarded_of_forall_mem (fun a ha => ?_) db
  obtain ⟨c, hc, rfl⟩ := List.mem_map.mp ha
  exact ⟨c, rfl, hopen c hc⟩

theorem signals_results {i : Nat} {db : Db} {calls : List ResultCall} (hinv : TestInv i db)
    (hopen : ∀ c ∈ calls, c.openRemediation = true) :
    signals step recordSignal db (results i calls) = calls.map resultSignal := by
  induction calls generalizing db with
  | nil => rfl
  | cons c calls ih =>
    obtain ⟨t, ht, -⟩ := hinv.test
    have hstep : step db (.record i c) =
        some (db.commit ((recordResult db t c).map Prod.fst)) := by
      simp only [step, ht, Option.map_some]
    have hinv' := (result_step hinv (hopen c List.mem_cons_self) hstep).inv
    have hrest := ih hinv' fun c' hc' => hopen c' (List.mem_cons_of_mem c hc')
    show signals step recordSignal db (.record i c :: results i calls) = _
    rw [signals, hstep]
    exact congrArg _ hrest

/-- Open work in every state of a run is open work after every failure. -/
theorem remediated_iff_guarded {i : Nat} {s : Db} {as : List Action} (hinv : TestInv i s)
    (hrem : Remediated i s) (hg : Guarded step (RecordsFor i) s as) :
    (∀ bs u, bs <+: as → exec step s bs = some u → Remediated i u) ↔
      Guarded step (fun u a => recordSignal u a = .raised →
        ∀ u', step u a = some u' → ticket (ctltestFix i) u'.tasks = .opened) s as := by
  induction as generalizing s with
  | nil =>
    refine ⟨fun _ => trivial, fun _ bs u hbs hu => ?_⟩
    rw [List.prefix_nil.mp hbs] at hu
    exact Option.some.inj hu ▸ hrem
  | cons a as ih =>
    obtain ⟨c, rfl, hopen⟩ := hg.1
    constructor
    · intro hall
      refine ⟨fun hr u' hu' => ?_, fun u' hu' => ?_⟩
      · have hstep := result_step hinv hopen hu'
        have hfail : parseStatus c.status = some .fail := by
          have hr' : statusSignal (parseStatus c.status) = .raised := hr
          revert hr'
          rcases parseStatus c.status with _ | status
          · exact (nomatch ·)
          · cases status <;> first | exact fun _ => rfl | simp [statusSignal]
        rcases hstep.latest with ⟨hnone, -⟩ | ⟨t, ht, hlast⟩
        · rw [hfail] at hnone
          exact nomatch hnone
        · have hone := hall [.record i c] u' (List.prefix_append [_] as)
            (exec_cons_eq_some.mpr ⟨u', hu', rfl⟩)
          exact hasLiveTask_iff.mp (hone t ht (hlast.trans hfail))
      · have hstep := result_step hinv hopen hu'
        have hrem' := hall [.record i c] u' (List.prefix_append [_] as)
          (exec_cons_eq_some.mpr ⟨u', hu', rfl⟩)
        refine (ih hstep.inv hrem' (hg.2 u' hu')).mp fun bs u hbs hu => ?_
        exact hall (.record i c :: bs) u (List.cons_prefix_cons.mpr ⟨rfl, hbs⟩)
          (exec_cons_eq_some.mpr ⟨u', hu', hu⟩)
    · intro hguard bs u hbs hu
      cases bs with
      | nil => exact Option.some.inj hu ▸ hrem
      | cons b bs =>
        obtain ⟨rfl, hbs'⟩ := List.cons_prefix_cons.mp hbs
        obtain ⟨u', hu', hu⟩ := exec_cons_eq_some.mp hu
        have hstep := result_step hinv hopen hu'
        -- the state after the first result: unchanged, or its status is the latest
        have hrem' : Remediated i u' := by
          rcases hstep.latest with ⟨-, rfl⟩ | ⟨t, ht, hlast⟩
          · exact hrem
          · intro t' ht' hfail
            obtain rfl : t = t' := Option.some.inj (ht.symm.trans ht')
            refine hasLiveTask_iff.mpr (hguard.1 ?_ u' hu')
            show statusSignal (parseStatus c.status) = .raised
            rw [← hlast, hfail]
            rfl
        exact (ih hstep.inv hrem' (hg.2 u' hu')).mpr (hguard.2 u' hu') bs u hbs' hu

theorem sublist_signals_iff {calls : List ResultCall} :
    [Signal.raised, .cleared, .raised].Sublist (calls.map resultSignal) ↔
      [some ValidationStatus.fail, some .pass, some .fail].Sublist
        (calls.map fun c => parseStatus c.status) := by
  have hmap : calls.map resultSignal =
      (calls.map fun c => parseStatus c.status).map statusSignal := by
    rw [List.map_map]
    rfl
  have hraised : ∀ s, statusSignal s = .raised → s = some .fail := by
    rintro (_ | s) h
    · exact nomatch h
    · cases s <;> first | rfl | simp [statusSignal] at h
  have hcleared : ∀ s, statusSignal s = .cleared → s = some .pass := by
    rintro (_ | s) h
    · exact nomatch h
    · cases s <;> first | rfl | simp [statusSignal] at h
  rw [hmap]
  constructor
  · intro h
    obtain ⟨l, hl, heq⟩ := List.sublist_map_iff.mp h
    obtain ⟨x, l₁, rfl, hx, heq⟩ := List.map_eq_cons_iff.mp heq.symm
    obtain ⟨y, l₂, rfl, hy, heq⟩ := List.map_eq_cons_iff.mp heq
    obtain ⟨z, l₃, rfl, hz, heq⟩ := List.map_eq_cons_iff.mp heq
    rw [List.map_eq_nil_iff.mp heq, hraised x hx, hcleared y hy, hraised z hz] at hl
    exact hl
  · exact fun h => h.map statusSignal

/-- **A failing test has open work** in every state of a run of results if and only if
no failure comes after a pass that comes after a failure. -/
theorem remediated_iff {i : Nat} {s : Db} (hs : Untested i s) {calls : List ResultCall}
    (hopen : ∀ c ∈ calls, c.openRemediation = true) :
    (∀ bs u, bs <+: calls → exec step s (results i bs) = some u → Remediated i u) ↔
      ¬ [some ValidationStatus.fail, some .pass, some .fail].Sublist
        (calls.map fun c => parseStatus c.status) := by
  have hinv := hs.inv
  have habsent : ticket (ctltestFix i) s.tasks = .absent := by
    rw [ticket, hs.task]
  have hrem : Remediated i s := by
    obtain ⟨t, system, ht, -, hlast, -⟩ := hs.test
    intro t' ht' hfail
    obtain rfl : t = t' := Option.some.inj (ht.symm.trans ht')
    rw [hlast] at hfail
    cases hfail
  have hg := recordsFor_results (i := i) hopen s
  have hcalls : (∀ bs u, bs <+: calls → exec step s (results i bs) = some u →
      Remediated i u) ↔
      ∀ bs u, bs <+: results i calls → exec step s bs = some u → Remediated i u := by
    constructor
    · intro h bs u hbs hu
      obtain ⟨bs', hbs', rfl⟩ := List.prefix_map_iff.mp hbs
      exact h bs' u hbs' hu
    · exact fun h bs u hbs hu => h (results i bs) u (hbs.map _) hu
  have hkeep : ∀ u a u', TestInv i u → RecordsFor i u a → step u a = some u' →
      TestInv i u' := by
    rintro u a u' hu ⟨c, rfl, hc⟩ h
    exact (result_step hu hc h).inv
  have hsim : ∀ u a u', TestInv i u → RecordsFor i u a → step u a = some u' →
      ticket (ctltestFix i) u'.tasks =
        (ticket (ctltestFix i) u.tasks).next (recordSignal u a) := by
    rintro u a u' hu ⟨c, rfl, hc⟩ h
    exact (result_step hu hc h).item
  rw [hcalls, remediated_iff_guarded hinv hrem hg, guarded_open_iff hkeep hsim hinv hg,
    habsent, signals_results hinv hopen, open_after_raised_iff, sublist_signals_iff]

def passing : ResultCall where
  status := ['p', 'a', 's', 's']
  now := noon 1

theorem untested_unmonitored : Untested 1 (unmonitored noInventory) :=
  ⟨⟨oneTest, 1, rfl, rfl, rfl, rfl⟩, rfl, kept_nil⟩

/-- A failure and its recovery. -/
theorem remediated_iff_recovered :
    (exec step (unmonitored noInventory) (results 1 [failing, passing])).isSome = true ∧
      ∀ bs u, bs <+: [failing, passing] →
        exec step (unmonitored noInventory) (results 1 bs) = some u → Remediated 1 u := by
  refine ⟨by decide +kernel, ?_⟩
  exact (remediated_iff untested_unmonitored (by simp [failing, passing])).mpr
    (by decide +kernel)

/-- The second failure finds the task of the first, which is done. -/
theorem not_remediated_of_second_failure : ¬ ∀ bs u, bs <+: [failing, passing, failing] →
    exec step (unmonitored noInventory) (results 1 bs) = some u → Remediated 1 u := by
  have hrun : (exec step (unmonitored noInventory)
      (results 1 [failing, passing, failing])).map (fun u =>
        ((u.test 1).map ControlTest.lastStatus, hasLiveTask (ctltestFix 1) u.tasks)) =
      some (some (some .fail), false) := by decide +kernel
  obtain ⟨u, hu, hend⟩ := Option.map_eq_some_iff.mp hrun
  rw [Prod.mk.injEq] at hend
  obtain ⟨t, ht, hlast⟩ := Option.map_eq_some_iff.mp hend.1
  intro hall
  have hlive := hall _ u (List.prefix_refl _) hu t ht hlast
  rw [hend.2] at hlive
  exact nomatch hlive

/-! ## Continuous monitoring -/

section Scans

open Conmon

/-- The system and the control of an implementation, which it keeps for ever. -/
abbrev Site := Nat → Nat × Nat

variable {site : Site}

def InventoryAt (site : Site) (inv : Inventory) : Prop :=
  ∀ impl ∈ inv.implementations, site impl.id = impl.key

def RegisterAt (site : Site) (poams : List Poam) : Prop :=
  ∀ p ∈ poams, p.source = some conmonSource → ∀ i, p.sourceRef = some (conmonRef i) →
    p.systemId = (site i).1 ∧ p.controlId = some (site i).2

/-- No person edits a POA&M, and implementations stay where they belong. -/
def Unattended (site : Site) (_ : Db) : Action → Prop
  | .evolve inv => InventoryAt site inv
  | .patch .. | .close .. | .plan .. => False
  | _ => True

/-- A database that has not been scanned. -/
structure Unscanned (site : Site) (db : Db) : Prop where
  inventory : InventoryAt site db.inventory
  poams : ∀ p ∈ db.poams, p.source ≠ some conmonSource
  tasks : ∀ i, findTask (conmonRef i) db.tasks = none
  register : Kept db.poams

/-- What unattended runs keep. -/
structure ScanInv (site : Site) (db : Db) : Prop where
  inventory : InventoryAt site db.inventory
  poams : RegisterAt site db.poams
  tasks : ∀ i, Automatic (conmonRef i) db.tasks
  register : Kept db.poams

theorem Unscanned.inv {db : Db} (h : Unscanned site db) : ScanInv site db := by
  refine ⟨h.inventory, fun p hp hs => absurd hs (h.poams p hp), fun i t ht => ?_, h.register⟩
  rw [h.tasks i] at ht
  exact nomatch ht

theorem RegisterAt.written {k : Slot} {ref : Text} {poams poams' : List Poam}
    (h : RegisterAt site poams) (hw : Written k ref poams poams')
    (hnew : ∀ system control, k = .conmon system control →
      ∃ i, ref = conmonRef i ∧ site i = (system, control)) : RegisterAt site poams' := by
  intro p' hp' hsource i href
  rcases hw.origin hp' with ⟨p, hp, severity, hface⟩ | ⟨hslot, href'⟩
  · obtain ⟨-, hsystem, hcontrol, hs, hr, -, -⟩ := Face.mk.inj hface
    have hat := h p hp (hs.symm.trans hsource) i (hr.symm.trans href)
    exact ⟨hsystem.trans hat.1, hcontrol.trans hat.2⟩
  · have horigin := (slot_eq_some.mp hslot).2
    cases k with
    | controlTest system ref =>
      have := (origin_eq_controlTest.mp horigin).2.1
      rw [hsource, Option.some.injEq] at this
      exact absurd this conmonSource_ne
    | conmon system control =>
      obtain ⟨j, rfl, hj⟩ := hnew system control rfl
      rw [href, Option.some.injEq] at href'
      obtain rfl := conmonRef_injective href'
      obtain ⟨hsystem, hcontrol, -⟩ := origin_eq_conmon.mp horigin
      rw [hj]
      exact ⟨hsystem, hcontrol⟩

theorem refFound {impl : ControlImplementation} {poams : List Poam}
    (hat : RegisterAt site poams) (hk : Kept poams) (himpl : site impl.id = impl.key) :
    RefFound impl poams := by
  refine hk.lookup_ok (k := controlSlot impl) fun p hp hq => ?_
  rw [isOpenRef, Bool.and_eq_true, decide_eq_true_iff] at hq
  obtain ⟨⟨-, hsource, href⟩, hactive⟩ := hq
  obtain ⟨hsystem, hcontrol⟩ := hat p hp hsource impl.id href
  rw [himpl] at hsystem hcontrol
  exact slot_eq_some.mpr ⟨hactive, origin_eq_conmon.mpr ⟨hsystem, hcontrol, hsource⟩⟩

/-- The signal a scan has for the task of an implementation. -/
def scanSignal (assess : ControlImplementation → Health × List Text)
    (impls : List ControlImplementation) (i : Nat) : Signal :=
  match impls.find? fun impl => impl.id = i with
  | some impl => signalOf (assess impl).1
  | none => .quiet

/-- **The tasks of a scan**: each implementation's takes the signal of its health. -/
theorem scanControls_moves {c : ScanCall}
    {assess : ControlImplementation → Health × List Text}
    {impls : List ControlImplementation} {db : Db} {r : Db × List Outcome}
    (hscan : scanControls c assess impls db = .ok r) (hk : Kept db.poams)
    (hat : RegisterAt site db.poams) (hplaced : ∀ impl ∈ impls, site impl.id = impl.key)
    (hids : (impls.map ControlImplementation.id).Nodup)
    (hauto : ∀ i, Automatic (conmonRef i) db.tasks) :
    RegisterAt site r.1.poams ∧ ∀ i, Automatic (conmonRef i) r.1.tasks ∧
      ticket (conmonRef i) r.1.tasks =
        (ticket (conmonRef i) db.tasks).next (scanSignal assess impls i) := by
  induction impls generalizing db r with
  | nil =>
    rw [← Except.ok.inj hscan]
    exact ⟨hat, fun i => ⟨hauto i, (Item.next_quiet _).symm⟩⟩
  | cons impl impls ih =>
    obtain ⟨first, rest, hfirst, hrest, hr⟩ := scanControls_cons hscan
    have hv := scanControl_eq_ok hfirst
    have himpl := hplaced impl List.mem_cons_self
    have hmoves := hv.tasks (hauto impl.id) (refFound hat hk himpl)
    have hat' : RegisterAt site first.1.poams := by
      refine hat.written hv.poams fun system control hslot => ⟨impl.id, rfl, ?_⟩
      obtain ⟨rfl, rfl⟩ := Slot.conmon.inj hslot
      exact himpl
    have hauto' : ∀ i, Automatic (conmonRef i) first.1.tasks := by
      intro i
      by_cases hi : i = impl.id
      · exact hi ▸ hmoves.automatic (hauto impl.id)
      · intro t ht
        rw [hv.others _ fun h => hi (conmonRef_injective h)] at ht
        exact hauto i t ht
    rw [List.map_cons, List.nodup_cons] at hids
    obtain ⟨hat'', hrest'⟩ := ih hrest (hv.poams.kept hk) hat'
      (fun j hj => hplaced j (List.mem_cons_of_mem impl hj)) hids.2 hauto'
    rw [hr]
    refine ⟨hat'', fun i => ⟨(hrest' i).1, ?_⟩⟩
    have htail := (hrest' i).2
    by_cases hi : impl.id = i
    · -- the implementation itself; it does not come up again
      have hnone : impls.find? (fun j => j.id = i) = none := by
        refine List.find?_eq_none.mpr fun j hj hji => hids.1 ?_
        rw [hi]
        exact List.mem_map.mpr ⟨j, hj, of_decide_eq_true hji⟩
      have hhead : scanSignal assess (impl :: impls) i = signalOf (assess impl).1 := by
        rw [scanSignal, List.find?_cons_of_pos (by simpa using hi)]
      rw [scanSignal, hnone] at htail
      rw [hhead, ← hi, ← hmoves.item, hi]
      exact htail.trans (Item.next_quiet _)
    · have hhead : scanSignal assess (impl :: impls) i = scanSignal assess impls i := by
        rw [scanSignal, List.find?_cons_of_neg (by simpa using hi)]
        rfl
      rw [hhead, ← ticket_congr (hv.others _ fun h => hi (conmonRef_injective h).symm)]
      exact htail

theorem findTask_tasksAfter {key : Text} {t : ControlTest} (hne : key ≠ ctltestFix t.id)
    (tasks : List Task) (previous : Option ValidationStatus) (c : ResultCall)
    (status : ValidationStatus) (cov : Option Coverage) :
    findTask key (tasksAfter tasks t previous c status cov) = findTask key tasks := by
  unfold tasksAfter
  split
  · exact (openTask_moves t _ tasks).others key hne
  · split
    · exact findTask_resolve hne c.now tasks
    · rfl

/-- What an action means for the task of an implementation. -/
def controlSignal (i : Nat) (db : Db) : Action → Signal
  | .scan c => scanSignal (health db c.today) (db.inventory.inScope c.orgId) i
  | _ => .quiet

/-- One unattended step: the task of each implementation takes its signal. -/
theorem scan_step {db db' : Db} {a : Action} (hinv : ScanInv site db)
    (hg : Unattended site db a) (h : step db a = some db') :
    ScanInv site db' ∧ ∀ i, ticket (conmonRef i) db'.tasks =
      (ticket (conmonRef i) db.tasks).next (controlSignal i db a) := by
  have hkeeps : KeepsSlots db a := by
    cases a <;> trivial
  have hk := kept_of_step db a db' hinv.register hkeeps h
  have hquiet : ∀ i, ticket (conmonRef i) db.tasks =
      (ticket (conmonRef i) db.tasks).next .quiet := fun i => (Item.next_quiet _).symm
  cases a with
  | evolve inventory =>
    obtain rfl := Option.some.inj h
    exact ⟨⟨hg, hinv.poams, hinv.tasks, hk⟩, hquiet⟩
  | file p =>
    obtain ⟨hs, rfl⟩ := file_eq_some h
    refine ⟨⟨hinv.inventory, fun q hq hsource => ?_, hinv.tasks, hk⟩, hquiet⟩
    rcases List.mem_append.mp hq with hq | hq
    · exact hinv.poams q hq hsource
    · -- what people file has neither source
      rw [List.mem_singleton] at hq
      rw [hq] at hsource
      exact absurd (.inr hsource) hs
  | waive waivers =>
    obtain rfl := Option.some.inj h
    exact ⟨⟨hinv.inventory, hinv.poams, hinv.tasks, hk⟩, hquiet⟩
  | review approvals =>
    obtain rfl := Option.some.inj h
    exact ⟨⟨hinv.inventory, hinv.poams, hinv.tasks, hk⟩, hquiet⟩
  | plan pid milestones => exact hg.elim
  | patch caller pid body => exact hg.elim
  | close caller pid today => exact hg.elim
  | record test call =>
    obtain ⟨t, -, rfl⟩ := Option.map_eq_some_iff.mp h
    rcases commit_map db (recordResult db t call) with ⟨r, hr, heq⟩ | heq
    · obtain ⟨status, hrec⟩ := record_eq_ok (system_getD t) hr
      -- a result has to do with the task of its test, never with one of a scan
      have hfind : ∀ i, findTask (conmonRef i) r.1.tasks = findTask (conmonRef i) db.tasks := by
        intro i
        rw [hrec.tasks hinv.register]
        exact findTask_tasksAfter (conmonRef_ne_ctltestFix i t.id) _ _ _ _ _
      rw [heq] at hk ⊢
      refine ⟨⟨?_, ?_, fun i u hu => hinv.tasks i u (hfind i ▸ hu), hk⟩, fun i => ?_⟩
      · rw [hrec.inventory]
        exact hinv.inventory
      · exact hinv.poams.written hrec.poams (by rintro _ _ ⟨⟩)
      · rw [ticket_congr (hfind i)]
        exact hquiet i
    · rw [heq]
      exact ⟨hinv, hquiet⟩
  | scan call =>
    obtain ⟨r, hr⟩ := (completes_of_kept hinv.register).scan call
    obtain ⟨outcomes, hloop⟩ := scan_eq_ok hr
    have hdb : db' = r.1 := by
      rw [← Option.some.inj h, hr]
      rfl
    have hplaced : ∀ impl ∈ db.inventory.inScope call.orgId, site impl.id = impl.key :=
      fun impl himpl => hinv.inventory impl ((db.inventory.inScope_sublist _).subset himpl)
    obtain ⟨hat, hmoves⟩ := scanControls_moves hloop hinv.register hinv.poams hplaced
      (db.inventory.inScope_ids _) hinv.tasks
    have hu := (scanControls_eq_ok hloop hinv.register).2
    rw [hdb] at hk ⊢
    refine ⟨⟨?_, hat, fun i => (hmoves i).1, hk⟩, fun i => (hmoves i).2⟩
    rw [hu.inventory]
    exact hinv.inventory

/-- After a scan, every control that it found degraded has open work. -/
def LeavesWork (db : Db) : Action → Prop
  | .scan c => ∀ impl ∈ db.inventory.inScope c.orgId,
      (health db c.today impl).1.degraded = true → ∀ db', step db (.scan c) = some db' →
        hasLiveTask (conmonRef impl.id) db'.tasks = true
  | _ => True

theorem signalOf_raised {h : Health} : signalOf h = .raised ↔ h.degraded = true := by
  cases h <;> simp [signalOf, Health.degraded]

theorem scanSignal_raised {assess : ControlImplementation → Health × List Text}
    {impls : List ControlImplementation}
    (hids : (impls.map ControlImplementation.id).Nodup) {i : Nat} :
    scanSignal assess impls i = .raised ↔
      ∃ impl ∈ impls, impl.id = i ∧ (assess impl).1.degraded = true := by
  unfold scanSignal
  cases hfind : impls.find? fun impl => impl.id = i with
  | none =>
    refine ⟨(nomatch ·), ?_⟩
    rintro ⟨impl, himpl, rfl, -⟩
    exact absurd (decide_eq_true rfl) (List.find?_eq_none.mp hfind impl himpl)
  | some impl =>
    have himpl := List.mem_of_find?_eq_some hfind
    have hid : impl.id = i := by simpa using List.find?_some hfind
    show signalOf (assess impl).1 = .raised ↔ _
    rw [signalOf_raised]
    constructor
    · exact fun h => ⟨impl, himpl, hid, h⟩
    · rintro ⟨impl', himpl', hid', h⟩
      exact List.inj_on_of_nodup_map hids himpl himpl' (hid.trans hid'.symm) ▸ h

theorem leavesWork_iff (db : Db) (a : Action) :
    LeavesWork db a ↔ ∀ i, controlSignal i db a = .raised →
      ∀ db', step db a = some db' → ticket (conmonRef i) db'.tasks = .opened := by
  cases a with
  | scan c =>
    constructor
    · intro hleaves i hraised db' hdb'
      obtain ⟨impl, himpl, rfl, hdeg⟩ :=
        (scanSignal_raised (db.inventory.inScope_ids c.orgId)).mp hraised
      exact hasLiveTask_iff.mp (hleaves impl himpl hdeg db' hdb')
    · intro hall impl himpl hdeg db' hdb'
      refine hasLiveTask_iff.mpr (hall impl.id ?_ db' hdb')
      exact (scanSignal_raised (db.inventory.inScope_ids c.orgId)).mpr ⟨impl, himpl, rfl, hdeg⟩
  | _ => exact ⟨fun _ _ h => (nomatch h), fun _ => trivial⟩

/-- **A degraded control has open work** after every scan of an unattended run if and
only if no control is found degraded after it was found healthy after it was found
degraded. -/
theorem live_work_iff {s : Db} {as : List Action} (hs : Unscanned site s)
    (hg : Guarded step (Unattended site) s as) :
    Guarded step LeavesWork s as ↔
      ∀ i, ¬ [Signal.raised, .cleared, .raised].Sublist
        (signals step (controlSignal i) s as) := by
  rw [guarded_congr leavesWork_iff, guarded_forall]
  refine forall_congr' fun i => ?_
  have habsent : ticket (conmonRef i) s.tasks = .absent := by
    rw [ticket, hs.tasks i]
  have hkeep : ∀ u a u', ScanInv site u → Unattended site u a → step u a = some u' →
      ScanInv site u' := fun u a u' hu hgu h => (scan_step hu hgu h).1
  have hsim : ∀ u a u', ScanInv site u → Unattended site u a → step u a = some u' →
      ticket (conmonRef i) u'.tasks =
        (ticket (conmonRef i) u.tasks).next (controlSignal i u a) :=
    fun u a u' hu hgu h => (scan_step hu hgu h).2 i
  rw [guarded_open_iff hkeep hsim hs.inv hg, habsent, open_after_raised_iff]

end Scans

def partialControl : Inventory where
  systems := []
  controls := []
  implementations := [⟨1, 1, 1, .partially, none⟩]
  evidence := []
  ids := List.nodup_singleton _
  keys := List.nodup_singleton _
  identifiers := List.nodup_nil

/-- The implementation of `plannedControl`. -/
def degraded : ControlImplementation := ⟨1, 1, 1, .planned, none⟩

def scanOn (day : Int) : Conmon.ScanCall := ⟨day, none, noon day⟩

def degradedThenHealthy : List Action :=
  [.scan (scanOn 0), .evolve partialControl, .scan (scanOn 1)]

theorem unscanned_unmonitored : Unscanned (fun _ => (1, 1)) (unmonitored plannedControl) := by
  refine ⟨fun impl himpl => ?_, fun p hp => (nomatch hp), fun i => rfl, kept_nil⟩
  rw [List.mem_singleton.mp himpl]
  rfl

/-- The first degradation opens the work. -/
theorem live_work_iff_first :
    Guarded step LeavesWork (unmonitored plannedControl) [.scan (scanOn 0)] := by
  have hg : Guarded step (Unattended fun _ => (1, 1)) (unmonitored plannedControl)
      [.scan (scanOn 0)] := ⟨trivial, fun _ _ => trivial⟩
  -- one scan gives one signal
  refine (live_work_iff unscanned_unmonitored hg).mpr fun i hsub => ?_
  have hlen := hsub.length_le
  simp only [signals] at hlen
  split at hlen <;> simp at hlen

/-- The second degradation finds the task of the first, which is done. -/
theorem no_work_after_second_degradation :
    ¬ Guarded step LeavesWork (unmonitored plannedControl)
      (degradedThenHealthy ++ [.evolve plannedControl, .scan (scanOn 2)]) := by
  have hrun : ((exec step (unmonitored plannedControl)
      (degradedThenHealthy ++ [.evolve plannedControl])).bind fun u =>
        (step u (.scan (scanOn 2))).map fun u' =>
          (decide (degraded ∈ u.inventory.inScope none),
            (Conmon.health u 2 degraded).1.degraded, hasLiveTask (conmonRef 1) u'.tasks)) =
      some (true, true, false) := by decide +kernel
  obtain ⟨u, hu, hend⟩ := Option.bind_eq_some_iff.mp hrun
  obtain ⟨u', hu', hend⟩ := Option.map_eq_some_iff.mp hend
  rw [Prod.mk.injEq, Prod.mk.injEq] at hend
  intro hg
  have hleaves := guarded_iff.mp hg (degradedThenHealthy ++ [.evolve plannedControl]) _ [] u
    rfl hu
  have hlive := hleaves degraded (of_decide_eq_true hend.1) hend.2.1 u' hu'
  rw [show conmonRef degraded.id = conmonRef 1 from rfl, hend.2.2] at hlive
  exact nomatch hlive

end Concord.Governance
