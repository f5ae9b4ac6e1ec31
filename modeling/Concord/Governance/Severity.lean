import Concord.Governance.Monitoring

/-!
# Healthy beside an open POA&M

A conmon POA&M is meant to keep its control at risk until a person closes it, as an
open POA&M of high severity does. But a scan also writes the severity: at risk, which is
what the POA&M makes of a control that is otherwise fine, it is moderate, and then the
next scan does not count it.

`reading` is what the scans of a control find beside that POA&M. The severity follows
the last reading (`Tracked`), and `never_healthy_iff` says when the control stays away
from healthy: unless a reading short of overdue is followed by a healthy one.
-/

namespace Concord.Governance

open Concord.Python Concord.Base Conmon

def openPoams (db : Db) (impl : ControlImplementation) : List Poam :=
  (db.poams.filter Poam.active).filter fun p =>
    p.systemId = impl.systemId ∧ p.controlId = some impl.controlId

/-- The health of a control as it would be without the POA&M `pid`. -/
def rawHealth (pid : Nat) (db : Db) (today : Int) (impl : ControlImplementation) : Health :=
  (assessHealth impl (db.inventory.evidenceFor impl.id)
    ((openPoams db impl).filter fun p => p.id ≠ pid) today).1

/-- What a step finds about the control of slot `k`, if it is a scan of it that
completes. -/
def reading (pid : Nat) (k : Slot) (db : Db) : Action → Option Health
  | .scan c =>
    match scan db c with
    | .ok _ => (visited (db.inventory.inScope c.orgId) k).map (rawHealth pid db c.today)
    | .error _ => none
  | _ => none

def readings (pid : Nat) (k : Slot) : Db → List Action → List Health
  | _, [] => []
  | db, a :: as =>
    match step db a with
    | none => []
    | some db' => (reading pid k db a).toList ++ readings pid k db' as

/-- One reading may follow another: healthy only after overdue, which the scan has
answered with a severe POA&M. -/
def MayFollow (last next : Health) : Prop := last = .overdue ∨ next ≠ .healthy

/-- No completed scan finds the control healthy while the POA&M is open. -/
def NotHealthy (pid : Nat) (k : Slot) (db : Db) : Action → Prop
  | .scan c => (∃ r, scan db c = .ok r) → ∀ impl ∈ db.inventory.inScope c.orgId,
      controlSlot impl = k → (health db c.today impl).1 = .healthy →
        ∀ p ∈ db.poams, p.id = pid → p.active = false
  | _ => True

def NotEdited (pid : Nat) : Action → Prop
  | .patch _ i _ | .close _ i _ | .plan i _ => i ≠ pid
  | _ => True

/-- The POA&M is open in its slot, with the severity of the last reading. -/
structure Tracked (pid : Nat) (k : Slot) (last : Health) (db : Db) : Prop where
  ids : (db.poams.map Poam.id).Nodup
  row : ∃ p ∈ db.poams, p.id = pid ∧ p.slot = some k ∧ p.severity = poamSeverity last

variable {pid : Nat} {k : Slot} {last : Health} {db db' : Db}

/-! ## One scan -/

theorem severe_poamSeverity {p : Poam} {h : Health} (hp : p.severity = poamSeverity h) :
    severe p = decide (h = .overdue) := by
  rw [severe, hp]
  cases h <;> rfl

/-- The POA&M adds at-risk to the reading, as long as it is severe. -/
theorem health_eq {impl : ControlImplementation} (ht : Tracked pid (controlSlot impl) last db)
    (today : Int) :
    (health db today impl).1 =
      escalate (rawHealth pid db today impl)
        (if last = .overdue then .atRisk else .healthy) := by
  obtain ⟨p, hp, hpid, hslot, hseverity⟩ := ht.row
  obtain ⟨hactive, horigin⟩ := slot_eq_some.mp hslot
  obtain ⟨hsystem, hcontrol, -⟩ := origin_eq_conmon.mp horigin
  have hmem : p ∈ openPoams db impl := by
    refine List.mem_filter.mpr ⟨List.mem_filter.mpr ⟨hp, hactive⟩, ?_⟩
    exact decide_eq_true ⟨hsystem, hcontrol⟩
  have hsub : ∀ q ∈ openPoams db impl, q ∈ db.poams := fun q hq =>
    (List.mem_filter.mp (List.mem_filter.mp hq).1).1
  -- a severe row is the POA&M itself, or another one
  have hany : (openPoams db impl).any severe =
      (decide (last = .overdue) || ((openPoams db impl).filter fun q => q.id ≠ pid).any severe) := by
    rw [Bool.eq_iff_iff, Bool.or_eq_true, List.any_eq_true, List.any_eq_true,
      ← severe_poamSeverity hseverity]
    constructor
    · rintro ⟨q, hq, hs⟩
      by_cases hqp : q.id = pid
      · obtain rfl := List.inj_on_of_nodup_map ht.ids (hsub q hq) hp (hqp.trans hpid.symm)
        exact .inl hs
      · exact .inr ⟨q, List.mem_filter.mpr ⟨hq, decide_eq_true hqp⟩, hs⟩
    · rintro (hs | ⟨q, hq, hs⟩)
      · exact ⟨p, hmem, hs⟩
      · exact ⟨q, (List.mem_filter.mp hq).1, hs⟩
  have hfull := assessHealth_poams impl (db.inventory.evidenceFor impl.id) (openPoams db impl) today
  have hraw := assessHealth_poams impl (db.inventory.evidenceFor impl.id)
    ((openPoams db impl).filter fun q => q.id ≠ pid) today
  show (assessHealth impl (db.inventory.evidenceFor impl.id) (openPoams db impl) today).1 =
    escalate (assessHealth impl (db.inventory.evidenceFor impl.id) _ today).1 _
  rw [hfull, hraw, hany]
  generalize (assessHealth impl (db.inventory.evidenceFor impl.id) [] today).1 = base
  generalize ((openPoams db impl).filter fun q => q.id ≠ pid).any severe = others
  by_cases hlast : last = .overdue <;> cases others <;> cases base <;> simp [hlast] <;> rfl

theorem severity_next (raw : Health) :
    gradeAfter (escalate raw (if last = .overdue then .atRisk else .healthy))
      (poamSeverity last) = poamSeverity raw := by
  cases last <;> cases raw <;> rfl

theorem healthy_iff (raw : Health) :
    escalate raw (if last = .overdue then .atRisk else .healthy) = .healthy ↔
      ¬ MayFollow last raw := by
  unfold MayFollow
  cases last <;> cases raw <;> simp [escalate, Health.rank]

theorem Tracked.scan {c : ScanCall} {r : Db × Summary} (ht : Tracked pid k last db)
    (hscan : scan db c = .ok r) :
    Tracked pid k ((reading pid k db (.scan c)).getD last) r.1 := by
  obtain ⟨outcomes, hloop⟩ := scan_eq_ok hscan
  obtain ⟨p, hp, hpid, hslot, hseverity⟩ := ht.row
  have hkeys := controlSlot_nodup (db.inventory.inScope_keys c.orgId)
  obtain ⟨p', hp', hface⟩ := scanControls_graded hloop ht.ids hkeys hp hslot
  refine ⟨scanControls_ids hloop ht.ids, p', hp', (id_of_face hface).trans hpid,
    (slot_of_face hface).trans hslot, ?_⟩
  have hsev : p'.severity = severityAfter (health db c.today)
    (db.inventory.inScope c.orgId) k p.severity := congrArg Face.severity hface
  rw [hsev, severityAfter, reading, hscan, hseverity]
  cases hv : visited (db.inventory.inScope c.orgId) k with
  | none => rfl
  | some impl =>
    have hik : controlSlot impl = k := by simpa using List.find?_some hv
    subst hik
    show gradeAfter (health db c.today impl).1 (poamSeverity last) = _
    rw [health_eq ht, severity_next]
    rfl

theorem notHealthy_iff (ht : Tracked pid k last db) (a : Action) :
    NotHealthy pid k db a ↔ ∀ raw, reading pid k db a = some raw → MayFollow last raw := by
  cases a with
  | scan c =>
    obtain ⟨p, hp, hpid, hslot, -⟩ := ht.row
    have hactive := (slot_eq_some.mp hslot).1
    constructor
    · intro hnot raw hraw
      simp only [reading] at hraw
      cases hscan : Conmon.scan db c with
      | error e =>
        rw [hscan] at hraw
        exact nomatch hraw
      | ok r =>
        rw [hscan] at hraw
        obtain ⟨impl, hv, rfl⟩ := Option.map_eq_some_iff.mp hraw
        have hik : controlSlot impl = k := by simpa using List.find?_some hv
        subst hik
        by_contra hmay
        have hhealthy := (health_eq ht c.today).trans ((healthy_iff _).mpr hmay)
        have := hnot ⟨r, hscan⟩ impl (List.mem_of_find?_eq_some hv) rfl hhealthy p hp hpid
        rw [hactive] at this
        exact nomatch this
    · rintro hmay ⟨r, hscan⟩ impl himpl rfl hhealthy
      have hv := visited_eq_some (controlSlot_nodup (db.inventory.inScope_keys c.orgId)) himpl
      have hraw : reading pid (controlSlot impl) db (.scan c) =
          some (rawHealth pid db c.today impl) := by
        rw [reading, hscan, hv]
        rfl
      rw [health_eq ht] at hhealthy
      exact absurd (hmay _ hraw) ((healthy_iff _).mp hhealthy)
  | _ => exact ⟨fun _ _ h => (nomatch h), fun _ => trivial⟩

/-! ## Runs -/

theorem Tracked.update (ht : Tracked pid k last db) {i : Nat} (hne : i ≠ pid)
    {f : Poam → Poam} (hf : ∀ p, (f p).id = p.id) :
    Tracked pid k last { db with poams := updatePoamRow i f db.poams } := by
  obtain ⟨p, hp, hpid, hrow⟩ := ht.row
  constructor
  · show ((updatePoamRow i f db.poams).map Poam.id).Nodup
    rw [updatePoamRow_ids hf]
    exact ht.ids
  · refine ⟨_, mem_updatePoamRow hp, ?_⟩
    rw [if_neg (fun h => hne (h.symm.trans hpid))]
    exact ⟨hpid, hrow⟩

/-- Every step that is no edit of the POA&M leaves it open, as severe as its reading. -/
theorem Tracked.step {system control : Nat} {a : Action}
    (ht : Tracked pid (.conmon system control) last db) (hne : NotEdited pid a)
    (h : step db a = some db') :
    Tracked pid (.conmon system control)
      ((reading pid (.conmon system control) db a).getD last) db' := by
  have hsame : ∀ db' : Db, db'.poams = db.poams →
      Tracked pid (.conmon system control) last db' := by
    intro db' heq
    exact ⟨heq ▸ ht.ids, heq ▸ ht.row⟩
  cases a with
  | evolve inventory => exact Option.some.inj h ▸ hsame _ rfl
  | waive waivers => exact Option.some.inj h ▸ hsame _ rfl
  | review approvals => exact Option.some.inj h ▸ hsame _ rfl
  | file p =>
    obtain ⟨-, rfl⟩ := file_eq_some h
    obtain ⟨q, hq, hrow⟩ := ht.row
    exact ⟨insertPoam_ids ht.ids, q, List.mem_append_left _ hq, hrow⟩
  | plan i milestones => exact Option.some.inj h ▸ ht.update hne fun _ => rfl
  | patch caller i body =>
    obtain rfl := Option.some.inj h
    cases hp : updatePoam caller db i body with
    | error e => exact hsame _ rfl
    | ok db' =>
      rw [updatePoam_eq_ok hp]
      exact ht.update hne fun _ => rfl
  | close caller i today =>
    obtain rfl := Option.some.inj h
    cases hp : closePoam caller db i today with
    | error e => exact hsame _ rfl
    | ok db' =>
      rw [closePoam_eq_ok hp]
      exact ht.update hne fun _ => rfl
  | record test call =>
    obtain ⟨t, -, rfl⟩ := Option.map_eq_some_iff.mp h
    rcases commit_map db (ControlTests.recordResult db t call) with ⟨r, hr, heq⟩ | heq
    · obtain ⟨status, hrec⟩ := ControlTests.record_eq_ok (ControlTests.system_getD t) hr
      obtain ⟨p, hp, hpid, hslot, hseverity⟩ := ht.row
      -- a test writes into a slot of its own
      have hother : Slot.conmon system control ≠
          ControlTests.testSlot (t.systemId.getD 0) t := by simp [ControlTests.testSlot]
      obtain ⟨p', hp', hface⟩ := hrec.poams.frame ht.ids hother hp hslot
      rw [heq]
      refine ⟨hrec.poams.ids ht.ids, p', hp', ?_, ?_, ?_⟩
      · exact (congrArg Face.id hface).trans hpid
      · exact (slot_congr hface).trans hslot
      · exact (congrArg Face.severity hface).trans hseverity
    · rw [heq]
      exact hsame _ rfl
  | scan c =>
    obtain rfl := Option.some.inj h
    cases hscan : Conmon.scan db c with
    | error e =>
      -- a scan that raises read nothing
      have hnone : reading pid (.conmon system control) db (.scan c) = none := by
        rw [reading, hscan]
      rw [hnone]
      exact hsame _ rfl
    | ok r => exact ht.scan hscan

theorem guarded_notHealthy_iff {system control : Nat} {as : List Action}
    (ht : Tracked pid (.conmon system control) last db) (hne : ∀ a ∈ as, NotEdited pid a) :
    Guarded step (NotHealthy pid (.conmon system control)) db as ↔
      (last :: readings pid (.conmon system control) db as).IsChain MayFollow := by
  induction as generalizing db last with
  | nil => exact ⟨fun _ => .singleton last, fun _ => trivial⟩
  | cons a as ih =>
    rw [Guarded, readings, notHealthy_iff ht]
    cases hstep : step db a with
    | none =>
      -- a step that is not enabled has no reading
      have hnone : reading pid (.conmon system control) db a = none := by
        cases a with
        | scan c => cases hstep
        | _ => rfl
      rw [hnone]
      refine ⟨fun _ => .singleton last, fun _ => ⟨fun _ h => ?_, fun _ h => ?_⟩⟩
      · cases h
      · cases h
    | some db' =>
      have ht' := ht.step (hne a List.mem_cons_self) hstep
      have hrest := ih ht' fun b hb => hne b (List.mem_cons_of_mem a hb)
      have hguard : (∀ s', some db' = some s' →
          Guarded step (NotHealthy pid (.conmon system control)) s' as) ↔
          Guarded step (NotHealthy pid (.conmon system control)) db' as :=
        ⟨fun h => h db' rfl, fun h s' hs' => Option.some.inj hs' ▸ h⟩
      rw [hguard, hrest]
      cases reading pid (.conmon system control) db a with
      | none =>
        refine ⟨And.right, fun h => ⟨fun _ h => ?_, h⟩⟩
        cases h
      | some raw =>
        show _ ↔ (last :: raw :: _).IsChain MayFollow
        rw [List.isChain_cons_cons]
        exact and_congr_left fun _ =>
          ⟨fun h => h raw rfl, fun h raw' hraw' => Option.some.inj hraw' ▸ h⟩

/-- **Healthy beside an open POA&M.** After a scan that finds a control overdue, its
conmon POA&M is open, and as long as no person edits that POA&M no scan finds the
control healthy, if and only if among the later readings of the control, taken
without that POA&M, none that is short of overdue is followed by a healthy one. -/
theorem never_healthy_iff {s : Db} (hids : (s.poams.map Poam.id).Nodup) {c : ScanCall}
    {r : Db × Summary} (hscan : scan s c = .ok r) {impl : ControlImplementation}
    (himpl : impl ∈ s.inventory.inScope c.orgId)
    (hover : (health s c.today impl).1 = .overdue) :
    ∃ p ∈ r.1.poams, p.slot = some (controlSlot impl) ∧
      ∀ as, (∀ a ∈ as, NotEdited p.id a) →
        (Guarded step (NotHealthy p.id (controlSlot impl)) r.1 as ↔
          (Health.overdue :: readings p.id (controlSlot impl) r.1 as).IsChain MayFollow) := by
  obtain ⟨outcomes, hloop⟩ := scan_eq_ok hscan
  have hkeys := controlSlot_nodup (s.inventory.inScope_keys c.orgId)
  obtain ⟨p, hp, hslot, hseverity⟩ := scanControls_held hloop hids hkeys himpl
    (by rw [hover]; rfl)
  rw [hover] at hseverity
  have ht : Tracked p.id (controlSlot impl) .overdue r.1 :=
    ⟨scanControls_ids hloop hids, p, hp, rfl, hslot, hseverity⟩
  exact ⟨p, hp, hslot, fun as has => guarded_notHealthy_iff ht has⟩

/-! ## A control that is repaired -/

/-- An implemented control, whose evidence expires on a day. -/
def implementedControl (expiresOn : Int) : Inventory where
  systems := []
  controls := []
  implementations := [⟨1, 1, 1, .implemented, none⟩]
  evidence := [⟨some 1, none, some expiresOn⟩]
  ids := List.nodup_singleton _
  keys := List.nodup_singleton _
  identifiers := List.nodup_nil

/-- The implementation of `implementedControl`. -/
def implementation : ControlImplementation := ⟨1, 1, 1, .implemented, none⟩

def dayScan (day : Int) : ScanCall := ⟨day, none, noon day⟩

theorem never_healthy_iff_expired :
    ∃ r, scan (unmonitored (implementedControl 0)) (dayScan 1) = .ok r ∧
      ∃ p ∈ r.1.poams, p.slot = some (controlSlot implementation) ∧
        ∀ as, (∀ a ∈ as, NotEdited p.id a) →
          (Guarded step (NotHealthy p.id (controlSlot implementation)) r.1 as ↔
            (Health.overdue :: readings p.id (controlSlot implementation) r.1 as).IsChain
              MayFollow) := by
  have hids : ((unmonitored (implementedControl 0)).poams.map Poam.id).Nodup := List.nodup_nil
  have hkept : Kept (unmonitored (implementedControl 0)).poams := kept_nil
  obtain ⟨r, hr⟩ := (completes_of_kept hkept).scan (dayScan 1)
  exact ⟨r, hr, never_healthy_iff hids hr (List.mem_singleton_self _) (by decide +kernel)⟩

/-- The evidence is renewed: the first scan after that lowers the severity, and the
second one finds the control healthy, with the POA&M open. -/
theorem healthy_beside_open_poam :
    (health (unmonitored (implementedControl 0)) 1 implementation).1 = .overdue ∧
      ∃ r, scan (unmonitored (implementedControl 0)) (dayScan 1) = .ok r ∧
        ¬ Guarded step (NotHealthy 1 (controlSlot implementation)) r.1
          [.evolve (implementedControl 1000), .scan (dayScan 2), .scan (dayScan 3)] := by
  have hrun : ((scan (unmonitored (implementedControl 0)) (dayScan 1)).toOption.bind fun r =>
      (exec step r.1 [.evolve (implementedControl 1000), .scan (dayScan 2)]).bind fun u =>
        (scan u (dayScan 3)).toOption.map fun _ =>
          (decide (implementation ∈ u.inventory.inScope none),
            (health u 3 implementation).1, u.poams.map fun p => (p.id, p.active))) =
      some (true, .healthy, [(1, true)]) := by decide +kernel
  refine ⟨by decide +kernel, ?_⟩
  obtain ⟨r, hr, hend⟩ := Option.bind_eq_some_iff.mp hrun
  obtain ⟨u, hu, hend⟩ := Option.bind_eq_some_iff.mp hend
  obtain ⟨v, hv, hend⟩ := Option.map_eq_some_iff.mp hend
  rw [Prod.mk.injEq, Prod.mk.injEq] at hend
  obtain ⟨himpl, hhealthy, hpoams⟩ := hend
  obtain ⟨p, hp, hone⟩ := List.mem_map.mp (hpoams ▸ List.mem_singleton_self (1, true))
  rw [Prod.mk.injEq] at hone
  refine ⟨r, toOption_eq_some hr, fun hg => ?_⟩
  have hnot := guarded_iff.mp hg [.evolve (implementedControl 1000), .scan (dayScan 2)] _ [] u
    rfl hu
  have hinactive := hnot ⟨v, toOption_eq_some hv⟩ implementation (of_decide_eq_true himpl) rfl
    hhealthy p hp hone.1
  rw [hone.2] at hinactive
  exact nomatch hinactive

end Concord.Governance
