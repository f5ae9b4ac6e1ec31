import Mathlib.Data.List.Infix
import Concord.Governance.Monitoring
import Concord.Ingest.Scanners

/-!
# The analyst's remediation plan

Four automatic writers touch `remediation_plan`: a repeated failure of a control test
refreshes it, a recovery of a test or of a control and the auto-closure of a scan finding
put a note under it. Only the first replaces the text, and it asks for a plan that is
generated or empty.

`Holds` is what the others cannot break: the plan is not marked generated, and begins with
the text of the analyst. A PATCH that carries a plan establishes it, and it is kept in every
run of monitoring and of reconciliations, beside everything people do to the register short
of another plan for the row (`plan_survives`).
-/

namespace Concord.Poams

open Concord.Python Concord.Base Concord.Governance Concord.Ingest

/-- The plan of the row is not automation's, and begins with `text`. -/
structure Holds (text : Text) (p : Poam) : Prop where
  source : p.remediationPlanSource ≠ .generated
  plan : ∃ plan, p.remediationPlan = some plan ∧ text <+: plan

/-- The row of `pid` is there, with the text. -/
structure Protected (pid : Nat) (text : Text) (poams : List Poam) : Prop where
  row : pid ∈ poams.map Poam.id
  holds : ∀ p ∈ poams, p.id = pid → Holds text p

section Rows

variable {text : Text} {p : Poam}

theorem Holds.of_eq {q : Poam} (h : Holds text p)
    (hsource : q.remediationPlanSource = p.remediationPlanSource)
    (hplan : q.remediationPlan = p.remediationPlan) : Holds text q :=
  ⟨hsource ▸ h.source, hplan ▸ h.plan⟩

theorem Holds.nonempty (h : Holds text p) (htext : text ≠ []) :
    ∃ plan, orElse p.remediationPlan none = some plan ∧ text <+: plan := by
  obtain ⟨plan, hplan, hpre⟩ := h.plan
  refine ⟨plan, ?_, hpre⟩
  have hne : plan ≠ [] := by
    rintro rfl
    exact htext (List.prefix_nil.mp hpre)
  rw [hplan]
  cases plan with
  | nil => exact absurd rfl hne
  | cons c cs => rfl

theorem Holds.appendNote (h : Holds text p) (htext : text ≠ []) (note : Text) :
    Holds text (appendNote note p) := by
  obtain ⟨plan, hplan, hpre⟩ := h.nonempty htext
  refine ⟨h.source, plan ++ ['\n'] ++ note, ?_, ?_⟩
  · rw [Governance.appendNote, hplan]
  · rw [List.append_assoc]
    exact hpre.trans (List.prefix_append plan _)

theorem Holds.refresh (h : Holds text p) (htext : text ≠ []) (weakness guidance : Text) :
    Holds text (ControlTests.refresh weakness guidance p) := by
  obtain ⟨plan, hplan, -⟩ := h.nonempty htext
  rw [ControlTests.refresh, if_neg h.source, if_neg (by rw [hplan]; exact Option.some_ne_none _)]
  exact h.of_eq rfl rfl

theorem Holds.closeMissing (h : Holds text p) (htext : text ≠ []) (c : ScanCall)
    (byUid : Text → Option Nat) (seen : List Text) : Holds text (c.closeMissing byUid seen p) := by
  unfold ScanCall.closeMissing
  split
  · exact (h.of_eq rfl rfl : Holds text { p with status := .closed, closedOn := some c.today })
      |>.appendNote htext c.closingNote
  · exact h

end Rows

section Registers

variable {pid : Nat} {text : Text} {poams : List Poam}

theorem Protected.map (h : Protected pid text poams) {f : Poam → Poam}
    (hid : ∀ p, (f p).id = p.id) (hf : ∀ p, p.id = pid → Holds text p → Holds text (f p)) :
    Protected pid text (poams.map f) where
  row := by
    rw [List.map_map]
    obtain ⟨p, hp, hpid⟩ := List.mem_map.mp h.row
    exact List.mem_map.mpr ⟨p, hp, (hid p).trans hpid⟩
  holds := by
    intro q hq hqid
    obtain ⟨p, hp, rfl⟩ := List.mem_map.mp hq
    have hpid : p.id = pid := (hid p).symm.trans hqid
    exact hf p hpid (h.holds p hp hpid)

theorem Protected.update (h : Protected pid text poams) {f : Poam → Poam}
    (hid : ∀ p, (f p).id = p.id) {i : Nat} (hf : ∀ p, i = pid → Holds text p → Holds text (f p)) :
    Protected pid text (updatePoamRow i f poams) := by
  refine h.map (fun p => ?_) fun p hpid hp => ?_
  · split
    · exact hid p
    · rfl
  · split
    · rename_i hpi
      exact hf p (hpi.symm.trans hpid) hp
    · exact hp

theorem Protected.insert (h : Protected pid text poams) (p : Poam) :
    Protected pid text (insertPoam p poams) where
  row := by
    rw [insertPoam, List.map_append]
    exact List.mem_append_left _ h.row
  holds := by
    intro q hq hqid
    rcases List.mem_append.mp hq with hq | hq
    · exact h.holds q hq hqid
    · rw [List.mem_singleton.mp hq] at hqid
      exact absurd (hqid ▸ lt_nextId h.row) (lt_irrefl _)

end Registers

/-! ## The writers -/

section Writers

variable {pid : Nat} {text : Text} {db : Db} (htext : text ≠ [])

include htext

theorem protected_ensure {t : ControlTest} {detail : Text} {now : Moment}
    {r : Db × Option Poam × Bool} (h : Protected pid text db.poams)
    (hr : ControlTests.ensurePoamForControlTest db t detail now = .ok r) :
    Protected pid text r.1.poams := by
  unfold ControlTests.ensurePoamForControlTest at hr
  cases hs : t.systemId with
  | none =>
    rw [hs] at hr
    rw [← Except.ok.inj hr]
    exact h
  | some system =>
    rw [hs] at hr
    obtain ⟨existing, -, hr⟩ := bind_eq_ok.mp hr
    cases existing with
    | some p =>
      rw [← Except.ok.inj hr]
      refine h.update (fun q => ?_) fun q _ hq => hq.refresh htext _ _
      unfold ControlTests.refresh
      split
      · rfl
      · split <;> rfl
    | none =>
      rw [← Except.ok.inj hr]
      exact h.insert _

theorem protected_alert {t : ControlTest} {status : ValidationStatus} {detail : Text}
    {now : Moment} {db' : Db} (h : Protected pid text db.poams)
    (hr : ControlTests.alertOnFailure db t status detail now = .ok db') :
    Protected pid text db'.poams := by
  unfold ControlTests.alertOnFailure at hr
  dsimp only at hr
  split at hr
  · obtain ⟨r, hensure, rfl⟩ := map_eq_ok.mp hr
    refine protected_ensure htext ?_ hensure
    exact h
  · rw [← Except.ok.inj hr]
    exact h

theorem protected_resolve {t : ControlTest} {resultId : Nat} {now : Moment}
    (h : Protected pid text db.poams) :
    Protected pid text (ControlTests.resolveOnRecovery db t resultId now).poams := by
  unfold ControlTests.resolveOnRecovery
  cases hr : ControlTests.resolve db t resultId now with
  | error e => exact h
  | ok db' =>
    unfold ControlTests.resolve at hr
    dsimp only at hr
    split at hr
    · rw [← Except.ok.inj hr]
      exact h
    · obtain ⟨found, -, hr⟩ := bind_eq_ok.mp hr
      cases found with
      | none =>
        rw [← Except.ok.inj hr]
        exact h
      | some p =>
        rw [← Except.ok.inj hr]
        exact h.update (f := appendNote _) (fun _ => rfl) fun q _ hq => hq.appendNote htext _

theorem protected_record {t : ControlTest} {c : ControlTests.ResultCall}
    {r : Db × ControlTestResult} (h : Protected pid text db.poams)
    (hr : ControlTests.recordResult db t c = .ok r) : Protected pid text r.1.poams := by
  unfold ControlTests.recordResult at hr
  split at hr
  · cases hr
  · obtain ⟨db', hdb, hr⟩ := bind_eq_ok.mp hr
    rw [← Except.ok.inj hr]
    show Protected pid text db'.poams
    unfold ControlTests.consequence at hdb
    split at hdb
    · split at hdb
      · rw [← Except.ok.inj hdb]
        exact h
      · split at hdb
        · rw [← Except.ok.inj hdb]
          exact h
        · refine protected_alert htext ?_ hdb
          exact h
    · split at hdb
      · rw [← Except.ok.inj hdb]
        exact protected_resolve htext h
      · rw [← Except.ok.inj hdb]
        exact h

/-! ### Scans of controls -/

theorem protected_scanControl {c : Conmon.ScanCall} {impl : ControlImplementation}
    {health : Conmon.Health × List Text} {r : Db × Conmon.Outcome}
    (h : Protected pid text db.poams) (hr : Conmon.scanControl c impl health db = .ok r) :
    Protected pid text r.1.poams := by
  unfold Conmon.scanControl at hr
  split at hr
  · rw [← Except.ok.inj hr]
    unfold Conmon.resolveOnRecovery
    split
    · rename_i found _
      cases found with
      | none => exact h
      | some p =>
        exact h.update (f := appendNote _) (fun _ => rfl) fun q _ hq => hq.appendNote htext _
    · exact h
  · dsimp only at hr
    split at hr
    · obtain ⟨register, hregister, hr⟩ := bind_eq_ok.mp hr
      rw [← Except.ok.inj hr]
      show Protected pid text register.1
      obtain ⟨existing, -, hexisting⟩ := bind_eq_ok.mp hregister
      cases existing with
      | some p =>
        rw [← Except.ok.inj hexisting]
        exact h.update (f := Conmon.regrade _) (fun _ => rfl) fun q _ hq => hq.of_eq rfl rfl
      | none =>
        rw [← Except.ok.inj hexisting]
        exact h.insert _
    · rw [← Except.ok.inj hr]
      exact h

theorem protected_scanControls {c : Conmon.ScanCall}
    {assess : ControlImplementation → Conmon.Health × List Text}
    {impls : List ControlImplementation} {r : Db × List Conmon.Outcome}
    (h : Protected pid text db.poams) (hr : Conmon.scanControls c assess impls db = .ok r) :
    Protected pid text r.1.poams :=
  Conmon.scanControls_invariant (I := fun after => Protected pid text after.poams)
    (fun _ _ _ h hone => protected_scanControl htext h hone) h hr

/-! ### Reconciliations -/

omit htext in
theorem protected_absorb {poams : List Poam} (h : Protected pid text poams) (c : ScanCall)
    (byUid : Text → Option Nat) (result : ReconcileResult) (f : ScanFinding) :
    Protected pid text (c.absorb byUid poams result f).1 := by
  unfold ScanCall.absorb
  split
  · exact h.insert _
  · split
    · exact h.update (f := c.reopen f) (fun _ => rfl) fun q _ hq => hq.of_eq rfl rfl
    · split <;>
        exact h.update (f := Ingest.refresh f) (fun _ => rfl) fun q _ hq => hq.of_eq rfl rfl

omit htext in
theorem protected_turns {c : ScanCall} {byUid : Text → Option Nat} {s : Progress}
    (h : Protected pid text s.poams) (fs : List ScanFinding) :
    Protected pid text (fs.foldl (c.turn byUid) s).poams := by
  induction fs generalizing s with
  | nil => exact h
  | cons f fs ih =>
    refine ih ?_
    unfold ScanCall.turn
    split
    · exact h
    · exact protected_absorb h c byUid s.result f

theorem protected_reconcile {poams : List Poam} (h : Protected pid text poams) (c : ScanCall) :
    Protected pid text (c.reconcile poams).1 := by
  refine (protected_turns h c.findings).map (fun p => ?_) fun p _ hp =>
    hp.closeMissing htext c _ _
  unfold ScanCall.closeMissing
  split <;> rfl

end Writers

/-! ## Runs -/

inductive Action
  /-- what happens to the database under monitoring -/
  | monitored (a : Governance.Action)
  /-- `reconcile_findings` -/
  | reconcile (call : ScanCall)

def Action.step (db : Db) : Action → Option Db
  | .monitored a => Governance.step db a
  | .reconcile call => some { db with poams := (call.reconcile db.poams).1 }

/-- The action is not a PATCH with another plan for the row. -/
def Action.leavesPlan (pid : Nat) : Action → Prop
  | .monitored (.patch _ i body) => i = pid → body.remediationPlan = none
  | _ => True

section Runs

variable {pid : Nat} {text : Text} {db db' : Db}

theorem Holds.patch {p : Poam} (h : Holds text p) {body : PoamUpdate}
    (hbody : body.remediationPlan = none) : Holds text (body.apply p) := by
  refine h.of_eq ?_ ?_
  · show body.provenance p = _
    rw [PoamUpdate.provenance, hbody]
    rfl
  · show (body.remediationPlan <|> p.remediationPlan) = _
    rw [hbody]
    rfl

theorem protected_monitored (htext : text ≠ []) {a : Governance.Action}
    (h : Protected pid text db.poams) (ha : Action.leavesPlan pid (.monitored a))
    (hstep : Governance.step db a = some db') : Protected pid text db'.poams := by
  cases a with
  | evolve inventory => exact Option.some.inj hstep ▸ h
  | file p =>
    obtain ⟨-, rfl⟩ := file_eq_some hstep
    exact h.insert p
  | waive waivers => exact Option.some.inj hstep ▸ h
  | review approvals => exact Option.some.inj hstep ▸ h
  | plan i milestones =>
    rw [← Option.some.inj hstep]
    exact h.update (f := Poam.withMilestones milestones) (fun _ => rfl) fun q _ hq =>
      hq.of_eq rfl rfl
  | record test call =>
    obtain ⟨t, -, rfl⟩ := Option.map_eq_some_iff.mp hstep
    rcases commit_map db (ControlTests.recordResult db t call) with ⟨r, hr, heq⟩ | heq
    · rw [heq]
      exact protected_record htext h hr
    · rw [heq]
      exact h
  | scan call =>
    rw [← Option.some.inj hstep]
    rcases commit_map db (Conmon.scan db call) with ⟨r, hr, heq⟩ | heq
    · rw [heq]
      obtain ⟨outcomes, hloop⟩ := scan_eq_ok hr
      exact protected_scanControls htext h hloop
    · rw [heq]
      exact h
  | patch caller i body =>
    rw [← Option.some.inj hstep]
    cases hp : updatePoam caller db i body with
    | error e => exact h
    | ok db₁ =>
      rw [updatePoam_eq_ok hp]
      exact h.update (f := body.apply) (fun _ => rfl) fun q hi hq => hq.patch (ha hi)
  | close caller i today =>
    rw [← Option.some.inj hstep]
    cases hp : closePoam caller db i today with
    | error e => exact h
    | ok db₁ =>
      rw [closePoam_eq_ok hp]
      exact h.update (f := Poam.close today) (fun _ => rfl) fun q _ hq => hq.of_eq rfl rfl

/-- **Step lemma.** -/
theorem protected_of_step (htext : text ≠ []) {a : Action} (h : Protected pid text db.poams)
    (ha : a.leavesPlan pid) (hstep : Action.step db a = some db') : Protected pid text db'.poams := by
  cases a with
  | monitored a => exact protected_monitored htext h ha hstep
  | reconcile call =>
    rw [← Option.some.inj hstep]
    exact protected_reconcile htext h call

theorem protected_of_patch {caller : Caller} {body : PoamUpdate}
    (hpatch : updatePoam caller db pid body = .ok db')
    (hplan : body.remediationPlan = some text) : Protected pid text db'.poams := by
  have hrow : pid ∈ db.poams.map Poam.id := by
    obtain ⟨p, hfound, -⟩ := bind_eq_ok.mp hpatch
    unfold requirePoam at hfound
    split at hfound
    · cases hfound
    · rename_i q hq
      have hid := List.find?_some hq
      rw [decide_eq_true_eq] at hid
      exact List.mem_map.mpr ⟨q, List.mem_of_find?_eq_some hq, hid⟩
  rw [updatePoam_eq_ok hpatch]
  refine ⟨(updatePoamRow_ids (f := body.apply) (fun _ => rfl) db.poams).symm ▸ hrow,
    fun q hq hqid => ?_⟩
  obtain ⟨p, -, rfl⟩ := List.mem_map.mp hq
  by_cases hpid : p.id = pid
  · rw [if_pos hpid]
    refine ⟨?_, text, ?_, List.prefix_refl text⟩
    · show body.provenance p ≠ _
      rw [PoamUpdate.provenance, hplan]
      exact PlanSource.noConfusion
    · show (body.remediationPlan <|> p.remediationPlan) = _
      rw [hplan]
      rfl
  · rw [if_neg hpid] at hqid
    exact absurd hqid hpid

/-- **The analyst's plan survives automation**: after the PATCH that stores it, every run in
which no other PATCH gives the row a plan keeps it at the beginning of the plan. -/
theorem plan_survives {caller : Caller} {body : PoamUpdate} (htext : text ≠ [])
    (hpatch : updatePoam caller db pid body = .ok db')
    (hplan : body.remediationPlan = some text) {as : List Action}
    (has : ∀ a ∈ as, a.leavesPlan pid) {t : Db} (hrun : exec Action.step db' as = some t) :
    pid ∈ t.poams.map Poam.id ∧ ∀ p ∈ t.poams, p.id = pid →
      ∃ plan, p.remediationPlan = some plan ∧ text <+: plan := by
  have hkept := exec_invariant_of_mem (I := fun db => Protected pid text db.poams)
    (G := Action.leavesPlan pid) (fun _ _ _ h ha hstep => protected_of_step htext h ha hstep)
    (protected_of_patch hpatch hplan) has hrun
  exact ⟨hkept.row, fun p hp hpid => (hkept.holds p hp hpid).plan⟩

end Runs

/-- An analyst rewrites the plan of a failed test's POA&M; the test fails again and
recovers, and a scan of the system runs. -/
theorem plan_survives_recovery :
    let patch : PoamUpdate := { remediationPlan := some ['P'] }
    let before : Db := { unmonitored noInventory with
      poams := insertPoam (ControlTests.newPoam noInventory oneTest 1 ['w'] ['g'] 0) [] }
    let after : Db := { before with poams := updatePoamRow 1 patch.apply before.poams }
    let as : List Action := [.monitored (.record 1 failing),
      .monitored (.record 1 { failing with status := ['p', 'a', 's', 's'] }),
      .reconcile ⟨1, ['n'], [], 0, ['d']⟩]
    updatePoam global before 1 patch = .ok after ∧ ∃ t, exec Action.step after as = some t ∧
      1 ∈ t.poams.map Poam.id ∧ ∀ p ∈ t.poams, p.id = 1 →
        ∃ plan, p.remediationPlan = some plan ∧ ['P'] <+: plan := by
  intro patch before after as
  have hleaves : ∀ a ∈ as, a.leavesPlan 1 := by
    intro a ha
    simp only [as, List.mem_cons, List.not_mem_nil, or_false] at ha
    rcases ha with rfl | rfl | rfl <;> trivial
  have hpatch : updatePoam global before 1 patch = .ok after := rfl
  have hrun : (exec Action.step after as).isSome = true := by decide +kernel
  obtain ⟨t, ht⟩ := Option.isSome_iff_exists.mp hrun
  exact ⟨hpatch, t, ht, plan_survives (List.cons_ne_nil _ _) hpatch rfl hleaves ht⟩

end Concord.Poams
