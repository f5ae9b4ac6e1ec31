import Concord.Poams.Operations

/-!
# The closure gate

A POA&M is done when its status is one of `POAM_CLOSED_STATUSES`, `completed` or
`closed`. The gate is asked where the status becomes `closed`, by a PATCH, the close
endpoint or a POST. `gates_closure_iff`: when what people do closes nothing that has not
met the gate.
-/

namespace Concord.Poams

open Concord.Python Concord.Base Concord.Governance Concord.Governance.Importer Concord.Ingest

/-- The gate lets a row pass: its milestones are complete or there is evidence, and the
review is approved where one is asked for. -/
def MeetsGate (c : Caller) (db : Db) (p : Poam) : Prop := requireClosureGate c db p = .ok ()

/-- Who operates; scans and reviews are not the operations of people on POA&Ms. -/
def Operation.caller : Operation → Option Caller
  | .create c _ | .patch c _ _ | .close c _ _ => some c
  | .importFile _ call => some call.caller
  | .reconcile _ | .submit _ _ _ _ | .decide _ _ _ _ _ _ => none

/-- **What an operation closes met the gate**: the row as it was, or the new one. -/
structure ClosesThroughGate (c : Caller) (u v : Db) : Prop where
  moved : ∀ q ∈ v.poams, q.status.closes = true → ∀ p ∈ u.poams, p.id = q.id →
    p.status ≠ q.status → MeetsGate c u p
  opened : ∀ q ∈ v.poams, q.status.closes = true → q.id ∉ u.poams.map Poam.id →
    MeetsGate c u q

def GatesClosure (u : Db) (op : Operation) : Prop :=
  ∀ c, op.caller = some c → ∀ v, step u op = some v → ClosesThroughGate c u v

/-- What the gate is not asked for, and meets it anyway. -/
def ClosedByRight (u : Db) : Operation → Prop
  | .create c body =>
    body.status.closes = true → admitCreate c u body = .ok () → MeetsGate c u (body.row u)
  | .patch c pid body =>
    body.status = some .completed →
      ∀ p, requirePoam c u pid = .ok p → p.status ≠ .completed → MeetsGate c u p
  | .importFile committed call =>
    committed = true → Accepted call u →
      (∀ p ∈ u.poams, ∀ s, call.statusAfter u p = some s → s.closes = true → p.status ≠ s →
        MeetsGate call.caller u p) ∧
      ∀ d ∈ call.rows.filterMap (call.opened u), ∀ s, d.insertStatus = some s →
        s.closes = false
  | .close _ _ _ | .reconcile _ | .submit _ _ _ _ | .decide _ _ _ _ _ _ => True

variable {u v : Db}

theorem not_meetsGate {c : Caller} {p : Poam} (hmilestones : p.milestones = [])
    (hcontrol : p.controlId = none) : ¬MeetsGate c u p := by
  intro h
  unfold MeetsGate requireClosureGate milestonesSatisfyClosure hasClosureEvidence at h
  rw [hmilestones, hcontrol] at h
  cases h

theorem admitUpdate_closed {c : Caller} {p : Poam} {body : PoamUpdate}
    (h : admitUpdate c u p body = .ok ()) (hstatus : body.status = some .closed) :
    MeetsGate c u p := by
  rcases ite_eq_iff.mp h with ⟨-, h⟩ | ⟨-, h⟩
  · cases h
  · rw [if_pos hstatus] at h
    exact h

theorem admitUpdate_completed (c : Caller) (p : Poam) {body : PoamUpdate}
    (hstatus : body.status = some .completed) : admitUpdate c u p body = .ok () := by
  unfold admitUpdate
  rw [hstatus]
  simp

theorem meetsGate_of_patch {c : Caller} {p : Poam} {body : PoamUpdate}
    (h : admitUpdate c u p body = .ok ())
    (hright : body.status = some .completed → p.status ≠ .completed → MeetsGate c u p)
    (hcloses : (body.apply p).status.closes = true) (hne : p.status ≠ (body.apply p).status) :
    MeetsGate c u p := by
  rw [PoamUpdate.apply_status] at hcloses hne
  cases hstatus : body.status with
  | none =>
    rw [hstatus] at hne
    exact absurd rfl hne
  | some s =>
    rw [hstatus, Option.getD_some] at hcloses hne
    cases s with
    | completed => exact hright hstatus hne
    | closed => exact admitUpdate_closed h hstatus
    | opened => cases hcloses
    | inProgress => cases hcloses
    | riskAccepted => cases hcloses

theorem meetsGate_of_moved (hids : (u.poams.map Poam.id).Nodup) {op : Operation} {c : Caller}
    (hc : op.caller = some c) (hright : ClosedByRight u op) (h : step u op = some v)
    {p q : Poam} (hp : p ∈ u.poams) (hq : q ∈ v.poams) (hid : p.id = q.id)
    (hcloses : q.status.closes = true) (hne : p.status ≠ q.status) : MeetsGate c u p := by
  have hsame : ∀ {r : Poam}, r ∈ u.poams → q.id = r.id → p = r := fun hr hqr =>
    List.inj_on_of_nodup_map hids hp hr (hid.trans hqr)
  have hrow := rowFrom_of_step hids h q hq
  cases hrow with
  | kept op r hr => exact absurd (congrArg Poam.status (hsame hr rfl)) hne
  | created c' body admitted =>
    have hlt := lt_nextId (List.mem_map_of_mem (f := Poam.id) hp)
    exact absurd hlt (by rw [hid]; exact Nat.lt_irrefl _)
  | patched c' body r found admitted =>
    obtain rfl := Option.some.inj hc
    obtain rfl := hsame (requirePoam_eq_ok found).1 rfl
    exact meetsGate_of_patch admitted (fun hstatus => hright hstatus p found) hcloses hne
  | closed c' today r found admitted =>
    obtain rfl := Option.some.inj hc
    obtain rfl := hsame (requirePoam_eq_ok found).1 rfl
    exact admitted
  | imported call r q hr accepted flushed =>
    obtain rfl := Option.some.inj hc
    obtain ⟨hstatus, -, hkept⟩ := flush_draft flushed
    obtain rfl := hsame hr hkept.id
    exact (hright rfl accepted).1 p hp q.status hstatus hcloses hne
  | added call d q id hd accepted inserted fresh =>
    exact absurd (List.mem_map.mpr ⟨p, hp, hid⟩) fresh
  | scanned call r q hr became => cases hc
  | found call f id fresh => cases hc

theorem meetsGate_of_opened (hids : (u.poams.map Poam.id).Nodup) {op : Operation} {c : Caller}
    (hc : op.caller = some c) (hright : ClosedByRight u op) (h : step u op = some v)
    {q : Poam} (hq : q ∈ v.poams) (hfresh : q.id ∉ u.poams.map Poam.id)
    (hcloses : q.status.closes = true) : MeetsGate c u q := by
  have hrow := rowFrom_of_step hids h q hq
  cases hrow with
  | kept op r hr => exact absurd (List.mem_map_of_mem hr) hfresh
  | created c' body admitted =>
    obtain rfl := Option.some.inj hc
    exact hright hcloses admitted
  | patched c' body r found admitted =>
    exact absurd (List.mem_map_of_mem (requirePoam_eq_ok found).1) hfresh
  | closed c' today r found admitted =>
    exact absurd (List.mem_map_of_mem (requirePoam_eq_ok found).1) hfresh
  | imported call r q hr accepted flushed =>
    exact absurd (List.mem_map.mpr ⟨r, hr, (flush_draft flushed).2.2.id.symm⟩) hfresh
  | added call d q id hd accepted inserted fresh =>
    have hopen := (hright rfl accepted).2 d hd q.status (insert_eq_some inserted).1
    exact absurd hcloses (by rw [hopen]; exact Bool.false_ne_true)
  | scanned call r q hr became => cases hc
  | found call f id fresh => cases hc

theorem closesThroughGate_of_step (hids : (u.poams.map Poam.id).Nodup) {op : Operation}
    {c : Caller} (hc : op.caller = some c) (hright : ClosedByRight u op)
    (h : step u op = some v) : ClosesThroughGate c u v where
  moved _ hq hcloses _ hp hid hne :=
    meetsGate_of_moved hids hc hright h hp hq hid hcloses hne
  opened _ hq hcloses hfresh := meetsGate_of_opened hids hc hright h hq hfresh hcloses

/-- **One operation.** -/
theorem gatesClosure_iff (hids : (u.poams.map Poam.id).Nodup) (op : Operation) :
    GatesClosure u op ↔ ClosedByRight u op := by
  refine ⟨fun h => ?_, fun h c hc v hstep => closesThroughGate_of_step hids hc h hstep⟩
  cases op with
  | create c body =>
    intro hcloses hadmit
    have hstep : step u (.create c body) =
        some { u with poams := insertPoam (body.poam 0) u.poams } := by
      rw [step, createPoam, hadmit]
      rfl
    refine (h c rfl _ hstep).opened (body.row u) (List.mem_append_right _ ?_) hcloses fun hin => ?_
    · exact List.mem_singleton.mpr rfl
    · exact absurd (lt_nextId hin) (Nat.lt_irrefl _)
  | patch c pid body =>
    intro hstatus p hfound hne
    obtain ⟨hp, rfl⟩ := requirePoam_eq_ok hfound
    have hstep : step u (.patch c p.id body) =
        some { u with poams := updatePoamRow p.id body.apply u.poams } := by
      rw [step, updatePoam, hfound]
      show ((admitUpdate c u p body >>= fun _ => _) : Except Raised Db).toOption = _
      rw [admitUpdate_completed c p hstatus]
      rfl
    have hrow := mem_updatePoamRow (i := p.id) (f := body.apply) hp
    rw [if_pos rfl] at hrow
    have hs : (body.apply p).status = .completed := by
      rw [PoamUpdate.apply_status, hstatus, Option.getD_some]
    exact (h c rfl _ hstep).moved _ hrow (by rw [hs]; rfl) p hp rfl (by rw [hs]; exact hne)
  | close c pid today => trivial
  | importFile committed call =>
    rintro rfl haccepted
    obtain ⟨v, hstep⟩ := exists_step_import haccepted
    have himported := imported_of_step hstep
    constructor
    · intro p hp s hs hcloses hne
      obtain ⟨q, hq, hflush⟩ := himported.stored p hp
      obtain ⟨hstatus, -, hkept⟩ := flush_draft hflush
      obtain rfl := Option.some.inj (hs.symm.trans hstatus)
      exact (h _ rfl v hstep).moved q hq hcloses p hp hkept.id.symm hne
    · intro d hd s hs
      obtain ⟨q, hq, id, hfresh, hmem⟩ := himported.inserted d hd
      obtain ⟨hstatus, hkept⟩ := insert_eq_some hq
      obtain rfl := Option.some.inj (hs.symm.trans hstatus)
      obtain ⟨r, -, hr⟩ := List.mem_filterMap.mp hd
      obtain ⟨hcontrol, -, hmilestones⟩ := opened_kept hr
      -- a row that a file opens has nothing to close by
      have hnot : ¬MeetsGate call.caller u { q with id := id } :=
        not_meetsGate (hkept.milestones.trans hmilestones) (hkept.controlId.trans hcontrol)
      by_contra hcloses
      exact hnot ((h _ rfl v hstep).opened _ hmem (by simpa using hcloses) hfresh)
  | reconcile call => trivial
  | submit c entityType entityId actor => trivial
  | decide parseInt c entityType entityId who d => trivial

/-- **When the gate stands before every closure**: in a run, whatever else happens in it,
no PATCH says `completed` of a POA&M that does not meet the gate, no file closes one, and
no new one is closed without evidence and a review of its own. -/
theorem gates_closure_iff {db : Db} (hids : (db.poams.map Poam.id).Nodup)
    (ops : List Operation) :
    Guarded step GatesClosure db ops ↔ Guarded step ClosedByRight db ops :=
  guarded_congr_of_invariant ids_of_step (fun _ op hu => gatesClosure_iff hu op) hids

def openPoam : Poam := ({ systemId := 1, title := "Weak cipher".toList } : PoamCreate).poam 1

/-- A PATCH of the status alone, with authentication on. -/
def patchStatus (status : PoamStatus) : Operation :=
  .patch ⟨none, true⟩ 1 { status := some status }

theorem gates_closure_iff_completed :
    Guarded step GatesClosure (register [openPoam]) [patchStatus .completed] ↔
      Guarded step ClosedByRight (register [openPoam]) [patchStatus .completed] :=
  @gates_closure_iff (register [openPoam]) (List.nodup_singleton _) _

/-- `completed` needs nothing. -/
theorem completed_without_gate :
    ¬∀ (db : Db) (ops : List Operation), (db.poams.map Poam.id).Nodup →
      Guarded step GatesClosure db ops := by
  intro h
  have hg := (h (register [openPoam]) [patchStatus .completed] (List.nodup_singleton _)).1
  have hclosed := hg ⟨none, true⟩ rfl (register [{ openPoam with status := .completed }]) rfl
  exact not_meetsGate rfl rfl
    (hclosed.moved { openPoam with status := .completed } List.mem_cons_self rfl openPoam
      List.mem_cons_self rfl (by decide))

end Concord.Poams
