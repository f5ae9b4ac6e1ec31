import Concord.Poams.Operations

/-!
# Accepted risks

A POA&M whose risk is accepted has an owner, a due date and a rationale: the gate of the
routes asks for them, no PATCH takes one away while the risk is accepted, and a scan that
reopens it accepts nothing. A file may set the status, and clear the due date.
`risk_acceptance_iff`: when every accepted risk of a run is a justified one.
-/

namespace Concord.Poams

open Concord.Python Concord.Base Concord.Governance Concord.Governance.Importer Concord.Ingest

def Grounded (ownerUserId : Option Nat) (dueOn : Option Int) (rationale : Option Text) : Prop :=
  ownerUserId ≠ none ∧ dueOn ≠ none ∧ isBlank rationale = false

def RisksGrounded (db : Db) : Prop :=
  ∀ p ∈ db.poams, p.status = .riskAccepted →
    Grounded p.ownerUserId p.dueOn p.acceptanceRationale

/-- A file accepts no risk but of a POA&M that is owned and justified, and that is dated
after it; none that it opens is. -/
def AcceptsByRight (u : Db) : Operation → Prop
  | .importFile committed call =>
    committed = true → Accepted call u →
      (∀ p ∈ u.poams, call.statusAfter u p = some .riskAccepted →
        Grounded p.ownerUserId (call.dueAfter u p) p.acceptanceRationale) ∧
      ∀ d ∈ call.rows.filterMap (call.opened u), d.insertStatus ≠ some .riskAccepted
  | .create _ _ | .patch _ _ _ | .close _ _ _ | .reconcile _ | .submit _ _ _ _
  | .decide _ _ _ _ _ _ => True

variable {u v : Db}

theorem requireRiskAcceptedGate_eq_ok {c : Caller} {ownerUserId : Option Nat}
    {dueOn : Option Int} {pid : Nat} {rationale : Option Text}
    (h : requireRiskAcceptedGate c u ownerUserId dueOn pid rationale = .ok ()) :
    Grounded ownerUserId dueOn rationale := by
  rcases ite_eq_iff.mp h with ⟨-, h⟩ | ⟨hfields, h⟩
  · cases h
  rcases ite_eq_iff.mp h with ⟨-, h⟩ | ⟨hblank, -⟩
  · cases h
  rw [not_or] at hfields
  exact ⟨hfields.1, hfields.2, by simpa using hblank⟩

theorem grounded_of_created {c : Caller} {body : PoamCreate}
    (h : admitCreate c u body = .ok ()) (hstatus : body.status = .riskAccepted) :
    Grounded body.ownerUserId body.dueOn body.acceptanceRationale := by
  obtain ⟨_, -, h⟩ := bind_eq_ok.mp h
  rw [hstatus] at h
  obtain ⟨_, h, -⟩ := bind_eq_ok.mp h
  exact requireRiskAcceptedGate_eq_ok h

theorem orElse_ne_none {α : Type} {a b : Option α} (h : b ≠ none) : (a <|> b) ≠ none := by
  cases a with
  | none => exact h
  | some a => exact Option.some_ne_none a

/-- **A PATCH that leaves a risk accepted leaves it grounded.** -/
theorem grounded_of_patched {c : Caller} {p : Poam} {body : PoamUpdate}
    (hp : p.status = .riskAccepted → Grounded p.ownerUserId p.dueOn p.acceptanceRationale)
    (h : admitUpdate c u p body = .ok ()) (hstatus : (body.apply p).status = .riskAccepted) :
    Grounded (body.apply p).ownerUserId (body.apply p).dueOn
      (body.apply p).acceptanceRationale := by
  have hafter : body.status.getD p.status = .riskAccepted := hstatus
  -- nothing is left, so the rationale is not cleared
  have hrationale : (body.apply p).acceptanceRationale =
      (body.acceptanceRationale <|> p.acceptanceRationale) := by
    show (if poamLeavesRiskAccepted p.status (body.status.getD p.status) then none else _) = _
    rw [hafter, if_neg (by simp [poamLeavesRiskAccepted])]
  rw [hrationale]
  rcases ite_eq_iff.mp h with ⟨-, h⟩ | ⟨hblank, h⟩
  · cases h
  by_cases hold : p.status = .riskAccepted
  · obtain ⟨howner, hdue, hwritten⟩ := hp hold
    refine ⟨orElse_ne_none howner, orElse_ne_none hdue, ?_⟩
    cases hbody : body.acceptanceRationale with
    | none => exact hwritten
    | some t =>
      rw [hbody, hafter] at hblank
      simpa using hblank
  · have hto : body.status = some .riskAccepted := by
      cases hb : body.status with
      | none =>
        rw [hb] at hafter
        exact absurd hafter hold
      | some s => exact congrArg some (by rw [hb] at hafter; exact hafter)
    rw [if_neg (by rw [hto]; decide), if_pos ⟨hto, hold⟩] at h
    exact requireRiskAcceptedGate_eq_ok h

/-- **One operation.** -/
theorem risksGrounded_of_step {op : Operation} (hids : (u.poams.map Poam.id).Nodup)
    (hu : RisksGrounded u) (hright : AcceptsByRight u op) (h : step u op = some v) :
    RisksGrounded v := by
  intro q hq hstatus
  have hrow := rowFrom_of_step hids h q hq
  cases hrow with
  | kept op r hr => exact hu q hr hstatus
  | created c body admitted => exact grounded_of_created admitted hstatus
  | patched c body p found admitted =>
    exact grounded_of_patched (hu p (requirePoam_eq_ok found).1) admitted hstatus
  | closed c today p found admitted => cases hstatus
  | imported call p q hp accepted flushed =>
    obtain ⟨hafter, hdue, hkept⟩ := flush_draft flushed
    rw [hkept.ownerUserId, hdue, hkept.acceptanceRationale]
    exact (hright rfl accepted).1 p hp (by rw [hafter, hstatus])
  | added call d q id hd accepted inserted fresh =>
    exact absurd ((insert_eq_some inserted).1.trans (congrArg some hstatus))
      ((hright rfl accepted).2 d hd)
  | scanned call p q hp became =>
    cases became with
    | touched f mem named =>
      have hactive := touch_active (c := call) f p
      rw [Poam.active, hstatus] at hactive
      cases hactive
    | closed uid about named unseen active => cases hstatus
    | left same kept => exact hu q hp hstatus
  | found call f id fresh => cases hstatus

theorem acceptsByRight_of_import {op : Operation}
    (h : ∀ committed call, op = .importFile committed call → AcceptsByRight u op) :
    AcceptsByRight u op := by
  cases op with
  | importFile committed call => exact h committed call rfl
  | create c body => trivial
  | patch c pid body => trivial
  | close c pid today => trivial
  | reconcile call => trivial
  | submit c entityType entityId actor => trivial
  | decide parseInt c entityType entityId who d => trivial

theorem acceptsByRight_of_step {op : Operation} (h : step u op = some v)
    (hv : RisksGrounded v) : AcceptsByRight u op := by
  refine acceptsByRight_of_import fun committed call hop => ?_
  subst hop
  rintro rfl -
  have himported := imported_of_step h
  constructor
  · intro p hp hs
    obtain ⟨q, hq, hflush⟩ := himported.stored p hp
    obtain ⟨hafter, hdue, hkept⟩ := flush_draft hflush
    have hq := hv q hq (Option.some.inj (hafter.symm.trans hs))
    rw [hkept.ownerUserId, hdue, hkept.acceptanceRationale] at hq
    exact hq
  · intro d hd hs
    obtain ⟨q, hq, id, -, hmem⟩ := himported.inserted d hd
    obtain ⟨hstatus, hkept⟩ := insert_eq_some hq
    obtain ⟨r, -, hr⟩ := List.mem_filterMap.mp hd
    -- a file has no column for the owner
    have hq := (hv _ hmem (Option.some.inj (hstatus.symm.trans hs))).1
    exact hq (hkept.ownerUserId.trans (opened_kept hr).2.1)

theorem acceptsByRight_of_refused {op : Operation} (h : step u op = none) :
    AcceptsByRight u op := by
  refine acceptsByRight_of_import fun committed call hop => ?_
  subst hop
  rintro rfl haccepted
  obtain ⟨v, hv⟩ := exists_step_import haccepted
  rw [hv] at h
  cases h

/-- **When every accepted risk is owned, dated and justified**: from an empty register,
in every state that a run reaches, if and only if the files accept by right. -/
theorem risk_acceptance_iff {db : Db} (hempty : db.poams = []) (ops : List Operation) :
    (∀ bs v, bs <+: ops → exec step db bs = some v → RisksGrounded v) ↔
      Guarded step AcceptsByRight db ops := by
  refine (guarded_iff_invariant ids_of_step (fun u op _ h => acceptsByRight_of_refused h)
    (fun u op v hids hu h => ?_) ?_ ?_).symm
  · exact ⟨fun hright => risksGrounded_of_step hids hu hright h, acceptsByRight_of_step h⟩
  · rw [hempty]
    exact List.nodup_nil
  · intro p hp
    rw [hempty] at hp
    cases hp

def textLibrary : Library where
  str := fun _ => []
  fromisoformat := fun t => .error ("Invalid isoformat string: '".toList ++ t ++ ['\''])
  parseId := fun _ => .ok none

/-- A file of one row that has a title and a status. -/
def statusFile (status : String) : Operation :=
  .importFile true
    { caller := ⟨none, true⟩
      lib := textLibrary
      rows := [[("title".toList, .str "Weak cipher".toList),
        ("status".toList, .str status.toList)]] }

def filedPoam (status : PoamStatus) : Poam :=
  { blank.poam with id := 1, systemId := 1, title := "Weak cipher".toList, status := status }

theorem risk_acceptance_iff_open :
    (∀ bs v, bs <+: [statusFile "open"] → exec step (register []) bs = some v →
      RisksGrounded v) ↔ Guarded step AcceptsByRight (register []) [statusFile "open"] :=
  @risk_acceptance_iff (register []) rfl _

/-- A file accepts a risk that nobody owns. -/
theorem imported_risk_unowned :
    ¬∀ (db : Db) (ops : List Operation), db.poams = [] →
      ∀ bs v, bs <+: ops → exec step db bs = some v → RisksGrounded v := by
  intro h
  have hrun : exec step (register []) [statusFile "risk_accepted"] =
      some (register [filedPoam .riskAccepted]) := by rfl
  have hgrounded := h (register []) _ rfl _ _ (List.prefix_refl _) hrun
    (filedPoam .riskAccepted) List.mem_cons_self rfl
  exact hgrounded.1 rfl

end Concord.Poams
