import Concord.Ssp.Gate

/-!
# Three readers of one finding

The statements of a project, its scan view and its readiness gate each join the tests of the system
with the entries, and each in its own way (`narrates`, `lists`, `gates`). They agree on the entries
that have an open finding if and only if an entry that a test reaches in one of the ways is reached
in all three (`readers_agree_iff`). A check that declares a second control reaches it in the
statements and the view and not in the gate: the project can be declared ready.
-/

namespace Concord.Ssp

open Concord.Python

section

variable (w : Surroundings) (l : Ledger) (p : Project) (systemId : Nat) (controlId : Text)
  (t : ControlTest)

/-! ## The three ways -/

/-- The statements: a test of a live system, by its last status, of every control it declares and
every practice of its check. -/
def narrates : Prop :=
  (∃ s ∈ w.systems, p.covers s = true ∧ t.systemId = some s.id) ∧ t.contrary = true ∧
    controlId ∈ w.attributed t

def lists : Prop :=
  t.systemId = some systemId ∧ (∃ r, l.latest t = some r ∧ isFinding r.status = true) ∧
    controlId ∈ evidencedControls t.controlId t.controlIds

/-- The gate: by the latest result, or the last status of a test that has none, of the first
control alone. -/
def gates : Prop :=
  t.systemId = some systemId ∧ (∃ status, gateStatus l t = some status ∧ isFinding status = true) ∧
    t.controlId = controlId ∧ controlId ≠ []

end

section

variable {w : Surroundings} {l : Ledger} {p : Project} {systemId : Nat} {controlId : Text}

theorem filed_ne_nil_iff {names : ControlTest → List Text} {row : ControlTest → Finding}
    {tests : List ControlTest} :
    filed names row tests controlId ≠ [] ↔ ∃ t ∈ tests, controlId ∈ names t := by
  unfold filed
  rw [Ne, List.flatMap_eq_nil_iff, not_forall₂]
  refine exists_congr fun t => exists_prop.trans (and_congr_right fun _ => ?_)
  rw [List.map_eq_nil_iff, List.filter_eq_nil_iff]
  constructor
  · intro h
    by_contra hnot
    refine h fun a ha heq => hnot ?_
    exact of_decide_eq_true heq ▸ ha
  · exact fun h hnone => hnone controlId h (decide_eq_true rfl)

theorem failingByControl_ne_nil_iff :
    w.failingByControl p controlId ≠ [] ↔ ∃ t ∈ w.tests, narrates w p controlId t := by
  unfold Surroundings.failingByControl Surroundings.scoped
  rw [filed_ne_nil_iff]
  refine exists_congr fun t => ?_
  rw [List.mem_filter, List.mem_filter, List.any_eq_true, and_assoc, and_assoc]
  refine and_congr_right fun _ => and_congr (exists_congr fun s => and_congr_right fun _ => ?_)
    Iff.rfl
  rw [Bool.and_eq_true, decide_eq_true_iff]

theorem findingsByControl_ne_nil_iff :
    findingsByControl w l systemId controlId ≠ [] ↔
      ∃ t ∈ w.tests, lists l systemId controlId t := by
  unfold findingsByControl scanned resultRows Surroundings.testsOf
  rw [Ne, List.flatMap_eq_nil_iff, not_forall₂]
  constructor
  · rintro ⟨⟨t, r⟩, hrow, hne⟩
    obtain ⟨u, hu, hmap⟩ := List.mem_filterMap.mp hrow
    obtain ⟨q, hq, heq⟩ := Option.map_eq_some_iff.mp hmap
    obtain ⟨rfl, rfl⟩ := Prod.mk.inj heq
    obtain ⟨hmem, hsystem⟩ := List.mem_filter.mp hu
    dsimp only at hne
    split at hne
    case isFalse => exact absurd rfl hne
    case isTrue hfinding =>
      refine ⟨u, hmem, of_decide_eq_true hsystem, ⟨q, hq, hfinding⟩, ?_⟩
      -- the row is of the controls that the test declares
      by_contra hnot
      refine hne (List.map_eq_nil_iff.mpr (List.filter_eq_nil_iff.mpr fun a ha heq => hnot ?_))
      exact of_decide_eq_true heq ▸ ha
  · rintro ⟨t, ht, hsystem, ⟨r, hr, hfinding⟩, hnames⟩
    have hrow : (t, r) ∈ (w.tests.filter fun t => t.systemId = some systemId).filterMap
        fun t => (l.latest t).map fun r => (t, r) := by
      refine List.mem_filterMap.mpr ⟨t, List.mem_filter.mpr ⟨ht, decide_eq_true hsystem⟩, ?_⟩
      rw [hr]
      rfl
    refine ⟨(t, r), hrow, fun hnone => ?_⟩
    dsimp only at hnone
    rw [if_pos hfinding, List.map_eq_nil_iff, List.filter_eq_nil_iff] at hnone
    exact hnone controlId hnames (decide_eq_true rfl)

theorem mem_controlIds_iff :
    controlId ∈ p.controlIds ↔ (∃ e ∈ p.entries, e.controlId = controlId) ∧ controlId ≠ [] := by
  unfold Project.controlIds
  rw [List.mem_filter, List.mem_map, decide_eq_true_iff]

theorem isGap_of_isFinding {status : Governance.ValidationStatus} (h : isFinding status = true) :
    isGap status = true ∧ status ≠ .manualReviewRequired := by
  cases status with
  | fail => exact ⟨rfl, by decide⟩
  | warn => exact ⟨rfl, by decide⟩
  | _ => cases h

theorem isFinding_of_isGap {status : Governance.ValidationStatus} (h : isGap status = true)
    (hne : status ≠ .manualReviewRequired) : isFinding status = true := by
  cases status with
  | fail => rfl
  | warn => rfl
  | manualReviewRequired => exact absurd rfl hne
  | _ => cases h

theorem mem_failingControls_iff :
    controlId ∈ failingControls w l systemId p ↔
      (∃ e ∈ p.entries, e.controlId = controlId) ∧ ∃ t ∈ w.tests, gates l systemId controlId t := by
  unfold failingControls gapRows Surroundings.testsOf
  rw [List.mem_dedup, List.mem_filterMap]
  constructor
  · rintro ⟨⟨c, status⟩, hrow, hsome⟩
    obtain ⟨t, ht, hbind⟩ := List.mem_filterMap.mp hrow
    obtain ⟨hmem, hsystem⟩ := List.mem_filter.mp ht
    obtain ⟨status', hstatus, hif⟩ := Option.bind_eq_some_iff.mp hbind
    split at hif
    case isFalse => cases hif
    case isTrue hcond =>
      obtain ⟨rfl, rfl⟩ := Prod.mk.inj (Option.some.inj hif)
      rw [Bool.and_eq_true, decide_eq_true_iff] at hcond
      dsimp only at hsome
      split at hsome
      case isTrue => cases hsome
      case isFalse hmanual =>
        -- a gap that is not left to a person is a finding
        obtain rfl := Option.some.inj hsome
        obtain ⟨hentry, hne⟩ := mem_controlIds_iff.mp hcond.2
        exact ⟨hentry, t, hmem, of_decide_eq_true hsystem,
          ⟨status', hstatus, isFinding_of_isGap hcond.1 hmanual⟩, rfl, hne⟩
  · rintro ⟨hentry, t, ht, hsystem, ⟨status, hstatus, hfinding⟩, rfl, hne⟩
    obtain ⟨hgap, hmanual⟩ := isGap_of_isFinding hfinding
    refine ⟨(t.controlId, status), ?_, if_neg hmanual⟩
    refine List.mem_filterMap.mpr ⟨t, List.mem_filter.mpr ⟨ht, decide_eq_true hsystem⟩, ?_⟩
    rw [hstatus, Option.bind_some, hgap, decide_eq_true (mem_controlIds_iff.mpr ⟨hentry, hne⟩)]
    rfl

end

/-! ## Agreement -/

/-- The scan view lists an open finding of an entry. -/
def ListsOpen (w : Surroundings) (l : Ledger) (p : Project) (e : Entry) : Prop :=
  ∃ c ∈ (projectScanSync w l p).controls, c.entry = e ∧ c.openFindings ≠ []

/-- **The gate, the scan view and the paragraphs agree** on the entries that have an open finding,
and with one of them the project is not ready, however complete its document is. -/
structure Agree (w : Surroundings) (l : Ledger) (p : Project) (systemId : Nat) : Prop where
  view : ∀ e ∈ p.entries, w.failingByControl p e.controlId ≠ [] ↔ ListsOpen w l p e
  gate : ∀ e ∈ p.entries, ListsOpen w l p e ↔ e.controlId ∈ failingControls w l systemId p
  ready : (∃ e ∈ p.entries, w.failingByControl p e.controlId ≠ []) →
    ∀ doc, (projectCompleteness w l p doc).ready = false

/-- An entry that some test reaches in one way is reached in all three. -/
def Concurs (w : Surroundings) (l : Ledger) (p : Project) (systemId : Nat) (controlId : Text) :
    Prop :=
  (∃ t ∈ w.tests, narrates w p controlId t ∨ lists l systemId controlId t ∨
    gates l systemId controlId t) →
  (∃ t ∈ w.tests, narrates w p controlId t) ∧ (∃ t ∈ w.tests, lists l systemId controlId t) ∧
    ∃ t ∈ w.tests, gates l systemId controlId t

section

variable {w : Surroundings} {l : Ledger} {p : Project} {systemId : Nat}

theorem listsOpen_iff (hp : p.systemId = some systemId) {e : Entry} (he : e ∈ p.entries) :
    ListsOpen w l p e ↔ ∃ t ∈ w.tests, lists l systemId e.controlId t := by
  have hcontrols : (projectScanSync w l p).controls = p.entries.map (scanControl w l systemId) := by
    rw [projectScanSync, hp]
  rw [ListsOpen, hcontrols, ← findingsByControl_ne_nil_iff]
  constructor
  · rintro ⟨c, hc, rfl, hopen⟩
    obtain ⟨e, -, rfl⟩ := List.mem_map.mp hc
    exact hopen
  · exact fun hopen => ⟨_, List.mem_map_of_mem he, rfl, hopen⟩

theorem readinessBlockers_ne_nil {m : MachineEvidence} (h : m.controlsWithOpenFindings ≠ 0) :
    readinessBlockers m ≠ [] := by
  unfold readinessBlockers
  rw [if_neg h]
  refine List.append_ne_nil_of_left_ne_nil (List.append_ne_nil_of_left_ne_nil ?_ _) _
  exact List.append_ne_nil_of_right_ne_nil _ (List.cons_ne_nil _ _)

theorem not_ready_of_failing (hp : p.systemId = some systemId) {controlId : Text}
    (h : controlId ∈ failingControls w l systemId p) (doc : Document) :
    (projectCompleteness w l p doc).ready = false := by
  have hcount : (failingControls w l systemId p).length ≠ 0 := by
    rw [Ne, List.length_eq_zero_iff]
    exact List.ne_nil_of_mem h
  obtain ⟨m, hm, hfindings⟩ : ∃ m, machineEvidence w l p = some m ∧
      m.controlsWithOpenFindings ≠ 0 := by
    rw [machineEvidence, hp]
    exact ⟨_, rfl, hcount⟩
  have hblocked : (readinessBlockers m).isEmpty = false :=
    List.isEmpty_eq_false_iff.mpr (readinessBlockers_ne_nil hfindings)
  unfold projectCompleteness assess
  rw [hm]
  show (_ && (readinessBlockers m).isEmpty) = false
  rw [hblocked, Bool.and_false]

theorem concurs_iff {controlId : Text} : Concurs w l p systemId controlId ↔
    ((∃ t ∈ w.tests, narrates w p controlId t) ↔ ∃ t ∈ w.tests, lists l systemId controlId t) ∧
      ((∃ t ∈ w.tests, lists l systemId controlId t) ↔
        ∃ t ∈ w.tests, gates l systemId controlId t) := by
  unfold Concurs
  simp only [and_or_left, exists_or]
  constructor
  · intro h
    exact ⟨⟨fun hn => (h (.inl hn)).2.1, fun hl => (h (.inr (.inl hl))).1⟩,
      ⟨fun hl => (h (.inr (.inl hl))).2.2, fun hg => (h (.inr (.inr hg))).2.1⟩⟩
  · rintro ⟨hview, hgate⟩ (hn | hl | hg)
    · exact ⟨hn, hview.mp hn, hgate.mp (hview.mp hn)⟩
    · exact ⟨hview.mpr hl, hl, hgate.mp hl⟩
    · exact ⟨hview.mpr (hgate.mpr hg), hgate.mpr hg, hg⟩

/-- **When the three readers agree.** -/
theorem readers_agree_iff (hp : p.systemId = some systemId) :
    Agree w l p systemId ↔ ∀ e ∈ p.entries, Concurs w l p systemId e.controlId := by
  have hgate : ∀ e ∈ p.entries, e.controlId ∈ failingControls w l systemId p ↔
      ∃ t ∈ w.tests, gates l systemId e.controlId t := fun e he =>
    mem_failingControls_iff.trans (and_iff_right ⟨e, he, rfl⟩)
  constructor
  · intro h e he
    rw [concurs_iff, ← failingByControl_ne_nil_iff, ← listsOpen_iff hp he, ← hgate e he]
    exact ⟨h.view e he, h.gate e he⟩
  · intro h
    have hagree : ∀ e ∈ p.entries, _ ∧ _ := fun e he => concurs_iff.mp (h e he)
    refine ⟨fun e he => ?_, fun e he => ?_, ?_⟩
    · rw [failingByControl_ne_nil_iff, listsOpen_iff hp he]
      exact (hagree e he).1
    · rw [listsOpen_iff hp he, hgate e he]
      exact (hagree e he).2
    · rintro ⟨e, he, hfailing⟩ doc
      rw [failingByControl_ne_nil_iff, (hagree e he).1, (hagree e he).2, ← hgate e he] at hfailing
      exact not_ready_of_failing hp hfailing doc

/-- A test whose finding all three read: its last status and its latest result say so, it declares
no control but its first, and its check is of no practice. -/
structure Plain (w : Surroundings) (l : Ledger) (t : ControlTest) : Prop where
  contrary : t.contrary = true
  latest : ∃ r, l.latest t = some r ∧ isFinding r.status = true
  declared : evidencedControls t.controlId t.controlIds = [t.controlId]
  practices : w.practices t = []
  named : t.controlId ≠ []

theorem Plain.narrates {t : ControlTest} (h : Plain w l t)
    (hlive : ∃ s ∈ w.systems, p.covers s = true ∧ t.systemId = some s.id) :
    narrates w p t.controlId t := by
  refine ⟨hlive, h.contrary, ?_⟩
  rw [Surroundings.attributed, h.declared, h.practices]
  exact List.mem_singleton_self _

theorem Plain.lists {t : ControlTest} (h : Plain w l t) (hsystem : t.systemId = some systemId) :
    lists l systemId t.controlId t :=
  ⟨hsystem, h.latest, h.declared ▸ List.mem_singleton_self _⟩

theorem Plain.gates {t : ControlTest} (h : Plain w l t) (hsystem : t.systemId = some systemId) :
    gates l systemId t.controlId t := by
  obtain ⟨r, hr, hfinding⟩ := h.latest
  refine ⟨hsystem, ⟨r.status, ?_, hfinding⟩, rfl, h.named⟩
  rw [gateStatus, hr]

/-- **Where every finding is plain the readers concur** on every control. -/
theorem concurs_of_plain (hp : p.systemId = some systemId)
    (hlive : ∃ s ∈ w.systems, s.id = systemId ∧ s.deleted = false)
    (hplain : ∀ t ∈ w.tests, t.systemId = some systemId →
      (∃ status ∈ [t.lastStatus, gateStatus l t], ∃ v, status = some v ∧ isFinding v = true) →
      Plain w l t) (controlId : Text) : Concurs w l p systemId controlId := by
  obtain ⟨s, hs, hid, hdeleted⟩ := hlive
  have hcovers : p.covers s = true := by
    rw [Project.covers, hp, hdeleted, Bool.not_false, Bool.and_true]
    exact decide_eq_true hid
  -- each way leads to a plain test of the system, whose one control it is
  suffices h : ∀ t ∈ w.tests, narrates w p controlId t ∨ lists l systemId controlId t ∨
      gates l systemId controlId t →
      t.systemId = some systemId ∧ Plain w l t ∧ controlId = t.controlId by
    rintro ⟨t, ht, hway⟩
    obtain ⟨hsystem, hpl, hcontrol⟩ := h t ht hway
    rw [hcontrol]
    exact ⟨⟨t, ht, hpl.narrates ⟨s, hs, hcovers, hid ▸ hsystem⟩⟩, ⟨t, ht, hpl.lists hsystem⟩,
      ⟨t, ht, hpl.gates hsystem⟩⟩
  rintro t ht (⟨⟨s', hs', hcov, hsystem⟩, hcontrary, hnames⟩ | ⟨hsystem, ⟨r, hr, hf⟩, hnames⟩ |
    ⟨hsystem, ⟨v, hv, hf⟩, hcontrol, -⟩)
  · have hsystem : t.systemId = some systemId := by
      rw [Project.covers, hp, Bool.and_eq_true] at hcov
      rw [hsystem, of_decide_eq_true hcov.1]
    have hfinding : ∃ v, t.lastStatus = some v ∧ isFinding v = true := by
      rw [ControlTest.contrary, Bool.or_eq_true, decide_eq_true_iff, decide_eq_true_iff]
        at hcontrary
      rcases hcontrary with h | h
      · exact ⟨.fail, h, rfl⟩
      · exact ⟨.warn, h, rfl⟩
    have hpl := hplain t ht hsystem ⟨_, List.mem_cons_self, hfinding⟩
    rw [Surroundings.attributed, hpl.declared, hpl.practices] at hnames
    exact ⟨hsystem, hpl, List.mem_singleton.mp hnames⟩
  · have hstatus : gateStatus l t = some r.status := by rw [gateStatus, hr]
    have hpl := hplain t ht hsystem
      ⟨_, List.mem_cons_of_mem _ (List.mem_singleton_self _), r.status, hstatus, hf⟩
    rw [hpl.declared] at hnames
    exact ⟨hsystem, hpl, List.mem_singleton.mp hnames⟩
  · have hpl := hplain t ht hsystem
      ⟨_, List.mem_cons_of_mem _ (List.mem_singleton_self _), v, hv, hf⟩
    exact ⟨hsystem, hpl, hcontrol.symm⟩

end

/-! ## A check of two controls -/

/-- The guest-invitation check of a system has failed; it declares AC-3 and AC-6. -/
def guestInvites : Surroundings :=
  { unexamined with
    systems := [⟨1, some 1, false⟩]
    tests := [{
      id := 4
      systemId := some 1
      controlId := "AC-3".toList
      controlIds := ["AC-3".toList, "AC-6".toList]
      checkKey := none
      name := "Guest invitations".toList
      lastStatus := some .fail
      lastTestedAt := none }] }

def guestResult : Ledger where
  results := [{
    id := 9
    controlTestId := 4
    runAt := 1772409600000000
    status := .fail
    detail := none
    evidenceRef := none
    expected := none
    evaluated := 1
    failing := 1
    waived := 0 }]
  isodate _ := "2026-03-02".toList
  connectorType _ := none
  expected _ := none
  poams := []
  needsManualAssignment _ := false

def singleEntry (controlId : Text) : Project where
  systemId := some 1
  organizationId := some 1
  entries := [{
    controlId := controlId
    nistId := none
    domain := none
    requirement := none
    responsibleRole := none
    status := [implementedStatus]
    parts := []
    odpValues := [] }]
  nodup := List.nodup_singleton _

/-- The finding against AC-6 is disclosed, and the project is ready. -/
theorem guestInvites_disagree :
    (projectCompleteness guestInvites guestResult (singleEntry "AC-6".toList) ⟨1, []⟩).ready =
        true ∧
      ¬Agree guestInvites guestResult (singleEntry "AC-6".toList) 1 := by
  have hready : (projectCompleteness guestInvites guestResult (singleEntry "AC-6".toList)
      ⟨1, []⟩).ready = true := by decide +kernel
  refine ⟨hready, fun h => ?_⟩
  have hnot := h.ready ⟨_, List.mem_singleton_self _, by decide +kernel⟩ ⟨1, []⟩
  rw [hready] at hnot
  cases hnot

/-- Of AC-3, the first control of the check, the three readers agree. -/
theorem guestInvites_agree :
    Agree guestInvites guestResult (singleEntry "AC-3".toList) 1 := by
  refine (readers_agree_iff rfl).mpr fun e he _ => ?_
  rw [List.mem_singleton.mp he]
  refine ⟨⟨_, List.mem_singleton_self _, ?_⟩, ⟨_, List.mem_singleton_self _, ?_⟩,
    ⟨_, List.mem_singleton_self _, ?_⟩⟩
  · exact ⟨⟨_, List.mem_singleton_self _, rfl, rfl⟩, rfl, by decide +kernel⟩
  · exact ⟨rfl, ⟨_, rfl, rfl⟩, by decide +kernel⟩
  · exact ⟨rfl, ⟨_, rfl, rfl⟩, rfl, by decide⟩

def plainInvites : Surroundings :=
  { guestInvites with tests := guestInvites.tests.map fun t => { t with controlIds := [] } }

theorem plainInvites_concurs :
    Concurs plainInvites guestResult (singleEntry "AC-3".toList) 1 "AC-3".toList := by
  refine concurs_of_plain rfl ⟨⟨1, some 1, false⟩, List.mem_singleton_self _, rfl, rfl⟩ ?_ _
  intro t ht _ _
  rw [List.mem_singleton.mp ht]
  exact ⟨rfl, ⟨_, rfl, rfl⟩, by decide +kernel, by decide +kernel, by decide⟩

end Concord.Ssp
