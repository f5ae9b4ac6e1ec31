import Concord.Governance.Monitoring

/-!
# What waivers silence

A failing result is recorded whatever was accepted; a waiver spares its consequence, the
alert with its task and POA&M. `waivers_silence`: `record_result` alerts unless
remediation was not asked for or all that fails is waived (`Spared`). Where findings are
listed and none of them needs cover there is no alert to suppress, so no waiver spares
that result.
-/

namespace Concord.Governance.ControlTests

open Concord.Python Concord.Base

/-! ## Cover -/

/-- A verdict in `REQUIRES_COVER`. -/
def NeedsCover (f : ResourceFinding) : Prop :=
  f.verdict ∈ requiresCover.map ValidationStatus.text

/-- A waiver that is in force on a day. -/
structure InForce (today : Int) (w : Waiver) : Prop where
  approved : w.status = .approved
  unexpired : ∀ d, w.expiresOn = some d → today ≤ d

theorem isActive_iff {today : Int} {w : Waiver} : isActive today w = true ↔ InForce today w := by
  unfold isActive
  rw [Bool.and_eq_true, decide_eq_true_eq]
  constructor
  · rintro ⟨happroved, hday⟩
    refine ⟨happroved, fun d hd => ?_⟩
    rw [hd] at hday
    exact of_decide_eq_true hday
  · rintro ⟨happroved, hday⟩
    refine ⟨happroved, ?_⟩
    cases h : w.expiresOn with
    | none => rfl
    | some d => exact decide_eq_true (hday d h)

/-- A waiver of the whole check, or of one resource. -/
def Reaches (w : Waiver) (resource : Text) : Prop :=
  w.resourceId = none ∨ w.resourceId = some resource

theorem find_active {waivers : List Waiver} {today : Int} {q : Waiver → Bool} :
    ((waivers.filter (isActive today)).find? q).isSome = true ↔
      ∃ w ∈ waivers, InForce today w ∧ q w = true := by
  rw [List.find?_isSome]
  simp only [List.mem_filter, isActive_iff, and_assoc]

theorem waiverFor_isNone {waivers : List Waiver} {today : Int} {resource : Text} :
    ((((waivers.filter (isActive today)).reverse.find? fun w => w.resourceId = some resource).or
      ((waivers.filter (isActive today)).find? fun w => w.resourceId = none)).map
        Waiver.id).isNone = false ↔
      ∃ w ∈ waivers, InForce today w ∧ Reaches w resource := by
  rw [Option.isNone_map, Option.isNone_or, Bool.and_eq_false_iff, ← List.filter_reverse]
  simp only [Option.isNone_eq_false_iff, find_active, decide_eq_true_eq, List.mem_reverse]
  constructor
  · rintro (⟨w, hw, hforce, hres⟩ | ⟨w, hw, hforce, hres⟩)
    · exact ⟨w, hw, hforce, .inr hres⟩
    · exact ⟨w, hw, hforce, .inl hres⟩
  · rintro ⟨w, hw, hforce, hres | hres⟩
    · exact .inr ⟨w, hw, hforce, hres⟩
    · exact .inl ⟨w, hw, hforce, hres⟩

/-- **When a result is fully accepted**: nothing was listed and the whole check is waived,
or something needs cover and everything that does is covered. -/
theorem cover_suppress_iff (findings : List ResourceFinding) (waivers : List Waiver)
    (today : Int) :
    (cover findings waivers today).suppress = true ↔
      (findings = [] ∧ ∃ w ∈ waivers, InForce today w ∧ w.resourceId = none) ∨
      ((∃ f ∈ findings, NeedsCover f) ∧ ∀ f ∈ findings, NeedsCover f →
        ∃ w ∈ waivers, InForce today w ∧ Reaches w f.resourceId) := by
  have hmem : ∀ r : Text, r ∈ (findings.filter fun f => f.verdict ∈ requiresCover.map
      ValidationStatus.text).map ResourceFinding.resourceId ↔
        ∃ f ∈ findings, NeedsCover f ∧ f.resourceId = r := by
    intro r
    simp only [List.mem_map, List.mem_filter, decide_eq_true_eq, NeedsCover, and_assoc]
  unfold cover
  dsimp only
  generalize (findings.filter fun f => f.verdict ∈ requiresCover.map
    ValidationStatus.text).map ResourceFinding.resourceId = needing at hmem ⊢
  -- with nothing to cover, only a waiver of the whole test and no finding at all suppress
  by_cases hnone : needing = []
  · have hno : ¬∃ f ∈ findings, NeedsCover f := by
      rintro ⟨f, hf, hneeds⟩
      have hin := (hmem f.resourceId).mpr ⟨f, hf, hneeds, rfl⟩
      rw [hnone] at hin
      cases hin
    rw [if_pos hnone, Bool.and_eq_true, find_active, List.isEmpty_iff]
    simp only [decide_eq_true_eq]
    constructor
    · rintro ⟨hwhole, hempty⟩
      exact .inl ⟨hempty, hwhole⟩
    · rintro (⟨hempty, hwhole⟩ | ⟨hneeds, -⟩)
      · exact ⟨hwhole, hempty⟩
      · exact absurd hneeds hno
  · obtain ⟨r, hr⟩ := List.exists_mem_of_ne_nil needing hnone
    obtain ⟨f, hf, hneeds, -⟩ := (hmem r).mp hr
    rw [if_neg hnone, List.isEmpty_iff, List.filter_eq_nil_iff]
    simp only [Bool.not_eq_true, waiverFor_isNone]
    constructor
    · intro hall
      exact .inr ⟨⟨f, hf, hneeds⟩, fun g hg hgneeds =>
        hall g.resourceId ((hmem g.resourceId).mpr ⟨g, hg, hgneeds, rfl⟩)⟩
    · rintro (⟨hempty, -⟩ | ⟨-, hall⟩)
      · rw [hempty] at hf
        cases hf
      · intro r hr
        obtain ⟨g, hg, hgneeds, rfl⟩ := (hmem r).mp hr
        exact hall g hg hgneeds

/-! ## The waivers of a test -/

/-- A waiver of the organization and the system of a test, for its check or its control. -/
structure IsFor (t : ControlTest) (w : Waiver) : Prop where
  organization : w.organizationId = t.organizationId
  system : t.systemId = some w.systemId
  target : w.controlId = some t.controlId ∨
    ∃ key, key ≠ [] ∧ t.checkKey = some key ∧ w.checkKey = some key

theorem orElse_none_ne {key : Option Text} :
    orElse key none ≠ none ↔ ∃ text, text ≠ [] ∧ key = some text := by
  cases key with
  | none => simp [orElse]
  | some text => cases text <;> simp [orElse]

theorem waiverMatches_iff {w : Waiver} {t : ControlTest} :
    waiverMatches w t = true ↔ IsFor t w := by
  unfold waiverMatches
  cases hs : t.systemId with
  | none =>
    refine ⟨fun h => (by cases h), fun h => ?_⟩
    have hsystem := h.system
    rw [hs] at hsystem
    cases hsystem
  | some system =>
    simp only [Bool.and_eq_true, Bool.or_eq_true, decide_eq_true_eq, orElse_none_ne]
    constructor
    · rintro ⟨⟨horg, rfl⟩, hcontrol | ⟨⟨key, hne, hkey⟩, hsame⟩⟩
      · exact ⟨horg, hs, .inl hcontrol⟩
      · exact ⟨horg, hs, .inr ⟨key, hne, hkey, hsame.trans hkey⟩⟩
    · rintro ⟨horg, hsystem, htarget⟩
      refine ⟨⟨horg, (Option.some.inj (hs.symm.trans hsystem)).symm⟩, ?_⟩
      rcases htarget with hcontrol | ⟨key, hne, hkey, hsame⟩
      · exact .inl hcontrol
      · exact .inr ⟨⟨key, hne, hkey⟩, hsame.trans hkey.symm⟩

theorem mem_waiversForTest {waivers : List Waiver} {t : ControlTest} {w : Waiver} :
    w ∈ waiversForTest waivers t ↔ w ∈ waivers ∧ IsFor t w := by
  rw [waiversForTest, List.mem_filter, List.mem_insertionSort, waiverMatches_iff]

/-! ## Sparing -/

/-- A finding is covered by a waiver of the test that is in force. -/
def Covered (db : Db) (t : ControlTest) (today : Int) (f : ResourceFinding) : Prop :=
  ∃ w ∈ db.waivers, IsFor t w ∧ InForce today w ∧ Reaches w f.resourceId

def WholeWaived (db : Db) (t : ControlTest) (today : Int) : Prop :=
  ∃ w ∈ db.waivers, IsFor t w ∧ InForce today w ∧ w.resourceId = none

/-- **Nothing follows from a failure**: remediation was not asked for, or the whole check
is waived and nothing was listed, or something needs cover and all that does is covered. -/
def Spared (db : Db) (t : ControlTest) (c : ResultCall) : Prop :=
  c.openRemediation = false ∨
    (c.resources = [] ∧ WholeWaived db t c.now.date) ∨
    (∃ f ∈ c.resources, NeedsCover f) ∧
      ∀ f ∈ c.resources, NeedsCover f → Covered db t c.now.date f

variable {db : Db} {t : ControlTest} {c : ResultCall} {status : ValidationStatus}

theorem cover_waiversForTest_iff :
    (cover c.resources (waiversForTest db.waivers t) c.now.date).suppress = true ↔
      (c.resources = [] ∧ WholeWaived db t c.now.date) ∨
      (∃ f ∈ c.resources, NeedsCover f) ∧
        ∀ f ∈ c.resources, NeedsCover f → Covered db t c.now.date f := by
  rw [cover_suppress_iff]
  simp only [mem_waiversForTest, WholeWaived, Covered, and_assoc]

theorem coverage_suppress (hbad : status = .fail ∨ status = .warn) :
    ((coverage db t c status).map Coverage.suppress).getD false =
      (cover c.resources (waiversForTest db.waivers t) c.now.date).suppress := by
  unfold coverage
  rw [if_pos hbad]
  cases hw : waiversForTest db.waivers t with
  | cons w ws => rfl
  | nil =>
    have hnot : ¬(cover c.resources [] c.now.date).suppress = true := by
      rw [cover_suppress_iff]
      rintro (⟨-, w, hw, -⟩ | ⟨⟨f, hf, hneeds⟩, hall⟩)
      · cases hw
      · obtain ⟨w, hw, -⟩ := hall f hf hneeds
        cases hw
    exact (Bool.eq_false_of_not_eq_true hnot).symm

/-- The result of a call, with what waivers there were. -/
def resultOf (db : Db) (t : ControlTest) (c : ResultCall) (status : ValidationStatus) :
    ControlTestResult :=
  resultRow db t c status (coverage db t c status)

/-- The database with the result, before anything follows from it. -/
def recorded (db : Db) (t : ControlTest) (c : ResultCall) (status : ValidationStatus) : Db :=
  written db t c status (resultOf db t c status)

theorem recordResult_eq (hparse : parseStatus c.status = some status) :
    recordResult db t c =
      (consequence (recorded db t c status) (tested status c.now t) t.lastStatus c status
        (coverage db t c status) (resultOf db t c status).id).map
          fun db' => (db', resultOf db t c status) := by
  unfold recordResult
  rw [hparse]
  rfl

theorem recordResult_of_spared (hparse : parseStatus c.status = some status)
    (hbad : status = .fail ∨ status = .warn) (h : Spared db t c) :
    recordResult db t c = .ok (recorded db t c status, resultOf db t c status) := by
  have hsilent : consequence (recorded db t c status) (tested status c.now t) t.lastStatus c
      status (coverage db t c status) (resultOf db t c status).id =
        .ok (recorded db t c status) := by
    unfold consequence
    rw [if_pos hbad]
    rcases h with hopen | hcovered
    · rw [hopen]
      rfl
    · rw [coverage_suppress hbad, cover_waiversForTest_iff.mpr hcovered, if_pos rfl, ite_self]
  rw [recordResult_eq hparse, hsilent]
  rfl

theorem recordResult_of_unspared (hparse : parseStatus c.status = some status)
    (hbad : status = .fail ∨ status = .warn) (h : ¬Spared db t c) :
    recordResult db t c =
      (alertOnFailure (recorded db t c status) (tested status c.now t) status
        (c.detail.getD []) c.now).map fun db' => (db', resultOf db t c status) := by
  rw [Spared, not_or] at h
  have halert : consequence (recorded db t c status) (tested status c.now t) t.lastStatus c
      status (coverage db t c status) (resultOf db t c status).id =
        alertOnFailure (recorded db t c status) (tested status c.now t) status
          (c.detail.getD []) c.now := by
    unfold consequence
    rw [if_pos hbad, if_neg (by simpa using h.1), coverage_suppress hbad,
      if_neg (fun hs => h.2 (cover_waiversForTest_iff.mp hs))]
  rw [recordResult_eq hparse, halert]

/-! ## What is recorded -/

/-- A result without what is attributed to waivers: their number, and the waiver of each
resource. -/
def unattributed (r : ControlTestResult) : ControlTestResult :=
  { r with waived := 0, resources := r.resources.map fun row => { row with waiverId := none } }

theorem unattributed_resultOf :
    unattributed (resultOf db t c status) = resultRow db t c status none := by
  unfold unattributed resultOf resultRow
  simp

theorem alertOnFailure_keeps {db' : Db} {detail : Text} {now : Moment}
    (h : alertOnFailure db t status detail now = .ok db') :
    db'.tests = db.tests ∧ db'.results = db.results := by
  obtain ⟨poams, -, rfl⟩ := alert_eq_ok (system_getD t) h
  exact ⟨rfl, rfl⟩

theorem record_keeps (hparse : parseStatus c.status = some status)
    (hbad : status = .fail ∨ status = .warn) {r : Db × ControlTestResult}
    (h : recordResult db t c = .ok r) :
    r.2 = resultOf db t c status ∧ r.1.tests = (recorded db t c status).tests ∧
      r.1.results = db.results ++ [resultOf db t c status] := by
  by_cases hs : Spared db t c
  · rw [recordResult_of_spared hparse hbad hs, Except.ok.injEq] at h
    rw [← h]
    exact ⟨rfl, rfl, rfl⟩
  · rw [recordResult_of_unspared hparse hbad hs] at h
    cases halert : alertOnFailure (recorded db t c status) (tested status c.now t) status
        (c.detail.getD []) c.now with
    | error e =>
      rw [halert] at h
      cases h
    | ok db' =>
      rw [halert] at h
      obtain rfl := Except.ok.inj h
      obtain ⟨htests, hresults⟩ := alertOnFailure_keeps halert
      exact ⟨rfl, htests, hresults⟩

/-- **What waivers do to a failure**: spared, it has no consequence, and otherwise it is
alerted on; what is recorded is the same under any other waivers. -/
structure Silences (spared : Prop) (db : Db) (t : ControlTest) (c : ResultCall)
    (status : ValidationStatus) : Prop where
  silent : spared → recordResult db t c =
    .ok (recorded db t c status, resultOf db t c status)
  alerted : ¬spared → recordResult db t c =
    (alertOnFailure (recorded db t c status) (tested status c.now t) status
      (c.detail.getD []) c.now).map fun db' => (db', resultOf db t c status)
  same : ∀ waivers r r', recordResult db t c = .ok r →
    recordResult { db with waivers := waivers } t c = .ok r' →
      r'.1.tests = r.1.tests ∧ r'.2.status = r.2.status ∧
        r'.1.results.map unattributed = r.1.results.map unattributed ∧
        unattributed r'.2 = unattributed r.2

/-- **Waivers silence what is accepted, and nothing else.** -/
theorem waivers_silence (hparse : parseStatus c.status = some status)
    (hbad : status = .fail ∨ status = .warn) : Silences (Spared db t c) db t c status := by
  refine ⟨recordResult_of_spared hparse hbad, recordResult_of_unspared hparse hbad, ?_⟩
  intro waivers r r' hr hr'
  obtain ⟨hres, htests, hresults⟩ := record_keeps hparse hbad hr
  obtain ⟨hres', htests', hresults'⟩ := record_keeps hparse hbad hr'
  -- the row without attributions does not depend on the waivers
  have hsame : unattributed (resultOf { db with waivers := waivers } t c status) =
      unattributed (resultOf db t c status) := by
    rw [unattributed_resultOf, unattributed_resultOf]
    rfl
  refine ⟨htests'.trans htests.symm, ?_, ?_, ?_⟩
  · rw [hres, hres']
    rfl
  · rw [hresults, hresults', List.map_append, List.map_append, List.map_singleton,
      List.map_singleton, hsame]
  · rw [hres, hres', hsame]

/-! ## Nothing to accept -/

/-- Every finding that needs cover has it; if nothing is listed, the whole check is
waived. -/
def AllCovered (db : Db) (t : ControlTest) (c : ResultCall) : Prop :=
  c.openRemediation = false ∨
    (∀ f ∈ c.resources, NeedsCover f → Covered db t c.now.date f) ∧
      (c.resources = [] → WholeWaived db t c.now.date)

def failingUnlisted : ResultCall :=
  { failing with resources := [⟨"vm-1".toList, "vm".toList, "pass".toList, []⟩] }

theorem waivers_silence_unlisted :
    Silences (Spared (unmonitored noInventory) oneTest failingUnlisted)
      (unmonitored noInventory) oneTest failingUnlisted .fail :=
  waivers_silence (by decide +kernel) (.inl rfl)

/-- It is alerted on, though none of its findings is left uncovered. -/
theorem nothing_to_accept_is_alerted :
    ¬∀ (db : Db) (t : ControlTest) (c : ResultCall) (status : ValidationStatus),
      parseStatus c.status = some status → status = .fail ∨ status = .warn →
      t.systemId.isSome = true → Silences (AllCovered db t c) db t c status := by
  intro h
  have hall := h (unmonitored noInventory) oneTest failingUnlisted .fail (by decide +kernel)
    (.inl rfl) rfl
  have hcovered : AllCovered (unmonitored noInventory) oneTest failingUnlisted := by
    refine .inr ⟨fun f hf hneeds => ?_, fun h => by cases h⟩
    rw [List.mem_singleton.mp hf] at hneeds
    exact absurd hneeds (by unfold NeedsCover; decide)
  have hnotices := congrArg (fun r => r.toOption.map fun r => r.1.notifications.length)
    (hall.silent hcovered)
  exact absurd hnotices (by decide +kernel)

end Concord.Governance.ControlTests
