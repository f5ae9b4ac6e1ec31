import Concord.Base.OrderBy
import Concord.Governance.Register
import Concord.Posture.ScanAll

/-!
# What leaves a system's scope

`ccf/posture/scope.py`: which providers a system is assessed by (`provider_scope`), and what
becomes of the generated tests of the others (`apply_provider_scope`): those that never held a
verdict are deleted (`retire`), the rest get a result that withdraws them (`withdraw`).

A test is withdrawn if its latest result, by `run_at`, is no withdrawal. `run_at` is the start of
the transaction that recorded a result, and `last_status` is what was recorded last: where
transactions overlap the two need not agree (`applied_iff`).
-/

namespace Concord.Posture.Scope

open Concord.Base Concord.Python
open Concord.Governance (ValidationStatus nextId lt_nextId)

/-! ## Tables -/

/-- A row of `control_tests`. -/
structure ControlTest where
  id : Nat
  systemId : Option Nat
  controlId : Text
  source : Text
  connectorType : Option Text
  checkKey : Option Text
  lastStatus : Option ValidationStatus
  lastTestedAt : Option Int
  deriving DecidableEq

/-- A row of `control_test_results`. -/
structure ControlTestResult where
  id : Nat
  controlTestId : Nat
  runAt : Int
  status : ValidationStatus
  detail : Option Text
  evidenceRef : Option Text
  deriving DecidableEq

/-- A row of `connector_configs`. -/
structure ConnectorConfig where
  organizationId : Option Nat
  connectorType : Text
  deriving DecidableEq

/-- A row of `system_profiles`. -/
structure SystemProfile where
  systemId : Nat
  cloudPlatform : Option Text
  deriving DecidableEq

@[ext]
structure Db where
  connectorConfigs : List ConnectorConfig
  profiles : List SystemProfile
  /-- The `check_key` of each waiver. -/
  waivers : List (Option Text)
  tests : List ControlTest
  results : List ControlTestResult
  testIds : (tests.map ControlTest.id).Nodup

/-! ## Scope -/

/-- `_CONNECTOR_PLATFORM`. -/
def connectorPlatform : List (Text × Text) :=
  [("msgraph".toList, "m365".toList), ("aws_govcloud".toList, "aws_govcloud".toList),
    ("azure_arm".toList, "azure".toList), ("gcp".toList, "gcp".toList)]

/-- `PLATFORM_TO_SSP`. -/
def platformToSsp : List (Text × Text) :=
  [("m365_gcc_high".toList, "m365".toList), ("azure_gov".toList, "azure".toList),
    ("aws_govcloud".toList, "aws_govcloud".toList), ("gcp".toList, "gcp".toList),
    ("none".toList, "none".toList)]

/-- `NO_PLATFORM`. -/
def noPlatform : Text := "none".toList

/-- `sorted(known_providers())`. -/
def knownProviders : List Text :=
  ["aws_govcloud".toList, "azure_arm".toList, "gcp".toList, "msgraph".toList, "puppetdb".toList]

/-- What an intake answer is mapped to, if there is an answer. -/
def sspOf (cloudPlatform : Option Text) : Option Text :=
  (orElse cloudPlatform none).bind fun answer => platformToSsp.lookup (strip answer)

/-- `_platform_for_system`. -/
def platformForSystem (cloudPlatform : Option Text) : Option Text :=
  (sspOf cloudPlatform).filter fun platform => platform ∈ connectorPlatform.map Prod.snd

section ProviderScope

variable (repr : Text → Text)

/-- One turn of the loop of `provider_scope`. -/
def scopeFor (configured : List Text) (declared : Option Text) (connector : Text) :
    ProviderScope :=
  match connectorPlatform.lookup connector with
  | none =>
    if connector ∈ configured then
      ⟨true, "this organization has configured the ".toList ++ connector ++ " connector".toList⟩
    else ⟨false, connector ++ " maps to no cloud platform, so it is ".toList
      ++ "assessed only when this organization configures it".toList⟩
  | some platform =>
    if sspOf declared = some noPlatform then
      ⟨false, "this system's environment is ".toList ++ repr (declared.getD [])
        ++ " (no cloud), so no cloud connector is assessed; ".toList
        ++ "change the system's environment to measure ".toList ++ platform⟩
    else
      match platformForSystem declared with
      | some environment =>
        if platform = environment then
          ⟨true, "this system's environment is ".toList ++ repr (declared.getD [])
            ++ ", which is the ".toList ++ platform
            ++ " platform this connector assesses".toList⟩
        else
          ⟨false, "this system's environment is ".toList ++ repr (declared.getD [])
            ++ "; ".toList ++ connector ++ " assesses ".toList ++ platform
            ++ ", so its checks do not apply. ".toList
            ++ "Change the system's environment to measure it instead".toList⟩
      | none =>
        if connector ∈ configured then
          ⟨true, "this organization has configured the ".toList ++ connector
            ++ " connector and this system declares no environment; ".toList
            ++ "set the system's environment to choose what is measured".toList⟩
        else
          ⟨false, "this system declares no environment, so Concord cannot tell whether ".toList
            ++ "it uses ".toList ++ platform
            ++ "; set the system's environment or configure the ".toList ++ connector
            ++ " connector".toList⟩

/-- The connectors that the organization of a system has configured. -/
def Db.configured (db : Db) (system : System) : List Text :=
  (db.connectorConfigs.filter fun c => c.organizationId = some system.organizationId ∧
    c.connectorType ≠ []).map ConnectorConfig.connectorType

def Db.declared (db : Db) (system : System) : Option Text :=
  (db.profiles.find? fun p => p.systemId = system.id).bind SystemProfile.cloudPlatform

/-- `provider_scope`. -/
def providerScope (db : Db) (system : System) : List (Text × ProviderScope) :=
  knownProviders.map fun connector =>
    (connector, scopeFor repr (db.configured system) (db.declared system) connector)

end ProviderScope

/-! ## Retiring and withdrawing -/

/-- `OUT_OF_SCOPE_EVIDENCE_REF`. -/
def outOfScopeEvidenceRef : Text := "ccf:scope:outside-environment".toList

/-- `_NEVER_ASSESSED`. -/
def neverAssessed : List ValidationStatus := [.manualReviewRequired, .notTested]

/-- A test that a scan generated for a system and a connector. -/
def selects (systemId : Nat) (connectorKey : Text) (test : ControlTest) : Bool :=
  test.systemId = some systemId ∧ test.connectorType = some connectorKey ∧
    test.source = "generated".toList

def Db.resultsOf (db : Db) (testId : Nat) : List ControlTestResult :=
  db.results.filter fun r => r.controlTestId = testId

/-- No result of the test holds a verdict, and no waiver names its check. -/
def Db.retires (db : Db) (test : ControlTest) : Bool :=
  (db.resultsOf test.id).all (fun r => r.status ∈ neverAssessed) && test.checkKey ∉ db.waivers

/-- What is reported of a test. -/
structure CheckRef where
  checkKey : Text
  controlId : Text
  connector : Text
  deriving DecidableEq

def checkRef (connectorKey : Text) (test : ControlTest) : CheckRef :=
  ⟨test.checkKey.getD [], test.controlId, connectorKey⟩

theorem nodup_testIds_filter {tests : List ControlTest} (p : ControlTest → Bool)
    (h : (tests.map ControlTest.id).Nodup) : ((tests.filter p).map ControlTest.id).Nodup :=
  (List.filter_sublist.map _).nodup h

/-- `retire_out_of_scope_checks`. The results of a deleted test go with it. -/
def retire (db : Db) (systemId : Nat) (connectorKey : Text) : Db × List CheckRef :=
  let retired := db.tests.filter fun t => selects systemId connectorKey t && db.retires t
  ({ db with
      tests := db.tests.filter fun t => !(selects systemId connectorKey t && db.retires t)
      results := db.results.filter fun r => r.controlTestId ∉ retired.map ControlTest.id
      testIds := nodup_testIds_filter _ db.testIds },
    retired.map (checkRef connectorKey))

/-- `ORDER BY run_at DESC, id DESC`. -/
def ControlTestResult.stamp (r : ControlTestResult) : Stamp := Base.stamp r.runAt r.id

/-- The latest result of a test is a withdrawal. -/
def Db.isWithdrawn (db : Db) (testId : Nat) : Bool :=
  (newest ControlTestResult.stamp (db.resultsOf testId)).bind ControlTestResult.evidenceRef =
    some outOfScopeEvidenceRef

/-- The start of the transaction and the time of day. -/
structure Clock where
  now : Int
  utcNow : Int

def withdrawal (db : Db) (testId : Nat) (reason : Text) (clock : Clock) : ControlTestResult where
  id := nextId (db.results.map ControlTestResult.id)
  controlTestId := testId
  runAt := clock.now
  status := .notApplicable
  detail := some ("Not assessed for this system: ".toList ++ reason)
  evidenceRef := some outOfScopeEvidenceRef

def ControlTest.withdrawn (clock : Clock) (test : ControlTest) : ControlTest :=
  { test with lastStatus := some .notApplicable, lastTestedAt := some clock.utcNow }

def writeTest (testId : Nat) (f : ControlTest → ControlTest) (tests : List ControlTest) :
    List ControlTest :=
  tests.map fun t => if t.id = testId then f t else t

theorem writeTest_ids {testId : Nat} {f : ControlTest → ControlTest}
    (hf : ∀ t, (f t).id = t.id) (tests : List ControlTest) :
    (writeTest testId f tests).map ControlTest.id = tests.map ControlTest.id := by
  rw [writeTest, List.map_map]
  refine List.map_congr_left fun t _ => ?_
  rw [Function.comp_apply]
  split
  · exact hf t
  · rfl

theorem nodup_writeTest_withdrawn {testId : Nat} {clock : Clock} {tests : List ControlTest}
    (h : (tests.map ControlTest.id).Nodup) :
    ((writeTest testId (ControlTest.withdrawn clock) tests).map ControlTest.id).Nodup := by
  have hid : ∀ t : ControlTest, (t.withdrawn clock).id = t.id := fun _ => rfl
  rw [writeTest_ids hid]
  exact h

/-- One turn of the loop of `withdraw_out_of_scope_checks`; `record_result` alerts nobody of a
result that is `not_applicable`. -/
def withdrawOne (connectorKey reason : Text) (clock : Clock) (s : Db × List CheckRef)
    (test : ControlTest) : Db × List CheckRef :=
  if s.1.isWithdrawn test.id then s
  else
    ({ s.1 with
        tests := writeTest test.id (ControlTest.withdrawn clock) s.1.tests
        results := s.1.results ++ [withdrawal s.1 test.id reason clock]
        testIds := nodup_writeTest_withdrawn s.1.testIds },
      s.2 ++ [checkRef connectorKey test])

/-- `withdraw_out_of_scope_checks`. -/
def withdraw (db : Db) (systemId : Nat) (connectorKey reason : Text) (clock : Clock) :
    Db × List CheckRef :=
  (db.tests.filter (selects systemId connectorKey)).foldl
    (withdrawOne connectorKey reason clock) (db, [])

/-! ## Applying the scope -/

/-- What `apply_provider_scope` returns. -/
structure Applied where
  scope : List (Text × ProviderScope)
  outOfScope : List (Text × Text) := []
  retired : List CheckRef := []
  withdrawn : List CheckRef := []
  deriving DecidableEq

def applyOne (systemId : Nat) (clock : Clock) (s : Db × Applied)
    (provider : Text × ProviderScope) : Db × Applied :=
  if provider.2.inScope then s
  else
    let (db, retired) := retire s.1 systemId provider.1
    let (db, withdrawn) := withdraw db systemId provider.1 provider.2.reason clock
    (db, { s.2 with
      outOfScope := s.2.outOfScope ++ [(provider.1, provider.2.reason)]
      retired := s.2.retired ++ retired
      withdrawn := s.2.withdrawn ++ withdrawn })

/-- `apply_provider_scope`. -/
def applyProviderScope (repr : Text → Text) (db : Db) (system : System) (clock : Clock) :
    Db × Applied :=
  let scope := providerScope repr db system
  scope.foldl (applyOne system.id clock) (db, { scope := scope })

/-! ## What becomes of a test -/

section Turn

variable {db db' db'' : Db} {systemId : Nat} {connectorKey reason : Text} {clock : Clock}
  {test : ControlTest}

theorem mem_resultsOf {r : ControlTestResult} {testId : Nat} :
    r ∈ db.resultsOf testId ↔ r ∈ db.results ∧ r.controlTestId = testId := by
  rw [Db.resultsOf, List.mem_filter, decide_eq_true_eq]

theorem eq_of_id {t u : ControlTest} (ht : t ∈ db.tests) (hu : u ∈ db.tests) (h : t.id = u.id) :
    t = u :=
  List.inj_on_of_nodup_map db.testIds ht hu h

/-- The test of an id and its results are as they were. -/
structure Same (db db' : Db) (testId : Nat) : Prop where
  tests : ∀ t : ControlTest, t.id = testId → (t ∈ db'.tests ↔ t ∈ db.tests)
  results : db'.resultsOf testId = db.resultsOf testId

/-- There is no test of the id any more. -/
structure Gone (db' : Db) (testId : Nat) : Prop where
  tests : ∀ t ∈ db'.tests, t.id ≠ testId
  results : db'.resultsOf testId = []

/-- The test has a withdrawal on top of its results. -/
structure Withdrawn (clock : Clock) (db db' : Db) (test : ControlTest) : Prop where
  tests : ∀ t : ControlTest, t.id = test.id → (t ∈ db'.tests ↔ t = test.withdrawn clock)
  results : ∃ w : ControlTestResult,
    db'.resultsOf test.id = db.resultsOf test.id ++ [w] ∧ w.status = .notApplicable ∧
      w.runAt = clock.now ∧ w.evidenceRef = some outOfScopeEvidenceRef ∧
        ∀ r ∈ db.resultsOf test.id, r.id < w.id

theorem Same.refl (db : Db) (testId : Nat) : Same db db testId := ⟨fun _ _ => Iff.rfl, rfl⟩

theorem Same.trans {testId : Nat} (h : Same db db' testId) (h' : Same db' db'' testId) :
    Same db db'' testId :=
  ⟨fun t ht => (h'.tests t ht).trans (h.tests t ht), h'.results.trans h.results⟩

theorem Gone.of_same {testId : Nat} (h : Gone db' testId) (h' : Same db' db'' testId) :
    Gone db'' testId :=
  ⟨fun t ht hid => h.tests t ((h'.tests t hid).mp ht) hid, h'.results.trans h.results⟩

theorem Withdrawn.of_same (h : Withdrawn clock db db' test) (h' : Same db' db'' test.id) :
    Withdrawn clock db db'' test where
  tests t ht := (h'.tests t ht).trans (h.tests t ht)
  results := by
    obtain ⟨w, hw, hrest⟩ := h.results
    exact ⟨w, h'.results.trans hw, hrest⟩

theorem Withdrawn.same_trans (h : Same db db' test.id) (h' : Withdrawn clock db' db'' test) :
    Withdrawn clock db db'' test where
  tests := h'.tests
  results := by
    obtain ⟨w, hw, hrest⟩ := h'.results
    rw [h.results] at hw hrest
    exact ⟨w, hw, hrest⟩

theorem Same.isWithdrawn {testId : Nat} (h : Same db db' testId) :
    db'.isWithdrawn testId = db.isWithdrawn testId := by
  unfold Db.isWithdrawn
  rw [h.results]

theorem Same.retires (h : Same db db' test.id) (hwaivers : db'.waivers = db.waivers) :
    db'.retires test = db.retires test := by
  unfold Db.retires
  rw [h.results, hwaivers]

/-- What happens to a test whose provider is out of scope. -/
inductive Turn (clock : Clock) (db db' : Db) (test : ControlTest) : Prop
  | retired (h : db.retires test = true) (hgone : Gone db' test.id)
  | kept (h : db.retires test = false) (hlatest : db.isWithdrawn test.id = true)
      (hsame : Same db db' test.id)
  | withdrawn (h : db.retires test = false) (hlatest : db.isWithdrawn test.id = false)
      (hwithdrawn : Withdrawn clock db db' test)

theorem Turn.of_same (h : Turn clock db db' test) (h' : Same db' db'' test.id) :
    Turn clock db db'' test := by
  cases h with
  | retired h hgone => exact .retired h (hgone.of_same h')
  | kept h hlatest hsame => exact .kept h hlatest (hsame.trans h')
  | withdrawn h hlatest hw => exact .withdrawn h hlatest (hw.of_same h')

theorem Turn.same_trans (h : Same db db' test.id) (hwaivers : db'.waivers = db.waivers)
    (h' : Turn clock db' db'' test) : Turn clock db db'' test := by
  cases h' with
  | retired hr hgone => exact .retired (h.retires hwaivers ▸ hr) hgone
  | kept hr hlatest hsame =>
    exact .kept (h.retires hwaivers ▸ hr) (h.isWithdrawn ▸ hlatest) (h.trans hsame)
  | withdrawn hr hlatest hw =>
    exact .withdrawn (h.retires hwaivers ▸ hr) (h.isWithdrawn ▸ hlatest) (hw.same_trans h)

/-! ## Retiring -/

theorem mem_retire_tests {t : ControlTest} :
    t ∈ (retire db systemId connectorKey).1.tests ↔
      t ∈ db.tests ∧ ¬ (selects systemId connectorKey t = true ∧ db.retires t = true) := by
  show t ∈ db.tests.filter _ ↔ _
  rw [List.mem_filter, Bool.not_eq_true', ← Bool.not_eq_true, Bool.and_eq_true]

theorem mem_retired_ids {testId : Nat} :
    testId ∈ (db.tests.filter fun t => selects systemId connectorKey t && db.retires t).map
        ControlTest.id ↔
      ∃ t ∈ db.tests, (selects systemId connectorKey t = true ∧ db.retires t = true) ∧
        t.id = testId := by
  simp only [List.mem_map, List.mem_filter, Bool.and_eq_true, and_assoc]

theorem retire_gone (ht : test ∈ db.tests) (hselects : selects systemId connectorKey test = true)
    (hretires : db.retires test = true) :
    Gone (retire db systemId connectorKey).1 test.id where
  tests t hmem hid := by
    obtain ⟨hmem, hkept⟩ := mem_retire_tests.mp hmem
    obtain rfl := eq_of_id hmem ht hid
    exact hkept ⟨hselects, hretires⟩
  results := by
    refine List.filter_eq_nil_iff.mpr fun r hr hid => ?_
    have hnot := of_decide_eq_true (List.mem_filter.mp hr).2
    rw [of_decide_eq_true hid] at hnot
    exact hnot (mem_retired_ids.mpr ⟨test, ht, ⟨hselects, hretires⟩, rfl⟩)

theorem retire_same {testId : Nat}
    (h : ∀ t ∈ db.tests, t.id = testId →
      ¬ (selects systemId connectorKey t = true ∧ db.retires t = true)) :
    Same db (retire db systemId connectorKey).1 testId where
  tests t hid := by
    rw [mem_retire_tests]
    exact and_iff_left_of_imp fun hmem => h t hmem hid
  results := by
    show (db.results.filter _).filter _ = db.results.filter _
    rw [List.filter_filter]
    refine List.filter_congr fun r _ => ?_
    by_cases hid : r.controlTestId = testId
    · have hkept : testId ∉ (db.tests.filter fun t =>
          selects systemId connectorKey t && db.retires t).map ControlTest.id := by
        rw [mem_retired_ids]
        rintro ⟨t, ht, hretired, hid⟩
        exact h t ht hid hretired
      rw [hid, decide_eq_true hkept, Bool.and_true]
    · rw [decide_eq_false hid, Bool.false_and]

/-! ## Withdrawing -/

theorem mem_writeTest {testId : Nat} {f : ControlTest → ControlTest} {tests : List ControlTest}
    {t : ControlTest} :
    t ∈ writeTest testId f tests ↔
      (t ∈ tests ∧ t.id ≠ testId) ∨ ∃ u ∈ tests, u.id = testId ∧ t = f u := by
  unfold writeTest
  rw [List.mem_map]
  constructor
  · rintro ⟨u, hu, rfl⟩
    by_cases hid : u.id = testId
    · rw [if_pos hid]
      exact Or.inr ⟨u, hu, hid, rfl⟩
    · rw [if_neg hid]
      exact Or.inl ⟨hu, hid⟩
  · rintro (⟨ht, hid⟩ | ⟨u, hu, hid, rfl⟩)
    · exact ⟨t, ht, if_neg hid⟩
    · exact ⟨u, hu, if_pos hid⟩

theorem resultsOf_withdrawOne {s : Db × List CheckRef} (h : s.1.isWithdrawn test.id = false)
    (testId : Nat) :
    (withdrawOne connectorKey reason clock s test).1.resultsOf testId =
      s.1.resultsOf testId ++
        if test.id = testId then [withdrawal s.1 test.id reason clock] else [] := by
  unfold withdrawOne
  rw [if_neg (by rw [h]; exact Bool.false_ne_true)]
  show (s.1.results ++ [_]).filter _ = _
  rw [List.filter_append]
  congr 1
  by_cases hid : test.id = testId
  · rw [if_pos hid]
    exact List.filter_cons_of_pos (decide_eq_true hid)
  · rw [if_neg hid]
    exact List.filter_cons_of_neg fun h => hid (of_decide_eq_true h)

theorem withdrawOne_same (s : Db × List CheckRef) {testId : Nat} (hid : test.id ≠ testId) :
    Same s.1 (withdrawOne connectorKey reason clock s test).1 testId := by
  cases h : s.1.isWithdrawn test.id with
  | true =>
    unfold withdrawOne
    rw [if_pos h]
    exact Same.refl _ _
  | false =>
    refine ⟨fun t ht => ?_, ?_⟩
    · unfold withdrawOne
      rw [if_neg (by rw [h]; exact Bool.false_ne_true)]
      show t ∈ writeTest _ _ _ ↔ _
      rw [mem_writeTest]
      constructor
      · rintro (⟨hmem, -⟩ | ⟨u, -, hu, rfl⟩)
        · exact hmem
        · exact absurd (hu.symm.trans ht) hid
      · exact fun hmem => Or.inl ⟨hmem, fun heq => hid (heq.symm.trans ht)⟩
    · rw [resultsOf_withdrawOne h, if_neg hid, List.append_nil]

theorem withdrawOne_withdrawn {s : Db × List CheckRef} (ht : test ∈ s.1.tests)
    (h : s.1.isWithdrawn test.id = false) :
    Withdrawn clock s.1 (withdrawOne connectorKey reason clock s test).1 test where
  tests t hid := by
    unfold withdrawOne
    rw [if_neg (by rw [h]; exact Bool.false_ne_true)]
    show t ∈ writeTest _ _ _ ↔ _
    rw [mem_writeTest]
    constructor
    · rintro (⟨-, hne⟩ | ⟨u, hu, huid, rfl⟩)
      · exact absurd hid hne
      · rw [eq_of_id hu ht huid]
    · rintro rfl
      exact Or.inr ⟨test, ht, rfl, rfl⟩
  results := by
    refine ⟨withdrawal s.1 test.id reason clock, ?_, rfl, rfl, rfl, fun r hr => ?_⟩
    · rw [resultsOf_withdrawOne h, if_pos rfl]
    · exact lt_nextId (List.mem_map_of_mem (mem_resultsOf.mp hr).1)

theorem withdrawOne_waivers (s : Db × List CheckRef) :
    (withdrawOne connectorKey reason clock s test).1.waivers = s.1.waivers := by
  unfold withdrawOne
  split <;> rfl

/-- The loop leaves alone what it does not visit, and withdraws what it visits once, unless it is
withdrawn already. -/
theorem withdrawAll_spec (connectorKey reason : Text) (clock : Clock)
    (tests : List ControlTest) (hids : (tests.map ControlTest.id).Nodup)
    (s : Db × List CheckRef) (hmem : ∀ t ∈ tests, t ∈ s.1.tests) :
    let s' := tests.foldl (withdrawOne connectorKey reason clock) s
    s'.1.waivers = s.1.waivers ∧
      (∀ testId, testId ∉ tests.map ControlTest.id → Same s.1 s'.1 testId) ∧
      ∀ t ∈ tests, (s.1.isWithdrawn t.id = true ∧ Same s.1 s'.1 t.id) ∨
        (s.1.isWithdrawn t.id = false ∧ Withdrawn clock s.1 s'.1 t) := by
  -- the ids are distinct, so that the later turns leave alone what the first one has done
  induction tests generalizing s with
  | nil => exact ⟨rfl, fun testId _ => Same.refl _ _, fun t ht => nomatch ht⟩
  | cons u tests ih =>
    rw [List.map_cons, List.nodup_cons] at hids
    have hne : ∀ t ∈ tests, u.id ≠ t.id := fun t ht heq =>
      hids.1 (heq ▸ List.mem_map_of_mem ht)
    have hsame : ∀ testId, u.id ≠ testId →
        Same s.1 (withdrawOne connectorKey reason clock s u).1 testId :=
      fun testId hid => withdrawOne_same s hid
    have hrest : ∀ t ∈ tests, t ∈ (withdrawOne connectorKey reason clock s u).1.tests :=
      fun t ht => ((hsame t.id (hne t ht)).tests t rfl).mpr (hmem t (List.mem_cons_of_mem u ht))
    obtain ⟨hwaivers, hframe, hturn⟩ := ih hids.2 _ hrest
    rw [List.foldl_cons]
    refine ⟨hwaivers.trans (withdrawOne_waivers s), fun testId hid => ?_, fun t ht => ?_⟩
    · rw [List.map_cons, List.mem_cons, not_or] at hid
      exact (hsame testId (Ne.symm hid.1)).trans (hframe testId hid.2)
    · obtain rfl | ht := List.mem_cons.mp ht
      · cases hw : s.1.isWithdrawn t.id with
        | true =>
          have hstay : Same s.1 (withdrawOne connectorKey reason clock s t).1 t.id := by
            unfold withdrawOne
            rw [if_pos hw]
            exact Same.refl _ _
          exact Or.inl ⟨rfl, hstay.trans (hframe t.id hids.1)⟩
        | false =>
          have hown : Withdrawn clock s.1 (withdrawOne connectorKey reason clock s t).1 t :=
            withdrawOne_withdrawn (hmem t List.mem_cons_self) hw
          exact Or.inr ⟨rfl, hown.of_same (hframe t.id hids.1)⟩
      · have hfirst := hsame t.id (hne t ht)
        obtain ⟨hw, hsame'⟩ | ⟨hw, hwithdrawn⟩ := hturn t ht
        · exact Or.inl ⟨hfirst.isWithdrawn ▸ hw, hfirst.trans hsame'⟩
        · exact Or.inr ⟨hfirst.isWithdrawn ▸ hw, hwithdrawn.same_trans hfirst⟩

/-! ## One provider, and all of them -/

/-- What has become of the tests that are out of scope, and of the others. -/
structure Settled (outOf : ControlTest → Prop) (clock : Clock) (db db' : Db) : Prop where
  waivers : db'.waivers = db.waivers
  turn : ∀ t ∈ db.tests, outOf t → Turn clock db db' t
  frame : ∀ testId, (∀ t ∈ db.tests, t.id = testId → ¬ outOf t) → Same db db' testId

theorem settled_none (clock : Clock) (db : Db) : Settled (fun _ => False) clock db db :=
  ⟨rfl, fun _ _ h => h.elim, fun testId _ => Same.refl db testId⟩

theorem Settled.trans {p q : ControlTest → Prop} (hpq : ∀ t, p t → ¬ q t)
    (hp : ∀ t, ¬ q t → ¬ q (t.withdrawn clock)) (h : Settled p clock db db')
    (h' : Settled q clock db' db'') : Settled (fun t => p t ∨ q t) clock db db'' where
  waivers := h'.waivers.trans h.waivers
  turn t ht hout := by
    obtain hout | hout := hout
    · refine (h.turn t ht hout).of_same (h'.frame t.id fun u hu hid => ?_)
      cases h.turn t ht hout with
      | retired _ hgone => exact absurd hid (hgone.tests u hu)
      | kept _ _ hsame =>
        obtain rfl := eq_of_id ((hsame.tests u hid).mp hu) ht hid
        exact hpq u hout
      | withdrawn _ _ hw =>
        rw [(hw.tests u hid).mp hu]
        exact hp t (hpq t hout)
    · have hsame : Same db db' t.id := h.frame t.id fun u hu hid hu' => by
        obtain rfl := eq_of_id hu ht hid
        exact hpq u hu' hout
      exact (h'.turn t ((hsame.tests t rfl).mpr ht) hout).same_trans hsame h.waivers
  frame testId hnone := by
    have hsame := h.frame testId fun t ht hid hout => hnone t ht hid (Or.inl hout)
    refine hsame.trans (h'.frame testId fun t ht hid hout => ?_)
    exact hnone t ((hsame.tests t hid).mp ht) hid (Or.inr hout)

theorem provider_settled (db : Db) (systemId : Nat) (connectorKey reason : Text)
    (clock : Clock) :
    Settled (fun t => selects systemId connectorKey t = true) clock db
      (withdraw (retire db systemId connectorKey).1 systemId connectorKey reason clock).1 := by
  have hids := nodup_testIds_filter (selects systemId connectorKey)
    (retire db systemId connectorKey).1.testIds
  obtain ⟨hwaivers, hframe, hturn⟩ := withdrawAll_spec connectorKey reason clock _ hids
    ((retire db systemId connectorKey).1, []) fun t ht => (List.mem_filter.mp ht).1
  refine ⟨hwaivers, fun t ht hselects => ?_, fun testId hnone => ?_⟩
  · cases hretires : db.retires t with
    | true =>
      have hgone := retire_gone ht hselects hretires
      refine .retired hretires (hgone.of_same (hframe t.id ?_))
      rintro hid
      obtain ⟨u, hu, hid⟩ := List.mem_map.mp hid
      exact hgone.tests u (List.mem_filter.mp hu).1 hid
    | false =>
      have hsame : Same db (retire db systemId connectorKey).1 t.id := by
        refine retire_same fun u hu hid hboth => ?_
        obtain rfl := eq_of_id hu ht hid
        rw [hretires] at hboth
        cases hboth.2
      have hmem := List.mem_filter.mpr ⟨(hsame.tests t rfl).mpr ht, hselects⟩
      obtain ⟨hw, hstay⟩ | ⟨hw, hwithdrawn⟩ := hturn t hmem
      · exact .kept hretires (hsame.isWithdrawn ▸ hw) (hsame.trans hstay)
      · exact .withdrawn hretires (hsame.isWithdrawn ▸ hw) (hwithdrawn.same_trans hsame)
  · have hsame : Same db (retire db systemId connectorKey).1 testId :=
      retire_same fun t ht hid hboth => hnone t ht hid hboth.1
    refine hsame.trans (hframe testId fun hid => ?_)
    obtain ⟨t, ht, hid⟩ := List.mem_map.mp hid
    obtain ⟨ht, hselects⟩ := List.mem_filter.mp ht
    exact hnone t ((hsame.tests t hid).mp ht) hid hselects

/-- A test of one of the providers that are out of scope. -/
def OutOf (systemId : Nat) (scope : List (Text × ProviderScope)) (t : ControlTest) : Prop :=
  ∃ provider ∈ scope, provider.2.inScope = false ∧ selects systemId provider.1 t = true

theorem outOf_cons (systemId : Nat) (provider : Text × ProviderScope)
    (scope : List (Text × ProviderScope)) :
    OutOf systemId (provider :: scope) = fun t =>
      (provider.2.inScope = false ∧ selects systemId provider.1 t = true) ∨
        OutOf systemId scope t := by
  funext t
  simp only [OutOf, List.exists_mem_cons_iff]

theorem selects_eq {connectorKey' : Text} (h : selects systemId connectorKey test = true)
    (h' : selects systemId connectorKey' test = true) : connectorKey = connectorKey' := by
  have hconnector := (of_decide_eq_true h).2.1
  rw [(of_decide_eq_true h').2.1] at hconnector
  exact (Option.some.inj hconnector).symm

/-- **The whole run.** -/
theorem applyAll_settled (scope : List (Text × ProviderScope))
    (hkeys : (scope.map Prod.fst).Nodup) (s : Db × Applied) :
    Settled (OutOf systemId scope) clock s.1 (scope.foldl (applyOne systemId clock) s).1 := by
  induction scope generalizing s with
  | nil =>
    have hnone : OutOf systemId [] = fun _ => False := by
      funext t
      simp [OutOf]
    rw [hnone]
    exact settled_none clock s.1
  | cons provider scope ih =>
    rw [List.map_cons, List.nodup_cons] at hkeys
    rw [outOf_cons, List.foldl_cons]
    cases hin : provider.2.inScope with
    | true =>
      have hstay : applyOne systemId clock s provider = s := by
        unfold applyOne
        rw [if_pos hin]
      rw [hstay]
      simpa using ih hkeys.2 s
    | false =>
      have hfirst : Settled (fun t => selects systemId provider.1 t = true) clock s.1
          (applyOne systemId clock s provider).1 := by
        unfold applyOne
        rw [if_neg (by rw [hin]; exact Bool.false_ne_true)]
        exact provider_settled s.1 systemId provider.1 provider.2.reason clock
      -- the keys are distinct, and a test has one
      have hother : ∀ t, selects systemId provider.1 t = true → ¬ OutOf systemId scope t := by
        rintro t ht ⟨other, hother, -, ht'⟩
        exact hkeys.1 (selects_eq ht ht' ▸ List.mem_map_of_mem hother)
      simpa using hfirst.trans hother (fun t h => h) (ih hkeys.2 _)

def Db.environment (db : Db) : List ConnectorConfig × List SystemProfile :=
  (db.connectorConfigs, db.profiles)

theorem withdrawAll_environment (tests : List ControlTest) (s : Db × List CheckRef) :
    (tests.foldl (withdrawOne connectorKey reason clock) s).1.environment = s.1.environment := by
  induction tests generalizing s with
  | nil => rfl
  | cons t tests ih =>
    rw [List.foldl_cons, ih]
    unfold withdrawOne
    split <;> rfl

theorem applyAll_environment (scope : List (Text × ProviderScope)) (s : Db × Applied) :
    (scope.foldl (applyOne systemId clock) s).1.environment = s.1.environment := by
  induction scope generalizing s with
  | nil => rfl
  | cons provider scope ih =>
    rw [List.foldl_cons, ih]
    unfold applyOne
    split
    · rfl
    · exact withdrawAll_environment _ _

/-! ## A run that has nothing to do -/

theorem retire_eq_self
    (h : ∀ t ∈ db.tests, selects systemId connectorKey t = true → db.retires t = false) :
    (retire db systemId connectorKey).1 = db := by
  have hnone : ∀ t ∈ db.tests, (selects systemId connectorKey t && db.retires t) = false := by
    intro t ht
    cases hs : selects systemId connectorKey t with
    | false => rfl
    | true => exact h t ht hs
  have hretired : (db.tests.filter fun t => selects systemId connectorKey t && db.retires t) =
      [] := List.filter_eq_nil_iff.mpr fun t ht => by rw [hnone t ht]; exact Bool.false_ne_true
  refine Db.ext rfl rfl rfl ?_ ?_
  · exact List.filter_eq_self.mpr fun t ht => by rw [hnone t ht]; rfl
  · refine List.filter_eq_self.mpr fun r _ => ?_
    rw [hretired]
    rfl

theorem withdrawAll_eq_self {tests : List ControlTest} {s : Db × List CheckRef}
    (h : ∀ t ∈ tests, s.1.isWithdrawn t.id = true) :
    tests.foldl (withdrawOne connectorKey reason clock) s = s := by
  induction tests with
  | nil => rfl
  | cons t tests ih =>
    have hstay : withdrawOne connectorKey reason clock s t = s := by
      unfold withdrawOne
      rw [if_pos (h t List.mem_cons_self)]
    rw [List.foldl_cons, hstay]
    exact ih fun u hu => h u (List.mem_cons_of_mem t hu)

/-- Where each test that is out of scope is withdrawn and will not be retired, nothing is
written. -/
theorem applyAll_eq_self {scope : List (Text × ProviderScope)} {s : Db × Applied}
    (h : ∀ t ∈ s.1.tests, OutOf systemId scope t →
      s.1.retires t = false ∧ s.1.isWithdrawn t.id = true) :
    (scope.foldl (applyOne systemId clock) s).1 = s.1 := by
  induction scope generalizing s with
  | nil => rfl
  | cons provider scope ih =>
    have hfirst : (applyOne systemId clock s provider).1 = s.1 := by
      unfold applyOne
      split
      · rfl
      · rename_i hin
        have hout : ∀ t ∈ s.1.tests, selects systemId provider.1 t = true →
            s.1.retires t = false ∧ s.1.isWithdrawn t.id = true := fun t ht hs =>
          h t ht ⟨provider, List.mem_cons_self, Bool.eq_false_iff.mpr hin, hs⟩
        have hretire := retire_eq_self fun t ht hs => (hout t ht hs).1
        show (withdraw (retire s.1 systemId provider.1).1 _ _ _ _).1 = s.1
        rw [hretire]
        unfold withdraw
        rw [withdrawAll_eq_self fun t ht => (hout t (List.mem_filter.mp ht).1
          (List.mem_filter.mp ht).2).2]
    rw [List.foldl_cons]
    rw [← hfirst] at h
    refine (ih fun t ht hout => h t ht ?_).trans hfirst
    rw [outOf_cons]
    exact Or.inr hout

end Turn

/-! ## Out of scope earns no credit -/

section Applied

variable (repr : Text → Text) (db : Db) (system : System) (clock : Clock)

/-- What `apply_provider_scope` leaves behind. -/
def after : Db := (applyProviderScope repr db system clock).1

/-- The provider of a generated test is out of scope. -/
def OutOfScope (t : ControlTest) : Prop := OutOf system.id (providerScope repr db system) t

/-- What the scope is applied for. -/
structure InLine : Prop where
  noCredit : ∀ t ∈ (after repr db system clock).tests, OutOfScope repr db system t →
    t.lastStatus ≠ some .pass
  kept : ∀ r ∈ db.results, r.status ∉ neverAssessed → r ∈ (after repr db system clock).results
  untouched : ∀ t ∈ db.tests, ¬ OutOfScope repr db system t →
    t ∈ (after repr db system clock).tests ∧
      (after repr db system clock).resultsOf t.id = db.resultsOf t.id
  settled : ∀ later, after repr (after repr db system clock) system later =
    after repr db system clock

/-- A test that is not retired: if it counts as withdrawn it has no credit, and if it does not, none
of its results is from after the run. -/
def Orderly (t : ControlTest) : Prop :=
  if db.isWithdrawn t.id = true then t.lastStatus ≠ some .pass
  else ∀ r ∈ db.resultsOf t.id, r.runAt ≤ clock.now

variable {repr db system clock}

theorem providerScope_keys : ((providerScope repr db system).map Prod.fst).Nodup := by
  have hkeys : (providerScope repr db system).map Prod.fst = knownProviders := by
    rw [providerScope, List.map_map]
    exact List.map_id _
  rw [hkeys]
  decide

theorem after_settled :
    Settled (OutOfScope repr db system) clock db (after repr db system clock) :=
  applyAll_settled _ providerScope_keys (db, _)

theorem outOfScope_after (t : ControlTest) :
    OutOfScope repr (after repr db system clock) system t ↔ OutOfScope repr db system t := by
  have henv : (after repr db system clock).environment = db.environment :=
    applyAll_environment _ (db, _)
  obtain ⟨hconfigs, hprofiles⟩ := Prod.mk.inj henv
  have hscope : providerScope repr (after repr db system clock) system =
      providerScope repr db system := by
    unfold providerScope Db.configured Db.declared
    rw [hconfigs, hprofiles]
  unfold OutOfScope
  rw [hscope]

theorem of_mem_after {t : ControlTest} (ht : t ∈ (after repr db system clock).tests)
    (hout : OutOfScope repr db system t) :
    ∃ u ∈ db.tests, OutOfScope repr db system u ∧ u.id = t.id ∧ db.retires u = false ∧
      ((db.isWithdrawn u.id = true ∧ t = u ∧ Same db (after repr db system clock) u.id) ∨
        (db.isWithdrawn u.id = false ∧ t = u.withdrawn clock ∧
          Withdrawn clock db (after repr db system clock) u)) := by
  have hsettled : Settled (OutOfScope repr db system) clock db (after repr db system clock) :=
    after_settled
  by_cases hbefore : ∃ u ∈ db.tests, u.id = t.id ∧ OutOfScope repr db system u
  · obtain ⟨u, hu, hid, huout⟩ := hbefore
    refine ⟨u, hu, huout, hid, ?_⟩
    cases hsettled.turn u hu huout with
    | retired _ hgone => exact absurd hid.symm (hgone.tests t ht)
    | kept hretires hlatest hsame =>
      -- ids are unique, so that this is the test itself
      have htmem := (hsame.tests t hid.symm).mp ht
      exact ⟨hretires, Or.inl ⟨hlatest, eq_of_id htmem hu hid.symm, hsame⟩⟩
    | withdrawn hretires hlatest hw =>
      exact ⟨hretires, Or.inr ⟨hlatest, (hw.tests t hid.symm).mp ht, hw⟩⟩
  · have hsame := hsettled.frame t.id fun u hu hid huout => hbefore ⟨u, hu, hid, huout⟩
    exact absurd ⟨t, (hsame.tests t rfl).mp ht, rfl, hout⟩ hbefore

theorem after_kept {r : ControlTestResult} (hr : r ∈ db.results)
    (hstatus : r.status ∉ neverAssessed) : r ∈ (after repr db system clock).results := by
  have hsettled : Settled (OutOfScope repr db system) clock db (after repr db system clock) :=
    after_settled
  have hof : r ∈ db.resultsOf r.controlTestId := mem_resultsOf.mpr ⟨hr, rfl⟩
  suffices hafter : r ∈ (after repr db system clock).resultsOf r.controlTestId from
    (mem_resultsOf.mp hafter).1
  by_cases hbefore : ∃ u ∈ db.tests, u.id = r.controlTestId ∧ OutOfScope repr db system u
  · obtain ⟨u, hu, hid, huout⟩ := hbefore
    rw [← hid] at hof ⊢
    cases hsettled.turn u hu huout with
    | retired hretires _ =>
      -- a test with this result is not retired
      have hall := List.all_eq_true.mp (Bool.and_eq_true_iff.mp hretires).1 r hof
      exact absurd (of_decide_eq_true hall) hstatus
    | kept _ _ hsame =>
      rw [hsame.results]
      exact hof
    | withdrawn _ _ hw =>
      obtain ⟨w, hw, -⟩ := hw.results
      rw [hw]
      exact List.mem_append_left _ hof
  · have hsame := hsettled.frame r.controlTestId
      fun u hu hid huout => hbefore ⟨u, hu, hid, huout⟩
    rw [hsame.results]
    exact hof

theorem after_untouched {t : ControlTest} (ht : t ∈ db.tests)
    (hin : ¬ OutOfScope repr db system t) :
    t ∈ (after repr db system clock).tests ∧
      (after repr db system clock).resultsOf t.id = db.resultsOf t.id := by
  have hsettled : Settled (OutOfScope repr db system) clock db (after repr db system clock) :=
    after_settled
  have hsame := hsettled.frame t.id fun u hu hid huout => hin (eq_of_id hu ht hid ▸ huout)
  exact ⟨(hsame.tests t rfl).mpr ht, hsame.results⟩

theorem Withdrawn.isWithdrawn_iff {after : Db} {t : ControlTest} (h : Withdrawn clock db after t)
    (hlatest : db.isWithdrawn t.id = false) :
    after.isWithdrawn t.id = true ↔ ∀ r ∈ db.resultsOf t.id, r.runAt ≤ clock.now := by
  obtain ⟨w, hw, -, hrunAt, href, hids⟩ := h.results
  unfold Db.isWithdrawn at hlatest ⊢
  rw [hw, decide_eq_true_iff]
  by_cases hall : ∀ r ∈ db.resultsOf t.id, r.runAt ≤ clock.now
  · have hlt : ∀ r ∈ db.resultsOf t.id, r.stamp < w.stamp := fun r hr => by
      refine stamp_lt_stamp.mpr ?_
      rw [hrunAt]
      obtain hlt | heq := lt_or_eq_of_le (hall r hr)
      · exact Or.inl hlt
      · exact Or.inr ⟨heq, hids r hr⟩
    rw [newest_append_of_lt hlt]
    exact iff_of_true href hall
  · -- a result from after the run stays the latest, and it is no withdrawal
    obtain ⟨r, hr, hlate⟩ : ∃ r ∈ db.resultsOf t.id, clock.now < r.runAt := by
      simpa only [not_forall, not_le, exists_prop] using hall
    cases he : newest ControlTestResult.stamp (db.resultsOf t.id) with
    | none => rw [newest_eq_none.mp he] at hr; cases hr
    | some e =>
      have hbefore : w.stamp < r.stamp := stamp_lt_stamp.mpr (Or.inl (hrunAt ▸ hlate))
      have hnewest : r.stamp ≤ e.stamp := le_newest he hr
      have hle := hbefore.le.trans hnewest
      rw [newest_append_of_le he hle]
      rw [he] at hlatest
      exact iff_of_false (of_decide_eq_false hlatest) hall

theorem Withdrawn.retires {after : Db} {t u : ControlTest} (h : Withdrawn clock db after t)
    (hid : u.id = t.id) : after.retires u = false := by
  obtain ⟨w, hw, hstatus, -⟩ := h.results
  refine Bool.eq_false_iff.mpr fun hretires => ?_
  have hall := List.all_eq_true.mp (Bool.and_eq_true_iff.mp hretires).1 w
    (by rw [hid, hw]; exact List.mem_append_right _ List.mem_cons_self)
  rw [hstatus] at hall
  exact absurd hall (by decide)

theorem Withdrawn.isWithdrawn_of_settled {t : ControlTest} (hout : OutOfScope repr db system t)
    (hw : Withdrawn clock db (after repr db system clock) t)
    (hagain : after repr (after repr db system clock) system clock = after repr db system clock) :
    (after repr db system clock).isWithdrawn t.id = true := by
  have hmem : t.withdrawn clock ∈ (after repr db system clock).tests :=
    (hw.tests (t.withdrawn clock) rfl).mpr rfl
  have hout' : OutOfScope repr (after repr db system clock) system (t.withdrawn clock) :=
    (outOfScope_after _).mpr hout
  have hsettled : Settled _ clock _ (after repr (after repr db system clock) system clock) :=
    after_settled
  have hsecond := hsettled.turn _ hmem hout'
  rw [hagain] at hsecond
  cases hsecond with
  | retired hr _ =>
    have hkeeps : (after repr db system clock).retires (t.withdrawn clock) = false :=
      hw.retires rfl
    rw [hkeeps] at hr
    cases hr
  | kept _ hlatest _ => exact hlatest
  | withdrawn _ _ hw' =>
    -- the second run would have added a withdrawal of its own
    obtain ⟨w, hresults, -⟩ := hw'.results
    exact absurd (congrArg List.length hresults) (by simp)

/-- **When out-of-scope providers earn no credit.** What is recorded stays and what is in scope is
left alone whatever the database holds; a test that is out of scope has no credit, and a second run
nothing to do, exactly if each of them that is not retired is orderly. -/
theorem inLine_iff :
    InLine repr db system clock ↔
      ∀ t ∈ db.tests, OutOfScope repr db system t → db.retires t = false →
        Orderly db clock t := by
  have hsettled : Settled (OutOfScope repr db system) clock db (after repr db system clock) :=
    after_settled
  constructor
  · intro h t ht hout hretires
    cases hsettled.turn t ht hout with
    | retired hr _ => rw [hretires] at hr; cases hr
    | kept _ hlatest hsame =>
      rw [Orderly, if_pos hlatest]
      exact h.noCredit t ((hsame.tests t rfl).mpr ht) hout
    | withdrawn _ hlatest hw =>
      rw [Orderly, if_neg (by rw [hlatest]; exact Bool.false_ne_true)]
      refine (hw.isWithdrawn_iff hlatest).mp ?_
      exact hw.isWithdrawn_of_settled hout (h.settled clock)
  · intro h
    refine ⟨fun t ht hout => ?_, fun r => after_kept, fun t => after_untouched, fun later => ?_⟩
    · obtain ⟨u, hu, huout, -, hretires, ⟨hlatest, rfl, -⟩ | ⟨-, rfl, -⟩⟩ := of_mem_after ht hout
      · have horderly := h t hu huout hretires
        rwa [Orderly, if_pos hlatest] at horderly
      · exact fun hpass => nomatch hpass
    · refine applyAll_eq_self fun t ht hout => ?_
      have hout := (outOfScope_after t).mp hout
      obtain ⟨u, hu, huout, hid, hretires, ⟨hlatest, rfl, hsame⟩ | ⟨hlatest, rfl, hw⟩⟩ :=
        of_mem_after ht hout
      · exact ⟨(hsame.retires hsettled.waivers).trans hretires, hsame.isWithdrawn.trans hlatest⟩
      · have horderly := h u hu huout hretires
        rw [Orderly, if_neg (by rw [hlatest]; exact Bool.false_ne_true)] at horderly
        exact ⟨hw.retires rfl, (hw.isWithdrawn_iff hlatest).mpr horderly⟩

end Applied

def rootMfa (status : ValidationStatus) : ControlTest where
  id := 1
  systemId := some 1
  controlId := "IA-2".toList
  source := "generated".toList
  connectorType := some "aws_govcloud".toList
  checkKey := some "aws.iam.root_mfa_enabled".toList
  lastStatus := some status
  lastTestedAt := some 30

def resultAt (id : Nat) (runAt : Int) (status : ValidationStatus) (evidenceRef : Option Text) :
    ControlTestResult where
  id := id
  controlTestId := 1
  runAt := runAt
  status := status
  detail := none
  evidenceRef := evidenceRef

theorem nodup_one (t : ControlTest) : ([t].map ControlTest.id).Nodup := List.nodup_singleton _

def movedSystem (status : ValidationStatus) (results : List ControlTestResult) : Db where
  connectorConfigs := []
  profiles := [⟨1, some "m365_gcc_high".toList⟩]
  waivers := []
  tests := [rootMfa status]
  results := results
  testIds := nodup_one _

/-- The test was withdrawn while a scan that had started before was still running; the scan then
recorded a pass. -/
def overtaken : Db :=
  movedSystem .pass
    [resultAt 1 20 .notApplicable (some outOfScopeEvidenceRef), resultAt 2 10 .pass none]

def ahead : Db := movedSystem .pass [resultAt 1 50 .pass none]

/-- The pass of an overtaken withdrawal is still credited, and what is ahead of a run is withdrawn
again by every run. -/
theorem overlapping_scans_keep_credit :
    ¬ InLine id overtaken ⟨1, 1, false⟩ ⟨40, 40⟩ ∧ ¬ InLine id ahead ⟨1, 1, false⟩ ⟨40, 40⟩ := by
  have hprovider : "aws_govcloud".toList ∈ knownProviders := by decide
  constructor
  · intro h
    refine h.noCredit (rootMfa .pass) (by decide) ?_ rfl
    exact ⟨_, List.mem_map_of_mem hprovider, by decide, by decide⟩
  · intro h
    exact absurd (congrArg (fun db => db.results.length) (h.settled ⟨40, 40⟩)) (by decide)

end Concord.Posture.Scope
