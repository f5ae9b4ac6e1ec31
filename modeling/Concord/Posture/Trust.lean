import Concord.Base.Precedence
import Concord.Python.Text

/-!
# Trust tiers

`trust_tier` and `effective_verdict` of `src/ccf/posture/scan.py`: which of the fresh results of
a control is believed. What the database answers is a listing of the results, newest first; the
query asks for no order among results of one moment, and those of one scan are of one moment.

`interferes_iff`: the tier that is believed is never one that lower tiers had a say in. The
verdict is not either, unless the newest results of that tier differ, where the database may
answer one or the other.
-/

namespace Concord.Posture.Trust

open Concord.Base Concord.Python

/-! ## Tables -/

/-- A row of `control_tests`. -/
structure ControlTest where
  id : Nat
  systemId : Option Nat
  controlId : Text
  source : Text
  checkKey : Option Text
  checkSource : Option Text
  deriving DecidableEq

/-- A row of `control_test_results`; times are in microseconds. -/
structure ControlTestResult where
  id : Nat
  controlTestId : Nat
  runAt : Int
  status : Text
  evaluated : Nat
  failing : Nat
  deriving DecidableEq

/-- The two tables, with their primary keys. -/
structure Database where
  tests : List ControlTest
  results : List ControlTestResult
  testIds : (tests.map ControlTest.id).Nodup
  resultIds : (results.map ControlTestResult.id).Nodup

abbrev Evaluation := ControlTestResult × ControlTest

/-- The system and the control that are asked about. -/
structure Subject where
  systemId : Nat
  controlId : Text

/-- The evaluations of a control by generated tests, of any age. -/
def evaluations (db : Database) (subject : Subject) : List Evaluation :=
  db.results.flatMap fun result => (db.tests.filter fun test =>
    test.id = result.controlTestId ∧ test.systemId = some subject.systemId ∧
      test.controlId = subject.controlId ∧ test.source = "generated".toList).map (result, ·)

/-- `STALE_AFTER_DAYS`. -/
def staleAfterDays : Int := 30

def fresh (db : Database) (subject : Subject) (now : Int) : List Evaluation :=
  (evaluations db subject).filter fun e => now - staleAfterDays * 86400000000 ≤ e.1.runAt

/-- What the database may answer: `order_by(run_at.desc())`. -/
def Answers (db : Database) (subject : Subject) (now : Int) (rows : List Evaluation) : Prop :=
  Listing (fun e : Evaluation => e.1.runAt) (fresh db subject now) rows

/-! ## Tiers -/

def tierPlatform : Nat := 0

def tierAttested : Nat := 1

def tierCrosswalk : Nat := 2

def tierPack : Nat := 3

/-- `trust_tier`, given `platform_check_keys()`. -/
def trustTier (platformCheckKeys : List Text) (test : ControlTest) : Nat :=
  match test.checkSource with
  | none =>
    if test.source = "generated".toList ∧ test.checkKey.any (· ∈ platformCheckKeys) then
      tierPlatform
    else tierPack
  | some source =>
    if source = "platform".toList then tierPlatform
    else if source = "attested:securityhub".toList then tierAttested
    else if source = "crosswalk:securescore".toList then tierCrosswalk
    else tierPack

/-- `_TIER_REASONS`. -/
def tierReason (tier : Nat) : Option Text :=
  if tier = tierAttested then some ("no fresh platform-sourced result; provider-attested " ++
    "result used (the provider evaluated its own account)").toList
  else if tier = tierCrosswalk then some ("no fresh platform-sourced or provider-attested " ++
    "result; Concord's Secure Score crosswalk used (Microsoft measured the score, Concord " ++
    "authored the control mapping)").toList
  else if tier = tierPack then some ("no fresh platform-, provider-attested or crosswalk " ++
    "result; most recent pack-sourced result used").toList
  else none

/-! ## `effective_verdict` -/

/-- What is returned of the result that is believed. -/
structure Believed where
  runAt : Int
  evaluated : Nat
  failing : Nat
  testId : Nat
  checkSource : Option Text

structure EffectiveVerdict where
  systemId : Nat
  controlId : Text
  source : Option Text
  verdict : Option Text
  reason : Text
  believed : Option Believed

section Effective

variable (platformCheckKeys : List Text)

def tier (e : Evaluation) : Nat := trustTier platformCheckKeys e.2

/-- `effective_verdict`, of the rows that the database answers. -/
def effectiveVerdict (subject : Subject) (rows : List Evaluation) : EffectiveVerdict :=
  match best (tier platformCheckKeys) rows with
  | none =>
    { systemId := subject.systemId
      controlId := subject.controlId
      source := none
      verdict := none
      reason := "no fresh deterministic result".toList
      believed := none }
  | some (result, test) =>
    { systemId := subject.systemId
      controlId := subject.controlId
      source := some "deterministic".toList
      verdict := some result.status
      reason := "a deterministic check outranks a model verdict".toList ++
        match tierReason (trustTier platformCheckKeys test) with
        | some reason => " (".toList ++ reason ++ [')']
        | none => []
      believed := some ⟨result.runAt, result.evaluated, result.failing, test.id,
        test.checkSource⟩ }

def sourceTier (rows : List Evaluation) : Option Nat :=
  (best (tier platformCheckKeys) rows).map (tier platformCheckKeys)

/-! ## Lower tiers -/

/-- A result that may be believed: none of a higher tier is fresh, and none of its tier is
newer. -/
def MayLead (db : Database) (subject : Subject) (now : Int) (e : Evaluation) : Prop :=
  Leads (tier platformCheckKeys) (fun e : Evaluation => e.1.runAt) (fresh db subject now) e

/-- The databases differ only in results of lower tiers than one. -/
def AgreeTo (lowest : Nat) (subject : Subject) (db db' : Database) : Prop :=
  ∀ e, tier platformCheckKeys e ≤ lowest →
    (e ∈ evaluations db subject ↔ e ∈ evaluations db' subject)

/-- Whatever else the results of lower tiers are, the verdict and its tier are the same. -/
def NonInterference (lowest : Nat) (subject : Subject) (now : Int) (db : Database) : Prop :=
  ∀ db', AgreeTo platformCheckKeys lowest subject db db' →
    ∀ rows rows', Answers db subject now rows → Answers db' subject now rows' →
      (effectiveVerdict platformCheckKeys subject rows).verdict =
        (effectiveVerdict platformCheckKeys subject rows').verdict ∧
      sourceTier platformCheckKeys rows = sourceTier platformCheckKeys rows'

end Effective

section Proofs

variable {platformCheckKeys : List Text} {subject : Subject} {now : Int} {lowest : Nat}
  {db db' : Database} {rows : List Evaluation}

theorem mem_fresh {e : Evaluation} : e ∈ fresh db subject now ↔
    e ∈ evaluations db subject ∧ now - staleAfterDays * 86400000000 ≤ e.1.runAt := by
  rw [fresh, List.mem_filter, decide_eq_true_iff]

theorem AgreeTo.fresh (h : AgreeTo platformCheckKeys lowest subject db db') (e : Evaluation)
    (he : tier platformCheckKeys e ≤ lowest) :
    e ∈ fresh db subject now ↔ e ∈ Trust.fresh db' subject now := by
  rw [mem_fresh, mem_fresh, h e he]

theorem effectiveVerdict_of_answer (platformCheckKeys : List Text)
    (hfresh : ∃ e, e ∈ fresh db subject now) (h : Answers db subject now rows) :
    ∃ e, MayLead platformCheckKeys db subject now e ∧
      (effectiveVerdict platformCheckKeys subject rows).verdict = some e.1.status ∧
      sourceTier platformCheckKeys rows = some (tier platformCheckKeys e) := by
  obtain ⟨row, hrow⟩ := hfresh
  obtain ⟨e, he⟩ := best_of_mem (tier platformCheckKeys) (h.perm.mem_iff.mpr hrow)
  refine ⟨e, best_iff.mp ⟨rows, h, he⟩, ?_, ?_⟩
  · unfold effectiveVerdict
    rw [he]
  · unfold sourceTier
    rw [he]
    rfl

theorem tier_eq {e e' : Evaluation} (he : MayLead platformCheckKeys db subject now e)
    (he' : MayLead platformCheckKeys db subject now e') :
    tier platformCheckKeys e = tier platformCheckKeys e' :=
  Nat.le_antisymm (he.least e' he'.mem) (he'.least e he.mem)

end Proofs

/-! ## Two checks of one scan -/

/-- A test of the control AC-2 of the system 1. -/
def testOf (id : Nat) (checkKey checkSource : String) : ControlTest :=
  ⟨id, some 1, "AC-2".toList, "generated".toList, some checkKey.toList, some checkSource.toList⟩

/-- A result of the first moment, of two resources. -/
def resultOf (id controlTestId : Nat) (status : String) (failing : Nat) : ControlTestResult :=
  ⟨id, controlTestId, 0, status.toList, 2, failing⟩

def mfa : Evaluation := (resultOf 1 1 "pass" 0, testOf 1 "aws.iam.mfa" "platform")

def staleKeys : Evaluation := (resultOf 2 2 "fail" 1, testOf 2 "aws.iam.stale_keys" "platform")

def packRule : Evaluation := (resultOf 3 3 "pass" 0, testOf 3 "acme.accounts" "pack:acme")

theorem scanned_testIds : ([mfa.2, staleKeys.2].map ControlTest.id).Nodup := by decide

theorem scanned_resultIds : ([mfa.1, staleKeys.1].map ControlTestResult.id).Nodup := by decide

def scanned : Database :=
  ⟨[mfa.2, staleKeys.2], [mfa.1, staleKeys.1], scanned_testIds, scanned_resultIds⟩

theorem packed_testIds : ([mfa.2, staleKeys.2, packRule.2].map ControlTest.id).Nodup := by decide

theorem packed_resultIds :
    ([mfa.1, staleKeys.1, packRule.1].map ControlTestResult.id).Nodup := by decide

def packed : Database :=
  ⟨[mfa.2, staleKeys.2, packRule.2], [mfa.1, staleKeys.1, packRule.1], packed_testIds,
    packed_resultIds⟩

def accounts : Subject := ⟨1, "AC-2".toList⟩

theorem evaluations_scanned : evaluations scanned accounts = [mfa, staleKeys] := by decide

theorem evaluations_packed : evaluations packed accounts = [mfa, staleKeys, packRule] := by decide

theorem agree_packed : AgreeTo [] tierPlatform accounts scanned packed := by
  intro e he
  rw [evaluations_scanned, evaluations_packed]
  have hne : e ≠ packRule := by
    rintro rfl
    exact absurd he (by decide)
  simp [hne]

section Main

variable {platformCheckKeys : List Text} {subject : Subject} {now : Int} {lowest : Nat}
  {db : Database}

/-- **Non-interference.** Where a fresh result is of some tier, the results of lower tiers make
no difference to the tier that is believed; to the verdict they make none exactly where all
results that may be believed have one status. -/
theorem noninterference_iff
    (hfresh : ∃ e ∈ fresh db subject now, tier platformCheckKeys e ≤ lowest) :
    NonInterference platformCheckKeys lowest subject now db ↔
      ∀ e e', MayLead platformCheckKeys db subject now e →
        MayLead platformCheckKeys db subject now e' → e.1.status = e'.1.status := by
  obtain ⟨row, hrow, hlowest⟩ := hfresh
  constructor
  · intro h e e' he he'
    -- nothing of the results is changed: two answers of the one database
    obtain ⟨rows, hrows, hbest⟩ := best_iff.mpr he
    obtain ⟨rows', hrows', hbest'⟩ := best_iff.mpr he'
    have hverdict := (h db (fun _ _ => Iff.rfl) rows rows' hrows hrows').1
    unfold effectiveVerdict at hverdict
    rw [hbest, hbest'] at hverdict
    exact Option.some.inj hverdict
  · intro h db' hagree rows rows' hrows hrows'
    have hrow' := (hagree.fresh row hlowest).mp hrow
    obtain ⟨e, he, hverdict, htier⟩ :=
      effectiveVerdict_of_answer platformCheckKeys ⟨row, hrow⟩ hrows
    obtain ⟨e', he', hverdict', htier'⟩ :=
      effectiveVerdict_of_answer platformCheckKeys ⟨row, hrow'⟩ hrows'
    have hback : MayLead platformCheckKeys db subject now e' :=
      Leads.of_agree ⟨row, hrow', hlowest⟩ (fun e he => (hagree.fresh e he).symm) he'
    rw [hverdict, hverdict', htier, htier', h e e' he hback, tier_eq he hback]
    exact ⟨rfl, rfl⟩

theorem scanned_noninterference :
    NonInterference [] tierPlatform accounts 0 scanned ↔
      ∀ e e', MayLead [] scanned accounts 0 e → MayLead [] scanned accounts 0 e' →
        e.1.status = e'.1.status :=
  noninterference_iff ⟨mfa, by decide, by decide⟩

/-- A platform check passes and another one fails, in one scan; a rule of a pack is added, and
the database may answer the other one first. -/
theorem tied_checks_answer_either :
    ¬∀ (platformCheckKeys : List Text) (lowest : Nat) (subject : Subject) (now : Int)
      (db : Database), (∃ e ∈ fresh db subject now, tier platformCheckKeys e ≤ lowest) →
        NonInterference platformCheckKeys lowest subject now db := by
  intro h
  have hscanned : Answers scanned accounts 0 [mfa, staleKeys] := by
    refine ⟨?_, ?_⟩
    · decide
    · decide
  have hpacked : Answers packed accounts 0 [staleKeys, mfa, packRule] := by
    refine ⟨?_, ?_⟩
    · decide
    · decide
  have hverdict := (h [] tierPlatform accounts 0 scanned ⟨mfa, by decide, by decide⟩ packed
    agree_packed _ _ hscanned hpacked).1
  exact absurd hverdict (by decide)

end Main

end Concord.Posture.Trust
