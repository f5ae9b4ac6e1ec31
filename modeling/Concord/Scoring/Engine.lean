import Concord.Python.Dict
import Concord.Python.Floats
import Concord.Scoring.Derivation
import Mathlib.Algebra.Order.BigOperators.Group.List

/-!
# The SPRS score

`ccf/scoring/engine.py`: `score_system` takes the points of every practice that is not met from
110, and keeps beside the score how much of it rests on states that nobody assessed, and what
was taken for each domain and each point value.

A state that is not one of `STATES` is read as the default state, which the caller may give and
which is not checked.
-/

namespace Concord.Scoring

open Concord.Python

def maxSprsScore : Int := 110

def sprsFloor : Int := -203

def sspControlId : Text := "CA.L2-3.12.4".toList

def notAssessed : Text := "not_assessed".toList

def partlyDone : Text := "partial".toList

/-- `STATES`. -/
def states : List Text :=
  [notAssessed, "not_implemented".toList, "planned".toList, partlyDone, "implemented".toList,
    "inherited".toList, "not_applicable".toList]

/-- `_MET`. -/
def metStates : List Text :=
  ["implemented".toList, "inherited".toList, "not_applicable".toList]

/-- `_MISS`. -/
def missStates : List Text := [notAssessed, "not_implemented".toList, "planned".toList]

/-- `DERIVED`. -/
def derivedText : Text := "derived".toList

/-- The scoring buckets, the keys of `_BASE`. -/
inductive PointValue
  | five | three | one | threeOfFive | special
  deriving DecidableEq

def PointValue.text : PointValue → Text
  | .five => "5".toList
  | .three => "3".toList
  | .one => "1".toList
  | .threeOfFive => "3/5".toList
  | .special => "Special".toList

def pointValues : List PointValue := [.five, .three, .one, .threeOfFive, .special]

/-- `_BASE`. -/
def PointValue.base : PointValue → Int
  | .five => 5
  | .three => 3
  | .one => 1
  | .threeOfFive => 5
  | .special => 0

/-- `_PARTIAL`. -/
def PointValue.partly : PointValue → Int
  | .five => 5
  | .three => 3
  | .one => 1
  | .threeOfFive => 3
  | .special => 0

def normalizePointValue (pointValue : Option Text) : PointValue :=
  let pv := strip (pointValue.getD [])
  (pointValues.find? fun v => v.text = pv).getD .one

/-- Points subtracted from 110 for a single control in the given state. -/
def deductionFor (pointValue state : Option Text) : Int :=
  let pv := normalizePointValue pointValue
  let st := strip ((orElse state none).getD notAssessed)
  if st ∈ metStates then 0
  else if st = partlyDone then pv.partly
  else if st ∈ missStates then pv.base
  else pv.base

/-- Points this state keeps that `not_assessed` would have cost. -/
def creditFor (pointValue state : Option Text) : Int :=
  let pv := normalizePointValue pointValue
  pv.base - deductionFor (some pv.text) state

/-- A row of the reference matrix. -/
structure ControlRef where
  controlId : Text
  domain : Text
  pointValue : Text

structure ControlScore where
  controlId : Text
  domain : Text
  pointValue : PointValue
  state : Text
  deduction : Int
  source : Provenance := .assessed
  credited : Int := 0
  deriving DecidableEq

/-- An entry of `by_domain` or `by_point_value`. -/
structure Tally where
  controls : Nat := 0
  met : Nat := 0
  deductions : Int := 0
  deriving DecidableEq

/-- `percentage` is in tenths. -/
structure ScoreSummary where
  score : Int
  maxScore : Int := maxSprsScore
  deductionsTotal : Int := 0
  percentage : Int := 0
  totalControls : Nat := 0
  metControls : Nat := 0
  sspPresent : Bool := true
  sspPresentSource : Option Provenance := none
  assessedControls : Nat := 0
  derivedControls : Nat := 0
  derivedCredit : Int := 0
  stateCounts : Dict Text Nat := .ofPairs (states.map fun st => (st, 0))
  byDomain : Dict Text Tally := .empty
  byPointValue : Dict PointValue Tally := .empty
  controls : List ControlScore := []

def stateOf (recorded : Dict Text Text) (defaultState cid : Text) : Text :=
  let state := (recorded.get? cid).getD defaultState
  if state ∈ states then state else defaultState

/-- What the loop computes of one row of the matrix; a row without an id is passed over. -/
def controlScore (recorded sources : Dict Text Text) (defaultState : Text) (ref : ControlRef) :
    Option ControlScore :=
  if ref.controlId = [] then none
  else
    let pv := normalizePointValue (some ((orElse (some ref.pointValue) none).getD "1".toList))
    let state := stateOf recorded defaultState ref.controlId
    let src := if sources.get? ref.controlId = some derivedText ∧ state ≠ notAssessed
      then Provenance.derived else .assessed
    some {
      controlId := ref.controlId
      domain := (orElse (some ref.domain) none).getD "?".toList
      pointValue := pv
      state := state
      deduction := deductionFor (some pv.text) (some state)
      source := src
      credited := creditFor (some pv.text) (some state) }

def ControlScore.met (row : ControlScore) : Bool := row.state ∈ metStates

def Tally.add (t : Tally) (row : ControlScore) : Tally where
  controls := t.controls + 1
  met := t.met + if row.met then 1 else 0
  deductions := t.deductions + row.deduction

def ScoreSummary.count (s : ScoreSummary) (row : ControlScore) : ScoreSummary :=
  let isSsp := row.controlId = sspControlId
  let present := row.met || row.state = partlyDone
  { s with
    totalControls := s.totalControls + 1
    stateCounts := s.stateCounts.set row.state ((s.stateCounts.get? row.state).getD 0 + 1)
    metControls := s.metControls + if row.met then 1 else 0
    derivedControls := s.derivedControls + if row.source = .derived then 1 else 0
    derivedCredit := s.derivedCredit + if row.source = .derived then row.credited else 0
    assessedControls :=
      s.assessedControls + if row.source ≠ .derived ∧ row.state ≠ notAssessed then 1 else 0
    deductionsTotal := s.deductionsTotal + row.deduction
    controls := s.controls ++ [row]
    byDomain := s.byDomain.set row.domain (((s.byDomain.get? row.domain).getD {}).add row)
    byPointValue :=
      s.byPointValue.set row.pointValue (((s.byPointValue.get? row.pointValue).getD {}).add row)
    sspPresent := if isSsp then present else s.sspPresent
    sspPresentSource :=
      if isSsp then (if present then some row.source else none) else s.sspPresentSource }

/-- `round(score / MAX_SPRS_SCORE * 100, 1)`, in tenths. -/
def percentageOf (score : Int) : Int :=
  let quotient := (Double.nearest (score / maxSprsScore)).value
  roundHalfEven (10 * (Double.nearest (quotient * 100)).value)

def scoreSystem (controls : List ControlRef) (recorded sources : Dict Text Text)
    (defaultState : Text) : ScoreSummary :=
  let rows := controls.filterMap (controlScore recorded sources defaultState)
  let summary := rows.foldl ScoreSummary.count { score := maxSprsScore }
  let score := max sprsFloor (maxSprsScore - summary.deductionsTotal)
  { summary with
    score := score
    percentage := percentageOf score }

example : ([110, 0, 73, -203].map percentageOf) = [1000, 0, 664, -1845] := by decide +kernel

/-! ## Deductions -/

@[simp] theorem normalizePointValue_text (pv : PointValue) :
    normalizePointValue (some pv.text) = pv := by
  cases pv <;> decide

theorem PointValue.partly_nonneg (pv : PointValue) : 0 ≤ pv.partly := by
  cases pv <;> decide

theorem PointValue.partly_le_base (pv : PointValue) : pv.partly ≤ pv.base := by
  cases pv <;> decide

/-- How much of a practice a state claims: nothing, a part or all of it. -/
def standing (state : Text) : Nat :=
  let st := strip ((orElse (some state) none).getD notAssessed)
  if st ∈ metStates then 2 else if st = partlyDone then 1 else 0

theorem deductionFor_eq (pv : PointValue) (state : Text) :
    deductionFor (some pv.text) (some state) =
      if standing state = 2 then 0 else if standing state = 1 then pv.partly else pv.base := by
  unfold deductionFor standing
  rw [normalizePointValue_text]
  generalize strip ((orElse (some state) none).getD notAssessed) = st
  dsimp only
  by_cases hmet : st ∈ metStates
  · simp [hmet]
  · by_cases hpartly : st = partlyDone
    · simp [hpartly, show partlyDone ∉ metStates by decide]
    · simp [hmet, hpartly]

theorem standing_le_two (state : Text) : standing state ≤ 2 := by
  unfold standing
  generalize strip ((orElse (some state) none).getD notAssessed) = st
  dsimp only
  split_ifs <;> decide

theorem deductionFor_nonneg (pv : PointValue) (state : Text) :
    0 ≤ deductionFor (some pv.text) (some state) := by
  have hpartly := pv.partly_nonneg
  have hbase := pv.partly_le_base
  rw [deductionFor_eq]
  split
  · exact le_rfl
  · split <;> omega

/-- **A better state** costs no more. -/
theorem deductionFor_antitone (pv : PointValue) {state better : Text}
    (h : standing state ≤ standing better) :
    deductionFor (some pv.text) (some better) ≤ deductionFor (some pv.text) (some state) := by
  have hpartly := pv.partly_nonneg
  have hbase := pv.partly_le_base
  have htwo := standing_le_two better
  rw [deductionFor_eq, deductionFor_eq]
  split_ifs <;> omega

theorem deductionFor_notAssessed (pv : PointValue) (state : Text) :
    deductionFor (some pv.text) (some notAssessed) =
      deductionFor (some pv.text) (some state) + creditFor (some pv.text) (some state) := by
  have hstanding : standing notAssessed = 0 := by decide
  have hnone : deductionFor (some pv.text) (some notAssessed) = pv.base := by
    rw [deductionFor_eq, hstanding]
    rfl
  rw [hnone, creditFor, normalizePointValue_text]
  omega

example : states.map standing = [0, 0, 0, 1, 2, 2, 2] := by decide

/-! ## The tallies -/

theorem deductionsTotal_foldl (rows : List ControlScore) (s : ScoreSummary) :
    (rows.foldl ScoreSummary.count s).deductionsTotal =
      s.deductionsTotal + (rows.map ControlScore.deduction).sum := by
  induction rows generalizing s with
  | nil => exact (Int.add_zero _).symm
  | cons row rows ih =>
    rw [List.foldl_cons, ih, List.map_cons, List.sum_cons, ← Int.add_assoc]
    rfl

theorem derivedCredit_foldl (rows : List ControlScore) (s : ScoreSummary) :
    (rows.foldl ScoreSummary.count s).derivedCredit =
      s.derivedCredit +
        (rows.map fun row => if row.source = .derived then row.credited else 0).sum := by
  induction rows generalizing s with
  | nil => exact (Int.add_zero _).symm
  | cons row rows ih =>
    rw [List.foldl_cons, ih, List.map_cons, List.sum_cons, ← Int.add_assoc]
    rfl

theorem total_set_add {κ : Type} [DecidableEq κ] (d : Dict κ Tally) (key : κ)
    (row : ControlScore) :
    (d.set key (((d.get? key).getD {}).add row)).total Tally.deductions =
      d.total Tally.deductions + row.deduction := by
  refine Dict.total_set Tally.deductions d key ?_
  cases d.get? key <;> rfl

/-- A summary whose breakdowns account for all that was taken. -/
structure ScoreSummary.Balanced (s : ScoreSummary) : Prop where
  byDomain : s.byDomain.total Tally.deductions = s.deductionsTotal
  byPointValue : s.byPointValue.total Tally.deductions = s.deductionsTotal

theorem ScoreSummary.Balanced.count {s : ScoreSummary} (h : s.Balanced) (row : ControlScore) :
    (s.count row).Balanced where
  byDomain := (total_set_add s.byDomain row.domain row).trans
    (congrArg (· + row.deduction) h.byDomain)
  byPointValue := (total_set_add s.byPointValue row.pointValue row).trans
    (congrArg (· + row.deduction) h.byPointValue)

theorem ScoreSummary.Balanced.foldl (rows : List ControlScore) {s : ScoreSummary}
    (h : s.Balanced) : (rows.foldl ScoreSummary.count s).Balanced :=
  List.foldlRecOn (motive := ScoreSummary.Balanced) rows ScoreSummary.count h
    fun _ hs row _ => hs.count row

/-! ## What a control takes from the score -/

section Accounts

variable (recorded sources : Dict Text Text) (defaultState : Text)

/-- What a row of the matrix takes from the score. -/
def taken (ref : ControlRef) : Int :=
  (controlScore recorded sources defaultState ref).elim 0 ControlScore.deduction

/-- What of its points rests on a derived state. -/
def kept (ref : ControlRef) : Int :=
  (controlScore recorded sources defaultState ref).elim 0 fun row =>
    if row.source = .derived then row.credited else 0

theorem sum_filterMap {α β : Type} (f : α → Option β) (g : β → Int) (as : List α) :
    ((as.filterMap f).map g).sum = (as.map fun a => (f a).elim 0 g).sum := by
  induction as with
  | nil => rfl
  | cons a as ih =>
    rw [List.map_cons, List.sum_cons, ← ih]
    cases ha : f a with
    | none =>
      rw [List.filterMap_cons_none ha]
      exact (Int.zero_add _).symm
    | some b =>
      rw [List.filterMap_cons_some ha, List.map_cons, List.sum_cons]
      rfl

theorem deductionsTotal_eq (controls : List ControlRef) :
    (scoreSystem controls recorded sources defaultState).deductionsTotal =
      (controls.map (taken recorded sources defaultState)).sum := by
  show ScoreSummary.deductionsTotal (List.foldl _ _ _) = _
  rw [deductionsTotal_foldl, sum_filterMap]
  exact Int.zero_add _

theorem derivedCredit_eq (controls : List ControlRef) :
    (scoreSystem controls recorded sources defaultState).derivedCredit =
      (controls.map (kept recorded sources defaultState)).sum := by
  show ScoreSummary.derivedCredit (List.foldl _ _ _) = _
  rw [derivedCredit_foldl, sum_filterMap]
  exact Int.zero_add _

theorem taken_of_ne {ref : ControlRef} (h : ref.controlId ≠ []) :
    taken recorded sources defaultState ref =
      deductionFor
        (some (normalizePointValue
          (some ((orElse (some ref.pointValue) none).getD "1".toList))).text)
        (some (stateOf recorded defaultState ref.controlId)) := by
  rw [taken, controlScore, if_neg h]
  rfl

theorem taken_of_eq {ref : ControlRef} (h : ref.controlId = []) :
    taken recorded sources defaultState ref = 0 := by
  rw [taken, controlScore, if_pos h]
  rfl

theorem taken_nonneg (ref : ControlRef) : 0 ≤ taken recorded sources defaultState ref := by
  by_cases h : ref.controlId = []
  · rw [taken_of_eq _ _ _ h]
  · rw [taken_of_ne _ _ _ h]
    exact deductionFor_nonneg _ _

theorem taken_antitone {recorded' : Dict Text Text} {ref : ControlRef}
    (h : standing (stateOf recorded defaultState ref.controlId) ≤
      standing (stateOf recorded' defaultState ref.controlId)) :
    taken recorded' sources defaultState ref ≤ taken recorded sources defaultState ref := by
  by_cases hid : ref.controlId = []
  · rw [taken_of_eq _ _ _ hid, taken_of_eq _ _ _ hid]
  · rw [taken_of_ne _ _ _ hid, taken_of_ne _ _ _ hid]
    exact deductionFor_antitone _ h

/-- The recorded states with every derived one put back to `not_assessed`. -/
def withdrawDerived : Dict Text Text :=
  (((sources.filter fun _ source => decide (source = derivedText)).items.map fun p =>
    (p.1, notAssessed)).foldl (fun d p => d.set p.1 p.2) recorded)

theorem get?_withdrawDerived (cid : Text) :
    (withdrawDerived recorded sources).get? cid =
      if sources.get? cid = some derivedText then some notAssessed else recorded.get? cid := by
  rw [withdrawDerived, Dict.get?_foldl_set]
  set derived := sources.filter fun _ source => decide (source = derivedText)
  have hderived : derived.get? cid = some derivedText ↔ sources.get? cid = some derivedText :=
    (Dict.get?_filter_eq_some sources _).trans (and_iff_left (decide_eq_true rfl))
  by_cases h : sources.get? cid = some derivedText
  -- each value that is written back is the same one, so that the last does not matter
  · have hmem : (cid, derivedText) ∈ derived.items := Dict.mem_items_iff.mpr (hderived.mpr h)
    rw [if_pos h]
    cases hfind : (derived.items.map fun p => (p.1, notAssessed)).reverse.find?
        fun p => p.1 = cid with
    | none =>
      refine absurd (List.find?_eq_none.mp hfind (cid, notAssessed) ?_) (by simp)
      exact List.mem_reverse.mpr (List.mem_map.mpr ⟨_, hmem, rfl⟩)
    | some p =>
      obtain ⟨q, -, rfl⟩ :=
        List.mem_map.mp (List.mem_reverse.mp (List.mem_of_find?_eq_some hfind))
      rfl
  · have hnone : (derived.items.map fun p => (p.1, notAssessed)).reverse.find?
        (fun p => p.1 = cid) = none := by
      refine List.find?_eq_none.mpr fun p hp => ?_
      obtain ⟨⟨key, source⟩, hq, rfl⟩ := List.mem_map.mp (List.mem_reverse.mp hp)
      intro hkey
      obtain rfl : key = cid := of_decide_eq_true hkey
      have hq := (Dict.get?_filter_eq_some sources _).mp (Dict.mem_items_iff.mp hq)
      exact h (hq.1.trans (congrArg some (of_decide_eq_true hq.2)))
    rw [hnone, if_neg h]
    rfl

/-- **Taking a derived state back** costs what it had kept. -/
theorem taken_withdrawDerived (ref : ControlRef) :
    taken (withdrawDerived recorded sources) sources defaultState ref =
      taken recorded sources defaultState ref + kept recorded sources defaultState ref := by
  by_cases hid : ref.controlId = []
  · rw [taken_of_eq _ _ _ hid, taken_of_eq _ _ _ hid, kept, controlScore, if_pos hid]
    rfl
  · rw [taken_of_ne _ _ _ hid, taken_of_ne _ _ _ hid, kept, controlScore, if_neg hid]
    by_cases hderived : sources.get? ref.controlId = some derivedText
    · have hback : stateOf (withdrawDerived recorded sources) defaultState ref.controlId =
          notAssessed := by
        rw [stateOf, get?_withdrawDerived, if_pos hderived]
        rfl
      rw [hback, deductionFor_notAssessed _ (stateOf recorded defaultState ref.controlId)]
      refine congrArg (_ + ·) ?_
      by_cases hstate : stateOf recorded defaultState ref.controlId = notAssessed
      · -- nothing was claimed, and nothing was kept
        simp [hstate, creditFor, deductionFor_eq, show standing notAssessed = 0 by decide]
      · simp [hderived, hstate]
    -- a state that a person recorded is not touched
    · have hsame : stateOf (withdrawDerived recorded sources) defaultState ref.controlId =
          stateOf recorded defaultState ref.controlId := by
        rw [stateOf, stateOf, get?_withdrawDerived, if_neg hderived]
      rw [hsame]
      simp [hderived]

variable (controls : List ControlRef)

theorem scoreSystem_score :
    (scoreSystem controls recorded sources defaultState).score =
      max sprsFloor (maxSprsScore -
        (scoreSystem controls recorded sources defaultState).deductionsTotal) :=
  rfl

theorem scoreSystem_balanced : (scoreSystem controls recorded sources defaultState).Balanced := by
  have hstart : ({ score := maxSprsScore } : ScoreSummary).Balanced := ⟨rfl, rfl⟩
  have hrows := hstart.foldl (controls.filterMap (controlScore recorded sources defaultState))
  exact ⟨hrows.byDomain, hrows.byPointValue⟩

theorem deductionsTotal_nonneg :
    0 ≤ (scoreSystem controls recorded sources defaultState).deductionsTotal := by
  rw [deductionsTotal_eq]
  refine List.sum_nonneg fun n hn => ?_
  obtain ⟨ref, -, rfl⟩ := List.mem_map.mp hn
  exact taken_nonneg recorded sources defaultState ref

/-- **Better states all over** score no less. -/
theorem score_mono {recorded' : Dict Text Text}
    (h : ∀ ref ∈ controls, standing (stateOf recorded defaultState ref.controlId) ≤
      standing (stateOf recorded' defaultState ref.controlId)) :
    (scoreSystem controls recorded sources defaultState).score ≤
      (scoreSystem controls recorded' sources defaultState).score := by
  rw [scoreSystem_score, scoreSystem_score, deductionsTotal_eq, deductionsTotal_eq]
  have hsum := List.sum_le_sum (l := controls) fun ref href =>
    taken_antitone recorded sources defaultState (h ref href)
  exact max_le_max_left _ (Int.sub_le_sub_left hsum _)

theorem stateOf_set (cid : Text) {better : Text} (hbetter : better ∈ states) (key : Text) :
    stateOf (recorded.set cid better) defaultState key =
      if cid = key then better else stateOf recorded defaultState key := by
  rw [stateOf, Dict.get?_set]
  by_cases h : cid = key
  · rw [if_pos h, if_pos h]
    exact if_pos hbetter
  · rw [if_neg h, if_neg h]
    rfl

/-- **Derived credit is accounted for.** Taking every derived state back to `not_assessed` costs
exactly the reported credit, the score keeps to its bounds and never falls where a control is
moved to a better state, and both breakdowns add up to what was taken. -/
theorem scoreSystem_accounts :
    (scoreSystem controls (withdrawDerived recorded sources) sources defaultState).deductionsTotal =
        (scoreSystem controls recorded sources defaultState).deductionsTotal +
          (scoreSystem controls recorded sources defaultState).derivedCredit ∧
      (sprsFloor ≤ (scoreSystem controls recorded sources defaultState).score ∧
        (scoreSystem controls recorded sources defaultState).score ≤ maxSprsScore) ∧
      (∀ cid, ∀ better ∈ states,
        standing (stateOf recorded defaultState cid) ≤ standing better →
        (scoreSystem controls recorded sources defaultState).score ≤
          (scoreSystem controls (recorded.set cid better) sources defaultState).score) ∧
      (scoreSystem controls recorded sources defaultState).byDomain.total Tally.deductions =
        (scoreSystem controls recorded sources defaultState).deductionsTotal ∧
      (scoreSystem controls recorded sources defaultState).byPointValue.total Tally.deductions =
        (scoreSystem controls recorded sources defaultState).deductionsTotal := by
  have hbalanced := scoreSystem_balanced recorded sources defaultState controls
  refine ⟨?_, ⟨?_, ?_⟩, ?_, hbalanced.byDomain, hbalanced.byPointValue⟩
  · rw [deductionsTotal_eq, deductionsTotal_eq, derivedCredit_eq, ← List.sum_map_add]
    exact congrArg List.sum (List.map_congr_left fun ref _ =>
      taken_withdrawDerived recorded sources defaultState ref)
  · exact le_max_left _ _
  · have htaken := deductionsTotal_nonneg recorded sources defaultState controls
    rw [scoreSystem_score]
    exact max_le (by decide) (by omega)
  · intro cid better hbetter hle
    -- one state is better, and the others are as they were
    refine score_mono recorded sources defaultState controls fun ref _ => ?_
    rw [stateOf_set recorded defaultState cid hbetter]
    split
    · rename_i hcid
      exact hcid ▸ hle
    · exact le_rfl

end Accounts

/-- A practice that a placemat calls partly done is implemented: three points are back. -/
theorem scoreSystem_accounts_implemented :
    let mfa : ControlRef := ⟨"IA.L2-3.5.3".toList, "IA".toList, "3/5".toList⟩
    let recorded : Dict Text Text := .ofPairs [("IA.L2-3.5.3".toList, partlyDone)]
    let sources : Dict Text Text := .ofPairs [("IA.L2-3.5.3".toList, derivedText)]
    (scoreSystem [mfa] recorded sources notAssessed).derivedCredit = 2 ∧
      (scoreSystem [mfa] recorded sources notAssessed).score = 107 ∧
      (scoreSystem [mfa] recorded sources notAssessed).score ≤
        (scoreSystem [mfa] (recorded.set "IA.L2-3.5.3".toList "implemented".toList) sources
          notAssessed).score :=
  ⟨by decide +kernel, by decide +kernel,
    (scoreSystem_accounts _ _ _ _).2.2.1 _ _ (by decide) (by decide)⟩

end Concord.Scoring
