import Mathlib.Data.List.Sort
import Mathlib.Data.List.Dedup
import Mathlib.Data.String.Basic

/-!
# Rolling objective verdicts into a control finding

`roll_up` of `ccf/assessment/engine/rollup.py`. `rollUp_cases` lists the six
branches in the order the code takes them; each finding then has its exact
condition on the verdicts. The precedence is the point: a failed objective
outranks everything, a `not_satisfied` outranks an `insufficient_evidence`.
-/

namespace Concord.Assessment

/-- An objective verdict as a string: one of `OBJECTIVE_VERDICTS`, or any other. -/
inductive Verdict
  | satisfied
  | notSatisfied
  | notApplicable
  | insufficientEvidence
  | unknown (text : String)
  deriving DecidableEq

/-- `v in OBJECTIVE_VERDICTS`. -/
def Verdict.known : Verdict → Bool
  | .unknown _ => false
  | _ => true

def Verdict.text : Verdict → String
  | .satisfied => "satisfied"
  | .notSatisfied => "not_satisfied"
  | .notApplicable => "not_applicable"
  | .insufficientEvidence => "insufficient_evidence"
  | .unknown text => text

/-- `OBJECTIVE_VERDICTS`. -/
def objectiveVerdicts : List Verdict :=
  [.satisfied, .notSatisfied, .notApplicable, .insufficientEvidence]

/-- `CONTROL_PROPOSAL_FINDINGS`. -/
inductive Finding
  | satisfied
  | otherThanSatisfied
  | notApplicable
  | insufficientEvidence
  deriving DecidableEq

/-- A proposed control finding and why the policy reached it. -/
structure Rollup where
  finding : Finding
  rationale : String
  deriving DecidableEq

/-- The two `ValueError`s. -/
inductive RollupError
  | unknownVerdicts (texts : List String)
  | negativeFailed (failed : Int)
  deriving DecidableEq

/-- `"1 satisfied, 2 not_satisfied"`. -/
def verdictBreakdown (verdicts : List Verdict) : String :=
  ", ".intercalate ((objectiveVerdicts.filter fun v => v ∈ verdicts).map fun v =>
    toString (verdicts.count v) ++ " " ++ v.text)

/-- `roll_up`. -/
def rollUp (verdicts : List Verdict) (failed : Int) : Except RollupError Rollup :=
  let unknown := verdicts.filter fun v => !v.known
  if unknown ≠ [] then
    .error (.unknownVerdicts ((unknown.map Verdict.text).dedup.insertionSort (· ≤ ·)))
  else if failed < 0 then
    .error (.negativeFailed failed)
  else
    let evaluated := verdicts.length
    let total := evaluated + failed
    let breakdown := verdictBreakdown verdicts
    if failed ≠ 0 then
      let coverage := toString evaluated ++ " of " ++ toString total ++
        " objectives evaluated, " ++ toString failed ++ " failed"
      let detail :=
        if breakdown = "" then "" else " (" ++ breakdown ++ " among those evaluated)"
      .ok ⟨.insufficientEvidence, coverage ++ detail ++
        " -- an objective that could not be evaluated means " ++
        "this control cannot be proposed as satisfied or as other than satisfied."⟩
    else
      let summary :=
        if total = 0 then "0 objectives"
        else toString total ++ " objective(s): " ++ breakdown
      if total = 0 then
        .ok ⟨.insufficientEvidence, summary ++
          " -- a control with no objectives cannot be proposed as satisfied."⟩
      else if verdicts.count .notSatisfied ≠ 0 then
        .ok ⟨.otherThanSatisfied, summary ++
          " -- 800-53A requires every objective to be satisfied."⟩
      else if verdicts.count .insufficientEvidence ≠ 0 then
        .ok ⟨.insufficientEvidence, summary ++
          " -- evidence did not settle every objective."⟩
      else if (verdicts.count .notApplicable : Int) = total then
        .ok ⟨.notApplicable, summary ++ " -- all objectives N/A."⟩
      else .ok ⟨.satisfied, summary ++ " -- every applicable objective met."⟩

/-! ## The exact condition of each finding -/

section Findings

variable {verdicts : List Verdict} {failed : Int} {r : Rollup}

/-- The branches that return, in the order the code takes them. -/
theorem rollUp_cases (h : rollUp verdicts failed = .ok r) :
    (∀ v ∈ verdicts, v.known = true) ∧
    ((failed ≠ 0 ∧ r.finding = .insufficientEvidence) ∨
     (failed = 0 ∧ verdicts = [] ∧ r.finding = .insufficientEvidence) ∨
     (failed = 0 ∧ verdicts ≠ [] ∧ .notSatisfied ∈ verdicts ∧
        r.finding = .otherThanSatisfied) ∨
     (failed = 0 ∧ verdicts ≠ [] ∧ .notSatisfied ∉ verdicts ∧
        .insufficientEvidence ∈ verdicts ∧ r.finding = .insufficientEvidence) ∨
     (failed = 0 ∧ verdicts ≠ [] ∧ .notSatisfied ∉ verdicts ∧
        .insufficientEvidence ∉ verdicts ∧
        ((∀ v ∈ verdicts, v = .notApplicable) ∧ r.finding = .notApplicable ∨
          ¬ (∀ v ∈ verdicts, v = .notApplicable) ∧ r.finding = .satisfied))) := by
  unfold rollUp at h
  simp only at h
  -- an unknown verdict and a negative count raise
  by_cases hu : (verdicts.filter fun v => !v.known) ≠ []
  · rw [if_pos hu] at h
    cases h
  rw [if_neg hu] at h
  have hknown : ∀ v ∈ verdicts, v.known = true := by
    rw [not_not, List.filter_eq_nil_iff] at hu
    intro v hv
    simpa using hu v hv
  refine ⟨hknown, ?_⟩
  by_cases hneg : failed < 0
  · rw [if_pos hneg] at h
    cases h
  rw [if_neg hneg] at h
  -- from here on the precedence: a failure, then a denial, then what is unsettled
  by_cases hf : failed ≠ 0
  · rw [if_pos hf] at h
    cases h
    exact .inl ⟨hf, rfl⟩
  rw [if_neg hf] at h
  right
  have hf0 : failed = 0 := not_not.mp hf
  by_cases ht : (verdicts.length : Int) + failed = 0
  · rw [if_pos ht] at h
    cases h
    exact .inl ⟨hf0, List.eq_nil_of_length_eq_zero (by omega), rfl⟩
  rw [if_neg ht] at h
  have hne : verdicts ≠ [] := by
    rintro rfl
    exact ht (by rw [hf0]; rfl)
  right
  by_cases hns : verdicts.count .notSatisfied ≠ 0
  · rw [if_pos hns] at h
    cases h
    exact .inl ⟨hf0, hne, List.count_pos_iff.mp (Nat.pos_of_ne_zero hns), rfl⟩
  rw [if_neg hns] at h
  have hns' : .notSatisfied ∉ verdicts := List.count_eq_zero.mp (not_not.mp hns)
  right
  by_cases hie : verdicts.count .insufficientEvidence ≠ 0
  · rw [if_pos hie] at h
    cases h
    exact .inl ⟨hf0, hne, hns', List.count_pos_iff.mp (Nat.pos_of_ne_zero hie), rfl⟩
  rw [if_neg hie] at h
  have hie' : .insufficientEvidence ∉ verdicts :=
    List.count_eq_zero.mp (not_not.mp hie)
  refine .inr ⟨hf0, hne, hns', hie', ?_⟩
  -- `not_applicable` only if it is every verdict
  have hall : (verdicts.count .notApplicable : Int) = verdicts.length + failed ↔
      ∀ v ∈ verdicts, v = .notApplicable := by
    rw [hf0, Int.add_zero, Int.ofNat_inj, List.count_eq_length]
    exact ⟨fun h v hv => (h v hv).symm, fun h v hv => (h v hv).symm⟩
  by_cases hna : (verdicts.count .notApplicable : Int) = verdicts.length + failed
  · rw [if_pos hna] at h
    cases h
    exact .inl ⟨hall.mp hna, rfl⟩
  · rw [if_neg hna] at h
    cases h
    exact .inr ⟨fun hv => hna (hall.mpr hv), rfl⟩

/-- `insufficient_evidence`: an objective failed, there is none, or none is denied
and one is unsettled. -/
theorem finding_insufficientEvidence_iff (h : rollUp verdicts failed = .ok r) :
    r.finding = .insufficientEvidence ↔
      failed ≠ 0 ∨ verdicts = [] ∨
        (.notSatisfied ∉ verdicts ∧ .insufficientEvidence ∈ verdicts) := by
  obtain ⟨-, hc | hc | hc | hc | hc⟩ := rollUp_cases h
  · simp [hc]
  · simp [hc]
  · simp [hc]
  · simp [hc]
  · obtain ⟨h0, hne, hns, hie, ⟨-, hr⟩ | ⟨-, hr⟩⟩ := hc <;> simp [h0, hne, hie, hr]

/-- `satisfied`: every objective was evaluated, each is satisfied or not
applicable, and one is satisfied. -/
theorem finding_satisfied_iff (h : rollUp verdicts failed = .ok r) :
    r.finding = .satisfied ↔
      failed = 0 ∧ (∀ v ∈ verdicts, v = .satisfied ∨ v = .notApplicable) ∧
        .satisfied ∈ verdicts := by
  obtain ⟨hknown, hcases⟩ := rollUp_cases h
  rcases hcases with hc | hc | hc | hc | hc
  · simp [hc]
  · simp [hc]
  · obtain ⟨-, -, hns, hr⟩ := hc
    rw [hr]
    refine ⟨fun hf => (nomatch hf), fun hs => ?_⟩
    rcases hs.2.1 _ hns with he | he <;> cases he
  · obtain ⟨-, -, -, hie, hr⟩ := hc
    rw [hr]
    refine ⟨fun hf => (nomatch hf), fun hs => ?_⟩
    rcases hs.2.1 _ hie with he | he <;> cases he
  · obtain ⟨h0, hne, hns, hie, hlast⟩ := hc
    have hrest : ∀ v ∈ verdicts, v = .satisfied ∨ v = .notApplicable := by
      intro v hv
      cases v with
      | satisfied => exact .inl rfl
      | notApplicable => exact .inr rfl
      | notSatisfied => exact absurd hv hns
      | insufficientEvidence => exact absurd hv hie
      | unknown text => exact absurd (hknown _ hv) Bool.false_ne_true
    rcases hlast with ⟨hall, hr⟩ | ⟨hall, hr⟩
    · rw [hr]
      refine ⟨fun hf => (nomatch hf), fun hs => ?_⟩
      cases hall _ hs.2.2
    · rw [hr]
      refine ⟨fun _ => ⟨h0, hrest, ?_⟩, fun _ => rfl⟩
      by_contra hns'
      refine hall fun v hv => ?_
      rcases hrest v hv with rfl | hv'
      · exact absurd hv hns'
      · exact hv'

end Findings

end Concord.Assessment
