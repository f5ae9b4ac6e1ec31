import Concord.Assessment.Service

/-!
# Staleness, acceptance and rejection

`check_staleness`, `accept_control_proposal` and `reject_control_proposal` of
`ccf/assessment/engine/service.py`, on one proposal, the objective rows stored with
it and the catalog as it stands. A refusal is an `Except.error`: the route raises,
and the request's transaction is rolled back with everything the call wrote, the
stale mark included.

Staleness is asked of the stored rows only. `stored_subset_of_not_stale` is what a
negative answer gives, and `accept_eq_ok` what an acceptance does.
-/

namespace Concord.Assessment

open Concord.Python

/-! ## Staleness -/

/-- `{o.label: o.text_sha256 for o in live}[label]`: a later objective replaces an
earlier one. -/
def liveHash (live : List Objective) (label : Text) : Option Text :=
  (live.reverse.find? fun o => o.label = label).map Objective.textSha256

/-- `row.label not in live_hashes or live_hashes[row.label] != row.objective_text_sha256`. -/
def rowIsStale (live : List Objective) (r : ObjectiveProposal) : Bool :=
  liveHash live r.label ≠ some r.objectiveTextSha256

/-- `check_staleness`: the verdict, and the proposal with the mark it leaves. -/
def checkStaleness (limit : Int) (catalog : List Control) (p : ControlProposal)
    (rows : List ObjectiveProposal) : Except ObjectiveError (Bool × ControlProposal) :=
  match objectivesFor limit catalog p.controlIdentifier with
  | .error e => .error e
  | .ok live =>
    if rows.any (rowIsStale live) then .ok (true, { p with state := .stale })
    else .ok (false, p)

/-! ## Acceptance -/

/-- `_objective_finding_record`: `finding` is null for `not_assessed`, `dissent` the
two verdicts of a challenge. -/
structure ObjectiveFindingRecord where
  label : Text
  text : Text
  finding : Option Verdict
  citedUnitIds : List Int
  dissent : Option (Verdict × Option Verdict)
  deriving DecidableEq

def objectiveFindingRecord (r : ObjectiveProposal) : ObjectiveFindingRecord where
  label := r.label
  text := r.objectiveText
  finding := r.verdict
  citedUnitIds := r.citedUnitIds
  dissent := r.primaryVerdict.map fun v => (v, r.challengerVerdict)

/-- A row of `assessment_control_results`, as an acceptance writes it. -/
structure ControlResult where
  controlId : Text
  finding : Finding
  objectiveFindings : List ObjectiveFindingRecord
  assessorNote : Option String
  reviewed : Bool
  reviewer : Text
  deriving DecidableEq

/-- Why an acceptance is refused. -/
inductive AcceptanceRefused
  | objectives (e : ObjectiveError)
  | stale
  | notComplete (state : ProposalState)
  | noFinding
  | insufficientEvidence

/-- `accept_control_proposal`. -/
def acceptControlProposal (limit : Int) (catalog : List Control) (p : ControlProposal)
    (rows : List ObjectiveProposal) (acceptedBy : Text) :
    Except AcceptanceRefused (ControlProposal × ControlResult) :=
  match checkStaleness limit catalog p rows with
  | .error e => .error (.objectives e)
  | .ok (_, checked) =>
    if checked.state = .stale then .error .stale
    else if checked.state ≠ .complete then .error (.notComplete checked.state)
    else
      match checked.proposedFinding with
      | none => .error .noFinding
      | some .insufficientEvidence => .error .insufficientEvidence
      | some finding =>
        let objectives := rows.insertionSort fun a b => a.sortOrder ≤ b.sortOrder
        .ok ({ checked with state := .accepted, acceptedBy := some acceptedBy },
          { controlId := checked.controlIdentifier
            finding := finding
            objectiveFindings := objectives.map objectiveFindingRecord
            assessorNote := checked.rollupRationale
            reviewed := true
            reviewer := acceptedBy })

/-! ## Rejection -/

/-- Why a rejection is refused. -/
inductive RejectionRefused
  | alreadyAccepted
  | alreadyRejected
  | invalidCorrection
  | blankNote

/-- `CORRECTED_FINDINGS`. -/
def correctedFindings : List Finding := [.satisfied, .otherThanSatisfied, .notApplicable]

/-- `reject_control_proposal`; `correctedFinding` is `none` for a string that is no
finding. -/
def rejectControlProposal (p : ControlProposal) (rejectedBy : Text)
    (correctedFinding : Option Finding) (note : Text) :
    Except RejectionRefused ControlProposal :=
  if p.state = .accepted then .error .alreadyAccepted
  else if p.state = .rejected then .error .alreadyRejected
  else
    match correctedFinding with
    | none => .error .invalidCorrection
    | some finding =>
      if finding ∉ correctedFindings then .error .invalidCorrection
      else if note = [] ∨ strip note = [] then .error .blankNote
      else
        .ok { p with
          state := .rejected
          correctedFinding := some finding
          rejectedBy := some rejectedBy
          rejectionNote := some note }

/-! ## What the two gates let through -/

theorem liveHash_eq_some {live : List Objective} {label hash : Text}
    (h : liveHash live label = some hash) :
    ∃ o ∈ live, o.label = label ∧ o.textSha256 = hash := by
  obtain ⟨o, ho, hhash⟩ := Option.map_eq_some_iff.mp h
  refine ⟨o, List.mem_reverse.mp (List.mem_of_find?_eq_some ho), ?_, hhash⟩
  have hlabel := List.find?_some ho
  rwa [decide_eq_true_iff] at hlabel

theorem stored_subset_of_not_stale {live : List Objective}
    {rows : List ObjectiveProposal} (h : rows.any (rowIsStale live) = false)
    {r : ObjectiveProposal} (hr : r ∈ rows) :
    liveHash live r.label = some r.objectiveTextSha256 := by
  have hfresh := List.any_eq_false.mp h r hr
  rw [rowIsStale, decide_eq_true_iff, ne_eq, not_not] at hfresh
  exact hfresh

theorem accept_eq_ok {limit : Int} {catalog : List Control} {p q : ControlProposal}
    {rows : List ObjectiveProposal} {acceptedBy : Text} {result : ControlResult}
    (h : acceptControlProposal limit catalog p rows acceptedBy = .ok (q, result)) :
    (∃ live, objectivesFor limit catalog p.controlIdentifier = .ok live ∧
      rows.any (rowIsStale live) = false) ∧
    p.state = .complete ∧ p.proposedFinding = some result.finding ∧
    q.state = .accepted := by
  unfold acceptControlProposal checkStaleness at h
  cases hlive : objectivesFor limit catalog p.controlIdentifier with
  | error e =>
    rw [hlive] at h
    cases h
  | ok live =>
    rw [hlive] at h
    simp only at h
    by_cases hstale : rows.any (rowIsStale live) = true
    · rw [if_pos hstale] at h
      cases h
    · rw [if_neg hstale] at h
      simp only at h
      by_cases hs : p.state = .stale
      · rw [if_pos hs] at h
        cases h
      rw [if_neg hs] at h
      by_cases hc : p.state ≠ .complete
      · rw [if_pos hc] at h
        cases h
      rw [if_neg hc] at h
      refine ⟨⟨live, rfl, Bool.eq_false_iff.mpr hstale⟩, not_not.mp hc, ?_⟩
      split at h
      · cases h
      · cases h
      · rename_i hf
        cases h
        exact ⟨hf, rfl⟩

theorem reject_eq_ok {p q : ControlProposal} {rejectedBy note : Text}
    {finding : Option Finding}
    (h : rejectControlProposal p rejectedBy finding note = .ok q) :
    p.state ≠ .accepted ∧ q.state = .rejected := by
  unfold rejectControlProposal at h
  by_cases ha : p.state = .accepted
  · rw [if_pos ha] at h
    cases h
  rw [if_neg ha] at h
  refine ⟨ha, ?_⟩
  split at h
  · cases h
  split at h
  · cases h
  split at h
  · cases h
  split at h
  · cases h
  · cases h
    rfl

end Concord.Assessment
