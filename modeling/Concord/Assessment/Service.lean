import Concord.Assessment.Objectives
import Concord.Assessment.Evaluate

/-!
# Evaluating a control proposal

`evaluate_control_proposal` of `ccf/assessment/engine/service.py`: every objective
of the control is evaluated on its own, stored with its verdict or as failed, and
the verdicts are rolled up into the proposed finding.

`tally_spec` is the loop: what it counts and stores, in terms of the objectives and
the answers about them. `dissent_blocks_iff` is what becomes of dissent in the
rollup.
-/

namespace Concord.Assessment

open Concord.Python

/-- `PROPOSAL_STATES`. -/
inductive ProposalState
  | draft | complete | accepted | rejected | failed | stale
  deriving DecidableEq

/-- A row of `assessment_control_proposals`. -/
structure ControlProposal where
  controlIdentifier : Text
  state : ProposalState
  proposedFinding : Option Finding
  rollupRationale : Option String
  objectivesTotal : Nat
  objectivesEvaluated : Nat
  dissentCount : Nat
  acceptedBy : Option Text
  correctedFinding : Option Finding
  rejectedBy : Option Text
  rejectionNote : Option Text
  error : Option Text

/-- A row of `assessment_objective_proposals`; `verdict` is null on the row of a
failed objective, whose `state` is `failed`. -/
structure ObjectiveProposal where
  label : Text
  objectiveText : Text
  objectiveTextSha256 : Text
  sortOrder : Nat
  verdict : Option Verdict
  citedUnitIds : List Int
  primaryVerdict : Option Verdict
  challengerVerdict : Option Verdict
  deriving DecidableEq

/-! ## Evaluation -/

/-- The settings an evaluation reads. -/
structure Settings where
  dissentEnabled : Bool
  maxObjectivesPerControl : Int

/-- What the loop over the objectives has gathered. -/
structure Tally where
  rows : List ObjectiveProposal
  verdicts : List Verdict
  failed : Nat
  dissentCount : Nat

def Objective.row (o : Objective) (e : ObjectiveEvaluation) : ObjectiveProposal where
  label := o.label
  objectiveText := o.text
  objectiveTextSha256 := o.textSha256
  sortOrder := o.sortOrder
  verdict := some e.verdict
  citedUnitIds := e.citedUnitIds
  primaryVerdict := e.primaryVerdict
  challengerVerdict := e.challengerVerdict

def Objective.failedRow (o : Objective) : ObjectiveProposal where
  label := o.label
  objectiveText := o.text
  objectiveTextSha256 := o.textSha256
  sortOrder := o.sortOrder
  verdict := none
  citedUnitIds := []
  primaryVerdict := none
  challengerVerdict := none

section Evaluation

variable (settings : Settings) (intOf : IntOf) (answer : Objective → Answers)

/-- The evaluation of an objective whose row is written. -/
def settled (o : Objective) : Option ObjectiveEvaluation :=
  if (answer o).stored then evaluateObjective settings.dissentEnabled intOf (answer o)
  else none

/-- One turn of the loop. A second row under one label violates
`uq_objective_proposal_label`, for the failure row as well. -/
def evaluateOne (t : Tally) (o : Objective) : Tally :=
  let fresh := decide (o.label ∉ t.rows.map ObjectiveProposal.label)
  match settled settings intOf answer o, fresh with
  | some e, true =>
    { t with
      rows := t.rows ++ [o.row e]
      verdicts := t.verdicts ++ [e.verdict]
      dissentCount := t.dissentCount + if e.dissents then 1 else 0 }
  | _, _ =>
    { t with
      rows := if (answer o).recovered && fresh then t.rows ++ [o.failedRow] else t.rows
      failed := t.failed + 1 }

/-- What `evaluate_control_proposal` raises. -/
inductive EvaluationError
  | objectives (e : ObjectiveError)
  | rollup (e : RollupError)

/-- `evaluate_control_proposal`: the proposal, and the rows that replace its old
ones. -/
def evaluateControlProposal (catalog : List Control) (p : ControlProposal) :
    Except EvaluationError (ControlProposal × List ObjectiveProposal) :=
  match objectivesFor settings.maxObjectivesPerControl catalog p.controlIdentifier with
  | .error e => .error (.objectives e)
  | .ok objectives =>
    let t := objectives.foldl (evaluateOne settings intOf answer) ⟨[], [], 0, 0⟩
    match rollUp t.verdicts t.failed with
    | .error e => .error (.rollup e)
    | .ok r =>
      .ok ({ p with
        state := .complete
        proposedFinding := some r.finding
        rollupRationale := some r.rationale
        objectivesTotal := objectives.length
        objectivesEvaluated := t.verdicts.length
        dissentCount := t.dissentCount }, t.rows)

/-! ## The loop -/

variable {settings intOf answer}

theorem settled_eq_some {o : Objective} {e : ObjectiveEvaluation}
    (h : settled settings intOf answer o = some e) :
    (answer o).stored = true ∧
      evaluateObjective settings.dissentEnabled intOf (answer o) = some e := by
  unfold settled at h
  split at h
  · rename_i hs
    exact ⟨hs, h⟩
  · cases h

theorem evaluateOne_of_fresh {t : Tally} {o : Objective} {e : ObjectiveEvaluation}
    (hs : settled settings intOf answer o = some e)
    (hfresh : o.label ∉ t.rows.map ObjectiveProposal.label) :
    evaluateOne settings intOf answer t o =
      { t with
        rows := t.rows ++ [o.row e]
        verdicts := t.verdicts ++ [e.verdict]
        dissentCount := t.dissentCount + if e.dissents then 1 else 0 } := by
  simp only [evaluateOne, hs, decide_eq_true hfresh]

theorem evaluateOne_of_fails {t : Tally} {o : Objective}
    (h : settled settings intOf answer o = none ∨
      o.label ∈ t.rows.map ObjectiveProposal.label) :
    (evaluateOne settings intOf answer t o).failed = t.failed + 1 ∧
      (evaluateOne settings intOf answer t o).dissentCount = t.dissentCount := by
  rcases h with hs | hdup
  · simp only [evaluateOne, hs, and_self]
  · cases hs : settled settings intOf answer o with
    | none => simp only [evaluateOne, hs, and_self]
    | some e =>
      have hf : decide (o.label ∉ t.rows.map ObjectiveProposal.label) = false :=
        decide_eq_false (not_not.mpr hdup)
      simp only [evaluateOne, hs, hf, and_self]

/-- No label is used twice, by the objectives or by the rows that are there. -/
def Fresh (rows : List ObjectiveProposal) (os : List Objective) : Prop :=
  (os.map Objective.label).Nodup ∧
    ∀ o ∈ os, o.label ∉ rows.map ObjectiveProposal.label

theorem fresh_cons {rows : List ObjectiveProposal} {o : Objective}
    {os : List Objective} (e : ObjectiveEvaluation) :
    Fresh rows (o :: os) ↔
      o.label ∉ rows.map ObjectiveProposal.label ∧ Fresh (rows ++ [o.row e]) os := by
  simp only [Fresh, List.map_cons, List.nodup_cons, List.forall_mem_cons, List.map_append,
    List.map_nil, List.mem_append, List.mem_singleton, not_or, Objective.row]
  constructor
  · rintro ⟨⟨hnot, hnodup⟩, hrow, hrows⟩
    refine ⟨hrow, hnodup, fun q hq => ⟨hrows q hq, fun heq => hnot ?_⟩⟩
    exact heq ▸ List.mem_map_of_mem hq
  · rintro ⟨hrow, hnodup, hrows⟩
    refine ⟨⟨fun hmem => ?_, hnodup⟩, hrow, fun q hq => (hrows q hq).1⟩
    obtain ⟨q, hq, heq⟩ := List.mem_map.mp hmem
    exact (hrows q hq).2 heq

/-- What the loop adds to a tally: dissent only where an objective dissents, and,
where no objective fails, the row and the verdict of each. -/
structure Adds (settings : Settings) (intOf : IntOf) (answer : Objective → Answers)
    (t u : Tally) (os : List Objective) : Prop where
  failed_le : t.failed ≤ u.failed
  dissent : t.dissentCount < u.dissentCount →
    ∃ o ∈ os, ∃ e, settled settings intOf answer o = some e ∧ e.dissents = true
  clean_iff : u.failed = t.failed ↔
    (∀ o ∈ os, settled settings intOf answer o ≠ none) ∧ Fresh t.rows os
  clean : u.failed = t.failed →
    ∃ es : List ObjectiveEvaluation,
      os.map (settled settings intOf answer) = es.map some ∧
      u.rows = t.rows ++ List.zipWith Objective.row os es ∧
      u.verdicts = t.verdicts ++ es.map ObjectiveEvaluation.verdict ∧
      u.dissentCount = t.dissentCount + es.countP ObjectiveEvaluation.dissents

theorem tally_spec (os : List Objective) (t : Tally) :
    Adds settings intOf answer t (os.foldl (evaluateOne settings intOf answer) t) os := by
  induction os generalizing t with
  | nil =>
    refine ⟨Nat.le_refl _, fun h => absurd h (Nat.lt_irrefl _), ?_, fun _ => ?_⟩
    · refine ⟨fun _ => ⟨?_, List.nodup_nil, ?_⟩, fun _ => rfl⟩ <;>
        exact fun o ho => nomatch ho
    · exact ⟨[], rfl, (List.append_nil _).symm, (List.append_nil _).symm, rfl⟩
  | cons o os ih =>
    rw [List.foldl_cons]
    have hrest := ih (evaluateOne settings intOf answer t o)
    by_cases hfail : settled settings intOf answer o = none ∨
        o.label ∈ t.rows.map ObjectiveProposal.label
    · obtain ⟨hf, hd⟩ := evaluateOne_of_fails hfail
      have hle := hrest.failed_le
      refine ⟨by omega, fun h => ?_, ?_, fun h => by omega⟩
      · obtain ⟨q, hq, he⟩ := hrest.dissent (hd ▸ h)
        exact ⟨q, List.mem_cons_of_mem o hq, he⟩
      · refine ⟨fun h => by omega, fun h => ?_⟩
        rcases hfail with hnone | hdup
        · exact absurd hnone (h.1 o List.mem_cons_self)
        · exact absurd hdup (h.2.2 o List.mem_cons_self)
    · rw [not_or] at hfail
      obtain ⟨e, hs⟩ := Option.ne_none_iff_exists'.mp hfail.1
      rw [evaluateOne_of_fresh hs hfail.2] at hrest ⊢
      refine ⟨hrest.failed_le, fun h => ?_, ?_, fun h => ?_⟩
      · by_cases hd : e.dissents = true
        · exact ⟨o, List.mem_cons_self, e, hs, hd⟩
        · obtain ⟨q, hq, he⟩ := hrest.dissent (by simpa [hd] using h)
          exact ⟨q, List.mem_cons_of_mem o hq, he⟩
      · rw [hrest.clean_iff, List.forall_mem_cons, fresh_cons e]
        exact ⟨fun h => ⟨⟨hfail.1, h.1⟩, hfail.2, h.2⟩, fun h => ⟨h.1.2, h.2.2⟩⟩
      · obtain ⟨es, hmap, hrows, hverdicts, hcount⟩ := hrest.clean h
        refine ⟨e :: es, ?_, ?_, ?_, ?_⟩
        · rw [List.map_cons, List.map_cons, hs, hmap]
        · rw [hrows, List.append_assoc]
          rfl
        · rw [hverdicts, List.append_assoc]
          rfl
        · rw [hcount, List.countP_cons]
          simp only
          omega

/-! ## What an evaluation returns -/

theorem evaluateControlProposal_eq_ok {catalog : List Control} {p q : ControlProposal}
    {rows : List ObjectiveProposal}
    (h : evaluateControlProposal settings intOf answer catalog p = .ok (q, rows)) :
    ∃ os t r, objectivesFor settings.maxObjectivesPerControl catalog
        p.controlIdentifier = .ok os ∧
      t = os.foldl (evaluateOne settings intOf answer) ⟨[], [], 0, 0⟩ ∧
      rollUp t.verdicts t.failed = .ok r ∧ rows = t.rows ∧
      q.state = .complete ∧ q.controlIdentifier = p.controlIdentifier ∧
      q.proposedFinding = some r.finding ∧ q.dissentCount = t.dissentCount := by
  unfold evaluateControlProposal at h
  split at h
  · cases h
  · rename_i os hos
    simp only at h
    split at h
    · cases h
    · rename_i r hr
      cases h
      exact ⟨os, _, r, hos, rfl, hr, rfl, rfl, rfl, rfl, rfl⟩

/-- Some objective could not be evaluated, or its row not be written. -/
def Fails (intOf : IntOf) (answer : Objective → Answers) (os : List Objective) : Prop :=
  (∃ o ∈ os, ¬ Answered intOf (answer o) ∨ (answer o).stored = false) ∨
    ¬ (os.map Objective.label).Nodup

theorem settled_eq_none {o : Objective} :
    settled settings intOf answer o = none ↔
      ¬ Answered intOf (answer o) ∨ (answer o).stored = false := by
  cases hs : (answer o).stored with
  | false => simp [settled, hs]
  | true =>
    have hanswered : _ ↔ Answered intOf (answer o) :=
      @evaluateObjective_isSome settings.dissentEnabled intOf (answer o)
    rw [settled, if_pos hs, ← hanswered]
    simp

theorem failed_eq_zero_iff (os : List Objective) :
    (os.foldl (evaluateOne settings intOf answer) ⟨[], [], 0, 0⟩).failed = 0 ↔
      ¬ Fails intOf answer os := by
  rw [(tally_spec os ⟨[], [], 0, 0⟩).clean_iff, Fails, not_or, not_not]
  refine and_congr ?_ ⟨fun h => h.1, fun h => ⟨h, fun _ _ => List.not_mem_nil⟩⟩
  simp only [ne_eq, settled_eq_none, not_exists, not_and]

theorem exists_of_mem_objectives {os : List Objective} {es : List ObjectiveEvaluation}
    (hmap : os.map (settled settings intOf answer) = es.map some) {o : Objective}
    (ho : o ∈ os) : ∃ e ∈ es, settled settings intOf answer o = some e := by
  have hmem : settled settings intOf answer o ∈ es.map some :=
    hmap ▸ List.mem_map_of_mem ho
  obtain ⟨e, he, heq⟩ := List.mem_map.mp hmem
  exact ⟨e, he, heq.symm⟩

theorem exists_of_mem_evaluations {os : List Objective} {es : List ObjectiveEvaluation}
    (hmap : os.map (settled settings intOf answer) = es.map some)
    {e : ObjectiveEvaluation} (he : e ∈ es) :
    ∃ o ∈ os, settled settings intOf answer o = some e := by
  have hmem : some e ∈ os.map (settled settings intOf answer) :=
    hmap ▸ List.mem_map_of_mem he
  exact List.mem_map.mp hmem

theorem notSatisfied_mem_iff {os : List Objective} {es : List ObjectiveEvaluation}
    (hmap : os.map (settled settings intOf answer) = es.map some) :
    Verdict.notSatisfied ∈ es.map ObjectiveEvaluation.verdict ↔
      ∃ o ∈ os, Denied intOf (answer o) := by
  constructor
  · intro hns
    obtain ⟨f, hf, hfv⟩ := List.mem_map.mp hns
    obtain ⟨d, hd, hsf⟩ := exists_of_mem_evaluations hmap hf
    exact ⟨d, hd, (verdict_notSatisfied_iff (settled_eq_some hsf).2).mp hfv⟩
  · rintro ⟨d, hd, hden⟩
    obtain ⟨f, hf, hsf⟩ := exists_of_mem_objectives hmap hd
    exact List.mem_map.mpr ⟨f, hf, (verdict_notSatisfied_iff (settled_eq_some hsf).2).mpr hden⟩

/-- **Dissent in the rollup.** A recorded dissent forces `insufficient_evidence`
exactly where no objective is contested, or one fails, or none is denied. -/
theorem dissent_blocks_iff (settings : Settings) (intOf : IntOf)
    (answer : Objective → Answers) {catalog : List Control} {p q : ControlProposal}
    {rows : List ObjectiveProposal} {os : List Objective}
    (hos : objectivesFor settings.maxObjectivesPerControl catalog p.controlIdentifier =
      .ok os)
    (h : evaluateControlProposal settings intOf answer catalog p = .ok (q, rows)) :
    (0 < q.dissentCount → q.proposedFinding = some .insufficientEvidence) ↔
      (∀ o ∈ os, ¬ Contested settings.dissentEnabled intOf (answer o)) ∨
        Fails intOf answer os ∨ ∀ o ∈ os, ¬ Denied intOf (answer o) := by
  obtain ⟨os', t, r, hos', ht, hroll, -, -, -, hfinding, hdissent⟩ :=
    evaluateControlProposal_eq_ok h
  obtain rfl : os = os' := Except.ok.inj (hos.symm.trans hos')
  have hadds : Adds settings intOf answer ⟨[], [], 0, 0⟩
      (os.foldl (evaluateOne settings intOf answer) ⟨[], [], 0, 0⟩) os := tally_spec os _
  have hfailed : (os.foldl (evaluateOne settings intOf answer) ⟨[], [], 0, 0⟩).failed = 0 ↔
      ¬ Fails intOf answer os := failed_eq_zero_iff os
  rw [← ht] at hadds hfailed
  rw [hfinding, hdissent, Option.some.injEq, finding_insufficientEvidence_iff hroll]
  constructor
  · intro hprop
    by_contra hnot
    rw [not_or, not_or] at hnot
    obtain ⟨hcontested, hfails, hdenied⟩ := hnot
    have h0 : t.failed = 0 := hfailed.mpr hfails
    obtain ⟨es, hmap, -, hverdicts, hcount⟩ := hadds.clean h0
    push Not at hcontested hdenied
    obtain ⟨o, ho, hcon⟩ := hcontested
    -- the contested objective is counted, and the denied one outweighs it
    obtain ⟨e, he, hse⟩ := exists_of_mem_objectives hmap ho
    have hpos : 0 < t.dissentCount := by
      have hcp : 0 < es.countP ObjectiveEvaluation.dissents :=
        List.countP_pos_iff.mpr ⟨e, he, (dissents_iff (settled_eq_some hse).2).mpr hcon⟩
      simp only at hcount
      omega
    have hns : Verdict.notSatisfied ∈ t.verdicts := by
      rw [hverdicts, List.nil_append]
      exact (notSatisfied_mem_iff hmap).mpr hdenied
    rcases hprop hpos with hne | hnil | hno
    · exact hne (by exact_mod_cast h0)
    · rw [hnil] at hns
      cases hns
    · exact hno.1 hns
  · intro hcond hpos
    obtain ⟨o, ho, e, hse, hdis⟩ := hadds.dissent hpos
    -- without a failure the verdicts are those of the objectives, one each
    by_cases h0 : t.failed = 0
    · right
      right
      obtain ⟨es, hmap, -, hverdicts, -⟩ := hadds.clean h0
      have hcon := (dissents_iff (settled_eq_some hse).2).mp hdis
      rcases hcond with hnone | hfails | hnodenied
      · exact absurd hcon (hnone o ho)
      · exact absurd hfails (hfailed.mp h0)
      · rw [hverdicts, List.nil_append]
        constructor
        · intro hns
          obtain ⟨d, hd, hden⟩ := (notSatisfied_mem_iff hmap).mp hns
          exact hnodenied d hd hden
        · obtain ⟨e', he', hse'⟩ := exists_of_mem_objectives hmap ho
          obtain rfl : e = e' := Option.some.inj (hse.symm.trans hse')
          have hver : e.verdict = .insufficientEvidence := by
            simp only [ObjectiveEvaluation.dissents, Bool.and_eq_true,
              decide_eq_true_iff] at hdis
            exact hdis.2
          exact List.mem_map.mpr ⟨e, he', hver⟩
    · left
      exact_mod_cast h0

end Evaluation

/-- `int(raw)` on the non-negative integers of a reply. -/
def natIntOf : IntOf
  | .num n =>
    if n.text.all Char.isDigit then
      .value (n.text.foldl (fun acc c => 10 * acc + (c.toNat - 48)) 0)
    else .refused
  | _ => .refused

/-- A new proposal, as `open_control_proposal` leaves it. -/
def ControlProposal.new (controlIdentifier : Text) : ControlProposal where
  controlIdentifier := controlIdentifier
  state := .draft
  proposedFinding := none
  rollupRationale := none
  objectivesTotal := 0
  objectivesEvaluated := 0
  dissentCount := 0
  acceptedBy := none
  correctedFinding := none
  rejectedBy := none
  rejectionNote := none
  error := none

/-- A sub-clause row of control `AC-02`. -/
def subClause (id : Nat) (identifier text : Text) : Control where
  id := id
  sourceRow := some id
  identifier := identifier
  sequenceControl := some ['A', 'C', '-', '0', '2']
  controlName := none
  assessmentObjective := some text
  apAcronym := none

def twoObjectives : List Control :=
  [subClause 1 ['a'] ['x'], subClause 2 ['b'] ['y']]

/-- Passage 7 was retrieved, and cited for the verdict. -/
def answered (verdict : Verdict) (challenge : Option Verdict) : Answers where
  retrieved := some [7]
  reply := some ⟨some verdict, some [.nat 7], true⟩
  challenge := challenge.map fun v => ⟨some v, some [.nat 7], true⟩
  released := true
  stored := true
  recovered := true

/-- The first objective is contested; the verdict on the other is `v`. -/
def oneContested (v : Verdict) (o : Objective) : Answers :=
  if o.sortOrder = 0 then answered .satisfied (some .notSatisfied) else answered v none

theorem dissent_blocks_iff_satisfied :
    ∃ os q rows,
      evaluateControlProposal ⟨true, 200⟩ natIntOf (oneContested .satisfied)
        twoObjectives (.new ['A', 'C', '-', '2']) = .ok (q, rows) ∧
      ((0 < q.dissentCount → q.proposedFinding = some .insufficientEvidence) ↔
        (∀ o ∈ os, ¬ Contested true natIntOf (oneContested .satisfied o)) ∨
          Fails natIntOf (oneContested .satisfied) os ∨
          ∀ o ∈ os, ¬ Denied natIntOf (oneContested .satisfied o)) := by
  have hos : (objectivesFor 200 twoObjectives ['A', 'C', '-', '2']).isOk = true := by
    decide +kernel
  have hq : (evaluateControlProposal ⟨true, 200⟩ natIntOf (oneContested .satisfied)
      twoObjectives (.new ['A', 'C', '-', '2'])).isOk = true := by decide +kernel
  cases hos' : objectivesFor 200 twoObjectives ['A', 'C', '-', '2'] with
  | error e => rw [hos'] at hos; cases hos
  | ok os =>
    cases hq' : evaluateControlProposal ⟨true, 200⟩ natIntOf (oneContested .satisfied)
        twoObjectives (.new ['A', 'C', '-', '2']) with
    | error e => rw [hq'] at hq; cases hq
    | ok qr => exact ⟨os, qr.1, qr.2, rfl, dissent_blocks_iff _ _ _ hos' hq'⟩

/-- One contested objective beside a denied one: the dissent is recorded, and the
finding is definite. -/
theorem dissent_beside_notSatisfied :
    (evaluateControlProposal ⟨true, 200⟩ natIntOf (oneContested .notSatisfied)
      twoObjectives (.new ['A', 'C', '-', '2'])).toOption.map
        (fun qr => (qr.1.dissentCount, qr.1.proposedFinding)) =
      some (1, some .otherThanSatisfied) := by
  decide +kernel

end Concord.Assessment
