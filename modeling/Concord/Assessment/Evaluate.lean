import Concord.Python.Json
import Concord.Assessment.Rollup

/-!
# Evaluating one objective

`evaluate_objective` of `ccf/assessment/engine/evaluate.py`: retrieve evidence,
ask the model, and, where dissent is enabled and the verdict is `satisfied`, ask
a challenger about the same passages. What the outside world answers is an
`Answers` value, so a result here holds for every reply a model can give. Of an
evaluation the model keeps the verdicts and the citations; the prose beside them
(rationale, gaps, contradictions, confidence) is carried through unread, and so
is only here as the question whether it could be converted.

`Answered`, `Contested` and `Denied` say of the answers alone whether the objective
can be evaluated, whether its reviewers dissent, and whether the model denies it.
-/

namespace Concord.Assessment

open Concord.Python

/-- What `int(raw)` comes to: a number, a refusal that is caught (`TypeError`,
`ValueError`), or an error that is not (`OverflowError`). -/
inductive IntResult
  | value (n : Int)
  | refused
  | overflow

/-- A structured reply. `verdict` is `str(data["verdict"])`, `none` without that
key; `cited` the values of `cited_unit_ids`, `none` where they cannot be iterated;
`converts` whether every other field converts as the code converts it. -/
structure Reply where
  verdict : Option Verdict
  cited : Option (List Json)
  converts : Bool

/-- The outside world's answers about one objective: the retrieved unit ids, the
model's reply and the challenger's (`none` where the call, or the record of it,
raises), and whether the challenge's savepoint is released, the objective's row is
written, and, for a failed objective, its failure row. -/
structure Answers where
  retrieved : Option (List Int)
  reply : Option Reply
  challenge : Option Reply
  released : Bool
  stored : Bool
  recovered : Bool

/-- What `evaluate_objective` returns. -/
structure ObjectiveEvaluation where
  verdict : Verdict
  citedUnitIds : List Int
  retrievedUnitIds : List Int
  primaryVerdict : Option Verdict
  challengerVerdict : Option Verdict
  deriving DecidableEq

/-- The Python built-in, on the values a JSON reply can hold. -/
abbrev IntOf := Json → IntResult

/-- The citation loop: ids that were offered, each once, in the order of the
reply; `none` where a value overflows. -/
def citations (intOf : IntOf) (offered : List Int) : List Int → List Json →
    Option (List Int)
  | cited, [] => some cited
  | cited, raw :: raws =>
    match intOf raw with
    | .overflow => none
    | .refused => citations intOf offered cited raws
    | .value n =>
      if n ∈ offered ∧ n ∉ cited then citations intOf offered (cited ++ [n]) raws
      else citations intOf offered cited raws

/-- What the challenge block leaves behind. -/
structure Challenge where
  finalVerdict : Verdict
  primaryVerdict : Option Verdict
  challengerVerdict : Option Verdict

/-- The challenge block, on a primary verdict of `satisfied`. An exception inside
resets what was recorded; one on releasing the savepoint comes after the verdict
was rewritten. -/
def challengeObjective (intOf : IntOf) (offered : List Int) (a : Answers) : Challenge :=
  let failed : Challenge := ⟨.satisfied, none, none⟩
  match a.challenge with
  | none => failed
  | some reply =>
    match reply.cited.bind (citations intOf offered []), reply.verdict with
    | some cited, some verdict =>
      if reply.converts then
        let final :=
          if verdict ≠ .satisfied ∧ cited ≠ [] then .insufficientEvidence else .satisfied
        if a.released then ⟨final, some .satisfied, some verdict⟩
        else ⟨final, none, none⟩
      else failed
    | _, _ => failed

/-- `evaluate_objective`; `none` where it raises. -/
def evaluateObjective (dissentEnabled : Bool) (intOf : IntOf) (a : Answers) :
    Option ObjectiveEvaluation := do
  let units ← a.retrieved
  if units = [] then
    pure ⟨.insufficientEvidence, [], [], none, none⟩
  else
    let reply ← a.reply
    let cited ← reply.cited.bind (citations intOf units [])
    let verdict ← reply.verdict
    if reply.converts then
      if dissentEnabled ∧ verdict = .satisfied then
        let c := challengeObjective intOf units a
        pure ⟨c.finalVerdict, cited, units, c.primaryVerdict, c.challengerVerdict⟩
      else pure ⟨verdict, cited, units, none, none⟩
    else none

/-! ## What an evaluation says -/

/-- A reply whose verdict and citations can be read. -/
def Reply.reads (intOf : IntOf) (offered : List Int) (r : Reply) (v : Verdict)
    (cited : List Int) : Prop :=
  r.verdict = some v ∧ r.cited.bind (citations intOf offered []) = some cited ∧
    r.converts = true

/-- The reviewers dissent: the model is satisfied, and the challenger is not and
cites a passage for it. -/
structure Contested (dissentEnabled : Bool) (intOf : IntOf) (a : Answers) : Prop where
  enabled : dissentEnabled = true
  primary : ∃ units reply cited, a.retrieved = some units ∧ units ≠ [] ∧
    a.reply = some reply ∧ reply.reads intOf units .satisfied cited
  challenger : ∃ units reply verdict cited, a.retrieved = some units ∧
    a.challenge = some reply ∧ reply.reads intOf units verdict cited ∧
    verdict ≠ .satisfied ∧ cited ≠ []
  released : a.released = true

def Denied (intOf : IntOf) (a : Answers) : Prop :=
  ∃ units reply cited, a.retrieved = some units ∧ units ≠ [] ∧ a.reply = some reply ∧
    reply.reads intOf units .notSatisfied cited

section Evaluation

variable {dissentEnabled : Bool} {intOf : IntOf} {a : Answers} {e : ObjectiveEvaluation}

/-- How an evaluation returns: without evidence, without a challenge, or after
one. -/
theorem evaluateObjective_cases
    (h : evaluateObjective dissentEnabled intOf a = some e) :
    (a.retrieved = some [] ∧ e = ⟨.insufficientEvidence, [], [], none, none⟩) ∨
    ∃ units reply verdict cited, a.retrieved = some units ∧ units ≠ [] ∧
      a.reply = some reply ∧ reply.reads intOf units verdict cited ∧
      ((¬ (dissentEnabled = true ∧ verdict = .satisfied) ∧
          e = ⟨verdict, cited, units, none, none⟩) ∨
        (dissentEnabled = true ∧ verdict = .satisfied ∧
          e = ⟨(challengeObjective intOf units a).finalVerdict, cited, units,
            (challengeObjective intOf units a).primaryVerdict,
            (challengeObjective intOf units a).challengerVerdict⟩)) := by
  simp only [evaluateObjective, Option.bind_eq_bind, Option.bind_eq_some_iff] at h
  obtain ⟨units, hunits, h⟩ := h
  by_cases hnil : units = []
  · left
    rw [if_pos hnil] at h
    exact ⟨hnil ▸ hunits, (Option.some.inj h).symm⟩
  · right
    rw [if_neg hnil, Option.bind_eq_some_iff] at h
    obtain ⟨reply, hreply, h⟩ := h
    rw [Option.bind_eq_some_iff] at h
    obtain ⟨cited, hcited, h⟩ := h
    rw [Option.bind_eq_some_iff] at h
    obtain ⟨verdict, hverdict, h⟩ := h
    by_cases hconv : reply.converts = true
    · rw [if_pos hconv] at h
      refine ⟨units, reply, verdict, cited, hunits, hnil, hreply,
        ⟨hverdict, hcited, hconv⟩, ?_⟩
      by_cases hc : dissentEnabled = true ∧ verdict = .satisfied
      · rw [if_pos hc] at h
        exact .inr ⟨hc.1, hc.2, (Option.some.inj h).symm⟩
      · rw [if_neg hc] at h
        exact .inl ⟨hc, (Option.some.inj h).symm⟩
    · rw [if_neg hconv] at h
      cases h

/-- The challenge block leaves `satisfied` or `insufficient_evidence`, and records
a challenger against an `insufficient_evidence` only where there is dissent. -/
theorem challengeObjective_spec (intOf : IntOf) (units : List Int) (a : Answers) :
    ((challengeObjective intOf units a).finalVerdict = .satisfied ∨
      (challengeObjective intOf units a).finalVerdict = .insufficientEvidence) ∧
    (((challengeObjective intOf units a).challengerVerdict ≠ none ∧
        (challengeObjective intOf units a).finalVerdict = .insufficientEvidence) ↔
      a.released = true ∧ ∃ reply verdict cited, a.challenge = some reply ∧
        reply.reads intOf units verdict cited ∧ verdict ≠ .satisfied ∧ cited ≠ []) := by
  unfold challengeObjective
  cases hch : a.challenge with
  | none => simp
  | some reply =>
    cases hcited : reply.cited.bind (citations intOf units []) with
    | none => simp [hcited, Reply.reads]
    | some cited =>
      cases hverdict : reply.verdict with
      | none => simp [hcited, hverdict, Reply.reads]
      | some verdict =>
        cases hconv : reply.converts with
        | false => simp [hcited, hverdict, hconv, Reply.reads]
        | true =>
          by_cases hd : verdict ≠ .satisfied ∧ cited ≠ []
          · cases hrel : a.released <;>
              simp [hcited, hverdict, hconv, hd, Reply.reads]
          · cases hrel : a.released <;>
              simp [hcited, hverdict, hconv, Reply.reads] <;> tauto

/-- The model's reply can be used: nothing was retrieved, or the reply reads. -/
def Answered (intOf : IntOf) (a : Answers) : Prop :=
  a.retrieved = some [] ∨ ∃ units reply verdict cited, a.retrieved = some units ∧
    units ≠ [] ∧ a.reply = some reply ∧ reply.reads intOf units verdict cited

theorem evaluateObjective_isSome :
    (evaluateObjective dissentEnabled intOf a).isSome = true ↔ Answered intOf a := by
  constructor
  · intro h
    obtain ⟨e, he⟩ := Option.isSome_iff_exists.mp h
    rcases evaluateObjective_cases he with ⟨hnil, -⟩ | ⟨u, r, v, c, hu, hne, hr, hreads, -⟩
    · exact .inl hnil
    · exact .inr ⟨u, r, v, c, hu, hne, hr, hreads⟩
  · rintro (hnil | ⟨u, r, v, c, hu, hne, hr, hverdict, hcited, hconv⟩)
    · simp [evaluateObjective, hnil]
    · by_cases hc : dissentEnabled = true ∧ v = .satisfied <;>
        simp [evaluateObjective, hu, hne, hr, hverdict, hcited, hconv, hc]

theorem verdict_notSatisfied_iff (h : evaluateObjective dissentEnabled intOf a = some e) :
    e.verdict = .notSatisfied ↔ Denied intOf a := by
  rcases evaluateObjective_cases h with
    ⟨hnil, rfl⟩ | ⟨u, r, v, c, hu, hne, hr, hreads, ⟨-, rfl⟩ | ⟨-, hsat, rfl⟩⟩
  · constructor
    · intro hv
      cases hv
    · rintro ⟨u, r, c, hu, hne, -⟩
      rw [hnil, Option.some.injEq] at hu
      exact absurd hu.symm hne
  · constructor
    · rintro rfl
      exact ⟨u, r, c, hu, hne, hr, hreads⟩
    · rintro ⟨u', r', c', hu', -, hr', hverdict, -⟩
      rw [hr, Option.some.injEq] at hr'
      rw [← hr', hreads.1] at hverdict
      exact Option.some.inj hverdict
  · constructor
    · intro hv
      have hfinal := (challengeObjective_spec intOf u a).1
      simp only at hv
      rw [hv] at hfinal
      rcases hfinal with hf | hf <;> cases hf
    · rintro ⟨u', r', c', hu', -, hr', hverdict, -⟩
      rw [hr, Option.some.injEq] at hr'
      rw [← hr', hreads.1, hsat] at hverdict
      cases hverdict

/-- The condition the caller counts as dissent. -/
def ObjectiveEvaluation.dissents (e : ObjectiveEvaluation) : Bool :=
  e.challengerVerdict.isSome && decide (e.verdict = .insufficientEvidence)

theorem dissents_iff (h : evaluateObjective dissentEnabled intOf a = some e) :
    e.dissents = true ↔ Contested dissentEnabled intOf a := by
  rcases evaluateObjective_cases h with
    ⟨hnil, rfl⟩ | ⟨u, r, v, c, hu, hne, hr, hreads, ⟨hno, rfl⟩ | ⟨hen, hsat, rfl⟩⟩
  · constructor
    · intro hd
      cases hd
    · rintro ⟨-, ⟨u, -, -, hu, hne, -⟩, -⟩
      rw [hnil, Option.some.injEq] at hu
      exact absurd hu.symm hne
  · constructor
    · intro hd
      cases hd
    · rintro ⟨hen, ⟨u', r', c', -, -, hr', hverdict, -⟩, -⟩
      rw [hr, Option.some.injEq] at hr'
      rw [← hr', hreads.1] at hverdict
      exact absurd ⟨hen, Option.some.inj hverdict⟩ hno
  · have hspec := (challengeObjective_spec intOf u a).2
    have hd : (ObjectiveEvaluation.mk (challengeObjective intOf u a).finalVerdict c u
        (challengeObjective intOf u a).primaryVerdict
        (challengeObjective intOf u a).challengerVerdict).dissents = true ↔
        (challengeObjective intOf u a).challengerVerdict ≠ none ∧
          (challengeObjective intOf u a).finalVerdict = .insufficientEvidence := by
      simp [ObjectiveEvaluation.dissents, Option.isSome_iff_ne_none]
    rw [hd, hspec]
    constructor
    · rintro ⟨hrel, r', v', c', hch, hreads', hne', hc'⟩
      exact ⟨hen, ⟨u, r, c, hu, hne, hr, hsat ▸ hreads⟩,
        ⟨u, r', v', c', hu, hch, hreads', hne', hc'⟩, hrel⟩
    · rintro ⟨-, -, ⟨u', r', v', c', hu', hch, hreads', hne', hc'⟩, hrel⟩
      rw [hu, Option.some.injEq] at hu'
      exact ⟨hrel, r', v', c', hch, hu' ▸ hreads', hne', hc'⟩

end Evaluation

end Concord.Assessment
