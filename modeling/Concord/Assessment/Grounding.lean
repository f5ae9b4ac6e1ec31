import Concord.Assessment.Evaluate
import Concord.Python.Equality
import Concord.Python.Loads

/-!
# Grounded citations

The citation filter of `evaluate_objective` in `ccf/assessment/engine/evaluate.py`, which the
challenge has too: a model may only cite passages it was shown. What it returns is grounded whatever
the model says (`citations_eq`); it does not return where the value cannot be iterated, or where
`int` raises what is not caught, which it does of an infinity.
-/

namespace Concord.Assessment

open Concord.Python

/-! ## `int` and iteration -/

def isInfinite (n : Number) : Bool :=
  !n.isInt && n.double.isNone && decide (n.text ≠ "NaN".toList)

/-- `int(raw)`: a `nan` is a `ValueError`, and an infinity an `OverflowError`. -/
def pyIntOf : IntOf
  | .bool b => .value b.toNat
  | .num n =>
    if n.isInt then .value n.intValue
    else
      match n.double with
      | some q => .value (truncate q)
      | none => if n.text = "NaN".toList then .refused else .overflow
  | .str s =>
    match pyInt s with
    | some n => .value n
    | none => .refused
  | .null | .arr _ | .obj _ => .refused

/-- `for raw in value`: the items of a list, the characters of a string, the keys of a dict. -/
def iterate : Json → Option (List Json)
  | .arr items => some items
  | .str s => some (s.map fun c => .str [c])
  | .obj fields => some (fields.map fun p => .str p.1)
  | .null | .bool _ | .num _ => none

/-- The filter, on `data.get("cited_unit_ids", [])`; `none` is what it raises. -/
def filterCitations (offered : List Int) (value : Option Json) : Option (List Int) :=
  (iterate (value.getD (.arr []))).bind (citations pyIntOf offered [])

/-! ## The filter -/

def readIds (intOf : IntOf) (raws : List Json) : List Int :=
  raws.filterMap fun raw =>
    match intOf raw with
    | .value n => some n
    | _ => none

theorem nodup_eraseDups {α : Type} [BEq α] [LawfulBEq α] :
    ∀ (k : Nat) (l : List α), l.length ≤ k → l.eraseDups.Nodup
  | _, [], _ => List.nodup_nil
  | k + 1, a :: l, h => by
    rw [List.eraseDups_cons, List.nodup_cons]
    refine ⟨fun hmem => ?_, nodup_eraseDups k _ ?_⟩
    · simp at hmem
    · exact (List.length_filter_le _ l).trans (Nat.le_of_succ_le_succ h)

/-- The loop: behind what is cited come the ids that were offered, each once, as they first
occur. -/
theorem citations_eq {intOf : IntOf} {offered cited out : List Int} {raws : List Json}
    (h : citations intOf offered cited raws = some out) :
    out = cited ++ (((readIds intOf raws).filter (· ∈ offered)).filter (· ∉ cited)).eraseDups := by
  induction raws generalizing cited with
  | nil =>
    rw [citations, Option.some.injEq] at h
    simp [readIds, h]
  | cons raw raws ih =>
    rw [citations] at h
    cases hraw : intOf raw with
    | overflow =>
      rw [hraw] at h
      cases h
    | refused =>
      rw [hraw] at h
      rw [ih h]
      simp [readIds, hraw]
    | value n =>
      rw [hraw] at h
      have hids : readIds intOf (raw :: raws) = n :: readIds intOf raws := by
        simp [readIds, hraw]
      rw [hids, List.filter_cons]
      dsimp only at h
      split at h
      · -- what is cited is left out of the rest: of the later copies none is new
        rename_i hn
        rw [ih h, if_pos (decide_eq_true hn.1), List.filter_cons, if_pos (decide_eq_true hn.2),
          List.eraseDups_cons, List.append_assoc, List.singleton_append]
        refine congrArg (fun l => cited ++ n :: List.eraseDups l) ?_
        simp only [List.filter_filter]
        refine List.filter_congr fun m _ => ?_
        by_cases hm : m = n <;> simp [hm, Bool.and_comm]
      · -- it was not offered, or it is a copy
        rename_i hn
        rw [ih h]
        by_cases hoffered : n ∈ offered
        · have hcited : n ∈ cited := by
            by_contra hnot
            exact hn ⟨hoffered, hnot⟩
          rw [if_pos (decide_eq_true hoffered), List.filter_cons, if_neg (by simpa using hcited)]
        · rw [if_neg (by simpa using hoffered)]

theorem citations_isSome {intOf : IntOf} {offered cited : List Int} {raws : List Json} :
    (citations intOf offered cited raws).isSome = true ↔ ∀ raw ∈ raws, intOf raw ≠ .overflow := by
  induction raws generalizing cited with
  | nil => simp [citations]
  | cons raw raws ih =>
    rw [List.forall_mem_cons, citations]
    cases hraw : intOf raw with
    | overflow => simp
    | refused => simp [ih]
    | value n =>
      dsimp only
      split <;> simp [ih]

/-! ## What the model may return -/

theorem pyIntOf_overflow {raw : Json} :
    pyIntOf raw = .overflow ↔ ∃ n, raw = .num n ∧ isInfinite n = true := by
  cases raw with
  | num n =>
    cases hint : n.isInt with
    | true => simp [pyIntOf, isInfinite, hint]
    | false =>
      cases hdouble : n.double with
      | some q => simp [pyIntOf, isInfinite, hint, hdouble]
      | none => by_cases hnan : n.text = "NaN".toList <;> simp [pyIntOf, isInfinite, *]
  | str s => cases hint : pyInt s <;> simp [pyIntOf, hint]
  | null | bool _ | arr _ | obj _ => simp [pyIntOf]

/-- A list without an infinity, a string or a dict. -/
def Readable : Json → Prop
  | .arr items => ∀ n, .num n ∈ items → isInfinite n = false
  | .str _ | .obj _ => True
  | .null | .bool _ | .num _ => False

/-- The citations are grounded: what the value reads as, of what was offered, each id once and in
the order of their first mention. -/
structure Grounded (offered : List Int) (raws : List Json) (cited : List Int) : Prop where
  nodup : cited.Nodup
  shown : ∀ n ∈ cited, n ∈ offered
  firstSeen : cited = ((readIds pyIntOf raws).filter (· ∈ offered)).eraseDups

theorem grounded_of_citations {offered cited : List Int} {raws : List Json}
    (h : citations pyIntOf offered [] raws = some cited) : Grounded offered raws cited := by
  have heq : cited = ((readIds pyIntOf raws).filter (· ∈ offered)).eraseDups := by
    simpa using citations_eq h
  refine ⟨?_, fun n hn => ?_, heq⟩
  · rw [heq]
    exact nodup_eraseDups _ _ le_rfl
  · rw [heq, List.mem_eraseDups, List.mem_filter] at hn
    exact of_decide_eq_true hn.2

theorem pyIntOf_str (s : Text) : pyIntOf (.str s) ≠ .overflow := by
  intro h
  obtain ⟨n, heq, -⟩ := pyIntOf_overflow.mp h
  cases heq

theorem readable_iff {v : Json} :
    Readable v ↔ ∃ raws, iterate v = some raws ∧ ∀ raw ∈ raws, pyIntOf raw ≠ .overflow := by
  cases v with
  | arr items =>
    refine ⟨fun h => ⟨items, rfl, fun raw hraw hover => ?_⟩, ?_⟩
    · obtain ⟨n, rfl, hinf⟩ := pyIntOf_overflow.mp hover
      rw [h n hraw] at hinf
      cases hinf
    · rintro ⟨raws, hraws, hnone⟩ n hn
      cases hraws
      by_contra hinf
      exact hnone _ hn (pyIntOf_overflow.mpr ⟨n, rfl, by simpa using hinf⟩)
  | str s =>
    refine iff_of_true trivial ⟨_, rfl, fun raw hraw => ?_⟩
    obtain ⟨c, -, rfl⟩ := List.mem_map.mp hraw
    exact pyIntOf_str [c]
  | obj fields =>
    refine iff_of_true trivial ⟨_, rfl, fun raw hraw => ?_⟩
    obtain ⟨p, -, rfl⟩ := List.mem_map.mp hraw
    exact pyIntOf_str p.1
  | null | bool _ | num _ => exact iff_of_false id (by rintro ⟨_, h, -⟩; cases h)

theorem filterCitations_isSome (offered : List Int) {value : Option Json} :
    (filterCitations offered value).isSome = true ↔ Readable (value.getD (.arr [])) := by
  rw [readable_iff]
  unfold filterCitations
  cases hiter : iterate (value.getD (.arr [])) with
  | none => simp
  | some raws => simp [citations_isSome]

/-- **When the filter answers, with citations that are grounded**: on a list without an infinity, a
string or a dict. -/
theorem citations_grounded_iff (offered : List Int) (value : Option Json) :
    (∃ raws cited, iterate (value.getD (.arr [])) = some raws ∧
        filterCitations offered value = some cited ∧ Grounded offered raws cited) ↔
      Readable (value.getD (.arr [])) := by
  rw [← filterCitations_isSome offered, Option.isSome_iff_exists]
  constructor
  · rintro ⟨raws, cited, -, hcited, -⟩
    exact ⟨cited, hcited⟩
  · rintro ⟨cited, hcited⟩
    obtain ⟨raws, hraws, hloop⟩ := Option.bind_eq_some_iff.mp hcited
    exact ⟨raws, cited, hraws, hcited, grounded_of_citations hloop⟩

theorem isNumberStart_infinity : isNumberStart 'I' = true := rfl

/-- What `json.loads` makes of `Infinity`. -/
def infinity : Number := ⟨'I', _, isNumberStart_infinity, Json.isNumberChar_nfinity⟩

/-- A model that cites an infinity: `int` raises, and nothing catches it. -/
theorem infinity_not_caught :
    ¬∀ offered value, ∃ raws cited, iterate (value.getD (.arr [])) = some raws ∧
      filterCitations offered value = some cited ∧ Grounded offered raws cited := by
  intro h
  obtain ⟨_, cited, -, hcited, -⟩ := h [7] (some (.arr [.num (.ofNat 7), .num infinity]))
  have hreadable := (filterCitations_isSome _).mp (Option.isSome_iff_exists.mpr ⟨cited, hcited⟩)
  have hfinite := hreadable infinity (List.mem_cons_of_mem _ List.mem_cons_self)
  exact absurd hfinite (by decide +kernel)

theorem evaluateObjective_grounded {dissentEnabled : Bool} {a : Answers} {e : ObjectiveEvaluation}
    (h : evaluateObjective dissentEnabled pyIntOf a = some e) :
    e.citedUnitIds.Nodup ∧ ∀ n ∈ e.citedUnitIds, n ∈ e.retrievedUnitIds := by
  rcases evaluateObjective_cases h with
    ⟨-, rfl⟩ | ⟨units, reply, verdict, cited, -, -, -, hreads, hcase⟩
  · exact ⟨List.nodup_nil, nofun⟩
  · obtain ⟨raws, -, hloop⟩ := Option.bind_eq_some_iff.mp hreads.2.1
    have hgrounded := grounded_of_citations hloop
    rcases hcase with ⟨-, rfl⟩ | ⟨-, -, rfl⟩
    · exact ⟨hgrounded.nodup, hgrounded.shown⟩
    · exact ⟨hgrounded.nodup, hgrounded.shown⟩

/-- Two passages were shown; the reply cites one of them twice, and one that was not. -/
def citesTwice : Answers :=
  ⟨some [7, 9], some ⟨some .satisfied, some [.num (.ofNat 7), .num (.ofNat 8), .num (.ofNat 7)],
    true⟩, none, true, true, true⟩

theorem citesTwice_grounded :
    ∃ e, evaluateObjective false pyIntOf citesTwice = some e ∧
      e.citedUnitIds.Nodup ∧ ∀ n ∈ e.citedUnitIds, n ∈ e.retrievedUnitIds := by
  have hsome : (evaluateObjective false pyIntOf citesTwice).isSome = true := by decide +kernel
  obtain ⟨e, he⟩ := Option.isSome_iff_exists.mp hsome
  exact ⟨e, he, evaluateObjective_grounded he⟩

end Concord.Assessment
