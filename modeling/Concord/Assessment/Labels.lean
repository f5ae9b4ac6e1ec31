import Concord.Assessment.Objectives
import Concord.Python.Ints

/-!
# The labels of objectives

`_ordinal_label` and the loop of `objectives_for` of `ccf/assessment/engine/objectives.py`. A label
is the one of the catalog, the ordinal of the row where that is taken, or the ordinal with `-dup`
and the number of the row where both are. The last kind ends in a digit, so that no ordinal is one
of them, and no two of them are the same; a label of the catalog may be.
-/

namespace Concord.Assessment

open Concord.Python

/-! ## The labels a row may get -/

/-- `row.sequence_control or canonical`. -/
def sequenceOf (canonical : Text) (row : Control) : Text :=
  (orElse row.sequenceControl none).getD canonical

/-- `identifier or row.ap_acronym`. -/
def catalogLabel (row : Control) : Option Text :=
  orElse (if isDeduplicatedIdentifier row.identifier then none else some row.identifier)
    (orElse row.apAcronym none)

def dupLabel (label : Text) (index : Nat) : Text :=
  label ++ ['-', 'd', 'u', 'p'] ++ natText index

def statementOf (row : Control) : Text := strip (row.assessmentObjective.getD [])

/-- A label that the row at `index` may get. -/
inductive MayGet (canonical : Text) (index : Nat) (row : Control) : Text → Prop
  | catalog {l : Text} (h : catalogLabel row = some l) : MayGet canonical index row l
  | ordinal {l : Text} (h : ordinalLabel (sequenceOf canonical row) index = .ok l) :
      MayGet canonical index row l
  | dup {l : Text} (h : ordinalLabel (sequenceOf canonical row) index = .ok l) :
      MayGet canonical index row (dupLabel l index)

/-- A label that a row before `index` may get. -/
def Earlier (canonical : Text) (rows : List Control) (index : Nat) (l : Text) : Prop :=
  ∃ j row, j < index ∧ rows[j]? = some row ∧ statementOf row ≠ [] ∧ MayGet canonical j row l

/-- Rows that get their labels: from the 703rd on there is no ordinal, so that the catalog has to
label the row, and no label of the catalog is the `-dup` of a later row. -/
structure Labelled (canonical : Text) (rows : List Control) : Prop where
  late : ∀ i row, rows[i]? = some row → statementOf row ≠ [] → 702 ≤ i →
    ∃ l, catalogLabel row = some l ∧ ¬ Earlier canonical rows i l
  noDup : ∀ i j row row' l, j < i → rows[i]? = some row → rows[j]? = some row' →
    ordinalLabel (sequenceOf canonical row) i = .ok l → catalogLabel row' ≠ some (dupLabel l i)

/-- The statements to be assessed, with the numbers of their rows. -/
def statements (index : Nat) (rows : List Control) : List (Nat × Text) :=
  ((rows.zipIdx index).map fun p => (p.2, statementOf p.1)).filter fun p => p.2 ≠ []

/-! ## Ordinals -/

theorem letter_isDigit {i : Nat} {c : Char} (h : letter i = some c) : c.isDigit = false := by
  unfold letter at h
  split at h
  · rename_i hi
    have hall : ∀ i : Fin 26, (Char.ofNat ('a'.toNat + i)).isDigit = false := by decide
    rw [← Option.some.inj h]
    exact hall ⟨i, hi⟩
  · cases h

theorem ordinalLabel_last {sequence l : Text} {index : Nat}
    (h : ordinalLabel sequence index = .ok l) : ∃ c, l.getLast? = some c ∧ c.isDigit = false := by
  unfold ordinalLabel at h
  dsimp only at h
  split at h
  · rename_i s hs
    cases h
    split at hs
    · obtain ⟨c, hc, rfl⟩ := Option.map_eq_some_iff.mp hs
      exact ⟨c, List.getLast?_concat .., letter_isDigit hc⟩
    · obtain ⟨a, -, hs⟩ := Option.bind_eq_some_iff.mp hs
      obtain ⟨b, hb, hs⟩ := Option.bind_eq_some_iff.mp hs
      cases hs
      exact ⟨b, by simp, letter_isDigit hb⟩
  · cases h

theorem ordinalLabel_isOk (sequence : Text) {index : Nat} (h : index < 702) :
    ∃ l, ordinalLabel sequence index = .ok l := by
  have hletter : ∀ {i : Nat}, i < 26 → ∃ c, letter i = some c := fun hi => ⟨_, if_pos hi⟩
  unfold ordinalLabel
  by_cases h26 : index < 26
  · obtain ⟨c, hc⟩ := hletter h26
    exact ⟨_, by rw [if_pos h26, hc]; rfl⟩
  · obtain ⟨a, ha⟩ := hletter (show index / 26 - 1 < 26 by omega)
    obtain ⟨b, hb⟩ := hletter (Nat.mod_lt index (by omega : 0 < 26))
    exact ⟨_, by rw [if_neg h26, ha, hb]; rfl⟩

theorem dupLabel_last (l : Text) (index : Nat) :
    ∃ c, (dupLabel l index).getLast? = some c ∧ c.isDigit = true := by
  have hne : natText index ≠ [] := Nat.toDigits_ne_nil
  refine ⟨(natText index).getLast hne, ?_, isDigit_of_mem_natText _ (List.getLast_mem hne)⟩
  unfold dupLabel
  rw [List.getLast?_append, List.getLast?_eq_some_getLast hne]
  rfl

theorem dupLabel_index {l l' : Text} {i j : Nat} (h : dupLabel l i = dupLabel l' j) : i = j := by
  have hnot : ∀ n, 'p' ∉ (natText n).reverse := by
    intro n hmem
    exact absurd (isDigit_of_mem_natText _ (List.mem_reverse.mp hmem)) (by decide)
  -- read from the back, the number ends at the first `p`
  have hrev := congrArg List.reverse h
  unfold dupLabel at hrev
  simp only [List.reverse_append] at hrev
  obtain ⟨heq, -⟩ := append_separator_inj (hnot i) (hnot j) hrev
  exact natText_injective (List.reverse_injective heq)

/-! ## One row -/

/-- The label that is made of the ordinal of a row. -/
def fallbackLabel (canonical : Text) (seen : List Text) (index : Nat) (row : Control) :
    Except ObjectiveError Text :=
  (ordinalLabel (sequenceOf canonical row) index).map fun o =>
    if o ∈ seen then dupLabel o index else o

theorem objectiveLabel_eq (canonical : Text) (seen : List Text) (index : Nat) (row : Control) :
    objectiveLabel canonical seen index row =
      match catalogLabel row with
      | some l => if l ∈ seen then fallbackLabel canonical seen index row else .ok l
      | none => fallbackLabel canonical seen index row := by
  have hfirst : firstLabel
      (if isDeduplicatedIdentifier row.identifier then none else some row.identifier)
      row.apAcronym (ordinalLabel (sequenceOf canonical row) index) =
        match catalogLabel row with
        | some l => .ok l
        | none => ordinalLabel (sequenceOf canonical row) index := rfl
  unfold objectiveLabel fallbackLabel
  change (do
    let label ← firstLabel _ row.apAcronym (ordinalLabel (sequenceOf canonical row) index)
    let label ← if label ∈ seen then ordinalLabel (sequenceOf canonical row) index else pure label
    pure (if label ∈ seen then dupLabel label index else label)) = _
  rw [hfirst]
  generalize ordinalLabel (sequenceOf canonical row) index = ordinal
  cases catalogLabel row with
  | none =>
    cases ordinal with
    | error e => rfl
    | ok o => exact ite_self (Except.ok (if o ∈ seen then dupLabel o index else o))
  | some l =>
    -- a label that is not taken is not changed by the second check either
    change (do
      let label ← if l ∈ seen then ordinal else pure l
      pure (if label ∈ seen then dupLabel label index else label)) = _
    dsimp only
    by_cases hl : l ∈ seen
    · rw [if_pos hl, if_pos hl]
      cases ordinal <;> rfl
    · rw [if_neg hl, if_neg hl]
      change Except.ok (if l ∈ seen then dupLabel l index else l) = _
      rw [if_neg hl]

section Loop

variable {canonical : Text} {rows : List Control}

theorem dupLabel_fresh (h : Labelled canonical rows) {index : Nat} {row : Control} {o : Text}
    (hrow : rows[index]? = some row)
    (ho : ordinalLabel (sequenceOf canonical row) index = .ok o) :
    ¬ Earlier canonical rows index (dupLabel o index) := by
  rintro ⟨j, row', hj, hrow', -, hget⟩
  generalize hl : dupLabel o index = l at hget
  cases hget with
  | catalog hlabel => exact h.noDup index j row row' o hj hrow hrow' ho (hl ▸ hlabel)
  | ordinal hordinal =>
    -- one ends in a letter, the other in a digit
    obtain ⟨c, hc, hletter⟩ := ordinalLabel_last hordinal
    obtain ⟨d, hd, hdigit⟩ := dupLabel_last o index
    rw [hl, hc, Option.some.injEq] at hd
    rw [hd, hdigit] at hletter
    cases hletter
  | dup hordinal => exact absurd (dupLabel_index hl) (Nat.ne_of_gt hj)

theorem fallbackLabel_fresh (h : Labelled canonical rows) {seen : List Text} {index : Nat}
    {row : Control} (hrow : rows[index]? = some row) (hindex : index < 702)
    (hseen : ∀ l ∈ seen, Earlier canonical rows index l) :
    ∃ l, fallbackLabel canonical seen index row = .ok l ∧ l ∉ seen ∧
      MayGet canonical index row l := by
  obtain ⟨o, ho⟩ := ordinalLabel_isOk (sequenceOf canonical row) hindex
  unfold fallbackLabel
  rw [ho]
  by_cases hmem : o ∈ seen
  · refine ⟨dupLabel o index, congrArg Except.ok (if_pos hmem), fun hdup => ?_, .dup ho⟩
    exact dupLabel_fresh h hrow ho (hseen _ hdup)
  · exact ⟨o, congrArg Except.ok (if_neg hmem), hmem, .ordinal ho⟩

/-- **A row gets a new label.** -/
theorem objectiveLabel_fresh (h : Labelled canonical rows) {seen : List Text} {index : Nat}
    {row : Control} (hrow : rows[index]? = some row) (hstatement : statementOf row ≠ [])
    (hseen : ∀ l ∈ seen, Earlier canonical rows index l) :
    ∃ l, objectiveLabel canonical seen index row = .ok l ∧ l ∉ seen ∧
      MayGet canonical index row l := by
  rw [objectiveLabel_eq]
  by_cases hindex : index < 702
  · have hfallback := fallbackLabel_fresh h hrow hindex hseen
    cases hlabel : catalogLabel row with
    | none => exact hfallback
    | some l =>
      dsimp only
      by_cases hl : l ∈ seen
      · rw [if_pos hl]
        exact hfallback
      · rw [if_neg hl]
        exact ⟨l, rfl, hl, .catalog hlabel⟩
  · obtain ⟨l, hlabel, hnew⟩ := h.late index row hrow hstatement (Nat.le_of_not_lt hindex)
    rw [hlabel]
    have hl : l ∉ seen := fun hmem => hnew (hseen l hmem)
    exact ⟨l, if_neg hl, hl, .catalog hlabel⟩

theorem statements_cons (index : Nat) (row : Control) (rest : List Control) :
    statements index (row :: rest) =
      if statementOf row = [] then statements (index + 1) rest
      else (index, statementOf row) :: statements (index + 1) rest := by
  unfold statements
  rw [List.zipIdx_cons, List.map_cons, List.filter_cons]
  by_cases hempty : statementOf row = [] <;> simp [hempty]

def objectiveOf (index : Nat) (row : Control) (label : Text) : Objective :=
  ⟨label, statementOf row, objectiveSha256 (statementOf row), index⟩

theorem objectivesFrom_skip {seen : List Text} {index : Nat} {row : Control} {rest : List Control}
    (hempty : statementOf row = []) :
    objectivesFrom canonical seen index (row :: rest) =
      objectivesFrom canonical seen (index + 1) rest :=
  if_pos hempty

theorem objectivesFrom_cons {seen : List Text} {index : Nat} {row : Control} {rest : List Control}
    {l : Text} {os : List Objective} (hstatement : statementOf row ≠ [])
    (hlabel : objectiveLabel canonical seen index row = .ok l)
    (hos : objectivesFrom canonical (seen ++ [l]) (index + 1) rest = .ok os) :
    objectivesFrom canonical seen index (row :: rest) = .ok (objectiveOf index row l :: os) := by
  refine (if_neg hstatement).trans ?_
  rw [hlabel]
  change (do
    let rest ← objectivesFrom canonical (seen ++ [l]) (index + 1) rest
    pure (objectiveOf index row l :: rest)) = _
  rw [hos]
  rfl

theorem Earlier.later {index : Nat} {l : Text} :
    Earlier canonical rows index l → Earlier canonical rows (index + 1) l
  | ⟨j, row, hj, hearlier⟩ => ⟨j, row, Nat.lt_succ_of_lt hj, hearlier⟩

/-- The loop, by induction on the rows that are left: what was seen are labels of earlier rows. -/
theorem objectivesFrom_labels (h : Labelled canonical rows) {seen : List Text} {index : Nat}
    {rest : List Control} (hrest : rows.drop index = rest)
    (hseen : ∀ l ∈ seen, Earlier canonical rows index l) :
    ∃ os, objectivesFrom canonical seen index rest = .ok os ∧ (os.map Objective.label).Nodup ∧
      (∀ o ∈ os, o.label ∉ seen) ∧
      os.map (fun o => (o.sortOrder, o.text)) = statements index rest ∧
      ∀ o ∈ os, o.textSha256 = objectiveSha256 o.text := by
  induction rest generalizing seen index with
  | nil => exact ⟨[], rfl, List.nodup_nil, nofun, rfl, nofun⟩
  | cons row rest ih =>
    have hrow : rows[index]? = some row := by
      rw [← List.head?_drop, hrest]
      rfl
    have htail : rows.drop (index + 1) = rest := by
      rw [← List.tail_drop, hrest]
      rfl
    rw [statements_cons]
    by_cases hempty : statementOf row = []
    · rw [objectivesFrom_skip hempty, if_pos hempty]
      exact ih htail fun l hl => (hseen l hl).later
    · obtain ⟨l, hlabel, hnew, hget⟩ := objectiveLabel_fresh h hrow hempty hseen
      have hseen' : ∀ l' ∈ seen ++ [l], Earlier canonical rows (index + 1) l' := by
        intro l' hl'
        rcases List.mem_append.mp hl' with hl' | hl'
        · exact (hseen l' hl').later
        · rw [List.mem_singleton.mp hl']
          exact ⟨index, row, Nat.lt_succ_self index, hrow, hempty, hget⟩
      obtain ⟨os, hos, hnodup, hfresh, hstatements, hsha⟩ := ih htail hseen'
      -- the labels behind this row's are new with respect to it, since it was seen before them
      rw [if_neg hempty]
      refine ⟨objectiveOf index row l :: os, objectivesFrom_cons hempty hlabel hos, ?_, ?_, ?_, ?_⟩
      · rw [List.map_cons, List.nodup_cons]
        refine ⟨fun hmem => ?_, hnodup⟩
        obtain ⟨o, ho, heq⟩ := List.mem_map.mp hmem
        exact hfresh o ho (heq ▸ List.mem_append_right seen (List.mem_singleton_self l))
      · intro o ho
        rcases List.mem_cons.mp ho with rfl | ho
        · exact hnew
        · exact fun hmem => hfresh o ho (List.mem_append_left [l] hmem)
      · rw [List.map_cons, hstatements]
        rfl
      · intro o ho
        rcases List.mem_cons.mp ho with rfl | ho
        · rfl
        · exact hsha o ho

end Loop

/-! ## The objectives of a control -/

/-- The rows of a control, in the order of the catalog. -/
def matchingRows (catalog : List Control) (controlIdentifier : Text) : List Control :=
  ((catalog.filter fun r => r.controlName.isNone && r.assessmentObjective.isSome).insertionSort
    fun a b => catalogLe a b = true).filter fun r =>
      normalizeControlIdentifier (r.sequenceControl.getD []) =
        normalizeControlIdentifier controlIdentifier

theorem objectivesFor_eq (limit : Int) (catalog : List Control) (controlIdentifier : Text) :
    objectivesFor limit catalog controlIdentifier =
      if limit < (matchingRows catalog controlIdentifier).length then
        .error (.aboveGuard (matchingRows catalog controlIdentifier).length)
      else objectivesFrom (normalizeControlIdentifier controlIdentifier) [] 0
        (matchingRows catalog controlIdentifier) :=
  rfl

/-- **The objectives of a control that the guard lets pass**: one for each statement, in the order
of the catalog, under labels that are pairwise distinct. -/
theorem objectives_labelled (limit : Int) (catalog : List Control) (controlIdentifier : Text) :
    (limit < (matchingRows catalog controlIdentifier).length →
      objectivesFor limit catalog controlIdentifier =
        .error (.aboveGuard (matchingRows catalog controlIdentifier).length)) ∧
    ((matchingRows catalog controlIdentifier).length ≤ limit →
      Labelled (normalizeControlIdentifier controlIdentifier)
        (matchingRows catalog controlIdentifier) →
      ∃ os, objectivesFor limit catalog controlIdentifier = .ok os ∧
        (os.map Objective.label).Nodup ∧
        os.map (fun o => (o.sortOrder, o.text)) =
          statements 0 (matchingRows catalog controlIdentifier) ∧
        ∀ o ∈ os, o.textSha256 = objectiveSha256 o.text) := by
  rw [objectivesFor_eq]
  refine ⟨fun hlimit => if_pos hlimit, fun hlimit hlabelled => ?_⟩
  rw [if_neg (not_lt.mpr hlimit)]
  have hnone : ∀ l ∈ ([] : List Text), Earlier (normalizeControlIdentifier controlIdentifier)
      (matchingRows catalog controlIdentifier) 0 l := fun l hl => absurd hl List.not_mem_nil
  obtain ⟨os, hos, hnodup, -, hstatements, hsha⟩ :=
    objectivesFrom_labels hlabelled List.drop_zero hnone
  exact ⟨os, hos, hnodup, hstatements, hsha⟩

/-- A sub-clause of `AC-02`. -/
def clause (id : Nat) (identifier : String) : Control where
  id := id
  sourceRow := some id
  identifier := identifier.toList
  sequenceControl := some "AC-02".toList
  controlName := none
  assessmentObjective := some "accounts are managed".toList
  apAcronym := none

-- the last label is taken, and so is its ordinal
example : (objectivesFor 150 [clause 1 "AC-02c", clause 2 "AC-02b", clause 3 "AC-02b"]
      "AC-2".toList).toOption.map (List.map Objective.label) =
    some ["AC-02c".toList, "AC-02b".toList, "AC-02c-dup2".toList] := by
  decide +kernel

/-- One row more than the guard lets pass. -/
theorem guard_raises :
    ¬∀ limit catalog controlIdentifier, ∃ os,
      objectivesFor limit catalog controlIdentifier = .ok os ∧ (os.map Objective.label).Nodup ∧
        os.map (fun o => (o.sortOrder, o.text)) =
          statements 0 (matchingRows catalog controlIdentifier) := by
  intro h
  obtain ⟨os, hos, -⟩ := h 1 [clause 1 "AC-02a", clause 2 "AC-02b"] "AC-2".toList
  have hguard : (objectivesFor 1 [clause 1 "AC-02a", clause 2 "AC-02b"] "AC-2".toList).isOk =
      false := by decide +kernel
  rw [hos] at hguard
  cases hguard

end Concord.Assessment
