import Concord.Oscal.Results
import Concord.Python.Ints
import Mathlib.Data.List.Nodup
import Mathlib.Data.List.Pairwise

/-!
# Every determination is reported once

The findings of the document are found through `assessment_results`, so a control that only
`assessment_control_results` knows is not in it, and one that the former has twice is in it twice.
Two targets are told apart by a number that is not looked up again.

`sar_reports_iff`: the document has every determination once, and every target once, exactly where
the two tables fit each other and no number runs into a statement id.
-/

namespace Concord.Oscal

open Concord.Python Concord.Assessment

/-! ## Targets of one control -/

/-- The target of a part with this statement id. -/
def givenTarget (seen : List Text) (s : Text) : Text :=
  if s ∈ seen then numbered s (seen.length + 1) else s

/-- The targets of a control's parts, out of their statement ids. -/
def givenTargets : List Text → List Text → List Text
  | _, [] => []
  | seen, s :: ids => givenTarget seen s :: givenTargets (seen.insert (givenTarget seen s)) ids

/-- The target is in use behind parts of these statement ids: one of them has it, or has it
from its number. -/
inductive InUse : List Text → Text → Prop
  | own {before : List Text} {s : Text} (h : s ∈ before) : InUse before s
  | numbered {before : List Text} {s : Text} (after : List Text) (again : InUse before s) :
    InUse (before ++ s :: after) (numbered s (before.length + 1))

/-- A part whose statement id is in use finds its number free: no part before it has that as its
statement id. -/
def Numberable (ids : List Text) : Prop :=
  ∀ before s after, ids = before ++ s :: after → InUse before s →
    numbered s (before.length + 1) ∉ before

theorem numbered_inj {s t : Text} {m n : Nat} (h : numbered s m = numbered t n) :
    s = t ∧ m = n := by
  have hdash : ∀ k, '-' ∉ (natText k).reverse := by
    intro k hk
    exact absurd (isDigit_of_mem_natText _ (List.mem_reverse.mp hk)) (by decide)
  have hrev := congrArg List.reverse h
  simp only [numbered, List.reverse_append, List.reverse_cons, List.append_assoc,
    List.singleton_append] at hrev
  obtain ⟨hn, hs⟩ := append_separator_inj (hdash m) (hdash n) hrev
  exact ⟨List.reverse_injective hs, natText_injective (List.reverse_injective hn)⟩

theorem inUse_concat {ids : List Text} {s x : Text} :
    InUse (ids ++ [s]) x ↔
      InUse ids x ∨ x = s ∨ (InUse ids s ∧ x = numbered s (ids.length + 1)) := by
  constructor
  · intro h
    generalize hall : ids ++ [s] = all at h
    cases h with
    | own h =>
      rw [← hall, List.mem_append, List.mem_singleton] at h
      exact h.imp .own .inl
    | @numbered before t after again =>
      rcases List.eq_nil_or_concat' after with rfl | ⟨rest, last, rfl⟩
      · obtain ⟨rfl, hst⟩ := List.append_inj' hall rfl
        cases hst
        exact .inr (.inr ⟨again, rfl⟩)
      · rw [← List.cons_append, ← List.append_assoc] at hall
        obtain ⟨rfl, -⟩ := List.append_inj' hall rfl
        exact .inl (.numbered rest again)
  · rintro (h | rfl | ⟨h, rfl⟩)
    · cases h with
      | own h => exact .own (List.mem_append_left _ h)
      | @numbered before t after again =>
        rw [List.append_assoc, List.cons_append]
        exact .numbered _ again
    · exact .own (List.mem_append_right _ List.mem_cons_self)
    · exact .numbered [] h

theorem numberable_concat {ids : List Text} {s : Text} :
    Numberable (ids ++ [s]) ↔
      Numberable ids ∧ (InUse ids s → numbered s (ids.length + 1) ∉ ids) := by
  constructor
  · intro h
    refine ⟨fun before t after hids => ?_, h ids s [] rfl⟩
    exact h before t (after ++ [s]) (by rw [hids, List.append_assoc, List.cons_append])
  · rintro ⟨hids, hlast⟩ before t after hall
    rcases List.eq_nil_or_concat' after with rfl | ⟨rest, last, rfl⟩
    · obtain ⟨rfl, hst⟩ := List.append_inj' hall rfl
      cases hst
      exact hlast
    · rw [← List.cons_append, ← List.append_assoc] at hall
      obtain ⟨rfl, -⟩ := List.append_inj' hall rfl
      exact hids before t rest rfl

theorem inUse_next {ids : List Text} {s : Text} :
    InUse ids (numbered s (ids.length + 1)) ↔ numbered s (ids.length + 1) ∈ ids := by
  refine ⟨fun h => ?_, .own⟩
  generalize hn : numbered s (ids.length + 1) = x at h
  cases h with
  | own h => exact h
  | @numbered before t after again =>
    obtain ⟨-, hlen⟩ := numbered_inj hn
    rw [List.length_append, List.length_cons] at hlen
    omega

theorem givenTargets_append {ids : List Text} {seen : List Text} (s : Text)
    (h : (givenTargets seen ids).Nodup) (hseen : ∀ t ∈ givenTargets seen ids, t ∉ seen) :
    givenTargets seen (ids ++ [s]) =
      givenTargets seen ids ++ [givenTarget ((givenTargets seen ids).reverse ++ seen) s] := by
  induction ids generalizing seen with
  | nil => rfl
  | cons t ids ih =>
    simp only [givenTargets] at h hseen
    simp only [List.cons_append, givenTargets]
    generalize givenTarget seen t = target at h hseen ⊢
    have hfresh : target ∉ seen := hseen target List.mem_cons_self
    rw [List.insert_of_not_mem hfresh] at h hseen ⊢
    obtain ⟨hnot, hrest⟩ := List.nodup_cons.mp h
    have happ := ih hrest fun u hu => by
      rw [List.mem_cons, not_or]
      exact ⟨fun hut => hnot (hut ▸ hu), hseen u (List.mem_cons_of_mem target hu)⟩
    rw [happ, List.reverse_cons, List.append_assoc, List.singleton_append]

theorem givenTargets_isPrefix (ids more : List Text) (seen : List Text) :
    givenTargets seen ids <+: givenTargets seen (ids ++ more) := by
  induction ids generalizing seen with
  | nil => exact List.nil_prefix
  | cons t ids ih => exact List.prefix_cons_inj _ |>.mpr (ih _)

theorem givenTargets_length (ids seen : List Text) :
    (givenTargets seen ids).length = ids.length := by
  induction ids generalizing seen with
  | nil => rfl
  | cons t ids ih => exact congrArg (· + 1) (ih _)

theorem givenTargets_concat {ids : List Text} (s : Text) (h : (givenTargets [] ids).Nodup) :
    givenTargets [] (ids ++ [s]) = givenTargets [] ids ++
      [if s ∈ givenTargets [] ids then numbered s (ids.length + 1) else s] := by
  rw [givenTargets_append s h fun _ _ => List.not_mem_nil, List.append_nil]
  simp only [givenTarget, List.mem_reverse, List.length_reverse, givenTargets_length]

theorem not_inUse_nil {x : Text} : ¬InUse [] x := by
  intro h
  generalize hnil : ([] : List Text) = ids at h
  cases h with
  | own h => exact absurd (hnil ▸ h) List.not_mem_nil
  | numbered after again => simp at hnil

theorem numberable_nil : Numberable [] := by
  intro before s after h
  simp at h

/-- **The targets of one control** differ where every number is free, and are then what is in
use. -/
theorem givenTargets_nodup_iff (ids : List Text) :
    ((givenTargets [] ids).Nodup ↔ Numberable ids) ∧
      (Numberable ids → ∀ x, x ∈ givenTargets [] ids ↔ InUse ids x) := by
  induction ids using List.reverseRecOn with
  | nil =>
    exact ⟨iff_of_true List.nodup_nil numberable_nil,
      fun _ x => iff_of_false List.not_mem_nil not_inUse_nil⟩
  | append_singleton ids s ih =>
    obtain ⟨hnodup, hmem⟩ := ih
    by_cases hids : Numberable ids
    · have hin := hmem hids
      have hfresh : ∀ target, (givenTargets [] ids ++ [target]).Nodup ↔ ¬InUse ids target := by
        intro target
        rw [List.nodup_append_comm, List.singleton_append, List.nodup_cons, hin]
        exact and_iff_left (hnodup.mpr hids)
      rw [givenTargets_concat s (hnodup.mpr hids), numberable_concat, and_iff_right hids]
      by_cases hs : InUse ids s
      · -- the number is given
        rw [if_pos ((hin s).mpr hs), hfresh, inUse_next]
        refine ⟨⟨fun h _ => h, fun h => h hs⟩, fun _ x => ?_⟩
        rw [List.mem_append, List.mem_singleton, hin, inUse_concat]
        constructor
        · exact fun h => h.imp_right fun hx => .inr ⟨hs, hx⟩
        · rintro (h | rfl | ⟨-, h⟩)
          · exact .inl h
          · exact .inl hs
          · exact .inr h
      · rw [if_neg (mt (hin s).mp hs), hfresh]
        refine ⟨iff_of_true hs fun h => absurd h hs, fun _ x => ?_⟩
        rw [List.mem_append, List.mem_singleton, hin, inUse_concat]
        exact or_congr_right (or_iff_left fun h => hs h.1).symm
    · have hnot : ¬Numberable (ids ++ [s]) := fun h => hids (numberable_concat.mp h).1
      refine ⟨iff_of_false (fun h => hids (hnodup.mp ?_)) hnot, fun h => absurd h hnot⟩
      exact h.sublist (givenTargets_isPrefix ids [s] []).sublist

/-! ## What the document should report -/

def partStatementIds (oscalCid : Text) : List Objective → List Text
  | [] => [oscalCid ++ "_smt".toList]
  | parts => parts.map fun objective => statementId oscalCid (objective.part.label.getD [])

section Report

variable (lower : Text → Text)

def AssessmentControlResult.determined (row : AssessmentControlResult) : Prop :=
  normalizeFinding lower (some row.finding) ≠ .notAssessed

/-- The determinations there are, each with what reports it. A control with findings of its
objectives has them instead of its own. -/
inductive Stored (a : Assessed) : Origin → Option Text → Prop
  | objective {row : AssessmentControlResult} {objective : Objective}
    (hrow : row ∈ a.controlResults) (hobjective : objective ∈ row.objectives) :
    Stored a (.objective objective.row objective.index) objective.part.finding
  | result {r : AssessmentResult} (hr : r ∈ a.results)
    (hcontrol : objectiveFindings lower a.controlResults (a.oscalCid lower r) = []) :
    Stored a (.control (a.oscalCid lower r)) (some r.finding.text)
  | controlResult {row : AssessmentControlResult} (hrow : row ∈ a.controlResults)
    (hdetermined : row.determined lower)
    (hcontrol : objectiveFindings lower a.controlResults
      (oscalControlId lower (some row.controlId)) = []) :
    Stored a (.control (oscalControlId lower (some row.controlId))) (some row.finding)

/-- **The property.** -/
structure ReportedOnce (a : Assessed) : Prop where
  /-- what there is a determination of has one finding -/
  once : ∀ origin finding, Stored lower a origin finding →
    (buildSarDoc lower a).countP (·.origin = origin) = 1
  /-- and nothing else has one -/
  stored : ∀ f ∈ buildSarDoc lower a, ∃ finding, Stored lower a f.origin finding
  targets : ((buildSarDoc lower a).map (·.finding.targetId)).Nodup
  states : ∀ f ∈ buildSarDoc lower a, ∀ finding, Stored lower a f.origin finding →
    (f.finding.state = .satisfied ↔ normalizeFinding lower finding = .satisfied)

/-- The statement ids of a control's parts; a control without parts is one statement. -/
def Assessed.statementIds (a : Assessed) (oscalCid : Text) : List Text :=
  partStatementIds oscalCid (objectiveFindings lower a.controlResults oscalCid)

/-- The two tables fit each other, and the ids. -/
structure Reportable (a : Assessed) : Prop where
  /-- a control is assessed once -/
  results : (a.results.map (a.oscalCid lower)).Nodup
  /-- what is determined of a control is of one that is assessed -/
  covered : ∀ row ∈ a.controlResults, row.parts ≠ [] ∨ row.determined lower →
    oscalControlId lower (some row.controlId) ∈ a.results.map (a.oscalCid lower)
  /-- two determinations of one control say the same -/
  agree : ∀ row ∈ a.controlResults, row.determined lower →
    objectiveFindings lower a.controlResults (oscalControlId lower (some row.controlId)) = [] →
    ∀ r ∈ a.results, a.oscalCid lower r = oscalControlId lower (some row.controlId) →
      (normalizeFinding lower (some row.finding) = .satisfied ↔
        normalizeFinding lower (some r.finding.text) = .satisfied)
  /-- the numbers of a control's parts are free -/
  numbers : ∀ r ∈ a.results, Numberable (a.statementIds lower (a.oscalCid lower r))
  /-- a control whose id goes on from another's does not run into its statements -/
  apart : ∀ r ∈ a.results, ∀ r' ∈ a.results, ∀ more,
    a.oscalCid lower r' = a.oscalCid lower r ++ "_smt".toList ++ more →
    ∀ target, InUse (a.statementIds lower (a.oscalCid lower r)) target →
      ¬InUse (a.statementIds lower (a.oscalCid lower r')) target

end Report

/-! ## The findings of one row -/

section Rows

variable {lower : Text → Text} {a : Assessed}

def Objective.origin (objective : Objective) : Origin := .objective objective.row objective.index

theorem partFindings_origin (oscalCid controlTitle : Text) (related : List Nat)
    (seen : List Text) (objectives : List Objective) :
    (partFindings lower oscalCid controlTitle related seen objectives).map Reported.origin =
      objectives.map Objective.origin := by
  induction objectives generalizing seen with
  | nil => rfl
  | cons o objectives ih => exact congrArg (Objective.origin o :: ·) (ih _)

theorem partFindings_target (oscalCid controlTitle : Text) (related : List Nat)
    (seen : List Text) (objectives : List Objective) :
    (partFindings lower oscalCid controlTitle related seen objectives).map (·.finding.targetId) =
      givenTargets seen
        (objectives.map fun o => statementId oscalCid (o.part.label.getD [])) := by
  induction objectives generalizing seen with
  | nil => rfl
  | cons o objectives ih => exact congrArg (_ :: ·) (ih _)

theorem mem_partFindings {oscalCid controlTitle : Text} {related : List Nat} {seen : List Text}
    {objectives : List Objective} {f : Reported}
    (h : f ∈ partFindings lower oscalCid controlTitle related seen objectives) :
    ∃ o ∈ objectives, f.origin = o.origin ∧
      f.finding.state = (findingStatusProps lower o.part.finding).1 := by
  induction objectives generalizing seen with
  | nil => exact absurd h List.not_mem_nil
  | cons o objectives ih =>
    rcases List.mem_cons.mp h with rfl | h
    · exact ⟨o, List.mem_cons_self, rfl, rfl⟩
    · obtain ⟨o', ho', hf⟩ := ih h
      exact ⟨o', List.mem_cons_of_mem o ho', hf⟩

variable (lower) in
theorem resultFindings_cases (a : Assessed) (r : AssessmentResult) :
    (objectiveFindings lower a.controlResults (a.oscalCid lower r) = [] ∧
      ∃ title related, a.resultFindings lower r =
        [controlFinding lower (a.oscalCid lower r) title related r]) ∨
    (objectiveFindings lower a.controlResults (a.oscalCid lower r) ≠ [] ∧
      ∃ title related, a.resultFindings lower r =
        partFindings lower (a.oscalCid lower r) title related []
          (objectiveFindings lower a.controlResults (a.oscalCid lower r))) := by
  unfold Assessed.resultFindings
  dsimp only
  generalize ((a.control r.implementationId).bind CatalogControl.controlName).getD [] = title
  generalize (a.evidence.filter fun e => e.2 = some r.implementationId).map Prod.fst = related
  cases hparts : objectiveFindings lower a.controlResults (a.oscalCid lower r) with
  | nil => exact .inl ⟨rfl, title, related, rfl⟩
  | cons o objectives => exact .inr ⟨List.cons_ne_nil _ _, title, related, rfl⟩

theorem resultFindings_target (a : Assessed) (r : AssessmentResult) :
    (a.resultFindings lower r).map (·.finding.targetId) =
      givenTargets [] (a.statementIds lower (a.oscalCid lower r)) := by
  unfold Assessed.statementIds
  rcases resultFindings_cases lower a r with
    ⟨hparts, title, related, hr⟩ | ⟨hparts, title, related, hr⟩
  · rw [hr, hparts]
    rfl
  · rw [hr, partFindings_target]
    cases h : objectiveFindings lower a.controlResults (a.oscalCid lower r) with
    | nil => exact absurd h hparts
    | cons o objectives => rfl

/-! ## One finding for each -/

theorem mem_objectives {row : AssessmentControlResult} {o : Objective}
    (h : o ∈ row.objectives) : o.row = row.id ∧ row.parts[o.index]? = some o.part := by
  obtain ⟨p, hp, rfl⟩ := List.mem_map.mp h
  exact ⟨rfl, (List.mem_zipIdx_iff_getElem?.mp hp)⟩

theorem row_unique {row row' : AssessmentControlResult} {o o' : Objective}
    (hrow : row ∈ a.controlResults) (hrow' : row' ∈ a.controlResults) (ho : o ∈ row.objectives)
    (ho' : o' ∈ row'.objectives) (h : o.origin = o'.origin) : row = row' ∧ o = o' := by
  obtain ⟨hid, hpart⟩ := mem_objectives ho
  obtain ⟨hid', hpart'⟩ := mem_objectives ho'
  obtain ⟨hr, hi⟩ := Origin.objective.inj h
  have hsame : row = row' :=
    List.inj_on_of_nodup_map a.ids hrow hrow' (by rw [← hid, ← hid', hr])
  subst hsame
  rw [hi, hpart', Option.some_inj] at hpart
  obtain ⟨_, _, part⟩ := o
  obtain ⟨_, _, part'⟩ := o'
  exact ⟨rfl, Objective.mk.injEq .. |>.mpr ⟨hr, hi, hpart.symm⟩⟩

theorem objectiveFindings_origin_nodup (a : Assessed) (oscalCid : Text) :
    ((objectiveFindings lower a.controlResults oscalCid).map Objective.origin).Nodup := by
  rw [objectiveFindings, List.map_flatMap, List.nodup_flatMap]
  constructor
  · intro row _
    have horigin : row.objectives.map Objective.origin =
        (row.parts.zipIdx.map Prod.snd).map (Origin.objective row.id) := by
      rw [AssessmentControlResult.objectives, List.map_map, List.map_map]
      rfl
    rw [horigin, List.zipIdx_map_snd]
    exact List.Nodup.map (fun i j h => (Origin.objective.inj h).2) (List.nodup_range' 1)
  · have hids : a.controlResults.Pairwise fun row row' => row.id ≠ row'.id :=
      List.pairwise_map.mp a.ids
    refine (hids.filter _).imp fun {row row'} hne => ?_
    intro origin h h'
    obtain ⟨o, ho, rfl⟩ := List.mem_map.mp h
    obtain ⟨o', ho', horigin⟩ := List.mem_map.mp h'
    refine hne ?_
    rw [← (mem_objectives ho).1, ← (mem_objectives ho').1]
    exact (Origin.objective.inj horigin).1.symm

theorem countP_flatMap_once {α β : Type} {l : List α} {f : α → List β} {p : β → Bool}
    {q : α → Bool} (h : ∀ x ∈ l, (f x).countP p = if q x then 1 else 0) :
    (l.flatMap f).countP p = l.countP q := by
  induction l with
  | nil => rfl
  | cons x l ih =>
    rw [List.flatMap_cons, List.countP_append, h x List.mem_cons_self, List.countP_cons,
      ih fun y hy => h y (List.mem_cons_of_mem x hy), Nat.add_comm]

theorem countP_objective {row : AssessmentControlResult} {o : Objective}
    (hrow : row ∈ a.controlResults) (ho : o ∈ row.objectives) :
    (buildSarDoc lower a).countP (·.origin = o.origin) =
      (a.results.map (a.oscalCid lower)).count (oscalControlId lower (some row.controlId)) := by
  rw [buildSarDoc, List.count_eq_countP, List.countP_map]
  refine countP_flatMap_once fun r _ => ?_
  -- an objective is known by its row and its place there
  have hmem : o.origin ∈
        (objectiveFindings lower a.controlResults (a.oscalCid lower r)).map Objective.origin ↔
      a.oscalCid lower r = oscalControlId lower (some row.controlId) := by
    constructor
    · intro h
      obtain ⟨o', ho', horigin⟩ := List.mem_map.mp h
      obtain ⟨row', hrow', ho'⟩ := List.mem_flatMap.mp ho'
      obtain ⟨hrow', hcid⟩ := List.mem_filter.mp hrow'
      obtain ⟨rfl, -⟩ := row_unique hrow hrow' ho ho' horigin.symm
      exact (of_decide_eq_true hcid).symm
    · intro h
      refine List.mem_map_of_mem (List.mem_flatMap.mpr ⟨row, List.mem_filter.mpr ⟨hrow, ?_⟩, ho⟩)
      exact decide_eq_true h.symm
  have hcount : (a.resultFindings lower r).countP (·.origin = o.origin) =
      ((objectiveFindings lower a.controlResults (a.oscalCid lower r)).map Objective.origin).count
        o.origin := by
    rcases resultFindings_cases lower a r with
      ⟨hparts, title, related, hr⟩ | ⟨-, title, related, hr⟩
    · rw [hr, hparts]
      rfl
    · rw [hr, ← partFindings_origin, List.count_eq_countP, List.countP_map]
      rfl
  rw [hcount, (objectiveFindings_origin_nodup a _).count, if_congr hmem rfl rfl]
  simp

theorem countP_control {oscalCid : Text}
    (h : objectiveFindings lower a.controlResults oscalCid = []) :
    (buildSarDoc lower a).countP (·.origin = .control oscalCid) =
      (a.results.map (a.oscalCid lower)).count oscalCid := by
  rw [buildSarDoc, List.count_eq_countP, List.countP_map]
  refine countP_flatMap_once fun r _ => ?_
  rcases resultFindings_cases lower a r with
    ⟨-, title, related, hr⟩ | ⟨hparts, title, related, hr⟩
  · rw [hr, List.countP_singleton]
    simp [controlFinding]
  · have hne : a.oscalCid lower r ≠ oscalCid := fun heq => hparts (heq ▸ h)
    rw [hr, if_neg (by simpa using hne), List.countP_eq_zero]
    intro f hf horigin
    obtain ⟨o, -, ho, -⟩ := mem_partFindings hf
    rw [ho] at horigin
    simp [Objective.origin] at horigin

/-! ## Targets of two controls -/

theorem statementId_prefix (oscalCid label : Text) :
    ∃ x, statementId oscalCid label = oscalCid ++ ("_smt".toList ++ x) := by
  unfold statementId
  split
  · exact ⟨[], by rw [List.append_nil]⟩
  · exact ⟨'.' :: oscalToken (stripDedupSuffix label), by rw [List.append_assoc]; rfl⟩

theorem inUse_prefix {oscalCid target : Text}
    (h : InUse (a.statementIds lower oscalCid) target) :
    ∃ x, target = oscalCid ++ ("_smt".toList ++ x) := by
  have hids : ∀ s ∈ a.statementIds lower oscalCid, ∃ x, s = oscalCid ++ ("_smt".toList ++ x) := by
    intro s hs
    unfold Assessed.statementIds partStatementIds at hs
    split at hs
    · rw [List.mem_singleton.mp hs]
      exact ⟨[], by rw [List.append_nil]⟩
    · obtain ⟨o, -, rfl⟩ := List.mem_map.mp hs
      exact statementId_prefix ..
  generalize a.statementIds lower oscalCid = ids at h hids
  cases h with
  | own h => exact hids target h
  | @numbered before s after again =>
    obtain ⟨x, rfl⟩ := hids s (List.mem_append_right _ List.mem_cons_self)
    exact ⟨x ++ '-' :: natText (before.length + 1), by
      simp only [numbered, List.append_assoc]⟩

theorem mark_of_overlap {w x x' : Text} (hne : w ≠ [])
    (h : "_smt".toList ++ x = w ++ ("_smt".toList ++ x')) : ∃ more, w = "_smt".toList ++ more := by
  match w, hne, h with
  | [_], _, h => simp at h
  | [_, _], _, h => simp at h
  | [_, _, _], _, h => simp at h
  | b :: c :: d :: e :: w, _, h =>
    simp only [String.reduceToList, List.cons_append, List.nil_append, List.cons.injEq] at h ⊢
    obtain ⟨rfl, rfl, rfl, rfl, -⟩ := h
    exact ⟨w, rfl, rfl, rfl, rfl, rfl⟩

theorem cid_goes_on {c c' x x' : Text} (hne : c ≠ c')
    (h : c ++ ("_smt".toList ++ x) = c' ++ ("_smt".toList ++ x')) :
    (∃ more, c' = c ++ "_smt".toList ++ more) ∨ ∃ more, c = c' ++ "_smt".toList ++ more := by
  rcases List.append_eq_append_iff.mp h with ⟨w, rfl, hw⟩ | ⟨w, rfl, hw⟩
  · obtain ⟨more, rfl⟩ := mark_of_overlap (fun hnil => hne (by rw [hnil, List.append_nil])) hw
    exact .inl ⟨more, (List.append_assoc ..).symm⟩
  · obtain ⟨more, rfl⟩ := mark_of_overlap (fun hnil => hne (by rw [hnil, List.append_nil])) hw
    exact .inr ⟨more, (List.append_assoc ..).symm⟩

/-- The targets of the document differ where those of a control do, and no two controls meet. -/
theorem targets_nodup_iff (hresults : (a.results.map (a.oscalCid lower)).Nodup) :
    ((buildSarDoc lower a).map (·.finding.targetId)).Nodup ↔
      (∀ r ∈ a.results, Numberable (a.statementIds lower (a.oscalCid lower r))) ∧
      ∀ r ∈ a.results, ∀ r' ∈ a.results, ∀ more,
        a.oscalCid lower r' = a.oscalCid lower r ++ "_smt".toList ++ more →
        ∀ target, InUse (a.statementIds lower (a.oscalCid lower r)) target →
          ¬InUse (a.statementIds lower (a.oscalCid lower r')) target := by
  rw [buildSarDoc, List.map_flatMap, List.nodup_flatMap]
  simp only [resultFindings_target]
  have hall : (∀ r ∈ a.results,
        (givenTargets [] (a.statementIds lower (a.oscalCid lower r))).Nodup) ↔
      ∀ r ∈ a.results, Numberable (a.statementIds lower (a.oscalCid lower r)) :=
    forall₂_congr fun r _ => (givenTargets_nodup_iff _).1
  rw [hall]
  refine and_congr_right fun hnumbers => ?_
  have hmem : ∀ r ∈ a.results, ∀ target,
      target ∈ givenTargets [] (a.statementIds lower (a.oscalCid lower r)) ↔
        InUse (a.statementIds lower (a.oscalCid lower r)) target :=
    fun r hr => (givenTargets_nodup_iff _).2 (hnumbers r hr)
  constructor
  · intro hpair r hr r' hr' more hmore target hin hin'
    have hne : r ≠ r' := by
      rintro rfl
      have hlen := congrArg List.length hmore
      simp at hlen
    have : Std.Symm (Function.onFun List.Disjoint fun r =>
        givenTargets [] (a.statementIds lower (a.oscalCid lower r))) :=
      ⟨fun _ _ h => List.disjoint_symm h⟩
    have hdisjoint := hpair.forall hr hr' hne
    exact hdisjoint ((hmem r hr target).mpr hin) ((hmem r' hr' target).mpr hin')
  · intro hapart
    have hdistinct : a.results.Pairwise fun r r' => a.oscalCid lower r ≠ a.oscalCid lower r' :=
      List.pairwise_map.mp hresults
    refine hdistinct.imp_of_mem fun {r r'} hr hr' hne target ht ht' => ?_
    have hin := (hmem r hr target).mp ht
    have hin' := (hmem r' hr' target).mp ht'
    -- a target of both begins with either id, so one of the ids goes on from the other
    obtain ⟨x, hx⟩ := inUse_prefix hin
    obtain ⟨x', hx'⟩ := inUse_prefix hin'
    rcases cid_goes_on hne (hx.symm.trans hx') with ⟨more, hmore⟩ | ⟨more, hmore⟩
    · exact hapart r hr r' hr' more hmore target hin hin'
    · exact hapart r' hr' r hr more hmore target hin' hin

/-! ## The document -/

theorem mem_buildSarDoc {f : Reported} (h : f ∈ buildSarDoc lower a) :
    (∃ row ∈ a.controlResults, ∃ o ∈ row.objectives, f.origin = o.origin ∧
      f.finding.state = (findingStatusProps lower o.part.finding).1) ∨
    ∃ r ∈ a.results, objectiveFindings lower a.controlResults (a.oscalCid lower r) = [] ∧
      f.origin = .control (a.oscalCid lower r) ∧
      f.finding.state = (findingStatusProps lower (some r.finding.text)).1 := by
  obtain ⟨r, hr, hf⟩ := List.mem_flatMap.mp h
  rcases resultFindings_cases lower a r with
    ⟨hparts, title, related, heq⟩ | ⟨-, title, related, heq⟩
  · rw [heq, List.mem_singleton] at hf
    subst hf
    exact .inr ⟨r, hr, hparts, rfl, rfl⟩
  · rw [heq] at hf
    obtain ⟨o, ho, hf⟩ := mem_partFindings hf
    obtain ⟨row, hrow, ho⟩ := List.mem_flatMap.mp ho
    exact .inl ⟨row, (List.mem_filter.mp hrow).1, o, ho, hf⟩

theorem mem_of_result {r : AssessmentResult} (hr : r ∈ a.results)
    (h : objectiveFindings lower a.controlResults (a.oscalCid lower r) = []) :
    ∃ f ∈ buildSarDoc lower a, f.origin = .control (a.oscalCid lower r) ∧
      f.finding.state = (findingStatusProps lower (some r.finding.text)).1 := by
  rcases resultFindings_cases lower a r with
    ⟨-, title, related, heq⟩ | ⟨hparts, -⟩
  · refine ⟨controlFinding lower (a.oscalCid lower r) title related r, ?_, rfl, rfl⟩
    exact List.mem_flatMap.mpr ⟨r, hr, heq ▸ List.mem_singleton_self _⟩
  · exact absurd h hparts

theorem objectives_ne_nil {row : AssessmentControlResult} (h : row.parts ≠ []) :
    ∃ o, o ∈ row.objectives := by
  refine List.exists_mem_of_ne_nil _ fun hnil => h ?_
  have hlen := congrArg List.length hnil
  rw [AssessmentControlResult.objectives, List.length_map, List.length_zipIdx] at hlen
  exact List.length_eq_zero_iff.mp hlen

theorem parts_ne_nil {row : AssessmentControlResult} {o : Objective} (ho : o ∈ row.objectives) :
    row.parts ≠ [] := by
  intro hnil
  rw [AssessmentControlResult.objectives, hnil] at ho
  exact absurd ho List.not_mem_nil

/-- Every determination has one finding where every control is assessed once, and none is
determined that is not assessed. -/
theorem once_iff (a : Assessed) :
    (∀ origin finding, Stored lower a origin finding →
      (buildSarDoc lower a).countP (·.origin = origin) = 1) ↔
    (a.results.map (a.oscalCid lower)).Nodup ∧
      ∀ row ∈ a.controlResults, row.parts ≠ [] ∨ row.determined lower →
        oscalControlId lower (some row.controlId) ∈ a.results.map (a.oscalCid lower) := by
  have hcover : ∀ row ∈ a.controlResults,
      oscalControlId lower (some row.controlId) ∈ a.results.map (a.oscalCid lower) ↔
        0 < (a.results.map (a.oscalCid lower)).count (oscalControlId lower (some row.controlId)) :=
    fun row _ => List.count_pos_iff.symm
  constructor
  · intro h
    -- an id has one row where it has objectives, and where it has none
    have hparts : ∀ row ∈ a.controlResults, row.parts ≠ [] →
        (a.results.map (a.oscalCid lower)).count (oscalControlId lower (some row.controlId)) =
          1 := by
      intro row hrow hne
      obtain ⟨o, ho⟩ := objectives_ne_nil hne
      rw [← countP_objective hrow ho]
      exact h _ _ (.objective hrow ho)
    have hany : ∀ c, objectiveFindings lower a.controlResults c ≠ [] →
        (a.results.map (a.oscalCid lower)).count c = 1 := by
      intro c hc
      obtain ⟨o, ho⟩ := List.exists_mem_of_ne_nil _ hc
      obtain ⟨row, hrow, ho⟩ := List.mem_flatMap.mp ho
      obtain ⟨hrow, hcid⟩ := List.mem_filter.mp hrow
      rw [← of_decide_eq_true hcid]
      exact hparts row hrow (parts_ne_nil ho)
    constructor
    · refine List.nodup_iff_count_le_one.mpr fun c => ?_
      by_cases hmem : c ∈ a.results.map (a.oscalCid lower)
      · obtain ⟨r, hr, rfl⟩ := List.mem_map.mp hmem
        by_cases hc : objectiveFindings lower a.controlResults (a.oscalCid lower r) = []
        · rw [← countP_control hc]
          exact (h _ _ (.result hr hc)).le
        · exact (hany _ hc).le
      · rw [List.count_eq_zero_of_not_mem hmem]
        exact Nat.zero_le 1
    · intro row hrow hsays
      rw [hcover row hrow]
      by_cases hc : objectiveFindings lower a.controlResults
          (oscalControlId lower (some row.controlId)) = []
      · rcases hsays with hne | hdetermined
        · rw [hparts row hrow hne]
          exact Nat.one_pos
        · rw [← countP_control hc, h _ _ (.controlResult hrow hdetermined hc)]
          exact Nat.one_pos
      · rw [hany _ hc]
        exact Nat.one_pos
  · rintro ⟨hnodup, hcovered⟩ origin finding hstored
    cases hstored with
    | objective hrow ho =>
      exact (countP_objective hrow ho).trans
        (List.count_eq_one_of_mem hnodup (hcovered _ hrow (.inl (parts_ne_nil ho))))
    | result hr hc =>
      exact (countP_control hc).trans
        (List.count_eq_one_of_mem hnodup (List.mem_map_of_mem hr))
    | controlResult hrow hdetermined hc =>
      exact (countP_control hc).trans
        (List.count_eq_one_of_mem hnodup (hcovered _ hrow (.inr hdetermined)))

theorem states_iff (hresults : (a.results.map (a.oscalCid lower)).Nodup) :
    (∀ f ∈ buildSarDoc lower a, ∀ finding, Stored lower a f.origin finding →
      (f.finding.state = .satisfied ↔ normalizeFinding lower finding = .satisfied)) ↔
    ∀ row ∈ a.controlResults, row.determined lower →
      objectiveFindings lower a.controlResults (oscalControlId lower (some row.controlId)) = [] →
      ∀ r ∈ a.results, a.oscalCid lower r = oscalControlId lower (some row.controlId) →
        (normalizeFinding lower (some row.finding) = .satisfied ↔
          normalizeFinding lower (some r.finding.text) = .satisfied) := by
  constructor
  · intro h row hrow hdetermined hc r hr hcid
    obtain ⟨f, hf, horigin, hstate⟩ := mem_of_result hr (hcid ▸ hc)
    have hown : Stored lower a f.origin (some row.finding) := by
      rw [horigin, hcid]
      exact .controlResult hrow hdetermined hc
    rw [← h f hf _ hown, hstate, findingStatusProps_satisfied]
  · intro h f hf finding hstored
    generalize horigin : f.origin = origin at hstored
    rcases mem_buildSarDoc hf with
      ⟨row, hrow, o, ho, hfo, hstate⟩ | ⟨r, hr, -, hfo, hstate⟩
    · rw [hstate, findingStatusProps_satisfied]
      cases hstored with
      | objective hrow' ho' =>
        obtain ⟨-, rfl⟩ := row_unique hrow hrow' ho ho' (hfo.symm.trans horigin)
        exact Iff.rfl
      | result => exact absurd (hfo.symm.trans horigin) (by simp [Objective.origin])
      | controlResult => exact absurd (hfo.symm.trans horigin) (by simp [Objective.origin])
    · rw [hstate, findingStatusProps_satisfied]
      cases hstored with
      | objective => exact absurd (hfo.symm.trans horigin) (by simp)
      | result hr' =>
        have hcid := Origin.control.inj (hfo.symm.trans horigin)
        rw [List.inj_on_of_nodup_map hresults hr hr' hcid]
      | controlResult hrow hdetermined hc =>
        have hcid := Origin.control.inj (hfo.symm.trans horigin)
        exact (h _ hrow hdetermined hc r hr hcid).symm

/-- **Every determination is reported once**, exactly where the tables fit each other. -/
theorem sar_reports_iff (lower : Text → Text) (a : Assessed) :
    ReportedOnce lower a ↔ Reportable lower a := by
  constructor
  · intro h
    obtain ⟨hresults, hcovered⟩ := (once_iff a).mp h.once
    obtain ⟨hnumbers, hapart⟩ := (targets_nodup_iff hresults).mp h.targets
    exact ⟨hresults, hcovered, (states_iff hresults).mp h.states, hnumbers, hapart⟩
  · intro h
    refine ⟨(once_iff a).mpr ⟨h.results, h.covered⟩, fun f hf => ?_,
      (targets_nodup_iff h.results).mpr ⟨h.numbers, h.apart⟩, (states_iff h.results).mpr h.agree⟩
    rcases mem_buildSarDoc hf with ⟨row, hrow, o, ho, hfo, -⟩ | ⟨r, hr, hc, hfo, -⟩
    · rw [hfo]
      exact ⟨_, .objective hrow ho⟩
    · rw [hfo]
      exact ⟨_, .result hr hc⟩

end Rows

/-! ## A proposal is accepted -/

def failedPart : Part where
  label := some "AC-02a.".toList
  finding := some "not_satisfied".toList
  text := some "account types are defined".toList
  rationale := some "none are".toList

def acceptedRow : AssessmentControlResult where
  id := 1
  controlId := "AC-2".toList
  finding := "other_than_satisfied".toList
  objectiveFindings := [some failedPart]

def accepted : Assessed where
  control := fun _ => none
  evidence := []
  results := []
  controlResults := [acceptedRow]
  ids := List.nodup_singleton 1

/-- The failing objective is not in the document. -/
theorem accepted_not_reported : ¬ReportedOnce (·.map Char.toLower) accepted := by
  intro h
  have hstored := @Stored.objective (·.map Char.toLower) accepted acceptedRow ⟨1, 0, failedPart⟩
    (List.mem_singleton_self _) (List.mem_singleton_self _)
  exact absurd (h.once _ _ hstored) (by decide)

end Concord.Oscal
