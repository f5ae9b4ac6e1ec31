import Concord.Base.Patches
import Concord.Base.Slots
import Concord.Governance.Waivers
import Concord.Python.Dict
import Concord.Python.KeyOrder

/-!
# Drift

`diff_resources` of `src/ccf/posture/drift.py`: what changed between two observations of the
resources of a check. `drift_faithful`: on findings of which no two are of one resource, the
transitions lead from the verdicts before to those after, whatever the order of the findings,
there are none where nothing changed, and the way back has the same ones, the other way round.
-/

namespace Concord.Posture.Drift

open Concord.Base Concord.Python
open Concord.Governance (ResourceFinding ValidationStatus requiresCover)

/-- `TRANSITION_KINDS`. -/
inductive TransitionKind
  | regressed | recovered | improved | appeared | disappeared | changed
  deriving DecidableEq

structure ResourceTransition where
  resourceId : Text
  kind : TransitionKind
  before : Option Text
  after : Option Text
  observed : Option Text
  deriving DecidableEq

/-- `_by_id`. -/
def byId (findings : List ResourceFinding) : Dict Text ResourceFinding :=
  .ofPairs (findings.map fun f => (f.resourceId, f))

/-- `_PROBLEM_SEVERITY`. -/
def problemSeverity : List Text :=
  ["manual_review_required".toList, "warn".toList, "fail".toList]

/-- `_worse`, of two verdicts that are in the tuple. -/
def worse (before after : Text) : Bool :=
  problemSeverity.idxOf before < problemSeverity.idxOf after

/-- `verdict in REQUIRES_COVER`. -/
def isProblem (verdict : Text) : Bool := verdict ∈ requiresCover.map ValidationStatus.text

/-- `_classify`. -/
def classify (before after : ResourceFinding) : Option TransitionKind :=
  let wasProblem := isProblem before.verdict
  let nowProblem := isProblem after.verdict
  if !wasProblem && nowProblem then some .regressed
  else if wasProblem && !nowProblem then
    some (if after.verdict = "pass".toList then .recovered else .changed)
  else if wasProblem && nowProblem then
    if before.verdict ≠ after.verdict then
      some (if worse before.verdict after.verdict then .regressed else .improved)
    else if before.observed ≠ after.observed then some .changed
    else none
  else if before.verdict ≠ after.verdict ∨ before.observed ≠ after.observed then some .changed
  else none

/-- One turn of the loop of `diff_resources`. -/
def transition (old new : Dict Text ResourceFinding) (resourceId : Text) :
    Option ResourceTransition :=
  match old.get? resourceId, new.get? resourceId with
  | none, some now => some
    { resourceId, kind := .appeared, before := none, after := now.verdict,
      observed := now.observed }
  | some was, none => some
    { resourceId, kind := .disappeared, before := was.verdict, after := none, observed := none }
  | none, none => none
  | some was, some now => (classify was now).map fun kind =>
    { resourceId, kind, before := was.verdict, after := now.verdict, observed := now.observed }

/-- `sorted(set(old) | set(new))`. -/
def resourceIds (old new : Dict Text ResourceFinding) : List Text :=
  (old.items.map Prod.fst ++ new.items.map Prod.fst).dedup.insertionSort Json.keyLe

def diffResources (before after : List ResourceFinding) : List ResourceTransition :=
  (resourceIds (byId before) (byId after)).filterMap (transition (byId before) (byId after))

/-! ## Verdicts -/

def verdicts (findings : List ResourceFinding) (resourceId : Text) : Option Text :=
  (findings.find? fun f => f.resourceId = resourceId).map ResourceFinding.verdict

/-- The resources that a diff gives another verdict; `none` deletes. -/
def changes (transitions : List ResourceTransition) : List (Text × Option Text) :=
  transitions.map fun t => (t.resourceId, t.after)

def Keyed (findings : List ResourceFinding) : Prop :=
  (findings.map ResourceFinding.resourceId).Nodup

/-- The same change, the other way round. -/
structure Reversed (t t' : ResourceTransition) : Prop where
  resourceId : t.resourceId = t'.resourceId
  before : t.before = t'.after
  after : t.after = t'.before
  appeared : t.kind = .appeared ↔ t'.kind = .disappeared
  disappeared : t.kind = .disappeared ↔ t'.kind = .appeared

/-- What is asked of a diff. -/
structure FaithfulDiff (before after : List ResourceFinding) : Prop where
  departs : ∀ t ∈ diffResources before after, t.before = verdicts before t.resourceId
  applied : patch (verdicts before) (changes (diffResources before after)) = verdicts after
  unchanged : diffResources before before = []
  ordered : ∀ before' after', before.Perm before' → after.Perm after' →
    diffResources before' after' = diffResources before after
  reversed : List.Forall₂ Reversed (diffResources before after) (diffResources after before)

/-! ## One resource -/

section Classify

variable {was now : ResourceFinding}

theorem classify_eq_none :
    classify was now = none ↔ was.verdict = now.verdict ∧ was.observed = now.observed := by
  unfold classify
  by_cases hverdict : was.verdict = now.verdict
  · rw [hverdict]
    by_cases hobserved : was.observed = now.observed
    · cases isProblem now.verdict <;> simp [hobserved]
    · cases isProblem now.verdict <;> simp [hobserved]
  · cases isProblem was.verdict <;> cases isProblem now.verdict <;> simp [hverdict]

theorem classify_kind {kind : TransitionKind} (h : classify was now = some kind) :
    kind ≠ .appeared ∧ kind ≠ .disappeared := by
  unfold classify at h
  dsimp only at h
  repeat' split at h
  all_goals cases h
  all_goals exact ⟨nofun, nofun⟩

end Classify

section Transition

variable {old new : Dict Text ResourceFinding} {resourceId : Text} {t : ResourceTransition}

theorem transition_spec (h : transition old new resourceId = some t) :
    t.resourceId = resourceId ∧ t.before = (old.get? resourceId).map ResourceFinding.verdict ∧
      t.after = (new.get? resourceId).map ResourceFinding.verdict := by
  unfold transition at h
  cases hold : old.get? resourceId <;> cases hnew : new.get? resourceId <;> rw [hold, hnew] at h
  · cases h
  · cases h
    exact ⟨rfl, rfl, rfl⟩
  · cases h
    exact ⟨rfl, rfl, rfl⟩
  · obtain ⟨kind, -, rfl⟩ := Option.map_eq_some_iff.mp h
    exact ⟨rfl, rfl, rfl⟩

theorem transition_complete (h : (old.get? resourceId).map ResourceFinding.verdict ≠
      (new.get? resourceId).map ResourceFinding.verdict) :
    ∃ t, transition old new resourceId = some t := by
  unfold transition
  cases hold : old.get? resourceId with
  | none =>
    cases hnew : new.get? resourceId with
    | none =>
      rw [hold, hnew] at h
      exact absurd rfl h
    | some now => exact ⟨_, rfl⟩
  | some was =>
    cases hnew : new.get? resourceId with
    | none => exact ⟨_, rfl⟩
    | some now =>
      rw [hold, hnew] at h
      show ∃ t, (classify was now).map _ = some t
      cases hkind : classify was now with
      | none => exact absurd (congrArg some (classify_eq_none.mp hkind).1) h
      | some kind => exact ⟨_, rfl⟩

theorem transition_self (d : Dict Text ResourceFinding) (resourceId : Text) :
    transition d d resourceId = none := by
  unfold transition
  cases d.get? resourceId with
  | none => rfl
  | some f =>
    show (classify f f).map _ = none
    rw [classify_eq_none.mpr ⟨rfl, rfl⟩]
    rfl

theorem transition_reversed (old new : Dict Text ResourceFinding) (resourceId : Text) :
    Option.Rel Reversed (transition old new resourceId) (transition new old resourceId) := by
  unfold transition
  cases old.get? resourceId with
  | none =>
    cases new.get? resourceId with
    | none => exact .none
    | some now => exact .some ⟨rfl, rfl, rfl, iff_of_true rfl rfl, iff_of_false nofun nofun⟩
  | some was =>
    cases new.get? resourceId with
    | none => exact .some ⟨rfl, rfl, rfl, iff_of_false nofun nofun, iff_of_true rfl rfl⟩
    | some now =>
      show Option.Rel Reversed ((classify was now).map _) ((classify now was).map _)
      -- `_classify` is silent both ways or neither way
      cases hkind : classify was now with
      | none =>
        obtain ⟨hverdict, hobserved⟩ := classify_eq_none.mp hkind
        rw [classify_eq_none.mpr ⟨hverdict.symm, hobserved.symm⟩]
        exact .none
      | some kind =>
        cases hback : classify now was with
        | none =>
          obtain ⟨hverdict, hobserved⟩ := classify_eq_none.mp hback
          rw [classify_eq_none.mpr ⟨hverdict.symm, hobserved.symm⟩] at hkind
          cases hkind
        | some back =>
          have hthere := classify_kind hkind
          have hhere := classify_kind hback
          exact .some ⟨rfl, rfl, rfl, iff_of_false hthere.1 hhere.2,
            iff_of_false hthere.2 hhere.1⟩

end Transition

/-! ## All resources -/

section Findings

variable {before after before' after' : List ResourceFinding}

theorem get?_byId (h : Keyed before) {resourceId : Text} {f : ResourceFinding} :
    (byId before).get? resourceId = some f ↔ f ∈ before ∧ f.resourceId = resourceId := by
  have hkeys : (before.map fun f => (f.resourceId, f)).map Prod.fst =
      before.map ResourceFinding.resourceId := by
    rw [List.map_map]
    rfl
  have hitems : (byId before).items = before.map fun f => (f.resourceId, f) :=
    Dict.items_ofPairs (hkeys ▸ h)
  rw [← Dict.mem_items_iff, hitems, List.mem_map]
  constructor
  · rintro ⟨f, hf, heq⟩
    cases heq
    exact ⟨hf, rfl⟩
  · rintro ⟨hf, rfl⟩
    exact ⟨f, hf, rfl⟩

theorem verdicts_eq (h : Keyed before) (resourceId : Text) :
    verdicts before resourceId = ((byId before).get? resourceId).map ResourceFinding.verdict := by
  refine congrArg _ (Option.ext fun f => ?_)
  rw [get?_byId h]
  constructor
  · intro hfind
    exact ⟨List.mem_of_find?_eq_some hfind, by simpa using List.find?_some hfind⟩
  · rintro ⟨hf, rfl⟩
    exact find_of_nodup h hf

theorem get?_byId_perm (h : Keyed before) (hperm : before.Perm before') (resourceId : Text) :
    (byId before').get? resourceId = (byId before).get? resourceId := by
  have h' : Keyed before' := (hperm.map _).nodup_iff.mp h
  refine Option.ext fun f => ?_
  rw [get?_byId h, get?_byId h', hperm.mem_iff]

theorem mem_resourceIds {old new : Dict Text ResourceFinding} {resourceId : Text} :
    resourceId ∈ resourceIds old new ↔
      (old.get? resourceId).isSome = true ∨ (new.get? resourceId).isSome = true := by
  rw [resourceIds, List.mem_insertionSort, List.mem_dedup, List.mem_append, Dict.mem_keys_iff,
    Dict.mem_keys_iff]

theorem resourceIds_eq {old new old' new' : Dict Text ResourceFinding}
    (h : ∀ resourceId, resourceId ∈ resourceIds old new ↔ resourceId ∈ resourceIds old' new') :
    resourceIds old new = resourceIds old' new' :=
  Json.eq_of_sorted (List.pairwise_insertionSort _ _) (List.pairwise_insertionSort _ _)
    ((List.perm_insertionSort _ _).nodup_iff.mpr (List.nodup_dedup _))
    ((List.perm_insertionSort _ _).nodup_iff.mpr (List.nodup_dedup _)) h

theorem diffResources_spec {t : ResourceTransition} (h : t ∈ diffResources before after) :
    t.before = ((byId before).get? t.resourceId).map ResourceFinding.verdict ∧
      t.after = ((byId after).get? t.resourceId).map ResourceFinding.verdict := by
  obtain ⟨resourceId, -, htransition⟩ := List.mem_filterMap.mp h
  obtain ⟨rfl, hbefore, hafter⟩ := transition_spec htransition
  exact ⟨hbefore, hafter⟩

/-- **The transitions lead from the one to the other.** -/
theorem patch_diffResources (hbefore : Keyed before) (hafter : Keyed after) :
    patch (verdicts before) (changes (diffResources before after)) = verdicts after := by
  refine patch_eq (fun change hchange => ?_) fun resourceId hne => ?_
  · obtain ⟨t, ht, rfl⟩ := List.mem_map.mp hchange
    rw [verdicts_eq hafter]
    exact (diffResources_spec ht).2
  · rw [verdicts_eq hbefore, verdicts_eq hafter] at hne
    obtain ⟨t, ht⟩ := transition_complete hne
    have hmem : resourceId ∈ resourceIds (byId before) (byId after) := by
      rw [mem_resourceIds]
      by_contra hnone
      rw [not_or, Option.not_isSome_iff_eq_none, Option.not_isSome_iff_eq_none] at hnone
      rw [hnone.1, hnone.2] at hne
      exact hne rfl
    have hdiff : t ∈ diffResources before after := List.mem_filterMap.mpr ⟨_, hmem, ht⟩
    obtain ⟨rfl, -, -⟩ := transition_spec ht
    exact List.mem_map_of_mem (f := Prod.fst) (List.mem_map_of_mem hdiff)

theorem diffResources_self (findings : List ResourceFinding) :
    diffResources findings findings = [] :=
  List.filterMap_eq_nil_iff.mpr fun resourceId _ => transition_self _ resourceId

theorem diffResources_perm (hbefore : Keyed before) (hafter : Keyed after)
    (hperm : before.Perm before') (hperm' : after.Perm after') :
    diffResources before' after' = diffResources before after := by
  have hget := get?_byId_perm hbefore hperm
  have hget' := get?_byId_perm hafter hperm'
  have hids : resourceIds (byId before') (byId after') =
      resourceIds (byId before) (byId after) := by
    refine resourceIds_eq fun resourceId => ?_
    rw [mem_resourceIds, mem_resourceIds, hget, hget']
  unfold diffResources
  rw [hids]
  refine List.filterMap_congr fun resourceId _ => ?_
  unfold transition
  rw [hget, hget']

theorem diffResources_reversed (before after : List ResourceFinding) :
    List.Forall₂ Reversed (diffResources before after) (diffResources after before) := by
  have hids : resourceIds (byId after) (byId before) =
      resourceIds (byId before) (byId after) :=
    resourceIds_eq fun resourceId => by rw [mem_resourceIds, mem_resourceIds, or_comm]
  unfold diffResources
  rw [hids]
  refine List.rel_filterMap ?_ (List.forall₂_eq_eq_eq ▸ rfl)
  rintro resourceId _ rfl
  exact transition_reversed _ _ resourceId

/-- **Drift.** -/
theorem drift_faithful (hbefore : Keyed before) (hafter : Keyed after) :
    FaithfulDiff before after where
  departs t ht := by
    rw [verdicts_eq hbefore]
    exact (diffResources_spec ht).1
  applied := patch_diffResources hbefore hafter
  unchanged := diffResources_self before
  ordered _ _ hperm hperm' := diffResources_perm hbefore hafter hperm hperm'
  reversed := diffResources_reversed before after

/-- One resource is fixed, one goes, one comes. -/
theorem fixed_gone_new :
    FaithfulDiff
      [⟨"a".toList, "vm".toList, "fail".toList, "open".toList⟩,
        ⟨"b".toList, "vm".toList, "pass".toList, "shut".toList⟩]
      [⟨"c".toList, "vm".toList, "warn".toList, "open".toList⟩,
        ⟨"a".toList, "vm".toList, "pass".toList, "shut".toList⟩] :=
  drift_faithful (by unfold Keyed; decide) (by unfold Keyed; decide)

end Findings

end Concord.Posture.Drift
