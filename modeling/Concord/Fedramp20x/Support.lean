import Concord.Fedramp20x.Rules

/-!
# What a passing KSI rests on

A rule passes where one of its leaves does, and its verdict is that of the first such leaf
(`evaluateRule_outcome`, by induction over the tree). So a pass has something of the context
to point at where that leaf has (`pass_supported_iff`): every kind of leaf does once it
passes, but for a control rule none of whose controls has a status or a passing test (a
`control_state` without controls is one) and for evidence that is flagged and not labelled.
-/

namespace Concord.Fedramp20x

open Concord.Python Concord.Governance

/-- A reference of the context. -/
inductive InContext (ctx : SystemContext) : Text → Prop
  | status (c s : Text) (h : ctx.implStatus.get? c = some s) : InContext ctx (c ++ ':' :: s)
  | test (c : Text) (h : testedOk ctx c = true) : InContext ctx (c ++ ":test:pass".toList)
  | evidence (c : Text) (refs : List Text) (r : Text) (h : ctx.evidenceRefs.get? c = some refs)
      (mem : r ∈ refs) : InContext ctx r
  | dependency (d : Dependency) (mem : d ∈ ctx.dependencies) : InContext ctx d.label
  | profile (field : Text) (h : truthy ((ctx.profile.get? field).getD none) = true) :
      InContext ctx ("profile.".toList ++ field)
  | capture (c : Text) (mem : c ∈ ctx.captures) : InContext ctx c

/-- A verdict that names something of the context. -/
def Supported (ctx : SystemContext) (v : Verdict) : Prop :=
  ∃ r ∈ v.evidenceRefs, InContext ctx r

mutual

/-- The rules of other kinds under a rule, in the order they stand in. -/
def Rule.leaves : Rule → List Rule
  | .mk kind states controls rules field captures =>
    if kind = .anyOf then leavesOf rules else [.mk kind states controls rules field captures]

def leavesOf : List Rule → List Rule
  | [] => []
  | r :: rules => r.leaves ++ leavesOf rules

end

section Specification

variable (lib : Strings) (ctx : SystemContext)

def Passes : Rule → Prop
  | .mk kind states controls _ field captures =>
    let states := if states = [] then acceptableDefault else states
    let controls := controls.map (normalizeControl lib)
    match kind with
    | .controlState => ∀ c ∈ controls, controlOk ctx states c = true
    | .controlAny => ∃ c ∈ controls, controlOk ctx states c = true
    | .evidencePresent => ∃ c ∈ controls, ctx.controlEvidence.get? c = some true
    | .dependencyAuthorized =>
      ctx.dependencies ≠ [] ∧ ∀ d ∈ ctx.dependencies, d.authorized = true
    | .profileField => truthy ((ctx.profile.get? field).getD none) = true
    | .connectorCapture => captures ≠ [] ∧ captures ⊆ ctx.captures
    | .manual | .anyOf | .unknown _ => False

def Grounded : Rule → Prop
  | .mk kind _ controls _ _ _ =>
    let controls := controls.map (normalizeControl lib)
    match kind with
    | .controlState | .controlAny =>
      ∃ c ∈ controls, truthy (ctx.implStatus.get? c) = true ∨ testedOk ctx c = true
    | .evidencePresent => ∃ c ∈ controls, (ctx.evidenceRefs.get? c).getD [] ≠ []
    | _ => True

def FirstPassing (leaves : List Rule) (leaf : Rule) : Prop :=
  ∃ before after, leaves = before ++ leaf :: after ∧ Passes lib ctx leaf ∧
    ∀ l ∈ before, ¬Passes lib ctx l

end Specification

section Leaves

variable {lib : Strings} {ctx : SystemContext}

theorem truthy_eq_true {t : Option Text} : truthy t = true ↔ ∃ s, t = some s ∧ s ≠ [] := by
  match t with
  | none => simp [truthy, orElse]
  | some [] => simp [truthy, orElse]
  | some (c :: cs) => simp [truthy, orElse]

theorem mem_sortedSet {items : List Text} {t : Text} : t ∈ sortedSet items ↔ t ∈ items := by
  unfold sortedSet
  rw [List.mem_insertionSort, List.mem_dedup]

theorem mem_present {controls : List Text} {c : Text} {s : Option Text} :
    (c, s) ∈ (present ctx controls).items ↔ c ∈ controls ∧ s = ctx.implStatus.get? c := by
  unfold present
  rw [Dict.mem_items_iff, Dict.get?_ofPairs, Option.map_eq_some_iff]
  constructor
  · rintro ⟨⟨k, v⟩, hfind, rfl⟩
    have hmem := List.mem_of_find?_eq_some hfind
    rw [List.mem_reverse, List.mem_map] at hmem
    obtain ⟨c', hc', heq⟩ := hmem
    have hk : k = c := by simpa using List.find?_some hfind
    simp only [Prod.mk.injEq] at heq
    rw [← hk, ← heq.1]
    exact ⟨hc', heq.2.symm⟩
  · rintro ⟨hc, rfl⟩
    have hmem : (c, ctx.implStatus.get? c) ∈
        (controls.map fun c => (c, ctx.implStatus.get? c)).reverse :=
      List.mem_reverse.mpr (List.mem_map_of_mem hc)
    cases hfind : (controls.map fun c => (c, ctx.implStatus.get? c)).reverse.find?
        fun p => p.1 = c with
    | none => exact absurd (List.find?_eq_none.mp hfind _ hmem) (by simp)
    | some p =>
      have hp := List.mem_of_find?_eq_some hfind
      rw [List.mem_reverse, List.mem_map] at hp
      obtain ⟨c', -, rfl⟩ := hp
      have hc' : c' = c := by simpa using List.find?_some hfind
      exact ⟨_, rfl, by rw [hc']⟩

theorem mem_controlRefs {controls : List Text} {r : Text} :
    r ∈ controlRefs ctx controls ↔
      (∃ c ∈ controls, ∃ s, ctx.implStatus.get? c = some s ∧ s ≠ [] ∧ r = c ++ ':' :: s) ∨
        ∃ c ∈ controls, testedOk ctx c = true ∧ r = c ++ ":test:pass".toList := by
  unfold controlRefs
  rw [List.mem_append, List.mem_filterMap, List.mem_map]
  refine or_congr ?_ ?_
  · constructor
    · rintro ⟨⟨c, t⟩, hmem, hr⟩
      obtain ⟨hc, ht⟩ := mem_present.mp hmem
      dsimp only at hr
      split at hr
      · rename_i htruthy
        obtain ⟨s, rfl, hs⟩ := truthy_eq_true.mp htruthy
        exact ⟨c, hc, s, ht.symm, hs, (Option.some.inj hr).symm⟩
      · cases hr
    · rintro ⟨c, hc, s, hs, hne, rfl⟩
      refine ⟨(c, some s), mem_present.mpr ⟨hc, hs.symm⟩, ?_⟩
      dsimp only
      rw [if_pos (truthy_eq_true.mpr ⟨s, rfl, hne⟩)]
      rfl
  · constructor
    · rintro ⟨c, hc, rfl⟩
      rw [mem_sortedSet, List.mem_filter] at hc
      exact ⟨c, hc.1, hc.2, rfl⟩
    · rintro ⟨c, hc, ht, rfl⟩
      exact ⟨c, mem_sortedSet.mpr (List.mem_filter.mpr ⟨hc, ht⟩), rfl⟩

theorem supported_controlRefs {controls : List Text} {v : Verdict}
    (hv : v.evidenceRefs = controlRefs ctx controls) :
    Supported ctx v ↔
      ∃ c ∈ controls, truthy (ctx.implStatus.get? c) = true ∨ testedOk ctx c = true := by
  unfold Supported
  rw [hv]
  constructor
  · rintro ⟨r, hr, -⟩
    rcases mem_controlRefs.mp hr with ⟨c, hc, s, hs, hne, -⟩ | ⟨c, hc, ht, -⟩
    · exact ⟨c, hc, .inl (truthy_eq_true.mpr ⟨s, hs, hne⟩)⟩
    · exact ⟨c, hc, .inr ht⟩
  · rintro ⟨c, hc, htruthy | ht⟩
    · obtain ⟨s, hs, hne⟩ := truthy_eq_true.mp htruthy
      exact ⟨_, mem_controlRefs.mpr (.inl ⟨c, hc, s, hs, hne, rfl⟩), .status c s hs⟩
    · exact ⟨_, mem_controlRefs.mpr (.inr ⟨c, hc, ht, rfl⟩), .test c ht⟩

theorem controlVerdict_pass {kind : Kind} {states controls : List Text} :
    (controlVerdict lib ctx kind states controls).status = .pass ↔
      if kind = .controlState then ∀ c ∈ controls, controlOk ctx states c = true
      else ∃ c ∈ controls, controlOk ctx states c = true := by
  have hall : (controls.filter fun c => !controlOk ctx states c).length = 0 ↔
      ∀ c ∈ controls, controlOk ctx states c = true := by
    rw [List.length_eq_zero_iff, List.filter_eq_nil_iff]
    simp
  have hany : (controls.filter (controlOk ctx states)).length > 0 ↔
      ∃ c ∈ controls, controlOk ctx states c = true := by
    rw [gt_iff_lt, List.length_pos_iff_exists_mem]
    simp only [List.mem_filter]
  have hstatus : (controlVerdict lib ctx kind states controls).status = .pass ↔
      enoughControls kind (controls.filter (controlOk ctx states))
        (controls.filter fun c => !controlOk ctx states c) = true := by
    unfold controlVerdict
    dsimp only
    cases enoughControls kind (controls.filter (controlOk ctx states))
        (controls.filter fun c => !controlOk ctx states c) with
    | true => exact iff_of_true rfl rfl
    | false =>
      refine iff_of_false ?_ Bool.false_ne_true
      rw [if_neg Bool.false_ne_true]
      split <;> exact ValidationStatus.noConfusion
  rw [hstatus]
  unfold enoughControls
  by_cases hk : kind = .controlState
  · rw [if_pos hk, if_pos hk, decide_eq_true_eq, hall]
  · rw [if_neg hk, if_neg hk, decide_eq_true_eq, hany]

theorem controlVerdict_refs {kind : Kind} {states controls : List Text} :
    (controlVerdict lib ctx kind states controls).evidenceRefs = controlRefs ctx controls := by
  unfold controlVerdict
  dsimp only
  split
  · rfl
  · split <;> rfl

theorem evidenceVerdict_pass {controls : List Text} :
    (evidenceVerdict lib ctx controls).status = .pass ↔
      ∃ c ∈ controls, ctx.controlEvidence.get? c = some true := by
  have hsome : (controls.filter fun c => ctx.controlEvidence.get? c = some true) ≠ [] ↔
      ∃ c ∈ controls, ctx.controlEvidence.get? c = some true := by
    rw [← List.length_pos_iff, List.length_pos_iff_exists_mem]
    simp only [List.mem_filter, decide_eq_true_eq]
  unfold evidenceVerdict
  dsimp only
  rw [← hsome]
  split <;> simp_all

theorem supported_evidenceVerdict {controls : List Text}
    (h : (evidenceVerdict lib ctx controls).status = .pass) :
    Supported ctx (evidenceVerdict lib ctx controls) ↔
      ∃ c ∈ controls, (ctx.evidenceRefs.get? c).getD [] ≠ [] := by
  have hrefs : (evidenceVerdict lib ctx controls).evidenceRefs =
      controls.flatMap fun c => (ctx.evidenceRefs.get? c).getD [] := by
    unfold evidenceVerdict at h ⊢
    dsimp only at h ⊢
    split
    · rfl
    · rename_i hnone
      rw [if_neg hnone] at h
      cases h
  unfold Supported
  rw [hrefs]
  constructor
  · rintro ⟨r, hr, -⟩
    obtain ⟨c, hc, hr⟩ := List.mem_flatMap.mp hr
    exact ⟨c, hc, List.ne_nil_of_mem hr⟩
  · rintro ⟨c, hc, hne⟩
    obtain ⟨r, hr⟩ := List.exists_mem_of_ne_nil _ hne
    refine ⟨r, List.mem_flatMap.mpr ⟨c, hc, hr⟩, ?_⟩
    cases hget : ctx.evidenceRefs.get? c with
    | none =>
      rw [hget] at hr
      cases hr
    | some refs =>
      rw [hget] at hr
      exact .evidence c refs r hget hr

theorem dependencyVerdict_pass :
    (dependencyVerdict lib ctx).status = .pass ↔
      ctx.dependencies ≠ [] ∧ ∀ d ∈ ctx.dependencies, d.authorized = true := by
  have hnil : (ctx.dependencies.filter fun d => !d.authorized).map Dependency.name = [] ↔
      ∀ d ∈ ctx.dependencies, d.authorized = true := by
    rw [List.map_eq_nil_iff, List.filter_eq_nil_iff]
    simp
  unfold dependencyVerdict
  dsimp only
  rw [← hnil]
  split
  · simp_all
  · split <;> simp_all

theorem supported_dependencyVerdict (h : (dependencyVerdict lib ctx).status = .pass) :
    Supported ctx (dependencyVerdict lib ctx) := by
  obtain ⟨hne, hall⟩ := dependencyVerdict_pass.mp h
  obtain ⟨d, hd⟩ := List.exists_mem_of_ne_nil _ hne
  have hrefs : (dependencyVerdict lib ctx).evidenceRefs = ctx.dependencies.map Dependency.label := by
    unfold dependencyVerdict
    dsimp only
    rw [if_neg hne]
    split <;> rfl
  refine ⟨d.label, ?_, .dependency d hd⟩
  rw [hrefs]
  exact List.mem_map_of_mem hd

theorem profileVerdict_pass {field : Text} :
    (profileVerdict ctx field).status = .pass ↔
      truthy ((ctx.profile.get? field).getD none) = true := by
  unfold profileVerdict
  split <;> simp_all

theorem supported_profileVerdict {field : Text}
    (h : (profileVerdict ctx field).status = .pass) :
    Supported ctx (profileVerdict ctx field) := by
  have hset := profileVerdict_pass.mp h
  refine ⟨"profile.".toList ++ field, ?_, .profile field hset⟩
  unfold profileVerdict
  rw [if_pos hset]
  exact List.mem_singleton_self _

theorem captureVerdict_pass {captures : List Text} :
    (captureVerdict ctx captures).status = .pass ↔ captures ≠ [] ∧ captures ⊆ ctx.captures := by
  unfold captureVerdict
  split <;> simp_all

theorem supported_captureVerdict {captures : List Text}
    (h : (captureVerdict ctx captures).status = .pass) :
    Supported ctx (captureVerdict ctx captures) := by
  have hheld := captureVerdict_pass.mp h
  obtain ⟨c, hc⟩ := List.exists_mem_of_ne_nil _ hheld.1
  refine ⟨c, ?_, .capture c (hheld.2 hc)⟩
  unfold captureVerdict
  rw [if_pos hheld]
  exact mem_sortedSet.mpr hc

theorem leaf_pass_iff {kind : Kind} {states controls : List Text} {rules : List Rule}
    {field : Text} {captures : List Text} (hk : kind ≠ .anyOf) :
    (evaluateRule lib ctx (.mk kind states controls rules field captures)).status = .pass ↔
      Passes lib ctx (.mk kind states controls rules field captures) := by
  unfold evaluateRule leafVerdict
  rw [if_neg hk]
  unfold Passes
  cases kind with
  | manual => simp [manualVerdict]
  | anyOf => exact absurd rfl hk
  | controlState => exact controlVerdict_pass
  | controlAny => exact controlVerdict_pass
  | evidencePresent => exact evidenceVerdict_pass
  | dependencyAuthorized => exact dependencyVerdict_pass
  | profileField => exact profileVerdict_pass
  | connectorCapture => exact captureVerdict_pass
  | unknown name => simp [unknownVerdict]

theorem leaf_supported_iff {kind : Kind} {states controls : List Text} {rules : List Rule}
    {field : Text} {captures : List Text} (hk : kind ≠ .anyOf)
    (hpass : Passes lib ctx (.mk kind states controls rules field captures)) :
    Supported ctx (evaluateRule lib ctx (.mk kind states controls rules field captures)) ↔
      Grounded lib ctx (.mk kind states controls rules field captures) := by
  have hstatus := (leaf_pass_iff hk).mpr hpass
  unfold evaluateRule leafVerdict at hstatus ⊢
  rw [if_neg hk] at hstatus ⊢
  unfold Grounded
  cases kind with
  | manual => cases hpass
  | anyOf => exact absurd rfl hk
  | controlState => exact supported_controlRefs controlVerdict_refs
  | controlAny => exact supported_controlRefs controlVerdict_refs
  | evidencePresent => exact supported_evidenceVerdict hstatus
  | dependencyAuthorized => exact iff_of_true (supported_dependencyVerdict hstatus) trivial
  | profileField => exact iff_of_true (supported_profileVerdict hstatus) trivial
  | connectorCapture => exact iff_of_true (supported_captureVerdict hstatus) trivial
  | unknown name => cases hpass

end Leaves

/-! ## The tree -/

section Tree

variable {lib : Strings} {ctx : SystemContext}

theorem best_pass (v : Verdict) (rest : List Verdict) (h : v.status = .pass) :
    best v rest = v := by
  have hrank : ∀ s : ValidationStatus, ¬verdictRank .pass < verdictRank s := by
    intro s
    cases s <;> decide
  unfold best
  induction rest with
  | nil => rfl
  | cons w rest ih => rw [List.foldl_cons, if_neg (h ▸ hrank w.status), ih]

/-- Which verdict `max` keeps: the first that passes, if one does. -/
theorem best_spec (v : Verdict) (rest : List Verdict) :
    ((∀ w ∈ v :: rest, w.status ≠ .pass) ∧ (best v rest).status ≠ .pass) ∨
      ∃ before p after, v :: rest = before ++ p :: after ∧ p.status = .pass ∧
        (∀ w ∈ before, w.status ≠ .pass) ∧ best v rest = p := by
  induction rest generalizing v with
  | nil =>
    by_cases hv : v.status = .pass
    · exact .inr ⟨[], v, [], rfl, hv, List.forall_mem_nil _, rfl⟩
    · exact .inl ⟨List.forall_mem_singleton.mpr hv, hv⟩
  | cons w rest ih =>
    by_cases hv : v.status = .pass
    · exact .inr ⟨[], v, w :: rest, rfl, hv, List.forall_mem_nil _, best_pass v _ hv⟩
    -- the better of the first two goes on
    have hstep : best v (w :: rest) =
        best (if verdictRank v.status < verdictRank w.status then w else v) rest := rfl
    rw [hstep]
    split
    · rcases ih w with ⟨hnone, hbest⟩ | ⟨before, p, after, hlist, hp, hbefore, hbest⟩
      · exact .inl ⟨List.forall_mem_cons.mpr ⟨hv, hnone⟩, hbest⟩
      · refine .inr ⟨v :: before, p, after, ?_, hp, List.forall_mem_cons.mpr ⟨hv, hbefore⟩, hbest⟩
        rw [hlist, List.cons_append]
    · rename_i hrank
      have hw : w.status ≠ .pass := by
        intro hw
        rw [hw] at hrank
        cases hstatus : v.status <;> rw [hstatus] at hrank hv
        · exact hv rfl
        all_goals exact hrank (by decide)
      rcases ih v with ⟨hnone, hbest⟩ | ⟨before, p, after, hlist, hp, hbefore, hbest⟩
      · obtain ⟨-, hrest⟩ := List.forall_mem_cons.mp hnone
        exact .inl ⟨List.forall_mem_cons.mpr ⟨hv, List.forall_mem_cons.mpr ⟨hw, hrest⟩⟩, hbest⟩
      · cases before with
        | nil =>
          rw [List.nil_append, List.cons.injEq] at hlist
          exact absurd (hlist.1 ▸ hp) hv
        | cons b before =>
          rw [List.cons_append, List.cons.injEq] at hlist
          obtain ⟨hb, hbefore⟩ := List.forall_mem_cons.mp hbefore
          refine .inr ⟨v :: w :: before, p, after, ?_, hp,
            List.forall_mem_cons.mpr ⟨hv, List.forall_mem_cons.mpr ⟨hw, hbefore⟩⟩, hbest⟩
          rw [hlist.2, List.cons_append, List.cons_append]

theorem evaluateRules_eq_map (rules : List Rule) :
    evaluateRules lib ctx rules = rules.map (evaluateRule lib ctx) := by
  induction rules with
  | nil => rfl
  | cons r rules ih => rw [evaluateRules, ih, List.map_cons]

theorem leavesOf_append (as bs : List Rule) : leavesOf (as ++ bs) = leavesOf as ++ leavesOf bs := by
  induction as with
  | nil => rfl
  | cons a as ih => rw [List.cons_append, leavesOf, leavesOf, ih, List.append_assoc]

theorem mem_leavesOf {rules : List Rule} {leaf : Rule} :
    leaf ∈ leavesOf rules ↔ ∃ r ∈ rules, leaf ∈ r.leaves := by
  induction rules with
  | nil => simp [leavesOf]
  | cons r rules ih => simp [leavesOf, ih]

/-- What becomes of a rule: nothing under it passes and it does not, or it has the verdict of
the first leaf that passes. -/
def Outcome (lib : Strings) (ctx : SystemContext) (leaves : List Rule) (v : Verdict) : Prop :=
  ((∀ l ∈ leaves, ¬Passes lib ctx l) ∧ v.status ≠ .pass) ∨
    ∃ leaf, FirstPassing lib ctx leaves leaf ∧ v.status = .pass ∧
      v = evaluateRule lib ctx leaf

/-- `any_of`. -/
theorem outcome_anyOf {rules : List Rule}
    (h : ∀ r ∈ rules, Outcome lib ctx r.leaves (evaluateRule lib ctx r)) :
    Outcome lib ctx (leavesOf rules)
      (match evaluateRules lib ctx rules with
        | [] => noSubRules
        | v :: rest => best v rest) := by
  have hfail : ∀ r ∈ rules, (evaluateRule lib ctx r).status ≠ .pass →
      ∀ l ∈ r.leaves, ¬Passes lib ctx l := by
    intro r hr hstatus
    rcases h r hr with ⟨hnone, -⟩ | ⟨-, -, hpass, -⟩
    · exact hnone
    · exact absurd hpass hstatus
  rw [evaluateRules_eq_map]
  match rules with
  | [] => exact .inl ⟨List.forall_mem_nil _, ValidationStatus.noConfusion⟩
  | r :: rules =>
    rw [List.map_cons]
    rcases best_spec (evaluateRule lib ctx r) (rules.map (evaluateRule lib ctx)) with
      ⟨hnone, hbest⟩ | ⟨before, p, after, hlist, hp, hbefore, hbest⟩
    · refine .inl ⟨fun l hl => ?_, hbest⟩
      obtain ⟨q, hq, hl⟩ := mem_leavesOf.mp hl
      refine hfail q hq (hnone _ ?_) l hl
      rw [← List.map_cons]
      exact List.mem_map_of_mem hq
    · dsimp only
      rw [← List.map_cons] at hlist
      obtain ⟨as, rest, hrules, rfl, hrest⟩ := List.map_eq_append_iff.mp hlist
      obtain ⟨q, bs, rfl, rfl, rfl⟩ := List.map_eq_cons_iff.mp hrest
      have hq : q ∈ r :: rules := by
        rw [hrules]
        exact List.mem_append_right _ List.mem_cons_self
      rcases h q hq with ⟨-, hstatus⟩ | ⟨leaf, ⟨pre, post, hleaves, hpasses, hpre⟩, -, heq⟩
      · exact absurd hp hstatus
      · refine .inr ⟨leaf, ⟨leavesOf as ++ pre, post ++ leavesOf bs, ?_, hpasses, ?_⟩, ?_, ?_⟩
        · rw [hrules, leavesOf_append, leavesOf, hleaves]
          simp only [List.append_assoc, List.cons_append]
        · intro l hl
          rcases List.mem_append.mp hl with hl | hl
          · obtain ⟨a, ha, hl⟩ := mem_leavesOf.mp hl
            have hamem : a ∈ r :: rules := by
              rw [hrules]
              exact List.mem_append_left _ ha
            exact hfail a hamem (hbefore _ (List.mem_map_of_mem ha)) l hl
          · exact hpre l hl
        · rw [hbest]
          exact hp
        · rw [hbest]
          exact heq

theorem outcome_leaf {kind : Kind} {states controls : List Text} {rules : List Rule}
    {field : Text} {captures : List Text} (hk : kind ≠ .anyOf) :
    Outcome lib ctx [.mk kind states controls rules field captures]
      (evaluateRule lib ctx (.mk kind states controls rules field captures)) := by
  by_cases hpass : Passes lib ctx (.mk kind states controls rules field captures)
  · exact .inr ⟨_, ⟨[], [], rfl, hpass, List.forall_mem_nil _⟩, (leaf_pass_iff hk).mpr hpass, rfl⟩
  · exact .inl ⟨List.forall_mem_singleton.mpr hpass, fun h => hpass ((leaf_pass_iff hk).mp h)⟩

mutual

/-- **The verdict of a rule**, by induction over the tree. -/
theorem evaluateRule_outcome : ∀ r : Rule, Outcome lib ctx r.leaves (evaluateRule lib ctx r)
  | .mk kind states controls rules field captures => by
    by_cases hk : kind = .anyOf
    · have hsub := outcome_anyOf (evaluateRules_outcome rules)
      unfold Rule.leaves evaluateRule
      rw [if_pos hk, if_pos hk]
      exact hsub
    · unfold Rule.leaves
      rw [if_neg hk]
      exact outcome_leaf hk

theorem evaluateRules_outcome : ∀ rules : List Rule, ∀ r ∈ rules,
    Outcome lib ctx r.leaves (evaluateRule lib ctx r)
  | [] => fun _ h => nomatch h
  | r :: rules => fun q hq => by
    rcases List.mem_cons.mp hq with heq | hq
    · exact heq ▸ evaluateRule_outcome r
    · exact evaluateRules_outcome rules q hq

end

theorem FirstPassing.unique {leaves : List Rule} {leaf leaf' : Rule}
    (h : FirstPassing lib ctx leaves leaf) (h' : FirstPassing lib ctx leaves leaf') :
    leaf = leaf' := by
  obtain ⟨before, after, rfl, hpass, hbefore⟩ := h
  obtain ⟨before', after', heq, hpass', hbefore'⟩ := h'
  induction before generalizing before' with
  | nil =>
    cases before' with
    | nil => exact (List.cons.inj heq).1
    | cons b before' =>
      have hb : leaf = b := (List.cons.inj heq).1
      exact absurd (hb ▸ hpass) (hbefore' b List.mem_cons_self)
  | cons a before ih =>
    cases before' with
    | nil =>
      have ha : a = leaf' := (List.cons.inj heq).1
      exact absurd (ha ▸ hpass') (hbefore a List.mem_cons_self)
    | cons b before' =>
      exact ih (fun l hl => hbefore l (List.mem_cons_of_mem a hl)) before'
        (List.cons.inj heq).2 (fun l hl => hbefore' l (List.mem_cons_of_mem b hl))

/-- **When a pass rests on something**: the first leaf that passes is about a control with a
status or a passing test, about labelled evidence, or of a kind that asks for something. -/
theorem pass_supported_iff (lib : Strings) (ctx : SystemContext) (r : Rule) :
    ((evaluateRule lib ctx r).status = .pass → Supported ctx (evaluateRule lib ctx r)) ↔
      ∀ leaf, FirstPassing lib ctx r.leaves leaf → Grounded lib ctx leaf := by
  rcases @evaluateRule_outcome lib ctx r with ⟨hnone, hstatus⟩ | ⟨leaf, hfirst, hpass, heq⟩
  · refine iff_of_true (fun h => absurd h hstatus) fun leaf hleaf => ?_
    obtain ⟨before, after, hleaves, hpasses, -⟩ := hleaf
    refine absurd hpasses (hnone leaf ?_)
    rw [hleaves]
    exact List.mem_append_right _ List.mem_cons_self
  · have hleaf : Supported ctx (evaluateRule lib ctx leaf) ↔ Grounded lib ctx leaf := by
      obtain ⟨-, -, -, hpasses, -⟩ := hfirst
      obtain ⟨kind, states, controls, rules, field, captures⟩ := leaf
      have hk : kind ≠ .anyOf := by
        rintro rfl
        exact hpasses
      exact leaf_supported_iff hk hpasses
    rw [heq, hleaf, ← heq]
    exact ⟨fun h leaf' hleaf' => hfirst.unique hleaf' ▸ h hpass, fun h _ => h leaf hfirst⟩

end Tree

def nothingKnown : SystemContext where
  implStatus := Dict.empty
  controlEvidence := Dict.empty
  evidenceRefs := Dict.empty
  dependencies := []
  profile := Dict.empty
  captures := []
  controlTests := Dict.empty

def plainStrings : Strings where
  upper := List.map Char.toUpper
  repr := fun t => '\'' :: t ++ ['\'']

/-- `{"kind": "control_state", "controls": []}` passes on it. -/
theorem control_state_passes_on_nothing :
    ¬∀ (lib : Strings) (ctx : SystemContext) (r : Rule),
      (evaluateRule lib ctx r).status = .pass → Supported ctx (evaluateRule lib ctx r) := by
  intro h
  have hrefs : (evaluateRule plainStrings nothingKnown
      (.mk .controlState [] [] [] [] [])).evidenceRefs = [] := by decide +kernel
  obtain ⟨r, hr, -⟩ := h plainStrings nothingKnown (.mk .controlState [] [] [] [] [])
    (by decide +kernel)
  rw [hrefs] at hr
  cases hr

/-- A context as `build_context` leaves it: evidence is flagged where it is labelled, and no
status is empty. -/
structure Labelled (ctx : SystemContext) : Prop where
  evidence : ∀ c, ctx.controlEvidence.get? c = some true → (ctx.evidenceRefs.get? c).getD [] ≠ []
  status : ∀ c, ctx.implStatus.get? c ≠ some []

/-- In such a context the only leaf that passes on nothing is a `control_state` without
controls. -/
theorem grounded_iff_of_labelled {lib : Strings} {ctx : SystemContext} (hctx : Labelled ctx)
    {kind : Kind} {states controls : List Text} {rules : List Rule} {field : Text}
    {captures : List Text}
    (h : Passes lib ctx (.mk kind states controls rules field captures)) :
    Grounded lib ctx (.mk kind states controls rules field captures) ↔
      ¬(kind = .controlState ∧ controls = []) := by
  have hok : ∀ (states : List Text) (c : Text), controlOk ctx states c = true →
      truthy (ctx.implStatus.get? c) = true ∨ testedOk ctx c = true := by
    intro states c hc
    unfold controlOk statusOk at hc
    rw [Bool.or_eq_true] at hc
    refine hc.imp_left fun hs => ?_
    obtain ⟨s, hget, -⟩ := (Option.any_eq_true _ _).mp hs
    refine truthy_eq_true.mpr ⟨s, hget, ?_⟩
    rintro rfl
    exact hctx.status c hget
  cases kind with
  | controlState =>
    constructor
    · rintro ⟨c, hc, -⟩ ⟨-, rfl⟩
      cases hc
    · intro hne
      have hcontrols : controls ≠ [] := fun hnil => hne ⟨rfl, hnil⟩
      obtain ⟨c, hc⟩ := List.exists_mem_of_ne_nil _ hcontrols
      exact ⟨_, List.mem_map_of_mem hc, hok _ _ (h _ (List.mem_map_of_mem hc))⟩
  | controlAny =>
    obtain ⟨c, hc, hpass⟩ := h
    exact iff_of_true ⟨c, hc, hok _ c hpass⟩ (fun hk => Kind.noConfusion hk.1)
  | evidencePresent =>
    obtain ⟨c, hc, hcur⟩ := h
    exact iff_of_true ⟨c, hc, hctx.evidence c hcur⟩ (fun hk => Kind.noConfusion hk.1)
  | _ => exact iff_of_true trivial (fun hk => Kind.noConfusion hk.1)

end Concord.Fedramp20x
