import Concord.Fedramp20x.Context

/-!
# KSI credit is monotone

`evaluate_rule` and `build_context` of `ccf/fedramp20x/validation.py`. A leaf only looks for what
is there, and `any_of` takes the best of what is under it, so a context that has all that another
has gives no lower verdict (`evaluateRule_mono`). A control test is credited where every test that
names the control passed, so one more test that did not pass takes credit away or changes nothing.

A rule accepts the states that it lists and no others: for a rule, a state moves up where it does
not leave what the rule accepts. A list that has with a state each one that `build_context` ranks
higher, as the lists of the catalog do (`upwardClosed_catalog`), is one that no state leaves as its
rank goes up.
-/

namespace Concord.Fedramp20x

open Concord.Python Concord.Governance

/-! ## Better contexts -/

def Rule.accepted : Rule → List Text
  | .mk _ states _ _ _ _ => if states = [] then acceptableDefault else states

def Rule.kind : Rule → Kind
  | .mk kind _ _ _ _ _ => kind

def Rule.DependencyFree (r : Rule) : Prop := ∀ leaf ∈ r.leaves, leaf.kind ≠ .dependencyAuthorized

/-- The second context has all that the first one has, implementation states apart. -/
structure Richer (ctx ctx' : SystemContext) : Prop where
  tests : ∀ c, testedOk ctx c = true → testedOk ctx' c = true
  evidence : ∀ c, ctx.controlEvidence.get? c = some true → ctx'.controlEvidence.get? c = some true
  profile : ∀ field, truthy ((ctx.profile.get? field).getD none) = true →
    truthy ((ctx'.profile.get? field).getD none) = true
  captures : ctx.captures ⊆ ctx'.captures

/-- And no state leaves what the rule accepts. -/
structure Improves (r : Rule) (ctx ctx' : SystemContext) : Prop extends Richer ctx ctx' where
  status : ∀ leaf ∈ r.leaves, ∀ c, statusOk (ctx.implStatus.get? c) leaf.accepted = true →
    statusOk (ctx'.implStatus.get? c) leaf.accepted = true

/-- The state is the same, or is ranked higher. -/
def Higher (old new : Option Text) : Prop :=
  ∀ s, old = some s → ∃ s', new = some s' ∧ (s' = s ∨ implRank s < implRank s')

/-- With a state, the list has each state that is ranked higher. -/
def UpwardClosed (states : List Text) : Prop :=
  ∀ s ∈ states, ∀ s', implRank s < implRank s' → s' ∈ states

theorem statusOk_iff {status : Option Text} {states : List Text} :
    statusOk status states = true ↔ ∃ s, status = some s ∧ s ∈ states := by
  unfold statusOk
  rw [Option.any_eq_true]
  simp only [decide_eq_true_eq]

theorem accepted_of_higher {states : List Text} (hclosed : UpwardClosed states)
    {old new : Option Text} (h : Higher old new) (hold : statusOk old states = true) :
    statusOk new states = true := by
  obtain ⟨s, hs, hmem⟩ := statusOk_iff.mp hold
  obtain ⟨s', hs', heq | hrank⟩ := h s hs
  · exact statusOk_iff.mpr ⟨s', hs', heq ▸ hmem⟩
  · exact statusOk_iff.mpr ⟨s', hs', hclosed s hmem s' hrank⟩

theorem implRank_above {s : Text} (h : 3 < implRank s) :
    s = ImplStatus.implemented.text ∨ s = ImplStatus.inherited.text := by
  by_contra hne
  rw [not_or] at hne
  unfold implRank at h
  rw [if_neg hne.1, if_neg hne.2] at h
  split at h
  · exact absurd h (by decide)
  · split at h
    · exact absurd h (by decide)
    · split at h <;> exact absurd h (by decide)

theorem upwardClosed_of_top {states : List Text} (hlow : ∀ s ∈ states, 3 ≤ implRank s)
    (himplemented : ImplStatus.implemented.text ∈ states)
    (hinherited : ImplStatus.inherited.text ∈ states) : UpwardClosed states := by
  intro s hs s' hlt
  obtain rfl | rfl := implRank_above ((hlow s hs).trans_lt hlt)
  · exact himplemented
  · exact hinherited

theorem upwardClosed_catalog : UpwardClosed acceptableDefault ∧
    UpwardClosed (acceptableDefault ++ [ImplStatus.partially.text]) :=
  ⟨upwardClosed_of_top (by decide) (by decide) (by decide),
    upwardClosed_of_top (by decide) (by decide) (by decide)⟩

theorem Richer.improves {r : Rule} {ctx ctx' : SystemContext} (h : Richer ctx ctx')
    (hclosed : ∀ leaf ∈ r.leaves, UpwardClosed leaf.accepted)
    (hup : ∀ c, Higher (ctx.implStatus.get? c) (ctx'.implStatus.get? c)) : Improves r ctx ctx' :=
  { h with
    status := fun leaf hleaf c hc => accepted_of_higher (hclosed leaf hleaf) (hup c) hc }

/-! ## Leaves -/

section Leaves

variable {lib : Strings} {ctx ctx' : SystemContext}

theorem controlVerdict_rank (kind : Kind) (states controls : List Text) :
    verdictRank (controlVerdict lib ctx kind states controls).status =
      if enoughControls kind (controls.filter (controlOk ctx states))
          (controls.filter fun c => !controlOk ctx states c) = true then 4
      else if controls.filter (controlOk ctx states) ≠ [] then 3 else 1 := by
  unfold controlVerdict
  dsimp only
  split
  · rfl
  · split <;> rfl

theorem controlVerdict_mono (kind : Kind) {states : List Text} (controls : List Text)
    (h : ∀ c, controlOk ctx states c = true → controlOk ctx' states c = true) :
    verdictRank (controlVerdict lib ctx kind states controls).status ≤
      verdictRank (controlVerdict lib ctx' kind states controls).status := by
  have hmissing : controls.filter (fun c => !controlOk ctx states c) = [] →
      controls.filter (fun c => !controlOk ctx' states c) = [] := by
    simp only [List.filter_eq_nil_iff, Bool.not_eq_true', Bool.not_eq_false]
    exact fun hall c hc => h c (hall c hc)
  have hsatisfied : controls.filter (controlOk ctx states) ≠ [] →
      controls.filter (controlOk ctx' states) ≠ [] := by
    simp only [ne_eq, List.filter_eq_nil_iff, not_forall, not_not]
    exact fun ⟨c, hc, hok⟩ => ⟨c, hc, h c hok⟩
  have henough : enoughControls kind (controls.filter (controlOk ctx states))
        (controls.filter fun c => !controlOk ctx states c) = true →
      enoughControls kind (controls.filter (controlOk ctx' states))
        (controls.filter fun c => !controlOk ctx' states c) = true := by
    unfold enoughControls
    split
    · simpa only [decide_eq_true_eq, List.length_eq_zero_iff] using hmissing
    · simpa only [decide_eq_true_eq, gt_iff_lt, List.length_pos_iff] using hsatisfied
  rw [controlVerdict_rank, controlVerdict_rank]
  by_cases hok : enoughControls kind (controls.filter (controlOk ctx states))
      (controls.filter fun c => !controlOk ctx states c) = true
  · rw [if_pos hok, if_pos (henough hok)]
  · rw [if_neg hok]
    by_cases hsome : controls.filter (controlOk ctx states) ≠ []
    · rw [if_pos hsome, if_pos (hsatisfied hsome)]
      split <;> decide
    · rw [if_neg hsome]
      split
      · decide
      · split <;> decide

theorem rank_mono_of_pass {v v' : Verdict} {low : ValidationStatus} (hlow : v.status = .pass ∨
    v.status = low) (hlow' : v'.status = .pass ∨ v'.status = low)
    (h : v.status = .pass → v'.status = .pass) : verdictRank v.status ≤ verdictRank v'.status := by
  obtain hv | hv := hlow
  · rw [hv, h hv]
  · rw [hv]
    obtain hv' | hv' := hlow'
    · rw [hv']
      cases low <;> decide
    · rw [hv']

theorem evidenceVerdict_status (controls : List Text) :
    (evidenceVerdict lib ctx controls).status = .pass ∨
      (evidenceVerdict lib ctx controls).status = .fail := by
  unfold evidenceVerdict
  dsimp only
  split
  · exact Or.inl rfl
  · exact Or.inr rfl

theorem profileVerdict_status (field : Text) :
    (profileVerdict ctx field).status = .pass ∨ (profileVerdict ctx field).status = .fail := by
  unfold profileVerdict
  split
  · exact Or.inl rfl
  · exact Or.inr rfl

theorem captureVerdict_status (captures : List Text) :
    (captureVerdict ctx captures).status = .pass ∨
      (captureVerdict ctx captures).status = .manualReviewRequired := by
  unfold captureVerdict
  split
  · exact Or.inl rfl
  · exact Or.inr rfl

section Shape

variable {kind : Kind} {states controls : List Text} {rules : List Rule} {field : Text}
  {captures : List Text}

theorem mem_leaves_self (hkind : kind ≠ .anyOf) :
    Rule.mk kind states controls rules field captures ∈
      (Rule.mk kind states controls rules field captures).leaves := by
  unfold Rule.leaves
  rw [if_neg hkind]
  exact List.mem_singleton_self _

theorem mem_leaves_of_mem (hkind : kind = .anyOf) {r leaf : Rule} (hr : r ∈ rules)
    (hleaf : leaf ∈ r.leaves) :
    leaf ∈ (Rule.mk kind states controls rules field captures).leaves := by
  unfold Rule.leaves
  rw [if_pos hkind]
  exact mem_leavesOf.mpr ⟨r, hr, hleaf⟩

end Shape

theorem Improves.controlOk {r leaf : Rule} (h : Improves r ctx ctx') (hleaf : leaf ∈ r.leaves)
    {c : Text} (hc : controlOk ctx leaf.accepted c = true) :
    controlOk ctx' leaf.accepted c = true := by
  unfold Fedramp20x.controlOk at hc ⊢
  rw [Bool.or_eq_true] at hc ⊢
  exact hc.imp (h.status leaf hleaf c) (h.tests c)

theorem leaf_mono {kind : Kind} {states controls : List Text} {rules : List Rule} {field : Text}
    {captures : List Text} (hkind : kind ≠ .anyOf)
    (hdeps : kind = .dependencyAuthorized → ctx'.dependencies = ctx.dependencies)
    (h : Improves (.mk kind states controls rules field captures) ctx ctx') :
    verdictRank (leafVerdict lib ctx kind states controls field captures).status ≤
      verdictRank (leafVerdict lib ctx' kind states controls field captures).status := by
  have hcontrols : ∀ c,
      controlOk ctx (Rule.mk kind states controls rules field captures).accepted c = true →
      controlOk ctx' (Rule.mk kind states controls rules field captures).accepted c = true :=
    fun c hc => h.controlOk (mem_leaves_self hkind) hc
  cases kind with
  | manual => exact le_rfl
  | anyOf => exact absurd rfl hkind
  | unknown name => exact le_rfl
  | controlState => exact controlVerdict_mono .controlState _ hcontrols
  | controlAny => exact controlVerdict_mono .controlAny _ hcontrols
  | evidencePresent =>
    refine rank_mono_of_pass (evidenceVerdict_status _) (evidenceVerdict_status _) fun hpass => ?_
    obtain ⟨c, hc, hevidence⟩ := evidenceVerdict_pass.mp hpass
    exact evidenceVerdict_pass.mpr ⟨c, hc, h.evidence c hevidence⟩
  | dependencyAuthorized =>
    have hsame : dependencyVerdict lib ctx' = dependencyVerdict lib ctx := by
      unfold dependencyVerdict
      rw [hdeps rfl]
    exact le_of_eq (congrArg (fun v => verdictRank v.status) hsame.symm)
  | profileField =>
    refine rank_mono_of_pass (profileVerdict_status _) (profileVerdict_status _) fun hpass => ?_
    exact profileVerdict_pass.mpr (h.profile field (profileVerdict_pass.mp hpass))
  | connectorCapture =>
    refine rank_mono_of_pass (captureVerdict_status _) (captureVerdict_status _) fun hpass => ?_
    obtain ⟨hne, hsub⟩ := captureVerdict_pass.mp hpass
    exact captureVerdict_pass.mpr ⟨hne, List.Subset.trans hsub h.captures⟩

end Leaves

/-! ## The tree -/

section Tree

variable {lib : Strings} {ctx ctx' : SystemContext}

theorem best_mem (v : Verdict) (rest : List Verdict) : best v rest ∈ v :: rest := by
  induction rest generalizing v with
  | nil => exact List.mem_cons_self
  | cons w rest ih =>
    have hstep : best v (w :: rest) =
        best (if verdictRank v.status < verdictRank w.status then w else v) rest := rfl
    rw [hstep]
    split
    · exact List.mem_cons_of_mem v (ih w)
    · obtain heq | hmem := List.mem_cons.mp (ih v)
      · rw [heq]
        exact List.mem_cons_self
      · exact List.mem_cons_of_mem v (List.mem_cons_of_mem w hmem)

theorem rank_le_best (v : Verdict) (rest : List Verdict) :
    ∀ w ∈ v :: rest, verdictRank w.status ≤ verdictRank (best v rest).status := by
  induction rest generalizing v with
  | nil => exact fun w hw => le_of_eq (by rw [List.mem_singleton.mp hw]; rfl)
  | cons u rest ih =>
    have hstep : best v (u :: rest) =
        best (if verdictRank v.status < verdictRank u.status then u else v) rest := rfl
    rw [hstep]
    simp only [List.forall_mem_cons]
    split
    · rename_i hlt
      have hu := ih u u List.mem_cons_self
      exact ⟨hlt.le.trans hu, hu, fun w hw => ih u w (List.mem_cons_of_mem u hw)⟩
    · rename_i hle
      have hv := ih v v List.mem_cons_self
      exact ⟨hv, (Nat.le_of_not_lt hle).trans hv, fun w hw => ih v w (List.mem_cons_of_mem v hw)⟩

theorem Improves.of_mem {kind : Kind} {states controls : List Text} {rules : List Rule}
    {field : Text} {captures : List Text} (hkind : kind = .anyOf) {r : Rule} (hr : r ∈ rules)
    (h : Improves (.mk kind states controls rules field captures) ctx ctx') :
    Improves r ctx ctx' :=
  { h with
    status := fun leaf hleaf => h.status leaf (mem_leaves_of_mem hkind hr hleaf) }

/-- Where no leaf asks for dependencies, or they are the same. -/
def SameDependencies (r : Rule) (ctx ctx' : SystemContext) : Prop :=
  r.DependencyFree ∨ ctx'.dependencies = ctx.dependencies

theorem SameDependencies.of_mem {kind : Kind} {states controls : List Text} {rules : List Rule}
    {field : Text} {captures : List Text} (hkind : kind = .anyOf) {r : Rule} (hr : r ∈ rules)
    (h : SameDependencies (.mk kind states controls rules field captures) ctx ctx') :
    SameDependencies r ctx ctx' :=
  h.imp_left fun hfree leaf hleaf => hfree leaf (mem_leaves_of_mem hkind hr hleaf)

theorem anyOf_mono {rules : List Rule}
    (h : ∀ r ∈ rules, verdictRank (evaluateRule lib ctx r).status ≤
      verdictRank (evaluateRule lib ctx' r).status) :
    verdictRank (match evaluateRules lib ctx rules with
        | [] => noSubRules
        | v :: rest => best v rest).status ≤
      verdictRank (match evaluateRules lib ctx' rules with
        | [] => noSubRules
        | v :: rest => best v rest).status := by
  rw [evaluateRules_eq_map, evaluateRules_eq_map]
  cases rules with
  | nil => exact le_rfl
  | cons r rules =>
    simp only [List.map_cons]
    -- the rule whose verdict was the best has a verdict in the other context too
    have hbest := best_mem (evaluateRule lib ctx r) (rules.map (evaluateRule lib ctx))
    rw [← List.map_cons] at hbest
    obtain ⟨q, hq, heq⟩ := List.mem_map.mp hbest
    rw [← heq]
    refine (h q hq).trans (rank_le_best _ _ _ ?_)
    rw [← List.map_cons]
    exact List.mem_map_of_mem hq

mutual

/-- **A better context gives no lower verdict**, by induction over the tree. -/
theorem evaluateRule_mono : ∀ r : Rule, SameDependencies r ctx ctx' → Improves r ctx ctx' →
    verdictRank (evaluateRule lib ctx r).status ≤ verdictRank (evaluateRule lib ctx' r).status
  | .mk kind states controls rules field captures => fun hdeps h => by
    by_cases hk : kind = .anyOf
    · have hsub := evaluateRules_mono rules (fun r hr => hdeps.of_mem hk hr)
        fun r hr => h.of_mem hk hr
      unfold evaluateRule
      rw [if_pos hk, if_pos hk]
      exact anyOf_mono hsub
    · unfold evaluateRule
      rw [if_neg hk, if_neg hk]
      refine leaf_mono hk (fun hkind => hdeps.resolve_left fun hfree => ?_) h
      exact hfree (.mk kind states controls rules field captures) (mem_leaves_self hk) hkind

theorem evaluateRules_mono : ∀ rules : List Rule,
    (∀ r ∈ rules, SameDependencies r ctx ctx') → (∀ r ∈ rules, Improves r ctx ctx') →
    ∀ r ∈ rules, verdictRank (evaluateRule lib ctx r).status ≤
      verdictRank (evaluateRule lib ctx' r).status
  | [] => fun _ _ _ h => nomatch h
  | r :: rules => fun hdeps h q hq => by
    rcases List.mem_cons.mp hq with heq | hq
    · rw [heq]
      exact evaluateRule_mono r (hdeps r List.mem_cons_self) (h r List.mem_cons_self)
    · exact evaluateRules_mono rules (fun r hr => hdeps r (List.mem_cons_of_mem _ hr))
        (fun r hr => h r (List.mem_cons_of_mem _ hr)) q hq

end

end Tree

/-! ## Control tests -/

section Tests

variable {lib : Strings}

def TestRow.Names (lib : Strings) (t : TestRow) (c : Text) : Prop :=
  c ∈ t.attributed.map (normalizeControl lib)

/-- Some test names the control, and each one that does passed. -/
def Credited (lib : Strings) (tests : List TestRow) (c : Text) : Prop :=
  (∃ t ∈ tests, t.Names lib c) ∧ ∀ t ∈ tests, t.Names lib c → t.lastStatus = "pass".toList

/-- The statuses gathered for a control, and whether there is an entry for it. -/
structure Gathers (d : Dict Text (List Text)) (c : Text) (named : Prop) (statuses : Text → Prop) :
    Prop where
  entry : (d.get? c).isSome = true ↔ named
  statuses : ∀ s, s ∈ (d.get? c).getD [] ↔ statuses s

theorem gathers_attributed (lib : Strings) {d : Dict Text (List Text)} {c : Text} {named : Prop}
    {statuses : Text → Prop} (h : Gathers d c named statuses) (status : Text)
    (attributed : List Text) :
    Gathers (attributed.foldl (fun d a => d.set (normalizeControl lib a)
        ((d.get? (normalizeControl lib a)).getD [] ++ [status])) d) c
      (named ∨ c ∈ attributed.map (normalizeControl lib))
      fun s => statuses s ∨ c ∈ attributed.map (normalizeControl lib) ∧ s = status := by
  induction attributed generalizing d named statuses with
  | nil => simpa using h
  | cons a rest ih =>
    rw [List.foldl_cons]
    have hstep : Gathers (d.set (normalizeControl lib a)
          ((d.get? (normalizeControl lib a)).getD [] ++ [status])) c
        (named ∨ c = normalizeControl lib a)
        fun s => statuses s ∨ c = normalizeControl lib a ∧ s = status := by
      by_cases hc : normalizeControl lib a = c
      · subst hc
        refine ⟨?_, fun s => ?_⟩
        · rw [Dict.get?_set, if_pos rfl]
          simp
        · rw [Dict.get?_set, if_pos rfl, Option.getD_some, List.mem_append, h.statuses]
          simp
      · refine ⟨?_, fun s => ?_⟩
        · rw [Dict.get?_set, if_neg hc, h.entry]
          simp [Ne.symm hc]
        · rw [Dict.get?_set, if_neg hc, h.statuses]
          simp [Ne.symm hc]
    have hrest := ih hstep
    refine ⟨hrest.entry.trans ?_, fun s => (hrest.statuses s).trans ?_⟩
    · rw [List.map_cons, List.mem_cons, or_assoc]
    · rw [List.map_cons, List.mem_cons, or_assoc, or_and_right]

theorem gathers_byControl (lib : Strings) (tests : List TestRow) (c : Text) :
    Gathers (byControl lib tests) c (∃ t ∈ tests, t.Names lib c)
      fun s => ∃ t ∈ tests, t.Names lib c ∧ s = t.lastStatus := by
  have hfold : ∀ (tests : List TestRow) (d : Dict Text (List Text)) (named : Prop)
      (statuses : Text → Prop), Gathers d c named statuses →
      Gathers (tests.foldl (fun d t => t.attributed.foldl (fun d c =>
          d.set (normalizeControl lib c)
            ((d.get? (normalizeControl lib c)).getD [] ++ [t.lastStatus])) d) d) c
        (named ∨ ∃ t ∈ tests, t.Names lib c)
        fun s => statuses s ∨ ∃ t ∈ tests, t.Names lib c ∧ s = t.lastStatus := by
    intro tests
    induction tests with
    | nil => exact fun d named statuses h => by simpa using h
    | cons t rest ih =>
      intro d named statuses h
      have hrest := ih _ _ _ (gathers_attributed lib h t.lastStatus t.attributed)
      refine ⟨hrest.entry.trans ?_, fun s => (hrest.statuses s).trans ?_⟩
      · rw [List.exists_mem_cons_iff, or_assoc]
        rfl
      · rw [List.exists_mem_cons_iff, or_assoc]
        rfl
  have hempty : Gathers (Dict.empty : Dict Text (List Text)) c False fun _ => False :=
    ⟨iff_of_false Bool.false_ne_true id, fun s => iff_of_false List.not_mem_nil id⟩
  unfold byControl
  simpa using hfold tests Dict.empty False (fun _ => False) hempty

theorem testedControls_iff (tests : List TestRow) (c : Text) :
    (testedControls lib tests).get? c = some "pass".toList ↔ Credited lib tests c := by
  have hgathers := gathers_byControl lib tests c
  have hkeys : ((((byControl lib tests).items.filter fun p =>
      p.2.all fun s => s = "pass".toList).map fun p => (p.1, "pass".toList)).map
        Prod.fst).Nodup := by
    rw [List.map_map]
    exact (List.filter_sublist.map _).nodup (byControl lib tests).nodup
  unfold testedControls
  rw [← Dict.mem_items_iff, Dict.items_ofPairs hkeys]
  constructor
  · intro hmem
    obtain ⟨⟨key, statuses⟩, hp, heq⟩ := List.mem_map.mp hmem
    obtain rfl := (Prod.mk.inj heq).1
    obtain ⟨hitem, hall⟩ := List.mem_filter.mp hp
    rw [Dict.mem_items_iff] at hitem
    refine ⟨hgathers.entry.mp (Option.isSome_iff_exists.mpr ⟨_, hitem⟩), fun t ht hnames => ?_⟩
    have hstatus := (hgathers.statuses t.lastStatus).mpr ⟨t, ht, hnames, rfl⟩
    rw [hitem, Option.getD_some] at hstatus
    exact of_decide_eq_true (List.all_eq_true.mp hall _ hstatus)
  · rintro ⟨hnamed, hall⟩
    obtain ⟨statuses, hitem⟩ := Option.isSome_iff_exists.mp (hgathers.entry.mpr hnamed)
    refine List.mem_map.mpr ⟨(c, statuses), List.mem_filter.mpr
      ⟨Dict.mem_items_iff.mpr hitem, List.all_eq_true.mpr fun s hs => decide_eq_true ?_⟩, rfl⟩
    have hmem : s ∈ ((byControl lib tests).get? c).getD [] := by
      rw [hitem]
      exact hs
    obtain ⟨t, ht, hnames, rfl⟩ := (hgathers.statuses s).mp hmem
    exact hall t ht hnames

theorem Credited.of_add {before after : List TestRow} {t : TestRow} {c : Text}
    (ht : t.lastStatus ≠ "pass".toList) (h : Credited lib (before ++ t :: after) c) :
    Credited lib (before ++ after) c := by
  obtain ⟨⟨u, hu, hnames⟩, hall⟩ := h
  refine ⟨⟨u, ?_, hnames⟩, fun v hv => hall v ?_⟩
  · rw [List.mem_append, List.mem_cons] at hu
    rw [List.mem_append]
    refine hu.imp_right fun hu => hu.resolve_left fun heq => ?_
    exact ht (heq ▸ hall u (by rw [heq]; simp) hnames)
  · rw [List.mem_append] at hv
    rw [List.mem_append]
    exact hv.imp_right fun hv => List.mem_cons_of_mem t hv

theorem mem_evidencedControls {controlId : Text} (controlIds : List Text)
    (h : strip controlId ≠ []) : strip controlId ∈ evidencedControls controlId controlIds := by
  unfold evidencedControls
  refine List.foldlRecOn (motive := fun out => strip controlId ∈ out) controlIds _ ?_ ?_
  · rw [if_pos h]
    exact List.mem_singleton_self _
  · intro out hout raw _
    dsimp only
    split
    · exact List.mem_append_left _ hout
    · exact hout

theorem Credited.of_record {before after : List TestRow} {t : TestRow} {status c : Text}
    (hstatus : status ≠ "pass".toList)
    (h : Credited lib (before ++ { t with lastStatus := status } :: after) c) :
    Credited lib (before ++ t :: after) c := by
  -- as no pass, the test bears on all that it bears on as a pass
  have hnot : ¬ t.Names lib c := by
    intro hnames
    refine hstatus (h.2 { t with lastStatus := status } (by simp) ?_)
    obtain ⟨a, ha, rfl⟩ := List.mem_map.mp hnames
    refine List.mem_map_of_mem ?_
    unfold TestRow.attributed at ha ⊢
    rw [if_neg hstatus]
    split at ha
    · split at ha
      · rename_i hne
        rw [List.mem_singleton.mp ha]
        exact mem_evidencedControls _ hne
      · cases ha
    · exact ha
  obtain ⟨⟨u, hu, hnames⟩, hall⟩ := h.of_add hstatus
  have hmem : ∀ v, v ∈ before ++ after → v ∈ before ++ t :: after := fun v hv => by
    rw [List.mem_append] at hv ⊢
    exact hv.imp_right fun hv => List.mem_cons_of_mem t hv
  refine ⟨⟨u, hmem u hu, hnames⟩, fun v hv hv' => ?_⟩
  rw [List.mem_append, List.mem_cons] at hv
  obtain hv | rfl | hv := hv
  · exact hall v (List.mem_append_left _ hv) hv'
  · exact absurd hv' hnot
  · exact hall v (List.mem_append_right _ hv) hv'

theorem buildContext_improves (today : Int) (rows : SystemRows) (r : Rule)
    {tests tests' : List TestRow} (h : ∀ c, Credited lib tests c → Credited lib tests' c) :
    Improves r (buildContext lib today { rows with tests := tests })
      (buildContext lib today { rows with tests := tests' }) where
  status _ _ _ hc := hc
  tests c hc := by
    unfold testedOk at hc ⊢
    rw [decide_eq_true_iff] at hc ⊢
    exact (testedControls_iff tests' c).mpr (h c ((testedControls_iff tests c).mp hc))
  evidence _ hc := hc
  profile _ hf := hf
  captures := List.Subset.refl _

theorem buildContext_mono (today : Int) (rows : SystemRows) (r : Rule)
    {tests tests' : List TestRow} (h : ∀ c, Credited lib tests c → Credited lib tests' c) :
    verdictRank (evaluateRule lib (buildContext lib today { rows with tests := tests }) r).status ≤
      verdictRank
        (evaluateRule lib (buildContext lib today { rows with tests := tests' }) r).status :=
  evaluateRule_mono r (Or.inr rfl) (buildContext_improves today rows r h)

end Tests

/-- **KSI credit is monotone**: a context that has all that another has gives a rule without
dependencies no lower verdict, as does one whose states are ranked higher where the rule accepts
what is ranked higher, and no rule gains from a control test that did not pass, be it a new row or
a new status of a row. -/
theorem ksi_credit_monotone (lib : Strings) :
    (∀ (r : Rule) (ctx ctx' : SystemContext), r.DependencyFree → Improves r ctx ctx' →
      verdictRank (evaluateRule lib ctx r).status ≤
        verdictRank (evaluateRule lib ctx' r).status) ∧
    (∀ (r : Rule) (ctx ctx' : SystemContext), r.DependencyFree → Richer ctx ctx' →
      (∀ leaf ∈ r.leaves, UpwardClosed leaf.accepted) →
      (∀ c, Higher (ctx.implStatus.get? c) (ctx'.implStatus.get? c)) →
      verdictRank (evaluateRule lib ctx r).status ≤
        verdictRank (evaluateRule lib ctx' r).status) ∧
    ∀ (today : Int) (rows : SystemRows) (r : Rule) (before after : List TestRow) (t : TestRow),
      (t.lastStatus ≠ "pass".toList →
        verdictRank (evaluateRule lib
            (buildContext lib today { rows with tests := before ++ t :: after }) r).status ≤
          verdictRank (evaluateRule lib
            (buildContext lib today { rows with tests := before ++ after }) r).status) ∧
      ∀ status : Text, status ≠ "pass".toList →
        verdictRank (evaluateRule lib (buildContext lib today
            { rows with
              tests := before ++ { t with lastStatus := status } :: after }) r).status ≤
          verdictRank (evaluateRule lib
            (buildContext lib today { rows with tests := before ++ t :: after }) r).status := by
  refine ⟨fun r ctx ctx' hfree h => evaluateRule_mono r (Or.inl hfree) h,
    fun r ctx ctx' hfree h hclosed hup =>
      evaluateRule_mono r (Or.inl hfree) (h.improves hclosed hup),
    fun today rows r before after t => ⟨fun ht => ?_, fun status hstatus => ?_⟩⟩
  · exact buildContext_mono today rows r fun c hc => hc.of_add ht
  · exact buildContext_mono today rows r fun c hc => hc.of_record hstatus

end Concord.Fedramp20x
