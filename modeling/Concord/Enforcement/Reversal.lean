import Concord.Enforcement.Plans

/-!
# Runs over one plan

What the connector answered along a run of `approve_plan`, `apply_plan` and
`reverse_plan` over one plan, beside the plan itself. `reverse_plan` sets the status
without a look at the outcomes of its undos, and it is refused on a reversed plan: what
it failed to undo stays in place (`reversed_settled_iff`).

A plan that `create_plan` built makes each of its changes once, on the approval of a second person
(`changes_authorized`).
-/

namespace Concord.Enforcement

open Concord.Python Concord.Governance Concord.Base

/-- A step, and what was recorded of one attempt at it. -/
abbrev Attempt := RemediationStep × StepOutcome

/-- A plan, with every change and every undo that was attempted for it, and the undos
of the last call alone. -/
structure Enforced where
  plan : RemediationPlan
  changes : List Attempt
  undos : List Attempt
  lastUndos : List Attempt

inductive Action
  | approve (c : Call)
  | apply (c : Call)
  | reverse (c : Call)

/-- A granted call; one that is refused leaves everything as it is. -/
def step (w : Enforced) : Action → Option Enforced
  | .approve c => (approvePlan c w.plan).toOption.map fun p => { w with plan := p }
  | .apply c => (applyPlan c w.plan).toOption.map fun p =>
      { w with plan := p, changes := w.changes ++ w.plan.steps.zip p.outcomes }
  | .reverse c => (reversePlan c w.plan).toOption.map fun p =>
      let undos := w.plan.reversible.zip (p.outcomes.drop w.plan.outcomes.length)
      { w with plan := p, undos := w.undos ++ undos, lastUndos := undos }

/-- Before the calls of the run. Where the plan was applied before, its outcomes are those
of its steps. -/
def started (p : RemediationPlan) : Enforced := ⟨p, p.steps.zip p.outcomes, [], []⟩

/-- **Reversed means reversed**: a change that may be live has been undone where the
plan says so, and after an undo that failed the plan may be reversed again. -/
structure Settled (w : Enforced) : Prop where
  undone : w.plan.status = .reversed → ∀ e ∈ w.changes, e.2.status.live = true →
    ∃ u ∈ w.undos, u.1 = e.1 ∧ u.2.status = .applied
  retriable : (∃ u ∈ w.lastUndos, u.2.status ≠ .applied) → w.plan.CanReverse

/-- The reversal, if it is granted, reaches every step that may be live, and the
provider undoes each step it is asked for. -/
def Undoes (w : Enforced) : Action → Prop
  | .reverse c => ∀ chosen p', c.provider = some chosen → reversePlan c w.plan = .ok p' →
      (∀ e ∈ w.changes, e.2.status.live = true → e.1 ∈ w.plan.reversible) ∧
        ∀ i s, w.plan.reversible[i]? = some s → Answers chosen.reverse i s .applied
  | _ => True

/-- Nothing was undone of a plan that is not reversed. -/
def Untouched (w : Enforced) : Prop :=
  w.plan.status ≠ .reversed → w.undos = [] ∧ w.lastUndos = []

variable {w w' : Enforced} {a : Action}

theorem Untouched.settled (h : Untouched w) (hstatus : w.plan.status ≠ .reversed) :
    Settled w := by
  refine ⟨fun hrev => absurd hrev hstatus, ?_⟩
  rintro ⟨u, hu, -⟩
  rw [(h hstatus).2] at hu
  cases hu

/-! ## What a call does -/

/-- A call approves, applies or reverses the plan. -/
inductive Called (w : Enforced) : Action → Enforced → Prop
  | approved (c : Call) (p : RemediationPlan) (status : p.status = .approved) :
      Called w (.approve c) { w with plan := p }
  | applied (c : Call) (chosen : Provider) (provider : c.provider = some chosen)
      (before : w.plan.status = .approved) :
      Called w (.apply c)
        { w with
          plan := w.plan.applied c chosen
          changes := w.changes ++
            w.plan.steps.zip (runSteps chosen.apply c.isoformat w.plan.steps) }
  | reversed (c : Call) (chosen : Provider) (provider : c.provider = some chosen)
      (before : w.plan.status = .applied)
      (granted : reversePlan c w.plan = .ok (w.plan.undone c chosen)) :
      Called w (.reverse c)
        { w with
          plan := w.plan.undone c chosen
          undos := w.undos ++
            w.plan.reversible.zip (runSteps chosen.reverse c.isoformat w.plan.reversible)
          lastUndos :=
            w.plan.reversible.zip (runSteps chosen.reverse c.isoformat w.plan.reversible) }

theorem drop_undone (c : Call) (chosen : Provider) (p : RemediationPlan) :
    (p.undone c chosen).outcomes.drop p.outcomes.length =
      runSteps chosen.reverse c.isoformat p.reversible :=
  List.drop_left

theorem approvePlan_eq_ok {c : Call} {p p' : RemediationPlan} (h : approvePlan c p = .ok p') :
    p'.status = .approved := by
  unfold approvePlan at h
  split at h
  · cases h
  · split at h
    · cases h
    · rw [← Except.ok.inj h]

theorem called_of_step (h : step w a = some w') : Called w a w' := by
  cases a with
  | approve c =>
    obtain ⟨p, hp, rfl⟩ := Option.map_eq_some_iff.mp h
    exact .approved c p (approvePlan_eq_ok (toOption_eq_some hp))
  | apply c =>
    obtain ⟨p, hp, rfl⟩ := Option.map_eq_some_iff.mp h
    obtain ⟨hstatus, chosen, hchosen, rfl⟩ := applyPlan_eq_ok (toOption_eq_some hp)
    exact .applied c chosen hchosen hstatus
  | reverse c =>
    obtain ⟨p, hp, rfl⟩ := Option.map_eq_some_iff.mp h
    have hgranted := toOption_eq_some hp
    obtain ⟨hstatus, chosen, hchosen, rfl⟩ := reversePlan_eq_ok hgranted
    show Called w _ { w with
      plan := _
      undos := w.undos ++ w.plan.reversible.zip
        ((w.plan.undone c chosen).outcomes.drop w.plan.outcomes.length)
      lastUndos := w.plan.reversible.zip
        ((w.plan.undone c chosen).outcomes.drop w.plan.outcomes.length) }
    rw [drop_undone]
    exact .reversed c chosen hchosen hstatus hgranted

theorem applied_status_ne (c : Call) (chosen : Provider) (p : RemediationPlan) :
    (p.applied c chosen).status ≠ .reversed := by
  show (if _ then PlanStatus.applied else .failed) ≠ .reversed
  split <;> exact fun h => by cases h

theorem untouched_step (hw : Untouched w) (h : step w a = some w') : Untouched w' := by
  cases called_of_step h with
  | approved c p status =>
    intro _
    -- the plan waits for approval, or the call was refused
    refine hw fun hrev => ?_
    rw [step, approvePlan, hrev] at h
    simp at h
    cases h
  | applied c chosen provider before =>
    intro _
    exact hw (by rw [before]; exact fun h => by cases h)
  | reversed c chosen provider before granted => exact fun hne => absurd rfl hne

theorem mem_zip_runSteps {act : Nat → RemediationStep → Except Text StepOutcome} {now : Text}
    {steps : List RemediationStep} {e : Attempt} :
    e ∈ steps.zip (runSteps act now steps) ↔
      ∃ i s, steps[i]? = some s ∧ e = (s, recordOutcome act now i s) := by
  constructor
  · intro h
    obtain ⟨i, hi⟩ := List.mem_iff_getElem?.mp h
    obtain ⟨hs, ho⟩ := List.getElem?_zip_eq_some.mp hi
    rw [runSteps, List.getElem?_mapIdx, hs, Option.map_some, Option.some.injEq] at ho
    exact ⟨i, e.1, hs, by rw [ho]⟩
  · rintro ⟨i, s, hs, rfl⟩
    refine List.mem_iff_getElem?.mpr ⟨i, List.getElem?_zip_eq_some.mpr ⟨hs, ?_⟩⟩
    rw [runSteps, List.getElem?_mapIdx, hs, Option.map_some]

/-- **A reversal settles the plan if and only if it undoes all there is to undo.** -/
theorem settled_iff_undoes (hw : Untouched w) {c : Call} (h : step w (.reverse c) = some w') :
    Settled w' ↔ Undoes w (.reverse c) := by
  cases called_of_step h with
  | reversed _ chosen provider before granted =>
    have hnone : w.undos = [] := (hw (by rw [before]; exact fun h => by cases h)).1
    have hattempt : ∀ {i s}, w.plan.reversible[i]? = some s →
        (s, recordOutcome chosen.reverse c.isoformat i s) ∈
          w.plan.reversible.zip (runSteps chosen.reverse c.isoformat w.plan.reversible) :=
      fun hs => mem_zip_runSteps.mpr ⟨_, _, hs, rfl⟩
    constructor
    · intro hset chosen' p' hchosen' _
      obtain rfl : chosen' = chosen := Option.some.inj (hchosen'.symm.trans provider)
      constructor
      · intro e he hlive
        obtain ⟨u, hu, heq, -⟩ := hset.undone rfl e he hlive
        replace hu : u ∈ w.undos ++ _ := hu
        rw [hnone, List.nil_append] at hu
        obtain ⟨i, s, hs, rfl⟩ := mem_zip_runSteps.mp hu
        exact heq ▸ List.mem_of_getElem? hs
      · intro i s hs
        -- an undo that failed could be asked for again only of a plan not yet reversed
        by_contra hfail
        have hne : (recordOutcome chosen'.reverse c.isoformat i s).status ≠ .applied :=
          fun heq => hfail ((recordOutcome_status (by decide)).mp heq)
        have hagain := canReverse_iff.mp (hset.retriable ⟨_, hattempt hs, hne⟩)
        cases hagain
    · intro hundo
      obtain ⟨hreach, hall⟩ := hundo chosen _ provider granted
      constructor
      · intro _ e he hlive
        obtain ⟨i, hi⟩ := List.mem_iff_getElem?.mp (hreach e he hlive)
        exact ⟨_, List.mem_append_right _ (hattempt hi), rfl,
          (recordOutcome_status (by decide)).mpr (hall i e.1 hi)⟩
      · rintro ⟨u, hu, hne⟩
        obtain ⟨i, s, hs, rfl⟩ := mem_zip_runSteps.mp hu
        exact absurd ((recordOutcome_status (by decide)).mpr (hall i s hs)) hne

theorem settled_step_iff (hw : Untouched w) (h : step w a = some w') :
    Settled w' ↔ Undoes w a := by
  cases a with
  | reverse c => exact settled_iff_undoes hw h
  | approve c =>
    refine ⟨fun _ => trivial, fun _ => (untouched_step hw h).settled ?_⟩
    cases called_of_step h with
    | approved _ p status => rw [status]; exact fun h => by cases h
  | apply c =>
    refine ⟨fun _ => trivial, fun _ => (untouched_step hw h).settled ?_⟩
    cases called_of_step h with
    | applied _ chosen provider before => exact applied_status_ne c chosen w.plan

/-! ## Runs -/

theorem untouched_started (p : RemediationPlan) : Untouched (started p) :=
  fun _ => ⟨rfl, rfl⟩

/-- **Reversed means reversed, exactly where every granted reversal undoes all there is
to undo.** -/
theorem reversed_settled_iff {p : RemediationPlan} (hp : p.status ≠ .reversed)
    (as : List Action) :
    (∀ bs cs w, as = bs ++ cs → exec step (started p) bs = some w → Settled w) ↔
      Guarded step Undoes (started p) as := by
  constructor
  · intro hall
    refine guarded_iff.mpr fun bs a cs u heq hrun => ?_
    have hu : Untouched u :=
      exec_invariant (fun _ _ _ => untouched_step) (untouched_started p) hrun
    cases hstep : step u a with
    | none =>
      -- a call that is refused meets the guard
      cases a with
      | approve c => trivial
      | apply c => trivial
      | reverse c =>
        intro chosen p' _ hgranted
        rw [step, hgranted] at hstep
        cases hstep
    | some v =>
      refine (settled_step_iff hu hstep).mp (hall (bs ++ [a]) cs v ?_ ?_)
      · rw [heq, List.append_assoc, List.singleton_append]
      · exact exec_append_eq_some.mpr ⟨u, hrun, by rw [exec_cons, hstep]; rfl⟩
  · intro hg bs cs w heq hrun
    rw [heq] at hg
    refine (guarded_invariant (I := fun u => Untouched u ∧ Settled u) ?_
      ⟨untouched_started p, (untouched_started p).settled hp⟩ hg.take hrun).2
    rintro u a v ⟨hu, -⟩ hguard hstep
    exact ⟨untouched_step hu hstep, (settled_step_iff hu hstep).mpr hguard⟩

theorem reversed_settled_iff_account :
    (∀ bs cs w, [.apply (callWith .applied .applied), .reverse (callWith .applied .applied)] =
        bs ++ cs → exec step (started (approvedPlan [accountStep])) bs = some w → Settled w) ↔
      Guarded step Undoes (started (approvedPlan [accountStep]))
        [.apply (callWith .applied .applied), .reverse (callWith .applied .applied)] :=
  reversed_settled_iff (by decide) _

/-- The account stays disabled and the plan says reversed. -/
theorem reversal_failed_not_settled :
    ¬∀ p as w, p.status ≠ .reversed → exec step (started p) as = some w → Settled w := by
  intro h
  let c := callWith .applied .failed
  have hset := h (approvedPlan [accountStep]) [.apply c, .reverse c] _ (by decide) rfl
  obtain ⟨u, hu, -, happlied⟩ := hset.undone rfl _ List.mem_cons_self rfl
  obtain rfl := List.mem_singleton.mp hu
  exact nomatch happlied

/-! ## From the creation on -/

/-- What a plan has come to after some calls. Its steps stay; it has changed nothing but on the
approval of a second person, each step once, in a call whose limits it met; and it has undone only
what may have been changed. -/
structure Authorized (p : RemediationPlan) (as : List Action) (w : Enforced) : Prop where
  steps : w.plan.steps = p.steps
  count : w.plan.resourceCount = p.resourceCount
  requester : w.plan.requestedBy = p.requestedBy
  idle : w.plan.status = .pendingApproval ∨ w.plan.status = .approved →
    w.changes = [] ∧ w.undos = []
  approved : w.plan.status = .approved ∨ w.changes ≠ [] → ∃ c, .approve c ∈ as ∧
    canApprove p.requestedBy c.actor false = true ∧ w.plan.approvedBy = c.actor ∧
      w.plan.approvedAt = some c.now
  changed : w.changes ≠ [] → w.changes.map Prod.fst = p.steps ∧ ∃ c, .apply c ∈ as ∧
    p.resourceCount ≤ c.maxResources ∧ ∀ at₀ ∈ w.plan.approvedAt, c.approvalMaxAgeHours ≠ 0 →
      c.now - at₀ ≤ c.approvalMaxAgeHours * 3600
  reported : w.plan.status = .applied → w.plan.outcomes = w.changes.map Prod.snd
  undone : ∀ u ∈ w.undos, u.1 ∈ p.steps ∧
    ∃ e ∈ w.changes, e.2.status.live = true ∧ e.2.resourceId = u.1.resourceId

section Creation

variable {c : Call} {p p' : RemediationPlan} {as : List Action}

theorem approvePlan_spec (h : approvePlan c p = .ok p') : p.status = .pendingApproval ∧
    canApprove p.requestedBy c.actor false = true ∧
    p' = { p with status := .approved, approvedBy := c.actor, approvedAt := some c.now } := by
  unfold approvePlan at h
  split at h
  · cases h
  · rename_i hstatus
    split at h
    · cases h
    · rename_i hallowed
      exact ⟨of_not_not hstatus, by simpa using hallowed, (Except.ok.inj h).symm⟩

/-- The limits that `apply_plan` looks at. -/
theorem applyPlan_limits (h : applyPlan c p = .ok p') : p.resourceCount ≤ c.maxResources ∧
    ∀ at₀ ∈ p.approvedAt, c.approvalMaxAgeHours ≠ 0 →
      c.now - at₀ ≤ c.approvalMaxAgeHours * 3600 := by
  unfold applyPlan at h
  split at h
  · cases h
  · split at h
    · cases h
    · rename_i hfresh
      obtain ⟨chosen, hchosen, -⟩ := Base.bind_eq_ok.mp h
      constructor
      · unfold recheck at hchosen
        split at hchosen
        · cases hchosen
        · split at hchosen
          · cases hchosen
          · split at hchosen
            · cases hchosen
            · exact not_lt.mp ‹_›
      · intro at₀ hat hlimit
        rw [stale, Option.mem_def.mp hat] at hfresh
        by_contra hold
        exact hfresh (decide_eq_true ⟨hlimit, not_le.mp hold⟩)

theorem buildSteps_spec {findings : List ResourceFinding} {provider : Provider} {limit : Int}
    {only : Option (List Text)} {steps : List RemediationStep}
    (h : buildSteps findings provider limit only = .ok steps) :
    (∀ s ∈ steps, s.currentState ≠ []) ∧ steps ≠ [] ∧ steps.length ≤ limit := by
  unfold buildSteps at h
  dsimp only at h
  rw [ite_eq_iff] at h
  obtain ⟨-, h⟩ | ⟨-, h⟩ := h
  · cases h
  · split at h
    · cases h
    · rename_i planned _
      generalize hkept : planned.filter (fun s => !s.currentState.isEmpty) = kept at h
      split at h
      · cases h
      · rename_i hsome
        split at h
        · cases h
        · obtain rfl := Except.ok.inj h
          refine ⟨fun s hs => ?_, fun hnil => hsome (List.isEmpty_iff.mpr hnil), not_lt.mp ‹_›⟩
          rw [← hkept] at hs
          simpa using (List.mem_filter.mp hs).2

/-- A plan that is created is refused, without steps, or waits for approval. -/
theorem createPlan_spec {id : Nat} {system : System} {checkKey : Text} {only : Option (List Text)}
    {recorded : Option (Nat × List ResourceFinding)}
    (h : createPlan c id system checkKey only recorded = .ok p) :
    p.requestedBy = c.actor ∧ p.outcomes = [] ∧ p.resourceCount = p.steps.length ∧
      (∀ s ∈ p.steps, s.currentState ≠ []) ∧
      (p.status = .refused ∧ p.steps = [] ∨
        p.status = .pendingApproval ∧ p.steps ≠ [] ∧ p.steps.length ≤ c.maxResources) := by
  unfold createPlan at h
  split at h
  · cases h
  · dsimp only at h
    split at h
    · obtain rfl := Except.ok.inj h
      exact ⟨rfl, rfl, rfl, (fun s hs => by cases hs), .inl ⟨rfl, rfl⟩⟩
    · split at h
      · obtain rfl := Except.ok.inj h
        exact ⟨rfl, rfl, rfl, (fun s hs => by cases hs), .inl ⟨rfl, rfl⟩⟩
      · split at h
        · obtain rfl := Except.ok.inj h
          exact ⟨rfl, rfl, rfl, (fun s hs => by cases hs), .inl ⟨rfl, rfl⟩⟩
        · rename_i steps hsteps
          obtain rfl := Except.ok.inj h
          obtain ⟨hcaptured, hne, hlimit⟩ := buildSteps_spec hsteps
          exact ⟨rfl, rfl, rfl, hcaptured, .inr ⟨rfl, hne, hlimit⟩⟩

theorem authorized_step (hw : Authorized p as w) (h : step w a = some w') :
    Authorized p (as ++ [a]) w' := by
  have hlast : a ∈ as ++ [a] := List.mem_append_right as List.mem_cons_self
  have hbefore : ∀ {b : Action}, b ∈ as → b ∈ as ++ [a] := List.mem_append_left [a]
  cases a with
  | approve c =>
    obtain ⟨q, hq, rfl⟩ := Option.map_eq_some_iff.mp h
    obtain ⟨hstatus, hallowed, rfl⟩ := approvePlan_spec (toOption_eq_some hq)
    obtain ⟨hchanges, hundos⟩ := hw.idle (.inl hstatus)
    exact {
      steps := hw.steps
      count := hw.count
      requester := hw.requester
      idle := fun _ => ⟨hchanges, hundos⟩
      approved := fun _ => ⟨c, hlast, hw.requester ▸ hallowed, rfl, rfl⟩
      changed := fun hne => absurd hchanges hne
      reported := fun happlied => by cases happlied
      undone := fun u hu => by
        rw [show w.undos = [] from hundos] at hu
        cases hu }
  | apply c =>
    obtain ⟨q, hq, rfl⟩ := Option.map_eq_some_iff.mp h
    have hgranted := toOption_eq_some hq
    obtain ⟨hstatus, chosen, -, rfl⟩ := applyPlan_eq_ok hgranted
    obtain ⟨hcount, hage⟩ := applyPlan_limits hgranted
    obtain ⟨hchanges, hundos⟩ := hw.idle (.inr hstatus)
    obtain ⟨c₀, hc₀, happroved⟩ := hw.approved (.inl hstatus)
    have hlength : w.plan.steps.length =
        (runSteps chosen.apply c.isoformat w.plan.steps).length := by
      rw [runSteps, List.length_mapIdx]
    have hended : (w.plan.applied c chosen).status = .applied ∨
        (w.plan.applied c chosen).status = .failed := by
      show (if _ then PlanStatus.applied else .failed) = _ ∨ (if _ then _ else _) = _
      split
      · exact .inl rfl
      · exact .inr rfl
    exact {
      steps := hw.steps
      count := hw.count
      requester := hw.requester
      idle := fun hidle => by
        rcases hended with he | he <;> rcases hidle with hi | hi <;> cases he.symm.trans hi
      approved := fun _ => ⟨c₀, hbefore hc₀, happroved⟩
      changed := fun _ => by
        refine ⟨?_, c, hlast, hw.count ▸ hcount, hage⟩
        show (w.changes ++ w.plan.steps.zip _).map Prod.fst = p.steps
        rw [hchanges, List.nil_append, ← hw.steps]
        exact List.map_fst_zip hlength.le
      reported := fun _ => by
        show _ = (w.changes ++ w.plan.steps.zip _).map Prod.snd
        rw [hchanges, List.nil_append]
        exact (List.map_snd_zip hlength.ge).symm
      undone := fun u hu => by
        rw [show w.undos = [] from hundos] at hu
        cases hu }
  | reverse c =>
    have hcalled := called_of_step h
    cases hcalled with
    | reversed _ chosen provider before granted =>
      exact {
        steps := hw.steps
        count := hw.count
        requester := hw.requester
        idle := fun hidle => by rcases hidle with hi | hi <;> cases hi
        approved := fun hne => by
          obtain ⟨c₀, hc₀, happroved⟩ := hw.approved (.inr (hne.resolve_left fun h => by cases h))
          exact ⟨c₀, hbefore hc₀, happroved⟩
        changed := fun hne => by
          obtain ⟨hsteps, c₀, hc₀, hlimits⟩ := hw.changed hne
          exact ⟨hsteps, c₀, hbefore hc₀, hlimits⟩
        reported := fun happlied => by cases happlied
        undone := fun u hu => by
          rcases List.mem_append.mp hu with hu | hu
          · exact hw.undone u hu
          · -- what is undone is a step of a resource with a live outcome
            obtain ⟨i, s, hs, rfl⟩ := mem_zip_runSteps.mp hu
            obtain ⟨hstep, hlive⟩ := List.mem_filter.mp (List.mem_of_getElem? hs)
            obtain ⟨o, ho, hid⟩ := List.mem_map.mp (of_decide_eq_true hlive)
            obtain ⟨hmem, hlive⟩ := List.mem_filter.mp ho
            rw [hw.reported before] at hmem
            obtain ⟨e, he, rfl⟩ := List.mem_map.mp hmem
            exact ⟨hw.steps ▸ hstep, e, he, hlive, hid⟩ }

theorem authorized_run {bs : List Action} (hw : Authorized p bs w)
    (hrun : exec step w as = some w') : Authorized p (bs ++ as) w' := by
  induction as generalizing bs w with
  | nil =>
    obtain rfl := Option.some.inj hrun
    rwa [List.append_nil]
  | cons a as ih =>
    obtain ⟨v, hstep, hrest⟩ := exec_cons_eq_some.mp hrun
    rw [List.append_cons]
    exact ih (authorized_step hw hstep) hrest

/-- **Nothing is changed without a second person**: whatever calls follow on the creation of a
plan, under whatever settings each of them is made. A plan that was refused is never applied. -/
theorem changes_authorized {id : Nat} {system : System} {checkKey : Text}
    {only : Option (List Text)} {recorded : Option (Nat × List ResourceFinding)}
    (hcreated : createPlan c id system checkKey only recorded = .ok p)
    (hrun : exec step (started p) as = some w) :
    p.requestedBy = c.actor ∧ p.resourceCount = p.steps.length ∧
      (∀ s ∈ p.steps, s.currentState ≠ []) ∧ (p.status = .refused → as = []) ∧
      Authorized p as w := by
  obtain ⟨hactor, houtcomes, hcount, hcaptured, hstatus⟩ := createPlan_spec hcreated
  have hnone : (started p).changes = [] := by
    rw [started, houtcomes, List.zip_nil_right]
  have hstart : Authorized p [] (started p) := {
    steps := rfl
    count := rfl
    requester := rfl
    idle := fun _ => ⟨hnone, rfl⟩
    approved := fun h => by
      rcases h with h | h
      · rcases hstatus with hs | hs
        · cases hs.1.symm.trans h
        · cases hs.1.symm.trans h
      · exact absurd hnone h
    changed := fun h => absurd hnone h
    reported := fun _ => by
      rw [hnone]
      exact houtcomes
    undone := fun u hu => by cases hu }
  refine ⟨hactor, hcount, hcaptured, fun hrefused => ?_, authorized_run hstart hrun⟩
  cases as with
  | nil => rfl
  | cons a as =>
    obtain ⟨v, hstep, -⟩ := exec_cons_eq_some.mp hrun
    cases a with
    | approve c =>
      obtain ⟨q, hq, -⟩ := Option.map_eq_some_iff.mp hstep
      cases hrefused.symm.trans (approvePlan_spec (toOption_eq_some hq)).1
    | apply c =>
      obtain ⟨q, hq, -⟩ := Option.map_eq_some_iff.mp hstep
      cases hrefused.symm.trans (applyPlan_eq_ok (toOption_eq_some hq)).1
    | reverse c =>
      obtain ⟨q, hq, -⟩ := Option.map_eq_some_iff.mp hstep
      cases hrefused.symm.trans (reversePlan_eq_ok (toOption_eq_some hq)).1

end Creation

def planning : Call :=
  { callWith .applied .applied with
    actor := some "ana".toList
    provider := some { accounts .applied .applied with plan := fun _ => .ok [accountStep] } }

def pendingPlan : RemediationPlan :=
  { approvedPlan [accountStep] with
    status := .pendingApproval, approvedBy := none, approvedAt := none }

theorem changes_authorized_account : ∃ w,
    exec step (started pendingPlan) [.approve (callWith .applied .applied),
      .apply (callWith .applied .applied), .reverse (callWith .applied .applied)] = some w ∧
    w.undos.length = 1 ∧ Authorized pendingPlan [.approve (callWith .applied .applied),
      .apply (callWith .applied .applied), .reverse (callWith .applied .applied)] w := by
  have hcreated : createPlan planning 1 ⟨1, some 1⟩ "mfa".toList none (some (1, [])) =
      .ok pendingPlan := rfl
  exact ⟨_, rfl, rfl, (changes_authorized hcreated rfl).2.2.2.2⟩

end Concord.Enforcement
