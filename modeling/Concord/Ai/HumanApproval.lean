import Concord.Ai.Actions

/-!
# One guarded human approval

What a run has written, it has written once, and by the approval of a run that was still
waiting for its review. `mutations_guarded_iff`: so it is in every run of the three routes in
which each commit finds the run as its transaction has loaded it, and each run that waits for
a review has an entity.
-/

namespace Concord.AiActions

open Concord.Base Concord.Python

/-! ## What approval is for -/

/-- The write is of the entity of the run, and of its organisation. -/
def Write.Targets (run : AiActionRun) : Write → Prop
  | .setPoamRemediation poam _ _ => pyInt run.entityId = some poam
  | .createTask t =>
    t.organizationId = run.organizationId ∧ t.entityType = run.entityType ∧
      t.entityId = run.entityId
  | .createControlTest t => t.organizationId = run.organizationId
  | .setResponseSuggestion response _ => pyInt run.entityId = some response

/-- An approval that writes: of a run that waits for it, has an output, is cited where its
action asks for that, and is about an entity of its own organisation. -/
structure MayMutate (db : Tables) (run : AiActionRun) (d : Service.Decision) (write : Write) :
    Prop where
  approved : d.status = .approved
  pendingReview : run.status = .pendingReview
  output : run.output.isSome = true
  cited : ∀ action, getAction run.actionKey = some action → action.citationRequired = true →
    run.citations ≠ []
  owned : db.owner run.entityType run.entityId = .ok run.organizationId
  targets : write.Targets run

/-- A commit leaves the records as they are, or it is such an approval. -/
def Effect.HumanApproved (db : Tables) (s : Store) : Effect → Prop
  | .created c => ((Effect.created c).apply s).records = s.records
  | .decided rid d =>
    match d.applied with
    | none => ((Effect.decided rid d).apply s).records = s.records
    | some applied => ∃ run, s.runs[rid]? = some run ∧ MayMutate db run d applied.write

def Effect.mutates (rid : ℕ) : Effect → Bool
  | .created _ => false
  | .decided r d => r = rid && d.applied.isSome

def writes (l : List Effect) (rid : ℕ) : ℕ := l.countP (Effect.mutates rid)

/-- Every change of the records is one guarded approval, and what waits can be reviewed. -/
structure HumanGuarded (sv : Service) (s₀ s : Store) (l : List Effect) : Prop where
  ledger : Program.Ledger sv.routes (fun s w => w.HumanApproved sv.db s) s₀ s l
  once : ∀ rid, writes l rid ≤ 1
  closed : ∀ (rid : ℕ) (run : AiActionRun), s.runs[rid]? = some run →
    run.status = .rejected ∨ run.status = .blocked → writes l rid = 0
  reviewable : ∀ (rid : ℕ) (run : AiActionRun), s.runs[rid]? = some run →
    run.status = .pendingReview → run.output.isSome = true

/-! ## When it holds -/

/-- A decision finds the run as it was loaded: an approval that writes finds it still waiting,
and owned exactly if its entity is, and another one finds nothing written from it. -/
structure Service.Undisturbed (db : Tables) (run : AiActionRun) (d : Service.Decision) : Prop where
  waiting : d.applied.isSome = true → run.status = .pendingReview
  owned : d.applied.isSome = true → ∀ ownerOrg,
    db.owner run.entityType run.entityId = .ok ownerOrg →
      ownerOrg.isSome = run.organizationId.isSome
  unwritten : d.status ≠ .approved → run.mutationApplied = false

def Service.Finds (sv : Service) (s : Store) : Stage → Prop
  | .created c => c.run.status = .pendingReview →
    sv.db.resolveContext c.run.organizationId c.run.entityType c.run.entityId ≠ .ok .notFound
  | .flushed rid d => ∀ run, s.runs[rid]? = some run → Undisturbed sv.db run d
  | _ => True

/-! ## What each transaction relies on -/

def AiActionRun.request (run : AiActionRun) :
    Option Int × Text × Text × Text × Option AiActionOutput × List AiActionCitation :=
  (run.organizationId, run.actionKey, run.entityType, run.entityId, run.output, run.citations)

/-- An output is of an entity that was found, and says whether it is cited. -/
def Service.Grounded (sv : Service) (run : AiActionRun) : Prop :=
  ∀ output, run.output = some output → ∃ action ownerOrg,
    getAction run.actionKey = some action ∧
      sv.db.resolveContext run.organizationId run.entityType run.entityId =
        .ok (.found ownerOrg) ∧
      output.uncited = (action.citationRequired && run.citations.isEmpty)

structure Service.Produced (sv : Service) (c : Service.Created) : Prop where
  status : c.run.status = .pendingReview ∨ c.run.status = .completed ∨ c.run.status = .blocked
  unwritten : c.run.mutationApplied = false
  reviewable : c.run.status = .pendingReview → (c.run.output.isSome = true ↔
    sv.db.resolveContext c.run.organizationId c.run.entityType c.run.entityId ≠ .ok .notFound)
  grounded : sv.Grounded c.run

/-- A decision on that run. -/
structure Service.Decided (run : AiActionRun) (d : Service.Decision) : Prop where
  status : d.status = .approved ∨ d.status = .rejected ∨ d.status = .blocked
  applied : ∀ applied, d.applied = some applied →
    d.status = .approved ∧ applied.write.Targets run ∧ ∃ output action,
      run.output = some output ∧ getAction run.actionKey = some action ∧
        (action.citationRequired = true → output.uncited = false)

def Service.Sound (sv : Service) (s : Store) : Stage → Prop
  | .created c => sv.Produced c
  | .loaded rid run _ => ∃ stored, s.runs[rid]? = some stored ∧ stored.request = run.request
  | .pending rid d | .flushed rid d => ∃ stored, s.runs[rid]? = some stored ∧ Decided stored d
  | .called _ | .refused => True

/-- What the runs and the log say of each other. -/
structure Service.Books (sv : Service) (s : Store) (l : List Effect) : Prop where
  grounded : ∀ (rid : ℕ) (run : AiActionRun), s.runs[rid]? = some run → sv.Grounded run
  written : ∀ (rid : ℕ) (run : AiActionRun), s.runs[rid]? = some run →
    (run.mutationApplied = true ↔ 0 < writes l rid)
  unborn : ∀ rid : ℕ, s.runs[rid]? = none → writes l rid = 0
  decided : ∀ (rid : ℕ) (run : AiActionRun), s.runs[rid]? = some run →
    run.mutationApplied = true → run.status ≠ .pendingReview

/-! ### The functions -/

section Functions

variable {sv : Service} {run run' : AiActionRun} {d : Service.Decision}

theorem runAction_produced {actionKey entityType entityId : Text} {orgId : Option Int}
    {generated : Generated} {c : Service.Created}
    (h : sv.runAction actionKey entityType entityId orgId generated = some c) :
    sv.Produced c := by
  obtain ⟨action, haction, h⟩ := Option.bind_eq_some_iff.mp h
  split at h
  · dsimp only at h
    have hstatus : (if sv.effectiveRequiresApproval action = true then RunStatus.pendingReview
        else .completed) = .pendingReview ∨
        (if sv.effectiveRequiresApproval action = true then RunStatus.pendingReview
          else .completed) = .completed := by
      split
      · exact .inl rfl
      · exact .inr rfl
    split at h
    · cases h
    · -- the guard has blocked the run
      cases h
      refine ⟨.inr (.inr rfl), rfl, ?_, ?_⟩
      · intro hpending
        cases hpending
      · intro output hnone
        cases hnone
    · -- nothing was found: the run is inserted as if it had an output
      rename_i hctx
      cases h
      refine ⟨hstatus.imp_right .inl, rfl, ?_, ?_⟩
      · intro _
        exact ⟨fun hnone => (Bool.false_ne_true hnone).elim, fun hfound => absurd hctx hfound⟩
      · intro output hnone
        cases hnone
    · rename_i ownerOrg hctx
      split at h
      · cases h
        refine ⟨hstatus.imp_right .inl, rfl, ?_, ?_⟩
        · intro _
          refine ⟨fun _ hnone => ?_, fun _ => rfl⟩
          rw [hctx] at hnone
          cases hnone
        · intro output houtput
          obtain rfl := Option.some.inj houtput
          exact ⟨action, ownerOrg, haction, hctx, rfl⟩
      · cases h
  · cases h

theorem applyMutation_targets {mutation : AllowedMutation} {output : AiActionOutput} {r : Records}
    {applied : Applied} (h : sv.applyMutation run mutation output r = some (some applied)) :
    applied.write.Targets run := by
  cases mutation with
  | setPoamRemediation =>
    obtain ⟨id, hid, h⟩ := Option.bind_eq_some_iff.mp h
    split at h
    · cases h
    · cases h
    · obtain ⟨text, -, h⟩ := Option.bind_eq_some_iff.mp h
      cases h
      exact hid
  | createTask =>
    obtain ⟨t, ht, h⟩ := Option.map_eq_some_iff.mp h
    cases h
    obtain ⟨_, -, ht⟩ := Option.bind_eq_some_iff.mp ht
    obtain ⟨_, -, ht⟩ := Option.bind_eq_some_iff.mp ht
    obtain ⟨_, -, ht⟩ := Option.bind_eq_some_iff.mp ht
    obtain ⟨_, -, ht⟩ := Option.bind_eq_some_iff.mp ht
    cases ht
    exact ⟨rfl, rfl, rfl⟩
  | createControlTest =>
    obtain ⟨t, ht, h⟩ := Option.map_eq_some_iff.mp h
    cases h
    obtain ⟨_, -, ht⟩ := Option.bind_eq_some_iff.mp ht
    obtain ⟨_, -, ht⟩ := Option.bind_eq_some_iff.mp ht
    obtain ⟨_, -, ht⟩ := Option.bind_eq_some_iff.mp ht
    obtain ⟨_, -, ht⟩ := Option.bind_eq_some_iff.mp ht
    obtain ⟨_, -, ht⟩ := Option.bind_eq_some_iff.mp ht
    cases ht
    rfl
  | setResponseSuggestion =>
    obtain ⟨id, hid, h⟩ := Option.bind_eq_some_iff.mp h
    dsimp only at h
    split at h
    · cases h
    · cases h
    · cases h
      exact hid

theorem approveRun_decided {reviewer : Option Text} {r : Records}
    (h : sv.approveRun run run.output reviewer r = some d) : Service.Decided run d := by
  unfold Service.approveRun at h
  split at h
  · cases h
  · obtain ⟨action, haction, h⟩ := Option.bind_eq_some_iff.mp h
    split at h
    · cases h
      exact ⟨.inr (.inr rfl), fun _ happlied => nomatch happlied⟩
    · rename_i hcited
      split at h
      · cases h
        exact ⟨.inr (.inr rfl), fun _ happlied => nomatch happlied⟩
      · obtain ⟨applied, hmutation, rfl⟩ := Option.map_eq_some_iff.mp h
        refine ⟨.inl rfl, ?_⟩
        rintro applied rfl
        split at hmutation
        · rename_i mutation output hallowed houtput
          refine ⟨rfl, applyMutation_targets hmutation, output, action, houtput, haction, ?_⟩
          intro hrequired
          by_contra huncited
          refine hcited ⟨hrequired, ?_⟩
          rw [houtput]
          simpa using huncited
        · cases hmutation

theorem rejectRun_decided {reviewer note : Option Text}
    (h : Service.rejectRun run reviewer note = some d) : Service.Decided run d := by
  unfold Service.rejectRun at h
  split at h
  · cases h
  · cases h
    exact ⟨.inr (.inl rfl), fun _ happlied => nomatch happlied⟩

end Functions

/-! ### The transactions -/

section Transactions

variable {sv : Service} {s s₀ : Store} {l : List Effect} {run run' : AiActionRun}
  {c : Service.Created} {d : Service.Decision} {rid : ℕ}

theorem Write.Targets.congr {write : Write} (h : run.request = run'.request)
    (hrun : write.Targets run) : write.Targets run' := by
  simp only [AiActionRun.request, Prod.mk.injEq] at h
  obtain ⟨horg, -, htype, hid, -, -⟩ := h
  cases write with
  | setPoamRemediation poam plan source => exact (congrArg pyInt hid).symm.trans hrun
  | createTask t =>
    obtain ⟨h₁, h₂, h₃⟩ := hrun
    exact ⟨h₁.trans horg, h₂.trans htype, h₃.trans hid⟩
  | createControlTest t => exact Eq.trans hrun horg
  | setResponseSuggestion response detail => exact (congrArg pyInt hid).symm.trans hrun

theorem Service.Decided.congr (h : run.request = run'.request) (hd : Service.Decided run d) :
    Service.Decided run' d := by
  refine ⟨hd.status, fun applied happlied => ?_⟩
  obtain ⟨hstatus, htargets, output, action, houtput, haction, hcited⟩ :=
    hd.applied applied happlied
  refine ⟨hstatus, htargets.congr h, output, action, ?_, ?_, hcited⟩
  · simp only [AiActionRun.request, Prod.mk.injEq] at h
    exact h.2.2.2.2.1.symm.trans houtput
  · simp only [AiActionRun.request, Prod.mk.injEq] at h
    exact (congrArg getAction h.2.1).symm.trans haction

theorem Service.Grounded.congr (h : run.request = run'.request) (hrun : sv.Grounded run) :
    sv.Grounded run' := by
  simp only [AiActionRun.request, Prod.mk.injEq] at h
  obtain ⟨horg, hkey, htype, hid, houtput, hcitations⟩ := h
  unfold Service.Grounded
  rw [← horg, ← hkey, ← htype, ← hid, ← houtput, ← hcitations]
  exact hrun

theorem requireRun_eq_some {orgId : Option Int} (h : Service.requireRun s rid orgId = some run) :
    s.runs[rid]? = some run :=
  (Option.filter_eq_some_iff.mp h).1

@[simp] theorem runs_created (rid : ℕ) :
    ((Effect.created c).apply s).runs[rid]? =
      if rid = s.runs.length then some c.run else s.runs[rid]? := by
  show (s.runs ++ [c.run])[rid]? = _
  split
  · rename_i h
    rw [h, List.getElem?_concat_length]
  · rename_i h
    by_cases hlt : rid < s.runs.length
    · rw [List.getElem?_append_left hlt]
    · rw [List.getElem?_eq_none (by simp; omega), List.getElem?_eq_none (by omega)]

@[simp] theorem runs_decided (i : ℕ) :
    ((Effect.decided rid d).apply s).runs[i]? =
      if rid = i then (s.runs[i]?).map d.update else s.runs[i]? := by
  show (s.runs.modify rid d.update)[i]? = _
  rw [List.getElem?_modify]
  split
  · rfl
  · exact Option.map_id_apply ..

@[simp] theorem writes_concat (w : Effect) (i : ℕ) :
    writes (l ++ [w]) i = writes l i + if w.mutates i then 1 else 0 := by
  rw [writes, List.countP_append, List.countP_singleton, writes]

theorem writes_created (i : ℕ) : writes (l ++ [.created c]) i = writes l i := by
  rw [writes_concat]
  rfl

theorem writes_decided (i : ℕ) : writes (l ++ [.decided rid d]) i =
    writes l i + if rid = i ∧ d.applied.isSome = true then 1 else 0 := by
  rw [writes_concat]
  simp [Effect.mutates]

theorem kept_decided {i : ℕ} {stored : AiActionRun} (h : s.runs[i]? = some stored) :
    ∃ stored', ((Effect.decided rid d).apply s).runs[i]? = some stored' ∧
      stored'.request = stored.request := by
  rw [runs_decided, h]
  split
  · exact ⟨d.update stored, rfl, rfl⟩
  · exact ⟨stored, rfl, rfl⟩

theorem kept_created {i : ℕ} {stored : AiActionRun} (h : s.runs[i]? = some stored) :
    ((Effect.created c).apply s).runs[i]? = some stored := by
  have hlt := (List.getElem?_eq_some_iff.mp h).1
  rw [runs_created, if_neg (by omega), h]

theorem statement_sound {t t' : Stage} (ht : sv.Sound s t) (h : sv.statement t s = some t') :
    sv.Sound s t' := by
  cases t with
  | called call =>
    cases call with
    | run actionKey entityType entityId orgId generated =>
      obtain rfl := Option.some.inj h
      cases hrun : sv.runAction actionKey entityType entityId orgId generated with
      | none => trivial
      | some c => exact runAction_produced hrun
    | approve rid orgId reviewer =>
      obtain rfl := Option.some.inj h
      cases hrun : Service.requireRun s rid orgId with
      | none => trivial
      | some run => exact ⟨run, requireRun_eq_some hrun, rfl⟩
    | reject rid orgId reviewer note =>
      obtain rfl := Option.some.inj h
      cases hd : (Service.requireRun s rid orgId).bind
          fun run => Service.rejectRun run reviewer note with
      | none => trivial
      | some d =>
        obtain ⟨run, hrun, hd⟩ := Option.bind_eq_some_iff.mp hd
        exact ⟨run, requireRun_eq_some hrun, rejectRun_decided hd⟩
  | loaded rid run reviewer =>
    obtain rfl := Option.some.inj h
    obtain ⟨stored, hstored, hrequest⟩ := ht
    -- the output is not written again after the insert
    have houtput : (s.runs[rid]?).bind AiActionRun.output = run.output := by
      simp only [AiActionRun.request, Prod.mk.injEq] at hrequest
      rw [hstored]
      exact hrequest.2.2.2.2.1
    cases hd : sv.approveRun run ((s.runs[rid]?).bind AiActionRun.output) reviewer s.records with
    | none => trivial
    | some d =>
      rw [houtput] at hd
      exact ⟨stored, hstored, (approveRun_decided hd).congr hrequest.symm⟩
  | pending rid d =>
    obtain rfl := Option.some.inj h
    exact ht
  | created c => cases h
  | flushed rid d => cases h
  | refused => cases h

theorem Service.Books.created (h : sv.Books s l) (hc : sv.Produced c) :
    sv.Books ((Effect.created c).apply s) (l ++ [.created c]) := by
  constructor
  · intro i run hrun
    rw [runs_created] at hrun
    split at hrun
    · exact Option.some.inj hrun ▸ hc.grounded
    · exact h.grounded i run hrun
  · intro i run hrun
    rw [writes_created]
    rw [runs_created] at hrun
    split at hrun
    · rename_i hi
      obtain rfl := Option.some.inj hrun
      rw [h.unborn i (by rw [hi]; exact List.getElem?_eq_none le_rfl), hc.unwritten]
      simp
    · exact h.written i run hrun
  · intro i hi
    rw [writes_created]
    rw [runs_created] at hi
    split at hi
    · cases hi
    · exact h.unborn i hi
  · intro i run hrun hwritten
    rw [runs_created] at hrun
    split at hrun
    · rw [← Option.some.inj hrun, hc.unwritten] at hwritten
      cases hwritten
    · exact h.decided i run hrun hwritten

theorem Service.Books.decide (h : sv.Books s l) {stored : AiActionRun}
    (hstored : s.runs[rid]? = some stored) (hd : Decided stored d) :
    sv.Books ((Effect.decided rid d).apply s) (l ++ [.decided rid d]) := by
  constructor
  · intro i run hrun
    rw [runs_decided] at hrun
    split at hrun
    · obtain ⟨run, hold, rfl⟩ := Option.map_eq_some_iff.mp hrun
      exact (h.grounded i run hold).congr rfl
    · exact h.grounded i run hrun
  · intro i run hrun
    rw [runs_decided] at hrun
    split at hrun
    · rename_i hi
      obtain ⟨run, hold, rfl⟩ := Option.map_eq_some_iff.mp hrun
      have hwritten := h.written i run hold
      rw [writes_decided]
      cases happlied : d.applied <;>
        simp [Service.Decision.update, happlied, hi, hwritten]
    · rename_i hi
      rw [writes_decided, if_neg fun hwrites => hi hwrites.1]
      exact h.written i run hrun
  · intro i hi
    rw [runs_decided] at hi
    have hne : rid ≠ i := by
      rintro rfl
      rw [if_pos rfl, hstored] at hi
      cases hi
    rw [if_neg hne] at hi
    rw [writes_decided, if_neg fun hwrites => hne hwrites.1]
    exact h.unborn i hi
  · intro i run hrun hwritten
    rw [runs_decided] at hrun
    split at hrun
    · obtain ⟨run, hrun, rfl⟩ := Option.map_eq_some_iff.mp hrun
      show d.status ≠ _
      rcases hd.status with hstatus | hstatus | hstatus <;> rw [hstatus] <;> decide
    · exact h.decided i run hrun hwritten

theorem routes_lasting (sv : Service) : sv.routes.Lasting sv.Books sv.Sound where
  enter := fun _ _ _ _ _ => trivial
  statement := fun _ _ _ _ _ => statement_sound
  commit := by
    intro s l t w hbooks ht hw
    cases t with
    | created c =>
      obtain rfl := Option.some.inj hw
      exact hbooks.created ht
    | flushed rid d =>
      obtain rfl := Option.some.inj hw
      obtain ⟨stored, hstored, hd⟩ := ht
      exact hbooks.decide hstored hd
    | _ => cases hw
  others := by
    intro s l t w u _ _ _ hu
    have hkept : ∀ (i : ℕ) (stored : AiActionRun), s.runs[i]? = some stored →
        ∃ stored', (w.apply s).runs[i]? = some stored' ∧ stored'.request = stored.request := by
      intro i stored hstored
      cases w with
      | created c => exact ⟨stored, kept_created hstored, rfl⟩
      | decided rid d => exact kept_decided hstored
    cases u with
    | loaded rid run reviewer =>
      obtain ⟨stored, hstored, hrequest⟩ := hu
      obtain ⟨stored', hstored', hsame⟩ := hkept rid stored hstored
      exact ⟨stored', hstored', hsame.trans hrequest⟩
    | pending rid d | flushed rid d =>
      obtain ⟨stored, hstored, hd⟩ := hu
      obtain ⟨stored', hstored', hsame⟩ := hkept rid stored hstored
      exact ⟨stored', hstored', hd.congr hsame.symm⟩
    | _ => exact hu

/-! ### The commits -/

theorem guarded_created (hbooks : sv.Books s l) (hc : sv.Produced c)
    (h : HumanGuarded sv s₀ s l) :
    sv.Finds s (.created c) ↔
      HumanGuarded sv s₀ ((Effect.created c).apply s) (l ++ [.created c]) := by
  have hnew : ((Effect.created c).apply s).runs[s.runs.length]? = some c.run := by
    rw [runs_created, if_pos rfl]
  constructor
  · intro hfinds
    have hrecords : (Effect.created c).HumanApproved sv.db s := rfl
    refine ⟨.snoc h.ledger hrecords, fun i => (writes_created i).trans_le (h.once i), ?_, ?_⟩
    · intro i run hrun hclosed
      rw [writes_created]
      rw [runs_created] at hrun
      split at hrun
      · -- a new run, which nothing was written from
        rename_i hi
        exact hbooks.unborn i (by rw [hi]; exact List.getElem?_eq_none le_rfl)
      · exact h.closed i run hrun hclosed
    · intro i run hrun hpending
      rw [runs_created] at hrun
      split at hrun
      · obtain rfl := Option.some.inj hrun
        exact (hc.reviewable hpending).mpr (hfinds hpending)
      · exact h.reviewable i run hrun hpending
  · intro h' hpending
    exact (hc.reviewable hpending).mp (h'.reviewable _ c.run hnew hpending)

theorem mayMutate_of_undisturbed {stored : AiActionRun} {applied : Applied}
    (hground : sv.Grounded stored) (hd : Service.Decided stored d)
    (happlied : d.applied = some applied) (h : Service.Undisturbed sv.db stored d) :
    MayMutate sv.db stored d applied.write := by
  obtain ⟨hstatus, htargets, output, action, houtput, haction, hcited⟩ :=
    hd.applied applied happlied
  obtain ⟨action', ownerOrg, haction', hctx, huncited⟩ := hground output houtput
  obtain rfl := Option.some.inj (haction.symm.trans haction')
  have hsome : d.applied.isSome = true := by rw [happlied]; rfl
  have howner := (Tables.found_cases hctx).1
  refine ⟨hstatus, h.waiting hsome, by rw [houtput]; rfl, ?_, ?_, htargets⟩
  · intro action' haction' hrequired hnil
    obtain rfl := Option.some.inj (haction.symm.trans haction')
    rw [hcited hrequired, hrequired, hnil] at huncited
    cases huncited
  · rw [howner, (Tables.owner_eq_iff hctx).mpr (h.owned hsome ownerOrg howner)]

theorem humanApproved_of_undisturbed {stored : AiActionRun} (hstored : s.runs[rid]? = some stored)
    (hground : sv.Grounded stored) (hd : Service.Decided stored d)
    (h : Service.Undisturbed sv.db stored d) : (Effect.decided rid d).HumanApproved sv.db s := by
  simp only [Effect.HumanApproved]
  split
  · rename_i hnone
    show d.applied.elim s.records _ = s.records
    rw [hnone]
    rfl
  · rename_i applied happlied
    exact ⟨stored, hstored, mayMutate_of_undisturbed hground hd happlied h⟩

theorem mutationApplied_eq_false_iff {stored : AiActionRun} (hbooks : sv.Books s l)
    (hstored : s.runs[rid]? = some stored) :
    stored.mutationApplied = false ↔ writes l rid = 0 := by
  have hwritten := hbooks.written rid stored hstored
  rw [← Bool.not_eq_true, hwritten]
  omega

theorem guarded_of_undisturbed {stored : AiActionRun} (hstored : s.runs[rid]? = some stored)
    (hbooks : sv.Books s l) (hd : Service.Decided stored d) (h : HumanGuarded sv s₀ s l)
    (hun : Service.Undisturbed sv.db stored d) :
    HumanGuarded sv s₀ ((Effect.decided rid d).apply s) (l ++ [.decided rid d]) := by
  have happroved :=
    humanApproved_of_undisturbed hstored (hbooks.grounded rid stored hstored) hd hun
  have hunwritten := mutationApplied_eq_false_iff hbooks hstored
  refine ⟨.snoc h.ledger happroved, ?_, ?_, ?_⟩
  · intro i
    rw [writes_decided]
    split
    · rename_i hwrites
      obtain ⟨rfl, hsome⟩ := hwrites
      -- a run that waits was not written from
      have hzero : writes l rid = 0 := by
        rw [← hunwritten, ← Bool.not_eq_true]
        exact fun hwritten => hbooks.decided rid stored hstored hwritten (hun.waiting hsome)
      omega
    · exact h.once i
  · intro i run hrun hclosed
    rw [runs_decided] at hrun
    split at hrun
    · rename_i hi
      subst hi
      obtain ⟨run, hold, rfl⟩ := Option.map_eq_some_iff.mp hrun
      obtain rfl := Option.some.inj (hstored.symm.trans hold)
      have hnot : d.status ≠ .approved := by
        rcases hclosed with hclosed | hclosed <;>
          exact fun happroved => by cases hclosed.symm.trans happroved
      have hnone : d.applied = none := by
        cases happlied : d.applied with
        | none => rfl
        | some applied => exact absurd (hd.applied applied happlied).1 hnot
      rw [writes_decided, hnone, hunwritten.mp (hun.unwritten hnot),
        if_neg fun hwrites => Bool.false_ne_true hwrites.2]
    · rename_i hi
      rw [writes_decided, if_neg fun hwrites => hi hwrites.1]
      exact h.closed i run hrun hclosed
  · intro i run hrun hpending
    rw [runs_decided] at hrun
    split at hrun
    · obtain ⟨run, hold, rfl⟩ := Option.map_eq_some_iff.mp hrun
      have hstatus : d.status = .pendingReview := hpending
      rcases hd.status with hd | hd | hd <;> cases hstatus.symm.trans hd
    · exact h.reviewable i run hrun hpending

theorem undisturbed_of_guarded {stored : AiActionRun} (hstored : s.runs[rid]? = some stored)
    (hbooks : sv.Books s l) (hd : Service.Decided stored d) (h : HumanGuarded sv s₀ s l)
    (h' : HumanGuarded sv s₀ ((Effect.decided rid d).apply s) (l ++ [.decided rid d])) :
    Service.Undisturbed sv.db stored d := by
  have hnew : ((Effect.decided rid d).apply s).runs[rid]? = some (d.update stored) := by
    rw [runs_decided, if_pos rfl, hstored, Option.map_some]
  have hmay : ∀ applied, d.applied = some applied →
      MayMutate sv.db stored d applied.write := by
    intro applied happlied
    have hlast : (Effect.decided rid d).HumanApproved sv.db s := h.ledger.last h'.ledger
    simp only [Effect.HumanApproved, happlied] at hlast
    obtain ⟨run, hrun, hmay⟩ := hlast
    obtain rfl := Option.some.inj (hstored.symm.trans hrun)
    exact hmay
  constructor
  · intro hsome
    obtain ⟨applied, happlied⟩ := Option.isSome_iff_exists.mp hsome
    exact (hmay applied happlied).pendingReview
  · intro hsome ownerOrg howner
    obtain ⟨applied, happlied⟩ := Option.isSome_iff_exists.mp hsome
    have howned := (hmay applied happlied).owned
    rw [Except.ok.inj (howner.symm.trans howned)]
  · intro hnot
    have hclosed : writes (l ++ [.decided rid d]) rid = 0 :=
      h'.closed rid _ hnew (hd.status.resolve_left hnot)
    rw [writes_decided] at hclosed
    rw [mutationApplied_eq_false_iff hbooks hstored]
    omega

theorem guarded_decided {stored : AiActionRun} (hstored : s.runs[rid]? = some stored)
    (hbooks : sv.Books s l) (hd : Service.Decided stored d) (h : HumanGuarded sv s₀ s l) :
    sv.Finds s (.flushed rid d) ↔
      HumanGuarded sv s₀ ((Effect.decided rid d).apply s) (l ++ [.decided rid d]) := by
  constructor
  · exact fun hfinds => guarded_of_undisturbed hstored hbooks hd h (hfinds stored hstored)
  · intro h' run hrun
    obtain rfl := Option.some.inj (hstored.symm.trans hrun)
    exact undisturbed_of_guarded hstored hbooks hd h h'

end Transactions

/-- **One guarded human approval**: what is written from the runs is so guarded in every state
exactly if each commit finds the run as its transaction has loaded it, and each run that waits
for a review has an entity. -/
theorem mutations_guarded_iff (sv : Service) (r : Records) (as : List (TxnAction Call)) :
    Guarded sv.routes.step (sv.routes.AtCommit sv.Finds) (Machine.init (Store.start r)) as ↔
      ∀ bs m, bs <+: as → exec sv.routes.step (Machine.init (Store.start r)) bs = some m →
        HumanGuarded sv (Store.start r) m.store m.log := by
  refine (routes_lasting sv).guarded_iff ?_ ?_ ?_
  · intro s l t w hbooks ht h hw
    cases t with
    | created c =>
      obtain rfl := Option.some.inj hw
      exact guarded_created hbooks ht h
    | flushed rid d =>
      obtain rfl := Option.some.inj hw
      obtain ⟨stored, hstored, hd⟩ := ht
      exact guarded_decided hstored hbooks hd h
    | _ => cases hw
  · exact ⟨fun _ _ hrun => (nomatch hrun), fun _ _ hrun => (nomatch hrun), fun _ _ => rfl,
      fun _ _ hrun => (nomatch hrun)⟩
  · exact ⟨.nil, fun _ => Nat.zero_le _, fun _ _ hrun => (nomatch hrun),
      fun _ _ hrun => (nomatch hrun)⟩

/-! ## Two approvals at once -/

def onePoam : Tables where
  systems := fun _ => .ok (some ⟨some 1, "Billing".toList⟩)
  poams := fun _ => .ok (some ⟨1, "AC-3".toList⟩)
  risks := fun _ => .ok none
  vendors := fun _ => .ok none
  implementations := fun _ => .ok none
  policies := fun _ => .ok none
  evidenceObjects := fun _ => .ok none
  responses := fun _ => .ok none
  questionnaires := fun _ => .ok none
  packaged := fun _ => false

def defaults : Service where
  aiRequireHumanApproval := true
  aiAllowUncitedDrafts := false
  db := onePoam
  str := fun _ => []
  truthy := fun _ => true

def openTask : Call :=
  .run "open_task_with_owner_due_date".toList "poam".toList "1".toList (some 1)
    ⟨"Close the port.".toList, [], []⟩

def approvedTwice : List (TxnAction Call) :=
  [.enter openTask, .statement 0, .commit 0, .enter (.approve 0 (some 1) none),
    .enter (.approve 0 (some 1) none), .statement 1, .statement 2, .statement 1, .statement 1,
    .commit 1, .statement 2, .statement 2, .commit 2]

/-- One run, and two tasks. -/
theorem approved_twice :
    ¬∀ (sv : Service) (r : Records) (as : List (TxnAction Call)) (m : Machine _ _ _ _),
      exec sv.routes.step (Machine.init (Store.start r)) as = some m →
        HumanGuarded sv (Store.start r) m.store m.log := by
  intro h
  have hend : (exec defaults.routes.step
        (Machine.init (Store.start ⟨fun _ => ⟨none, []⟩, fun _ => none, [], []⟩))
        approvedTwice).map (fun m => (writes m.log 0, m.store.records.tasks.length)) =
      some (2, 2) := by
    decide +kernel
  obtain ⟨m, hrun, hm⟩ := Option.map_eq_some_iff.mp hend
  have honce := (h defaults _ approvedTwice m hrun).once 0
  rw [(Prod.mk.inj hm).1] at honce
  omega

end Concord.AiActions
