import Concord.Base.Run
import Concord.Prep.Stages
import Concord.Queue.Workers

/-!
# Advancing a run

`next_stage` and `advance` of `ccf/prep/pipeline.py`. A stage that ends well is closed and
never opened again (`Ended`, `Keeps`), so the rows of a closed stage are there: `Prepared`,
along every history of advances (`prepared_afterAdvances`).

`_drive_one` of `ccf/prep/jobs.py` ends with a branch that hands the job back to the queue, for a
run that still has stages to go. `advance` does not return before the run has ended, one way or
the other, so that branch is not taken (`driveOne_settles`).
-/

namespace Concord.Prep

open Concord.Python

/-- The states `next_stage` passes over. -/
def PrepRun.closed (r : PrepRun) (s : Stage) : Bool :=
  r.stage s = .complete || r.stage s = .skipped

/-- `next_stage`. -/
def nextStage (r : PrepRun) : Option Stage := prepStages.find? fun s => !r.closed s

/-- The statuses `advance` stops at. -/
def stops (status : RunStatus) : Bool :=
  status = .failed || status = .unsupported || status = .orphaned

/-- `_reconcile_organization`, where the source is gone. -/
def PrepRun.orphan (r : PrepRun) (reason : Text) : PrepRun :=
  { (if r.stage .parse ≠ .complete then r.setStage .parse .skipped else r) with
    status := .orphaned, error := some reason }

/-- The loop of `advance`; `none` where a runner raises, or where `rounds` is too small, which
`advanceLoop_more` excludes. -/
def advanceLoop (w : World) : Nat → PrepRun → Option PrepRun
  | 0, _ => none
  | rounds + 1, r =>
    match nextStage r with
    | none => some { r with status := .complete }
    | some s =>
      match w.owner s with
      | .error reason => some (r.orphan reason)
      | .ok org =>
        (runStage w { r with organizationId := org } s).bind fun r' =>
          if stops r'.status then some r' else advanceLoop w rounds r'

/-- `advance`. -/
def advance (w : World) (r : PrepRun) : Option PrepRun :=
  advanceLoop w (prepStages.length + 1) r

/-- A run after some advances; one that raises is rolled back. -/
def afterAdvances (r : PrepRun) (worlds : List World) : PrepRun :=
  worlds.foldl (fun r w => (advance w r).getD r) r

/-! ## What a stage leaves -/

/-- The rows of a stage are all there, and counted. -/
def Output (r : PrepRun) : Stage → Prop
  | .parse => r.stage .parse = .complete ∧ r.parserName.isSome = true ∧
      r.linesParsed = r.lines.length
  | .screen => r.stage .screen = .complete ∧
      r.screens.map PrepScreen.lineId = (orderedLines r.lines).map PrepLine.id ∧
      r.linesAboveThreshold = r.screens.countP PrepScreen.aboveThreshold
  | .expand => r.stage .expand = .complete ∧
      r.units.map PrepUnit.triggerLineId = (triggers r).map PrepLine.id ∧
      r.unitsBuilt = r.units.length
  | .classify => r.stage .classify = .complete ∧
      r.classifications.map PrepClassification.unitId = r.units.map PrepUnit.id ∧
      r.unitsClassified = r.units.length
  | .embed => r.stage .embed = .complete ∧
      r.embeddings.map PrepEmbedding.unitId = r.units.map PrepUnit.id ∧
      r.unitsEmbedded = r.units.length

/-- The place of a stage in `PREP_STAGES`. -/
def Stage.rank : Stage → Nat
  | .parse => 0
  | .screen => 1
  | .expand => 2
  | .classify => 3
  | .embed => 4

theorem Stage.rank_injective {s t : Stage} (h : s.rank = t.rank) : s = t := by
  cases s <;> cases t <;> first | rfl | cases h

/-- Stages close in their order, a closed one has its rows, and nothing is screened or
expanded of a run that has not been parsed. -/
structure Prepared (r : PrepRun) : Prop where
  ordered : ∀ s t : Stage, s.rank < t.rank → r.closed t = true → r.closed s = true
  output : ∀ s, r.stage s = .complete → Output r s
  skipped : ∀ s, r.stage s = .skipped → s = .parse
  unparsed : r.stage .parse ≠ .complete → r.lines = [] ∧ r.screens = [] ∧ r.units = []
  failed : r.status = .failed → r.stage .parse ≠ .skipped
  settled : r.status = .unsupported → r.closed .parse = true

/-- What one round does: the stage is closed with its rows, or it failed, or parse found
nothing to parse. The rows of the stages before it stay. -/
inductive Ended (s : Stage) (r r' : PrepRun) : Prop
  | closed (stage : r'.stage = (r.setStage s .complete).stage) (output : Output r' s)
      (status : r'.status = if s = .parse then .running else r.status)
  | failed (kind : s ≠ .screen ∧ s ≠ .expand) (stage : r'.stage = (r.setStage s .failed).stage)
      (status : r'.status = .failed) (lines : s = .parse → r'.lines = [])
      (units : s ≠ .parse → r.units ≠ [])
  | nothing (parse : s = .parse) (stage : r'.stage = (r.setStage s .skipped).stage)
      (status : r'.status = .unsupported ∨ r'.status = .orphaned) (lines : r'.lines = [])

/-- The rows a stage does not write. -/
structure Keeps (s : Stage) (r r' : PrepRun) : Prop where
  parse : s ≠ .parse → r'.lines = r.lines ∧ r'.parserName = r.parserName ∧
    r'.linesParsed = r.linesParsed
  screen : s ≠ .screen → r'.screens = r.screens ∧
    r'.linesAboveThreshold = r.linesAboveThreshold
  expand : s ≠ .expand → r'.units = r.units ∧ r'.unitsBuilt = r.unitsBuilt
  classify : s ≠ .classify → r'.classifications = r.classifications ∧
    r'.unitsClassified = r.unitsClassified
  embed : s ≠ .embed → r'.embeddings = r.embeddings ∧ r'.unitsEmbedded = r.unitsEmbedded
  config : r'.config = r.config

section Runners

variable {w : World} {r r' : PrepRun}

theorem setStage_self (r : PrepRun) (s : Stage) (state : StageState) :
    (r.setStage s state).stage s = state := if_pos rfl

theorem setStage_other (r : PrepRun) {s t : Stage} (state : StageState) (h : t ≠ s) :
    (r.setStage s state).stage t = r.stage t := if_neg h

theorem setStage_startParse (r : PrepRun) (state : StageState) :
    (r.startParse.setStage .parse state).stage = (r.setStage .parse state).stage := by
  funext t
  by_cases h : t = .parse
  · rw [h, setStage_self, setStage_self]
  · rw [setStage_other _ _ h, setStage_other _ _ h]
    exact setStage_other r .running h

theorem ended_parse (w : World) (r : PrepRun) : Ended .parse r (runStageParse w r) := by
  have hrunning := setStage_startParse r
  unfold runStageParse
  dsimp only
  split
  · exact .nothing rfl (hrunning _) (.inr rfl) rfl
  · exact .nothing rfl (hrunning _) (.inl rfl) rfl
  · exact .failed ⟨Stage.noConfusion, Stage.noConfusion⟩ (hrunning _) rfl (fun _ => rfl)
      (fun h => absurd rfl h)
  · exact .failed ⟨Stage.noConfusion, Stage.noConfusion⟩ (hrunning _) rfl (fun _ => rfl)
      (fun h => absurd rfl h)
  · rename_i records _
    refine .closed (hrunning _) ⟨rfl, rfl, ?_⟩ rfl
    show records.length = (records.zipIdx.map _).length
    rw [List.length_map, List.length_zipIdx]

theorem keeps_parse (w : World) (r : PrepRun) : Keeps .parse r (runStageParse w r) := by
  unfold runStageParse
  dsimp only
  split <;> exact ⟨fun h => absurd rfl h, fun _ => ⟨rfl, rfl⟩, fun _ => ⟨rfl, rfl⟩,
    fun _ => ⟨rfl, rfl⟩, fun _ => ⟨rfl, rfl⟩, rfl⟩

theorem ended_screen (w : World) (r : PrepRun) : Ended .screen r (runStageScreen w r) := by
  refine .closed rfl ⟨rfl, ?_, rfl⟩ rfl
  show ((orderedLines r.lines).map (screenLine w r)).map PrepScreen.lineId = _
  rw [List.map_map]
  rfl

theorem ended_expand (w : World) (r : PrepRun) : Ended .expand r (runStageExpand w r) := by
  refine .closed rfl ⟨rfl, ?_, rfl⟩ rfl
  calc ((triggers r).zipIdx.map fun p => buildUnit w r p.1 p.2).map PrepUnit.triggerLineId
      = ((triggers r).zipIdx.map Prod.fst).map PrepLine.id := by
        rw [List.map_map, List.map_map]
        rfl
    _ = (triggers r).map PrepLine.id := by rw [List.zipIdx_map_fst]

theorem mapM_classifyUnit {us : List PrepUnit} {rows : List PrepClassification}
    (h : us.mapM (classifyUnit w r) = .ok rows) :
    rows.map PrepClassification.unitId = us.map PrepUnit.id := by
  induction us generalizing rows with
  | nil =>
    obtain rfl := Except.ok.inj h
    rfl
  | cons u us ih =>
    rw [List.mapM_cons] at h
    obtain ⟨row, hrow, h⟩ := Base.bind_eq_ok.mp h
    obtain ⟨more, hmore, h⟩ := Base.bind_eq_ok.mp h
    obtain rfl := Except.ok.inj h
    rw [List.map_cons, List.map_cons, ih hmore]
    unfold classifyUnit at hrow
    cases hanswer : w.classify u (candidatesFor r u) with
    | error e =>
      rw [hanswer] at hrow
      cases hrow
    | ok data =>
      rw [hanswer] at hrow
      obtain rfl := Except.ok.inj hrow
      rfl

theorem ended_classify (w : World) (r : PrepRun) : Ended .classify r (runStageClassify w r) := by
  unfold runStageClassify
  split
  · rename_i e hrows
    refine .failed ⟨Stage.noConfusion, Stage.noConfusion⟩ rfl rfl Stage.noConfusion fun _ hnil => ?_
    rw [hnil] at hrows
    cases hrows
  · rename_i rows hrows
    have hmap := mapM_classifyUnit hrows
    refine .closed rfl ⟨rfl, hmap, ?_⟩ rfl
    have hlen := congrArg List.length hmap
    rwa [List.length_map, List.length_map] at hlen

theorem batches_flatten {size : Nat} (hsize : 0 < size) {rounds : Nat} {us : List PrepUnit}
    (h : us.length ≤ rounds) : (batches size rounds us).flatten = us := by
  induction rounds generalizing us with
  | zero => rw [List.length_eq_zero_iff.mp (Nat.le_zero.mp h)]; rfl
  | succ rounds ih =>
    cases us with
    | nil => rfl
    | cons u us =>
      have hdrop : ((u :: us).drop size).length ≤ rounds := by
        rw [List.length_drop]
        rw [List.length_cons] at h ⊢
        omega
      rw [batches, List.flatten_cons, ih hdrop, List.take_append_drop]

theorem zipWith_left {α β γ : Type} {f : α → β → γ} {us : List α} {vs : List β}
    (h : vs.length = us.length) {g : α → Nat} {k : γ → Nat} (hf : ∀ u v, k (f u v) = g u) :
    (us.zipWith f vs).map k = us.map g := by
  induction us generalizing vs with
  | nil => rfl
  | cons u us ih =>
    cases vs with
    | nil => cases h
    | cons v vs =>
      rw [List.zipWith_cons_cons, List.map_cons, List.map_cons, hf, ih (Nat.succ.inj h)]

theorem embedBatch_ok {batch : List PrepUnit} {rows : List PrepEmbedding}
    (h : embedBatch w r batch = some (.ok rows)) :
    rows.map PrepEmbedding.unitId = batch.map PrepUnit.id := by
  unfold embedBatch at h
  split at h
  · cases Option.some.inj h
  · split at h
    · cases Option.some.inj h
    · split at h
      · rename_i hlen
        obtain rfl := Except.ok.inj (Option.some.inj h)
        exact zipWith_left hlen fun u v => rfl
      · cases h

theorem embedBatches_eq_ok {bs : List (List PrepUnit)} {rows : List PrepEmbedding}
    (h : embedBatches w r bs = some (.ok rows)) :
    ∃ parts, List.Forall₂ (fun b part => embedBatch w r b = some (.ok part)) bs parts ∧
      rows = parts.flatten := by
  induction bs generalizing rows with
  | nil => exact ⟨[], .nil, (Except.ok.inj (Option.some.inj h)).symm⟩
  | cons b bs ih =>
    obtain ⟨answer, hanswer, h⟩ := Option.bind_eq_some_iff.mp h
    cases answer with
    | error e => cases Option.some.inj h
    | ok first =>
      obtain ⟨more, hmore, h⟩ := Option.map_eq_some_iff.mp h
      cases more with
      | error e => cases h
      | ok rest =>
        obtain rfl := Except.ok.inj h
        obtain ⟨parts, hparts, rfl⟩ := ih hmore
        exact ⟨first :: parts, .cons hanswer hparts, rfl⟩

theorem embedBatches_ok {bs : List (List PrepUnit)} {rows : List PrepEmbedding}
    (h : embedBatches w r bs = some (.ok rows)) :
    rows.map PrepEmbedding.unitId = bs.flatten.map PrepUnit.id := by
  obtain ⟨parts, hparts, rfl⟩ := embedBatches_eq_ok h
  clear h
  induction hparts with
  | nil => rfl
  | cons hpart _ ih =>
    rw [List.flatten_cons, List.map_append, List.flatten_cons, List.map_append,
      embedBatch_ok hpart, ih]

theorem ended_embed (h : runStageEmbed w r = some r') : Ended .embed r r' := by
  obtain ⟨answer, hanswer, rfl⟩ := Option.map_eq_some_iff.mp h
  have hflatten := batches_flatten (Nat.le_max_left 1 w.batchSize) (Nat.le_refl r.units.length)
  cases answer with
  | error e =>
    refine .failed ⟨Stage.noConfusion, Stage.noConfusion⟩ rfl rfl Stage.noConfusion fun _ hnil => ?_
    rw [hnil] at hanswer
    cases Option.some.inj hanswer
  | ok rows =>
    have hmap := embedBatches_ok hanswer
    rw [hflatten] at hmap
    refine .closed rfl ⟨rfl, hmap, ?_⟩ rfl
    have hlen := congrArg List.length hmap
    rwa [List.length_map, List.length_map] at hlen

/-- **What a stage does.** -/
theorem ended_runStage {s : Stage} (h : runStage w r s = some r') : Ended s r r' := by
  cases s with
  | parse => exact Option.some.inj h ▸ ended_parse w r
  | screen => exact Option.some.inj h ▸ ended_screen w r
  | expand => exact Option.some.inj h ▸ ended_expand w r
  | classify => exact Option.some.inj h ▸ ended_classify w r
  | embed => exact ended_embed h

theorem keeps_runStage {s : Stage} (h : runStage w r s = some r') : Keeps s r r' := by
  cases s with
  | parse => exact Option.some.inj h ▸ keeps_parse w r
  | screen =>
    obtain rfl := Option.some.inj h
    exact ⟨fun _ => ⟨rfl, rfl, rfl⟩, fun h => absurd rfl h, fun _ => ⟨rfl, rfl⟩,
      fun _ => ⟨rfl, rfl⟩, fun _ => ⟨rfl, rfl⟩, rfl⟩
  | expand =>
    obtain rfl := Option.some.inj h
    exact ⟨fun _ => ⟨rfl, rfl, rfl⟩, fun _ => ⟨rfl, rfl⟩, fun h => absurd rfl h,
      fun _ => ⟨rfl, rfl⟩, fun _ => ⟨rfl, rfl⟩, rfl⟩
  | classify =>
    obtain rfl := Option.some.inj h
    unfold runStageClassify
    split <;> exact ⟨fun _ => ⟨rfl, rfl, rfl⟩, fun _ => ⟨rfl, rfl⟩, fun _ => ⟨rfl, rfl⟩,
      fun h => absurd rfl h, fun _ => ⟨rfl, rfl⟩, rfl⟩
  | embed =>
    obtain ⟨answer, -, rfl⟩ := Option.map_eq_some_iff.mp h
    cases answer <;> exact ⟨fun _ => ⟨rfl, rfl, rfl⟩, fun _ => ⟨rfl, rfl⟩, fun _ => ⟨rfl, rfl⟩,
      fun _ => ⟨rfl, rfl⟩, fun h => absurd rfl h, rfl⟩

end Runners

/-! ## The invariant -/

section Invariant

variable {w : World} {r r' : PrepRun}

theorem closed_iff {s : Stage} :
    r.closed s = true ↔ r.stage s = .complete ∨ r.stage s = .skipped := by
  unfold PrepRun.closed
  rw [Bool.or_eq_true, decide_eq_true_eq, decide_eq_true_eq]

theorem mem_prepStages (s : Stage) : s ∈ prepStages := by
  cases s <;> decide

theorem prepStages_ranked : prepStages.Pairwise fun s t => s.rank < t.rank := by decide

theorem nextStage_eq_some {s : Stage} (h : nextStage r = some s) :
    r.closed s = false ∧ ∀ t : Stage, t.rank < s.rank → r.closed t = true := by
  obtain ⟨hopen, as, bs, hstages, hclosed⟩ := List.find?_eq_some_iff_append.mp h
  refine ⟨by simpa using hopen, fun t ht => ?_⟩
  have hmem := mem_prepStages t
  rw [hstages] at hmem
  rcases List.mem_append.mp hmem with hmem | hmem
  · simpa using hclosed t hmem
  · rcases List.mem_cons.mp hmem with heq | hmem
    · exact absurd (heq ▸ ht) (Nat.lt_irrefl _)
    · have hranked := prepStages_ranked
      rw [hstages] at hranked
      have hlt := (List.pairwise_cons.mp (List.pairwise_append.mp hranked).2.1).1 t hmem
      exact absurd ht (Nat.not_lt.mpr hlt.le)

theorem nextStage_eq_none : nextStage r = none ↔ ∀ s, r.closed s = true := by
  unfold nextStage
  rw [List.find?_eq_none]
  constructor
  · intro h s
    simpa using h s (mem_prepStages s)
  · intro h s _
    simpa using h s

theorem prepared_createRun (org : Nat) (kind : Text) (id : Nat) (config : Config) :
    Prepared (createRun org kind id config) where
  ordered := fun _ _ _ h => Bool.noConfusion h
  output := fun _ h => StageState.noConfusion h
  skipped := fun _ h => StageState.noConfusion h
  unparsed := fun _ => ⟨rfl, rfl, rfl⟩
  failed := fun h => RunStatus.noConfusion h
  settled := fun h => RunStatus.noConfusion h

theorem Output.keep {s t : Stage} (h : Output r t) (hkeep : Keeps s r r') (hst : t.rank < s.rank)
    (hstage : r'.stage t = r.stage t) : Output r' t := by
  have hne : ∀ q : Stage, q.rank ≤ t.rank → s ≠ q := fun q hq heq => by
    subst heq
    omega
  cases t with
  | parse =>
    obtain ⟨hlines, hname, hcount⟩ := hkeep.parse (hne _ (by decide))
    exact ⟨hstage.trans h.1, hname ▸ h.2.1, by rw [hlines, hcount]; exact h.2.2⟩
  | screen =>
    obtain ⟨hlines, -, -⟩ := hkeep.parse (hne _ (by decide))
    obtain ⟨hscreens, hcount⟩ := hkeep.screen (hne _ (by decide))
    refine ⟨hstage.trans h.1, ?_, ?_⟩
    · rw [hscreens, hlines]
      exact h.2.1
    · rw [hscreens, hcount]
      exact h.2.2
  | expand =>
    obtain ⟨hlines, -, -⟩ := hkeep.parse (hne _ (by decide))
    obtain ⟨hscreens, -⟩ := hkeep.screen (hne _ (by decide))
    obtain ⟨hunits, hcount⟩ := hkeep.expand (hne _ (by decide))
    have htriggers : triggers r' = triggers r := by
      unfold triggers
      rw [hlines, hscreens]
    refine ⟨hstage.trans h.1, ?_, ?_⟩
    · rw [hunits, htriggers]
      exact h.2.1
    · rw [hunits, hcount]
      exact h.2.2
  | classify =>
    obtain ⟨hunits, -⟩ := hkeep.expand (hne _ (by decide))
    obtain ⟨hrows, hcount⟩ := hkeep.classify (hne _ (by decide))
    refine ⟨hstage.trans h.1, ?_, ?_⟩
    · rw [hrows, hunits]
      exact h.2.1
    · rw [hcount, hunits]
      exact h.2.2
  | embed => exact absurd hst (by cases s <;> decide)

theorem Ended.stage_other {s t : Stage} (h : Ended s r r') (hne : t ≠ s) :
    r'.stage t = r.stage t := by
  cases h with
  | closed hstage _ _ => rw [hstage, setStage_other r _ hne]
  | failed _ hstage _ _ _ => rw [hstage, setStage_other r _ hne]
  | nothing _ hstage _ _ => rw [hstage, setStage_other r _ hne]

theorem Ended.closed_other {s t : Stage} (h : Ended s r r') (hne : t ≠ s) :
    r'.closed t = r.closed t := by
  unfold PrepRun.closed
  rw [h.stage_other hne]

theorem Ended.output_of_complete {s : Stage} (h : Ended s r r') (hs : r'.stage s = .complete) :
    Output r' s := by
  cases h with
  | closed _ hout _ => exact hout
  | failed _ hstage _ _ _ =>
    rw [hstage, setStage_self] at hs
    cases hs
  | nothing _ hstage _ _ =>
    rw [hstage, setStage_self] at hs
    cases hs

theorem Ended.parse_of_skipped {s : Stage} (h : Ended s r r') (hs : r'.stage s = .skipped) :
    s = .parse := by
  cases h with
  | closed hstage _ _ =>
    rw [hstage, setStage_self] at hs
    cases hs
  | failed _ hstage _ _ _ =>
    rw [hstage, setStage_self] at hs
    cases hs
  | nothing hp _ _ _ => exact hp

/-! A run without lines is screened and expanded to nothing. -/

theorem Ended.lines_of_parse (h : Ended .parse r r') (hparse : r'.stage .parse ≠ .complete) :
    r'.lines = [] := by
  cases h with
  | closed hstage _ _ => exact absurd (by rw [hstage, setStage_self]) hparse
  | failed _ _ _ hlines _ => exact hlines rfl
  | nothing _ _ _ hlines => exact hlines

theorem Ended.screens_of_screen (h : Ended .screen r r') (hlines : r'.lines = []) :
    r'.screens = [] := by
  cases h with
  | closed _ hout _ =>
    have hmap := hout.2.1
    rw [hlines] at hmap
    exact List.map_eq_nil_iff.mp hmap
  | failed hkind _ _ _ _ => exact absurd rfl hkind.1
  | nothing hp _ _ _ => cases hp

theorem Ended.units_of_expand (h : Ended .expand r r') (hlines : r'.lines = []) :
    r'.units = [] := by
  cases h with
  | closed _ hout _ =>
    have hmap := hout.2.1
    unfold triggers at hmap
    rw [hlines] at hmap
    exact List.map_eq_nil_iff.mp hmap
  | failed hkind _ _ _ _ => exact absurd rfl hkind.2
  | nothing hp _ _ _ => cases hp

theorem Prepared.lt_of_open {s t : Stage} (h : Prepared r) (hs : r.closed s = false)
    (ht : r.closed t = true) : t.rank < s.rank := by
  rcases Nat.lt_trichotomy t.rank s.rank with hlt | heq | hgt
  · exact hlt
  · obtain rfl : t = s := Stage.rank_injective heq
    rw [hs] at ht
    cases ht
  · have hclosed := h.ordered s t hgt ht
    rw [hs] at hclosed
    cases hclosed

section Round

variable {s : Stage} (h : Prepared r) (hend : Ended s r r')

include h hend

theorem Prepared.ordered_round (hopen : r.closed s = false)
    (hbefore : ∀ t : Stage, t.rank < s.rank → r.closed t = true) (a b : Stage)
    (hab : a.rank < b.rank) (hb : r'.closed b = true) : r'.closed a = true := by
  by_cases hbs : b = s
  · have hane : a ≠ s := fun heq => by
      rw [heq, hbs] at hab
      omega
    rw [hend.closed_other hane]
    exact hbefore a (hbs ▸ hab)
  · rw [hend.closed_other hbs] at hb
    have hane : a ≠ s := fun heq => by
      have hlt := h.lt_of_open hopen hb
      rw [heq] at hab
      omega
    rw [hend.closed_other hane]
    exact h.ordered a b hab hb

theorem Prepared.unparsed_round (hopen : r.closed s = false) (hkeep : Keeps s r r')
    (hparse : r'.stage .parse ≠ .complete) :
    r'.lines = [] ∧ r'.screens = [] ∧ r'.units = [] := by
  by_cases hs : s = .parse
  · subst hs
    have hnot : r.stage .parse ≠ .complete := fun hc => by
      rw [closed_iff.mpr (.inl hc)] at hopen
      cases hopen
    obtain ⟨-, hscreens, hunits⟩ := h.unparsed hnot
    rw [(hkeep.screen Stage.noConfusion).1, (hkeep.expand Stage.noConfusion).1]
    exact ⟨hend.lines_of_parse hparse, hscreens, hunits⟩
  · rw [hend.stage_other (Ne.symm hs)] at hparse
    obtain ⟨hlines, hscreens, hunits⟩ := h.unparsed hparse
    have hlines' : r'.lines = [] := (hkeep.parse hs).1.trans hlines
    refine ⟨hlines', ?_, ?_⟩
    · by_cases hscreen : s = .screen
      · subst hscreen
        exact hend.screens_of_screen hlines'
      · exact (hkeep.screen hscreen).1.trans hscreens
    · by_cases hexpand : s = .expand
      · subst hexpand
        exact hend.units_of_expand hlines'
      · exact (hkeep.expand hexpand).1.trans hunits

theorem Prepared.failed_round (hstatus : r'.status = .failed) : r'.stage .parse ≠ .skipped := by
  intro hskip
  cases hend with
  | closed hstage _ hs =>
    by_cases hp : s = .parse
    · rw [hs, if_pos hp] at hstatus
      cases hstatus
    · rw [hs, if_neg hp] at hstatus
      rw [hstage, setStage_other r _ (Ne.symm hp)] at hskip
      exact h.failed hstatus hskip
  | failed _ hstage _ _ hunits =>
    by_cases hp : s = .parse
    · subst hp
      rw [hstage, setStage_self] at hskip
      cases hskip
    · -- a stage that has no units does not fail
      rw [hstage, setStage_other r _ (Ne.symm hp)] at hskip
      refine hunits hp (h.unparsed ?_).2.2
      rw [hskip]
      exact StageState.noConfusion
  | nothing _ _ hs _ =>
    rw [hstatus] at hs
    rcases hs with hs | hs <;> cases hs

theorem Prepared.settled_round (hstatus : r'.status = .unsupported) :
    r'.closed .parse = true := by
  by_cases hp : s = .parse
  · subst hp
    cases hend with
    | closed hstage _ _ =>
      refine closed_iff.mpr (.inl ?_)
      rw [hstage, setStage_self]
    | failed _ _ hs _ _ =>
      rw [hs] at hstatus
      cases hstatus
    | nothing _ hstage _ _ =>
      refine closed_iff.mpr (.inr ?_)
      rw [hstage, setStage_self]
  · rw [hend.closed_other (Ne.symm hp)]
    cases hend with
    | closed _ _ hs =>
      rw [hs, if_neg hp] at hstatus
      exact h.settled hstatus
    | failed _ _ hs _ _ =>
      rw [hs] at hstatus
      cases hstatus
    | nothing hparse _ _ _ => exact absurd hparse hp

end Round

/-- **A round keeps the invariant.** -/
theorem Prepared.round {s : Stage} (h : Prepared r) (hopen : r.closed s = false)
    (hbefore : ∀ t : Stage, t.rank < s.rank → r.closed t = true) (hend : Ended s r r')
    (hkeep : Keeps s r r') : Prepared r' where
  ordered := h.ordered_round hend hopen hbefore
  output := by
    intro t ht
    by_cases hts : t = s
    · exact hts ▸ hend.output_of_complete (hts ▸ ht)
    · have hstage := hend.stage_other hts
      rw [hstage] at ht
      exact (h.output t ht).keep hkeep (h.lt_of_open hopen (closed_iff.mpr (.inl ht))) hstage
  skipped := by
    intro t ht
    by_cases hts : t = s
    · exact hts.trans (hend.parse_of_skipped (hts ▸ ht))
    · rw [hend.stage_other hts] at ht
      exact h.skipped t ht
  unparsed := h.unparsed_round hend hopen hkeep
  failed := h.failed_round hend
  settled := h.settled_round hend

theorem Prepared.reconcile (h : Prepared r) (org : Nat) :
    Prepared { r with organizationId := org } where
  ordered := h.ordered
  output := fun s hs => by cases s <;> exact h.output _ hs
  skipped := h.skipped
  unparsed := h.unparsed
  failed := h.failed
  settled := h.settled

theorem Prepared.complete (h : Prepared r) : Prepared { r with status := .complete } where
  ordered := h.ordered
  output := fun s hs => by cases s <;> exact h.output _ hs
  skipped := h.skipped
  unparsed := h.unparsed
  failed := fun hs => RunStatus.noConfusion hs
  settled := fun hs => RunStatus.noConfusion hs

theorem orphan_stage_other {reason : Text} {s : Stage} (h : s ≠ .parse) :
    (r.orphan reason).stage s = r.stage s := by
  unfold PrepRun.orphan
  dsimp only
  split
  · exact setStage_other r _ h
  · rfl

theorem orphan_closed_other {reason : Text} {s : Stage} (h : s ≠ .parse) :
    (r.orphan reason).closed s = r.closed s := by
  unfold PrepRun.closed
  rw [orphan_stage_other h]

theorem orphan_closed_parse (reason : Text) : (r.orphan reason).closed .parse = true := by
  unfold PrepRun.orphan
  split
  · exact closed_iff.mpr (.inr (setStage_self r .parse .skipped))
  · rename_i hcomplete
    exact closed_iff.mpr (.inl (of_not_not hcomplete))

theorem complete_of_orphan {reason : Text} {s : Stage}
    (h : (r.orphan reason).stage s = .complete) : r.stage s = .complete := by
  unfold PrepRun.orphan at h
  dsimp only at h
  split at h
  · by_cases hs : s = .parse
    · rw [hs, setStage_self] at h
      cases h
    · rwa [setStage_other r _ hs] at h
  · exact h

theorem Output.orphan {reason : Text} {s : Stage} (h : Output r s)
    (hs : (r.orphan reason).stage s = .complete) : Output (r.orphan reason) s := by
  unfold PrepRun.orphan at hs ⊢
  split at hs
  · rename_i hparse
    rw [if_pos hparse]
    cases s with
    | parse => cases hs
    | screen => exact h
    | expand => exact h
    | classify => exact h
    | embed => exact h
  · rename_i hparse
    rw [if_neg hparse]
    cases s <;> exact h

theorem Prepared.orphan (h : Prepared r) (reason : Text) : Prepared (r.orphan reason) where
  ordered := by
    intro a b hab hb
    have hbne : b ≠ .parse := fun heq => by
      rw [heq] at hab
      exact absurd hab (Nat.not_lt_zero _)
    rw [orphan_closed_other hbne] at hb
    by_cases ha : a = .parse
    · rw [ha]
      exact orphan_closed_parse reason
    · rw [orphan_closed_other ha]
      exact h.ordered a b hab hb
  output := fun s hs => (h.output s (complete_of_orphan hs)).orphan hs
  skipped := by
    intro s hs
    by_cases hp : s = .parse
    · exact hp
    · rw [orphan_stage_other hp] at hs
      exact h.skipped s hs
  unparsed := by
    intro hparse
    have hrows : (r.orphan reason).lines = r.lines ∧ (r.orphan reason).screens = r.screens ∧
        (r.orphan reason).units = r.units := by
      unfold PrepRun.orphan
      split <;> exact ⟨rfl, rfl, rfl⟩
    rw [hrows.1, hrows.2.1, hrows.2.2]
    refine h.unparsed fun hc => hparse ?_
    unfold PrepRun.orphan
    rw [if_neg (not_not.mpr hc)]
    exact hc
  failed := fun hs => RunStatus.noConfusion hs
  settled := fun _ => orphan_closed_parse reason

/-! The three ways of a round: nothing is open, nobody owns the source, or the next stage is
run for its owner. -/

theorem advanceLoop_closed {rounds : Nat} (hnext : nextStage r = none) :
    advanceLoop w (rounds + 1) r = some { r with status := .complete } := by
  rw [advanceLoop]
  split
  · rfl
  · rename_i h
    rw [hnext] at h
    cases h

theorem advanceLoop_orphan {rounds : Nat} {s : Stage} {reason : Text}
    (hnext : nextStage r = some s) (howner : w.owner s = .error reason) :
    advanceLoop w (rounds + 1) r = some (r.orphan reason) := by
  rw [advanceLoop]
  split
  · rename_i h
    rw [hnext] at h
    cases h
  · rename_i s' h
    rw [hnext, Option.some.injEq] at h
    subst h
    rw [howner]

theorem advanceLoop_round {rounds : Nat} {s : Stage} {org : Nat} (hnext : nextStage r = some s)
    (howner : w.owner s = .ok org) :
    advanceLoop w (rounds + 1) r =
      (runStage w { r with organizationId := org } s).bind fun r' =>
        if stops r'.status then some r' else advanceLoop w rounds r' := by
  rw [advanceLoop]
  split
  · rename_i h
    rw [hnext] at h
    cases h
  · rename_i s' h
    rw [hnext, Option.some.injEq] at h
    subst h
    rw [howner]

/-- **Every advance keeps the invariant.** -/
theorem Prepared.advanceLoop {rounds : Nat} (h : Prepared r)
    (hrun : advanceLoop w rounds r = some r') : Prepared r' ∧ r'.config = r.config := by
  induction rounds generalizing r with
  | zero => cases hrun
  | succ rounds ih =>
    rw [Prep.advanceLoop] at hrun
    split at hrun
    · obtain rfl := Option.some.inj hrun
      exact ⟨h.complete, rfl⟩
    · rename_i s hnext
      obtain ⟨hopen, hbefore⟩ := nextStage_eq_some hnext
      split at hrun
      · rename_i reason _
        obtain rfl := Option.some.inj hrun
        refine ⟨h.orphan reason, ?_⟩
        unfold PrepRun.orphan
        split <;> rfl
      · rename_i org _
        obtain ⟨mid, hmid, hrest⟩ := Option.bind_eq_some_iff.mp hrun
        have hprep : Prepared mid := (h.reconcile org).round hopen hbefore (ended_runStage hmid)
          (keeps_runStage hmid)
        have hconfig : mid.config = r.config := (keeps_runStage hmid).config
        split at hrest
        · obtain rfl := Option.some.inj hrest
          exact ⟨hprep, hconfig⟩
        · obtain ⟨hr', hc⟩ := ih hprep hrest
          exact ⟨hr', hc.trans hconfig⟩

theorem prepared_afterAdvances {r : PrepRun} (h : Prepared r) (worlds : List World) :
    Prepared (afterAdvances r worlds) ∧ (afterAdvances r worlds).config = r.config := by
  induction worlds generalizing r with
  | nil => exact ⟨h, rfl⟩
  | cons w worlds ih =>
    show Prepared (afterAdvances ((advance w r).getD r) worlds) ∧
      (afterAdvances ((advance w r).getD r) worlds).config = r.config
    cases hadv : advance w r with
    | none => exact ih h
    | some r' =>
      obtain ⟨hr', hconfig⟩ := h.advanceLoop hadv
      obtain ⟨hafter, hc⟩ := ih hr'
      exact ⟨hafter, hc.trans hconfig⟩

end Invariant

/-! ## Driving a preparation job -/

section Driving

open Concord.Queue

/-- `_TERMINAL`. -/
def terminal (status : RunStatus) : Bool :=
  status = .complete || status = .unsupported || status = .orphaned

/-- The branches of `_drive_one` on the status of the run. -/
def drivenTo (r : PrepRun) : Driven :=
  if terminal r.status then .done
  else if r.status = .failed then .failed r.error
  else .pending

/-- `_drive_one`, with the run as `load_run` finds it; `none` where it raises. -/
def driveOne (w : World) (runId : Nat) : Option PrepRun → Option (Option PrepRun × Driven)
  | none =>
    some (none, .failed (some ("run ".toList ++ natText runId ++ " no longer exists".toList)))
  | some r => (advance w r).map fun r' => (some r', drivenTo r')

theorem advanceLoop_ends {w : World} {rounds : Nat} {r r' : PrepRun}
    (h : advanceLoop w rounds r = some r') : r'.status = .complete ∨ stops r'.status = true := by
  induction rounds generalizing r with
  | zero => cases h
  | succ rounds ih =>
    rw [advanceLoop] at h
    split at h
    · obtain rfl := Option.some.inj h
      exact .inl rfl
    · split at h
      · obtain rfl := Option.some.inj h
        exact .inr rfl
      · obtain ⟨r₁, -, h⟩ := Option.bind_eq_some_iff.mp h
        split at h
        · rename_i hstop
          exact .inr (Option.some.inj h ▸ hstop)
        · exact ih h

theorem drivenTo_settles {r : PrepRun} (h : r.status = .complete ∨ stops r.status = true) :
    drivenTo r ≠ .pending := by
  unfold drivenTo
  cases hs : r.status <;> rw [hs] at h <;> first
    | exact Driven.noConfusion
    | exact absurd h (by decide)

theorem driveOne_settles {w : World} {runId : Nat} {run after : Option PrepRun} {o : Driven}
    (h : driveOne w runId run = some (after, o)) : o ≠ .pending := by
  cases run with
  | none =>
    obtain ⟨-, rfl⟩ := Prod.mk.inj (Option.some.inj h)
    exact Driven.noConfusion
  | some r =>
    obtain ⟨r', hrun, hafter⟩ := Option.map_eq_some_iff.mp h
    obtain ⟨-, rfl⟩ := Prod.mk.inj hafter
    exact drivenTo_settles (advanceLoop_ends hrun)

end Driving

end Concord.Prep
