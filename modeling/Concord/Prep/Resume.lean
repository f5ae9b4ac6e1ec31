import Concord.Prep.Advance

/-!
# Taking a run up again

What a failed run comes to once everything succeeds. The rows are there in the end, but what
a run's status says is another matter: only parse takes a failure back (`recovers_iff`), and
an advance that finds nothing open calls a run complete that was unsupported
(`stays_stopped`). `resumable_iff` puts both together for every history of advances.
-/

namespace Concord.Prep

open Concord.Python

/-- Every stage that is asked for succeeds. -/
structure Succeeds (w : World) (config : Config) : Prop where
  owner : ∀ s, ∃ org, w.owner s = .ok org
  parse : ∃ media org parser records, w.parse = .parsed media org parser records
  classify : ∀ u candidates, ∃ answer, w.classify u candidates = .ok answer
  embed : ∀ texts, ∃ model vectors, w.embed texts = .ok (model, vectors) ∧
    vectors.length = texts.length ∧ ∀ v ∈ vectors, v.length = prepEmbeddingDim
  dimensions : config.embedDimensions = prepEmbeddingDim

section Success

variable {w : World} {r : PrepRun}

theorem classify_succeeds (h : Succeeds w r.config) (us : List PrepUnit) :
    ∃ rows, us.mapM (classifyUnit w r) = .ok rows := by
  induction us with
  | nil => exact ⟨[], rfl⟩
  | cons u us ih =>
    obtain ⟨answer, hanswer⟩ := h.classify u (candidatesFor r u)
    obtain ⟨rows, hrows⟩ := ih
    have hu : ∃ row, classifyUnit w r u = .ok row := by
      unfold classifyUnit
      rw [hanswer]
      exact ⟨_, rfl⟩
    obtain ⟨row, hrow⟩ := hu
    rw [List.mapM_cons, hrow, hrows]
    exact ⟨row :: rows, rfl⟩

theorem embed_succeeds (h : Succeeds w r.config) (bs : List (List PrepUnit)) :
    ∃ rows, embedBatches w r bs = some (.ok rows) := by
  induction bs with
  | nil => exact ⟨[], rfl⟩
  | cons b bs ih =>
    obtain ⟨model, vectors, hvectors, hlen, hdim⟩ := h.embed (b.map (·.content))
    obtain ⟨rows, hrows⟩ := ih
    have hfits : (vectors.find? fun v => v.length ≠ r.config.embedDimensions ∨
        v.length ≠ prepEmbeddingDim) = none := by
      rw [List.find?_eq_none]
      intro v hv
      simp [hdim v hv, h.dimensions]
    have hb : ∃ first, embedBatch w r b = some (.ok first) := by
      rw [List.length_map] at hlen
      unfold embedBatch
      rw [hvectors]
      dsimp only
      rw [hfits]
      dsimp only
      rw [if_pos hlen]
      exact ⟨_, rfl⟩
    obtain ⟨first, hfirst⟩ := hb
    rw [embedBatches, hfirst, Option.bind_some, hrows]
    exact ⟨first ++ rows, rfl⟩

theorem stage_succeeds (h : Succeeds w r.config) (s : Stage) :
    ∃ r', runStage w r s = some r' ∧ r'.stage s = .complete := by
  cases s with
  | parse =>
    obtain ⟨media, org, parser, records, hparse⟩ := h.parse
    refine ⟨_, rfl, ?_⟩
    unfold runStageParse
    rw [hparse]
    rfl
  | screen => exact ⟨_, rfl, rfl⟩
  | expand => exact ⟨_, rfl, rfl⟩
  | classify =>
    obtain ⟨rows, hrows⟩ := classify_succeeds h r.units
    refine ⟨_, rfl, ?_⟩
    unfold runStageClassify
    rw [hrows]
    rfl
  | embed =>
    obtain ⟨rows, hrows⟩ := embed_succeeds h
      (batches (max 1 w.batchSize) r.units.length r.units)
    refine ⟨{ r.setStage .embed .complete with
      embeddings := rows, unitsEmbedded := rows.length }, ?_, rfl⟩
    show runStageEmbed w r = _
    unfold runStageEmbed
    rw [hrows]
    rfl

def Finished (r : PrepRun) : Prop := r.status = .complete ∧ ∀ s, Output r s

theorem status_of_complete {s : Stage} {r' : PrepRun} (h : Ended s r r')
    (hs : r'.stage s = .complete) : r'.status = if s = .parse then .running else r.status := by
  cases h with
  | closed _ _ hstatus => exact hstatus
  | failed _ hstage _ _ _ =>
    rw [hstage, setStage_self] at hs
    cases hs
  | nothing _ hstage _ _ =>
    rw [hstage, setStage_self] at hs
    cases hs

theorem finished_of_closed (h : Prepared r) (hparse : r.stage .parse ≠ .skipped)
    (hnext : nextStage r = none) : Finished { r with status := .complete } := by
  refine ⟨rfl, fun s => ?_⟩
  have hs : r.stage s = .complete := by
    rcases closed_iff.mp (nextStage_eq_none.mp hnext s) with hc | hk
    · exact hc
    · have hp := h.skipped s hk
      subst hp
      exact absurd hk hparse
  exact h.complete.output s hs

theorem later_of_complete {r' : PrepRun} {s t : Stage} (hnext : nextStage r = some s)
    (hend : Ended s r r') (hcomplete : r'.stage s = .complete) (ht : nextStage r' = some t) :
    s.rank < t.rank := by
  have htopen := (nextStage_eq_some ht).1
  rcases Nat.lt_or_ge s.rank t.rank with hlt | hge
  · exact hlt
  · have htclosed : r'.closed t = true := by
      by_cases hts : t = s
      · rw [hts]
        exact closed_iff.mpr (.inl hcomplete)
      · have hlt : t.rank < s.rank :=
          lt_of_le_of_ne hge fun heq => hts (Stage.rank_injective heq)
        rw [hend.closed_other hts]
        exact (nextStage_eq_some hnext).2 t hlt
    rw [htclosed] at htopen
    cases htopen

/-- A run that one advance takes on: to be parsed next, or parsed and not stopped. -/
def Moving (r : PrepRun) : Prop :=
  nextStage r = some .parse ∨ r.stage .parse ≠ .skipped ∧ stops r.status = false

theorem Moving.next {s : Stage} {r' : PrepRun} (h : Moving r) (hnext : nextStage r = some s)
    (hend : Ended s r r') (hcomplete : r'.stage s = .complete) :
    r'.stage .parse ≠ .skipped ∧ stops r'.status = false := by
  have hstatus := status_of_complete hend hcomplete
  by_cases hs : s = .parse
  · subst hs
    rw [hstatus, hcomplete]
    exact ⟨StageState.noConfusion, rfl⟩
  · rw [hstatus, if_neg hs, hend.stage_other (Ne.symm hs)]
    rcases h with hp | h
    · rw [hnext, Option.some.injEq] at hp
      exact absurd hp hs
    · exact h

/-- **A run that does not stand still is finished.** The rounds that are left are enough for
the stages that are. -/
theorem advanceLoop_finishes {rounds : Nat} (hw : Succeeds w r.config) (h : Prepared r)
    (hmoving : Moving r) (hrounds : 0 < rounds)
    (henough : ∀ s, nextStage r = some s → 6 ≤ s.rank + rounds) :
    ∃ r', advanceLoop w rounds r = some r' ∧ Finished r' := by
  induction rounds generalizing r with
  | zero => cases hrounds
  | succ rounds ih =>
    cases hnext : nextStage r with
    | none =>
      have hskip : r.stage .parse ≠ .skipped := by
        rcases hmoving with hp | ⟨hp, -⟩
        · rw [hnext] at hp
          cases hp
        · exact hp
      exact ⟨_, advanceLoop_closed hnext, finished_of_closed h hskip hnext⟩
    | some s =>
      obtain ⟨org, horg⟩ := hw.owner s
      obtain ⟨hopen, hbefore⟩ := nextStage_eq_some hnext
      have hw' : Succeeds w ({ r with organizationId := org } : PrepRun).config := hw
      obtain ⟨mid, hmid, hcomplete⟩ := stage_succeeds hw' s
      have hend := ended_runStage hmid
      have hkeep := keeps_runStage hmid
      have hprep : Prepared mid := (h.reconcile org).round hopen hbefore hend hkeep
      have hnext' : nextStage { r with organizationId := org } = some s := hnext
      have hmoving' : Moving { r with organizationId := org } := hmoving
      have hgoes := hmoving'.next hnext' hend hcomplete
      have hconfig : Succeeds w mid.config := by
        rw [hkeep.config]
        exact hw
      have hrank := henough s hnext
      have hleft : ∀ t, nextStage mid = some t → 6 ≤ t.rank + rounds := by
        intro t ht
        have hlater := later_of_complete hnext' hend hcomplete ht
        omega
      obtain ⟨r', hr', hfin⟩ := ih hconfig hprep (.inr hgoes)
        (by cases s <;> simp only [Stage.rank] at hrank <;> omega) hleft
      refine ⟨r', ?_, hfin⟩
      rw [advanceLoop_round hnext horg, hmid, Option.bind_some, if_neg (by simp [hgoes.2])]
      exact hr'

/-- With parse behind it, a run that has stopped stays stopped: what the next stage comes to
does not change the status, and the loop returns on it. -/
theorem advance_stopped {r' : PrepRun} {s : Stage} (hstop : stops r.status = true)
    (hnext : nextStage r = some s) (hs : s ≠ .parse) (hadv : advance w r = some r') :
    stops r'.status = true := by
  unfold advance at hadv
  cases howner : w.owner s with
  | error reason =>
    rw [advanceLoop_orphan hnext howner] at hadv
    obtain rfl := Option.some.inj hadv
    rfl
  | ok org =>
    rw [advanceLoop_round hnext howner] at hadv
    obtain ⟨mid, hmid, hrest⟩ := Option.bind_eq_some_iff.mp hadv
    have hmidstop : stops mid.status = true := by
      cases ended_runStage hmid with
      | closed _ _ hstatus =>
        rw [hstatus, if_neg hs]
        exact hstop
      | failed _ _ hstatus _ _ =>
        rw [hstatus]
        rfl
      | nothing hp _ _ _ => exact absurd hp hs
    rw [if_pos hmidstop] at hrest
    obtain rfl := Option.some.inj hrest
    exact hmidstop

end Success

/-- **Resumable**: a failed run that is advanced with every stage succeeding is finished, and a
run that ended unsupported is never complete later. -/
structure Resumable (start : PrepRun) (worlds : List World) : Prop where
  recovers : ∀ bs w cs, worlds = bs ++ w :: cs → (afterAdvances start bs).status = .failed →
    Succeeds w start.config → ∃ r', advance w (afterAdvances start bs) = some r' ∧ Finished r'
  unsupported : ∀ bs mid cs, worlds = bs ++ mid ++ cs →
    (afterAdvances start bs).status = .unsupported →
    (afterAdvances start (bs ++ mid)).status ≠ .complete

/-- How a run may be taken up: after a failure in parse (or with nothing left), and, once it
was unsupported, while a stage is open. -/
structure TakenUp (start : PrepRun) (worlds : List World) : Prop where
  failed : ∀ bs w cs, worlds = bs ++ w :: cs → (afterAdvances start bs).status = .failed →
    Succeeds w start.config →
    nextStage (afterAdvances start bs) = some .parse ∨ nextStage (afterAdvances start bs) = none
  unsupported : ∀ bs mid w cs, worlds = bs ++ mid ++ w :: cs →
    (afterAdvances start bs).status = .unsupported →
    nextStage (afterAdvances start (bs ++ mid)) ≠ none

section Histories

variable {start : PrepRun} {worlds : List World}

theorem afterAdvances_append (as bs : List World) :
    afterAdvances start (as ++ bs) = afterAdvances (afterAdvances start as) bs :=
  List.foldl_append

theorem afterAdvances_concat (as : List World) (w : World) :
    afterAdvances start (as ++ [w]) =
      (advance w (afterAdvances start as)).getD (afterAdvances start as) := by
  rw [afterAdvances_append]
  rfl

theorem advance_of_closed {w : World} {r : PrepRun} (h : nextStage r = none) :
    advance w r = some { r with status := .complete } := advanceLoop_closed h

/-- A failed run is finished by one advance exactly where parse is what it failed at, or
nothing is left. -/
theorem recovers_iff {w : World} {r : PrepRun} (hw : Succeeds w r.config) (h : Prepared r)
    (hfailed : r.status = .failed) :
    (∃ r', advance w r = some r' ∧ Finished r') ↔
      nextStage r = some .parse ∨ nextStage r = none := by
  have hstop : stops r.status = true := by rw [hfailed]; rfl
  constructor
  · rintro ⟨r', hadv, hstatus, -⟩
    cases hnext : nextStage r with
    | none => exact .inr rfl
    | some s =>
      by_cases hs : s = .parse
      · exact .inl (by rw [hs])
      · have hstopped := advance_stopped hstop hnext hs hadv
        rw [hstatus] at hstopped
        cases hstopped
  · rintro (hnext | hnext)
    · refine advanceLoop_finishes hw h (.inl hnext) (by decide) fun s hs => ?_
      rw [hnext, Option.some.injEq] at hs
      subst hs
      decide
    · exact ⟨_, advance_of_closed hnext, finished_of_closed h (h.failed hfailed) hnext⟩

theorem closed_advanceLoop {w : World} {r r' : PrepRun} {rounds : Nat} {t : Stage}
    (ht : r.closed t = true) (hrun : advanceLoop w rounds r = some r') :
    r'.closed t = true := by
  induction rounds generalizing r with
  | zero => cases hrun
  | succ rounds ih =>
    rw [advanceLoop] at hrun
    split at hrun
    · obtain rfl := Option.some.inj hrun
      exact ht
    · rename_i s hnext
      split at hrun
      · obtain rfl := Option.some.inj hrun
        by_cases hp : t = .parse
        · rw [hp]
          exact orphan_closed_parse _
        · rw [orphan_closed_other hp]
          exact ht
      · obtain ⟨mid, hmid, hrest⟩ := Option.bind_eq_some_iff.mp hrun
        have hts : t ≠ s := by
          rintro rfl
          rw [(nextStage_eq_some hnext).1] at ht
          cases ht
        have hmidclosed : mid.closed t = true := by
          rw [(ended_runStage hmid).closed_other hts]
          exact ht
        split at hrest
        · obtain rfl := Option.some.inj hrest
          exact hmidclosed
        · exact ih hmidclosed hrest

theorem stays_stopped {r : PrepRun} (hparse : r.closed .parse = true)
    (hstop : stops r.status = true) (ws : List World)
    (hopen : ∀ as w bs, ws = as ++ w :: bs → nextStage (afterAdvances r as) ≠ none) :
    stops (afterAdvances r ws).status = true ∧ (afterAdvances r ws).closed .parse = true := by
  induction ws using List.reverseRecOn with
  | nil => exact ⟨hstop, hparse⟩
  | append_singleton ws w ih =>
    obtain ⟨hstop', hparse'⟩ := ih fun as v bs heq => hopen as v (bs ++ [w])
      (by rw [heq, List.append_assoc, List.cons_append])
    rw [afterAdvances_concat]
    cases hadv : advance w (afterAdvances r ws) with
    | none => exact ⟨hstop', hparse'⟩
    | some r' =>
      obtain ⟨s, hnext⟩ := Option.ne_none_iff_exists'.mp (hopen ws w [] rfl)
      have hs : s ≠ .parse := by
        rintro rfl
        rw [(nextStage_eq_some hnext).1] at hparse'
        cases hparse'
      exact ⟨advance_stopped hstop' hnext hs hadv, closed_advanceLoop hparse' hadv⟩

/-- **When a run is resumable.** -/
theorem resumable_iff (org : Nat) (kind : Text) (id : Nat) (config : Config)
    (worlds : List World) :
    Resumable (createRun org kind id config) worlds ↔
      TakenUp (createRun org kind id config) worlds := by
  have hprep := prepared_afterAdvances (prepared_createRun org kind id config)
  constructor
  · rintro ⟨hrecovers, hunsupported⟩
    refine ⟨?_, ?_⟩
    · intro bs w cs heq hfailed hw
      have hw' : Succeeds w (afterAdvances (createRun org kind id config) bs).config := by
        rw [(hprep bs).2]
        exact hw
      exact (recovers_iff hw' (hprep bs).1 hfailed).mp (hrecovers bs w cs heq hfailed hw)
    · intro bs mid w cs heq hstatus hnone
      refine hunsupported bs (mid ++ [w]) cs ?_ hstatus ?_
      · rw [heq, List.append_assoc, List.append_assoc, List.append_assoc, List.singleton_append]
      · rw [← List.append_assoc, afterAdvances_concat, advance_of_closed hnone]
        rfl
  · rintro ⟨hfailed, hunsupported⟩
    refine ⟨?_, ?_⟩
    · intro bs w cs heq hstatus hw
      have hw' : Succeeds w (afterAdvances (createRun org kind id config) bs).config := by
        rw [(hprep bs).2]
        exact hw
      exact (recovers_iff hw' (hprep bs).1 hstatus).mpr (hfailed bs w cs heq hstatus hw)
    · intro bs mid cs heq hstatus hcomplete
      have hstop : stops (afterAdvances (createRun org kind id config) bs).status = true := by
        rw [hstatus]
        rfl
      have hstays := stays_stopped ((hprep bs).1.settled hstatus) hstop mid
        fun as w ds hmid => by
          rw [← afterAdvances_append]
          exact hunsupported bs as w (ds ++ cs)
            (by simp only [heq, hmid, List.append_assoc, List.cons_append]) hstatus
      rw [afterAdvances_append] at hcomplete
      rw [hcomplete] at hstays
      cases hstays.1

end Histories

/-! ## Two histories -/

/-- Everything succeeds, on a document of one line that screening finds relevant. -/
def fineWorld : World where
  owner := fun _ => .ok 1
  parse := .parsed none 1 "text".toList
    [⟨1, "All administrators use MFA.".toList, some 1, none, none, none, none, none, none, none⟩]
  score := fun _ => some [("IA-2".toList, 1)]
  systemId := none
  classify := fun _ _ => .ok ⟨["IA-2".toList], none, none, none, 1⟩
  aiRun := fun _ => none
  embed := fun texts => .ok ("m".toList, texts.map fun _ => List.replicate prepEmbeddingDim 0)
  batchSize := 8

def noModel : World := { fineWorld with classify := fun _ _ => .error "down".toList }

def oneImage : World :=
  { fineWorld with parse := .unsupported (some "image/png".toList) "no OCR".toList }

def defaults : Config := ⟨0, 4, prepEmbeddingDim⟩

theorem fineWorld_succeeds : Succeeds fineWorld defaults where
  owner := fun _ => ⟨1, rfl⟩
  parse := ⟨_, _, _, _, rfl⟩
  classify := fun _ _ => ⟨_, rfl⟩
  embed := fun texts => ⟨_, _, rfl, List.length_map _, fun v hv => by
    obtain ⟨t, -, rfl⟩ := List.mem_map.mp hv
    exact List.length_replicate⟩
  dimensions := rfl

/-- After a failed classification the run is advanced with everything up again, and stands as
failed; and the run of an image is complete after it was advanced often enough. -/
theorem not_resumable :
    ¬(∀ (org : Nat) (kind : Text) (id : Nat) (config : Config) (worlds : List World),
        ∀ bs w cs, worlds = bs ++ w :: cs →
          (afterAdvances (createRun org kind id config) bs).status = .failed →
          Succeeds w config →
          ∃ r', advance w (afterAdvances (createRun org kind id config) bs) = some r' ∧
            Finished r') ∧
      ¬(∀ (org : Nat) (kind : Text) (id : Nat) (config : Config) (worlds : List World),
        ∀ bs mid cs, worlds = bs ++ mid ++ cs →
          (afterAdvances (createRun org kind id config) bs).status = .unsupported →
          (afterAdvances (createRun org kind id config) (bs ++ mid)).status ≠ .complete) := by
  constructor
  · intro h
    obtain ⟨r', hadv, hstatus, -⟩ := h 1 "policy_version".toList 1 defaults [noModel, fineWorld]
      [noModel] fineWorld [] rfl (by decide +kernel) fineWorld_succeeds
    have hfailed : (advance fineWorld (afterAdvances (createRun 1 "policy_version".toList 1
        defaults) [noModel])).map PrepRun.status = some .failed := by decide +kernel
    rw [hadv, Option.map_some, Option.some.injEq, hstatus] at hfailed
    cases hfailed
  · intro h
    exact h 1 "policy_version".toList 1 defaults (List.replicate 6 oneImage) [oneImage]
      (List.replicate 5 oneImage) [] rfl (by decide +kernel) (by decide +kernel)

end Concord.Prep
