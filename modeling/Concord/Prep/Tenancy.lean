import Concord.Prep.Advance

/-!
# Whose rows a run has

`_reconcile_organization` resolves the owner of the source before each stage, puts it on the
run, and scopes the session to it: row-level security then shows a stage only the rows of that
organisation (`PrepRun.visibleTo`), of the run and of everything else. The rows that earlier
stages have written keep the owner they were written under.

A session makes turns of the loop of `advance`, and is committed or rolled back at any point;
the source may belong to somebody else at each turn. `oneOwner_iff`: whenever a stage has just
completed, the rows are all of its owner, exactly if the lines were parsed under that owner.
-/

namespace Concord.Prep

open Concord.Base Concord.Python

def shown {ρ : Type} (owner : ρ → Nat) (tenant : Nat) (rows : List ρ) : List ρ :=
  rows.filter fun x => owner x = tenant

def hidden {ρ : Type} (owner : ρ → Nat) (tenant : Nat) (rows : List ρ) : List ρ :=
  rows.filter fun x => owner x ≠ tenant

namespace PrepRun

/-- What the policy `tenant_isolation` shows of the rows. -/
def visibleTo (tenant : Nat) (r : PrepRun) : PrepRun :=
  { r with
    lines := shown (·.organizationId) tenant r.lines
    screens := shown (·.organizationId) tenant r.screens
    units := shown (·.organizationId) tenant r.units
    classifications := shown (·.organizationId) tenant r.classifications
    embeddings := shown (·.organizationId) tenant r.embeddings }

/-- The rows of the others are still there after a tenant has written. -/
def besides (tenant : Nat) (r after : PrepRun) : PrepRun :=
  { after with
    lines := hidden (·.organizationId) tenant r.lines ++ after.lines
    screens := hidden (·.organizationId) tenant r.screens ++ after.screens
    units := hidden (·.organizationId) tenant r.units ++ after.units
    classifications := hidden (·.organizationId) tenant r.classifications ++ after.classifications
    embeddings := hidden (·.organizationId) tenant r.embeddings ++ after.embeddings }

def lineOwners (r : PrepRun) : List Nat := r.lines.map (·.organizationId)

def derivedOwners (r : PrepRun) : List Nat :=
  r.screens.map (·.organizationId) ++ r.units.map (·.organizationId) ++
    r.classifications.map (·.organizationId) ++ r.embeddings.map (·.organizationId)

def owners (r : PrepRun) : List Nat := r.lineOwners ++ r.derivedOwners

end PrepRun

/-- `resolve_source` in a scoped session: the source of somebody else is not found. -/
def World.scopedTo (r : PrepRun) (w : World) : World :=
  { w with
    parse := match w.parse with
      | .parsed media org parser records =>
        if org = r.organizationId then .parsed media org parser records
        else .missing (r.sourceKind ++ [' '] ++ natText r.sourceId ++ " not found".toList)
      | answer => answer }

/-- A stage, scoped to the organisation of the run. -/
def runStageAs (w : World) (r : PrepRun) (s : Stage) : Option PrepRun :=
  (runStage (w.scopedTo r) (r.visibleTo r.organizationId) s).map (r.besides r.organizationId)

/-- A turn of the loop of `advance`, and the owner of the stage that it has completed; `none`
where the runner raises. -/
def turn (w : World) (r : PrepRun) : Option (PrepRun × Option Nat) :=
  match nextStage r with
  | none => some ({ r with status := .complete }, none)
  | some s =>
    match w.owner s with
    | .error reason => some (r.orphan reason, none)
    | .ok org =>
      (runStageAs w { r with organizationId := org } s).map fun r' =>
        (r', if r'.stage s = .complete then some org else none)

namespace Tenancy

/-- A run, as it is stored and as the open transaction has it. -/
structure Sys where
  saved : PrepRun
  run : PrepRun
  /-- The owner resolved before the stage that has just completed. -/
  completed : Option Nat

inductive Action
  | turn (w : World)
  | commit
  /-- The worker dies. -/
  | rollback

def start (r : PrepRun) : Sys := ⟨r, r, none⟩

def step (s : Sys) : Action → Option Sys
  | .turn w =>
    match turn w s.run with
    | some (r, completed) => some { s with run := r, completed := completed }
    | none => some (start s.saved)
  | .commit => some (start s.run)
  | .rollback => some (start s.saved)

/-- The run and its rows are of one organisation, and nobody else reads any. -/
structure OneOwner (org : Nat) (r : PrepRun) : Prop where
  run : r.organizationId = org
  rows : ∀ o ∈ r.owners, o = org
  unreadable : ∀ tenant, tenant ≠ org → (r.visibleTo tenant).owners = []

/-- What is claimed of the state a stage has just been completed in. -/
def Agrees (s : Sys) : Prop := ∀ org, s.completed = some org → OneOwner org s.run

/-- A stage that completes finds no line that was parsed under another owner. -/
def LinesKept (s : Sys) : Action → Prop
  | .turn w => ∀ r org, turn w s.run = some (r, some org) →
      ∀ l ∈ s.run.lines, l.organizationId = org
  | _ => True

end Tenancy

/-! ## What a tenant sees and writes -/

section Rows

variable {r r' : PrepRun} {ρ : Type} {owner : ρ → Nat} {rows more : List ρ} {tenant o : Nat}

theorem mem_shown : o ∈ (shown owner tenant rows).map owner ↔ o ∈ rows.map owner ∧ o = tenant := by
  simp only [shown, List.mem_map, List.mem_filter, decide_eq_true_eq]
  constructor
  · rintro ⟨x, ⟨hx, hx'⟩, rfl⟩
    exact ⟨⟨x, hx, rfl⟩, hx'⟩
  · rintro ⟨⟨x, hx, rfl⟩, hx'⟩
    exact ⟨x, ⟨hx, hx'⟩, rfl⟩

theorem mem_hidden_append : o ∈ (hidden owner tenant rows ++ more).map owner ↔
    (o ∈ rows.map owner ∧ o ≠ tenant) ∨ o ∈ more.map owner := by
  simp only [hidden, List.map_append, List.mem_append, List.mem_map, List.mem_filter,
    decide_eq_true_eq]
  refine or_congr ⟨?_, ?_⟩ Iff.rfl
  · rintro ⟨x, ⟨hx, hx'⟩, rfl⟩
    exact ⟨⟨x, hx, rfl⟩, hx'⟩
  · rintro ⟨⟨x, hx, rfl⟩, hx'⟩
    exact ⟨x, ⟨hx, hx'⟩, rfl⟩

theorem mem_derivedOwners : o ∈ r.derivedOwners ↔
    ((o ∈ r.screens.map (·.organizationId) ∨ o ∈ r.units.map (·.organizationId)) ∨
      o ∈ r.classifications.map (·.organizationId)) ∨
        o ∈ r.embeddings.map (·.organizationId) := by
  simp only [PrepRun.derivedOwners, List.mem_append]

theorem lineOwners_visibleTo :
    o ∈ (r.visibleTo tenant).lineOwners ↔ o ∈ r.lineOwners ∧ o = tenant :=
  mem_shown

theorem derivedOwners_visibleTo :
    o ∈ (r.visibleTo tenant).derivedOwners ↔ o ∈ r.derivedOwners ∧ o = tenant := by
  rw [mem_derivedOwners, mem_derivedOwners, or_and_right, or_and_right, or_and_right]
  exact or_congr (or_congr (or_congr mem_shown mem_shown) mem_shown) mem_shown

theorem lineOwners_besides : o ∈ (r.besides tenant r').lineOwners ↔
    (o ∈ r.lineOwners ∧ o ≠ tenant) ∨ o ∈ r'.lineOwners :=
  mem_hidden_append

theorem or_kinds {a b c d a' b' c' d' p : Prop} :
    (((a ∧ p ∨ a') ∨ (b ∧ p ∨ b')) ∨ (c ∧ p ∨ c')) ∨ (d ∧ p ∨ d') ↔
      (((a ∨ b) ∨ c) ∨ d) ∧ p ∨ (((a' ∨ b') ∨ c') ∨ d') := by
  tauto

theorem derivedOwners_besides : o ∈ (r.besides tenant r').derivedOwners ↔
    (o ∈ r.derivedOwners ∧ o ≠ tenant) ∨ o ∈ r'.derivedOwners := by
  rw [mem_derivedOwners, mem_derivedOwners, mem_derivedOwners]
  refine Iff.trans ?_ or_kinds
  exact or_congr (or_congr (or_congr mem_hidden_append mem_hidden_append) mem_hidden_append)
    mem_hidden_append

end Rows

/-! ## What a stage writes -/

section Stages

variable {w : World} {r r' : PrepRun} {s : Stage} {o : Nat}

theorem organization_runStage (h : runStage w r s = some r') :
    r'.organizationId = r.organizationId := by
  cases s with
  | parse =>
    obtain rfl := Option.some.inj h
    unfold runStageParse
    dsimp only
    split <;> rfl
  | screen =>
    obtain rfl := Option.some.inj h
    rfl
  | expand =>
    obtain rfl := Option.some.inj h
    rfl
  | classify =>
    obtain rfl := Option.some.inj h
    unfold runStageClassify
    split <;> rfl
  | embed =>
    obtain ⟨answer, -, rfl⟩ := Option.map_eq_some_iff.mp h
    cases answer <;> rfl

theorem mem_owner_map {α ρ : Type} {owner : ρ → Nat} {xs : List α} (f : α → ρ) {org : Nat}
    (hf : ∀ x, owner (f x) = org) (ho : o ∈ (xs.map f).map owner) : o = org ∧ xs ≠ [] := by
  rw [List.map_map] at ho
  obtain ⟨x, hx, rfl⟩ := List.mem_map.mp ho
  exact ⟨hf x, List.ne_nil_of_mem hx⟩

theorem orderedLines_ne_nil {ls : List PrepLine} (h : orderedLines ls ≠ []) : ls ≠ [] := by
  rintro rfl
  exact h rfl

theorem triggers_ne_nil (h : triggers r ≠ []) : r.lines ≠ [] := by
  intro hnil
  unfold triggers at h
  rw [hnil] at h
  exact h rfl

theorem classifyUnits_owner {us : List PrepUnit} {rows : List PrepClassification}
    (h : us.mapM (classifyUnit w r) = .ok rows) :
    ∀ x ∈ rows, x.organizationId = r.organizationId := by
  induction us generalizing rows with
  | nil =>
    obtain rfl := Except.ok.inj h
    exact fun x hx => nomatch hx
  | cons u us ih =>
    rw [List.mapM_cons] at h
    obtain ⟨row, hrow, h⟩ := bind_eq_ok.mp h
    obtain ⟨more, hmore, h⟩ := bind_eq_ok.mp h
    obtain rfl := Except.ok.inj h
    obtain ⟨data, -, rfl⟩ := map_eq_ok.mp hrow
    exact List.forall_mem_cons.mpr ⟨rfl, ih hmore⟩

theorem embedBatch_owner {batch : List PrepUnit} {rows : List PrepEmbedding}
    (h : embedBatch w r batch = some (.ok rows)) :
    ∀ x ∈ rows, x.organizationId = r.organizationId := by
  unfold embedBatch at h
  split at h
  · cases Option.some.inj h
  · split at h
    · cases Option.some.inj h
    · split at h
      · obtain rfl := Except.ok.inj (Option.some.inj h)
        intro x hx
        obtain ⟨i, hi, rfl⟩ := List.mem_iff_getElem.mp hx
        rw [List.getElem_zipWith]
      · cases h

theorem embedBatches_owner {bs : List (List PrepUnit)} {rows : List PrepEmbedding}
    (h : embedBatches w r bs = some (.ok rows)) :
    ∀ x ∈ rows, x.organizationId = r.organizationId := by
  obtain ⟨parts, hparts, rfl⟩ := embedBatches_eq_ok h
  clear h
  induction hparts with
  | nil => exact fun x hx => nomatch hx
  | cons hpart _ ih =>
    exact List.forall_mem_append.mpr ⟨embedBatch_owner hpart, ih⟩

/-- **A stage writes for the organisation of the run**, and nothing where there is nothing to
write it from. -/
theorem derived_runStage (hs : s ≠ .parse) (h : runStage w r s = some r')
    (ho : o ∈ r'.derivedOwners) :
    o ∈ r.derivedOwners ∨ (o = r.organizationId ∧ (r.lines ≠ [] ∨ r.units ≠ [])) := by
  rw [mem_derivedOwners] at ho ⊢
  cases s with
  | parse => exact absurd rfl hs
  | screen =>
    -- a screen is of a line
    obtain rfl := Option.some.inj h
    obtain ((ho | ho) | ho) | ho := ho
    · obtain ⟨horg, hne⟩ := mem_owner_map (screenLine w r) (fun _ => rfl) ho
      exact .inr ⟨horg, .inl (orderedLines_ne_nil hne)⟩
    · exact .inl (.inl (.inl (.inr ho)))
    · exact .inl (.inl (.inr ho))
    · exact .inl (.inr ho)
  | expand =>
    -- a passage is around a line that triggers
    obtain rfl := Option.some.inj h
    obtain ((ho | ho) | ho) | ho := ho
    · exact .inl (.inl (.inl (.inl ho)))
    · obtain ⟨horg, hne⟩ := mem_owner_map (fun p : PrepLine × Nat => buildUnit w r p.1 p.2)
        (fun _ => rfl) ho
      exact .inr ⟨horg, .inl (triggers_ne_nil fun hnil => hne (by rw [hnil]; rfl))⟩
    · exact .inl (.inl (.inr ho))
    · exact .inl (.inr ho)
  | classify =>
    obtain ⟨hkeep, -⟩ := (keeps_runStage h).screen Stage.noConfusion
    obtain ⟨hunits, -⟩ := (keeps_runStage h).expand Stage.noConfusion
    obtain ⟨hembeddings, -⟩ := (keeps_runStage h).embed Stage.noConfusion
    rw [hkeep, hunits, hembeddings] at ho
    obtain (ho | ho) | ho := ho
    · exact .inl (.inl (.inl ho))
    · obtain rfl := Option.some.inj h
      unfold runStageClassify at ho
      split at ho
      · cases ho
      · rename_i rows hrows
        obtain ⟨x, hx, rfl⟩ := List.mem_map.mp ho
        refine .inr ⟨classifyUnits_owner hrows x hx, .inr fun hnil => ?_⟩
        rw [hnil] at hrows
        obtain rfl := Except.ok.inj hrows
        cases hx
    · exact .inl (.inr ho)
  | embed =>
    obtain ⟨hkeep, -⟩ := (keeps_runStage h).screen Stage.noConfusion
    obtain ⟨hunits, -⟩ := (keeps_runStage h).expand Stage.noConfusion
    obtain ⟨hclassifications, -⟩ := (keeps_runStage h).classify Stage.noConfusion
    rw [hkeep, hunits, hclassifications] at ho
    obtain ho | ho := ho
    · exact .inl (.inl ho)
    · obtain ⟨answer, hanswer, rfl⟩ := Option.map_eq_some_iff.mp h
      cases answer with
      | error e => cases ho
      | ok rows =>
        obtain ⟨x, hx, rfl⟩ := List.mem_map.mp ho
        refine .inr ⟨embedBatches_owner hanswer x hx, .inr fun hnil => ?_⟩
        rw [hnil] at hanswer
        obtain rfl := Except.ok.inj (Option.some.inj hanswer)
        cases hx

theorem lines_runStageParse {l : PrepLine} (h : l ∈ (runStageParse w r).lines) :
    ∃ media parser records, w.parse = .parsed media l.organizationId parser records := by
  unfold runStageParse at h
  dsimp only at h
  split at h
  · cases h
  · cases h
  · cases h
  · cases h
  · rename_i media org parser records hparse
    obtain ⟨p, -, rfl⟩ := List.mem_map.mp h
    exact ⟨media, parser, records, hparse⟩

theorem parse_scopedTo {media : Option Text} {org : Nat} {parser : Text}
    {records : List LineRecord} (h : (w.scopedTo r).parse = .parsed media org parser records) :
    org = r.organizationId := by
  unfold World.scopedTo at h
  dsimp only at h
  split at h
  · split at h
    · rename_i horg
      obtain ⟨-, rfl, -⟩ := ParseAnswer.parsed.inj h
      exact horg
    · cases h
  · rename_i hother
    exact absurd h (hother media org parser records)

end Stages

/-! ## Whose they are -/

/-- Every row is owned as some line is, and an unparsed run has none. -/
structure Rooted (r : PrepRun) : Prop where
  derived : ∀ o ∈ r.derivedOwners, o ∈ r.lineOwners
  unparsed : r.closed .parse = false → r.owners = []

section Rooted

variable {w : World} {r r' : PrepRun} {s : Stage} {org : Nat}

theorem rooted_createRun (org : Nat) (kind : Text) (id : Nat) (config : Config) :
    Rooted (createRun org kind id config) :=
  ⟨fun _ h => (nomatch h), fun _ => rfl⟩

theorem Rooted.of_same (h : Rooted r) (hlines : r'.lineOwners = r.lineOwners)
    (hderived : r'.derivedOwners = r.derivedOwners)
    (hparse : r'.closed .parse = false → r.closed .parse = false) : Rooted r' where
  derived := by
    rw [hlines, hderived]
    exact h.derived
  unparsed := by
    intro hopen
    show r'.lineOwners ++ r'.derivedOwners = []
    rw [hlines, hderived]
    exact h.unparsed (hparse hopen)

theorem Rooted.orphan (h : Rooted r) (reason : Text) : Rooted (r.orphan reason) := by
  refine h.of_same ?_ ?_ fun hopen => ?_
  · unfold PrepRun.orphan PrepRun.lineOwners
    dsimp only
    split <;> rfl
  · unfold PrepRun.orphan PrepRun.derivedOwners
    dsimp only
    split <;> rfl
  · rw [orphan_closed_parse] at hopen
    cases hopen

theorem runStageAs_eq_some (h : runStageAs w r s = some r') :
    ∃ after, runStage (w.scopedTo r) (r.visibleTo r.organizationId) s = some after ∧
      r' = r.besides r.organizationId after := by
  obtain ⟨after, hafter, rfl⟩ := Option.map_eq_some_iff.mp h
  exact ⟨after, hafter, rfl⟩

theorem lineOwners_runStageAs (hs : s ≠ .parse) (h : runStageAs w r s = some r') {o : Nat} :
    o ∈ r'.lineOwners ↔ o ∈ r.lineOwners := by
  obtain ⟨after, hafter, rfl⟩ := runStageAs_eq_some h
  have hkept : after.lineOwners = (r.visibleTo r.organizationId).lineOwners :=
    congrArg (List.map PrepLine.organizationId) ((keeps_runStage hafter).parse hs).1
  rw [lineOwners_besides, hkept, lineOwners_visibleTo]
  by_cases ho : o = r.organizationId
  · simp [ho]
  · simp [ho]

theorem derivedOwners_runStageAs (hr : Rooted r) (hs : s ≠ .parse)
    (h : runStageAs w r s = some r') : ∀ o ∈ r'.derivedOwners, o ∈ r.lineOwners := by
  obtain ⟨after, hafter, rfl⟩ := runStageAs_eq_some h
  intro o ho
  obtain ⟨ho, -⟩ | ho := derivedOwners_besides.mp ho
  · exact hr.derived o ho
  · obtain ho | ⟨rfl, hsource⟩ := derived_runStage hs hafter ho
    · exact hr.derived o (derivedOwners_visibleTo.mp ho).1
    · -- a line or a passage of the tenant
      have hpair : ∀ {ρ : Type} {owner : ρ → Nat} {rows : List ρ},
          shown owner r.organizationId rows ≠ [] → r.organizationId ∈ rows.map owner := by
        intro ρ owner rows hne
        obtain ⟨x, hx⟩ := List.exists_mem_of_ne_nil _ hne
        obtain ⟨hx, howner⟩ := List.mem_filter.mp hx
        exact List.mem_map.mpr ⟨x, hx, of_decide_eq_true howner⟩
      obtain hlines | hunits := hsource
      · exact hpair hlines
      · exact hr.derived _ (mem_derivedOwners.mpr (.inl (.inl (.inr (hpair hunits)))))

theorem owners_parse (hr : r.owners = []) (h : runStageAs w r .parse = some r') :
    r'.derivedOwners = [] ∧ ∀ o ∈ r'.lineOwners, o = r.organizationId := by
  obtain ⟨hlines, hderived⟩ := List.append_eq_nil_iff.mp hr
  obtain ⟨after, hafter, rfl⟩ := runStageAs_eq_some h
  constructor
  · refine List.eq_nil_iff_forall_not_mem.mpr fun o ho => ?_
    obtain ⟨ho, -⟩ | ho := derivedOwners_besides.mp ho
    · rw [hderived] at ho
      cases ho
    · have hkeep := keeps_runStage hafter
      have hsame : after.derivedOwners = (r.visibleTo r.organizationId).derivedOwners := by
        unfold PrepRun.derivedOwners
        rw [(hkeep.screen Stage.noConfusion).1, (hkeep.expand Stage.noConfusion).1,
          (hkeep.classify Stage.noConfusion).1, (hkeep.embed Stage.noConfusion).1]
      rw [hsame, derivedOwners_visibleTo, hderived] at ho
      exact absurd ho.1 List.not_mem_nil
  · intro o ho
    obtain ⟨ho, -⟩ | ho := lineOwners_besides.mp ho
    · rw [hlines] at ho
      cases ho
    · obtain ⟨l, hl, rfl⟩ := List.mem_map.mp ho
      obtain rfl := Option.some.inj hafter
      obtain ⟨media, parser, records, hparse⟩ := lines_runStageParse hl
      exact parse_scopedTo hparse

theorem closed_parse_runStageAs (h : runStageAs w r s = some r') (hs : s ≠ .parse) :
    r'.closed .parse = r.closed .parse := by
  obtain ⟨after, hafter, rfl⟩ := runStageAs_eq_some h
  exact (ended_runStage hafter).closed_other (Ne.symm hs)

theorem Rooted.runStageAs (hr : Rooted r) (hnext : nextStage r = some s)
    (h : runStageAs w { r with organizationId := org } s = some r') : Rooted r' := by
  have hr₀ : Rooted { r with organizationId := org } := ⟨hr.derived, hr.unparsed⟩
  obtain ⟨hopen, hbefore⟩ := nextStage_eq_some hnext
  by_cases hs : s = .parse
  · subst hs
    obtain ⟨hderived, -⟩ := owners_parse (hr₀.unparsed hopen) h
    refine ⟨fun o ho => ?_, fun hopen' => ?_⟩
    · rw [hderived] at ho
      cases ho
    · -- parse leaves lines only where it closes
      show r'.lineOwners ++ r'.derivedOwners = []
      rw [hderived, List.append_nil]
      obtain ⟨after, hafter, rfl⟩ := runStageAs_eq_some h
      have hnone : ({ r with organizationId := org } : PrepRun).lineOwners = [] :=
        (List.append_eq_nil_iff.mp (hr₀.unparsed hopen)).1
      have hlines : after.lines = [] := by
        refine (ended_runStage hafter).lines_of_parse fun hcomplete => ?_
        have hclosed : after.closed .parse = true := closed_iff.mpr (.inl hcomplete)
        exact Bool.false_ne_true (hopen'.symm.trans hclosed)
      refine List.eq_nil_iff_forall_not_mem.mpr fun o ho => ?_
      obtain ⟨ho, -⟩ | ho := lineOwners_besides.mp ho
      · rw [hnone] at ho
        cases ho
      · rw [PrepRun.lineOwners, hlines] at ho
        cases ho
  · refine ⟨fun o ho => ?_, fun hopen' => ?_⟩
    · exact (lineOwners_runStageAs hs h).mpr (derivedOwners_runStageAs hr₀ hs h o ho)
    · rw [closed_parse_runStageAs h hs] at hopen'
      have hrank : Stage.parse.rank < s.rank := by
        cases s with
        | parse => exact absurd rfl hs
        | _ => decide
      exact absurd ((hbefore .parse hrank).symm.trans hopen') Bool.noConfusion

end Rooted

namespace Tenancy

variable {w : World} {r r' : PrepRun} {s s' : Sys} {org : Nat}

theorem oneOwner_of_rows (hrun : r.organizationId = org) (hrows : ∀ o ∈ r.owners, o = org) :
    OneOwner org r where
  run := hrun
  rows := hrows
  unreadable := by
    intro tenant hne
    refine List.eq_nil_iff_forall_not_mem.mpr fun o ho => ?_
    have hmem : o ∈ r.owners ∧ o = tenant := by
      obtain ho | ho := List.mem_append.mp ho
      · have hvisible := lineOwners_visibleTo.mp ho
        exact ⟨List.mem_append_left _ hvisible.1, hvisible.2⟩
      · have hvisible := derivedOwners_visibleTo.mp ho
        exact ⟨List.mem_append_right _ hvisible.1, hvisible.2⟩
    exact hne (hmem.2.symm.trans (hrows o hmem.1))

theorem rooted_turn {completed : Option Nat} (hr : Rooted r)
    (h : turn w r = some (r', completed)) : Rooted r' := by
  unfold turn at h
  split at h
  · obtain ⟨rfl, -⟩ := Prod.mk.inj (Option.some.inj h)
    exact ⟨hr.derived, hr.unparsed⟩
  · rename_i st hnext
    split at h
    · obtain ⟨rfl, -⟩ := Prod.mk.inj (Option.some.inj h)
      exact hr.orphan _
    · obtain ⟨after, hafter, h⟩ := Option.map_eq_some_iff.mp h
      obtain ⟨rfl, -⟩ := Prod.mk.inj h
      exact hr.runStageAs hnext hafter

/-- **A completed stage**: its owner is on the run, and the rows are all of that owner exactly
if the lines that were there are. -/
theorem turn_completed (hr : Rooted r) (h : turn w r = some (r', some org)) :
    (∀ l ∈ r.lines, l.organizationId = org) ↔ OneOwner org r' := by
  unfold turn at h
  split at h
  · cases (Prod.mk.inj (Option.some.inj h)).2
  · rename_i st hnext
    split at h
    · cases (Prod.mk.inj (Option.some.inj h)).2
    · rename_i owner _
      obtain ⟨after, hafter, h⟩ := Option.map_eq_some_iff.mp h
      obtain ⟨rfl, hcompleted⟩ := Prod.mk.inj h
      obtain rfl : owner = org := by
        split at hcompleted
        · exact Option.some.inj hcompleted
        · cases hcompleted
      have hrun : after.organizationId = owner := by
        obtain ⟨mid, hmid, rfl⟩ := runStageAs_eq_some hafter
        exact organization_runStage hmid
      have hr₀ : Rooted { r with organizationId := owner } := ⟨hr.derived, hr.unparsed⟩
      by_cases hs : st = .parse
      · -- nothing was there before
        subst hs
        have hnone := hr₀.unparsed (nextStage_eq_some hnext).1
        obtain ⟨hderived, hlines⟩ := owners_parse hnone hafter
        refine iff_of_true (fun l hl => ?_) (oneOwner_of_rows hrun fun o ho => ?_)
        · have hmem : l.organizationId ∈ r.owners :=
            List.mem_append_left _ (List.mem_map_of_mem hl)
          rw [show r.owners = [] from hnone] at hmem
          cases hmem
        · obtain ho | ho := List.mem_append.mp ho
          · exact hlines o ho
          · rw [hderived] at ho
            cases ho
      · -- the lines stay, and what is added is owned as a line is
        have hlines : ∀ o, o ∈ after.lineOwners ↔ o ∈ r.lineOwners :=
          fun _ => lineOwners_runStageAs hs hafter
        constructor
        · intro hkept
          have hline : ∀ o ∈ r.lineOwners, o = owner := by
            intro o ho
            obtain ⟨l, hl, rfl⟩ := List.mem_map.mp ho
            exact hkept l hl
          refine oneOwner_of_rows hrun fun o ho => ?_
          obtain ho | ho := List.mem_append.mp ho
          · exact hline o ((hlines o).mp ho)
          · exact hline o (derivedOwners_runStageAs hr₀ hs hafter o ho)
        · intro hone l hl
          refine hone.rows _ (List.mem_append_left _ ?_)
          exact (hlines _).mpr (List.mem_map_of_mem hl)

def Inv (s : Sys) : Prop := Rooted s.saved ∧ Rooted s.run

theorem Inv.step {a : Action} (h : Inv s) (hstep : step s a = some s') : Inv s' := by
  cases a with
  | turn w =>
    simp only [Tenancy.step] at hstep
    split at hstep
    · rename_i r completed hturn
      obtain rfl := Option.some.inj hstep
      exact ⟨h.1, rooted_turn h.2 hturn⟩
    · obtain rfl := Option.some.inj hstep
      exact ⟨h.1, h.1⟩
  | commit =>
    obtain rfl := Option.some.inj hstep
    exact ⟨h.2, h.2⟩
  | rollback =>
    obtain rfl := Option.some.inj hstep
    exact ⟨h.1, h.1⟩

theorem step_isSome (s : Sys) (a : Action) : step s a ≠ none := by
  cases a with
  | turn w =>
    simp only [Tenancy.step]
    split <;> exact Option.some_ne_none _
  | commit => exact Option.some_ne_none _
  | rollback => exact Option.some_ne_none _

theorem agrees_step {a : Action} (h : Inv s) (hstep : step s a = some s') :
    LinesKept s a ↔ Agrees s' := by
  cases a with
  | turn w =>
    simp only [Tenancy.step] at hstep
    split at hstep
    · rename_i r completed hturn
      obtain rfl := Option.some.inj hstep
      constructor
      · rintro hkept org hcompleted
        obtain rfl : completed = some org := hcompleted
        exact (turn_completed h.2 hturn).mp (hkept r org hturn)
      · intro hagrees r' org hturn'
        obtain ⟨rfl, rfl⟩ := Prod.mk.inj (Option.some.inj (hturn.symm.trans hturn'))
        exact (turn_completed h.2 hturn).mpr (hagrees org rfl)
    · rename_i hraises
      obtain rfl := Option.some.inj hstep
      refine iff_of_true (fun r org hturn => ?_) fun org hcompleted => ?_
      · rw [hraises] at hturn
        cases hturn
      · cases hcompleted
  | commit =>
    obtain rfl := Option.some.inj hstep
    exact iff_of_true trivial fun org hcompleted => (nomatch hcompleted)
  | rollback =>
    obtain rfl := Option.some.inj hstep
    exact iff_of_true trivial fun org hcompleted => (nomatch hcompleted)

/-- **Every row of a run belongs to one organisation** whenever a stage has just completed,
exactly if no stage completes over lines that were parsed under another owner than the one
resolved before it. -/
theorem oneOwner_iff (org : Nat) (kind : Text) (id : Nat) (config : Config) (as : List Action) :
    Guarded step LinesKept (start (createRun org kind id config)) as ↔
      ∀ bs s, bs <+: as → exec step (start (createRun org kind id config)) bs = some s →
        Agrees s :=
  guarded_iff_invariant (I := Inv) (fun _ _ _ h => h.step)
    (fun s a _ hnone => absurd hnone (step_isSome s a))
    (fun _ _ _ h _ => agrees_step h)
    ⟨rooted_createRun .., rooted_createRun ..⟩ fun org h => absurd h (Option.some_ne_none org).symm

/-! ## A source that moves -/

def movedLine : LineRecord where
  lineNumber := 1
  content := "Access reviews are quarterly.".toList
  pageNumber := none
  sectionPath := none
  blockId := none
  blockType := none
  tableId := none
  rowIndex := none
  colIndex := none
  cellLabel := none

/-- A source of one line, while this organisation owns it. -/
def ownedBy (org : Nat) : World where
  owner := fun _ => .ok org
  parse := .parsed none org "text".toList [movedLine]
  score := fun _ => none
  systemId := none
  classify := fun _ _ => .error []
  aiRun := fun _ => none
  embed := fun _ => .error []
  batchSize := 1

/-- The evidence is moved to another organisation between parse and screen: the run goes with
it, and its lines do not. -/
theorem lines_left_behind :
    ¬ ∀ as bs s, bs <+: as →
      exec step (start (createRun 1 "evidence_version".toList 1 ⟨1 / 2, 4, 1024⟩)) bs = some s →
        Agrees s := by
  intro h
  have hagrees := h [.turn (ownedBy 1), .turn (ownedBy 2)] _ _ (List.prefix_refl _) rfl 2 rfl
  have hline : (1 : Nat) = 2 := hagrees.rows 1 (by decide)
  cases hline

end Tenancy

/-! ## The same without a stranger's rows -/

/-- Where the rows are all of the run's own organisation, and the source still is, a scoped
stage is the stage. -/
theorem runStageAs_eq {w : World} {r : PrepRun} (s : Stage)
    (hrows : ∀ o ∈ r.owners, o = r.organizationId)
    (hsource : ∀ media org parser records, w.parse = .parsed media org parser records →
      org = r.organizationId) :
    runStageAs w r s = runStage w r s := by
  have hshown : ∀ {ρ : Type} {owner : ρ → Nat} {rows : List ρ},
      (∀ o ∈ rows.map owner, o = r.organizationId) →
        shown owner r.organizationId rows = rows ∧ hidden owner r.organizationId rows = [] := by
    intro ρ owner rows h
    constructor
    · exact List.filter_eq_self.mpr fun x hx =>
        decide_eq_true (h _ (List.mem_map_of_mem hx))
    · exact List.filter_eq_nil_iff.mpr fun x hx hne =>
        of_decide_eq_true hne (h _ (List.mem_map_of_mem hx))
  have hlines := @hshown _ PrepLine.organizationId r.lines
    fun o ho => hrows o (List.mem_append_left _ ho)
  have hderived : ∀ o ∈ r.derivedOwners, o = r.organizationId :=
    fun o ho => hrows o (List.mem_append_right _ ho)
  simp only [mem_derivedOwners] at hderived
  have hscreens := @hshown _ PrepScreen.organizationId r.screens
    fun o ho => hderived o (.inl (.inl (.inl ho)))
  have hunits := @hshown _ PrepUnit.organizationId r.units
    fun o ho => hderived o (.inl (.inl (.inr ho)))
  have hclassifications := @hshown _ PrepClassification.organizationId r.classifications
    fun o ho => hderived o (.inl (.inr ho))
  have hembeddings := @hshown _ PrepEmbedding.organizationId r.embeddings
    fun o ho => hderived o (.inr ho)
  have hvisible : r.visibleTo r.organizationId = r := by
    unfold PrepRun.visibleTo
    rw [hlines.1, hscreens.1, hunits.1, hclassifications.1, hembeddings.1]
  have hscoped : w.scopedTo r = w := by
    have hparse : (w.scopedTo r).parse = w.parse := by
      unfold World.scopedTo
      dsimp only
      split
      · rename_i media org parser records hparse
        rw [if_pos (hsource media org parser records hparse), hparse]
      · rfl
    exact congrArg (fun answer => { w with parse := answer }) hparse
  have hbesides : r.besides r.organizationId = id := by
    funext after
    unfold PrepRun.besides
    rw [hlines.2, hscreens.2, hunits.2, hclassifications.2, hembeddings.2]
    rfl
  rw [runStageAs, hvisible, hscoped, hbesides, Option.map_id_fun, id]

theorem runStageAs_ownedBy :
    let r := createRun 1 "evidence_version".toList 1 ⟨1 / 2, 4, 1024⟩
    runStageAs (Tenancy.ownedBy 1) r .parse = runStage (Tenancy.ownedBy 1) r .parse := by
  refine runStageAs_eq .parse (fun o ho => absurd ho List.not_mem_nil) ?_
  intro media org parser records hparse
  exact (ParseAnswer.parsed.inj hparse).2.1.symm

end Concord.Prep
