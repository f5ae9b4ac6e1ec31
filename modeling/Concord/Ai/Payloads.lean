import Concord.Ai.Actions
import Concord.Python.Equality
import Mathlib.Data.Option.Basic

/-!
# What a model may return

`generate` and `_resolve_citations` of `ccf/ai_actions/provider.py`, and how an approval of what
they return ends. A model returns any JSON; what it cites is an index into the sources it was
given. Its payload is stored as it is, and read with shapes that nothing has checked before
`approve_run`: where one of them is not there, the approval raises something else than an
`AiActionError` (`approve_safe_iff`).
-/

namespace Concord.AiActions

open Concord.Base Concord.Python

/-! ## `generate` -/

/-- A source that a run is grounded in. -/
structure Source where
  sourceType : Text
  sourceId : Json
  label : Option Text

/-- What `_resolve_context` hands to the model. -/
structure ActionContext where
  targetType : Text
  targetId : Text
  label : Option Text
  facts : List (Text × Json)
  sources : List Source

/-- `context.get("label") or f"{target_type} {target_id}"`. -/
def ActionContext.subject (ctx : ActionContext) : Text :=
  match ctx.label with
  | some (c :: s) => c :: s
  | _ => ctx.targetType ++ ' ' :: ctx.targetId

def fieldsOf (items : List (Text × Json)) : List (Text × Json) :=
  items.foldl (fun fields p => Json.insertField p.1 p.2 fields) []

/-- `isinstance(item, int)`, which a `bool` is too. -/
def indexOf : Json → Option Int
  | .bool b => some b.toNat
  | .num n => if n.isInt then some n.intValue else none
  | _ => none

/-- The indices that are kept; the first argument has those before. -/
def citedIndices (count : Nat) : List Nat → List Json → List Nat
  | _, [] => []
  | seen, item :: rest =>
    match indexOf item with
    | some (.ofNat i) =>
      if i < count ∧ i ∉ seen then i :: citedIndices count (i :: seen) rest
      else citedIndices count seen rest
    | _ => citedIndices count seen rest

namespace Service

variable (sv : Service)

def cite (s : Source) : AiActionCitation where
  sourceType := s.sourceType
  sourceId := if sv.truthy s.sourceId then sv.str s.sourceId else []
  label := s.label

def citeAll (ctx : ActionContext) (indices : List Nat) : List AiActionCitation :=
  indices.filterMap fun i => (ctx.sources[i]?).map sv.cite

/-- `_resolve_citations`. -/
def resolveCitations (ctx : ActionContext) (raw : Option Json) : List AiActionCitation :=
  sv.citeAll ctx (citedIndices ctx.sources.length [] (Json.listOrEmpty raw))

/-- `facts.get(key)`, if it is true. -/
def fact (ctx : ActionContext) (key : Text) : Option Json :=
  (ctx.facts.lookup key).filter sv.truthy

def stubSuggestion (action : ActionDef) (ctx : ActionContext) : List (Text × Json) :=
  match action.allowedMutation with
  | none => []
  | some .createTask =>
    let severity := sv.str ((ctx.facts.lookup "severity".toList).getD .null)
    [("task".toList, Json.ofItems
      [("title".toList, .str ("Remediate: ".toList ++ ctx.subject)),
        ("priority".toList,
          .str (if severity = "high".toList ∨ severity = "critical".toList then "high".toList
            else "medium".toList)),
        ("owner".toList, (sv.fact ctx "owner".toList).getD .null)])]
  | some .setPoamRemediation =>
    [("remediation_plan".toList, .str ("Proposed remediation for ".toList ++ ctx.subject ++
      ": address the weakness, attach evidence, ".toList ++
      "and schedule verification. (AI draft — review before use.)".toList))]
  | some .createControlTest =>
    let control := (sv.fact ctx "control_id".toList).map sv.str
    [("control_test".toList, Json.ofItems
      [("name".toList, .str ("Test for ".toList ++ control.getD ctx.subject)),
        ("control_id".toList, .str (control.getD ctx.targetId)),
        ("method".toList, .str "manual".toList),
        ("frequency".toList, .str "quarterly".toList)])]
  | some .setResponseSuggestion =>
    [("suggested_answer".toList, .str "yes".toList),
      ("rationale".toList, .str ("Based on ".toList ++ natText ctx.sources.length ++
        " cited source(s) for ".toList ++ ctx.subject ++ ['.']))]

/-- `_stub`. -/
def stub (action : ActionDef) (ctx : ActionContext) : Generated :=
  let facts := ctx.facts.map fun p => p.1 ++ '=' :: sv.str p.2
  { content := '[' :: action.key ++ "] Draft for ".toList ++ ctx.subject ++
      ".\nContext: ".toList ++
      (if facts = [] then "no additional facts".toList
        else List.intercalate "; ".toList facts) ++
      ".\nGrounded in ".toList ++ natText ctx.sources.length ++ " source(s).".toList
    payload := fieldsOf ([("action".toList, .str action.key), ("target".toList, .str ctx.subject),
      ("facts".toList, Json.ofItems ctx.facts)] ++ sv.stubSuggestion action ctx)
    citations := sv.citeAll ctx (List.range ctx.sources.length) }

/-- `generate`; without a reply no model was asked, or the gateway has raised. -/
def generate (action : ActionDef) (ctx : ActionContext) (reply : Option Json) : Generated :=
  match reply with
  | none => sv.stub action ctx
  | some data =>
    -- what is no dict has no keys
    let content := strip (((data.get? "content".toList).filter sv.truthy).elim [] sv.str)
    if content = [] then sv.stub action ctx
    else
      { content := content
        payload :=
          match data.get? "payload".toList with
          | some (.obj fields) => fields
          | _ => []
        citations := sv.resolveCitations ctx (data.get? "citations".toList) }

/-! ## How an approval ends -/

/-- How `approve_run` ends: it returns, it raises an `AiActionError` (and the run may be blocked),
or it raises something else. -/
inductive Ending
  | decided (d : Decision)
  | refused (d : Option Decision)
  | raised

/-- `approve_run`, with what it raises: before the mutation there are only the refusals. -/
def approvalEnding (run : AiActionRun) (reviewer : Option Text) (r : Records) : Ending :=
  match sv.approveRun run run.output reviewer r with
  | some d => if d.status = .approved then .decided d else .refused (some d)
  | none =>
    if (run.status ≠ .pendingReview ∧ run.status ≠ .draft) ∨ getAction run.actionKey = none then
      .refused none
    else .raised

end Service

/-- A text without a NUL that a column of `n` characters takes. -/
def Column (n : Nat) (s : Text) : Prop := nulFree s = true ∧ fits n s = true

def Write.Fits : Write → Prop
  | .setPoamRemediation _ plan _ => ∀ s, plan = some (some s) → nulFree s = true
  | .createTask t =>
    Column 512 t.title ∧ nulFree t.description = true ∧ Column 16 t.priority ∧
      Column 32 t.entityType ∧ Column 64 t.entityId
  | .createControlTest t =>
    Column 64 t.controlId ∧ Column 512 t.name ∧ Column 16 t.method ∧
      ∀ s, t.frequency = some s → Column 32 s
  -- `detail` has no length
  | .setResponseSuggestion _ _ => True

/-- **A safe end**: something that fits is written, or the approval is refused and nothing is. -/
def Service.Ending.Safe : Service.Ending → Prop
  | .decided d => ∃ applied, d.applied = some applied ∧ applied.write.Fits
  | .refused d => ∀ d', d = some d' → d'.applied = none
  | .raised => False

/-- What is read for a column of `n` characters is a text that it takes, where it is there. -/
def TextShaped (d : Json) (key : Text) (n : Nat) : Prop :=
  ∀ v, d.get? key = some v → ∃ s, v = .str s ∧ Column n s

/-- The same, or `None`. -/
def NullOrTextShaped (d : Json) (key : Text) (n : Nat) : Prop :=
  ∀ v, d.get? key = some v → v = .null ∨ ∃ s, v = .str s ∧ Column n s

/-- **The payload has the shape** that the mutation reads. -/
def Service.WellShaped (sv : Service) (run : AiActionRun) (payload : List (Text × Json)) :
    AllowedMutation → Prop
  | .setPoamRemediation =>
    (pyInt run.entityId).isSome = true ∧
      ∀ v, payload.lookup "remediation_plan".toList = some v → sv.truthy v = true →
        ∃ s, v = .str s
  | .createTask =>
    fits 64 run.entityId = true ∧
      ∀ t, payload.lookup "task".toList = some t →
        t.isDict = true ∧ TextShaped t "title".toList 512 ∧ NullOrTextShaped t "priority".toList 16
  | .createControlTest =>
    ∀ ct, payload.lookup "control_test".toList = some ct →
      ct.isDict = true ∧
        Column 64 (((ct.get? "control_id".toList).filter sv.truthy).elim [] sv.str) ∧
        TextShaped ct "name".toList 512 ∧ NullOrTextShaped ct "method".toList 16 ∧
        NullOrTextShaped ct "frequency".toList 32
  | .setResponseSuggestion => (pyInt run.entityId).isSome = true

/-! ## Citations -/

theorem citedIndices_spec (count : Nat) (seen : List Nat) (items : List Json) :
    (citedIndices count seen items).Nodup ∧
      ∀ i ∈ citedIndices count seen items, i < count ∧ i ∉ seen := by
  induction items generalizing seen with
  | nil => exact ⟨List.nodup_nil, fun _ h => absurd h List.not_mem_nil⟩
  | cons item rest ih =>
    unfold citedIndices
    split
    · rename_i i _
      split
      · rename_i hi
        obtain ⟨hnodup, hrest⟩ := ih (i :: seen)
        refine ⟨List.nodup_cons.mpr ⟨fun hm => (hrest i hm).2 List.mem_cons_self, hnodup⟩, ?_⟩
        intro j hj
        rcases List.mem_cons.mp hj with rfl | hj
        · exact hi
        · exact ⟨(hrest j hj).1, fun hm => (hrest j hj).2 (List.mem_cons_of_mem i hm)⟩
      · exact ih seen
    · exact ih seen

/-- The citations are of the sources that were supplied, of each one at most. -/
def Service.Supplied (sv : Service) (ctx : ActionContext) (citations : List AiActionCitation) :
    Prop :=
  ∃ indices : List Nat, indices.Nodup ∧ (∀ i ∈ indices, i < ctx.sources.length) ∧
    citations = sv.citeAll ctx indices

theorem generate_supplied (sv : Service) (action : ActionDef) (ctx : ActionContext)
    (reply : Option Json) : sv.Supplied ctx (sv.generate action ctx reply).citations := by
  have hstub : sv.Supplied ctx (sv.stub action ctx).citations :=
    ⟨_, List.nodup_range, fun _ h => List.mem_range.mp h, rfl⟩
  unfold Service.generate
  split
  · exact hstub
  · dsimp only
    split
    · exact hstub
    · obtain ⟨hnodup, hall⟩ := citedIndices_spec ctx.sources.length [] _
      exact ⟨_, hnodup, fun i hi => (hall i hi).1, rfl⟩

/-! ## Columns -/

section Columns

open Service

variable {d : Json} {key default : Text} {n : Nat}

theorem column_nil (n : Nat) : Column n [] := ⟨rfl, by rw [fits, List.drop_nil]; rfl⟩

theorem textShaped_empty (key : Text) (n : Nat) : TextShaped (.obj []) key n := fun _ h => by
  cases h

theorem nullOrTextShaped_empty (key : Text) (n : Nat) : NullOrTextShaped (.obj []) key n :=
  fun _ h => by cases h

theorem textOf_column {s : Text} (h : textOf d key n default = some s) (hdefault : Column n default) :
    Column n s := by
  unfold textOf at h
  split at h
  · exact Option.some.inj h ▸ hdefault
  · split at h
    · rename_i hs
      exact Option.some.inj h ▸ hs
    · cases h
  · cases h

theorem textOf_isSome : (textOf d key n default).isSome = true ↔ TextShaped d key n := by
  unfold textOf TextShaped
  cases hget : d.get? key with
  | none => simp
  | some v =>
    cases v with
    | str s =>
      dsimp only
      split
      · rename_i hs
        exact iff_of_true rfl fun v hv => ⟨s, (Option.some.inj hv).symm, hs⟩
      · rename_i hs
        refine iff_of_false (by simp) fun h => hs ?_
        obtain ⟨t, ht, hcolumn⟩ := h _ rfl
        exact Json.str.inj ht ▸ hcolumn
    | _ => exact iff_of_false (by simp) fun h => by obtain ⟨t, ht, -⟩ := h _ rfl; cases ht

theorem defaultedTextOf_column {s : Text} (h : defaultedTextOf d key n default = some s)
    (hdefault : Column n default) : Column n s := by
  unfold defaultedTextOf at h
  split at h
  · exact Option.some.inj h ▸ hdefault
  · exact textOf_column h hdefault

theorem defaultedTextOf_isSome :
    (defaultedTextOf d key n default).isSome = true ↔ NullOrTextShaped d key n := by
  unfold defaultedTextOf
  split
  · rename_i hget
    exact iff_of_true rfl fun v hv => .inl (Option.some.inj (hv.symm.trans hget))
  · rename_i hnull
    rw [textOf_isSome]
    refine forall₂_congr fun v hv => ⟨.inr, fun h => h.resolve_left ?_⟩
    rintro rfl
    exact hnull hv

theorem nullableTextOf_column {s : Text} (h : nullableTextOf d key n = some (some s)) :
    Column n s := by
  unfold nullableTextOf at h
  split at h
  · cases h
  · cases h
  · split at h
    · rename_i hs
      exact Option.some.inj (Option.some.inj h) ▸ hs
    · cases h
  · cases h

theorem nullableTextOf_isSome :
    (nullableTextOf d key n).isSome = true ↔ NullOrTextShaped d key n := by
  have hsame : (nullableTextOf d key n).isSome = (defaultedTextOf d key n []).isSome := by
    unfold nullableTextOf defaultedTextOf textOf
    cases d.get? key with
    | none => rfl
    | some v =>
      cases v with
      | str s => dsimp only; split <;> rfl
      | _ => rfl
  rw [hsame, defaultedTextOf_isSome]

theorem dictOf_isSome (payload : List (Text × Json)) (key : Text) {shape : Json → Prop}
    (hempty : shape (.obj [])) :
    (∃ t, dictOf payload key = some t ∧ shape t) ↔
      ∀ t, payload.lookup key = some t → t.isDict = true ∧ shape t := by
  unfold dictOf
  cases payload.lookup key with
  | none => exact iff_of_true ⟨_, rfl, hempty⟩ fun _ h => by cases h
  | some v =>
    dsimp only
    constructor
    · rintro ⟨t, ht, hshape⟩ u hu
      obtain rfl := Option.some.inj hu
      split at ht
      · rename_i hdict
        exact ⟨hdict, Option.some.inj ht ▸ hshape⟩
      · cases ht
    · intro h
      obtain ⟨hdict, hshape⟩ := h v rfl
      exact ⟨v, if_pos hdict, hshape⟩

end Columns

/-! ## Mutations -/

section Mutations

open Service

variable {sv : Service} {run : AiActionRun} {output : AiActionOutput}

theorem isSome_bind_iff {α β : Type} {x : Option α} {f : α → Option β} :
    (x.bind f).isSome = true ↔ ∃ a, x = some a ∧ (f a).isSome = true := by
  cases x <;> simp

theorem createTask_isSome : (createTask run output).isSome = true ↔
    sv.WellShaped run output.payload .createTask := by
  let shape (t : Json) : Prop :=
    TextShaped t "title".toList 512 ∧ NullOrTextShaped t "priority".toList 16
  have hempty : shape (.obj []) := ⟨textShaped_empty _ _, nullOrTextShaped_empty _ _⟩
  have hshape := dictOf_isSome output.payload "task".toList hempty
  rw [WellShaped, ← hshape]
  constructor
  · intro h
    obtain ⟨t, ht, h⟩ := isSome_bind_iff.mp h
    obtain ⟨_, hfits, h⟩ := isSome_bind_iff.mp h
    obtain ⟨title, htitle, h⟩ := isSome_bind_iff.mp h
    obtain ⟨priority, hpriority, -⟩ := isSome_bind_iff.mp h
    exact ⟨(Option.guard_eq_some' _).mp hfits, t, ht,
      textOf_isSome.mp (Option.isSome_of_eq_some htitle),
      defaultedTextOf_isSome.mp (Option.isSome_of_eq_some hpriority)⟩
  · rintro ⟨hfits, t, ht, htitle, hpriority⟩
    obtain ⟨title, htitle⟩ := Option.isSome_iff_exists.mp (textOf_isSome.mpr htitle)
    obtain ⟨priority, hpriority⟩ :=
      Option.isSome_iff_exists.mp (defaultedTextOf_isSome.mpr hpriority)
    refine isSome_bind_iff.mpr ⟨t, ht, isSome_bind_iff.mpr ⟨(), (Option.guard_eq_some' _).mpr hfits, ?_⟩⟩
    exact isSome_bind_iff.mpr ⟨title, htitle, isSome_bind_iff.mpr ⟨priority, hpriority, rfl⟩⟩

theorem createTask_fits {t : Task} (h : createTask run output = some t)
    (htype : Column 32 run.entityType) (hid : nulFree run.entityId = true)
    (hcontent : nulFree output.content = true) : (Write.createTask t).Fits := by
  obtain ⟨d, -, h⟩ := Option.bind_eq_some_iff.mp h
  obtain ⟨_, hfits, h⟩ := Option.bind_eq_some_iff.mp h
  obtain ⟨title, htitle, h⟩ := Option.bind_eq_some_iff.mp h
  obtain ⟨priority, hpriority, h⟩ := Option.bind_eq_some_iff.mp h
  obtain rfl := Option.some.inj h
  exact ⟨textOf_column htitle ⟨by decide, by decide⟩, hcontent,
    defaultedTextOf_column hpriority ⟨by decide, by decide⟩, htype, hid,
    (Option.guard_eq_some' _).mp hfits⟩

theorem createControlTest_isSome : (sv.createControlTest run output).isSome = true ↔
    sv.WellShaped run output.payload .createControlTest := by
  let shape (ct : Json) : Prop :=
    Column 64 (((ct.get? "control_id".toList).filter sv.truthy).elim [] sv.str) ∧
      TextShaped ct "name".toList 512 ∧ NullOrTextShaped ct "method".toList 16 ∧
      NullOrTextShaped ct "frequency".toList 32
  have hempty : shape (.obj []) :=
    ⟨column_nil 64, textShaped_empty _ _, nullOrTextShaped_empty _ _, nullOrTextShaped_empty _ _⟩
  have hshape := dictOf_isSome output.payload "control_test".toList hempty
  rw [WellShaped, ← hshape]
  constructor
  · intro h
    obtain ⟨ct, hct, h⟩ := isSome_bind_iff.mp h
    obtain ⟨_, hcolumn, h⟩ := isSome_bind_iff.mp h
    obtain ⟨name, hname, h⟩ := isSome_bind_iff.mp h
    obtain ⟨method, hmethod, h⟩ := isSome_bind_iff.mp h
    obtain ⟨frequency, hfrequency, -⟩ := isSome_bind_iff.mp h
    have hid : nulFree _ = true ∧ fits 64 _ = true := (Option.guard_eq_some' _).mp hcolumn
    exact ⟨ct, hct, hid,
      textOf_isSome.mp (Option.isSome_of_eq_some hname),
      defaultedTextOf_isSome.mp (Option.isSome_of_eq_some hmethod),
      nullableTextOf_isSome.mp (Option.isSome_of_eq_some hfrequency)⟩
  · rintro ⟨ct, hct, hcolumn, hname, hmethod, hfrequency⟩
    obtain ⟨name, hname⟩ := Option.isSome_iff_exists.mp (textOf_isSome.mpr hname)
    obtain ⟨method, hmethod⟩ := Option.isSome_iff_exists.mp (defaultedTextOf_isSome.mpr hmethod)
    obtain ⟨frequency, hfrequency⟩ :=
      Option.isSome_iff_exists.mp (nullableTextOf_isSome.mpr hfrequency)
    refine isSome_bind_iff.mpr ⟨ct, hct, isSome_bind_iff.mpr
      ⟨(), (Option.guard_eq_some' _).mpr hcolumn, isSome_bind_iff.mpr ⟨name, hname, ?_⟩⟩⟩
    exact isSome_bind_iff.mpr ⟨method, hmethod, isSome_bind_iff.mpr ⟨frequency, hfrequency, rfl⟩⟩

theorem createControlTest_fits {t : ControlTest} (h : sv.createControlTest run output = some t) :
    (Write.createControlTest t).Fits := by
  obtain ⟨ct, -, h⟩ := Option.bind_eq_some_iff.mp h
  obtain ⟨_, hcolumn, h⟩ := Option.bind_eq_some_iff.mp h
  obtain ⟨name, hname, h⟩ := Option.bind_eq_some_iff.mp h
  obtain ⟨method, hmethod, h⟩ := Option.bind_eq_some_iff.mp h
  obtain ⟨frequency, hfrequency, h⟩ := Option.bind_eq_some_iff.mp h
  obtain rfl := Option.some.inj h
  have hid : nulFree _ = true ∧ fits 64 _ = true := (Option.guard_eq_some' _).mp hcolumn
  refine ⟨hid, textOf_column hname ⟨by decide, by decide⟩,
    defaultedTextOf_column hmethod ⟨by decide, by decide⟩, fun s hs => ?_⟩
  rw [show frequency = some s from hs] at hfrequency
  exact nullableTextOf_column hfrequency

theorem appliedText_isSome : (sv.appliedText output).isSome = true ↔
    ∀ v, output.payload.lookup "remediation_plan".toList = some v → sv.truthy v = true →
      ∃ s, v = .str s := by
  unfold appliedText
  cases output.payload.lookup "remediation_plan".toList with
  | none => exact iff_of_true rfl fun _ h => by cases h
  | some v =>
    dsimp only
    split
    · rename_i htrue
      constructor
      · intro h u hu _
        obtain rfl := Option.some.inj hu
        cases v with
        | str s => exact ⟨s, rfl⟩
        | _ => cases h
      · intro h
        obtain ⟨s, rfl⟩ := h v rfl htrue
        rfl
    · rename_i hfalse
      exact iff_of_true rfl fun u hu htrue => absurd (Option.some.inj hu ▸ htrue) hfalse

theorem appliedText_nulFree {text : Text} (h : sv.appliedText output = some text)
    (hcontent : nulFree output.content = true)
    (hpayload : storableFields output.payload = true) : nulFree text = true := by
  unfold appliedText at h
  split at h
  · exact Option.some.inj h ▸ hcontent
  · rename_i v hv
    split at h
    · have hstorable := storable_lookup hpayload hv
      cases v with
      | str s =>
        obtain rfl := Option.some.inj h
        rwa [storable] at hstorable
      | _ => cases h
    · exact Option.some.inj h ▸ hcontent

/-- What the run is about, where a mutation reads it again. -/
def Target (db : Tables) (entityId : Text) : AllowedMutation → Prop
  | .setPoamRemediation => ∃ p, db.poams ((pyInt entityId).getD (-1)) = .ok (some p)
  | .setResponseSuggestion => ∃ q, db.responses ((pyInt entityId).getD (-1)) = .ok (some q)
  | .createTask | .createControlTest => True

/-- **A mutation is applied, and fits, just where the payload has its shape**; otherwise the
exception is not caught. -/
theorem applyMutation_spec (sv : Service) (run : AiActionRun) (output : AiActionOutput)
    {mutation : AllowedMutation} (r : Records)
    (htarget : Target sv.db run.entityId mutation) (htype : Column 32 run.entityType)
    (hid : nulFree run.entityId = true) (hcontent : nulFree output.content = true)
    (hpayload : storableFields output.payload = true) :
    (sv.WellShaped run output.payload mutation →
      ∃ applied, sv.applyMutation run mutation output r = some (some applied) ∧
        applied.write.Fits) ∧
      (¬ sv.WellShaped run output.payload mutation →
        sv.applyMutation run mutation output r = none) := by
  cases mutation with
  | setPoamRemediation =>
    obtain ⟨p, hp⟩ := htarget
    rw [WellShaped, ← appliedText_isSome]
    cases heid : pyInt run.entityId with
    | none => exact ⟨fun h => (by cases h.1), fun _ => by rw [applyMutation, heid]; rfl⟩
    | some eid =>
      rw [heid, Option.getD_some] at hp
      have happly : sv.applyMutation run .setPoamRemediation output r =
          (sv.appliedText output).map fun text => some
            { write := .setPoamRemediation eid (dirty (r.plans eid).remediationPlan (some text))
                (dirty (r.plans eid).remediationPlanSource "ai".toList)
              payload := Json.insertField "remediation_plan".toList (.str text)
                output.payload } := by
        simp only [applyMutation, heid, Option.bind_eq_bind, Option.bind_some, hp]
        cases sv.appliedText output <;> rfl
      rw [happly]
      cases htext : sv.appliedText output with
      | none => exact ⟨fun h => (by cases h.2), fun _ => rfl⟩
      | some text =>
        refine ⟨fun _ => ⟨_, rfl, fun s hs => ?_⟩, fun h => absurd ⟨rfl, rfl⟩ h⟩
        have hplan : dirty (r.plans eid).remediationPlan (some text) = some (some s) := hs
        unfold dirty at hplan
        split at hplan
        · cases hplan
        · exact Option.some.inj (Option.some.inj hplan) ▸
            appliedText_nulFree htext hcontent hpayload
  | createTask =>
    rw [← createTask_isSome]
    show (_ → ∃ applied, (createTask run output).map _ = _ ∧ _) ∧
      (_ → (createTask run output).map _ = none)
    cases ht : createTask run output with
    | none => exact ⟨fun h => (by cases h), fun _ => rfl⟩
    | some t =>
      exact ⟨fun _ => ⟨_, rfl, createTask_fits ht htype hid hcontent⟩, fun h => absurd rfl h⟩
  | createControlTest =>
    rw [← createControlTest_isSome]
    show (_ → ∃ applied, (sv.createControlTest run output).map _ = _ ∧ _) ∧
      (_ → (sv.createControlTest run output).map _ = none)
    cases ht : sv.createControlTest run output with
    | none => exact ⟨fun h => (by cases h), fun _ => rfl⟩
    | some t => exact ⟨fun _ => ⟨_, rfl, createControlTest_fits ht⟩, fun h => absurd rfl h⟩
  | setResponseSuggestion =>
    obtain ⟨q, hq⟩ := htarget
    rw [WellShaped]
    cases heid : pyInt run.entityId with
    | none => exact ⟨fun h => (by cases h), fun _ => by rw [applyMutation, heid]; rfl⟩
    | some eid =>
      rw [heid, Option.getD_some] at hq
      refine ⟨fun _ => ?_, fun h => absurd rfl h⟩
      simp only [applyMutation, heid, Option.bind_eq_bind, Option.bind_some, hq]
      exact ⟨_, rfl, trivial⟩

end Mutations

/-! ## The run -/

section Run

open Service

variable {sv : Service} {actionKey entityType entityId : Text} {orgId : Option Int}

theorem exists_of_found {α : Type} {db : Tables} {get : Get α}
    {entity : α → Except Unit Entity} {eid : Int} {ownerOrg : Option Int}
    (hload : db.loadEntity entityType entityId = entityOf get entity eid)
    (hfound : db.resolveContext orgId entityType entityId = .ok (.found ownerOrg)) :
    ∃ row, get eid = .ok (some row) := by
  unfold Tables.resolveContext at hfound
  rw [hload, entityOf] at hfound
  cases hget : get eid with
  | error e =>
    rw [hget] at hfound
    cases hfound
  | ok row =>
    cases row with
    | none =>
      rw [hget] at hfound
      cases hfound
    | some row => exact ⟨row, rfl⟩

theorem target_of_found {action : ActionDef} {mutation : AllowedMutation} {ownerOrg : Option Int}
    (haction : getAction actionKey = some action) (hallowed : action.allowedMutation = some mutation)
    (htype : entityType ∈ action.inputEntityTypes)
    (hfound : sv.db.resolveContext orgId entityType entityId = .ok (.found ownerOrg)) :
    Target sv.db entityId mutation := by
  have htypes : ∀ d ∈ defs,
      (d.allowedMutation = some .setPoamRemediation → d.inputEntityTypes = ["poam".toList]) ∧
      (d.allowedMutation = some .setResponseSuggestion →
        d.inputEntityTypes = ["questionnaire_response".toList]) := by
    decide
  obtain ⟨hpoam, hresponse⟩ := htypes action (List.mem_of_find?_eq_some haction)
  cases mutation with
  | createTask => trivial
  | createControlTest => trivial
  | setPoamRemediation =>
    rw [hpoam hallowed, List.mem_singleton] at htype
    rw [htype] at hfound
    exact exists_of_found rfl hfound
  | setResponseSuggestion =>
    rw [hresponse hallowed, List.mem_singleton] at htype
    rw [htype] at hfound
    exact exists_of_found rfl hfound

theorem runAction_output {generated : Generated} {c : Created} {output : AiActionOutput}
    {action : ActionDef} (haction : getAction actionKey = some action)
    (h : sv.runAction actionKey entityType entityId orgId generated = some c)
    (houtput : c.run.output = some output) :
    entityType ∈ action.inputEntityTypes ∧
      (∃ ownerOrg, sv.db.resolveContext orgId entityType entityId = .ok (.found ownerOrg)) ∧
      nulFree entityId = true ∧ nulFree output.content = true ∧
      storableFields output.payload = true ∧
      output.uncited = (action.citationRequired && generated.citations.isEmpty) ∧
      output.payload = generated.payload ∧
      c.run = { organizationId := orgId
                actionKey := actionKey
                entityType := entityType
                entityId := entityId
                status := if sv.effectiveRequiresApproval action then .pendingReview
                  else .completed
                output := some output
                citations := generated.citations } := by
  unfold runAction at h
  rw [haction, Option.bind_some] at h
  split at h
  · rename_i hentity
    obtain ⟨htype, -, hnul⟩ := hentity
    dsimp only at h
    split at h
    · cases h
    · obtain rfl := Option.some.inj h
      cases houtput
    · obtain rfl := Option.some.inj h
      cases houtput
    · rename_i ownerOrg hfound
      split at h
      · rename_i hstored
        obtain rfl := Option.some.inj h
        obtain rfl := Option.some.inj houtput
        exact ⟨htype, ⟨ownerOrg, hfound⟩, hnul, hstored.1, hstored.2, rfl, rfl, rfl⟩
      · cases h
  · cases h

theorem approvalEnding_pending (sv : Service) {run : AiActionRun} {action : ActionDef}
    {mutation : AllowedMutation} {output : AiActionOutput} (reviewer : Option Text) (r : Records)
    (hstatus : run.status = .pendingReview) (haction : getAction run.actionKey = some action)
    (hallowed : action.allowedMutation = some mutation) (hguards : noProvenance ∉ action.guardrails)
    (houtput : run.output = some output) :
    sv.approvalEnding run reviewer r =
      if action.citationRequired = true ∧ output.uncited = true then
        .refused (some { status := .blocked, violation := some .unapprovedMutation })
      else
        match sv.applyMutation run mutation output r with
        | none => .raised
        | some applied =>
          .decided
            { status := .approved
              reviewer := dirty run.reviewer reviewer
              disposition := dirty run.disposition (some approvedText)
              applied := applied
              mutation := applied.map fun applied =>
                ⟨run.organizationId, action.allowedMutation, reviewer, applied.payload⟩
              review := some (approvedText, none) } := by
  unfold approvalEnding approveRun
  rw [houtput, hstatus, haction, Option.bind_some, Option.any_some, hallowed]
  rw [if_neg (by decide : ¬(RunStatus.pendingReview ≠ .pendingReview ∧
    RunStatus.pendingReview ≠ .draft))]
  split
  · rename_i d hd
    split at hd
    · rename_i huncited
      obtain rfl := Option.some.inj hd
      rw [if_pos huncited, if_neg (by decide)]
    · rename_i huncited
      rw [if_neg fun h => hguards h.1] at hd
      obtain ⟨applied, happlied, rfl⟩ := Option.map_eq_some_iff.mp hd
      dsimp only at happlied
      rw [if_neg huncited, happlied]
      rfl
  · rename_i hnone
    split at hnone
    · cases hnone
    · rename_i huncited
      rw [if_neg fun h => hguards h.1] at hnone
      have happlied := Option.map_eq_none_iff.mp hnone
      dsimp only at happlied
      rw [if_neg huncited, happlied, if_neg]
      rintro (h | h)
      · exact h.1 rfl
      · cases h

theorem mutation_defs : ∀ d ∈ defs, d.allowedMutation.isSome = true →
    noProvenance ∉ d.guardrails ∧ d.requiresApproval = true ∧
      ∀ t ∈ d.inputEntityTypes, nulFree t = true ∧ fits 32 t = true := by
  decide +kernel

/-- **A reply is safe to approve** just where its payload has the shape that the mutation of its
action reads, or the approval stops at the missing citation. It can be rejected in any case, and
what is stored as cited is of the sources that were supplied, each once at most. -/
theorem approve_safe_iff (sv : Service) {actionKey entityType entityId : Text}
    {orgId : Option Int} {action : ActionDef} {mutation : AllowedMutation} {ctx : ActionContext}
    {reply : Option Json} {c : Created} {output : AiActionOutput}
    (haction : getAction actionKey = some action)
    (hallowed : action.allowedMutation = some mutation)
    (hrun : sv.runAction actionKey entityType entityId orgId (sv.generate action ctx reply) =
      some c)
    (houtput : c.run.output = some output) :
    ((∀ reviewer r, (sv.approvalEnding c.run reviewer r).Safe) ↔
      output.uncited = true ∨ sv.WellShaped c.run output.payload mutation) ∧
      (∀ reviewer note, (rejectRun c.run reviewer note).isSome = true) ∧
      sv.Supplied ctx c.run.citations := by
  obtain ⟨htype, ⟨ownerOrg, hfound⟩, hnul, hcontent, hpayload, huncited, -, hc⟩ :=
    runAction_output haction hrun houtput
  obtain ⟨hguards, happroval, htypes⟩ := mutation_defs action (List.mem_of_find?_eq_some haction)
    (Option.isSome_of_eq_some hallowed)
  have hstatus : c.run.status = .pendingReview := by
    rw [hc, effectiveRequiresApproval, happroval]
    rfl
  have hkey : getAction c.run.actionKey = some action := by rw [hc, haction]
  have hending := fun reviewer r =>
    approvalEnding_pending sv reviewer r hstatus hkey hallowed hguards houtput
  have hspec := fun r => applyMutation_spec sv c.run output r
    (by rw [hc]; exact target_of_found haction hallowed htype hfound)
    (by rw [hc]; exact htypes entityType htype) (by rw [hc]; exact hnul) hcontent hpayload
  have hcited : output.uncited = true → action.citationRequired = true := by
    rw [huncited, Bool.and_eq_true]
    exact And.left
  refine ⟨⟨fun h => ?_, fun h reviewer r => ?_⟩, fun reviewer note => ?_, ?_⟩
  · by_contra hnot
    obtain ⟨hno, hshape⟩ := not_or.mp hnot
    have hsafe := h none ⟨fun _ => ⟨none, []⟩, fun _ => none, [], []⟩
    rw [hending, if_neg fun hu => hno hu.2, (hspec _).2 hshape] at hsafe
    exact hsafe
  · rw [hending]
    split
    · intro d hd
      obtain rfl := Option.some.inj hd
      rfl
    · rename_i hno
      obtain ⟨applied, happlied, hfits⟩ :=
        (hspec r).1 (h.resolve_left fun hu => hno ⟨hcited hu, hu⟩)
      rw [happlied]
      exact ⟨applied, rfl, hfits⟩
  · unfold rejectRun
    rw [if_neg fun hnot => hnot.1 hstatus]
    rfl
  · rw [hc]
    exact generate_supplied sv action ctx reply

def billing : Tables where
  systems := fun _ => .ok (some ⟨some 1, "Billing".toList⟩)
  poams := fun _ => .ok (some ⟨1, "Stale keys".toList⟩)
  risks := fun _ => .ok none
  vendors := fun _ => .ok none
  implementations := fun _ => .ok none
  policies := fun _ => .ok none
  evidenceObjects := fun _ => .ok none
  responses := fun _ => .ok none
  questionnaires := fun _ => .ok none
  packaged := fun _ => false

def billingService : Service where
  aiRequireHumanApproval := true
  aiAllowUncitedDrafts := false
  db := billing
  str
    | .str s => s
    | .num n => n.text
    | _ => []
  truthy := Json.truthy

def staleKeys : ActionContext where
  targetType := "poam".toList
  targetId := "1".toList
  label := some "Stale keys".toList
  facts := [("severity".toList, .str "high".toList), ("status".toList, .str "open".toList)]
  sources := [⟨"poam".toList, .nat 1, some "Stale keys".toList⟩]

/-- A reply with a task, which cites its source twice. -/
def taskReply (task : Json) : Json :=
  Json.ofItems [("content".toList, .str "Rotate the keys.".toList),
    ("citations".toList, .arr [.nat 0, .nat 7, .bool false]),
    ("payload".toList, Json.ofItems [("task".toList, task)])]

def openTaskAction : ActionDef :=
  ⟨"open_task_with_owner_due_date".toList,
    ["poam".toList, "risk".toList, "system".toList, "control".toList, "vendor".toList],
    true, false, some .createTask, []⟩

def taskRun (task : Json) : AiActionRun where
  organizationId := some 1
  actionKey := openTaskAction.key
  entityType := "poam".toList
  entityId := "1".toList
  status := .pendingReview
  output := some ⟨"Rotate the keys.".toList, false, [("task".toList, task)]⟩
  citations := [⟨"poam".toList, "1".toList, some "Stale keys".toList⟩]

def rotate : Json := .obj [("priority".toList, .null), ("title".toList, .str "Rotate".toList)]

/-- It is applied by every approval, and can be rejected. -/
theorem rotate_safe :
    (∀ reviewer r, (billingService.approvalEnding (taskRun rotate) reviewer r).Safe) ∧
      ∀ reviewer note, (rejectRun (taskRun rotate) reviewer note).isSome = true := by
  have hrun : billingService.runAction openTaskAction.key "poam".toList "1".toList (some 1)
      (billingService.generate openTaskAction staleKeys (some (taskReply rotate))) =
        some ⟨taskRun rotate, []⟩ := rfl
  have hopen : getAction openTaskAction.key = some openTaskAction := rfl
  have hspec := approve_safe_iff billingService hopen rfl hrun rfl
  refine ⟨hspec.1.mpr (.inr ⟨rfl, fun t ht => ?_⟩), hspec.2.1⟩
  obtain rfl := Option.some.inj ht
  refine ⟨rfl, fun v hv => ?_, fun v hv => ?_⟩
  · exact ⟨"Rotate".toList, (Option.some.inj hv).symm, by decide, by decide⟩
  · exact .inl (Option.some.inj hv).symm

/-- The task is a text: the approval raises an `AttributeError`. -/
theorem taskText_not_safe :
    ∃ c, billingService.runAction openTaskAction.key "poam".toList "1".toList (some 1)
        (billingService.generate openTaskAction staleKeys
          (some (taskReply (.str "Rotate the keys.".toList)))) = some c ∧
      ¬ (billingService.approvalEnding c.run none
        ⟨fun _ => ⟨none, []⟩, fun _ => none, [], []⟩).Safe :=
  ⟨⟨taskRun (.str "Rotate the keys.".toList), []⟩, rfl, id⟩

end Run

end Concord.AiActions
