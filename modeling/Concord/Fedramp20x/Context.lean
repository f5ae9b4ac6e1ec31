import Concord.Fedramp20x.Support

/-!
# The context of a system

`build_context` of `ccf/fedramp20x/validation.py`: what the evaluator is told about a system,
from its rows. What it flags as evidence it labels, so over the contexts the service builds a
KSI passes on nothing in one case only (`built_pass_supported_iff`).
-/

namespace Concord.Fedramp20x

open Concord.Python Concord.Governance

/-- A row of `evidence`, as it hangs off an implementation. -/
structure EvidenceRow where
  id : Nat
  title : Text
  expiresOn : Option Int

/-- A row of `control_implementations` with its control's identifier. -/
structure ImplementationRow where
  identifier : Option Text
  status : ImplStatus
  evidence : List EvidenceRow

/-- The columns of a control test that are read. -/
structure TestRow where
  controlId : Text
  controlIds : List Text
  lastStatus : Text

structure CaptureRow where
  odpKey : Text
  nistId : Option Text

/-- What the queries of `build_context` return. -/
structure SystemRows where
  implementations : List ImplementationRow
  tests : List TestRow
  dependencies : List Dependency
  /-- the boundary fields of the profile, when there is one -/
  profile : Option (List (Text × Option Text))
  captures : List CaptureRow

/-- `_evidence_current`. -/
def EvidenceRow.current (ev : EvidenceRow) (today : Int) : Bool :=
  match ev.expiresOn with
  | none => true
  | some d => today ≤ d

/-- `_evidence_ref`. -/
def EvidenceRow.ref (ev : EvidenceRow) : Text :=
  "evidence:".toList ++ natText ev.id ++ ':' :: ev.title

/-- `rank.get(status, 0)`. -/
def implRank (status : Text) : Nat :=
  if status = ImplStatus.implemented.text then 5
  else if status = ImplStatus.inherited.text then 4
  else if status = ImplStatus.partially.text then 3
  else if status = ImplStatus.planned.text then 2
  else if status = ImplStatus.notApplicable.text then 1
  else 0

def noteStatus (key : Text) (status : ImplStatus) (ctx : SystemContext) : SystemContext :=
  match ctx.implStatus.get? key with
  | none => { ctx with implStatus := ctx.implStatus.set key status.text }
  | some cur =>
    if implRank status.text > implRank cur then
      { ctx with implStatus := ctx.implStatus.set key status.text }
    else ctx

/-- A record of evidence that is current is flagged and labelled. -/
def noteEvidence (today : Int) (key : Text) (ctx : SystemContext) (ev : EvidenceRow) :
    SystemContext :=
  if ev.current today then
    { ctx with
      controlEvidence := ctx.controlEvidence.set key true
      evidenceRefs := ctx.evidenceRefs.set key
        ((ctx.evidenceRefs.get? key).getD [] ++ [ev.ref]) }
  else ctx

def noteImplementation (lib : Strings) (today : Int) (ctx : SystemContext)
    (impl : ImplementationRow) : SystemContext :=
  match orElse impl.identifier none with
  | none => ctx
  | some identifier =>
    let key := normalizeControl lib identifier
    impl.evidence.foldl (noteEvidence today key) (noteStatus key impl.status ctx)

/-- `evidenced_controls`. -/
def evidencedControls (controlId : Text) (controlIds : List Text) : List Text :=
  let primary := strip controlId
  controlIds.foldl (fun out raw =>
      let candidate := strip raw
      if candidate ≠ [] ∧ candidate ∉ out then out ++ [candidate] else out)
    (if primary ≠ [] then [primary] else [])

/-- `pass_attribution` of a pass, and `non_passing_attribution` of anything else. -/
def TestRow.attributed (t : TestRow) : List Text :=
  if t.lastStatus = "pass".toList then
    if strip t.controlId ≠ [] then [strip t.controlId] else []
  else evidencedControls t.controlId t.controlIds

/-- `by_control`. -/
def byControl (lib : Strings) (tests : List TestRow) : Dict Text (List Text) :=
  tests.foldl (fun d t => t.attributed.foldl (fun d c =>
      d.set (normalizeControl lib c)
        ((d.get? (normalizeControl lib c)).getD [] ++ [t.lastStatus])) d) Dict.empty

/-- A control is tested where every test of it passed. -/
def testedControls (lib : Strings) (tests : List TestRow) : Dict Text Text :=
  Dict.ofPairs (((byControl lib tests).items.filter fun p =>
    p.2.all fun s => s = "pass".toList).map fun p => (p.1, "pass".toList))

/-- `build_context`. -/
def buildContext (lib : Strings) (today : Int) (rows : SystemRows) : SystemContext :=
  let ctx := rows.implementations.foldl (noteImplementation lib today) nothingKnown
  { ctx with
    controlTests := testedControls lib rows.tests
    dependencies := rows.dependencies
    profile := Dict.ofPairs (rows.profile.getD [])
    captures := rows.captures.flatMap fun c =>
      c.odpKey :: (orElse c.nistId none).toList }

theorem ImplStatus.text_ne_nil (s : ImplStatus) : s.text ≠ [] := by
  cases s <;> decide

section Labels

variable {lib : Strings} {today : Int} {ctx : SystemContext}

theorem labelled_nothingKnown : Labelled nothingKnown where
  evidence := fun _ h => nomatch h
  status := fun _ h => nomatch h

theorem labelled_set_status (h : Labelled ctx) (key : Text) (status : ImplStatus) :
    Labelled { ctx with implStatus := ctx.implStatus.set key status.text } where
  evidence := h.evidence
  status := by
    intro c
    rw [Dict.get?_set]
    split
    · exact fun heq => ImplStatus.text_ne_nil status (Option.some.inj heq)
    · exact h.status c

theorem labelled_noteStatus (h : Labelled ctx) (key : Text) (status : ImplStatus) :
    Labelled (noteStatus key status ctx) := by
  unfold noteStatus
  split
  · exact labelled_set_status h key status
  · split
    · exact labelled_set_status h key status
    · exact h

theorem labelled_noteEvidence (h : Labelled ctx) (key : Text) (ev : EvidenceRow) :
    Labelled (noteEvidence today key ctx ev) := by
  unfold noteEvidence
  split
  · refine ⟨fun c hc => ?_, h.status⟩
    rw [Dict.get?_set] at hc ⊢
    by_cases hkey : key = c
    · rw [if_pos hkey, Option.getD_some]
      exact List.append_ne_nil_of_right_ne_nil _ (List.cons_ne_nil _ _)
    · rw [if_neg hkey] at hc ⊢
      exact h.evidence c hc
  · exact h

theorem labelled_noteImplementation (h : Labelled ctx) (impl : ImplementationRow) :
    Labelled (noteImplementation lib today ctx impl) := by
  unfold noteImplementation
  split
  · exact h
  · rename_i identifier _
    have hstart := labelled_noteStatus h (normalizeControl lib identifier) impl.status
    dsimp only
    generalize noteStatus (normalizeControl lib identifier) impl.status ctx = start at hstart ⊢
    induction impl.evidence generalizing start with
    | nil => exact hstart
    | cons ev rest ih => exact ih _ (labelled_noteEvidence hstart _ ev)

/-- **What is flagged is labelled** in the contexts the service builds. -/
theorem labelled_buildContext (lib : Strings) (today : Int) (rows : SystemRows) :
    Labelled (buildContext lib today rows) := by
  have hctx : Labelled (rows.implementations.foldl (noteImplementation lib today) nothingKnown) :=
    List.foldlRecOn _ _ labelled_nothingKnown fun _ h impl _ => labelled_noteImplementation h impl
  exact ⟨hctx.evidence, hctx.status⟩

end Labels

/-- Over the contexts the service builds, a KSI passes on nothing where the first leaf that
passes is a `control_state` without controls. -/
theorem built_pass_supported_iff (lib : Strings) (today : Int) (rows : SystemRows) (r : Rule) :
    let ctx := buildContext lib today rows
    (∀ leaf, FirstPassing lib ctx r.leaves leaf → Grounded lib ctx leaf) ↔
      ∀ states rules field captures,
        ¬FirstPassing lib ctx r.leaves (.mk .controlState states [] rules field captures) := by
  have hctx := labelled_buildContext lib today rows
  constructor
  · intro h states rules field captures hfirst
    have hpasses := hfirst.choose_spec.choose_spec.2.1
    exact (grounded_iff_of_labelled hctx hpasses).mp (h _ hfirst) ⟨rfl, rfl⟩
  · rintro h ⟨kind, states, controls, rules, field, captures⟩ hfirst
    have hpasses := hfirst.choose_spec.choose_spec.2.1
    refine (grounded_iff_of_labelled hctx hpasses).mpr ?_
    rintro ⟨rfl, rfl⟩
    exact h states rules field captures hfirst

end Concord.Fedramp20x
