import Concord.Assessment.Reevaluation
import Concord.Prep.Advance
import Concord.Queue.Subjects

/-!
# Prep runs and control proposals

The two queues as lines. They differ where `_drive_one` raises: the handler of the assessment
queue marks the proposal `failed` beside its job, the one of the prep queue writes the job
alone. `reap_stale_jobs` writes the job alone for both.

`nothing_stranded_iff`: no work is stranded exactly if no job is failed over a run or a
proposal that is not `failed` itself. `reaped_away` is a run of both queues that fails one of
each.
-/

namespace Concord.Queue

open Concord.Base Concord.Python
open Concord.Assessment (ControlProposal EvaluationError Settings IntOf Objective Answers Control)
open Concord.Assessment.Reevaluation (Slot Tables namedResult)
open Concord.Prep (PrepRun World)

/-! ## Preparation -/

/-- A call of `enqueue`, and the owner its source has then. -/
structure PrepRequest where
  organizationId : ℕ
  sourceKind : Text
  sourceId : ℕ
  config : Prep.Config
  /-- `resolve_source_organization_id`; `none` where the source is missing -/
  owner : Option ℕ

/-- `enqueue`, up to the run it opens: it is refused for a source of somebody else. -/
def PrepRequest.run (q : PrepRequest) : Option PrepRun :=
  if q.owner = some q.organizationId then
    some (Prep.createRun q.organizationId q.sourceKind q.sourceId q.config)
  else none

def prepLine : Line PrepRequest PrepRun (Option World) where
  kind := .prep
  opens := PrepRequest.run
  find := fun _ _ => none
  drive := fun w r => w.bind fun w => (Prep.advance w r).map fun r' => (r', Prep.drivenTo r')
  raised := fun _ r => r
  waits := fun r => !Prep.terminal r.status && decide (r.status ≠ .failed)
  failed := fun r => r.status = .failed

theorem prepLine_lawful : prepLine.Lawful where
  settles := by
    intro w r r' o h
    obtain ⟨world, -, h⟩ := Option.bind_eq_some_iff.mp h
    obtain ⟨r₁, hadvance, h⟩ := Option.map_eq_some_iff.mp h
    obtain ⟨rfl, rfl⟩ := Prod.mk.inj h
    have hends := Prep.advanceLoop_ends hadvance
    refine ⟨Prep.drivenTo_settles hends, ?_, ?_⟩
    · show (!Prep.terminal r₁.status && decide (r₁.status ≠ .failed)) = false
      cases hs : r₁.status <;> rw [hs] at hends <;> first
        | rfl
        | exact absurd hends (by decide)
    · show (Prep.drivenTo r₁).fails = true → decide (r₁.status = .failed) = true
      unfold Prep.drivenTo
      cases hs : r₁.status <;> simp [Prep.terminal, Driven.fails]
  failed := by
    intro r h
    have hs : r.status = .failed := of_decide_eq_true h
    show (!Prep.terminal r.status && decide (r.status ≠ .failed)) = false
    rw [hs]
    rfl
  find := fun _ _ _ h => nomatch h

/-! ## Assessment -/

/-- The calls that queue an evaluation. -/
inductive AssessmentRequest
  | control (tables : Tables) (assessmentId : ℕ) (controlIdentifier : Text)
  | reevaluation (tables : Tables) (poamId : ℕ) (sourceRef : Text) (organizationId : ℕ)

/-- A control proposal, under the key it is looked up by. -/
structure Proposed where
  slot : Slot
  row : ControlProposal

def Proposed.new (slot : Slot) (controlIdentifier : Text) : Proposed :=
  ⟨slot, ControlProposal.new controlIdentifier⟩

/-- `enqueue_control` and `enqueue_reevaluation`, up to the proposal they open. -/
def AssessmentRequest.proposal : AssessmentRequest → Option Proposed
  | .control tables assessmentId controlIdentifier =>
    let canonical := Assessment.normalizeControlIdentifier controlIdentifier
    (tables.organizationOf assessmentId).map fun _ =>
      .new (.firstPass assessmentId canonical) canonical
  | .reevaluation tables poamId sourceRef organizationId =>
    (namedResult tables sourceRef).bind fun result =>
      if tables.organizationOf result.assessmentId = some organizationId then
        some (.new (.reevaluation poamId)
          (Assessment.normalizeControlIdentifier result.controlId))
      else none

/-- What an evaluation reads. -/
structure EvaluationInput where
  settings : Settings
  intOf : IntOf
  answer : Objective → Answers
  catalog : List Control

def EvaluationInput.evaluate (w : EvaluationInput) (p : Proposed) : Option Proposed :=
  match Assessment.evaluateControlProposal w.settings w.intOf w.answer w.catalog p.row with
  | .ok (row, _) => some { p with row := row }
  | .error _ => none

/-- The assessment queue; a drive without an input is one that the database fails. -/
def assessmentLine : Line AssessmentRequest Proposed (Option EvaluationInput) where
  kind := .assessment
  opens := AssessmentRequest.proposal
  find := fun p ps => ps.findIdx? fun q => q.slot = p.slot
  drive := fun w p => w.bind fun w => (w.evaluate p).map fun p' => (p', .done)
  raised := fun error p =>
    { p with row := { p.row with state := .failed, error := some (truncateLastError error) } }
  waits := fun p => p.row.state = .draft
  failed := fun p => p.row.state = .failed

theorem evaluate_state {w : EvaluationInput} {p p' : Proposed} (h : w.evaluate p = some p') :
    p'.row.state = .complete := by
  unfold EvaluationInput.evaluate at h
  split at h
  · rename_i row rows hok
    obtain rfl := Option.some.inj h
    obtain ⟨_, _, _, _, _, _, _, hstate, -⟩ := Assessment.evaluateControlProposal_eq_ok hok
    exact hstate
  · cases h

theorem assessmentLine_lawful : assessmentLine.Lawful where
  settles := by
    intro w p p' o h
    obtain ⟨input, -, h⟩ := Option.bind_eq_some_iff.mp h
    obtain ⟨p₁, hevaluate, h⟩ := Option.map_eq_some_iff.mp h
    obtain ⟨rfl, rfl⟩ := Prod.mk.inj h
    refine ⟨Driven.noConfusion, ?_, fun hfails => Bool.noConfusion hfails⟩
    show decide (p₁.row.state = .draft) = false
    rw [evaluate_state hevaluate]
    rfl
  failed := by
    intro p h
    have hs : p.row.state = .failed := of_decide_eq_true h
    show decide (p.row.state = .draft) = false
    rw [hs]
    rfl
  find := by
    intro p ps i h
    exact (List.findIdx?_eq_some_iff_getElem.mp h).1

/-- **No queued work is stranded**, in either queue, exactly if no step fails a job over a run
or a proposal that is not marked failed: no reap dead-letters such a job, and no drive of a
prep run raises. -/
theorem nothing_stranded_iff (now : Int) :
    (∀ as : List (LineAction PrepRequest (Option World)),
      Guarded prepLine.step prepLine.Marks (LineState.start now) as ↔
        ∀ bs s, bs <+: as → exec prepLine.step (LineState.start now) bs = some s →
          prepLine.Attended s) ∧
    ∀ as : List (LineAction AssessmentRequest (Option EvaluationInput)),
      Guarded assessmentLine.step assessmentLine.Marks (LineState.start now) as ↔
        ∀ bs s, bs <+: as → exec assessmentLine.step (LineState.start now) bs = some s →
          assessmentLine.Attended s :=
  ⟨prepLine.attended_iff prepLine_lawful now, assessmentLine.attended_iff assessmentLine_lawful now⟩

/-! ## A run that is forgotten -/

section Forgotten

variable {ρ θ ω : Type}

/-- A worker that dies at every attempt, up to the last one, with the settings' own bounds. -/
def wornOut (request : ρ) : List (LineAction ρ ω) :=
  .enqueue request ::
    (List.replicate 5 [.work (.claim 0 ['w'] 1 [] [0]), .work (.stop 0), .work (.tick 3600),
      .reap 60 5]).flatten

/-- Some job has failed over a subject that is not marked. -/
def LineState.forgets (s : LineState θ) : Bool := !s.failures.all id

theorem not_attended_of_exec {L : Line ρ θ ω} {now : Int} (as : List (LineAction ρ ω))
    (h : (exec L.step (LineState.start now) as).any LineState.forgets = true) :
    ¬ ∀ bs s, bs <+: as → exec L.step (LineState.start now) bs = some s → L.Attended s := by
  intro hall
  cases hs : exec L.step (LineState.start now) as with
  | none =>
    rw [hs] at h
    cases h
  | some s =>
    have hatt := hall as s (List.prefix_refl as) hs
    have hmarked : s.failures.all id = true := List.all_eq_true.mpr hatt.marked
    rw [hs, Option.any_some, LineState.forgets, hmarked] at h
    cases h

end Forgotten

def document : PrepRequest := ⟨1, "evidence".toList, 1, ⟨1/2, 1, 768⟩, some 1⟩

def firstPass : AssessmentRequest := .control ⟨fun _ => some 1, []⟩ 1 "AC-2".toList

/-- Both queues dead-letter a job, and leave what it drives as it is: the run stays pending and
the proposal a draft, with no job. A prep drive that raises leaves its run so as well. -/
theorem reaped_away :
    (¬ ∀ as : List (LineAction PrepRequest (Option World)), ∀ bs s, bs <+: as →
      exec prepLine.step (LineState.start 0) bs = some s → prepLine.Attended s) ∧
    ¬ ∀ as : List (LineAction AssessmentRequest (Option EvaluationInput)), ∀ bs s, bs <+: as →
      exec assessmentLine.step (LineState.start 0) bs = some s → assessmentLine.Attended s :=
  ⟨fun h => not_attended_of_exec (wornOut document) (by decide) (h _),
    fun h => not_attended_of_exec (wornOut firstPass) (by decide) (h _)⟩

/-- The handler of the prep queue. -/
example : (exec prepLine.step (LineState.start 0) [.enqueue document,
    .work (.claim 0 ['w'] 1 [] [0]), .drive 0 none ['e']]).any LineState.forgets = true := by
  decide

end Concord.Queue
