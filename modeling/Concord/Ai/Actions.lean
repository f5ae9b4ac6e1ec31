import Concord.Ai.Registry
import Concord.Base.ReadCommitted

/-!
# Running an action, and the review of a run

`run_action`, `_apply_mutation`, `approve_run` and `reject_run` of
`src/ccf/ai_actions/service.py` with the routes of `src/ccf/api/routes/ai_actions.py`, as
transactions. `_require_run` loads a run without a lock, and the checks of an approval are made
on what it has loaded. The route of a run commits also when `run_action` has raised, so that a
violation is kept; the row that was inserted before is then kept as well.

The output of the model is whatever the call brings. Audit events, hashes, inputs and the
provider of a run are left out.
-/

namespace Concord.AiActions

open Concord.Base Concord.Python

inductive RunStatus where
  | draft
  | pendingReview
  | approved
  | rejected
  | completed
  | blocked
  deriving DecidableEq

structure AiActionCitation where
  sourceType : Text
  sourceId : Text
  label : Option Text

structure AiActionOutput where
  content : Text
  uncited : Bool
  /-- A dict. -/
  payload : List (Text × Json)

/-- A run, with its output and its citations. -/
structure AiActionRun where
  organizationId : Option Int
  actionKey : Text
  entityType : Text
  entityId : Text
  status : RunStatus
  reviewer : Option Text := none
  disposition : Option Text := none
  mutationApplied : Bool := false
  output : Option AiActionOutput := none
  citations : List AiActionCitation := []

inductive ViolationKind where
  | crossTenant
  | missingCitation
  | unapprovedMutation
  | noProvenance
  deriving DecidableEq

/-- What `provider.generate` has returned. -/
structure Generated where
  content : Text
  payload : List (Text × Json)
  citations : List AiActionCitation

structure Plan where
  remediationPlan : Option Text
  remediationPlanSource : Text

structure Task where
  organizationId : Option Int
  title : Text
  description : Text
  kind : Text
  priority : Text
  status : Text
  source : Text
  entityType : Text
  entityId : Text

structure ControlTest where
  organizationId : Option Int
  controlId : Text
  name : Text
  method : Text
  frequency : Option Text

/-- The records an approval may write. -/
structure Records where
  plans : Int → Plan
  /-- `detail` of a questionnaire response. -/
  details : Int → Option Text
  tasks : List Task := []
  controlTests : List ControlTest := []

/-- What an approval writes; of a row that exists, the columns that differ. -/
inductive Write where
  | setPoamRemediation (poam : Int) (plan : Option (Option Text)) (source : Option Text)
  | createTask (t : Task)
  | createControlTest (t : ControlTest)
  | setResponseSuggestion (response : Int) (detail : Option (Option Text))

def Write.apply : Write → Records → Records
  | .setPoamRemediation poam plan source, r =>
    { r with
      plans := Function.update r.plans poam
        ⟨plan.getD (r.plans poam).remediationPlan,
          source.getD (r.plans poam).remediationPlanSource⟩ }
  | .createTask t, r => { r with tasks := r.tasks ++ [t] }
  | .createControlTest t, r => { r with controlTests := r.controlTests ++ [t] }
  | .setResponseSuggestion response detail, r =>
    { r with details := Function.update r.details response (detail.getD (r.details response)) }

/-- A write, and the payload with what was written. -/
structure Applied where
  write : Write
  payload : List (Text × Json)

/-- An `AiApprovedMutation` row. -/
structure AiApprovedMutation where
  organizationId : Option Int
  mutationType : Option AllowedMutation
  approvedBy : Option Text
  payload : List (Text × Json)

/-- The settings, the other tables, and two things that Python does to a JSON value. -/
structure Service where
  aiRequireHumanApproval : Bool
  aiAllowUncitedDrafts : Bool
  db : Tables
  /-- `str(value)`. -/
  str : Json → Text
  /-- `bool(value)`. -/
  truthy : Json → Bool

namespace Service

variable (sv : Service)

/-- `_effective_requires_approval`. -/
def effectiveRequiresApproval (action : ActionDef) : Bool :=
  action.requiresApproval || sv.aiRequireHumanApproval

/-- What `run_action` leaves for the route to commit. -/
structure Created where
  run : AiActionRun
  violations : List ViolationKind

/-- `run_action`; `none` if nothing was inserted, or is rolled back. -/
def runAction (actionKey entityType entityId : Text) (orgId : Option Int)
    (generated : Generated) : Option Created :=
  (getAction actionKey).bind fun action =>
    if entityType ∈ action.inputEntityTypes ∧ fits 128 entityId ∧ nulFree entityId then
      let run : AiActionRun :=
        { organizationId := orgId
          actionKey := actionKey
          entityType := entityType
          entityId := entityId
          status := if sv.effectiveRequiresApproval action then .pendingReview else .completed }
      match sv.db.resolveContext orgId entityType entityId with
      | .error _ => none
      | .ok .refused => some ⟨{ run with status := .blocked }, [.crossTenant]⟩
      -- raised after the `INSERT`
      | .ok .notFound => some ⟨run, []⟩
      | .ok (.found _) =>
        let uncited := action.citationRequired && generated.citations.isEmpty
        if nulFree generated.content ∧ storableFields generated.payload then
          some
            { run := { run with
                output := some ⟨generated.content, uncited, generated.payload⟩
                citations := generated.citations }
              violations :=
                if uncited && !sv.aiAllowUncitedDrafts then [.missingCitation] else [] }
        else none
    else none

/-- `d.get(key, default)` for a column of `n` characters; another value is an exception. -/
def textOf (d : Json) (key : Text) (n : Nat) (default : Text) : Option Text :=
  match d.get? key with
  | none => some default
  | some (.str s) => if nulFree s ∧ fits n s then some s else none
  | some _ => none

/-- The same for a column with a default of its own, which takes the place of `None`. -/
def defaultedTextOf (d : Json) (key : Text) (n : Nat) (default : Text) : Option Text :=
  match d.get? key with
  | some .null => some default
  | _ => textOf d key n default

/-- `d.get(key)` for a nullable column of `n` characters. -/
def nullableTextOf (d : Json) (key : Text) (n : Nat) : Option (Option Text) :=
  match d.get? key with
  | none | some .null => some none
  | some (.str s) => if nulFree s ∧ fits n s then some (some s) else none
  | some _ => none

/-- `payload.get(key, {})`, which has to be a dict. -/
def dictOf (payload : List (Text × Json)) (key : Text) : Option Json :=
  match payload.lookup key with
  | none => some (.obj [])
  | some d => if d.isDict then some d else none

/-- `payload.get("remediation_plan") or output.content`. -/
def appliedText (output : AiActionOutput) : Option Text :=
  match output.payload.lookup "remediation_plan".toList with
  | none => some output.content
  | some value =>
    if sv.truthy value then value.str? else some output.content

def createTask (run : AiActionRun) (output : AiActionOutput) : Option Task := do
  let t ← dictOf output.payload "task".toList
  -- `entity_id` has half the length that it has in the run
  guard (fits 64 run.entityId)
  return {
    organizationId := run.organizationId
    title := ← textOf t "title".toList 512 "AI-suggested task".toList
    description := output.content
    kind := "ai_action".toList
    priority := ← defaultedTextOf t "priority".toList 16 "medium".toList
    status := "open".toList
    source := "ai".toList
    entityType := run.entityType
    entityId := run.entityId }

def createControlTest (run : AiActionRun) (output : AiActionOutput) : Option ControlTest := do
  let ct ← dictOf output.payload "control_test".toList
  let controlId := ((ct.get? "control_id".toList).filter sv.truthy).elim [] sv.str
  guard (nulFree controlId ∧ fits 64 controlId)
  return {
    organizationId := run.organizationId
    controlId := controlId
    name := ← textOf ct "name".toList 512 "AI-proposed test".toList
    method := ← defaultedTextOf ct "method".toList 16 "manual".toList
    frequency := ← nullableTextOf ct "frequency".toList 32 }

/-- `_apply_mutation`, on the rows as it loads them: `none` is an exception, and `some none` a
target that is not there. -/
def applyMutation (run : AiActionRun) (mutation : AllowedMutation) (output : AiActionOutput)
    (r : Records) : Option (Option Applied) :=
  match mutation with
  | .setPoamRemediation => do
    let id ← pyInt run.entityId
    match sv.db.poams id with
    | .error _ => none
    | .ok none => some none
    | .ok (some _) =>
      let text ← sv.appliedText output
      return some
        { write := .setPoamRemediation id (dirty (r.plans id).remediationPlan (some text))
            (dirty (r.plans id).remediationPlanSource "ai".toList)
          payload := Json.insertField "remediation_plan".toList (.str text) output.payload }
  | .createTask => (createTask run output).map fun t => some ⟨.createTask t, output.payload⟩
  | .createControlTest =>
    (sv.createControlTest run output).map fun t => some ⟨.createControlTest t, output.payload⟩
  | .setResponseSuggestion => do
    let id ← pyInt run.entityId
    match sv.db.responses id with
    | .error _ => none
    | .ok none => some none
    | .ok (some _) =>
      let answer := (output.payload.lookup "suggested_answer".toList).elim [] sv.str
      let detail := "[AI suggestion] ".toList ++ answer ++ ": ".toList ++ output.content
      return some
        ⟨.setResponseSuggestion id (dirty (r.details id) (some detail)), output.payload⟩

/-- `_has_provenance`. -/
def hasProvenance (run : AiActionRun) : Bool :=
  run.entityType ≠ "system".toList ∨ (pyInt run.entityId).all sv.db.packaged

/-- What a review comes to: the columns of the run that are set, and the rows beside it. -/
structure Decision where
  status : RunStatus
  reviewer : Option (Option Text) := none
  disposition : Option (Option Text) := none
  applied : Option Applied := none
  mutation : Option AiApprovedMutation := none
  /-- The decision and the note of the `AiActionReview`. -/
  review : Option (Text × Option Text) := none
  violation : Option ViolationKind := none

def approvedText : Text := "approved".toList

def rejectedText : Text := "rejected".toList

/-- `approve_run` of a run as it was loaded, on the output and the rows it reads; `none` if it
raises before it has changed anything, or is rolled back. -/
def approveRun (run : AiActionRun) (output : Option AiActionOutput) (reviewer : Option Text)
    (r : Records) : Option Decision :=
  if run.status ≠ .pendingReview ∧ run.status ≠ .draft then none
  else (getAction run.actionKey).bind fun action =>
    if action.citationRequired ∧ output.any AiActionOutput.uncited then
      some { status := .blocked, violation := some .unapprovedMutation }
    else if noProvenance ∈ action.guardrails ∧ sv.hasProvenance run = false then
      some { status := .blocked, violation := some .noProvenance }
    else
      let mutation :=
        match action.allowedMutation, output with
        | some mutation, some output => sv.applyMutation run mutation output r
        | _, _ => some none
      mutation.map fun applied =>
        { status := .approved
          reviewer := dirty run.reviewer reviewer
          disposition := dirty run.disposition (some approvedText)
          applied := applied
          mutation := applied.map fun applied =>
            ⟨run.organizationId, action.allowedMutation, reviewer, applied.payload⟩
          review := some (approvedText, none) }

/-- `reject_run`. -/
def rejectRun (run : AiActionRun) (reviewer note : Option Text) : Option Decision :=
  if run.status ≠ .pendingReview ∧ run.status ≠ .draft ∧ run.status ≠ .blocked then none
  else
    some
      { status := .rejected
        reviewer := dirty run.reviewer reviewer
        disposition := dirty run.disposition (some rejectedText)
        review := some (rejectedText, note) }

end Service

/-! ## The transactions -/

/-- The runs, by their ids, and what is kept beside them. -/
structure Store where
  runs : List AiActionRun
  records : Records
  reviews : List (ℕ × Text × Option Text) := []
  mutations : List (ℕ × AiApprovedMutation) := []
  violations : List (ℕ × ViolationKind) := []

inductive Call where
  | run (actionKey entityType entityId : Text) (orgId : Option Int) (generated : Generated)
  | approve (rid : ℕ) (orgId : Option Int) (reviewer : Option Text)
  | reject (rid : ℕ) (orgId : Option Int) (reviewer note : Option Text)

inductive Stage where
  | called (c : Call)
  | created (c : Service.Created)
  /-- An approval, with the run as it was loaded. -/
  | loaded (rid : ℕ) (run : AiActionRun) (reviewer : Option Text)
  /-- Before the `UPDATE`. -/
  | pending (rid : ℕ) (d : Service.Decision)
  | flushed (rid : ℕ) (d : Service.Decision)
  /-- Nothing is committed. -/
  | refused

/-- A row that an `UPDATE` may lock. -/
inductive Row where
  | run (rid : ℕ)
  | poam (id : Int)
  | response (id : Int)
  deriving DecidableEq

inductive Effect where
  | created (c : Service.Created)
  | decided (rid : ℕ) (d : Service.Decision)

def Write.row : Write → Option Row
  | .setPoamRemediation id plan source =>
    if plan.isSome || source.isSome then some (.poam id) else none
  | .setResponseSuggestion id detail => if detail.isSome then some (.response id) else none
  | .createTask _ | .createControlTest _ => none

def Service.Decision.update (d : Service.Decision) (run : AiActionRun) : AiActionRun :=
  { run with
    status := d.status
    reviewer := d.reviewer.getD run.reviewer
    disposition := d.disposition.getD run.disposition
    mutationApplied := run.mutationApplied || d.applied.isSome }

def Effect.apply : Effect → Store → Store
  | .created c, s =>
    { s with
      runs := s.runs ++ [c.run]
      violations := s.violations ++ c.violations.map fun kind => (s.runs.length, kind) }
  | .decided rid d, s =>
    { runs := s.runs.modify rid d.update
      records := d.applied.elim s.records fun applied => applied.write.apply s.records
      reviews := s.reviews ++ (d.review.map fun review => (rid, review)).toList
      mutations := s.mutations ++ (d.mutation.map fun mutation => (rid, mutation)).toList
      violations := s.violations ++ (d.violation.map fun kind => (rid, kind)).toList }

namespace Service

variable (sv : Service)

/-- `_require_run`: a run of the caller's organisation. -/
def requireRun (s : Store) (rid : ℕ) (orgId : Option Int) : Option AiActionRun :=
  (s.runs[rid]?).filter fun run => orgId = none ∨ run.organizationId = orgId

def statement : Stage → Store → Option Stage
  | .called (.run actionKey entityType entityId orgId generated), _ =>
    some ((sv.runAction actionKey entityType entityId orgId generated).elim .refused .created)
  | .called (.approve rid orgId reviewer), s =>
    some ((requireRun s rid orgId).elim .refused fun run => .loaded rid run reviewer)
  | .called (.reject rid orgId reviewer note), s =>
    some (((requireRun s rid orgId).bind fun run => rejectRun run reviewer note).elim .refused
      (.pending rid))
  | .loaded rid run reviewer, s =>
    let output := (s.runs[rid]?).bind AiActionRun.output
    some ((sv.approveRun run output reviewer s.records).elim .refused (.pending rid))
  | .pending rid d, _ => some (.flushed rid d)
  | .created _, _ | .flushed _ _, _ | .refused, _ => none

def routes : Program Call Store Stage Row Effect where
  enter := fun _ => .called
  statement := sv.statement
  locks := fun
    | .flushed rid d => .run rid :: (d.applied.bind fun applied => applied.write.row).toList
    | _ => []
  effect := fun
    | .created c => some (.created c)
    | .flushed rid d => some (.decided rid d)
    | _ => none
  apply := Effect.apply

end Service

def Store.start (r : Records) : Store := ⟨[], r, [], [], []⟩

end Concord.AiActions
