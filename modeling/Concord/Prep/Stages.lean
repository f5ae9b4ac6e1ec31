import Mathlib.Data.List.Dedup
import Mathlib.Data.List.Sort
import Concord.Python.Text

/-!
# Preparation stages

`ccf/prep`: a run takes one source document through parse, screen, expand, classify and
embed. Every stage deletes its own earlier output, then writes all of it or none, and
records on the run how it ended.

What a stage asks of the outside is a `World`: the owner and bytes of the source, the
full-text ranks of PostgreSQL, the model and the embedding provider. It may answer
differently each time a run is taken up. Rows are numbered within their run.
-/

namespace Concord.Prep

open Concord.Python

/-- `PREP_STAGES`. -/
inductive Stage
  | parse | screen | expand | classify | embed
  deriving DecidableEq

def prepStages : List Stage := [.parse, .screen, .expand, .classify, .embed]

/-- `PREP_STAGE_STATES`. -/
inductive StageState
  | pending | running | complete | failed | skipped
  deriving DecidableEq

/-- `PREP_RUN_STATES`. -/
inductive RunStatus
  | pending | running | complete | failed | unsupported | orphaned
  deriving DecidableEq

/-- `config_snapshot`, as far as a stage reads it. -/
structure Config where
  screenThreshold : Rat
  expandWindow : Nat
  embedDimensions : Nat

/-- `ParsedLineRecord`. -/
structure LineRecord where
  lineNumber : Nat
  content : Text
  pageNumber : Option Nat
  sectionPath : Option Text
  blockId : Option Text
  blockType : Option Text
  tableId : Option Text
  rowIndex : Option Nat
  colIndex : Option Nat
  cellLabel : Option Text

structure PrepLine extends LineRecord where
  id : Nat
  organizationId : Nat

structure PrepScreen where
  lineId : Nat
  organizationId : Nat
  relevanceScore : Rat
  candidateControls : List Text
  aboveThreshold : Bool

structure TableCoordinates where
  tableId : Text
  rowIndex : Option Nat
  colIndex : Option Nat

structure PrepUnit where
  id : Nat
  organizationId : Nat
  triggerLineId : Nat
  sourceLineIds : List Nat
  content : Text
  pageNumbers : List Nat
  sectionPath : Option Text
  tableCoordinates : Option TableCoordinates
  tokenCount : Nat
  systemId : Option Nat
  sourceKind : Text

structure PrepClassification where
  unitId : Nat
  organizationId : Nat
  controlIdentifiers : List Text
  artifactType : Option Text
  evidenceStrength : Option Text
  explanation : Option Text
  modelConfidence : Rat
  aiActionRunId : Option Nat

structure PrepEmbedding where
  unitId : Nat
  organizationId : Nat
  modelName : Text
  embedding : List Rat

/-- A run, with the rows that carry its id. -/
structure PrepRun where
  organizationId : Nat
  sourceKind : Text
  sourceId : Nat
  status : RunStatus
  stage : Stage → StageState
  config : Config
  mediaType : Option Text
  parserName : Option Text
  linesParsed : Nat
  linesAboveThreshold : Nat
  unitsBuilt : Nat
  unitsClassified : Nat
  unitsEmbedded : Nat
  errorStage : Option Stage
  error : Option Text
  lines : List PrepLine
  screens : List PrepScreen
  units : List PrepUnit
  classifications : List PrepClassification
  embeddings : List PrepEmbedding

/-- `setattr(run, f"stage_{stage}", state)`. -/
def PrepRun.setStage (r : PrepRun) (s : Stage) (state : StageState) : PrepRun :=
  { r with stage := fun t => if t = s then state else r.stage t }

/-- What `resolve_source`, `dispatch` and the insertion of the lines come to. -/
inductive ParseAnswer
  | missing (reason : Text)
  | unsupported (media : Option Text) (reason : Text)
  | broken (media : Option Text) (reason : Text)
  | unpersistable (media : Option Text) (reason : Text)
  | parsed (media : Option Text) (org : Nat) (parser : Text) (records : List LineRecord)

/-- What the model says of a passage, in the shape of its schema. -/
structure ModelAnswer where
  controlIdentifiers : List Text
  artifactType : Option Text
  evidenceStrength : Option Text
  explanation : Option Text
  confidence : Rat

/-- The outside of a run, while it is advanced once. -/
structure World where
  /-- `resolve_source_organization_id`, before each stage -/
  owner : Stage → Except Text Nat
  parse : ParseAnswer
  /-- `score_line`, best first; `none` where the query is too much for the database -/
  score : Text → Option (List (Text × Rat))
  systemId : Option Nat
  /-- the gateway, asked about a unit with the candidates it is bounded by -/
  classify : PrepUnit → List Text → Except Text ModelAnswer
  /-- `record_ai_run` -/
  aiRun : PrepUnit → Option Nat
  /-- the provider, asked for the vectors of a batch -/
  embed : List Text → Except Text (Text × List (List Rat))
  batchSize : Nat

/-- `_sanitize_text`. -/
def sanitizeText (t : Text) : Text := t.filter (· ≠ '\x00')

/-- `create_run`. -/
def createRun (org : Nat) (sourceKind : Text) (sourceId : Nat) (config : Config) : PrepRun where
  organizationId := org
  sourceKind := sourceKind
  sourceId := sourceId
  status := .pending
  stage := fun _ => .pending
  config := config
  mediaType := none
  parserName := none
  linesParsed := 0
  linesAboveThreshold := 0
  unitsBuilt := 0
  unitsClassified := 0
  unitsEmbedded := 0
  errorStage := none
  error := none
  lines := []
  screens := []
  units := []
  classifications := []
  embeddings := []

/-- `_fail`, and what the other stages do where they fail. -/
def PrepRun.fail (r : PrepRun) (s : Stage) (message : Text) : PrepRun :=
  { r.setStage s .failed with
    status := .failed, errorStage := some s, error := some message }

/-! ## Parse -/

def LineRecord.line (org : Nat) (record : LineRecord) (id : Nat) : PrepLine :=
  { record with
    id := id
    organizationId := org
    sectionPath := record.sectionPath.map sanitizeText
    cellLabel := record.cellLabel.map sanitizeText
    content := sanitizeText record.content }

/-- What the parse stage clears before it decides anything. -/
def PrepRun.startParse (r : PrepRun) : PrepRun :=
  { r.setStage .parse .running with
    status := .running, linesParsed := 0, parserName := none, lines := [] }

/-- `run_stage_parse`. -/
def runStageParse (w : World) (r : PrepRun) : PrepRun :=
  let r := r.startParse
  match w.parse with
  | .missing reason =>
    { r.setStage .parse .skipped with status := .orphaned, error := some reason }
  | .unsupported media reason =>
    { r.setStage .parse .skipped with
      status := .unsupported, error := some reason, mediaType := media }
  | .broken media reason => ({ r with mediaType := media } : PrepRun).fail .parse reason
  | .unpersistable media reason =>
    ({ r with mediaType := media } : PrepRun).fail .parse
      ("failed to persist parsed lines: ".toList ++ reason)
  | .parsed media org parser records =>
    { r.setStage .parse .complete with
      mediaType := media
      parserName := some parser
      linesParsed := records.length
      lines := records.zipIdx.map fun p => p.1.line org p.2 }

/-! ## Screen -/

/-- `order_by(PrepLine.line_number)`. -/
def orderedLines (lines : List PrepLine) : List PrepLine :=
  lines.insertionSort fun a b => a.lineNumber ≤ b.lineNumber

def screenLine (w : World) (r : PrepRun) (line : PrepLine) : PrepScreen :=
  let ranked := (w.score line.content).getD []
  let score := (ranked.head?.map Prod.snd).getD 0
  { lineId := line.id
    organizationId := r.organizationId
    relevanceScore := score
    candidateControls := ranked.map Prod.fst
    aboveThreshold := decide (ranked ≠ [] ∧ score ≥ r.config.screenThreshold) }

/-- `run_stage_screen`. -/
def runStageScreen (w : World) (r : PrepRun) : PrepRun :=
  let screens := (orderedLines r.lines).map (screenLine w r)
  { r.setStage .screen .complete with
    screens := screens
    linesAboveThreshold := screens.countP PrepScreen.aboveThreshold }

/-! ## Expand -/

/-- The window of a line, and how its text is put together. -/
structure ExpansionResult where
  members : List PrepLine
  content : Text

/-- `_render_cell`. -/
def renderCell (line : PrepLine) : Text :=
  match orElse line.cellLabel none with
  | some label => label ++ ": ".toList ++ line.content
  | none => line.content

/-- `sep.join(items)`. -/
def joinText (sep : Text) (items : List Text) : Text := (items.intersperse sep).flatten

def tableRow (trigger : PrepLine) (siblings : List PrepLine) : List PrepLine :=
  if trigger.tableId.isSome ∧ trigger.rowIndex.isSome then
    (siblings.filter fun l => l.tableId = trigger.tableId ∧
      l.rowIndex = trigger.rowIndex).insertionSort
        fun a b => a.colIndex.getD 0 ≤ b.colIndex.getD 0
  else []

/-- `expand_line`. -/
def expandLine (trigger : PrepLine) (siblings : List PrepLine) (window : Nat) :
    ExpansionResult :=
  let row := tableRow trigger siblings
  if row.length > 1 then ⟨row, joinText " | ".toList (row.map renderCell)⟩
  else
    let ordered := orderedLines siblings
    match ordered.findIdx? fun l => l.id = trigger.id with
    | none => ⟨[trigger], trigger.content⟩
    | some position =>
      let neighbours :=
        (ordered.drop (position - window)).take (position + window + 1 - (position - window))
      let members := neighbours.filter fun l =>
        l.pageNumber = trigger.pageNumber ∧ l.sectionPath = trigger.sectionPath
      if members.length > 1 then ⟨members, joinText [' '] (members.map (·.content))⟩
      else ⟨[trigger], trigger.content⟩

/-- `_build`, and the row it becomes. -/
def buildUnit (w : World) (r : PrepRun) (trigger : PrepLine) (id : Nat) : PrepUnit :=
  let result := expandLine trigger (orderedLines r.lines) r.config.expandWindow
  { id := id
    organizationId := r.organizationId
    triggerLineId := trigger.id
    sourceLineIds := result.members.map (·.id)
    content := result.content
    pageNumbers := (result.members.filterMap (·.pageNumber)).dedup.insertionSort (· ≤ ·)
    sectionPath := trigger.sectionPath
    tableCoordinates := trigger.tableId.map fun t => ⟨t, trigger.rowIndex, trigger.colIndex⟩
    tokenCount := max 1 (result.content.length / 4)
    systemId := if r.sourceKind = "evidence_version".toList then w.systemId else none
    sourceKind := r.sourceKind }

/-- The lines above the threshold: `prep_lines` joined with `prep_screens`. -/
def triggers (r : PrepRun) : List PrepLine :=
  (orderedLines r.lines).flatMap fun l =>
    (r.screens.filter fun s => s.lineId = l.id ∧ s.aboveThreshold = true).map fun _ => l

/-- `run_stage_expand`. -/
def runStageExpand (w : World) (r : PrepRun) : PrepRun :=
  let units := (triggers r).zipIdx.map fun p => buildUnit w r p.1 p.2
  { r.setStage .expand .complete with units := units, unitsBuilt := units.length }

/-! ## Classify -/

/-- `_candidates_for`. -/
def candidatesFor (r : PrepRun) (u : PrepUnit) : List Text :=
  ((r.screens.find? fun s => s.lineId = u.triggerLineId).map
    PrepScreen.candidateControls).getD []

def classifyUnit (w : World) (r : PrepRun) (u : PrepUnit) : Except Text PrepClassification :=
  (w.classify u (candidatesFor r u)).map fun data =>
    { unitId := u.id
      organizationId := r.organizationId
      controlIdentifiers := data.controlIdentifiers.filter fun c => c ∈ candidatesFor r u
      artifactType := data.artifactType
      evidenceStrength := data.evidenceStrength
      explanation := data.explanation
      modelConfidence := data.confidence
      aiActionRunId := w.aiRun u }

/-- `run_stage_classify`. -/
def runStageClassify (w : World) (r : PrepRun) : PrepRun :=
  match r.units.mapM (classifyUnit w r) with
  | .error e =>
    ({ r with classifications := [], unitsClassified := 0 } : PrepRun).fail .classify
      ("classification failed: ".toList ++ e)
  | .ok rows =>
    { r.setStage .classify .complete with
      classifications := rows, unitsClassified := rows.length }

/-! ## Embed -/

/-- `PREP_EMBEDDING_DIM`. -/
def prepEmbeddingDim : Nat := 1024

/-- `units[start : start + batch_size]`, for every start; `rounds` bounds their number. -/
def batches (size : Nat) : Nat → List PrepUnit → List (List PrepUnit)
  | 0, _ | _ + 1, [] => []
  | rounds + 1, u :: us => (u :: us).take size :: batches size rounds ((u :: us).drop size)

/-- The rows of one batch. The outer level is what escapes the stage: `zip(strict=True)`
raises where the provider returns too few vectors or too many. -/
def embedBatch (w : World) (r : PrepRun) (batch : List PrepUnit) :
    Option (Except Text (List PrepEmbedding)) :=
  match w.embed (batch.map (·.content)) with
  | .error e => some (.error e)
  | .ok (model, vectors) =>
    match vectors.find? fun v => v.length ≠ r.config.embedDimensions ∨
        v.length ≠ prepEmbeddingDim with
    | some v =>
      some (.error ("provider returned ".toList ++ natText v.length ++
        "-dimension vectors; schema requires ".toList ++ natText prepEmbeddingDim))
    | none =>
      if vectors.length = batch.length then
        some (.ok (batch.zipWith (fun u v => ⟨u.id, r.organizationId, model, v⟩) vectors))
      else none

def embedBatches (w : World) (r : PrepRun) :
    List (List PrepUnit) → Option (Except Text (List PrepEmbedding))
  | [] => some (.ok [])
  | batch :: rest =>
    (embedBatch w r batch).bind fun
      | .error e => some (.error e)
      | .ok rows => (embedBatches w r rest).map fun more => more.map (rows ++ ·)

/-- `run_stage_embed`. -/
def runStageEmbed (w : World) (r : PrepRun) : Option PrepRun :=
  (embedBatches w r (batches (max 1 w.batchSize) r.units.length r.units)).map fun
    | .error e =>
      ({ r with embeddings := [], unitsEmbedded := 0 } : PrepRun).fail .embed
        ("embedding failed: ".toList ++ e)
    | .ok rows =>
      { r.setStage .embed .complete with embeddings := rows, unitsEmbedded := rows.length }

/-- `_STAGE_RUNNERS`; `none` where the runner raises, and the transaction with it. -/
def runStage (w : World) (r : PrepRun) : Stage → Option PrepRun
  | .parse => some (runStageParse w r)
  | .screen => some (runStageScreen w r)
  | .expand => some (runStageExpand w r)
  | .classify => some (runStageClassify w r)
  | .embed => runStageEmbed w r

end Concord.Prep
