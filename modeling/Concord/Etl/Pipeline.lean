import Concord.Python.Columns
import Concord.Python.Dict
import Concord.Python.Ints

/-!
# Ingesting the assessment sheet

`_ingest_assessment` of `ccf/etl/pipeline.py`: the rows of the sheet are matched with the controls
by their identifier, which is the key of a control (`rowKey`); controls are updated in place, made
where the key is new, and removed where the sheet no longer has it and nothing refers to them.

A row whose identifier has occurred above it has no identifier of its own. Its key is made from
the number of the row.
-/

namespace Concord.Etl

open Concord.Python

/-! ## Sheets -/

/-- A cell; `other` is a number, a truth value or a date. -/
inductive Cell
  | empty
  | str (s : Text)
  | other (text : Text) (truthy : Bool)
  deriving DecidableEq

/-- `str(value)`. -/
def Cell.text : Cell → Text
  | .empty => "None".toList
  | .str s => s
  | .other text _ => text

/-- `_clean`. -/
def clean : Cell → Cell
  | .str s => if strip s = [] then .empty else .str (strip s)
  | c => c

abbrev Row := List Cell

/-- The sheet: its header row and the rows below. -/
structure Sheet where
  header : Row
  rows : List Row

/-- `_sheet_headers`. -/
def Sheet.headers (sheet : Sheet) : List Text :=
  sheet.header.mapIdx fun idx h => if h = .empty then "col_".toList ++ natText idx else h.text

/-- A row that `_iter_sheet_rows` passes over. -/
def blank (row : Row) : Bool := row.all fun c => c = .empty || (strip c.text).isEmpty

abbrev Record := Dict Text Cell

/-- `dict(zip(headers, row))`. -/
def record (headers : List Text) (row : Row) : Record := Dict.ofPairs (headers.zip row)

/-- `record.get(header)`. -/
def Record.cell (r : Record) (header : Text) : Cell := (r.get? header).getD .empty

def rowIdentifier (headers : List Text) (row : Row) : Option Text :=
  if blank row then none
  else
    match clean (Record.cell (record headers row) "identifier".toList) with
    | .empty => none
    | .str s => some s
    | .other text truthy => if truthy then some text else none

/-- The key of a row: the identifier, or where that has been seen, the identifier and the number
of the row. -/
def rowKey (seen : List Text) (idx : Nat) (identifier : Text) : Text :=
  if identifier ∈ seen then identifier ++ "#row".toList ++ natText idx else identifier

/-! ## The tables -/

/-- A column of a control that a header fills. -/
inductive Attr
  | text (value : Option Text)
  | flag (value : Option Bool)
  deriving DecidableEq

/-- What a row says of its control. -/
structure Content where
  familyId : Option Nat
  sourceRow : Nat
  auditPayload : List (Text × Cell)
  attrs : List (Text × Attr)
  deriving DecidableEq

/-- A row of `controls`, under its identifier. -/
structure Control where
  id : Nat
  content : Content
  deriving DecidableEq

/-- A row of `framework_mappings`. -/
structure FrameworkMapping where
  controlId : Nat
  frameworkId : Option Nat
  columnKey : Text
  value : Text
  deriving DecidableEq

/-- The tables: `controls.identifier` is unique, and ids come from a sequence. The other three are
the control each implementation, POA&M and risk refers to. -/
structure Tables where
  controls : Dict Text Control
  mappings : List FrameworkMapping
  nextId : Nat
  implementations : List Nat
  poams : List (Option Nat)
  risks : List (Option Nat)

/-- The controls that `_CONTROL_DEPENDANTS` refer to. -/
def Tables.referenced (t : Tables) : List Nat :=
  t.implementations ++ t.poams.reduceOption ++ t.risks.reduceOption

/-- What the package and the database bring: the header contract, the families and frameworks
with their ids, and the rows that fit their columns. -/
structure Workbench where
  contract : List Text → Except Text Unit
  ensureFamily : Cell → Except Text (Option Nat)
  framework : Text → Option Nat
  accepts : Text → Content → Bool

/-! ## A row -/

/-- `CORE_HEADERS`. -/
def coreHeaders : List Text :=
  ["family".toList, "Family Category".toList, "Implemented By".toList,
    "Rev 5 Assurance Control?".toList, "NIST SP 800-53R5  Control".toList, "identifier".toList,
    "AP Acronym (from IGAP Control Export on RMF KS)".toList, "Sequence Control".toList,
    "OPD?".toList, "sort-as".toList, "control-name".toList,
    "Security Control Description".toList, "Security Control Discussion".toList,
    "NIST SP 800-53 Rev. 5 related controls".toList, "Owner".toList,
    "Overall Control Type".toList, "assessment-objective".toList, "EXAMINE".toList,
    "INTERVIEW".toList, "TEST".toList, "FISMA Low".toList, "FISMA Mod".toList,
    "FISMA High".toList]

/-- `core_map`. -/
def coreMap : List (Text × Text) :=
  [("Sequence Control".toList, "sequence_control".toList), ("sort-as".toList, "sort_as".toList),
    ("Rev 5 Assurance Control?".toList, "assurance_control".toList),
    ("NIST SP 800-53R5  Control".toList, "control_number".toList),
    ("AP Acronym (from IGAP Control Export on RMF KS)".toList, "ap_acronym".toList),
    ("OPD?".toList, "opd".toList), ("control-name".toList, "control_name".toList),
    ("Security Control Description".toList, "description".toList),
    ("Security Control Discussion".toList, "discussion".toList),
    ("NIST SP 800-53 Rev. 5 related controls".toList, "related_controls".toList),
    ("Owner".toList, "owner".toList),
    ("Overall Control Type".toList, "overall_control_type".toList),
    ("Implemented By".toList, "implemented_by".toList),
    ("assessment-objective".toList, "assessment_objective".toList),
    ("EXAMINE".toList, "examine".toList), ("INTERVIEW".toList, "interview".toList),
    ("TEST".toList, "test".toList), ("FISMA Low".toList, "fisma_low".toList),
    ("FISMA Mod".toList, "fisma_mod".toList), ("FISMA High".toList, "fisma_high".toList)]

/-- `bool_fields`. -/
def boolFields : List Text :=
  ["opd".toList, "fisma_low".toList, "fisma_mod".toList, "fisma_high".toList]

def boolStringsTrue : List Text :=
  ["x".toList, "yes".toList, "y".toList, "true".toList, "t".toList, "1".toList]

def boolStringsFalse : List Text :=
  ["no".toList, "n".toList, "false".toList, "f".toList, "0".toList]

/-- `_coerce_bool`. -/
def coerceBool (v : Cell) : Option Bool :=
  match clean v with
  | .empty => none
  | c =>
    let s := (strip c.text).map Char.toLower
    if s ∈ boolStringsTrue then some true
    else if s ∈ boolStringsFalse then some false
    else none

def attrOf (r : Record) (header attr : Text) : Attr :=
  if attr ∈ boolFields then .flag (coerceBool (r.cell header))
  else .text (if clean (r.cell header) = .empty then none else some (clean (r.cell header)).text)

variable (env : Workbench)

def contentOf (idx : Nat) (r : Record) : Except Text Content := do
  let familyId ← env.ensureFamily (clean (r.cell "family".toList))
  return {
    familyId := familyId
    sourceRow := idx
    auditPayload := r.items.filter fun kv => clean kv.2 ≠ .empty
    attrs := coreMap.map fun m => (m.2, attrOf r m.1 m.2) }

/-- The mappings of a row: a column each, of those that are no core headers. -/
def mappingsOf (controlId : Nat) (r : Record) : List FrameworkMapping :=
  (r.items.filter fun kv => kv.1 ∉ coreHeaders ∧ clean kv.2 ≠ .empty).map fun kv =>
    ⟨controlId, env.framework kv.1, kv.1, (clean kv.2).text⟩

/-- `uq_mapping_control_column`, between two rows. -/
def clashes (a b : FrameworkMapping) : Bool :=
  a.controlId = b.controlId && a.columnKey = b.columnKey

/-! ## The load -/

/-- The load, up to a row. `seen` are the keys, `workbook_identifiers` too. -/
structure Loading where
  controls : Dict Text Control
  mappings : List FrameworkMapping
  nextId : Nat
  seen : List Text
  rejected : List Nat

/-- The control of a key, with what its row says: the one that was there before the load, or a new
one. A second new one under the same key is refused. -/
def upsert (existing : Dict Text Control) (st : Loading) (key : Text) (content : Content) :
    Except Text (Control × Nat) :=
  match existing.get? key with
  | some c => .ok (⟨c.id, content⟩, st.nextId)
  | none =>
    if (st.controls.get? key).isSome then .error "IntegrityError: controls.identifier".toList
    else .ok (⟨st.nextId, content⟩, st.nextId + 1)

def loadRow (existing : Dict Text Control) (headers : List Text) (st : Loading) (idx : Nat)
    (row : Row) : Except Text Loading :=
  match rowIdentifier headers row with
  | none => .ok (if blank row then st else { st with rejected := st.rejected ++ [idx] })
  | some identifier => do
    let r := record headers row
    let key := rowKey st.seen idx identifier
    let content ← contentOf env idx r
    if !env.accepts key content then throw "DataError".toList
    let (control, nextId) ← upsert existing st key content
    let added := mappingsOf env control.id r
    if st.mappings.any fun m => added.any (clashes m) then
      throw "IntegrityError: uq_mapping_control_column".toList
    return {
      controls := st.controls.set key control
      mappings := st.mappings ++ added
      nextId := nextId
      seen := st.seen ++ [key]
      rejected := st.rejected }

def loadRows (existing : Dict Text Control) (headers : List Text) :
    Loading → Nat → List Row → Except Text Loading
  | st, _, [] => .ok st
  | st, idx, row :: rows =>
    (loadRow env existing headers st idx row).bind fun st =>
      loadRows existing headers st (idx + 1) rows

/-- The controls that `_retire_absent_controls` removes. -/
def retired (existing : Dict Text Control) (seen : List Text) (t : Tables) (key : Text)
    (c : Control) : Bool :=
  (existing.get? key).isSome && key ∉ seen && c.id ∉ t.referenced

/-- `ON DELETE SET NULL`. -/
def setNull (deleted : List Nat) (reference : Option Nat) : Option Nat :=
  match reference with
  | some id => if id ∈ deleted then none else some id
  | none => none

/-- `_retire_absent_controls`. -/
def retireAbsentControls (existing : Dict Text Control) (seen : List Text) (t : Tables) : Tables :=
  let deleted :=
    ((t.controls.filter fun k c => retired existing seen t k c).items.map fun q => q.2.id)
  { t with
    controls := t.controls.filter fun k c => !retired existing seen t k c
    poams := t.poams.map (setNull deleted)
    risks := t.risks.map (setNull deleted) }

/-- `_ingest_assessment`. What it raises loses the transaction. -/
def ingestAssessment (t : Tables) (sheet : Sheet) : Except Text Tables := do
  env.contract sheet.headers
  -- the mappings of the last run are gone before the first row; the controls are matched
  let st ← loadRows env t.controls sheet.headers ⟨t.controls, [], t.nextId, [], []⟩ 1 sheet.rows
  return retireAbsentControls t.controls st.seen
    { t with controls := st.controls, mappings := st.mappings, nextId := st.nextId }

end Concord.Etl
