import Concord.Python.Csv
import Concord.Python.ReadBack
import Concord.Governance.RowImport

/-!
# Files of the exporter

`export` and `import_rows` of `ccf/governance/exporter.py` on the bytes of a file, in its two
formats that can be imported: the loaders of the four datasets, `_render` and `_parse_rows`.
The Markdown format is left out.

`parseRows_render` says what the rows of an exported file are: one for each listed row, with
a cell for each exported column.
-/

namespace Concord.Governance.Datasets

open Concord.Python
open Importer (Row Summary)

/-! ## What is exported -/

/-- A value of a row that a loader returns. -/
inductive Cell
  | null
  | int (n : Nat)
  | text (t : Text)
  | date (d : Date)
  deriving DecidableEq

/-- A key of a row that a loader returns. -/
inductive Exported
  | id
  | text (f : String)
  | date (f : String)
  | inherentScore
  | residualScore
  | residualBand
  deriving DecidableEq

def Exported.name : Exported → String
  | .id => "id"
  | .text f => f
  | .date f => f
  | .inherentScore => "inherent_score"
  | .residualScore => "residual_score"
  | .residualBand => "residual_band"

def textCell : Option Text → Cell
  | none => .null
  | some t => .text t

def dateCell : Option Date → Cell
  | none => .null
  | some d => .date d

def intCell : Option Nat → Cell
  | none => .null
  | some n => .int n

def Exported.cell (e : Entity) : Exported → Cell
  | .id => .int e.id
  | .text f => textCell (e.text f)
  | .date f => dateCell (e.date f)
  | .inherentScore => intCell e.inherentScore
  | .residualScore => intCell e.residualScore
  | .residualBand => .text (band e.residualScore)

/-- The keys of `_poams`, `_risks`, `_vendors` and `_policies`. -/
def Dataset.exported : Dataset → List Exported
  | .poams =>
    [.id, .text "title", .text "severity", .text "status", .text "source",
     .date "identified_on", .date "due_on", .date "scheduled_completion",
     .text "point_of_contact"]
  | .risks =>
    [.id, .text "title", .text "category", .text "likelihood", .text "impact",
     .text "treatment", .text "status", .inherentScore, .residualScore, .residualBand]
  | .vendors =>
    [.id, .text "name", .text "criticality", .text "status", .text "risk_rating",
     .text "authorization", .date "last_reviewed_on", .date "next_review_on"]
  | .policies =>
    [.id, .text "name", .text "category", .text "status", .text "review_frequency",
     .date "next_review_on"]

def Dataset.cells (d : Dataset) (e : Entity) : List Cell := d.exported.map (Exported.cell e)

/-! ## The loaders -/

/-- What an export or an import is called with, beside the table: the systems, and the
organization of the caller (none for a global one). The order of names is the database's. -/
structure Request where
  py : Interpreter
  float : Text → Number
  systems : List System
  orgId : Option Nat
  collate : List Entity → List Entity
  collate_perm : ∀ rows, (collate rows).Perm rows

def Request.ownSystems (q : Request) : List System :=
  q.systems.filter fun s => q.orgId = none ∨ s.organizationId = q.orgId

/-- The `WHERE` of a loader. -/
def Request.owns (q : Request) (spec : Spec) (e : Entity) : Bool :=
  match q.orgId, spec.link with
  | none, _ => true
  | some _, .system => q.ownSystems.any fun s => some s.id = e.link
  | some org, .org => e.link = some org

/-- `DATASETS[dataset]`: by id, or by name. -/
def Request.listed (q : Request) {spec : Spec} (t : Table spec) : List Entity :=
  match spec.link with
  | .system => t.rows.filter (q.owns spec)
  | .org => q.collate (t.rows.filter (q.owns spec))

/-- `_first_system_id`. -/
def Request.firstSystemId (q : Request) : Option Nat := (q.ownSystems.map System.id).min?

/-- What the loop of `import_rows` works with. -/
def Request.toImport (q : Request) {spec : Spec} (t : Table spec) : Import where
  py := q.py
  spec := spec
  owned := (q.listed t).map Entity.id
  systemId := if spec.link = .system then q.firstSystemId else none
  orgId := q.orgId

/-! ## `_render` -/

inductive Format
  | csv
  | json
  deriving DecidableEq

/-- A value as `csv` writes it. -/
def Cell.csv : Cell → Text
  | .null => []
  | .int n => natText n
  | .text t => t
  | .date d => d.isoformat

/-- A value as `json.dumps` writes it, with `default=str`. -/
def Cell.json : Cell → Json
  | .null => .null
  | .int n => .nat n
  | .text t => .str t
  | .date d => .str d.isoformat

def Dataset.object (d : Dataset) (e : Entity) : List (Text × Json) :=
  d.exported.map fun c => (c.name.toList, (c.cell e).json)

def Dataset.header (d : Dataset) : List Text := d.exported.map fun c => c.name.toList

/-- `_render`: an empty register has the header `id`. -/
def Dataset.render (d : Dataset) (rows : List Entity) : Format → Text
  | .json => Json.pretty 0 (.arr (rows.map fun e => .obj (d.object e)))
  | .csv =>
    match rows with
    | [] => writeCsv [["id".toList]]
    | rows => writeCsv (d.header :: rows.map fun e => (d.cells e).map Cell.csv)

/-- `export`. -/
def Request.export (q : Request) (d : Dataset) (t : Table d.spec) (fmt : Format) : Bytes :=
  utf8 (d.render (q.listed t) fmt)

/-! ## `_parse_rows` -/

def dropMark : Text → Text
  | [] => []
  | c :: s => if c = '\ufeff' then s else c :: s

/-- `b.decode("utf-8-sig")`. -/
def decodeUtf8Sig (b : Bytes) : Option Text := (decodeUtf8 b).map dropMark

/-- A pair that `dict` takes. -/
def pairOf : Json → Option (Json × Json)
  | .arr [key, value] => some (key, value)
  | .str [a, b] => some (.str [a], .str [b])
  | .obj [(key, _), (value, _)] => some (.str key, .str value)
  | _ => none

/-- A key of a dict: a list or a dict is none, and no column is looked up under a number. -/
def keyOf : Json × Json → Option (Option (Text × Json))
  | (.str key, value) => some (some (key, value))
  | (.arr _, _) => none
  | (.obj _, _) => none
  | _ => some none

/-- `dict(r)`. -/
def dictOf : Json → Option Row
  | .obj fields => some fields
  | .arr items => do
    let pairs ← items.mapM fun v => (pairOf v).bind keyOf
    return (Dict.ofPairs (pairs.filterMap id)).items
  | .str [] => some []
  | _ => none

/-- A row of `csv.DictReader`: a column without a cell is `None`. What a row has beyond the
header goes under the key `None`, which no column has. -/
def dictRow (names : List Text) (record : List Text) : Row :=
  (Dict.ofPairs (names.zip (record.map Json.str) ++
    (names.drop record.length).map fun name => (name, .null))).items

/-- `csv.DictReader`. -/
def dictRows : List (List Text) → List Row
  | [] => []
  | names :: records => (records.filter fun r => !r.isEmpty).map (dictRow names)

def documentRows : Json → Option (List Row)
  | .arr items => items.mapM dictOf
  | .obj fields =>
    match (Row.get fields "rows").orElse fun _ => Row.get fields "data" with
    | none => some [fields]
    | some (.arr items) => items.mapM dictOf
    | some _ => none
  | _ => none

/-- `_parse_rows`; `none` is what it raises. -/
def parseRows (float : Text → Number) (content : Bytes) (fmt : Format) : Option (List Row) := do
  let text ← decodeUtf8Sig content
  match fmt with
  | .json => (Json.loads float text).bind documentRows
  | .csv => (readCsv text).map dictRows

/-- `import_rows`. -/
def Request.importFile (q : Request) {spec : Spec} (t : Table spec) (content : Bytes)
    (fmt : Format) : Option (Table spec × Summary) := do
  let rows ← parseRows q.float content fmt
  (q.toImport t).importRows t rows

/-! ## The rows of an exported file -/

def Cell.value (c : Cell) : Format → Json
  | .json => c.json
  | .csv => .str c.csv

/-- The row of the file for a row of the register. -/
def Dataset.fileRow (d : Dataset) (fmt : Format) (e : Entity) : Row :=
  d.exported.map fun c => (c.name.toList, (c.cell e).value fmt)

theorem header_nodup (d : Dataset) : d.header.Nodup := by cases d <;> decide +kernel

theorem text_mem_exported (d : Dataset) :
    (∀ f ∈ d.spec.textFields, Exported.text f ∈ d.exported) ∧
      ∀ c ∈ d.exported, ∀ f, c = .text f → f ∈ d.spec.textFields := by
  cases d <;>
    simp [Dataset.spec, Dataset.exported, Spec.textFields, poamSpec, riskSpec, vendorSpec,
      policySpec]

theorem date_mem_exported (d : Dataset) :
    ∀ f ∈ d.spec.dateFields, Exported.date f ∈ d.exported := by
  cases d <;> decide +kernel

def ColumnType.widest : ColumnType → Nat
  | .string width => width
  | .enum values => (values.map List.length).foldr max 0

theorem length_of_accepts {c : Column} {t : Text} (h : c.accepts (some t) = true) :
    t.length ≤ c.type.widest := by
  unfold Column.accepts at h
  obtain ⟨-, h⟩ := Bool.and_eq_true_iff.mp h
  cases htype : c.type with
  | string width =>
    rw [htype] at h
    exact of_decide_eq_true h
  | enum values =>
    rw [htype] at h
    obtain ⟨v, hv, heq⟩ := List.any_eq_true.mp h
    exact le_foldr_max (List.mem_map_of_mem (of_decide_eq_true heq ▸ hv))

theorem widest_le (d : Dataset) :
    ∀ c ∈ d.spec.strFields, c.type.widest ≤ fieldSizeLimit := by
  cases d <;> decide +kernel

def Cell.Fits : Cell → Prop
  | .int n => n < 2 ^ 31
  | .text t => t.length ≤ fieldSizeLimit
  | _ => True

theorem fits_intCell {n : Option Nat} (h : n.all fitsInteger = true) : (intCell n).Fits := by
  cases n with
  | none => trivial
  | some n =>
    have hn : n < 2 ^ 31 := of_decide_eq_true h
    exact hn

theorem fits_cell (d : Dataset) {e : Entity} (h : d.spec.accepts e = true) :
    ∀ c ∈ d.exported, (c.cell e).Fits := by
  simp only [Spec.accepts, Bool.and_eq_true, List.all_eq_true] at h
  obtain ⟨⟨⟨htexts, -, hid⟩, hinherent⟩, hresidual⟩ := h
  intro c hc
  cases c with
  | id =>
    have hn : e.id < 2 ^ 31 := of_decide_eq_true hid
    exact hn
  | text f =>
    obtain ⟨col, hcol, rfl⟩ := List.mem_map.mp ((text_mem_exported d).2 _ hc f rfl)
    have haccepts := htexts col hcol
    show (textCell (e.text col.name)).Fits
    cases htext : e.text col.name with
    | none => trivial
    | some t =>
      rw [htext] at haccepts
      exact Nat.le_trans (length_of_accepts haccepts) (widest_le d col hcol)
  | date f =>
    show (dateCell (e.date f)).Fits
    cases e.date f <;> trivial
  | inherentScore => exact fits_intCell hinherent
  | residualScore => exact fits_intCell hresidual
  | residualBand =>
    show (band e.residualScore).length ≤ fieldSizeLimit
    unfold band
    repeat' split
    all_goals decide +kernel

theorem length_natText {n : Nat} (h : n < 2 ^ 31) : (natText n).length ≤ 10 :=
  (Nat.length_toDigits_le_iff (by decide) (by decide)).mpr (Nat.lt_trans h (by decide))

theorem length_csv {c : Cell} (h : c.Fits) : c.csv.length ≤ fieldSizeLimit := by
  cases c with
  | null => exact Nat.zero_le _
  | int n => exact Nat.le_trans (length_natText h) (by decide)
  | text t => exact h
  | date d => exact Nat.le_trans (Nat.le_of_eq (isoformat_length d)) (by decide)

theorem readable_json {c : Cell} (h : c.Fits) : c.json.Readable := by
  cases c with
  | null => trivial
  | int n =>
    have hdigits : (Json.digits (n : Int)).length ≤ 4300 :=
      Nat.le_trans (length_natText h) (by decide)
    show (Json.num (Number.ofNat n)).Readable
    rw [Json.Readable]
    exact ⟨n, rfl, hdigits⟩
  | text t => show (Json.str t).Readable; rw [Json.Readable]; trivial
  | date d => show (Json.str d.isoformat).Readable; rw [Json.Readable]; trivial

theorem readableFields_map (e : Entity) (cs : List Exported)
    (h : ∀ c ∈ cs, (c.cell e).Fits) :
    Json.ReadableFields (cs.map fun c => (c.name.toList, (c.cell e).json)) := by
  induction cs with
  | nil => rw [List.map_nil, Json.ReadableFields]; trivial
  | cons c cs ih =>
    rw [List.map_cons, Json.ReadableFields]
    exact ⟨readable_json (h c List.mem_cons_self),
      ih fun c' hc' => h c' (List.mem_cons_of_mem c hc')⟩

theorem readable_objects (d : Dataset) (rows : List Entity)
    (h : ∀ e ∈ rows, ∀ c ∈ d.exported, (c.cell e).Fits) :
    Json.ReadableItems (rows.map fun e => .obj (d.object e)) := by
  induction rows with
  | nil => rw [List.map_nil, Json.ReadableItems]; trivial
  | cons e rows ih =>
    rw [List.map_cons, Json.ReadableItems, Json.Readable]
    refine ⟨⟨?_, readableFields_map e _ (h e List.mem_cons_self)⟩,
      ih fun e' he' => h e' (List.mem_cons_of_mem e he')⟩
    rw [Dataset.object, List.map_map]
    exact header_nodup d

theorem mapM_obj (rows : List Entity) (f : Entity → List (Text × Json)) :
    (rows.map fun e => Json.obj (f e)).mapM dictOf = some (rows.map f) := by
  induction rows with
  | nil => rfl
  | cons e rows ih =>
    rw [List.map_cons, List.mapM_cons, ih]
    rfl

theorem dictRow_cells (d : Dataset) (e : Entity) :
    dictRow d.header ((d.cells e).map Cell.csv) = d.fileRow .csv e := by
  have hzip : d.header.zip (((d.cells e).map Cell.csv).map Json.str) = d.fileRow .csv e := by
    rw [Dataset.header, Dataset.cells, List.map_map, List.map_map, List.zip_map']
    rfl
  have hdrop : d.header.drop ((d.cells e).map Cell.csv).length = [] := by
    rw [List.drop_eq_nil_iff]
    simp [Dataset.header, Dataset.cells]
  rw [dictRow, hzip, hdrop, List.map_nil, List.append_nil, Dict.items_ofPairs]
  rw [Dataset.fileRow, List.map_map]
  exact header_nodup d

theorem csvRow_header (d : Dataset) : ∃ s, csvRow d.header = 'i' :: s := by
  cases d <;> exact ⟨_, rfl⟩

theorem render_head (d : Dataset) (rows : List Entity) (fmt : Format) :
    ∃ c s, d.render rows fmt = c :: s ∧ c ≠ '\ufeff' := by
  cases fmt with
  | json =>
    cases rows with
    | nil => exact ⟨'[', [']'], by rw [Dataset.render, List.map_nil, Json.pretty], by decide⟩
    | cons e rows => exact ⟨'[', _, by rw [Dataset.render, List.map_cons, Json.pretty], by decide⟩
  | csv =>
    cases rows with
    | nil => exact ⟨'i', _, rfl, by decide⟩
    | cons e rows =>
      obtain ⟨s, hs⟩ := csvRow_header d
      refine ⟨'i', s ++ writeCsv ((e :: rows).map fun e => (d.cells e).map Cell.csv), ?_,
        by decide⟩
      rw [← List.cons_append, ← hs]
      exact List.flatMap_cons ..

theorem decode_render (d : Dataset) (rows : List Entity) (fmt : Format) :
    decodeUtf8Sig (utf8 (d.render rows fmt)) = some (d.render rows fmt) := by
  obtain ⟨c, s, hrender, hc⟩ := render_head d rows fmt
  rw [decodeUtf8Sig, decodeUtf8_utf8, hrender]
  exact congrArg some (if_neg hc)

theorem length_header (d : Dataset) : ∀ f ∈ d.header, f.length ≤ fieldSizeLimit := by
  cases d <;> decide +kernel

theorem cells_isEmpty (d : Dataset) (e : Entity) :
    ((d.cells e).map Cell.csv).isEmpty = false := by
  cases d <;> rfl

/-- **A rendered file is read as its rows.** -/
theorem parseRows_render (float : Text → Number) (d : Dataset) (rows : List Entity)
    (fmt : Format) (h : ∀ e ∈ rows, d.spec.accepts e = true) :
    parseRows float (utf8 (d.render rows fmt)) fmt = some (rows.map (d.fileRow fmt)) := by
  have hfits : ∀ e ∈ rows, ∀ c ∈ d.exported, (c.cell e).Fits := fun e he => fits_cell d (h e he)
  rw [parseRows, decode_render, Option.bind_eq_bind, Option.bind_some]
  cases fmt with
  | json =>
    have hread : (Json.arr (rows.map fun e => .obj (d.object e))).Readable := by
      rw [Json.Readable]
      exact readable_objects d rows hfits
    dsimp only [Dataset.render]
    rw [Json.loads_pretty float hread, Option.bind_some, documentRows]
    exact mapM_obj rows d.object
  | csv =>
    dsimp only
    cases rows with
    | nil => rfl
    | cons e rows =>
      have hcsv : readCsv (d.render (e :: rows) .csv) =
          some (d.header :: (e :: rows).map fun e => (d.cells e).map Cell.csv) := by
        refine readCsv_writeCsv _ fun row hrow f hf => ?_
        rcases List.mem_cons.mp hrow with rfl | hrow
        · exact length_header d f hf
        · obtain ⟨e', he', rfl⟩ := List.mem_map.mp hrow
          obtain ⟨cell, hcell, rfl⟩ := List.mem_map.mp hf
          obtain ⟨c, hc, rfl⟩ := List.mem_map.mp hcell
          exact length_csv (hfits e' he' c hc)
      rw [hcsv]
      show some (((e :: rows).map fun e => (d.cells e).map Cell.csv).filter _ |>.map _) = _
      rw [List.filter_eq_self.mpr, List.map_map]
      · exact congrArg some (List.map_congr_left fun e' _ => dictRow_cells d e')
      · intro row hrow
        obtain ⟨e', -, rfl⟩ := List.mem_map.mp hrow
        rw [cells_isEmpty]
        rfl

end Concord.Governance.Datasets
