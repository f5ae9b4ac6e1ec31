import Concord.Catalog.Oscal
import Concord.Python.Dates

/-!
# Reading the CCI list

`ccf/cci/reader.py`. What Python's `HTMLParser` calls is a list of events; `TableParser` collects
the tables, `item` reads one of them as an entry and `readCciHtml` the file. A table that is no
entry is passed over, and so is a row that is no reference.

`readCciHtml_wellFormed` is what the entries of a list that was read are like.
-/

namespace Concord.Cci

open Concord.Python

/-- The tags that `_TableParser` tells apart. -/
inductive Tag
  | table | tr | td | a | other
  deriving DecidableEq

/-- A call of `HTMLParser`. -/
inductive Event
  | startTag (tag : Tag)
  | endTag (tag : Tag)
  | data (data : Text)

/-- What is used of Python's library. -/
structure Library where
  /-- `str.lower` -/
  lower : Text → Text
  /-- `repr` -/
  repr : Text → Text
  /-- what `HTMLParser.feed` calls for the decoded bytes -/
  events : Bytes → List Event

/-! ## Tables -/

/-- `_Cell`. -/
structure Cell where
  text : Text
  links : List Text

abbrev Table := List (List Cell)

/-- `_TableFrame`. -/
structure TableFrame where
  table : Table
  row : Option (List Cell)
  cell : Option Cell

/-- `_TableParser`; the innermost open table is the first of the stack. -/
structure TableParser where
  tables : List Table
  preamble : Text
  stack : List TableFrame
  inAnchor : Bool

namespace TableParser

def new : TableParser := ⟨[], [], [], false⟩

def handleStartTag (p : TableParser) : Tag → TableParser
  | .table => { p with stack := ⟨[], none, none⟩ :: p.stack }
  | tag =>
    match p.stack with
    | [] => p
    | frame :: outer =>
      match tag, frame.row, frame.cell with
      | .tr, _, _ => { p with stack := { frame with row := some [] } :: outer }
      | .td, some _, _ => { p with stack := { frame with cell := some ⟨[], []⟩ } :: outer }
      | .a, _, some cell =>
        { p with
          inAnchor := true
          stack := { frame with cell := some { cell with links := cell.links ++ [[]] } } :: outer }
      | _, _, _ => p

def handleEndTag (p : TableParser) : Tag → TableParser
  | .a => { p with inAnchor := false }
  | tag =>
    match p.stack with
    | [] => p
    | frame :: outer =>
      match tag, frame.row, frame.cell with
      | .td, some row, some cell =>
        { p with stack := { frame with row := some (row ++ [cell]), cell := none } :: outer }
      | .tr, some row, _ =>
        { p with stack := { frame with table := frame.table ++ [row], row := none } :: outer }
      | .table, _, _ => { p with stack := outer, tables := p.tables ++ [frame.table] }
      | _, _, _ => p

/-- `links[-1] += data`. -/
def addToLast (data : Text) : List Text → List Text
  | [] => []
  | [link] => [link ++ data]
  | link :: links => link :: addToLast data links

def handleData (p : TableParser) (data : Text) : TableParser :=
  match p.stack with
  | [] => { p with preamble := p.preamble ++ data }
  | frame :: outer =>
    match frame.cell with
    | none => p
    | some cell =>
      let links := if p.inAnchor then addToLast data cell.links else cell.links
      { p with stack := { frame with cell := some ⟨cell.text ++ data, links⟩ } :: outer }

def handle (p : TableParser) : Event → TableParser
  | .startTag tag => p.handleStartTag tag
  | .endTag tag => p.handleEndTag tag
  | .data data => p.handleData data

end TableParser

/-! ## Entries -/

/-- `CciReference`. -/
structure CciReference where
  revision : Text
  rawIndex : Text
  deriving DecidableEq

/-- `CciItem`. -/
structure CciItem where
  cci : Text
  status : Text
  type : Text
  contributor : Option Text
  publishedDate : Option Date
  definition : Text
  references : List CciReference

/-- `CciList`. A file without entries is no list. -/
structure CciList where
  version : Text
  sourceSha256 : Text
  items : List CciItem
  nonempty : items ≠ []

/-- `s.split()`. -/
def splitWords (s : Text) : List Text := (s.splitOnP isSpace).filter (· ≠ [])

/-- `_clean`: every run of blanks is one blank, and there is none at either end. -/
def clean (s : Text) : Text := [' '].intercalate (splitWords s)

/-- `_parse_date`. -/
def parseDate (lib : Library) (raw : Text) : Option Date :=
  (Date.fromisoformat lib.repr (clean raw)).toOption

/-- `_REVISIONS`. -/
def revisions : List (Text × Text) :=
  [("NIST SP 800-53 (v3)".toList, "3".toList),
    ("NIST SP 800-53 Revision 4 (v4)".toList, "4".toList),
    ("NIST SP 800-53 Revision 5 (v5)".toList, "5".toList),
    ("NIST SP 800-53A (v1)".toList, "800-53A".toList)]

/-- What comes after the first `sep`. -/
def afterFirst (sep : Text) : Text → Option Text
  | [] => none
  | c :: s => if sep.isPrefixOf (c :: s) then some ((c :: s).drop sep.length) else afterFirst sep s

/-- The revision a title stands for; a title that is not known stands for itself. -/
def revisionOf (title : Text) : Text := (revisions.lookup title).getD (title.take 64)

/-- `_reference`. -/
def reference (cell : Cell) : Option CciReference :=
  match cell.links with
  | [] => none
  | rawTitle :: _ =>
    let title := clean rawTitle
    if title = [] then none
    else
      let tail := (afterFirst rawTitle cell.text).getD cell.text
      let index := clean (tail.dropWhile fun c => c = ':' ∨ c = ' ')
      if index = [] then none
      else some ⟨revisionOf title, index⟩

/-- The label in a cell: `_clean(cell.text).rstrip(":").lower()`. -/
def label (lib : Library) (cell : Cell) : Text :=
  lib.lower (((clean cell.text).reverse.dropWhile (· = ':')).reverse)

/-- What `_item` has gathered. -/
structure Gathered where
  cci : Text
  fields : Dict Text Text
  references : List CciReference

/-- The third and fourth cells of a row, a label and a value. -/
def secondField (lib : Library) (fields : Dict Text Text) : List Cell → Dict Text Text
  | _ :: _ :: c :: d :: _ => fields.set (label lib c) (clean d.text)
  | _ => fields

def gatherRow (lib : Library) (g : Gathered) (row : List Cell) : Gathered :=
  match row with
  | [] => g
  | first :: rest =>
    let name := label lib first
    match rest.head? with
    | some second =>
      if name = "cci".toList then
        { g with cci := clean second.text, fields := secondField lib g.fields row }
      else if name = "contributor".toList ∨ name = "published date".toList then
        { g with fields := secondField lib (g.fields.set name (clean second.text)) row }
      else if name = "definition".toList ∨ name = "type".toList then
        { g with fields := g.fields.set name (clean second.text) }
      else { g with references := g.references ++ (reference (row.getLastD first)).toList }
    | none => { g with references := g.references ++ (reference first).toList }

/-- `_CCI_RE`, of a text that is stripped. -/
def isCci (s : Text) : Bool :=
  "CCI-".toList.isPrefixOf s && decide (s.length = 10) && (s.drop 4).all isDecimal

/-- `_item`. -/
def item (lib : Library) (table : Table) : Option CciItem :=
  let g := table.foldl (gatherRow lib) ⟨[], Dict.empty, []⟩
  let field := fun name : String => (g.fields.get? name.toList).getD []
  if isCci g.cci then
    some
      { cci := g.cci
        status := field "status"
        type := field "type"
        contributor := orElse (g.fields.get? "contributor".toList) none
        publishedDate := parseDate lib (field "published date")
        definition := field "definition"
        references := g.references }
  else none

/-- `\d{4}-\d{2}-\d{2}`. -/
def dateShape : Text → Bool
  | [a, b, c, d, '-', e, f, '-', g, h] => [a, b, c, d, e, f, g, h].all isDecimal
  | _ => false

/-- `Version\s+(\d{4}-\d{2}-\d{2})`, at the beginning of a text. -/
def versionAt (s : Text) : Option Text :=
  if "Version".toList.isPrefixOf s then
    let rest := s.drop 7
    let date := (lstrip rest).take 10
    if rest.head?.any isSpace && dateShape date then some date else none
  else none

/-- `read_cci_html`; `none` where it raises. -/
def readCciHtml (lib : Library) (body : Bytes) : Option CciList :=
  let parser := (lib.events body).foldl TableParser.handle .new
  let items := parser.tables.filterMap (item lib)
  if h : items = [] then none
  else some ⟨(parser.preamble.tails.findSome? versionAt).getD [], Catalog.sha256Hex body, items, h⟩

/-! ## What was read -/

/-- An entry as the file publishes it: its identifier is one, and a reference names a revision
and an index. -/
structure WellFormed (i : CciItem) : Prop where
  cci : isCci i.cci = true
  references : ∀ r ∈ i.references, r.revision ≠ [] ∧ r.revision.length ≤ 64 ∧ r.rawIndex ≠ []

theorem revisionOf_fits {title : Text} (h : title ≠ []) :
    revisionOf title ≠ [] ∧ (revisionOf title).length ≤ 64 := by
  unfold revisionOf
  cases hknown : revisions.lookup title with
  | none =>
    rw [Option.getD_none, ne_eq, List.take_eq_nil_iff, not_or]
    exact ⟨⟨by decide, h⟩, List.length_take_le 64 title⟩
  | some revision =>
    obtain ⟨before, after, hsplit, -⟩ := List.lookup_eq_some_iff.mp hknown
    have hmem : (title, revision) ∈ revisions := by
      rw [hsplit]
      exact List.mem_append_right _ List.mem_cons_self
    have hall : ∀ p ∈ revisions, p.2 ≠ [] ∧ p.2.length ≤ 64 := by decide
    exact hall (title, revision) hmem

theorem reference_wellFormed {cell : Cell} {r : CciReference} (h : reference cell = some r) :
    r.revision ≠ [] ∧ r.revision.length ≤ 64 ∧ r.rawIndex ≠ [] := by
  unfold reference at h
  cases hlinks : cell.links with
  | nil =>
    rw [hlinks] at h
    cases h
  | cons rawTitle links =>
    rw [hlinks] at h
    dsimp only at h
    split at h
    · cases h
    · rename_i htitle
      split at h
      · cases h
      · rename_i hindex
        obtain rfl := Option.some.inj h
        obtain ⟨hrevision, hlength⟩ := revisionOf_fits htitle
        exact ⟨hrevision, hlength, hindex⟩

theorem gatherRow_references {lib : Library} {g : Gathered} {row : List Cell}
    (h : ∀ r ∈ g.references, r.revision ≠ [] ∧ r.revision.length ≤ 64 ∧ r.rawIndex ≠ []) :
    ∀ r ∈ (gatherRow lib g row).references,
      r.revision ≠ [] ∧ r.revision.length ≤ 64 ∧ r.rawIndex ≠ [] := by
  have hmore : ∀ cell, ∀ r ∈ g.references ++ (reference cell).toList,
      r.revision ≠ [] ∧ r.revision.length ≤ 64 ∧ r.rawIndex ≠ [] := by
    intro cell r hr
    obtain hr | hr := List.mem_append.mp hr
    · exact h r hr
    · exact reference_wellFormed (Option.mem_toList.mp hr)
  unfold gatherRow
  split
  · exact h
  · dsimp only
    split
    · split
      · exact h
      · split
        · exact h
        · split
          · exact h
          · exact hmore _
    · exact hmore _

theorem item_wellFormed {lib : Library} {table : Table} {i : CciItem}
    (h : item lib table = some i) : WellFormed i := by
  unfold item at h
  dsimp only at h
  split at h
  · rename_i hcci
    obtain rfl := Option.some.inj h
    refine ⟨hcci, ?_⟩
    show ∀ r ∈ (table.foldl (gatherRow lib) ⟨[], Dict.empty, []⟩).references, _
    have hfold : ∀ (rows : Table) (g : Gathered),
        (∀ r ∈ g.references, r.revision ≠ [] ∧ r.revision.length ≤ 64 ∧ r.rawIndex ≠ []) →
        ∀ r ∈ (rows.foldl (gatherRow lib) g).references,
          r.revision ≠ [] ∧ r.revision.length ≤ 64 ∧ r.rawIndex ≠ [] := by
      intro rows
      induction rows with
      | nil => exact fun g hg => hg
      | cons row rows ih => exact fun g hg => ih _ (gatherRow_references hg)
    exact hfold table _ fun r hr => absurd hr List.not_mem_nil
  · cases h

/-- **What is read is well formed.** -/
theorem readCciHtml_wellFormed {lib : Library} {body : Bytes} {list : CciList}
    (h : readCciHtml lib body = some list) : ∀ i ∈ list.items, WellFormed i := by
  unfold readCciHtml at h
  dsimp only at h
  split at h
  · cases h
  · obtain rfl := Option.some.inj h
    intro i hi
    obtain ⟨table, -, hitem⟩ := List.mem_filterMap.mp hi
    exact item_wellFormed hitem

end Concord.Cci
