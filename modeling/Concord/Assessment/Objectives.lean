import Mathlib.Data.List.Sort
import Concord.Python.Sha256
import Concord.Python.Text

/-!
# A control's assessment objectives

`ccf/assessment/engine/objectives.py`, and `normalize_control_identifier` of
`ccf/prep/screen.py`. The objectives of a control are catalog rows: sub-clause
rows without a control name whose `sequence_control` folds to the control's
canonical identifier. `objectivesFor` reads them in catalog order and gives each
a label and the SHA-256 of its text; the two together are what a proposal stores
and what staleness is later judged by.
-/

namespace Concord.Assessment

open Concord.Python

/-! ## Control identifiers -/

/-- `re.sub(r"\(.*$", "", identifier)`: `.` stops at a line break, and `$` matches
at the end or before a final one. -/
def stripEnhancement : Text → Text
  | [] => []
  | c :: cs =>
    let tail := cs.dropWhile (· ≠ '\n')
    if c = '(' ∧ (tail = [] ∨ tail = ['\n']) then tail else c :: stripEnhancement cs

/-- The number of `0*(\d+)`: leading zeros dropped, one kept if there is nothing
else. -/
def unpadded (digits : Text) : Text :=
  match digits.dropWhile (· = '0') with
  | [] => ['0']
  | d :: ds => d :: ds

/-- `normalize_control_identifier`. -/
def normalizeControlIdentifier (identifier : Text) : Text :=
  let base := strip (stripEnhancement identifier)
  let family := base.takeWhile isAsciiLetter
  match base.dropWhile isAsciiLetter with
  | '-' :: digits =>
    if family ≠ [] ∧ digits ≠ [] ∧ digits.all isDecimal then
      family ++ '-' :: unpadded digits
    else base
  | _ => base

/-! ## Reading the catalog -/

/-- The columns of a catalog row that objectives are read from. -/
structure Control where
  id : Nat
  sourceRow : Option Int
  identifier : Text
  sequenceControl : Option Text
  controlName : Option Text
  assessmentObjective : Option Text
  apAcronym : Option Text

/-- One assessment objective, as read from the catalog. -/
structure Objective where
  label : Text
  text : Text
  textSha256 : Text
  sortOrder : Nat
  deriving DecidableEq

/-- What `objectives_for` raises: `ObjectiveExtractionError`, or the `IndexError`
of an ordinal past `zz`. -/
inductive ObjectiveError
  | aboveGuard (found : Nat)
  | ordinalOutOfRange (index : Nat)
  deriving DecidableEq

/-- `order_by(source_row, id)`, null rows last. -/
def catalogLe (a b : Control) : Bool :=
  match a.sourceRow, b.sourceRow with
  | some m, some n => m < n ∨ (m = n ∧ a.id ≤ b.id)
  | some _, none => true
  | none, some _ => false
  | none, none => a.id ≤ b.id

/-- `_is_deduplicated_identifier`: the suffix `#rowN` of `ccf.etl.pipeline`. -/
def isDeduplicatedIdentifier (identifier : Text) : Bool :=
  let rev := (beforeEnd identifier).reverse
  rev.head?.any isDecimal && ['w', 'o', 'r', '#'].isPrefixOf (rev.dropWhile isDecimal)

/-- `objective_sha256`. -/
def objectiveSha256 (text : Text) : Text := Sha256.hexdigest (strip text)

/-- `string.ascii_lowercase[i]`. -/
def letter (i : Nat) : Option Char :=
  if i < 26 then some (Char.ofNat ('a'.toNat + i)) else none

/-- `_ordinal_label`. -/
def ordinalLabel (sequenceControl : Text) (index : Nat) : Except ObjectiveError Text :=
  let suffix : Option Text :=
    if index < 26 then (letter index).map ([·])
    else do
      let a ← letter (index / 26 - 1)
      let b ← letter (index % 26)
      pure [a, b]
  match suffix with
  | some s => .ok (sequenceControl ++ s)
  | none => .error (.ordinalOutOfRange index)

/-- `a or b or c`, the last one only computed when it is needed. -/
def firstLabel (identifier apAcronym : Option Text) (ordinal : Except ObjectiveError Text) :
    Except ObjectiveError Text :=
  match orElse identifier (orElse apAcronym none) with
  | some l => .ok l
  | none => ordinal

/-- The label of the row at `index`, given the labels before it. -/
def objectiveLabel (canonical : Text) (seen : List Text) (index : Nat) (row : Control) :
    Except ObjectiveError Text := do
  let sequence := (orElse row.sequenceControl none).getD canonical
  let identifier :=
    if isDeduplicatedIdentifier row.identifier then none else some row.identifier
  let label ← firstLabel identifier row.apAcronym (ordinalLabel sequence index)
  let label ← if label ∈ seen then ordinalLabel sequence index else pure label
  pure (if label ∈ seen then label ++ ['-', 'd', 'u', 'p'] ++ natText index else label)

/-- The loop of `objectives_for`, from the row at `index` on. -/
def objectivesFrom (canonical : Text) : List Text → Nat → List Control →
    Except ObjectiveError (List Objective)
  | _, _, [] => .ok []
  | seen, index, row :: rows =>
    let text := strip (row.assessmentObjective.getD [])
    if text = [] then objectivesFrom canonical seen (index + 1) rows
    else do
      let label ← objectiveLabel canonical seen index row
      let rest ← objectivesFrom canonical (seen ++ [label]) (index + 1) rows
      pure (⟨label, text, objectiveSha256 text, index⟩ :: rest)

/-- `objectives_for`; `limit` is `assessment_engine_max_objectives_per_control`. -/
def objectivesFor (limit : Int) (catalog : List Control) (controlIdentifier : Text) :
    Except ObjectiveError (List Objective) :=
  let canonical := normalizeControlIdentifier controlIdentifier
  let rows := (catalog.filter fun r =>
    r.controlName.isNone && r.assessmentObjective.isSome).insertionSort
      fun a b => catalogLe a b = true
  let matching := rows.filter fun r =>
    normalizeControlIdentifier (r.sequenceControl.getD []) = canonical
  if limit < matching.length then .error (.aboveGuard matching.length)
  else objectivesFrom canonical [] 0 matching

end Concord.Assessment
