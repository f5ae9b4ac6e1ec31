import Concord.Base.Raises
import Concord.Python.Bytes
import Concord.Python.Dict
import Concord.Python.JsonDict
import Concord.Python.KeyOrder
import Concord.Python.Sha256
import Mathlib.Data.List.Infix
import Mathlib.Data.List.Sort

/-!
# Reading an OSCAL catalog

`parse_oscal_catalog` of `ccf/etl/sources.py`, and `generate_manifest`, `_verify` and
`load_oscal_catalog` of `ccf/catalog/oscal.py`, over documents that may be any bytes. Loading
is a check here: of the catalog it builds nothing is used, so that only what it raises is kept.
What the interpreter makes of bytes and how deep it recurses is given (`Interpreter`).
-/

namespace Concord.Catalog

open Concord.Python

/-- What is raised. -/
inductive PyError
  | keyError
  | valueError
  | typeError
  | attributeError
  | oscalManifestError (text : Text)
  | recursionError
  | dataError

structure Interpreter where
  /-- `json.loads(body)`; `none` is a `ValueError` -/
  loads : Bytes → Option Json
  /-- `json.loads(path.read_text(encoding="utf-8"))`, of a file with these bytes -/
  loadsText : Bytes → Option Json
  /-- `str(value)`, of what is no string -/
  repr : Json → Text
  /-- `f"{type(exc).__name__}: {exc}"` -/
  describe : PyError → Text
  /-- the levels of recursion that are left -/
  limit : Nat

/-- `hashlib.sha256(body).hexdigest()`. -/
def sha256Hex (body : Bytes) : Text := (Sha256.digest (body.map UInt8.toNat)).hex

/-! ## Values -/

def Interpreter.str (env : Interpreter) : Json → Text
  | .str s => s
  | value => env.repr value

/-- `bool(value)`. -/
def truthy : Json → Bool
  | .null => false
  | .bool b => b
  | .num n => n.text ∉ ["0".toList, "0.0".toList, "-0.0".toList]
  | .str s => s ≠ []
  | .arr items => items.length ≠ 0
  | .obj fields => fields.length ≠ 0

/-- `value or default`. -/
def orValue (value default : Json) : Json := if truthy value then value else default

/-- `node.get(key, default)`. -/
def attr (node : Json) (key : Text) (default : Json) : Except PyError Json :=
  if node.isDict then .ok ((node.get? key).getD default) else .error .attributeError

/-- `node[key]`. -/
def item (node : Json) (key : Text) : Except PyError Json :=
  if !node.isDict then .error .typeError
  else
    match node.get? key with
    | none => .error .keyError
    | some value => .ok value

/-- What a `for` takes out of a value. -/
def iter : Json → Except PyError (List Json)
  | .arr items => .ok items
  | .str s => .ok (s.map fun c => .str [c])
  | .obj fields => .ok (fields.map fun f => .str f.1)
  | _ => .error .typeError

/-- `for value in node.get(key, [])`. -/
def each (node : Json) (key : Text) : Except PyError (List Json) := do
  iter (← attr node key (.arr []))

/-- `for value in node.get(key, []) or []`. -/
def eachOrNone (node : Json) (key : Text) : Except PyError (List Json) := do
  iter (orValue (← attr node key (.arr [])) (.arr []))

def isText (value : Json) (s : Text) : Bool := value.str? = some s

/-! ## `parse_oscal_catalog` -/

/-- `_gather_prose`. -/
def gatherProse : Nat → Json → Except PyError (List Text)
  | 0, _ => .error .recursionError
  | n + 1, node => do
    let prose ← attr node "prose".toList .null
    let parts ← eachOrNone node "parts".toList
    let below ← (parts.filter Json.isDict).mapM (gatherProse n)
    return prose.str?.toList ++ below.flatten

def material (env : Interpreter) (n : Nat) (ctl : Json) : Except PyError (List Text) := do
  let title ← attr ctl "title".toList (.str [])
  let parts ← eachOrNone ctl "parts".toList
  let below ← (parts.filter Json.isDict).mapM (gatherProse n)
  return env.str title :: below.flatten

/-- The entry of a control, where it has an id. -/
def indexControl (env : Interpreter) (n : Nat) (acc : Dict Text Text) (ctl : Json) :
    Except PyError (Dict Text Text) := do
  let cid ← attr ctl "id".toList .null
  if truthy cid then
    let texts ← material env n ctl
    let hash := Sha256.hexdigest (List.intercalate [' '] texts)
    return acc.set (env.str cid) (hash.take 16)
  else return acc

/-- `_walk_controls`. -/
def walkControls (env : Interpreter) : Nat → Json → Dict Text Text →
    Except PyError (Dict Text Text)
  | 0, _, _ => .error .recursionError
  | n + 1, container, acc => do
    let controls ← eachOrNone container "controls".toList
    let acc ← (controls.filter Json.isDict).foldlM (fun acc ctl => do
      let acc ← indexControl env n acc ctl
      walkControls env n ctl acc) acc
    let groups ← eachOrNone container "groups".toList
    (groups.filter Json.isDict).foldlM (fun acc group => walkControls env n group acc) acc

/-- `parse_oscal_catalog`: the version, which may be any value, and the index. -/
def parseOscalCatalog (env : Interpreter) (body : Bytes) :
    Except PyError (Json × Dict Text Text) :=
  match env.loads body with
  | none => .error .valueError
  | some doc => do
    let catalog ← attr doc "catalog".toList doc
    let metadata ← attr catalog "metadata".toList .null
    let version ← attr (orValue metadata (.obj [])) "version".toList .null
    let index ← walkControls env env.limit catalog .empty
    return (version, index)

/-! ## `load_oscal_catalog` -/

/-- `oscal_id_to_canonical`, of a text: `int` may refuse a number. -/
def oscalIdToCanonical (id : Text) : Except PyError Unit :=
  match id.splitOn '.' with
  | [] => .ok ()
  | base :: enhancements =>
    let number := match (beforeEnd base).dropWhile isAsciiLetter with
      | '-' :: digits => digits
      | _ => []
    -- a family without letters is no match
    let family := (beforeEnd base).takeWhile isAsciiLetter
    if family ≠ [] ∧ number ≠ [] ∧ number.all isDecimal ∧ pyInt number = none then
      .error .valueError
    else if enhancements.any fun e => e ≠ [] ∧ e.all isDigit ∧ pyInt e = none then
      .error .valueError
    else .ok ()

/-- Of any value: `split` is a method of strings. -/
def canonicalId : Json → Except PyError Unit
  | .str s => oscalIdToCanonical s
  | _ => .error .attributeError

def joined : Json → Except PyError Unit
  | .str _ => .ok ()
  | _ => .error .typeError

/-- The first of the properties that is the label. -/
def findLabel : List Json → Except PyError (Option Json)
  | [] => .ok none
  | prop :: props => do
    let name ← attr prop "name".toList .null
    if isText name "label".toList then return some (← attr prop "value".toList (.str []))
    else findLabel props

/-- `_part_label`. -/
def partLabel (env : Interpreter) (part : Json) : Except PyError Text := do
  let label ← findLabel (← each part "props".toList)
  return (label.map env.str).getD []

/-- `_collect_prose`. -/
def collectProse (env : Interpreter) : Nat → Json → Except PyError Unit
  | 0, _ => .error .recursionError
  | n + 1, part => do
    let prose ← attr part "prose".toList .null
    if truthy prose then
      let _ ← partLabel env part
      joined prose
    (← each part "parts".toList).forM (collectProse env n)

/-- `_walk_statement_part`. -/
def walkStatementPart (env : Interpreter) : Nat → Json → Except PyError Unit
  | 0, _ => .error .recursionError
  | n + 1, part => do
    let pid ← attr part "id".toList .null
    if truthy pid then
      let label ← partLabel env part
      let prose := orValue (← attr part "prose".toList .null) (.str [])
      -- with a label the prose is formatted, without one it is stripped
      if label = [] ∧ prose.str? = none then throw .attributeError
    (← eachOrNone part "parts".toList).forM (walkStatementPart env n)

/-- `_statement_prose`: the first statement is returned. -/
def statementProse (env : Interpreter) (n : Nat) : List Json → Except PyError Unit
  | [] => .ok ()
  | part :: parts => do
    let name ← attr part "name".toList .null
    if isText name "statement".toList then
      let prose ← attr part "prose".toList .null
      (← each part "parts".toList).forM (collectProse env n)
      if truthy prose then joined prose
    else statementProse env n parts

/-- `_collect_statement_parts`. -/
def collectStatementParts (env : Interpreter) (n : Nat) (parts : List Json) :
    Except PyError Unit :=
  parts.forM fun part => do
    let name ← attr part "name".toList .null
    if isText name "statement".toList then walkStatementPart env n part

/-- `_part_prose`, of the guidance. -/
def guidanceProse (parts : List Json) : Except PyError Unit := do
  let texts ← parts.filterMapM fun part => do
    let name ← attr part "name".toList .null
    if isText name "guidance".toList then
      let prose ← attr part "prose".toList .null
      return if truthy prose then some prose else none
    else return none
  texts.forM joined

/-- `_parse_param`. -/
def parseParam (p : Json) : Except PyError Unit := do
  let label ← attr p "label".toList (.str [])
  if !truthy label then
    let _ ← findLabel (← each p "props".toList)
  for g in ← each p "guidelines".toList do
    let prose ← attr g "prose".toList .null
    if truthy prose then joined prose
  let select ← attr p "select".toList (.obj [])
  let _ ← each (orValue select (.obj [])) "choice".toList

/-- Whether a control is withdrawn: the first such property ends the search. -/
def withdrawn : List Json → Except PyError Bool
  | [] => .ok false
  | p :: props => do
    let name ← attr p "name".toList .null
    if isText name "status".toList then
      let value ← attr p "value".toList .null
      if isText value "withdrawn".toList then return true else withdrawn props
    else withdrawn props

/-- The control that a withdrawn one went into. -/
def incorporated (link : Json) : Except PyError Unit := do
  let rel ← attr link "rel".toList .null
  if isText rel "incorporated-into".toList then
    let href ← attr link "href".toList .null
    if truthy href then
      match href with
      | .str s => oscalIdToCanonical (s.dropWhile (· = '#'))
      | _ => throw .attributeError

/-- `_parse_control`. -/
def parseControl (env : Interpreter) (n : Nat) (c : Json) : Except PyError Unit := do
  let _ ← withdrawn (← each c "props".toList)
  (← each c "links".toList).forM incorporated
  let parts ← each c "parts".toList
  collectStatementParts env n parts
  canonicalId (← item c "id".toList)
  statementProse env n parts
  guidanceProse parts
  let params ← each c "params".toList
  for p in params do
    let _ ← attr p "id".toList .null
  params.forM parseParam

/-- `_iter_controls`, with each control parsed where it is reached. -/
def visitControls (env : Interpreter) : Nat → Json → Except PyError Unit
  | 0, _ => .error .recursionError
  | n + 1, node => do
    for c in ← each node "controls".toList do
      parseControl env n c
      visitControls env n c
    (← each node "groups".toList).forM (visitControls env n)

/-- A directory: the JSON files in it but the manifest. -/
abbrev Dir := Dict Text Bytes

def catalogFile : Text := "NIST_SP-800-53_rev5_catalog.json".toList

/-- `_BASELINE_FILES`. -/
def baselineFiles : List Text :=
  ["NIST_SP-800-53_rev5_LOW-baseline_profile.json".toList,
    "NIST_SP-800-53_rev5_MODERATE-baseline_profile.json".toList,
    "NIST_SP-800-53_rev5_HIGH-baseline_profile.json".toList]

/-- `generate_manifest`: the files it lists, in the order of their names. -/
def generateManifest (d : Dir) : Dict Text Text :=
  Dict.ofPairs ((d.items.insertionSort fun a b => Json.keyLe a.1 b.1).map fun f =>
    (f.1, sha256Hex f.2))

/-- `sorted(required - files.keys())`. -/
def unlisted (files : Dict Text Text) : List Text :=
  ((catalogFile :: baselineFiles).filter fun name => files.get? name = none).insertionSort
    Json.keyLe

/-- `_verify`. -/
def verify (d : Dir) (files : Dict Text Text) : Except PyError Unit := do
  if unlisted files ≠ [] then
    let names := List.intercalate "', '".toList (unlisted files)
    throw (.oscalManifestError ("MANIFEST.json is missing required OSCAL file(s): ['".toList ++
      names ++ "']".toList))
  for (name, want) in files.items do
    match d.get? name with
    | none => throw (.oscalManifestError ("missing OSCAL file ".toList ++ name))
    | some body =>
      if sha256Hex body ≠ want then
        throw (.oscalManifestError ("sha256 mismatch for ".toList ++ name ++ ": ".toList ++
          sha256Hex body ++ " != ".toList ++ want))

def readJson (env : Interpreter) (d : Dir) (name : Text) : Except PyError Json :=
  match (d.get? name).bind env.loadsText with
  | none => .error .valueError
  | some value => .ok value

def readProfile (profile : Json) : Except PyError Unit := do
  for imp in ← each (← item profile "profile".toList) "imports".toList do
    for inc in ← each imp "include-controls".toList do
      (← each inc "with-ids".toList).forM canonicalId

/-- `load_oscal_catalog`. -/
def loadOscalCatalog (env : Interpreter) (d : Dir) (files : Dict Text Text) :
    Except PyError Unit := do
  verify d files
  let raw ← readJson env d catalogFile
  let catalog ← item raw "catalog".toList
  let metadata ← item catalog "metadata".toList
  let _ ← attr metadata "version".toList .null
  visitControls env env.limit catalog
  baselineFiles.forM fun name => do readProfile (← readJson env d name)

end Concord.Catalog
