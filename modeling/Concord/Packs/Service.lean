import Concord.Packs.Catalog
import Concord.Python.Columns
import Concord.Python.Sha256

/-!
# Installing a pack

`install_pack` and `run_tests` of `ccf/packs/service.py`, down to the rows they write. A column
of `n` characters takes a longer text only where the rest is blank, and drops the rest; no
column takes a NUL, and no JSON column a number that is not finite. The audit entry is left
out, and so are the limits of the driver and of the interpreter on sizes and depths.

`run_tests` is taken of the pack that `install_pack` returned.
-/

namespace Concord.Packs.Service

open Concord.Python Concord.Base Concord.Packs.Catalog

/-! ## Columns -/

/-- `varchar(n)`. -/
def varchar (n : Nat) (s : Text) : Except Failure Text :=
  if nulFree s && fits n s then .ok (s.take n) else .error .dataError

/-- `text`. -/
def textColumn (s : Text) : Except Failure Text :=
  if nulFree s then .ok s else .error .dataError

/-- A nullable `varchar(n)`, of any value: the driver takes a string or nothing. -/
def nullable (n : Nat) : Json → Except Failure Json
  | .null => .ok .null
  | .str s => (varchar n s).map Json.str
  | _ => .error .dataError

def jsonb (value : Json) : Except Failure Json :=
  if storable value then .ok value else .error .dataError

/-! ## Rows -/

structure PackControl where
  controlId : Text
  title : Json
  family : Json

structure PackMapping where
  controlId : Text
  framework : Text
  reference : Json

structure PackEvidenceRequirement where
  controlId : Text
  description : Text

structure PackRule where
  ruleKey : Text
  kind : Json
  definition : Json

structure PackTestResult where
  testKey : Text
  status : Text
  detail : Text

/-- A row of `compliance_packs`, with the rows that hang on it. -/
structure CompliancePack where
  id : Nat
  organizationId : Option Nat
  packKey : Text
  name : Text
  version : Text
  schemaVersion : Text
  source : Option Text
  manifestSha : Text
  status : Text
  manifest : Json
  controls : List PackControl
  mappings : List PackMapping
  evidenceRequirements : List PackEvidenceRequirement
  rules : List PackRule
  testResults : List PackTestResult

structure CompliancePackVersion where
  packId : Nat
  version : Text
  manifestSha : Text
  manifest : Json

structure PackInstallRun where
  organizationId : Option Nat
  packKey : Text
  action : Text
  status : Text
  summary : Json

structure Database where
  packs : List CompliancePack
  versions : List CompliancePackVersion
  runs : List PackInstallRun
  /-- of the packs' sequence -/
  nextId : Nat

/-- `CompliancePack.organization_id == org_id` and the key; a `NULL` is compared with `IS`. -/
def Database.matching (db : Database) (orgId : Option Nat) (key : Text) : List CompliancePack :=
  db.packs.filter fun p => p.organizationId = orgId ∧ p.packKey = key

/-! ## What is made of the manifest -/

section Install

variable (printer : Printer) (registry : Registry)

/-- `d.get(key, default)`. -/
def getD (d : Json) (key : Text) (default : Json) : Json := (d.get? key).getD default

def packControl (c : Json) : Except Failure PackControl :=
  if !c.isDict then .error .typeError
  else
    match c.get? "control_id".toList with
    | none => .error .keyError
    | some controlId => .ok
        ⟨printer.str controlId, getD c "title".toList .null, getD c "family".toList .null⟩

def packMapping (m : Json) : Except Failure PackMapping :=
  if !m.isDict then .error .attributeError
  else .ok
    ⟨printer.str (getD m "control_id".toList (.str [])),
      printer.str (getD m "framework".toList (.str [])), getD m "reference".toList .null⟩

def packEvidenceRequirement (e : Json) : Except Failure PackEvidenceRequirement :=
  if !e.isDict then .error .attributeError
  else .ok
    ⟨printer.str (getD e "control_id".toList (.str [])),
      printer.str (getD e "description".toList (.str []))⟩

def packRule (r : Json) : Except Failure PackRule :=
  if !r.isDict then .error .attributeError
  else .ok
    ⟨printer.str (getD r "key".toList (.str [])), getD r "kind".toList .null,
      getD r "definition".toList (.obj [])⟩

/-- The rows below a pack. -/
structure Children where
  controls : List PackControl
  mappings : List PackMapping
  evidenceRequirements : List PackEvidenceRequirement
  rules : List PackRule

def materialize (manifest : Json) : Except Failure Children := do
  let controls ← iterate (getD manifest "controls".toList (.arr []))
  let controls ← controls.mapM (packControl printer)
  let mappings ← iterate (getD manifest "mappings".toList (.arr []))
  let mappings ← mappings.mapM (packMapping printer)
  let evidence ← iterate (getD manifest "evidence_requirements".toList (.arr []))
  let evidence ← evidence.mapM (packEvidenceRequirement printer)
  let rules ← iterate (getD manifest "rules".toList (.arr []))
  let rules ← rules.mapM (packRule printer)
  return ⟨controls, mappings, evidence, rules⟩

/-! ## Writing the rows -/

def PackControl.flush (c : PackControl) : Except Failure PackControl := do
  let controlId ← varchar 64 c.controlId
  let title ← nullable 512 c.title
  let family ← nullable 64 c.family
  return ⟨controlId, title, family⟩

def PackMapping.flush (m : PackMapping) : Except Failure PackMapping := do
  let controlId ← varchar 64 m.controlId
  let framework ← varchar 64 m.framework
  let reference ← nullable 255 m.reference
  return ⟨controlId, framework, reference⟩

def PackEvidenceRequirement.flush (e : PackEvidenceRequirement) :
    Except Failure PackEvidenceRequirement := do
  let controlId ← varchar 64 e.controlId
  let description ← textColumn e.description
  return ⟨controlId, description⟩

def PackRule.flush (r : PackRule) : Except Failure PackRule := do
  let ruleKey ← varchar 64 r.ruleKey
  let kind ← nullable 48 r.kind
  let definition ← jsonb r.definition
  return ⟨ruleKey, kind, definition⟩

def PackMapping.key (m : PackMapping) : Text × Text := (m.controlId, m.framework)

/-- `uq_pack_mapping_pack_control_framework`. -/
def uniqueMappings (mappings : List PackMapping) : Except Failure Unit :=
  if (mappings.map PackMapping.key).Nodup then .ok () else .error .integrityError

def Children.flush (children : Children) : Except Failure Children := do
  let controls ← children.controls.mapM PackControl.flush
  let mappings ← children.mappings.mapM PackMapping.flush
  let _ ← uniqueMappings mappings
  let evidence ← children.evidenceRequirements.mapM PackEvidenceRequirement.flush
  let rules ← children.rules.mapM PackRule.flush
  return ⟨controls, mappings, evidence, rules⟩

/-- `uq_compliance_pack`; no two `NULL`s are the same. -/
def uniquePack (db : Database) (orgId : Option Nat) (key : Text) : Except Failure Unit :=
  if orgId.isSome && db.packs.any fun p => p.organizationId = orgId ∧ p.packKey = key then
    .error .integrityError
  else .ok ()

/-- The key of a new pack; that of a pack that is upgraded stays. -/
def flushKey (db : Database) (orgId : Option Nat) (key : Text) :
    Option CompliancePack → Except Failure Text
  | some existing => .ok existing.packKey
  | none => do
    let key ← varchar 64 key
    let _ ← uniquePack db orgId key
    return key

def flushSource : Option Text → Except Failure (Option Text)
  | none => .ok none
  | some source => (varchar 255 source).map some

/-- The columns of the pack itself; the rows below it are still those it had. -/
def CompliancePack.flush (p : CompliancePack) : Except Failure CompliancePack := do
  let name ← varchar 255 p.name
  let version ← varchar 24 p.version
  let schemaVersion ← varchar 8 p.schemaVersion
  let source ← flushSource p.source
  let manifest ← jsonb p.manifest
  return { p with name, version, schemaVersion, source, manifest }

/-! ## `install_pack` -/

/-- `scalar_one_or_none`. -/
def scalarOneOrNone {α : Type} : List α → Except Failure (Option α)
  | [] => .ok none
  | [a] => .ok (some a)
  | _ => .error .multipleResults

/-- `r.get("key")`, where it is true. A key that is no text is in no manifest that is accepted. -/
def ruleKey (r : Json) : Option Text :=
  match r.get? "key".toList with
  | some (.str (c :: cs)) => some (c :: cs)
  | _ => none

/-- `_posture_rule_keys`. -/
def postureRuleKeys (manifest : Json) : List Text :=
  ((Json.listOrEmpty (manifest.get? "rules".toList)).filter isPosture).filterMap ruleKey

/-- `_rule_key_collisions`. -/
def ruleKeyCollisions (db : Database) (orgId : Option Nat) (packKey : Text)
    (ruleKeys : List Text) : List Text :=
  db.packs.flatMap fun p =>
    if p.organizationId = orgId ∧ p.packKey ≠ packKey then
      (p.rules.filter fun r => r.ruleKey ∈ ruleKeys).map fun r =>
        "posture rule key ".toList ++ printer.quote r.ruleKey ++
          " is already claimed by installed pack ".toList ++ printer.quote p.packKey
    else []

/-- `str(manifest.get(key, default))`. -/
def manifestText (manifest : Json) (key default : Text) : Text :=
  printer.str (getD manifest key (.str default))

def packKey (manifest : Json) : Text := manifestText printer manifest "id".toList []

/-- `manifest_sha`. -/
def manifestSha (manifest : Json) : Text := Sha256.hexdigest (Json.dumps manifest)

/-- The pack as it is set before it is flushed. -/
def assignPack (db : Database) (orgId : Option Nat) (manifest : Json) (source : Option Text)
    (key : Text) (existing : Option CompliancePack) : CompliancePack where
  id := (existing.map CompliancePack.id).getD db.nextId
  organizationId := orgId
  packKey := key
  name := manifestText printer manifest "name".toList key
  version := manifestText printer manifest "version".toList ['0']
  schemaVersion := manifestText printer manifest "schema_version".toList ['1']
  source := source
  manifestSha := manifestSha manifest
  status := "installed".toList
  manifest := manifest
  controls := []
  mappings := []
  evidenceRequirements := []
  rules := []
  testResults := []

/-- `len(value)`. -/
def len : Json → Except Failure Nat
  | .arr items => .ok items.length
  | .str s => .ok s.length
  | .obj fields => .ok fields.length
  | _ => .error .typeError

def CompliancePackVersion.flush (v : CompliancePackVersion) :
    Except Failure CompliancePackVersion := do
  let version ← varchar 24 v.version
  let manifest ← jsonb v.manifest
  return { v with version, manifest }

def installRun (orgId : Option Nat) (manifest : Json) (key action version : Text) :
    Except Failure PackInstallRun := do
  let controls ← len (getD manifest "controls".toList (.arr []))
  let mappings ← len (getD manifest "mappings".toList (.arr []))
  let summary ← jsonb (Json.ofItems [("controls".toList, Json.nat controls),
    ("mappings".toList, Json.nat mappings), ("version".toList, .str version)])
  let key ← varchar 64 key
  return ⟨orgId, key, action, "ok".toList, summary⟩

/-- The pack in the table: added, or in the place of the one it upgrades. -/
def Database.put (db : Database) (existing : Option CompliancePack) (pack : CompliancePack) :
    Database :=
  match existing with
  | none => { db with packs := db.packs ++ [pack], nextId := db.nextId + 1 }
  | some _ => { db with packs := db.packs.map fun p => if p.id = pack.id then pack else p }

/-- `PackError`, where there are errors. -/
def refuse (errors : List Text) : Except Failure Unit :=
  if errors = [] then .ok () else .error (.packError errors)

/-- `install_pack`: what is stored, and the pack it returns. -/
def installPack (db : Database) (orgId : Option Nat) (manifest : Json) (source : Option Text) :
    Except Failure (Database × CompliancePack) := do
  let errors ← validateManifest printer registry manifest
  let _ ← refuse errors
  let key := packKey printer manifest
  let _ ← refuse (ruleKeyCollisions printer db orgId key (postureRuleKeys manifest))
  let existing ← scalarOneOrNone (db.matching orgId key)
  let action := if existing.isNone then "install".toList else "upgrade".toList
  let pack := assignPack printer db orgId manifest source key existing
  let storedKey ← flushKey db orgId key existing
  let stored ← pack.flush
  let children ← materialize printer manifest
  let children ← children.flush
  let version ← CompliancePackVersion.flush ⟨pack.id, pack.version, pack.manifestSha, manifest⟩
  let run ← installRun orgId manifest key action pack.version
  let stored := { stored with
    packKey := storedKey
    controls := children.controls
    mappings := children.mappings
    evidenceRequirements := children.evidenceRequirements
    rules := children.rules }
  let db := db.put existing stored
  return ({ db with versions := db.versions ++ [version], runs := db.runs ++ [run] }, pack)

/-! ## `run_tests` -/

/-- `str(n)`. -/
def intText : Int → Text
  | .ofNat n => natText n
  | .negSucc n => '-' :: natText (n + 1)

/-- `s.split(op, 1)`, where `op in s`. -/
def splitOnce (op : Text) : Text → Option (Text × Text)
  | [] => none
  | c :: s =>
    if op <+: c :: s then some ([], (c :: s).drop op.length)
    else (splitOnce op s).map fun p => (c :: p.1, p.2)

def holds (op : Text) (value want : Int) : Bool :=
  if op = ">=".toList then want ≤ value
  else if op = "<=".toList then value ≤ want
  else if op = "==".toList then value = want
  else if op = ">".toList then want < value
  else value < want

/-- `_eval_assert`. -/
def evalAssert (expr : Text) (counts : List (Text × Nat)) : Bool × Text :=
  let split := [">=".toList, "<=".toList, "==".toList, ">".toList, "<".toList].findSome? fun op =>
    (splitOnce op expr).map fun p => (op, p)
  match split with
  | none => (false, "unrecognized assertion '".toList ++ expr ++ ['\''])
  | some (op, left, right) =>
    let key := strip left
    match pyInt (strip right) with
    | none => (false, "bad number in '".toList ++ expr ++ ['\''])
    | some want =>
      let value := (counts.lookup key).getD 0
      (holds op value want,
        key ++ '=' :: natText value ++ ' ' :: op ++ ' ' :: intText want)

def countKeys : List Text :=
  ["controls".toList, "mappings".toList, "evidence_requirements".toList, "rules".toList,
    "policy_templates".toList, "questionnaire_templates".toList, "connector_mappings".toList,
    "tests".toList]

def countOf (manifest : Json) (key : Text) : Except Failure (Text × Nat) :=
  (len (getD manifest key (.arr []))).map fun n => (key, n)

def packTestResult (counts : List (Text × Nat)) (t : Json) : Except Failure PackTestResult :=
  if !t.isDict then .error .attributeError
  else
    let outcome := evalAssert (printer.str (getD t "assert".toList (.str []))) counts
    .ok ⟨printer.str (getD t "key".toList (.str "test".toList)),
      if outcome.1 then "pass".toList else "fail".toList, outcome.2⟩

def PackTestResult.flush (t : PackTestResult) : Except Failure PackTestResult := do
  let testKey ← varchar 64 t.testKey
  let detail ← textColumn t.detail
  return { t with testKey, detail }

/-- `run_tests`; the results take the place of the pack's earlier ones. -/
def runTests (db : Database) (pack : CompliancePack) :
    Except Failure (Database × List PackTestResult) := do
  let counts ← countKeys.mapM (countOf pack.manifest)
  let tests ← iterate (getD pack.manifest "tests".toList (.arr []))
  let results ← tests.mapM (packTestResult printer counts)
  let stored ← results.mapM PackTestResult.flush
  let packs := db.packs.map fun p => if p.id = pack.id then { p with testResults := stored } else p
  return ({ db with packs }, results)

end Install

end Concord.Packs.Service
