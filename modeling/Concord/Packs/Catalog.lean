import Concord.Base.Raises
import Concord.Python.JsonDict
import Concord.Python.KeyOrder
import Mathlib.Data.List.Infix
import Mathlib.Data.List.Sort

/-!
# Checking a pack manifest

`validate_manifest` of `ccf/packs/catalog.py`, with what it calls of `ccf/posture` and of
`ccf/catalog/canonical.py`. A manifest is any JSON. The registered checks are given
(`Registry`), and so is how the interpreter prints a value (`Printer`).

The module says that validation never raises. It does: a `controls` that is no container is
enumerated, and a list or an object is looked for in a set (`validateManifest_succeeds`).
-/

namespace Concord.Packs.Catalog

open Concord.Python Concord.Base

/-- `repr(value)`: whatever it prints, a control character is escaped. -/
structure Printer where
  repr : Json → Text
  escapes : ∀ value, '\x00' ∉ repr value

/-- `str(value)`. -/
def Printer.str (printer : Printer) : Json → Text
  | .str s => s
  | value => printer.repr value

/-- `{s!r}` of a string. -/
def Printer.quote (printer : Printer) (s : Text) : Text := printer.repr (.str s)

/-- `CHECK_REGISTRY` and `PARAMETERIZABLE`. -/
structure Registry where
  /-- `known_providers()` -/
  providers : List Text
  /-- `platform_check_keys()` -/
  platformKeys : List Text
  parameterizable : List (Text × List Text)

/-- What a call raises. -/
inductive Failure
  | typeError
  | keyError
  | attributeError
  | packError (errors : List Text)
  | multipleResults
  | dataError
  | integrityError

def join (items : List Text) : Text := List.intercalate ", ".toList items

def sorted (items : List Text) : List Text := items.dedup.insertionSort Json.keyLe

/-! ## `canonicalize` -/

/-- `CanonicalId`. -/
structure CanonicalId where
  value : Text
  family : Text
  number : Nat
  enhancements : List Nat
  deriving DecidableEq

/-- `0*\d{1,3}`, of a run of digits: at most three after leading zeros. -/
def threeDigits (digits : Text) : Option Nat :=
  if digits ≠ [] ∧ (digits.take (digits.length - 3)).all (· = '0') then
    some (digits.foldl (fun n c => 10 * n + decimalValue c) 0)
  else none

/-- `(?:\s*\(\s*0*\d{1,3}\s*\))*\s*$`, in at most that many groups. -/
def readEnhancements : Nat → Text → Option (List Nat)
  | 0, _ => none
  | groups + 1, s =>
    match lstrip s with
    | [] => some []
    | '(' :: rest =>
      let rest := lstrip rest
      match threeDigits (rest.takeWhile isDecimal), lstrip (rest.dropWhile isDecimal) with
      | some n, ')' :: rest => (readEnhancements groups rest).map (n :: ·)
      | _, _ => none
    | _ => none

/-- `canonicalize`. -/
def canonicalize (raw : Text) : Option CanonicalId :=
  match lstrip raw with
  | a :: b :: '-' :: rest =>
    if isAsciiLetter a && isAsciiLetter b then do
      let number ← threeDigits (rest.takeWhile isDecimal)
      let enhancements ← readEnhancements (rest.length + 1) (rest.dropWhile isDecimal)
      let family := [a.toUpper, b.toUpper]
      let value := family ++ '-' :: natText number ++
        enhancements.flatMap fun e => '(' :: natText e ++ [')']
      return ⟨value, family, number, enhancements⟩
    else none
  | _ => none

example : (canonicalize " ac-02 (1)".toList).map CanonicalId.value = some "AC-2(1)".toList := by
  decide

/-! ## The parts of a posture rule -/

section Validate

variable (printer : Printer) (registry : Registry)

/-- `_validate_control_ids`. -/
def validateControlIds (raw : Json) (place : Text) : List Text :=
  match raw with
  | .arr (first :: rest) => (first :: rest).filterMap fun cid =>
      if (cid.str?.bind canonicalize).isSome then none
      else some (place ++ " control id ".toList ++ printer.repr cid ++
        " is not a canonical 800-53 id (e.g. 'AC-2', 'AC-2(1)')".toList)
  | _ => [place ++ " requires a non-empty 'control_ids' list".toList]

/-- `type(value).__name__`. -/
def typeName : Json → Text
  | .null => "NoneType".toList
  | .bool _ => "bool".toList
  | .num n => if n.text.all fun c => c.isDigit || c = '-' then "int".toList else "float".toList
  | .str _ => "str".toList
  | .arr _ => "list".toList
  | .obj _ => "dict".toList

/-- `_positive_int_error`. -/
def positiveIntError (name : Text) (value : Json) : Option Text :=
  match value with
  | .num n =>
    if typeName value ≠ "int".toList then
      some ("parameter ".toList ++ printer.quote name ++ " must be an integer, got ".toList ++
        typeName value)
    else if n.first = '-' ∨ n.text.all (· = '0') then
      some ("parameter ".toList ++ printer.quote name ++
        " must be greater than zero, got ".toList ++ n.text)
    else none
  | _ => some ("parameter ".toList ++ printer.quote name ++ " must be an integer, got ".toList ++
      typeName value)

/-- `_VALIDATORS`: the parameters that must be positive. -/
def positiveInts : List Text := ["threshold_days".toList, "max_minutes".toList]

/-- `validate_parameters`. -/
def validateParameters (evaluatorKey : Text) (parameters : Json) : List Text :=
  match registry.parameterizable.lookup evaluatorKey with
  | none => ["unknown evaluator ".toList ++ printer.quote evaluatorKey]
  | some accepted =>
    match parameters with
    | .obj fields => fields.filterMap fun p =>
        if p.1 ∉ accepted then
          let allowed := if accepted = [] then "none".toList else join accepted
          some ("parameter ".toList ++ printer.quote p.1 ++ " is not accepted by ".toList ++
            printer.quote evaluatorKey ++ " (accepts: ".toList ++ allowed ++ [')'])
        else if p.1 ∈ positiveInts then positiveIntError printer p.1 p.2
        else none
    | _ => ["'parameters' must be an object".toList]

/-- `validate_endpoint`. -/
def validateEndpoint (raw : Json) : List Text :=
  match raw with
  | .str [] => ["'endpoint' must be a non-empty string".toList]
  | .str s =>
    if 512 < s.length then ["'endpoint' exceeds 512 characters".toList]
    else if ¬ ("/v1.0/".toList <+: s ∨ "/beta/".toList <+: s) then
      ["'endpoint' must start with '/v1.0/' or '/beta/'".toList]
    else if "//".toList <:+: s ∨ '@' ∈ s ∨ '\\' ∈ s ∨ "..".toList <:+: s then
      ["'endpoint' must be a plain relative Graph path (no '//', '@', '\\', or '..')".toList]
    else []
  | _ => ["'endpoint' must be a non-empty string".toList]

/-- `OPS`. -/
def ops : List Text :=
  ["truthy".toList, "falsy".toList, "equals".toList, "not_equals".toList, "contains".toList,
    "intersects".toList, "all_of".toList, "any_of".toList]

/-- `_COMPOSITE`. -/
def composite : List Text := ["all_of".toList, "any_of".toList]

/-- `validate_predicate`; the number is of the levels that may still be nested. -/
def validatePredicate : Nat → Text → Json → List Text
  | 0, place, _ => [place ++ " exceeds max nesting depth of 8".toList]
  | levels + 1, place, predicate =>
    if !predicate.isDict then [place ++ " must be an object".toList]
    else
      match (predicate.get? "op".toList).bind fun op => op.str?.filter (· ∈ ops) with
      | none => [place ++ " has unknown op ".toList ++
          printer.repr ((predicate.get? "op".toList).getD .null) ++ " (allowed: ".toList ++
          join (sorted ops) ++ [')']]
      | some op =>
        if op ∈ composite then
          match predicate.get? "predicates".toList with
          | some (.arr (first :: rest)) => (first :: rest).zipIdx.flatMap fun child =>
              validatePredicate levels
                (place ++ ".predicates[".toList ++ natText child.2 ++ [']']) child.1
          | _ => [place ++ ' ' :: printer.quote op ++
              " requires a non-empty 'predicates' list".toList]
        else
          (match predicate.get? "path".toList with
            | some (.str (_ :: _)) => []
            | _ => [place ++ ' ' :: printer.quote op ++ " requires a non-empty 'path'".toList]) ++
          (if op ∈ ["equals".toList, "not_equals".toList, "contains".toList] ∧
              predicate.get? "value".toList = none then
            [place ++ ' ' :: printer.quote op ++ " requires 'value'".toList] else []) ++
          (if op = "intersects".toList then
            match predicate.get? "values".toList with
            | some (.arr _) => []
            | _ => [place ++ " 'intersects' requires 'values' to be a list".toList]
          else [])

/-! ## A posture rule -/

/-- `value in names`, of a frozenset: the value is hashed first. -/
def memberOf (names : List Text) (value : Json) : Except Failure Bool :=
  match value with
  | .str s => .ok (s ∈ names)
  | .arr _ | .obj _ => .error .typeError
  | _ => .ok false

/-- `MODES`. -/
def modes : List Text := ["per_resource".toList, "any_row".toList]

/-- `_FORM_B_REQUIRED`. -/
def formBRequired : List Text :=
  ["provider".toList, "resource_type".toList, "endpoint".toList, "expected".toList,
    "control_ids".toList]

def validateFormA (definition : Json) (place : Text) : List Text :=
  (validateParameters printer registry
      (printer.str ((definition.get? "evaluator".toList).getD .null))
      ((definition.get? "parameters".toList).getD (.obj []))).map
    (fun e => place ++ ": ".toList ++ e) ++
  match definition.get? "control_ids".toList with
  | none => []
  | some raw => validateControlIds printer raw place

/-- `definition["provider"]`, where it is given. -/
def providerErrors (definition : Json) (place : Text) : Except Failure (List Text) :=
  match definition.get? "provider".toList with
  | none => .ok []
  | some provider => (memberOf registry.providers provider).map fun known =>
      if known then [] else
        [place ++ " has unknown provider ".toList ++ printer.repr provider ++
          " (allowed: ".toList ++ join (sorted registry.providers) ++ [')']]

def modeErrors (definition : Json) (place : Text) : Except Failure (List Text) :=
  let mode := (definition.get? "mode".toList).getD (.str "per_resource".toList)
  (memberOf modes mode).map fun known =>
    if known then [] else
      [place ++ " has unknown mode ".toList ++ printer.repr mode ++ " (allowed: ".toList ++
        join (sorted modes) ++ [')']]

def validateFormB (definition : Json) (place : Text) : Except Failure (List Text) := do
  let missing := formBRequired.filterMap fun field =>
    if definition.get? field = none then some (place ++ " requires ".toList ++ printer.quote field)
    else none
  let endpoint := match definition.get? "endpoint".toList with
    | none => []
    | some raw => (validateEndpoint raw).map fun e => place ++ ": ".toList ++ e
  let provider ← providerErrors printer registry definition place
  let mode ← modeErrors printer definition place
  let controlIds := match definition.get? "control_ids".toList with
    | none => []
    | some raw => validateControlIds printer raw place
  let predicate := (validatePredicate printer 9 "predicate".toList
    ((definition.get? "predicate".toList).getD .null)).map fun e => place ++ ": ".toList ++ e
  return missing ++ endpoint ++ provider ++ mode ++ controlIds ++ predicate

/-- The errors so far, and the keys seen. -/
structure RuleErrors where
  errors : List Text
  seen : List Text

/-- `validate_posture_rule`, of an object. -/
def validatePostureRule (rule : Json) (out : RuleErrors) : Except Failure RuleErrors :=
  match rule.get? "key".toList with
  | some (.str (c :: cs)) =>
    let key := c :: cs
    let place := "posture rule ".toList ++ printer.quote key
    let taken :=
      (if key ∈ registry.platformKeys then
        [place ++ " collides with the platform check ".toList ++ printer.quote key ++
          "; choose a distinct key rather than overriding a platform check".toList] else []) ++
      (if key ∈ out.seen then
        [place ++ " is a duplicate key within this manifest".toList] else [])
    let out : RuleErrors := ⟨out.errors ++ taken, out.seen ++ [key]⟩
    let add := fun errors => { out with errors := out.errors ++ errors }
    let definition := (rule.get? "definition".toList).getD .null
    if !definition.isDict then .ok (add [place ++ " 'definition' must be an object".toList])
    else if (definition.get? "evaluator".toList).isSome =
        (definition.get? "predicate".toList).isSome then
      .ok (add [place ++ (" must supply exactly one of 'evaluator' (a platform check to " ++
        "parameterize) or 'predicate' (a declarative check)").toList])
    else if (definition.get? "evaluator".toList).isSome then
      .ok (add (validateFormA printer registry definition place))
    else (validateFormB printer registry definition place).map add
  | _ => .ok { out with errors := out.errors ++
      ["posture rule requires a non-empty 'key'".toList] }

/-- `isinstance(rule, dict) and rule.get("kind") == "posture"`. -/
def isPosture (rule : Json) : Bool :=
  ((rule.get? "kind".toList).bind Json.str?) = some "posture".toList

/-! ## `validate_manifest` -/

/-- `_REQUIRED`, but for `controls`. -/
def requiredTexts : List Text :=
  ["id".toList, "name".toList, "version".toList, "schema_version".toList]

/-- `_LIST_KEYS`. -/
def listKeys : List Text :=
  ["controls".toList, "mappings".toList, "evidence_requirements".toList, "rules".toList,
    "policy_templates".toList, "questionnaire_templates".toList, "connector_mappings".toList,
    "dashboard_cards".toList, "tests".toList]

/-- What a `for` takes out of a value. -/
def iterate : Json → Except Failure (List Json)
  | .arr items => .ok items
  | .str s => .ok (s.map fun c => .str [c])
  | .obj fields => .ok (fields.map fun f => .str f.1)
  | _ => .error .typeError

def missingKey (key : Text) : Text := "missing required key '".toList ++ key ++ ['\'']

def requiredErrors (manifest : Json) : List Text :=
  (requiredTexts.flatMap fun key =>
    match manifest.get? key with
    | none => [missingKey key]
    | some (.str _) => []
    | some _ => ["key '".toList ++ key ++ "' must be str".toList]) ++
  match manifest.get? "controls".toList with
  | none => [missingKey "controls".toList]
  | some (.arr _) => []
  | some _ => ["key 'controls' must be list".toList]

def listErrors (manifest : Json) : List Text :=
  listKeys.flatMap fun key =>
    match manifest.get? key with
    | none | some (.arr _) => []
    | some _ => ["key '".toList ++ key ++ "' must be a list".toList]

def controlErrors (controls : List Json) : List Text :=
  controls.zipIdx.filterMap fun ctl =>
    if ctl.1.isDict && (ctl.1.get? "control_id".toList).isSome then none
    else some ("controls[".toList ++ natText ctl.2 ++
      "] must be an object with 'control_id'".toList)

/-- `validate_manifest`: the errors, none where the manifest is accepted. -/
def validateManifest (manifest : Json) : Except Failure (List Text) :=
  if !manifest.isDict then .ok ["manifest must be a JSON object".toList]
  else do
    let controls ← iterate ((manifest.get? "controls".toList).getD (.arr []))
    let empty := match manifest.get? "controls".toList with
      | some (.arr []) => ["pack must define at least one control".toList]
      | _ => []
    let rules := Json.listOrEmpty (manifest.get? "rules".toList)
    let out ← (rules.filter isPosture).foldlM
      (fun out rule => validatePostureRule printer registry rule out) ⟨[], []⟩
    return requiredErrors manifest ++ listErrors manifest ++ controlErrors controls ++ empty ++
      out.errors

/-! ## Where it raises -/

/-- `hash(value)` is defined. -/
def hashable : Json → Bool
  | .arr _ | .obj _ => false
  | _ => true

/-- A `for` takes something out of the value. -/
def iterable : Json → Bool
  | .arr _ | .str _ | .obj _ => true
  | _ => false

/-- A rule of form B names its provider and its mode by a value that can be looked for. -/
def ReadableRule (rule : Json) : Prop :=
  ∀ key definition, rule.get? "key".toList = some (.str key) → key ≠ [] →
    rule.get? "definition".toList = some definition →
    definition.get? "evaluator".toList = none →
    (definition.get? "predicate".toList).isSome = true →
    ∀ field ∈ ["provider".toList, "mode".toList], ∀ value, definition.get? field = some value →
      hashable value = true

/-- A manifest that is read to its end. -/
structure Readable (manifest : Json) : Prop where
  controls : ∀ value, manifest.get? "controls".toList = some value → iterable value = true
  rules : ∀ rule ∈ Json.listOrEmpty (manifest.get? "rules".toList), isPosture rule = true →
    ReadableRule rule

theorem memberOf_succeeds (names : List Text) (value : Json) :
    Succeeds (memberOf names value) ↔ hashable value = true := by
  cases value with
  | arr items => exact iff_of_false (not_succeeds_error _) (by simp [hashable])
  | obj fields => exact iff_of_false (not_succeeds_error _) (by simp [hashable])
  | _ => exact iff_of_true (succeeds_ok _) rfl

theorem iterate_succeeds (value : Json) : Succeeds (iterate value) ↔ iterable value = true := by
  cases value with
  | null => exact iff_of_false (not_succeeds_error _) (by decide)
  | bool b => exact iff_of_false (not_succeeds_error _) (by simp [iterable])
  | num n => exact iff_of_false (not_succeeds_error _) (by simp [iterable])
  | _ => exact iff_of_true (succeeds_ok _) rfl

theorem providerErrors_succeeds (definition : Json) (place : Text) :
    Succeeds (providerErrors printer registry definition place) ↔
      ∀ value, definition.get? "provider".toList = some value → hashable value = true := by
  unfold providerErrors
  cases definition.get? "provider".toList with
  | none => exact iff_of_true (succeeds_ok _) fun value h => nomatch h
  | some provider =>
    rw [succeeds_map, memberOf_succeeds]
    exact ⟨fun h value hv => (Option.some.inj hv) ▸ h, fun h => h provider rfl⟩

theorem modeErrors_succeeds (definition : Json) (place : Text) :
    Succeeds (modeErrors printer definition place) ↔
      ∀ value, definition.get? "mode".toList = some value → hashable value = true := by
  unfold modeErrors
  rw [succeeds_map, memberOf_succeeds]
  cases definition.get? "mode".toList with
  | none => exact iff_of_true rfl fun value h => nomatch h
  | some mode => exact ⟨fun h value hv => (Option.some.inj hv) ▸ h, fun h => h mode rfl⟩

theorem validateFormB_succeeds (definition : Json) (place : Text) :
    Succeeds (validateFormB printer registry definition place) ↔
      ∀ field ∈ ["provider".toList, "mode".toList], ∀ value,
        definition.get? field = some value → hashable value = true := by
  simp only [List.mem_cons, List.not_mem_nil, or_false, forall_eq_or_imp, forall_eq]
  rw [← providerErrors_succeeds printer registry definition place,
    ← modeErrors_succeeds printer definition place]
  unfold validateFormB
  rw [succeeds_bind]
  constructor
  · rintro ⟨errors, hprovider, hrest⟩
    exact ⟨⟨errors, hprovider⟩, (succeeds_bind_of fun _ _ => succeeds_pure _).mp hrest⟩
  · rintro ⟨⟨errors, hprovider⟩, hmode⟩
    exact ⟨errors, hprovider, (succeeds_bind_of fun _ _ => succeeds_pure _).mpr hmode⟩

theorem readableRule_iff {rule definition : Json} {key : Text} (hkey : key ≠ [])
    (hget : rule.get? "key".toList = some (.str key))
    (hdef : rule.get? "definition".toList = some definition) :
    ReadableRule rule ↔ (definition.get? "evaluator".toList = none →
      (definition.get? "predicate".toList).isSome = true →
      ∀ field ∈ ["provider".toList, "mode".toList], ∀ value,
        definition.get? field = some value → hashable value = true) := by
  unfold ReadableRule
  constructor
  · exact fun h => h key definition hget hkey hdef
  · rintro h key' definition' - - hdef'
    obtain rfl := Option.some.inj (hdef.symm.trans hdef')
    exact h

/-- **A posture rule** is checked to its end just where its fields can be looked for, whatever
was seen before it. -/
theorem validatePostureRule_succeeds (rule : Json) (out : RuleErrors) :
    Succeeds (validatePostureRule printer registry rule out) ↔ ReadableRule rule := by
  unfold validatePostureRule
  cases hkey : rule.get? "key".toList with
  | none =>
    refine iff_of_true (succeeds_ok _) fun key definition h => ?_
    cases hkey.symm.trans h
  | some key =>
    cases key with
    | str key =>
      cases key with
      | nil =>
        refine iff_of_true (succeeds_ok _) fun key definition h hne => ?_
        exact absurd (Json.str.inj (Option.some.inj (hkey.symm.trans h))).symm hne
      | cons c cs =>
        dsimp only
        cases hdef : rule.get? "definition".toList with
        | none =>
          refine iff_of_true (succeeds_ok _) fun key definition _ _ h => ?_
          cases hdef.symm.trans h
        | some definition =>
          rw [Option.getD_some, readableRule_iff (List.cons_ne_nil c cs) hkey hdef]
          by_cases hdict : definition.isDict = true
          · rw [hdict, if_neg (by decide)]
            cases hevaluator : definition.get? "evaluator".toList with
            | some evaluator =>
              refine iff_of_true ?_ fun h => nomatch h
              split
              · exact succeeds_ok _
              · exact succeeds_ok _
            | none =>
              cases hpredicate : definition.get? "predicate".toList with
              | none => exact iff_of_true (succeeds_ok _) fun _ h => nomatch h
              | some predicate =>
                rw [if_neg (by simp), if_neg (by simp), succeeds_map, validateFormB_succeeds]
                exact ⟨fun h _ _ => h, fun h => h rfl rfl⟩
          · have hdict : definition.isDict = false := by simpa using hdict
            rw [hdict, if_pos (by decide)]
            refine iff_of_true (succeeds_ok _) fun _ hpredicate => ?_
            obtain ⟨predicate, hpredicate⟩ := Option.isSome_iff_exists.mp hpredicate
            rw [Json.isDict_of_get? hpredicate] at hdict
            cases hdict
    | _ =>
      refine iff_of_true (succeeds_ok _) fun key definition h => ?_
      cases hkey.symm.trans h

/-- **Where `validate_manifest` returns**: of any JSON. -/
theorem validateManifest_succeeds (manifest : Json) :
    Succeeds (validateManifest printer registry manifest) ↔ Readable manifest := by
  unfold validateManifest
  by_cases hdict : manifest.isDict = true
  · rw [hdict, if_neg (by decide)]
    have hcontrols : Succeeds (iterate ((manifest.get? "controls".toList).getD (.arr []))) ↔
        ∀ value, manifest.get? "controls".toList = some value → iterable value = true := by
      rw [iterate_succeeds]
      cases manifest.get? "controls".toList with
      | none => exact iff_of_true rfl fun value h => nomatch h
      | some controls => exact ⟨fun h value hv => (Option.some.inj hv) ▸ h, fun h => h controls rfl⟩
    have hrules : ∀ out, Succeeds
          (((Json.listOrEmpty (manifest.get? "rules".toList)).filter isPosture).foldlM
            (fun out rule => validatePostureRule printer registry rule out) out) ↔
        ∀ rule ∈ (Json.listOrEmpty (manifest.get? "rules".toList)).filter isPosture,
          ReadableRule rule :=
      succeeds_foldlM fun rule _ out => validatePostureRule_succeeds printer registry rule out
    rw [succeeds_bind]
    dsimp only
    constructor
    · rintro ⟨controls, hiterate, hrest⟩
      refine ⟨hcontrols.mp ⟨controls, hiterate⟩, fun rule hrule hposture => ?_⟩
      obtain ⟨out, hout, -⟩ := succeeds_bind.mp hrest
      exact (hrules _).mp ⟨out, hout⟩ rule (List.mem_filter.mpr ⟨hrule, hposture⟩)
    · intro h
      obtain ⟨controls, hiterate⟩ := hcontrols.mpr h.controls
      refine ⟨controls, hiterate, succeeds_bind.mpr ?_⟩
      obtain ⟨out, hout⟩ := (hrules ⟨[], []⟩).mpr fun rule hrule =>
        h.rules rule (List.mem_filter.mp hrule).1 (List.mem_filter.mp hrule).2
      exact ⟨out, hout, succeeds_pure _⟩
  · have hdict : manifest.isDict = false := by simpa using hdict
    rw [hdict, if_pos (by decide)]
    have hnone : ∀ key, manifest.get? key = none := by
      intro key
      cases h : manifest.get? key with
      | none => rfl
      | some value =>
        rw [Json.isDict_of_get? h] at hdict
        cases hdict
    refine iff_of_true (succeeds_ok _) ⟨fun value h => ?_, fun rule hrule => ?_⟩
    · rw [hnone] at h
      cases h
    · rw [hnone] at hrule
      cases hrule

/-! ## What is accepted -/

/-- What the installer may rely on. -/
structure Shape (manifest : Json) : Prop where
  dict : manifest.isDict = true
  texts : ∀ key ∈ requiredTexts, ∃ s, manifest.get? key = some (.str s)
  lists : ∀ key ∈ listKeys, (manifest.get? key).getD (.arr []) =
    .arr (Json.listOrEmpty (manifest.get? key))
  controls : ∀ c ∈ Json.listOrEmpty (manifest.get? "controls".toList),
    c.isDict = true ∧ (c.get? "control_id".toList).isSome = true

theorem shape_of_accepted {manifest : Json}
    (h : validateManifest printer registry manifest = .ok []) : Shape manifest := by
  unfold validateManifest at h
  by_cases hdict : manifest.isDict = true
  · rw [hdict, if_neg (by decide)] at h
    obtain ⟨controls, hiterate, h⟩ := bind_eq_ok.mp h
    obtain ⟨out, -, h⟩ := bind_eq_ok.mp h
    have herrors := Except.ok.inj h
    simp only [List.append_eq_nil_iff] at herrors
    obtain ⟨⟨⟨⟨hrequired, hlists⟩, hcontrols⟩, -⟩, -⟩ := herrors
    have hlist : ∀ key ∈ listKeys, (manifest.get? key).getD (.arr []) =
        .arr (Json.listOrEmpty (manifest.get? key)) := by
      intro key hkey
      have hnone := List.flatMap_eq_nil_iff.mp hlists key hkey
      cases hget : manifest.get? key with
      | none => rfl
      | some value =>
        rw [hget] at hnone
        cases value with
        | arr items => rfl
        | _ => cases hnone
    refine ⟨hdict, fun key hkey => ?_, hlist, fun c hc => ?_⟩
    · unfold requiredErrors at hrequired
      have hnone := List.flatMap_eq_nil_iff.mp (List.append_eq_nil_iff.mp hrequired).1 key hkey
      cases hget : manifest.get? key with
      | none =>
        rw [hget] at hnone
        cases hnone
      | some value =>
        rw [hget] at hnone
        cases value with
        | str s => exact ⟨s, rfl⟩
        | _ => cases hnone
    · rw [hlist "controls".toList (by decide)] at hiterate
      obtain rfl := Except.ok.inj hiterate
      obtain ⟨i, hi⟩ := List.getElem?_of_mem hc
      have hnone := List.filterMap_eq_nil_iff.mp hcontrols (c, i)
        (List.mk_mem_zipIdx_iff_getElem?.mpr hi)
      by_contra hbad
      rw [← Bool.and_eq_true] at hbad
      rw [if_neg hbad] at hnone
      cases hnone
  · have hdict : manifest.isDict = false := by simpa using hdict
    rw [hdict, if_pos (by decide)] at h
    cases h

end Validate

end Concord.Packs.Catalog
