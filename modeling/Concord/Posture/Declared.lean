import Concord.Base.Kleene
import Concord.Packs.Catalog
import Concord.Python.Equality

/-!
# Declared predicates

`evaluate_predicate` of `src/ccf/posture/declared.py`: a predicate of a pack on a row that a
provider returned, which may be any JSON. It is satisfied, violated, or the row cannot answer.

`evaluates_iff`: `intersects` builds two sets, which takes no lists and no dicts, and nothing
that `validate_predicate` checks is about the elements. `verdict_kept_iff`: a verdict stays when
more is known of the row, unless what is known makes `intersects` raise.
-/

namespace Concord.Posture.Declared

open Concord.Python Concord.Base
open Concord.Packs.Catalog (Printer ops composite typeName validatePredicate)

inductive EvaluationError
  | predicateError (text : Text)
  | typeError

/-- The loop of `resolve_path`. -/
def walk : Json → List Text → Json
  | current, [] => current
  | current, segment :: segments =>
    if current.isDict then walk ((current.get? segment).getD .null) segments else .null

/-- `resolve_path`; `null` is `None`. -/
def resolvePath (row : Json) (path : Text) : Json := walk row (path.splitOn '.')

/-- The `op`, if it is one. -/
def opOf (predicate : Json) : Option Text :=
  (predicate.get? "op".toList).bind fun op => op.str?.filter (· ∈ ops)

/-- `set(items)` can be built. -/
def toSet (items : List Json) : Except EvaluationError Unit :=
  if items.all Json.hashable then .ok () else .error .typeError

/-- `bool(set(items) & set(values))`. -/
def intersection (items values : List Json) : Except EvaluationError (Option Bool) := do
  toSet items
  toSet values
  return some (items.any fun item => values.any fun value => item.eq value)

section Evaluate

variable (printer : Printer)

/-- `_require`. -/
def requireKey (predicate : Json) (key : Text) : Except EvaluationError Json :=
  match predicate.get? key with
  | some value => .ok value
  | none => .error (.predicateError ("predicate ".toList ++
      printer.repr ((predicate.get? "op".toList).getD .null) ++ " requires ".toList ++
      printer.quote key))

/-- `contains`, of what is there. -/
def evaluateContains (predicate observed : Json) : Except EvaluationError (Option Bool) :=
  match observed with
  | .arr items =>
    (requireKey printer predicate "value".toList).map fun value =>
      some (items.any fun item => item.eq value)
  | _ => .ok none

/-- `intersects`, of what is there. -/
def evaluateIntersects (observed values : Json) : Except EvaluationError (Option Bool) :=
  match values with
  | .arr values =>
    match observed with
    | .arr items => intersection items values
    | _ => .ok none
  | _ => .error (.predicateError "'intersects' requires 'values' to be a list".toList)

/-- `_evaluate_membership`. -/
def evaluateMembership (op : Text) (predicate observed : Json) :
    Except EvaluationError (Option Bool) :=
  if op = "contains".toList then evaluateContains printer predicate observed
  else do
    let values ← requireKey printer predicate "values".toList
    evaluateIntersects observed values

/-- `_evaluate_value`. -/
def evaluateValue (op : Text) (predicate observed : Json) :
    Except EvaluationError (Option Bool) :=
  match observed with
  | .null => .ok none
  | observed =>
    if op = "truthy".toList then .ok (some observed.truthy)
    else if op = "falsy".toList then .ok (some !observed.truthy)
    else (requireKey printer predicate "value".toList).map fun value =>
      some (if op = "equals".toList then observed.eq value else !observed.eq value)

/-- `_MEMBERSHIP`. -/
def membership : List Text := ["contains".toList, "intersects".toList]

def evaluateLeaf (op : Text) (predicate observed : Json) :
    Except EvaluationError (Option Bool) :=
  if op ∈ membership then evaluateMembership printer op predicate observed
  else evaluateValue printer op predicate observed

/-- The verdict of `_evaluate_composite`, on those of the children. -/
def combine (op : Text) (results : List (Option Bool)) : Option Bool :=
  if op = "all_of".toList then Kleene.all results else Kleene.any results

/-- `evaluate_predicate`; the number is of the levels that may still be nested. -/
def evaluatePredicate (row : Json) : Nat → Json → Except EvaluationError (Option Bool)
  | 0, _ => .error (.predicateError "predicate nesting exceeds max depth of 8".toList)
  | levels + 1, predicate =>
    if !predicate.isDict then
      .error (.predicateError ("predicate must be an object, got ".toList ++ typeName predicate))
    else
      match opOf predicate with
      | none => .error (.predicateError ("unknown predicate op: ".toList ++
          printer.repr ((predicate.get? "op".toList).getD .null)))
      | some op =>
        if op ∈ composite then
          match predicate.get? "predicates".toList with
          | some (.arr (first :: rest)) => do
            let results ← (first :: rest).mapM (evaluatePredicate row levels)
            return combine op results
          | _ => .error (.predicateError (printer.quote op ++
              " requires a non-empty 'predicates' list".toList))
        else do
          let path ← requireKey printer predicate "path".toList
          evaluateLeaf printer op predicate (resolvePath row (printer.str path))

end Evaluate

/-! ## Parts of a predicate -/

/-- A predicate that is evaluated as part of another one. -/
inductive Part (leaf : Json) : Json → Prop
  | whole : Part leaf leaf
  | child {predicate child : Json} {op : Text} {children : List Json}
      (hop : opOf predicate = some op) (hcomposite : op ∈ composite)
      (hchildren : predicate.get? "predicates".toList = some (.arr children))
      (hchild : child ∈ children) (hpart : Part leaf child) : Part leaf predicate

def Reads (predicate : Json) (path : Text) : Prop :=
  ∃ leaf op, Part leaf predicate ∧ opOf leaf = some op ∧ op ∉ composite ∧
    leaf.get? "path".toList = some (.str path)

/-- Each `intersects` finds no list, or there is no list or dict in either of the two. -/
def Hashes (row predicate : Json) : Prop :=
  ∀ leaf, Part leaf predicate → opOf leaf = some "intersects".toList →
    ∀ path items values, leaf.get? "path".toList = some (.str path) →
      resolvePath row path = .arr items → leaf.get? "values".toList = some (.arr values) →
        ∀ value ∈ items ++ values, value.hashable = true

/-- The second row says what the first one says, wherever the predicate looks. -/
def LearnsMore (predicate row row' : Json) : Prop :=
  ∀ path, Reads predicate path → resolvePath row path ≠ .null →
    resolvePath row' path = resolvePath row path

/-! ## What is valid -/

section Valid

variable {printer : Printer} {levels : Nat} {place : Text} {predicate row row' : Json}

/-- A composite with its children, or a leaf with what its `op` requires. -/
inductive Shape (printer : Printer) (levels : Nat) (predicate : Json) (op : Text) : Prop
  | composite (first : Json) (rest : List Json) (hop : op ∈ composite)
      (hchildren : predicate.get? "predicates".toList = some (.arr (first :: rest)))
      (hvalid : ∀ child ∈ first :: rest,
        ∃ place, validatePredicate printer levels place child = [])
  | leaf (path : Text) (hop : op ∉ composite)
      (hpath : predicate.get? "path".toList = some (.str path))
      (hvalue : op ∈ ["equals".toList, "not_equals".toList, "contains".toList] →
        ∃ value, predicate.get? "value".toList = some value)
      (hvalues : op = "intersects".toList →
        ∃ values, predicate.get? "values".toList = some (.arr values))

theorem shape_of_valid (h : validatePredicate printer (levels + 1) place predicate = []) :
    predicate.isDict = true ∧ ∃ op, opOf predicate = some op ∧
      Shape printer levels predicate op := by
  rw [validatePredicate] at h
  split at h
  · cases h
  rename_i hdict
  refine ⟨by simpa using hdict, ?_⟩
  split at h
  · cases h
  rename_i op hop
  refine ⟨op, hop, ?_⟩
  split at h
  · rename_i hcomposite
    split at h
    · rename_i first rest hchildren
      refine .composite first rest hcomposite hchildren fun child hchild => ?_
      -- each child is checked under a place of its own
      obtain ⟨i, hi, rfl⟩ := List.mem_iff_getElem.mp hchild
      have hmem := List.mk_mem_zipIdx_iff_getElem?.mpr (List.getElem?_eq_getElem hi)
      exact ⟨_, List.flatMap_eq_nil_iff.mp h _ hmem⟩
    · cases h
  · rename_i hleaf
    rw [List.append_eq_nil_iff, List.append_eq_nil_iff] at h
    obtain ⟨⟨hpath, hvalue⟩, hvalues⟩ := h
    split at hpath
    · rename_i c path hget
      refine .leaf (c :: path) hleaf hget (fun hmem => ?_) fun hop => ?_
      · by_contra hnone
        rw [not_exists] at hnone
        rw [if_pos ⟨hmem, Option.eq_none_iff_forall_ne_some.mpr hnone⟩] at hvalue
        cases hvalue
      · rw [if_pos hop] at hvalues
        split at hvalues
        · rename_i values hget
          exact ⟨values, hget⟩
        · cases hvalues
    · cases hpath

/-! ## What raises -/

theorem toSet_iff {items : List Json} :
    Succeeds (toSet items) ↔ ∀ value ∈ items, value.hashable = true := by
  unfold toSet
  split
  · rename_i hall
    exact iff_of_true (succeeds_ok ()) (List.all_eq_true.mp hall)
  · rename_i hall
    exact iff_of_false (not_succeeds_error _) fun h => hall (List.all_eq_true.mpr h)

theorem intersection_iff {items values : List Json} :
    Succeeds (intersection items values) ↔ ∀ value ∈ items ++ values, value.hashable = true := by
  have hvalues : Succeeds (intersection items values) ↔
      Succeeds (toSet items) ∧ Succeeds (toSet values) := by
    refine succeeds_bind_and fun _ => ?_
    exact succeeds_bind_of fun _ _ => succeeds_pure _
  rw [hvalues, toSet_iff, toSet_iff, List.forall_mem_append]

/-- The two sets of an `intersects` can be built. -/
def SetsOf (op : Text) (predicate observed : Json) : Prop :=
  op = "intersects".toList → ∀ items values, observed = .arr items →
    predicate.get? "values".toList = some (.arr values) →
      ∀ value ∈ items ++ values, value.hashable = true

theorem requireKey_of_get? {key : Text} {value : Json} (h : predicate.get? key = some value) :
    requireKey printer predicate key = .ok value := by
  unfold requireKey
  rw [h]

theorem evaluateContains_succeeds (h : Succeeds (requireKey printer predicate "value".toList))
    (observed : Json) : Succeeds (evaluateContains printer predicate observed) := by
  cases observed with
  | arr items => exact succeeds_map.mpr h
  | _ => exact succeeds_ok none

theorem evaluateValue_succeeds {op : Text} (h : op = "truthy".toList ∨ op = "falsy".toList ∨
      Succeeds (requireKey printer predicate "value".toList)) (observed : Json) :
    Succeeds (evaluateValue printer op predicate observed) := by
  unfold evaluateValue
  split
  · exact succeeds_ok none
  · by_cases htruthy : op = "truthy".toList
    · rw [if_pos htruthy]
      exact succeeds_ok _
    · rw [if_neg htruthy]
      by_cases hfalsy : op = "falsy".toList
      · rw [if_pos hfalsy]
        exact succeeds_ok _
      · rw [if_neg hfalsy]
        exact succeeds_map.mpr ((h.resolve_left htruthy).resolve_left hfalsy)

theorem mem_ops_of_opOf {op : Text} (hop : opOf predicate = some op) : op ∈ ops := by
  obtain ⟨value, -, hfilter⟩ := Option.bind_eq_some_iff.mp hop
  exact of_decide_eq_true (Option.filter_eq_some_iff.mp hfilter).2

theorem evaluateLeaf_intersects {values : List Json} (observed : Json)
    (hget : predicate.get? "values".toList = some (.arr values)) :
    Succeeds (evaluateLeaf printer "intersects".toList predicate observed) ↔
      SetsOf "intersects".toList predicate observed := by
  have hleaf : evaluateLeaf printer "intersects".toList predicate observed =
      evaluateIntersects observed (.arr values) := by
    show (requireKey printer predicate "values".toList >>= evaluateIntersects observed) = _
    rw [requireKey_of_get? hget]
    rfl
  rw [hleaf, SetsOf, forall_prop_of_true rfl, hget]
  cases observed with
  | arr items =>
    show Succeeds (intersection items values) ↔ _
    rw [intersection_iff]
    constructor
    · rintro h items' values' hitems hvalues'
      obtain rfl := Json.arr.inj hitems
      obtain rfl := Json.arr.inj (Option.some.inj hvalues')
      exact h
    · exact fun h => h items values rfl rfl
  | _ => exact iff_of_true (succeeds_ok none) fun items values hitems => nomatch hitems

theorem evaluateLeaf_succeeds {op : Text} (hop : op ∈ ops) (hleaf : op ∉ composite)
    (hintersects : op ≠ "intersects".toList)
    (hrequired : op ∈ ["equals".toList, "not_equals".toList, "contains".toList] →
      Succeeds (requireKey printer predicate "value".toList)) (observed : Json) :
    Succeeds (evaluateLeaf printer op predicate observed) := by
  simp only [ops, composite, List.mem_cons, List.not_mem_nil, or_false, not_or] at hop hleaf
  unfold evaluateLeaf
  split
  · rename_i hmember
    obtain rfl : op = "contains".toList := by
      simp only [membership, List.mem_cons, List.not_mem_nil, or_false] at hmember
      exact hmember.resolve_right hintersects
    exact evaluateContains_succeeds (hrequired (by decide)) observed
  · rename_i hmember
    refine evaluateValue_succeeds ?_ observed
    obtain rfl | rfl | rfl | rfl | rfl | rfl | rfl | rfl := hop
    · exact .inl rfl
    · exact .inr (.inl rfl)
    · exact .inr (.inr (hrequired (by decide)))
    · exact .inr (.inr (hrequired (by decide)))
    · exact absurd (by decide) hmember
    · exact absurd rfl hintersects
    · exact absurd rfl hleaf.1
    · exact absurd rfl hleaf.2

theorem evaluateLeaf_iff {op : Text} (hop : opOf predicate = some op)
    (hshape : Shape printer levels predicate op) (hleaf : op ∉ composite) (observed : Json) :
    Succeeds (evaluateLeaf printer op predicate observed) ↔ SetsOf op predicate observed := by
  obtain ⟨_, _, hcomposite, _, _⟩ | ⟨path, -, hpath, hvalue, hvalues⟩ := hshape
  · exact absurd hcomposite hleaf
  by_cases hintersects : op = "intersects".toList
  · subst hintersects
    obtain ⟨values, hget⟩ := hvalues rfl
    exact evaluateLeaf_intersects observed hget
  · refine iff_of_true ?_ fun h => absurd h hintersects
    refine evaluateLeaf_succeeds (mem_ops_of_opOf hop) hleaf hintersects (fun hmem => ?_) observed
    obtain ⟨value, hget⟩ := hvalue hmem
    exact ⟨value, requireKey_of_get? hget⟩

/-! ## A predicate and its children -/

theorem part_composite {op : Text} {children : List Json} (hop : opOf predicate = some op)
    (hcomposite : op ∈ composite)
    (hchildren : predicate.get? "predicates".toList = some (.arr children)) {leaf : Json} :
    Part leaf predicate ↔ leaf = predicate ∨ ∃ child ∈ children, Part leaf child := by
  constructor
  · rintro (_ | ⟨-, -, hchildren', hchild, hpart⟩)
    · exact .inl rfl
    · obtain rfl := Json.arr.inj (Option.some.inj (hchildren.symm.trans hchildren'))
      exact .inr ⟨_, hchild, hpart⟩
  · rintro (rfl | ⟨child, hchild, hpart⟩)
    · exact .whole
    · exact .child hop hcomposite hchildren hchild hpart

theorem part_leaf {op : Text} (hop : opOf predicate = some op) (hleaf : op ∉ composite)
    {leaf : Json} : Part leaf predicate ↔ leaf = predicate := by
  constructor
  · rintro (_ | ⟨hop', hcomposite, -, -, -⟩)
    · rfl
    · obtain rfl := Option.some.inj (hop.symm.trans hop')
      exact absurd hcomposite hleaf
  · rintro rfl
    exact .whole

theorem hashes_composite {op : Text} {children : List Json} (hop : opOf predicate = some op)
    (hcomposite : op ∈ composite)
    (hchildren : predicate.get? "predicates".toList = some (.arr children)) :
    Hashes row predicate ↔ ∀ child ∈ children, Hashes row child := by
  constructor
  · intro h child hchild leaf hpart
    exact h leaf (.child hop hcomposite hchildren hchild hpart)
  · intro h leaf hpart hintersects
    obtain rfl | ⟨child, hchild, hpart⟩ := (part_composite hop hcomposite hchildren).mp hpart
    · obtain rfl := Option.some.inj (hop.symm.trans hintersects)
      exact absurd hcomposite (by decide)
    · exact h child hchild leaf hpart hintersects

theorem hashes_leaf {op path : Text} (hop : opOf predicate = some op) (hleaf : op ∉ composite)
    (hpath : predicate.get? "path".toList = some (.str path)) :
    Hashes row predicate ↔ SetsOf op predicate (resolvePath row path) := by
  constructor
  · rintro h rfl items values hitems hvalues
    exact h predicate .whole hop path items values hpath hitems hvalues
  · intro h leaf hpart hintersects path' items values hpath' hitems hvalues
    obtain rfl := (part_leaf hop hleaf).mp hpart
    obtain rfl := Json.str.inj (Option.some.inj (hpath.symm.trans hpath'))
    exact h (Option.some.inj (hop.symm.trans hintersects)) items values hitems hvalues

theorem evaluatePredicate_composite {op : Text} {first : Json} {rest : List Json}
    (hdict : predicate.isDict = true) (hop : opOf predicate = some op)
    (hcomposite : op ∈ composite)
    (hchildren : predicate.get? "predicates".toList = some (.arr (first :: rest))) :
    evaluatePredicate printer row (levels + 1) predicate =
      ((first :: rest).mapM (evaluatePredicate printer row levels)).map (combine op) := by
  rw [evaluatePredicate, hdict, hop]
  simp only [Bool.not_true, Bool.false_eq_true, if_false, if_pos hcomposite, hchildren]
  cases (first :: rest).mapM (evaluatePredicate printer row levels) <;> rfl

theorem evaluatePredicate_leaf {op path : Text} (hdict : predicate.isDict = true)
    (hop : opOf predicate = some op) (hleaf : op ∉ composite)
    (hpath : predicate.get? "path".toList = some (.str path)) :
    evaluatePredicate printer row (levels + 1) predicate =
      evaluateLeaf printer op predicate (resolvePath row path) := by
  rw [evaluatePredicate, hdict, hop]
  simp only [Bool.not_true, Bool.false_eq_true, if_false, if_neg hleaf,
    requireKey_of_get? hpath]
  rfl

theorem induction_of_valid {motive : Nat → Json → Prop}
    (hcomposite : ∀ levels predicate op first rest, predicate.isDict = true →
      opOf predicate = some op → op ∈ composite →
      predicate.get? "predicates".toList = some (.arr (first :: rest)) →
      (∀ child ∈ first :: rest, motive levels child) → motive (levels + 1) predicate)
    (hleaf : ∀ levels predicate op path, predicate.isDict = true →
      opOf predicate = some op → op ∉ composite →
      predicate.get? "path".toList = some (.str path) → Shape printer levels predicate op →
      motive (levels + 1) predicate)
    (h : validatePredicate printer levels place predicate = []) : motive levels predicate := by
  induction levels generalizing place predicate with
  | zero => cases h
  | succ levels ih =>
    obtain ⟨hdict, op, hop, hshape⟩ := shape_of_valid h
    cases hshape with
    | composite first rest hmem hchildren hvalid =>
      refine hcomposite levels predicate op first rest hdict hop hmem hchildren ?_
      intro child hchild
      obtain ⟨place', hvalid'⟩ := hvalid child hchild
      exact ih hvalid'
    | leaf path hmem hpath hvalue hvalues =>
      exact hleaf levels predicate op path hdict hop hmem hpath
        (.leaf path hmem hpath hvalue hvalues)

/-- **When a valid predicate evaluates**: exactly on the rows on which each `intersects` can
build its sets. -/
theorem evaluates_of_levels (h : validatePredicate printer levels place predicate = []) :
    Succeeds (evaluatePredicate printer row levels predicate) ↔ Hashes row predicate := by
  refine induction_of_valid (motive := fun levels predicate =>
    Succeeds (evaluatePredicate printer row levels predicate) ↔ Hashes row predicate) ?_ ?_ h
  · intro levels predicate op first rest hdict hop hcomposite hchildren ih
    rw [evaluatePredicate_composite hdict hop hcomposite hchildren, succeeds_map,
      succeeds_mapM, hashes_composite hop hcomposite hchildren]
    exact forall_congr' fun child => forall_congr' fun hchild => ih child hchild
  · intro levels predicate op path hdict hop hleaf hpath hshape
    rw [evaluatePredicate_leaf hdict hop hleaf hpath, hashes_leaf hop hleaf hpath]
    exact evaluateLeaf_iff hop hshape hleaf _

/-! ## What more is known -/

theorem evaluateLeaf_null {op : Text} {a : Option Bool}
    (h : evaluateLeaf printer op predicate .null = .ok a) : a = none := by
  unfold evaluateLeaf at h
  split at h
  · unfold evaluateMembership at h
    split at h
    · exact (Except.ok.inj h).symm
    · obtain ⟨values, -, h⟩ := bind_eq_ok.mp h
      cases values with
      | arr values => exact (Except.ok.inj h).symm
      | _ => cases h
  · exact (Except.ok.inj h).symm

theorem LearnsMore.child {op : Text} {child : Json} {children : List Json}
    (hmore : LearnsMore predicate row row') (hop : opOf predicate = some op)
    (hcomposite : op ∈ composite)
    (hchildren : predicate.get? "predicates".toList = some (.arr children))
    (hchild : child ∈ children) : LearnsMore child row row' := by
  rintro path ⟨leaf, op', hpart, hop', hleaf, hpath⟩ hnull
  have hpart' : Part leaf predicate := .child hop hcomposite hchildren hchild hpart
  exact hmore path ⟨leaf, op', hpart', hop', hleaf, hpath⟩ hnull

theorem settles_of_levels (h : validatePredicate printer levels place predicate = [])
    (hmore : LearnsMore predicate row row') {a b : Option Bool}
    (ha : evaluatePredicate printer row levels predicate = .ok a)
    (hb : evaluatePredicate printer row' levels predicate = .ok b) : Kleene.Settles a b := by
  refine induction_of_valid (motive := fun levels predicate =>
    LearnsMore predicate row row' → ∀ {a b : Option Bool},
      evaluatePredicate printer row levels predicate = .ok a →
      evaluatePredicate printer row' levels predicate = .ok b → Kleene.Settles a b)
    ?_ ?_ h hmore ha hb
  · intro levels predicate op first rest hdict hop hcomposite hchildren ih hmore a b ha hb
    rw [evaluatePredicate_composite hdict hop hcomposite hchildren] at ha hb
    obtain ⟨as, has, rfl⟩ := map_eq_ok.mp ha
    obtain ⟨bs, hbs, rfl⟩ := map_eq_ok.mp hb
    -- child by child, as each reads no more than the whole
    have hsettles : List.Forall₂ Kleene.Settles as bs := by
      refine forall₂_of_mapM (fun child hchild a b ha hb => ?_) has hbs
      exact ih child hchild (hmore.child hop hcomposite hchildren hchild) ha hb
    unfold combine
    split
    · exact Kleene.Settles.all hsettles
    · exact Kleene.Settles.any hsettles
  · intro levels predicate op path hdict hop hleaf hpath _ hmore a b ha hb
    rw [evaluatePredicate_leaf hdict hop hleaf hpath] at ha hb
    -- what is missing gives no verdict; what is there is the same in both rows
    by_cases hnull : resolvePath row path = .null
    · rw [hnull] at ha
      rw [evaluateLeaf_null ha]
      exact Kleene.settles_none b
    · have hreads : Reads predicate path := ⟨predicate, op, .whole, hop, hleaf, hpath⟩
      rw [hmore path hreads hnull, ha] at hb
      rw [Except.ok.inj hb]
      exact Kleene.settles_refl b

end Valid

/-! ## A list of lists -/

theorem blank_escapes (value : Json) : '\x00' ∉ (fun _ : Json => ([] : Text)) value :=
  List.not_mem_nil

def blank : Printer := ⟨fun _ => [], blank_escapes⟩

/-- `{"op": "intersects", "path": "tags", "values": ["prod"]}` -/
def tagged : Json :=
  .obj [("op".toList, .str "intersects".toList), ("path".toList, .str "tags".toList),
    ("values".toList, .arr [.str "prod".toList])]

/-- `{"op": "truthy", "path": "retired"}` -/
def retired : Json :=
  .obj [("op".toList, .str "truthy".toList), ("path".toList, .str "retired".toList)]

/-- `{"op": "any_of", "predicates": [retired, tagged]}` -/
def retiredOrTagged : Json :=
  .obj [("op".toList, .str "any_of".toList), ("predicates".toList, .arr [retired, tagged])]

theorem valid_tagged : validatePredicate blank 9 "predicate".toList tagged = [] := by decide

theorem valid_retiredOrTagged :
    validatePredicate blank 9 "predicate".toList retiredOrTagged = [] := by decide

theorem reads_retiredOrTagged {path : Text} (h : Reads retiredOrTagged path) :
    path = "retired".toList ∨ path = "tags".toList := by
  obtain ⟨leaf, op, hpart, hop, hleaf, hpath⟩ := h
  have hany : opOf retiredOrTagged = some "any_of".toList := by decide
  have htruthy : opOf retired = some "truthy".toList := by decide
  have hintersects : opOf tagged = some "intersects".toList := by decide
  obtain rfl | ⟨child, hchild, hpart⟩ := (part_composite hany (by decide) rfl).mp hpart
  · obtain rfl := Option.some.inj (hop.symm.trans hany)
    exact absurd (by decide) hleaf
  · obtain rfl | hchild := List.mem_cons.mp hchild
    · obtain rfl := (part_leaf htruthy (by decide)).mp hpart
      exact .inl (Json.str.inj (Option.some.inj hpath)).symm
    · obtain rfl := List.mem_singleton.mp hchild
      obtain rfl := (part_leaf hintersects (by decide)).mp hpart
      exact .inr (Json.str.inj (Option.some.inj hpath)).symm

section Main

variable {printer : Printer} {place : Text} {predicate row row' : Json}

/-- **Evaluation of a valid predicate.** Whatever row a provider returned, nothing is raised
exactly if no `intersects` finds a list while a list or dict is among the elements of that list
or of its own `values`. -/
theorem evaluates_iff (hvalid : validatePredicate printer 9 place predicate = []) :
    Succeeds (evaluatePredicate printer row 9 predicate) ↔ Hashes row predicate :=
  evaluates_of_levels hvalid

theorem tagged_evaluates :
    validatePredicate blank 9 "predicate".toList tagged = [] ∧
      (Succeeds (evaluatePredicate blank
          (.obj [("tags".toList, .arr [.str "prod".toList])]) 9 tagged) ↔
        Hashes (.obj [("tags".toList, .arr [.str "prod".toList])]) tagged) :=
  ⟨valid_tagged, evaluates_iff valid_tagged⟩

/-- The tags `[["prod"]]` make `set` raise. -/
theorem nested_tags_raise :
    validatePredicate blank 9 "predicate".toList tagged = [] ∧
      ¬Succeeds (evaluatePredicate blank
        (.obj [("tags".toList, .arr [.arr [.str "prod".toList]])]) 9 tagged) :=
  ⟨valid_tagged, not_succeeds_error EvaluationError.typeError⟩

/-- **What is learnt.** Where more is known of the row, a verdict is the same verdict, exactly
if there is one: nothing that is learnt is a list of lists under an `intersects`. -/
theorem verdict_kept_iff (hvalid : validatePredicate printer 9 place predicate = [])
    (hmore : LearnsMore predicate row row') {v : Bool}
    (hv : evaluatePredicate printer row 9 predicate = .ok (some v)) :
    evaluatePredicate printer row' 9 predicate = .ok (some v) ↔ Hashes row' predicate := by
  have hsucceeds : Succeeds (evaluatePredicate printer row' 9 predicate) ↔ Hashes row' predicate :=
    evaluates_of_levels hvalid
  rw [← hsucceeds]
  constructor
  · exact fun h => ⟨_, h⟩
  · rintro ⟨b, hb⟩
    rw [hb, settles_of_levels hvalid hmore hv hb v rfl]

theorem tags_learnt (tags : Json) : LearnsMore retiredOrTagged
    (.obj [("retired".toList, .bool true)])
    (.obj [("retired".toList, .bool true), ("tags".toList, tags)]) := by
  intro path hreads hnull
  obtain rfl | rfl := reads_retiredOrTagged hreads
  · rfl
  · exact absurd rfl hnull

theorem retired_verdict_kept :
    evaluatePredicate blank (.obj [("retired".toList, .bool true),
        ("tags".toList, .arr [.str "prod".toList])]) 9 retiredOrTagged = .ok (some true) ↔
      Hashes (.obj [("retired".toList, .bool true),
        ("tags".toList, .arr [.str "prod".toList])]) retiredOrTagged :=
  verdict_kept_iff valid_retiredOrTagged (tags_learnt _) rfl

/-- It is retired, whatever its tags, until these are read: `[["prod"]]` makes `set` raise. -/
theorem retired_verdict_lost :
    ¬∀ (printer : Printer) (place : Text) (predicate row row' : Json) (v : Bool),
      validatePredicate printer 9 place predicate = [] → LearnsMore predicate row row' →
        evaluatePredicate printer row 9 predicate = .ok (some v) →
          evaluatePredicate printer row' 9 predicate = .ok (some v) := by
  intro h
  have hkept := h blank "predicate".toList retiredOrTagged _ _ true valid_retiredOrTagged
    (tags_learnt (.arr [.arr [.str "prod".toList]])) rfl
  cases hkept

end Main

end Concord.Posture.Declared
