import Concord.Governance.Datasets

/-!
# `import_rows`, row by row

`import_rows` of `ccf/governance/exporter.py` on the rows of a file, for every dataset. A row
is reported as skipped when it names nothing, when its id or a date does not parse, or when
there is nothing to tie a new row to. `_apply_fields` sets the columns one by one on the
object, so a date that does not parse leaves the columns before it set: on a new object that
is lost, on a stored one it is flushed with the rest.

`importRow_atomic_iff` says when a reported row leaves the session as it was, and
`rows_atomic_iff` says it for every row of a file. An atomic file stores what it stores
without its reported rows (`importRows_kept`).
-/

namespace Concord.Governance.Datasets

open Concord.Python
open Importer (Row Purpose Summary isNothing)

/-! ## Values of a file -/

/-- What is left to Python: `str` of a list or a dict, and `repr` of a text. -/
structure Interpreter where
  strOf : Json → Text
  repr : Text → Text

/-- `str(value)` of what is no text. -/
def Interpreter.str (py : Interpreter) : Json → Text
  | .null => "None".toList
  | .bool true => "True".toList
  | .bool false => "False".toList
  | .num n => n.text
  | value => py.strOf value

/-- `int(s) if s.isdigit() else None`; an error is the text of the `ValueError`. -/
def parseId (s : Text) : Except Text (Option Nat) :=
  if !s.isEmpty && s.all isDigit then
    if s.all isDecimal then
      if s.length ≤ 4300 then
        .ok (some (s.foldl (fun n c => 10 * n + decimalValue c) 0))
      else
        .error ("Exceeds the limit (4300 digits) for integer string conversion: value has ".toList
          ++ natText s.length ++
          " digits; use sys.set_int_max_str_digits() to increase the limit".toList)
    else
      .error ("invalid literal for int() with base 10: '".toList ++ s ++ "'".toList)
  else .ok none

example : parseId "²".toList =
    .error "invalid literal for int() with base 10: '²'".toList := by decide +kernel

/-- The library that the importer reads values with. -/
def Interpreter.lib (py : Interpreter) : Importer.Library where
  str := py.str
  fromisoformat := fun s => (Date.fromisoformat py.repr s).map fun d =>
    (ymdToOrd d.year d.month d.day : Int)
  parseId := parseId

/-- `_coerce_date`. -/
def Interpreter.coerceDate (py : Interpreter) (value : Json) : Except Text (Option Date) :=
  if isNothing value then .ok none
  else (Date.fromisoformat py.repr ((py.lib.text value).take 10)).map some

/-! ## `_apply_fields` -/

def Interpreter.textCell (py : Interpreter) (r : Row) (f : String) : Option (Option Text) :=
  (r.get f).map py.lib.clean

def Interpreter.dateCell (py : Interpreter) (r : Row) (f : String) :
    Except Text (Option (Option Date)) :=
  match r.get f with
  | none => .ok none
  | some value => (py.coerceDate value).map some

def Interpreter.applyTexts (py : Interpreter) (r : Row) : List String → Entity → Entity
  | [], e => e
  | f :: fs, e =>
    py.applyTexts r fs
      (match py.textCell r f with
      | some value => e.setText f value
      | none => e)

/-- The date columns: the first that does not parse raises, and what was set before stays. -/
def Interpreter.applyDates (py : Interpreter) (r : Row) :
    List String → Entity → Entity × Option Text
  | [], e => (e, none)
  | f :: fs, e =>
    match py.dateCell r f with
    | .error error => (e, some error)
    | .ok (some value) => py.applyDates r fs (e.setDate f value)
    | .ok none => py.applyDates r fs e

def Spec.textFields (spec : Spec) : List String := spec.strFields.map Column.name

/-- `_apply_fields`: the object, and what was raised. -/
def Interpreter.applyFields (py : Interpreter) (spec : Spec) (r : Row) (e : Entity) :
    Entity × Option Text :=
  match py.applyDates r spec.dateFields (py.applyTexts r spec.textFields e) with
  | (e', some error) => (e', some error)
  | (e', none) => (spec.rescore e', none)

/-! ## The loop -/

/-- What the loop works with: `owned_ids`, `system_id` and the organization of the caller. -/
structure Import where
  py : Interpreter
  spec : Spec
  owned : List Nat
  systemId : Option Nat
  orgId : Option Nat

/-- The objects of the session: the stored rows, and the new ones. -/
@[ext]
structure Objects where
  stored : List Entity
  added : List Entity

/-- What the summary says of a row. -/
inductive Outcome
  | created
  | updated
  | skipped (error : Text)

/-- A row is reported: it is counted as skipped and has its error. -/
def Outcome.reported : Outcome → Bool
  | .skipped _ => true
  | _ => false

def Import.purpose (c : Import) (r : Row) : Purpose :=
  if orElse ((r.get c.spec.required).bind c.py.lib.clean) none = none then
    .skipped ("missing required '".toList ++ c.spec.required.toList ++ "'".toList)
  else
    match parseId (c.py.lib.rawId r) with
    | .error error => .skipped error
    | .ok none => .opens
    | .ok (some id) => if id ∈ c.owned then .updates id else .opens

theorem purpose_of_blank {c : Import} {r : Row}
    (h : orElse ((r.get c.spec.required).bind c.py.lib.clean) none = none) :
    c.purpose r =
      .skipped ("missing required '".toList ++ c.spec.required.toList ++ "'".toList) := by
  rw [Import.purpose, if_pos h]

theorem purpose_of_owned {c : Import} {r : Row} {id : Nat}
    (hname : orElse ((r.get c.spec.required).bind c.py.lib.clean) none ≠ none)
    (hid : parseId (c.py.lib.rawId r) = .ok (some id)) (howned : id ∈ c.owned) :
    c.purpose r = .updates id := by
  rw [Import.purpose, if_neg hname, hid]
  exact if_pos howned

def Import.newLink (c : Import) : Except Text (Option Nat) :=
  match c.spec.link, c.systemId with
  | .system, none => .error "no system to attach to".toList
  | .system, some id => .ok (some id)
  | .org, _ => .ok c.orgId

def Import.raises (c : Import) (r : Row) : Option Text := (c.py.applyFields c.spec r blank).2

def Import.importRow (c : Import) (o : Objects) (r : Row) : Objects × Outcome :=
  match c.purpose r with
  | .skipped error => (o, .skipped error)
  | .updates id =>
    ({ o with
        stored := o.stored.map fun e =>
          if e.id = id then (c.py.applyFields c.spec r e).1 else e },
      match c.raises r with
      | some error => .skipped error
      | none => .updated)
  | .opens =>
    match c.py.applyFields c.spec r blank, c.newLink with
    | (_, some error), _ => (o, .skipped error)
    | (_, none), .error error => (o, .skipped error)
    | (e, none), .ok link => ({ o with added := o.added ++ [{ e with link := link }] }, .created)

/-- The summary after row number `n`. -/
def record (s : Summary) (n : Nat) : Outcome → Summary
  | .created => { s with created := s.created + 1 }
  | .updated => { s with updated := s.updated + 1 }
  | .skipped error => s.skip n error

/-- The loop, from row number `n` on. -/
def Import.loop (c : Import) : Objects → Summary → Nat → List Row → Objects × Summary
  | o, s, _, [] => (o, s)
  | o, s, n, r :: rs =>
    c.loop (c.importRow o r).1 (record s n (c.importRow o r).2) (n + 1) rs

/-- The flush: the stored objects are updated, the new ones inserted. An object that did not
change passes as it is. -/
def Objects.flush {spec : Spec} (o : Objects) (t : Table spec) : Option (Table spec) := do
  let t ← o.stored.foldlM Table.update t
  o.added.foldlM Table.insert t

/-- `import_rows` after `_parse_rows`, on the table of the dataset: a row that the database
refuses loses the file. -/
def Import.importRows (c : Import) (t : Table c.spec) (rows : List Row) :
    Option (Table c.spec × Summary) := do
  let (o, s) := c.loop ⟨t.rows, []⟩ {} 1 rows
  let t ← o.flush t
  return (t, { s with errors := s.errors.take 20 })

theorem importRows_eq_some {c : Import} {t t' : Table c.spec} {rows : List Row} {s' : Summary} :
    c.importRows t rows = some (t', s') ↔
      (c.loop ⟨t.rows, []⟩ {} 1 rows).1.flush t = some t' ∧
        { (c.loop ⟨t.rows, []⟩ {} 1 rows).2 with
          errors := (c.loop ⟨t.rows, []⟩ {} 1 rows).2.errors.take 20 } = s' := by
  unfold Import.importRows
  dsimp only
  cases Objects.flush (c.loop ⟨t.rows, []⟩ {} 1 rows).1 t with
  | none => exact ⟨fun h => (nomatch h), fun h => (nomatch h.1)⟩
  | some t₁ =>
    show some (t₁, _) = some (t', s') ↔ some t₁ = some t' ∧ _ = s'
    rw [Option.some.injEq, Prod.mk.injEq, Option.some.injEq]

/-! ## What a row does to an object -/

section Fields

variable {py : Interpreter} {r : Row} {fs : List String} {e : Entity}

/-- What a row sets a date column to; nothing if it does not parse. -/
def Interpreter.dateValue (py : Interpreter) (r : Row) (f : String) : Option (Option Date) :=
  match py.dateCell r f with
  | .error _ => none
  | .ok value => value

def Interpreter.dateParses (py : Interpreter) (r : Row) (f : String) : Bool :=
  (py.dateCell r f).isOk

theorem applyTexts_eq :
    py.applyTexts r fs e =
      { e with text := fun f =>
          if f ∈ fs then (py.textCell r f).getD (e.text f) else e.text f } := by
  induction fs generalizing e with
  | nil => rfl
  | cons g fs ih =>
    rw [Interpreter.applyTexts, ih]
    cases hg : py.textCell r g with
    | none =>
      refine Entity.ext rfl rfl (funext fun f => ?_) rfl rfl rfl
      by_cases hf : f = g
      · simp [hf, hg]
      · simp [hf]
    | some value =>
      refine Entity.ext rfl rfl (funext fun f => ?_) rfl rfl rfl
      by_cases hf : f = g
      · simp [hf, hg, Entity.setText]
      · simp [hf, Entity.setText]

/-- The date columns of an object after a row: those before the first that does not parse
are set. -/
theorem applyDates_fst :
    (py.applyDates r fs e).1 =
      { e with date := fun f =>
          if f ∈ fs.takeWhile (py.dateParses r) then (py.dateValue r f).getD (e.date f)
          else e.date f } := by
  induction fs generalizing e with
  | nil => rfl
  | cons g fs ih =>
    rw [Interpreter.applyDates]
    cases hg : py.dateCell r g with
    | error error =>
      have hbad : py.dateParses r g = false := by rw [Interpreter.dateParses, hg]; rfl
      rw [List.takeWhile_cons_of_neg (by simp [hbad])]
      rfl
    | ok value =>
      have hgood : py.dateParses r g = true := by rw [Interpreter.dateParses, hg]; rfl
      have hvalue : py.dateValue r g = value := by rw [Interpreter.dateValue, hg]
      rw [List.takeWhile_cons_of_pos hgood]
      cases value with
      | none =>
        refine ih.trans (Entity.ext rfl rfl rfl (funext fun f => ?_) rfl rfl)
        by_cases hf : f = g
        · simp [hf, hvalue]
        · simp [hf]
      | some date =>
        refine ih.trans (Entity.ext rfl rfl rfl (funext fun f => ?_) rfl rfl)
        by_cases hf : f = g
        · simp [hf, hvalue, Entity.setDate]
        · simp [hf, Entity.setDate]

theorem applyDates_isSome :
    ((py.applyDates r fs e).2.isSome = true) ↔ ∃ f ∈ fs, py.dateParses r f = false := by
  induction fs generalizing e with
  | nil => simp [Interpreter.applyDates]
  | cons g fs ih =>
    rw [Interpreter.applyDates]
    cases hg : py.dateCell r g with
    | error error =>
      have hbad : py.dateParses r g = false := by rw [Interpreter.dateParses, hg]; rfl
      exact ⟨fun _ => ⟨g, List.mem_cons_self, hbad⟩, fun _ => rfl⟩
    | ok value =>
      have hgood : py.dateParses r g = true := by rw [Interpreter.dateParses, hg]; rfl
      cases value <;> simp [ih, hgood]

theorem applyDates_snd (e e' : Entity) :
    (py.applyDates r fs e).2 = (py.applyDates r fs e').2 := by
  induction fs generalizing e e' with
  | nil => rfl
  | cons g fs ih =>
    rw [Interpreter.applyDates, Interpreter.applyDates]
    cases py.dateCell r g with
    | error error => rfl
    | ok value => cases value <;> exact ih _ _

theorem applyFields_snd (py : Interpreter) (spec : Spec) (r : Row) (e : Entity) :
    (py.applyFields spec r e).2 =
      (py.applyDates r spec.dateFields (py.applyTexts r spec.textFields e)).2 := by
  unfold Interpreter.applyFields
  split <;> rename_i h <;> rw [h]

theorem applyFields_raises (c : Import) (r : Row) (e : Entity) :
    (c.py.applyFields c.spec r e).2 = c.raises r := by
  rw [Import.raises, applyFields_snd, applyFields_snd]
  exact applyDates_snd _ _

theorem raises_isSome (c : Import) (r : Row) :
    (c.raises r).isSome = true ↔ ∃ f ∈ c.spec.dateFields, c.py.dateParses r f = false := by
  rw [Import.raises, applyFields_snd]
  exact applyDates_isSome

end Fields

/-! ## A row that is reported -/

/-- An object says already what a row sets on it before its first bad date. -/
structure Repeats (c : Import) (r : Row) (e : Entity) : Prop where
  texts : ∀ f ∈ c.spec.textFields, ∀ value, c.py.textCell r f = some value → e.text f = value
  dates : ∀ f ∈ c.spec.dateFields.takeWhile (c.py.dateParses r), ∀ value,
    c.py.dateValue r f = some value → e.date f = value

/-- A row with a bad date repeats what the stored row of its id says. -/
def Import.Harmless (c : Import) (o : Objects) (r : Row) : Prop :=
  ∀ id, c.purpose r = .updates id → (∃ f ∈ c.spec.dateFields, c.py.dateParses r f = false) →
    ∀ e ∈ o.stored, e.id = id → Repeats c r e

theorem getD_eq_self_iff {α : Type} {w : Option α} {v : α} :
    w.getD v = v ↔ ∀ u, w = some u → v = u := by
  cases w with
  | none => exact ⟨fun _ _ h => (nomatch h), fun _ => rfl⟩
  | some w =>
    constructor
    · intro h u hu
      rw [← h]
      exact Option.some.inj hu
    · exact fun h => (h w rfl).symm

theorem applyFields_eq_self_iff (c : Import) {r : Row} (hraises : (c.raises r).isSome = true)
    (e : Entity) : (c.py.applyFields c.spec r e).1 = e ↔ Repeats c r e := by
  have hfst : (c.py.applyFields c.spec r e).1 =
      (c.py.applyDates r c.spec.dateFields (c.py.applyTexts r c.spec.textFields e)).1 := by
    have hsnd := applyFields_snd c.py c.spec r e
    rw [applyFields_raises] at hsnd
    unfold Interpreter.applyFields
    split
    · rename_i h
      rw [h]
    · rename_i h
      rw [hsnd, h] at hraises
      cases hraises
  rw [hfst, applyDates_fst, applyTexts_eq]
  constructor
  · intro h
    constructor
    · intro f hf
      have hat := congrFun (congrArg Entity.text h) f
      dsimp only at hat
      rw [if_pos hf] at hat
      exact getD_eq_self_iff.mp hat
    · intro f hf
      have hat := congrFun (congrArg Entity.date h) f
      dsimp only at hat
      rw [if_pos hf] at hat
      exact getD_eq_self_iff.mp hat
  · intro h
    refine Entity.ext rfl rfl (funext fun f => ?_) (funext fun f => ?_) rfl rfl
    · dsimp only
      split
      · rename_i hf
        exact getD_eq_self_iff.mpr (h.texts f hf)
      · rfl
    · dsimp only
      split
      · rename_i hf
        exact getD_eq_self_iff.mpr (h.dates f hf)
      · rfl

theorem map_eq_self_iff {α : Type} {l : List α} {f : α → α} :
    l.map f = l ↔ ∀ a ∈ l, f a = a := by
  induction l with
  | nil => simp
  | cons a l ih => simp [ih]

/-- **A reported row leaves the session as it was just if it is harmless**: it names no
stored row, or no date of it is bad, or what it sets before the bad date is there already. -/
theorem importRow_atomic_iff (c : Import) (o : Objects) (r : Row) :
    ((c.importRow o r).2.reported = true → (c.importRow o r).1 = o) ↔ c.Harmless o r := by
  unfold Import.importRow Import.Harmless
  cases hp : c.purpose r with
  | skipped error => exact ⟨fun _ id h => (nomatch h), fun _ _ => rfl⟩
  | opens =>
    refine ⟨fun _ id h => (nomatch h), fun _ => ?_⟩
    cases c.py.applyFields c.spec r blank with
    | mk e error =>
      cases error with
      | some error => exact fun _ => rfl
      | none =>
        cases c.newLink with
        | error error => exact fun _ => rfl
        | ok link => exact fun h => nomatch h
  | updates id =>
    dsimp only
    cases hr : c.raises r with
    | none =>
      refine ⟨fun _ id' _ hbad => ?_, fun _ h => nomatch h⟩
      have := (raises_isSome c r).mpr hbad
      rw [hr] at this
      cases this
    | some error =>
      have hsome : (c.raises r).isSome = true := by rw [hr]; rfl
      constructor
      · intro h id' hid _ e he hei
        obtain rfl := Purpose.updates.inj hid
        have hmap := map_eq_self_iff.mp (congrArg Objects.stored (h rfl)) e he
        rw [if_pos hei] at hmap
        exact (applyFields_eq_self_iff c hsome e).mp hmap
      · intro h _
        refine Objects.ext (map_eq_self_iff.mpr fun e he => ?_) rfl
        split
        · rename_i hei
          have := h id rfl ((raises_isSome c r).mp hsome) e he hei
          exact (applyFields_eq_self_iff c hsome e).mpr this
        · rfl

/-! ## The rows of a file -/

section Run

variable {c : Import} {t : Table c.spec}

/-- The session and the summary after some rows of the file. -/
def Import.after (c : Import) (t : Table c.spec) (rows : List Row) : Objects × Summary :=
  c.loop ⟨t.rows, []⟩ {} 1 rows

/-- The summary has a row, after those before it, as skipped. -/
def Import.reports (c : Import) (t : Table c.spec) (before : List Row) (r : Row) : Prop :=
  (c.after t (before ++ [r])).2.skipped = (c.after t before).2.skipped + 1

theorem loop_append (o : Objects) (s : Summary) (n : Nat) (rs rs' : List Row) :
    c.loop o s n (rs ++ rs') =
      c.loop (c.loop o s n rs).1 (c.loop o s n rs).2 (n + rs.length) rs' := by
  induction rs generalizing o s n with
  | nil => rfl
  | cons r rs ih =>
    rw [List.cons_append, Import.loop, ih, List.length_cons, Nat.add_right_comm,
      Nat.add_assoc n, Import.loop]

theorem after_snoc (before : List Row) (r : Row) :
    c.after t (before ++ [r]) =
      ((c.importRow (c.after t before).1 r).1,
        record (c.after t before).2 (1 + before.length)
          (c.importRow (c.after t before).1 r).2) :=
  loop_append _ _ _ _ _

theorem record_skipped (s : Summary) (n : Nat) (outcome : Outcome) :
    (record s n outcome).skipped = s.skipped + 1 ↔ outcome.reported = true := by
  cases outcome with
  | created => exact ⟨fun h => absurd h (Nat.ne_of_lt (Nat.lt_succ_self _)), fun h => nomatch h⟩
  | updated => exact ⟨fun h => absurd h (Nat.ne_of_lt (Nat.lt_succ_self _)), fun h => nomatch h⟩
  | skipped error => exact ⟨fun _ => rfl, fun _ => rfl⟩

theorem reports_iff (before : List Row) (r : Row) :
    c.reports t before r ↔ (c.importRow (c.after t before).1 r).2.reported = true := by
  rw [Import.reports, after_snoc, record_skipped]

/-- Each row that is reported leaves the session as it was before that row. -/
def AtomicRows (c : Import) (t : Table c.spec) (rows : List Row) : Prop :=
  ∀ before r rest, rows = before ++ r :: rest → c.reports t before r →
    (c.after t (before ++ [r])).1 = (c.after t before).1

/-- **An import is atomic per row just if each of its rows is harmless** when its turn
comes. -/
theorem rows_atomic_iff (c : Import) (t : Table c.spec) (rows : List Row) :
    AtomicRows c t rows ↔
      ∀ before r rest, rows = before ++ r :: rest → c.Harmless (c.after t before).1 r := by
  refine forall_congr' fun before => forall_congr' fun r => forall_congr' fun rest =>
    imp_congr_right fun _ => ?_
  rw [reports_iff, after_snoc]
  exact importRow_atomic_iff c _ r

/-- What the summary says of a row: the objects have no say in it. -/
def Import.outcome (c : Import) (r : Row) : Outcome := (c.importRow ⟨[], []⟩ r).2

theorem importRow_snd (o : Objects) (r : Row) : (c.importRow o r).2 = c.outcome r := by
  unfold Import.outcome Import.importRow
  cases c.purpose r with
  | skipped error => rfl
  | updates id => rfl
  | opens =>
    cases c.py.applyFields c.spec r blank with
    | mk e error =>
      cases error with
      | some error => rfl
      | none => cases c.newLink <;> rfl

def Import.kept (c : Import) (rows : List Row) : List Row :=
  rows.filter fun r => !(c.outcome r).reported

theorem atomicRows_of_dates {rows : List Row}
    (h : ∀ r ∈ rows, ∀ f ∈ c.spec.dateFields, c.py.dateParses r f = true) :
    AtomicRows c t rows := by
  intro before r rest hrows hreports
  have hr : r ∈ rows := hrows ▸ List.mem_append_right _ List.mem_cons_self
  rw [after_snoc]
  refine (importRow_atomic_iff c _ r).mpr ?_ ((reports_iff before r).mp hreports)
  rintro id - ⟨f, hf, hbad⟩
  rw [h r hr f hf] at hbad
  cases hbad

theorem AtomicRows.init {before : List Row} {r : Row} (h : AtomicRows c t (before ++ [r])) :
    AtomicRows c t before := by
  intro before' r' rest hrows
  exact h before' r' (rest ++ [r]) (by rw [hrows, List.append_assoc, List.cons_append])

theorem after_kept {rows : List Row} (h : AtomicRows c t rows) :
    (c.after t rows).1 = (c.after t (c.kept rows)).1 := by
  induction rows using List.reverseRecOn with
  | nil => rfl
  | append_singleton rows r ih =>
    have hsplit : c.kept (rows ++ [r]) = c.kept rows ++ c.kept [r] := List.filter_append _ _
    by_cases hr : (c.outcome r).reported = true
    · have hreports : c.reports t rows r := by rw [reports_iff, importRow_snd]; exact hr
      have hnone : c.kept [r] = [] := by simp [Import.kept, hr]
      rw [h rows r [] rfl hreports, ih h.init, hsplit, hnone, List.append_nil]
    · have hone : c.kept [r] = [r] := by simp [Import.kept, hr]
      rw [after_snoc, hsplit, hone, after_snoc, ih h.init]

theorem importRows_kept {rows : List Row} (h : AtomicRows c t rows) :
    (c.importRows t rows).map Prod.fst = (c.importRows t (c.kept rows)).map Prod.fst := by
  have hrows := after_kept h
  unfold Import.after at hrows
  unfold Import.importRows
  dsimp only
  rw [hrows]
  cases Objects.flush (c.loop ⟨t.rows, []⟩ {} 1 (c.kept rows)).1 t <;> rfl

end Run

/-! ### A vendor that a reported row renames -/

def acme : Entity where
  id := 1
  link := some 1
  text := fun f =>
    if f = "name" then some "Acme".toList
    else if f = "criticality" then some "medium".toList
    else if f = "status" then some "active".toList
    else none
  date := fun _ => none
  inherentScore := none
  residualScore := none

theorem acme_fits : vendorSpec.accepts acme = true := by decide +kernel

def vendorTable : Table vendorSpec := .single acme acme_fits

def vendorImport : Import where
  py := { strOf := fun _ => [], repr := fun s => "'".toList ++ s ++ "'".toList }
  spec := vendorSpec
  owned := [1]
  systemId := none
  orgId := some 1

def renameRow : Row :=
  [("id".toList, .str "1".toList), ("name".toList, .str "Apex".toList),
   ("next_review_on".toList, .str "soon".toList)]

/-- The row is reported, nothing is counted as created or updated, and the vendor has its
name. -/
theorem reported_row_renames :
    ¬AtomicRows vendorImport vendorTable [renameRow] ∧
      (vendorImport.importRows vendorTable [renameRow]).map
          (fun result => (result.1.rows.map fun e => e.text "name",
            (result.2.created, result.2.updated, result.2.skipped))) =
        some ([some "Apex".toList], (0, 0, 1)) ∧
      (vendorTable.rows.map fun e => e.text "name") = [some "Acme".toList] := by
  refine ⟨fun h => ?_, by decide +kernel, by decide +kernel⟩
  have hreports : vendorImport.reports vendorTable [] renameRow := by
    unfold Import.reports
    decide +kernel
  have hsame := congrArg (fun o => o.stored.map fun e => e.text "name")
    (h [] renameRow [] rfl hreports)
  exact absurd hsame (by decide +kernel)

def namelessRow : Row := [("id".toList, .str "1".toList), ("criticality".toList, .str "low".toList)]

def apexRow : Row := [("id".toList, .str "1".toList), ("name".toList, .str "Apex".toList)]

theorem kept_apexRow :
    vendorImport.kept [namelessRow, apexRow] = [apexRow] ∧
      (vendorImport.importRows vendorTable [namelessRow, apexRow]).map Prod.fst =
        (vendorImport.importRows vendorTable
          (vendorImport.kept [namelessRow, apexRow])).map Prod.fst :=
  ⟨rfl, importRows_kept (atomicRows_of_dates (by decide +kernel))⟩

end Concord.Governance.Datasets
