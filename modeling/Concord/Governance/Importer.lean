import Concord.Governance.Poams

/-!
# Importing POA&Ms

`import_rows` of `ccf/governance/exporter.py` for the `poams` dataset, on the rows that
`_parse_rows` returns. A row that names an id of the caller's organization changes that
POA&M, any other one opens a POA&M; the whole file is flushed at the end. No gate is
asked, and neither the owner nor the rationale is among the columns.

`importRows_eq_some` is the whole effect: each cell of a POA&M is the last one the file has
for it.
-/

namespace Concord.Governance.Importer

open Concord.Python Concord.Base

abbrev Row := List (Text × Json)

/-- What is used of Python's library: `str` of what is no string, `date.fromisoformat`,
and `int(s) if s.isdigit() else None`; an error is the text of the `ValueError`. -/
structure Library where
  str : Json → Text
  fromisoformat : Text → Except Text Int
  parseId : Text → Except Text (Option Nat)

/-- The status a column value stands for, if it is one of the enumeration. -/
def parsePoamStatus (t : Text) : Option PoamStatus :=
  poamStatuses.find? fun s => s.text = t

def parseSeverity (t : Text) : Option Severity :=
  severities.find? fun s => s.text = t

/-- `row.get(key)`. -/
def Row.get (r : Row) (key : String) : Option Json :=
  (r.find? fun cell => cell.1 = key.toList).map Prod.snd

/-- `value in (None, "", "None")`. -/
def isNothing : Json → Bool
  | .null => true
  | .str s => decide (s = [] ∨ s = "None".toList)
  | _ => false

/-- `str(value)`. -/
def Library.text (lib : Library) : Json → Text
  | .str s => s
  | value => lib.str value

/-- `_clean`. -/
def Library.clean (lib : Library) (value : Json) : Option Text :=
  if isNothing value then none else some (strip (lib.text value))

/-- `_coerce_date`. -/
def Library.coerceDate (lib : Library) (value : Json) : Except Text (Option Int) :=
  if isNothing value then .ok none
  else (lib.fromisoformat ((lib.text value).take 10)).map some

/-- A number that is falsy: it has no digit but zeros. -/
def isZero (n : Number) : Bool :=
  (n.text.takeWhile fun c => c ≠ 'e').all fun c => c = '0' ∨ c = '.' ∨ c = '-'

/-- `bool(value)`. -/
def truthy : Json → Bool
  | .null => false
  | .bool b => b
  | .num n => !isZero n
  | .str s => !s.isEmpty
  | .arr items => !items.isEmpty
  | .obj fields => !fields.isEmpty

/-- `str(row.get("id") or "").strip()`. -/
def Library.rawId (lib : Library) (r : Row) : Text :=
  match r.get "id" with
  | none => []
  | some value => if truthy value then strip (lib.text value) else []

/-! ## One row -/

/-- A POA&M with what was set on it: the two enumerations are texts until the flush, and
`None` is a value. -/
structure Draft where
  poam : Poam
  severity : Option Text
  status : Option Text

def draftOf (p : Poam) : Draft := ⟨p, some p.severity.text, some p.status.text⟩

/-- `POAM()`. -/
def blank : Draft where
  poam :=
    { id := 0, systemId := 0, controlId := none, title := [], weakness := none,
      severity := .moderate, status := .opened, identifiedOn := none, dueOn := none,
      closedOn := none, ownerUserId := none, source := none, pointOfContact := none,
      remediationPlan := none, remediationPlanSource := .analyst, resourcesRequired := none,
      costEstimate := none, scheduledCompletion := none, originalDueOn := none,
      riskId := none, vendorId := none, sourceRef := none, acceptanceRationale := none,
      milestones := [] }
  severity := none
  status := none

/-- What a row sets a string column to: nothing, or a text, or null. -/
def Library.cell (lib : Library) (r : Row) (key : String) : Option (Option Text) :=
  (r.get key).map lib.clean

def Library.dateCell (lib : Library) (r : Row) (key : String) :
    Except Text (Option (Option Int)) :=
  match r.get key with
  | none => .ok none
  | some value => (lib.coerceDate value).map some

/-- The string columns of `_apply_fields`. The title is not null where it is called. -/
def Library.applyTexts (lib : Library) (r : Row) (d : Draft) : Draft where
  poam :=
    { d.poam with
      title := ((lib.cell r "title").getD none).getD d.poam.title
      source := (lib.cell r "source").getD d.poam.source
      pointOfContact := (lib.cell r "point_of_contact").getD d.poam.pointOfContact }
  severity := (lib.cell r "severity").getD d.severity
  status := (lib.cell r "status").getD d.status

def setIdentified (w : Option (Option Int)) (d : Draft) : Draft :=
  { d with poam := { d.poam with identifiedOn := w.getD d.poam.identifiedOn } }

def setDue (w : Option (Option Int)) (d : Draft) : Draft :=
  { d with poam := { d.poam with dueOn := w.getD d.poam.dueOn } }

def setScheduled (w : Option (Option Int)) (d : Draft) : Draft :=
  { d with poam := { d.poam with scheduledCompletion := w.getD d.poam.scheduledCompletion } }

/-- The date columns of `_apply_fields`: the first that does not parse raises, and what
was set before stays. -/
def Library.applyDates (lib : Library) (r : Row) (d : Draft) : Draft × Option Text :=
  match lib.dateCell r "identified_on" with
  | .error e => (d, some e)
  | .ok identified =>
    match lib.dateCell r "due_on" with
    | .error e => (setIdentified identified d, some e)
    | .ok due =>
      match lib.dateCell r "scheduled_completion" with
      | .error e => (setDue due (setIdentified identified d), some e)
      | .ok scheduled =>
        (setScheduled scheduled (setDue due (setIdentified identified d)), none)

/-- `_apply_fields`: the object, and what was raised. -/
def Library.applyFields (lib : Library) (r : Row) (d : Draft) : Draft × Option Text :=
  lib.applyDates r (lib.applyTexts r d)

/-- What a row is for: it is passed over (with the error), or names an owned POA&M, or
opens one. -/
inductive Purpose
  | skipped (error : Text)
  | updates (id : Nat)
  | opens
  deriving DecidableEq

def Library.purpose (lib : Library) (owned : List Nat) (r : Row) : Purpose :=
  if orElse ((r.get "title").bind lib.clean) none = none then
    .skipped "missing required 'title'".toList
  else
    match lib.parseId (lib.rawId r) with
    | .error e => .skipped e
    | .ok none => .opens
    | .ok (some id) => if id ∈ owned then .updates id else .opens

/-! ## The file -/

structure Summary where
  created : Nat := 0
  updated : Nat := 0
  skipped : Nat := 0
  errors : List Text := []

def Summary.skip (s : Summary) (n : Nat) (error : Text) : Summary :=
  { s with
    skipped := s.skipped + 1
    errors := s.errors ++ ["row ".toList ++ natText n ++ ": ".toList ++ error] }

/-- What the loop has made so far: the stored rows, and the new ones. -/
structure Importing where
  stored : List Draft
  added : List Draft
  summary : Summary

def Library.updateDraft (lib : Library) (id : Nat) (r : Row) (d : Draft) : Draft :=
  if d.poam.id = id then (lib.applyFields r d).1 else d

def Library.raises (lib : Library) (r : Row) : Option Text := (lib.applyFields r blank).2

/-- One turn of the loop, for row number `n`. -/
def Library.importRow (lib : Library) (owned : List Nat) (systemId : Option Nat)
    (s : Importing) (n : Nat) (r : Row) : Importing :=
  match lib.purpose owned r with
  | .skipped error => { s with summary := s.summary.skip n error }
  | .updates id =>
    { s with
      stored := s.stored.map (lib.updateDraft id r)
      summary := match lib.raises r with
        | some e => s.summary.skip n e
        | none => { s.summary with updated := s.summary.updated + 1 } }
  | .opens =>
    match lib.applyFields r blank, systemId with
    | (_, some e), _ => { s with summary := s.summary.skip n e }
    | (_, none), none =>
      { s with summary := s.summary.skip n "no system to attach to".toList }
    | (d, none), some system =>
      { s with
        added := s.added ++ [{ d with poam := { d.poam with systemId := system } }]
        summary := { s.summary with created := s.summary.created + 1 } }

/-- `UPDATE`: null or a text outside its enumeration is refused. -/
def Draft.flush (d : Draft) : Option Poam := do
  let severity ← d.severity.bind parseSeverity
  let status ← d.status.bind parsePoamStatus
  return { d.poam with severity := severity, status := status }

/-- The status that is inserted: null takes the default. -/
def Draft.insertStatus (d : Draft) : Option PoamStatus :=
  match d.status with
  | none => some .opened
  | some t => parsePoamStatus t

/-- `INSERT`: a column that is null takes its default. -/
def Draft.insert (d : Draft) : Option Poam := do
  let severity ← (match d.severity with
    | none => some .moderate
    | some t => parseSeverity t)
  let status ← d.insertStatus
  return { d.poam with severity := severity, status := status }

/-- The arguments of an import: the caller, and the rows of the file. -/
structure ImportCall where
  caller : Caller
  lib : Library
  rows : List Row

/-- The systems of the caller's organization, or all of them. -/
def inOrg (orgId : Option Nat) (s : System) : Bool :=
  match orgId with
  | none => true
  | some org => decide (s.organizationId = some org)

/-- `owned_ids`. -/
def ImportCall.owned (c : ImportCall) (db : Db) : List Nat :=
  match c.caller.orgId with
  | none => db.poams.map Poam.id
  | some org =>
    (db.poams.filter fun p =>
      db.inventory.systems.any fun s => s.id = p.systemId ∧ s.organizationId = some org).map
        Poam.id

/-- `_first_system_id`. -/
def ImportCall.firstSystemId (c : ImportCall) (db : Db) : Option Nat :=
  ((db.inventory.systems.filter (inOrg c.caller.orgId)).map System.id).min?

/-- The loop, from row number `n` on. -/
def ImportCall.loop (c : ImportCall) (db : Db) : Importing → Nat → List Row → Importing
  | s, _, [] => s
  | s, n, r :: rs =>
    c.loop db (c.lib.importRow (c.owned db) (c.firstSystemId db) s n r) (n + 1) rs

/-- `import_rows`, with its flush: a row that the database refuses loses the file. -/
def importRows (c : ImportCall) (db : Db) : Option (Db × Summary) := do
  let s := c.loop db ⟨db.poams.map draftOf, [], {}⟩ 1 c.rows
  let stored ← s.stored.mapM Draft.flush
  let added ← s.added.mapM Draft.insert
  return ({ db with poams := added.foldl (fun poams p => insertPoam p poams) stored },
    { s.summary with errors := s.summary.errors.take 20 })

/-! ## The whole effect -/

section Effect

variable {lib : Library} {c : ImportCall} {db db' : Db}

/-- What an import cannot set. -/
structure Kept (p q : Poam) : Prop where
  id : q.id = p.id
  systemId : q.systemId = p.systemId
  controlId : q.controlId = p.controlId
  ownerUserId : q.ownerUserId = p.ownerUserId
  acceptanceRationale : q.acceptanceRationale = p.acceptanceRationale
  milestones : q.milestones = p.milestones

theorem Kept.trans {p q r : Poam} (h : Kept p q) (h' : Kept q r) : Kept p r :=
  ⟨h'.id.trans h.id, h'.systemId.trans h.systemId, h'.controlId.trans h.controlId,
    h'.ownerUserId.trans h.ownerUserId,
    h'.acceptanceRationale.trans h.acceptanceRationale, h'.milestones.trans h.milestones⟩

/-- What a row writes to the due date: nothing if a date before it does not parse. -/
def Library.dueCell (lib : Library) (r : Row) : Option (Option Int) :=
  match lib.dateCell r "identified_on", lib.dateCell r "due_on" with
  | .ok _, .ok due => due
  | _, _ => none

/-- What a row does to an object. -/
structure Applied (lib : Library) (r : Row) (d d' : Draft) : Prop where
  kept : Kept d.poam d'.poam
  status : d'.status = (lib.cell r "status").getD d.status
  due : d'.poam.dueOn = (lib.dueCell r).getD d.poam.dueOn

theorem applied_applyFields (r : Row) (d : Draft) :
    Applied lib r d (lib.applyFields r d).1 := by
  unfold Library.applyFields Library.applyDates
  cases hi : lib.dateCell r "identified_on" with
  | error e =>
    exact ⟨⟨rfl, rfl, rfl, rfl, rfl, rfl⟩, rfl, by rw [Library.dueCell, hi]; rfl⟩
  | ok identified =>
    cases hd : lib.dateCell r "due_on" with
    | error e =>
      exact ⟨⟨rfl, rfl, rfl, rfl, rfl, rfl⟩, rfl, by rw [Library.dueCell, hi, hd]; rfl⟩
    | ok due =>
      have hdue : lib.dueCell r = due := by rw [Library.dueCell, hi, hd]
      cases lib.dateCell r "scheduled_completion" with
      | error e => exact ⟨⟨rfl, rfl, rfl, rfl, rfl, rfl⟩, rfl, by rw [hdue]; rfl⟩
      | ok scheduled => exact ⟨⟨rfl, rfl, rfl, rfl, rfl, rfl⟩, rfl, by rw [hdue]; rfl⟩

def ImportCall.rowsFor (c : ImportCall) (db : Db) (id : Nat) : List Row :=
  c.rows.filter fun r => c.lib.purpose (c.owned db) r = .updates id

def ImportCall.draft (c : ImportCall) (db : Db) (p : Poam) : Draft :=
  (c.rowsFor db p.id).foldl (fun d r => (c.lib.applyFields r d).1) (draftOf p)

def ImportCall.lastStatus (c : ImportCall) (db : Db) (id : Nat) : Option (Option Text) :=
  ((c.rowsFor db id).filterMap fun r => c.lib.cell r "status").getLast?

/-- The last due date the file has for a POA&M. -/
def ImportCall.lastDue (c : ImportCall) (db : Db) (id : Nat) : Option (Option Int) :=
  ((c.rowsFor db id).filterMap c.lib.dueCell).getLast?

theorem draft_status (p : Poam) :
    (c.draft db p).status = (c.lastStatus db p.id).getD (some p.status.text) :=
  foldl_lastWrite Draft.status (fun d r => (applied_applyFields r d).status) _ _

theorem draft_due (p : Poam) :
    (c.draft db p).poam.dueOn = (c.lastDue db p.id).getD p.dueOn :=
  foldl_lastWrite (fun d => d.poam.dueOn) (fun d r => (applied_applyFields r d).due) _ _

theorem draft_kept (p : Poam) : Kept p (c.draft db p).poam := by
  refine List.foldlRecOn (motive := fun d : Draft => Kept p d.poam) _ _ ?_ ?_
  · exact ⟨rfl, rfl, rfl, rfl, rfl, rfl⟩
  · exact fun d hd r _ => hd.trans (applied_applyFields r d).kept

def ImportCall.opened (c : ImportCall) (db : Db) (r : Row) : Option Draft :=
  match c.lib.purpose (c.owned db) r, c.firstSystemId db with
  | .opens, some system =>
    if (c.lib.raises r).isSome then none
    else
      let d := (c.lib.applyFields r blank).1
      some { d with poam := { d.poam with systemId := system } }
  | _, _ => none

theorem importRow_objects (s : Importing) (n : Nat) (r : Row) :
    (c.lib.importRow (c.owned db) (c.firstSystemId db) s n r).stored =
        s.stored.map (fun d =>
          if c.lib.purpose (c.owned db) r = .updates d.poam.id then (c.lib.applyFields r d).1
          else d) ∧
      (c.lib.importRow (c.owned db) (c.firstSystemId db) s n r).added =
        s.added ++ (c.opened db r).toList := by
  unfold Library.importRow ImportCall.opened
  cases c.lib.purpose (c.owned db) r with
  | skipped error =>
    refine ⟨?_, (List.append_nil _).symm⟩
    simp
  | updates id =>
    refine ⟨List.map_congr_left fun d _ => ?_, (List.append_nil _).symm⟩
    rw [Library.updateDraft]
    simp only [Purpose.updates.injEq, eq_comm]
  | opens =>
    have hraises : (c.lib.applyFields r blank).2 = c.lib.raises r := rfl
    cases happly : c.lib.applyFields r blank with
    | mk d e =>
      rw [happly] at hraises
      dsimp only at hraises
      rw [← hraises]
      cases e with
      | some e =>
        refine ⟨by simp, ?_⟩
        cases c.firstSystemId db <;> exact (List.append_nil _).symm
      | none =>
        cases c.firstSystemId db with
        | none => exact ⟨by simp, (List.append_nil _).symm⟩
        | some system => exact ⟨by simp, rfl⟩

theorem loop_objects (s : Importing) (n : Nat) (rs : List Row) :
    (c.loop db s n rs).stored =
        s.stored.map (fun d =>
          (rs.filter fun r => c.lib.purpose (c.owned db) r = .updates d.poam.id).foldl
            (fun d r => (c.lib.applyFields r d).1) d) ∧
      (c.loop db s n rs).added = s.added ++ rs.filterMap (c.opened db) := by
  induction rs generalizing s n with
  | nil => exact ⟨(List.map_id' _).symm, (List.append_nil _).symm⟩
  | cons r rs ih =>
    obtain ⟨hstored, hadded⟩ := @importRow_objects c db s n r
    obtain ⟨ihs, iha⟩ := ih (c.lib.importRow (c.owned db) (c.firstSystemId db) s n r) (n + 1)
    constructor
    · rw [ImportCall.loop, ihs, hstored, List.map_map]
      refine List.map_congr_left fun d _ => ?_
      rw [Function.comp_apply]
      by_cases h : c.lib.purpose (c.owned db) r = .updates d.poam.id
      · rw [if_pos h, (applied_applyFields r d).kept.id,
          List.filter_cons_of_pos (by simpa using h), List.foldl_cons]
      · rw [if_neg h, List.filter_cons_of_neg (by simpa using h)]
    · rw [ImportCall.loop, iha, hadded, List.append_assoc, List.filterMap_cons]
      cases c.opened db r <;> rfl

/-- **All that an import does**: it stores each POA&M with what its rows set, and inserts
those that rows open. -/
theorem importRows_eq_some {s : Summary} (h : importRows c db = some (db', s)) :
    ∃ stored added : List Poam,
      db.poams.map (fun p => (c.draft db p).flush) = stored.map some ∧
      (c.rows.filterMap (c.opened db)).map Draft.insert = added.map some ∧
      db' = { db with poams := added.foldl (fun poams p => insertPoam p poams) stored } := by
  obtain ⟨hs, ha⟩ := @loop_objects c db ⟨db.poams.map draftOf, [], {}⟩ 1 c.rows
  unfold importRows at h
  dsimp only at h
  rw [hs, ha, List.nil_append] at h
  obtain ⟨stored, hstored, h⟩ := Option.bind_eq_some_iff.mp h
  obtain ⟨added, hadded, h⟩ := Option.bind_eq_some_iff.mp h
  rw [mapM_eq_some, List.map_map, List.map_map] at hstored
  exact ⟨stored, added, hstored, mapM_eq_some.mp hadded,
    (Prod.mk.inj (Option.some.inj h)).1.symm⟩

theorem importRows_isSome (hstored : ∀ p ∈ db.poams, ((c.draft db p).flush).isSome = true)
    (hadded : ∀ d ∈ c.rows.filterMap (c.opened db), d.insert.isSome = true) :
    ∃ result, importRows c db = some result := by
  obtain ⟨hs, ha⟩ := @loop_objects c db ⟨db.poams.map draftOf, [], {}⟩ 1 c.rows
  obtain ⟨stored, hstored⟩ := exists_map_eq_map_some hstored
  obtain ⟨added, hadded⟩ := exists_map_eq_map_some hadded
  unfold importRows
  dsimp only
  rw [hs, ha, List.nil_append, mapM_eq_some.mpr hadded,
    mapM_eq_some.mpr (by rw [List.map_map, List.map_map]; exact hstored)]
  exact ⟨_, rfl⟩

/-- The status that a POA&M has after the file, if it is one of the enumeration. -/
def ImportCall.statusAfter (c : ImportCall) (db : Db) (p : Poam) : Option PoamStatus :=
  ((c.lastStatus db p.id).getD (some p.status.text)).bind parsePoamStatus

/-- The due date that a POA&M has after the file. -/
def ImportCall.dueAfter (c : ImportCall) (db : Db) (p : Poam) : Option Int :=
  (c.lastDue db p.id).getD p.dueOn

theorem flush_eq_some {d : Draft} {q : Poam} (h : d.flush = some q) :
    d.status.bind parsePoamStatus = some q.status ∧ Kept d.poam q ∧ q.dueOn = d.poam.dueOn := by
  obtain ⟨severity, -, h⟩ := Option.bind_eq_some_iff.mp h
  obtain ⟨status, hstatus, h⟩ := Option.bind_eq_some_iff.mp h
  obtain rfl := Option.some.inj h
  exact ⟨hstatus, ⟨rfl, rfl, rfl, rfl, rfl, rfl⟩, rfl⟩

theorem flush_draft {p q : Poam} (h : (c.draft db p).flush = some q) :
    c.statusAfter db p = some q.status ∧ q.dueOn = c.dueAfter db p ∧ Kept p q := by
  obtain ⟨hstatus, hkept, hdue⟩ := flush_eq_some h
  rw [draft_status] at hstatus
  rw [draft_due] at hdue
  exact ⟨hstatus, hdue, (draft_kept p).trans hkept⟩

theorem insert_eq_some {d : Draft} {q : Poam} (h : d.insert = some q) :
    d.insertStatus = some q.status ∧ Kept d.poam q := by
  obtain ⟨severity, -, h⟩ := Option.bind_eq_some_iff.mp h
  obtain ⟨status, hstatus, h⟩ := Option.bind_eq_some_iff.mp h
  obtain rfl := Option.some.inj h
  exact ⟨hstatus, ⟨rfl, rfl, rfl, rfl, rfl, rfl⟩⟩

theorem opened_kept {r : Row} {d : Draft} (h : c.opened db r = some d) :
    d.poam.controlId = none ∧ d.poam.ownerUserId = none ∧ d.poam.milestones = [] := by
  have hkept := (@applied_applyFields c.lib r blank).kept
  unfold ImportCall.opened at h
  split at h
  · split at h
    · cases h
    · obtain rfl := Option.some.inj h
      exact ⟨hkept.controlId, hkept.ownerUserId, hkept.milestones⟩
  · cases h

end Effect

end Concord.Governance.Importer
