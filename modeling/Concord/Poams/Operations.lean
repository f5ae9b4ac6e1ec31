import Concord.Governance.Approvals
import Concord.Governance.Importer
import Concord.Ingest.Idempotence

/-!
# What writes the POA&Ms

The operations on the register of POA&Ms, and the reviews they ask for: `create_poam`
(`ccf/api/routes/poams.py`, modelled here), `update_poam`, `close_poam`, `import_rows`,
`reconcile_findings`, `submit` and `decide`. `step` runs one of them in its transaction;
one that is refused is not enabled.

`import_rows` only flushes. Of its callers `session_scope` commits, but the route
`import_dataset` never does, so what it imports is rolled back.

`RowFrom` says where each row after a step comes from.
-/

namespace Concord.Poams

open Concord.Python Concord.Base Concord.Governance Concord.Governance.Importer Concord.Ingest

/-! ## Creation -/

/-- The body of a POST. -/
structure PoamCreate where
  systemId : Nat
  controlId : Option Nat := none
  title : Text
  weakness : Option Text := none
  severity : Severity := .moderate
  status : PoamStatus := .opened
  identifiedOn : Option Int := none
  dueOn : Option Int := none
  ownerUserId : Option Nat := none
  source : Option Text := none
  pointOfContact : Option Text := none
  remediationPlan : Option Text := none
  resourcesRequired : Option Text := none
  costEstimate : Option Text := none
  scheduledCompletion : Option Int := none
  riskId : Option Nat := none
  vendorId : Option Nat := none
  acceptanceRationale : Option Text := none

/-- `POAM(**data)`, with the baseline of its due date and the defaults of its columns; the
id is that of the insertion. -/
def PoamCreate.poam (body : PoamCreate) (id : Nat) : Poam where
  id := id
  systemId := body.systemId
  controlId := body.controlId
  title := body.title
  weakness := body.weakness
  severity := body.severity
  status := body.status
  identifiedOn := body.identifiedOn
  dueOn := body.dueOn
  closedOn := none
  ownerUserId := body.ownerUserId
  source := body.source
  pointOfContact := body.pointOfContact
  remediationPlan := body.remediationPlan
  remediationPlanSource := .analyst
  resourcesRequired := body.resourcesRequired
  costEstimate := body.costEstimate
  scheduledCompletion := body.scheduledCompletion
  originalDueOn := body.dueOn
  riskId := body.riskId
  vendorId := body.vendorId
  sourceRef := none
  acceptanceRationale := body.acceptanceRationale
  milestones := []

def requireSystem (c : Caller) (db : Db) (systemId : Nat) : Except Raised Unit :=
  match c.orgId with
  | none => .ok ()
  | some org =>
    if db.inventory.systems.any fun s => s.id = systemId ∧ s.organizationId = some org then
      .ok ()
    else .error (.httpException 404 "system not found".toList)

def unreviewed (c : Caller) : Caller := { c with authEnabled := false }

/-- `_require_closure_gate` on an object that has no id yet: the review it asks for is
that of `str(None)`. -/
def requireClosureGateUnsaved (c : Caller) (db : Db) (p : Poam) : Except Raised Unit := do
  requireClosureGate (unreviewed c) db p
  if c.authEnabled && decide (entityState db "poam".toList "None".toList ≠ .approved) then
    throw (.httpException 409 ("cannot close: requires an approved review (submit for " ++
      "approval, then have a different principal approve it — separation of duties)").toList)

/-- `_require_risk_accepted_gate` with `poam_id=None`. -/
def requireRiskAcceptedGateUnsaved (c : Caller) (db : Db) (p : Poam) : Except Raised Unit := do
  requireRiskAcceptedGate (unreviewed c) db p.ownerUserId p.dueOn p.id
    p.acceptanceRationale
  if c.authEnabled then
    throw (.httpException 409 ("risk_accepted requires an approved authorizing-official " ++
      "review (submit for approval, then have an AO/admin approve it)").toList)

/-- What `create_poam` refuses. -/
def admitCreate (c : Caller) (db : Db) (body : PoamCreate) : Except Raised Unit := do
  requireSystem c db body.systemId
  match body.status with
  | .closed => requireClosureGateUnsaved c db (body.poam 0)
  | .riskAccepted => requireRiskAcceptedGateUnsaved c db (body.poam 0)
  | _ => return ()

def PoamCreate.row (body : PoamCreate) (db : Db) : Poam :=
  body.poam (nextId (db.poams.map Poam.id))

/-- `create_poam`, up to its commit. -/
def createPoam (c : Caller) (db : Db) (body : PoamCreate) : Except Raised Db := do
  admitCreate c db body
  return { db with poams := insertPoam (body.poam 0) db.poams }

/-! ## Operations -/

inductive Operation
  | create (c : Caller) (body : PoamCreate)
  | patch (c : Caller) (pid : Nat) (body : PoamUpdate)
  | close (c : Caller) (pid : Nat) (today : Int)
  | importFile (committed : Bool) (call : ImportCall)
  | reconcile (call : ScanCall)
  | submit (c : Caller) (entityType entityId : Text) (actor : Option Text)
  | decide (parseInt : Text → Except Text Int) (c : Caller) (entityType entityId : Text)
      (who : Principal) (d : Decision)

def step (db : Db) : Operation → Option Db
  | .create c body => (createPoam c db body).toOption
  | .patch c pid body => (updatePoam c db pid body).toOption
  | .close c pid today => (closePoam c db pid today).toOption
  | .importFile committed call =>
    (importRows call db).map fun result => if committed then result.1 else db
  | .reconcile call => some { db with poams := (call.reconcile db.poams).1 }
  | .submit c entityType entityId actor => (submitReview c db entityType entityId actor).toOption
  | .decide parseInt c entityType entityId who d =>
    (decideReview parseInt c db entityType entityId who d).toOption

theorem keys_nil : (([] : List ControlImplementation).map ControlImplementation.key).Nodup :=
  List.nodup_nil

/-- The register of an organization that has one system. -/
def register (poams : List Poam) : Db where
  inventory :=
    { systems := [⟨1, some 1⟩], controls := [], implementations := [], evidence := []
      ids := List.nodup_nil, keys := keys_nil, identifiers := List.nodup_nil }
  tests := []
  waivers := []
  approvals := []
  poams := poams
  tasks := []
  notifications := []
  results := []

/-- What an import needs: the database takes every row. -/
structure Accepted (call : ImportCall) (db : Db) : Prop where
  stored : ∀ p ∈ db.poams, ((call.draft db p).flush).isSome = true
  added : ∀ d ∈ call.rows.filterMap (call.opened db), d.insert.isSome = true

/-- Where a row comes from. -/
inductive RowFrom (u : Db) : Operation → Poam → Prop
  | kept (op : Operation) (p : Poam) (mem : p ∈ u.poams) : RowFrom u op p
  | created (c : Caller) (body : PoamCreate) (admitted : admitCreate c u body = .ok ()) :
      RowFrom u (.create c body) (body.row u)
  | patched (c : Caller) (body : PoamUpdate) (p : Poam)
      (found : requirePoam c u p.id = .ok p) (admitted : admitUpdate c u p body = .ok ()) :
      RowFrom u (.patch c p.id body) (body.apply p)
  | closed (c : Caller) (today : Int) (p : Poam) (found : requirePoam c u p.id = .ok p)
      (admitted : requireClosureGate c u p = .ok ()) :
      RowFrom u (.close c p.id today) (p.close today)
  | imported (call : ImportCall) (p q : Poam) (mem : p ∈ u.poams) (accepted : Accepted call u)
      (flushed : (call.draft u p).flush = some q) : RowFrom u (.importFile true call) q
  | added (call : ImportCall) (d : Draft) (q : Poam) (id : Nat)
      (mem : d ∈ call.rows.filterMap (call.opened u)) (accepted : Accepted call u)
      (inserted : d.insert = some q) (fresh : id ∉ u.poams.map Poam.id) :
      RowFrom u (.importFile true call) { q with id := id }
  | scanned (call : ScanCall) (p q : Poam) (mem : p ∈ u.poams)
      (became : Became call u.poams p q) : RowFrom u (.reconcile call) q
  | found (call : ScanCall) (f : ScanFinding) (id : Nat) (fresh : id ∉ u.poams.map Poam.id) :
      RowFrom u (.reconcile call) { call.newPoam f with id := id }

/-! ## What a step leaves -/

section Effect

variable {u v : Db}

theorem requirePoam_eq_ok {c : Caller} {pid : Nat} {p : Poam}
    (h : requirePoam c u pid = .ok p) : p ∈ u.poams ∧ p.id = pid := by
  unfold requirePoam at h
  cases hfind : u.poams.find? fun p => p.id = pid with
  | none =>
    rw [hfind] at h
    cases h
  | some q =>
    rw [hfind] at h
    rcases ite_eq_iff.mp h with ⟨-, h⟩ | ⟨-, h⟩
    · obtain rfl := Except.ok.inj h
      exact ⟨List.mem_of_find?_eq_some hfind, by simpa using List.find?_some hfind⟩
    · cases h

theorem mem_foldl_insertPoam {added : List Poam} {stored : List Poam} {q : Poam} :
    q ∈ added.foldl (fun poams p => insertPoam p poams) stored →
      q ∈ stored ∨ ∃ a ∈ added, ∃ id ∉ stored.map Poam.id, q = { a with id := id } := by
  induction added generalizing stored with
  | nil => exact .inl
  | cons a added ih =>
    intro hq
    rw [List.foldl_cons] at hq
    rcases ih hq with hq | ⟨b, hb, id, hid, rfl⟩
    · rcases List.mem_append.mp hq with hq | hq
      · exact .inl hq
      · refine .inr ⟨a, List.mem_cons_self, nextId (stored.map Poam.id), fun h => ?_,
          List.mem_singleton.mp hq⟩
        exact absurd (lt_nextId h) (Nat.lt_irrefl _)
    · refine .inr ⟨b, List.mem_cons_of_mem a hb, id, fun h => hid ?_, rfl⟩
      rw [insertPoam, List.map_append]
      exact List.mem_append_left _ h

theorem mem_foldl_of_mem {added : List Poam} {stored : List Poam} {q : Poam}
    (hq : q ∈ stored) : q ∈ added.foldl (fun poams p => insertPoam p poams) stored := by
  induction added generalizing stored with
  | nil => exact hq
  | cons a added ih => exact ih (List.mem_append_left _ hq)

theorem exists_mem_foldl {added : List Poam} {stored : List Poam} {a : Poam} (ha : a ∈ added) :
    ∃ id ∉ stored.map Poam.id,
      { a with id := id } ∈ added.foldl (fun poams p => insertPoam p poams) stored := by
  induction added generalizing stored with
  | nil => cases ha
  | cons b added ih =>
    rcases List.mem_cons.mp ha with rfl | ha
    · refine ⟨nextId (stored.map Poam.id), fun h => absurd (lt_nextId h) (Nat.lt_irrefl _), ?_⟩
      rw [List.foldl_cons]
      exact mem_foldl_of_mem (List.mem_append_right _ (List.mem_singleton.mpr rfl))
    · obtain ⟨id, hid, hmem⟩ := @ih (insertPoam b stored) ha
      refine ⟨id, fun h => hid ?_, hmem⟩
      rw [insertPoam, List.map_append]
      exact List.mem_append_left _ h

theorem foldl_insertPoam_ids {added stored : List Poam} (h : (stored.map Poam.id).Nodup) :
    ((added.foldl (fun poams p => insertPoam p poams) stored).map Poam.id).Nodup := by
  induction added generalizing stored with
  | nil => exact h
  | cons a added ih => exact ih (insertPoam_ids h)

/-- What an import that the database takes makes of the register. -/
structure Imported (call : ImportCall) (u v : Db) : Prop where
  accepted : Accepted call u
  ids : (u.poams.map Poam.id).Nodup → (v.poams.map Poam.id).Nodup
  row : ∀ q ∈ v.poams, RowFrom u (.importFile true call) q
  stored : ∀ p ∈ u.poams, ∃ q ∈ v.poams, (call.draft u p).flush = some q
  inserted : ∀ d ∈ call.rows.filterMap (call.opened u), ∃ q, d.insert = some q ∧
    ∃ id ∉ u.poams.map Poam.id, { q with id := id } ∈ v.poams

theorem exists_step_import {call : ImportCall} (h : Accepted call u) :
    ∃ v, step u (.importFile true call) = some v := by
  obtain ⟨result, hresult⟩ := importRows_isSome h.stored h.added
  exact ⟨result.1, by rw [step, hresult]; rfl⟩

theorem imported_of_step {call : ImportCall} (h : step u (.importFile true call) = some v) :
    Imported call u v := by
  obtain ⟨⟨v', s⟩, hrows, rfl⟩ := Option.map_eq_some_iff.mp h
  obtain ⟨stored, added, hstored, hadded, rfl⟩ := importRows_eq_some hrows
  have hids : stored.map Poam.id = u.poams.map Poam.id :=
    map_eq_of_map_eq_map_some
      (fun p q hq => (flush_eq_some hq).2.1.id.trans (draft_kept p).id) hstored
  have hmem : ∀ {q : Poam}, q ∈ stored ↔ ∃ p ∈ u.poams, (call.draft u p).flush = some q :=
    mem_of_map_eq_map_some hstored
  have hmem' : ∀ {q : Poam}, q ∈ added ↔
      ∃ d ∈ call.rows.filterMap (call.opened u), d.insert = some q :=
    mem_of_map_eq_map_some hadded
  have haccepted : Accepted call u :=
    ⟨fun p hp => isSome_of_map_eq_map_some hstored hp,
      fun d hd => isSome_of_map_eq_map_some hadded hd⟩
  refine ⟨haccepted, fun h => foldl_insertPoam_ids (hids ▸ h), fun q hq => ?_, fun p hp => ?_,
    fun d hd => ?_⟩
  · rcases mem_foldl_insertPoam hq with hq | ⟨a, ha, id, hid, rfl⟩
    · obtain ⟨p, hp, hflush⟩ := hmem.mp hq
      exact .imported call p q hp haccepted hflush
    · obtain ⟨d, hd, hinsert⟩ := hmem'.mp ha
      exact .added call d a id hd haccepted hinsert (hids ▸ hid)
  · obtain ⟨q, hq⟩ := Option.isSome_iff_exists.mp (haccepted.stored p hp)
    exact ⟨q, mem_foldl_of_mem (hmem.mpr ⟨p, hp, hq⟩), hq⟩
  · obtain ⟨q, hq⟩ := Option.isSome_iff_exists.mp (haccepted.added d hd)
    obtain ⟨id, hid, hin⟩ := exists_mem_foldl (hmem'.mpr ⟨d, hd, hq⟩)
    exact ⟨q, hq, id, hids ▸ hid, hin⟩

theorem rowFrom_update {op : Operation} {f : Poam → Poam} {p : Poam}
    (hp : p ∈ u.poams) (hids : (u.poams.map Poam.id).Nodup) (hrow : RowFrom u op (f p)) :
    ∀ q ∈ updatePoamRow p.id f u.poams, RowFrom u op q := by
  intro q hq
  obtain ⟨r, hr, rfl⟩ := List.mem_map.mp hq
  split
  · rename_i hid
    rw [List.inj_on_of_nodup_map hids hr hp hid]
    exact hrow
  · exact .kept op r hr

/-- **Where the rows come from.** -/
theorem rowFrom_of_step (hids : (u.poams.map Poam.id).Nodup) {op : Operation}
    (h : step u op = some v) : ∀ q ∈ v.poams, RowFrom u op q := by
  cases op with
  | create c body =>
    obtain ⟨_, hadmit, h⟩ := bind_eq_ok.mp (toOption_eq_some h)
    obtain rfl := Except.ok.inj h
    intro q hq
    rcases List.mem_append.mp hq with hq | hq
    · exact .kept _ q hq
    · rw [List.mem_singleton.mp hq]
      exact .created c body hadmit
  | patch c pid body =>
    obtain ⟨p, hfound, h⟩ := bind_eq_ok.mp (toOption_eq_some h)
    obtain ⟨_, hadmit, h⟩ := bind_eq_ok.mp h
    obtain rfl := Except.ok.inj h
    obtain ⟨hp, rfl⟩ := requirePoam_eq_ok hfound
    exact rowFrom_update hp hids (.patched c body p hfound hadmit)
  | close c pid today =>
    obtain ⟨p, hfound, h⟩ := bind_eq_ok.mp (toOption_eq_some h)
    obtain ⟨_, hadmit, h⟩ := bind_eq_ok.mp h
    obtain rfl := Except.ok.inj h
    obtain ⟨hp, rfl⟩ := requirePoam_eq_ok hfound
    exact rowFrom_update hp hids (.closed c today p hfound hadmit)
  | importFile committed call =>
    cases committed with
    | true => exact (imported_of_step h).row
    | false =>
      -- the session is closed without a commit
      obtain ⟨_, -, rfl⟩ := Option.map_eq_some_iff.mp h
      exact fun q hq => .kept _ q hq
  | reconcile call =>
    obtain rfl := Option.some.inj h
    intro q hq
    rcases (mem_reconcile hids).mp hq with ⟨p, hp, rfl⟩ | hq
    · exact .scanned call p _ hp (became_rowAfter hids hp)
    · obtain ⟨hid, f, -, -, heq⟩ := mem_newRows hq
      rw [heq]
      exact .found call f q.id fun h => absurd (lt_nextId h) (Nat.not_lt.mpr hid)
  | submit c entityType entityId actor =>
    obtain ⟨-, hpoams, -⟩ := submitReview_eq_ok (toOption_eq_some h)
    exact fun q hq => .kept _ q (hpoams ▸ hq)
  | decide parseInt c entityType entityId who d =>
    obtain ⟨-, hpoams, -⟩ := decideReview_eq_ok (toOption_eq_some h)
    exact fun q hq => .kept _ q (hpoams ▸ hq)

theorem ids_of_step (u : Db) (op : Operation) (v : Db) (hids : (u.poams.map Poam.id).Nodup)
    (h : step u op = some v) : (v.poams.map Poam.id).Nodup := by
  cases op with
  | create c body =>
    obtain ⟨_, -, h⟩ := bind_eq_ok.mp (toOption_eq_some h)
    obtain rfl := Except.ok.inj h
    exact insertPoam_ids hids
  | patch c pid body =>
    obtain rfl := updatePoam_eq_ok (toOption_eq_some h)
    show ((updatePoamRow pid body.apply u.poams).map Poam.id).Nodup
    rw [@updatePoamRow_ids pid body.apply fun _ => rfl]
    exact hids
  | close c pid today =>
    obtain rfl := closePoam_eq_ok (toOption_eq_some h)
    show ((updatePoamRow pid (Poam.close today) u.poams).map Poam.id).Nodup
    rw [@updatePoamRow_ids pid (Poam.close today) fun _ => rfl]
    exact hids
  | importFile committed call =>
    cases committed with
    | true => exact (imported_of_step h).ids hids
    | false =>
      obtain ⟨_, -, rfl⟩ := Option.map_eq_some_iff.mp h
      exact hids
  | reconcile call =>
    obtain rfl := Option.some.inj h
    exact reconcile_ids hids
  | submit c entityType entityId actor =>
    rw [(submitReview_eq_ok (toOption_eq_some h)).2.1]
    exact hids
  | decide parseInt c entityType entityId who d =>
    rw [(decideReview_eq_ok (toOption_eq_some h)).2.1]
    exact hids

end Effect

end Concord.Poams
