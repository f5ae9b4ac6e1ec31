import Concord.Base.Raises
import Concord.Base.Slots
import Concord.Governance.Inventory
import Concord.Packs.Catalog
import Concord.Python.Dict
import Concord.Python.KeyOrder
import Mathlib.Data.List.MinMax
import Mathlib.Data.List.Forall2
import Mathlib.Data.List.Perm.Basic

/-!
# Control status from capability coverage

`derive_for_system` of `ccf/capability/derive.py`, with `roll_up` of `ccf/capability/rollup.py`.
The queries for the pairs and for the controls name no order, and a run is given what each of them
answered.

`roll_up` reads a set of statuses (`rollUp_congr`) and is monotone in them (`rollUp_monotone`).

The map from canonical ids to controls has one control for each id, the last that the catalog
answered. A row on another spelling of that control is taken for one that nothing covers
(`derivedStatus_settle`), so that a run annotates what it should exactly where no covered row is
on a control that the catalog has twice (`annotates_iff`).
-/

namespace Concord.Capabilities

open Concord.Base
open Concord.Python
open Concord.Governance (ImplStatus System Control)
open Concord.Packs.Catalog (canonicalize CanonicalId)

/-! ## `roll_up` -/

/-- `SATISFIED`. -/
def satisfied : List ImplStatus := [.implemented, .inherited]

/-- `RANK`, from the worst to the best. -/
def ranked : List ImplStatus := [.notImplemented, .planned, .partially, .implemented, .inherited]

/-- `EXCLUDED`. -/
def excluded : List ImplStatus := [.notApplicable]

/-- `RANK.index`. -/
def rank (status : ImplStatus) : Nat := ranked.idxOf status

/-- What `roll_up` considers. The column has no status outside `RANK` and `EXCLUDED`, which it
would refuse. -/
def considered (statuses : List ImplStatus) : List ImplStatus := statuses.filter (· ∉ excluded)

/-- `roll_up`. -/
def rollUp (statuses : List ImplStatus) : Option ImplStatus :=
  match (considered statuses).argmin rank with
  | none => none
  | some worst =>
    if worst ∉ satisfied ∧ ∃ s ∈ considered statuses, s ∈ satisfied then some .partially
    else some worst

/-- A status put in the place of another one that is no better. -/
def Improves (s s' : ImplStatus) : Prop :=
  s = s' ∨ s ∉ excluded ∧ s' ∉ excluded ∧ rank s ≤ rank s'

theorem rank_injective {s s' : ImplStatus} (h : rank s = rank s') : s = s' := by
  revert h
  cases s <;> cases s' <;> decide

theorem mem_satisfied_iff {s : ImplStatus} (h : s ∉ excluded) : s ∈ satisfied ↔ 3 ≤ rank s := by
  revert h
  cases s <;> decide

theorem argmin_rank_iff {statuses : List ImplStatus} {worst : ImplStatus} :
    statuses.argmin rank = some worst ↔
      worst ∈ statuses ∧ ∀ s ∈ statuses, rank worst ≤ rank s := by
  constructor
  · intro h
    exact ⟨List.argmin_mem h, fun s hs => List.le_of_mem_argmin hs h⟩
  · rintro ⟨hmem, hle⟩
    cases hmin : statuses.argmin rank with
    | none =>
      rw [List.argmin_eq_none] at hmin
      rw [hmin] at hmem
      cases hmem
    | some least =>
      have h₁ := List.le_of_mem_argmin hmem hmin
      have h₂ := hle least (List.argmin_mem hmin)
      exact congrArg some (rank_injective (Nat.le_antisymm h₁ h₂))

theorem mem_considered {statuses : List ImplStatus} {s : ImplStatus} :
    s ∈ considered statuses ↔ s ∈ statuses ∧ s ∉ excluded := by
  rw [considered, List.mem_filter, decide_eq_true_iff]

theorem rank_rollUp {statuses : List ImplStatus} {worst : ImplStatus}
    (h : (considered statuses).argmin rank = some worst) :
    ∃ derived, rollUp statuses = some derived ∧
      rank derived =
        if rank worst < 3 ∧ ∃ s ∈ considered statuses, 3 ≤ rank s then 2 else rank worst := by
  have hworst := mem_satisfied_iff (mem_considered.mp (List.argmin_mem h)).2
  have hany : (∃ s ∈ considered statuses, s ∈ satisfied) ↔
      ∃ s ∈ considered statuses, 3 ≤ rank s :=
    exists_congr fun s => and_congr_right fun hs => mem_satisfied_iff (mem_considered.mp hs).2
  unfold rollUp
  simp only [h, hany, hworst, Nat.not_le]
  split
  · exact ⟨.partially, rfl, rfl⟩
  · exact ⟨worst, rfl, rfl⟩

theorem rollUp_eq_none_iff {statuses : List ImplStatus} :
    rollUp statuses = none ↔ considered statuses = [] := by
  cases hmin : (considered statuses).argmin rank with
  | none =>
    rw [rollUp, hmin]
    exact iff_of_true rfl (List.argmin_eq_none.mp hmin)
  | some worst =>
    obtain ⟨derived, hroll, -⟩ := rank_rollUp hmin
    rw [hroll, ← List.argmin_eq_none (f := rank), hmin]
    exact iff_of_false (Option.some_ne_none _) (Option.some_ne_none _)

theorem rollUp_isSome_iff {statuses : List ImplStatus} :
    (rollUp statuses).isSome ↔ ∃ s ∈ statuses, s ≠ .notApplicable := by
  rw [Option.isSome_iff_ne_none, Ne, rollUp_eq_none_iff, List.eq_nil_iff_forall_not_mem, not_forall]
  refine exists_congr fun s => ?_
  rw [not_not, mem_considered, excluded, List.mem_singleton]

/-- **Neither order nor repetition matters**: lists of the same statuses roll up the same. -/
theorem rollUp_congr {statuses statuses' : List ImplStatus}
    (h : ∀ s, s ∈ statuses ↔ s ∈ statuses') : rollUp statuses = rollUp statuses' := by
  have hmem : ∀ s, s ∈ considered statuses ↔ s ∈ considered statuses' := by
    intro s
    rw [mem_considered, mem_considered, h]
  have hmin : (considered statuses).argmin rank = (considered statuses').argmin rank := by
    refine Option.ext fun worst => ?_
    rw [argmin_rank_iff, argmin_rank_iff]
    simp only [hmem]
  unfold rollUp
  simp only [hmin, hmem]

theorem forall₂_considered {statuses statuses' : List ImplStatus}
    (h : List.Forall₂ Improves statuses statuses') :
    List.Forall₂ (fun s s' => rank s ≤ rank s') (considered statuses) (considered statuses') := by
  induction h with
  | nil => exact .nil
  | @cons s s' rest rest' hs hrest ih =>
    unfold considered at ih ⊢
    obtain rfl | ⟨hout, hout', hle⟩ := hs
    · by_cases hs : s ∈ excluded
      · rwa [List.filter_cons_of_neg (by simpa using hs),
          List.filter_cons_of_neg (by simpa using hs)]
      · rw [List.filter_cons_of_pos (by simpa using hs),
          List.filter_cons_of_pos (by simpa using hs)]
        exact .cons le_rfl ih
    · rw [List.filter_cons_of_pos (by simpa using hout),
        List.filter_cons_of_pos (by simpa using hout')]
      exact .cons hle ih

/-- **Better statuses roll up to no worse a one.** -/
theorem rollUp_monotone {statuses statuses' : List ImplStatus}
    (h : List.Forall₂ Improves statuses statuses') :
    Option.Rel (fun d d' => rank d ≤ rank d') (rollUp statuses) (rollUp statuses') := by
  have hconsidered := forall₂_considered h
  cases hmin : (considered statuses).argmin rank with
  | none =>
    rw [List.argmin_eq_none] at hmin
    rw [hmin, List.forall₂_nil_left_iff] at hconsidered
    rw [rollUp_eq_none_iff.mpr hmin, rollUp_eq_none_iff.mpr hconsidered]
    exact .none
  | some worst =>
    cases hmin' : (considered statuses').argmin rank with
    | none =>
      rw [List.argmin_eq_none] at hmin'
      rw [hmin', List.forall₂_nil_right_iff, ← List.argmin_eq_none (f := rank), hmin] at hconsidered
      cases hconsidered
    | some worst' =>
      obtain ⟨derived, hroll, hrank⟩ := rank_rollUp hmin
      obtain ⟨derived', hroll', hrank'⟩ := rank_rollUp hmin'
      -- the worst of the better list is no better than what it was before
      obtain ⟨s, hs, hle⟩ := exists_of_forall₂ hconsidered.flip (argmin_rank_iff.mp hmin').1
      have hworst : rank worst ≤ rank worst' := ((argmin_rank_iff.mp hmin).2 s hs).trans hle
      have hany : (∃ s ∈ considered statuses, 3 ≤ rank s) →
          ∃ s ∈ considered statuses', 3 ≤ rank s := by
        rintro ⟨s, hs, h3⟩
        obtain ⟨s', hs', hle⟩ := exists_of_forall₂ hconsidered hs
        exact ⟨s', hs', h3.trans hle⟩
      rw [hroll, hroll']
      refine .some ?_
      rw [hrank, hrank']
      split_ifs with h₁ h₂ h₂
      · exact le_rfl
      · have h3 := Nat.not_lt.mp fun h3 => h₂ ⟨h3, hany h₁.2⟩
        omega
      · omega
      · exact hworst

/-! ## The tables -/

/-- A row of `capabilities`. -/
structure Capability where
  id : Nat
  organizationId : Option Nat
  key : Text
  status : ImplStatus

/-- A row of `capability_components`. -/
structure CapabilityComponent where
  capabilityId : Nat
  componentId : Nat

/-- A row of `capability_controls`, with the identifier as it was stored. -/
structure CapabilityControl where
  capabilityId : Nat
  controlId : Text

/-- A row of `system_components`. -/
structure SystemComponent where
  id : Nat
  systemId : Nat

/-- What `derived_from` says of the capabilities that contributed. -/
structure Contributors where
  capabilities : List Text
  detail : List Text
  deriving DecidableEq

/-- A row of `control_implementations`. Without contributors `derived_from` is `{}`. -/
structure ControlImplementation where
  id : Nat
  systemId : Nat
  controlId : Nat
  status : ImplStatus
  derivedStatus : Option ImplStatus
  derivedAt : Option Int
  derivedFrom : Option Contributors

def ControlImplementation.key (row : ControlImplementation) : Nat × Nat :=
  (row.systemId, row.controlId)

def ControlImplementation.authored (row : ControlImplementation) : Nat × Nat × Nat × ImplStatus :=
  (row.id, row.systemId, row.controlId, row.status)

/-- The tables that a derivation reads, with their keys. -/
structure Db where
  systems : List System
  systemComponents : List SystemComponent
  capabilities : List Capability
  capabilityComponents : List CapabilityComponent
  capabilityControls : List CapabilityControl
  controls : List Control
  implementations : List ControlImplementation
  control_id : (controls.map Control.id).Nodup
  implementation_key : (implementations.map ControlImplementation.key).Nodup
  implementation_control : ∀ row ∈ implementations, ∃ control ∈ controls, control.id = row.controlId

/-! ## `derive_for_system` -/

/-- `canonicalize(raw)`, of which the value is used. -/
def canonicalId (raw : Text) : Option Text := (canonicalize raw).map CanonicalId.value

/-- `_capabilities_for_system`: a row for each way that the join pairs them. -/
def capabilitiesForSystem (db : Db) (systemId : Nat) : List (Capability × Text) :=
  db.capabilities.flatMap fun cap =>
    (db.capabilityComponents.filter (·.capabilityId = cap.id)).flatMap fun edge =>
      (db.systemComponents.filter (·.id = edge.componentId)).flatMap fun component =>
        (db.systems.filter (·.id = component.systemId)).flatMap fun system =>
          (db.capabilityControls.filter fun claim =>
            claim.capabilityId = cap.id ∧ component.systemId = systemId ∧
              cap.organizationId = system.organizationId ∧ cap.organizationId.isSome).map
            fun claim => (cap, claim.controlId)

/-- `grouped`: canonical id → the capabilities that claim it. -/
def group (pairs : List (Capability × Text)) : Dict Text (List Capability) :=
  .gather (fun pair => canonicalId pair.2) (fun caps pair => caps.getD [] ++ [pair.1]) pairs

/-- `_control_rows_by_canonical`. -/
def controlRowsByCanonical (controls : List Control) (canonicalIds : List Text) : Dict Text Nat :=
  .ofPairs (controls.filterMap fun control =>
    match canonicalId control.identifier with
    | some c => if c ∈ canonicalIds then some (c, control.id) else none
    | none => none)

/-- `sorted(texts)`. -/
def sortedTexts (texts : List Text) : List Text := texts.insertionSort Json.keyLe

/-- `contributors`. -/
def contributors (caps : List Capability) : Contributors where
  capabilities := sortedTexts (caps.map Capability.key)
  detail := sortedTexts (caps.map fun c => c.key ++ '=' :: c.status.text)

/-- The control that an entry of `grouped` derives a status for, with that status. -/
def covers (controlIds : Dict Text Nat) (entry : Text × List Capability) :
    Option (Nat × ImplStatus) :=
  (controlIds.get? entry.1).bind fun ctlRowId =>
    (rollUp (entry.2.map Capability.status)).map fun derived => (ctlRowId, derived)

/-- The rows of a session, with how many were written. -/
structure Session where
  implementations : List ControlImplementation
  touched : Nat

/-- The implementation is one of the system's that carries a status that nothing covers. -/
def Stale (systemId : Nat) (coveredIds : List Nat) (row : ControlImplementation) : Prop :=
  row.systemId = systemId ∧ row.derivedStatus.isSome ∧ row.controlId ∉ coveredIds

instance (systemId : Nat) (coveredIds : List Nat) (row : ControlImplementation) :
    Decidable (Stale systemId coveredIds row) :=
  inferInstanceAs (Decidable (_ ∧ _ ∧ _))

def clear (systemId : Nat) (coveredIds : List Nat) (row : ControlImplementation) :
    ControlImplementation :=
  if Stale systemId coveredIds row then
    { row with derivedStatus := none, derivedAt := none, derivedFrom := none }
  else row

def clearStale (systemId : Nat) (coveredIds : List Nat) (rows : List ControlImplementation) :
    Session where
  implementations := rows.map (clear systemId coveredIds)
  touched := rows.countP (Stale systemId coveredIds)

/-- The row says already what the entry derives. -/
def Holds (derived : ImplStatus) (caps : List Capability) (row : ControlImplementation) : Prop :=
  row.derivedStatus = some derived ∧ row.derivedFrom = some (contributors caps)

instance (derived : ImplStatus) (caps : List Capability) (row : ControlImplementation) :
    Decidable (Holds derived caps row) :=
  inferInstanceAs (Decidable (_ ∧ _))

/-- One turn of the loop over `grouped`. -/
def annotate (now : Int) (systemId : Nat) (controlIds : Dict Text Nat) (session : Session)
    (entry : Text × List Capability) : Session :=
  match covers controlIds entry with
  | none => session
  | some (ctlRowId, derived) =>
    match session.implementations.find? (·.key = (systemId, ctlRowId)) with
    | none => session
    | some impl =>
      if Holds derived entry.2 impl then session
      else
        { implementations := session.implementations.map fun row =>
            if row.key = (systemId, ctlRowId) then
              { impl with
                derivedStatus := some derived
                derivedAt := some now
                derivedFrom := some (contributors entry.2) }
            else row
          touched := session.touched + 1 }

/-- `control_ids`: canonical id → the control that the map has of it. -/
def controlIds (pairs : List (Capability × Text)) (controls : List Control) : Dict Text Nat :=
  controlRowsByCanonical controls ((group pairs).items.map Prod.fst)

/-- `covered_ctl_ids`. -/
def coveredCtlIds (pairs : List (Capability × Text)) (controls : List Control) : List Nat :=
  (group pairs).items.filterMap fun entry =>
    (covers (controlIds pairs controls) entry).map Prod.fst

/-- `derive_for_system`, of what its queries answer. -/
def deriveForSystem (now : Int) (systemId : Nat) (pairs : List (Capability × Text))
    (controls : List Control) (rows : List ControlImplementation) : Session :=
  (group pairs).items.foldl (annotate now systemId (controlIds pairs controls))
    (clearStale systemId (coveredCtlIds pairs controls) rows)

/-! ## What it is for -/

/-- The capability is bound to the system: a component of it implements the capability, and both
are of one organisation. -/
def Bound (db : Db) (systemId : Nat) (cap : Capability) : Prop :=
  ∃ edge ∈ db.capabilityComponents, edge.capabilityId = cap.id ∧
    ∃ component ∈ db.systemComponents, component.id = edge.componentId ∧
      component.systemId = systemId ∧
      ∃ system ∈ db.systems, system.id = systemId ∧
        cap.organizationId = system.organizationId ∧ cap.organizationId.isSome

instance (db : Db) (systemId : Nat) (cap : Capability) : Decidable (Bound db systemId cap) :=
  inferInstanceAs (Decidable (∃ edge ∈ db.capabilityComponents, _))

/-- The capability claims the control of a canonical id, in whatever spelling. -/
def Claims (db : Db) (cap : Capability) (c : Text) : Prop :=
  ∃ claim ∈ db.capabilityControls, claim.capabilityId = cap.id ∧
    canonicalId claim.controlId = some c

instance (db : Db) (cap : Capability) (c : Text) : Decidable (Claims db cap c) :=
  inferInstanceAs (Decidable (∃ claim ∈ db.capabilityControls, _))

/-- The capabilities of a system that claim a control. -/
def claiming (db : Db) (systemId : Nat) (c : Text) : List Capability :=
  db.capabilities.filter fun cap => Bound db systemId cap ∧ Claims db cap c

/-- The status that a row is to have derived: what the capabilities that claim its control, by its
canonical id, roll up to. -/
def expected (db : Db) (systemId : Nat) (row : ControlImplementation) : Option ImplStatus :=
  ((db.controls.find? (·.id = row.controlId)).bind fun control =>
    canonicalId control.identifier).bind fun c =>
      rollUp ((claiming db systemId c).map Capability.status)

/-! ## One run, row by row -/

section Run

variable {now : Int} {systemId : Nat} {controlIds : Dict Text Nat} {session : Session}
  {entry : Text × List Capability} {row : ControlImplementation}

def visit (now : Int) (systemId : Nat) (controlIds : Dict Text Nat) (row : ControlImplementation)
    (entry : Text × List Capability) : ControlImplementation :=
  match covers controlIds entry with
  | none => row
  | some (ctlRowId, derived) =>
    if row.key = (systemId, ctlRowId) ∧ ¬Holds derived entry.2 row then
      { row with
        derivedStatus := some derived
        derivedAt := some now
        derivedFrom := some (contributors entry.2) }
    else row

/-- The entry is about the control of the row, and the row is the system's. -/
def Reaches (systemId : Nat) (controlIds : Dict Text Nat) (entry : Text × List Capability)
    (row : ControlImplementation) : Prop :=
  ∃ derived, covers controlIds entry = some (row.controlId, derived) ∧ row.systemId = systemId

theorem visit_authored : (visit now systemId controlIds row entry).authored = row.authored := by
  unfold visit
  split
  · rfl
  · split <;> rfl

theorem key_of_authored {row' : ControlImplementation} (h : row'.authored = row.authored) :
    row'.key = row.key :=
  congrArg (fun columns => (columns.2.1, columns.2.2.1)) h

theorem eq_of_find? (hn : (session.implementations.map ControlImplementation.key).Nodup)
    {key : Nat × Nat} {impl : ControlImplementation}
    (hfind : session.implementations.find? (·.key = key) = some impl)
    (hrow : row ∈ session.implementations) (hkey : row.key = key) : row = impl := by
  subst hkey
  exact Option.some.inj ((find_of_nodup hn hrow).symm.trans hfind)

theorem annotate_implementations
    (hn : (session.implementations.map ControlImplementation.key).Nodup) :
    (annotate now systemId controlIds session entry).implementations =
      session.implementations.map fun row => visit now systemId controlIds row entry := by
  unfold annotate visit
  cases hc : covers controlIds entry with
  | none => exact (List.map_id' _).symm
  | some covered =>
    obtain ⟨ctlRowId, derived⟩ := covered
    dsimp only
    cases hfind : session.implementations.find? (·.key = (systemId, ctlRowId)) with
    | none =>
      -- no row to annotate, and none is made
      have hout := List.find?_eq_none.mp hfind
      refine (List.map_id' _).symm.trans (List.map_congr_left fun row hrow => ?_)
      rw [if_neg fun h => hout row hrow (decide_eq_true h.1)]
    | some impl =>
      by_cases hholds : Holds derived entry.2 impl
      · refine (congrArg Session.implementations (if_pos hholds)).trans
          ((List.map_id' _).symm.trans (List.map_congr_left fun row hrow => ?_))
        refine (if_neg fun h => ?_).symm
        rw [eq_of_find? hn hfind hrow h.1] at h
        exact h.2 hholds
      · refine (congrArg Session.implementations (if_neg hholds)).trans
          (List.map_congr_left fun row hrow => ?_)
        by_cases hkey : row.key = (systemId, ctlRowId)
        · rw [eq_of_find? hn hfind hrow hkey]
          rw [eq_of_find? hn hfind hrow hkey] at hkey
          rw [if_pos hkey, if_pos ⟨hkey, hholds⟩]
        · rw [if_neg hkey, if_neg fun h => hkey h.1]

theorem reaches_congr {row' : ControlImplementation} (h : row'.key = row.key) :
    Reaches systemId controlIds entry row' ↔ Reaches systemId controlIds entry row := by
  obtain ⟨hsystem, hcontrol⟩ := Prod.mk.inj h
  unfold Reaches
  rw [hsystem, hcontrol]

theorem visit_of_not_reaches (h : ¬Reaches systemId controlIds entry row) :
    visit now systemId controlIds row entry = row := by
  unfold visit
  cases hc : covers controlIds entry with
  | none => rfl
  | some covered =>
    obtain ⟨ctlRowId, derived⟩ := covered
    refine if_neg fun hrow => h ?_
    obtain ⟨hsystem, rfl⟩ := Prod.mk.inj hrow.1
    exact ⟨derived, hc, hsystem⟩

theorem holds_visit {derived : ImplStatus}
    (hc : covers controlIds entry = some (row.controlId, derived)) (hs : row.systemId = systemId) :
    Holds derived entry.2 (visit now systemId controlIds row entry) := by
  unfold visit
  rw [hc]
  dsimp only
  split
  · exact ⟨rfl, rfl⟩
  · next h => exact not_not.mp fun hholds => h ⟨Prod.ext hs rfl, hholds⟩

theorem foldl_annotate (entries : List (Text × List Capability))
    (hn : (session.implementations.map ControlImplementation.key).Nodup) :
    (entries.foldl (annotate now systemId controlIds) session).implementations =
      session.implementations.map fun row =>
        entries.foldl (visit now systemId controlIds) row := by
  induction entries generalizing session with
  | nil => exact (List.map_id' _).symm
  | cons entry entries ih =>
    have hrows : (annotate now systemId controlIds session entry).implementations = _ :=
      annotate_implementations hn
    have hkeys : (annotate now systemId controlIds session entry).implementations.map
        ControlImplementation.key = session.implementations.map ControlImplementation.key := by
      rw [hrows, List.map_map]
      exact List.map_congr_left fun row _ => key_of_authored visit_authored
    rw [List.foldl_cons, ih (hkeys.symm ▸ hn), hrows, List.map_map]
    rfl

theorem foldl_visit_authored (entries : List (Text × List Capability)) :
    (entries.foldl (visit now systemId controlIds) row).authored = row.authored := by
  induction entries generalizing row with
  | nil => rfl
  | cons entry entries ih => rw [List.foldl_cons, ih, visit_authored]

theorem foldl_visit_of_not_reaches {entries : List (Text × List Capability)}
    (h : ∀ entry ∈ entries, ¬Reaches systemId controlIds entry row) :
    entries.foldl (visit now systemId controlIds) row = row := by
  induction entries with
  | nil => rfl
  | cons entry entries ih =>
    rw [List.foldl_cons, visit_of_not_reaches (h entry List.mem_cons_self)]
    exact ih fun e he => h e (List.mem_cons_of_mem _ he)

theorem foldl_visit_of_unique {entries : List (Text × List Capability)} (hn : entries.Nodup)
    (hentry : entry ∈ entries)
    (hone : ∀ e ∈ entries, Reaches systemId controlIds e row → e = entry) :
    entries.foldl (visit now systemId controlIds) row =
      visit now systemId controlIds row entry := by
  obtain ⟨before, after, rfl⟩ := List.append_of_mem hentry
  have hout := List.nodup_middle.mp hn
  rw [List.nodup_cons, List.mem_append] at hout
  -- the entry is in the dict once, so that nothing else reaches the row
  have hbefore : before.foldl (visit now systemId controlIds) row = row := by
    refine foldl_visit_of_not_reaches fun e he hreach => ?_
    have heq := hone e (by simp [he]) hreach
    exact hout.1 (.inl (heq ▸ he))
  rw [List.foldl_append, hbefore, List.foldl_cons]
  refine foldl_visit_of_not_reaches fun e he hreach => ?_
  rw [reaches_congr (key_of_authored visit_authored)] at hreach
  have heq := hone e (by simp [he]) hreach
  exact hout.1 (.inr (heq ▸ he))

theorem annotate_of_holds
    (h : ∀ row ∈ session.implementations, ∀ derived,
      covers controlIds entry = some (row.controlId, derived) → row.systemId = systemId →
        Holds derived entry.2 row) :
    annotate now systemId controlIds session entry = session := by
  unfold annotate
  cases hc : covers controlIds entry with
  | none => rfl
  | some covered =>
    obtain ⟨ctlRowId, derived⟩ := covered
    dsimp only
    cases hfind : session.implementations.find? (·.key = (systemId, ctlRowId)) with
    | none => rfl
    | some impl =>
      have hkey : impl.key = (systemId, ctlRowId) := by simpa using List.find?_some hfind
      obtain ⟨hsystem, rfl⟩ := Prod.mk.inj hkey
      exact if_pos (h impl (List.mem_of_find?_eq_some hfind) derived hc hsystem)

end Run

/-! ## What the queries and the maps of a run hold -/

section Maps

variable {db : Db} {systemId : Nat} {pairs : List (Capability × Text)} {controls : List Control}
  {canonicalIds : List Text} {c : Text}

theorem mem_capabilitiesForSystem {pair : Capability × Text} :
    pair ∈ capabilitiesForSystem db systemId ↔
      pair.1 ∈ db.capabilities ∧ Bound db systemId pair.1 ∧
        ∃ claim ∈ db.capabilityControls, claim.capabilityId = pair.1.id ∧
          claim.controlId = pair.2 := by
  simp only [capabilitiesForSystem, Bound, List.mem_flatMap, List.mem_filter, List.mem_map,
    decide_eq_true_eq]
  constructor
  · rintro ⟨cap, hcap, edge, ⟨hedge, hof⟩, component, ⟨hcomponent, hid⟩, system, ⟨hsystem, hsid⟩,
      claim, ⟨hclaim, hcid, hin, horg, hsome⟩, rfl⟩
    exact ⟨hcap, ⟨edge, hedge, hof, component, hcomponent, hid, hin, system, hsystem,
      hsid.trans hin, horg, hsome⟩, claim, hclaim, hcid, rfl⟩
  · rintro ⟨hcap, ⟨edge, hedge, hof, component, hcomponent, hid, hin, system, hsystem, hsid, horg,
      hsome⟩, claim, hclaim, hcid, hraw⟩
    exact ⟨pair.1, hcap, edge, ⟨hedge, hof⟩, component, ⟨hcomponent, hid⟩, system,
      ⟨hsystem, hsid.trans hin.symm⟩, claim, ⟨hclaim, hcid, hin, horg, hsome⟩,
      Prod.ext rfl hraw⟩

/-- The capabilities of the pairs whose control has the canonical id. -/
def claimants (pairs : List (Capability × Text)) (c : Text) : List Capability :=
  (pairs.filter fun pair => canonicalId pair.2 = some c).map Prod.fst

theorem mem_claimants_iff (h : pairs.Perm (capabilitiesForSystem db systemId)) {cap : Capability} :
    cap ∈ claimants pairs c ↔ cap ∈ claiming db systemId c := by
  simp only [claimants, claiming, List.mem_map, List.mem_filter, decide_eq_true_eq, h.mem_iff,
    mem_capabilitiesForSystem]
  constructor
  · rintro ⟨pair, ⟨⟨hcap, hbound, claim, hclaim, hof, hraw⟩, hc⟩, rfl⟩
    exact ⟨hcap, hbound, claim, hclaim, hof, hraw ▸ hc⟩
  · rintro ⟨hcap, hbound, claim, hclaim, hof, hc⟩
    exact ⟨(cap, claim.controlId), ⟨⟨hcap, hbound, claim, hclaim, hof, rfl⟩, hc⟩, rfl⟩

theorem rollUp_claimants (h : pairs.Perm (capabilitiesForSystem db systemId)) :
    rollUp ((claimants pairs c).map Capability.status) =
      rollUp ((claiming db systemId c).map Capability.status) := by
  refine rollUp_congr fun s => ?_
  simp only [List.mem_map, mem_claimants_iff h]

theorem contributors_perm {caps caps' : List Capability} (h : caps.Perm caps') :
    contributors caps = contributors caps' := by
  have hsorted : ∀ f : Capability → Text,
      sortedTexts (caps.map f) = sortedTexts (caps'.map f) := by
    intro f
    refine List.Perm.eq_of_pairwise (fun _ _ _ _ => Json.keyLe_antisymm)
      (List.pairwise_insertionSort _ _) (List.pairwise_insertionSort _ _) ?_
    exact ((List.perm_insertionSort _ _).trans (h.map f)).trans
      (List.perm_insertionSort _ _).symm
  unfold contributors
  rw [hsorted, hsorted]

theorem foldl_collect (pairs : List (Capability × Text)) (caps : List Capability) :
    pairs.foldl (fun v pair => some (v.getD [] ++ [pair.1])) (some caps) =
      some (caps ++ pairs.map Prod.fst) := by
  induction pairs generalizing caps with
  | nil => exact congrArg some (List.append_nil caps).symm
  | cons pair pairs ih =>
    rw [List.foldl_cons, ih, Option.getD_some, List.map_cons, List.append_assoc]
    rfl

theorem mem_group {caps : List Capability} :
    (c, caps) ∈ (group pairs).items ↔ caps = claimants pairs c ∧ claimants pairs c ≠ [] := by
  rw [Dict.mem_items_iff, group, Dict.get?_gather, claimants]
  cases pairs.filter fun pair => canonicalId pair.2 = some c with
  | nil =>
    refine iff_of_false (fun h => ?_) fun h => h.2 rfl
    cases h
  | cons pair rest =>
    rw [List.foldl_cons, foldl_collect]
    refine Iff.trans ?_ (and_iff_left (List.cons_ne_nil _ _)).symm
    exact ⟨fun h => (Option.some.inj h).symm, fun h => congrArg some h.symm⟩

theorem mem_group_keys : c ∈ (group pairs).items.map Prod.fst ↔ claimants pairs c ≠ [] := by
  constructor
  · intro h
    obtain ⟨⟨c', caps⟩, hmem, rfl⟩ := List.mem_map.mp h
    exact (mem_group.mp hmem).2
  · intro h
    exact List.mem_map_of_mem (mem_group.mpr ⟨rfl, h⟩)

theorem mem_controlPairs {id : Nat} :
    (c, id) ∈ (controls.filterMap fun control =>
        match canonicalId control.identifier with
        | some c => if c ∈ canonicalIds then some (c, control.id) else none
        | none => none) ↔
      c ∈ canonicalIds ∧ ∃ control ∈ controls, canonicalId control.identifier = some c ∧
        control.id = id := by
  rw [List.mem_filterMap]
  constructor
  · rintro ⟨control, hcontrol, h⟩
    cases hc : canonicalId control.identifier with
    | none =>
      rw [hc] at h
      cases h
    | some c' =>
      rw [hc] at h
      dsimp only at h
      split at h
      · next hin =>
        obtain ⟨rfl, rfl⟩ := Prod.mk.inj (Option.some.inj h)
        exact ⟨hin, control, hcontrol, hc, rfl⟩
      · cases h
  · rintro ⟨hin, control, hcontrol, hc, rfl⟩
    refine ⟨control, hcontrol, ?_⟩
    rw [hc]
    exact if_pos hin

theorem control_of_get? {id : Nat}
    (h : (controlRowsByCanonical controls canonicalIds).get? c = some id) :
    ∃ control ∈ controls, canonicalId control.identifier = some c ∧ control.id = id := by
  rw [controlRowsByCanonical, Dict.get?_ofPairs] at h
  obtain ⟨⟨c', id'⟩, hfind, rfl⟩ := Option.map_eq_some_iff.mp h
  have hmem := List.mem_reverse.mp (List.mem_of_find?_eq_some hfind)
  obtain rfl : c' = c := by simpa using List.find?_some hfind
  exact (mem_controlPairs.mp hmem).2

theorem get?_isSome {control : Control} (hin : c ∈ canonicalIds) (hcontrol : control ∈ controls)
    (hc : canonicalId control.identifier = some c) :
    ((controlRowsByCanonical controls canonicalIds).get? c).isSome := by
  rw [controlRowsByCanonical, Dict.get?_ofPairs, Option.isSome_map, List.find?_isSome]
  have hmem := mem_controlPairs.mpr ⟨hin, control, hcontrol, hc, rfl⟩
  exact ⟨(c, control.id), List.mem_reverse.mpr hmem, decide_eq_true rfl⟩

theorem get?_append_singleton {control : Control} (hin : c ∈ canonicalIds)
    (hc : canonicalId control.identifier = some c) :
    (controlRowsByCanonical (controls ++ [control]) canonicalIds).get? c = some control.id := by
  have hlast : List.filterMap (fun control : Control =>
      match canonicalId control.identifier with
      | some c => if c ∈ canonicalIds then some (c, control.id) else none
      | none => none) [control] = [(c, control.id)] := by
    rw [List.filterMap_cons, hc, List.filterMap_nil]
    dsimp only
    rw [if_pos hin]
  rw [controlRowsByCanonical, Dict.get?_ofPairs, List.filterMap_append, hlast, List.reverse_append,
    List.reverse_singleton, List.singleton_append, List.find?_cons_of_pos (by simp)]
  rfl

end Maps

/-! ## What a run leaves behind -/

section Settle

variable {now : Int} {systemId : Nat} {pairs : List (Capability × Text)} {controls : List Control}
  {row : ControlImplementation} {control : Control} {c : Text}

def settle (now : Int) (systemId : Nat) (pairs : List (Capability × Text))
    (controls : List Control) (row : ControlImplementation) : ControlImplementation :=
  (group pairs).items.foldl (visit now systemId (controlIds pairs controls))
    (clear systemId (coveredCtlIds pairs controls) row)

theorem clear_authored {coveredIds : List Nat} :
    (clear systemId coveredIds row).authored = row.authored := by
  unfold clear
  split <;> rfl

theorem settle_authored : (settle now systemId pairs controls row).authored = row.authored := by
  rw [settle, foldl_visit_authored, clear_authored]

theorem settle_systemId : (settle now systemId pairs controls row).systemId = row.systemId :=
  congrArg Prod.fst (key_of_authored settle_authored)

theorem settle_controlId : (settle now systemId pairs controls row).controlId = row.controlId :=
  congrArg Prod.snd (key_of_authored settle_authored)

theorem deriveForSystem_implementations {rows : List ControlImplementation}
    (hn : (rows.map ControlImplementation.key).Nodup) :
    (deriveForSystem now systemId pairs controls rows).implementations =
      rows.map (settle now systemId pairs controls) := by
  have hkeys : (rows.map (clear systemId (coveredCtlIds pairs controls))).map
      ControlImplementation.key = rows.map ControlImplementation.key := by
    rw [List.map_map]
    exact List.map_congr_left fun row _ => key_of_authored clear_authored
  rw [deriveForSystem, foldl_annotate _ (hkeys.symm ▸ hn), clearStale, List.map_map]
  rfl

theorem settle_of_ne (h : row.systemId ≠ systemId) :
    settle now systemId pairs controls row = row := by
  have hclear : clear systemId (coveredCtlIds pairs controls) row = row :=
    if_neg fun hstale => h hstale.1
  rw [settle, hclear]
  exact foldl_visit_of_not_reaches fun e _ ⟨_, _, hs⟩ => h hs

theorem entry_of_reaches (hid : (controls.map Control.id).Nodup) (hcontrol : control ∈ controls)
    (hrow : control.id = row.controlId) {entry : Text × List Capability}
    (hentry : entry ∈ (group pairs).items)
    (h : Reaches systemId (controlIds pairs controls) entry row) :
    canonicalId control.identifier = some entry.1 ∧ entry.2 = claimants pairs entry.1 ∧
      (controlIds pairs controls).get? entry.1 = some row.controlId ∧
      ∃ derived, rollUp ((claimants pairs entry.1).map Capability.status) = some derived := by
  obtain ⟨derived, hcovers, -⟩ := h
  obtain ⟨id, hget, hmap⟩ := Option.bind_eq_some_iff.mp hcovers
  obtain ⟨derived', hroll, heq⟩ := Option.map_eq_some_iff.mp hmap
  obtain ⟨rfl, rfl⟩ := Prod.mk.inj heq
  obtain ⟨control', hcontrol', hc, hid'⟩ := control_of_get? hget
  obtain rfl := List.inj_on_of_nodup_map hid hcontrol' hcontrol (hid'.trans hrow.symm)
  have hcaps := (mem_group.mp (show (entry.1, entry.2) ∈ _ from hentry)).1
  exact ⟨hc, hcaps, hget, derived', hcaps ▸ hroll⟩

theorem holds_settle (hid : (controls.map Control.id).Nodup) (hcontrol : control ∈ controls)
    (hrow : control.id = row.controlId) (hs : row.systemId = systemId)
    (hc : canonicalId control.identifier = some c)
    (hget : (controlIds pairs controls).get? c = some row.controlId) {derived : ImplStatus}
    (hroll : rollUp ((claimants pairs c).map Capability.status) = some derived) :
    Holds derived (claimants pairs c) (settle now systemId pairs controls row) := by
  have hne : claimants pairs c ≠ [] := by
    intro hnil
    rw [hnil] at hroll
    cases hroll
  have hentry := mem_group.mpr ⟨rfl, hne⟩
  have hcovers : covers (controlIds pairs controls) (c, claimants pairs c) =
      some (row.controlId, derived) := by
    rw [covers, hget, Option.bind_some, hroll, Option.map_some]
  -- the row is covered, so that it is not cleared first
  have hclear : clear systemId (coveredCtlIds pairs controls) row = row := by
    refine if_neg fun hstale => hstale.2.2 ?_
    exact List.mem_filterMap.mpr ⟨_, hentry, by rw [hcovers, Option.map_some]⟩
  rw [settle, hclear, foldl_visit_of_unique ((group pairs).nodup.of_map) hentry]
  · exact holds_visit hcovers hs
  · intro e he hreach
    obtain ⟨hc', hcaps, -⟩ := entry_of_reaches hid hcontrol hrow he hreach
    obtain rfl := Option.some.inj (hc.symm.trans hc')
    exact Prod.ext rfl hcaps

theorem derivedStatus_settle_eq_none (hid : (controls.map Control.id).Nodup)
    (hcontrol : control ∈ controls) (hrow : control.id = row.controlId)
    (hs : row.systemId = systemId)
    (h : ∀ c, canonicalId control.identifier = some c →
      (controlIds pairs controls).get? c = some row.controlId →
        rollUp ((claimants pairs c).map Capability.status) = none) :
    (settle now systemId pairs controls row).derivedStatus = none := by
  have hout : ∀ e ∈ (group pairs).items,
      ¬Reaches systemId (controlIds pairs controls) e row := by
    intro e he hreach
    obtain ⟨hc, -, hget, derived, hroll⟩ := entry_of_reaches hid hcontrol hrow he hreach
    rw [h _ hc hget] at hroll
    cases hroll
  rw [settle, foldl_visit_of_not_reaches fun e he hreach =>
    hout e he ((reaches_congr (key_of_authored clear_authored)).mp hreach)]
  unfold clear
  split
  · rfl
  · next hstale =>
    -- a status is left only on a row that an entry covers
    by_contra hsome
    refine hstale ⟨hs, Option.isSome_iff_ne_none.mpr hsome, fun hcovered => ?_⟩
    obtain ⟨e, he, hcovers⟩ := List.mem_filterMap.mp hcovered
    obtain ⟨⟨id, derived⟩, hcovers, rfl⟩ := Option.map_eq_some_iff.mp hcovers
    exact hout e he ⟨derived, hcovers, hs⟩

/-- **What a run derives for a row**: the status that the claimants of its control roll up to,
where the map has that control for the canonical id, and nothing where it has another spelling. -/
theorem derivedStatus_settle (hid : (controls.map Control.id).Nodup)
    (hcontrol : control ∈ controls) (hrow : control.id = row.controlId)
    (hs : row.systemId = systemId) :
    (settle now systemId pairs controls row).derivedStatus =
      (canonicalId control.identifier).bind fun c =>
        if (controlIds pairs controls).get? c = some row.controlId then
          rollUp ((claimants pairs c).map Capability.status)
        else none := by
  cases hc : canonicalId control.identifier with
  | none =>
    refine derivedStatus_settle_eq_none hid hcontrol hrow hs fun c hc' => ?_
    rw [hc] at hc'
    cases hc'
  | some c =>
    rw [Option.bind_some]
    split
    · next hget =>
      cases hroll : rollUp ((claimants pairs c).map Capability.status) with
      | none =>
        refine derivedStatus_settle_eq_none hid hcontrol hrow hs fun c' hc' _ => ?_
        obtain rfl := Option.some.inj (hc.symm.trans hc')
        exact hroll
      | some derived => exact (holds_settle hid hcontrol hrow hs hc hget hroll).1
    · next hget =>
      refine derivedStatus_settle_eq_none hid hcontrol hrow hs fun c' hc' hget' => ?_
      obtain rfl := Option.some.inj (hc.symm.trans hc')
      exact absurd hget' hget

end Settle

/-! ## Every spelling -/

/-- A derivation annotates every row of the system with what its claimants roll up to, writes no
other column and no other row, makes none, and finds nothing to do the second time. -/
def Annotates (db : Db) (systemId : Nat) : Prop :=
  ∀ now pairs controls, pairs.Perm (capabilitiesForSystem db systemId) →
    controls.Perm db.controls →
    let run := deriveForSystem now systemId pairs controls db.implementations
    List.Forall₂ (fun row row' => row'.authored = row.authored ∧
        if row.systemId = systemId then row'.derivedStatus = expected db systemId row
        else row' = row) db.implementations run.implementations ∧
      ∀ now' pairs' controls', pairs'.Perm (capabilitiesForSystem db systemId) →
        controls'.Perm db.controls →
          deriveForSystem now' systemId pairs' controls' run.implementations =
            ⟨run.implementations, 0⟩

/-- `roll_up` reads a set of statuses, and is monotone in each. -/
def RollsUp : Prop :=
  (∀ statuses statuses' : List ImplStatus, (∀ s, s ∈ statuses ↔ s ∈ statuses') →
    rollUp statuses = rollUp statuses') ∧
  ∀ statuses statuses' : List ImplStatus, List.Forall₂ Improves statuses statuses' →
    Option.Rel (fun d d' => rank d ≤ rank d') (rollUp statuses) (rollUp statuses')

/-- No row of the system is on a control that a capability claims, as applicable, and that the
catalog has under another spelling too. -/
def OneSpelling (db : Db) (systemId : Nat) : Prop :=
  ∀ row ∈ db.implementations, row.systemId = systemId →
    ∀ control ∈ db.controls, control.id = row.controlId →
      ∀ c, canonicalId control.identifier = some c →
        (∃ cap ∈ db.capabilities, Bound db systemId cap ∧ Claims db cap c ∧
          cap.status ≠ .notApplicable) →
        ∀ other ∈ db.controls, canonicalId other.identifier = some c → other = control

section Spelling

variable {db : Db} {now : Int} {systemId : Nat} {pairs : List (Capability × Text)}
  {controls : List Control} {row : ControlImplementation} {control : Control} {c : Text}

theorem expected_eq (hcontrol : control ∈ db.controls) (hrow : control.id = row.controlId) :
    expected db systemId row = (canonicalId control.identifier).bind fun c =>
      rollUp ((claiming db systemId c).map Capability.status) := by
  have hfind : db.controls.find? (·.id = row.controlId) = some control :=
    hrow ▸ find_of_nodup db.control_id hcontrol
  rw [expected, hfind, Option.bind_some]

theorem rollUp_claiming_isSome :
    (rollUp ((claiming db systemId c).map Capability.status)).isSome ↔
      ∃ cap ∈ db.capabilities, Bound db systemId cap ∧ Claims db cap c ∧
        cap.status ≠ .notApplicable := by
  rw [rollUp_isSome_iff]
  constructor
  · rintro ⟨s, hs, hne⟩
    obtain ⟨cap, hcap, rfl⟩ := List.mem_map.mp hs
    obtain ⟨hmem, hin⟩ := List.mem_filter.mp hcap
    obtain ⟨hbound, hclaims⟩ := of_decide_eq_true hin
    exact ⟨cap, hmem, hbound, hclaims, hne⟩
  · rintro ⟨cap, hmem, hbound, hclaims, hne⟩
    exact ⟨cap.status, List.mem_map_of_mem (List.mem_filter.mpr
      ⟨hmem, decide_eq_true ⟨hbound, hclaims⟩⟩), hne⟩

theorem claimants_ne_nil (hpairs : pairs.Perm (capabilitiesForSystem db systemId))
    (h : (rollUp ((claiming db systemId c).map Capability.status)).isSome) :
    claimants pairs c ≠ [] := by
  intro hnil
  rw [← rollUp_claimants hpairs, hnil] at h
  cases h

theorem get?_of_oneSpelling (hone : OneSpelling db systemId)
    (hpairs : pairs.Perm (capabilitiesForSystem db systemId))
    (hcontrols : controls.Perm db.controls) (hmem : row ∈ db.implementations)
    (hs : row.systemId = systemId) (hcontrol : control ∈ db.controls)
    (hrow : control.id = row.controlId) (hc : canonicalId control.identifier = some c)
    (hroll : (rollUp ((claiming db systemId c).map Capability.status)).isSome) :
    (controlIds pairs controls).get? c = some row.controlId := by
  have hsome : ((controlIds pairs controls).get? c).isSome :=
    get?_isSome (mem_group_keys.mpr (claimants_ne_nil hpairs hroll))
      (hcontrols.mem_iff.mpr hcontrol) hc
  obtain ⟨id, hget⟩ := Option.isSome_iff_exists.mp hsome
  obtain ⟨other, hother, hc', rfl⟩ := control_of_get? hget
  have heq := hone row hmem hs control hcontrol hrow c hc (rollUp_claiming_isSome.mp hroll)
    other (hcontrols.mem_iff.mp hother) hc'
  rw [hget, heq, hrow]

theorem derivedStatus_eq_expected (hone : OneSpelling db systemId)
    (hpairs : pairs.Perm (capabilitiesForSystem db systemId))
    (hcontrols : controls.Perm db.controls) (hmem : row ∈ db.implementations)
    (hs : row.systemId = systemId) :
    (settle now systemId pairs controls row).derivedStatus = expected db systemId row := by
  obtain ⟨control, hcontrol, hrow⟩ := db.implementation_control row hmem
  rw [derivedStatus_settle ((hcontrols.map _).nodup_iff.mpr db.control_id)
    (hcontrols.mem_iff.mpr hcontrol) hrow hs, expected_eq hcontrol hrow]
  refine Option.bind_congr fun c hc => ?_
  rw [rollUp_claimants hpairs]
  split
  · rfl
  · next hget =>
    by_contra hne
    exact hget (get?_of_oneSpelling hone hpairs hcontrols hmem hs hcontrol hrow hc
      (Option.isSome_iff_ne_none.mpr (Ne.symm hne)))

theorem foldl_annotate_of_holds {session : Session} {ids : Dict Text Nat}
    {entries : List (Text × List Capability)}
    (h : ∀ entry ∈ entries, ∀ row ∈ session.implementations, ∀ derived,
      covers ids entry = some (row.controlId, derived) → row.systemId = systemId →
        Holds derived entry.2 row) :
    entries.foldl (annotate now systemId ids) session = session := by
  induction entries with
  | nil => rfl
  | cons entry entries ih =>
    rw [List.foldl_cons, annotate_of_holds (h entry List.mem_cons_self)]
    exact ih fun e he => h e (List.mem_cons_of_mem _ he)

theorem clearStale_of_none {coveredIds : List Nat} {rows : List ControlImplementation}
    (h : ∀ row ∈ rows, ¬Stale systemId coveredIds row) :
    clearStale systemId coveredIds rows = ⟨rows, 0⟩ := by
  have hrows : rows.map (clear systemId coveredIds) = rows :=
    (List.map_congr_left fun row hrow => if_neg (h row hrow)).trans (List.map_id' rows)
  have hcount : rows.countP (Stale systemId coveredIds ·) = 0 :=
    List.countP_eq_zero.mpr fun row hrow => by simpa using h row hrow
  rw [clearStale, hrows, hcount]

theorem not_stale_settle (hone : OneSpelling db systemId)
    {pairs' : List (Capability × Text)} {controls' : List Control}
    (hpairs : pairs.Perm (capabilitiesForSystem db systemId))
    (hcontrols : controls.Perm db.controls)
    (hpairs' : pairs'.Perm (capabilitiesForSystem db systemId))
    (hcontrols' : controls'.Perm db.controls) (hmem : row ∈ db.implementations) :
    ¬Stale systemId (coveredCtlIds pairs' controls') (settle now systemId pairs controls row) := by
  rintro ⟨hs, hsome, hout⟩
  rw [settle_systemId] at hs
  obtain ⟨control, hcontrol, hrow⟩ := db.implementation_control row hmem
  rw [derivedStatus_eq_expected hone hpairs hcontrols hmem hs, expected_eq hcontrol hrow] at hsome
  obtain ⟨derived, hexpected⟩ := Option.isSome_iff_exists.mp hsome
  obtain ⟨c, hc, hroll⟩ := Option.bind_eq_some_iff.mp hexpected
  have hsome : (rollUp ((claiming db systemId c).map Capability.status)).isSome := by
    rw [hroll]
    rfl
  have hget := get?_of_oneSpelling hone hpairs' hcontrols' hmem hs hcontrol hrow hc hsome
  refine hout (List.mem_filterMap.mpr ⟨(c, claimants pairs' c),
    mem_group.mpr ⟨rfl, claimants_ne_nil hpairs' hsome⟩, ?_⟩)
  rw [covers, hget, Option.bind_some, rollUp_claimants hpairs', hroll, settle_controlId]
  rfl

theorem holds_settle_again (hone : OneSpelling db systemId)
    {pairs' : List (Capability × Text)} {controls' : List Control}
    (hpairs : pairs.Perm (capabilitiesForSystem db systemId))
    (hcontrols : controls.Perm db.controls)
    (hpairs' : pairs'.Perm (capabilitiesForSystem db systemId))
    (hcontrols' : controls'.Perm db.controls) (hmem : row ∈ db.implementations)
    (hs : row.systemId = systemId) {entry : Text × List Capability}
    (hentry : entry ∈ (group pairs').items) {derived : ImplStatus}
    (hcovers : covers (controlIds pairs' controls') entry = some (row.controlId, derived)) :
    Holds derived entry.2 (settle now systemId pairs controls row) := by
  have hid : (controls'.map Control.id).Nodup := (hcontrols'.map _).nodup_iff.mpr db.control_id
  obtain ⟨control, hcontrol, hrow⟩ := db.implementation_control row hmem
  obtain ⟨hc, hcaps, hget', derived', hroll'⟩ := entry_of_reaches hid
    (hcontrols'.mem_iff.mpr hcontrol) hrow hentry ⟨derived, hcovers, hs⟩
  obtain rfl : derived' = derived := by
    rw [covers, hget', hcaps, Option.bind_some, hroll', Option.map_some] at hcovers
    exact (Prod.mk.inj (Option.some.inj hcovers)).2
  have hroll : rollUp ((claimants pairs entry.1).map Capability.status) = some derived' := by
    rw [rollUp_claimants hpairs, ← rollUp_claimants hpairs', hroll']
  have hget := get?_of_oneSpelling hone hpairs hcontrols hmem hs hcontrol hrow hc
    (by rw [← rollUp_claimants hpairs, hroll]; rfl)
  -- the claimants may be answered in another order, and are sorted
  have hperm : (claimants pairs entry.1).Perm (claimants pairs' entry.1) :=
    ((hpairs.trans hpairs'.symm).filter _).map _
  have hholds : Holds derived' (claimants pairs entry.1) (settle now systemId pairs controls row) :=
    holds_settle ((hcontrols.map _).nodup_iff.mpr db.control_id) (hcontrols.mem_iff.mpr hcontrol)
      hrow hs hc hget hroll
  rw [Holds, contributors_perm hperm, ← hcaps] at hholds
  exact hholds

/-- **A second run**, of what the first left, touches nothing. -/
theorem deriveForSystem_settled (hone : OneSpelling db systemId) {now' : Int}
    {pairs' : List (Capability × Text)} {controls' : List Control}
    (hpairs : pairs.Perm (capabilitiesForSystem db systemId))
    (hcontrols : controls.Perm db.controls)
    (hpairs' : pairs'.Perm (capabilitiesForSystem db systemId))
    (hcontrols' : controls'.Perm db.controls) :
    deriveForSystem now' systemId pairs' controls'
        (db.implementations.map (settle now systemId pairs controls)) =
      ⟨db.implementations.map (settle now systemId pairs controls), 0⟩ := by
  rw [deriveForSystem, clearStale_of_none]
  · refine foldl_annotate_of_holds fun entry hentry row' hrow' derived hcovers hs => ?_
    obtain ⟨row, hrow, rfl⟩ := List.mem_map.mp hrow'
    rw [settle_controlId] at hcovers
    rw [settle_systemId] at hs
    exact holds_settle_again hone hpairs hcontrols hpairs' hcontrols' hrow hs hentry hcovers
  · intro row' hrow'
    obtain ⟨row, hrow, rfl⟩ := List.mem_map.mp hrow'
    exact not_stale_settle hone hpairs hcontrols hpairs' hcontrols' hrow

theorem annotates_of_oneSpelling (hone : OneSpelling db systemId) : Annotates db systemId := by
  intro now pairs controls hpairs hcontrols
  dsimp only
  rw [deriveForSystem_implementations db.implementation_key]
  refine ⟨?_, fun now' pairs' controls' => deriveForSystem_settled hone hpairs hcontrols⟩
  rw [List.forall₂_map_right_iff, List.forall₂_same]
  intro row hrow
  refine ⟨settle_authored, ?_⟩
  split
  · next hs => exact derivedStatus_eq_expected hone hpairs hcontrols hrow hs
  · next hs => exact settle_of_ne hs

theorem oneSpelling_of_annotates (h : Annotates db systemId) : OneSpelling db systemId := by
  intro row hmem hs control hcontrol hrow c hc hclaimed other hother hc'
  by_contra hne
  have hsome := rollUp_claiming_isSome.mpr hclaimed
  -- the catalog with the other spelling answered last
  obtain ⟨before, after, hsplit⟩ := List.append_of_mem hother
  have hcontrols : ((before ++ after) ++ [other]).Perm db.controls := by
    rw [hsplit, List.append_assoc]
    exact (List.perm_append_singleton other after).append_left before
  obtain ⟨hrows, -⟩ := h 0 _ _ (.refl _) hcontrols
  rw [deriveForSystem_implementations db.implementation_key, List.forall₂_map_right_iff,
    List.forall₂_same] at hrows
  have hstatus := (hrows row hmem).2
  rw [if_pos hs, expected_eq hcontrol hrow, derivedStatus_settle
    ((hcontrols.map _).nodup_iff.mpr db.control_id) (hcontrols.mem_iff.mpr hcontrol) hrow hs, hc,
    Option.bind_some, Option.bind_some, if_neg] at hstatus
  · rw [← hstatus] at hsome
    cases hsome
  · rw [controlIds, get?_append_singleton (mem_group_keys.mpr (claimants_ne_nil (.refl _) hsome))
      hc']
    intro heq
    exact hne (List.inj_on_of_nodup_map db.control_id hother hcontrol
      ((Option.some.inj heq).trans hrow.symm))

/-- **A derivation annotates every spelling exactly where there is one**: no row is on a claimed
control that the catalog has twice. What `roll_up` says holds of every list. -/
theorem annotates_iff (db : Db) (systemId : Nat) :
    Annotates db systemId ∧ RollsUp ↔ OneSpelling db systemId :=
  ⟨fun h => oneSpelling_of_annotates h.1, fun h => ⟨annotates_of_oneSpelling h,
    fun _ _ => rollUp_congr, fun _ _ => rollUp_monotone⟩⟩

end Spelling

/-! ## A catalog with both spellings -/

def twoSpellings : List Control := [⟨1, "AC-02".toList⟩, ⟨2, "AC-2".toList⟩]

def plannedRow : ControlImplementation := ⟨1, 1, 1, .planned, none, none, none⟩

theorem twoSpellings_id : (twoSpellings.map Control.id).Nodup := by decide

theorem plannedRow_key : ([plannedRow].map ControlImplementation.key).Nodup :=
  List.nodup_singleton _

theorem plannedRow_control :
    ∀ row ∈ [plannedRow], ∃ control ∈ twoSpellings, control.id = row.controlId := by
  intro row hrow
  obtain rfl := List.mem_singleton.mp hrow
  exact ⟨⟨1, "AC-02".toList⟩, List.mem_cons_self, rfl⟩

/-- A catalog with both, and a capability of the system that claims the control. -/
def bothSpellings : Db where
  systems := [⟨1, some 1⟩]
  systemComponents := [⟨1, 1⟩]
  capabilities := [⟨1, some 1, "accounts".toList, .implemented⟩]
  capabilityComponents := [⟨1, 1⟩]
  capabilityControls := [⟨1, "AC-2".toList⟩]
  controls := twoSpellings
  implementations := [plannedRow]
  control_id := twoSpellings_id
  implementation_key := plannedRow_key
  implementation_control := plannedRow_control

/-- The map has the control without padding, and the row on the other one is left out. -/
theorem bothSpellings_not_annotated : ¬(Annotates bothSpellings 1 ∧ RollsUp) := by
  rintro ⟨h, -⟩
  obtain ⟨hrows, -⟩ := h 0 _ _ (.refl _) (.refl _)
  obtain ⟨row', hrow', -, hstatus⟩ := exists_of_forall₂ hrows List.mem_cons_self
  have hleft : ∀ row ∈ (deriveForSystem 0 1 (capabilitiesForSystem bothSpellings 1)
      bothSpellings.controls bothSpellings.implementations).implementations,
      row.derivedStatus = none := by decide
  have hexpected : expected bothSpellings 1 plannedRow = some .implemented := by decide
  rw [if_pos (show plannedRow.systemId = 1 from rfl), hleft row' hrow', hexpected] at hstatus
  cases hstatus

end Concord.Capabilities
