import Concord.Base.Run
import Concord.Cci.Resolve
import Concord.Python.Columns

/-!
# Loading the CCI list

`load_cci_list` of `ccf/cci/service.py`, and the two queries of what it has stored. A list is
loaded in two passes: its entries are upserted by their identifier, then the references of those
entries are replaced. Nothing is done where every stored row was read from this very file.

`loads_iff` is when every load of a run leaves exactly what its list says, and leaves a second
load of the list nothing to do. `repeated_reference` is a list that is not loaded at all.
-/

namespace Concord.Cci

open Concord.Base Concord.Python

/-! ## The tables -/

/-- A row of `cci_items`. -/
structure CciItemRow where
  id : Nat
  cci : Text
  status : Text
  type : Text
  contributor : Option Text
  publishedDate : Option Date
  definition : Text
  sourceVersion : Text
  sourceSha256 : Text

/-- A row of `cci_control_refs`. -/
structure CciControlRef where
  cciId : Nat
  revision : Text
  rawIndex : Text
  resolved : ResolvedReference

structure Tables where
  items : List CciItemRow
  refs : List CciControlRef

/-- What a `String(n)` takes. -/
def columnTakes (n : Nat) (s : Text) : Bool := fits n s && nulFree s

def CciItemRow.storable (r : CciItemRow) : Bool :=
  columnTakes 16 r.cci && columnTakes 16 r.status && columnTakes 32 r.type &&
    r.contributor.all (columnTakes 128) && nulFree r.definition &&
      columnTakes 32 r.sourceVersion && columnTakes 64 r.sourceSha256

def CciControlRef.storable (r : CciControlRef) : Bool :=
  columnTakes 64 r.revision && columnTakes 128 r.rawIndex &&
    r.resolved.canonicalControl.all (columnTakes 32) &&
      r.resolved.oscalControlId.all (columnTakes 32) &&
        r.resolved.oscalPartId.all (columnTakes 64)

/-- `uq_cci_ref`. -/
def CciControlRef.key (r : CciControlRef) : Nat × Text × Text := (r.cciId, r.revision, r.rawIndex)

/-! ## Loading -/

/-- `LoadResult`. -/
structure LoadResult where
  version : Text
  sourceSha256 : Text
  itemsCreated : Nat
  itemsUpdated : Nat
  refsWritten : Nat
  refsUnresolved : Nat
  skippedUnchanged : Bool

def CciItem.row (list : CciList) (i : CciItem) (id : Nat) : CciItemRow where
  id := id
  cci := i.cci
  status := i.status
  type := i.type
  contributor := i.contributor
  publishedDate := i.publishedDate
  definition := i.definition
  sourceVersion := list.version
  sourceSha256 := list.sourceSha256

namespace CciList

variable (list : CciList)

def last (cci : Text) : Option CciItem := list.items.reverse.find? fun i => i.cci = cci

/-- Every stored row was read from this file, and there is one. -/
def unchanged (stored : List CciItemRow) : Bool :=
  !stored.isEmpty && stored.all fun r => r.sourceSha256 = list.sourceSha256

def fresh (stored : List CciItemRow) : List CciItem :=
  list.items.filter fun i => i.cci ∉ stored.map CciItemRow.cci

def rows (stored : List CciItemRow) : List CciItemRow :=
  (stored.map fun r => ((list.last r.cci).map fun i => i.row list r.id).getD r) ++
    ((list.fresh stored).zipIdx stored.length).map fun p => p.1.row list p.2

def touched (stored : List CciItemRow) : List CciItemRow :=
  (list.rows stored).filter fun r => r.cci ∈ list.items.map CciItem.cci

end CciList

section Load

variable (lib : Library) (catalog : OscalCatalog)

/-- A reference as it is resolved: only Rev. 5 has the parts of the catalog. -/
def resolveIn (r : CciReference) : ResolvedReference :=
  resolveReference lib r.rawIndex (catalog.controlIds lib)
    (if r.revision = ['5'] then catalog.partIds else [])

def newRefs (list : CciList) (rows : List CciItemRow) : List CciControlRef :=
  list.items.flatMap fun i =>
    match rows.find? fun r => r.cci = i.cci with
    | none => []
    | some row =>
      i.references.map fun r => ⟨row.id, r.revision, r.rawIndex, resolveIn lib catalog r⟩

/-- `load_cci_list`; `none` where the database refuses what is written. -/
def loadCciList (list : CciList) (t : Tables) : Option (Tables × LoadResult) :=
  if list.unchanged t.items then
    some (t, ⟨list.version, list.sourceSha256, 0, 0, 0, 0, true⟩)
  else
    let rows := list.rows t.items
    let written := newRefs lib catalog list rows
    let refs := (t.refs.filter fun r => r.cciId ∉ (list.touched t.items).map CciItemRow.id) ++
      written
    let created := (list.fresh t.items).length
    if (list.touched t.items).all CciItemRow.storable ∧ (rows.map CciItemRow.cci).Nodup ∧
        written.all CciControlRef.storable ∧ (refs.map CciControlRef.key).Nodup then
      some (⟨rows, refs⟩,
        { version := list.version
          sourceSha256 := list.sourceSha256
          itemsCreated := created
          itemsUpdated := list.items.length - created
          refsWritten := written.length
          refsUnresolved := written.countP fun r =>
            r.revision = ['5'] ∧ r.resolved.oscalPartId = none
          skippedUnchanged := false })
    else none

end Load

/-! ## Queries -/

/-- `CciCoverage`. -/
structure CciCoverage where
  cci : Text
  status : Text
  type : Text
  definition : Text
  rawIndex : Text
  oscalPartId : Option Text

/-- `order_by(CciItemRow.cci, CciControlRef.raw_index)`. -/
def CciCoverage.le (a b : CciCoverage) : Bool :=
  if a.cci = b.cci then Json.keyLe a.rawIndex b.rawIndex else Json.keyLe a.cci b.cci

namespace Tables

variable (t : Tables)

def refsOf (row : CciItemRow) (revision : Text) : List CciControlRef :=
  t.refs.filter fun r => r.cciId = row.id ∧ r.revision = revision

/-- `ccis_for_control`. -/
def ccisForControl (canonicalControl revision : Text) : List CciCoverage :=
  (t.items.flatMap fun row =>
    ((t.refsOf row revision).filter fun r =>
      r.resolved.canonicalControl = some canonicalControl).map fun r =>
        ⟨row.cci, row.status, row.type, row.definition, r.rawIndex,
          r.resolved.oscalPartId⟩).insertionSort (CciCoverage.le · ·)

/-- `controls_for_cci`. -/
def controlsForCci (cci revision : Text) : List Text :=
  Packs.Catalog.sorted (((t.items.filter fun row => row.cci = cci).flatMap fun row =>
    (t.refsOf row revision).filterMap fun r => r.resolved.canonicalControl).filter (· ≠ []))

end Tables

/-! ## What a list says -/

section Published

variable (lib : Library) (catalog : OscalCatalog) (list : CciList)

def CciItem.coverage (i : CciItem) (r : CciReference) : CciCoverage :=
  ⟨i.cci, i.status, i.type, i.definition, r.rawIndex, (resolveIn lib catalog r).oscalPartId⟩

/-- The list has this entry under this control. -/
def Covers (control revision : Text) (c : CciCoverage) : Prop :=
  ∃ i ∈ list.items, ∃ r ∈ i.references, r.revision = revision ∧
    (resolveIn lib catalog r).canonicalControl = some control ∧ c = i.coverage lib catalog r

def Refers (cci revision control : Text) : Prop :=
  ∃ i ∈ list.items, i.cci = cci ∧ ∃ r ∈ i.references, r.revision = revision ∧
    (resolveIn lib catalog r).canonicalControl = some control

/-- The tables say what the list says. -/
structure Converged (t : Tables) : Prop where
  ccis : ∀ control revision c,
    c ∈ t.ccisForControl control revision ↔ Covers lib catalog list control revision c
  controls : ∀ cci revision control,
    control ∈ t.controlsForCci cci revision ↔ Refers lib catalog list cci revision control

end Published

/-! ## Runs -/

structure Sys where
  tables : Tables
  /-- The list that was written last, and the catalog it was resolved against. -/
  last : Option (CciList × OscalCatalog)

inductive Action
  | load (body : Bytes) (catalog : OscalCatalog)

def start : Sys := ⟨⟨[], []⟩, none⟩

def step (lib : Library) (s : Sys) : Action → Option Sys
  | .load body catalog =>
    match readCciHtml lib body with
    | none => some s
    | some list =>
      match loadCciList lib catalog list s.tables with
      | none => some s
      | some (t, r) =>
        some ⟨t, if r.skippedUnchanged then s.last else some (list, catalog)⟩

/-- What is claimed of a load: it returns, the tables say what the list says, and the same load
again writes nothing. -/
def Loads (lib : Library) (s : Sys) : Action → Prop
  | .load body catalog => ∀ list, readCciHtml lib body = some list →
      ∃ t r, loadCciList lib catalog list s.tables = some (t, r) ∧ Converged lib catalog list t ∧
        ∃ r', loadCciList lib catalog list t = some (t, r') ∧ r'.skippedUnchanged = true

end Concord.Cci
