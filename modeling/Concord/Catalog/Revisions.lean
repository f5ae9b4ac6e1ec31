import Concord.Base.Run
import Concord.Catalog.Oscal
import Concord.Python.Columns

/-!
# Capturing catalog revisions

`materialize_revision` and `import_revision` of `ccf/catalog/revisions.py`, for one source. A
revision is named after the first eight digits of the hash of its catalog document, and a name
that is there is answered with the row that has it. A run of offline imports is faithful if no
two different sets of documents have the same name (`imports_faithful`); sets that differ in a
baseline profile only do have it.
-/

namespace Concord.Catalog

open Concord.Python Concord.Base

def manifestName : Text := "MANIFEST.json".toList

/-- A document of a revision: a JSON file, but not the manifest. -/
def isDocument (name : Text) : Bool := ".json".toList <:+ name ∧ name ≠ manifestName

/-- The documents of a revision, by name. -/
structure Documents where
  files : Dict Text Bytes
  named : ∀ name body, files.get? name = some body → isDocument name = true
  nonempty : files.items ≠ []

def sortedItems {α : Type} (d : Dict Text α) : List (Text × α) :=
  d.items.insertionSort fun a b => Json.keyLe a.1 b.1

/-- `_primary_document`: its body. -/
def primaryBody (docs : Documents) : Bytes :=
  match docs.files.get? catalogFile with
  | some body => body
  | none => ((sortedItems docs.files).head?.map Prod.snd).getD []

/-- `_revision_label`. -/
def revisionLabel (upstreamCommitSha : Option Text) (contentSha256 : Text) : Text :=
  match orElse upstreamCommitSha none with
  | some sha => sha.take 12
  | none => "sha-".toList ++ contentSha256.take 8

/-! ## Rows and files -/

inductive Status
  | available | adopted | superseded | rejected
  deriving DecidableEq

/-- A row of `catalog_revisions`. -/
structure CatalogRevision where
  revision : Text
  upstreamCommitSha : Option Text
  upstreamUrl : Text
  oscalVersion : Json
  contentSha256 : Text
  files : Dict Text Text
  contentIndex : Dict Text Text
  contentDir : Option Text
  status : Status
  retrievedBy : Option Text
  notes : Option Text

structure CatalogSource where
  key : Text
  url : Text
  dataRoot : Text

/-- The revisions of a source, and the directories under its root. -/
structure Store where
  rows : List CatalogRevision
  disk : Dict Text Dir

/-- `_existing`. -/
def Store.existing (store : Store) (revision : Text) : Option CatalogRevision :=
  store.rows.find? fun r => r.revision = revision

/-- The directory of a revision, made if it is not there. -/
def Store.dir (store : Store) (revision : Text) : Dir :=
  (store.disk.get? revision).getD .empty

/-- `revision_root`. -/
def revisionRoot (source : CatalogSource) (revision : Text) : Text :=
  source.dataRoot ++ '/' :: source.key ++ '/' :: revision

def writeAll (dir : Dir) (docs : Documents) : Dir :=
  docs.files.items.foldl (fun d f => d.set f.1 f.2) dir

/-- `shutil.rmtree`. -/
def removeDir (disk : Dict Text Dir) (revision : Text) : Dict Text Dir where
  items := disk.items.filter fun p => p.1 ≠ revision
  nodup := (List.filter_sublist.map _).nodup disk.nodup

def CatalogRevision.fits (row : CatalogRevision) : Bool :=
  storable row.oscalVersion && fitsOrNull 32 row.oscalVersion &&
    (row.contentIndex.items.all fun p => nulFree p.1) &&
    (row.files.items.all fun p => nulFree p.1) &&
    (row.retrievedBy.all fun by_ => nulFree by_ && Python.fits 255 by_) &&
    row.notes.all nulFree

/-- `session.add(row)` and `session.flush()`. -/
def Store.add (store : Store) (row : CatalogRevision) : Store × Except PyError CatalogRevision :=
  if row.fits then ({ store with rows := store.rows ++ [row] }, .ok row)
  else (store, .error .dataError)

/-! ## `materialize_revision` -/

section Materialize

variable (env : Interpreter) (source : CatalogSource)

/-- The row as it is made, before its files are written. -/
def newRow (docs : Documents) (upstreamCommitSha retrievedBy : Option Text)
    (parsed : Json × Dict Text Text) : CatalogRevision where
  revision := revisionLabel upstreamCommitSha (sha256Hex (primaryBody docs))
  upstreamCommitSha := upstreamCommitSha
  upstreamUrl := source.url
  oscalVersion := parsed.1
  contentSha256 := sha256Hex (primaryBody docs)
  files := .empty
  contentIndex := parsed.2
  contentDir := none
  status := .available
  retrievedBy := retrievedBy
  notes := none

def CatalogRevision.reject (row : CatalogRevision) (exc : PyError) : CatalogRevision :=
  { row with
    status := .rejected
    notes := some (env.describe exc)
    files := .empty
    contentDir := none }

/-- The documents are written and loaded: the row, and whether it is rejected. -/
def capture (store : Store) (docs : Documents) (row : CatalogRevision) :
    Store × Except PyError CatalogRevision :=
  let dir := writeAll (store.dir row.revision) docs
  let written := { store with disk := store.disk.set row.revision dir }
  let files := generateManifest dir
  match loadOscalCatalog env dir files with
  | .ok _ => written.add
      { row with files := files, contentDir := some (revisionRoot source row.revision) }
  -- a `RuntimeError` that is none of the five
  | .error .recursionError => (written, .error .recursionError)
  | .error exc => ({ store with disk := removeDir store.disk row.revision }).add (row.reject env exc)

/-- `materialize_revision`: what is stored, and the row that is returned. -/
def materializeRevision (store : Store) (docs : Documents)
    (upstreamCommitSha retrievedBy : Option Text) : Store × Except PyError CatalogRevision :=
  let revision := revisionLabel upstreamCommitSha (sha256Hex (primaryBody docs))
  match store.existing revision with
  | some prior => (store, .ok prior)
  | none =>
    match parseOscalCatalog env (primaryBody docs) with
    | .ok parsed => capture env source store docs
        (newRow source docs upstreamCommitSha retrievedBy parsed)
    | .error .recursionError => (store, .error .recursionError)
    | .error exc => ({ store with disk := removeDir store.disk revision }).add
        ((newRow source docs upstreamCommitSha retrievedBy (.null, .empty)).reject env exc)

/-! ## `import_revision` -/

inductive Payload
  | directory (files : Dict Text Bytes)
  /-- a zip: its entries, in order -/
  | zip (infolist : List (Text × Bytes))
  | other

/-- `Path(filename).name`. -/
def pathName (filename : Text) : Text :=
  ((filename.splitOn '/').filter fun part => part ≠ [] ∧ part ≠ ['.']).getLast?.getD []

/-- `_read_payload`. -/
def readPayload : Payload → Except PyError (Dict Text Bytes)
  | .directory files => .ok (Dict.ofPairs (files.items.filter fun f => isDocument f.1))
  | .zip infolist => .ok (Dict.ofPairs
      ((infolist.map fun info => (pathName info.1, info.2)).filter fun f => isDocument f.1))
  | .other => .error .valueError

theorem readPayload_named {payload : Payload} {files : Dict Text Bytes}
    (h : readPayload payload = .ok files) (name : Text) (body : Bytes)
    (hget : files.get? name = some body) : isDocument name = true := by
  have hpairs : ∀ pairs : List (Text × Bytes),
      (Dict.ofPairs (pairs.filter fun f => isDocument f.1)).get? name = some body →
      isDocument name = true := by
    intro pairs hget
    rw [Dict.get?_ofPairs] at hget
    obtain ⟨p, hp, -⟩ := Option.map_eq_some_iff.mp hget
    have hname : p.1 = name := by simpa using List.find?_some hp
    have hmem := List.mem_reverse.mp (List.mem_of_find?_eq_some hp)
    rw [← hname]
    simpa using (List.mem_filter.mp hmem).2
  cases payload with
  | directory files' =>
    obtain rfl := Except.ok.inj h
    exact hpairs _ hget
  | zip infolist =>
    obtain rfl := Except.ok.inj h
    exact hpairs _ hget
  | other => cases h

/-- The documents of a payload; one without any is refused. -/
def Documents.ofPayload (payload : Payload) : Except PyError Documents :=
  match h : readPayload payload with
  | .error exc => .error exc
  | .ok files =>
    if hne : files.items = [] then .error .valueError
    else .ok ⟨files, readPayload_named h, hne⟩

/-- An offline import. -/
structure Import where
  payload : Payload
  retrievedBy : Option Text
  notes : Option Text

/-- `row.notes` with the notes of the import. -/
def addNotes (row : CatalogRevision) (notes : Text) : CatalogRevision :=
  { row with notes := match orElse row.notes none with
      | none => some notes
      | some old => some (old ++ "; ".toList ++ notes) }

/-- `import_revision`, of documents that were read; where it raises, no row is kept. -/
def importDocuments (store : Store) (docs : Documents) (retrievedBy notes : Option Text) :
    Store × Except PyError CatalogRevision :=
  match materializeRevision env source store docs none retrievedBy, orElse notes none with
  | (out, .ok row), some notes =>
    let noted := addNotes row notes
    if noted.notes.all nulFree then
      ({ out with rows := out.rows.map fun r => if r.revision = row.revision then noted else r },
        .ok noted)
    else ({ out with rows := store.rows }, .error .dataError)
  | (out, result), _ => (out, result)

/-- A run of imports: what each set of documents was answered with. -/
def runImports (store : Store) : List Import → List (Documents × CatalogRevision)
  | [] => []
  | call :: calls =>
    match Documents.ofPayload call.payload with
    | .error _ => runImports store calls
    | .ok docs =>
      match importDocuments env source store docs call.retrievedBy call.notes with
      | (out, .ok row) => (docs, row) :: runImports out calls
      | (out, .error _) => runImports out calls

end Materialize

end Concord.Catalog
