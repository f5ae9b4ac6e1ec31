import Concord.Python.Text
import Concord.Evidence.Storage

/-!
# Versions, submissions and reviews

The operations of `src/ccf/evidence/service.py` on an evidence object as the session has
loaded it. A version row is inserted by `add_version` and never changed; `read_version`
recomputes the digest of what it reads.

`roundTrip_iff`: what `add_version` stored is read back exactly if the first put at its
digest had left these bytes there.
-/

namespace Concord.Evidence

open Concord.Base Concord.Python

inductive Status where
  | draft | submitted | approved | rejected | expired
  deriving DecidableEq

/-- `EvidenceObject`. -/
structure EvidenceObject where
  id : Nat
  status : Status
  currentVersionId : Option Nat
  immutableLock : Bool
  deriving DecidableEq

/-- `EvidenceVersion`. -/
structure EvidenceVersion where
  id : Nat
  evidenceObjectId : Nat
  version : Nat
  sha256 : Text
  mediaType : Option Text
  sizeBytes : Nat
  filename : Option Text
  storageBackend : Text
  storageRef : Text
  uploadedBy : Option Text
  deriving DecidableEq

/-- `EvidenceReview`. -/
structure EvidenceReview where
  evidenceObjectId : Nat
  versionId : Option Nat
  reviewer : Option Text
  decision : Text
  note : Option Text
  deriving DecidableEq

/-- `EvidenceError`, and the two kinds of it that reading raises. -/
inductive EvidenceError where
  | invalid (message : Text)
  | contentMissing (message : Text)
  | integrity (message : Text)
  deriving DecidableEq

/-- What a caller uploads. -/
structure Upload where
  data : Bytes
  filename : Option Text
  mediaType : Option Text
  uploadedBy : Option Text

/-- `create_object`: without a version, and not locked. -/
def createObject (id : Nat) : EvidenceObject where
  id := id
  status := .draft
  currentVersionId := none
  immutableLock := false

/-! ## `add_version` -/

def EvidenceObject.checkUnlocked (obj : EvidenceObject) : Except EvidenceError Unit :=
  if obj.immutableLock then
    .error (.invalid "evidence object is locked (approved); create a new object instead".toList)
  else .ok ()

/-- `coalesce(max(version), 0) + 1`, of the versions of the object. -/
def nextNumber (objectId : Nat) (versions : List EvidenceVersion) : Nat :=
  ((versions.filter fun v => v.evidenceObjectId = objectId).map
    EvidenceVersion.version).foldl max 0 + 1

def EvidenceObject.newVersion (obj : EvidenceObject) (b : LocalStorage) (u : Upload)
    (id number : Nat) : EvidenceVersion where
  id := id
  evidenceObjectId := obj.id
  version := number
  sha256 := digestOf u.data
  mediaType := u.mediaType
  sizeBytes := u.data.length
  filename := u.filename
  storageBackend := "local".toList
  storageRef := b.ref (digestOf u.data)
  uploadedBy := u.uploadedBy

/-- What is set on the object: a new version reopens a review that was over. -/
def EvidenceObject.withVersion (obj : EvidenceObject) (versionId : Nat) : EvidenceObject :=
  { obj with
    currentVersionId := some versionId
    status := if obj.status ∈ [.approved, .rejected, .expired] then .draft else obj.status }

/-- The version rows, with the sequence of their ids. -/
structure VersionTable where
  rows : List EvidenceVersion
  nextId : Nat
  pos : 0 < nextId
  below : ∀ v ∈ rows, v.id < nextId

def VersionTable.insert (t : VersionTable) (v : EvidenceVersion) (h : v.id = t.nextId) :
    VersionTable where
  rows := t.rows ++ [v]
  nextId := t.nextId + 1
  pos := Nat.succ_pos _
  below := by
    intro w hw
    rcases List.mem_append.mp hw with hw | hw
    · exact Nat.lt_succ_of_lt (t.below w hw)
    · rw [List.mem_singleton.mp hw, h]
      exact Nat.lt_succ_self _

/-- What `add_version` leaves. -/
structure Added where
  files : Files
  versions : VersionTable
  obj : EvidenceObject
  version : EvidenceVersion

/-- `add_version`. -/
def addVersion (b : LocalStorage) (files : Files) (versions : VersionTable)
    (obj : EvidenceObject) (u : Upload) : Except EvidenceError Added := do
  obj.checkUnlocked
  let (files, _) := b.put files (digestOf u.data) u.data
  let v := obj.newVersion b u versions.nextId (nextNumber obj.id versions.rows)
  return {
    files := files
    versions := versions.insert v rfl
    obj := obj.withVersion v.id
    version := v }

/-! ## `submit_object` and `review_object` -/

/-- `submit_object`. -/
def EvidenceObject.submit (obj : EvidenceObject) : Except EvidenceError EvidenceObject :=
  match obj.currentVersionId with
  | none => .error (.invalid "cannot submit evidence with no versions".toList)
  | some _ => .ok { obj with status := .submitted }

def approved : Text := "approved".toList

def rejected : Text := "rejected".toList

/-- `review_object`: the row it inserts, and what it sets on the object. -/
def EvidenceObject.review (obj : EvidenceObject) (decision : Text) (reviewer note : Option Text) :
    Except EvidenceError (EvidenceReview × EvidenceObject) :=
  let row : EvidenceReview := ⟨obj.id, obj.currentVersionId, reviewer, decision, note⟩
  if decision = approved then
    .ok (row, { obj with status := .approved, immutableLock := true })
  else if decision = rejected then .ok (row, { obj with status := .rejected })
  else .error (.invalid "decision must be 'approved' or 'rejected'".toList)

/-! ## `read_version` -/

/-- `a or b`, of ids: `0` is false. -/
def orId (a b : Option Nat) : Option Nat := if a = some 0 then b else a.or b

/-- `read_version`. -/
def readVersion (files : Files) (rows : List EvidenceVersion) (obj : EvidenceObject)
    (versionId : Option Nat) : Except EvidenceError (EvidenceVersion × Bytes) :=
  match orId versionId obj.currentVersionId with
  | none => .error (.invalid "evidence object has no versions".toList)
  | some target =>
    match rows.find? fun v => v.id = target with
    | none => .error (.invalid "version not found for this object".toList)
    | some v =>
      if v.evidenceObjectId ≠ obj.id then
        .error (.invalid "version not found for this object".toList)
      else
        match get files v.storageRef with
        | none => .error (.contentMissing "stored content is unavailable".toList)
        | some data =>
          if digestOf data ≠ v.sha256 then
            .error (.integrity ("integrity check failed for evidence version ".toList ++
              natText v.id ++ ": stored digest ".toList ++ v.sha256 ++
              " does not match recomputed digest ".toList ++ digestOf data ++
              " (content may be tampered or corrupted)".toList))
          else .ok (v, data)

/-! ## The round trip -/

section RoundTrip

variable {b : LocalStorage} {files : Files} {versions : VersionTable} {obj : EvidenceObject}
  {u : Upload} {a : Added}

theorem addVersion_eq_ok (h : addVersion b files versions obj u = .ok a) :
    a.files = (b.put files (digestOf u.data) u.data).1 ∧
      a.version = obj.newVersion b u versions.nextId (nextNumber obj.id versions.rows) ∧
      a.versions.rows = versions.rows ++ [a.version] ∧ a.obj.id = obj.id := by
  obtain ⟨_, -, h⟩ := bind_eq_ok.mp h
  cases h
  exact ⟨rfl, rfl, rfl, rfl⟩

theorem readVersion_row {rows : List EvidenceVersion} {v : EvidenceVersion} {reader : EvidenceObject}
    (hfind : (rows.find? fun w => w.id = v.id) = some v) (hid : v.id ≠ 0)
    (hobj : v.evidenceObjectId = reader.id) {data : Bytes} (hdata : v.sha256 = digestOf data) :
    readVersion files rows reader (some v.id) = .ok (v, data) ↔
      get files v.storageRef = some data := by
  have htarget : orId (some v.id) reader.currentVersionId = some v.id := by
    rw [orId, if_neg (by simpa using hid), Option.some_or]
  simp only [readVersion, htarget, hfind, hobj]
  cases get files v.storageRef with
  | none => simp
  | some d =>
    by_cases hd : digestOf d = v.sha256
    · simp [hd]
    · have hne : d ≠ data := by
        rintro rfl
        exact hd hdata.symm
      simp [hd, hne]

/-- The version is read back as these bytes, whatever is put and inserted after it. -/
def ReadsBack (b : LocalStorage) (a : Added) (data : Bytes) : Prop :=
  ∀ (later : List Put) (more : List EvidenceVersion) (reader : EvidenceObject),
    reader.id = a.obj.id →
    readVersion (b.run a.files later) (a.versions.rows ++ more) reader (some a.version.id) =
      .ok (a.version, data)

/-- The first put at the digest of these bytes, if there was one, left them all there. -/
def FirstComplete (data : Bytes) (puts : List Put) : Prop :=
  ∀ left, firstLeft (digestOf data) puts = some left → left = data

theorem get_added {puts : List Put} (h : addVersion b (b.run noFiles puts) versions obj u = .ok a)
    (later : List Put) :
    get (b.run a.files later) a.version.storageRef =
      some ((firstLeft (digestOf u.data) puts).getD u.data) := by
  obtain ⟨hfiles, hversion, -, -⟩ := addVersion_eq_ok h
  -- `add_version` is one more complete put
  have hput : a.files = b.apply (b.run noFiles puts) (.complete u.data) := hfiles
  calc get (b.run a.files later) a.version.storageRef
      = b.fileAt (b.run a.files later) u.data := by
        rw [hversion]
        exact get_ref b _ _
    _ = some ((firstLeft (digestOf u.data) puts).getD u.data) := by
        have hdigest : digestOf (Put.complete u.data).data = digestOf u.data := rfl
        have hnone : b.fileAt noFiles u.data = none := rfl
        rw [fileAt_run, hput, fileAt_apply, fileAt_run, if_pos hdigest, hnone, Option.none_or]
        cases firstLeft (digestOf u.data) puts <;> rfl

/-- **When evidence is read back as it was stored**: exactly when no put that came first at
its digest was cut short. -/
theorem read_added_iff (b : LocalStorage) (puts : List Put)
    (h : addVersion b (b.run noFiles puts) versions obj u = .ok a) :
    ReadsBack b a u.data ↔ FirstComplete u.data puts := by
  obtain ⟨-, hversion, hrows, hobj⟩ := addVersion_eq_ok h
  have hid : a.version.id = versions.nextId := by rw [hversion]; rfl
  have hfind : ∀ more, ((a.versions.rows ++ more).find? fun w => w.id = a.version.id) =
      some a.version := by
    intro more
    have hold : (versions.rows.find? fun w => w.id = a.version.id) = none := by
      refine List.find?_eq_none.mpr fun w hw heq => ?_
      have hlt := versions.below w hw
      rw [of_decide_eq_true heq, hid] at hlt
      exact lt_irrefl _ hlt
    rw [hrows, List.append_assoc, List.find?_append, hold, Option.none_or,
      List.singleton_append]
    exact List.find?_cons_of_pos (decide_eq_true rfl)
  have hread : ∀ later more reader, reader.id = a.obj.id →
      (readVersion (b.run a.files later) (a.versions.rows ++ more) reader (some a.version.id) =
          .ok (a.version, u.data) ↔
        (firstLeft (digestOf u.data) puts).getD u.data = u.data) := by
    intro later more reader hreader
    rw [readVersion_row (hfind more) (hid ▸ versions.pos.ne'), get_added h, Option.some.injEq]
    · rw [hreader, hobj, hversion]
      rfl
    · rw [hversion]
      rfl
  constructor
  · intro hback left hleft
    have hdata := (hread [] [] a.obj rfl).mp (hback [] [] a.obj rfl)
    rwa [hleft, Option.getD_some] at hdata
  · intro hfirst later more reader hreader
    refine (hread later more reader hreader).mpr ?_
    cases hleft : firstLeft (digestOf u.data) puts with
    | none => rfl
    | some left => exact hfirst left hleft

/-! ## A put cut short -/

def disk : LocalStorage := ⟨"/data/evidence".toList⟩

def noVersions : VersionTable := ⟨[], 1, Nat.one_pos, fun _ h => nomatch h⟩

def report : Upload := ⟨utf8 "ok".toList, none, none, none⟩

/-- A first upload dies after one byte, and the next one succeeds. -/
theorem cut_short :
    ¬∀ (b : LocalStorage) (puts : List Put) (versions : VersionTable) (obj : EvidenceObject)
      (u : Upload) (a : Added),
      addVersion b (b.run noFiles puts) versions obj u = .ok a → ReadsBack b a u.data := by
  intro h
  have hread : (addVersion disk (disk.run noFiles [.interrupted report.data 1]) noVersions
      (createObject 1) report).toOption.map (fun a =>
        (readVersion (disk.run a.files []) (a.versions.rows ++ []) a.obj
          (some a.version.id)).toOption) = some none := by
    decide +kernel
  obtain ⟨a, ha, hnone⟩ := Option.map_eq_some_iff.mp hread
  have hback := h _ _ _ _ _ a (toOption_eq_some ha) [] [] a.obj rfl
  rw [hback] at hnone
  cases hnone

/-- Nothing was stored before. -/
theorem read_added_first :
    ∃ a, addVersion disk (disk.run noFiles []) noVersions (createObject 1) report = .ok a ∧
      ReadsBack disk a report.data := by
  obtain ⟨a, ha⟩ : ∃ a,
      addVersion disk (disk.run noFiles []) noVersions (createObject 1) report = .ok a := ⟨_, rfl⟩
  exact ⟨a, ha, (read_added_iff disk [] ha).mpr fun _ hleft => nomatch hleft⟩

end RoundTrip

end Concord.Evidence
