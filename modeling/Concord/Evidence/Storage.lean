import Mathlib.Logic.Function.Basic
import Concord.Base.Run
import Concord.Python.Hmac

/-!
# Content-addressed storage on disk

`LocalStorage` of `src/ccf/evidence/storage.py`. A file is at the path its digest gives, and
`put` writes only where no file is. It does not write to another name first, so a `put` that
is interrupted leaves the beginning of its bytes at that very path, and every later `put` of
the same bytes finds a file there and leaves it.

`fileAt_run`: whatever puts came before, complete or interrupted, the file at a digest is
what the first of them wrote.
-/

namespace Concord.Evidence

open Concord.Base Concord.Python

abbrev Files := Text → Option Bytes

def noFiles : Files := fun _ => none

/-- `hashlib.sha256(data).hexdigest()`. -/
def digestOf (data : Bytes) : Text := hex (sha256 data)

/-- The backend; `root` is the resolved path of its directory. -/
structure LocalStorage where
  root : Text

/-- `_path`. -/
def LocalStorage.path (b : LocalStorage) (digest : Text) : Text :=
  b.root ++ '/' :: digest.take 2 ++ '/' :: digest

/-- `file://`. -/
def scheme : Text := "file://".toList

def LocalStorage.ref (b : LocalStorage) (digest : Text) : Text := scheme ++ b.path digest

/-- `if not path.exists(): path.write_bytes(data)`. -/
def writeIfAbsent (files : Files) (path : Text) (data : Bytes) : Files :=
  if (files path).isSome then files else Function.update files path (some data)

/-- `put`. -/
def LocalStorage.put (b : LocalStorage) (files : Files) (digest : Text) (data : Bytes) :
    Files × Text :=
  (writeIfAbsent files (b.path digest) data, b.ref digest)

/-- `get`. -/
def get (files : Files) (ref : Text) : Option Bytes :=
  files (if scheme.isPrefixOf ref then ref.drop scheme.length else ref)

theorem get_ref (b : LocalStorage) (files : Files) (digest : Text) :
    get files (b.ref digest) = files (b.path digest) := by
  have h : scheme.isPrefixOf (scheme ++ b.path digest) = true :=
    List.isPrefixOf_iff_prefix.mpr (List.prefix_append scheme _)
  rw [get, LocalStorage.ref, if_pos h, List.drop_left]

theorem writeIfAbsent_apply (files : Files) (path p : Text) (data : Bytes) :
    writeIfAbsent files path data p = (files p).or (if path = p then some data else none) := by
  unfold writeIfAbsent
  by_cases h : path = p
  · subst h
    rw [if_pos rfl]
    cases hf : files path with
    | none => rw [if_neg (by simp), Function.update_self, Option.none_or]
    | some d =>
      rw [Option.isSome_some, if_pos rfl, hf, Option.some_or]
  · rw [if_neg h, Option.or_none]
    split
    · rfl
    · exact Function.update_of_ne (Ne.symm h) _ _

/-! ## Digests and paths -/

theorem digestOf_length (data : Bytes) : (digestOf data).length = 64 := by
  rw [digestOf, hex_length, sha256_length]

theorem path_eq (b : LocalStorage) (digest : Text) :
    b.path digest = (b.root ++ '/' :: digest.take 2 ++ ['/']) ++ digest := by
  simp [LocalStorage.path]

theorem path_inj {b : LocalStorage} {x y : Bytes} :
    b.path (digestOf x) = b.path (digestOf y) ↔ digestOf x = digestOf y := by
  constructor
  · intro h
    rw [path_eq, path_eq] at h
    exact List.append_inj_right' h (by rw [digestOf_length, digestOf_length])
  · intro h
    rw [h]

/-! ## Earlier puts -/

/-- A put of some bytes under their digest. -/
inductive Put where
  | complete (data : Bytes)
  /-- The process dies with `written` bytes in the file, if it was writing one. -/
  | interrupted (data : Bytes) (written : Nat)
  deriving DecidableEq

def Put.data : Put → Bytes
  | .complete data => data
  | .interrupted data _ => data

/-- What it leaves at the digest where there is no file. -/
def Put.left : Put → Bytes
  | .complete data => data
  | .interrupted data written => data.take written

def LocalStorage.apply (b : LocalStorage) (files : Files) (p : Put) : Files :=
  (b.put files (digestOf p.data) p.left).1

def LocalStorage.run (b : LocalStorage) (files : Files) (puts : List Put) : Files :=
  puts.foldl b.apply files

def firstLeft (digest : Text) (puts : List Put) : Option Bytes :=
  puts.findSome? fun p => if digestOf p.data = digest then some p.left else none

def LocalStorage.fileAt (b : LocalStorage) (files : Files) (data : Bytes) : Option Bytes :=
  files (b.path (digestOf data))

theorem fileAt_apply (b : LocalStorage) (data : Bytes) (files : Files) (p : Put) :
    b.fileAt (b.apply files p) data =
      (b.fileAt files data).or
        (if digestOf p.data = digestOf data then some p.left else none) := by
  show writeIfAbsent files (b.path (digestOf p.data)) p.left (b.path (digestOf data)) = _
  rw [writeIfAbsent_apply]
  by_cases h : digestOf p.data = digestOf data
  · rw [if_pos h, if_pos (path_inj.mpr h)]
    rfl
  · rw [if_neg h, if_neg fun hp => h (path_inj.mp hp)]
    rfl

/-- **The first put decides** what the file at a digest holds. -/
theorem fileAt_run (b : LocalStorage) (data : Bytes) (files : Files) (puts : List Put) :
    b.fileAt (b.run files puts) data =
      (b.fileAt files data).or (firstLeft (digestOf data) puts) :=
  foldl_firstWrite (fun files => b.fileAt files data) (fileAt_apply b data) files puts

end Concord.Evidence
