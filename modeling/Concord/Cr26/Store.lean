import Concord.Governance.Register
import Concord.Python.JsonEdit

/-!
# The keyed documents of a system

`put_document` of `src/ccf/cr26/store.py`, of the deliverables that a system files more than one
of: a row is named by its `document_key`, and the next document under that key takes its place.
A seed reads what is stored and copies fields of it, one after the other (`get?_foldl`).
-/

namespace Concord.Cr26

open Concord.Python Concord.Governance

/-! ## Documents -/

/-- A stored document is a dict. -/
structure Document where
  json : Json
  dict : json.isDict = true

namespace Document

theorem isDict_empty : (Json.obj []).isDict = true := rfl

/-- `{}`. -/
def empty : Document := ⟨.obj [], isDict_empty⟩

/-- `d.get(field)`. -/
def get? (d : Document) (field : Text) : Option Json := d.json.get? field

theorem isDict_set (d : Document) (field : Text) (value : Json) :
    (d.json.set field value).isDict = true :=
  (Json.isDict_set _ _ _).trans d.dict

/-- `d[field] = value`. -/
def set (d : Document) (field : Text) (value : Json) : Document :=
  ⟨d.json.set field value, d.isDict_set field value⟩

@[simp] theorem get?_empty (field : Text) : empty.get? field = none := rfl

theorem get?_set (d : Document) (field : Text) (value : Json) (k : Text) :
    (d.set field value).get? k = if k = field then some value else d.get? k :=
  Json.get?_set field value d.dict k

theorem get?_set_self (d : Document) (field : Text) (value : Json) :
    (d.set field value).get? field = some value := by
  rw [get?_set, if_pos rfl]

theorem get?_set_ne (d : Document) {field k : Text} (value : Json) (h : k ≠ field) :
    (d.set field value).get? k = d.get? k := by
  rw [get?_set, if_neg h]

end Document

/-- `has_content`. -/
def hasContent : Json → Bool
  | .str s => strip s ≠ []
  | .null => false
  | _ => true

/-- What a document says in a field, if it says something. -/
def Document.content (d : Document) (field : Text) : Option Json :=
  (d.get? field).filter hasContent

theorem get?_foldl {σ : Type} (doc : σ → Document) {f : σ → Text → σ}
    (value : Text → Option Json)
    (hstep : ∀ s field k, (doc (f s field)).get? k =
      if k = field then (value field).or ((doc s).get? k) else (doc s).get? k)
    (fields : List Text) (s : σ) (k : Text) :
    (doc (fields.foldl f s)).get? k =
      if k ∈ fields then (value k).or ((doc s).get? k) else (doc s).get? k := by
  induction fields generalizing s with
  | nil => rw [List.foldl_nil, if_neg List.not_mem_nil]
  | cons field fields ih =>
    rw [List.foldl_cons, ih, hstep]
    by_cases hk : k = field
    · subst hk
      rw [if_pos rfl, if_pos List.mem_cons_self]
      split
      · rw [← Option.or_assoc, Option.or_self]
      · rfl
    · rw [if_neg hk]
      simp [List.mem_cons, hk]

/-! ## Rows -/

/-- The kinds that are keyed. -/
inductive KeyedKind
  | incident | scn
  deriving DecidableEq

/-- A system, and the rows of these kinds by their keys. -/
structure KeyedFilings where
  systemId : Nat
  deleted : Bool
  documents : KeyedKind → Text → Option Document

namespace KeyedFilings

/-- `DOCUMENT_KEY_MAX_LENGTH`. -/
def documentKeyMaxLength : Nat := 128

/-- What is stored under a key, or `{}`. -/
def current (s : KeyedFilings) (kind : KeyedKind) (key : Text) : Document :=
  (s.documents kind key).getD .empty

/-- `put_document`. -/
def put (s : KeyedFilings) (kind : KeyedKind) (key : Text) (document : Document) :
    Except Raised KeyedFilings :=
  if s.deleted then .error (.valueError ("unknown system: ".toList ++ natText s.systemId))
  else .ok { s with
    documents := fun k key' =>
      if k = kind ∧ key' = key then some document else s.documents k key' }

variable {s s' : KeyedFilings} {kind : KeyedKind} {key : Text} {document : Document}

theorem put_ok (h : s.put kind key document = .ok s') : s.deleted = false ∧
    s' = { s with documents := fun k key' =>
      if k = kind ∧ key' = key then some document else s.documents k key' } := by
  unfold put at h
  split at h
  · cases h
  · rename_i hlive
    exact ⟨Bool.eq_false_iff.mpr hlive, (Except.ok.inj h).symm⟩

theorem put_of_live (hlive : s.deleted = false) (kind : KeyedKind) (key : Text)
    (document : Document) : ∃ s', s.put kind key document = .ok s' := by
  unfold put
  rw [hlive]
  exact ⟨_, rfl⟩

theorem documents_put (h : s.put kind key document = .ok s') :
    s'.documents kind key = some document := by
  obtain ⟨-, rfl⟩ := put_ok h
  exact if_pos ⟨rfl, rfl⟩

theorem documents_put_ne (h : s.put kind key document = .ok s') {kind' : KeyedKind} {key' : Text}
    (hne : ¬(kind' = kind ∧ key' = key)) :
    s'.documents kind' key' = s.documents kind' key' := by
  obtain ⟨-, rfl⟩ := put_ok h
  exact if_neg hne

theorem deleted_put (h : s.put kind key document = .ok s') : s'.deleted = false := by
  obtain ⟨hlive, rfl⟩ := put_ok h
  exact hlive

end KeyedFilings

end Concord.Cr26
