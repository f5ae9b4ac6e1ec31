import Concord.Python.Text
import Mathlib.Data.List.DropRight

/-!
# Reading stored JSON

A stored document is a dict whose values may be anything. `get?` is `d.get(key)`, `set` is
`d[key] = value`, and `written` the text of a value that is a string with something in it:
`is_blank` of `ccf/cr26/ver.py` is that there is none.
-/

namespace Concord.Python

/-- The text without the space around it, if there is any. -/
def written : Option Text → Option Text
  | none => none
  | some s => if strip s = [] then none else some (strip s)

theorem strip_strip (s : Text) : strip (strip s) = strip s := by
  have hprefix : strip s <+: lstrip s := List.rdropWhile_prefix isSpace _
  have hleft : lstrip (strip s) = strip s := by
    cases ht : strip s with
    | nil => rfl
    | cons c t =>
      obtain ⟨rest, hrest⟩ := hprefix
      rw [ht, List.cons_append] at hrest
      have hhead := List.head?_dropWhile_not isSpace s
      rw [show s.dropWhile isSpace = c :: (t ++ rest) from hrest.symm] at hhead
      have hc : isSpace c = false := by simpa using hhead
      rw [lstrip, List.dropWhile_cons, hc]
      rfl
  have hright : lstrip (strip s).reverse = (strip s).reverse := by
    rw [strip, List.reverse_reverse]
    exact List.dropWhile_idempotent isSpace (lstrip s).reverse
  rw [strip, hleft, hright, List.reverse_reverse]

theorem written_eq_some {value : Option Text} {s : Text} (h : written value = some s) :
    s ≠ [] ∧ strip s = s := by
  cases value with
  | none => cases h
  | some t =>
    by_cases hne : strip t = []
    · rw [written, if_pos hne] at h
      cases h
    · rw [written, if_neg hne] at h
      obtain rfl := Option.some.inj h
      exact ⟨hne, strip_strip t⟩

theorem written_some {value : Option Text} {s : Text} (h : written value = some s) :
    written (some s) = some s := by
  obtain ⟨hne, hs⟩ := written_eq_some h
  rw [written, hs, if_neg hne]

theorem written_written (value : Option Text) : written (written value) = written value := by
  cases h : written value with
  | none => rfl
  | some s => exact written_some h

namespace Json

/-- `d.get(key)`; what is no dict has no keys. -/
def get? (key : Text) : Json → Option Json
  | .obj fields => fields.lookup key
  | _ => none

/-- `d[key] = value`, of a dict. -/
def set : Json → Text → Json → Json
  | .obj fields, key, value => .obj (insertField key value fields)
  | d, _, _ => d

def isDict : Json → Bool
  | .obj _ => true
  | _ => false

/-- `value if isinstance(value, str) else None`. -/
def str? : Json → Option Text
  | .str s => some s
  | _ => none

/-- `value if isinstance(value, list) else []`. -/
def listOrEmpty : Option Json → List Json
  | some (.arr items) => items
  | _ => []

/-- The text of a value, unless `is_blank(value)`. -/
def written (value : Option Json) : Option Text := Python.written (value.bind str?)

theorem lookup_cons_if (key : Text) (value : Json) (rest : List (Text × Json)) (k : Text) :
    ((key, value) :: rest).lookup k = if k = key then some value else rest.lookup k := by
  rw [List.lookup_cons]
  by_cases h : k = key
  · rw [if_pos h, beq_iff_eq.mpr h]
  · rw [if_neg h, beq_eq_false_iff_ne.mpr h]

theorem lookup_insertField (key : Text) (value : Json) (fields : List (Text × Json)) (k : Text) :
    (insertField key value fields).lookup k =
      if k = key then some value else fields.lookup k := by
  induction fields with
  | nil => exact lookup_cons_if key value [] k
  | cons f rest ih =>
    obtain ⟨k', v'⟩ := f
    unfold insertField
    by_cases hk : key = k'
    · rw [if_pos hk, lookup_cons_if, lookup_cons_if, hk]
      by_cases h : k = k'
      · rw [if_pos h, if_pos h]
      · rw [if_neg h, if_neg h, if_neg h]
    · rw [if_neg hk]
      split
      · exact lookup_cons_if key value _ k
      · rw [lookup_cons_if, lookup_cons_if, ih]
        by_cases h : k = k'
        · have hne : k ≠ key := fun heq => hk (heq.symm.trans h)
          rw [if_pos h, if_neg hne, if_pos h]
        · rw [if_neg h, if_neg h]

theorem get?_set (key : Text) (value : Json) {d : Json} (hd : d.isDict = true) (k : Text) :
    (d.set key value).get? k = if k = key then some value else d.get? k := by
  cases d with
  | obj fields => exact lookup_insertField key value fields k
  | null => cases hd
  | bool b => cases hd
  | num n => cases hd
  | str s => cases hd
  | arr items => cases hd

theorem isDict_of_get? {d v : Json} {key : Text} (h : d.get? key = some v) : d.isDict = true := by
  cases d with
  | obj fields => rfl
  | null => cases h
  | bool b => cases h
  | num n => cases h
  | str s => cases h
  | arr items => cases h

end Json

end Concord.Python
