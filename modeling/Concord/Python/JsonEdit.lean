import Concord.Python.JsonDict
import Concord.Python.KeyOrder

/-!
# Editing a dict twice

A repair that is made on every read must leave what it made alone. `d.set key value = d` says
that the item is there already; it still is after other keys were written or taken out, so that
a second pass of the same edits changes nothing.
-/

namespace Concord.Python.Json

/-- `d.pop(key, None)`. -/
def pop : Json → Text → Json
  | .obj fields, key => .obj (fields.filter fun f => f.1 ≠ key)
  | d, _ => d

@[simp] theorem isDict_set (d : Json) (key : Text) (value : Json) :
    (d.set key value).isDict = d.isDict := by
  cases d <;> rfl

@[simp] theorem isDict_pop (d : Json) (key : Text) : (d.pop key).isDict = d.isDict := by
  cases d <;> rfl

/-! ## On the fields -/

theorem insertField_insertField (key : Text) (value : Json) (fields : List (Text × Json)) :
    insertField key value (insertField key value fields) = insertField key value fields := by
  induction fields with
  | nil => simp [insertField]
  | cons f rest ih =>
    obtain ⟨k, v⟩ := f
    by_cases hk : key = k
    · simp [insertField, hk]
    · by_cases hlt : keyLt key k = true
      · simp [insertField, hk, hlt]
      · simp [insertField, hk, hlt, ih]

theorem insertField_cons_eq {key k : Text} {value v : Json} {rest : List (Text × Json)}
    (hk : key ≠ k) (h : insertField key value ((k, v) :: rest) = (k, v) :: rest) :
    keyLt key k = false ∧ insertField key value rest = rest := by
  rw [insertField, if_neg hk] at h
  by_cases hlt : keyLt key k = true
  · rw [if_pos hlt] at h
    have hlen := congrArg List.length h
    simp at hlen
  · rw [if_neg hlt] at h
    exact ⟨by simpa using hlt, (List.cons.inj h).2⟩

theorem insertField_head_eq {key : Text} {value v : Json} {rest : List (Text × Json)}
    (h : insertField key value ((key, v) :: rest) = (key, v) :: rest) : value = v := by
  rw [insertField, if_pos rfl] at h
  exact congrArg Prod.snd (List.cons.inj h).1

theorem insertField_other {key other : Text} {value value' : Json} (hne : key ≠ other)
    {fields : List (Text × Json)} (h : insertField key value fields = fields) :
    insertField key value (insertField other value' fields) = insertField other value' fields := by
  induction fields with
  | nil => cases h
  | cons f rest ih =>
    obtain ⟨k, v⟩ := f
    by_cases hk : key = k
    · subst hk
      obtain rfl := insertField_head_eq h
      by_cases hlt : keyLt other key = true
      · have hgt := keyLt_asymm hlt
        simp [insertField, hne, Ne.symm hne, hlt, hgt]
      · simp [insertField, Ne.symm hne, hlt]
    · obtain ⟨hnot, hrest⟩ := insertField_cons_eq hk h
      by_cases ho : other = k
      · subst ho
        simp [insertField, hk, hnot, hrest]
      · by_cases hlt : keyLt other k = true
        · -- the new item comes before the head, and the old one after it
          have hafter : keyLt key other = false := by
            by_contra hbefore
            have := keyLt_trans (by simpa using hbefore) hlt
            rw [hnot] at this
            cases this
          simp [insertField, hk, ho, hne, hlt, hnot, hafter, hrest]
        · simp [insertField, hk, ho, hlt, hnot, ih hrest]

theorem insertField_filter {key other : Text} {value : Json} (hne : key ≠ other)
    {fields : List (Text × Json)} (h : insertField key value fields = fields) :
    insertField key value (fields.filter fun f => f.1 ≠ other) =
      fields.filter fun f => f.1 ≠ other := by
  induction fields with
  | nil => cases h
  | cons f rest ih =>
    obtain ⟨k, v⟩ := f
    by_cases hk : key = k
    · subst hk
      obtain rfl := insertField_head_eq h
      simp [insertField, hne]
    · obtain ⟨hnot, hrest⟩ := insertField_cons_eq hk h
      by_cases ho : k = other
      · simpa [ho] using ih hrest
      · have htail := ih hrest
        simp only [ne_eq, decide_not] at htail
        simp [ho, insertField, hk, hnot, htail]

/-! ## On the dict -/

/-- The item is there: writing it changes nothing. -/
def Has (d : Json) (key : Text) (value : Json) : Prop := d.set key value = d

theorem has_set (d : Json) (key : Text) (value : Json) : (d.set key value).Has key value := by
  cases d with
  | obj fields => exact congrArg Json.obj (insertField_insertField key value fields)
  | _ => rfl

theorem Has.set {d : Json} {key other : Text} {value value' : Json} (h : d.Has key value)
    (hne : key ≠ other) : (d.set other value').Has key value := by
  cases d with
  | obj fields => exact congrArg Json.obj (insertField_other hne (Json.obj.inj h))
  | _ => rfl

theorem Has.pop {d : Json} {key other : Text} {value : Json} (h : d.Has key value)
    (hne : key ≠ other) : (d.pop other).Has key value := by
  cases d with
  | obj fields => exact congrArg Json.obj (insertField_filter hne (Json.obj.inj h))
  | _ => rfl

theorem Has.get? {d : Json} {key : Text} {value : Json} (h : d.Has key value)
    (hd : d.isDict = true) : d.get? key = some value := by
  have hget := get?_set key value hd key
  rwa [h, if_pos rfl] at hget

/-- What holds of each key once its edit was made, and is kept by the other edits, holds of all
the keys that were edited. -/
theorem foldl_each {f : Json → Text → Json} {P : Text → Json → Prop}
    (hself : ∀ d key, P key (f d key))
    (hother : ∀ d key other, key ≠ other → P key d → P key (f d other)) {keys : List Text}
    (hnodup : keys.Nodup) (d : Json) : ∀ key ∈ keys, P key (keys.foldl f d) := by
  have hkeep : ∀ (keys : List Text) (key : Text) (d : Json), key ∉ keys → P key d →
      P key (keys.foldl f d) := by
    intro keys key
    induction keys with
    | nil => exact fun d _ h => h
    | cons other keys ih =>
      intro d hkey h
      rw [List.mem_cons, not_or] at hkey
      exact ih _ hkey.2 (hother d key other hkey.1 h)
  induction keys generalizing d with
  | nil => exact fun key hkey => nomatch hkey
  | cons first keys ih =>
    rw [List.nodup_cons] at hnodup
    intro key hkey
    obtain rfl | htail := List.mem_cons.mp hkey
    · exact hkeep keys key _ hnodup.1 (hself d key)
    · exact ih hnodup.2 _ key htail

theorem foldl_fixed {f : Json → Text → Json} {keys : List Text} {d : Json}
    (h : ∀ key ∈ keys, f d key = d) : keys.foldl f d = d := by
  induction keys with
  | nil => rfl
  | cons key keys ih =>
    rw [List.foldl_cons, h key List.mem_cons_self]
    exact ih fun key' hkey' => h key' (List.mem_cons_of_mem key hkey')

theorem pop_pop_self (d : Json) (key : Text) : (d.pop key).pop key = d.pop key := by
  cases d with
  | obj fields => simp [pop]
  | _ => rfl

theorem get?_pop (d : Json) (key k : Text) :
    (d.pop key).get? k = if k = key then none else d.get? k := by
  cases d with
  | obj fields =>
    show (fields.filter fun f => f.1 ≠ key).lookup k = if k = key then none else fields.lookup k
    induction fields with
    | nil => simp
    | cons f rest ih =>
      obtain ⟨k', v'⟩ := f
      by_cases hk' : k' = key
      · rw [List.filter_cons, if_neg (by simpa using hk'), ih, lookup_cons_if]
        by_cases hk : k = key
        · simp [hk]
        · have hne : k ≠ k' := fun heq => hk (heq.trans hk')
          simp [hk, hne]
      · rw [List.filter_cons, if_pos (by simpa using hk'), lookup_cons_if, lookup_cons_if, ih]
        by_cases hk : k = k'
        · have hne : k ≠ key := fun heq => hk' (hk.symm.trans heq)
          simp [hk, hk']
        · simp [hk]
  | _ => simp [pop, get?]

end Concord.Python.Json
