import Concord.Python.JsonDict

/-!
# What a column takes

PostgreSQL's side of a value that is stored. No text has a NUL, and a JSON column has no
number that is not finite; a column of `n` characters takes a longer text only where the rest
is blank. An `UPDATE` of the ORM names the columns that differ from the loaded ones.
-/

namespace Concord.Python

def nulFree (s : Text) : Bool := '\x00' ∉ s

/-- `NaN` and the infinities are no JSON. -/
def isFinite (n : Number) : Bool :=
  n.text ∉ ["NaN".toList, "Infinity".toList, "-Infinity".toList]

mutual

/-- What a `jsonb` column takes. -/
def storable : Json → Bool
  | .null => true
  | .bool _ => true
  | .num n => isFinite n
  | .str s => nulFree s
  | .arr items => storableItems items
  | .obj fields => storableFields fields

def storableItems : List Json → Bool
  | [] => true
  | item :: items => storable item && storableItems items

def storableFields : List (Text × Json) → Bool
  | [] => true
  | (key, value) :: fields => nulFree key && storable value && storableFields fields

end

def fits (n : Nat) (s : Text) : Bool := (s.drop n).all (· = ' ')

def fitsOrNull (n : Nat) : Json → Bool
  | .null => true
  | .str s => fits n s
  | _ => false

/-- What an `UPDATE` writes of a column that was set: nothing where it is as it was loaded. -/
def dirty {α : Type} [DecidableEq α] (loaded set : α) : Option α :=
  if set = loaded then none else some set

theorem dirty_getD {α : Type} [DecidableEq α] (loaded set stored : α) :
    (dirty loaded set).getD stored = if set = loaded then stored else set := by
  unfold dirty
  split <;> rfl

/-! ## Texts without a NUL -/

@[simp] theorem nulFree_append (s t : Text) : nulFree (s ++ t) = (nulFree s && nulFree t) := by
  simp [nulFree]

@[simp] theorem nulFree_cons (c : Char) (s : Text) :
    nulFree (c :: s) = (decide (c ≠ '\x00') && nulFree s) := by
  simp [nulFree, eq_comm]

theorem nulFree_of_subset {s t : Text} (h : s ⊆ t) (ht : nulFree t = true) : nulFree s = true := by
  simp only [nulFree, decide_eq_true_eq] at ht ⊢
  exact fun hs => ht (h hs)

theorem nulFree_natText (n : Nat) : nulFree (natText n) = true := by
  simp only [nulFree, decide_eq_true_eq]
  intro h
  have hdigit := Nat.isDigit_of_mem_toDigits (by decide) (by decide) h
  exact absurd hdigit (by decide)

/-! ## Parts of what is stored -/

theorem storableItems_iff {items : List Json} :
    storableItems items = true ↔ ∀ item ∈ items, storable item = true := by
  induction items with
  | nil => exact iff_of_true rfl fun item h => nomatch h
  | cons item items ih => rw [storableItems, Bool.and_eq_true, ih, List.forall_mem_cons]

theorem storable_lookup {fields : List (Text × Json)} (h : storableFields fields = true)
    {key : Text} {value : Json} (hget : fields.lookup key = some value) :
    storable value = true := by
  induction fields with
  | nil => cases hget
  | cons f fields ih =>
    obtain ⟨k, v⟩ := f
    rw [storableFields, Bool.and_eq_true, Bool.and_eq_true] at h
    rw [Json.lookup_cons_if] at hget
    by_cases hk : key = k
    · rw [if_pos hk] at hget
      rw [← Option.some.inj hget]
      exact h.1.2
    · rw [if_neg hk] at hget
      exact ih h.2 hget

theorem storable_get? {d : Json} (h : storable d = true) {key : Text} {value : Json}
    (hget : d.get? key = some value) : storable value = true := by
  cases d with
  | obj fields =>
    rw [storable] at h
    exact storable_lookup h hget
  | _ => cases hget

theorem storable_list {d : Json} (h : storable d = true) (key : Text) :
    ∀ item ∈ Json.listOrEmpty (d.get? key), storable item = true := by
  cases hget : d.get? key with
  | none => exact fun item hitem => nomatch hitem
  | some value =>
    cases value with
    | arr items =>
      have hitems := storable_get? h hget
      rw [storable] at hitems
      exact storableItems_iff.mp hitems
    | _ => exact fun item hitem => nomatch hitem

theorem isFinite_ofNat (n : Nat) : isFinite (Number.ofNat n) = true := by
  have hdigit : (Number.ofNat n).first.isDigit = true := by
    unfold Number.ofNat
    split
    · rfl
    · rename_i d ds h
      exact Nat.isDigit_of_mem_toDigits (by decide) (by decide) (h ▸ List.mem_cons_self)
  unfold isFinite Number.text
  simp only [decide_eq_true_eq, List.mem_cons, List.not_mem_nil, or_false, not_or]
  refine ⟨?_, ?_, ?_⟩ <;>
  · intro h
    rw [(List.cons.inj h).1] at hdigit
    exact absurd hdigit (by decide)

end Concord.Python
