import Concord.Base.Slots
import Mathlib.Algebra.BigOperators.Group.List.Basic

/-!
# Python dicts

A `dict` holds its items in the order their keys were first written, one per key.
A later value for a key takes the place of the earlier one, so a dict display or
comprehension keeps the last value of each key (`get?_ofPairs`).

A loop that keeps a tally for each key it meets: what the entry of one key gains, the sum over
the entries gains (`total_set`). A loop that keeps a list for each key (`collect`) loses nothing,
and adds nothing.
-/

namespace Concord.Python

universe u v

/-- A `dict`. -/
structure Dict (κ : Type u) (α : Type v) where
  items : List (κ × α)
  nodup : (items.map Prod.fst).Nodup

namespace Dict

variable {κ : Type u} {α : Type v}

/-- `{}`. -/
def empty : Dict κ α where
  items := []
  nodup := List.nodup_nil

theorem nodup_filter (p : κ → α → Bool) {items : List (κ × α)}
    (h : (items.map Prod.fst).Nodup) :
    ((items.filter fun q => p q.1 q.2).map Prod.fst).Nodup :=
  (List.filter_sublist.map _).nodup h

/-- The items that are left where the others are deleted. -/
def filter (d : Dict κ α) (p : κ → α → Bool) : Dict κ α where
  items := d.items.filter fun q => p q.1 q.2
  nodup := nodup_filter p d.nodup

section Lookup

variable [DecidableEq κ]

/-- `d.get(key)`; `none` stands for `key not in d`. -/
def get? (d : Dict κ α) (key : κ) : Option α :=
  (d.items.find? fun p => p.1 = key).map Prod.snd

/-- `d[key] = value`, on the items. -/
def setItem (key : κ) (value : α) : List (κ × α) → List (κ × α)
  | [] => [(key, value)]
  | p :: rest => if p.1 = key then (key, value) :: rest else p :: setItem key value rest

theorem mem_keys_setItem (key : κ) (value : α) (items : List (κ × α)) (k : κ) :
    k ∈ (setItem key value items).map Prod.fst ↔ k = key ∨ k ∈ items.map Prod.fst := by
  induction items with
  | nil => simp [setItem]
  | cons p rest ih =>
    unfold setItem
    split
    · rename_i h
      rw [List.map_cons, List.map_cons, List.mem_cons, List.mem_cons, h]
      exact ⟨fun hk => hk.elim .inl (.inr ∘ .inr), fun hk => hk.elim .inl id⟩
    · rw [List.map_cons, List.map_cons, List.mem_cons, List.mem_cons, ih]
      exact or_left_comm

theorem nodup_setItem (key : κ) (value : α) {items : List (κ × α)}
    (h : (items.map Prod.fst).Nodup) : ((setItem key value items).map Prod.fst).Nodup := by
  induction items with
  | nil => exact List.nodup_singleton key
  | cons p rest ih =>
    rw [List.map_cons, List.nodup_cons] at h
    unfold setItem
    split
    · rename_i hp
      rw [List.map_cons, List.nodup_cons, ← hp]
      exact h
    · rename_i hp
      rw [List.map_cons, List.nodup_cons, mem_keys_setItem]
      exact ⟨fun hk => hk.elim hp h.1, ih h.2⟩

/-- `d[key] = value`. -/
def set (d : Dict κ α) (key : κ) (value : α) : Dict κ α where
  items := setItem key value d.items
  nodup := nodup_setItem key value d.nodup

/-- `{k₁: v₁, ...}`. -/
def ofPairs (pairs : List (κ × α)) : Dict κ α :=
  pairs.foldl (fun d p => d.set p.1 p.2) empty

variable {d : Dict κ α} {key : κ} {value : α}

@[simp] theorem get?_empty (key : κ) : (empty : Dict κ α).get? key = none := rfl

theorem find_setItem (key : κ) (value : α) (items : List (κ × α)) (k : κ) :
    ((setItem key value items).find? fun p => p.1 = k) =
      if key = k then some (key, value) else items.find? fun p => p.1 = k := by
  induction items with
  | nil =>
    show List.find? _ [(key, value)] = _
    rw [List.find?_singleton, List.find?_nil]
    simp only [decide_eq_true_eq]
  | cons p rest ih =>
    unfold setItem
    split
    · rename_i hp
      rw [List.find?_cons, List.find?_cons, hp]
      by_cases h : key = k
      · simp [h]
      · simp [h]
    · rename_i hp
      rw [List.find?_cons, List.find?_cons, ih]
      by_cases h : key = k
      · rw [if_pos h, ← h, decide_eq_false hp, if_pos rfl]
      · rw [if_neg h, if_neg h]

theorem get?_set (d : Dict κ α) (key : κ) (value : α) (k : κ) :
    (d.set key value).get? k = if key = k then some value else d.get? k := by
  unfold get? set
  rw [find_setItem]
  split <;> rfl

theorem mem_items_iff : (key, value) ∈ d.items ↔ d.get? key = some value := by
  unfold get?
  rw [Option.map_eq_some_iff]
  constructor
  · intro h
    exact ⟨(key, value), Base.find_of_nodup d.nodup h, rfl⟩
  · rintro ⟨⟨k, v⟩, hfind, rfl⟩
    have hkey : k = key := by simpa using List.find?_some hfind
    exact hkey ▸ List.mem_of_find?_eq_some hfind

theorem mem_keys_iff : key ∈ d.items.map Prod.fst ↔ (d.get? key).isSome = true := by
  rw [Option.isSome_iff_exists]
  constructor
  · intro h
    obtain ⟨⟨key, value⟩, hmem, rfl⟩ := List.mem_map.mp h
    exact ⟨value, mem_items_iff.mp hmem⟩
  · rintro ⟨value, h⟩
    exact List.mem_map.mpr ⟨(key, value), mem_items_iff.mpr h, rfl⟩

theorem get?_foldl_set (pairs : List (κ × α)) (d : Dict κ α) (key : κ) :
    (pairs.foldl (fun d p => d.set p.1 p.2) d).get? key =
      ((pairs.reverse.find? fun p => p.1 = key).map Prod.snd).or (d.get? key) := by
  induction pairs generalizing d with
  | nil => rfl
  | cons p rest ih =>
    rw [List.foldl_cons, ih, get?_set, List.reverse_cons, List.find?_append,
      List.find?_singleton]
    cases rest.reverse.find? fun p => p.1 = key with
    | some q => rfl
    | none =>
      by_cases h : p.1 = key
      · simp [h]
      · simp [h]

theorem get?_ofPairs (pairs : List (κ × α)) (key : κ) :
    (ofPairs pairs).get? key = (pairs.reverse.find? fun p => p.1 = key).map Prod.snd := by
  unfold ofPairs
  rw [get?_foldl_set, get?_empty, Option.or_none]

theorem get?_filter_eq_some (d : Dict κ α) (p : κ → α → Bool) :
    (d.filter p).get? key = some value ↔ d.get? key = some value ∧ p key value = true := by
  rw [← mem_items_iff, ← mem_items_iff]
  exact List.mem_filter

theorem setItem_of_notMem {items : List (κ × α)} (h : key ∉ items.map Prod.fst) :
    setItem key value items = items ++ [(key, value)] := by
  induction items with
  | nil => rfl
  | cons p rest ih =>
    rw [List.map_cons, List.mem_cons, not_or] at h
    rw [setItem, if_neg (Ne.symm h.1), ih h.2, List.cons_append]

theorem items_ofPairs {pairs : List (κ × α)} (h : (pairs.map Prod.fst).Nodup) :
    (ofPairs pairs).items = pairs := by
  have hfold : ∀ (rest : List (κ × α)) (d : Dict κ α),
      (d.items.map Prod.fst ++ rest.map Prod.fst).Nodup →
        (rest.foldl (fun d p => d.set p.1 p.2) d).items = d.items ++ rest := by
    intro rest
    induction rest with
    | nil => exact fun d _ => (List.append_nil _).symm
    | cons p rest ih =>
      intro d hd
      have hnew : p.1 ∉ d.items.map Prod.fst := fun hm =>
        (List.nodup_append.mp hd).2.2 _ hm _ List.mem_cons_self rfl
      have hset : (d.set p.1 p.2).items = d.items ++ [p] := setItem_of_notMem hnew
      rw [List.foldl_cons, ih, hset, List.append_assoc, List.singleton_append]
      rw [hset, List.map_append, List.append_assoc]
      exact hd
  exact hfold pairs empty h

theorem setItem_eq_self {items : List (κ × α)}
    (h : (items.find? fun p => p.1 = key) = some (key, value)) :
    setItem key value items = items := by
  induction items with
  | nil => cases h
  | cons p rest ih =>
    rw [List.find?_cons] at h
    rw [setItem]
    by_cases hp : p.1 = key
    · rw [decide_eq_true hp] at h
      rw [if_pos hp, Option.some.inj h]
    · rw [decide_eq_false hp] at h
      rw [if_neg hp, ih h]

theorem set_eq_self (h : d.get? key = some value) : d.set key value = d := by
  obtain ⟨p, hp, hvalue⟩ := Option.map_eq_some_iff.mp h
  have hkey : p.1 = key := by simpa using List.find?_some hp
  have heq : p = (key, value) := Prod.ext hkey hvalue
  have hitems : (d.set key value).items = d.items := setItem_eq_self (heq ▸ hp)
  cases hset : d.set key value
  cases d
  rw [hset] at hitems
  simp only [mk.injEq]
  exact hitems

/-- `d.setdefault(key, …)`, and a change of what is there, for each element that has a key. -/
def gather {ι : Type*} (keyOf : ι → Option κ) (add : Option α → ι → α) (items : List ι) :
    Dict κ α :=
  items.foldl (fun d i =>
    match keyOf i with
    | none => d
    | some key => d.set key (add (d.get? key) i)) empty

/-- **What is gathered under a key** is made of the elements of that key, in their order. -/
theorem get?_gather {ι : Type*} (keyOf : ι → Option κ) (add : Option α → ι → α) (items : List ι)
    (key : κ) :
    (gather keyOf add items).get? key =
      (items.filter fun i => keyOf i = some key).foldl (fun v i => some (add v i)) none := by
  have hfold : ∀ (rest : List ι) (d : Dict κ α),
      (rest.foldl (fun d i =>
        match keyOf i with
        | none => d
        | some key => d.set key (add (d.get? key) i)) d).get? key =
        (rest.filter fun i => keyOf i = some key).foldl (fun v i => some (add v i))
          (d.get? key) := by
    intro rest
    induction rest with
    | nil => exact fun d => rfl
    | cons i rest ih =>
      intro d
      rw [List.foldl_cons, ih]
      cases hi : keyOf i with
      | none => rw [List.filter_cons_of_neg (by simp [hi])]
      | some k =>
        by_cases hk : k = key
        · subst hk
          rw [List.filter_cons_of_pos (by simp [hi]), List.foldl_cons, get?_set, if_pos rfl]
        · rw [List.filter_cons_of_neg (by simp [hi, hk]), get?_set, if_neg hk]
  exact hfold items empty

end Lookup

/-! ## Sums over a dict -/

section Sums

universe w

variable {M : Type w} [AddCommMonoid M]

/-- `sum(g(v) for v in d.values())`. -/
def total (g : α → M) (d : Dict κ α) : M := (d.items.map fun p => g p.2).sum

variable [DecidableEq κ]

theorem total_set (g : α → M) (d : Dict κ α) (key : κ) {value : α} {gain : M}
    (h : g value = (d.get? key).elim 0 g + gain) :
    total g (d.set key value) = total g d + gain := by
  have hitems : ∀ items : List (κ × α),
      g value = ((items.find? fun p => p.1 = key).map Prod.snd).elim 0 g + gain →
        ((setItem key value items).map fun p => g p.2).sum =
          (items.map fun p => g p.2).sum + gain := by
    intro items
    induction items with
    | nil =>
      intro h
      rw [setItem, List.map_cons, List.map_nil, List.sum_cons, List.sum_nil, add_zero]
      exact h
    | cons p rest ih =>
      intro h
      by_cases hp : p.1 = key
      · rw [List.find?_cons_of_pos (by simpa using hp)] at h
        rw [setItem, if_pos hp, List.map_cons, List.map_cons, List.sum_cons, List.sum_cons,
          add_right_comm]
        exact congrArg (· + (rest.map fun p => g p.2).sum) h
      · rw [List.find?_cons_of_neg (by simpa using hp)] at h
        rw [setItem, if_neg hp, List.map_cons, List.map_cons, List.sum_cons, List.sum_cons, ih h,
          add_assoc]
  exact hitems d.items h

/-! ## Lists by key -/

variable {ι : Type*}

/-- `d.setdefault(key, []).append(value)`, for each element. -/
def collect (keyOf : ι → κ) (f : ι → α) (items : List ι) : Dict κ (List α) :=
  gather (fun i => some (keyOf i)) (fun vs i => vs.getD [] ++ [f i]) items

variable {keyOf : ι → κ} {f : ι → α} {items : List ι} {key : κ}

theorem foldl_collect (items : List ι) (vs : Option (List α)) :
    (items.foldl (fun vs i => some (vs.getD [] ++ [f i])) vs).getD [] =
      vs.getD [] ++ items.map f := by
  induction items generalizing vs with
  | nil => exact (List.append_nil _).symm
  | cons i items ih =>
    rw [List.foldl_cons, ih, Option.getD_some, List.map_cons, List.append_assoc]
    rfl

theorem getD_collect :
    ((collect keyOf f items).get? key).getD [] = (items.filter fun i => keyOf i = key).map f := by
  rw [collect, get?_gather, foldl_collect, Option.getD_none, List.nil_append]
  simp only [Option.some.injEq]

theorem eq_of_mem_collect {values : List α} (h : (key, values) ∈ (collect keyOf f items).items) :
    values = (items.filter fun i => keyOf i = key).map f := by
  rw [← getD_collect, mem_items_iff.mp h, Option.getD_some]

theorem perm_flatMap_setItem (key : κ) (value : α) (entries : List (κ × List α)) :
    ((setItem key (((entries.find? fun p => p.1 = key).map Prod.snd).getD [] ++ [value])
      entries).flatMap Prod.snd).Perm (entries.flatMap Prod.snd ++ [value]) := by
  induction entries with
  | nil => exact List.Perm.refl _
  | cons p rest ih =>
    by_cases hp : p.1 = key
    · rw [setItem, if_pos hp, List.find?_cons_of_pos (by simpa using hp), List.flatMap_cons,
        List.flatMap_cons, Option.map_some, Option.getD_some, List.append_assoc, List.append_assoc]
      exact List.perm_append_comm.append_left p.2
    · rw [setItem, if_neg hp, List.find?_cons_of_neg (by simpa using hp), List.flatMap_cons,
        List.flatMap_cons, List.append_assoc]
      exact ih.append_left p.2

/-- **The lists are of the elements**, each once. -/
theorem collect_perm :
    ((collect keyOf f items).items.flatMap Prod.snd).Perm (items.map f) := by
  have hfold : ∀ (rest : List ι) (d : Dict κ (List α)),
      ((rest.foldl (fun d i => d.set (keyOf i) ((d.get? (keyOf i)).getD [] ++ [f i]))
        d).items.flatMap Prod.snd).Perm (d.items.flatMap Prod.snd ++ rest.map f) := by
    intro rest
    induction rest with
    | nil => exact fun d => List.Perm.of_eq (List.append_nil _).symm
    | cons i rest ih =>
      intro d
      refine (ih _).trans (((perm_flatMap_setItem _ _ _).append_right _).trans ?_)
      rw [List.map_cons, List.append_assoc, List.singleton_append]
  exact hfold items empty

end Sums

end Dict

end Concord.Python
