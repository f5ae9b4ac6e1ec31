import Concord.Base.Slots
import Concord.Governance.Importer
import Concord.Python.Columns

/-!
# Users

The table `users` of `src/ccf/models.py`, as far as provisioning writes it: ids are a primary
key and e-mails unique over all organizations. Both ways of provisioning read the values they
write from a JSON object that somebody else has made.
-/

namespace Concord.Identity.Provisioning

open Concord.Base Concord.Python
open Concord.Governance.Importer (truthy)

/-! ## Values -/

/-- What is used of Python's strings: `str.lower`, and `str` of what is no string. -/
structure Strings where
  lower : Text → Text
  str : Json → Text

/-- `str(value)`. -/
def Strings.text (py : Strings) : Json → Text
  | .str s => s
  | value => py.str value

def ascii : Strings where
  lower := List.map Char.toLower
  str _ := []

/-- `payload.get(key)`, unless it is false. -/
def given (payload : Json) (key : String) : Option Json :=
  (payload.get? key.toList).filter truthy

/-- `if not p: raise e`. -/
def require {ε : Type} (p : Prop) [Decidable p] (e : ε) : Except ε Unit :=
  if p then .ok () else .error e

theorem require_ok {ε : Type} {p : Prop} [Decidable p] {e : ε} {x : Unit} :
    require p e = .ok x ↔ p := by
  unfold require
  split <;> simp [*]

theorem require_error {ε : Type} {p : Prop} [Decidable p] {e e' : ε} :
    require p e = .error e' ↔ ¬p ∧ e = e' := by
  unfold require
  split <;> simp [*]

theorem bind_eq_error {ε α β : Type} {x : Except ε α} {f : α → Except ε β} {e : ε} :
    x >>= f = .error e ↔ x = .error e ∨ ∃ a, x = .ok a ∧ f a = .error e := by
  cases x with
  | error e' =>
    constructor
    · exact fun h => .inl (congrArg Except.error (Except.error.inj h))
    · rintro (h | ⟨a, ha, -⟩)
      · exact congrArg Except.error (Except.error.inj h)
      · cases ha
  | ok a =>
    constructor
    · exact fun h => .inr ⟨a, rfl, h⟩
    · rintro (h | ⟨a', ha, h⟩)
      · cases h
      · obtain rfl := Except.ok.inj ha
        exact h

/-- A value that is bound to a column of `n` characters. -/
def varchar {ε : Type} (e : ε) (n : Nat) : Json → Except ε (Option Text)
  | .null => .ok none
  | .str s => if nulFree s && fits n s then .ok (some (s.take n)) else .error e
  | _ => .error e

theorem varchar_error {ε : Type} {e e' : ε} {n : Nat} {value : Json}
    (h : varchar e n value = .error e') : e' = e := by
  unfold varchar at h
  split at h
  · cases h
  · split at h
    · cases h
    · exact (Except.error.inj h).symm
  · exact (Except.error.inj h).symm

/-! ## Tables with a unique key -/

section Keys

variable {α κ : Type} {key : α → κ} {rows : List α}

theorem nodup_concat {a : α} (h : (rows.map key).Nodup) (ha : key a ∉ rows.map key) :
    ((rows ++ [a]).map key).Nodup := by
  rw [List.map_append, List.map_singleton]
  exact List.nodup_append_comm.mp (List.nodup_cons.mpr ⟨ha, h⟩)

theorem map_rewrite {f : α → α} (hf : ∀ a, key (f a) = key a) (p : α → Prop) [DecidablePred p]
    (rows : List α) : (rows.map fun a => if p a then f a else a).map key = rows.map key := by
  rw [List.map_map]
  refine List.map_congr_left fun a _ => ?_
  rw [Function.comp_apply]
  split
  · exact hf a
  · rfl

theorem mem_rewrite [DecidableEq κ] (h : (rows.map key).Nodup) {a b : α} (ha : a ∈ rows)
    {f : α → α} :
    (b ∈ rows.map fun c => if key c = key a then f c else c) ↔
      b = f a ∨ b ∈ rows ∧ key b ≠ key a := by
  rw [List.mem_map]
  constructor
  · rintro ⟨c, hc, rfl⟩
    by_cases heq : key c = key a
    · rw [if_pos heq, List.inj_on_of_nodup_map h hc ha heq]
      exact .inl rfl
    · rw [if_neg heq]
      exact .inr ⟨hc, heq⟩
  · rintro (rfl | ⟨hb, hne⟩)
    · exact ⟨a, ha, if_pos rfl⟩
    · exact ⟨b, hb, if_neg hne⟩

end Keys

/-! ## The table -/

/-- `user_role`. -/
inductive Role where
  | admin
  | controlOwner
  | assessor
  | viewer
  deriving DecidableEq

def Role.text : Role → Text
  | .admin => "admin".toList
  | .controlOwner => "control_owner".toList
  | .assessor => "assessor".toList
  | .viewer => "viewer".toList

/-- `User`. -/
structure User where
  id : Int
  organizationId : Int
  email : Text
  fullName : Option Text
  role : Role
  active : Bool
  deriving DecidableEq

structure Users where
  rows : List User
  ids : (rows.map User.id).Nodup
  emails : (rows.map User.email).Nodup

namespace Users

variable {t : Users} {i : Int} {e : Text} {u v : User}

/-- `session.get(User, id)`. -/
def get? (t : Users) (i : Int) : Option User := t.rows.find? fun u => u.id = i

/-- `select(User).where(User.email == email)`. -/
def byEmail (t : Users) (e : Text) : Option User := t.rows.find? fun u => u.email = e

theorem get?_eq_some : t.get? i = some u ↔ u ∈ t.rows ∧ u.id = i := by
  constructor
  · intro h
    exact ⟨List.mem_of_find?_eq_some h, by simpa using List.find?_some h⟩
  · rintro ⟨hu, rfl⟩
    exact find_of_nodup t.ids hu

theorem byEmail_eq_some : t.byEmail e = some u ↔ u ∈ t.rows ∧ u.email = e := by
  constructor
  · intro h
    exact ⟨List.mem_of_find?_eq_some h, by simpa using List.find?_some h⟩
  · rintro ⟨hu, rfl⟩
    exact find_of_nodup t.emails hu

theorem eq_of_id (hu : u ∈ t.rows) (hv : v ∈ t.rows) (h : u.id = v.id) : u = v :=
  List.inj_on_of_nodup_map t.ids hu hv h

/-! ## Writes -/

/-- An `INSERT`; nothing where the id or the e-mail is taken. -/
def insert (t : Users) (u : User) : Option Users :=
  if h : u.id ∉ t.rows.map User.id ∧ u.email ∉ t.rows.map User.email then
    some ⟨t.rows ++ [u], nodup_concat t.ids h.1, nodup_concat t.emails h.2⟩
  else none

theorem insert_eq_some {t' : Users} (h : t.insert u = some t') :
    u.id ∉ t.rows.map User.id ∧ t'.rows = t.rows ++ [u] := by
  unfold insert at h
  split at h
  · rename_i hfree
    obtain rfl := Option.some.inj h
    exact ⟨hfree.1, rfl⟩
  · cases h

/-- What is set of a row: neither its id nor its e-mail. -/
structure Change where
  write : User → User
  id : ∀ u, (write u).id = u.id
  email : ∀ u, (write u).email = u.email

/-- An `UPDATE` of one row. -/
def update (t : Users) (i : Int) (f : Change) : Users where
  rows := t.rows.map fun u => if u.id = i then f.write u else u
  ids := (map_rewrite f.id (fun u => u.id = i) t.rows).symm ▸ t.ids
  emails := (map_rewrite f.email (fun u => u.id = i) t.rows).symm ▸ t.emails

theorem mem_update (hv : v ∈ t.rows) {f : Change} :
    u ∈ (t.update v.id f).rows ↔ u = f.write v ∨ u ∈ t.rows ∧ u.id ≠ v.id :=
  mem_rewrite t.ids hv

end Users

end Concord.Identity.Provisioning
