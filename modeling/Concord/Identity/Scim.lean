import Concord.Base.Run
import Concord.Identity.Users

/-!
# SCIM provisioning

`scim_create_or_update_user`, `scim_deactivate_user` and `_scim_email` of
`src/ccf/identity/provisioning.py`, and the routes under `/api/scim/v2/Users` of
`src/ccf/api/routes/identity.py` that write. A request that raises is rolled back.

The active value is read by `_scim_active`, and again with a default of true where the
request goes on to `scim_create_or_update_user`, which finds the user by its e-mail.
`follows_iff`: the users follow the directory exactly in the runs in which what is read is
what was asked for, and the e-mail is that of the user.
-/

namespace Concord.Identity.Provisioning

open Concord.Base Concord.Python
open Concord.Governance.Importer (truthy)

/-- `str(value).strip().lower()`. -/
def Strings.normal (py : Strings) (value : Json) : Text := py.lower (strip (py.text value))

/-- How a request ends that writes nothing. -/
inductive Refusal where
  /-- The body is no JSON object: 422. -/
  | unprocessable
  /-- 404 -/
  | notFound
  /-- `ProvisioningConflictError` -/
  | conflict
  /-- `ProvisioningError` -/
  | provisioning
  | attributeError
  | typeError
  | keyError
  | dataError
  | integrityError
  deriving DecidableEq

/-- `ScimProvisioningEvent`. -/
structure ScimProvisioningEvent where
  organizationId : Int
  operation : Text
  externalId : Option Text
  email : Text
  userId : Int
  active : Option Bool

structure Directory where
  users : Users
  events : List ScimProvisioningEvent

/-! ## What is read of a body -/

/-- `_scim_email`. -/
def scimEmail (py : Strings) (payload : Json) : Except Refusal (Option Text) :=
  match given payload "userName" with
  | some userName => .ok (some (py.normal userName))
  | none =>
    match given payload "emails" with
    | none => .ok none
    | some (.arr (first :: _)) => .ok ((given first "value").map py.normal)
    | some (.str _) => .ok none
    | some (.obj _) => .error .keyError
    | some _ => .error .typeError

/-- `(payload.get("name") or {}).get("formatted") or payload.get("displayName")`. -/
def scimName (payload : Json) : Except Refusal Json :=
  let displayName := (payload.get? "displayName".toList).getD .null
  match given payload "name" with
  | none => .ok displayName
  | some (.obj fields) => .ok ((given (.obj fields) "formatted").getD displayName)
  | some _ => .error .attributeError

/-- `bool(payload.get("active", True))`. -/
def asked (payload : Json) : Bool := ((payload.get? "active".toList).map truthy).getD true

/-- What an element of `Operations` sets `active` to. -/
def operationActive (py : Strings) (op : Json) : Option Bool :=
  if op.isDict ∧
      py.lower (py.text ((op.get? "path".toList).getD (.str []))) = "active".toList then
    match op.get? "value".toList with
    | some (.bool b) => some b
    | some (.str s) => some (decide (py.lower (strip s) = "true".toList))
    | _ => none
  else none

/-- `_scim_active`. -/
def scimActive (py : Strings) (payload : Json) : Except Refusal (Option Bool) :=
  match payload.get? "active".toList with
  | some active => .ok (some (truthy active))
  | none =>
    match payload.get? "Operations".toList with
    | none => .ok none
    | some (.arr ops) => .ok (ops.findSome? (operationActive py))
    -- characters and keys are no dicts
    | some (.str _) => .ok none
    | some (.obj _) => .ok none
    | some _ => .error .typeError

/-! ## The requests -/

/-- `user.full_name = ...; user.active = ...`. -/
def setAccount (fullName : Option Text) (active : Bool) : Users.Change where
  write u := { u with fullName := fullName, active := active }
  id _ := rfl
  email _ := rfl

/-- `user.active = False`. -/
def setInactive : Users.Change where
  write u := { u with active := false }
  id _ := rfl
  email _ := rfl

/-- `if name: user.full_name = name`. -/
def nameAfter (user : User) (name : Json) : Except Refusal (Option Text) :=
  if truthy name then varchar .dataError 255 name else .ok user.fullName

/-- `scim_create_or_update_user`; `newId` is the next id of the sequence. -/
def scimCreateOrUpdateUser (py : Strings) (d : Directory) (orgId : Int) (payload : Json)
    (newId : Int) : Except Refusal Directory := do
  let email := (← scimEmail py payload).getD []
  require (email ≠ []) .provisioning
  let name ← scimName payload
  let active := asked payload
  require (nulFree email) .dataError
  match d.users.byEmail email with
  | some user =>
    require (user.organizationId = orgId) .conflict
    let fullName ← nameAfter user name
    let externalId ← varchar .dataError 255 ((payload.get? "externalId".toList).getD .null)
    return { users := d.users.update user.id (setAccount fullName active)
             events := d.events ++
               [⟨orgId, "update".toList, externalId, email, user.id, some active⟩] }
  | none =>
    require (fits 255 email) .dataError
    let fullName ← varchar .dataError 255 name
    match d.users.insert ⟨newId, orgId, email.take 255, fullName, .viewer, active⟩ with
    | none => throw .integrityError
    | some users =>
      let externalId ← varchar .dataError 255 ((payload.get? "externalId".toList).getD .null)
      return { users := users
               events := d.events ++
                 [⟨orgId, "create".toList, externalId, email, newId, some active⟩] }

/-- `scim_deactivate_user`. -/
def scimDeactivateUser (d : Directory) (orgId : Int) (user : User) : Directory where
  users := d.users.update user.id setInactive
  events := d.events ++ [⟨orgId, "deactivate".toList, none, user.email, user.id, none⟩]

/-- `_scim_user_in_org`. -/
def scimUserInOrg (d : Directory) (userId orgId : Int) : Except Refusal User :=
  match d.users.get? userId with
  | some user => if user.organizationId = orgId then .ok user else .error .notFound
  | none => .error .notFound

/-- `merged`, of an update that does not deactivate. -/
def merged (user : User) (payload : Json) (active : Option Bool) : Json :=
  let named := payload.set "userName".toList (.str user.email)
  if active = some true then named.set "active".toList (.bool true) else named

/-- `scim_create_user`. -/
def scimCreateUser (py : Strings) (d : Directory) (orgId : Int) (payload : Json) (newId : Int) :
    Except Refusal Directory := do
  require payload.isDict .unprocessable
  scimCreateOrUpdateUser py d orgId payload newId

/-- `scim_update_user`, of a `PUT` and of a `PATCH`. -/
def scimUpdateUser (py : Strings) (d : Directory) (orgId userId : Int) (payload : Json)
    (newId : Int) : Except Refusal Directory := do
  require payload.isDict .unprocessable
  let user ← scimUserInOrg d userId orgId
  let active ← scimActive py payload
  if active = some false then .ok (scimDeactivateUser d orgId user)
  else scimCreateOrUpdateUser py d orgId (merged user payload active) newId

/-- `scim_delete_user`. -/
def scimDeleteUser (d : Directory) (orgId userId : Int) : Except Refusal Directory := do
  let user ← scimUserInOrg d userId orgId
  return scimDeactivateUser d orgId user

inductive Request where
  | create (payload : Json) (newId : Int)
  | update (userId : Int) (payload : Json) (newId : Int)
  | delete (userId : Int)

def Request.serve (py : Strings) (orgId : Int) (d : Directory) : Request → Except Refusal Directory
  | .create payload newId => scimCreateUser py d orgId payload newId
  | .update userId payload newId => scimUpdateUser py d orgId userId payload newId
  | .delete userId => scimDeleteUser d orgId userId

/-! ## What the directory asks for -/

/-- The active value that a value states: a boolean, or the string `True` or `False`. -/
def activeValue (py : Strings) : Json → Option Bool
  | .bool b => some b
  | .str s =>
    if py.lower (strip s) = "true".toList then some true
    else if py.lower (strip s) = "false".toList then some false
    else none
  | _ => none

/-- What an element of `Operations` states: its value under the path `active`, or without a
path the attribute of its value. -/
def operationStates (py : Strings) (op : Json) : Option Bool :=
  match op.get? "path".toList with
  | some (.str path) =>
    if py.lower path = "active".toList then (op.get? "value".toList).bind (activeValue py)
    else none
  | some .null => statesWithoutPath
  | some _ => none
  | none => statesWithoutPath
where
  statesWithoutPath : Option Bool :=
    ((op.get? "value".toList).bind fun value => value.get? "active".toList).bind (activeValue py)

/-- What a body states: its attribute, or else the last of the operations that states one. -/
def bodyStates (py : Strings) (payload : Json) : Option Bool :=
  ((payload.get? "active".toList).bind (activeValue py)).or
    ((Json.listOrEmpty (payload.get? "Operations".toList)).filterMap (operationStates py)).getLast?

def Request.states (py : Strings) : Request → Option Bool
  | .create payload _ => bodyStates py payload
  | .update _ payload _ => bodyStates py payload
  | .delete _ => some false

/-- The user that a request names: of a creation the one with the e-mail. -/
def Request.named (py : Strings) (d : Directory) : Request → Int
  | .create payload newId =>
    match scimEmail py payload with
    | .ok (some email) => (d.users.byEmail email).elim newId User.id
    | _ => newId
  | .update userId _ _ => userId
  | .delete userId => userId

/-- The users, and what the directory has said of each. -/
structure World where
  d : Directory
  said : Int → Bool

/-- The directory said of every user what it is. -/
def World.start (d : Directory) : World :=
  ⟨d, fun i => (d.users.get? i).any User.active⟩

/-- What is said after a request: of a user that is created it is active. -/
def World.hear (w : World) (i : Int) (states : Option Bool) : Int → Bool :=
  Function.update w.said i (states.getD ((w.d.users.get? i).elim true fun _ => w.said i))

/-- A request; one that is refused changes nothing and says nothing. -/
def World.step (py : Strings) (orgId : Int) (w : World) (req : Request) : Option World :=
  match req.serve py orgId w.d with
  | .ok d => some ⟨d, w.hear (req.named py w.d) (req.states py)⟩
  | .error _ => some w

/-- Every user is active as the directory said. -/
def World.Agrees (w : World) : Prop := ∀ u ∈ w.d.users.rows, u.active = w.said u.id

/-- After the request the users are as the directory said, only the one it names has changed
or is new, and none of another organization. -/
structure Follows (py : Strings) (orgId : Int) (w : World) (req : Request) (w' : World) :
    Prop where
  agrees : w'.Agrees
  others : ∀ u, u.id ≠ req.named py w.d → (u ∈ w'.d.users.rows ↔ u ∈ w.d.users.rows)
  foreign : ∀ u, u.organizationId ≠ orgId → (u ∈ w'.d.users.rows ↔ u ∈ w.d.users.rows)

/-! ## What a request writes -/

section Effects

variable {py : Strings} {d d' : Directory} {orgId newId userId : Int} {payload : Json}

theorem createOrUpdate_ok (h : scimCreateOrUpdateUser py d orgId payload newId = .ok d') :
    ∃ email, scimEmail py payload = .ok (some email) ∧
      ((∃ v name fullName, d.users.byEmail email = some v ∧ v.organizationId = orgId ∧
          scimName payload = .ok name ∧ nameAfter v name = .ok fullName ∧
          d'.users = d.users.update v.id (setAccount fullName (asked payload))) ∨
        (d.users.byEmail email = none ∧ ∃ u, u.id = newId ∧ u.organizationId = orgId ∧
          u.active = asked payload ∧ newId ∉ d.users.rows.map User.id ∧
          d'.users.rows = d.users.rows ++ [u])) := by
  unfold scimCreateOrUpdateUser at h
  obtain ⟨found, hemail, h⟩ := bind_eq_ok.mp h
  obtain ⟨_, hne, h⟩ := bind_eq_ok.mp h
  obtain ⟨name, hname, h⟩ := bind_eq_ok.mp h
  obtain ⟨-, -, h⟩ := bind_eq_ok.mp h
  -- the empty text is refused as no e-mail is
  cases found with
  | none => exact absurd rfl (require_ok.mp hne)
  | some email =>
    refine ⟨email, hemail, ?_⟩
    rw [Option.getD_some] at h
    cases hfound : d.users.byEmail email with
    | some v =>
      rw [hfound] at h
      obtain ⟨_, horg, h⟩ := bind_eq_ok.mp h
      obtain ⟨fullName, hfull, h⟩ := bind_eq_ok.mp h
      obtain ⟨externalId, -, h⟩ := bind_eq_ok.mp h
      obtain rfl := Except.ok.inj h
      exact .inl ⟨v, name, fullName, rfl, require_ok.mp horg, hname, hfull, rfl⟩
    | none =>
      rw [hfound] at h
      obtain ⟨-, -, h⟩ := bind_eq_ok.mp h
      obtain ⟨fullName, -, h⟩ := bind_eq_ok.mp h
      split at h
      · cases h
      · rename_i users hinsert
        obtain ⟨externalId, -, h⟩ := bind_eq_ok.mp h
        obtain rfl := Except.ok.inj h
        obtain ⟨hfree, hrows⟩ := Users.insert_eq_some hinsert
        exact .inr ⟨rfl, _, rfl, rfl, rfl, hfree, hrows⟩

theorem userInOrg_ok {u : User} :
    scimUserInOrg d userId orgId = .ok u ↔
      d.users.get? userId = some u ∧ u.organizationId = orgId := by
  unfold scimUserInOrg
  cases d.users.get? userId with
  | none => simp
  | some v =>
    dsimp only
    by_cases h : v.organizationId = orgId
    · rw [if_pos h, Except.ok.injEq, Option.some.injEq]
      exact ⟨fun hv => ⟨hv, hv ▸ h⟩, And.left⟩
    · rw [if_neg h]
      simp only [reduceCtorEq, Option.some.injEq, false_iff, not_and]
      rintro rfl
      exact h

theorem update_ok (h : scimUpdateUser py d orgId userId payload newId = .ok d') :
    payload.isDict = true ∧ ∃ u active, d.users.get? userId = some u ∧ u.organizationId = orgId ∧
      scimActive py payload = .ok active ∧
      (active = some false ∧ d' = scimDeactivateUser d orgId u ∨
        active ≠ some false ∧
          scimCreateOrUpdateUser py d orgId (merged u payload active) newId = .ok d') := by
  unfold scimUpdateUser at h
  obtain ⟨_, hdict, h⟩ := bind_eq_ok.mp h
  obtain ⟨u, hu, h⟩ := bind_eq_ok.mp h
  obtain ⟨active, hactive, h⟩ := bind_eq_ok.mp h
  obtain ⟨hget, horg⟩ := userInOrg_ok.mp hu
  refine ⟨require_ok.mp hdict, u, active, hget, horg, hactive, ?_⟩
  by_cases hfalse : active = some false
  · rw [if_pos hfalse] at h
    exact .inl ⟨hfalse, (Except.ok.inj h).symm⟩
  · rw [if_neg hfalse] at h
    exact .inr ⟨hfalse, h⟩

theorem delete_ok (h : scimDeleteUser d orgId userId = .ok d') :
    ∃ u, d.users.get? userId = some u ∧ u.organizationId = orgId ∧
      d' = scimDeactivateUser d orgId u := by
  obtain ⟨u, hu, h⟩ := bind_eq_ok.mp h
  obtain ⟨hget, horg⟩ := userInOrg_ok.mp hu
  exact ⟨u, hget, horg, (Except.ok.inj h).symm⟩

theorem asked_merged {u : User} {active : Option Bool} (hdict : payload.isDict = true)
    (hactive : scimActive py payload = .ok active) (hnot : active ≠ some false) :
    asked (merged u payload active) = true := by
  have hnamed : ∀ k, (payload.set "userName".toList (.str u.email)).get? k =
      if k = "userName".toList then some (.str u.email) else payload.get? k :=
    Json.get?_set _ _ hdict
  unfold asked merged
  by_cases htrue : active = some true
  · have hd : (payload.set "userName".toList (.str u.email)).isDict = true := by
      cases payload with
      | obj fields => rfl
      | _ => cases hdict
    rw [if_pos htrue, Json.get?_set _ _ hd, if_pos rfl]
    rfl
  · -- neither was read, so the body has no `active`, and the default is read
    have hnone : active = none := by
      cases active with
      | none => rfl
      | some b => cases b with
        | true => exact absurd rfl htrue
        | false => exact absurd rfl hnot
    rw [if_neg htrue, hnamed, if_neg (by decide)]
    unfold scimActive at hactive
    cases hget : payload.get? "active".toList with
    | none => rfl
    | some v =>
      rw [hget, hnone] at hactive
      cases Except.ok.inj hactive

end Effects

/-! ## When the users follow -/

/-- What the user that the request names is to be: as stated, or else as it is; one that is
created is to be active. -/
def wanted (py : Strings) (d : Directory) (req : Request) : Bool :=
  (req.states py).getD ((d.users.get? (req.named py d)).elim true User.active)

/-- The user has the name that the body gives it, if it gives one. -/
def LeavesName (v : User) (body : Json) : Prop :=
  ∀ name, scimName body = .ok name → truthy name = true →
    varchar Refusal.dataError 255 name = .ok v.fullName

/-- An update that activates: under the normal form of its e-mail the user is found that it
names, which is to be active, or another one that is as the body says. -/
def ActivatesRightly (py : Strings) (d : Directory) (u : User) (body : Json) (want : Bool) :
    Prop :=
  ∀ email, scimEmail py body = .ok (some email) → ∃ v, d.users.byEmail email = some v ∧
    (v = u ∧ want = true ∨ v ≠ u ∧ want = u.active ∧ v.active = true ∧ LeavesName v body)

/-- What the code reads of the request is what is wanted. -/
def ReadRightly (py : Strings) (d : Directory) : Request → Prop
  | .create payload newId => asked payload = wanted py d (.create payload newId)
  | .update userId payload newId =>
    ∀ u active, d.users.get? userId = some u → scimActive py payload = .ok active →
      if active = some false then wanted py d (.update userId payload newId) = false
      else ActivatesRightly py d u (merged u payload active)
        (wanted py d (.update userId payload newId))
  | .delete _ => True

section Following

variable {py : Strings} {orgId : Int} {w : World} {req : Request} {d' : Directory} {u v : User}
variable {f : Users.Change}

theorem hear_of_ne {i j : Int} (h : i ≠ j) (states : Option Bool) :
    w.hear j states i = w.said i :=
  Function.update_of_ne h _ _

theorem wanted_of_mem (hu : u ∈ w.d.users.rows) (hnamed : req.named py w.d = u.id) :
    wanted py w.d req = (req.states py).getD u.active := by
  rw [wanted, hnamed, Users.get?_eq_some.mpr ⟨hu, rfl⟩]
  rfl

theorem hear_of_mem (hw : w.Agrees) (hu : u ∈ w.d.users.rows) (hnamed : req.named py w.d = u.id) :
    w.hear u.id (req.states py) u.id = wanted py w.d req := by
  rw [wanted_of_mem hu hnamed, World.hear, Function.update_self,
    Users.get?_eq_some.mpr ⟨hu, rfl⟩, hw u hu]
  rfl

theorem follows_named (hw : w.Agrees) (hv : v ∈ w.d.users.rows) (horg : v.organizationId = orgId)
    (hnamed : req.named py w.d = v.id) (hf : (f.write v).organizationId = v.organizationId)
    (hd : d'.users = w.d.users.update v.id f) :
    Follows py orgId w req ⟨d', w.hear (req.named py w.d) (req.states py)⟩ ↔
      (f.write v).active = wanted py w.d req := by
  have hrows : ∀ u, u ∈ d'.users.rows ↔ u = f.write v ∨ u ∈ w.d.users.rows ∧ u.id ≠ v.id := by
    intro u
    rw [hd]
    exact Users.mem_update hv
  have hself := hear_of_mem hw hv hnamed
  constructor
  · intro h
    have hagrees := h.agrees (f.write v) ((hrows _).mpr (.inl rfl))
    rw [f.id, hnamed] at hagrees
    exact hagrees.trans hself
  · intro h
    refine ⟨fun u hu => ?_, fun u hu => ?_, fun u hu => ?_⟩
    · dsimp only
      rw [hnamed]
      obtain rfl | ⟨hu, hne⟩ := (hrows u).mp hu
      · rw [f.id, hself, h]
      · rw [hear_of_ne hne]
        exact hw u hu
    · rw [hnamed] at hu
      rw [hrows]
      constructor
      · rintro (rfl | ⟨hmem, -⟩)
        · exact absurd (f.id v) hu
        · exact hmem
      · exact fun hmem => .inr ⟨hmem, hu⟩
    · rw [hrows]
      constructor
      · rintro (rfl | ⟨hmem, -⟩)
        · exact absurd (hf.trans horg) hu
        · exact hmem
      · refine fun hmem => .inr ⟨hmem, fun hid => ?_⟩
        exact hu (Users.eq_of_id hmem hv hid ▸ horg)

theorem follows_other (hw : w.Agrees) (hu : u ∈ w.d.users.rows) (hv : v ∈ w.d.users.rows)
    (hne : v.id ≠ u.id) (hnamed : req.named py w.d = u.id)
    (hd : d'.users = w.d.users.update v.id f) :
    Follows py orgId w req ⟨d', w.hear (req.named py w.d) (req.states py)⟩ ↔
      f.write v = v ∧ u.active = wanted py w.d req := by
  have hrows : ∀ u, u ∈ d'.users.rows ↔ u = f.write v ∨ u ∈ w.d.users.rows ∧ u.id ≠ v.id := by
    intro u
    rw [hd]
    exact Users.mem_update hv
  have hself := hear_of_mem hw hu hnamed
  constructor
  · intro h
    have hwritten : f.write v ∈ w.d.users.rows := by
      refine (h.others (f.write v) ?_).mp ((hrows _).mpr (.inl rfl))
      rw [f.id, hnamed]
      exact hne
    refine ⟨Users.eq_of_id hwritten hv (f.id v), ?_⟩
    have hagrees := h.agrees u ((hrows u).mpr (.inr ⟨hu, hne.symm⟩))
    rw [hnamed] at hagrees
    exact hagrees.trans hself
  · rintro ⟨hsame, hactive⟩
    -- nothing has changed
    have hmem : ∀ u, u ∈ d'.users.rows ↔ u ∈ w.d.users.rows := by
      intro x
      rw [hrows, hsame]
      constructor
      · rintro (rfl | ⟨hx, -⟩)
        · exact hv
        · exact hx
      · intro hx
        by_cases hid : x.id = v.id
        · exact .inl (Users.eq_of_id hx hv hid)
        · exact .inr ⟨hx, hid⟩
    refine ⟨fun x hx => ?_, fun x _ => hmem x, fun x _ => hmem x⟩
    have hx' := (hmem x).mp hx
    dsimp only
    rw [hnamed]
    by_cases hid : x.id = u.id
    · rw [Users.eq_of_id hx' hu hid, hself, hactive]
    · rw [hear_of_ne hid]
      exact hw x hx'

theorem follows_joined (hw : w.Agrees) (hfree : u.id ∉ w.d.users.rows.map User.id)
    (horg : u.organizationId = orgId) (hnamed : req.named py w.d = u.id)
    (hd : d'.users.rows = w.d.users.rows ++ [u]) :
    Follows py orgId w req ⟨d', w.hear (req.named py w.d) (req.states py)⟩ ↔
      u.active = wanted py w.d req := by
  have hrows : ∀ x, x ∈ d'.users.rows ↔ x ∈ w.d.users.rows ∨ x = u := by
    intro x
    rw [hd, List.mem_append, List.mem_singleton]
  have hnone : w.d.users.get? u.id = none := by
    cases hget : w.d.users.get? u.id with
    | none => rfl
    | some x =>
      obtain ⟨hx, hid⟩ := Users.get?_eq_some.mp hget
      exact absurd (List.mem_map.mpr ⟨x, hx, hid⟩) hfree
  have hself : w.hear u.id (req.states py) u.id = wanted py w.d req := by
    rw [World.hear, Function.update_self, wanted, hnamed, hnone]
    rfl
  constructor
  · intro h
    have hagrees := h.agrees u ((hrows u).mpr (.inr rfl))
    rw [hnamed] at hagrees
    exact hagrees.trans hself
  · intro h
    refine ⟨fun x hx => ?_, fun x hx => ?_, fun x hx => ?_⟩
    · dsimp only
      rw [hnamed]
      obtain hx | rfl := (hrows x).mp hx
      · rw [hear_of_ne fun hid => hfree (List.mem_map.mpr ⟨x, hx, hid⟩)]
        exact hw x hx
      · rw [hself, h]
    · rw [hnamed] at hx
      rw [hrows]
      exact or_iff_left fun heq => hx (congrArg User.id heq)
    · rw [hrows]
      exact or_iff_left fun heq => hx (heq ▸ horg)

theorem not_follows_of_joined (hfree : u.id ∉ w.d.users.rows.map User.id)
    (hnamed : req.named py w.d ≠ u.id) (hd : d'.users.rows = w.d.users.rows ++ [u]) :
    ¬Follows py orgId w req ⟨d', w.hear (req.named py w.d) (req.states py)⟩ := by
  intro h
  have hjoined : u ∈ d'.users.rows := by
    rw [hd]
    exact List.mem_append_right _ (List.mem_singleton.mpr rfl)
  have hmem := (h.others u (Ne.symm hnamed)).mp hjoined
  exact hfree (List.mem_map.mpr ⟨u, hmem, rfl⟩)

theorem write_setAccount {body name : Json} {fullName : Option Text} {active : Bool}
    (hname : scimName body = .ok name) (hfull : nameAfter v name = .ok fullName) :
    (setAccount fullName active).write v = v ↔ v.active = active ∧ LeavesName v body := by
  have hleaves : LeavesName v body ↔ fullName = v.fullName := by
    unfold LeavesName
    unfold nameAfter at hfull
    split at hfull
    · rename_i htrue
      constructor
      · intro h
        exact Except.ok.inj (hfull.symm.trans (h name hname htrue))
      · rintro rfl name' hname' -
        rw [Except.ok.inj (hname'.symm.trans hname)]
        exact hfull
    · rename_i hfalse
      refine ⟨fun _ => (Except.ok.inj hfull).symm, fun _ name' hname' htrue => ?_⟩
      rw [Except.ok.inj (hname'.symm.trans hname)] at htrue
      exact absurd htrue hfalse
  rw [hleaves]
  show { v with fullName := fullName, active := active } = v ↔ _
  rw [User.mk.injEq]
  constructor
  · rintro ⟨-, -, -, hn, -, ha⟩
    exact ⟨ha.symm, hn⟩
  · rintro ⟨ha, hn⟩
    exact ⟨rfl, rfl, rfl, hn, rfl, ha.symm⟩

theorem readRightly_update {userId newId : Int} {payload : Json} {active : Option Bool}
    (hu : w.d.users.get? userId = some u) (hactive : scimActive py payload = .ok active) :
    ReadRightly py w.d (.update userId payload newId) ↔
      if active = some false then wanted py w.d (.update userId payload newId) = false
      else ActivatesRightly py w.d u (merged u payload active)
        (wanted py w.d (.update userId payload newId)) := by
  refine ⟨fun hr => hr u active hu hactive, fun hr u' active' hu' hactive' => ?_⟩
  rw [hu, Option.some.injEq] at hu'
  rw [hactive, Except.ok.injEq] at hactive'
  rw [← hu', ← hactive']
  exact hr

theorem activatesRightly_iff {body : Json} {want : Bool} {email : Text}
    (hemail : scimEmail py body = .ok (some email)) (hv : w.d.users.byEmail email = some v) :
    ActivatesRightly py w.d u body want ↔
      (v = u ∧ want = true ∨ v ≠ u ∧ want = u.active ∧ v.active = true ∧ LeavesName v body) := by
  constructor
  · intro hr
    obtain ⟨v', hv', hcases⟩ := hr email hemail
    rw [hv, Option.some.injEq] at hv'
    exact hv' ▸ hcases
  · intro hcases email' hemail'
    rw [hemail, Except.ok.injEq, Option.some.injEq] at hemail'
    exact ⟨v, hemail' ▸ hv, hcases⟩

theorem follows_activated {body name : Json} {fullName : Option Text} (hw : w.Agrees)
    (hu : u ∈ w.d.users.rows) (horg : u.organizationId = orgId) (hv : v ∈ w.d.users.rows)
    (hnamed : req.named py w.d = u.id) (hname : scimName body = .ok name)
    (hfull : nameAfter v name = .ok fullName)
    (hd : d'.users = w.d.users.update v.id (setAccount fullName true)) :
    Follows py orgId w req ⟨d', w.hear (req.named py w.d) (req.states py)⟩ ↔
      (v = u ∧ wanted py w.d req = true ∨
        v ≠ u ∧ wanted py w.d req = u.active ∧ v.active = true ∧ LeavesName v body) := by
  by_cases hsame : v = u
  · have hrow : (setAccount fullName true).write u = { u with fullName, active := true } := rfl
    rw [hsame] at hd
    rw [follows_named hw hu horg hnamed rfl hd, hrow]
    constructor
    · exact fun hw => .inl ⟨hsame, hw.symm⟩
    · rintro (⟨-, hw⟩ | ⟨hne, -⟩)
      · exact hw.symm
      · exact absurd hsame hne
  · have hne : v.id ≠ u.id := fun heq => hsame (Users.eq_of_id hv hu heq)
    rw [follows_other hw hu hv hne hnamed hd, write_setAccount hname hfull]
    constructor
    · rintro ⟨⟨hactive, hleaves⟩, hw⟩
      exact .inr ⟨hsame, hw.symm, hactive, hleaves⟩
    · rintro (⟨heq, -⟩ | ⟨-, hw, hactive, hleaves⟩)
      · exact absurd heq hsame
      · exact ⟨⟨hactive, hleaves⟩, hw.symm⟩

/-- **One request**: the users follow exactly where it is read rightly. -/
theorem follows_step (hw : w.Agrees) (h : req.serve py orgId w.d = .ok d') :
    Follows py orgId w req ⟨d', w.hear (req.named py w.d) (req.states py)⟩ ↔
      ReadRightly py w.d req := by
  cases req with
  | create payload newId =>
    obtain ⟨_, -, h⟩ := bind_eq_ok.mp h
    obtain ⟨email, hemail, hfound | hjoined⟩ := createOrUpdate_ok h
    · obtain ⟨v, name, fullName, hv, horg, -, -, hd⟩ := hfound
      have hnamed : (Request.create payload newId).named py w.d = v.id := by
        simp only [Request.named, hemail, hv, Option.elim_some]
      exact follows_named hw (Users.byEmail_eq_some.mp hv).1 horg hnamed rfl hd
    · obtain ⟨hnone, u, rfl, horg, hactive, hfree, hd⟩ := hjoined
      have hnamed : (Request.create payload u.id).named py w.d = u.id := by
        simp only [Request.named, hemail, hnone, Option.elim_none]
      rw [follows_joined hw hfree horg hnamed hd, hactive]
      rfl
  | update userId payload newId =>
    obtain ⟨hdict, u, active, hu, horg, hactive, hcase⟩ := update_ok h
    obtain ⟨hmem, hid⟩ := Users.get?_eq_some.mp hu
    have hnamed : (Request.update userId payload newId).named py w.d = u.id := hid.symm
    rw [readRightly_update hu hactive]
    obtain ⟨hfalse, rfl⟩ | ⟨hnot, h⟩ := hcase
    · rw [if_pos hfalse, follows_named hw hmem horg hnamed (f := setInactive) rfl rfl]
      exact eq_comm
    · rw [if_neg hnot]
      -- the user is looked up again, by its e-mail
      obtain ⟨email, hemail, hfound | hjoined⟩ := createOrUpdate_ok h
      · obtain ⟨v, name, fullName, hv, -, hname, hfull, hd⟩ := hfound
        rw [asked_merged hdict hactive hnot] at hd
        rw [activatesRightly_iff hemail hv]
        exact follows_activated hw hmem horg (Users.byEmail_eq_some.mp hv).1 hnamed hname hfull hd
      · obtain ⟨hnone, x, rfl, -, -, hfree, hd⟩ := hjoined
        have hne : (Request.update userId payload x.id).named py w.d ≠ x.id := by
          show userId ≠ x.id
          rintro rfl
          exact hfree (List.mem_map.mpr ⟨u, hmem, hid⟩)
        refine iff_of_false (not_follows_of_joined hfree hne hd) fun hr => ?_
        obtain ⟨v, hv, -⟩ := hr email hemail
        rw [hnone] at hv
        cases hv
  | delete userId =>
    obtain ⟨u, hu, horg, rfl⟩ := delete_ok h
    obtain ⟨hmem, hid⟩ := Users.get?_eq_some.mp hu
    have hnamed : (Request.delete userId).named py w.d = u.id := hid.symm
    rw [follows_named hw hmem horg hnamed (f := setInactive) rfl rfl]
    exact iff_of_true rfl trivial

end Following

/-! ## Runs -/

def Served (py : Strings) (orgId : Int) (d : Directory) (req : Request) : Prop :=
  ∃ d', req.serve py orgId d = .ok d'

/-- In every state the users follow the directory. -/
def FollowsAlways (py : Strings) (orgId : Int) (d : Directory) (reqs : List Request) : Prop :=
  Guarded (World.step py orgId)
    (fun w req => ∀ w', World.step py orgId w req = some w' → Follows py orgId w req w')
    (World.start d) reqs

theorem agrees_start (d : Directory) : (World.start d).Agrees := by
  intro u hu
  have hget : d.users.get? u.id = some u := Users.get?_eq_some.mpr ⟨hu, rfl⟩
  show u.active = (d.users.get? u.id).any User.active
  rw [hget]
  rfl

/-- **The users follow the directory exactly in the runs in which every request that is not
refused is read rightly.** -/
theorem follows_iff (py : Strings) (orgId : Int) (d : Directory) (reqs : List Request) :
    FollowsAlways py orgId d reqs ↔
      Guarded (World.step py orgId)
        (fun w req => Served py orgId w.d req → ReadRightly py w.d req) (World.start d) reqs := by
  have hstep : ∀ w req, w.Agrees →
      ((∀ w', World.step py orgId w req = some w' → Follows py orgId w req w') ↔
        (Served py orgId w.d req → ReadRightly py w.d req)) := by
    intro w req hw
    unfold World.step
    cases h : req.serve py orgId w.d with
    | error e =>
      -- what is refused is rolled back
      refine iff_of_true ?_ ?_
      · rintro w' hw'
        obtain rfl := Option.some.inj hw'
        exact ⟨hw, fun u _ => Iff.rfl, fun u _ => Iff.rfl⟩
      · rintro ⟨d', hd'⟩
        rw [h] at hd'
        cases hd'
    | ok d' =>
      have hone := follows_step hw h
      constructor
      · exact fun hall _ => hone.mp (hall _ rfl)
      · rintro hread w' hw'
        obtain rfl := Option.some.inj hw'
        exact hone.mpr (hread ⟨d', h⟩)
  -- either way the users agree with what was said, and the run goes on from there
  have hkeep : ∀ w req w', (∀ w', World.step py orgId w req = some w' → Follows py orgId w req w') →
      World.step py orgId w req = some w' → w'.Agrees := fun w req w' h hw' => (h w' hw').agrees
  constructor
  · exact Guarded.consequence (fun w req w' _ => hkeep w req w')
      (fun w req hw h => (hstep w req hw).mp h) (agrees_start d)
  · exact Guarded.consequence (fun w req w' hw h => hkeep w req w' ((hstep w req hw).mpr h))
      (fun w req hw h => (hstep w req hw).mpr h) (agrees_start d)

/-! ## A new name for a deactivated user -/

def ann : User := ⟨1, 1, "ann@acme.org".toList, none, .viewer, true⟩

def oneUser : Directory where
  users := ⟨[ann], List.nodup_singleton _, List.nodup_singleton _⟩
  events := []

def leaves : List Request :=
  [.update 1 (.obj [("active".toList, .bool false)]) 2,
    .update 1 (.obj [("displayName".toList, .str "Ann".toList)]) 2]

/-- A user that was deactivated is activated by its new name. -/
theorem renamed_active :
    ¬∀ (py : Strings) (orgId : Int) (d : Directory) (reqs : List Request),
      FollowsAlways py orgId d reqs := by
  intro h
  obtain ⟨-, hnext⟩ := h ascii 1 oneUser leaves
  have hagrees := ((hnext _ rfl).1 _ rfl).agrees { ann with fullName := some "Ann".toList }
    (List.mem_singleton.mpr rfl)
  exact Bool.noConfusion hagrees

end Concord.Identity.Provisioning
