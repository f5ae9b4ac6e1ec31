import Concord.Base.Run
import Concord.Identity.Users

/-!
# Single sign-on

`provision_from_oidc` of `src/ccf/identity/provisioning.py` under `sso_callback` of
`src/ccf/api/routes/identity.py`, which rolls back what is refused; any other exception ends
the session without a commit. The claims are whatever the identity provider says.

`resolve_role` answers with the default role where no group is mapped, as it would with that
of a mapping, and `domain_allowed` takes an address without an `@` for its own domain.
`grants_iff`: a sign-in grants what it should exactly where neither is to be seen.
-/

namespace Concord.Identity.Provisioning

open Concord.Base Concord.Python
open Concord.Governance.Importer (truthy)

/-- `ExternalIdentity`. -/
structure ExternalIdentity where
  organizationId : Int
  userId : Int
  provider : Text
  subject : Text
  email : Option Text
  claims : Json
  lastLoginAt : Option Int

def ExternalIdentity.key (l : ExternalIdentity) : Text × Text := (l.provider, l.subject)

def ExternalIdentity.seen (email : Text) (claims : Json) (now : Int) (l : ExternalIdentity) :
    ExternalIdentity :=
  { l with claims := claims, email := some email, lastLoginAt := some now }

/-- The table `external_identities`. -/
structure Links where
  rows : List ExternalIdentity
  keys : (rows.map ExternalIdentity.key).Nodup

/-- `GroupRoleMapping`. -/
structure GroupRoleMapping where
  id : Int
  organizationId : Option Int
  group : Text
  role : Text
  priority : Int

structure Store where
  users : Users
  links : Links
  mappings : List GroupRoleMapping
  mappingIds : (mappings.map GroupRoleMapping.id).Nodup

/-- How a sign-in ends that returns no user. -/
inductive Failure where
  /-- `ProvisioningError`, with what the session has written. -/
  | refused (written : Store)
  | raised

/-- The parameters of a sign-in. -/
structure Config where
  /-- `[]` is also no list. -/
  allowedDomains : List Text
  defaultRole : Text
  jit : Bool
  provider : Text
  requireEmailVerified : Bool

def validRoles : List Role := [.admin, .controlOwner, .assessor, .viewer]

/-- The role of a text that is in `VALID_ROLES`. -/
def roleOf (t : Text) : Option Role := validRoles.find? fun r => r.text = t

/-! ## Claims -/

def claimGroups (py : Strings) : Option Json → List Text
  | some (.str s) => ((s.splitOn ',').map strip).filter (· ≠ [])
  | some (.arr items) => items.map py.text
  | _ => []

/-- `extract_groups`. -/
def extractGroups (py : Strings) (claims : Json) : List Text :=
  ["groups", "roles", "wids"].flatMap fun key => claimGroups py (claims.get? key.toList)

/-- `email_verification_ok`. -/
def emailVerificationOk (py : Strings) (claims : Json) (required : Bool) : Bool :=
  match claims.get? "email_verified".toList with
  | none => !required
  | some .null => !required
  | some (.str raw) => py.lower (strip raw) = "true".toList
  | some raw => truthy raw

/-- `email.rsplit("@", 1)[-1]`. -/
def afterAt (email : Text) : Text := (email.reverse.takeWhile (· ≠ '@')).reverse

/-- `d.strip().lower().lstrip("@")`. -/
def bareDomain (py : Strings) (d : Text) : Text := (py.lower (strip d)).dropWhile (· = '@')

/-- `domain_allowed`. -/
def domainAllowed (py : Strings) (email : Text) (allowedDomains : List Text) : Bool :=
  allowedDomains = [] || allowedDomains.any fun d =>
    d ≠ [] && py.lower (afterAt email) = bareDomain py d

/-- `(claims.get("email") or "").strip().lower()`. -/
def claimedEmail (py : Strings) (claims : Json) : Except Failure Text :=
  match given claims "email" with
  | none => .ok (py.lower [])
  | some (.str email) => .ok (py.lower (strip email))
  | some _ => .error .raised

/-- `str(claims.get("sub") or "").strip()`. -/
def claimedSubject (py : Strings) (claims : Json) : Text :=
  strip ((given claims "sub").elim [] py.text)

/-! ## Roles -/

/-- `ORDER BY priority, id`. -/
def GroupRoleMapping.le (m n : GroupRoleMapping) : Bool :=
  m.priority < n.priority || (m.priority = n.priority && m.id ≤ n.id)

/-- The mappings of the groups in an organization. -/
def Store.mapped (s : Store) (orgId : Int) (groups : List Text) : List GroupRoleMapping :=
  s.mappings.filter fun m => m.group ∈ groups && m.organizationId = some orgId

/-- `resolve_role`; both callers know the organization. -/
def resolveRole (s : Store) (orgId : Int) (groups : List Text) (defaultRole : Text) :
    Except Failure Text :=
  if groups = [] then .ok defaultRole
  -- a text with a NUL is no parameter of a query
  else if !groups.all nulFree then .error .raised
  else
    match ((s.mapped orgId groups).insertionSort (GroupRoleMapping.le · ·)).head? with
    | some row => .ok (if (roleOf row.role).isSome then row.role else defaultRole)
    | none => .ok defaultRole

/-! ## The links -/

namespace Links

def find (t : Links) (provider subject : Text) : Option ExternalIdentity :=
  t.rows.find? fun l => l.key = (provider, subject)

/-- An `INSERT`; nothing where the provider has the subject. -/
def insert (t : Links) (l : ExternalIdentity) : Option Links :=
  if h : l.key ∉ t.rows.map ExternalIdentity.key then
    some ⟨t.rows ++ [l], nodup_concat t.keys h⟩
  else none

theorem keys_seen (t : Links) (key : Text × Text) (email : Text) (claims : Json) (now : Int) :
    ((t.rows.map fun l => if l.key = key then l.seen email claims now else l).map
      ExternalIdentity.key).Nodup := by
  have hkey : ∀ l : ExternalIdentity, (l.seen email claims now).key = l.key := fun _ => rfl
  rw [map_rewrite hkey]
  exact t.keys

/-- An `UPDATE` of the link. -/
def update (t : Links) (key : Text × Text) (email : Text) (claims : Json) (now : Int) :
    Links where
  rows := t.rows.map fun l => if l.key = key then l.seen email claims now else l
  keys := keys_seen t key email claims now

end Links

/-! ## The sign-in -/

/-- `user.role = role`. -/
def setRole (role : Role) : Users.Change where
  write u := { u with role := role }
  id _ := rfl
  email _ := rfl

def linkedUser (s : Store) (ident : Option ExternalIdentity) : Option User :=
  ident.bind fun l => s.users.get? l.userId

/-- The user of the claims: the one of the link, else the one with the e-mail. -/
def findUser (s : Store) (ident : Option ExternalIdentity) (email : Text) :
    Except Failure (Option User) :=
  match linkedUser s ident with
  | some user => .ok (some user)
  | none => if nulFree email then .ok (s.users.byEmail email) else .error .raised

/-- The user that is created: the claims name it, and its groups its role. -/
def createUser (s : Store) (cfg : Config) (claims : Json) (groups : List Text) (email : Text)
    (orgId newId : Int) : Except Failure (Store × User) := do
  require (cfg.jit = true) (.refused s)
  let createRole ← resolveRole s orgId groups cfg.defaultRole
  let fullName ← varchar .raised 255 ((claims.get? "name".toList).getD .null)
  -- there is no blank at its end
  require (email.length ≤ 255) .raised
  let user : User := ⟨newId, orgId, email, fullName, (roleOf createRole).getD .viewer, true⟩
  match s.users.insert user with
  | none => throw .raised
  | some users => return ({ s with users := users }, user)

def foundOrCreated (s : Store) (cfg : Config) (claims : Json) (groups : List Text) (email : Text)
    (orgId newId : Int) : Option User → Except Failure (Store × User)
  | some user => .ok (s, user)
  | none => createUser s cfg claims groups email orgId newId

/-- `if groups and mapped_role in VALID_ROLES and user.role != mapped_role`. -/
def applyRole (s : Store) (user : User) (groups : List Text) (mappedRole : Text) :
    Store × User :=
  match roleOf mappedRole with
  | some role =>
    if groups ≠ [] ∧ user.role ≠ role then
      ({ s with users := s.users.update user.id (setRole role) }, { user with role := role })
    else (s, user)
  | none => (s, user)

def recordLink (s : Store) (cfg : Config) (user : User) (ident : Option ExternalIdentity)
    (subject email : Text) (claims : Json) (now : Int) : Except Failure Store := do
  require (email.length ≤ 255 ∧ nulFree email ∧ storable claims) .raised
  match ident with
  | some l => return { s with links := s.links.update l.key email claims now }
  | none =>
    require (cfg.provider.length ≤ 128 ∧ subject.length ≤ 255) .raised
    match s.links.insert
        ⟨user.organizationId, user.id, cfg.provider, subject, some email, claims, some now⟩ with
    | none => throw .raised
    | some links => return { s with links := links }

structure SignIn where
  store : Store
  user : User
  created : Bool

/-- `provision_from_oidc`; `newId` is the next id of the sequence. -/
def provisionFromOidc (py : Strings) (cfg : Config) (s : Store) (claims : Json)
    (orgId newId now : Int) : Except Failure SignIn := do
  let email ← claimedEmail py claims
  let subject := claimedSubject py claims
  require (email ≠ [] ∧ subject ≠ []) (.refused s)
  require (domainAllowed py email cfg.allowedDomains) (.refused s)
  require (emailVerificationOk py claims cfg.requireEmailVerified) (.refused s)
  let groups := extractGroups py claims
  require (nulFree subject) .raised
  let ident := s.links.find cfg.provider subject
  let found ← findUser s ident email
  let (s, user) ← foundOrCreated s cfg claims groups email orgId newId found
  require user.active (.refused s)
  let mappedRole ← resolveRole s user.organizationId groups cfg.defaultRole
  let (s, user) := applyRole s user groups mappedRole
  let s ← recordLink s cfg user ident subject email claims now
  return ⟨s, user, found.isNone⟩

/-! ## What a sign-in is to grant -/

/-- The mapping is of one of the groups, in the organization. -/
structure Maps (ms : List GroupRoleMapping) (orgId : Int) (groups : List Text)
    (m : GroupRoleMapping) : Prop where
  mem : m ∈ ms
  org : m.organizationId = some orgId
  group : m.group ∈ groups

/-- It is the one with the least priority, and of these with the least id. -/
structure Decides (ms : List GroupRoleMapping) (orgId : Int) (groups : List Text)
    (m : GroupRoleMapping) : Prop extends Maps ms orgId groups m where
  least : ∀ n, Maps ms orgId groups n →
    m.priority < n.priority ∨ m.priority = n.priority ∧ m.id ≤ n.id

def InDomain (py : Strings) (email : Text) (allowedDomains : List Text) : Prop :=
  ∃ name domain, email = name ++ '@' :: domain ∧ '@' ∉ domain ∧
    ∃ d ∈ allowedDomains, d ≠ [] ∧ py.lower domain = bareDomain py d

/-- The claims say that the address is not verified. -/
def StatesUnverified (py : Strings) (claims : Json) : Prop :=
  claims.get? "email_verified".toList = some (.bool false) ∨
    ∃ raw, claims.get? "email_verified".toList = some (.str raw) ∧
      py.lower (strip raw) = "false".toList

def knownUser (s : Store) (cfg : Config) (subject email : Text) : Option User :=
  (linkedUser s (s.links.find cfg.provider subject)).or (s.users.byEmail email)

def homeOrg (s : Store) (cfg : Config) (subject email : Text) (orgId : Int) : Int :=
  (knownUser s cfg subject email).elim orgId User.organizationId

def unmappedRole (s : Store) (cfg : Config) (subject email : Text) : Role :=
  (knownUser s cfg subject email).elim ((roleOf cfg.defaultRole).getD .viewer) User.role

/-- A sign-in grants what the organization of the user has mapped, and nothing else. -/
structure Grants (py : Strings) (cfg : Config) (s : Store) (claims : Json) (orgId : Int)
    (email : Text) (r : SignIn) : Prop where
  /-- The user of the link or of the e-mail, with a role. -/
  known : ∀ v, knownUser s cfg (claimedSubject py claims) email = some v →
    r.created = false ∧ r.user = { v with role := r.user.role }
  /-- Or a new one. -/
  joined : knownUser s cfg (claimedSubject py claims) email = none →
    r.created = true ∧ r.user.organizationId = orgId ∧ r.user.email = email ∧
      r.user.id ∉ s.users.rows.map User.id
  stored : r.user ∈ r.store.users.rows
  domain : cfg.allowedDomains = [] ∨ InDomain py email cfg.allowedDomains
  verified : ¬StatesUnverified py claims
  mapped : ∀ m, Decides s.mappings r.user.organizationId (extractGroups py claims) m →
    r.user.role.text = m.role
  unmapped : (∀ m, ¬Maps s.mappings r.user.organizationId (extractGroups py claims) m) →
    r.user.role = unmappedRole s cfg (claimedSubject py claims) email
  otherUsers : ∀ u, u.id ≠ r.user.id → (u ∈ r.store.users.rows ↔ u ∈ s.users.rows)
  otherLinks : ∀ l, l.key ≠ (cfg.provider, claimedSubject py claims) →
    (l ∈ r.store.links.rows ↔ l ∈ s.links.rows)
  mappings : r.store.mappings = s.mappings

/-- A sign-in that returns grants what it should, and one that is refused has written nothing. -/
structure GrantsOnly (py : Strings) (cfg : Config) (s : Store) (claims : Json)
    (orgId newId now : Int) : Prop where
  granted : ∀ email r, claimedEmail py claims = .ok email →
    provisionFromOidc py cfg s claims orgId newId now = .ok r →
    Grants py cfg s claims orgId email r
  refused : ∀ s', provisionFromOidc py cfg s claims orgId newId now = .error (.refused s') → s' = s

/-- The address has a domain where domains count, the mapping that decides is of a role, and
without one a known user has the default role already. -/
structure Plain (py : Strings) (cfg : Config) (s : Store) (claims : Json) (orgId : Int)
    (email : Text) : Prop where
  domain : cfg.allowedDomains = [] ∨ '@' ∈ email
  valid : ∀ m, Decides s.mappings (homeOrg s cfg (claimedSubject py claims) email orgId)
    (extractGroups py claims) m → (roleOf m.role).isSome
  unmapped : (∀ m, ¬Maps s.mappings (homeOrg s cfg (claimedSubject py claims) email orgId)
    (extractGroups py claims) m) →
    ∀ v, knownUser s cfg (claimedSubject py claims) email = some v →
      extractGroups py claims = [] ∨ ∀ role, roleOf cfg.defaultRole = some role → role = v.role

/-! ## Roles -/

theorem roleOf_text (r : Role) : roleOf r.text = some r := by
  cases r <;> decide

theorem text_of_roleOf {t : Text} {r : Role} (h : roleOf t = some r) : r.text = t := by
  simpa using List.find?_some h

section Mappings

variable {s : Store} {orgId : Int} {groups : List Text} {m n : GroupRoleMapping}

theorem mem_mapped : m ∈ s.mapped orgId groups ↔ Maps s.mappings orgId groups m := by
  simp only [Store.mapped, List.mem_filter, Bool.and_eq_true, decide_eq_true_eq]
  exact ⟨fun h => ⟨h.1, h.2.2, h.2.1⟩, fun h => ⟨h.mem, h.group, h.org⟩⟩

theorem le_iff : m.le n = true ↔
    m.priority < n.priority ∨ m.priority = n.priority ∧ m.id ≤ n.id := by
  simp [GroupRoleMapping.le]

instance : Std.Total fun m n : GroupRoleMapping => m.le n = true := by
  refine ⟨fun m n => ?_⟩
  rw [le_iff, le_iff]
  omega

instance : IsTrans GroupRoleMapping fun m n => m.le n = true := by
  refine ⟨fun m n k hmn hnk => ?_⟩
  rw [le_iff] at *
  omega

theorem mem_sorted : m ∈ (s.mapped orgId groups).insertionSort (GroupRoleMapping.le · ·) ↔
    Maps s.mappings orgId groups m :=
  ((List.perm_insertionSort (fun m n => GroupRoleMapping.le m n = true) _).mem_iff).trans
    mem_mapped

theorem decides_of_head (h : ((s.mapped orgId groups).insertionSort
    (GroupRoleMapping.le · ·)).head? = some m) : Decides s.mappings orgId groups m := by
  have hsorted := List.pairwise_insertionSort (fun m n => GroupRoleMapping.le m n = true)
    (s.mapped orgId groups)
  have hmem : ∀ n, n ∈ (s.mapped orgId groups).insertionSort (GroupRoleMapping.le · ·) ↔
      Maps s.mappings orgId groups n := fun n => mem_sorted
  cases hlist : (s.mapped orgId groups).insertionSort (GroupRoleMapping.le · ·) with
  | nil =>
    rw [hlist] at h
    cases h
  | cons m' rest =>
    rw [hlist] at h hsorted hmem
    obtain rfl := Option.some.inj h
    refine ⟨(hmem m').mp List.mem_cons_self, fun n hn => le_iff.mp ?_⟩
    obtain rfl | hrest := List.mem_cons.mp ((hmem n).mpr hn)
    · exact le_iff.mpr (.inr ⟨rfl, le_refl _⟩)
    · exact (List.pairwise_cons.mp hsorted).1 n hrest

theorem Decides.unique (hm : Decides s.mappings orgId groups m)
    (hn : Decides s.mappings orgId groups n) : m = n := by
  have hmn := hm.least n hn.toMaps
  have hnm := hn.least m hm.toMaps
  exact List.inj_on_of_nodup_map s.mappingIds hm.mem hn.mem (by omega)

theorem resolveRole_ok {defaultRole role : Text}
    (h : resolveRole s orgId groups defaultRole = .ok role) :
    (∃ m, Decides s.mappings orgId groups m ∧
        role = if (roleOf m.role).isSome then m.role else defaultRole) ∨
      (∀ m, ¬Maps s.mappings orgId groups m) ∧ role = defaultRole := by
  unfold resolveRole at h
  split at h
  · rename_i hnil
    refine .inr ⟨fun m hm => ?_, (Except.ok.inj h).symm⟩
    rw [hnil] at hm
    exact absurd hm.group List.not_mem_nil
  · split at h
    · cases h
    · split at h
      · rename_i m hhead
        exact .inl ⟨m, decides_of_head hhead, (Except.ok.inj h).symm⟩
      · rename_i hhead
        refine .inr ⟨fun m hm => ?_, (Except.ok.inj h).symm⟩
        have hempty := List.head?_eq_none_iff.mp hhead
        have hmem := mem_sorted.mpr hm
        rw [hempty] at hmem
        exact absurd hmem List.not_mem_nil

end Mappings

/-! ## What the parts write -/

section Parts

variable {py : Strings} {cfg : Config} {s s' : Store} {claims : Json} {email subject : Text}
variable {groups : List Text} {orgId newId now : Int} {user u : User}
variable {ident : Option ExternalIdentity}

theorem resolveRole_congr (h : s'.mappings = s.mappings) (orgId : Int) (groups : List Text)
    (defaultRole : Text) :
    resolveRole s' orgId groups defaultRole = resolveRole s orgId groups defaultRole := by
  unfold resolveRole Store.mapped
  rw [h]

theorem createUser_ok (h : createUser s cfg claims groups email orgId newId = .ok (s', user)) :
    user.id ∉ s.users.rows.map User.id ∧ user.organizationId = orgId ∧ user.email = email ∧
      user.active = true ∧ s'.users.rows = s.users.rows ++ [user] ∧ s'.links = s.links ∧
      s'.mappings = s.mappings ∧ ∃ role, resolveRole s orgId groups cfg.defaultRole = .ok role ∧
        user.role = (roleOf role).getD .viewer := by
  unfold createUser at h
  obtain ⟨-, -, h⟩ := bind_eq_ok.mp h
  obtain ⟨role, hrole, h⟩ := bind_eq_ok.mp h
  obtain ⟨fullName, -, h⟩ := bind_eq_ok.mp h
  obtain ⟨-, -, h⟩ := bind_eq_ok.mp h
  dsimp only at h
  split at h
  · cases h
  · rename_i users hinsert
    obtain ⟨rfl, rfl⟩ := Prod.mk.inj (Except.ok.inj h)
    obtain ⟨hfree, hrows⟩ := Users.insert_eq_some hinsert
    exact ⟨hfree, rfl, rfl, rfl, hrows, rfl, rfl, role, hrole, rfl⟩

def roleAfter (was : Role) (groups : List Text) (mappedRole : Text) : Role :=
  if groups = [] then was else (roleOf mappedRole).getD was

theorem applyRole_eq (hu : user ∈ s.users.rows) {mappedRole : Text}
    (h : applyRole s user groups mappedRole = (s', u)) :
    u = { user with role := roleAfter user.role groups mappedRole } ∧ u ∈ s'.users.rows ∧
      (∀ x, x.id ≠ user.id → (x ∈ s'.users.rows ↔ x ∈ s.users.rows)) ∧ s'.links = s.links ∧
      s'.mappings = s.mappings := by
  -- two of the three branches write nothing
  have hstays : roleAfter user.role groups mappedRole = user.role → (s, user) = (s', u) →
      u = { user with role := roleAfter user.role groups mappedRole } ∧ u ∈ s'.users.rows ∧
        (∀ x, x.id ≠ user.id → (x ∈ s'.users.rows ↔ x ∈ s.users.rows)) ∧ s'.links = s.links ∧
        s'.mappings = s.mappings := by
    intro hrole heq
    obtain ⟨rfl, rfl⟩ := Prod.mk.inj heq
    rw [hrole]
    exact ⟨rfl, hu, fun x _ => Iff.rfl, rfl, rfl⟩
  unfold applyRole at h
  split at h
  · rename_i role hrole
    split at h
    · rename_i hset
      obtain ⟨rfl, rfl⟩ := Prod.mk.inj h
      have hafter : roleAfter user.role groups mappedRole = role := by
        rw [roleAfter, if_neg hset.1, hrole]
        rfl
      rw [hafter]
      refine ⟨rfl, (Users.mem_update hu).mpr (.inl rfl), fun x hx => ?_, rfl, rfl⟩
      refine (Users.mem_update hu).trans ⟨?_, fun hmem => .inr ⟨hmem, hx⟩⟩
      rintro (rfl | ⟨hmem, -⟩)
      · exact absurd rfl hx
      · exact hmem
    · rename_i hsame
      refine hstays ?_ h
      by_cases hnil : groups = []
      · rw [roleAfter, if_pos hnil]
      · rw [roleAfter, if_neg hnil, hrole]
        exact not_not.mp fun hne => hsame ⟨hnil, Ne.symm hne⟩
  · rename_i hrole
    refine hstays ?_ h
    rw [roleAfter, hrole]
    split <;> rfl

theorem Links.find_eq_some {t : Links} {provider subject : Text} {l : ExternalIdentity}
    (h : t.find provider subject = some l) : l ∈ t.rows ∧ l.key = (provider, subject) :=
  ⟨List.mem_of_find?_eq_some h, by simpa using List.find?_some h⟩

theorem recordLink_ok
    (h : recordLink s cfg user (s.links.find cfg.provider subject) subject email claims now =
      .ok s') :
    s'.users = s.users ∧ s'.mappings = s.mappings ∧
      ∀ l, l.key ≠ (cfg.provider, subject) → (l ∈ s'.links.rows ↔ l ∈ s.links.rows) := by
  unfold recordLink at h
  obtain ⟨-, -, h⟩ := bind_eq_ok.mp h
  split at h
  · -- the link of the subject is seen again
    rename_i l hfind
    obtain rfl := Except.ok.inj h
    obtain ⟨hl, hkey⟩ := Links.find_eq_some hfind
    refine ⟨rfl, rfl, fun k hk => ?_⟩
    refine (mem_rewrite s.links.keys hl).trans ⟨?_, fun hmem => .inr ⟨hmem, hkey ▸ hk⟩⟩
    rintro (rfl | ⟨hmem, -⟩)
    · exact absurd hkey hk
    · exact hmem
  · obtain ⟨-, -, h⟩ := bind_eq_ok.mp h
    split at h
    · cases h
    · rename_i links hinsert
      obtain rfl := Except.ok.inj h
      refine ⟨rfl, rfl, fun k hk => ?_⟩
      unfold Links.insert at hinsert
      split at hinsert
      · obtain rfl := Option.some.inj hinsert
        refine List.mem_append.trans (or_iff_left fun hmem => ?_)
        rw [List.mem_singleton.mp hmem] at hk
        exact absurd rfl hk
      · cases hinsert

end Parts

/-! ## One sign-in -/

section SignIns

variable {py : Strings} {cfg : Config} {s s' : Store} {claims : Json} {email subject : Text}
variable {orgId newId now : Int} {r : SignIn}

theorem findUser_ok {ident : Option ExternalIdentity} {found : Option User}
    (h : findUser s ident email = .ok found) :
    found = (linkedUser s ident).or (s.users.byEmail email) := by
  unfold findUser at h
  split at h
  · rename_i user hlinked
    rw [hlinked, Option.some_or]
    exact (Except.ok.inj h).symm
  · rename_i hlinked
    split at h
    · rw [hlinked, Option.none_or]
      exact (Except.ok.inj h).symm
    · cases h

theorem provision_ok (h : provisionFromOidc py cfg s claims orgId newId now = .ok r) :
    ∃ email s₁ user mappedRole, claimedEmail py claims = .ok email ∧
      domainAllowed py email cfg.allowedDomains = true ∧
      emailVerificationOk py claims cfg.requireEmailVerified = true ∧
      (knownUser s cfg (claimedSubject py claims) email = some user ∧ s₁ = s ∧
          r.created = false ∨
        knownUser s cfg (claimedSubject py claims) email = none ∧
          createUser s cfg claims (extractGroups py claims) email orgId newId = .ok (s₁, user) ∧
          r.created = true) ∧
      resolveRole s₁ user.organizationId (extractGroups py claims) cfg.defaultRole =
        .ok mappedRole ∧
      (applyRole s₁ user (extractGroups py claims) mappedRole).2 = r.user ∧
      recordLink (applyRole s₁ user (extractGroups py claims) mappedRole).1 cfg r.user
        (s.links.find cfg.provider (claimedSubject py claims)) (claimedSubject py claims) email
        claims now = .ok r.store := by
  -- statement by statement; what only refuses says nothing further
  obtain ⟨email, hemail, h⟩ := bind_eq_ok.mp h
  obtain ⟨-, -, h⟩ := bind_eq_ok.mp h
  obtain ⟨_, hdomain, h⟩ := bind_eq_ok.mp h
  obtain ⟨_, hverified, h⟩ := bind_eq_ok.mp h
  obtain ⟨-, -, h⟩ := bind_eq_ok.mp h
  obtain ⟨found, hfound, h⟩ := bind_eq_ok.mp h
  obtain ⟨⟨s₁, user⟩, huser, h⟩ := bind_eq_ok.mp h
  obtain ⟨-, -, h⟩ := bind_eq_ok.mp h
  obtain ⟨mappedRole, hrole, h⟩ := bind_eq_ok.mp h
  obtain ⟨store, hlink, h⟩ := bind_eq_ok.mp h
  obtain rfl := Except.ok.inj h
  have hknown := findUser_ok hfound
  refine ⟨email, s₁, user, mappedRole, hemail, require_ok.mp hdomain, require_ok.mp hverified,
    ?_, hrole, rfl, hlink⟩
  cases found with
  | none => exact .inr ⟨hknown.symm, huser, rfl⟩
  | some v =>
    obtain ⟨rfl, rfl⟩ := Prod.mk.inj (Except.ok.inj huser)
    exact .inl ⟨hknown.symm, rfl, rfl⟩

theorem resolveRole_error {groups : List Text} {defaultRole : Text} {e : Failure}
    (h : resolveRole s orgId groups defaultRole = .error e) : e = .raised := by
  unfold resolveRole at h
  split at h
  · cases h
  · split at h
    · exact (Except.error.inj h).symm
    · split at h <;> cases h

theorem createUser_error {groups : List Text} {e : Failure}
    (h : createUser s cfg claims groups email orgId newId = .error e) :
    e = .refused s ∨ e = .raised := by
  unfold createUser at h
  obtain h | ⟨-, -, h⟩ := bind_eq_error.mp h
  · exact .inl (require_error.mp h).2.symm
  obtain h | ⟨role, -, h⟩ := bind_eq_error.mp h
  · exact .inr (resolveRole_error h)
  obtain h | ⟨fullName, -, h⟩ := bind_eq_error.mp h
  · exact .inr (varchar_error h)
  obtain h | ⟨-, -, h⟩ := bind_eq_error.mp h
  · exact .inr (require_error.mp h).2.symm
  dsimp only at h
  split at h
  · exact .inr (Except.error.inj h).symm
  · cases h

theorem recordLink_error {user : User} {ident : Option ExternalIdentity} {e : Failure}
    (h : recordLink s cfg user ident subject email claims now = .error e) : e = .raised := by
  unfold recordLink at h
  obtain h | ⟨-, -, h⟩ := bind_eq_error.mp h
  · exact (require_error.mp h).2.symm
  split at h
  · cases h
  · obtain h | ⟨-, -, h⟩ := bind_eq_error.mp h
    · exact (require_error.mp h).2.symm
    split at h
    · exact (Except.error.inj h).symm
    · cases h

/-- **Nothing is written where a sign-in is refused.** -/
theorem refused_unwritten
    (h : provisionFromOidc py cfg s claims orgId newId now = .error (.refused s')) : s' = s := by
  have hrequire : ∀ {p : Prop} [Decidable p] {e : Failure}, e = .refused s ∨ e = .raised →
      require p e = .error (.refused s') → s' = s := by
    intro p _ e he hp
    obtain rfl | rfl := he
    · exact (Failure.refused.inj (require_error.mp hp).2).symm
    · cases (require_error.mp hp).2
  obtain h | ⟨email, hemail, h⟩ := bind_eq_error.mp h
  · unfold claimedEmail at h
    split at h <;> cases h
  obtain h | ⟨-, -, h⟩ := bind_eq_error.mp h
  · exact hrequire (.inl rfl) h
  obtain h | ⟨-, -, h⟩ := bind_eq_error.mp h
  · exact hrequire (.inl rfl) h
  obtain h | ⟨-, -, h⟩ := bind_eq_error.mp h
  · exact hrequire (.inl rfl) h
  obtain h | ⟨-, -, h⟩ := bind_eq_error.mp h
  · exact hrequire (.inr rfl) h
  obtain h | ⟨found, hfound, h⟩ := bind_eq_error.mp h
  · unfold findUser at h
    split at h
    · cases h
    · split at h <;> cases h
  obtain h | ⟨⟨s₁, user⟩, huser, h⟩ := bind_eq_error.mp h
  · cases found with
    | none =>
      obtain he | he := createUser_error h
      · exact Failure.refused.inj he
      · cases he
    | some v => cases h
  obtain h | ⟨-, -, h⟩ := bind_eq_error.mp h
  · -- only a user that was found can be inactive, and then nothing was written before
    obtain ⟨hinactive, hs⟩ := require_error.mp h
    cases found with
    | none => exact absurd (createUser_ok huser).2.2.2.1 hinactive
    | some v =>
      obtain ⟨rfl, -⟩ := Prod.mk.inj (Except.ok.inj huser)
      exact (Failure.refused.inj hs).symm
  obtain h | ⟨mappedRole, hrole, h⟩ := bind_eq_error.mp h
  · cases resolveRole_error h
  obtain h | ⟨store, hlink, h⟩ := bind_eq_error.mp h
  · cases recordLink_error h
  · cases h

/-! ### The claims -/

theorem mem_afterAt {email : Text} (h : '@' ∈ email) :
    ∃ name, email = name ++ '@' :: afterAt email ∧ '@' ∉ afterAt email := by
  -- the last `@` is the first one of the reversed address
  have hsplit := List.takeWhile_append_dropWhile (p := (· ≠ '@')) (l := email.reverse)
  have hnot : '@' ∉ afterAt email := by
    intro hmem
    simpa using List.mem_takeWhile_imp (List.mem_reverse.mp hmem)
  cases hrest : email.reverse.dropWhile (· ≠ '@') with
  | nil =>
    rw [hrest, List.append_nil] at hsplit
    refine absurd (List.mem_reverse.mpr ?_) hnot
    rw [hsplit]
    exact List.mem_reverse.mpr h
  | cons c rest =>
    have hhead := List.head?_dropWhile_not (· ≠ '@') email.reverse
    rw [hrest] at hhead
    have hc : c = '@' := by simpa using hhead
    refine ⟨rest.reverse, ?_, hnot⟩
    calc email = email.reverse.reverse := (List.reverse_reverse email).symm
      _ = (email.reverse.takeWhile (· ≠ '@') ++ '@' :: rest).reverse := by
        rw [hrest, hc] at hsplit
        rw [hsplit]
      _ = rest.reverse ++ '@' :: afterAt email := by
        rw [List.reverse_append, List.reverse_cons, List.append_assoc]
        rfl

theorem inDomain_iff {allowed : List Text} (h : domainAllowed py email allowed = true) :
    (allowed = [] ∨ InDomain py email allowed) ↔ (allowed = [] ∨ '@' ∈ email) := by
  refine or_congr_right' fun hne => ⟨?_, fun hat => ?_⟩
  · rintro ⟨name, domain, rfl, -⟩
    exact List.mem_append_right name List.mem_cons_self
  · obtain ⟨name, heq, hnot⟩ := mem_afterAt hat
    simp only [domainAllowed, Bool.or_eq_true, decide_eq_true_eq, hne, false_or,
      List.any_eq_true, Bool.and_eq_true] at h
    obtain ⟨d, hd, hdne, hlower⟩ := h
    exact ⟨name, afterAt email, heq, hnot, d, hd, hdne, hlower⟩

theorem not_unverified {required : Bool} (h : emailVerificationOk py claims required = true) :
    ¬StatesUnverified py claims := by
  unfold emailVerificationOk at h
  rintro (hfalse | ⟨raw, hraw, hlower⟩)
  · rw [hfalse] at h
    cases h
  · rw [hraw] at h
    simp only [hlower] at h
    exact absurd h (by decide)

/-! ### What is granted -/

theorem known_mem {v : User} (h : knownUser s cfg subject email = some v) : v ∈ s.users.rows := by
  unfold knownUser linkedUser at h
  obtain hlinked | ⟨-, hmail⟩ := Option.or_eq_some_iff.mp h
  · obtain ⟨l, -, hget⟩ := Option.bind_eq_some_iff.mp hlinked
    exact (Users.get?_eq_some.mp hget).1
  · exact (Users.byEmail_eq_some.mp hmail).1

/-- The role is as the mappings say exactly where the mapping that decides is of a role and,
without one, the default is the role that the user has. -/
theorem role_iff {groups : List Text} {was : Role} {unmapped : Role} {mappedRole : Text}
    {P : Prop} (hrole : resolveRole s orgId groups cfg.defaultRole = .ok mappedRole)
    (hunmapped : mappedRole = cfg.defaultRole →
      (roleAfter was groups cfg.defaultRole = unmapped ↔ P)) :
    (∀ m, Decides s.mappings orgId groups m →
        (roleAfter was groups mappedRole).text = m.role) ∧
      ((∀ m, ¬Maps s.mappings orgId groups m) → roleAfter was groups mappedRole = unmapped) ↔
    (∀ m, Decides s.mappings orgId groups m → (roleOf m.role).isSome) ∧
      ((∀ m, ¬Maps s.mappings orgId groups m) → P) := by
  obtain ⟨m, hm, hmapped⟩ | ⟨hnone, rfl⟩ := resolveRole_ok hrole
  · -- a mapping decides, no other one does, and its role is taken if it is one
    have hne : groups ≠ [] := List.ne_nil_of_mem hm.group
    have hvac : ∀ {Q : Prop}, (∀ m, ¬Maps s.mappings orgId groups m) → Q :=
      fun h => absurd hm.toMaps (h m)
    have hone : (∀ n, Decides s.mappings orgId groups n →
        (roleAfter was groups mappedRole).text = n.role) ↔
        ∀ n, Decides s.mappings orgId groups n → (roleOf n.role).isSome := by
      refine forall_congr' fun n => imp_congr_right fun hn => ?_
      rw [hm.unique hn] at hmapped
      cases hvalid : roleOf n.role with
      | some role =>
        rw [hvalid] at hmapped
        have hafter : roleAfter was groups mappedRole = role := by
          rw [roleAfter, if_neg hne, hmapped, if_pos (Option.isSome_some), hvalid]
          rfl
        rw [hafter]
        exact iff_of_true (text_of_roleOf hvalid) rfl
      | none =>
        refine iff_of_false (fun htext => ?_) (by simp)
        rw [← htext, roleOf_text] at hvalid
        cases hvalid
    exact ⟨fun h => ⟨hone.mp h.1, hvac⟩, fun h => ⟨hone.mpr h.1, hvac⟩⟩
  · -- nothing is mapped, and the role is the default one
    refine and_congr ?_ (imp_congr_right fun _ => hunmapped rfl)
    exact forall_congr' fun m => iff_of_true (fun hm => absurd hm.toMaps (hnone m))
      fun hm => absurd hm.toMaps (hnone m)

/-- Before it is given its role, the user is as the store has it, or is new. -/
structure Provided (s : Store) (cfg : Config) (subject email : Text) (groups : List Text)
    (orgId : Int) (s₁ : Store) (user : User) (created : Bool) : Prop where
  mem : user ∈ s₁.users.rows
  others : ∀ x, x.id ≠ user.id → (x ∈ s₁.users.rows ↔ x ∈ s.users.rows)
  links : s₁.links = s.links
  mappings : s₁.mappings = s.mappings
  home : user.organizationId = homeOrg s cfg subject email orgId
  known : ∀ v, knownUser s cfg subject email = some v → created = false ∧ user = v
  joined : knownUser s cfg subject email = none → created = true ∧ user.organizationId = orgId ∧
    user.email = email ∧ user.id ∉ s.users.rows.map User.id ∧
    ∃ role, resolveRole s orgId groups cfg.defaultRole = .ok role ∧
      user.role = (roleOf role).getD .viewer

theorem provided_known {user : User} (h : knownUser s cfg subject email = some user)
    (groups : List Text) : Provided s cfg subject email groups orgId s user false where
  mem := known_mem h
  others _ _ := Iff.rfl
  links := rfl
  mappings := rfl
  home := by rw [homeOrg, h]; rfl
  known v hv := ⟨rfl, Option.some.inj (h.symm.trans hv)⟩
  joined hnone := absurd (h.symm.trans hnone) (Option.some_ne_none user)

theorem provided_joined {s₁ : Store} {user : User} {groups : List Text}
    (h : knownUser s cfg subject email = none)
    (hcreate : createUser s cfg claims groups email orgId newId = .ok (s₁, user)) :
    Provided s cfg subject email groups orgId s₁ user true := by
  obtain ⟨hfree, horg, hmail, -, hrows, hlinks, hmappings, hrole⟩ := createUser_ok hcreate
  refine ⟨?_, fun x hx => ?_, hlinks, hmappings, ?_, fun v hv => ?_,
    fun _ => ⟨rfl, horg, hmail, hfree, hrole⟩⟩
  · rw [hrows]
    exact List.mem_append_right _ (List.mem_singleton.mpr rfl)
  · rw [hrows, List.mem_append, List.mem_singleton]
    exact or_iff_left fun heq => hx (congrArg User.id heq)
  · rw [homeOrg, h]
    exact horg
  · rw [h] at hv
    cases hv

/-- Of a user that is provided, the role after the sign-in is as it should be. -/
theorem Provided.role_iff {s₁ : Store} {user : User} {created : Bool} {groups : List Text}
    {mappedRole : Text} (hp : Provided s cfg subject email groups orgId s₁ user created)
    (hrole : resolveRole s₁ user.organizationId groups cfg.defaultRole = .ok mappedRole) :
    (∀ m, Decides s.mappings user.organizationId groups m →
        (roleAfter user.role groups mappedRole).text = m.role) ∧
      ((∀ m, ¬Maps s.mappings user.organizationId groups m) →
        roleAfter user.role groups mappedRole = unmappedRole s cfg subject email) ↔
    (∀ m, Decides s.mappings user.organizationId groups m → (roleOf m.role).isSome) ∧
      ((∀ m, ¬Maps s.mappings user.organizationId groups m) →
        ∀ v, knownUser s cfg subject email = some v →
          groups = [] ∨ ∀ role, roleOf cfg.defaultRole = some role → role = v.role) := by
  rw [resolveRole_congr hp.mappings] at hrole
  refine Provisioning.role_iff hrole fun hdefault => ?_
  unfold roleAfter unmappedRole
  cases hknown : knownUser s cfg subject email with
  | some v =>
    obtain rfl := (hp.known v hknown).2
    rw [Option.elim_some]
    by_cases hnil : groups = []
    · rw [if_pos hnil]
      exact iff_of_true rfl fun _ _ => .inl hnil
    · rw [if_neg hnil]
      cases hvalid : roleOf cfg.defaultRole with
      | none =>
        refine iff_of_true rfl fun _ _ => .inr ?_
        rintro role hsome
        cases hsome
      | some role =>
        constructor
        · rintro hsame v hv
          obtain rfl := Option.some.inj hv
          refine .inr fun role' hrole' => ?_
          rw [← Option.some.inj hrole']
          exact hsame
        · intro h
          obtain hempty | hall := h user rfl
          · exact absurd hempty hnil
          · exact hall role rfl
  | none =>
    -- a new user has the role already, or the one that stands in for it
    obtain ⟨-, horg, -, -, role, hrole', hviewer⟩ := hp.joined hknown
    rw [horg, hrole'] at hrole
    rw [Except.ok.inj hrole, hdefault] at hviewer
    refine iff_of_true ?_ fun v hv => (nomatch hv)
    rw [hviewer, Option.elim_none]
    split
    · rfl
    · cases roleOf cfg.defaultRole <;> rfl

theorem grants_ok (hemail : claimedEmail py claims = .ok email)
    (h : provisionFromOidc py cfg s claims orgId newId now = .ok r) :
    Grants py cfg s claims orgId email r ↔ Plain py cfg s claims orgId email := by
  obtain ⟨email', s₁, user, mappedRole, hemail', hdomain, hverified, huser, hrole, hlast, hlink⟩ :=
    provision_ok h
  obtain rfl := Except.ok.inj (hemail.symm.trans hemail')
  have hp : Provided s cfg (claimedSubject py claims) email (extractGroups py claims) orgId s₁ user
      r.created := by
    obtain ⟨hknown, rfl, hcreated⟩ | ⟨hnone, hcreate, hcreated⟩ := huser
    · rw [hcreated]
      exact provided_known hknown _
    · rw [hcreated]
      exact provided_joined hnone hcreate
  have hrole_iff := hp.role_iff hrole
  -- what is written after that: the role, then the link
  have happly : applyRole s₁ user (extractGroups py claims) mappedRole =
      ((applyRole s₁ user (extractGroups py claims) mappedRole).1, r.user) := Prod.ext rfl hlast
  obtain ⟨hlastEq, hstored, hothers, hlinks, hmappings⟩ := applyRole_eq hp.mem happly
  rw [← hp.links, ← hlinks] at hlink
  obtain ⟨hstoreUsers, hstoreMappings, hstoreLinks⟩ := recordLink_ok hlink
  have horg : r.user.organizationId = user.organizationId := by rw [hlastEq]
  have hrole' : r.user.role = roleAfter user.role (extractGroups py claims) mappedRole := by
    rw [hlastEq]
  rw [hp.home] at horg
  rw [← hrole', hp.home] at hrole_iff
  constructor
  · intro hg
    have hmapped := hg.mapped
    have hunmapped := hg.unmapped
    rw [horg] at hmapped hunmapped
    obtain ⟨hvalid, hdefault⟩ := hrole_iff.mp ⟨hmapped, hunmapped⟩
    exact ⟨(inDomain_iff hdomain).mp hg.domain, hvalid, hdefault⟩
  · intro hplain
    obtain ⟨hmapped, hunmapped⟩ := hrole_iff.mpr ⟨hplain.valid, hplain.unmapped⟩
    rw [← horg] at hmapped hunmapped
    refine ⟨fun v hv => ?_, fun hnone => ?_, ?_, (inDomain_iff hdomain).mpr hplain.domain,
      not_unverified hverified, hmapped, hunmapped, fun u hu => ?_, fun l hl => ?_, ?_⟩
    · obtain ⟨hcreated, rfl⟩ := hp.known v hv
      refine ⟨hcreated, ?_⟩
      rw [hlastEq]
    · obtain ⟨hcreated, horg', hmail, hfree, -⟩ := hp.joined hnone
      rw [hlastEq]
      exact ⟨hcreated, horg', hmail, hfree⟩
    · rw [hstoreUsers]
      exact hstored
    · rw [hlastEq] at hu
      rw [hstoreUsers, hothers u hu, hp.others u hu]
    · rw [hstoreLinks l hl, hlinks, hp.links]
    · rw [hstoreMappings, hmappings, hp.mappings]

end SignIns

/-- **What a sign-in grants**: it grants what it should exactly where, if it returns, the
address has a domain where domains count, the mapping that decides is of a role and, without
one, a known user with groups has the default role already. -/
theorem grants_iff (py : Strings) (cfg : Config) (s : Store) (claims : Json)
    (orgId newId now : Int) :
    GrantsOnly py cfg s claims orgId newId now ↔
      ∀ email r, claimedEmail py claims = .ok email →
        provisionFromOidc py cfg s claims orgId newId now = .ok r →
        Plain py cfg s claims orgId email := by
  constructor
  · exact fun h email r hemail hr => (grants_ok hemail hr).mp (h.granted email r hemail hr)
  · intro h
    exact ⟨fun email r hemail hr => (grants_ok hemail hr).mpr (h email r hemail hr),
      fun s' hs' => refused_unwritten hs'⟩

/-! ## An administrator with a new group -/

def openConfig : Config := ⟨[], "viewer".toList, true, "oidc".toList, false⟩

def boss : User := ⟨1, 1, "boss@acme.org".toList, none, .admin, true⟩

def unmappedStore : Store where
  users := ⟨[boss], List.nodup_singleton _, List.nodup_singleton _⟩
  links := ⟨[], List.nodup_nil⟩
  mappings := []
  mappingIds := List.nodup_nil

def bossClaims : Json :=
  .obj [("email".toList, .str "boss@acme.org".toList), ("groups".toList, .str "everyone".toList),
    ("sub".toList, .str "s-1".toList)]

/-- A group that nobody has mapped makes an administrator a viewer. -/
theorem unmapped_group_demotes :
    ¬∀ (py : Strings) (cfg : Config) (s : Store) (claims : Json) (orgId newId now : Int),
      GrantsOnly py cfg s claims orgId newId now := by
  intro h
  have hgranted := (h ascii openConfig unmappedStore bossClaims 1 2 0).granted _ _ rfl rfl
  exact absurd (hgranted.unmapped fun m hm => absurd hm.mem List.not_mem_nil) (by decide +kernel)

end Concord.Identity.Provisioning
