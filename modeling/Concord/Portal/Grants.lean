import Concord.Identity.Sessions
import Concord.Python.Sha256

/-!
# External access grants

`create_grant` and the resolution of a grant, of `ccf/portal/service.py` and
`ccf/api/routes/portal.py`. A grant is a credential of an external principal, for a number of
days, and may carry the authority of an engagement, which has a period of its own. It is presented
as its token, or as a session cookie that the token was exchanged for and that names the grant.

Times are microseconds since 1970, and the id of a row is its position in its table. What a grant
gives access to is left out, and so is the trail of its use. A principal or an engagement that is
created is taken as it is.
-/

namespace Concord.Portal

open Concord.Identity
open Concord.Python

/-! ## Tables -/

/-- `external_principals`. -/
structure ExternalPrincipal where
  organizationId : Nat
  kind : Text

/-- `assessment_engagements`. -/
structure AssessmentEngagement where
  organizationId : Nat
  periodTo : Int
  revokedAt : Option Int

/-- `external_access_grants`. -/
structure ExternalAccessGrant where
  organizationId : Nat
  principalId : Nat
  kind : Text
  engagementId : Option Nat
  tokenHash : Text
  expiresAt : Option Int
  revoked : Bool

/-- The tables, and the clock. -/
structure Tables where
  principals : List ExternalPrincipal
  engagements : List AssessmentEngagement
  grants : List ExternalAccessGrant
  now : Int

/-- What `_gen_token` draws. -/
structure Token where
  text : Text
  drawn : text ≠ []

/-- `hash_token`. -/
def hashToken (token : Text) : Text := Sha256.hexdigest token

/-! ## Issuing -/

def day : Int := 86400000000

/-- From `datetime.min` to `datetime.max`. -/
def isDatetime (t : Int) : Bool := -62135596800000000 ≤ t ∧ t ≤ 253402300799999999

/-- `EXTERNAL_PRINCIPAL_KINDS`. -/
def externalPrincipalKinds : List Text :=
  ["customer".toList, "assessor".toList, "vendor".toList]

/-- `_require_kind`; an error is the text of its `ValueError`. -/
def requireKind (repr : Text → Text) (kind : Text) : Except Text Unit :=
  if kind ∈ externalPrincipalKinds then .ok ()
  else .error ("unknown external principal kind ".toList ++ repr kind ++
    "; expected one of customer, assessor, vendor".toList)

/-- The arguments of `create_grant`. -/
structure GrantRequest where
  orgId : Nat
  principalName : Text
  kind : Text
  packageIds : List Int
  ttlDays : Option Int
  engagementId : Option Nat
  principalId : Option Nat

/-- The engagement that a grant is issued under, and what is refused of a grant that has one. -/
def requireEngagement (s : Tables) (req : GrantRequest) :
    Except Text (Option AssessmentEngagement) :=
  match req.engagementId with
  | none => .ok none
  | some id =>
    match s.engagements[id]?.filter (·.organizationId = req.orgId) with
    | none =>
      .error ("assessment engagement ".toList ++ natText id ++
        " not found in organization ".toList ++ natText req.orgId)
    | some engagement =>
      if req.ttlDays.isNone then
        .error ("an engagement-backed grant must be given a ttl_days: an assessment ".toList ++
          "credential that never expires outlives the engagement it belongs to, ".toList ++
          "and Concord will not choose an expiry for one on your behalf".toList)
      else if !req.packageIds.isEmpty then
        .error ("an engagement-backed grant does not take package_ids: its packages ".toList ++
          "resolve through the engagement's system_id, so a hand-picked list ".toList ++
          "would be silently ignored".toList)
      else .ok (some engagement)

/-- The principal of a grant: an existing one, or a new one, with the table after it. -/
def requirePrincipal (s : Tables) (req : GrantRequest) :
    Except Text (Nat × List ExternalPrincipal) :=
  match req.principalId with
  | none =>
    if req.principalName.isEmpty then
      .error "a grant needs either principal_id or principal_name".toList
    else
      .ok (s.principals.length,
        s.principals ++ [{ organizationId := req.orgId, kind := req.kind }])
  | some id =>
    match s.principals[id]?.filter (·.organizationId = req.orgId) with
    | none =>
      .error ("external principal ".toList ++ natText id ++
        " not found in organization ".toList ++ natText req.orgId)
    | some _ => .ok (id, s.principals)

/-- `(_now() + timedelta(days=ttl_days)) if ttl_days else None`. -/
def expiry (now : Int) (ttlDays : Option Int) : Except Text (Option Int) :=
  match ttlDays with
  | none => .ok none
  | some days =>
    -- 0 is false, and no expiry is set
    if days = 0 then .ok none
    else if isDatetime (now + days * day) then .ok (some (now + days * day))
    else .error "OverflowError: date value out of range".toList

/-- The expiry, capped at the end of the engagement, and whether it was. -/
def capExpiry (engagement : Option AssessmentEngagement) (expiresAt : Option Int) :
    Option Int × Bool :=
  match engagement, expiresAt with
  | some e, some t => if e.periodTo < t then (some e.periodTo, true) else (some t, false)
  | _, _ => (expiresAt, false)

/-- What the caller is told. -/
structure Issued where
  id : Nat
  expiresAt : Option Int
  expiryCapped : Bool

/-- The row of a grant, and what is told of it. The ids are those of a 32-bit column, and
`token_hash` is unique. -/
def storeGrant (s : Tables) (req : GrantRequest) (token : Token)
    (principal : Nat × List ExternalPrincipal) (expires : Option Int × Bool) :
    Except Text (Tables × Issued) :=
  if s.grants.any (·.tokenHash = hashToken token.text) then
    .error "IntegrityError: external_access_grants.token_hash".toList
  else if 2147483647 < s.grants.length then
    .error "nextval: reached maximum value of sequence".toList
  else
    let grant : ExternalAccessGrant :=
      { organizationId := req.orgId
        principalId := principal.1
        kind := req.kind
        engagementId := req.engagementId
        tokenHash := hashToken token.text
        expiresAt := expires.1
        revoked := false }
    .ok ({ s with principals := principal.2, grants := s.grants ++ [grant] },
      { id := s.grants.length, expiresAt := expires.1, expiryCapped := expires.2 })

/-- `create_grant`, with the token that was drawn. -/
def createGrant (repr : Text → Text) (s : Tables) (req : GrantRequest) (token : Token) :
    Except Text (Tables × Issued) :=
  (requireKind repr req.kind).bind fun _ =>
    (requireEngagement s req).bind fun engagement =>
      (requirePrincipal s req).bind fun principal =>
        (expiry s.now req.ttlDays).bind fun expiresAt =>
          storeGrant s req token principal (capExpiry engagement expiresAt)

/-! ## Revoking -/

/-- `revoke_grant`. -/
def revokeGrant (s : Tables) (id : Nat) : Tables :=
  { s with grants := s.grants.modify id fun g => { g with revoked := true } }

/-- `revoke_engagement`: the engagement, and the grants under it. -/
def revokeEngagement (s : Tables) (id : Nat) : Tables :=
  match s.engagements[id]? with
  | none => s
  | some _ =>
    { s with
      engagements := s.engagements.modify id fun e => { e with revokedAt := some s.now }
      grants := s.grants.map fun g =>
        if g.engagementId = some id ∧ g.revoked = false then { g with revoked := true } else g }

/-! ## Resolving -/

/-- `grant_status`. -/
inductive GrantStatus
  | revoked | expired | engagementEnded | active
  deriving DecidableEq

/-- `current_engagement_ids`. -/
def currentEngagementIds (s : Tables) (ids : List Nat) : List Nat :=
  ids.filter fun id => s.engagements[id]?.any fun e => e.revokedAt = none ∧ s.now ≤ e.periodTo

def grantStatus (g : ExternalAccessGrant) (now : Int) (currentEngagementIds : List Nat) :
    GrantStatus :=
  if g.revoked then .revoked
  else if g.expiresAt.any fun t => t < now then .expired
  else if g.engagementId.any fun id => id ∉ currentEngagementIds then .engagementEnded
  else .active

/-- `_valid`. -/
def valid (s : Tables) (g : ExternalAccessGrant) : Bool :=
  grantStatus g s.now (currentEngagementIds s g.engagementId.toList) = .active

/-- `resolve_grant_by_id`. -/
def resolveGrantById (s : Tables) (id : Nat) : Option Nat :=
  if s.grants[id]?.any (valid s) then some id else none

/-- `resolve_grant`. -/
def resolveGrant (s : Tables) (token : Text) : Option Nat :=
  if token.isEmpty then none
  else (s.grants.findIdx? fun g => g.tokenHash = hashToken token).bind (resolveGrantById s)

/-! ## Cookies -/

/-- `_PORTAL_SECRET_LABEL`. -/
def portalSecretLabel : Bytes := utf8 "ccf-portal-session-v1".toList

/-- `_portal_secret`. -/
def portalSecret (baseSecret : Text) : Text := hex (hmacSha256 (utf8 baseSecret) portalSecretLabel)

/-- `_portal_cookie_ttl_hours`. -/
def portalCookieTtlHours (g : ExternalAccessGrant) (now : Int) : Int :=
  match g.expiresAt with
  | none => 24
  | some t => min 24 (max 1 ((t - now) / 3600000000))

/-- `time.time()`. -/
def seconds (now : Int) : Rat := now / 1000000

/-- The exchange of a token for a cookie in `portal_ui`, while the clock shows a `datetime`. -/
def portalUi (baseSecret : Text) (s : Tables) (token : Text) : Option Text :=
  if isDatetime s.now then
    (resolveGrant s token).bind fun id => s.grants[id]?.map fun g =>
      signSession id (portalSecret baseSecret) (portalCookieTtlHours g s.now) 0 (seconds s.now)
  else none

/-- `_grant_from_cookie`. -/
def grantFromCookie (r : JsonReader) (baseSecret : Text) (s : Tables) (cookie : Text) :
    Except Raised (Option Nat) :=
  if cookie.isEmpty then .ok none
  else
    (r.readSession cookie (portalSecret baseSecret) (seconds s.now)).map fun claimed =>
      match claimed with
      | some (.ofNat id, _) => resolveGrantById s id
      | _ => none

/-! ## Histories -/

/-- What may follow on the issue of a grant. -/
inductive Action
  | createPrincipal (p : ExternalPrincipal)
  | createEngagement (e : AssessmentEngagement)
  | createGrant (repr : Text → Text) (req : GrantRequest) (token : Token)
  | revokeGrant (id : Nat)
  | revokeEngagement (id : Nat)
  | elapse (micros : Nat)

def step (s : Tables) : Action → Option Tables
  | .createPrincipal p => some { s with principals := s.principals ++ [p] }
  | .createEngagement e => some { s with engagements := s.engagements ++ [e] }
  | .createGrant repr req token =>
    match createGrant repr s req token with
    | .ok (s', _) => some s'
    | .error _ => some s
  | .revokeGrant id => some (revokeGrant s id)
  | .revokeEngagement id => some (revokeEngagement s id)
  | .elapse micros => some { s with now := s.now + micros }

end Concord.Portal
