import Mathlib.Data.List.TakeWhile
import Concord.Base.Run
import Concord.Python.Text
import Concord.Python.ReadBack
import Concord.Python.Hmac

/-!
# Signed sessions

`sign_session` and `read_session` of `src/ccf/auth.py`. A session is the claims as JSON in
base64 without its padding, a dot, and a code over that text. Reading checks the code first,
so what is parsed after that was signed.

`readSession_signed`: a session is read as what was signed, until it expires, and
`signed_of_readSession`: what is accepted has the code of its own payload.
-/

namespace Concord.Identity

open Concord.Base Concord.Python

/-- What a call raises. -/
inductive Raised where
  | typeError
  | overflowError
  deriving DecidableEq

/-- The parts of `json` and of comparison that integers do not need. -/
structure JsonReader where
  /-- `repr(float(s))`, of a literal with a fraction or an exponent. -/
  float : Text → Number
  /-- The text of bytes that `json.loads` takes to be something else than UTF-8. -/
  decode : Bytes → Option Text
  /-- `v < t` of a value that is no integer; `none` is a `TypeError`. -/
  less : Json → Rat → Option Bool

/-! ## Text around a dot -/

/-- `s.split(".", 1)`, into two names; `none` is a `ValueError`. -/
def splitDot (s : Text) : Option (Text × Text) :=
  match s.dropWhile (· ≠ '.') with
  | [] => none
  | _ :: rest => some (s.takeWhile (· ≠ '.'), rest)

theorem splitDot_append {p q : Text} (h : '.' ∉ p) : splitDot (p ++ '.' :: q) = some (p, q) := by
  have hp : ∀ c ∈ p, decide (c ≠ '.') = true := by
    intro c hc
    refine decide_eq_true ?_
    rintro rfl
    exact h hc
  rw [splitDot, List.dropWhile_append_of_pos hp, List.takeWhile_append_of_pos hp]
  simp

theorem eq_of_splitDot {s p q : Text} (h : splitDot s = some (p, q)) :
    s = p ++ '.' :: q ∧ '.' ∉ p := by
  unfold splitDot at h
  split at h
  · cases h
  · rename_i c rest hdrop
    cases h
    have hc : c = '.' := by
      have hhead := List.head?_dropWhile_not (· ≠ '.') s
      rw [hdrop] at hhead
      simpa using hhead
    refine ⟨?_, fun hmem => ?_⟩
    · rw [hc] at hdrop
      rw [← hdrop, List.takeWhile_append_dropWhile]
    · have hne := List.mem_takeWhile_imp hmem
      exact of_decide_eq_true hne rfl

/-! ## Signing -/

/-- `hmac.new(secret.encode(), payload.encode(), hashlib.sha256).hexdigest()`. -/
def sign (secret payload : Text) : Text := hex (hmacSha256 (utf8 secret) (utf8 payload))

/-- The claims of a session; `sv` is left out when it is zero. -/
def sessionClaims (uid exp sv : Int) : List (Text × Json) :=
  [("uid".toList, Json.ofInt uid), ("exp".toList, Json.ofInt exp)] ++
    if sv = 0 then [] else [("sv".toList, Json.ofInt sv)]

def sessionPayload (uid exp sv : Int) : Text :=
  rstripPad (urlsafeB64encode (utf8 (Json.obj (sessionClaims uid exp sv)).dumps))

/-- `sign_session`. -/
def signSession (uid : Int) (secret : Text) (ttlHours sv : Int) (now : Rat) : Text :=
  let payload := sessionPayload uid (truncate now + ttlHours * 3600) sv
  payload ++ '.' :: sign secret payload

/-! ## Reading -/

/-- `json.detect_encoding` finds UTF-8, without a mark. -/
def detectsUtf8 (b : Bytes) : Bool :=
  !([0xfe, 0xff].isPrefixOf b || [0xff, 0xfe].isPrefixOf b || [0xef, 0xbb, 0xbf].isPrefixOf b) &&
    match b with
    | [x, y] => x ≠ 0 && y ≠ 0
    | x :: y :: _ :: _ :: _ => x ≠ 0 && y ≠ 0
    | _ => true

/-- `json.loads(base64.urlsafe_b64decode(padded))`; `none` is a `ValueError`. -/
def JsonReader.parse (r : JsonReader) (payload : Text) : Option Json :=
  let padded := padBase64 payload
  if isAscii padded then
    (urlsafeB64decode padded).bind fun b =>
      (if detectsUtf8 b then decodeUtf8 b else r.decode b).bind (Json.loads r.float)
  else none

/-- `data.get("exp", 0) < now`. -/
def JsonReader.expired (r : JsonReader) (claims : List (Text × Json)) (now : Rat) :
    Except Raised Bool :=
  let exp := (claims.lookup "exp".toList).getD (Json.ofInt 0)
  match exp.toInt with
  | some e => .ok (decide ((e : Rat) < now))
  | none =>
    match r.less exp now with
    | some b => .ok b
    | none => .error .typeError

/-- The end of `read_session`: the user and the version, if both are integers. -/
def claimedUser (claims : List (Text × Json)) : Option (Int × Int) := do
  let uid ← (claims.lookup "uid".toList).bind Json.toInt
  let sv ← ((claims.lookup "sv".toList).getD (Json.ofInt 0)).toInt
  return (uid, sv)

/-- `read_session`. -/
def JsonReader.readSession (r : JsonReader) (token secret : Text) (now : Rat) :
    Except Raised (Option (Int × Int)) :=
  match splitDot token with
  | none => .ok none
  | some (payload, sig) =>
    -- `hmac.compare_digest` takes ASCII strings only
    if !isAscii sig then .error .typeError
    else if sig ≠ sign secret payload then .ok none
    else
      match r.parse payload with
      | some (.obj claims) => do
        if ← r.expired claims now then return none
        return claimedUser claims
      | _ => .ok none

section Signed

variable {r : JsonReader} {secret token : Text} {uid exp sv : Int} {now : Rat}

/-- The integers are such that `int` and `str` take them. -/
def Printable (i : Int) : Prop := (Json.digits i).length ≤ 4300

instance (i : Int) : Decidable (Printable i) := inferInstanceAs (Decidable (_ ≤ _))

theorem dumps_sessionClaims (uid exp sv : Int) :
    ∃ s, (Json.obj (sessionClaims uid exp sv)).dumps = '{' :: '"' :: 'u' :: 'i' :: s := by
  unfold sessionClaims
  rw [List.cons_append, Json.dumps, Json.dumpsField]
  exact ⟨_, rfl⟩

theorem parse_sessionPayload (r : JsonReader) (huid : Printable uid) (hexp : Printable exp)
    (hsv : Printable sv) :
    r.parse (sessionPayload uid exp sv) = some (.obj (sessionClaims uid exp sv)) := by
  have hreadable : (Json.obj (sessionClaims uid exp sv)).Readable := by
    unfold sessionClaims
    split <;> simp only [List.append_nil, List.cons_append, List.nil_append, Json.Readable,
      Json.ReadableFields, Json.ofInt, and_true]
    · have hkeys : ["uid".toList, "exp".toList].Nodup := by decide
      exact ⟨hkeys, ⟨uid, rfl, huid⟩, ⟨exp, rfl, hexp⟩⟩
    · have hkeys : ["uid".toList, "exp".toList, "sv".toList].Nodup := by decide
      exact ⟨hkeys, ⟨uid, rfl, huid⟩, ⟨exp, rfl, hexp⟩, ⟨sv, rfl, hsv⟩⟩
  have hdetect : detectsUtf8 (utf8 (Json.obj (sessionClaims uid exp sv)).dumps) = true := by
    obtain ⟨s, hs⟩ := dumps_sessionClaims uid exp sv
    rw [hs]
    rfl
  rw [JsonReader.parse, sessionPayload, padBase64_rstripPad, if_pos (isAscii_urlsafeB64encode _),
    urlsafeB64decode_encode, Option.bind_some, if_pos hdetect, decodeUtf8_utf8, Option.bind_some,
    Json.loads_dumps _ hreadable]

theorem expired_sessionClaims (r : JsonReader) :
    r.expired (sessionClaims uid exp sv) now = .ok (decide ((exp : Rat) < now)) := by
  have hlookup : (sessionClaims uid exp sv).lookup "exp".toList = some (Json.ofInt exp) := rfl
  simp only [JsonReader.expired, hlookup, Option.getD_some, Json.toInt_ofInt]

theorem claimedUser_sessionClaims : claimedUser (sessionClaims uid exp sv) = some (uid, sv) := by
  have hlookup : (sessionClaims uid exp sv).lookup "uid".toList = some (Json.ofInt uid) := rfl
  have hversion : (((sessionClaims uid exp sv).lookup "sv".toList).getD (Json.ofInt 0)).toInt =
      some sv := by
    unfold sessionClaims
    split
    · rename_i h
      subst h
      exact Json.toInt_ofInt 0
    · exact Json.toInt_ofInt sv
  rw [claimedUser, hlookup, Option.bind_some, Json.toInt_ofInt, hversion]
  rfl

/-- **A signed session** is read as what was signed, until it expires. -/
theorem readSession_signed (r : JsonReader) (secret : Text) (huid : Printable uid)
    (hexp : Printable exp) (hsv : Printable sv) (t : Rat) :
    r.readSession (sessionPayload uid exp sv ++ '.' :: sign secret (sessionPayload uid exp sv))
        secret t =
      .ok (if (exp : Rat) < t then none else some (uid, sv)) := by
  have hdot : '.' ∉ sessionPayload uid exp sv := notMem_rstripPad (by decide +kernel) _
  have hascii : isAscii (sign secret (sessionPayload uid exp sv)) = true := isAscii_hex _
  have hparse := parse_sessionPayload r huid hexp hsv
  simp only [JsonReader.readSession, splitDot_append hdot, hascii, hparse,
    expired_sessionClaims, claimedUser_sessionClaims]
  by_cases hlt : (exp : Rat) < t
  · simp [hlt]
    rfl
  · simp [hlt]
    rfl

theorem signed_of_readSession {x : Int × Int}
    (h : r.readSession token secret now = .ok (some x)) :
    ∃ payload, token = payload ++ '.' :: sign secret payload := by
  unfold JsonReader.readSession at h
  split at h
  · cases h
  · rename_i payload sig hsplit
    split at h
    · cases h
    · split at h
      · cases h
      · rename_i hsig
        exact ⟨payload, (eq_of_splitDot hsplit).1.trans (by rw [not_not.mp hsig])⟩

end Signed

end Concord.Identity
