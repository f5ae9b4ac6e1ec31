import Concord.Base.Run
import Concord.Base.Slots
import Concord.Python.Text
import Concord.Python.Hmac

/-!
# Envelope encryption of stored credentials

`src/ccf/ai/cipher.py` with the local key provider. A secret is encrypted under a
random data key, and the data key under a key derived from a configured master
key. A token of version 2 names that master key by its id; a token of version 1
names none and was wrapped under the older derivation.

The cipher itself is not in the repository: it is a parameter `Aead`, of which
`Aead.Sound` says what is relied on. Everything around it is as the code has it:
the key ids, the two derivations, the list of keys with one entry an id, the two
token layouts and their parser.
-/

namespace Concord.Ai

open Concord.Python

/-- What `AESGCM` raises. -/
inductive AeadError where
  | invalidTag
  | value
  | overflow
  deriving DecidableEq

/-- `AESGCM(key).encrypt(nonce, data, aad)` and `.decrypt`. -/
structure Aead where
  encrypt (key nonce data aad : Bytes) : Except AeadError Bytes
  decrypt (key nonce data aad : Bytes) : Except AeadError Bytes

/-- `b"ccf-dek"`, the context of a wrapped data key. -/
def dekContext : Bytes := utf8 "ccf-dek".toList

/-- AES-256-GCM decrypts what it encrypted under the same key and refuses it under
every other. It takes data below 2^31 bytes, and a data key comes out short enough
for its length to fit two bytes, with the nonce before it. -/
structure Aead.Sound (aead : Aead) : Prop where
  opens {key nonce data aad ct : Bytes} : aead.encrypt key nonce data aad = .ok ct →
    aead.decrypt key nonce ct aad = .ok data
  rejects {key key' nonce data aad ct : Bytes} : aead.encrypt key nonce data aad = .ok ct →
    key' ≠ key → ∃ e, aead.decrypt key' nonce ct aad = .error e
  accepts {key nonce data : Bytes} (aad : Bytes) : key.length = 32 → nonce.length = 12 →
    data.length < 2 ^ 31 → ∃ ct, aead.encrypt key nonce data aad = .ok ct
  bounded {key nonce data aad ct : Bytes} : aead.encrypt key nonce data aad = .ok ct →
    data.length < 2 ^ 31
  fits {key nonce data ct : Bytes} : aead.encrypt key nonce data dekContext = .ok ct →
    data.length = 32 → ct.length + 12 < 65536

/-! ## Keys -/

/-- `key_id`. -/
def keyId (masterKey : Text) : Text :=
  (hex (hmacSha256 (utf8 masterKey) (utf8 "ccf-kek-id-v1".toList))).take (8 * 2)

/-- What `_derive_kek` derives, with `_KDF_ROUNDS` and `_KDF_SALT`. -/
@[irreducible] def deriveKek (masterKey : Text) : Bytes :=
  pbkdf2 (hmacSha256 (utf8 masterKey)) (utf8 "ccf-kek-pbkdf2-v1".toList) 600000

/-- `_KEK_CACHE`. -/
abbrev KekCache := List (Text × Bytes)

/-- `_derive_kek`: the key of an id is derived once in a process. -/
def KekCache.derive (cache : KekCache) (masterKey : Text) : Bytes × KekCache :=
  match cache.lookup (keyId masterKey) with
  | some kek => (kek, cache)
  | none => (deriveKek masterKey, (keyId masterKey, deriveKek masterKey) :: cache)

/-- `_legacy_kek`. -/
def legacyKek (masterKey : Text) : Bytes := sha256 (utf8 masterKey)

theorem keyId_eq (masterKey : Text) :
    keyId masterKey =
      hex ((hmacSha256 (utf8 masterKey) (utf8 "ccf-kek-id-v1".toList)).take 8) :=
  hex_take _ 8

theorem fromHex_keyId (masterKey : Text) :
    ∃ b, fromHex (keyId masterKey) = some b ∧ b.length = 8 ∧ hex b = keyId masterKey := by
  rw [keyId_eq]
  refine ⟨_, fromHex_hex _, ?_, rfl⟩
  rw [List.length_take, hmacSha256_length]
  rfl

theorem deriveKek_length (masterKey : Text) : (deriveKek masterKey).length = 32 := by
  unfold deriveKek
  exact pbkdf2_length _ _ _

theorem legacyKek_length (masterKey : Text) : (legacyKek masterKey).length = 32 :=
  sha256_length _

inductive CipherError where
  /-- `CredentialStorageError`. -/
  | credentialStorage (message : Text)
  | payloadAuthentication
  | unknownKey (missingKeyId : Option Text)
  /-- `ValueError`. -/
  | value (message : Text)
  /-- `UnicodeEncodeError` of `token.encode("ascii")`. -/
  | notAscii
  /-- `binascii.Error`. -/
  | base64
  /-- `OverflowError` of `to_bytes`. -/
  | overflow
  | aead (e : AeadError)
  deriving DecidableEq

/-! ## The local key provider -/

/-- `LocalKeyProvider`: the current key, and every key it reads with, one an id. -/
structure LocalKeyProvider where
  current : Text
  all : List Text
  strong : 16 ≤ current.length
  reads : current ∈ all
  distinct : (all.map keyId).Nodup

/-- One turn of the loop over `previous_keys`. The set `seen` is the ids of `all`. -/
def keepKey (all : List Text) (key : Text) : List Text :=
  if key ≠ [] ∧ keyId key ∉ all.map keyId then all ++ [key] else all

theorem subset_keepKey (all : List Text) (key : Text) : all ⊆ keepKey all key := by
  unfold keepKey
  split
  · exact List.subset_append_left _ _
  · exact List.Subset.refl _

theorem keepKey_nodup {all : List Text} (h : (all.map keyId).Nodup) (key : Text) :
    ((keepKey all key).map keyId).Nodup := by
  unfold keepKey
  split
  next hnew =>
    rw [List.map_append, List.map_singleton]
    refine List.nodup_append.mpr ⟨h, List.nodup_singleton _, fun a ha b hb => ?_⟩
    rw [List.mem_singleton.mp hb]
    exact fun hab => hnew.2 (hab ▸ ha)
  next => exact h

theorem subset_foldl_keepKey (previousKeys all : List Text) :
    all ⊆ previousKeys.foldl keepKey all := by
  induction previousKeys generalizing all with
  | nil => exact List.Subset.refl _
  | cons key keys ih => exact List.Subset.trans (subset_keepKey all key) (ih _)

theorem foldl_keepKey_nodup (previousKeys : List Text) {all : List Text}
    (h : (all.map keyId).Nodup) : ((previousKeys.foldl keepKey all).map keyId).Nodup := by
  induction previousKeys generalizing all with
  | nil => exact h
  | cons key keys ih => exact ih (keepKey_nodup h key)

theorem exists_mem_foldl_keepKey {previousKeys : List Text} (all : List Text) {key : Text}
    (hkey : key ∈ previousKeys) (hne : key ≠ []) :
    ∃ kept ∈ previousKeys.foldl keepKey all, keyId kept = keyId key := by
  induction previousKeys generalizing all with
  | nil => cases hkey
  | cons k keys ih =>
    rcases List.mem_cons.mp hkey with rfl | hmem
    · have hkept : ∃ kept ∈ keepKey all key, keyId kept = keyId key := by
        by_cases hseen : keyId key ∈ all.map keyId
        · obtain ⟨kept, hmem, hid⟩ := List.mem_map.mp hseen
          exact ⟨kept, subset_keepKey _ _ hmem, hid⟩
        · refine ⟨key, ?_, rfl⟩
          rw [keepKey, if_pos ⟨hne, hseen⟩]
          exact List.mem_append_right _ (List.mem_singleton.mpr rfl)
      obtain ⟨kept, hmem, hid⟩ := hkept
      exact ⟨kept, subset_foldl_keepKey keys _ hmem, hid⟩
    · exact ih _ hmem

theorem mem_foldl_keepKey {previousKeys all : List Text} {key : Text}
    (h : key ∈ previousKeys.foldl keepKey all) : key ∈ all ∨ key ∈ previousKeys := by
  induction previousKeys generalizing all with
  | nil => exact .inl h
  | cons k keys ih =>
    rcases ih h with hmem | hmem
    · unfold keepKey at hmem
      split at hmem
      · rcases List.mem_append.mp hmem with hall | hk
        · exact .inl hall
        · rw [List.mem_singleton.mp hk]
          exact .inr List.mem_cons_self
      · exact .inl hmem
    · exact .inr (List.mem_cons_of_mem _ hmem)

/-- `LocalKeyProvider(master_key, previous_keys=...)`. -/
def localKeyProvider (masterKey : Text) (previousKeys : List Text) :
    Except CipherError LocalKeyProvider :=
  if h : masterKey.length < 16 then
    .error (.credentialStorage
      ("ai_credential_master_key must be set to a strong value (>=16 chars) ".toList ++
        "to store AI credentials".toList))
  else
    .ok {
      current := masterKey
      all := previousKeys.foldl keepKey [masterKey]
      strong := Nat.le_of_not_lt h
      reads := subset_foldl_keepKey _ _ (List.mem_singleton.mpr rfl)
      distinct := foldl_keepKey_nodup _ (List.nodup_singleton _) }

/-- `current_key_id`. -/
def LocalKeyProvider.currentKeyId (kp : LocalKeyProvider) : Text := keyId kp.current

/-- What one `encrypt` reads from `os.urandom` and `AESGCM.generate_key`. -/
structure Draw where
  dek : Bytes
  wrapNonce : Bytes
  nonce : Bytes
  dek_length : dek.length = 32
  wrapNonce_length : wrapNonce.length = 12
  nonce_length : nonce.length = 12

variable (aead : Aead)

/-- A data key under a key-encryption key, after the nonce. -/
def wrapDataKey (kek : Bytes) (draw : Draw) : Except CipherError Bytes :=
  match aead.encrypt kek draw.wrapNonce draw.dek dekContext with
  | .error e => .error (.aead e)
  | .ok blob => .ok (draw.wrapNonce ++ blob)

/-- `generate_data_key`: the data key it draws, wrapped under the current key. -/
def LocalKeyProvider.generateDataKey (kp : LocalKeyProvider) (draw : Draw) :
    Except CipherError (Bytes × Bytes) := do
  let wrapped ← wrapDataKey aead (deriveKek kp.current) draw
  return (draw.dek, wrapped)

/-- The loop of `unwrap_data_key` for a token that names no key. -/
def unwrapWithAny (nonce blob : Bytes) : List Bytes → Except CipherError Bytes
  | [] => .error (.unknownKey none)
  | kek :: keks =>
    match aead.decrypt kek nonce blob dekContext with
    | .ok dek => .ok dek
    | .error _ => unwrapWithAny nonce blob keks

/-- `unwrap_data_key`. -/
def LocalKeyProvider.unwrapDataKey (kp : LocalKeyProvider) (wrappedDek : Bytes) :
    Option Text → Except CipherError Bytes
  | some kid =>
    match kp.all.find? (keyId · = kid) with
    | none => .error (.unknownKey (some kid))
    | some key =>
      match aead.decrypt (deriveKek key) (wrappedDek.take 12) (wrappedDek.drop 12)
        dekContext with
      | .error e => .error (.aead e)
      | .ok dek => .ok dek
  | none =>
    unwrapWithAny aead (wrappedDek.take 12) (wrappedDek.drop 12)
      (kp.all.flatMap fun key => [legacyKek key, deriveKek key])

/-! ## Tokens -/

/-- `(key_id, wrapped_dek, nonce, ciphertext)`. -/
structure Envelope where
  keyId : Option Text
  wrapped : Bytes
  nonce : Bytes
  ciphertext : Bytes
  deriving DecidableEq

/-- What follows the version and the key id: a two-byte length, the wrapped data
key, the nonce and the ciphertext. -/
def Envelope.split (keyId : Option Text) (b : Bytes) : Envelope :=
  let wl := fromBigEndian (b.take 2)
  let b := b.drop 2
  ⟨keyId, b.take wl, (b.drop wl).take 12, (b.drop wl).drop 12⟩

/-- `_parse`. -/
def parse (token : Text) : Except CipherError Envelope :=
  if isAscii token then
    match urlsafeB64decode token with
    | none => .error .base64
    | some [] => .error (.value "empty credential token".toList)
    | some (version :: b) =>
      if version = 2 then .ok (.split (some (hex (b.take 8))) (b.drop 8))
      else if version = 1 then .ok (.split none b)
      else .error (.value
        ("unsupported credential token version ".toList ++ natText version.toNat))
  else .error .notAscii

/-- The token of a header, a wrapped data key, a nonce and a ciphertext. -/
def assemble (header wrapped nonce ct : Bytes) : Except CipherError Text :=
  match toBigEndian wrapped.length with
  | none => .error .overflow
  | some length => .ok (urlsafeB64encode (header ++ length ++ wrapped ++ nonce ++ ct))

/-- `token_key_id`. -/
def tokenKeyId (token : Text) : Except CipherError (Option Text) :=
  (parse token).map Envelope.keyId

/-! ## The cipher -/

/-- `AAD_CREDENTIAL`. -/
def aadCredential : Bytes := utf8 "ccf-cred".toList

/-- `AAD_MFA`. -/
def aadMfa : Bytes := utf8 "ccf-mfa".toList

/-- `CredentialCipher`. -/
structure CredentialCipher where
  provider : LocalKeyProvider
  aad : Bytes

def encryptPayload (draw : Draw) (aad : Bytes) (plaintext : Text) :
    Except CipherError Bytes :=
  match aead.encrypt draw.dek draw.nonce (utf8 plaintext) aad with
  | .error e => .error (.aead e)
  | .ok ct => .ok ct

/-- `encrypt`. -/
def CredentialCipher.encrypt (c : CredentialCipher) (draw : Draw) (plaintext : Text) :
    Except CipherError Text := do
  let (_, wrapped) ← c.provider.generateDataKey aead draw
  let ct ← encryptPayload aead draw c.aad plaintext
  match fromHex c.provider.currentKeyId with
  | none => throw (.value "non-hexadecimal number found in fromhex() arg".toList)
  | some kid => assemble (2 :: kid) wrapped draw.nonce ct

/-- `decrypt`. Both a failed tag and bytes that are not UTF-8 raise
`PayloadAuthenticationError`. -/
def CredentialCipher.decrypt (c : CredentialCipher) (token : Text) :
    Except CipherError Text := do
  let e ← parse token
  let dek ← c.provider.unwrapDataKey aead e.wrapped e.keyId
  match aead.decrypt dek e.nonce e.ciphertext c.aad with
  | .error _ => throw .payloadAuthentication
  | .ok b =>
    match decodeUtf8 b with
    | none => throw .payloadAuthentication
    | some plaintext => return plaintext

/-- `needs_rewrap`. -/
def CredentialCipher.needsRewrap (c : CredentialCipher) (token : Text) :
    Except CipherError Bool := do
  let e ← parse token
  return e.keyId ≠ some c.provider.currentKeyId

/-- `rewrap`. -/
def CredentialCipher.rewrap (c : CredentialCipher) (draw : Draw) (token : Text) :
    Except CipherError Text := do
  let plaintext ← c.decrypt aead token
  c.encrypt aead draw plaintext

/-- `Settings`, the part of the local key provider. -/
structure Settings where
  masterKey : Option Text
  previousKeys : List Text

/-- `build_cipher` with the local key provider. -/
def buildCipher (settings : Settings) (aad : Bytes) : Except CipherError CredentialCipher :=
  match settings.masterKey with
  | some (c :: cs) => do
    let provider ← localKeyProvider (c :: cs) settings.previousKeys
    return ⟨provider, aad⟩
  | _ => .error (.credentialStorage
      ("AI credential storage is disabled: set CCF_AI_CREDENTIAL_MASTER_KEY ".toList ++
        "(local key provider) or configure a KMS key provider".toList))

/-- A token as the first release wrote it: version 1, no key id, and the data key
under the older derivation. -/
def legacyToken (masterKey : Text) (aad : Bytes) (draw : Draw) (plaintext : Text) :
    Except CipherError Text := do
  let wrapped ← wrapDataKey aead (legacyKek masterKey) draw
  let ct ← encryptPayload aead draw aad plaintext
  assemble [1] wrapped draw.nonce ct

/-- `token` was written for `plaintext` while `c` was the configured cipher: by the
present code, or by the first release. -/
inductive Written (c : CredentialCipher) (plaintext token : Text) : Prop where
  | encrypted (draw : Draw) (h : c.encrypt aead draw plaintext = .ok token)
  | legacy (draw : Draw)
    (h : legacyToken aead c.provider.current c.aad draw plaintext = .ok token)

end Concord.Ai
