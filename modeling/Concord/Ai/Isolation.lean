import Concord.Ai.KeyHistory
import Concord.Base.Counts
import Concord.Base.Raises

/-!
# What one bad secret does to a sweep

`src/ccf/ai/cipher.py` and `src/ccf/ai/rotation.py` with either key provider: the configured
master keys, or a key that AWS KMS holds. What KMS answers is an input of each row's turn.

`needs_rewrap` parses a token outside the `try` of `rewrap_all`, and asks nothing of a token that
names the current key. So a sweep isolates its rows exactly if every token parses and every one
that names the current key can be read (`rewrapAll_isolated_iff`). What `_parse` raises, and a
wrapped data key that a named master key does not open, leave `decrypt` as they are
(`decrypt_documented_iff`).
-/

namespace Concord.Ai

open Concord.Python Concord.Base

/-- What `AESGCM` opens is what it made. -/
structure Aead.Genuine (aead : Aead) : Prop where
  made {key nonce ct aad data : Bytes} : aead.decrypt key nonce ct aad = .ok data →
    aead.encrypt key nonce data aad = .ok ct

/-- What a call raises. -/
inductive Fault where
  | cipher (e : CipherError)
  /-- `KmsUnavailableError`. -/
  | kmsUnavailable (keyId : Option Text)
  /-- What the client of KMS raises. -/
  | kmsClient
  deriving DecidableEq

/-- The subclasses of `CredentialStorageError`, and itself. -/
def Fault.documented : Fault → Bool
  | .cipher (.credentialStorage _) => true
  | .cipher .payloadAuthentication => true
  | .cipher (.unknownKey _) => true
  | .kmsUnavailable _ => true
  | _ => false

/-- What `GenerateDataKey` returns: an AES-256 key, and a blob of a bounded size. -/
structure KmsDataKey where
  plaintext : Bytes
  blob : Bytes
  plaintext_length : plaintext.length = 32
  blob_length : blob.length ≤ 6144

/-- What the turn of one row reads from `os.urandom`, and what KMS answers in it. -/
structure Turn where
  draw : Draw
  kmsDataKey : Option KmsDataKey
  kmsDecrypt : Bytes → Option Bytes

inductive KeyProvider where
  | masterKeys (kp : LocalKeyProvider)
  | awsKms (kmsKeyId : Text)

/-- `current_key_id`. -/
def KeyProvider.currentKeyId : KeyProvider → Text
  | .masterKeys kp => kp.currentKeyId
  | .awsKms kmsKeyId => keyId kmsKeyId

/-- What the cipher itself raises is passed on. -/
def raised {α : Type} : Except CipherError α → Except Fault α
  | .ok a => .ok a
  | .error e => .error (.cipher e)

variable (aead : Aead)

/-- `generate_data_key`. -/
def KeyProvider.generateDataKey (turn : Turn) : KeyProvider → Except Fault (Bytes × Bytes)
  | .masterKeys kp => raised (kp.generateDataKey aead turn.draw)
  | .awsKms _ =>
    match turn.kmsDataKey with
    | none => .error .kmsClient
    | some answer => .ok (answer.plaintext, answer.blob)

/-- `unwrap_data_key`. -/
def KeyProvider.unwrapDataKey (turn : Turn) (wrappedDek : Bytes) (kid : Option Text) :
    KeyProvider → Except Fault Bytes
  | .masterKeys kp => raised (kp.unwrapDataKey aead wrappedDek kid)
  | .awsKms _ =>
    match turn.kmsDecrypt wrappedDek with
    | none => .error (.kmsUnavailable kid)
    | some dek => .ok dek

/-- `CredentialCipher`, with any provider. -/
structure EnvelopeCipher where
  provider : KeyProvider
  aad : Bytes

/-- `encrypt`. -/
def EnvelopeCipher.encrypt (c : EnvelopeCipher) (turn : Turn) (plaintext : Text) :
    Except Fault Text := do
  let (dek, wrapped) ← c.provider.generateDataKey aead turn
  match aead.encrypt dek turn.draw.nonce (utf8 plaintext) c.aad with
  | .error e => throw (.cipher (.aead e))
  | .ok ct =>
    match fromHex c.provider.currentKeyId with
    | none => throw (.cipher (.value "non-hexadecimal number found in fromhex() arg".toList))
    | some kid => raised (assemble (2 :: kid) wrapped turn.draw.nonce ct)

/-- `decrypt`. -/
def EnvelopeCipher.decrypt (c : EnvelopeCipher) (turn : Turn) (token : Text) :
    Except Fault Text := do
  let e ← raised (parse token)
  let dek ← c.provider.unwrapDataKey aead turn e.wrapped e.keyId
  match aead.decrypt dek e.nonce e.ciphertext c.aad with
  | .error _ => throw (.cipher .payloadAuthentication)
  | .ok b =>
    match decodeUtf8 b with
    | none => throw (.cipher .payloadAuthentication)
    | some plaintext => return plaintext

/-- `needs_rewrap`. -/
def EnvelopeCipher.needsRewrap (c : EnvelopeCipher) (token : Text) : Except Fault Bool := do
  let e ← raised (parse token)
  return e.keyId ≠ some c.provider.currentKeyId

/-- `rewrap`. -/
def EnvelopeCipher.rewrap (c : EnvelopeCipher) (turn : Turn) (token : Text) :
    Except Fault Text := do
  let plaintext ← c.decrypt aead turn token
  c.encrypt aead turn plaintext

/-- `Settings`, of the key providers. -/
structure ProviderSettings where
  keyProvider : Text
  masterKey : Option Text
  previousKeys : List Text
  kmsKeyId : Option Text

/-- The provider that `build_cipher` constructs. -/
def ProviderSettings.provider (settings : ProviderSettings) : Except CipherError KeyProvider :=
  if settings.keyProvider = "local".toList then
    match settings.masterKey with
    | some (c :: cs) => (localKeyProvider (c :: cs) settings.previousKeys).map .masterKeys
    | _ => .error (.credentialStorage
        ("AI credential storage is disabled: set CCF_AI_CREDENTIAL_MASTER_KEY ".toList ++
          "(local key provider) or configure a KMS key provider".toList))
  else if settings.keyProvider = "aws_kms".toList then
    match settings.kmsKeyId with
    | some (c :: cs) => .ok (.awsKms (c :: cs))
    | _ => .error (.credentialStorage
        "ai_credential_kms_key_id must be set to use the aws_kms key provider".toList)
  else .error (.credentialStorage
    ("AI credential key provider '".toList ++ settings.keyProvider ++
      "' is not implemented yet".toList))

/-- `build_cipher`. -/
def ProviderSettings.buildCipher (settings : ProviderSettings) (aad : Bytes) :
    Except CipherError EnvelopeCipher :=
  settings.provider.map fun provider => ⟨provider, aad⟩

/-! ## The sweep -/

/-- What a turn adds to the report. -/
inductive Mark where
  | skipped
  | current
  | rewrapped
  | unreadable (keyId : Option Text)
  deriving DecidableEq

def RewrapReport.mark (report : RewrapReport) (label : Text) (row : Nat) : Mark → RewrapReport
  | .skipped => report
  | .current => { report with alreadyCurrent := report.alreadyCurrent + 1 }
  | .rewrapped => { report with rewrapped := report.rewrapped + 1 }
  | .unreadable kid => { report with unreadable := report.unreadable ++ [⟨label, row, kid⟩] }

/-- The turn of one row. `needs_rewrap` is outside the `try`. -/
def EnvelopeCipher.rewrapRow (c : EnvelopeCipher) (turn : Turn) (row : SecretRow) :
    Except Fault (Mark × SecretRow) :=
  match row.token with
  | some (t :: ts) => do
    let needed ← c.needsRewrap (t :: ts)
    if needed then
      match c.rewrap aead turn (t :: ts) with
      | .ok token' => return (.rewrapped, { row with token := some token' })
      | .error (.cipher (.unknownKey missingKeyId)) => return (.unreadable missingKeyId, row)
      -- KMS could not answer, and a retry may: this one ends the sweep
      | .error (.kmsUnavailable kid) => throw (.kmsUnavailable kid)
      | .error _ =>
        let kid ← raised (tokenKeyId (t :: ts))
        return (.unreadable kid, row)
    else return (.current, row)
  | _ => return (.skipped, row)

def EnvelopeCipher.rewrapRows (c : EnvelopeCipher) (label : Text) (turns : Nat → Turn)
    (report : RewrapReport) (rows : List SecretRow) :
    Except Fault (RewrapReport × List SecretRow) :=
  rows.foldlM (fun (report, done) row => do
    let (mark, row') ← c.rewrapRow aead (turns row.id) row
    return (report.mark label row.id mark, done ++ [row'])) (report, [])

def ProviderSettings.rewrapColumns (settings : ProviderSettings) (turns : Column → Nat → Turn)
    (specs : List Column) (start : RewrapReport × Vault) : Except Fault (RewrapReport × Vault) :=
  specs.foldlM (fun (report, vault) spec => do
    let c ← raised (settings.buildCipher spec.aad)
    let (report, rows) ← c.rewrapRows aead spec.label (turns spec) report (vault spec)
    return (report, Function.update vault spec rows)) start

/-- `rewrap_all`. -/
def ProviderSettings.rewrapAll (settings : ProviderSettings) (turns : Column → Nat → Turn)
    (vault : Vault) : Except Fault (RewrapReport × Vault) :=
  settings.rewrapColumns aead turns encryptedColumns ({}, vault)

/-! ## The configured master keys -/

section MasterKeys

variable {aead} {α β : Type}

theorem raised_bind (x : Except CipherError α) (f : α → Except CipherError β) :
    raised (x >>= f) = raised x >>= fun a => raised (f a) := by
  cases x <;> rfl

theorem raised_eq_ok {x : Except CipherError α} {a : α} : raised x = .ok a ↔ x = .ok a := by
  cases x with
  | ok b => exact ⟨fun h => congrArg _ (Except.ok.inj h), fun h => congrArg _ (Except.ok.inj h)⟩
  | error e => exact iff_of_false (not_succeeds_error _ ⟨a, ·⟩) (not_succeeds_error _ ⟨a, ·⟩)

theorem raised_eq_error {x : Except CipherError α} {err : Fault} :
    raised x = .error err ↔ ∃ e, x = .error e ∧ err = .cipher e := by
  cases x with
  | ok b =>
    refine iff_of_false (fun h => ?_) fun ⟨e, h, _⟩ => ?_
    · cases h
    · cases h
  | error e =>
    constructor
    · intro h
      exact ⟨e, rfl, (Except.error.inj h).symm⟩
    · rintro ⟨e', h, rfl⟩
      exact congrArg (Except.error ∘ Fault.cipher) (Except.error.inj h)

def CredentialCipher.envelope (c : CredentialCipher) : EnvelopeCipher :=
  ⟨.masterKeys c.provider, c.aad⟩

theorem decrypt_envelope (c : CredentialCipher) (turn : Turn) (token : Text) :
    c.envelope.decrypt aead turn token = raised (c.decrypt aead token) := by
  rw [CredentialCipher.decrypt, raised_bind]
  refine congrArg (raised (parse token) >>= ·) (funext fun e => ?_)
  rw [raised_bind]
  refine congrArg (raised (c.provider.unwrapDataKey aead e.wrapped e.keyId) >>= ·)
    (funext fun dek => ?_)
  show (match aead.decrypt dek e.nonce e.ciphertext c.aad with | .error _ => _ | .ok b => _) = _
  cases aead.decrypt dek e.nonce e.ciphertext c.aad with
  | error err => rfl
  | ok b =>
    dsimp only
    cases decodeUtf8 b <;> rfl

theorem encrypt_envelope (c : CredentialCipher) (turn : Turn) (plaintext : Text) :
    c.envelope.encrypt aead turn plaintext = raised (c.encrypt aead turn.draw plaintext) := by
  rw [CredentialCipher.encrypt, LocalKeyProvider.generateDataKey, EnvelopeCipher.encrypt]
  show (raised (c.provider.generateDataKey aead turn.draw) >>= _) = _
  rw [LocalKeyProvider.generateDataKey]
  cases wrapDataKey aead (deriveKek c.provider.current) turn.draw with
  | error err => rfl
  | ok wrapped =>
    show (match aead.encrypt turn.draw.dek turn.draw.nonce (utf8 plaintext) c.aad with
      | .error _ => _ | .ok ct => _) = raised (encryptPayload aead turn.draw c.aad plaintext >>= _)
    rw [encryptPayload]
    cases aead.encrypt turn.draw.dek turn.draw.nonce (utf8 plaintext) c.aad with
    | error err => rfl
    | ok ct =>
      show (match fromHex c.provider.currentKeyId with | none => _ | some kid => _) =
        raised (match fromHex c.provider.currentKeyId with | none => _ | some kid => _)
      cases fromHex c.provider.currentKeyId <;> rfl

end MasterKeys

/-! ## What `decrypt` raises -/

section Raised

variable {aead}

theorem parse_undocumented {token : Text} {e : CipherError} (h : parse token = .error e) :
    Fault.documented (.cipher e) = false := by
  unfold parse at h
  split at h
  · split at h
    · cases h
      rfl
    · cases h
      rfl
    · split at h
      · cases h
      · split at h
        · cases h
        · cases h
          rfl
  · cases h
    rfl

theorem unwrapWithAny_error {nonce blob : Bytes} {keks : List Bytes} {e : CipherError}
    (h : unwrapWithAny aead nonce blob keks = .error e) : e = .unknownKey none := by
  induction keks with
  | nil => exact (Except.error.inj h).symm
  | cons kek keks ih =>
    rw [unwrapWithAny] at h
    split at h
    · cases h
    · exact ih h

/-- The configured master key that a token names, if it names one, opens its data key. -/
def NamedKeyOpens (aead : Aead) (provider : KeyProvider) (e : Envelope) : Prop :=
  match provider with
  | .masterKeys kp => ∀ key ∈ kp.all, e.keyId = some (keyId key) →
      ∃ dek, aead.decrypt (deriveKek key) (e.wrapped.take 12) (e.wrapped.drop 12) dekContext =
        .ok dek
  | .awsKms _ => True

theorem unwrap_named_documented_iff (kp : LocalKeyProvider) {e : Envelope} {kid : Text}
    (hkid : e.keyId = some kid) :
    (∀ err, raised (kp.unwrapDataKey aead e.wrapped (some kid)) = .error err →
        err.documented = true) ↔ NamedKeyOpens aead (.masterKeys kp) e := by
  constructor
  · intro h key hkey hnamed
    cases hdec : aead.decrypt (deriveKek key) (e.wrapped.take 12) (e.wrapped.drop 12)
        dekContext with
    | ok dek => exact ⟨dek, rfl⟩
    | error err =>
      -- the key is found by its name, and what it fails with is not caught
      have hfail : kp.unwrapDataKey aead e.wrapped (some kid) = .error (.aead err) := by
        rw [← hkid, hnamed, LocalKeyProvider.unwrapDataKey, find_of_nodup kp.distinct hkey]
        dsimp only
        rw [hdec]
      have hraised := h (.cipher (.aead err)) (raised_eq_error.mpr ⟨_, hfail, rfl⟩)
      cases hraised
  · intro h err herr
    obtain ⟨e', hfail, rfl⟩ := raised_eq_error.mp herr
    rw [LocalKeyProvider.unwrapDataKey] at hfail
    split at hfail
    · -- no configured key has the name: an `UnknownKeyError`
      cases hfail
      rfl
    · rename_i key hfind
      have hnamed : keyId key = kid := by simpa using List.find?_some hfind
      obtain ⟨dek, hdek⟩ := h key (List.mem_of_find?_eq_some hfind)
        (hkid.trans (congrArg some hnamed.symm))
      rw [hdek] at hfail
      cases hfail

theorem unwrapDataKey_documented_iff (provider : KeyProvider) (turn : Turn) (e : Envelope) :
    (∀ err, provider.unwrapDataKey aead turn e.wrapped e.keyId = .error err →
        err.documented = true) ↔ NamedKeyOpens aead provider e := by
  cases provider with
  | awsKms kmsKeyId =>
    refine iff_of_true (fun err h => ?_) trivial
    unfold KeyProvider.unwrapDataKey at h
    dsimp only at h
    split at h
    · cases h
      rfl
    · cases h
  | masterKeys kp =>
    cases hkid : e.keyId with
    | none =>
      refine iff_of_true (fun err h => ?_) fun key _ hkey => nomatch hkid.symm.trans hkey
      obtain ⟨err, herr, rfl⟩ := raised_eq_error.mp h
      rw [unwrapWithAny_error herr]
      rfl
    | some kid => exact unwrap_named_documented_iff kp hkid

/-- **What `decrypt` raises is a credential error**, exactly for a token that parses and whose
named key, if it is configured, opens its data key. -/
theorem decrypt_documented_iff (c : EnvelopeCipher) (turn : Turn) (token : Text) :
    (∀ err, c.decrypt aead turn token = .error err → err.documented = true) ↔
      ∃ e, parse token = .ok e ∧ NamedKeyOpens aead c.provider e := by
  cases hparse : parse token with
  | error e =>
    refine iff_of_false (fun h => ?_) fun ⟨_, h, _⟩ => nomatch h
    have herr : c.decrypt aead turn token = .error (.cipher e) := by
      rw [EnvelopeCipher.decrypt, hparse]
      rfl
    exact absurd (h _ herr) (Bool.eq_false_iff.mp (parse_undocumented hparse))
  | ok e =>
    have hdecrypt : c.decrypt aead turn token =
        c.provider.unwrapDataKey aead turn e.wrapped e.keyId >>= fun dek =>
          match aead.decrypt dek e.nonce e.ciphertext c.aad with
          | .error _ => throw (.cipher .payloadAuthentication)
          | .ok b =>
            match decodeUtf8 b with
            | none => throw (.cipher .payloadAuthentication)
            | some plaintext => return plaintext := by
      rw [EnvelopeCipher.decrypt, hparse]
      rfl
    rw [hdecrypt]
    refine Iff.trans ?_ ⟨fun h => ⟨e, rfl, h⟩, fun ⟨e', he', h⟩ => Except.ok.inj he' ▸ h⟩
    rw [← unwrapDataKey_documented_iff c.provider turn e]
    cases c.provider.unwrapDataKey aead turn e.wrapped e.keyId with
    | error err =>
      constructor
      · intro h err' herr'
        obtain rfl := Except.error.inj herr'
        exact h err rfl
      · intro h err' herr'
        obtain rfl := Except.error.inj herr'
        exact h err rfl
    | ok dek =>
      -- past the data key, every failure is one of the payload
      refine iff_of_true (fun err h => ?_) fun err h => nomatch h
      change (match aead.decrypt dek e.nonce e.ciphertext c.aad with
        | .error _ => _ | .ok b => _) = _ at h
      split at h
      · cases h
        rfl
      · split at h
        · cases h
          rfl
        · cases h

end Raised

/-! ## The turn of a row -/

section Rows

variable {aead} {c : EnvelopeCipher} {turn : Turn} {token plaintext : Text} {e : Envelope}

/-- KMS hands out a data key, where it is asked for one. -/
def KeyProvider.Supplies (turn : Turn) : KeyProvider → Prop
  | .masterKeys _ => True
  | .awsKms _ => turn.kmsDataKey.isSome = true

/-- KMS answers what it is asked of a wrapped data key. -/
def KeyProvider.Answers (turn : Turn) (wrapped : Bytes) : KeyProvider → Prop
  | .masterKeys _ => True
  | .awsKms _ => (turn.kmsDecrypt wrapped).isSome = true

theorem utf8_of_decodeUtf8 {b : Bytes} {s : Text} (h : decodeUtf8 b = some s) : utf8 s = b := by
  obtain ⟨chars, hchars, rfl⟩ := Option.map_eq_some_iff.mp h
  have hget := @ByteArray.utf8Encode_get_utf8Decode? b.toByteArray
    (Option.isSome_iff_exists.mpr ⟨chars, hchars⟩)
  rw [Option.get_of_eq_some _ hchars] at hget
  have hbytes : (utf8 chars.toList).toByteArray = b.toByteArray := hget
  simpa using congrArg (fun a => a.data.toList) hbytes

theorem bounded_of_decrypt (hs : aead.Sound) (hg : aead.Genuine)
    (h : c.decrypt aead turn token = .ok plaintext) : (utf8 plaintext).length < 2 ^ 31 := by
  obtain ⟨e, -, h⟩ := bind_eq_ok.mp h
  obtain ⟨dek, -, h⟩ := bind_eq_ok.mp h
  split at h
  · cases h
  · rename_i b hdec
    split at h
    · cases h
    · rename_i s hdecode
      obtain rfl := Except.ok.inj h
      rw [utf8_of_decodeUtf8 hdecode]
      exact hs.bounded (hg.made hdec)

theorem encrypt_of_supplies (hs : aead.Sound) (h : c.provider.Supplies turn)
    (hlen : (utf8 plaintext).length < 2 ^ 31) :
    ∃ token', c.encrypt aead turn plaintext = .ok token' := by
  obtain ⟨provider, aad⟩ := c
  cases provider with
  | masterKeys kp =>
    obtain ⟨token', htoken⟩ := encrypt_isOk hs ⟨kp, aad⟩ turn.draw hlen
    exact ⟨token', (encrypt_envelope ⟨kp, aad⟩ turn plaintext).trans
      (raised_eq_ok.mpr htoken)⟩
  | awsKms kmsKeyId =>
    obtain ⟨answer, hanswer⟩ := Option.isSome_iff_exists.mp h
    obtain ⟨ct, hct⟩ := hs.accepts aad answer.plaintext_length turn.draw.nonce_length hlen
    obtain ⟨kid, hkid, -, -⟩ := fromHex_keyId kmsKeyId
    have hblob := answer.blob_length
    obtain ⟨token', htoken⟩ := @assemble_isOk (2 :: kid) answer.blob turn.draw.nonce ct (by omega)
    refine ⟨token', bind_eq_ok.mpr ⟨(answer.plaintext, answer.blob), ?_, ?_⟩⟩
    · show (match turn.kmsDataKey with | none => _ | some answer => _) = _
      rw [hanswer]
    · show (match aead.encrypt answer.plaintext turn.draw.nonce (utf8 plaintext) aad with
        | .error _ => _ | .ok ct => _) = _
      rw [hct]
      show (match fromHex (keyId kmsKeyId) with | none => _ | some kid => _) = _
      rw [hkid]
      exact raised_eq_ok.mpr htoken

theorem encrypt_of_not_supplies (h : ¬ c.provider.Supplies turn) :
    c.encrypt aead turn plaintext = .error .kmsClient := by
  obtain ⟨provider, aad⟩ := c
  cases provider with
  | masterKeys kp => exact absurd trivial h
  | awsKms kmsKeyId =>
    have hnone : turn.kmsDataKey = none := by
      cases hkey : turn.kmsDataKey with
      | none => rfl
      | some answer => exact absurd (congrArg Option.isSome hkey) h
    show ((match turn.kmsDataKey with | none => _ | some answer => _) >>= _) = _
    rw [hnone]
    rfl

theorem needsRewrap_of_encrypt (h : c.encrypt aead turn plaintext = .ok token) :
    c.needsRewrap token = .ok false := by
  obtain ⟨⟨dek, wrapped⟩, -, h⟩ := bind_eq_ok.mp h
  dsimp only at h
  split at h
  · cases h
  · split at h
    · cases h
    · rename_i kid hkid
      have hmaster : ∃ masterKey, c.provider.currentKeyId = keyId masterKey := by
        cases c.provider with
        | masterKeys kp => exact ⟨kp.current, rfl⟩
        | awsKms kmsKeyId => exact ⟨kmsKeyId, rfl⟩
      obtain ⟨masterKey, hmaster⟩ := hmaster
      obtain ⟨kid', hkid', hlen, hhex⟩ := fromHex_keyId masterKey
      obtain rfl : kid' = kid := Option.some.inj (hkid'.symm.trans (hmaster ▸ hkid))
      have hparse := parse_current hlen turn.draw.nonce_length (raised_eq_ok.mp h)
      rw [EnvelopeCipher.needsRewrap, hparse, hhex, hmaster]
      simp [raised, bind, Except.bind, pure, Except.pure]

theorem needsRewrap_of_parse (h : parse token = .ok e) :
    c.needsRewrap token = .ok (decide (e.keyId ≠ some c.provider.currentKeyId)) := by
  rw [EnvelopeCipher.needsRewrap, h]
  rfl

theorem decrypt_kmsUnavailable (h : parse token = .ok e) {kid : Option Text} :
    c.decrypt aead turn token = .error (.kmsUnavailable kid) →
      ¬ c.provider.Answers turn e.wrapped := by
  intro herr hanswers
  rw [EnvelopeCipher.decrypt, h] at herr
  change (c.provider.unwrapDataKey aead turn e.wrapped e.keyId >>= _) = _ at herr
  cases hunwrap : c.provider.unwrapDataKey aead turn e.wrapped e.keyId with
  | ok dek =>
    rw [hunwrap] at herr
    change (match aead.decrypt dek e.nonce e.ciphertext c.aad with
      | .error _ => _ | .ok b => _) = _ at herr
    split at herr
    · cases herr
    · split at herr <;> cases herr
  | error err =>
    rw [hunwrap] at herr
    obtain rfl := Except.error.inj herr
    cases hprovider : c.provider with
    | masterKeys kp =>
      rw [hprovider] at hunwrap
      obtain ⟨e', -, h⟩ := raised_eq_error.mp hunwrap
      cases h
    | awsKms kmsKeyId =>
      rw [hprovider] at hunwrap hanswers
      obtain ⟨dek, hdek⟩ := Option.isSome_iff_exists.mp hanswers
      unfold KeyProvider.unwrapDataKey at hunwrap
      simp [hdek] at hunwrap

theorem decrypt_of_not_answers (h : parse token = .ok e)
    (hanswers : ¬ c.provider.Answers turn e.wrapped) :
    c.decrypt aead turn token = .error (.kmsUnavailable e.keyId) := by
  obtain ⟨provider, aad⟩ := c
  cases provider with
  | masterKeys kp => exact absurd trivial hanswers
  | awsKms kmsKeyId =>
    have hnone : turn.kmsDecrypt e.wrapped = none := by
      cases hdek : turn.kmsDecrypt e.wrapped with
      | none => rfl
      | some dek => exact absurd (congrArg Option.isSome hdek) hanswers
    rw [EnvelopeCipher.decrypt, h]
    show (KeyProvider.unwrapDataKey aead turn e.wrapped e.keyId (.awsKms kmsKeyId) >>= _) = _
    unfold KeyProvider.unwrapDataKey
    rw [hnone]
    rfl

variable {row : SecretRow}

/-- The row holds a token that the cipher does not read. -/
def unread (aead : Aead) (c : EnvelopeCipher) (turn : Turn) (row : SecretRow) : Bool :=
  match row.token with
  | some (t :: ts) =>
    match c.decrypt aead turn (t :: ts) with
    | .ok _ => false
    | .error _ => true
  | _ => false

def Mark.isUnreadable : Mark → Bool
  | .unreadable _ => true
  | _ => false

/-- What becomes of a row where the sweep does its work: a secret that can be read is under the
current key afterwards, and every other row is as it was. -/
inductive Moved (aead : Aead) (c : EnvelopeCipher) (turn : Turn) (row : SecretRow) :
    SecretRow → Prop
  | empty (h : row.token = none ∨ row.token = some []) : Moved aead c turn row row
  | unread (h : unread aead c turn row = true) : Moved aead c turn row row
  | moved {token token' plaintext : Text} (htoken : row.token = some token)
    (hdec : c.decrypt aead turn token = .ok plaintext)
    (hcurrent : c.needsRewrap token' = .ok false)
    (hsame : token' = token ∨ c.encrypt aead turn plaintext = .ok token') :
    Moved aead c turn row { row with token := some token' }

/-- The token of a row parses; if it names the current key, it can be read, and if not, KMS
answers what it is asked. -/
def Sweepable (aead : Aead) (c : EnvelopeCipher) (turn : Turn) (row : SecretRow) : Prop :=
  ∀ token, row.token = some token → token ≠ [] →
    ∃ e, parse token = .ok e ∧
      (e.keyId = some c.provider.currentKeyId →
        ∃ plaintext, c.decrypt aead turn token = .ok plaintext) ∧
      (e.keyId ≠ some c.provider.currentKeyId →
        c.provider.Answers turn e.wrapped ∧
          ((∃ plaintext, c.decrypt aead turn token = .ok plaintext) → c.provider.Supplies turn))

section Token

variable {t : Char} {ts : Text} (htoken : row.token = some (t :: ts))

include htoken

theorem rewrapRow_of_token :
    c.rewrapRow aead turn row =
      c.needsRewrap (t :: ts) >>= fun needed =>
        if needed then
          match c.rewrap aead turn (t :: ts) with
          | .ok token' => return (.rewrapped, { row with token := some token' })
          | .error (.cipher (.unknownKey missingKeyId)) => return (.unreadable missingKeyId, row)
          | .error (.kmsUnavailable kid) => throw (.kmsUnavailable kid)
          | .error _ =>
            raised (tokenKeyId (t :: ts)) >>= fun kid => return (.unreadable kid, row)
        else return (.current, row) := by
  unfold EnvelopeCipher.rewrapRow
  rw [htoken]

theorem unread_of_token :
    unread aead c turn row = true ↔ ∃ err, c.decrypt aead turn (t :: ts) = .error err := by
  unfold unread
  rw [htoken]
  dsimp only
  cases c.decrypt aead turn (t :: ts) with
  | ok plaintext => exact iff_of_false Bool.false_ne_true fun ⟨_, h⟩ => nomatch h
  | error err => exact iff_of_true rfl ⟨err, rfl⟩

theorem unread_of_decrypt {plaintext : Text}
    (hdec : c.decrypt aead turn (t :: ts) = .ok plaintext) : unread aead c turn row = false := by
  refine Bool.eq_false_iff.mpr fun hunread => ?_
  obtain ⟨err, herr⟩ := (unread_of_token htoken).mp hunread
  rw [hdec] at herr
  cases herr

theorem rewrapRow_of_not_parses {err : CipherError} (hparse : parse (t :: ts) = .error err) :
    c.rewrapRow aead turn row = .error (.cipher err) := by
  rw [rewrapRow_of_token htoken, EnvelopeCipher.needsRewrap, hparse]
  rfl

variable (hparse : parse (t :: ts) = .ok e)

include hparse

theorem rewrapRow_of_current (hkid : e.keyId = some c.provider.currentKeyId) :
    c.rewrapRow aead turn row = .ok (.current, row) := by
  rw [rewrapRow_of_token htoken, needsRewrap_of_parse hparse, hkid, decide_eq_false (by simp)]
  rfl

variable (hkid : e.keyId ≠ some c.provider.currentKeyId)

include hkid

theorem rewrapRow_of_stale :
    c.rewrapRow aead turn row =
      match c.rewrap aead turn (t :: ts) with
      | .ok token' => .ok (.rewrapped, { row with token := some token' })
      | .error (.cipher (.unknownKey missingKeyId)) => .ok (.unreadable missingKeyId, row)
      | .error (.kmsUnavailable kid) => .error (.kmsUnavailable kid)
      | .error _ => .ok (.unreadable e.keyId, row) := by
  rw [rewrapRow_of_token htoken, needsRewrap_of_parse hparse, decide_eq_true hkid, tokenKeyId,
    hparse]
  rfl

theorem rewrapRow_of_readable (hdec : c.decrypt aead turn (t :: ts) = .ok plaintext)
    (henc : c.encrypt aead turn plaintext = .ok token) :
    c.rewrapRow aead turn row = .ok (.rewrapped, { row with token := some token }) := by
  have hrewrap : c.rewrap aead turn (t :: ts) = .ok token :=
    bind_eq_ok.mpr ⟨plaintext, hdec, henc⟩
  rw [rewrapRow_of_stale htoken hparse hkid, hrewrap]

theorem rewrapRow_of_not_supplies (hdec : c.decrypt aead turn (t :: ts) = .ok plaintext)
    (h : ¬ c.provider.Supplies turn) :
    c.rewrapRow aead turn row = .ok (.unreadable e.keyId, row) := by
  have hrewrap : c.rewrap aead turn (t :: ts) = .error .kmsClient := by
    rw [EnvelopeCipher.rewrap, hdec]
    exact encrypt_of_not_supplies h
  rw [rewrapRow_of_stale htoken hparse hkid, hrewrap]

theorem rewrapRow_of_unread {err : Fault} (hdec : c.decrypt aead turn (t :: ts) = .error err)
    (hanswers : c.provider.Answers turn e.wrapped) :
    ∃ kid, c.rewrapRow aead turn row = .ok (.unreadable kid, row) := by
  have hrewrap : c.rewrap aead turn (t :: ts) = .error err := by
    rw [EnvelopeCipher.rewrap, hdec]
    rfl
  rw [rewrapRow_of_stale htoken hparse hkid, hrewrap]
  cases err with
  | kmsUnavailable kid => exact absurd hanswers (decrypt_kmsUnavailable hparse hdec)
  | kmsClient => exact ⟨_, rfl⟩
  | cipher err =>
    cases err with
    | unknownKey missingKeyId => exact ⟨missingKeyId, rfl⟩
    | _ => exact ⟨_, rfl⟩

theorem rewrapRow_of_not_answers (h : ¬ c.provider.Answers turn e.wrapped) :
    c.rewrapRow aead turn row = .error (.kmsUnavailable e.keyId) := by
  have hrewrap : c.rewrap aead turn (t :: ts) = .error (.kmsUnavailable e.keyId) := by
    rw [EnvelopeCipher.rewrap, decrypt_of_not_answers hparse h]
    rfl
  rw [rewrapRow_of_stale htoken hparse hkid, hrewrap]

end Token

theorem rewrapRow_of_empty (h : row.token = none ∨ row.token = some []) :
    c.rewrapRow aead turn row = .ok (.skipped, row) := by
  unfold EnvelopeCipher.rewrapRow
  rcases h with h | h
  · rw [h]
    rfl
  · rw [h]
    rfl

theorem unread_of_empty (h : row.token = none ∨ row.token = some []) :
    unread aead c turn row = false := by
  unfold unread
  rcases h with h | h
  · rw [h]
  · rw [h]

theorem empty_or_token (row : SecretRow) :
    (row.token = none ∨ row.token = some []) ∨ ∃ t ts, row.token = some (t :: ts) := by
  cases h : row.token with
  | none => exact .inl (.inl rfl)
  | some token =>
    cases token with
    | nil => exact .inl (.inr rfl)
    | cons t ts => exact .inr ⟨t, ts, rfl⟩

/-- The turn of a row does its work: nothing is raised, a readable secret is moved, and exactly an
unreadable one is reported. -/
def RowIsolated (aead : Aead) (c : EnvelopeCipher) (turn : Turn) (row : SecretRow) : Prop :=
  ∃ mark row', c.rewrapRow aead turn row = .ok (mark, row') ∧ Moved aead c turn row row' ∧
    mark.isUnreadable = unread aead c turn row

theorem rowIsolated_of_sweepable (hs : aead.Sound) (hg : aead.Genuine)
    (h : Sweepable aead c turn row) : RowIsolated aead c turn row := by
  rcases empty_or_token row with hempty | ⟨t, ts, htoken⟩
  · exact ⟨_, _, rewrapRow_of_empty hempty, .empty hempty, (unread_of_empty hempty).symm⟩
  obtain ⟨e, hparse, hcurrent, hstale⟩ := h _ htoken (List.cons_ne_nil t ts)
  by_cases hkid : e.keyId = some c.provider.currentKeyId
  · obtain ⟨plaintext, hdec⟩ := hcurrent hkid
    -- nothing to do: the row is counted, and it can be read
    have hneeds : c.needsRewrap (t :: ts) = .ok false := by
      rw [needsRewrap_of_parse hparse, hkid, decide_eq_false (by simp)]
    have hread : unread aead c turn row = false := unread_of_decrypt htoken hdec
    have hmoved : Moved aead c turn row { row with token := some (t :: ts) } :=
      .moved htoken hdec hneeds (.inl rfl)
    rw [← htoken] at hmoved
    exact ⟨_, _, rewrapRow_of_current htoken hparse hkid, hmoved, hread.symm⟩
  · obtain ⟨hanswers, hsupplies⟩ := hstale hkid
    cases hdec : c.decrypt aead turn (t :: ts) with
    | ok plaintext =>
      obtain ⟨token', henc⟩ := encrypt_of_supplies hs (hsupplies ⟨plaintext, hdec⟩)
        (bounded_of_decrypt hs hg hdec)
      have hread : unread aead c turn row = false := unread_of_decrypt htoken hdec
      exact ⟨_, _, rewrapRow_of_readable htoken hparse hkid hdec henc,
        .moved htoken hdec (needsRewrap_of_encrypt henc) (.inr henc), hread.symm⟩
    | error err =>
      obtain ⟨kid, hrow⟩ := rewrapRow_of_unread htoken hparse hkid hdec hanswers
      have hunread : unread aead c turn row = true := (unread_of_token htoken).mpr ⟨err, hdec⟩
      exact ⟨_, _, hrow, .unread hunread, hunread.symm⟩

theorem not_moved_of_stale {t : Char} {ts : Text} (htoken : row.token = some (t :: ts))
    (hparse : parse (t :: ts) = .ok e) (hkid : e.keyId ≠ some c.provider.currentKeyId)
    (hdec : c.decrypt aead turn (t :: ts) = .ok plaintext) : ¬ Moved aead c turn row row := by
  intro h
  have hkept : ∀ row', Moved aead c turn row row' → row'.token = some (t :: ts) → False := by
    intro row' hmoved hsame
    cases hmoved with
    | empty h =>
      rw [htoken] at h
      rcases h with h | h
      · cases h
      · cases h
    | unread h =>
      obtain ⟨err, herr⟩ := (unread_of_token htoken).mp h
      rw [hdec] at herr
      cases herr
    | moved htoken' hdec' hcurrent hsame' =>
      obtain rfl := Option.some.inj hsame
      rw [needsRewrap_of_parse hparse, decide_eq_true hkid] at hcurrent
      cases hcurrent
  exact hkept row h htoken

theorem sweepable_of_rowIsolated (h : RowIsolated aead c turn row) :
    Sweepable aead c turn row := by
  obtain ⟨mark, row', hrow, hmoved, hmark⟩ := h
  intro token htoken hne
  obtain ⟨t, ts, rfl⟩ := List.exists_cons_of_ne_nil hne
  cases hparse : parse (t :: ts) with
  | error err =>
    rw [rewrapRow_of_not_parses htoken hparse] at hrow
    cases hrow
  | ok e =>
    refine ⟨e, rfl, fun hkid => ?_, fun hkid => ⟨?_, ?_⟩⟩
    · -- the token is passed over, so it must not be an unreadable one
      rw [rewrapRow_of_current htoken hparse hkid] at hrow
      cases hrow
      cases hdec : c.decrypt aead turn (t :: ts) with
      | ok plaintext => exact ⟨plaintext, rfl⟩
      | error err =>
        rw [(unread_of_token htoken).mpr ⟨err, hdec⟩] at hmark
        cases hmark
    · by_contra hanswers
      rw [rewrapRow_of_not_answers htoken hparse hkid hanswers] at hrow
      cases hrow
    · rintro ⟨plaintext, hdec⟩
      by_contra hsupplies
      rw [rewrapRow_of_not_supplies htoken hparse hkid hdec hsupplies] at hrow
      cases hrow
      exact not_moved_of_stale htoken hparse hkid hdec hmoved

/-- With configured master keys, a token that parses and names another key can be swept, whether it
can be read or not. -/
theorem sweepable_of_named {kp : LocalKeyProvider} {aad : Bytes} {masterKey : Text}
    (htoken : row.token = some token) (hparse : parse token = .ok e)
    (hkid : e.keyId = some (keyId masterKey)) (hne : keyId masterKey ≠ keyId kp.current) :
    Sweepable aead ⟨.masterKeys kp, aad⟩ turn row := by
  intro token' htoken' _
  obtain rfl := Option.some.inj (htoken.symm.trans htoken')
  refine ⟨e, hparse, fun h => absurd ?_ hne, fun _ => ⟨trivial, fun _ => trivial⟩⟩
  exact Option.some.inj (hkid.symm.trans h)

theorem rowIsolated_iff (hs : aead.Sound) (hg : aead.Genuine) :
    RowIsolated aead c turn row ↔ Sweepable aead c turn row :=
  ⟨sweepable_of_rowIsolated, rowIsolated_of_sweepable hs hg⟩

/-- What the turn of a row says of it in the report. -/
def marked (aead : Aead) (c : EnvelopeCipher) (turn : Turn) (row : SecretRow) : Bool :=
  match c.rewrapRow aead turn row with
  | .ok (mark, _) => mark.isUnreadable
  | .error _ => false

theorem marked_of_ok {mark : Mark} {row' : SecretRow}
    (h : c.rewrapRow aead turn row = .ok (mark, row')) :
    marked aead c turn row = mark.isUnreadable := by
  unfold marked
  rw [h]

theorem unread_of_marked (hs : aead.Sound) (hg : aead.Genuine) {mark : Mark} {row' : SecretRow}
    (hrow : c.rewrapRow aead turn row = .ok (mark, row')) (hmoved : Moved aead c turn row row')
    (hmark : mark.isUnreadable = true) : unread aead c turn row = true := by
  rcases empty_or_token row with hempty | ⟨t, ts, htoken⟩
  · rw [rewrapRow_of_empty hempty] at hrow
    cases hrow
    cases hmark
  refine (unread_of_token htoken).mpr ?_
  cases hdec : c.decrypt aead turn (t :: ts) with
  | error err => exact ⟨err, rfl⟩
  | ok plaintext =>
    obtain ⟨e, hparse, -⟩ := bind_eq_ok.mp hdec
    have hparse := raised_eq_ok.mp hparse
    by_cases hkid : e.keyId = some c.provider.currentKeyId
    · rw [rewrapRow_of_current htoken hparse hkid] at hrow
      cases hrow
      cases hmark
    by_cases hsupplies : c.provider.Supplies turn
    · obtain ⟨token', henc⟩ := encrypt_of_supplies hs hsupplies (bounded_of_decrypt hs hg hdec)
      rw [rewrapRow_of_readable htoken hparse hkid hdec henc] at hrow
      cases hrow
      cases hmark
    · rw [rewrapRow_of_not_supplies htoken hparse hkid hdec hsupplies] at hrow
      cases hrow
      exact absurd hmoved (not_moved_of_stale htoken hparse hkid hdec)

end Rows

/-! ## The sweep -/

section Columns

variable {aead} {c : EnvelopeCipher}

def RewrapReport.rows (report : RewrapReport) : List (Text × Nat) :=
  report.unreadable.map fun u => (u.table, u.row)

theorem rows_mark (report : RewrapReport) (label : Text) (row : Nat) (mark : Mark) :
    (report.mark label row mark).rows =
      report.rows ++ if mark.isUnreadable then [(label, row)] else [] := by
  cases mark with
  | unreadable kid => exact List.map_append
  | _ => exact (List.append_nil _).symm

theorem succeeds_rewrapRows (label : Text) (turns : Nat → Turn) (report : RewrapReport)
    (rows : List SecretRow) :
    Succeeds (c.rewrapRows aead label turns report rows) ↔
      ∀ row ∈ rows, Succeeds (c.rewrapRow aead (turns row.id) row) := by
  unfold EnvelopeCipher.rewrapRows
  refine succeeds_foldlM (P := fun row => Succeeds (c.rewrapRow aead (turns row.id) row)) ?_ _
  rintro row - ⟨report, done⟩
  exact succeeds_bind_of fun _ _ => succeeds_pure _

theorem rows_of_rewrapRows {label : Text} {turns : Nat → Turn} {report report' : RewrapReport}
    {rows rows' : List SecretRow}
    (h : c.rewrapRows aead label turns report rows = .ok (report', rows')) :
    List.Forall₂ (fun row row' => ∃ mark, c.rewrapRow aead (turns row.id) row = .ok (mark, row'))
        rows rows' ∧
      report'.rows = report.rows ++
        (rows.filter fun row => marked aead c (turns row.id) row).map fun row =>
          (label, row.id) := by
  have hrun := foldlM_invariant
    (I := fun seen (state : RewrapReport × List SecretRow) =>
      List.Forall₂ (fun row row' => ∃ mark, c.rewrapRow aead (turns row.id) row = .ok (mark, row'))
          seen state.2 ∧
        state.1.rows = report.rows ++
          (seen.filter fun row => marked aead c (turns row.id) row).map
            fun row => (label, row.id))
    ?_ ⟨.nil, (List.append_nil _).symm⟩ h
  · exact hrun
  rintro seen row ⟨report, done⟩ state ⟨hdone, hreport⟩ hstep
  obtain ⟨⟨mark, row'⟩, hrow, hstep⟩ := bind_eq_ok.mp hstep
  obtain rfl := Except.ok.inj hstep
  refine ⟨List.rel_append hdone (.cons ⟨mark, hrow⟩ .nil), ?_⟩
  dsimp only at hreport ⊢
  rw [rows_mark, hreport, List.append_assoc, List.filter_append, List.map_append,
    ← marked_of_ok hrow]
  refine congrArg (_ ++ ·) (congrArg (_ ++ ·) ?_)
  cases hmark : marked aead c (turns row.id) row with
  | true => simp [hmark]
  | false => simp [hmark]

variable {settings : ProviderSettings} {provider : KeyProvider}

theorem buildCipher_of_provider (hp : settings.provider = .ok provider) (aad : Bytes) :
    settings.buildCipher aad = .ok ⟨provider, aad⟩ := by
  rw [ProviderSettings.buildCipher, hp]
  rfl

/-- The rows of a column that meet a condition, as the report names them. -/
def rowsWhere (p : Column → SecretRow → Bool) (vault : Vault) (spec : Column) :
    List (Text × Nat) :=
  ((vault spec).filter (p spec)).map fun row => (spec.label, row.id)

theorem rowsWhere_congr {p : Column → SecretRow → Bool} {vault vault' : Vault}
    {specs : List Column} (h : ∀ spec ∈ specs, vault' spec = vault spec) :
    specs.flatMap (rowsWhere p vault') = specs.flatMap (rowsWhere p vault) :=
  List.flatMap_congr fun spec hspec => by rw [rowsWhere, rowsWhere, h spec hspec]

theorem rewrapColumns_cons (hp : settings.provider = .ok provider) (turns : Column → Nat → Turn)
    (spec : Column) (specs : List Column) (report : RewrapReport) (vault : Vault) :
    settings.rewrapColumns aead turns (spec :: specs) (report, vault) =
      (EnvelopeCipher.rewrapRows aead ⟨provider, spec.aad⟩ spec.label (turns spec) report
        (vault spec)) >>= fun out =>
          settings.rewrapColumns aead turns specs (out.1, Function.update vault spec out.2) := by
  unfold ProviderSettings.rewrapColumns
  rw [List.foldlM_cons]
  dsimp only
  rw [buildCipher_of_provider hp]
  show ((EnvelopeCipher.rewrapRows aead ⟨provider, spec.aad⟩ spec.label (turns spec) report
    (vault spec) >>= fun out => pure (out.1, Function.update vault spec out.2)) >>= _) = _
  rw [bind_assoc]
  rfl

theorem succeeds_rewrapColumns (hp : settings.provider = .ok provider)
    {turns : Column → Nat → Turn} {specs : List Column} (hspecs : specs.Nodup)
    {report : RewrapReport} {vault : Vault}
    (h : ∀ spec ∈ specs, ∀ row ∈ vault spec,
      Succeeds (EnvelopeCipher.rewrapRow aead ⟨provider, spec.aad⟩ (turns spec row.id) row)) :
    Succeeds (settings.rewrapColumns aead turns specs (report, vault)) := by
  induction specs generalizing report vault with
  | nil => exact succeeds_ok _
  | cons spec specs ih =>
    obtain ⟨hhead, hspecs⟩ := List.nodup_cons.mp hspecs
    rw [rewrapColumns_cons hp]
    obtain ⟨out, hout⟩ :=
      (succeeds_rewrapRows spec.label (turns spec) report (vault spec)).mpr
        (h spec List.mem_cons_self)
    refine succeeds_bind.mpr ⟨out, hout, ih hspecs fun other hother row hrow => ?_⟩
    have hne : other ≠ spec := fun heq => hhead (heq ▸ hother)
    rw [Function.update_of_ne hne] at hrow
    exact h other (List.mem_cons_of_mem _ hother) row hrow

/-- What a sweep that raises nothing has done to each column, and what it reports. -/
theorem rows_of_rewrapColumns (hp : settings.provider = .ok provider)
    {turns : Column → Nat → Turn} {specs : List Column} (hspecs : specs.Nodup)
    {report report' : RewrapReport} {vault vault' : Vault}
    (h : settings.rewrapColumns aead turns specs (report, vault) = .ok (report', vault')) :
    (∀ spec, (spec ∈ specs → List.Forall₂ (fun row row' => ∃ mark,
        EnvelopeCipher.rewrapRow aead ⟨provider, spec.aad⟩ (turns spec row.id) row =
          .ok (mark, row')) (vault spec) (vault' spec)) ∧
      (spec ∉ specs → vault' spec = vault spec)) ∧
    report'.rows = report.rows ++ specs.flatMap (rowsWhere (fun spec row =>
      marked aead ⟨provider, spec.aad⟩ (turns spec row.id) row) vault) := by
  induction specs generalizing report vault with
  | nil =>
    cases h
    exact ⟨fun spec => ⟨fun hmem => (by cases hmem), fun _ => rfl⟩, (List.append_nil _).symm⟩
  | cons head specs ih =>
    obtain ⟨hhead, hspecs⟩ := List.nodup_cons.mp hspecs
    rw [rewrapColumns_cons hp] at h
    obtain ⟨⟨report₁, rows₁⟩, hrows, h⟩ := bind_eq_ok.mp h
    obtain ⟨hdone, hreport₁⟩ := rows_of_rewrapRows hrows
    obtain ⟨hrest, hreport⟩ := ih hspecs h
    refine ⟨fun spec => ?_, ?_⟩
    · -- a column is swept once, so what its own turn left is what is there at the end
      by_cases hspec : spec = head
      · subst hspec
        have hkept := (hrest spec).2 hhead
        rw [Function.update_self] at hkept
        exact ⟨fun _ => hkept ▸ hdone, fun hnot => absurd List.mem_cons_self hnot⟩
      · obtain ⟨hin, hout⟩ := hrest spec
        rw [Function.update_of_ne hspec] at hin hout
        exact ⟨fun hmem => hin ((List.mem_cons.mp hmem).resolve_left hspec),
          fun hnot => hout fun hmem => hnot (List.mem_cons_of_mem _ hmem)⟩
    · rw [hreport, hreport₁, List.append_assoc, List.flatMap_cons]
      refine congrArg (report.rows ++ ·) (congrArg₂ (· ++ ·) rfl ?_)
      refine rowsWhere_congr fun spec hspec => Function.update_of_ne ?_ _ _
      exact fun heq => hhead (heq ▸ hspec)

/-- What a sweep that isolates its rows does: it raises nothing, it reports exactly the rows that
it cannot read, and it moves the others. -/
def Isolated (aead : Aead) (settings : ProviderSettings) (provider : KeyProvider)
    (turns : Column → Nat → Turn) (vault : Vault) : Prop :=
  ∃ report vault', settings.rewrapAll aead turns vault = .ok (report, vault') ∧
    report.rows = encryptedColumns.flatMap (rowsWhere (fun spec row =>
      unread aead ⟨provider, spec.aad⟩ (turns spec row.id) row) vault) ∧
    ∀ spec, List.Forall₂ (fun row row' =>
      Moved aead ⟨provider, spec.aad⟩ (turns spec row.id) row row') (vault spec) (vault' spec)

/-- Of two conditions on the rows, one of which implies the other, the same rows are named exactly
if they agree. -/
theorem rowsWhere_eq {p q : Column → SecretRow → Bool} {vault : Vault}
    (hle : ∀ spec, ∀ row ∈ vault spec, p spec row = true → q spec row = true)
    (h : encryptedColumns.flatMap (rowsWhere p vault) =
      encryptedColumns.flatMap (rowsWhere q vault)) (spec : Column) :
    ∀ row ∈ vault spec, p spec row = q spec row := by
  have hlength (r : Column → SecretRow → Bool) (spec : Column) :
      (rowsWhere r vault spec).length = (vault spec).countP (r spec) := by
    rw [rowsWhere, List.length_map, List.countP_eq_length_filter]
  have hcount (spec : Column) : (vault spec).countP (p spec) ≤ (vault spec).countP (q spec) :=
    List.countP_mono_left fun row hrow hp => hle spec row hrow hp
  have hsum := congrArg List.length h
  simp only [encryptedColumns, List.flatMap_cons, List.flatMap_nil, List.length_append,
    List.length_nil, hlength] at hsum
  have hproviders := hcount .aiProviderConfigs
  have hconnectors := hcount .connectorConfigs
  have hmfa := hcount .userMfaCredentials
  have heq : (vault spec).countP (p spec) = (vault spec).countP (q spec) := by
    cases spec <;> omega
  have hboth : ((vault spec).countP fun row => p spec row && q spec row) =
      (vault spec).countP (q spec) := by
    rw [← heq]
    refine List.countP_congr fun row hrow => ?_
    rw [Bool.and_eq_true]
    exact ⟨And.left, fun hp => ⟨hp, hle spec row hrow hp⟩⟩
  have hge := countP_and_eq_iff.mp hboth
  intro row hrow
  exact Bool.eq_iff_iff.mpr ⟨hle spec row hrow, hge row hrow⟩

/-- **A sweep isolates its rows** exactly if each of them can be swept. -/
theorem rewrapAll_isolated_iff (hs : aead.Sound) (hg : aead.Genuine)
    (hp : settings.provider = .ok provider) (turns : Column → Nat → Turn) (vault : Vault) :
    Isolated aead settings provider turns vault ↔
      ∀ spec, ∀ row ∈ vault spec, Sweepable aead ⟨provider, spec.aad⟩ (turns spec row.id) row := by
  simp only [← rowIsolated_iff hs hg]
  constructor
  · rintro ⟨report, vault', hrun, hreport, hmoved⟩
    obtain ⟨hcols, hrows⟩ := rows_of_rewrapColumns hp (by decide) hrun
    have hdone := fun spec => (hcols spec).1 (mem_encryptedColumns spec)
    have hturn (spec : Column) (row : SecretRow) (hrow : row ∈ vault spec) :
        ∃ mark row', EnvelopeCipher.rewrapRow aead ⟨provider, spec.aad⟩ (turns spec row.id) row =
          .ok (mark, row') ∧ Moved aead ⟨provider, spec.aad⟩ (turns spec row.id) row row' := by
      obtain ⟨i, hi, rfl⟩ := List.mem_iff_getElem.mp hrow
      obtain ⟨mark, hmark⟩ := List.Forall₂.get (hdone spec) hi
        ((hdone spec).length_eq ▸ hi)
      exact ⟨mark, _, hmark, List.Forall₂.get (hmoved spec) hi ((hmoved spec).length_eq ▸ hi)⟩
    -- every row that is reported cannot be read, and in all as many are reported
    have hagree := rowsWhere_eq (fun spec row hrow hmarked => ?_)
      (hrows.symm.trans hreport)
    · intro spec row hrow
      obtain ⟨mark, row', hok, hrest⟩ := hturn spec row hrow
      exact ⟨mark, row', hok, hrest, (marked_of_ok hok).symm.trans (hagree spec row hrow)⟩
    · obtain ⟨mark, row', hok, hrest⟩ := hturn spec row hrow
      exact unread_of_marked hs hg hok hrest ((marked_of_ok hok).symm.trans hmarked)
  · intro h
    obtain ⟨⟨report, vault'⟩, hrun⟩ :
        Succeeds (settings.rewrapAll aead turns vault) := by
      refine succeeds_rewrapColumns hp (by decide) fun spec _ row hrow => ?_
      obtain ⟨mark, row', hok, -⟩ := h spec row hrow
      exact ⟨_, hok⟩
    obtain ⟨hcols, hrows⟩ := rows_of_rewrapColumns hp (by decide) hrun
    refine ⟨report, vault', hrun, hrows.trans ?_, fun spec => ?_⟩
    · refine List.flatMap_congr fun spec _ => congrArg (List.map _) ?_
      refine List.filter_congr fun row hrow => ?_
      obtain ⟨mark, row', hok, -, hmark⟩ := h spec row hrow
      exact (marked_of_ok hok).trans hmark
    · refine List.forall₂_iff_get.mpr ⟨?_, fun i hi hi' => ?_⟩
      · exact ((hcols spec).1 (mem_encryptedColumns spec)).length_eq
      · obtain ⟨mark, hmark⟩ := ((hcols spec).1 (mem_encryptedColumns spec)).get hi hi'
        obtain ⟨mark', row', hok, hmoved, -⟩ := h spec _ (List.get_mem _ ⟨i, hi⟩)
        rw [hok] at hmark
        cases hmark
        exact hmoved

/-- **Where a bad secret stays a secret's own problem.** A sweep isolates its rows exactly if every
token parses and every one that names the current key can be read, as far as KMS answers; and
`decrypt` raises credential errors only exactly for a token that parses and whose named key opens
its data key. -/
theorem secrets_isolated_iff (hs : aead.Sound) (hg : aead.Genuine)
    (hp : settings.provider = .ok provider) :
    (∀ (turns : Column → Nat → Turn) (vault : Vault),
      Isolated aead settings provider turns vault ↔
        ∀ spec, ∀ row ∈ vault spec,
          Sweepable aead ⟨provider, spec.aad⟩ (turns spec row.id) row) ∧
      ∀ (aad : Bytes) (turn : Turn) (token : Text),
        (∀ err, EnvelopeCipher.decrypt aead ⟨provider, aad⟩ turn token = .error err →
            err.documented = true) ↔
          ∃ e, parse token = .ok e ∧ NamedKeyOpens aead provider e :=
  ⟨rewrapAll_isolated_iff hs hg hp, fun aad => decrypt_documented_iff ⟨provider, aad⟩⟩

end Columns

/-! ## A cipher that checks what it opens -/

/-- `labelled`, which opens nothing that it would not have made. -/
def strict : Aead where
  encrypt := labelled.encrypt
  decrypt key nonce ct aad :=
    let data := ct.drop (key ++ (nonce ++ aad)).length
    if labelled.encrypt key nonce data aad = .ok ct then .ok data else .error .invalidTag

theorem strict_decrypt {key nonce ct aad data : Bytes} :
    strict.decrypt key nonce ct aad = .ok data ↔ strict.encrypt key nonce data aad = .ok ct := by
  constructor
  · intro h
    rcases ite_eq_iff.mp h with ⟨hmade, h⟩ | ⟨-, h⟩
    · exact Except.ok.inj h ▸ hmade
    · cases h
  · intro h
    obtain ⟨-, rfl⟩ := labelled_encrypt h
    have hct : key ++ (nonce ++ aad ++ data) = key ++ (nonce ++ aad) ++ data := by
      simp only [List.append_assoc]
    have hdata : (key ++ (nonce ++ aad ++ data)).drop (key ++ (nonce ++ aad)).length = data := by
      rw [hct, List.drop_left]
    refine (if_pos ?_).trans (congrArg Except.ok hdata)
    rw [hdata]
    exact h

theorem strict_genuine : strict.Genuine := ⟨strict_decrypt.mp⟩

theorem strict_sound : strict.Sound where
  opens h := strict_decrypt.mpr h
  rejects {key key' nonce data aad ct} h hne := by
    cases hdec : strict.decrypt key' nonce ct aad with
    | error e => exact ⟨e, rfl⟩
    | ok data' =>
      obtain ⟨⟨hlen, -⟩, hct⟩ := labelled_encrypt h
      obtain ⟨⟨hlen', -⟩, hct'⟩ := labelled_encrypt (strict_decrypt.mp hdec)
      rw [hct] at hct'
      exact absurd (List.append_inj_left hct' (hlen.trans hlen'.symm)).symm hne
  accepts := labelled_sound.accepts
  bounded := labelled_sound.bounded
  fits := labelled_sound.fits

def zeroTurn : Turn := ⟨zeroDraw, none, fun _ => none⟩

def rotatedProvider : ProviderSettings :=
  ⟨"local".toList, rotatedSettings.masterKey, rotatedSettings.previousKeys, none⟩

/-- Two stored secrets, of the first key and of one that is not configured. -/
theorem secrets_isolated_rotated :
    ∃ provider old foreign, rotatedProvider.provider = .ok provider ∧
      Isolated strict rotatedProvider provider (fun _ _ => zeroTurn) fun spec =>
        if spec = .connectorConfigs then [⟨1, some old⟩, ⟨2, some foreign⟩] else [] := by
  obtain ⟨w, hw⟩ : ∃ w, buildCipher firstSettings aadCredential = .ok w := ⟨_, rfl⟩
  obtain ⟨v, hv⟩ : ∃ v, buildCipher ⟨some "another-master-key".toList, []⟩ aadCredential = .ok v :=
    ⟨_, rfl⟩
  obtain ⟨c, hc⟩ : ∃ c, buildCipher rotatedSettings aadCredential = .ok c := ⟨_, rfl⟩
  have hp : rotatedProvider.provider = .ok (.masterKeys c.provider) := by
    obtain ⟨kp, hkp, hcipher⟩ := bind_eq_ok.mp hc
    cases hcipher
    exact congrArg (Except.map KeyProvider.masterKeys) hkp
  have hcurrent : c.provider.current = "fedcba9876543210".toList :=
    (Option.some.inj (buildCipher_eq_ok hc).1).symm
  obtain ⟨old, hold⟩ := @encrypt_isOk strict "secret".toList strict_sound w zeroDraw
    (by decide +kernel)
  obtain ⟨foreign, hforeign⟩ := @encrypt_isOk strict "secret".toList strict_sound v zeroDraw
    (by decide +kernel)
  obtain ⟨e, hparse, hkid, -⟩ := parse_encrypted hold
  obtain ⟨e', hparse', hkid', -⟩ := parse_encrypted hforeign
  have hw : w.provider.current = firstKey := (Option.some.inj (buildCipher_eq_ok hw).1).symm
  have hv : v.provider.current = "another-master-key".toList :=
    (Option.some.inj (buildCipher_eq_ok hv).1).symm
  rw [hw] at hkid
  rw [hv] at hkid'
  refine ⟨_, old, foreign, hp, ((secrets_isolated_iff strict_sound strict_genuine hp).1 _ _).mpr ?_⟩
  intro spec row hrow
  split at hrow
  · rcases List.mem_cons.mp hrow with rfl | hrow
    · exact sweepable_of_named rfl hparse hkid (by rw [hcurrent]; decide +kernel)
    · obtain rfl := List.mem_singleton.mp hrow
      exact sweepable_of_named rfl hparse' hkid' (by rw [hcurrent]; decide +kernel)
  · cases hrow

/-- A token that is no base64 ends the sweep, and `decrypt` raises what its parser does. -/
theorem malformed_token_not_isolated :
    ∃ provider, rotatedProvider.provider = .ok provider ∧
      (¬ Isolated strict rotatedProvider provider (fun _ _ => zeroTurn) fun spec =>
        if spec = .connectorConfigs then [⟨1, some "not-a-token".toList⟩] else []) ∧
      ¬ ∀ err, EnvelopeCipher.decrypt strict ⟨provider, aadCredential⟩ zeroTurn
        "not-a-token".toList = .error err → err.documented = true := by
  have hparse : parse "not-a-token".toList = .error .base64 := by decide +kernel
  obtain ⟨provider, hp⟩ : ∃ provider, rotatedProvider.provider = .ok provider := ⟨_, rfl⟩
  refine ⟨provider, hp, fun h => ?_, fun h => ?_⟩
  · have hrows := (rewrapAll_isolated_iff strict_sound strict_genuine hp _ _).mp h
    obtain ⟨e, he, -⟩ := hrows .connectorConfigs _ List.mem_cons_self _ rfl (by decide)
    rw [hparse] at he
    cases he
  · obtain ⟨e, he, -⟩ := (decrypt_documented_iff _ _ _).mp h
    rw [hparse] at he
    cases he

end Concord.Ai
