import Concord.Ai.Cipher

/-!
# What a token holds

A token written by either release parses back to the parts it was assembled from
(`Written.parse`). A provider that reads with the key it was written under returns
its plaintext (`Written.decrypt`), and no provider returns another one
(`Written.eq_of_decrypt`), as long as a key id stands for one key. What `rewrap`
returns was written under the current key and holds the same plaintext
(`Written.rewrap`).
-/

namespace Concord.Ai

open Concord.Python Concord.Base

def DistinctIds (keys : List Text) : Prop :=
  ∀ a ∈ keys, ∀ b ∈ keys, keyId a = keyId b → a = b

theorem DistinctIds.subset {keys keys' : List Text} (h : DistinctIds keys) (hs : keys' ⊆ keys) :
    DistinctIds keys' :=
  fun a ha b hb => h a (hs ha) b (hs hb)

/-! ## The cache of derived keys -/

/-- What a process has cached after deriving the keys in turn. -/
def cacheAfter (keys : List Text) : KekCache :=
  keys.foldl (fun cache key => (cache.derive key).2) []

theorem mem_derive {cache : KekCache} {key : Text} {entry : Text × Bytes}
    (h : entry ∈ (cache.derive key).2) :
    entry ∈ cache ∨ entry = (keyId key, deriveKek key) := by
  unfold KekCache.derive at h
  split at h
  next => exact .inl h
  next => exact (List.mem_cons.mp h).symm

theorem mem_cacheAfter {keys : List Text} {entry : Text × Bytes}
    (h : entry ∈ cacheAfter keys) : ∃ key ∈ keys, entry = (keyId key, deriveKek key) := by
  have hgen : ∀ cache : KekCache,
      entry ∈ keys.foldl (fun cache key => (cache.derive key).2) cache →
        entry ∈ cache ∨ ∃ key ∈ keys, entry = (keyId key, deriveKek key) := by
    clear h
    induction keys with
    | nil => exact fun cache h => .inl h
    | cons key keys ih =>
      intro cache h
      rcases ih _ h with hcache | ⟨key', hmem, hentry⟩
      · rcases mem_derive hcache with hold | hnew
        · exact .inl hold
        · exact .inr ⟨key, List.mem_cons_self, hnew⟩
      · exact .inr ⟨key', List.mem_cons_of_mem _ hmem, hentry⟩
  rcases hgen [] h with hnil | hkey
  · cases hnil
  · exact hkey

theorem exists_mem_of_lookup {cache : KekCache} {kid : Text} {kek : Bytes}
    (h : cache.lookup kid = some kek) : (kid, kek) ∈ cache := by
  induction cache with
  | nil => cases h
  | cons entry cache ih =>
    rw [List.lookup_cons] at h
    split at h
    next hkid =>
      cases h
      rw [eq_of_beq hkid]
      exact List.mem_cons_self
    next => exact List.mem_cons_of_mem _ (ih h)

/-- **The cache does not show.** Whatever a process has derived before, it gets the
key's own derivation, if no other key of its configuration has the key's id. -/
theorem derive_cacheAfter {keys : List Text} {key : Text} (hid : DistinctIds (key :: keys)) :
    ((cacheAfter keys).derive key).1 = deriveKek key := by
  unfold KekCache.derive
  split
  next kek hlookup =>
    obtain ⟨key', hmem, hentry⟩ := mem_cacheAfter (exists_mem_of_lookup hlookup)
    obtain ⟨hsame, hkek⟩ := Prod.mk.inj hentry
    rw [hkek, hid key List.mem_cons_self key' (List.mem_cons_of_mem _ hmem) hsame]
  next => rfl

/-! ## Providers -/

def Settings.keys (s : Settings) : List Text := s.masterKey.toList ++ s.previousKeys

theorem localKeyProvider_eq_ok {masterKey : Text} {previousKeys : List Text}
    {kp : LocalKeyProvider} (h : localKeyProvider masterKey previousKeys = .ok kp) :
    kp.current = masterKey ∧ kp.all = previousKeys.foldl keepKey [masterKey] := by
  unfold localKeyProvider at h
  split at h
  next => cases h
  next =>
    cases h
    exact ⟨rfl, rfl⟩

theorem buildCipher_eq_ok {settings : Settings} {aad : Bytes} {c : CredentialCipher}
    (h : buildCipher settings aad = .ok c) :
    settings.masterKey = some c.provider.current ∧ c.aad = aad ∧
      c.provider.all = settings.previousKeys.foldl keepKey [c.provider.current] := by
  unfold buildCipher at h
  split at h
  next k ks hkey =>
    obtain ⟨kp, hkp, hc⟩ := bind_eq_ok.mp h
    obtain ⟨hcur, hall⟩ := localKeyProvider_eq_ok hkp
    cases hc
    exact ⟨hkey.trans (congrArg some hcur.symm), rfl, hcur ▸ hall⟩
  next => cases h

theorem current_mem_keys {settings : Settings} {aad : Bytes} {c : CredentialCipher}
    (h : buildCipher settings aad = .ok c) : c.provider.current ∈ settings.keys := by
  rw [Settings.keys, (buildCipher_eq_ok h).1]
  exact List.mem_cons_self

theorem all_subset_keys {settings : Settings} {aad : Bytes} {c : CredentialCipher}
    (h : buildCipher settings aad = .ok c) : c.provider.all ⊆ settings.keys := by
  obtain ⟨hkey, -, hall⟩ := buildCipher_eq_ok h
  intro key hmem
  rw [hall] at hmem
  rw [Settings.keys, hkey]
  rcases mem_foldl_keepKey hmem with hcur | hprev
  · rw [List.mem_singleton.mp hcur]
    exact List.mem_cons_self
  · exact List.mem_cons_of_mem _ hprev

theorem mem_all {settings : Settings} {aad : Bytes} {c : CredentialCipher}
    (h : buildCipher settings aad = .ok c) (hid : DistinctIds settings.keys) {key : Text}
    (hmem : key ∈ settings.keys) (hne : key ≠ []) : key ∈ c.provider.all := by
  obtain ⟨hkey, -, hall⟩ := buildCipher_eq_ok h
  have hkeys : key = c.provider.current ∨ key ∈ settings.previousKeys := by
    rw [Settings.keys, hkey] at hmem
    exact List.mem_cons.mp hmem
  rcases hkeys with rfl | hprev
  · exact c.provider.reads
  · obtain ⟨kept, hkept, hids⟩ := exists_mem_foldl_keepKey [c.provider.current] hprev hne
    rw [← hall] at hkept
    rwa [← hid kept (all_subset_keys h hkept) key hmem hids]

theorem current_ne_nil (kp : LocalKeyProvider) : kp.current ≠ [] := by
  intro h
  have := kp.strong
  simp [h] at this

/-! ## Parsing -/

theorem take_of_append {a r : Bytes} {n : Nat} (h : a.length = n) : (a ++ r).take n = a := by
  subst h
  exact List.take_left

theorem drop_of_append {a r : Bytes} {n : Nat} (h : a.length = n) : (a ++ r).drop n = r := by
  subst h
  exact List.drop_left

theorem split_append {kid : Option Text} {length wrapped nonce ct : Bytes}
    (hlen : toBigEndian wrapped.length = some length) (hnonce : nonce.length = 12) :
    Envelope.split kid (length ++ wrapped ++ nonce ++ ct) = ⟨kid, wrapped, nonce, ct⟩ := by
  obtain ⟨htwo, hval⟩ := toBigEndian_eq_some hlen
  simp only [Envelope.split, List.append_assoc, take_of_append htwo, drop_of_append htwo, hval,
    List.take_left, List.drop_left, take_of_append hnonce, drop_of_append hnonce]

theorem assemble_eq_ok {header wrapped nonce ct : Bytes} {token : Text}
    (h : assemble header wrapped nonce ct = .ok token) :
    ∃ length, toBigEndian wrapped.length = some length ∧
      token = urlsafeB64encode (header ++ length ++ wrapped ++ nonce ++ ct) := by
  unfold assemble at h
  split at h
  next => cases h
  next length hlen =>
    cases h
    exact ⟨length, hlen, rfl⟩

theorem parse_current {kid wrapped nonce ct : Bytes} {token : Text} (hkid : kid.length = 8)
    (hnonce : nonce.length = 12) (h : assemble (2 :: kid) wrapped nonce ct = .ok token) :
    parse token = .ok ⟨some (hex kid), wrapped, nonce, ct⟩ := by
  obtain ⟨length, hlen, rfl⟩ := assemble_eq_ok h
  have hrest : 2 :: kid ++ length ++ wrapped ++ nonce ++ ct =
      2 :: (kid ++ (length ++ wrapped ++ nonce ++ ct)) := by
    simp only [List.cons_append, List.append_assoc]
  rw [parse, if_pos (isAscii_urlsafeB64encode _), urlsafeB64decode_encode, hrest]
  simp only [if_true, take_of_append hkid, drop_of_append hkid, split_append hlen hnonce]

theorem parse_legacy {wrapped nonce ct : Bytes} {token : Text} (hnonce : nonce.length = 12)
    (h : assemble [1] wrapped nonce ct = .ok token) :
    parse token = .ok ⟨none, wrapped, nonce, ct⟩ := by
  obtain ⟨length, hlen, rfl⟩ := assemble_eq_ok h
  have hrest : [1] ++ length ++ wrapped ++ nonce ++ ct =
      1 :: (length ++ wrapped ++ nonce ++ ct) := rfl
  have hversion : ¬ (1 : UInt8) = 2 := by decide
  rw [parse, if_pos (isAscii_urlsafeB64encode _), urlsafeB64decode_encode, hrest]
  simp only [if_neg hversion, if_true, split_append hlen hnonce]

/-! ## Written tokens -/

section Tokens

variable {aead : Aead} {c : CredentialCipher} {plaintext token : Text}

/-- The data key of an envelope is wrapped under `kek`, and its payload is `plaintext`. -/
structure Holds (aead : Aead) (kek aad : Bytes) (plaintext : Text) (e : Envelope)
    (draw : Draw) : Prop where
  wrapped : wrapDataKey aead kek draw = .ok e.wrapped
  nonce : e.nonce = draw.nonce
  payload : encryptPayload aead draw aad plaintext = .ok e.ciphertext

theorem wrapDataKey_eq_ok {kek wrapped : Bytes} {draw : Draw}
    (h : wrapDataKey aead kek draw = .ok wrapped) :
    aead.encrypt kek draw.wrapNonce draw.dek dekContext = .ok (wrapped.drop 12) ∧
      wrapped.take 12 = draw.wrapNonce := by
  unfold wrapDataKey at h
  split at h
  next => cases h
  next blob hblob =>
    cases h
    rw [drop_of_append draw.wrapNonce_length, take_of_append draw.wrapNonce_length]
    exact ⟨hblob, rfl⟩

theorem encryptPayload_eq_ok {draw : Draw} {aad ct : Bytes}
    (h : encryptPayload aead draw aad plaintext = .ok ct) :
    aead.encrypt draw.dek draw.nonce (utf8 plaintext) aad = .ok ct := by
  unfold encryptPayload at h
  split at h
  next => cases h
  next => cases h; assumption

theorem encrypt_eq_ok {draw : Draw} (h : c.encrypt aead draw plaintext = .ok token) :
    ∃ wrapped ct kid, wrapDataKey aead (deriveKek c.provider.current) draw = .ok wrapped ∧
      encryptPayload aead draw c.aad plaintext = .ok ct ∧
      fromHex c.provider.currentKeyId = some kid ∧
      assemble (2 :: kid) wrapped draw.nonce ct = .ok token := by
  obtain ⟨⟨dek, wrapped⟩, hgen, h⟩ := bind_eq_ok.mp h
  obtain ⟨wrapped', hwrap, hpair⟩ := bind_eq_ok.mp hgen
  cases hpair
  obtain ⟨ct, hct, h⟩ := bind_eq_ok.mp h
  split at h
  next => cases h
  next kid hkid => exact ⟨wrapped, ct, kid, hwrap, hct, hkid, h⟩

theorem legacyToken_eq_ok {masterKey : Text} {aad : Bytes} {draw : Draw}
    (h : legacyToken aead masterKey aad draw plaintext = .ok token) :
    ∃ wrapped ct, wrapDataKey aead (legacyKek masterKey) draw = .ok wrapped ∧
      encryptPayload aead draw aad plaintext = .ok ct ∧
      assemble [1] wrapped draw.nonce ct = .ok token := by
  obtain ⟨wrapped, hwrap, h⟩ := bind_eq_ok.mp h
  obtain ⟨ct, hct, h⟩ := bind_eq_ok.mp h
  exact ⟨wrapped, ct, hwrap, hct, h⟩

theorem parse_encrypted {draw : Draw} (h : c.encrypt aead draw plaintext = .ok token) :
    ∃ e, parse token = .ok e ∧ e.keyId = some (keyId c.provider.current) ∧
      Holds aead (deriveKek c.provider.current) c.aad plaintext e draw := by
  obtain ⟨wrapped, ct, kid, hwrap, hct, hkid, htoken⟩ := encrypt_eq_ok h
  obtain ⟨kid', hkid', hlen, hhex⟩ := fromHex_keyId c.provider.current
  have heq : kid' = kid := Option.some.inj (hkid'.symm.trans hkid)
  subst heq
  refine ⟨_, parse_current hlen draw.nonce_length htoken, congrArg some hhex, hwrap, rfl, hct⟩

theorem Written.parse (h : Written aead c plaintext token) :
    ∃ e draw, parse token = .ok e ∧
      ((e.keyId = some (keyId c.provider.current) ∧
          Holds aead (deriveKek c.provider.current) c.aad plaintext e draw) ∨
        (e.keyId = none ∧
          Holds aead (legacyKek c.provider.current) c.aad plaintext e draw)) := by
  cases h with
  | encrypted draw h =>
    obtain ⟨e, hparse, hkid, hholds⟩ := parse_encrypted h
    exact ⟨e, draw, hparse, .inl ⟨hkid, hholds⟩⟩
  | legacy draw h =>
    obtain ⟨wrapped, ct, hwrap, hct, htoken⟩ := legacyToken_eq_ok h
    exact ⟨_, draw, parse_legacy draw.nonce_length htoken, .inr ⟨rfl, hwrap, rfl, hct⟩⟩

/-! ## Reading -/

variable {kek aad : Bytes} {e : Envelope} {draw : Draw}

theorem Holds.unwrap (hs : aead.Sound) (h : Holds aead kek aad plaintext e draw) :
    aead.decrypt kek (e.wrapped.take 12) (e.wrapped.drop 12) dekContext = .ok draw.dek := by
  obtain ⟨hwrap, hnonce⟩ := wrapDataKey_eq_ok h.wrapped
  rw [hnonce]
  exact hs.opens hwrap

theorem Holds.unwrap_eq (hs : aead.Sound) (h : Holds aead kek aad plaintext e draw)
    {kek' dek : Bytes}
    (hdek : aead.decrypt kek' (e.wrapped.take 12) (e.wrapped.drop 12) dekContext = .ok dek) :
    dek = draw.dek := by
  obtain ⟨hwrap, hnonce⟩ := wrapDataKey_eq_ok h.wrapped
  by_cases hkek : kek' = kek
  · subst hkek
    rw [h.unwrap hs] at hdek
    exact (Except.ok.inj hdek).symm
  · rw [hnonce] at hdek
    obtain ⟨err, herr⟩ := hs.rejects hwrap hkek
    rw [herr] at hdek
    cases hdek

theorem Holds.unwrapWithAny (hs : aead.Sound) (h : Holds aead kek aad plaintext e draw)
    {keks : List Bytes} (hmem : kek ∈ keks) :
    unwrapWithAny aead (e.wrapped.take 12) (e.wrapped.drop 12) keks = .ok draw.dek := by
  induction keks with
  | nil => cases hmem
  | cons k keks ih =>
    rw [Ai.unwrapWithAny]
    cases hdec : aead.decrypt k (e.wrapped.take 12) (e.wrapped.drop 12) dekContext with
    | ok dek => rw [h.unwrap_eq hs hdec]
    | error err =>
      rcases List.mem_cons.mp hmem with rfl | hmem
      · rw [h.unwrap hs] at hdec
        cases hdec
      · exact ih hmem

theorem Holds.unwrapWithAny_eq (hs : aead.Sound) (h : Holds aead kek aad plaintext e draw)
    {keks : List Bytes} {dek : Bytes}
    (hdek : Ai.unwrapWithAny aead (e.wrapped.take 12) (e.wrapped.drop 12) keks = .ok dek) :
    dek = draw.dek := by
  induction keks with
  | nil => cases hdek
  | cons k keks ih =>
    rw [Ai.unwrapWithAny] at hdek
    split at hdek
    next dek' hdec =>
      cases hdek
      exact h.unwrap_eq hs hdec
    next => exact ih hdek

theorem Holds.unwrapWithAny_of_notMem (hs : aead.Sound)
    (h : Holds aead kek aad plaintext e draw) {keks : List Bytes} (hnot : kek ∉ keks) :
    Ai.unwrapWithAny aead (e.wrapped.take 12) (e.wrapped.drop 12) keks =
      .error (.unknownKey none) := by
  obtain ⟨hwrap, hnonce⟩ := wrapDataKey_eq_ok h.wrapped
  induction keks with
  | nil => rfl
  | cons k keks ih =>
    have hk : k ≠ kek := fun hk => hnot (hk ▸ List.mem_cons_self)
    obtain ⟨err, herr⟩ := hs.rejects hwrap hk
    rw [Ai.unwrapWithAny, hnonce, herr, ← hnonce]
    exact ih fun hmem => hnot (List.mem_cons_of_mem _ hmem)

theorem Holds.open (hs : aead.Sound) (h : Holds aead kek c.aad plaintext e draw)
    (hparse : parse token = .ok e)
    (hdek : c.provider.unwrapDataKey aead e.wrapped e.keyId = .ok draw.dek) :
    c.decrypt aead token = .ok plaintext := by
  have hopen := hs.opens (encryptPayload_eq_ok h.payload)
  rw [← h.nonce] at hopen
  refine bind_eq_ok.mpr ⟨e, hparse, bind_eq_ok.mpr ⟨draw.dek, hdek, ?_⟩⟩
  rw [hopen]
  simp only [decodeUtf8_utf8]
  rfl

theorem unwrapDataKey_named (kp : LocalKeyProvider) {key : Text} (hkey : key ∈ kp.all)
    {wrapped dek : Bytes} :
    kp.unwrapDataKey aead wrapped (some (keyId key)) = .ok dek ↔
      aead.decrypt (deriveKek key) (wrapped.take 12) (wrapped.drop 12) dekContext = .ok dek := by
  rw [LocalKeyProvider.unwrapDataKey, find_of_nodup kp.distinct hkey]
  dsimp only
  cases aead.decrypt (deriveKek key) (wrapped.take 12) (wrapped.drop 12) dekContext with
  | ok dek' => simp
  | error err => simp

variable {w : CredentialCipher}

/-- **A provider that reads with the key of a token returns its plaintext.** -/
theorem Written.decrypt (hs : aead.Sound) (h : Written aead w plaintext token)
    (haad : c.aad = w.aad) (hkey : w.provider.current ∈ c.provider.all) :
    c.decrypt aead token = .ok plaintext := by
  obtain ⟨e, draw, hparse, ⟨hkid, hholds⟩ | ⟨hkid, hholds⟩⟩ := h.parse
  · rw [← haad] at hholds
    refine hholds.open hs hparse ?_
    rw [hkid, unwrapDataKey_named c.provider hkey]
    exact hholds.unwrap hs
  · rw [← haad] at hholds
    refine hholds.open hs hparse ?_
    rw [hkid]
    refine hholds.unwrapWithAny hs (List.mem_flatMap.mpr ⟨_, hkey, ?_⟩)
    exact List.mem_cons_self

theorem decrypt_legacy_of_notMem (hs : aead.Sound) {masterKey : Text} {aad : Bytes} {draw : Draw}
    (htoken : legacyToken aead masterKey aad draw plaintext = .ok token)
    (hnot : legacyKek masterKey ∉ c.provider.all.flatMap fun key =>
      [legacyKek key, deriveKek key]) :
    c.decrypt aead token = .error (.unknownKey none) := by
  obtain ⟨wrapped, ct, hwrap, hct, htoken⟩ := legacyToken_eq_ok htoken
  have hholds : Holds aead (legacyKek masterKey) aad plaintext
      ⟨none, wrapped, draw.nonce, ct⟩ draw := ⟨hwrap, rfl, hct⟩
  have hdek : c.provider.unwrapDataKey aead wrapped none = .error (.unknownKey none) :=
    hholds.unwrapWithAny_of_notMem hs hnot
  rw [CredentialCipher.decrypt, parse_legacy draw.nonce_length htoken]
  show (c.provider.unwrapDataKey aead wrapped none >>= _) = _
  rw [hdek]
  rfl

theorem Written.unwrap_eq (hs : aead.Sound) (h : Written aead w plaintext token)
    (hid : DistinctIds (w.provider.current :: c.provider.all)) {e : Envelope}
    (hparse : Ai.parse token = .ok e) {dek : Bytes}
    (hdek : c.provider.unwrapDataKey aead e.wrapped e.keyId = .ok dek) :
    ∃ draw, dek = draw.dek ∧ e.nonce = draw.nonce ∧
      encryptPayload aead draw w.aad plaintext = .ok e.ciphertext := by
  obtain ⟨e', draw, hparse', hcases⟩ := h.parse
  have he : e' = e := Except.ok.inj (hparse'.symm.trans hparse)
  subst he
  obtain ⟨hkid, hholds⟩ | ⟨hkid, hholds⟩ := hcases
  · -- the key that is found has the id, and so is the key
    refine ⟨draw, ?_, hholds.nonce, hholds.payload⟩
    rw [hkid] at hdek
    cases hfind : c.provider.all.find? (keyId · = keyId w.provider.current) with
    | none =>
      rw [LocalKeyProvider.unwrapDataKey, hfind] at hdek
      cases hdek
    | some key =>
      have hmem := List.mem_of_find?_eq_some hfind
      have hsame : keyId key = keyId w.provider.current := by
        simpa using List.find?_some hfind
      have hkey : key = w.provider.current :=
        hid key (List.mem_cons_of_mem _ hmem) _ List.mem_cons_self hsame
      subst hkey
      exact hholds.unwrap_eq hs ((unwrapDataKey_named c.provider hmem).mp hdek)
  · -- whatever key opens it, there is one data key
    refine ⟨draw, ?_, hholds.nonce, hholds.payload⟩
    rw [hkid] at hdek
    exact hholds.unwrapWithAny_eq hs hdek

/-- **No provider returns another plaintext.** -/
theorem Written.eq_of_decrypt (hs : aead.Sound) (h : Written aead w plaintext token)
    (haad : c.aad = w.aad) (hid : DistinctIds (w.provider.current :: c.provider.all))
    {plaintext' : Text} (hdec : c.decrypt aead token = .ok plaintext') :
    plaintext' = plaintext := by
  obtain ⟨e, hparse, hdec⟩ := bind_eq_ok.mp hdec
  obtain ⟨dek, hdek, hdec⟩ := bind_eq_ok.mp hdec
  obtain ⟨draw, rfl, hnonce, hpayload⟩ := h.unwrap_eq hs hid hparse hdek
  have hopen := hs.opens (encryptPayload_eq_ok hpayload)
  rw [← hnonce, ← haad] at hopen
  rw [hopen] at hdec
  simp only [decodeUtf8_utf8] at hdec
  exact (Except.ok.inj hdec).symm

/-! ## Writing again -/

theorem rewrap_eq_ok {draw : Draw} {token' : Text} :
    c.rewrap aead draw token = .ok token' ↔
      ∃ plaintext, c.decrypt aead token = .ok plaintext ∧
        c.encrypt aead draw plaintext = .ok token' :=
  bind_eq_ok

theorem wrapDataKey_isOk (hs : aead.Sound) {kek : Bytes} (hkek : kek.length = 32)
    (draw : Draw) :
    ∃ wrapped, wrapDataKey aead kek draw = .ok wrapped ∧ wrapped.length < 65536 := by
  have hdek : draw.dek.length < 2 ^ 31 := by
    rw [draw.dek_length]
    decide
  obtain ⟨blob, hblob⟩ := hs.accepts dekContext hkek draw.wrapNonce_length hdek
  have hfits := hs.fits hblob draw.dek_length
  refine ⟨draw.wrapNonce ++ blob, ?_, ?_⟩
  · rw [wrapDataKey, hblob]
  · rw [List.length_append, draw.wrapNonce_length]
    omega

theorem encryptPayload_isOk (hs : aead.Sound) (draw : Draw) (aad : Bytes)
    (hlen : (utf8 plaintext).length < 2 ^ 31) :
    ∃ ct, encryptPayload aead draw aad plaintext = .ok ct := by
  obtain ⟨ct, hct⟩ := hs.accepts aad draw.dek_length draw.nonce_length hlen
  exact ⟨ct, by rw [encryptPayload, hct]⟩

theorem assemble_isOk {header wrapped nonce ct : Bytes} (h : wrapped.length < 65536) :
    ∃ token, assemble header wrapped nonce ct = .ok token := by
  rw [assemble, toBigEndian, if_pos h]
  exact ⟨_, rfl⟩

theorem encrypt_isOk (hs : aead.Sound) (c : CredentialCipher) (draw : Draw)
    (hlen : (utf8 plaintext).length < 2 ^ 31) :
    ∃ token, c.encrypt aead draw plaintext = .ok token := by
  obtain ⟨wrapped, hwrap, hfits⟩ :=
    wrapDataKey_isOk hs (deriveKek_length c.provider.current) draw
  obtain ⟨ct, hct⟩ := encryptPayload_isOk hs draw c.aad hlen
  obtain ⟨kid, hkid, -, -⟩ := fromHex_keyId c.provider.current
  have hkid : fromHex c.provider.currentKeyId = some kid := hkid
  obtain ⟨token, htoken⟩ :=
    @assemble_isOk (2 :: kid) wrapped draw.nonce ct hfits
  refine ⟨token, bind_eq_ok.mpr ⟨(draw.dek, wrapped), ?_, bind_eq_ok.mpr ⟨ct, hct, ?_⟩⟩⟩
  · exact bind_eq_ok.mpr ⟨wrapped, hwrap, rfl⟩
  · simp only [hkid]
    exact htoken

theorem legacyToken_isOk (hs : aead.Sound) (masterKey : Text) (aad : Bytes) (draw : Draw)
    (hlen : (utf8 plaintext).length < 2 ^ 31) :
    ∃ token, legacyToken aead masterKey aad draw plaintext = .ok token := by
  obtain ⟨wrapped, hwrap, hfits⟩ := wrapDataKey_isOk hs (legacyKek_length masterKey) draw
  obtain ⟨ct, hct⟩ := encryptPayload_isOk hs draw aad hlen
  obtain ⟨token, htoken⟩ := @assemble_isOk [1] wrapped draw.nonce ct hfits
  exact ⟨token, bind_eq_ok.mpr ⟨wrapped, hwrap, bind_eq_ok.mpr ⟨ct, hct, htoken⟩⟩⟩

theorem Written.bounded (hs : aead.Sound) (h : Written aead w plaintext token) :
    (utf8 plaintext).length < 2 ^ 31 := by
  obtain ⟨e, draw, -, ⟨-, hholds⟩ | ⟨-, hholds⟩⟩ := h.parse
  · exact hs.bounded (encryptPayload_eq_ok hholds.payload)
  · exact hs.bounded (encryptPayload_eq_ok hholds.payload)

/-- **A readable token is rewrapped into one of the same plaintext.** -/
theorem Written.rewrap (hs : aead.Sound) (h : Written aead w plaintext token)
    (hdec : c.decrypt aead token = .ok plaintext) (draw : Draw) :
    ∃ token', c.rewrap aead draw token = .ok token' ∧ Written aead c plaintext token' := by
  obtain ⟨token', htoken⟩ := encrypt_isOk hs c draw (h.bounded hs)
  exact ⟨token', rewrap_eq_ok.mpr ⟨plaintext, hdec, htoken⟩, .encrypted draw htoken⟩

theorem needsRewrap_eq_ok {b : Bool} :
    c.needsRewrap token = .ok b ↔
      ∃ e, Ai.parse token = .ok e ∧ (b = true ↔ e.keyId ≠ some (keyId c.provider.current)) := by
  refine bind_eq_ok.trans (exists_congr fun e => and_congr_right fun _ => ?_)
  constructor
  · intro h
    cases h
    exact decide_eq_true_iff
  · intro h
    refine congrArg Except.ok ?_
    cases b <;> simp_all [LocalKeyProvider.currentKeyId]

theorem needsRewrap_encrypted {draw : Draw} (h : w.encrypt aead draw plaintext = .ok token)
    (hkey : w.provider.current = c.provider.current) : c.needsRewrap token = .ok false := by
  obtain ⟨e, hparse, hkid, -⟩ := parse_encrypted h
  refine needsRewrap_eq_ok.mpr ⟨e, hparse, ?_⟩
  simp [hkid, hkey]

theorem Written.current (h : Written aead w plaintext token)
    (hid : DistinctIds [w.provider.current, c.provider.current])
    (hcurrent : c.needsRewrap token = .ok false) :
    w.provider.current = c.provider.current := by
  obtain ⟨e, hparse, hfalse⟩ := needsRewrap_eq_ok.mp hcurrent
  obtain ⟨e', draw, hparse', hcases⟩ := h.parse
  have he : e' = e := Except.ok.inj (hparse'.symm.trans hparse)
  subst he
  have hnamed : e'.keyId = some (keyId c.provider.current) := by
    simpa using hfalse
  -- a token of the first release names no key and is never current
  obtain ⟨hkid, -⟩ | ⟨hkid, -⟩ := hcases
  · have hsame := Option.some.inj (hkid.symm.trans hnamed)
    exact hid _ List.mem_cons_self _ (List.mem_cons_of_mem _ List.mem_cons_self) hsame
  · rw [hkid] at hnamed
    cases hnamed

end Tokens

end Concord.Ai
