import Mathlib.Data.List.Chain
import Concord.Ai.Rotation

/-!
# Rotating the master key

A history of configurations in which no key is dropped. As long as no two of the
keys have one id, every token written on the way is read, and rewrapped, under the
newest configuration, and a sweep that reports ok leaves every secret to the newest
key alone (`secrets_survive_rotation`).

The condition on the ids is needed. A provider reads with one key an id, and an id
is a code that two keys share when they differ in zeros at the end: of such keys
the older one is dropped, though the first release derived different keys from them
(`padded_key_unread`).
-/

namespace Concord.Ai

open Concord.Python Concord.Base

/-- The next configuration reads with every key of this one. -/
def Settings.Keeps (s t : Settings) : Prop := s.keys ⊆ t.keys

instance : IsTrans Settings Settings.Keeps := ⟨fun _ _ _ => List.Subset.trans⟩

/-- **No key is lost on the way to the newest configuration.** -/
theorem keys_subset_newest {history : List Settings} {newest : Settings}
    (h : List.IsChain Settings.Keeps (history ++ [newest])) {s : Settings}
    (hs : s ∈ history ++ [newest]) : s.keys ⊆ newest.keys := by
  have hpair := (List.pairwise_append.mp (List.isChain_iff_pairwise.mp h)).2.2
  rcases List.mem_append.mp hs with hold | hnew
  · exact hpair s hold newest (List.mem_singleton.mpr rfl)
  · rw [List.mem_singleton.mp hnew]
    exact List.Subset.refl _

/-- The token was written for the plaintext under one of the configurations. -/
def WrittenUnder (aead : Aead) (history : List Settings) (aad : Bytes)
    (plaintext token : Text) : Prop :=
  ∃ s ∈ history, ∃ w, buildCipher s aad = .ok w ∧ Written aead w plaintext token

theorem buildCipher_isOk {s : Settings} {aad : Bytes} {c : CredentialCipher}
    (h : buildCipher s aad = .ok c) {t : Settings} (hkey : t.masterKey = s.masterKey)
    (aad' : Bytes) :
    ∃ c', buildCipher t aad' = .ok c' ∧ c'.provider.current = c.provider.current ∧
      c'.aad = aad' := by
  obtain ⟨hcur, -, -⟩ := buildCipher_eq_ok h
  have hstrong := c.provider.strong
  cases hk : c.provider.current with
  | nil => exact absurd hk (current_ne_nil c.provider)
  | cons k ks =>
    rw [hk] at hcur hstrong
    have hprovider : ∃ kp, localKeyProvider (k :: ks) t.previousKeys = .ok kp := by
      rw [localKeyProvider, dif_neg (Nat.not_lt.mpr hstrong)]
      exact ⟨_, rfl⟩
    obtain ⟨kp, hkp⟩ := hprovider
    refine ⟨⟨kp, aad'⟩, ?_, (localKeyProvider_eq_ok hkp).1, rfl⟩
    rw [buildCipher, hkey, hcur]
    exact bind_eq_ok.mpr ⟨kp, hkp, rfl⟩

variable {aead : Aead} {history : List Settings} {newest : Settings}

theorem WrittenUnder.decrypt (hs : aead.Sound)
    (hkeeps : List.IsChain Settings.Keeps (history ++ [newest]))
    (hid : DistinctIds newest.keys) {aad : Bytes} {plaintext token : Text}
    (h : WrittenUnder aead (history ++ [newest]) aad plaintext token) {c : CredentialCipher}
    (hc : buildCipher newest aad = .ok c) :
    c.decrypt aead token = .ok plaintext ∧
      ∀ draw, ∃ token', c.rewrap aead draw token = .ok token' ∧
        c.decrypt aead token' = .ok plaintext ∧ c.needsRewrap token' = .ok false := by
  obtain ⟨s, hmem, w, hw, hwritten⟩ := h
  have hkey : w.provider.current ∈ newest.keys :=
    keys_subset_newest hkeeps hmem (current_mem_keys hw)
  have haad : c.aad = w.aad :=
    (buildCipher_eq_ok hc).2.1.trans (buildCipher_eq_ok hw).2.1.symm
  have hdec := hwritten.decrypt hs haad (mem_all hc hid hkey (current_ne_nil w.provider))
  refine ⟨hdec, fun draw => ?_⟩
  obtain ⟨token', hrewrap, hwritten'⟩ := hwritten.rewrap hs hdec draw
  obtain ⟨plaintext', hdec', henc⟩ := rewrap_eq_ok.mp hrewrap
  exact ⟨token', hrewrap, hwritten'.decrypt hs rfl c.provider.reads,
    needsRewrap_encrypted henc rfl⟩

/-- **With every key at hand the sweep reports ok.** -/
theorem rewrapAll_isOk_of_history (hs : aead.Sound)
    (hkeeps : List.IsChain Settings.Keeps (history ++ [newest]))
    (hid : DistinctIds newest.keys) {aad : Bytes} {c : CredentialCipher}
    (hc : buildCipher newest aad = .ok c) {vault : Vault}
    (hvault : ∀ spec, ∀ row ∈ vault spec, ∀ token, row.token = some token →
      ∃ plaintext, WrittenUnder aead (history ++ [newest]) spec.aad plaintext token)
    (draws : Column → Nat → Draw) :
    ∃ r, rewrapAll aead newest draws vault = .ok r ∧ r.1.ok := by
  refine rewrapAll_isOk hs (fun spec => ?_) draws
  obtain ⟨c', hc', -, haad⟩ := buildCipher_isOk hc rfl spec.aad
  refine ⟨c', hc', fun row hrow token htoken => ?_⟩
  obtain ⟨plaintext, s, hmem, w, hw, hwritten⟩ := hvault spec row hrow token htoken
  have hkey := keys_subset_newest hkeeps hmem (current_mem_keys hw)
  exact ⟨w, plaintext, hwritten, haad.trans (buildCipher_eq_ok hw).2.1.symm,
    mem_all hc' hid hkey (current_ne_nil w.provider)⟩

theorem Swept.decrypt (hs : aead.Sound) {c alone w : CredentialCipher} {row row' : SecretRow}
    (h : Swept aead c row row') (hkey : alone.provider.current = c.provider.current)
    (haad : alone.aad = c.aad) (hwaad : c.aad = w.aad)
    (hid : DistinctIds (w.provider.current :: c.provider.all)) {plaintext token : Text}
    (htoken : row.token = some token) (hwritten : Written aead w plaintext token) :
    ∃ token', row'.token = some token' ∧ alone.decrypt aead token' = .ok plaintext := by
  have hreads : c.provider.current ∈ alone.provider.all := hkey ▸ alone.provider.reads
  cases h with
  | kept hsettled =>
    -- it is current, so its own key is the current one
    refine ⟨token, htoken, hwritten.decrypt hs (haad.trans hwaad) ?_⟩
    obtain hnone | hempty | ⟨token', htoken', hcurrent⟩ := hsettled
    · rw [hnone] at htoken
      cases htoken
    · rw [hempty] at htoken
      cases htoken
      obtain ⟨e, draw, hparse, -⟩ := hwritten.parse
      rw [parse_nil] at hparse
      cases hparse
    · have heq : token' = token := Option.some.inj (htoken'.symm.trans htoken)
      subst heq
      rw [hwritten.current (hid.subset ?_) hcurrent]
      · exact hreads
      · refine List.cons_subset_cons _ fun key hkey => ?_
        rw [List.mem_singleton.mp hkey]
        exact c.provider.reads
  | rewrapped htoken' hdec henc =>
    -- what was read and encrypted again is its own plaintext
    have heq := Option.some.inj (htoken'.symm.trans htoken)
    subst heq
    have hplain := hwritten.eq_of_decrypt hs hwaad hid hdec
    subst hplain
    exact ⟨_, rfl, (Written.encrypted _ henc).decrypt hs haad hreads⟩

/-- **Rotation preserves every secret.** In a history that drops no key, and where no
two keys of the newest configuration have one id, every token written on the way is
read under the newest configuration, and rewrapped into a token of the same plaintext
that is current. Once a sweep with the newest key reports ok, every secret is read
with that key alone, and a second sweep changes nothing. -/
theorem secrets_survive_rotation (hs : aead.Sound)
    (hkeeps : List.IsChain Settings.Keeps (history ++ [newest]))
    (hid : DistinctIds newest.keys) :
    (∀ aad plaintext token, WrittenUnder aead (history ++ [newest]) aad plaintext token →
      ∀ c, buildCipher newest aad = .ok c →
        c.decrypt aead token = .ok plaintext ∧
          ∀ draw, ∃ token', c.rewrap aead draw token = .ok token' ∧
            c.decrypt aead token' = .ok plaintext ∧ c.needsRewrap token' = .ok false) ∧
    ∀ sweep : Settings, sweep.masterKey = newest.masterKey →
      sweep.previousKeys ⊆ newest.previousKeys →
      ∀ draws vault report vault',
        rewrapAll aead sweep draws vault = .ok (report, vault') → report.ok →
        (∀ spec : Column, ∃ alone,
          buildCipher { newest with previousKeys := [] } spec.aad = .ok alone ∧
          List.Forall₂ (fun row row' => row'.id = row.id ∧
            ∀ plaintext token, row.token = some token →
              WrittenUnder aead (history ++ [newest]) spec.aad plaintext token →
              ∃ token', row'.token = some token' ∧ alone.decrypt aead token' = .ok plaintext)
            (vault spec) (vault' spec)) ∧
        ∀ again : Settings, again.masterKey = newest.masterKey →
          ∀ draws', ∃ current,
            rewrapAll aead again draws' vault' = .ok (⟨0, current, []⟩, vault') := by
  refine ⟨fun aad plaintext token h c hc => h.decrypt hs hkeeps hid hc, ?_⟩
  intro sweep hkey hprevious draws vault report vault' hsweep hok
  have hsub : sweep.keys ⊆ newest.keys := by
    rw [Settings.keys, Settings.keys, hkey]
    exact List.append_subset.mpr ⟨List.subset_append_left _ _,
      List.subset_append_of_subset_right _ hprevious⟩
  refine ⟨fun spec => ?_, fun again hagain draws' => ?_⟩
  · obtain ⟨c, hc, hrows⟩ := rewrapAll_eq_ok hsweep hok spec
    obtain ⟨alone, halone, hcur, haad⟩ := @buildCipher_isOk _ _ _ hc
      { newest with previousKeys := [] } hkey.symm spec.aad
    refine ⟨alone, halone, hrows.imp fun row row' hswept => ⟨hswept.id, ?_⟩⟩
    rintro plaintext token htoken ⟨s, hmem, w, hw, hwritten⟩
    have hcaad := (buildCipher_eq_ok hc).2.1
    have hwkey := keys_subset_newest hkeeps hmem (current_mem_keys hw)
    have hall := List.Subset.trans (all_subset_keys hc) hsub
    exact hswept.decrypt hs hcur (haad.trans hcaad.symm)
      (hcaad.trans (buildCipher_eq_ok hw).2.1.symm)
      (hid.subset (List.cons_subset.mpr ⟨hwkey, hall⟩)) htoken hwritten
  · refine rewrapAll_of_settled (fun spec => ?_) draws'
    obtain ⟨c, hc, hrows⟩ := rewrapAll_eq_ok hsweep hok spec
    obtain ⟨c', hc', hcur, -⟩ := buildCipher_isOk hc (hagain.trans hkey.symm) spec.aad
    refine ⟨c', hc', fun row' hrow' => ?_⟩
    exact (settled_of_swept hrows row' hrow').congr hcur.symm

/-! ## A cipher to try it with -/

/-- A cipher that shows its key: the key, the nonce and the context go before the data. -/
def labelled : Aead where
  encrypt key nonce data aad :=
    if key.length = 32 ∧ nonce.length ≤ 128 ∧ data.length < 2 ^ 31 then
      .ok (key ++ (nonce ++ aad ++ data))
    else .error .overflow
  decrypt key nonce ct aad :=
    if key.length = 32 ∧ key ++ (nonce ++ aad) <+: ct then
      .ok (ct.drop (key ++ (nonce ++ aad)).length)
    else .error .invalidTag

theorem labelled_encrypt {key nonce data aad ct : Bytes}
    (h : labelled.encrypt key nonce data aad = .ok ct) :
    (key.length = 32 ∧ nonce.length ≤ 128 ∧ data.length < 2 ^ 31) ∧
      ct = key ++ (nonce ++ aad ++ data) := by
  rcases ite_eq_iff.mp h with ⟨hok, h⟩ | ⟨-, h⟩
  · exact ⟨hok, (Except.ok.inj h).symm⟩
  · cases h

theorem labelled_sound : labelled.Sound where
  opens {key nonce data aad ct} h := by
    obtain ⟨⟨hlen, -⟩, rfl⟩ := labelled_encrypt h
    have hct : key ++ (nonce ++ aad ++ data) = key ++ (nonce ++ aad) ++ data := by
      simp only [List.append_assoc]
    refine (if_pos ⟨hlen, ?_⟩).trans ?_
    · rw [hct, List.drop_left]
    · rw [hct]
      exact List.prefix_append _ _
  rejects {key key' nonce data aad ct} h hne := by
    obtain ⟨⟨hlen, -⟩, rfl⟩ := labelled_encrypt h
    refine ⟨.invalidTag, if_neg ?_⟩
    rintro ⟨hlen', rest, hrest⟩
    rw [List.append_assoc] at hrest
    exact hne (List.append_inj_left hrest (hlen'.trans hlen.symm))
  accepts {key nonce data} aad hkey hnonce hdata :=
    ⟨_, if_pos ⟨hkey, by rw [hnonce]; decide, hdata⟩⟩
  bounded h := (labelled_encrypt h).1.2.2
  fits {key nonce data ct} h hdata := by
    obtain ⟨⟨hlen, hnonce, -⟩, rfl⟩ := labelled_encrypt h
    have hcontext : dekContext.length = 7 := by decide +kernel
    simp only [List.length_append, hlen, hdata, hcontext]
    omega

def zeroDraw : Draw where
  dek := List.replicate 32 0
  wrapNonce := List.replicate 12 0
  nonce := List.replicate 12 0
  dek_length := rfl
  wrapNonce_length := rfl
  nonce_length := rfl

theorem exists_legacy {s : Settings} (hmem : s ∈ history) {aad : Bytes} {w : CredentialCipher}
    (hw : buildCipher s aad = .ok w) :
    ∃ token draw, legacyToken labelled w.provider.current aad draw "secret".toList = .ok token ∧
      WrittenUnder labelled history aad "secret".toList token := by
  obtain ⟨token, htoken⟩ := @legacyToken_isOk labelled "secret".toList labelled_sound
    w.provider.current aad zeroDraw (by decide +kernel)
  have haad := (buildCipher_eq_ok hw).2.1
  exact ⟨token, zeroDraw, htoken, s, hmem, w, hw, .legacy zeroDraw (haad ▸ htoken)⟩

def firstKey : Text := "0123456789abcdef".toList

def firstSettings : Settings := ⟨some firstKey, []⟩

def rotatedSettings : Settings := ⟨some "fedcba9876543210".toList, [firstKey]⟩

theorem derive_rotated :
    ((cacheAfter [firstKey]).derive "fedcba9876543210".toList).1 =
      deriveKek "fedcba9876543210".toList := by
  refine derive_cacheAfter ?_
  unfold DistinctIds
  decide +kernel

theorem secrets_survive_rotation_two :
    ∃ token c report vault' row' token' alone,
      WrittenUnder labelled [firstSettings, rotatedSettings] aadCredential "secret".toList
        token ∧
      buildCipher rotatedSettings aadCredential = .ok c ∧
      c.decrypt labelled token = .ok "secret".toList ∧
      rewrapAll labelled rotatedSettings (fun _ _ => zeroDraw)
        (fun spec => if spec = .connectorConfigs then [⟨1, some token⟩] else []) =
          .ok (report, vault') ∧ report.ok ∧
      vault' .connectorConfigs = [row'] ∧ row'.token = some token' ∧
      buildCipher { rotatedSettings with previousKeys := [] } aadCredential = .ok alone ∧
      alone.decrypt labelled token' = .ok "secret".toList := by
  have hkeeps : List.IsChain Settings.Keeps ([firstSettings] ++ [rotatedSettings]) := by
    refine List.isChain_cons_cons.mpr ⟨fun key hkey => ?_, List.isChain_singleton _⟩
    exact List.mem_cons_of_mem _ hkey
  have hid : DistinctIds rotatedSettings.keys := by
    unfold DistinctIds
    decide +kernel
  obtain ⟨hread, hswept⟩ := secrets_survive_rotation labelled_sound hkeeps hid
  obtain ⟨w, hw⟩ : ∃ w, buildCipher firstSettings aadCredential = .ok w := ⟨_, rfl⟩
  obtain ⟨c, hc⟩ : ∃ c, buildCipher rotatedSettings aadCredential = .ok c := ⟨_, rfl⟩
  obtain ⟨token, -, -, hunder⟩ := @exists_legacy ([firstSettings] ++ [rotatedSettings])
    firstSettings List.mem_cons_self aadCredential w hw
  obtain ⟨⟨report, vault'⟩, hsweep, hok⟩ :=
    @rewrapAll_isOk_of_history labelled _ _ labelled_sound hkeeps hid aadCredential c hc
      (fun spec => if spec = .connectorConfigs then [⟨1, some token⟩] else [])
      (by
        intro spec row hrow token' htoken
        split at hrow
        next hspec =>
          subst hspec
          cases List.mem_singleton.mp hrow
          cases htoken
          exact ⟨_, hunder⟩
        next => cases hrow)
      (fun _ _ => zeroDraw)
  obtain ⟨hrows, -⟩ := hswept rotatedSettings rfl (List.Subset.refl _) _ _ _ _ hsweep hok
  obtain ⟨alone, halone, hrows⟩ := hrows .connectorConfigs
  cases hvault : vault' .connectorConfigs with
  | nil =>
    rw [hvault] at hrows
    cases hrows
  | cons row' rest =>
    rw [hvault] at hrows
    obtain ⟨⟨-, hkeeps⟩, hrest⟩ := List.forall₂_cons.mp hrows
    cases hrest
    obtain ⟨token', htoken', hdec⟩ := hkeeps _ _ rfl hunder
    exact ⟨token, c, report, vault', row', token', alone, hunder, hc,
      (hread _ _ _ hunder c hc).1, hsweep, hok, hvault, htoken', halone, hdec⟩

/-! ## Keys that share an id -/

def nul : Char := Char.ofNat 0

theorem keyId_append_nul {key : Text} (h : (utf8 key).length < 64) :
    keyId (key ++ [nul]) = keyId key := by
  have hutf : utf8 (key ++ [nul]) = utf8 key ++ [0] := by
    rw [utf8, List.flatMap_append]
    rfl
  rw [keyId, keyId, hutf, hmacSha256_append_zero h]

def onceKey : Text := firstKey ++ [nul]

def twiceKey : Text := onceKey ++ [nul]

def onceSettings : Settings := ⟨some onceKey, [firstKey]⟩

def twiceSettings : Settings := ⟨some twiceKey, [onceKey, firstKey]⟩

theorem twiceSettings_all {aad : Bytes} {c : CredentialCipher}
    (h : buildCipher twiceSettings aad = .ok c) : c.provider.all = [twiceKey] := by
  obtain ⟨hkey, -, hall⟩ := buildCipher_eq_ok h
  have hcur : c.provider.current = twiceKey := (Option.some.inj hkey).symm
  have honce : keyId onceKey = keyId firstKey := keyId_append_nul (by decide)
  have htwice : keyId twiceKey = keyId onceKey := keyId_append_nul (by decide)
  rw [hall, hcur]
  simp [twiceSettings, keepKey, htwice, honce]

/-- **Not every token of the first release survives.** Three master keys, each the one
before it with a zero more, share one id and have three different old derivations. The
newest configuration names all three and reads with one. -/
theorem padded_key_unread :
    labelled.Sound ∧
      List.IsChain Settings.Keeps ([firstSettings, onceSettings] ++ [twiceSettings]) ∧
      ∃ c, buildCipher twiceSettings aadCredential = .ok c ∧
        ¬ ∀ plaintext token, WrittenUnder labelled
            ([firstSettings, onceSettings] ++ [twiceSettings]) aadCredential plaintext token →
          c.decrypt labelled token = .ok plaintext := by
  refine ⟨labelled_sound, ?_, ?_⟩
  · refine List.isChain_cons_cons.mpr ⟨?_, List.isChain_cons_cons.mpr ⟨?_, ?_⟩⟩
    · exact fun key hkey => List.mem_cons_of_mem _ hkey
    · exact fun key hkey => List.mem_cons_of_mem _ hkey
    · exact List.isChain_singleton _
  obtain ⟨c, hc⟩ : ∃ c, buildCipher twiceSettings aadCredential = .ok c := ⟨_, rfl⟩
  refine ⟨c, hc, fun hread => ?_⟩
  have hfirst : legacyKek firstKey ≠ legacyKek twiceKey := by decide +kernel
  have honce : legacyKek onceKey ≠ legacyKek twiceKey := by decide +kernel
  have hdiff : legacyKek onceKey ≠ legacyKek firstKey := by decide +kernel
  have unread : ∀ s ∈ [firstSettings, onceSettings] ++ [twiceSettings], ∀ key w,
      s.masterKey = some key → buildCipher s aadCredential = .ok w →
      legacyKek key ≠ legacyKek twiceKey → legacyKek key ≠ deriveKek twiceKey → False := by
    intro s hmem key w hkey hw hlegacy hderived
    have hcur : w.provider.current = key :=
      Option.some.inj ((buildCipher_eq_ok hw).1.symm.trans hkey)
    obtain ⟨token, draw, htoken, hunder⟩ := exists_legacy hmem hw
    rw [hcur] at htoken
    have hnot : legacyKek key ∉ c.provider.all.flatMap fun key =>
        [legacyKek key, deriveKek key] := by
      rw [twiceSettings_all hc]
      simp only [List.flatMap_cons, List.flatMap_nil, List.append_nil, List.mem_cons,
        List.not_mem_nil, or_false, not_or]
      exact ⟨hlegacy, hderived⟩
    have herr := hread _ _ hunder
    rw [decrypt_legacy_of_notMem labelled_sound htoken hnot] at herr
    cases herr
  obtain ⟨w₀, hw₀⟩ : ∃ w, buildCipher firstSettings aadCredential = .ok w := ⟨_, rfl⟩
  obtain ⟨w₁, hw₁⟩ : ∃ w, buildCipher onceSettings aadCredential = .ok w := ⟨_, rfl⟩
  -- The present derivation of the newest key is the old one of at most one of the two.
  by_cases hderived : legacyKek firstKey = deriveKek twiceKey
  · rw [hderived] at hdiff
    exact unread onceSettings (.tail _ (.head _)) onceKey w₁ rfl hw₁ honce hdiff
  · exact unread firstSettings (.head _) firstKey w₀ rfl hw₀ hfirst hderived

end Concord.Ai
