import Mathlib.Logic.Function.Basic
import Concord.Ai.Tokens

/-!
# Rewrapping the stored secrets

`src/ccf/ai/rotation.py`: `rewrap_all` goes through every column that holds
tokens, leaves what is current, rewraps what it can read, and reports the rest.

A sweep that reports ok leaves every row current and, if a secret was in it, with
the same secret (`rewrapAll_eq_ok`); a second sweep then changes nothing
(`rewrapAll_of_settled`). One that has the key of every token does report ok
(`rewrapAll_isOk`).
-/

namespace Concord.Ai

open Concord.Python Concord.Base

/-- The members of `ENCRYPTED_COLUMNS`. -/
inductive Column where
  | aiProviderConfigs
  | connectorConfigs
  | userMfaCredentials
  deriving DecidableEq

def Column.aad : Column → Bytes
  | .aiProviderConfigs => aadCredential
  | .connectorConfigs => aadCredential
  | .userMfaCredentials => aadMfa

def Column.label : Column → Text
  | .aiProviderConfigs => "ai_provider_configs".toList
  | .connectorConfigs => "connector_configs".toList
  | .userMfaCredentials => "user_mfa_credentials".toList

/-- `ENCRYPTED_COLUMNS`. -/
def encryptedColumns : List Column :=
  [.aiProviderConfigs, .connectorConfigs, .userMfaCredentials]

/-- A row of such a table: its id and what the column holds. -/
structure SecretRow where
  id : Nat
  token : Option Text
  deriving DecidableEq

abbrev Vault := Column → List SecretRow

/-- `(table, row id, the key id the row needs)`. -/
structure Unreadable where
  table : Text
  row : Nat
  keyId : Option Text
  deriving DecidableEq

structure RewrapReport where
  rewrapped : Nat := 0
  alreadyCurrent : Nat := 0
  unreadable : List Unreadable := []
  deriving DecidableEq

/-- `ok`. -/
def RewrapReport.ok (r : RewrapReport) : Bool := r.unreadable.isEmpty

variable (aead : Aead)

/-- One turn of the loop over the rows of a column. `needs_rewrap` is outside the
`try`: what it raises ends the sweep. -/
def rewrapRow (c : CredentialCipher) (label : Text) (draw : Draw) (report : RewrapReport)
    (row : SecretRow) : Except CipherError (RewrapReport × SecretRow) :=
  match row.token with
  | some (t :: ts) => do
    let token := t :: ts
    let needed ← c.needsRewrap token
    if needed then
      -- inside the `try`
      match c.rewrap aead draw token with
      | .ok token' =>
        return ({ report with rewrapped := report.rewrapped + 1 },
          { row with token := some token' })
      | .error (.unknownKey missingKeyId) =>
        return ({ report with
          unreadable := report.unreadable ++ [⟨label, row.id, missingKeyId⟩] }, row)
      | .error _ =>
        let kid ← tokenKeyId token
        return ({ report with
          unreadable := report.unreadable ++ [⟨label, row.id, kid⟩] }, row)
    else return ({ report with alreadyCurrent := report.alreadyCurrent + 1 }, row)
  | _ => return (report, row)

def rewrapRows (c : CredentialCipher) (label : Text) (draws : Nat → Draw) :
    RewrapReport → List SecretRow → Except CipherError (RewrapReport × List SecretRow)
  | report, [] => return (report, [])
  | report, row :: rows => do
    let (report, row) ← rewrapRow aead c label (draws row.id) report row
    let (report, rows) ← rewrapRows c label draws report rows
    return (report, row :: rows)

def rewrapColumns (settings : Settings) (draws : Column → Nat → Draw) :
    List Column → RewrapReport → Vault → Except CipherError (RewrapReport × Vault)
  | [], report, vault => return (report, vault)
  | spec :: specs, report, vault => do
    let c ← buildCipher settings spec.aad
    let (report, rows) ← rewrapRows aead c spec.label (draws spec) report (vault spec)
    rewrapColumns settings draws specs report (Function.update vault spec rows)

/-- `rewrap_all`. The random bytes of each row are an argument. -/
def rewrapAll (settings : Settings) (draws : Column → Nat → Draw) (vault : Vault) :
    Except CipherError (RewrapReport × Vault) :=
  rewrapColumns aead settings draws encryptedColumns {} vault

/-! ## What a sweep does to a row -/

section Sweep

variable {aead} {c : CredentialCipher} {label : Text} {draw : Draw}

/-- The row holds no token, or one under the current key. -/
def Settled (c : CredentialCipher) (row : SecretRow) : Prop :=
  row.token = none ∨ row.token = some [] ∨
    ∃ token, row.token = some token ∧ c.needsRewrap token = .ok false

/-- What a sweep that reports ok does to a row. -/
inductive Swept (aead : Aead) (c : CredentialCipher) (row : SecretRow) : SecretRow → Prop
  | kept (h : Settled c row) : Swept aead c row row
  | rewrapped {token token' plaintext : Text} {draw : Draw} (htoken : row.token = some token)
    (hdec : c.decrypt aead token = .ok plaintext)
    (henc : c.encrypt aead draw plaintext = .ok token') :
    Swept aead c row { row with token := some token' }

theorem Swept.id {row row' : SecretRow} (h : Swept aead c row row') : row'.id = row.id := by
  cases h with
  | kept h => rfl
  | rewrapped htoken hdec henc => rfl

theorem Swept.settled {row row' : SecretRow} (h : Swept aead c row row') : Settled c row' := by
  cases h with
  | kept h => exact h
  | rewrapped htoken hdec henc => exact .inr (.inr ⟨_, rfl, needsRewrap_encrypted henc rfl⟩)

theorem settled_of_swept {rows rows' : List SecretRow}
    (h : List.Forall₂ (Swept aead c) rows rows') : ∀ row' ∈ rows', Settled c row' := by
  induction h with
  | nil => exact fun row' hrow' => (by cases hrow')
  | cons hrow _ ih => exact List.forall_mem_cons.mpr ⟨hrow.settled, ih⟩

theorem rewrapRow_eq_ok {report report' : RewrapReport} {row row' : SecretRow}
    (h : rewrapRow aead c label draw report row = .ok (report', row')) (hok : report'.ok) :
    report.ok ∧ Swept aead c row row' := by
  unfold rewrapRow at h
  split at h
  next t ts htoken =>
    obtain ⟨needed, hneeded, h⟩ := bind_eq_ok.mp h
    cases needed with
    | false =>
      cases h
      exact ⟨hok, .kept (.inr (.inr ⟨_, htoken, hneeded⟩))⟩
    | true =>
      rw [if_pos rfl] at h
      -- either failure is reported, and then the report is not ok
      split at h
      next token' hrewrap =>
        obtain ⟨plaintext, hdec, henc⟩ := rewrap_eq_ok.mp hrewrap
        cases h
        exact ⟨hok, .rewrapped htoken hdec henc⟩
      next =>
        cases h
        simp [RewrapReport.ok] at hok
      next =>
        obtain ⟨kid, -, h⟩ := bind_eq_ok.mp h
        cases h
        simp [RewrapReport.ok] at hok
  next hnone =>
    cases h
    refine ⟨hok, .kept ?_⟩
    cases htoken : row.token with
    | none => exact .inl htoken
    | some token =>
      cases token with
      | nil => exact .inr (.inl htoken)
      | cons t ts => exact absurd htoken (hnone t ts)

theorem rewrapRows_eq_ok {draws : Nat → Draw} {report report' : RewrapReport}
    {rows rows' : List SecretRow}
    (h : rewrapRows aead c label draws report rows = .ok (report', rows')) (hok : report'.ok) :
    report.ok ∧ List.Forall₂ (Swept aead c) rows rows' := by
  induction rows generalizing report report' rows' with
  | nil =>
    cases h
    exact ⟨hok, .nil⟩
  | cons row rows ih =>
    obtain ⟨⟨report₁, row₁⟩, hrow, h⟩ := bind_eq_ok.mp h
    obtain ⟨⟨report₂, rows₂⟩, hrows, h⟩ := bind_eq_ok.mp h
    cases h
    obtain ⟨hok₁, hall⟩ := ih hrows hok
    obtain ⟨hok₀, hswept⟩ := rewrapRow_eq_ok hrow hok₁
    exact ⟨hok₀, .cons hswept hall⟩

theorem rewrapColumns_eq_ok {settings : Settings} {draws : Column → Nat → Draw}
    {specs : List Column} (hspecs : specs.Nodup) {report report' : RewrapReport}
    {vault vault' : Vault}
    (h : rewrapColumns aead settings draws specs report vault = .ok (report', vault'))
    (hok : report'.ok) :
    report.ok ∧ ∀ spec, (spec ∈ specs → ∃ c, buildCipher settings spec.aad = .ok c ∧
      List.Forall₂ (Swept aead c) (vault spec) (vault' spec)) ∧
      (spec ∉ specs → vault' spec = vault spec) := by
  induction specs generalizing report vault with
  | nil =>
    cases h
    exact ⟨hok, fun spec => ⟨fun hmem => (by cases hmem), fun _ => rfl⟩⟩
  | cons head specs ih =>
    obtain ⟨hhead, hspecs⟩ := List.nodup_cons.mp hspecs
    obtain ⟨c, hc, h⟩ := bind_eq_ok.mp h
    obtain ⟨⟨report₁, rows⟩, hrows, h⟩ := bind_eq_ok.mp h
    obtain ⟨hok₁, hcols⟩ := ih hspecs h
    obtain ⟨hok₀, hall⟩ := rewrapRows_eq_ok hrows hok₁
    refine ⟨hok₀, fun spec => ?_⟩
    -- a column is swept once, so what its own turn left is what is there at the end
    by_cases hspec : spec = head
    · subst hspec
      have hkept := (hcols spec).2 hhead
      rw [Function.update_self] at hkept
      refine ⟨fun _ => ⟨c, hc, hkept ▸ hall⟩, fun hnot => ?_⟩
      exact absurd List.mem_cons_self hnot
    · obtain ⟨hin, hout⟩ := hcols spec
      rw [Function.update_of_ne hspec] at hin hout
      refine ⟨fun hmem => hin ((List.mem_cons.mp hmem).resolve_left hspec), fun hnot => ?_⟩
      exact hout fun hmem => hnot (List.mem_cons_of_mem _ hmem)

theorem mem_encryptedColumns (spec : Column) : spec ∈ encryptedColumns := by
  cases spec <;> decide

/-- **A sweep that reports ok has swept every row of every column.** -/
theorem rewrapAll_eq_ok {settings : Settings} {draws : Column → Nat → Draw}
    {report : RewrapReport} {vault vault' : Vault}
    (h : rewrapAll aead settings draws vault = .ok (report, vault')) (hok : report.ok)
    (spec : Column) :
    ∃ c, buildCipher settings spec.aad = .ok c ∧
      List.Forall₂ (Swept aead c) (vault spec) (vault' spec) :=
  ((rewrapColumns_eq_ok (by decide) h hok).2 spec).1 (mem_encryptedColumns spec)

/-! ## Sweeping again -/

theorem Settled.congr {c' : CredentialCipher} (h : c.provider.current = c'.provider.current)
    {row : SecretRow} (hrow : Settled c row) : Settled c' row := by
  obtain hnone | hempty | ⟨token, htoken, hcurrent⟩ := hrow
  · exact .inl hnone
  · exact .inr (.inl hempty)
  · refine .inr (.inr ⟨token, htoken, ?_⟩)
    obtain ⟨e, hparse, hkid⟩ := needsRewrap_eq_ok.mp hcurrent
    exact needsRewrap_eq_ok.mpr ⟨e, hparse, h ▸ hkid⟩

theorem parse_nil : parse [] = .error (.value "empty credential token".toList) := rfl

theorem rewrapRow_of_settled {row : SecretRow} (h : Settled c row) (report : RewrapReport) :
    ∃ k, rewrapRow aead c label draw report row =
      .ok ({ report with alreadyCurrent := report.alreadyCurrent + k }, row) := by
  unfold rewrapRow
  obtain hnone | hempty | ⟨token, htoken, hcurrent⟩ := h
  · rw [hnone]
    exact ⟨0, rfl⟩
  · rw [hempty]
    exact ⟨0, rfl⟩
  · cases token with
    | nil =>
      obtain ⟨e, hparse, -⟩ := needsRewrap_eq_ok.mp hcurrent
      rw [parse_nil] at hparse
      cases hparse
    | cons t ts =>
      rw [htoken]
      exact ⟨1, bind_eq_ok.mpr ⟨false, hcurrent, rfl⟩⟩

theorem rewrapRows_of_settled {draws : Nat → Draw} {rows : List SecretRow}
    (h : ∀ row ∈ rows, Settled c row) (report : RewrapReport) :
    ∃ k, rewrapRows aead c label draws report rows =
      .ok ({ report with alreadyCurrent := report.alreadyCurrent + k }, rows) := by
  induction rows generalizing report with
  | nil => exact ⟨0, rfl⟩
  | cons row rows ih =>
    obtain ⟨k, hrow⟩ := rewrapRow_of_settled (h row List.mem_cons_self) report
    obtain ⟨n, hrows⟩ := ih (fun r hr => h r (List.mem_cons_of_mem _ hr))
      { report with alreadyCurrent := report.alreadyCurrent + k }
    refine ⟨k + n, bind_eq_ok.mpr ⟨_, hrow, bind_eq_ok.mpr ⟨_, hrows, ?_⟩⟩⟩
    rw [← Nat.add_assoc]
    rfl

theorem rewrapColumns_of_settled {settings : Settings} {draws : Column → Nat → Draw}
    {vault : Vault} (h : ∀ spec, ∃ c, buildCipher settings spec.aad = .ok c ∧
      ∀ row ∈ vault spec, Settled c row) (specs : List Column) (report : RewrapReport) :
    ∃ k, rewrapColumns aead settings draws specs report vault =
      .ok ({ report with alreadyCurrent := report.alreadyCurrent + k }, vault) := by
  induction specs generalizing report with
  | nil => exact ⟨0, rfl⟩
  | cons spec specs ih =>
    obtain ⟨c, hc, hrows⟩ := h spec
    obtain ⟨k, hrows⟩ := rewrapRows_of_settled hrows report
    obtain ⟨n, hcols⟩ := ih { report with alreadyCurrent := report.alreadyCurrent + k }
    refine ⟨k + n, bind_eq_ok.mpr ⟨c, hc, bind_eq_ok.mpr ⟨_, hrows, ?_⟩⟩⟩
    dsimp only
    rw [Function.update_eq_self, ← Nat.add_assoc]
    exact hcols

/-- **A sweep over settled rows changes nothing.** -/
theorem rewrapAll_of_settled {settings : Settings} {vault : Vault}
    (h : ∀ spec, ∃ c, buildCipher settings spec.aad = .ok c ∧
      ∀ row ∈ vault spec, Settled c row) (draws : Column → Nat → Draw) :
    ∃ k, rewrapAll aead settings draws vault = .ok (⟨0, k, []⟩, vault) := by
  obtain ⟨k, hk⟩ := rewrapColumns_of_settled h encryptedColumns {}
  exact ⟨0 + k, hk⟩

/-! ## When a sweep reports ok -/

/-- The row holds no token, or one the cipher has the key of. -/
def Readable (aead : Aead) (c : CredentialCipher) (row : SecretRow) : Prop :=
  ∀ token, row.token = some token → ∃ w plaintext, Written aead w plaintext token ∧
    c.aad = w.aad ∧ w.provider.current ∈ c.provider.all

theorem rewrapRow_isOk (hs : aead.Sound) {row : SecretRow} (h : Readable aead c row)
    {report : RewrapReport} (hok : report.ok) :
    ∃ r, rewrapRow aead c label draw report row = .ok r ∧ r.1.ok := by
  unfold rewrapRow
  split
  next t ts htoken =>
    obtain ⟨w, plaintext, hwritten, haad, hkey⟩ := h _ htoken
    obtain ⟨e, -, hparse, -⟩ := hwritten.parse
    obtain ⟨token', hrewrap, -⟩ :=
      hwritten.rewrap hs (hwritten.decrypt hs haad hkey) draw
    have hneeded : c.needsRewrap (t :: ts) =
        .ok (decide (e.keyId ≠ some c.provider.currentKeyId)) := by
      rw [CredentialCipher.needsRewrap, hparse]
      rfl
    cases hcase : decide (e.keyId ≠ some c.provider.currentKeyId) with
    | true =>
      rw [hcase] at hneeded
      refine ⟨({ report with rewrapped := report.rewrapped + 1 },
        { row with token := some token' }), bind_eq_ok.mpr ⟨true, hneeded, ?_⟩, hok⟩
      rw [if_pos rfl, hrewrap]
      rfl
    | false =>
      rw [hcase] at hneeded
      exact ⟨_, bind_eq_ok.mpr ⟨false, hneeded, rfl⟩, hok⟩
  next => exact ⟨_, rfl, hok⟩

theorem rewrapRows_isOk (hs : aead.Sound) {draws : Nat → Draw} {rows : List SecretRow}
    (h : ∀ row ∈ rows, Readable aead c row) {report : RewrapReport} (hok : report.ok) :
    ∃ r, rewrapRows aead c label draws report rows = .ok r ∧ r.1.ok := by
  induction rows generalizing report with
  | nil => exact ⟨_, rfl, hok⟩
  | cons row rows ih =>
    obtain ⟨⟨report₁, row₁⟩, hrow, hok₁⟩ :=
      rewrapRow_isOk hs (h row List.mem_cons_self) hok
    obtain ⟨⟨report₂, rows₂⟩, hrows, hok₂⟩ :=
      ih (fun r hr => h r (List.mem_cons_of_mem _ hr)) hok₁
    exact ⟨_, bind_eq_ok.mpr ⟨_, hrow, bind_eq_ok.mpr ⟨_, hrows, rfl⟩⟩, hok₂⟩

theorem rewrapColumns_isOk (hs : aead.Sound) {settings : Settings}
    {draws : Column → Nat → Draw} {specs : List Column} (hspecs : specs.Nodup) {vault : Vault}
    (h : ∀ spec ∈ specs, ∃ c, buildCipher settings spec.aad = .ok c ∧
      ∀ row ∈ vault spec, Readable aead c row) {report : RewrapReport} (hok : report.ok) :
    ∃ r, rewrapColumns aead settings draws specs report vault = .ok r ∧ r.1.ok := by
  induction specs generalizing report vault with
  | nil => exact ⟨_, rfl, hok⟩
  | cons head specs ih =>
    obtain ⟨hhead, hspecs⟩ := List.nodup_cons.mp hspecs
    obtain ⟨c, hc, hrows⟩ := h head List.mem_cons_self
    obtain ⟨⟨report₁, rows₁⟩, hrows, hok₁⟩ := rewrapRows_isOk hs hrows hok
    have hrest : ∀ spec ∈ specs, ∃ c, buildCipher settings spec.aad = .ok c ∧
        ∀ row ∈ Function.update vault head rows₁ spec, Readable aead c row := by
      intro spec hspec
      have hne : spec ≠ head := fun heq => hhead (heq ▸ hspec)
      rw [Function.update_of_ne hne]
      exact h spec (List.mem_cons_of_mem _ hspec)
    obtain ⟨r, hcols, hok₂⟩ := ih hspecs hrest hok₁
    exact ⟨r, bind_eq_ok.mpr ⟨c, hc, bind_eq_ok.mpr ⟨_, hrows, hcols⟩⟩, hok₂⟩

/-- **A sweep that has the key of every token reports ok.** -/
theorem rewrapAll_isOk (hs : aead.Sound) {settings : Settings} {vault : Vault}
    (h : ∀ spec, ∃ c, buildCipher settings spec.aad = .ok c ∧
      ∀ row ∈ vault spec, Readable aead c row) (draws : Column → Nat → Draw) :
    ∃ r, rewrapAll aead settings draws vault = .ok r ∧ r.1.ok :=
  rewrapColumns_isOk hs (by decide) (fun spec _ => h spec) rfl

end Sweep

end Concord.Ai
