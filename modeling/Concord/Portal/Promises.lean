import Mathlib.Algebra.Order.Field.Rat
import Mathlib.Algebra.Order.Ring.Abs
import Mathlib.Tactic.Linarith
import Concord.Portal.Grants

/-!
# When a grant ends

Whatever follows on the issue of a grant, its row keeps the token, the expiry and the engagement,
and what was revoked stays so (`Holds`). Neither the token nor a cookie that it was exchanged for
resolves past the expiry or the engagement, as both go through the row.

`promise_kept_iff`: the expiry is the one that was promised, unless the promise is of no days.
-/

namespace Concord.Portal

open Concord.Base
open Concord.Identity
open Concord.Python

/-! ## Issuing -/

/-- What the issue of a grant leaves. -/
structure IsIssue (s : Tables) (req : GrantRequest) (token : Token) (s' : Tables)
    (issued : Issued) (g : ExternalAccessGrant) : Prop where
  id : issued.id = s.grants.length
  grants : s'.grants = s.grants ++ [g]
  engagements : s'.engagements = s.engagements
  now : s'.now = s.now
  small : issued.id ≤ 2147483647
  fresh : ∀ q ∈ s.grants, q.tokenHash ≠ hashToken token.text
  tokenHash : g.tokenHash = hashToken token.text
  engagementId : g.engagementId = req.engagementId
  unrevoked : g.revoked = false
  expiresAt : ∃ engagement expiresAt, requireEngagement s req = .ok engagement ∧
    expiry s.now req.ttlDays = .ok expiresAt ∧ g.expiresAt = (capExpiry engagement expiresAt).1

theorem isIssue_of_createGrant {repr : Text → Text} {s s' : Tables} {req : GrantRequest}
    {token : Token} {issued : Issued} (h : createGrant repr s req token = .ok (s', issued)) :
    ∃ g, IsIssue s req token s' issued g := by
  obtain ⟨-, -, h⟩ := bind_eq_ok.mp h
  obtain ⟨engagement, hengagement, h⟩ := bind_eq_ok.mp h
  obtain ⟨principal, -, h⟩ := bind_eq_ok.mp h
  obtain ⟨expiresAt, hexpiry, h⟩ := bind_eq_ok.mp h
  unfold storeGrant at h
  split at h
  case isTrue => cases h
  case isFalse hfresh =>
    split at h
    case isTrue => cases h
    case isFalse hsmall =>
      obtain ⟨rfl, rfl⟩ := Prod.mk.inj (Except.ok.inj h)
      refine ⟨_, rfl, rfl, rfl, rfl, Nat.le_of_not_lt hsmall, ?_, rfl, rfl, rfl,
        engagement, expiresAt, hengagement, hexpiry, rfl⟩
      intro q hq heq
      exact hfresh (List.any_eq_true.mpr ⟨q, hq, decide_eq_true heq⟩)

/-! ## What follows -/

/-- The row of a grant at a later time. -/
structure Continues (g g' : ExternalAccessGrant) : Prop where
  tokenHash : g'.tokenHash = g.tokenHash
  expiresAt : g'.expiresAt = g.expiresAt
  engagementId : g'.engagementId = g.engagementId
  revoked : g.revoked = true → g'.revoked = true

theorem Continues.refl (g : ExternalAccessGrant) : Continues g g := ⟨rfl, rfl, rfl, id⟩

theorem Continues.trans {g g' g'' : ExternalAccessGrant} (h : Continues g g')
    (h' : Continues g' g'') : Continues g g'' :=
  ⟨h'.tokenHash.trans h.tokenHash, h'.expiresAt.trans h.expiresAt,
    h'.engagementId.trans h.engagementId, fun hr => h'.revoked (h.revoked hr)⟩

/-- The row of an engagement at a later time. -/
structure Goes (e e' : AssessmentEngagement) : Prop where
  periodTo : e'.periodTo = e.periodTo
  revokedAt : e'.revokedAt = none → e.revokedAt = none

/-- What a step can do: rows go on in their places, and a new grant has a token of its own. -/
structure Moves (s s' : Tables) : Prop where
  grants : ∀ (j : Nat) g, s.grants[j]? = some g → ∃ g', s'.grants[j]? = some g' ∧ Continues g g'
  fresh : ∀ (j : Nat) g', s'.grants[j]? = some g' →
    (∃ g, s.grants[j]? = some g) ∨ ∀ q ∈ s.grants, q.tokenHash ≠ g'.tokenHash
  engagements : ∀ (j : Nat) e, s.engagements[j]? = some e → ∃ e', s'.engagements[j]? = some e' ∧ Goes e e'
  now : s.now ≤ s'.now

section Moves

variable {s s' : Tables}

theorem Moves.refl (s : Tables) : Moves s s where
  grants := fun _ g h => ⟨g, h, .refl g⟩
  fresh := fun _ g' h => .inl ⟨g', h⟩
  engagements := fun _ e h => ⟨e, h, rfl, id⟩
  now := le_refl s.now

theorem moves_createGrant {repr : Text → Text} {req : GrantRequest} {token : Token}
    {issued : Issued} (h : createGrant repr s req token = .ok (s', issued)) : Moves s s' := by
  obtain ⟨g, hissue⟩ := isIssue_of_createGrant h
  refine ⟨fun j q hq => ⟨q, ?_, .refl q⟩, fun j q hq => ?_, fun j e he => ⟨e, ?_, rfl, id⟩,
    hissue.now.ge⟩
  · rw [hissue.grants, List.getElem?_append_left (List.getElem?_eq_some_iff.mp hq).1, hq]
  · rw [hissue.grants] at hq
    by_cases hj : j < s.grants.length
    · exact .inl ⟨s.grants[j], List.getElem?_eq_getElem hj⟩
    · -- the row is the new one
      rw [List.getElem?_append_right (Nat.le_of_not_lt hj)] at hq
      obtain rfl : g = q := by
        have hmem := List.mem_of_getElem? hq
        exact (List.mem_singleton.mp hmem).symm
      exact .inr fun p hp => hissue.tokenHash ▸ hissue.fresh p hp
  · rw [hissue.engagements, he]

theorem moves_revokeGrant (s : Tables) (id : Nat) : Moves s (revokeGrant s id) := by
  refine ⟨fun j g hg => ?_, fun j g' hg' => ?_, (Moves.refl s).engagements, le_refl s.now⟩
  · refine ⟨if id = j then { g with revoked := true } else g, ?_, ?_⟩
    · rw [revokeGrant, List.getElem?_modify, hg]
      rfl
    · split
      · exact ⟨rfl, rfl, rfl, fun _ => rfl⟩
      · exact .refl g
  · rw [revokeGrant, List.getElem?_modify] at hg'
    obtain ⟨g, hg, -⟩ := Option.map_eq_some_iff.mp hg'
    exact .inl ⟨g, hg⟩

theorem moves_revokeEngagement (s : Tables) (id : Nat) : Moves s (revokeEngagement s id) := by
  unfold revokeEngagement
  cases s.engagements[id]? with
  | none => exact .refl s
  | some e =>
    refine ⟨fun j g hg => ?_, fun j g' hg' => ?_, fun j e he => ?_, le_refl s.now⟩
    · dsimp only
      rw [List.getElem?_map, hg]
      refine ⟨_, rfl, ?_⟩
      dsimp only
      split
      · exact ⟨rfl, rfl, rfl, fun _ => rfl⟩
      · exact .refl g
    · dsimp only at hg'
      rw [List.getElem?_map] at hg'
      obtain ⟨g, hg, -⟩ := Option.map_eq_some_iff.mp hg'
      exact .inl ⟨g, hg⟩
    · dsimp only
      rw [List.getElem?_modify, he]
      refine ⟨_, rfl, ?_⟩
      split
      · exact ⟨rfl, nofun⟩
      · exact ⟨rfl, fun h => h⟩

theorem moves_step {a : Action} (h : step s a = some s') : Moves s s' := by
  cases a with
  | createPrincipal p =>
    obtain rfl := Option.some.inj h
    exact ⟨(Moves.refl s).grants, (Moves.refl s).fresh, (Moves.refl s).engagements, le_refl s.now⟩
  | createEngagement e =>
    obtain rfl := Option.some.inj h
    refine ⟨(Moves.refl s).grants, (Moves.refl s).fresh, fun j q hq => ⟨q, ?_, rfl, id⟩,
      le_refl s.now⟩
    rw [List.getElem?_append_left (List.getElem?_eq_some_iff.mp hq).1, hq]
  | createGrant repr req token =>
    rw [step] at h
    cases hcreate : createGrant repr s req token with
    | ok result =>
      rw [hcreate] at h
      exact Option.some.inj h ▸ moves_createGrant hcreate
    | error e =>
      rw [hcreate] at h
      exact Option.some.inj h ▸ .refl s
  | revokeGrant id => exact Option.some.inj h ▸ moves_revokeGrant s id
  | revokeEngagement id => exact Option.some.inj h ▸ moves_revokeEngagement s id
  | elapse micros =>
    obtain rfl := Option.some.inj h
    exact ⟨(Moves.refl s).grants, (Moves.refl s).fresh, (Moves.refl s).engagements,
      Int.le_add_of_nonneg_right (Int.natCast_nonneg micros)⟩

end Moves

/-! ## After the issue -/

/-- What holds of a grant and of the engagements from a time on. -/
structure Holds (s : Tables) (id : Nat) (g : ExternalAccessGrant) (t : Tables) : Prop where
  row : ∃ g', t.grants[id]? = some g' ∧ Continues g g'
  unique : ∀ (j : Nat) q, t.grants[j]? = some q → q.tokenHash = g.tokenHash → j = id
  engagements : ∀ (j : Nat) e, s.engagements[j]? = some e →
    ∃ e', t.engagements[j]? = some e' ∧ Goes e e'
  now : s.now ≤ t.now

section Holds

variable {s s' t t' u : Tables} {req : GrantRequest} {token : Token} {issued : Issued}
  {g : ExternalAccessGrant} {id : Nat}

theorem holds_issue (h : IsIssue s req token s' issued g) : Holds s' issued.id g s' where
  row := by
    refine ⟨g, ?_, .refl g⟩
    rw [h.grants, h.id, List.getElem?_append_right (le_refl _), Nat.sub_self]
    rfl
  unique := by
    intro j q hq hhash
    rw [h.grants] at hq
    by_cases hj : j < s.grants.length
    · rw [List.getElem?_append_left hj] at hq
      exact absurd (hhash.trans h.tokenHash) (h.fresh q (List.mem_of_getElem? hq))
    · have hlt := (List.getElem?_eq_some_iff.mp hq).1
      rw [List.length_append, List.length_singleton] at hlt
      rw [h.id]
      omega
  engagements := fun _ e he => ⟨e, he, rfl, fun h => h⟩
  now := le_refl _

theorem Holds.moves (h : Holds s id g t) (hmoves : Moves t t') : Holds s id g t' where
  row := by
    obtain ⟨g', hg', hcont⟩ := h.row
    obtain ⟨g'', hg'', hcont'⟩ := hmoves.grants id g' hg'
    exact ⟨g'', hg'', hcont.trans hcont'⟩
  unique := by
    intro j q hq hhash
    rcases hmoves.fresh j q hq with ⟨p, hp⟩ | hfresh
    · obtain ⟨p', hp', hcont⟩ := hmoves.grants j p hp
      obtain rfl := Option.some.inj (hp'.symm.trans hq)
      exact h.unique j p hp (hcont.tokenHash.symm.trans hhash)
    · -- a new row would have the token of the grant
      obtain ⟨g', hg', hcont⟩ := h.row
      exact absurd (hcont.tokenHash.trans hhash.symm) (hfresh g' (List.mem_of_getElem? hg'))
  engagements := by
    intro j e he
    obtain ⟨e', he', hgoes⟩ := h.engagements j e he
    obtain ⟨e'', he'', hgoes'⟩ := hmoves.engagements j e' he'
    exact ⟨e'', he'', hgoes'.periodTo.trans hgoes.periodTo,
      fun hnone => hgoes.revokedAt (hgoes'.revokedAt hnone)⟩
  now := h.now.trans hmoves.now

theorem Holds.exec {history : List Action} (h : Holds s id g t)
    (hrun : Base.exec step t history = some t') : Holds s id g t' :=
  exec_invariant (fun _ _ _ hu hstep => hu.moves (moves_step hstep)) h hrun

theorem revoked_exec {history : List Action} {q : ExternalAccessGrant}
    (hrun : Base.exec step u history = some t) (hq : u.grants[id]? = some q)
    (hrevoked : q.revoked = true) :
    ∃ q', t.grants[id]? = some q' ∧ q'.revoked = true := by
  refine exec_invariant (I := fun v => ∃ q', v.grants[id]? = some q' ∧ q'.revoked = true) ?_
    ⟨q, hq, hrevoked⟩ hrun
  rintro v a w ⟨p, hp, hpr⟩ hstep
  obtain ⟨p', hp', hcont⟩ := (moves_step hstep).grants id p hp
  exact ⟨p', hp', hcont.revoked hpr⟩

/-- An action that ends the grant: its revocation, or that of its engagement. -/
def Ends (id : Nat) (engagementId : Option Nat) : Action → Prop
  | .revokeGrant i => i = id
  | .revokeEngagement e => engagementId = some e
  | _ => False

theorem revoked_of_ends {a : Action} {q : ExternalAccessGrant} (hq : u.grants[id]? = some q)
    (hengagement : ∀ e, q.engagementId = some e → ∃ x, u.engagements[e]? = some x)
    (hends : Ends id q.engagementId a) (hstep : step u a = some t) :
    ∃ q', t.grants[id]? = some q' ∧ q'.revoked = true := by
  cases a with
  | revokeGrant i =>
    obtain rfl : i = id := hends
    obtain rfl := Option.some.inj hstep
    refine ⟨{ q with revoked := true }, ?_, rfl⟩
    simp [revokeGrant, hq]
  | revokeEngagement e =>
    have he : q.engagementId = some e := hends
    obtain ⟨x, hx⟩ := hengagement e he
    obtain rfl := Option.some.inj hstep
    rw [revokeEngagement, hx]
    dsimp only
    rw [List.getElem?_map, hq]
    cases hrevoked : q.revoked with
    | true => exact ⟨q, by simp [hrevoked], hrevoked⟩
    | false => exact ⟨{ q with revoked := true }, by simp [hrevoked, he], rfl⟩
  | _ => exact hends.elim

theorem not_ends_of_unrevoked {history : List Action} (h : Holds s id g s)
    (hengagement : ∀ e, g.engagementId = some e → ∃ x, s.engagements[e]? = some x)
    (hrun : Base.exec step s history = some t) {q : ExternalAccessGrant}
    (hq : t.grants[id]? = some q) (hunrevoked : q.revoked = false) :
    ∀ a ∈ history, ¬Ends id g.engagementId a := by
  intro a ha hends
  obtain ⟨before, after, rfl⟩ := List.append_of_mem ha
  obtain ⟨u, hbefore, hrest⟩ := exec_append_eq_some.mp hrun
  obtain ⟨v, hstep, hafter⟩ := exec_cons_eq_some.mp hrest
  have hu := h.exec hbefore
  obtain ⟨p, hp, hcont⟩ := hu.row
  rw [← hcont.engagementId] at hends
  obtain ⟨p', hp', hrevoked⟩ := revoked_of_ends hp (fun e he => by
    obtain ⟨x, hx⟩ := hengagement e (hcont.engagementId ▸ he)
    obtain ⟨x', hx', -⟩ := hu.engagements e x hx
    exact ⟨x', hx'⟩) hends hstep
  obtain ⟨q', hq', hrevoked'⟩ := revoked_exec hafter hp' hrevoked
  obtain rfl := Option.some.inj (hq'.symm.trans hq)
  rw [hunrevoked] at hrevoked'
  cases hrevoked'

end Holds

/-! ## Resolving -/

/-- What a row that resolves has. -/
structure Active (s : Tables) (g : ExternalAccessGrant) : Prop where
  unrevoked : g.revoked = false
  inTime : ∀ e, g.expiresAt = some e → s.now ≤ e
  engagement : ∀ e, g.engagementId = some e →
    ∃ x, s.engagements[e]? = some x ∧ x.revokedAt = none ∧ s.now ≤ x.periodTo

theorem active_of_valid {s : Tables} {g : ExternalAccessGrant} (h : valid s g = true) :
    Active s g := by
  rw [valid, decide_eq_true_eq] at h
  unfold grantStatus at h
  split at h
  case isTrue => cases h
  case isFalse hrevoked =>
    split at h
    case isTrue => cases h
    case isFalse hexpired =>
      split at h
      case isTrue => cases h
      case isFalse hended =>
        refine ⟨Bool.eq_false_iff.mpr hrevoked, fun e he => ?_, fun e he => ?_⟩
        · rw [he, Option.any_some, decide_eq_true_eq] at hexpired
          omega
        · rw [he, Option.any_some, decide_eq_true_eq, not_not] at hended
          obtain ⟨-, hcurrent⟩ := List.mem_filter.mp hended
          obtain ⟨x, hx, hp⟩ := (Option.any_eq_true _ _).mp hcurrent
          exact ⟨x, hx, of_decide_eq_true hp⟩

theorem eq_of_resolveGrantById {s : Tables} {i k : Nat} (h : resolveGrantById s i = some k) :
    k = i ∧ ∃ g, s.grants[i]? = some g ∧ Active s g := by
  unfold resolveGrantById at h
  split at h
  case isTrue hvalid =>
    obtain ⟨g, hg, hvalid⟩ := (Option.any_eq_true _ _).mp hvalid
    exact ⟨(Option.some.inj h).symm, g, hg, active_of_valid hvalid⟩
  case isFalse => cases h

/-- What is presented of a grant: its token, or a cookie. -/
inductive Credential
  | token (text : Text)
  | cookie (value : Text)

def Resolves (r : JsonReader) (baseSecret : Text) (s : Tables) : Credential → Prop
  | .token text => ∃ id, resolveGrant s text = some id
  | .cookie value => ∃ id, grantFromCookie r baseSecret s value = .ok (some id)

/-- What can be presented after a history: the token, and the cookies that it was exchanged for
on the way. -/
inductive Obtained (baseSecret : Text) (s : Tables) (token : Token) (history : List Action) :
    Credential → Prop
  | token : Obtained baseSecret s token history (.token token.text)
  | cookie (before after : List Action) (u : Tables) (value : Text)
      (hsplit : history = before ++ after) (hrun : exec step s before = some u)
      (hui : portalUi baseSecret u token.text = some value) :
      Obtained baseSecret s token history (.cookie value)

section Resolves

variable {s t u : Tables} {token : Token} {g : ExternalAccessGrant} {id : Nat}

theorem Holds.resolveGrant (h : Holds s id g t) (hash : g.tokenHash = hashToken token.text)
    {k : Nat} (hresolve : Portal.resolveGrant t token.text = some k) :
    k = id ∧ ∃ q, t.grants[id]? = some q ∧ Active t q := by
  unfold Portal.resolveGrant at hresolve
  split at hresolve
  case isTrue => cases hresolve
  case isFalse =>
    obtain ⟨j, hj, hbyId⟩ := Option.bind_eq_some_iff.mp hresolve
    obtain ⟨hlt, hhash, -⟩ := List.findIdx?_eq_some_iff_getElem.mp hj
    obtain rfl := h.unique j t.grants[j] (List.getElem?_eq_getElem hlt)
      ((of_decide_eq_true hhash).trans hash.symm)
    exact eq_of_resolveGrantById hbyId

theorem printable_of_lt {i : Int} (h : i.natAbs < 10 ^ 20) : Printable i := by
  have hlen := (Nat.length_toDigits_le_iff (b := 10) (k := 20) (by decide) (by decide)).mpr h
  exact hlen.trans (by decide)

theorem natAbs_truncate_lt {x : Rat} {n : Nat} (h : |x| < n) : (truncate x).natAbs < n := by
  rw [truncate, Int.natAbs_tdiv, Int.natAbs_natCast]
  refine Nat.div_lt_of_lt_mul ?_
  have hden : (0 : Rat) < x.den := by exact_mod_cast x.den_pos
  have hnum : ((x.num.natAbs : Nat) : Rat) = |x| * x.den := by
    rw [Nat.cast_natAbs, Int.cast_abs, ← Rat.mul_den_eq_num, abs_mul, abs_of_pos hden]
  have hlt : ((x.num.natAbs : Nat) : Rat) < ((x.den * n : Nat) : Rat) := by
    rw [hnum, Nat.cast_mul, mul_comm]
    exact mul_lt_mul_of_pos_left h hden
  exact_mod_cast hlt

theorem natAbs_seconds_lt {now : Int} (h : isDatetime now = true) :
    (truncate (seconds now)).natAbs < 1000000000000 := by
  refine natAbs_truncate_lt (abs_lt.mpr ?_)
  have hrange := of_decide_eq_true h
  have hlow : (-62135596800000000 : Rat) ≤ now := by exact_mod_cast hrange.1
  have hhigh : (now : Rat) ≤ 253402300799999999 := by exact_mod_cast hrange.2
  unfold seconds
  constructor
  · linarith
  · linarith

theorem natAbs_portalCookieTtlHours_le (g : ExternalAccessGrant) (now : Int) :
    (portalCookieTtlHours g now).natAbs ≤ 24 := by
  unfold portalCookieTtlHours
  split
  · decide
  · omega

theorem Holds.grantFromCookie (hu : Holds s id g u) (ht : Holds s id g t)
    (hash : g.tokenHash = hashToken token.text) (hid : id ≤ 2147483647) {r : JsonReader}
    {baseSecret value : Text} (hui : portalUi baseSecret u token.text = some value) {k : Nat}
    (hcookie : Portal.grantFromCookie r baseSecret t value = .ok (some k)) :
    ∃ q, t.grants[id]? = some q ∧ Active t q := by
  unfold portalUi at hui
  split at hui
  case isFalse => cases hui
  case isTrue hclock =>
    obtain ⟨i, hi, hui⟩ := Option.bind_eq_some_iff.mp hui
    obtain ⟨q, -, rfl⟩ := Option.map_eq_some_iff.mp hui
    obtain ⟨rfl, -⟩ := hu.resolveGrant hash hi
    have hhours := natAbs_portalCookieTtlHours_le q u.now
    have hseconds := natAbs_seconds_lt hclock
    have hid : Printable (i : Int) := printable_of_lt (by omega)
    have hexp : Printable (truncate (seconds u.now) + portalCookieTtlHours q u.now * 3600) :=
      printable_of_lt (by omega)
    have hsv : Printable 0 := by decide
    have hread := readSession_signed r (portalSecret baseSecret) hid hexp hsv (seconds t.now)
    unfold Portal.grantFromCookie at hcookie
    split at hcookie
    case isTrue => cases hcookie
    case isFalse =>
      obtain ⟨claimed, hclaimed, hresolve⟩ := map_eq_ok.mp hcookie
      rw [signSession, hread, Except.ok.injEq] at hclaimed
      split at hclaimed
      · rw [← hclaimed] at hresolve
        cases hresolve
      · rw [← hclaimed] at hresolve
        exact (eq_of_resolveGrantById hresolve).2

end Resolves

/-! ## The promise -/

/-- What has to hold of a time at which a grant resolves: it is not past the promised days nor
past the period of the engagement, and neither the grant nor the engagement was revoked. -/
structure Lasting (s : Tables) (req : GrantRequest) (ttl : Int) (id : Nat) (history : List Action)
    (t : Tables) : Prop where
  inTime : t.now ≤ s.now + ttl * day
  unrevoked : ∀ a ∈ history, ¬Ends id req.engagementId a
  engagement : ∀ e, req.engagementId = some e →
    ∃ x, t.engagements[e]? = some x ∧ x.revokedAt = none ∧ t.now ≤ x.periodTo

/-- **What is promised of a grant**, from its issue on. -/
structure EndsAsPromised (r : JsonReader) (baseSecret : Text) (s : Tables) (req : GrantRequest)
    (ttl : Int) (id : Nat) (token : Token) : Prop where
  lasting : ∀ history t c, exec step s history = some t →
    Obtained baseSecret s token history c → Resolves r baseSecret t c →
    Lasting s req ttl id history t
  capped : ∀ e x g, req.engagementId = some e → s.engagements[e]? = some x →
    s.grants[id]? = some g → ∃ expires, g.expiresAt = some expires ∧ expires ≤ x.periodTo

section Promise

variable {s s' : Tables} {req : GrantRequest} {token : Token} {issued : Issued}
  {g : ExternalAccessGrant} {ttl : Int}

theorem requireEngagement_eq_ok {engagement : Option AssessmentEngagement}
    (h : requireEngagement s req = .ok engagement) : engagement = req.engagementId.bind
      (s.engagements[·]?) ∧ ∀ e, req.engagementId = some e → ∃ x, s.engagements[e]? = some x := by
  unfold requireEngagement at h
  cases hreq : req.engagementId with
  | none =>
    rw [hreq] at h
    exact ⟨(Except.ok.inj h).symm, nofun⟩
  | some e =>
    rw [hreq] at h
    dsimp only at h
    cases hx : s.engagements[e]?.filter (·.organizationId = req.orgId) with
    | none =>
      rw [hx] at h
      cases h
    | some x =>
      obtain ⟨hx', -⟩ := Option.filter_eq_some_iff.mp hx
      rw [hx] at h
      dsimp only at h
      split at h
      · cases h
      · split at h
        · cases h
        · refine ⟨?_, fun i hi => ?_⟩
          · rw [Option.bind_some, hx', ← Except.ok.inj h]
          · obtain rfl := Option.some.inj hi
            exact ⟨x, hx'⟩

theorem expiresAt_of_ne_zero (h : IsIssue s req token s' issued g) (httl : req.ttlDays = some ttl)
    (hne : ttl ≠ 0) : ∃ expires, g.expiresAt = some expires ∧ expires ≤ s'.now + ttl * day ∧
      ∀ e x, req.engagementId = some e → s'.engagements[e]? = some x → expires ≤ x.periodTo := by
  obtain ⟨engagement, expiresAt, hengagement, hexpiry, hrow⟩ := h.expiresAt
  obtain ⟨rfl, -⟩ := requireEngagement_eq_ok hengagement
  rw [httl, expiry, if_neg hne] at hexpiry
  split at hexpiry
  case isFalse => cases hexpiry
  case isTrue =>
    obtain rfl := Except.ok.inj hexpiry
    rw [hrow, h.now, h.engagements]
    cases hreq : req.engagementId with
    | none => exact ⟨_, rfl, le_refl _, nofun⟩
    | some e =>
      rw [Option.bind_some]
      cases hx : s.engagements[e]? with
      | none => exact ⟨_, rfl, le_refl _, fun i x hi hget => by
          rw [← Option.some.inj hi, hx] at hget
          cases hget⟩
      | some x =>
        have hsame : ∀ i y, some e = some i → s.engagements[i]? = some y → y = x := by
          intro i y hi hget
          rw [← Option.some.inj hi, hx] at hget
          exact (Option.some.inj hget).symm
        unfold capExpiry
        dsimp only
        split
        · exact ⟨_, rfl, by omega, fun i y hi hget => by rw [hsame i y hi hget]⟩
        · exact ⟨_, rfl, le_refl _, fun i y hi hget => by rw [hsame i y hi hget]; omega⟩

theorem expiresAt_of_zero (h : IsIssue s req token s' issued g) (httl : req.ttlDays = some 0) :
    g.expiresAt = none := by
  obtain ⟨engagement, expiresAt, -, hexpiry, hrow⟩ := h.expiresAt
  rw [httl, expiry] at hexpiry
  obtain rfl := Except.ok.inj hexpiry
  rw [hrow]
  cases engagement with
  | none => rfl
  | some e => rfl

theorem lasting_of_active (h : IsIssue s req token s' issued g) {expires : Int}
    (hexpires : g.expiresAt = some expires) (hle : expires ≤ s'.now + ttl * day)
    {history : List Action} {t : Tables} (hrun : exec step s' history = some t)
    {q : ExternalAccessGrant} (hq : t.grants[issued.id]? = some q) (hactive : Active t q) :
    Lasting s' req ttl issued.id history t := by
  obtain ⟨p, hp, hcont⟩ := ((holds_issue h).exec hrun).row
  obtain rfl := Option.some.inj (hp.symm.trans hq)
  have hengagement : p.engagementId = req.engagementId := hcont.engagementId.trans h.engagementId
  refine ⟨?_, ?_, fun e he => hactive.engagement e (hengagement.trans he)⟩
  · exact (hactive.inTime expires (hcont.expiresAt.trans hexpires)).trans hle
  · rw [← h.engagementId]
    refine not_ends_of_unrevoked (holds_issue h) (fun e he => ?_) hrun hq hactive.unrevoked
    obtain ⟨engagement, expiresAt, hok, -⟩ := h.expiresAt
    obtain ⟨x, hx⟩ := (requireEngagement_eq_ok hok).2 e (h.engagementId ▸ he)
    exact ⟨x, h.engagements ▸ hx⟩

theorem active_of_resolves (h : IsIssue s req token s' issued g) {r : JsonReader}
    {baseSecret : Text} {history : List Action} {t : Tables} {c : Credential}
    (hrun : exec step s' history = some t) (hc : Obtained baseSecret s' token history c)
    (hresolves : Resolves r baseSecret t c) :
    ∃ q, t.grants[issued.id]? = some q ∧ Active t q := by
  have ht := (holds_issue h).exec hrun
  cases hc with
  | token =>
    obtain ⟨k, hk⟩ := hresolves
    exact (ht.resolveGrant h.tokenHash hk).2
  | cookie before after u value hsplit hbefore hui =>
    obtain ⟨k, hk⟩ := hresolves
    exact ((holds_issue h).exec hbefore).grantFromCookie ht h.tokenHash h.small hui hk

theorem resolveGrant_of_zero (h : IsIssue s req token s' issued g)
    (hengagement : req.engagementId = none) (hexpires : g.expiresAt = none) (now : Int) :
    resolveGrant { s' with now := now } token.text = some issued.id := by
  obtain ⟨q, hq, -⟩ := (holds_issue h).row
  have hlast : s'.grants[issued.id]? = some g := by
    rw [h.grants, h.id, List.getElem?_append_right (le_refl _), Nat.sub_self]
    rfl
  have hvalid : valid { s' with now := now } g = true := by
    rw [valid, grantStatus, h.unrevoked, hexpires, h.engagementId, hengagement]
    rfl
  have hfind : (s'.grants.findIdx? fun q => q.tokenHash = hashToken token.text) =
      some issued.id := by
    rw [h.grants, List.findIdx?_append, List.findIdx?_eq_none_iff.mpr, h.id]
    · simp [h.tokenHash]
    · exact fun q hq => decide_eq_false (h.fresh q hq)
  rw [resolveGrant, List.isEmpty_eq_false_iff.mpr token.drawn, hfind]
  simp [resolveGrantById, hlast, hvalid]

/-- **When a grant ends as promised**: unless it was promised for no days. -/
theorem promise_kept_iff {repr : Text → Text} (hissue : createGrant repr s req token =
    .ok (s', issued)) (httl : req.ttlDays = some ttl) (r : JsonReader) (baseSecret : Text) :
    EndsAsPromised r baseSecret s' req ttl issued.id token ↔ ttl ≠ 0 := by
  obtain ⟨g, h⟩ := isIssue_of_createGrant hissue
  have hrow : s'.grants[issued.id]? = some g := by
    rw [h.grants, h.id, List.getElem?_append_right (le_refl _), Nat.sub_self]
    rfl
  constructor
  · rintro hends rfl
    have hexpires := expiresAt_of_zero h httl
    cases hreq : req.engagementId with
    | none =>
      -- a microsecond later
      have hrun : exec step s' [.elapse 1] = some { s' with now := s'.now + 1 } := rfl
      have hlasting := hends.lasting [.elapse 1] _ _ hrun .token
        ⟨issued.id, resolveGrant_of_zero h hreq hexpires _⟩
      have hin := hlasting.inTime
      dsimp only at hin
      omega
    | some e =>
      obtain ⟨engagement, expiresAt, hok, -⟩ := h.expiresAt
      obtain ⟨x, hx⟩ := (requireEngagement_eq_ok hok).2 e hreq
      obtain ⟨expires, hsome, -⟩ := hends.capped e x g hreq (h.engagements ▸ hx) hrow
      rw [hexpires] at hsome
      cases hsome
  · intro hne
    obtain ⟨expires, hexpires, hle, hcap⟩ := expiresAt_of_ne_zero h httl hne
    refine ⟨fun history t c hrun hc hresolves => ?_, fun e x q he hx hq => ?_⟩
    · obtain ⟨q, hq, hactive⟩ := active_of_resolves h hrun hc hresolves
      exact lasting_of_active h hexpires hle hrun hq hactive
    · obtain rfl := Option.some.inj (hq.symm.trans hrow)
      exact ⟨expires, hexpires, hcap e x he hx⟩

end Promise

/-! ## An assessor of one system -/

theorem assessorToken_drawn : "t".toList ≠ [] := by decide

def assessorToken : Token where
  text := "t".toList
  drawn := assessorToken_drawn

def tenDays : Tables where
  principals := [{ organizationId := 1, kind := "assessor".toList }]
  engagements := [{ organizationId := 1, periodTo := 10 * day, revokedAt := none }]
  grants := []
  now := 0

def assessorRequest (ttlDays : Int) : GrantRequest where
  orgId := 1
  principalName := []
  kind := "assessor".toList
  packageIds := []
  ttlDays := some ttlDays
  engagementId := some 0
  principalId := some 0

def plainReader : JsonReader where
  float := fun _ => Number.ofNat 0
  decode := fun _ => none
  less := fun _ _ => none

/-- Thirty days are cut to the ten of the engagement. -/
theorem thirtyDays_kept :
    ∃ s issued, createGrant id tenDays (assessorRequest 30) assessorToken = .ok (s, issued) ∧
      EndsAsPromised plainReader [] s (assessorRequest 30) 30 issued.id assessorToken := by
  have hissue : createGrant id tenDays (assessorRequest 30) assessorToken = .ok (_, _) := rfl
  exact ⟨_, _, hissue, (promise_kept_iff hissue rfl plainReader []).mpr (by decide)⟩

/-- A grant of no days has no expiry, under an engagement too. -/
theorem noDays_not_kept :
    ∃ s issued, createGrant id tenDays (assessorRequest 0) assessorToken = .ok (s, issued) ∧
      ¬EndsAsPromised plainReader [] s (assessorRequest 0) 0 issued.id assessorToken := by
  refine ⟨_, _, rfl, fun h => ?_⟩
  obtain ⟨expires, hexpires, -⟩ := h.capped 0 _ _ rfl rfl rfl
  cases hexpires

end Concord.Portal
