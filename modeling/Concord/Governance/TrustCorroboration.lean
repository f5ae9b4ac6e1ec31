import Concord.Base.Counts
import Concord.Base.Raises
import Concord.Packs.Catalog
import Concord.Python.Dates
import Concord.Python.Equality
import Concord.Python.JsonDict

/-!
# What the platform can back on the trust page

`corroborate_badges` of `ccf/governance/trust_corroboration.py`. The stored badges are any JSON,
and the facts are counts over the systems of an organisation and a look for one package.

By the counts, a claim is corroborated where the organisation has a record that backs it, and only
an authorisation is ever contradicted (`state_stateFor`). The module says that it never fails over
what an operator typed, and that what it contradicts has systems. Neither is so: a status that is
no text has no `strip`, a number is not iterated, and deleted systems are counted
(`corroborates_iff`).
-/

namespace Concord.Governance.Trust

open Concord.Base
open Concord.Python
open Concord.Packs.Catalog (Failure iterate)

/-! ## `classify_claim` -/

/-- What a badge claims. -/
inductive Claim
  | authorized | inProgress | expired
  deriving DecidableEq

/-- `str.lower` of one character, as far as the words below can tell: besides the ASCII capitals,
only the dotted I has a letter of theirs in its lower case. -/
def lower (c : Char) : Text := if c = 'İ' then ['i', '\u0307'] else [c.toLower]

/-- `any(word in s for word in words)`. -/
def mentions (words : List String) (s : Text) : Bool := words.any fun word => word.toList <:+: s

/-- `classify_claim` of a text. -/
def claimOf (status : Text) : Option Claim :=
  let s := (strip status).flatMap lower
  if s = [] then none
  else if mentions ["expir", "lapsed"] s then some .expired
  else if mentions ["progress", "underway", "pursuing"] s then some .inProgress
  else if mentions ["authoriz", "authoris", "certifi", "accredit"] s then some .authorized
  else none

/-- `classify_claim`, of what a badge has as its status: only a text has a `strip`. -/
def classifyClaim (status : Option Json) : Except Failure (Option Claim) :=
  match status.filter Json.truthy with
  | none => .ok none
  | some (.str s) => .ok (claimOf s)
  | some _ => .error .attributeError

/-! ## The facts -/

/-- The `ato_status` enumeration. -/
inductive AtoStatus
  | nothing | inProgress | authorized | expired
  deriving DecidableEq

/-- A row of `systems`. -/
structure System where
  id : Nat
  organizationId : Nat
  name : Text
  atoStatus : Option AtoStatus
  atoExpiresOn : Option Date
  deletedAt : Option Int

/-- A row of `authorization_packages`. -/
structure Package where
  organizationId : Option Nat
  systemId : Option Nat

/-- The tables, the systems as they are ordered by name and id. -/
structure Db where
  systems : List System
  packages : List Package

/-- `ExpiredAuthorization`. -/
structure ExpiredAuthorization where
  systemId : Nat
  systemName : Text
  atoStatus : Option AtoStatus
  expiresOn : Option Date

/-- `OrgAuthorizationFacts`. -/
structure Facts where
  systemCount : Nat
  authorizedCurrent : Nat
  inProgress : Nat
  packages : Nat
  expired : List ExpiredAuthorization

/-- `holds_nothing`. -/
def Facts.holdsNothing (facts : Facts) : Prop := facts.systemCount = 0 ∧ facts.packages = 0

instance (facts : Facts) : Decidable facts.holdsNothing := inferInstanceAs (Decidable (_ ∧ _))

/-- `_org_systems`: without an organisation, every system. -/
def Db.systemsOf (db : Db) (orgId : Option Nat) : List System :=
  db.systems.filter fun row => ∀ org ∈ orgId, row.organizationId = org

def Db.packagesOf (db : Db) (orgId : Option Nat) : List Package :=
  db.packages.filter fun row => ∀ org ∈ orgId, row.organizationId = some org

/-- `lapsed`. -/
def System.lapsed (today : Date) (row : System) : Bool :=
  row.atoStatus = some .expired || row.atoExpiresOn.any (·.lt today)

/-- The authorisation of the system is a current one. -/
def System.currentlyAuthorized (today : Date) (row : System) : Bool :=
  row.atoStatus = some .authorized && !row.lapsed today

def note (today : Date) (facts : Facts) (row : System) : Facts :=
  { facts with
    expired := if row.lapsed today then
        facts.expired ++ [⟨row.id, row.name, row.atoStatus, row.atoExpiresOn⟩]
      else facts.expired
    authorizedCurrent := facts.authorizedCurrent + if row.currentlyAuthorized today then 1 else 0
    inProgress := facts.inProgress + if row.atoStatus = some .inProgress then 1 else 0 }

/-- `authorization_facts`, with one package at most. -/
def authorizationFacts (today : Date) (db : Db) (orgId : Option Nat) : Facts :=
  let rows := db.systemsOf orgId
  rows.foldl (note today)
    ⟨rows.length, 0, 0, ((db.packagesOf orgId).take 1).length, []⟩

/-! ## The states -/

/-- The three states. -/
inductive State
  | corroborated | unsupported | contradicted
  deriving DecidableEq

/-- `UNSUPPORTED_DETAIL`. -/
def unsupportedDetail : Text :=
  ("Concord holds no authorization record for this organization's systems. " ++
    "That is a statement about what the platform has been told, not about this claim.").toList

/-- `_authorized_state`. -/
def authorizedState (facts : Facts) : State × Text :=
  if facts.authorizedCurrent ≠ 0 then
    (.corroborated, "Concord's records show ".toList ++ natText facts.authorizedCurrent ++
      " system(s) in this organization with a current authorization.".toList)
  else
    (.contradicted, "Concord holds ".toList ++ natText facts.systemCount ++
      (" system(s) for this organization and none of them records a current authorization. " ++
        "Record the authorization, or correct the badge.").toList)

/-- `_in_progress_state`. -/
def inProgressState (facts : Facts) : State × Text :=
  if facts.inProgress ≠ 0 then
    (.corroborated, "Concord's records show ".toList ++ natText facts.inProgress ++
      " system(s) in this organization with an authorization in progress.".toList)
  else if facts.packages ≠ 0 then
    (.corroborated,
      "Concord holds an authorization package for a system in this organization.".toList)
  else (.unsupported, unsupportedDetail)

/-- `_expired_state`. -/
def expiredState (facts : Facts) : State × Text :=
  if facts.expired ≠ [] then
    (.corroborated, "Concord's records show ".toList ++ natText facts.expired.length ++
      " system(s) in this organization with a lapsed authorization.".toList)
  else (.unsupported, unsupportedDetail)

/-- `_CLAIM_RULES`. -/
def claimRule : Claim → Facts → State × Text
  | .authorized => authorizedState
  | .inProgress => inProgressState
  | .expired => expiredState

/-- `_state_for`. -/
def stateFor (claim : Option Claim) (facts : Facts) : State × Text :=
  match claim with
  | none => (.unsupported, unsupportedDetail)
  | some claim =>
    if facts.holdsNothing then (.unsupported, unsupportedDetail) else claimRule claim facts

/-- `BadgeCorroboration`. -/
structure BadgeCorroboration where
  badge : Json
  claim : Option Claim
  state : State
  detail : Text

/-- `TrustCorroboration`. -/
structure TrustCorroboration where
  badges : List BadgeCorroboration
  facts : Facts

/-- What the loop makes of a badge that is a dict. -/
def annotate (facts : Facts) (badge : Json) : Except Failure BadgeCorroboration := do
  let claim ← classifyClaim (badge.get? "status".toList)
  let (state, detail) := stateFor claim facts
  return ⟨badge, claim, state, detail⟩

/-- What `for badge in badges or []` goes through. -/
def rowsOf (badges : Json) : Except Failure (List Json) :=
  if badges.truthy then iterate badges else .ok []

/-- `corroborate_badges`: what is no dict is skipped. -/
def corroborateBadges (today : Date) (db : Db) (badges : Json) (orgId : Option Nat) :
    Except Failure TrustCorroboration := do
  let facts := authorizationFacts today db orgId
  let rows ← rowsOf badges
  let out ← (rows.filter Json.isDict).mapM (annotate facts)
  return ⟨out, facts⟩

/-! ## What the records back -/

/-- The system's record says what the claim does. -/
def Claim.backedBy (today : Date) (row : System) : Claim → Bool
  | .authorized => row.currentlyAuthorized today
  | .inProgress => row.atoStatus = some .inProgress
  | .expired => row.lapsed today

/-- One of the systems backs the claim, or a package does, which is there for an authorisation in
progress. -/
def Backed (today : Date) (systems : List System) (packages : List Package) (claim : Claim) :
    Prop :=
  (∃ row ∈ systems, claim.backedBy today row) ∨ claim = .inProgress ∧ packages ≠ []

instance (today : Date) (systems : List System) (packages : List Package) (claim : Claim) :
    Decidable (Backed today systems packages claim) :=
  inferInstanceAs (Decidable (_ ∨ _))

section Facts

variable {today : Date} {db : Db} {orgId : Option Nat}

theorem authorizedCurrent_eq : (authorizationFacts today db orgId).authorizedCurrent =
    (db.systemsOf orgId).countP (·.currentlyAuthorized today) :=
  (foldl_count Facts.authorizedCurrent (fun _ _ => rfl) _ _).trans (Nat.zero_add _)

theorem inProgress_eq : (authorizationFacts today db orgId).inProgress =
    (db.systemsOf orgId).countP (·.atoStatus = some .inProgress) := by
  refine (foldl_count Facts.inProgress (fun facts row => ?_) _ _).trans (Nat.zero_add _)
  simp only [note, decide_eq_true_eq]

theorem length_expired : (authorizationFacts today db orgId).expired.length =
    (db.systemsOf orgId).countP (·.lapsed today) := by
  refine (foldl_count (fun facts : Facts => facts.expired.length) (fun facts row => ?_) _ _).trans
    (Nat.zero_add _)
  dsimp only [note]
  split
  · exact List.length_append
  · rfl

theorem foldl_note (today : Date) (rows : List System) (facts : Facts) :
    (rows.foldl (note today) facts).systemCount = facts.systemCount ∧
      (rows.foldl (note today) facts).packages = facts.packages := by
  induction rows generalizing facts with
  | nil => exact ⟨rfl, rfl⟩
  | cons row rows ih => exact ih (note today facts row)

theorem holdsNothing_iff : (authorizationFacts today db orgId).holdsNothing ↔
    db.systemsOf orgId = [] ∧ db.packagesOf orgId = [] := by
  obtain ⟨hsystems, hpackages⟩ := foldl_note today (db.systemsOf orgId)
    ⟨(db.systemsOf orgId).length, 0, 0, ((db.packagesOf orgId).take 1).length, []⟩
  rw [Facts.holdsNothing, authorizationFacts, hsystems, hpackages]
  dsimp only
  rw [List.length_eq_zero_iff, List.length_eq_zero_iff, List.take_eq_nil_iff]
  simp

theorem packages_ne_zero : (authorizationFacts today db orgId).packages ≠ 0 ↔
    db.packagesOf orgId ≠ [] := by
  rw [authorizationFacts, (foldl_note _ _ _).2, Ne, List.length_eq_zero_iff, List.take_eq_nil_iff]
  simp

theorem countP_ne_zero {α : Type} {p : α → Bool} {rows : List α} :
    rows.countP p ≠ 0 ↔ ∃ row ∈ rows, p row := by
  rw [← Nat.pos_iff_ne_zero, List.countP_pos_iff]

theorem state_claimRule (claim : Claim) :
    (claimRule claim (authorizationFacts today db orgId)).1 =
      if Backed today (db.systemsOf orgId) (db.packagesOf orgId) claim then .corroborated
      else if claim = .authorized then .contradicted
      else .unsupported := by
  cases claim with
  | authorized =>
    have hbacked : Backed today (db.systemsOf orgId) (db.packagesOf orgId) .authorized ↔
        (authorizationFacts today db orgId).authorizedCurrent ≠ 0 := by
      rw [authorizedCurrent_eq, countP_ne_zero, Backed]
      simp [Claim.backedBy]
    simp only [hbacked, claimRule, authorizedState]
    split <;> rfl
  | inProgress =>
    have hbacked : Backed today (db.systemsOf orgId) (db.packagesOf orgId) .inProgress ↔
        (authorizationFacts today db orgId).inProgress ≠ 0 ∨
          (authorizationFacts today db orgId).packages ≠ 0 := by
      rw [inProgress_eq, countP_ne_zero, packages_ne_zero, Backed]
      simp [Claim.backedBy]
    simp only [hbacked, claimRule, inProgressState]
    split
    · next h => rw [if_pos (.inl h)]
    · next h =>
      split
      · next h' => rw [if_pos (.inr h')]
      · next h' => rw [if_neg (not_or.mpr ⟨h, h'⟩)]; rfl
  | expired =>
    have hbacked : Backed today (db.systemsOf orgId) (db.packagesOf orgId) .expired ↔
        (authorizationFacts today db orgId).expired ≠ [] := by
      rw [Ne, ← List.length_eq_zero_iff, ← Ne, length_expired, countP_ne_zero, Backed]
      simp [Claim.backedBy]
    simp only [hbacked, claimRule, expiredState]
    split <;> rfl

/-- **What a claim is said to be**: corroborated by the records that back it, and contradicted
only where it is an authorisation, nothing backs it and something is held. -/
theorem state_stateFor (today : Date) (db : Db) (orgId : Option Nat) (claim : Claim) :
    ((stateFor (some claim) (authorizationFacts today db orgId)).1 = .corroborated ↔
      Backed today (db.systemsOf orgId) (db.packagesOf orgId) claim) ∧
    ((stateFor (some claim) (authorizationFacts today db orgId)).1 = .contradicted ↔
      claim = .authorized ∧
        ¬Backed today (db.systemsOf orgId) (db.packagesOf orgId) claim ∧
        ¬(db.systemsOf orgId = [] ∧ db.packagesOf orgId = [])) := by
  by_cases hnothing : (authorizationFacts today db orgId).holdsNothing
  · have hstate : (stateFor (some claim) (authorizationFacts today db orgId)).1 = .unsupported :=
      congrArg Prod.fst (if_pos hnothing)
    -- with nothing held there is nothing to back a claim
    have hnone := holdsNothing_iff.mp hnothing
    rw [hstate]
    refine ⟨iff_of_false (by decide) ?_, iff_of_false (by decide) fun h => h.2.2 hnone⟩
    rintro (⟨row, hrow, -⟩ | ⟨-, hne⟩)
    · rw [hnone.1] at hrow
      cases hrow
    · exact hne hnone.2
  · have hstate : (stateFor (some claim) (authorizationFacts today db orgId)).1 =
        (claimRule claim (authorizationFacts today db orgId)).1 :=
      congrArg Prod.fst (if_neg hnothing)
    rw [hstate, state_claimRule]
    rw [holdsNothing_iff] at hnothing
    split
    · next h => exact ⟨iff_of_true rfl h, iff_of_false (by decide) fun hno => hno.2.1 h⟩
    · next h =>
      refine ⟨iff_of_false ?_ h, ?_⟩
      · split <;> decide
      · split
        · next hclaim => exact iff_of_true rfl ⟨hclaim, h, hnothing⟩
        · next hclaim => exact iff_of_false (by decide) fun hno => hclaim hno.1

end Facts

/-! ## The badges -/

def badgeObjects : Json → List Json
  | .arr items => items.filter Json.isDict
  | _ => []

/-- What the status of a badge claims, of those that are a text. -/
def claimOfBadge (badge : Json) : Option Claim :=
  ((badge.get? "status".toList).bind Json.str?).bind claimOf

/-- A status is a text, or Python takes it for false. -/
def ReadableStatus (badge : Json) : Prop :=
  ∀ status ∈ badge.get? "status".toList, status.truthy → ∃ s, status = .str s

/-- What is stored is no number but zero and not `true`, and each badge has a readable status. -/
def Readable (badges : Json) : Prop :=
  (∀ n, badges = .num n → n.isZero) ∧ badges ≠ .bool true ∧
    ∀ badge ∈ badgeObjects badges, ReadableStatus badge

def annotated (facts : Facts) (badge : Json) : BadgeCorroboration where
  badge := badge
  claim := claimOfBadge badge
  state := (stateFor (claimOfBadge badge) facts).1
  detail := (stateFor (claimOfBadge badge) facts).2

section Badges

variable {today : Date} {db : Db} {orgId : Option Nat} {badges badge : Json} {facts : Facts}

theorem classifyClaim_of_readable (h : ReadableStatus badge) :
    classifyClaim (badge.get? "status".toList) = .ok (claimOfBadge badge) := by
  unfold ReadableStatus at h
  unfold classifyClaim claimOfBadge
  cases hstatus : badge.get? "status".toList with
  | none => rfl
  | some status =>
    by_cases htruthy : status.truthy
    · obtain ⟨s, rfl⟩ := h status hstatus htruthy
      rw [Option.filter_some, if_pos htruthy]
      rfl
    · rw [Option.filter_some, if_neg htruthy, Option.bind_some]
      cases status with
      | str s =>
        have hs : s = [] := by simpa [Json.truthy] using htruthy
        rw [hs]
        rfl
      | _ => rfl

theorem readable_of_classifyClaim {claim : Option Claim}
    (h : classifyClaim (badge.get? "status".toList) = .ok claim) : ReadableStatus badge := by
  intro status hstatus htruthy
  rw [Option.mem_def.mp hstatus, classifyClaim, Option.filter_some, if_pos htruthy] at h
  cases status with
  | str s => exact ⟨s, rfl⟩
  | _ => cases h

theorem annotate_of_readable (h : ReadableStatus badge) :
    annotate facts badge = .ok (annotated facts badge) := by
  rw [annotate, classifyClaim_of_readable h]
  rfl

theorem succeeds_annotate : Succeeds (annotate facts badge) ↔ ReadableStatus badge := by
  constructor
  · intro h
    obtain ⟨claim, hclaim, -⟩ := succeeds_bind.mp h
    exact readable_of_classifyClaim hclaim
  · exact fun h => ⟨_, annotate_of_readable h⟩

theorem rowsOf_badges (hnum : ∀ n, badges = .num n → n.isZero) (htrue : badges ≠ .bool true) :
    ∃ rows, rowsOf badges = .ok rows ∧ rows.filter Json.isDict = badgeObjects badges := by
  -- the characters of a text and the keys of a dict are no badges
  have htexts : ∀ (texts : List Text),
      (texts.map Json.str).filter Json.isDict = [] := by
    intro texts
    refine List.filter_eq_nil_iff.mpr fun item hitem => ?_
    obtain ⟨t, -, rfl⟩ := List.mem_map.mp hitem
    exact Bool.false_ne_true
  unfold rowsOf
  by_cases htruthy : badges.truthy
  · rw [if_pos htruthy]
    cases badges with
    | null => cases htruthy
    | bool b =>
      cases b with
      | false => cases htruthy
      | true => exact absurd rfl htrue
    | num n =>
      rw [Json.truthy, hnum n rfl] at htruthy
      cases htruthy
    | str s =>
      refine ⟨_, rfl, ?_⟩
      exact (congrArg _ (List.map_map (g := Json.str) (f := fun c => [c])).symm).trans (htexts _)
    | arr items => exact ⟨items, rfl, rfl⟩
    | obj fields =>
      refine ⟨_, rfl, ?_⟩
      exact (congrArg _ (List.map_map (g := Json.str) (f := Prod.fst)).symm).trans (htexts _)
  · rw [if_neg htruthy]
    refine ⟨[], rfl, ?_⟩
    cases badges with
    | arr items =>
      have hnil : items = [] := by simpa [Json.truthy] using htruthy
      rw [hnil]
      rfl
    | _ => rfl

/-- **One result for each badge object, in their order**, of what can be read. -/
theorem corroborateBadges_of_readable (h : Readable badges) :
    corroborateBadges today db badges orgId =
      .ok ⟨(badgeObjects badges).map (annotated (authorizationFacts today db orgId)),
        authorizationFacts today db orgId⟩ := by
  obtain ⟨hnum, htrue, hstatus⟩ := h
  obtain ⟨rows, hrows, hfilter⟩ := rowsOf_badges hnum htrue
  have hout : (rows.filter Json.isDict).mapM (annotate (authorizationFacts today db orgId)) =
      .ok ((badgeObjects badges).map (annotated (authorizationFacts today db orgId))) := by
    rw [hfilter]
    exact mapM_ok fun badge hbadge => annotate_of_readable (hstatus badge hbadge)
  exact bind_eq_ok.mpr ⟨rows, hrows, bind_eq_ok.mpr ⟨_, hout, rfl⟩⟩

/-- **It raises of everything else**. -/
theorem readable_of_succeeds (h : Succeeds (corroborateBadges today db badges orgId)) :
    Readable badges := by
  obtain ⟨rows, hrows, hrest⟩ := succeeds_bind.mp h
  obtain ⟨out, hout, -⟩ := succeeds_bind.mp hrest
  -- zero is passed over by `or []`, any other number is iterated
  have hnum : ∀ n, badges = .num n → n.isZero := by
    rintro n rfl
    by_contra hzero
    rw [rowsOf, Json.truthy, Bool.eq_false_iff.mpr hzero] at hrows
    cases hrows
  have htrue : badges ≠ .bool true := by
    rintro rfl
    cases hrows
  obtain ⟨rows', hrows', hfilter⟩ := rowsOf_badges hnum htrue
  obtain rfl := Except.ok.inj (hrows'.symm.trans hrows)
  refine ⟨hnum, htrue, fun badge hbadge => ?_⟩
  exact succeeds_annotate.mp (succeeds_mapM.mp ⟨out, hout⟩ badge (hfilter ▸ hbadge))

end Badges

/-! ## Honest badges -/

def Db.liveSystemsOf (db : Db) (orgId : Option Nat) : List System :=
  (db.systemsOf orgId).filter fun row => row.deletedAt = none

def Db.livePackagesOf (db : Db) (orgId : Option Nat) : List Package :=
  (db.packagesOf orgId).filter fun package =>
    ∀ row ∈ db.systems, package.systemId = some row.id → row.deletedAt = none

/-- The badges are corroborated honestly: nothing is raised, each badge object has its result, in
the stored order, what is contradicted has live systems of which none is authorized, and what is
corroborated is backed by a live record. -/
def Corroborates (today : Date) (db : Db) (badges : Json) (orgId : Option Nat) : Prop :=
  ∃ result, corroborateBadges today db badges orgId = .ok result ∧
    result.badges.map BadgeCorroboration.badge = badgeObjects badges ∧
    ∀ b ∈ result.badges,
      (b.state = .contradicted → db.liveSystemsOf orgId ≠ [] ∧
        ∀ row ∈ db.liveSystemsOf orgId, ¬row.currentlyAuthorized today) ∧
      (b.state = .corroborated → ∃ claim ∈ b.claim,
        Backed today (db.liveSystemsOf orgId) (db.livePackagesOf orgId) claim)

/-- The deleted records make no difference to a claim: what any record backs a live one does, and
where nothing backs an authorisation, though something is held, there is a live system. -/
def LiveRecords (today : Date) (db : Db) (orgId : Option Nat) (claim : Claim) : Prop :=
  if Backed today (db.systemsOf orgId) (db.packagesOf orgId) claim then
    Backed today (db.liveSystemsOf orgId) (db.livePackagesOf orgId) claim
  else
    claim = .authorized → db.systemsOf orgId ≠ [] ∨ db.packagesOf orgId ≠ [] →
      db.liveSystemsOf orgId ≠ []

section Honest

variable {today : Date} {db : Db} {orgId : Option Nat} {badge : Json}

theorem honest_annotated_iff :
    (((annotated (authorizationFacts today db orgId) badge).state = .contradicted →
        db.liveSystemsOf orgId ≠ [] ∧
          ∀ row ∈ db.liveSystemsOf orgId, ¬row.currentlyAuthorized today) ∧
      ((annotated (authorizationFacts today db orgId) badge).state = .corroborated →
        ∃ claim ∈ claimOfBadge badge,
          Backed today (db.liveSystemsOf orgId) (db.livePackagesOf orgId) claim)) ↔
      ∀ claim ∈ claimOfBadge badge, LiveRecords today db orgId claim := by
  unfold annotated
  dsimp only
  cases hclaim : claimOfBadge badge with
  | none =>
    refine iff_of_true ⟨fun h => ?_, fun h => ?_⟩ fun _ h => nomatch h
    · cases h
    · cases h
  | some claim =>
    obtain ⟨hcorroborated, hcontradicted⟩ := state_stateFor today db orgId claim
    simp only [hcorroborated, hcontradicted, Option.mem_some_iff, exists_eq_left', forall_eq']
    unfold LiveRecords
    -- what is corroborated is never contradicted as well
    by_cases hbacked : Backed today (db.systemsOf orgId) (db.packagesOf orgId) claim
    · rw [if_pos hbacked]
      exact ⟨fun h => h.2 hbacked, fun h => ⟨fun hno => absurd hbacked hno.2.1, fun _ => h⟩⟩
    · rw [if_neg hbacked]
      refine ⟨fun h hauthorized hheld => (h.1 ⟨hauthorized, hbacked, ?_⟩).1, fun h => ⟨?_, ?_⟩⟩
      · exact fun hnone => hheld.elim (absurd hnone.1) (absurd hnone.2)
      · rintro ⟨rfl, -, hheld⟩
        refine ⟨h rfl (not_and_or.mp hheld), fun row hrow hauthorized => hbacked (.inl ?_)⟩
        exact ⟨row, List.mem_of_mem_filter hrow, hauthorized⟩
      · exact fun h => absurd h hbacked

/-- **Trust badges are corroborated honestly exactly where** what is stored can be read, and of the
claims that are read no deleted record makes a difference. -/
theorem corroborates_iff (today : Date) (db : Db) (badges : Json) (orgId : Option Nat) :
    Corroborates today db badges orgId ↔
      Readable badges ∧
        ∀ badge ∈ badgeObjects badges, ∀ claim ∈ claimOfBadge badge,
          LiveRecords today db orgId claim := by
  constructor
  · rintro ⟨result, hresult, -, hall⟩
    have hreadable := readable_of_succeeds ⟨result, hresult⟩
    rw [corroborateBadges_of_readable hreadable] at hresult
    obtain rfl := Except.ok.inj hresult
    exact ⟨hreadable, fun badge hbadge =>
      honest_annotated_iff.mp (hall _ (List.mem_map_of_mem hbadge))⟩
  · rintro ⟨hreadable, hlive⟩
    refine ⟨_, corroborateBadges_of_readable hreadable, ?_, fun b hb => ?_⟩
    · rw [List.map_map]
      exact List.map_id' _
    · obtain ⟨badge, hbadge, rfl⟩ := List.mem_map.mp hb
      exact honest_annotated_iff.mpr (hlive badge hbadge)

end Honest

/-! ## A deleted system, and a status that is a number -/

theorem newYear_year_pos : 1 ≤ 2026 := by decide

theorem newYear_year_le : 2026 ≤ 9999 := by decide

theorem newYear_month_pos : 1 ≤ 1 := le_rfl

theorem newYear_month_le : 1 ≤ 12 := by decide

theorem newYear_day_le : 1 ≤ daysInMonth 2026 1 := by decide

def newYear : Date where
  year := 2026
  month := 1
  day := 1
  year_pos := newYear_year_pos
  year_le := newYear_year_le
  month_pos := newYear_month_pos
  month_le := newYear_month_le
  day_pos := newYear_month_pos
  day_le := newYear_day_le

def retired : Db := ⟨[⟨1, 1, "Payroll".toList, some .nothing, none, some 0⟩], []⟩

def badgeOf (status : Json) : Json :=
  .arr [.obj [("framework".toList, .str "CMMC L2".toList), ("status".toList, status)]]

/-- The badge of the organisation is contradicted, by a system that is not there any more, and one
whose status is a number is not annotated at all. -/
theorem badges_not_corroborated :
    ¬Corroborates newYear retired (badgeOf (.str "Authorized".toList)) (some 1) ∧
      ¬Corroborates newYear retired (badgeOf (Json.nat 5)) (some 1) := by
  refine ⟨?_, ?_⟩
  · rintro ⟨result, hresult, -, hall⟩
    have hstates : (corroborateBadges newYear retired (badgeOf (.str "Authorized".toList))
        (some 1)).map (fun r => r.badges.map BadgeCorroboration.state) = .ok [.contradicted] := rfl
    rw [hresult] at hstates
    have hone : result.badges.map BadgeCorroboration.state = [.contradicted] :=
      Except.ok.inj hstates
    obtain ⟨b, hb, hstate⟩ := List.mem_map.mp (hone ▸ List.mem_singleton_self State.contradicted)
    exact ((hall b hb).1 hstate).1 rfl
  · rintro ⟨result, hresult, -⟩
    cases hresult

end Concord.Governance.Trust
