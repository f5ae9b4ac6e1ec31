import Concord.Cr26.Indicators
import Concord.Cr26.Requirements

/-!
# What a seed keeps of what was written

A seed of the decision record does not raise on any stored object, keeps or names every
requirement, and writes what a second seed writes again. It keeps every indicator's narrative
just where each entry that has one is keyed, and no later entry of its id says less
(`narrative_kept_iff`).
-/

namespace Concord.Cr26.Sdr

open Concord.Python Concord.Base

/-! ## Statements -/

theorem hasNarrative_iff {entry : Json} :
    hasNarrative (narrative entry) = true ↔ ∃ st, Says entry "ksiImplementation".toList st := by
  unfold Says narrative
  cases h : entry.get? "ksiImplementation".toList with
  | none => simp [hasNarrative]
  | some value =>
    cases value with
    | arr items =>
      show items.any isStatement = true ↔ _
      rw [List.any_eq_true]
      constructor
      · rintro ⟨item, hitem, hst⟩
        cases item with
        | str s => exact ⟨s, items, rfl, hitem, of_decide_eq_true hst⟩
        | _ => cases hst
      · rintro ⟨st, items', hitems, hst, hne⟩
        obtain rfl := Json.arr.inj (Option.some.inj hitems)
        exact ⟨.str st, hst, isStatement_of_ne hne⟩
    | _ => simp [hasNarrative]

theorem lastNarrative_filter (entries : List Json) (id : Text) :
    lastNarrative (entries.filter Json.isDict) id = lastNarrative entries id := by
  unfold lastNarrative
  rw [List.filter_filter]
  refine congrArg List.getLast? (List.filter_congr fun e _ => ?_)
  by_cases h : ksiId e = some id ∧ hasNarrative (narrative e) = true
  · simp [h, isDict_of_ksiId h.1]
  · simp [h]

theorem lastNarrative_isSome {entries : List Json} {e : Json} {id st : Text} (he : e ∈ entries)
    (hid : ksiId e = some id) (hst : Says e "ksiImplementation".toList st) :
    ∃ last, lastNarrative entries id = some last := by
  have hmem : e ∈ entries.filter fun e => ksiId e = some id ∧ hasNarrative (narrative e) = true :=
    List.mem_filter.mpr ⟨he, decide_eq_true ⟨hid, hasNarrative_iff.mpr ⟨st, hst⟩⟩⟩
  exact ⟨_, List.getLast?_eq_some_getLast (List.ne_nil_of_mem hmem)⟩

/-! ## A merged indicator -/

theorem entryOf_says (derived : FactMap) {entries : List Json} {byId : Dict Text Json}
    (h : ReadsLast entries byId) {id : Text} {last : Json}
    (hlast : lastNarrative entries id = some last) :
    ∃ out, entryOf derived byId id = some out ∧ out.get? "ksiId".toList = some (.str id) ∧
      id ∈ indicatorIds byId derived.facts ∧
      ∀ st, Says out "ksiImplementation".toList st ↔ Says last "ksiImplementation".toList st := by
  have hget := h.told id last hlast
  have hnarrative : hasNarrative (narrative last) = true := by
    have hmem := List.mem_filter.mp (List.mem_of_getLast? hlast)
    exact (of_decide_eq_true hmem.2).2
  obtain ⟨e, statements, out, he, hst, -, hout, hmerged⟩ | ⟨-, hno⟩ := entryOf_cases derived h id
  · obtain rfl := Option.some.inj (hget.symm.trans he)
    refine ⟨out, hout, hmerged.keyed.get? hmerged.dict,
      mem_indicatorIds.mpr (.inl (by rw [hget]; rfl)), fun st => ?_⟩
    have hsame : out.get? "ksiImplementation".toList = last.get? "ksiImplementation".toList :=
      hmerged.narrative.trans hst.symm
    unfold Says
    rw [hsame]
  · rw [hno last hget] at hnarrative
    cases hnarrative

theorem entryOf_ksiId {derived : FactMap} {entries : List Json} {byId : Dict Text Json}
    (h : ReadsLast entries byId) {id : Text} {out : Json}
    (hout : entryOf derived byId id = some out) : ksiId out = some id ∧ ∃ e statements,
      byId.get? id = some e ∧ narrative e = some statements ∧ narrative out = some statements := by
  obtain ⟨e, statements, out', he, hst, -, hout', hmerged⟩ | ⟨hnone, -⟩ :=
    entryOf_cases derived h id
  · obtain rfl := Option.some.inj (hout.symm.trans hout')
    have hne := (ksiId_eq_some.mp (h.from_entries id e he).2).2
    exact ⟨hmerged.ksiId hne, e, statements, he, hst, hmerged.narrative⟩
  · rw [hnone] at hout
    cases hout

/-- **The indicators' half.** A statement of an entry is written, or its id omitted, just where
the entry is keyed and the last narrative of its id has the statement. -/
theorem indicator_kept_iff (derived : FactMap) {authored merged : List Json}
    {omitted : List Text} (h : mergeIndicators authored derived.facts = .ok (merged, omitted))
    {e : Json} (he : e ∈ authored) {st : Text} (hst : Says e "ksiImplementation".toList st) :
    ((∃ out ∈ merged, out.get? "ksiId".toList = e.get? "ksiId".toList ∧
        Says out "ksiImplementation".toList st) ∨ ∃ id ∈ omitted, ksiId e = some id) ↔
      ∃ id last, ksiId e = some id ∧ lastNarrative authored id = some last ∧
        Says last "ksiImplementation".toList st := by
  have hread := readsLast authored
  have hok := (mergeIndicators_ok derived authored).symm.trans h
  generalize authored.foldl readIndicator .empty = byId at hread hok
  obtain ⟨rfl, rfl⟩ := Prod.mk.inj (Except.ok.inj hok)
  constructor
  · rintro (⟨out, hout, hid, hsays⟩ | ⟨id, hid, hksi⟩)
    · obtain ⟨id, -, hentry⟩ := List.mem_filterMap.mp hout
      obtain ⟨hksi, -⟩ := entryOf_ksiId hread hentry
      have hkey : ksiId e = some id := by
        unfold ksiId at hksi ⊢
        rwa [← hid]
      obtain ⟨last, hlast⟩ := lastNarrative_isSome he hkey hst
      obtain ⟨out', hout', -, -, hsame⟩ := entryOf_says derived hread hlast
      obtain rfl := Option.some.inj (hentry.symm.trans hout')
      exact ⟨id, last, hkey, hlast, (hsame st).mp hsays⟩
    · -- an id that is omitted has no narrative, and this one has
      obtain ⟨last, hlast⟩ := lastNarrative_isSome he hksi hst
      obtain ⟨out, hout, -⟩ := entryOf_says derived hread hlast
      have hnone := (List.mem_filter.mp hid).2
      rw [hout] at hnone
      cases hnone
  · rintro ⟨id, last, hksi, hlast, hsays⟩
    obtain ⟨out, hout, hid, hmem, hsame⟩ := entryOf_says derived hread hlast
    exact .inl ⟨out, List.mem_filterMap.mpr ⟨id, hmem, hout⟩,
      hid.trans (ksiId_eq_some.mp hksi).1.symm, (hsame st).mpr hsays⟩

/-! ## The seed -/

section Seed

variable {existing : Json} {ssp : RenderedControls} {derived : FactMap}

/-- The document that is written, of the two merged lists. -/
def seeded (existing : Json) (ssp : RenderedControls) (merged rendered : List Json) : Json :=
  ((existing.set "securityControls".toList (.arr ssp.controls)).set
    "keySecurityIndicators".toList (.arr merged)).set "fedRampRequirements".toList (.arr rendered)

/-- **A seed does not raise**, and this is what it writes. -/
theorem seedSdr_ok (hdict : existing.isDict = true) (ssp : RenderedControls) (derived : FactMap) :
    ∃ merged omitted, mergeIndicators ((indicatorsOf existing).filter Json.isDict) derived.facts =
        .ok (merged, omitted) ∧
      ∃ r, seedSdr (some existing) ssp derived = .ok r ∧
        r.document = seeded existing ssp merged (mergeRequirements (requirementsOf existing)).1 ∧
        r.omittedKsiIds = omitted ∧
        r.omittedRequirements = (mergeRequirements (requirementsOf existing)).2 := by
  refine ⟨_, _, mergeIndicators_ok derived _, ?_⟩
  have hksi : indicatorsOf (existing.set "securityControls".toList (.arr ssp.controls)) =
      indicatorsOf existing := by
    unfold indicatorsOf
    rw [Json.get?_set _ _ hdict, if_neg (by decide)]
  have hfrr : ∀ merged, requirementsOf ((existing.set "securityControls".toList
      (.arr ssp.controls)).set "keySecurityIndicators".toList (.arr merged)) =
      requirementsOf existing := by
    intro merged
    unfold requirementsOf
    rw [Json.get?_set _ _ ((Json.isDict_set _ _ _).trans hdict), if_neg (by decide),
      Json.get?_set _ _ hdict, if_neg (by decide)]
  unfold seedSdr
  dsimp only [Option.getD_some]
  rw [hksi, mergeIndicators_ok derived]
  refine ⟨_, rfl, ?_, rfl, ?_⟩
  · show _ = seeded _ _ _ _
    unfold seeded
    dsimp only
    rw [hfrr]
  · dsimp only
    rw [hfrr]

theorem seeded_again (existing : Json) (ssp : RenderedControls) (merged rendered : List Json) :
    seeded (seeded existing ssp merged rendered) ssp merged rendered =
      seeded existing ssp merged rendered := by
  have hcontrols : (seeded existing ssp merged rendered).set "securityControls".toList
      (.arr ssp.controls) = seeded existing ssp merged rendered :=
    ((Json.has_set existing _ _).set (by decide)).set (by decide)
  have hksi : (seeded existing ssp merged rendered).set "keySecurityIndicators".toList
      (.arr merged) = seeded existing ssp merged rendered :=
    (Json.has_set _ _ _).set (by decide)
  have hfrr : (seeded existing ssp merged rendered).set "fedRampRequirements".toList
      (.arr rendered) = seeded existing ssp merged rendered :=
    Json.has_set _ _ _
  show (((seeded existing ssp merged rendered).set _ _).set _ _).set _ _ = _
  rw [hcontrols, hksi, hfrr]

theorem indicatorsOf_seeded (hdict : existing.isDict = true) (merged rendered : List Json) :
    indicatorsOf (seeded existing ssp merged rendered) = merged := by
  unfold indicatorsOf seeded
  rw [Json.get?_set _ _ (by simpa using hdict), if_neg (by decide),
    Json.get?_set _ _ (by simpa using hdict), if_pos rfl]
  rfl

theorem requirementsOf_seeded (hdict : existing.isDict = true) (merged rendered : List Json) :
    requirementsOf (seeded existing ssp merged rendered) = rendered := by
  unfold requirementsOf seeded
  rw [Json.get?_set _ _ (by simpa using hdict), if_pos rfl]
  rfl

theorem isDict_seeded (ssp : RenderedControls) (hdict : existing.isDict = true)
    (merged rendered : List Json) :
    (seeded existing ssp merged rendered).isDict = true := by
  simpa [seeded] using hdict

theorem merged_dicts {authored merged : List Json} {omitted : List Text}
    (h : mergeIndicators authored derived.facts = .ok (merged, omitted)) :
    ∀ out ∈ merged, out.isDict = true := by
  have hread := readsLast authored
  have hok := (mergeIndicators_ok derived authored).symm.trans h
  generalize authored.foldl readIndicator .empty = byId at hread hok
  obtain ⟨rfl, -⟩ := Prod.mk.inj (Except.ok.inj hok)
  intro out hout
  obtain ⟨id, -, hentry⟩ := List.mem_filterMap.mp hout
  exact isDict_of_ksiId (entryOf_ksiId hread hentry).1

/-- **Seeding twice** writes what seeding once wrote. -/
theorem seedSdr_again (hdict : existing.isDict = true) {r : SdrSeedResult}
    (h : seedSdr (some existing) ssp derived = .ok r) :
    ∃ r', seedSdr (some r.document) ssp derived = .ok r' ∧ r'.document = r.document := by
  obtain ⟨merged, omitted, hmerge, r₁, hr₁, hdoc, -, -⟩ := seedSdr_ok hdict ssp derived
  obtain rfl := Except.ok.inj (hr₁.symm.trans h)
  rw [hdoc]
  obtain ⟨merged', omitted', hmerge', r', hr', hdoc', -, -⟩ :=
    seedSdr_ok (isDict_seeded ssp hdict merged _) ssp derived
  refine ⟨r', hr', ?_⟩
  obtain ⟨omitted'', hagain⟩ := mergeIndicators_again derived hmerge
  rw [indicatorsOf_seeded hdict, List.filter_eq_self.mpr (merged_dicts hmerge), hagain] at hmerge'
  obtain ⟨rfl, -⟩ := Prod.mk.inj (Except.ok.inj hmerge')
  rw [hdoc', requirementsOf_seeded hdict, mergeRequirements_again, seeded_again]

end Seed

/-! ## What is kept -/

/-- The statement is in an entry of the same id, or the id is named as omitted. -/
def IndicatorKept (r : SdrSeedResult) (e : Json) (st : Text) : Prop :=
  (∃ out ∈ indicatorsOf r.document, out.get? "ksiId".toList = e.get? "ksiId".toList ∧
      Says out "ksiImplementation".toList st) ∨
    ∃ id ∈ r.omittedKsiIds, ksiId e = some id

/-- The statement is in an entry of the same id, or the entry is named by its id or its place. -/
def RequirementKept (r : SdrSeedResult) (e : Json) (index : Nat) (st : Text) : Prop :=
  (∃ out ∈ requirementsOf r.document, ∃ frrId,
      Json.written (e.get? "frrID".toList) = some frrId ∧
      out.get? "frrID".toList = some (.str frrId) ∧ Says out "frrImplementation".toList st) ∨
    ∃ note ∈ r.omittedRequirements, note.1 = requirementLocator index ∨
      Json.written (e.get? "frrID".toList) = some note.1

/-- A seed that loses nothing that was written, and may be made again. -/
structure Conserves (existing : Option Json) (ssp : RenderedControls) (derived : FactMap)
    (r : SdrSeedResult) : Prop where
  seeds : seedSdr existing ssp derived = .ok r
  indicators : ∀ e ∈ indicatorsOf (existing.getD (.obj [])), ∀ st,
    Says e "ksiImplementation".toList st → IndicatorKept r e st
  requirements : ∀ e index, (e, index) ∈ (requirementsOf (existing.getD (.obj []))).zipIdx →
    ∀ st, Says e "frrImplementation".toList st → RequirementKept r e index st
  again : ∃ r', seedSdr (some r.document) ssp derived = .ok r' ∧ r'.document = r.document

/-- Each entry with a narrative is keyed, and the last narrative of its id says what it says. -/
def LastTells (entries : List Json) : Prop :=
  ∀ e ∈ entries, ∀ st, Says e "ksiImplementation".toList st →
    ∃ id last, ksiId e = some id ∧ lastNarrative entries id = some last ∧
      Says last "ksiImplementation".toList st

theorem isDict_of_says {e : Json} {field st : Text} (h : Says e field st) : e.isDict = true := by
  obtain ⟨_, hget, -⟩ := h
  exact Json.isDict_of_get? hget

theorem seedSdr_getD (existing : Option Json) (ssp : RenderedControls) (derived : FactMap) :
    seedSdr existing ssp derived = seedSdr (some (existing.getD (.obj []))) ssp derived := by
  cases existing <;> rfl

/-- **A seed keeps what was written** just where the indicators' last narratives tell it: of
any stored object, rendered controls and derived facts. -/
theorem narrative_kept_iff (stored : Option (List (Text × Json))) (ssp : RenderedControls)
    (derived : FactMap) :
    (∃ r, Conserves (stored.map Json.obj) ssp derived r) ↔
      LastTells (indicatorsOf ((stored.map Json.obj).getD (.obj []))) := by
  have hdict : ((stored.map Json.obj).getD (.obj [])).isDict = true := by
    cases stored <;> rfl
  have hseed := seedSdr_getD (stored.map Json.obj) ssp derived
  generalize hexisting : (stored.map Json.obj).getD (.obj []) = existing at hdict hseed
  obtain ⟨merged, omitted, hmerge, r, hr, hdoc, homitted, hnotes⟩ := seedSdr_ok hdict ssp derived
  have hkept : ∀ e ∈ indicatorsOf existing, ∀ st, Says e "ksiImplementation".toList st →
      (IndicatorKept r e st ↔ ∃ id last, ksiId e = some id ∧
        lastNarrative (indicatorsOf existing) id = some last ∧
        Says last "ksiImplementation".toList st) := by
    intro e he st hst
    unfold IndicatorKept
    rw [hdoc, homitted, indicatorsOf_seeded hdict, indicator_kept_iff derived hmerge
      (List.mem_filter.mpr ⟨he, isDict_of_says hst⟩) hst]
    simp only [lastNarrative_filter]
  constructor
  · rintro ⟨r', hconserves⟩ e he st hst
    obtain rfl := Except.ok.inj (hr.symm.trans (hseed.symm.trans hconserves.seeds))
    exact (hkept e he st hst).mp (hconserves.indicators e (by rwa [hexisting]) st hst)
  · intro htells
    refine ⟨r, hseed.trans hr, ?_, ?_, seedSdr_again hdict hr⟩
    · rw [hexisting]
      exact fun e he st hst => (hkept e he st hst).mpr (htells e he st hst)
    · rw [hexisting]
      intro e index he st hst
      unfold RequirementKept
      rw [hdoc, hnotes, requirementsOf_seeded hdict]
      exact requirement_kept he hst

def unkeyedNarrative : List (Text × Json) :=
  [("keySecurityIndicators".toList, .arr [.obj
    [("ksiImplementation".toList, .arr [.str "Access is reviewed.".toList])]])]

def noControls : RenderedControls := ⟨none, [], [], []⟩

/-- An unkeyed narrative is in no document, and named nowhere. -/
theorem unkeyed_narrative_lost :
    ¬ ∃ r, Conserves (some (.obj unkeyedNarrative)) noControls (derivedIndicators []) r := by
  rintro ⟨r, hconserves⟩
  have hseed : seedSdr (some (.obj unkeyedNarrative)) noControls (derivedIndicators []) =
      .ok ⟨.obj [("fedRampRequirements".toList, .arr []),
        ("keySecurityIndicators".toList, .arr []), ("securityControls".toList, .arr [])],
        [], none, [], [], 0, []⟩ :=
    rfl
  obtain rfl := Except.ok.inj (hseed.symm.trans hconserves.seeds)
  obtain ⟨out, hout, -⟩ | ⟨id, hid, -⟩ := hconserves.indicators _ (List.mem_singleton_self _)
    "Access is reviewed.".toList ⟨_, rfl, List.mem_singleton_self _, by decide⟩
  · cases hout
  · cases hid

end Concord.Cr26.Sdr
