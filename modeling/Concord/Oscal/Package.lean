import Concord.Oscal.Reported
import Concord.Oscal.Spelling

/-!
# The ids of a package

Five documents of `ccf/api/routes/oscal.py` name a control, and each makes the id in its own way:
the component definition makes a token of what the others leave as it is, the system security plan
starts from its own entry, and the plan of action takes the identifier in lower case.

`consistent_iff`: the documents agree on every control exactly where every identifier is spelled as
they would spell it.
-/

namespace Concord.Oscal

open Concord.Python Concord.Catalog Concord.Packs.Catalog Concord.Assessment

/-! ## What is exported -/

/-- A row of `ssp_control_entries`, with the labels of its narratives. -/
structure SSPControlEntry where
  controlId : Text
  nistId : Option Text
  labels : List Text

/-- A control of the package: its catalog identifier, its entry, and its objectives in the order
they are reported. -/
structure PackageControl where
  identifier : Option Text
  entry : Option SSPControlEntry
  objectives : List Objective

def PackageControl.raw (c : PackageControl) : Text := c.identifier.getD []

/-- What tells controls apart: the spellings of one id are one control. -/
def identity (raw : Text) : Text := ((canonicalize raw).map CanonicalId.value).getD raw

def PackageControl.labels (c : PackageControl) : List Text :=
  c.objectives.map fun objective => objective.part.label.getD []

structure Package where
  is80053 : Bool
  controls : List PackageControl
  /-- an entry is of its control -/
  named : ∀ c ∈ controls, ∀ e ∈ c.entry, identity e.controlId = identity c.raw
  /-- `seed_80053_project` takes the ids of the catalog -/
  seeded : is80053 = true → ∀ c ∈ controls, ∀ e ∈ c.entry,
    ∃ id, canonicalize e.controlId = some id ∧ id.value = e.controlId

/-! ## The documents -/

section Documents

variable (lower : Text → Text)

/-- `build_component_definition_doc`. -/
def componentDefinitionId (c : PackageControl) : Text :=
  oscalToken (oscalControlId lower c.identifier)

/-- `build_ssp_doc`: the id of an entry. -/
def sspControlId (is80053 : Bool) (e : SSPControlEntry) : Text :=
  let nist := strip ((orElse e.nistId (some e.controlId)).getD [])
  if is80053 then canonicalToOscalId lower e.controlId else oscalToken nist

/-- `build_ssp_doc`: the statement id of a narrative. -/
def sspStatementId (oscalCid label : Text) : Text :=
  if label = [] then oscalCid ++ "_smt".toList
  else oscalCid ++ "_smt.".toList ++ oscalToken label

/-- `build_sap_doc`. -/
def sapControlId (c : PackageControl) : Text := oscalControlId lower c.identifier

/-- `build_sar_doc`. -/
def sarControlId (c : PackageControl) : Text := oscalControlId lower c.identifier

/-- `build_sar_doc`: the targets of a control's findings. -/
def sarTargetIds (c : PackageControl) : List Text :=
  givenTargets [] (partStatementIds (sarControlId lower c) c.objectives)

/-- `_poam_item`: the property of an item that has a control. -/
def poamControlId (c : PackageControl) : Option Text := c.identifier.map lower

def controlIds (is80053 : Bool) (c : PackageControl) : List Text :=
  [componentDefinitionId lower c, sapControlId lower c, sarControlId lower c] ++
    (poamControlId lower c).toList ++ (c.entry.map (sspControlId lower is80053)).toList

end Documents

/-! ## The property -/

/-- The letters and numbers of Unicode, of which the pattern of a token speaks. -/
structure Unicode where
  letter : Char → Bool
  number : Char → Bool
  ascii_letter : ∀ c, isAsciiLetter c = true → letter c = true
  ascii_digit : ∀ c, c.isDigit = true → number c = true

/-- `TokenDatatype`: `^(\p{L}|_)(\p{L}|\p{N}|[.\-_])*$`. -/
def Unicode.isToken (u : Unicode) : Text → Bool
  | [] => false
  | c :: s => (u.letter c || c = '_') &&
      s.all fun d => u.letter d || u.number d || d = '.' || d = '-' || d = '_'

section Consistent

variable (l : Lower) (u : Unicode)

structure Consistent (p : Package) : Prop where
  /-- the documents have one id for a control -/
  agree : ∀ c ∈ p.controls, ∀ x ∈ controlIds l.lower p.is80053 c,
    ∀ y ∈ controlIds l.lower p.is80053 c, x = y
  /-- the finding of a part is at the statement of its label -/
  statements : ∀ c ∈ p.controls, ∀ e ∈ c.entry, ∀ before label after,
    c.labels = before ++ label :: after → label ∈ e.labels →
    (sarTargetIds l.lower c)[before.length]? =
      some (sspStatementId (sspControlId l.lower p.is80053 e) label)
  /-- two controls have no id in common -/
  distinct : ∀ c ∈ p.controls, ∀ c' ∈ p.controls, identity c.raw ≠ identity c'.raw →
    ∀ x ∈ controlIds l.lower p.is80053 c, x ∉ controlIds l.lower p.is80053 c'
  /-- every id is a token -/
  tokens : ∀ c ∈ p.controls, (∀ x ∈ controlIds l.lower p.is80053 c, u.isToken x = true) ∧
    (∀ e ∈ c.entry, ∀ label ∈ e.labels,
      u.isToken (sspStatementId (sspControlId l.lower p.is80053 e) label) = true) ∧
    ∀ x ∈ sarTargetIds l.lower c, u.isToken x = true

/-- The label is not blank, and has no `#rowN` at its end. -/
def PlainLabel (label : Text) : Prop :=
  label = [] ∨ isDeduplicatedIdentifier label = false ∧ strip label ≠ []

def SpelledId (raw : Text) : Prop :=
  match canonicalize raw with
  | some id => Plain raw id
  | none => isAsciiToken (l.lower raw) = true

/-- Everything is spelled as the documents spell it. -/
structure SpelledAlike (p : Package) : Prop where
  /-- an 800-53 id is plain, any other identifier is a token in lower case -/
  identifiers : ∀ c ∈ p.controls, SpelledId l c.raw
  /-- the requirement of a CMMC entry, made a token, is the identifier in lower case -/
  entries : p.is80053 = false → ∀ c ∈ p.controls, ∀ e ∈ c.entry,
    oscalToken (strip ((orElse e.nistId (some e.controlId)).getD [])) = l.lower c.raw
  /-- a label of both documents is plain, and none before it has its target -/
  labels : ∀ c ∈ p.controls, ∀ e ∈ c.entry, ∀ before label after,
    c.labels = before ++ label :: after → label ∈ e.labels →
    PlainLabel label ∧ statementId (l.lower c.raw) label ∉
      givenTargets [] (before.map (statementId (l.lower c.raw)))
  /-- controls differ in more than the case -/
  apart : ∀ c ∈ p.controls, ∀ c' ∈ p.controls, l.lower c.raw = l.lower c'.raw →
    identity c.raw = identity c'.raw

end Consistent

/-! ## Labels -/

theorem count_dashBlanks (blank : Bool) (s : Text) :
    (dashBlanks blank s).count 'w' = s.count 'w' := by
  induction s generalizing blank with
  | nil => rfl
  | cons c s ih =>
    rw [dashBlanks]
    by_cases hc : isSpace c = true
    · have hw : c ≠ 'w' := by
        rintro rfl
        exact absurd hc (by decide)
      rw [if_pos hc, List.count_cons_of_ne hw]
      cases blank with
      | true => exact ih true
      | false => exact (List.count_cons_of_ne (by decide)).trans (ih true)
    · rw [if_neg hc, List.count_cons, List.count_cons, ih]

theorem count_lstrip (s : Text) : (lstrip s).count 'w' = s.count 'w' := by
  obtain ⟨lead, hs, hlead⟩ := lstrip_append s
  have hzero : lead.count 'w' = 0 := List.count_eq_zero.mpr fun hw =>
    absurd (hlead 'w' hw) (by decide)
  have hcount := congrArg (List.count 'w') hs
  rw [List.count_append, hzero, Nat.zero_add] at hcount
  exact hcount.symm

theorem count_strip (s : Text) : (strip s).count 'w' = s.count 'w' := by
  rw [strip, List.count_reverse, count_lstrip, List.count_reverse, count_lstrip]

theorem count_oscalToken (s : Text) : (oscalToken s).count 'w' = s.count 'w' := by
  have hfilter : ((dashBlanks false (strip s)).filter isTokenChar).count 'w' = s.count 'w' := by
    rw [List.count_filter (by decide), count_dashBlanks, count_strip]
  have hstem : ∀ text : Text,
      (if text.head?.any isTokenStart then text else '_' :: text).count 'w' = text.count 'w' := by
    intro text
    split
    · rfl
    · exact List.count_cons_of_ne (by decide)
  unfold oscalToken
  rw [hstem, ← hfilter]
  split
  · rename_i hnil
    rw [hnil]
    decide
  · rfl

theorem count_stripDedupSuffix {label : Text} (h : isDeduplicatedIdentifier label = true) :
    (stripDedupSuffix label).count 'w' + 1 = label.count 'w' := by
  have hbody : label = beforeEnd label ++ label.drop (beforeEnd label).length := by
    refine (List.prefix_append_drop ?_)
    unfold beforeEnd
    split
    · exact List.dropLast_prefix label
    · exact List.prefix_rfl
  rw [stripDedupSuffix, if_pos h]
  generalize hb : beforeEnd label = body at hbody ⊢
  rw [isDeduplicatedIdentifier, hb] at h
  obtain ⟨rest, hrest⟩ := List.isPrefixOf_iff_prefix.mp (Bool.and_eq_true_iff.mp h).2
  -- the one is that of `#row`, for the digits behind it have none
  have hdigits : (body.reverse.takeWhile isDecimal).count 'w' = 0 :=
    List.count_eq_zero.mpr fun hw => absurd (List.mem_takeWhile_imp hw) (by decide +kernel)
  have hcount : body.count 'w' = rest.count 'w' + 1 := by
    rw [← List.count_reverse,
      ← List.takeWhile_append_dropWhile (p := isDecimal) (l := body.reverse), List.count_append,
      hdigits, ← hrest, Nat.zero_add]
    exact List.count_cons_self
  rw [← hrest]
  show (rest.reverse ++ label.drop body.length).count 'w' + 1 = label.count 'w'
  rw [List.count_append, List.count_reverse]
  conv_rhs => rw [hbody, List.count_append, hcount]
  omega

theorem count_natText (n : Nat) : (natText n).count 'w' = 0 :=
  List.count_eq_zero.mpr fun hw => absurd (isDigit_of_mem_natText 'w' hw) (by decide)

theorem count_numbered (s : Text) (n : Nat) : (numbered s n).count 'w' = s.count 'w' := by
  rw [numbered, List.count_append, List.count_cons_of_ne (by decide), count_natText, Nat.add_zero]

theorem stripDedupSuffix_of_not {label : Text} (h : isDeduplicatedIdentifier label = false) :
    stripDedupSuffix label = label := by
  rw [stripDedupSuffix, h]
  rfl

theorem count_statementId (oscalCid label : Text) :
    (statementId oscalCid label).count 'w' =
      oscalCid.count 'w' + (stripDedupSuffix label).count 'w' := by
  unfold statementId
  split
  · rename_i hblank
    have hzero : (stripDedupSuffix label).count 'w' = 0 := by
      rcases hblank with rfl | hblank
      · rfl
      · rw [← count_strip, hblank]
        rfl
    rw [hzero, List.count_append]
    rfl
  · rw [List.count_append, List.count_append, count_oscalToken]
    rfl

theorem count_sspStatementId (oscalCid label : Text) :
    (sspStatementId oscalCid label).count 'w' = oscalCid.count 'w' + label.count 'w' := by
  unfold sspStatementId
  split
  · rename_i hnil
    rw [hnil, List.count_append]
    rfl
  · rw [List.count_append, List.count_append, count_oscalToken]
    rfl

/-- **A label** has one statement id in both documents exactly where it is plain and its target
is free. -/
theorem target_eq_iff (oscalCid label : Text) (seen : List Text) :
    givenTarget seen (statementId oscalCid label) = sspStatementId oscalCid label ↔
      PlainLabel label ∧ statementId oscalCid label ∉ seen := by
  unfold givenTarget
  have hlong : ∀ n, numbered (statementId oscalCid label) n ≠ statementId oscalCid label := by
    intro n h
    have hlen := congrArg List.length h
    simp [numbered] at hlen
  cases hdedup : isDeduplicatedIdentifier label with
  | true =>
    -- the two differ in a `w`
    have hcount := count_stripDedupSuffix hdedup
    refine iff_of_false (fun h => ?_) fun h => ?_
    · have hw := congrArg (List.count 'w') h
      rw [apply_ite (List.count 'w'), count_numbered, ite_self, count_statementId,
        count_sspStatementId] at hw
      omega
    · rcases h.1 with rfl | h
      · exact absurd hdedup (by decide)
      · exact absurd hdedup (by rw [h.1]; exact Bool.false_ne_true)
  | false =>
    have hsame : (statementId oscalCid label = sspStatementId oscalCid label ∧ PlainLabel label) ∨
        statementId oscalCid label = oscalCid ++ "_smt".toList ∧ label ≠ [] ∧ strip label = [] := by
      rw [statementId, sspStatementId, stripDedupSuffix_of_not hdedup]
      by_cases hnil : label = []
      · rw [if_pos (.inl hnil), if_pos hnil]
        exact .inl ⟨rfl, .inl hnil⟩
      · by_cases hblank : strip label = []
        · rw [if_pos (.inr hblank)]
          exact .inr ⟨rfl, hnil, hblank⟩
        · rw [if_neg (not_or.mpr ⟨hnil, hblank⟩), if_neg hnil]
          exact .inl ⟨rfl, .inr ⟨hdedup, hblank⟩⟩
    rcases hsame with ⟨hsame, hplain⟩ | ⟨hsmt, hnil, hblank⟩
    · rw [and_iff_right hplain, ← hsame]
      by_cases hseen : statementId oscalCid label ∈ seen
      · rw [if_pos hseen]
        exact iff_of_false (hlong _) (not_not.mpr hseen)
      · rw [if_neg hseen]
        exact iff_of_true rfl hseen
    · -- a blank label has a statement of its own in the plan alone
      refine iff_of_false (fun h => ?_) fun h => ?_
      · have hdot : oscalCid ++ "_smt.".toList ++ oscalToken label =
            oscalCid ++ "_smt".toList ++ '.' :: oscalToken label := by
          rw [List.append_assoc, List.append_assoc]
          rfl
        rw [hsmt, sspStatementId, if_neg hnil, hdot] at h
        split at h
        · exact absurd (List.cons.inj (List.append_cancel_left h)).1 (by decide)
        · exact absurd (List.self_eq_append_right.mp h) (List.cons_ne_nil _ _)
      · exact h.1.elim hnil fun hplain => hplain.2 hblank

/-! ## Targets -/

theorem givenTargets_split (before : List Text) (s : Text) (after seen : List Text) :
    ∃ seen', (∀ x, x ∈ seen' ↔ x ∈ seen ∨ x ∈ givenTargets seen before) ∧
      ∃ rest, givenTargets seen (before ++ s :: after) =
        givenTargets seen before ++ givenTarget seen' s :: rest := by
  induction before generalizing seen with
  | nil =>
    exact ⟨seen, fun x => (or_iff_left List.not_mem_nil).symm, _, rfl⟩
  | cons t before ih =>
    obtain ⟨seen', hseen, rest, hrest⟩ := ih (seen.insert (givenTarget seen t))
    refine ⟨seen', fun x => ?_, rest, ?_⟩
    · rw [hseen, List.mem_insert_iff, givenTargets, List.mem_cons]
      tauto
    · rw [List.cons_append, givenTargets, hrest]
      rfl

theorem mem_givenTargets {t : Text} {seen ids : List Text} (h : t ∈ givenTargets seen ids) :
    ∃ s ∈ ids, t = s ∨ ∃ n, t = numbered s n := by
  induction ids generalizing seen with
  | nil => exact absurd h List.not_mem_nil
  | cons s ids ih =>
    rcases List.mem_cons.mp h with rfl | h
    · refine ⟨s, List.mem_cons_self, ?_⟩
      unfold givenTarget
      split
      · exact .inr ⟨_, rfl⟩
      · exact .inl rfl
    · obtain ⟨s', hs', ht⟩ := ih h
      exact ⟨s', List.mem_cons_of_mem s hs', ht⟩

/-! ## Tokens -/

theorem isAsciiToken_append {s t : Text} (hs : isAsciiToken s = true)
    (ht : ∀ c ∈ t, isTokenChar c = true) : isAsciiToken (s ++ t) = true := by
  obtain ⟨hstart, hall⟩ := Bool.and_eq_true_iff.mp hs
  cases s with
  | nil => cases hstart
  | cons c s =>
    refine Bool.and_eq_true_iff.mpr ⟨hstart, ?_⟩
    rw [List.all_append, hall, List.all_eq_true.mpr ht]
    rfl

theorem isAsciiToken_statementId {oscalCid : Text} (h : isAsciiToken oscalCid = true)
    (label : Text) : isAsciiToken (statementId oscalCid label) = true := by
  unfold statementId
  split
  · exact isAsciiToken_append h (List.all_eq_true.mp rfl)
  · exact isAsciiToken_append (isAsciiToken_append h (List.all_eq_true.mp rfl))
      (isTokenChar_of_mem (oscalToken_isAsciiToken _))

theorem isAsciiToken_sspStatementId {oscalCid : Text} (h : isAsciiToken oscalCid = true)
    (label : Text) : isAsciiToken (sspStatementId oscalCid label) = true := by
  unfold sspStatementId
  split
  · exact isAsciiToken_append h (List.all_eq_true.mp rfl)
  · exact isAsciiToken_append (isAsciiToken_append h (List.all_eq_true.mp rfl))
      (isTokenChar_of_mem (oscalToken_isAsciiToken _))

theorem isAsciiToken_numbered {s : Text} (h : isAsciiToken s = true) (n : Nat) :
    isAsciiToken (numbered s n) = true := by
  refine isAsciiToken_append h fun c hc => ?_
  rcases List.mem_cons.mp hc with rfl | hc
  · rfl
  · exact isTokenChar_of_isDigit (isDigit_of_mem_natText c hc)

theorem isToken_of_ascii (u : Unicode) {s : Text} (h : isAsciiToken s = true) :
    u.isToken s = true := by
  obtain ⟨hstart, hall⟩ := Bool.and_eq_true_iff.mp h
  cases s with
  | nil => cases hstart
  | cons c s =>
    refine Bool.and_eq_true_iff.mpr ⟨?_, List.all_eq_true.mpr fun d hd => ?_⟩
    · rcases of_decide_eq_true hstart with hc | hc
      · rw [u.ascii_letter c hc, Bool.true_or]
      · rw [decide_eq_true hc, Bool.or_true]
    · have hd' := List.all_eq_true.mp hall d (List.mem_cons_of_mem c hd)
      simp only [Bool.or_eq_true, decide_eq_true_eq]
      rcases of_decide_eq_true hd' with hletter | hdigit | hdot | hdash | hunder
      · exact .inl (.inl (.inl (.inl (u.ascii_letter d hletter))))
      · refine .inl (.inl (.inl (.inr (u.ascii_digit d ?_))))
        exact Bool.and_eq_true_iff.mpr ⟨decide_eq_true hdigit.1, decide_eq_true hdigit.2⟩
      · exact .inl (.inl (.inr hdot))
      · exact .inl (.inr hdash)
      · exact .inr hunder

/-! ## One control -/

section One

variable {l : Lower} {u : Unicode} {p : Package}

theorem spelledId_iff (l : Lower) (identifier : Option Text) :
    SpelledId l (identifier.getD []) ↔
      oscalControlId l.lower identifier = l.lower (identifier.getD []) ∧
        isAsciiToken (l.lower (identifier.getD [])) = true := by
  unfold SpelledId oscalControlId
  dsimp only
  cases hcanon : canonicalize (identifier.getD []) with
  | some id =>
    dsimp only
    rw [← lower_eq_oscal_iff l hcanon]
    exact ⟨fun h => ⟨h.symm, h ▸ oscal_isAsciiToken l hcanon⟩, fun h => h.1.symm⟩
  | none => exact (and_iff_right rfl).symm

theorem sspControlId_of_80053 (h : p.is80053 = true) {c : PackageControl} (hc : c ∈ p.controls)
    {e : SSPControlEntry} (he : e ∈ c.entry) :
    sspControlId l.lower p.is80053 e = oscalControlId l.lower c.identifier := by
  obtain ⟨id, hid, hvalue⟩ := p.seeded h c hc e he
  have hnamed := p.named c hc e he
  have hown : identity e.controlId = e.controlId := by
    rw [identity, hid, Option.map_some, Option.getD_some, hvalue]
  rw [hown] at hnamed
  unfold sspControlId oscalControlId
  dsimp only
  rw [if_pos h]
  change _ = match canonicalize c.raw with
    | some canon => canonicalToOscalId l.lower canon.value
    | none => l.lower c.raw
  rw [identity] at hnamed
  cases hraw : canonicalize c.raw with
  | some canon =>
    rw [hraw, Option.map_some, Option.getD_some] at hnamed
    dsimp only
    rw [hnamed]
  | none =>
    rw [hraw, Option.map_none, Option.getD_none] at hnamed
    rw [← hnamed, hid] at hraw
    cases hraw

theorem mem_controlIds {c : PackageControl} {x : Text} :
    x ∈ controlIds l.lower p.is80053 c ↔
      x = componentDefinitionId l.lower c ∨ x = oscalControlId l.lower c.identifier ∨
        x ∈ poamControlId l.lower c ∨ x ∈ c.entry.map (sspControlId l.lower p.is80053) := by
  simp [controlIds, sapControlId, sarControlId]

theorem sspControlId_of_cmmc (h : p.is80053 = false) (e : SSPControlEntry) :
    sspControlId l.lower p.is80053 e =
      oscalToken (strip ((orElse e.nistId (some e.controlId)).getD [])) := by
  rw [sspControlId, if_neg (by rw [h]; exact Bool.false_ne_true)]

theorem controlIds_eq {c : PackageControl} (hc : c ∈ p.controls) (hspelled : SpelledId l c.raw)
    (hentries : p.is80053 = false → ∀ e ∈ c.entry,
      oscalToken (strip ((orElse e.nistId (some e.controlId)).getD [])) = l.lower c.raw) :
    ∀ x ∈ controlIds l.lower p.is80053 c, x = l.lower c.raw := by
  obtain ⟨hlower, htoken⟩ := (spelledId_iff l c.identifier).mp hspelled
  intro x hx
  rcases mem_controlIds.mp hx with rfl | rfl | hx | hx
  · rw [componentDefinitionId, hlower]
    exact oscalToken_of_token htoken
  · exact hlower
  · obtain ⟨i, hi, rfl⟩ := Option.map_eq_some_iff.mp hx
    rw [PackageControl.raw, hi]
    rfl
  · obtain ⟨e, he, rfl⟩ := Option.map_eq_some_iff.mp hx
    cases hframework : p.is80053 with
    | true =>
      rw [← hframework, sspControlId_of_80053 hframework hc he]
      exact hlower
    | false =>
      rw [← hframework, sspControlId_of_cmmc hframework]
      exact hentries hframework e he

theorem agree_iff {c : PackageControl} (hc : c ∈ p.controls) :
    (∀ x ∈ controlIds l.lower p.is80053 c, ∀ y ∈ controlIds l.lower p.is80053 c, x = y) ↔
      SpelledId l c.raw ∧ (p.is80053 = false → ∀ e ∈ c.entry,
        oscalToken (strip ((orElse e.nistId (some e.controlId)).getD [])) = l.lower c.raw) := by
  constructor
  · intro h
    have hdefinition : componentDefinitionId l.lower c ∈ controlIds l.lower p.is80053 c :=
      mem_controlIds.mpr (.inl rfl)
    have hplan : oscalControlId l.lower c.identifier ∈ controlIds l.lower p.is80053 c :=
      mem_controlIds.mpr (.inr (.inl rfl))
    have htoken : isAsciiToken (oscalControlId l.lower c.identifier) = true := by
      rw [h _ hplan _ hdefinition]
      exact oscalToken_isAsciiToken _
    -- a control without an identifier has none in lower case
    have hlower : oscalControlId l.lower c.identifier = l.lower c.raw := by
      cases hi : c.identifier with
      | none =>
        rw [PackageControl.raw, hi]
        rfl
      | some i =>
        have hpoam : l.lower i ∈ poamControlId l.lower c := by
          rw [poamControlId, hi]
          rfl
        have heq := h _ hplan _ (mem_controlIds.mpr (.inr (.inr (.inl hpoam))))
        rw [hi] at heq
        rw [PackageControl.raw, hi]
        exact heq
    refine ⟨(spelledId_iff l c.identifier).mpr ⟨hlower, hlower ▸ htoken⟩,
      fun hframework e he => ?_⟩
    have hentry : sspControlId l.lower p.is80053 e ∈ controlIds l.lower p.is80053 c :=
      mem_controlIds.mpr (.inr (.inr (.inr (Option.mem_map_of_mem _ he))))
    rw [← sspControlId_of_cmmc hframework, ← hlower]
    exact h _ hentry _ hplan
  · rintro ⟨hspelled, hentries⟩ x hx y hy
    rw [controlIds_eq hc hspelled hentries x hx, controlIds_eq hc hspelled hentries y hy]

/-- The target of a part is the statement of its label where the label is plain and its target
free. -/
theorem statement_iff {c : PackageControl} {before after : List Text} {label : Text}
    (hlabels : c.labels = before ++ label :: after) :
    (sarTargetIds l.lower c)[before.length]? =
        some (sspStatementId (sarControlId l.lower c) label) ↔
      PlainLabel label ∧ statementId (sarControlId l.lower c) label ∉
        givenTargets [] (before.map (statementId (sarControlId l.lower c))) := by
  have hids : partStatementIds (sarControlId l.lower c) c.objectives =
      c.labels.map (statementId (sarControlId l.lower c)) := by
    rw [PackageControl.labels] at hlabels ⊢
    cases ho : c.objectives with
    | nil =>
      rw [ho] at hlabels
      simp at hlabels
    | cons o objectives =>
      rw [List.map_map]
      rfl
  rw [sarTargetIds, hids, hlabels, List.map_append, List.map_cons]
  -- its target is the one behind those of the labels before it
  obtain ⟨seen, hseen, rest, hrest⟩ := givenTargets_split
    (before.map (statementId (sarControlId l.lower c)))
    (statementId (sarControlId l.lower c) label)
    (after.map (statementId (sarControlId l.lower c))) []
  have hlength : (givenTargets [] (before.map (statementId (sarControlId l.lower c)))).length =
      before.length := by
    rw [givenTargets_length, List.length_map]
  rw [hrest, ← hlength, List.getElem?_append_right le_rfl, Nat.sub_self, List.getElem?_cons_zero,
    Option.some_inj, target_eq_iff, hseen]
  simp

theorem isAsciiToken_sarTargetIds {c : PackageControl}
    (h : isAsciiToken (sarControlId l.lower c) = true) :
    ∀ x ∈ sarTargetIds l.lower c, isAsciiToken x = true := by
  intro x hx
  obtain ⟨s, hs, hx⟩ := mem_givenTargets hx
  have hstatement : isAsciiToken s = true := by
    unfold partStatementIds at hs
    split at hs
    · rw [List.mem_singleton.mp hs]
      exact isAsciiToken_append h (List.all_eq_true.mp rfl)
    · obtain ⟨o, -, rfl⟩ := List.mem_map.mp hs
      exact isAsciiToken_statementId h _
  rcases hx with rfl | ⟨n, rfl⟩
  · exact hstatement
  · exact isAsciiToken_numbered hstatement n

end One

/-- **The ids agree** exactly where everything is spelled alike. -/
theorem consistent_iff (l : Lower) (u : Unicode) (p : Package) :
    Consistent l u p ↔ SpelledAlike l p := by
  have hown : ∀ c, sarControlId l.lower c ∈ controlIds l.lower p.is80053 c := fun c =>
    mem_controlIds.mpr (.inr (.inl rfl))
  have hentry : ∀ c : PackageControl, ∀ e ∈ c.entry,
      sspControlId l.lower p.is80053 e ∈ controlIds l.lower p.is80053 c := fun c e he =>
    mem_controlIds.mpr (.inr (.inr (.inr (Option.mem_map_of_mem _ he))))
  constructor
  · intro h
    -- the one id of a control is its identifier in lower case
    have hspelled := fun c hc => (agree_iff hc).mp (h.agree c hc)
    have heq := fun c hc => controlIds_eq hc (hspelled c hc).1 (hspelled c hc).2
    refine ⟨fun c hc => (hspelled c hc).1, fun hframework c hc => (hspelled c hc).2 hframework,
      fun c hc e he before label after hlabels hlabel => ?_, fun c hc c' hc' hlower => ?_⟩
    · have hstatement := h.statements c hc e he before label after hlabels hlabel
      rw [heq c hc _ (hentry c e he), ← heq c hc _ (hown c)] at hstatement
      have hiff := (statement_iff hlabels).mp hstatement
      rw [heq c hc _ (hown c)] at hiff
      exact hiff
    · by_contra hne
      refine h.distinct c hc c' hc' hne _ (hown c) ?_
      rw [heq c hc _ (hown c), hlower, ← heq c' hc' _ (hown c')]
      exact hown c'
  · intro h
    have heq := fun c hc =>
      controlIds_eq hc (h.identifiers c hc) fun hframework => h.entries hframework c hc
    have htoken : ∀ c ∈ p.controls, isAsciiToken (l.lower c.raw) = true := fun c hc =>
      ((spelledId_iff l c.identifier).mp (h.identifiers c hc)).2
    refine ⟨fun c hc => (agree_iff hc).mpr
        ⟨h.identifiers c hc, fun hframework => h.entries hframework c hc⟩,
      fun c hc e he before label after hlabels hlabel => ?_, fun c hc c' hc' hne x hx hx' => ?_,
      fun c hc => ⟨fun x hx => ?_, fun e he label _ => ?_, fun x hx => ?_⟩⟩
    · rw [heq c hc _ (hentry c e he), ← heq c hc _ (hown c), statement_iff hlabels,
        heq c hc _ (hown c)]
      exact h.labels c hc e he before label after hlabels hlabel
    · refine hne (h.apart c hc c' hc' ?_)
      rw [← heq c hc x hx, ← heq c' hc' x hx']
    · rw [heq c hc x hx]
      exact isToken_of_ascii u (htoken c hc)
    · rw [heq c hc _ (hentry c e he)]
      exact isToken_of_ascii u (isAsciiToken_sspStatementId (htoken c hc) label)
    · refine isToken_of_ascii u (isAsciiToken_sarTargetIds ?_ x hx)
      rw [heq c hc _ (hown c)]
      exact htoken c hc

/-! ## An enhancement -/

def asciiLower : Lower where
  lower := (·.map Char.toLower)
  caseless := fun _ _ => rfl

def asciiClasses : Unicode where
  letter := isAsciiLetter
  number := Char.isDigit
  ascii_letter := fun _ h => h
  ascii_digit := fun _ h => h

def enhanced : PackageControl where
  identifier := some "AC-2(1)".toList
  entry := none
  objectives := []

theorem enhanced_entry {c : PackageControl} (hc : c ∈ [enhanced]) {e : SSPControlEntry} :
    e ∉ c.entry := by
  rw [List.mem_singleton.mp hc]
  exact Option.not_mem_none e

def enhancement : Package where
  is80053 := true
  controls := [enhanced]
  named := fun _ hc _ he => absurd he (enhanced_entry hc)
  seeded := fun _ _ hc _ he => absurd he (enhanced_entry hc)

/-- The component definition has `ac-2.1`, the plan of action `ac-2(1)`. -/
theorem enhancement_inconsistent : ¬Consistent asciiLower asciiClasses enhancement := by
  intro h
  have hagree := h.agree enhanced (List.mem_singleton_self _)
    (componentDefinitionId asciiLower.lower enhanced) (mem_controlIds.mpr (.inl rfl))
    "ac-2(1)".toList (mem_controlIds.mpr (.inr (.inr (.inl rfl))))
  exact absurd hagree (by decide +kernel)

end Concord.Oscal
