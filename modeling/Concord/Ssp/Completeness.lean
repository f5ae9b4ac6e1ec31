import Concord.Python.Dict
import Concord.Python.Equality
import Concord.Python.Floats
import Concord.Ssp.Gate
import Mathlib.Data.List.Infix

/-!
# The score of an SSP

`assess` of `ccf/ssp/completeness.py`: the gaps of every entry, the sections that are missing, and
the score, four fifths the share of the entries without a gap and one fifth the sections. The
sections are the front matter, averaged with the checks of the boundary where there is one, and
then with the parameters that are filled *while some are not*.

What is better nowhere lowers the score or takes readiness back, but for the last parameter
(`assess_improves`): filling it takes a term out of the average, and where the other sections are
further behind than the parameters were, the score falls.
-/

namespace Concord.Ssp.Completeness

open Concord.Python

/-- `REQUIRED_METADATA`: the paths and their labels. -/
def requiredMetadata : List (Text × Text) :=
  [("system_type", "System type"),
    ("fips199.overall", "FIPS-199 categorization"),
    ("authorization_boundary", "Authorization boundary description"),
    ("roles.system_owner.name", "System Owner"),
    ("roles.isso.name", "ISSO"),
    ("roles.authorizing_official.name", "Authorizing Official")].map
    fun p => (p.1.toList, p.2.toList)

/-- `_ODP_PLACEHOLDER_TOKENS`. -/
def odpPlaceholderTokens : List Text :=
  ["[Assignment:".toList, "[Selection".toList, "[ORGANIZATION-DEFINED:".toList]

/-- `_EVIDENCE_REQUIRED_STATUSES`. -/
def evidenceRequiredStatuses : List Text :=
  ["Implemented".toList, "Partially Implemented".toList]

/-- `GENERIC_ROLE_FLAG`. -/
def genericRoleFlag : Text := "Generic Role — No Named Party on File".toList

/-- `_DRAFT_TOKEN`: the marker without the space after it. -/
def draftToken : Text := (lstrip draftPrefix.reverse).reverse

example : draftToken = "[DRAFT]".toList := by decide

/-- `is_draft_or_placeholder`. -/
def isDraftOrPlaceholder (text : Text) : Bool :=
  decide (draftToken <:+: text) || odpPlaceholderTokens.any fun token => decide (token <:+: text)

/-! ## What is read -/

/-- An entry, as the query hands it over: `entry_to_dict`, with the keys of the parameters that the
control defines and the evidence that is linked to its implementation. -/
structure Row where
  controlId : Text
  partNarratives : List (Option Text)
  responsibleRole : Option Text
  implementationStatus : List Text
  controlOrigination : List Text
  odpDefinitions : List (Option Text)
  odpValues : Dict Text Json
  evidenceRef : Option Text
  linkedEvidence : List Nat

/-- The summary of a boundary. -/
structure Boundary where
  components : Option Nat
  infoTypes : Option Nat
  categorizationReconciles : Bool
  /-- how many have an agreement, and how many there are -/
  interconnectionsWithAgreements : Option (Nat × Nat)

/-- The arguments of `assess`. -/
structure Plan where
  metadata : Json
  entries : List Row
  boundary : Option Boundary
  machineEvidence : Option MachineEvidence

/-! ## Entries -/

def present (t : Option Text) : Bool := t.any fun s => !s.isEmpty

/-- `_has_linked_evidence`. -/
def hasLinkedEvidence (e : Row) : Bool :=
  !(strip (e.evidenceRef.getD [])).isEmpty || !e.linkedEvidence.isEmpty

/-- A value that is `None` or blank. What is no text is never blank under `str`. -/
def isUnset : Json → Bool
  | .null => true
  | .str s => (strip s).isEmpty
  | _ => false

/-- `missing_odp`: the keys that are defined and not filled. -/
def missingOdp (e : Row) : List (Option Text) :=
  e.odpDefinitions.dedup.filter fun key =>
    !(key.bind e.odpValues.get?).any fun value => !isUnset value

/-- `_entry_gaps`. -/
def entryGaps (e : Row) : List Text :=
  let texts := e.partNarratives.map fun t => strip (t.getD [])
  (if !texts.any fun t => !t.isEmpty then ["no implementation narrative".toList]
    else if texts.any isDraftOrPlaceholder then ["draft narrative — needs review".toList]
    else []) ++
  (if !present e.responsibleRole then ["no responsible role".toList]
    else if genericRoleFlag <:+: e.responsibleRole.getD [] then
      ["responsible role is a generic fallback — not a named party".toList]
    else []) ++
  (if e.implementationStatus = [] then ["no implementation status".toList]
    else if e.implementationStatus.any (evidenceRequiredStatuses.contains ·) &&
        !hasLinkedEvidence e then
      ["implemented without evidence".toList]
    else []) ++
  (if e.controlOrigination = [] then ["no control origination".toList] else []) ++
  (if missingOdp e = [] then []
    else [natText (missingOdp e).length ++ " unfilled parameter(s)".toList])

def isComplete (e : Row) : Bool := (entryGaps e).isEmpty

/-! ## Sections -/

/-- `_dig`, along the parts of a path. -/
def digParts : Json → List Text → Json
  | value, [] => value
  | value, part :: rest => digParts ((value.get? part).getD .null) rest

/-- `_dig`. -/
def dig (metadata : Json) (path : Text) : Json := digParts metadata (path.splitOn '.')

def supplied (metadata : Json) (path : Text) : Bool := (dig metadata path).truthy

/-- The labels of the front-matter fields that are missing. -/
def missingMetadata (metadata : Json) : List Text :=
  (requiredMetadata.filter fun p => !supplied metadata p.1).map Prod.snd

/-- The values that the entries hold for their parameters. -/
def odpValuesOf (entries : List Row) : List Json :=
  entries.flatMap fun e => e.odpValues.items.map Prod.snd

/-- `_odp_totals`: how many parameters, and how many of them are unset. -/
def odpTotals (entries : List Row) : Nat × Nat :=
  ((odpValuesOf entries).length, (odpValuesOf entries).countP isUnset)

/-- The four checks of a boundary, each with what is said where it fails. -/
def boundaryChecks (b : Boundary) : List (Bool × Text) :=
  let (withAgreements, total) := b.interconnectionsWithAgreements.getD (0, 0)
  let lacking :=
    if total < withAgreements then '-' :: natText (withAgreements - total)
    else natText (total - withAgreements)
  [(1 ≤ b.components.getD 0, "No boundary components defined".toList),
    (1 ≤ b.infoTypes.getD 0, "No information types categorized".toList),
    (b.categorizationReconciles,
      "System categorization does not reconcile with information types".toList),
    (total = 0 || total = withAgreements,
      lacking ++ " of ".toList ++ natText total ++ " interconnections lack an agreement".toList)]

/-- The gaps of `_boundary_gaps_and_pct`. -/
def boundaryGaps (b : Boundary) : List Text :=
  ((boundaryChecks b).filter fun c => !c.1).map Prod.snd

def boundaryPassed (b : Boundary) : Nat := (boundaryChecks b).countP Prod.fst

/-! ## The report -/

/-- The doubles of `0.8` and `0.2`. -/
def controlWeight : Rat := trueDivide 4 5
def sectionWeight : Rat := trueDivide 1 5

/-- `100 * (0.8 * control_pct + 0.2 * section_pct)`. -/
def weighted (controlPct sectionPct : Rat) : Rat :=
  toDouble (100 *
    toDouble (toDouble (controlWeight * controlPct) + toDouble (sectionWeight * sectionPct)))

/-- `(a + b) / 2.0`. -/
def average (a b : Rat) : Rat := 1 / 2 * toDouble (a + b)

/-- `control_pct`. -/
def controlPct (p : Plan) : Rat := trueDivide (p.entries.countP isComplete) p.entries.length

/-- `section_pct` before the parameters join it. -/
def documentPct (p : Plan) : Rat :=
  let metadataPct := trueDivide (requiredMetadata.length - (missingMetadata p.metadata).length)
    requiredMetadata.length
  match p.boundary with
  | none => metadataPct
  | some b => average metadataPct (trueDivide (boundaryPassed b) 4)

/-- `section_pct`: the parameters count only where one is unset. -/
def sectionPct (p : Plan) : Rat :=
  let (total, unset) := odpTotals p.entries
  if 0 < unset then average (documentPct p) (trueDivide (total - unset) total) else documentPct p

/-- `missing_sections`. -/
def missingSections (p : Plan) : List Text :=
  let (total, unset) := odpTotals p.entries
  missingMetadata p.metadata ++ (p.boundary.map boundaryGaps).getD [] ++
    if 0 < unset then
      [natText unset ++ " of ".toList ++ natText total ++
        " organization-defined parameters (ODPs) unset".toList]
    else []

/-- `control_gaps`, of which the first 200 are reported. -/
def controlGaps (p : Plan) : List (Text × List Text) :=
  ((p.entries.filter fun e => !isComplete e).map fun e => (e.controlId, entryGaps e)).take 200

/-- What `assess` returns. -/
structure Report where
  /-- rounded to tenths, and in tenths -/
  score : Int
  readiness : Readiness
  controlGaps : List (Text × List Text)
  odpSummary : Nat × Nat

/-- `assess`. -/
def assess (p : Plan) : Report where
  score := roundHalfEven (10 * weighted (controlPct p) (sectionPct p))
  readiness := Ssp.assess p.entries.length
    { controlsComplete := p.entries.countP isComplete, missingSections := missingSections p }
    p.machineEvidence
  controlGaps := controlGaps p
  odpSummary := odpTotals p.entries

/-! ## Ratios -/

theorem average_mono {a a' b b' : Rat} (ha : 0 ≤ a) (hb : 0 ≤ b) (haa : a ≤ a') (hbb : b ≤ b') :
    average a b ≤ average a' b' :=
  mul_le_mul_of_nonneg_left (toDouble_mono (add_nonneg ha hb) (add_le_add haa hbb)) (by norm_num)

theorem average_nonneg (a b : Rat) : 0 ≤ average a b :=
  mul_nonneg (by norm_num) (toDouble_nonneg _)

theorem weighted_mono {c c' s s' : Rat} (hc : 0 ≤ c) (hs : 0 ≤ s) (hcc : c ≤ c') (hss : s ≤ s') :
    weighted c s ≤ weighted c' s' := by
  have hcontrol : 0 ≤ controlWeight := trueDivide_nonneg 4 5
  have hsection : 0 ≤ sectionWeight := trueDivide_nonneg 1 5
  have hsum := add_le_add
    (toDouble_mono (mul_nonneg hcontrol hc) (mul_le_mul_of_nonneg_left hcc hcontrol))
    (toDouble_mono (mul_nonneg hsection hs) (mul_le_mul_of_nonneg_left hss hsection))
  have hblend := toDouble_mono (add_nonneg (toDouble_nonneg _) (toDouble_nonneg _)) hsum
  exact toDouble_mono (mul_nonneg (by norm_num) (toDouble_nonneg _))
    (mul_le_mul_of_nonneg_left hblend (by norm_num))

theorem tenths_mono {x y : Rat} (h : x ≤ y) : roundHalfEven (10 * x) ≤ roundHalfEven (10 * y) :=
  roundHalfEven_mono (mul_le_mul_of_nonneg_left h (by norm_num))

theorem within_average {k : Nat} {a b x y : Rat} (hx : Within k a x) (hy : Within k b y) :
    Within (k + 1) (1 / 2 * (a + b)) (average x y) :=
  (hx.add hy).toDouble.scale (by norm_num)

theorem abs_weighted_sub_le {c s x y : Rat} (hx : Within 1 c x) (hy : Within 3 s y) (hc : c ≤ 1)
    (hs : s ≤ 1) : |10 * weighted x y - (800 * c + 200 * s)| ≤ 1 / 1000 := by
  have hcontrol := ((Within.trueDivide 4 (by decide : 0 < 5)).mul hx).toDouble
  have hsection := ((Within.trueDivide 1 (by decide : 0 < 5)).mul hy).toDouble
  have hblend := ((hcontrol.mono (by decide : 3 ≤ 5)).add hsection).toDouble
  have hpercent := (hblend.scale (by norm_num : (0 : Rat) ≤ 100)).toDouble
  have htenths := hpercent.scale (by norm_num : (0 : Rat) ≤ 10)
  have hvalue : (10 : Rat) * (100 * ((4 : Nat) / (5 : Nat) * c + (1 : Nat) / (5 : Nat) * s)) =
      800 * c + 200 * s := by
    push_cast
    ring
  rw [hvalue] at htenths
  exact htenths.abs_sub_le (by linarith)

/-- The share of the entries that are complete. -/
def completeShare (p : Plan) : Rat := (p.entries.countP isComplete : Rat) / p.entries.length

/-- The share of the sections that are there, the parameters apart. -/
def documentShare (p : Plan) : Rat :=
  let metadataShare : Rat :=
    ((requiredMetadata.length - (missingMetadata p.metadata).length : Nat) : Rat) /
      requiredMetadata.length
  match p.boundary with
  | none => metadataShare
  | some b => 1 / 2 * (metadataShare + (boundaryPassed b : Rat) / (4 : Nat))

/-- The share of the parameters that are filled. -/
def filledShare (p : Plan) : Rat :=
  (((odpTotals p.entries).1 - (odpTotals p.entries).2 : Nat) : Rat) / (odpTotals p.entries).1

theorem natCast_div_le_one {m n : Nat} (h : m ≤ n) : (m : Rat) / n ≤ 1 :=
  div_le_one_of_le₀ (Nat.cast_le.mpr h) (Nat.cast_nonneg n)

theorem boundaryPassed_le (b : Boundary) : boundaryPassed b ≤ 4 := List.countP_le_length

theorem completeShare_le_one (p : Plan) : completeShare p ≤ 1 :=
  natCast_div_le_one List.countP_le_length

theorem filledShare_le_one (p : Plan) : filledShare p ≤ 1 := natCast_div_le_one (Nat.sub_le _ _)

theorem documentShare_le_one (p : Plan) : documentShare p ≤ 1 := by
  have hmetadata : ((requiredMetadata.length - (missingMetadata p.metadata).length : Nat) : Rat) /
      requiredMetadata.length ≤ 1 := natCast_div_le_one (Nat.sub_le _ _)
  unfold documentShare
  split
  · exact hmetadata
  · rename_i b _
    have hpassed := natCast_div_le_one (boundaryPassed_le b)
    linarith

theorem within_controlPct (p : Plan) : Within 1 (completeShare p) (controlPct p) := by
  unfold completeShare controlPct
  rcases Nat.eq_zero_or_pos p.entries.length with h | h
  · rw [h, trueDivide_zero, Nat.cast_zero, div_zero]
    exact (Within.refl le_rfl).mono (Nat.zero_le 1)
  · exact Within.trueDivide _ h

theorem within_documentPct (p : Plan) : Within 2 (documentShare p) (documentPct p) := by
  have hmetadata := Within.trueDivide
    (requiredMetadata.length - (missingMetadata p.metadata).length)
    (show 0 < requiredMetadata.length by decide)
  unfold documentShare documentPct
  cases p.boundary with
  | none => exact hmetadata.mono (by decide)
  | some b => exact within_average hmetadata (Within.trueDivide (boundaryPassed b) (by decide))

theorem documentPct_nonneg (p : Plan) : 0 ≤ documentPct p := (within_documentPct p).value_nonneg

/-! ## Improvements -/

/-- One of the inputs is better, and no other differs. -/
inductive Improves : Plan → Plan → Prop
  /-- front-matter fields are supplied -/
  | frontMatter (p : Plan) (metadata : Json)
      (h : ∀ f ∈ requiredMetadata, supplied p.metadata f.1 = true →
        supplied metadata f.1 = true) :
      Improves p { p with metadata }
  /-- gaps of an entry are removed, its parameters apart -/
  | gap (p : Plan) (before : List Row) (e e' : Row) (after : List Row)
      (hentries : p.entries = before ++ e :: after) (hodp : e'.odpValues = e.odpValues)
      (hgaps : entryGaps e' ⊆ entryGaps e) :
      Improves p { p with entries := before ++ e' :: after }
  /-- a parameter of an entry is filled -/
  | parameter (p : Plan) (before : List Row) (e : Row) (after : List Row) (key : Text)
      (value : Json) (hentries : p.entries = before ++ e :: after)
      (hunset : (e.odpValues.get? key).all isUnset = true) (hvalue : isUnset value = false) :
      Improves p { p with
        entries := before ++ { e with odpValues := e.odpValues.set key value } :: after }
  /-- checks of the boundary are satisfied -/
  | boundary (p : Plan) (b b' : Boundary) (hb : p.boundary = some b)
      (h : List.Forall₂ (fun c c' => c.1 = true → c'.1 = true) (boundaryChecks b)
        (boundaryChecks b')) :
      Improves p { p with boundary := some b' }
  /-- blockers are resolved -/
  | blocker (p : Plan) (m m' : MachineEvidence) (hm : p.machineEvidence = some m)
      (hverified : m'.controlsNotMachineVerified ≤ m.controlsNotMachineVerified)
      (hfindings : m'.controlsWithOpenFindings ≤ m.controlsWithOpenFindings)
      (hpoams : ∀ severity, m'.openPoamsBySeverity severity ≤ m.openPoamsBySeverity severity)
      (htemplates : m'.missingResponsibilityTemplates ⊆ m.missingResponsibilityTemplates) :
      Improves p { p with machineEvidence := some m' }

/-- The last parameter that was unset is filled. -/
def FillsLast (p p' : Plan) : Prop := 0 < (odpTotals p.entries).2 ∧ (odpTotals p'.entries).2 = 0

instance (p p' : Plan) : Decidable (FillsLast p p') := inferInstanceAs (Decidable (_ ∧ _))

theorem total_eq_countP (test : Json → Bool) (d : Dict Text Json) :
    d.total (fun value => if test value then (1 : Int) else 0) =
      (d.items.map Prod.snd).countP test := by
  unfold Dict.total
  induction d.items with
  | nil => rfl
  | cons q rest ih =>
    rw [List.map_cons, List.sum_cons, ih, List.map_cons, List.countP_cons]
    push_cast
    exact add_comm _ _

/-- A value for a key that had none is one parameter more, and one for a key that was unset is one
unset parameter less. -/
theorem totals_set {d : Dict Text Json} {key : Text} {value : Json}
    (hunset : (d.get? key).all isUnset = true) (hvalue : isUnset value = false) :
    let values := d.items.map Prod.snd
    let values' := (d.set key value).items.map Prod.snd
    (values'.length = values.length + 1 ∧ values'.countP isUnset = values.countP isUnset) ∨
      (values'.length = values.length ∧ values'.countP isUnset + 1 = values.countP isUnset) := by
  have hall : ∀ gain : Int, (1 : Int) = (d.get? key).elim 0 (fun _ => 1) + gain →
      ((d.set key value).items.map Prod.snd).length = (d.items.map Prod.snd).length + gain := by
    intro gain hgain
    let one : Json → Int := fun _ => if (fun _ : Json => true) .null then 1 else 0
    have h : (d.set key value).total one = d.total one + gain := Dict.total_set one d key hgain
    rwa [total_eq_countP, total_eq_countP, List.countP_true] at h
  have hcount : ∀ gain : Int,
      (0 : Int) = (d.get? key).elim 0 (fun v => if isUnset v then 1 else 0) + gain →
      (((d.set key value).items.map Prod.snd).countP isUnset : Int) =
        (d.items.map Prod.snd).countP isUnset + gain := by
    intro gain hgain
    have hzero : (if isUnset value then (1 : Int) else 0) = 0 := by rw [hvalue]; rfl
    have h : (d.set key value).total (fun v => if isUnset v then (1 : Int) else 0) =
        d.total (fun v => if isUnset v then (1 : Int) else 0) + gain :=
      Dict.total_set _ d key (hzero.trans hgain)
    rwa [total_eq_countP, total_eq_countP] at h
  dsimp only
  cases hold : d.get? key with
  | none =>
    have htotal := hall 1 (by rw [hold]; rfl)
    have hsame := hcount 0 (by rw [hold]; rfl)
    left
    omega
  | some old =>
    rw [hold] at hunset
    have htotal := hall 0 (by rw [hold]; rfl)
    have hless := hcount (-1) (by rw [hold, Option.elim_some, if_pos (by exact hunset)]; rfl)
    right
    omega

theorem odpTotals_append_cons (before : List Row) (e : Row) (after : List Row) :
    odpTotals (before ++ e :: after) =
      ((odpValuesOf before).length + ((e.odpValues.items.map Prod.snd).length +
          (odpValuesOf after).length),
        (odpValuesOf before).countP isUnset + ((e.odpValues.items.map Prod.snd).countP isUnset +
          (odpValuesOf after).countP isUnset)) := by
  rw [odpTotals, odpValuesOf, List.flatMap_append, List.flatMap_cons, List.length_append,
    List.length_append, List.countP_append, List.countP_append]
  rfl

theorem missingOdp_set {e : Row} {key : Text} {value : Json} (hvalue : isUnset value = false)
    (h : missingOdp e = []) :
    missingOdp { e with odpValues := e.odpValues.set key value } = [] := by
  rw [missingOdp, List.filter_eq_nil_iff] at h ⊢
  intro k hk
  refine fun hmissing => h k hk ?_
  cases k with
  | none => rfl
  | some k =>
    rw [Option.bind_some] at hmissing ⊢
    rw [Dict.get?_set] at hmissing
    split at hmissing
    · rw [Option.any_some, hvalue] at hmissing
      cases hmissing
    · exact hmissing

theorem isComplete_set {e : Row} {key : Text} {value : Json} (hvalue : isUnset value = false)
    (h : isComplete e = true) :
    isComplete { e with odpValues := e.odpValues.set key value } = true := by
  unfold isComplete entryGaps at h ⊢
  simp only [List.isEmpty_iff, List.append_eq_nil_iff] at h ⊢
  obtain ⟨hrest, hodp⟩ := h
  refine ⟨hrest, ?_⟩
  have hmissing : missingOdp e = [] := by
    by_contra hne
    rw [if_neg hne] at hodp
    cases hodp
  rw [if_pos (missingOdp_set hvalue hmissing)]

theorem countP_replace {before after : List Row} {e e' : Row}
    (h : isComplete e = true → isComplete e' = true) :
    (before ++ e :: after).countP isComplete ≤ (before ++ e' :: after).countP isComplete := by
  rw [List.countP_append, List.countP_append, List.countP_cons, List.countP_cons]
  split
  · rename_i he
    rw [if_pos (h he)]
  · omega

/-- What an improvement does to each of the terms. -/
structure NotWorse (p p' : Plan) : Prop where
  length : p'.entries.length = p.entries.length
  complete : p.entries.countP isComplete ≤ p'.entries.countP isComplete
  metadata : (missingMetadata p'.metadata).length ≤ (missingMetadata p.metadata).length
  boundary : p'.boundary = p.boundary ∨
    ∃ b b', p.boundary = some b ∧ p'.boundary = some b' ∧ boundaryPassed b ≤ boundaryPassed b'
  total : (odpTotals p.entries).1 ≤ (odpTotals p'.entries).1
  unset : (odpTotals p'.entries).2 ≤ (odpTotals p.entries).2
  /-- only a parameter that is filled changes these numbers -/
  document : (odpTotals p'.entries).2 = (odpTotals p.entries).2 ∨
    (p'.metadata = p.metadata ∧ p'.boundary = p.boundary)
  blockers : (p.machineEvidence.map readinessBlockers).getD [] = [] →
    (p'.machineEvidence.map readinessBlockers).getD [] = []

theorem length_missingMetadata (metadata : Json) :
    (missingMetadata metadata).length =
      requiredMetadata.countP fun f => !supplied metadata f.1 := by
  rw [missingMetadata, List.length_map, List.countP_eq_length_filter]

theorem countP_forall₂ {α : Type} {R : α → α → Prop} {test : α → Bool} {xs ys : List α}
    (hR : ∀ x y, R x y → test x = true → test y = true) (h : List.Forall₂ R xs ys) :
    xs.countP test ≤ ys.countP test := by
  induction h with
  | nil => exact le_rfl
  | cons hxy _ ih =>
    rw [List.countP_cons, List.countP_cons]
    split
    · rename_i hx
      rw [if_pos (hR _ _ hxy hx)]
      omega
    · omega

theorem readinessBlockers_eq_nil {m m' : MachineEvidence}
    (hverified : m'.controlsNotMachineVerified ≤ m.controlsNotMachineVerified)
    (hfindings : m'.controlsWithOpenFindings ≤ m.controlsWithOpenFindings)
    (hpoams : ∀ severity, m'.openPoamsBySeverity severity ≤ m.openPoamsBySeverity severity)
    (htemplates : m'.missingResponsibilityTemplates ⊆ m.missingResponsibilityTemplates)
    (h : readinessBlockers m = []) : readinessBlockers m' = [] := by
  unfold readinessBlockers at h ⊢
  simp only [List.append_eq_nil_iff, ite_eq_left_iff, List.cons_ne_nil, imp_false, not_not,
    List.filterMap_eq_nil_iff, ite_eq_left_iff, reduceCtorEq] at h ⊢
  obtain ⟨⟨⟨hv, hf⟩, hp⟩, ht⟩ := h
  refine ⟨⟨⟨by omega, by omega⟩, fun severity hs => ?_⟩, ?_⟩
  · have hzero := hp severity hs
    have hle := hpoams severity
    omega
  · rw [ht] at htemplates
    exact List.subset_nil.mp htemplates

theorem Improves.notWorse {p p' : Plan} (h : Improves p p') : NotWorse p p' := by
  cases h with
  | frontMatter metadata h =>
    refine ⟨rfl, le_rfl, ?_, .inl rfl, le_rfl, le_rfl, .inl rfl, id⟩
    rw [length_missingMetadata, length_missingMetadata]
    refine List.countP_mono_left fun f hf hmissing => ?_
    simp only [Bool.not_eq_true'] at hmissing ⊢
    by_contra hsupplied
    rw [h f hf (by simpa using hsupplied)] at hmissing
    cases hmissing
  | gap before e e' after hentries hodp hgaps =>
    have hcomplete : isComplete e = true → isComplete e' = true := by
      intro he
      rw [isComplete, List.isEmpty_iff] at he ⊢
      rw [he] at hgaps
      exact List.subset_nil.mp hgaps
    have htotals : odpTotals (before ++ e' :: after) = odpTotals p.entries := by
      rw [hentries, odpTotals_append_cons, odpTotals_append_cons, hodp]
    refine ⟨?_, hentries ▸ countP_replace hcomplete, le_rfl, .inl rfl, ?_, ?_, .inl ?_, id⟩
    · rw [hentries, List.length_append, List.length_append, List.length_cons, List.length_cons]
    · exact le_of_eq (congrArg Prod.fst htotals.symm)
    · exact le_of_eq (congrArg Prod.snd htotals)
    · exact congrArg Prod.snd htotals
  | parameter before e after key value hentries hunset hvalue =>
    have htotals := totals_set hunset hvalue
    dsimp only at htotals
    refine ⟨?_, hentries ▸ countP_replace (isComplete_set hvalue), le_rfl, .inl rfl, ?_, ?_,
      .inr ⟨rfl, rfl⟩, id⟩
    · rw [hentries, List.length_append, List.length_append, List.length_cons, List.length_cons]
    · rw [hentries, odpTotals_append_cons, odpTotals_append_cons]
      dsimp only
      omega
    · rw [hentries, odpTotals_append_cons, odpTotals_append_cons]
      dsimp only
      omega
  | boundary b b' hb h =>
    refine ⟨rfl, le_rfl, le_rfl, .inr ⟨b, b', hb, rfl, ?_⟩, le_rfl, le_rfl, .inl rfl, id⟩
    exact countP_forall₂ (fun _ _ h => h) h
  | blocker m m' hm hverified hfindings hpoams htemplates =>
    refine ⟨rfl, le_rfl, le_rfl, .inl rfl, le_rfl, le_rfl, .inl rfl, fun hnone => ?_⟩
    rw [hm] at hnone
    exact readinessBlockers_eq_nil hverified hfindings hpoams htemplates hnone

theorem unset_le_total (entries : List Row) : (odpTotals entries).2 ≤ (odpTotals entries).1 :=
  List.countP_le_length

/-- The share of the filled parameters, as a double. -/
def odpPct (p : Plan) : Rat :=
  trueDivide ((odpTotals p.entries).1 - (odpTotals p.entries).2) (odpTotals p.entries).1

theorem sectionPct_eq (p : Plan) : sectionPct p =
    if 0 < (odpTotals p.entries).2 then average (documentPct p) (odpPct p)
    else documentPct p := rfl

theorem sectionPct_nonneg (p : Plan) : 0 ≤ sectionPct p := by
  rw [sectionPct_eq]
  split
  · exact average_nonneg _ _
  · exact documentPct_nonneg p

theorem controlPct_nonneg (p : Plan) : 0 ≤ controlPct p := trueDivide_nonneg _ _

/-- `section_pct`, exactly. -/
def sectionShare (p : Plan) : Rat :=
  if 0 < (odpTotals p.entries).2 then 1 / 2 * (documentShare p + filledShare p)
  else documentShare p

theorem sectionShare_le_one (p : Plan) : sectionShare p ≤ 1 := by
  have hdocument := documentShare_le_one p
  have hfilled := filledShare_le_one p
  unfold sectionShare
  split <;> linarith

theorem within_sectionPct (p : Plan) : Within 3 (sectionShare p) (sectionPct p) := by
  have hdocument := within_documentPct p
  rw [sectionPct_eq, sectionShare]
  split
  · rename_i hunset
    have hfilled : Within 1 (filledShare p) (odpPct p) :=
      Within.trueDivide _ (hunset.trans_le (unset_le_total p.entries))
    exact within_average hdocument (hfilled.mono (by decide))
  · exact hdocument.mono (by decide)

theorem abs_weighted_sub_shares_le (p : Plan) :
    |10 * weighted (controlPct p) (sectionPct p) -
      (800 * completeShare p + 200 * sectionShare p)| ≤ 1 / 1000 :=
  abs_weighted_sub_le (within_controlPct p) (within_sectionPct p) (completeShare_le_one p)
    (sectionShare_le_one p)

theorem average_le_left {a b : Rat} (ha : 0 ≤ a) (hb : 0 ≤ b)
    (hdouble : toDouble (2 * a) = 2 * a) (h : b ≤ a) : average a b ≤ a := by
  have hsum : toDouble (a + b) ≤ 2 * a := by
    rw [← hdouble]
    exact toDouble_mono (add_nonneg ha hb) (by linarith)
  unfold average
  linarith

theorem toDouble_two_mul_documentPct (p : Plan) :
    toDouble (2 * documentPct p) = 2 * documentPct p := by
  unfold documentPct
  cases p.boundary with
  | none => exact toDouble_two_mul _ _
  | some b =>
    dsimp only [average]
    rw [← mul_assoc, show (2 : Rat) * (1 / 2) = 1 by norm_num, one_mul]
    exact toDouble_toDouble _

namespace NotWorse

variable {p p' : Plan} (h : NotWorse p p')

include h

theorem controlPct_le : controlPct p ≤ controlPct p' := by
  unfold controlPct
  rw [h.length]
  exact trueDivide_mono _ h.complete

theorem documentPct_le : documentPct p ≤ documentPct p' := by
  have hmetadata := trueDivide_mono requiredMetadata.length
    (Nat.sub_le_sub_left h.metadata requiredMetadata.length)
  unfold documentPct
  rcases h.boundary with heq | ⟨b, b', hb, hb', hle⟩
  · rw [heq]
    cases p.boundary with
    | none => exact hmetadata
    | some b => exact average_mono (trueDivide_nonneg _ _) (trueDivide_nonneg _ _) hmetadata le_rfl
  · rw [hb, hb']
    exact average_mono (trueDivide_nonneg _ _) (trueDivide_nonneg _ _) hmetadata
      (trueDivide_mono 4 hle)

theorem odpPct_le (hunset : 0 < (odpTotals p.entries).2) : odpPct p ≤ odpPct p' := by
  have hle := unset_le_total p.entries
  have hle' := unset_le_total p'.entries
  have htotal := h.total
  refine trueDivide_le_of_div_le (by omega) (by omega) ?_
  have hpos : (0 : Rat) < (odpTotals p.entries).1 := by
    exact_mod_cast hunset.trans_le hle
  have hpos' : (0 : Rat) < (odpTotals p'.entries).1 := by
    exact_mod_cast (hunset.trans_le hle).trans_le htotal
  rw [div_le_div_iff₀ hpos hpos', Nat.cast_sub hle, Nat.cast_sub hle', sub_mul, sub_mul,
    mul_comm ((odpTotals p'.entries).1 : Rat)]
  refine sub_le_sub_left ?_ _
  exact_mod_cast Nat.mul_le_mul h.unset htotal

theorem weighted_le (hlast : ¬ FillsLast p p') :
    weighted (controlPct p) (sectionPct p) ≤ weighted (controlPct p') (sectionPct p') := by
  refine weighted_mono (controlPct_nonneg p) (sectionPct_nonneg p) h.controlPct_le ?_
  rw [sectionPct_eq, sectionPct_eq]
  by_cases hunset : 0 < (odpTotals p.entries).2
  · rw [if_pos hunset, if_pos (Nat.pos_of_ne_zero fun h0 => hlast ⟨hunset, h0⟩)]
    exact average_mono (documentPct_nonneg p) (trueDivide_nonneg _ _) h.documentPct_le
      (h.odpPct_le hunset)
  · have hle := h.unset
    rw [if_neg hunset, if_neg (by omega)]
    exact h.documentPct_le

theorem documentShare_eq (hlast : FillsLast p p') : documentShare p' = documentShare p := by
  have hpos := hlast.1
  have hzero := hlast.2
  rcases h.document with heq | ⟨hmetadata, hboundary⟩
  · omega
  · rw [documentShare, documentShare, hmetadata, hboundary]

theorem weighted_le_of_odpPct_le (hlast : FillsLast p p') (hodp : odpPct p ≤ documentPct p) :
    weighted (controlPct p) (sectionPct p) ≤ weighted (controlPct p') (sectionPct p') := by
  refine weighted_mono (controlPct_nonneg p) (sectionPct_nonneg p) h.controlPct_le ?_
  rw [sectionPct_eq, sectionPct_eq, if_pos hlast.1, if_neg (by rw [hlast.2]; exact lt_irrefl 0)]
  exact (average_le_left (documentPct_nonneg p) (trueDivide_nonneg _ _)
    (toDouble_two_mul_documentPct p) hodp).trans h.documentPct_le

theorem weighted_near (hlast : FillsLast p p') :
    |10 * weighted (controlPct p) (sectionPct p) -
        (800 * completeShare p + 100 * (documentShare p + filledShare p))| ≤ 1 / 1000 ∧
      |10 * weighted (controlPct p') (sectionPct p') -
        (800 * completeShare p' + 200 * documentShare p)| ≤ 1 / 1000 := by
  have hbefore := abs_weighted_sub_shares_le p
  have hafter := abs_weighted_sub_shares_le p'
  rw [sectionShare, if_pos hlast.1] at hbefore
  rw [sectionShare, if_neg (by rw [hlast.2]; exact lt_irrefl 0), h.documentShare_eq hlast]
    at hafter
  refine ⟨?_, hafter⟩
  rwa [show (200 : Rat) * (1 / 2 * (documentShare p + filledShare p)) =
    100 * (documentShare p + filledShare p) by ring] at hbefore

end NotWorse

/-! ## Readiness -/

theorem missingSections_eq_nil {p : Plan} : missingSections p = [] ↔
    missingMetadata p.metadata = [] ∧ (p.boundary.map boundaryGaps).getD [] = [] ∧
      (odpTotals p.entries).2 = 0 := by
  unfold missingSections
  dsimp only
  rw [List.append_eq_nil_iff, List.append_eq_nil_iff, and_assoc]
  refine and_congr_right fun _ => and_congr_right fun _ => ?_
  split
  · rename_i h
    exact ⟨fun hnil => absurd hnil (List.cons_ne_nil _ _), fun hzero => absurd hzero h.ne'⟩
  · rename_i h
    exact ⟨fun _ => Nat.eq_zero_of_not_pos h, fun _ => rfl⟩

theorem ready_iff {p : Plan} : (assess p).readiness.ready = true ↔
    p.entries.length ≠ 0 ∧ p.entries.countP isComplete = p.entries.length ∧
      missingSections p = [] ∧ (p.machineEvidence.map readinessBlockers).getD [] = [] := by
  simp only [assess, Ssp.assess, Bool.and_eq_true, decide_eq_true_eq, List.isEmpty_iff, and_assoc,
    ne_eq]

theorem boundaryGaps_eq_nil {b : Boundary} : boundaryGaps b = [] ↔ boundaryPassed b = 4 := by
  rw [boundaryGaps, List.map_eq_nil_iff, List.filter_eq_nil_iff, boundaryPassed,
    show 4 = (boundaryChecks b).length from rfl, List.countP_eq_length]
  refine forall₂_congr fun c _ => ?_
  cases c.1 <;> simp

theorem NotWorse.ready {p p' : Plan} (h : NotWorse p p')
    (hready : (assess p).readiness.ready = true) : (assess p').readiness.ready = true := by
  rw [ready_iff, missingSections_eq_nil] at hready ⊢
  obtain ⟨hsome, hcomplete, ⟨hmetadata, hboundary, hodp⟩, hblockers⟩ := hready
  have hlength := h.length
  have hle := h.complete
  have hbound : p'.entries.countP isComplete ≤ p'.entries.length := List.countP_le_length
  have hunset := h.unset
  refine ⟨by omega, by omega, ⟨?_, ?_, by omega⟩, h.blockers hblockers⟩
  · have hmissing := h.metadata
    rw [hmetadata, List.length_nil] at hmissing
    exact List.length_eq_zero_iff.mp (Nat.le_zero.mp hmissing)
  · rcases h.boundary with heq | ⟨b, b', hb, hb', hpassed⟩
    · rw [heq]
      exact hboundary
    · rw [hb, Option.map_some, Option.getD_some, boundaryGaps_eq_nil] at hboundary
      rw [hb', Option.map_some, Option.getD_some, boundaryGaps_eq_nil]
      have hmost := boundaryPassed_le b'
      omega

theorem score_of_ready {p : Plan} (h : (assess p).readiness.ready = true) :
    (assess p).score = 1000 := by
  obtain ⟨hsome, hcomplete, hsections, -⟩ := ready_iff.mp h
  obtain ⟨hmetadata, hboundary, hodp⟩ := missingSections_eq_nil.mp hsections
  have hcontrol : controlPct p = 1 := by
    rw [controlPct, hcomplete, trueDivide_self (Nat.pos_of_ne_zero hsome)]
  have hdocument : documentPct p = 1 := by
    unfold documentPct
    rw [hmetadata, List.length_nil, Nat.sub_zero, trueDivide_self (by decide)]
    cases hb : p.boundary with
    | none => rfl
    | some b =>
      rw [hb, Option.map_some, Option.getD_some, boundaryGaps_eq_nil] at hboundary
      dsimp only
      rw [hboundary]
      decide +kernel
  show roundHalfEven (10 * weighted (controlPct p) (sectionPct p)) = 1000
  rw [sectionPct_eq, hodp, if_neg (lt_irrefl 0), hcontrol, hdocument]
  decide +kernel

theorem controlGaps_of_ready {p : Plan} (h : (assess p).readiness.ready = true) :
    (assess p).controlGaps = [] := by
  obtain ⟨-, hcomplete, -, -⟩ := ready_iff.mp h
  have hall := List.countP_eq_length.mp hcomplete
  show controlGaps p = []
  rw [controlGaps, List.filter_eq_nil_iff.mpr, List.map_nil, List.take_nil]
  intro e he
  simp [hall e he]

/-- **Closing a gap never takes readiness back**, and it never lowers the score where it does not
fill the last parameter. Where it does, and the parameters that were filled are no greater a part
than the sections, or the entries it completes make up for what they are ahead by, the score does
not fall either; and where they do not, by a little more than a tenth of a point, it falls. What is
ready has the score 100 and nothing is missing. -/
theorem assess_improves (p p' : Plan) :
    ((assess p).readiness.ready = true →
      (assess p).score = 1000 ∧ (assess p).readiness.missingSections = [] ∧
        (assess p).controlGaps = [] ∧ (assess p).readiness.readinessBlockers = []) ∧
    (Improves p p' →
      ((assess p).readiness.ready = true → (assess p').readiness.ready = true) ∧
      (¬ FillsLast p p' ∨ odpPct p ≤ documentPct p ∨
          filledShare p + 1 / 50000 ≤
            documentShare p + 8 * (completeShare p' - completeShare p) →
        (assess p).score ≤ (assess p').score) ∧
      (FillsLast p p' ∧
          documentShare p + 8 * (completeShare p' - completeShare p) + 11 / 1000 ≤
            filledShare p →
        (assess p').score < (assess p).score)) := by
  constructor
  · intro h
    obtain ⟨-, -, hsections, hblockers⟩ := ready_iff.mp h
    exact ⟨score_of_ready h, hsections, controlGaps_of_ready h, hblockers⟩
  intro himproves
  have h := himproves.notWorse
  refine ⟨h.ready, fun hcondition => tenths_mono ?_, ?_⟩
  · by_cases hlast : FillsLast p p'
    · rcases hcondition with hnot | hodp | hshares
      · exact absurd hlast hnot
      · exact h.weighted_le_of_odpPct_le hlast hodp
      · obtain ⟨hbefore, hafter⟩ := h.weighted_near hlast
        have hbelow := (abs_le.mp hbefore).2
        have habove := (abs_le.mp hafter).1
        linarith
    · exact h.weighted_le hlast
  · rintro ⟨hlast, hshares⟩
    obtain ⟨hbefore, hafter⟩ := h.weighted_near hlast
    have hbelow := (abs_le.mp hbefore).1
    have habove := (abs_le.mp hafter).2
    have hround := (abs_le.mp (abs_roundHalfEven_sub_le
      (10 * weighted (controlPct p) (sectionPct p)))).1
    have hround' := (abs_le.mp (abs_roundHalfEven_sub_le
      (10 * weighted (controlPct p') (sectionPct p')))).2
    have hlt : ((assess p').score : Rat) < (assess p).score := by
      show (roundHalfEven _ : Rat) < roundHalfEven _
      linarith
    exact_mod_cast hlt

def scaffolded : Row where
  controlId := "AC-2".toList
  partNarratives := []
  responsibleRole := none
  implementationStatus := []
  controlOrigination := []
  odpDefinitions := []
  odpValues := .ofPairs [("ac-02_odp.01".toList, .str "a manager".toList),
    ("ac-02_odp.02".toList, .null)]
  evidenceRef := none
  linkedEvidence := []

def scaffoldedPlan : Plan := ⟨.obj [], [scaffolded], none, none⟩

def filledPlan : Plan :=
  { scaffoldedPlan with entries :=
      [{ scaffolded with odpValues :=
          scaffolded.odpValues.set "ac-02_odp.02".toList (.str "24 hours".toList) }] }

/-- The score was 5.0, and it is 0.0 where the last parameter is filled. -/
theorem filledPlan_scores_less :
    Improves scaffoldedPlan filledPlan ∧
      (assess scaffoldedPlan).score = 50 ∧ (assess filledPlan).score = 0 := by
  refine ⟨?_, by decide +kernel, by decide +kernel⟩
  exact .parameter scaffoldedPlan [] scaffolded [] _ _ rfl (by decide) (by decide)

end Concord.Ssp.Completeness
