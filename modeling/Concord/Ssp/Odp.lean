import Concord.Python.Matches
import Concord.Ssp.Completeness

/-!
# Organization-defined parameters

`ccf/ssp/odp.py`. The parameters of a control are what its texts have in brackets, with a few that
are curated; each has a key, made of the first six words of its label and of its place in the text.
`render` puts values into a template.

A parameter has a slot of its own where no other has the same words at the same place of another
text, and no blank value hides one of the context (`slots_kept_iff`).
-/

namespace Concord.Ssp

open Concord.Python
open Concord.Ssp.Completeness (isUnset isDraftOrPlaceholder odpPlaceholderTokens)

/-! ## Parameters -/

inductive OdpKind
  | assignment | selection
  deriving DecidableEq

/-- `ODP`. -/
structure Odp where
  key : Text
  label : Text
  kind : OdpKind := .assignment
  choices : List Text := []
  guidance : Option Text := none
  suggested : Option Text := none
  source : Text := "NIST SP 800-171".toList
  deriving DecidableEq

/-- What `str.lower` makes of a character, as far as ASCII letters and digits go: only the dotted I
and the Kelvin sign have one in their lower case. -/
def lowerChar (c : Char) : Text :=
  if c = 'İ' then ['i', '\u0307'] else if c = '\u212a' then ['k'] else [c.toLower]

/-- `[a-z0-9]`. -/
def isSlugChar (c : Char) : Bool := ('a' ≤ c && c ≤ 'z') || ('0' ≤ c && c ≤ '9')

/-- The first six words of a text, joined: its runs of letters and digits. -/
def slugBase (text : Text) : Text :=
  let words := ((text.flatMap lowerChar).splitOnP fun c => !isSlugChar c).filter (· ≠ [])
  if words = [] then "param".toList else List.intercalate ['_'] (words.take 6)

/-- `_slug`. -/
def slug (text : Text) (seq : Nat) : Text := slugBase text ++ '_' :: natText seq

example : slug "organization personnel, or roles (each one) — named".toList 2 =
    "organization_personnel_or_roles_each_one_2".toList := by
  decide +kernel

/-- Group 1 of `_ASSIGNMENT_RE`, of what is between the colon and the bracket. Where the words
`organization-defined` are all there is, they are the label; where blanks are, the last one. -/
def assignmentGroup (body : Text) : Text :=
  let inner := lstrip body
  if inner = [] then body.drop (body.length - 1)
  else
    match dropWord "organization-defined".toList inner with
    | none => inner
    | some rest =>
      if !rest.head?.any isSpace then inner
      else if lstrip rest ≠ [] then lstrip rest
      else if 2 ≤ rest.length then rest.drop (rest.length - 1)
      else inner

/-- What is in front of the next closing bracket, if there is one and something is. -/
def bracketed (s : Text) : Option Text :=
  let body := s.takeWhile (· ≠ ']')
  if body = [] ∨ body = s then none else some body

/-- A match of `_ASSIGNMENT_RE`: its label, and how long it is. -/
def matchAssignment : Text → Option (Text × Nat)
  | '[' :: s =>
    (dropWord "assignment:".toList s).bind fun rest =>
      (bracketed rest).map fun body =>
        (strip (assignmentGroup body), 13 + body.length)
  | _ => none

def selectionTail : Text → Option Text
  | ':' :: s => some s
  | s =>
    match lstrip s with
    | '(' :: rest =>
      match rest.dropWhile (· ≠ ')') with
      | ')' :: ':' :: s => some s
      | _ => none
    | _ => none

/-- A match of `_SELECTION_RE`: what there is to select, and how long it is. -/
def matchSelection : Text → Option (Text × Nat)
  | '[' :: s =>
    (dropWord "selection".toList s).bind fun rest =>
      (selectionTail rest).bind fun tail =>
        (bracketed tail).map fun body =>
          (strip body, 2 + (s.length - tail.length) + body.length)
  | _ => none

/-- `re.split(r";|,| or ", raw)`; the first argument is what stands before. -/
def splitChoices : Text → Text → List Text
  | word, [] => [word]
  | word, ' ' :: 'o' :: 'r' :: ' ' :: s => word :: splitChoices [] s
  | word, c :: s =>
    if c = ';' ∨ c = ',' then word :: splitChoices [] s else splitChoices (word ++ [c]) s

/-- A marker of a text: its kind, what it says, and its place. -/
structure Marker where
  kind : OdpKind
  raw : Text
  seq : Nat
  deriving DecidableEq

def Marker.slugged (m : Marker) : Text :=
  match m.kind with
  | .assignment => m.raw
  | .selection => "selection_".toList ++ m.raw

def Marker.odp (m : Marker) : Odp :=
  match m.kind with
  | .assignment => { key := slug m.slugged m.seq, label := m.raw, kind := .assignment }
  | .selection =>
    { key := slug m.slugged m.seq
      label := "selection: ".toList ++ m.raw
      kind := .selection
      choices := ((splitChoices [] m.raw).map strip).filter (· ≠ []) }

/-- The markers of a text: the assignments from 0 on, the selections from 100 on. -/
def markers (text : Option Text) : List Marker :=
  let text := text.getD []
  (finditer matchAssignment text).mapIdx (fun i raw => ⟨.assignment, raw, i⟩) ++
    (finditer matchSelection text).mapIdx fun j raw => ⟨.selection, raw, 100 + j⟩

/-- `extract_odps`. -/
def extractOdps (text : Option Text) : List Odp := (markers text).map Marker.odp

example : extractOdps (some ("Terminate a session after [Assignment: organization-defined time " ++
      "period] using [Selection (one or more): a lock; a logout].").toList) =
    [{ key := "time_period_0".toList, label := "time period".toList },
      { key := "selection_a_lock_a_logout_100".toList,
        label := "selection: a lock; a logout".toList, kind := .selection,
        choices := ["a lock".toList, "a logout".toList] }] := by
  decide +kernel

/-- `CURATED_ODP_171`. -/
def curatedOdp171 : List (Text × List Odp) :=
  [("3.1.10".toList,
      [{ key := "inactivity_period".toList
         label := "period of inactivity before session/device lock".toList
         guidance := some "Common baseline is 15 minutes; set per your risk posture.".toList
         suggested := some "15 minutes".toList }]),
    ("3.1.11".toList,
      [{ key := "session_termination_condition".toList
         label := "condition that triggers session termination".toList
         suggested := some "a defined period of inactivity or user logoff".toList }]),
    ("3.3.1".toList,
      [{ key := "audit_retention_period".toList
         label := "audit record retention period".toList
         guidance :=
          some "DoD/DFARS practice commonly retains at least 90 days online.".toList
         suggested := some "at least 90 days".toList }]),
    ("3.5.8".toList,
      [{ key := "password_generations_prohibited".toList
         label := "number of password generations prohibited from reuse".toList
         suggested := some "24 generations".toList }]),
    ("3.6.2".toList,
      [{ key := "incident_report_timeframe".toList
         label := "timeframe to report incidents".toList
         guidance :=
          some "DFARS 252.204-7012 requires reporting to DoD within 72 hours.".toList
         suggested := some "within 72 hours".toList }]),
    ("3.7.5".toList,
      [{ key := "nonlocal_maintenance_mfa".toList
         label := "multifactor requirement for nonlocal maintenance sessions".toList
         suggested := some "MFA for all nonlocal maintenance sessions".toList }]),
    ("3.11.1".toList,
      [{ key := "risk_assessment_frequency".toList
         label := "frequency of risk assessments".toList
         suggested := some "annually and upon significant change".toList }]),
    ("3.14.1".toList,
      [{ key := "flaw_remediation_timeframe".toList
         label := "timeframe to remediate flaws by severity".toList
         suggested := some "critical within 15 days, high within 30 days".toList }])]

/-- `CURATED_ODP_171.get((nist_id or "").strip(), [])`. -/
def curatedFor (nistId : Option Text) : List Odp :=
  (curatedOdp171.lookup (strip (nistId.getD []))).getD []

/-- `odps_for`: of the parameters of one key the first stays. -/
def odpsFor (nistId : Option Text) (texts : List (Option Text)) : List Odp :=
  (Dict.gather (fun o : Odp => some o.key) (fun first o => first.getD o)
    (curatedFor nistId ++ texts.flatMap extractOdps)).items.map Prod.snd

/-! ## Templates -/

/-- `[a-z0-9_]`, ignoring case. -/
def isKeyChar (c : Char) : Bool :=
  isAsciiLetter c || ('0' ≤ c && c ≤ '9') || c = '_' || c ∈ ['İ', 'ı', 'ſ', '\u212a']

/-- A match of `_PLACEHOLDER_RE`: its key, and how long it is. -/
def matchPlaceholder : Text → Option (Text × Nat)
  | '{' :: '{' :: s =>
    let inner := lstrip s
    let key := inner.takeWhile isKeyChar
    match lstrip (inner.dropWhile isKeyChar) with
    | '}' :: '}' :: rest => if key = [] then none else some (key, 2 + s.length - rest.length)
    | _ => none
  | _ => none

def placeholders (body : Text) : List Text := finditer matchPlaceholder body

def blankMarker (key : Text) : Text := "[ORGANIZATION-DEFINED: ".toList ++ key ++ [']']

section

-- `str` of a value that is no text
variable (str : Json → Text)

/-- `str(value)`. -/
def valueText : Json → Text
  | .str s => s
  | value => str value

/-- A piece of a body, with the value of each key that has one. -/
def renderPiece (value : Text → Option Json) : Piece Text → Text
  | .char c => [c]
  | .found key _ => ((value key).map (valueText str)).getD (blankMarker key)

/-- The placeholders of a body replaced, and the keys without a value. -/
def renderWith (value : Text → Option Json) (body : Text) : Text × List Text :=
  ((pieces matchPlaceholder body).flatMap (renderPiece str value),
    (placeholders body).filter fun key => (value key).isNone)

def givenValue (value : Option Json) : Option Json := value.filter fun v => !isUnset v

/-- `{**context, **odp_values}`. -/
def mergedValues (odpValues context : Dict Text Json) : Dict Text Json :=
  odpValues.items.foldl (fun d p => d.set p.1 p.2) context

/-- `render`. -/
def render (body : Text) (odpValues context : Dict Text Json) : Text × List Text :=
  renderWith str (fun key => givenValue ((mergedValues odpValues context).get? key)) body

end

/-! ## Keys -/

theorem slug_eq_slug {a b : Text} {i j : Nat} :
    slug a i = slug b j ↔ slugBase a = slugBase b ∧ i = j := by
  constructor
  · intro h
    have hreverse := congrArg List.reverse h
    simp only [slug, List.reverse_append, List.reverse_cons, List.append_assoc,
      List.singleton_append] at hreverse
    have hno : ∀ n, '_' ∉ (natText n).reverse := fun n hm =>
      absurd (isDigit_of_mem_natText _ (List.mem_reverse.mp hm)) (by decide)
    obtain ⟨hseq, hbase⟩ := append_separator_inj (hno i) (hno j) hreverse
    exact ⟨List.reverse_injective hbase, natText_injective (List.reverse_injective hseq)⟩
  · rintro ⟨hbase, rfl⟩
    rw [slug, slug, hbase]

theorem getLast?_slug (text : Text) (seq : Nat) :
    ∃ c, (slug text seq).getLast? = some c ∧ c.isDigit = true := by
  have hne : natText seq ≠ [] := Nat.toDigits_ne_nil
  refine ⟨(natText seq).getLast hne, ?_, isDigit_of_mem_natText _ (List.getLast_mem hne)⟩
  rw [slug, List.getLast?_append, List.getLast?_cons, List.getLast?_eq_some_getLast hne]
  rfl

theorem mem_curated {nistId : Option Text} {c : Odp} (h : c ∈ curatedFor nistId) :
    c ∈ curatedOdp171.flatMap Prod.snd := by
  unfold curatedFor at h
  cases hfound : curatedOdp171.lookup (strip (nistId.getD [])) with
  | none =>
    rw [hfound] at h
    cases h
  | some odps =>
    rw [hfound] at h
    obtain ⟨before, after, heq, -⟩ := List.lookup_eq_some_iff.mp hfound
    rw [heq]
    exact List.mem_flatMap.mpr ⟨_, List.mem_append_right _ List.mem_cons_self, h⟩

theorem curated_key_ne {nistId : Option Text} {c : Odp} (h : c ∈ curatedFor nistId) :
    (∀ text seq, c.key ≠ slug text seq) ∧ c.kind = .assignment := by
  have hall : ∀ c ∈ curatedOdp171.flatMap Prod.snd,
      (c.key.getLast?.all fun d => !d.isDigit) = true ∧ c.kind = .assignment := by
    decide +kernel
  obtain ⟨hlast, hkind⟩ := hall c (mem_curated h)
  refine ⟨fun text seq heq => ?_, hkind⟩
  obtain ⟨d, hd, hdigit⟩ := getLast?_slug text seq
  rw [heq, hd, Option.all_some, hdigit] at hlast
  cases hlast

theorem Marker.odp_key (m : Marker) : m.odp.key = slug m.slugged m.seq := by
  unfold Marker.odp
  split <;> rfl

theorem Marker.odp_same {m m' : Marker} :
    (m.odp.kind = m'.odp.kind ∧ m.odp.label = m'.odp.label) ↔ (m.kind = m'.kind ∧ m.raw = m'.raw) := by
  unfold Marker.odp
  cases hm : m.kind with
  | assignment => cases hm' : m'.kind <;> simp
  | selection => cases hm' : m'.kind <;> simp

/-! ## What `odps_for` returns -/

/-- All parameters of a control, before those of one key are merged. -/
def candidates (nistId : Option Text) (texts : List (Option Text)) : List Odp :=
  curatedFor nistId ++ (texts.flatMap markers).map Marker.odp

theorem candidates_eq (nistId : Option Text) (texts : List (Option Text)) :
    curatedFor nistId ++ texts.flatMap extractOdps = candidates nistId texts := by
  rw [candidates, List.map_flatMap]
  rfl

theorem foldl_first (os : List Odp) (first : Option Odp) :
    os.foldl (fun first o => some (first.getD o)) first = first.or os.head? := by
  induction os generalizing first with
  | nil => exact (Option.or_none).symm
  | cons o os ih =>
    rw [List.foldl_cons, ih]
    cases first <;> rfl

theorem mem_odpsFor {nistId : Option Text} {texts : List (Option Text)} {d : Odp} :
    d ∈ odpsFor nistId texts ↔
      (candidates nistId texts).find? (fun o => o.key = d.key) = some d := by
  have hget : ∀ key, (Dict.gather (fun o : Odp => some o.key) (fun first o => first.getD o)
      (candidates nistId texts)).get? key =
        (candidates nistId texts).find? fun o => o.key = key := by
    intro key
    rw [Dict.get?_gather, foldl_first, Option.none_or, List.head?_filter]
    simp only [Option.some.injEq]
  rw [odpsFor, candidates_eq, List.mem_map]
  constructor
  · rintro ⟨⟨key, o⟩, hmem, rfl⟩
    have hfind := Dict.mem_items_iff.mp hmem
    rw [hget] at hfind
    have hkey : o.key = key := by simpa using List.find?_some hfind
    dsimp only
    rwa [hkey]
  · intro hfind
    exact ⟨(d.key, d), Dict.mem_items_iff.mpr ((hget d.key).trans hfind), rfl⟩

theorem nodup_keys_odpsFor (nistId : Option Text) (texts : List (Option Text)) :
    ((odpsFor nistId texts).map Odp.key).Nodup := by
  have hitems : ∀ q ∈ (Dict.gather (fun o : Odp => some o.key) (fun first o => first.getD o)
      (candidates nistId texts)).items, (Odp.key ∘ Prod.snd) q = q.1 := by
    rintro ⟨key, o⟩ hmem
    have hfind := Dict.mem_items_iff.mp hmem
    rw [Dict.get?_gather, foldl_first, Option.none_or] at hfind
    have hkey := (List.mem_filter.mp (List.mem_of_mem_head? hfind)).2
    exact Option.some.inj (of_decide_eq_true hkey)
  rw [odpsFor, candidates_eq, List.map_map, List.map_congr_left hitems]
  exact Dict.nodup _

theorem exists_mem_odpsFor (nistId : Option Text) {texts : List (Option Text)} {m : Marker}
    (h : m ∈ texts.flatMap markers) :
    ∃ m' ∈ texts.flatMap markers, m'.odp ∈ odpsFor nistId texts ∧ m'.odp.key = m.odp.key := by
  cases hfind : (candidates nistId texts).find? (fun o => o.key = m.odp.key) with
  | none =>
    have hnone := List.find?_eq_none.mp hfind m.odp
      (List.mem_append_right _ (List.mem_map_of_mem h))
    exact absurd (decide_eq_true rfl) hnone
  | some d =>
    have hkey : d.key = m.odp.key := by simpa using List.find?_some hfind
    have hd : d ∈ odpsFor nistId texts := mem_odpsFor.mpr (hkey ▸ hfind)
    rcases List.mem_append.mp (List.mem_of_find?_eq_some hfind) with hc | hm
    · exact absurd (hkey.trans m.odp_key) ((curated_key_ne hc).1 _ _)
    · obtain ⟨m', hm', rfl⟩ := List.mem_map.mp hm
      exact ⟨m', hm', hd, hkey⟩

theorem curated_mem_odpsFor {nistId : Option Text} (texts : List (Option Text)) {c : Odp}
    (h : c ∈ curatedFor nistId) : c ∈ odpsFor nistId texts := by
  have hnodup : ((curatedOdp171.flatMap Prod.snd).map Odp.key).Nodup := by decide +kernel
  cases hfind : (candidates nistId texts).find? (fun o => o.key = c.key) with
  | none =>
    exact absurd (decide_eq_true rfl) (List.find?_eq_none.mp hfind c (List.mem_append_left _ h))
  | some d =>
    have hkey : d.key = c.key := by simpa using List.find?_some hfind
    rcases List.mem_append.mp (List.mem_of_find?_eq_some hfind) with hd | hm
    · obtain rfl := List.inj_on_of_nodup_map hnodup (mem_curated hd) (mem_curated h) hkey
      exact mem_odpsFor.mpr hfind
    · obtain ⟨m', -, rfl⟩ := List.mem_map.mp hm
      exact absurd (hkey.symm.trans m'.odp_key) ((curated_key_ne h).1 _ _)

/-- **Every parameter keeps its own slot**: each has one definition, and two that differ share no
key. -/
def OwnSlots (nistId : Option Text) (texts : List (Option Text)) : Prop :=
  ((odpsFor nistId texts).map Odp.key).Nodup ∧
    (∀ m ∈ texts.flatMap markers, ∃! d, d ∈ odpsFor nistId texts ∧
      d.kind = m.odp.kind ∧ d.label = m.odp.label) ∧
    ∀ m ∈ texts.flatMap markers, ∀ m' ∈ texts.flatMap markers,
      ¬ (m.odp.kind = m'.odp.kind ∧ m.odp.label = m'.odp.label) → m.odp.key ≠ m'.odp.key

/-- The first six words of a marker, and its place in its text, are those of another just where
the two say the same; and no curated parameter says it too. -/
def DistinctMarkers (nistId : Option Text) (texts : List (Option Text)) : Prop :=
  (∀ m ∈ texts.flatMap markers, ∀ m' ∈ texts.flatMap markers,
    (slugBase m.slugged = slugBase m'.slugged ∧ m.seq = m'.seq) ↔
      (m.kind = m'.kind ∧ m.raw = m'.raw)) ∧
    ∀ m ∈ texts.flatMap markers, ∀ c ∈ curatedFor nistId,
      ¬ (c.kind = m.kind ∧ c.label = m.raw)

theorem curated_same {nistId : Option Text} {c : Odp} (h : c ∈ curatedFor nistId) (m : Marker) :
    (c.kind = m.odp.kind ∧ c.label = m.odp.label) ↔ (c.kind = m.kind ∧ c.label = m.raw) := by
  rw [(curated_key_ne h).2]
  unfold Marker.odp
  cases m.kind <;> simp

theorem ownSlots_iff (nistId : Option Text) (texts : List (Option Text)) :
    OwnSlots nistId texts ↔ DistinctMarkers nistId texts := by
  have hkeys : ∀ m m' : Marker, m.odp.key = m'.odp.key ↔
      (slugBase m.slugged = slugBase m'.slugged ∧ m.seq = m'.seq) := by
    intro m m'
    rw [m.odp_key, m'.odp_key, slug_eq_slug]
  constructor
  · rintro ⟨-, hone, hdiffer⟩
    have hsame : ∀ m ∈ texts.flatMap markers, ∀ m' ∈ texts.flatMap markers,
        m.odp.key = m'.odp.key → m.odp.kind = m'.odp.kind ∧ m.odp.label = m'.odp.label :=
      fun m hm m' hm' hkey => by_contra fun hne => hdiffer m hm m' hm' hne hkey
    constructor
    · intro m hm m' hm'
      rw [← hkeys, ← Marker.odp_same]
      refine ⟨hsame m hm m' hm', fun heq => ?_⟩
      -- the definitions of the two keys are of one parameter
      obtain ⟨n, hn, hd, hkey⟩ := exists_mem_odpsFor nistId hm
      obtain ⟨n', hn', hd', hkey'⟩ := exists_mem_odpsFor nistId hm'
      have hnm := hsame n hn m hm hkey
      have hnm' := hsame n' hn' m' hm' hkey'
      obtain ⟨d, -, hunique⟩ := hone m hm
      have heq₁ := hunique n.odp ⟨hd, hnm⟩
      have heq₂ := hunique n'.odp ⟨hd', hnm'.1.trans heq.1.symm, hnm'.2.trans heq.2.symm⟩
      rw [← hkey, ← hkey', heq₁, heq₂]
    · intro m hm c hc hsays
      obtain ⟨n, hn, hd, hkey⟩ := exists_mem_odpsFor nistId hm
      obtain ⟨d, -, hunique⟩ := hone m hm
      have heq₁ := hunique n.odp ⟨hd, hsame n hn m hm hkey⟩
      have heq₂ := hunique c ⟨curated_mem_odpsFor texts hc, (curated_same hc m).mpr hsays⟩
      exact (curated_key_ne hc).1 _ _ ((congrArg Odp.key (heq₂.trans heq₁.symm)).trans n.odp_key)
  · rintro ⟨hmarkers, hcurated⟩
    refine ⟨nodup_keys_odpsFor nistId texts, fun m hm => ?_, fun m hm m' hm' hne hkey => ?_⟩
    · obtain ⟨n, hn, hd, hkey⟩ := exists_mem_odpsFor nistId hm
      have hnm := Marker.odp_same.mpr ((hmarkers n hn m hm).mp ((hkeys n m).mp hkey))
      refine ⟨n.odp, ⟨hd, hnm⟩, fun d hmem => ?_⟩
      obtain ⟨hmem, hsays⟩ := hmem
      have hfirst := mem_odpsFor.mp hmem
      rcases List.mem_append.mp (List.mem_of_find?_eq_some hfirst) with hc | hmade
      · exact absurd ((curated_same hc m).mp hsays) (hcurated m hm d hc)
      · obtain ⟨m', hm', rfl⟩ := List.mem_map.mp hmade
        have hkey' := (hkeys m' m).mpr ((hmarkers m' hm' m hm).mpr (Marker.odp_same.mp hsays))
        have hfirst' := mem_odpsFor.mp hd
        rw [hkey] at hfirst'
        rw [hkey', hfirst'] at hfirst
        exact (Option.some.inj hfirst).symm
    · exact hne (Marker.odp_same.mpr ((hmarkers m hm m' hm').mp ((hkeys m m').mp hkey)))

/-! ## Rendering -/

section

variable (str : Json → Text)

/-- The first of the two values of a key that is not blank. -/
def firstNonBlank (odpValues context : Dict Text Json) (key : Text) : Option Json :=
  (givenValue (odpValues.get? key)).or (givenValue (context.get? key))

theorem givenValue_eq_none {value : Option Json} :
    givenValue value = none ↔ value.all isUnset = true := by
  cases value with
  | none => exact iff_of_true rfl rfl
  | some v =>
    rw [givenValue, Option.filter_some, Option.all_some]
    cases isUnset v <;> simp

/-- **Every parameter keeps its value**: a body is rendered with the first value of each key that is
not blank, and the text is a draft just where a key has none. -/
def ValuesKept (body : Text) (odpValues context : Dict Text Json) : Prop :=
  render str body odpValues context = renderWith str (firstNonBlank odpValues context) body ∧
    (isDraftOrPlaceholder body = false →
      (∀ p ∈ odpValues.items ++ context.items,
        isDraftOrPlaceholder (valueText str p.2) = false) →
      (isDraftOrPlaceholder (render str body odpValues context).1 = true ↔
        (render str body odpValues context).2 ≠ []))

/-- No blank value is in front of one that is not, and no marker comes about where values and body
meet. -/
def Unshadowed (body : Text) (odpValues context : Dict Text Json) : Prop :=
  (∀ key ∈ placeholders body, (odpValues.get? key).any isUnset = true →
    (context.get? key).all isUnset = true) ∧
    (isDraftOrPlaceholder body = false →
      (∀ p ∈ odpValues.items ++ context.items,
        isDraftOrPlaceholder (valueText str p.2) = false) →
      (∀ key ∈ placeholders body, (firstNonBlank odpValues context key).isSome = true) →
      isDraftOrPlaceholder (renderWith str (firstNonBlank odpValues context) body).1 = false)

theorem get?_mergedValues (odpValues context : Dict Text Json) (key : Text) :
    (mergedValues odpValues context).get? key = (odpValues.get? key).or (context.get? key) := by
  have hreverse : (odpValues.items.reverse.find? fun p => p.1 = key) =
      odpValues.items.find? fun p => p.1 = key := by
    have hnodup : (odpValues.items.reverse.map Prod.fst).Nodup := by
      rw [List.map_reverse]
      exact List.nodup_reverse.mpr odpValues.nodup
    cases hfind : odpValues.items.find? fun p => p.1 = key with
    | none =>
      rw [List.find?_eq_none] at hfind ⊢
      exact fun p hp => hfind p (List.mem_reverse.mp hp)
    | some p =>
      have hkey : p.1 = key := by simpa using List.find?_some hfind
      rw [← hkey]
      exact Base.find_of_nodup hnodup (List.mem_reverse.mpr (List.mem_of_find?_eq_some hfind))
  rw [mergedValues, Dict.get?_foldl_set, hreverse]
  rfl

theorem mem_placeholders {body key source : Text}
    (h : Piece.found key source ∈ pieces matchPlaceholder body) : key ∈ placeholders body :=
  List.mem_filterMap.mpr ⟨_, h, rfl⟩

theorem renderWith_congr {f g : Text → Option Json} {body : Text}
    (h : ∀ key ∈ placeholders body, f key = g key) :
    renderWith str f body = renderWith str g body := by
  unfold renderWith
  refine Prod.ext ?_ (List.filter_congr fun key hkey => by rw [h key hkey])
  show (pieces matchPlaceholder body).flatMap _ = (pieces matchPlaceholder body).flatMap _
  rw [List.flatMap_def, List.flatMap_def]
  refine congrArg List.flatten (List.map_congr_left fun piece hpiece => ?_)
  cases piece with
  | char c => rfl
  | found key source =>
    show ((f key).map _).getD _ = ((g key).map _).getD _
    rw [h key (mem_placeholders hpiece)]

theorem isDraft_renderWith {value : Text → Option Json} {body : Text}
    (h : (renderWith str value body).2 ≠ []) :
    isDraftOrPlaceholder (renderWith str value body).1 = true := by
  obtain ⟨key, hkey⟩ := List.exists_mem_of_ne_nil _ h
  obtain ⟨hmem, hnone⟩ := List.mem_filter.mp hkey
  obtain ⟨piece, hpiece, hmatch⟩ := List.mem_filterMap.mp hmem
  cases piece with
  | char c => cases hmatch
  | found key' source =>
    obtain rfl := Option.some.inj hmatch
    have hmarker : "[ORGANIZATION-DEFINED:".toList <:+: blankMarker key' :=
      ⟨[], ' ' :: key' ++ [']'], rfl⟩
    have hinfix : blankMarker key' <:+: (renderWith str value body).1 := by
      obtain ⟨before, after, heq⟩ := List.append_of_mem hpiece
      refine ⟨before.flatMap (renderPiece str value), after.flatMap (renderPiece str value), ?_⟩
      rw [renderWith, heq, List.flatMap_append, List.flatMap_cons, renderPiece,
        Option.isNone_iff_eq_none.mp hnone, ← List.append_assoc]
      rfl
    unfold isDraftOrPlaceholder
    rw [Bool.or_eq_true]
    exact .inr (List.any_eq_true.mpr ⟨_, by decide, decide_eq_true (hmarker.trans hinfix)⟩)

theorem givenValue_mergedValues (odpValues context : Dict Text Json) (key : Text) :
    givenValue ((mergedValues odpValues context).get? key) =
      if (odpValues.get? key).any isUnset then none
      else firstNonBlank odpValues context key := by
  rw [get?_mergedValues, firstNonBlank]
  cases odpValues.get? key with
  | none => rfl
  | some v =>
    rw [Option.some_or, Option.any_some, givenValue, Option.filter_some]
    cases isUnset v <;> rfl

theorem valuesKept_iff (body : Text) (odpValues context : Dict Text Json) :
    ValuesKept str body odpValues context ↔ Unshadowed str body odpValues context := by
  constructor
  · rintro ⟨heq, hdraft⟩
    refine ⟨fun key hkey hblank => ?_, fun hbody hvalues hall => ?_⟩
    · -- a key that is missing has no value in either
      have hmem : key ∈ (render str body odpValues context).2 := by
        refine List.mem_filter.mpr ⟨hkey, Option.isNone_iff_eq_none.mpr ?_⟩
        exact (givenValue_mergedValues odpValues context key).trans (if_pos hblank)
      rw [heq] at hmem
      have hnone := Option.isNone_iff_eq_none.mp (List.mem_filter.mp hmem).2
      exact givenValue_eq_none.mp (Option.or_eq_none_iff.mp hnone).2
    · have hnil : (render str body odpValues context).2 = [] := by
        rw [heq, renderWith, List.filter_eq_nil_iff]
        intro key hkey hnone
        have hsome := hall key hkey
        rw [Option.isNone_iff_eq_none.mp hnone] at hsome
        cases hsome
      rw [← heq]
      exact Bool.eq_false_iff.mpr fun htrue => (hdraft hbody hvalues).mp htrue hnil
  · rintro ⟨hshadow, hseam⟩
    have heq : render str body odpValues context =
        renderWith str (firstNonBlank odpValues context) body := by
      refine renderWith_congr str fun key hkey => ?_
      rw [givenValue_mergedValues]
      split
      · rename_i hblank
        rw [firstNonBlank, givenValue_eq_none.mpr (hshadow key hkey hblank), Option.or_none, eq_comm,
          givenValue_eq_none]
        cases ho : odpValues.get? key with
        | none => rfl
        | some v =>
          rw [ho] at hblank
          exact hblank
      · rfl
    refine ⟨heq, fun hbody hvalues => ⟨fun htrue hnil => ?_, fun hne => ?_⟩⟩
    · rw [heq] at htrue hnil
      have hall : ∀ key ∈ placeholders body,
          (firstNonBlank odpValues context key).isSome = true := by
        intro key hkey
        have hnot := List.filter_eq_nil_iff.mp hnil key hkey
        rwa [Bool.not_eq_true, Option.isNone_eq_false_iff] at hnot
      rw [hseam hbody hvalues hall] at htrue
      cases htrue
    · rw [heq] at hne ⊢
      exact isDraft_renderWith str hne

end

theorem matchPlaceholder_pos {s key : Text} {n : Nat} (h : matchPlaceholder s = some (key, n)) :
    0 < n := by
  unfold matchPlaceholder at h
  split at h
  · rename_i s
    dsimp only at h
    split at h
    · rename_i rest hrest
      split at h
      · cases h
      · obtain ⟨-, rfl⟩ := Prod.mk.inj (Option.some.inj h)
        have hlength : ((lstrip s).dropWhile isKeyChar).length ≤ s.length :=
          ((List.dropWhile_sublist _).trans (List.dropWhile_sublist _)).length_le
        have hle : (lstrip ((lstrip s).dropWhile isKeyChar)).length ≤
            ((lstrip s).dropWhile isKeyChar).length := (List.dropWhile_sublist _).length_le
        rw [hrest, List.length_cons, List.length_cons] at hle
        omega
    · cases h
  · cases h

/-- **A parameter keeps its slot and its value** just where no marker has the words and the place
of one that says something else, or says what another does at another place, and where no blank
value stands in front of one that is not and no marker comes about at a seam. The body itself is
its pieces. -/
theorem slots_kept_iff (str : Json → Text) :
    (∀ nistId texts, OwnSlots nistId texts ↔ DistinctMarkers nistId texts) ∧
      ∀ body odpValues context,
        (pieces matchPlaceholder body).flatMap Piece.source = body ∧
          (ValuesKept str body odpValues context ↔ Unshadowed str body odpValues context) := by
  refine ⟨ownSlots_iff, fun body odpValues context => ⟨?_, valuesKept_iff str body _ _⟩⟩
  exact flatMap_source_pieces (fun _ _ _ h => matchPlaceholder_pos h) body

/-- A requirement and an objective, whose parameters differ in the seventh word. -/
def disabledAndRemoved : List (Option Text) :=
  [some "Disable accounts after [Assignment: time period after which an account is disabled].".toList,
    some "Accounts are removed [Assignment: time period after which an account is removed].".toList]

theorem odpsFor_disabledAndRemoved : (odpsFor none disabledAndRemoved).map Odp.label =
    ["time period after which an account is disabled".toList] := by
  decide +kernel

/-- The second of the two parameters is lost, and a blank value hides the one of the context. -/
theorem slots_lost :
    ¬ OwnSlots none disabledAndRemoved ∧
      ¬ ValuesKept (fun _ => []) "Hosted in {{environment}}.".toList
        (.ofPairs [("environment".toList, .str [])])
        (.ofPairs [("environment".toList, .str "AWS GovCloud (US)".toList)]) := by
  constructor
  · rintro ⟨-, hone, -⟩
    have hmarker : ⟨.assignment, "time period after which an account is removed".toList, 0⟩ ∈
        disabledAndRemoved.flatMap markers := by
      decide +kernel
    obtain ⟨d, ⟨hd, -, hlabel⟩, -⟩ := hone _ hmarker
    have hmem := List.mem_map_of_mem (f := Odp.label) hd
    rw [odpsFor_disabledAndRemoved, List.mem_singleton, hlabel] at hmem
    revert hmem
    decide
  · rintro ⟨heq, -⟩
    have hmissing : ["environment".toList] = [] := congrArg Prod.snd heq
    cases hmissing

end Concord.Ssp
