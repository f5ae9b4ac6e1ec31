import Concord.Assessment.Objectives
import Concord.Packs.Catalog

/-!
# OSCAL ids

`_oscal_token`, `_oscal_control_id` and `_statement_id` of `ccf/api/routes/oscal.py`, with the
`strip_dedup_suffix` of `ccf/assessment/engine/objectives.py`. Where the code takes `None` for a
text it means the empty one. `str.lower` is given.

`canonical_to_oscal_id` of `ccf/catalog/canonical.py` is the other half of `canonicalize`: every
`(n)` becomes `.n`, and the letters are lower case.
-/

namespace Concord.Catalog

open Concord.Python

/-- `re.sub(r"\((\d+)\)", r".\1", s)`, with the digits after an open parenthesis. -/
def dotGroups : Option Text → Text → Text
  | none, [] => []
  | none, '(' :: s => dotGroups (some []) s
  | none, c :: s => c :: dotGroups none s
  | some digits, [] => '(' :: digits
  | some digits, c :: s =>
    if isDecimal c then dotGroups (some (digits ++ [c])) s
    else if c = ')' ∧ digits ≠ [] then '.' :: digits ++ dotGroups none s
    else if c = '(' then '(' :: digits ++ dotGroups (some []) s
    else '(' :: digits ++ c :: dotGroups none s

/-- `canonical_to_oscal_id`. -/
def canonicalToOscalId (lower : Text → Text) (canonical : Text) : Text :=
  lower (dotGroups none canonical)

example : canonicalToOscalId (·.map Char.toLower) "AC-2(1)(2)".toList = "ac-2.1.2".toList := by
  decide

end Concord.Catalog

namespace Concord.Oscal

open Concord.Python Concord.Catalog Concord.Packs.Catalog Concord.Assessment

/-! ## `_oscal_token` -/

/-- `re.sub(r"\s+", "-", s)`; the flag is set behind a blank. -/
def dashBlanks : Bool → Text → Text
  | _, [] => []
  | blank, c :: s =>
    if isSpace c then if blank then dashBlanks true s else '-' :: dashBlanks true s
    else c :: dashBlanks false s

/-- `[A-Za-z0-9.\-_]`, what `_TOKEN_DISALLOWED_RE` leaves. -/
def isTokenChar (c : Char) : Bool :=
  isAsciiLetter c ∨ ('0' ≤ c ∧ c ≤ '9') ∨ c = '.' ∨ c = '-' ∨ c = '_'

/-- `_TOKEN_VALID_START_RE`. -/
def isTokenStart (c : Char) : Bool := isAsciiLetter c ∨ c = '_'

/-- `_oscal_token`. -/
def oscalToken (value : Text) : Text :=
  let text := (dashBlanks false (strip value)).filter isTokenChar
  let text := if text = [] then "unspecified".toList else text
  if text.head?.any isTokenStart then text else '_' :: text

example : oscalToken " Customer  Responsibility ".toList = "Customer-Responsibility".toList ∧
    oscalToken "3.1.1".toList = "_3.1.1".toList := by
  decide +kernel

def isAsciiToken (s : Text) : Bool := s.head?.any isTokenStart && s.all isTokenChar

theorem isTokenChar_of_start {c : Char} (h : isTokenStart c = true) : isTokenChar c = true := by
  simp only [isTokenStart, isTokenChar, decide_eq_true_eq] at h ⊢
  rcases h with h | h
  · exact .inl h
  · exact .inr (.inr (.inr (.inr h)))

theorem isTokenChar_of_mem {s : Text} (h : isAsciiToken s = true) : ∀ c ∈ s, isTokenChar c = true :=
  List.all_eq_true.mp (Bool.and_eq_true_iff.mp h).2

theorem isSpace_of_tokenChar {c : Char} (h : isTokenChar c = true) : isSpace c = false := by
  have hn : 0x21 ≤ c.toNat ∧ c.toNat < 0x80 := by
    simp only [isTokenChar, isAsciiLetter, decide_eq_true_eq, Char.le_def, UInt32.le_iff_toNat_le]
      at h
    rcases h with (h | h) | h | rfl | rfl | rfl
    · exact ⟨le_trans (by decide) h.1, lt_of_le_of_lt h.2 (by decide)⟩
    · exact ⟨le_trans (by decide) h.1, lt_of_le_of_lt h.2 (by decide)⟩
    · exact ⟨le_trans (by decide) h.1, lt_of_le_of_lt h.2 (by decide)⟩
    · decide
    · decide
    · decide
  simp only [isSpace, decide_eq_false_iff_not]
  omega

theorem oscalToken_isAsciiToken (value : Text) : isAsciiToken (oscalToken value) = true := by
  have hall : ∀ text : Text, text.all isTokenChar = true →
      isAsciiToken (if text.head?.any isTokenStart then text else '_' :: text) = true := by
    intro text htext
    by_cases h : text.head?.any isTokenStart = true
    · rw [if_pos h, isAsciiToken, h, htext]
      rfl
    · rw [if_neg h, isAsciiToken, List.all_cons, htext]
      rfl
  unfold oscalToken
  apply hall
  by_cases h : (dashBlanks false (strip value)).filter isTokenChar = []
  · rw [if_pos h]
    decide
  · rw [if_neg h, List.all_filter]
    simp

theorem dashBlanks_of_no_blank {s : Text} (h : ∀ c ∈ s, isSpace c = false) :
    dashBlanks false s = s := by
  induction s with
  | nil => rfl
  | cons c s ih =>
    rw [dashBlanks, h c List.mem_cons_self, if_neg Bool.false_ne_true,
      ih fun d hd => h d (List.mem_cons_of_mem c hd)]

theorem strip_of_no_blank {s : Text} (h : ∀ c ∈ s, isSpace c = false) : strip s = s := by
  have hl : ∀ {t : Text}, (∀ c ∈ t, isSpace c = false) → lstrip t = t := by
    intro t ht
    cases t with
    | nil => rfl
    | cons c t => exact List.dropWhile_cons_of_neg (by simp [ht c List.mem_cons_self])
  rw [strip, hl h, hl fun c hc => h c (List.mem_reverse.mp hc), List.reverse_reverse]

theorem oscalToken_of_token {s : Text} (h : isAsciiToken s = true) : oscalToken s = s := by
  obtain ⟨hstart, hall⟩ := Bool.and_eq_true_iff.mp h
  rw [List.all_eq_true] at hall
  have hblank : ∀ c ∈ s, isSpace c = false := fun c hc => isSpace_of_tokenChar (hall c hc)
  have hne : s ≠ [] := by
    rintro rfl
    cases hstart
  simp only [oscalToken, strip_of_no_blank hblank, dashBlanks_of_no_blank hblank,
    List.filter_eq_self.mpr hall, if_neg hne, if_pos hstart]

/-! ## `_oscal_control_id` and `_statement_id` -/

/-- `_oscal_control_id`. -/
def oscalControlId (lower : Text → Text) (identifier : Option Text) : Text :=
  let raw := identifier.getD []
  match canonicalize raw with
  | some canon => canonicalToOscalId lower canon.value
  | none => lower raw

/-- `strip_dedup_suffix`. -/
def stripDedupSuffix (label : Text) : Text :=
  let body := beforeEnd label
  if isDeduplicatedIdentifier label then
    ((body.reverse.dropWhile isDecimal).drop 4).reverse ++ label.drop body.length
  else label

/-- `_statement_id`. -/
def statementId (oscalCid label : Text) : Text :=
  if label = [] ∨ strip (stripDedupSuffix label) = [] then oscalCid ++ "_smt".toList
  else oscalCid ++ "_smt.".toList ++ oscalToken (stripDedupSuffix label)

example : statementId "ac-2".toList "AC-02a.#row417".toList = "ac-2_smt.AC-02a.".toList := by
  decide +kernel

end Concord.Oscal
