import Concord.Oscal.Tokens
import Concord.Python.Ints

/-!
# How a control id is spelled

What `canonicalize` reads an id from, and what `canonical_to_oscal_id` makes of it. An id in OSCAL
form is its own lower case exactly where it is two letters, a dash and an unpadded number
(`lower_eq_oscal_iff`).
-/

namespace Concord.Oscal

open Concord.Python Concord.Catalog Concord.Packs.Catalog

/-- `str.lower`, of ASCII text and of what has no case. -/
structure Lower where
  lower : Text → Text
  caseless : ∀ s, (∀ c ∈ s, c.toNat < 128 ∨ isSpace c = true ∨ isDecimal c = true) →
    lower s = s.map Char.toLower

/-- The parts of an id that canonicalizes: behind the number are enhancements and blanks. -/
structure Spelled (raw : Text) (id : CanonicalId) (lead : Text) (a b : Char)
    (digits tail : Text) : Prop where
  eq : raw = lead ++ a :: b :: '-' :: (digits ++ tail)
  blank : ∀ c ∈ lead, isSpace c = true
  letters : isAsciiLetter a = true ∧ isAsciiLetter b = true
  decimal : ∀ c ∈ digits, isDecimal c = true
  groups : ∀ c ∈ tail, isSpace c = true ∨ isDecimal c = true ∨ c = '(' ∨ c = ')'
  start : ∀ c rest, tail = c :: rest → isSpace c = true ∨ c = '('
  bare : tail = [] → id.enhancements = []
  value : id.value = [a.toUpper, b.toUpper] ++ '-' :: natText id.number ++
    id.enhancements.flatMap fun e => '(' :: natText e ++ [')']

theorem lstrip_append (s : Text) :
    ∃ lead, s = lead ++ lstrip s ∧ ∀ c ∈ lead, isSpace c = true := by
  refine ⟨s.takeWhile isSpace, List.takeWhile_append_dropWhile.symm, fun c hc => ?_⟩
  exact List.mem_takeWhile_imp hc

theorem readEnhancements_chars {groups : Nat} {s : Text} {es : List Nat}
    (h : readEnhancements groups s = some es) :
    ∀ c ∈ s, isSpace c = true ∨ isDecimal c = true ∨ c = '(' ∨ c = ')' := by
  induction groups generalizing s es with
  | zero => cases h
  | succ groups ih =>
    rw [readEnhancements] at h
    obtain ⟨lead, hs, hlead⟩ := lstrip_append s
    intro c hc
    rw [hs, List.mem_append] at hc
    rcases hc with hc | hc
    · exact .inl (hlead c hc)
    split at h
    · rename_i hnil
      rw [hnil] at hc
      exact absurd hc List.not_mem_nil
    · rename_i rest hopen
      dsimp only at h
      split at h
      · rename_i n rest' _ hclose
        cases hmore : readEnhancements groups rest' with
        | none =>
          rw [hmore] at h
          cases h
        | some more =>
          rw [hopen, List.mem_cons] at hc
          rcases hc with rfl | hc
          · exact .inr (.inr (.inl rfl))
          obtain ⟨lead', hrest, hlead'⟩ := lstrip_append rest
          rw [hrest, List.mem_append] at hc
          rcases hc with hc | hc
          · exact .inl (hlead' c hc)
          rw [← List.takeWhile_append_dropWhile (p := isDecimal) (l := lstrip rest),
            List.mem_append] at hc
          rcases hc with hc | hc
          · exact .inr (.inl (List.mem_takeWhile_imp hc))
          obtain ⟨lead'', hdrop, hlead''⟩ := lstrip_append ((lstrip rest).dropWhile isDecimal)
          rw [hdrop, hclose, List.mem_append, List.mem_cons] at hc
          rcases hc with hc | rfl | hc
          · exact .inl (hlead'' c hc)
          · exact .inr (.inr (.inr rfl))
          · exact ih hmore c hc
      · cases h
    · cases h

theorem readEnhancements_start {groups : Nat} {s : Text} {es : List Nat}
    (h : readEnhancements groups s = some es) :
    (s = [] → es = []) ∧ ∀ c rest, s = c :: rest → isSpace c = true ∨ c = '(' := by
  cases groups with
  | zero => cases h
  | succ groups =>
    rw [readEnhancements] at h
    constructor
    · rintro rfl
      exact (Option.some.inj h).symm
    · rintro c rest rfl
      by_cases hc : isSpace c = true
      · exact .inl hc
      · have hkeep : lstrip (c :: rest) = c :: rest := List.dropWhile_cons_of_neg hc
        rw [hkeep] at h
        split at h
        · rename_i hnil
          cases hnil
        · rename_i hopen
          exact .inr (List.cons.inj hopen).1
        · cases h

/-- **An id that canonicalizes** has these parts. -/
theorem canonicalize_spelled {raw : Text} {id : CanonicalId} (h : canonicalize raw = some id) :
    ∃ lead a b digits tail, Spelled raw id lead a b digits tail := by
  obtain ⟨lead, hraw, hlead⟩ := lstrip_append raw
  unfold canonicalize at h
  split at h
  · rename_i a b rest hbody
    split at h
    · rename_i hletters
      cases hn : threeDigits (rest.takeWhile isDecimal) with
      | none =>
        rw [hn] at h
        cases h
      | some number =>
        cases hes : readEnhancements (rest.length + 1) (rest.dropWhile isDecimal) with
        | none =>
          rw [hn, hes] at h
          cases h
        | some enhancements =>
          rw [hn, hes] at h
          obtain rfl := Option.some.inj h
          obtain ⟨hbare, hstart⟩ := readEnhancements_start hes
          refine ⟨lead, a, b, rest.takeWhile isDecimal, rest.dropWhile isDecimal, ?_, hlead,
            Bool.and_eq_true_iff.mp hletters, fun c hc => List.mem_takeWhile_imp hc,
            readEnhancements_chars hes, hstart, hbare, rfl⟩
          rw [List.takeWhile_append_dropWhile, ← hbody, ← hraw]
    · cases h
  · cases h

/-! ## Its OSCAL form -/

theorem dotGroups_of_no_group {s : Text} (h : '(' ∉ s) (rest : Text) :
    dotGroups none (s ++ rest) = s ++ dotGroups none rest := by
  induction s with
  | nil => rfl
  | cons c s ih =>
    have hc : c ≠ '(' := fun heq => h (heq ▸ List.mem_cons_self)
    rw [List.cons_append, dotGroups, ih fun hm => h (List.mem_cons_of_mem c hm)]
    · rfl
    · exact hc

theorem dotGroups_digits (digits more rest : Text) (h : ∀ c ∈ more, isDecimal c = true)
    (hne : digits ++ more ≠ []) :
    dotGroups (some digits) (more ++ ')' :: rest) =
      '.' :: (digits ++ more) ++ dotGroups none rest := by
  induction more generalizing digits with
  | nil =>
    rw [List.append_nil] at hne ⊢
    rw [List.nil_append, dotGroups, if_neg (by decide +kernel), if_pos ⟨rfl, hne⟩]
  | cons c more ih =>
    have hrest := ih (digits ++ [c]) (fun d hd => h d (List.mem_cons_of_mem c hd)) (by simp)
    rw [List.cons_append, dotGroups, if_pos (h c List.mem_cons_self), hrest]
    simp

theorem isDecimal_of_mem_natText {n : Nat} : ∀ c ∈ natText n, isDecimal c = true :=
  fun c hc => (isDecimal_of_isDigit (isDigit_of_mem_natText c hc)).1

theorem dotGroups_enhancements (es : List Nat) :
    dotGroups none (es.flatMap fun e => '(' :: natText e ++ [')']) =
      es.flatMap fun e => '.' :: natText e := by
  induction es with
  | nil => rfl
  | cons e es ih =>
    have hgroup := dotGroups_digits [] (natText e)
      (es.flatMap fun e => '(' :: natText e ++ [')']) isDecimal_of_mem_natText Nat.toDigits_ne_nil
    rw [List.flatMap_cons, List.flatMap_cons, List.append_assoc, List.cons_append, dotGroups,
      List.singleton_append, hgroup, ih]
    rfl

theorem isTokenChar_of_isDigit {c : Char} (h : c.isDigit = true) : isTokenChar c = true := by
  simp only [Char.isDigit, Bool.and_eq_true, decide_eq_true_eq, ge_iff_le] at h
  simp only [isTokenChar, decide_eq_true_eq, Char.le_def]
  exact .inr (.inl h)

theorem toLower_of_not_letter {c : Char} (h : isAsciiLetter c = false) : c.toLower = c := by
  simp only [isAsciiLetter, decide_eq_false_iff_not, not_or, not_and, Char.le_def] at h
  unfold Char.toLower
  rw [dif_neg]
  exact fun hc => h.1 hc.1 hc.2

theorem toNat_of_isAsciiLetter {c : Char} (h : isAsciiLetter c = true) : c.toNat < 128 := by
  simp only [isAsciiLetter, decide_eq_true_eq, Char.le_def, UInt32.le_iff_toNat_le] at h
  rcases h with h | h
  · exact lt_of_le_of_lt h.2 (by decide)
  · exact lt_of_le_of_lt h.2 (by decide)

theorem letter_cases {c : Char} (h : isAsciiLetter c = true) :
    isAsciiLetter c.toLower = true ∧ isAsciiLetter c.toUpper = true ∧
      c.toUpper.toLower = c.toLower := by
  have hall : ∀ n < 128, isAsciiLetter (Char.ofNat n) = true →
      isAsciiLetter (Char.ofNat n).toLower = true ∧ isAsciiLetter (Char.ofNat n).toUpper = true ∧
        (Char.ofNat n).toUpper.toLower = (Char.ofNat n).toLower := by
    decide +kernel
  have hc := hall c.toNat (toNat_of_isAsciiLetter h)
  rw [Char.ofNat_toNat] at hc
  exact hc h

def oscalNumber (id : CanonicalId) : Text :=
  natText id.number ++ id.enhancements.flatMap fun e => '.' :: natText e

theorem mem_oscalNumber {id : CanonicalId} {c : Char} (h : c ∈ oscalNumber id) :
    c.isDigit = true ∨ c = '.' := by
  rw [oscalNumber, List.mem_append, List.mem_flatMap] at h
  rcases h with h | ⟨e, -, h⟩
  · exact .inl (isDigit_of_mem_natText c h)
  · rcases List.mem_cons.mp h with rfl | h
    · exact .inr rfl
    · exact .inl (isDigit_of_mem_natText c h)

theorem not_letter_of_isDigit {c : Char} (h : c.isDigit = true) : isAsciiLetter c = false := by
  simp only [Char.isDigit, Bool.and_eq_true, decide_eq_true_eq, ge_iff_le,
    UInt32.le_iff_toNat_le] at h
  simp only [isAsciiLetter, decide_eq_false_iff_not, Char.le_def, UInt32.le_iff_toNat_le]
  have h9 : ('9').val.toNat < ('A').val.toNat := by decide
  have h9' : ('9').val.toNat < ('a').val.toNat := by decide
  rintro (hc | hc)
  · exact absurd (le_trans hc.1 h.2) (by omega)
  · exact absurd (le_trans hc.1 h.2) (by omega)

theorem toLower_oscalNumber (id : CanonicalId) :
    (oscalNumber id).map Char.toLower = oscalNumber id := by
  refine List.map_congr_left (fun c hc => ?_) |>.trans (List.map_id _)
  rcases mem_oscalNumber hc with h | rfl
  · exact toLower_of_not_letter (not_letter_of_isDigit h)
  · rfl

/-- **The OSCAL form** of an id that canonicalizes. -/
theorem oscal_eq (l : Lower) {raw : Text} {id : CanonicalId} {lead : Text} {a b : Char}
    {digits tail : Text} (sp : Spelled raw id lead a b digits tail) :
    canonicalToOscalId l.lower id.value = a.toLower :: b.toLower :: '-' :: oscalNumber id := by
  obtain ⟨-, hua, hla⟩ := letter_cases sp.letters.1
  obtain ⟨-, hub, hlb⟩ := letter_cases sp.letters.2
  have hdot : dotGroups none id.value = a.toUpper :: b.toUpper :: '-' :: oscalNumber id := by
    rw [sp.value, dotGroups_of_no_group, dotGroups_enhancements]
    · rfl
    · -- neither a letter nor a digit is a parenthesis
      intro h
      simp only [List.cons_append, List.nil_append, List.mem_cons] at h
      rcases h with h | h | h | h
      · exact absurd (h ▸ hua) (by decide)
      · exact absurd (h ▸ hub) (by decide)
      · exact absurd h (by decide)
      · exact absurd (isDigit_of_mem_natText _ h) (by decide)
  rw [canonicalToOscalId, hdot, l.caseless]
  · simp only [List.map_cons, hla, hlb, toLower_oscalNumber]
    rfl
  · intro c hc
    simp only [List.mem_cons] at hc
    rcases hc with rfl | rfl | rfl | hc
    · exact .inl (toNat_of_isAsciiLetter hua)
    · exact .inl (toNat_of_isAsciiLetter hub)
    · exact .inl (by decide)
    · rcases mem_oscalNumber hc with h | rfl
      · exact .inr (.inr (isDecimal_of_isDigit h).1)
      · exact .inl (by decide)

theorem oscal_isAsciiToken (l : Lower) {raw : Text} {id : CanonicalId}
    (h : canonicalize raw = some id) :
    isAsciiToken (canonicalToOscalId l.lower id.value) = true := by
  obtain ⟨lead, a, b, digits, tail, sp⟩ := canonicalize_spelled h
  have hletter : ∀ c, isAsciiLetter c = true → isTokenStart c.toLower = true := by
    intro c hc
    simp only [isTokenStart, (letter_cases hc).1, true_or, decide_true]
  rw [oscal_eq l sp]
  refine Bool.and_eq_true_iff.mpr ⟨hletter a sp.letters.1, List.all_eq_true.mpr fun c hc => ?_⟩
  simp only [List.mem_cons] at hc
  rcases hc with rfl | rfl | rfl | hc
  · exact isTokenChar_of_start (hletter a sp.letters.1)
  · exact isTokenChar_of_start (hletter b sp.letters.2)
  · rfl
  · rcases mem_oscalNumber hc with h | rfl
    · exact isTokenChar_of_isDigit h
    · rfl

theorem not_letter_of_caseless {c : Char} (h : isSpace c = true ∨ isDecimal c = true) :
    isAsciiLetter c = false := by
  refine Bool.eq_false_iff.mpr fun hc => ?_
  have hall : ∀ n < 128, isAsciiLetter (Char.ofNat n) = true →
      isSpace (Char.ofNat n) = false ∧ isDecimal (Char.ofNat n) = false := by
    decide +kernel
  have hno := hall c.toNat (toNat_of_isAsciiLetter hc)
  rw [Char.ofNat_toNat] at hno
  obtain ⟨hspace, hdecimal⟩ := hno hc
  rcases h with h | h
  · exact absurd h (by rw [hspace]; exact Bool.false_ne_true)
  · exact absurd h (by rw [hdecimal]; exact Bool.false_ne_true)

theorem map_toLower_of_isDecimal {s : Text} (h : ∀ c ∈ s, isDecimal c = true) :
    s.map Char.toLower = s :=
  List.map_congr_left (fun c hc => toLower_of_not_letter (not_letter_of_caseless (.inr (h c hc))))
    |>.trans (List.map_id _)

/-- The id is two letters, a dash and the number, unpadded. -/
def Plain (raw : Text) (id : CanonicalId) : Prop :=
  ∃ a b, isAsciiLetter a = true ∧ isAsciiLetter b = true ∧
    raw = a :: b :: '-' :: natText id.number

section Spelled

variable {raw lead digits tail : Text} {id : CanonicalId} {a b : Char}

theorem Spelled.lower (l : Lower) (sp : Spelled raw id lead a b digits tail) :
    l.lower raw = raw.map Char.toLower := by
  refine l.caseless raw fun c hc => ?_
  rw [sp.eq] at hc
  simp only [List.mem_append, List.mem_cons] at hc
  rcases hc with hc | rfl | rfl | rfl | hc | hc
  · exact .inr (.inl (sp.blank c hc))
  · exact .inl (toNat_of_isAsciiLetter sp.letters.1)
  · exact .inl (toNat_of_isAsciiLetter sp.letters.2)
  · exact .inl (by decide)
  · exact .inr (.inr (sp.decimal c hc))
  · rcases sp.groups c hc with hc | hc | rfl | rfl
    · exact .inr (.inl hc)
    · exact .inr (.inr hc)
    · exact .inl (by decide)
    · exact .inl (by decide)

theorem Spelled.bare_of_tight (sp : Spelled raw id lead a b digits tail)
    (htight : ∀ c ∈ raw, ¬(isSpace c = true ∨ c = '(')) : lead = [] ∧ tail = [] := by
  rw [sp.eq] at htight
  constructor
  · cases lead with
    | nil => rfl
    | cons c lead =>
      exact absurd (.inl (sp.blank c List.mem_cons_self)) (htight c List.mem_cons_self)
  · cases tail with
    | nil => rfl
    | cons c tail => exact absurd (sp.start c tail rfl) (htight c (by simp))

end Spelled

theorem tight_of_isAsciiToken {s : Text} (h : isAsciiToken (s.map Char.toLower) = true) :
    ∀ c ∈ s, ¬(isSpace c = true ∨ c = '(') := by
  intro c hc hbad
  have htoken := isTokenChar_of_mem h _ (List.mem_map_of_mem hc)
  rcases hbad with hbad | rfl
  · rw [toLower_of_not_letter (not_letter_of_caseless (.inl hbad))] at htoken
    exact absurd hbad (by rw [isSpace_of_tokenChar htoken]; exact Bool.false_ne_true)
  · exact absurd htoken (by decide)

theorem Plain.tight {raw : Text} {id : CanonicalId} (h : Plain raw id) :
    ∀ c ∈ raw, ¬(isSpace c = true ∨ c = '(') := by
  obtain ⟨a, b, ha, hb, rfl⟩ := h
  have hletter : ∀ c, isAsciiLetter c = true → ¬(isSpace c = true ∨ c = '(') := by
    rintro c hc (hspace | rfl)
    · exact absurd hc (by rw [not_letter_of_caseless (.inl hspace)]; exact Bool.false_ne_true)
    · exact absurd hc (by decide)
  intro c hc
  simp only [List.mem_cons] at hc
  rcases hc with rfl | rfl | rfl | hc
  · exact hletter c ha
  · exact hletter c hb
  · decide
  · have hdigit := isDigit_of_mem_natText c hc
    rintro (hspace | rfl)
    · exact absurd (isDecimal_of_isDigit hdigit).1
        (by rw [not_isDecimal_of_isSpace hspace]; exact Bool.false_ne_true)
    · exact absurd hdigit (by decide)

/-- **An id is its own OSCAL form** but for the case exactly where it is plain. -/
theorem lower_eq_oscal_iff (l : Lower) {raw : Text} {id : CanonicalId}
    (h : canonicalize raw = some id) :
    l.lower raw = canonicalToOscalId l.lower id.value ↔ Plain raw id := by
  obtain ⟨lead, a, b, digits, tail, sp⟩ := canonicalize_spelled h
  rw [sp.lower l]
  constructor
  · intro heq
    -- the OSCAL form is a token
    obtain ⟨hlead, htail⟩ :=
      sp.bare_of_tight (tight_of_isAsciiToken (heq ▸ oscal_isAsciiToken l h))
    rw [oscal_eq l sp, oscalNumber, sp.bare htail, sp.eq, hlead, htail] at heq
    simp only [List.nil_append, List.append_nil, List.map_cons, List.cons.injEq, List.flatMap_nil,
      map_toLower_of_isDecimal sp.decimal] at heq
    refine ⟨a, b, sp.letters.1, sp.letters.2, ?_⟩
    rw [sp.eq, hlead, htail, List.append_nil, heq.2.2.2, List.nil_append]
  · intro hplain
    obtain ⟨rfl, htail⟩ := sp.bare_of_tight hplain.tight
    obtain ⟨a', b', -, -, hraw⟩ := hplain
    have hsame := sp.eq.symm.trans hraw
    simp only [List.nil_append, List.cons.injEq, true_and] at hsame
    obtain ⟨rfl, rfl, -⟩ := hsame
    rw [oscal_eq l sp, oscalNumber, sp.bare htail, hraw]
    simp only [List.map_cons, List.flatMap_nil, List.append_nil,
      map_toLower_of_isDecimal isDecimal_of_mem_natText]
    rfl

end Concord.Oscal
