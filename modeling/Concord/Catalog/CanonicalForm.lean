import Concord.Oscal.Spelling

/-!
# A canonical id is its own

`canonicalize` writes an id in one form, and reads that form as the same id (`canonicalize_value`):
a number has three digits at most, whatever digits and zeros it was written with.
-/

namespace Concord.Catalog

open Concord.Python Concord.Oscal Concord.Packs.Catalog

/-! ## Numbers -/

theorem decimalValue_lt (c : Char) : decimalValue c < 10 := by
  unfold decimalValue
  cases hz : decimalZeros.find? fun z => z ≤ c.toNat ∧ c.toNat < z + 10 with
  | none => exact Nat.succ_pos 9
  | some z =>
    have hrun : z ≤ c.toNat ∧ c.toNat < z + 10 := by simpa using List.find?_some hz
    show c.toNat - z < 10
    omega

theorem foldl_decimal_lt (s : Text) (n : Nat) :
    s.foldl (fun n c => 10 * n + decimalValue c) n < (n + 1) * 10 ^ s.length := by
  induction s generalizing n with
  | nil => simp
  | cons c s ih =>
    have hc := decimalValue_lt c
    calc (c :: s).foldl (fun n c => 10 * n + decimalValue c) n
        < (10 * n + decimalValue c + 1) * 10 ^ s.length := ih _
      _ ≤ ((n + 1) * 10) * 10 ^ s.length := Nat.mul_le_mul_right _ (by omega)
      _ = (n + 1) * 10 ^ (c :: s).length := by
        rw [List.length_cons, pow_succ, Nat.mul_assoc, Nat.mul_comm 10]

theorem foldl_zeros {s : Text} (h : s.all (· = '0') = true) :
    s.foldl (fun n c => 10 * n + decimalValue c) 0 = 0 := by
  induction s with
  | nil => rfl
  | cons c s ih =>
    rw [List.all_cons, Bool.and_eq_true, decide_eq_true_iff] at h
    obtain ⟨rfl, h⟩ := h
    exact ih h

theorem threeDigits_lt {s : Text} {n : Nat} (h : threeDigits s = some n) : n < 1000 := by
  unfold threeDigits at h
  split at h
  · rename_i hdigits
    obtain rfl := Option.some.inj h
    rw [← List.take_append_drop (s.length - 3) s, List.foldl_append, foldl_zeros hdigits.2]
    have hlength : (s.drop (s.length - 3)).length ≤ 3 := by
      rw [List.length_drop]
      omega
    calc (s.drop (s.length - 3)).foldl (fun n c => 10 * n + decimalValue c) 0
        < (0 + 1) * 10 ^ (s.drop (s.length - 3)).length := foldl_decimal_lt _ 0
      _ ≤ 1 * 10 ^ 3 := Nat.mul_le_mul_left 1 (Nat.pow_le_pow_right (by decide) hlength)
  · cases h

theorem foldl_natText (n : Nat) :
    (natText n).foldl (fun n c => 10 * n + decimalValue c) 0 = n := by
  rw [← List.foldl_map (f := decimalValue) (g := fun n d => 10 * n + d),
    foldl_decimalValue isDigit_of_mem_natText]
  exact Nat.ofDigitChars_ten_toDigits

theorem length_natText {n : Nat} (h : n < 1000) : (natText n).length ≤ 3 :=
  (Nat.length_toDigits_le_iff (by decide) (by decide)).mpr h

theorem threeDigits_natText {n : Nat} (h : n < 1000) : threeDigits (natText n) = some n := by
  unfold threeDigits
  rw [Nat.sub_eq_zero_of_le (length_natText h), List.take_zero,
    if_pos ⟨Nat.toDigits_ne_nil, rfl⟩, foldl_natText]

/-! ## Enhancements -/

def groups (es : List Nat) : Text := es.flatMap fun e => '(' :: natText e ++ [')']

theorem groups_cons (e : Nat) (es : List Nat) :
    groups (e :: es) = '(' :: (natText e ++ ')' :: groups es) := by
  simp [groups]

theorem length_le_groups (es : List Nat) : es.length ≤ (groups es).length := by
  induction es with
  | nil => exact le_rfl
  | cons e es ih =>
    rw [groups_cons, List.length_cons, List.length_cons, List.length_append, List.length_cons]
    omega

theorem lt_of_readEnhancements {k : Nat} {s : Text} {es : List Nat}
    (h : readEnhancements k s = some es) : ∀ e ∈ es, e < 1000 := by
  induction k generalizing s es with
  | zero => cases h
  | succ k ih =>
    rw [readEnhancements] at h
    split at h
    · obtain rfl := Option.some.inj h
      exact fun e he => absurd he List.not_mem_nil
    · dsimp only at h
      split at h
      · rename_i n rest hn _
        obtain ⟨more, hmore, rfl⟩ := Option.map_eq_some_iff.mp h
        exact List.forall_mem_cons.mpr ⟨threeDigits_lt hn, ih hmore⟩
      · cases h
    · cases h

theorem span_decimal {digits s : Text} (hdigits : ∀ c ∈ digits, isDecimal c = true)
    (hs : ∀ c rest, s = c :: rest → isDecimal c = false) :
    (digits ++ s).takeWhile isDecimal = digits ∧ (digits ++ s).dropWhile isDecimal = s := by
  rw [List.takeWhile_append_of_pos hdigits, List.dropWhile_append_of_pos hdigits]
  cases s with
  | nil => exact ⟨List.append_nil _, rfl⟩
  | cons c rest =>
    have hc := hs c rest rfl
    rw [List.takeWhile_cons_of_neg (by simp [hc]), List.dropWhile_cons_of_neg (by simp [hc])]
    exact ⟨List.append_nil _, rfl⟩

theorem span_natText (n : Nat) {c : Char} (hc : isDecimal c = false) (rest : Text) :
    (natText n ++ c :: rest).takeWhile isDecimal = natText n ∧
      (natText n ++ c :: rest).dropWhile isDecimal = c :: rest :=
  span_decimal isDecimal_of_mem_natText fun _ _ h => (List.cons.inj h).1 ▸ hc

theorem lstrip_natText (n : Nat) (rest : Text) :
    lstrip (natText n ++ rest) = natText n ++ rest := by
  cases hn : natText n with
  | nil => exact absurd hn Nat.toDigits_ne_nil
  | cons c digits =>
    have hc : isDecimal c = true := isDecimal_of_mem_natText c (hn ▸ List.mem_cons_self)
    refine List.dropWhile_cons_of_neg fun hspace => ?_
    rw [not_isDecimal_of_isSpace hspace] at hc
    cases hc

theorem readEnhancements_groups {es : List Nat} (h : ∀ e ∈ es, e < 1000) {k : Nat}
    (hk : es.length < k) : readEnhancements k (groups es) = some es := by
  induction es generalizing k with
  | nil =>
    obtain ⟨k, rfl⟩ := Nat.exists_eq_succ_of_ne_zero (Nat.ne_zero_of_lt hk)
    rfl
  | cons e es ih =>
    obtain ⟨k, rfl⟩ := Nat.exists_eq_succ_of_ne_zero (Nat.ne_zero_of_lt hk)
    rw [List.forall_mem_cons] at h
    have hmore := ih h.2 (Nat.lt_of_succ_lt_succ hk)
    obtain ⟨htake, hdrop⟩ := span_natText e (show isDecimal ')' = false by decide) (groups es)
    have hopen : lstrip ('(' :: (natText e ++ ')' :: groups es)) =
        '(' :: (natText e ++ ')' :: groups es) := rfl
    have hclose : lstrip (')' :: groups es) = ')' :: groups es := rfl
    rw [groups_cons, readEnhancements, hopen]
    simp only [lstrip_natText, htake, hdrop, hclose, threeDigits_natText h.1, hmore,
      Option.map_some]

/-! ## The id -/

theorem toUpper_letter {c : Char} (h : isAsciiLetter c = true) :
    isAsciiLetter c.toUpper = true ∧ isSpace c.toUpper = false ∧ c.toUpper.toUpper = c.toUpper := by
  have hall : ∀ n < 128, isAsciiLetter (Char.ofNat n) = true →
      isAsciiLetter (Char.ofNat n).toUpper = true ∧ isSpace (Char.ofNat n).toUpper = false ∧
        (Char.ofNat n).toUpper.toUpper = (Char.ofNat n).toUpper := by
    decide +kernel
  have hc := hall c.toNat (toNat_of_isAsciiLetter h)
  rw [Char.ofNat_toNat] at hc
  exact hc h

theorem canonicalize_parts {raw : Text} {id : CanonicalId} (h : canonicalize raw = some id) :
    ∃ a b, isAsciiLetter a = true ∧ isAsciiLetter b = true ∧ id.number < 1000 ∧
      (∀ e ∈ id.enhancements, e < 1000) ∧ id.family = [a.toUpper, b.toUpper] ∧
        id.value = id.family ++ '-' :: natText id.number ++ groups id.enhancements := by
  unfold canonicalize at h
  split at h
  · rename_i a b rest _
    split at h
    · rename_i hletters
      obtain ⟨number, hnumber, h⟩ := Option.bind_eq_some_iff.mp h
      obtain ⟨enhancements, henhancements, h⟩ := Option.bind_eq_some_iff.mp h
      obtain rfl := Option.some.inj h
      obtain ⟨ha, hb⟩ := Bool.and_eq_true_iff.mp hletters
      exact ⟨a, b, ha, hb, threeDigits_lt hnumber, lt_of_readEnhancements henhancements, rfl, rfl⟩
    · cases h
  · cases h

theorem canonicalize_written {a b : Char} (ha : isAsciiLetter a = true)
    (hb : isAsciiLetter b = true) {number : Nat} (hnumber : number < 1000) {es : List Nat}
    (hes : ∀ e ∈ es, e < 1000) :
    canonicalize ([a.toUpper, b.toUpper] ++ '-' :: natText number ++ groups es) =
      some ⟨[a.toUpper, b.toUpper] ++ '-' :: natText number ++ groups es,
        [a.toUpper, b.toUpper], number, es⟩ := by
  obtain ⟨ha', hspace, haa⟩ := toUpper_letter ha
  obtain ⟨hb', -, hbb⟩ := toUpper_letter hb
  -- the digits of the number end at a group, or at the end
  have hspan : (natText number ++ groups es).takeWhile isDecimal = natText number ∧
      (natText number ++ groups es).dropWhile isDecimal = groups es := by
    cases es with
    | nil =>
      rw [show groups [] = [] from rfl, List.append_nil]
      exact ⟨List.takeWhile_eq_self_iff.mpr isDecimal_of_mem_natText,
        List.dropWhile_eq_nil_iff.mpr isDecimal_of_mem_natText⟩
    | cons e es =>
      rw [groups_cons]
      exact span_natText _ (by decide) _
  have hlength : es.length < (natText number ++ groups es).length + 1 := by
    have hle := length_le_groups es
    rw [List.length_append]
    omega
  have hstart : lstrip ([a.toUpper, b.toUpper] ++ '-' :: natText number ++ groups es) =
      a.toUpper :: b.toUpper :: '-' :: (natText number ++ groups es) := by
    refine (List.dropWhile_cons_of_neg ?_).trans ?_
    · rw [hspace]
      exact Bool.false_ne_true
    · simp
  unfold canonicalize
  rw [hstart]
  simp only [ha', hb', hspan.1, hspan.2, threeDigits_natText hnumber,
    readEnhancements_groups hes hlength, haa, hbb]
  rfl

/-- **A canonical id canonicalizes to itself.** -/
theorem canonicalize_value {raw : Text} {id : CanonicalId} (h : canonicalize raw = some id) :
    canonicalize id.value = some id := by
  obtain ⟨a, b, ha, hb, hnumber, henhancements, hfamily, hvalue⟩ := canonicalize_parts h
  have hwritten := canonicalize_written ha hb hnumber henhancements
  rw [← hfamily, ← hvalue] at hwritten
  exact hwritten

/-! ## Its OSCAL form -/

theorem dotted_injective {n m : Nat} {es fs : List Nat}
    (h : natText n ++ es.flatMap (fun e => '.' :: natText e) =
      natText m ++ fs.flatMap fun e => '.' :: natText e) : n = m ∧ es = fs := by
  have hdot : ∀ k, '.' ∉ natText k := fun k hk => absurd (isDigit_of_mem_natText _ hk) (by decide)
  induction es generalizing n m fs with
  | nil =>
    cases fs with
    | nil =>
      rw [List.flatMap_nil, List.append_nil, List.append_nil] at h
      exact ⟨natText_injective h, rfl⟩
    | cons f fs =>
      refine absurd ?_ (hdot n)
      rw [List.flatMap_nil, List.append_nil] at h
      rw [h]
      simp
  | cons e es ih =>
    cases fs with
    | nil =>
      refine absurd ?_ (hdot m)
      rw [List.flatMap_nil, List.append_nil] at h
      rw [← h]
      simp
    | cons f fs =>
      rw [List.flatMap_cons, List.flatMap_cons, List.cons_append, List.cons_append] at h
      obtain ⟨hn, hrest⟩ := append_separator_inj (hdot n) (hdot m) h
      obtain ⟨rfl, rfl⟩ := ih hrest
      exact ⟨natText_injective hn, rfl⟩

theorem toUpper_toLower {c : Char} (h : isAsciiLetter c = true) :
    c.toLower.toUpper = c.toUpper := by
  have hall : ∀ n < 128, isAsciiLetter (Char.ofNat n) = true →
      (Char.ofNat n).toLower.toUpper = (Char.ofNat n).toUpper := by
    decide +kernel
  have hc := hall c.toNat (toNat_of_isAsciiLetter h)
  rw [Char.ofNat_toNat] at hc
  exact hc h

/-- **Canonical ids with one OSCAL form** are one id. -/
theorem value_eq_of_oscal_eq (l : Lower) {raw raw' : Text} {id id' : CanonicalId}
    (h : canonicalize raw = some id) (h' : canonicalize raw' = some id')
    (heq : canonicalToOscalId l.lower id.value = canonicalToOscalId l.lower id'.value) :
    id.value = id'.value := by
  obtain ⟨lead, a, b, digits, tail, sp⟩ := canonicalize_spelled h
  obtain ⟨lead', a', b', digits', tail', sp'⟩ := canonicalize_spelled h'
  rw [oscal_eq l sp, oscal_eq l sp', List.cons.injEq, List.cons.injEq, List.cons.injEq] at heq
  obtain ⟨ha, hb, -, hnumber⟩ := heq
  obtain ⟨hn, hes⟩ := dotted_injective hnumber
  rw [sp.value, sp'.value, hn, hes, ← toUpper_toLower sp.letters.1, ← toUpper_toLower sp.letters.2,
    ha, hb, toUpper_toLower sp'.letters.1, toUpper_toLower sp'.letters.2]

theorem underscore_notMem_oscal (l : Lower) {raw : Text} {id : CanonicalId}
    (h : canonicalize raw = some id) : '_' ∉ canonicalToOscalId l.lower id.value := by
  obtain ⟨lead, a, b, digits, tail, sp⟩ := canonicalize_spelled h
  rw [oscal_eq l sp]
  intro hm
  simp only [List.mem_cons] at hm
  have hletter : ∀ c, isAsciiLetter c = true → '_' ≠ c.toLower := by
    rintro c hc heq
    exact absurd (heq ▸ (letter_cases hc).1) (by decide)
  rcases hm with hm | hm | hm | hm
  · exact hletter a sp.letters.1 hm
  · exact hletter b sp.letters.2 hm
  · exact absurd hm (by decide)
  · rcases mem_oscalNumber hm with hd | hd
    · exact absurd hd (by decide)
    · exact absurd hd (by decide)

end Concord.Catalog
