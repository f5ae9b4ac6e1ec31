import Concord.Python.Text
import Mathlib.Data.List.DropRight

/-!
# `int(str(n))`

A natural number read back from its text. `int` takes at most 4300 digits, so the number is
bounded where it is read.
-/

namespace Concord.Python

theorem isDecimal_of_isDigit {c : Char} (h : c.isDigit = true) :
    isDecimal c = true ∧ decimalValue c = c.toNat - '0'.toNat := by
  have hc : 48 ≤ c.toNat ∧ c.toNat ≤ 57 := by simpa [Char.isDigit, UInt32.le_iff_toNat_le] using h
  have hfirst : (decide (0x30 ≤ c.toNat ∧ c.toNat < 0x30 + 10)) = true :=
    decide_eq_true ⟨hc.1, by omega⟩
  constructor
  · unfold isDecimal decimalZeros
    rw [List.any_cons, hfirst, Bool.true_or]
  · unfold decimalValue decimalZeros
    rw [List.find?_cons, hfirst]
    rfl

theorem ne_underscore_of_isDigit {c : Char} (h : c.isDigit = true) : c ≠ '_' := by
  rintro rfl
  exact absurd h (by decide)

theorem intDigits_of_isDigit {s : Text} (hne : s ≠ []) (h : ∀ c ∈ s, c.isDigit = true) :
    intDigits s = some (s.map decimalValue) := by
  induction s with
  | nil => exact absurd rfl hne
  | cons c s ih =>
    have hc := h c List.mem_cons_self
    cases s with
    | nil => rw [intDigits, if_pos (isDecimal_of_isDigit hc).1, List.map_singleton]
    | cons d s =>
      have hd := h d (List.mem_cons_of_mem c List.mem_cons_self)
      rw [intDigits, if_pos (isDecimal_of_isDigit hc).1, if_neg (ne_underscore_of_isDigit hd),
        ih (List.cons_ne_nil d s) fun e he => h e (List.mem_cons_of_mem c he)]
      rfl

theorem not_isIntSpace_of_isDigit {c : Char} (h : c.isDigit = true) : isIntSpace c = false := by
  have hc : 48 ≤ c.toNat ∧ c.toNat ≤ 57 := by simpa [Char.isDigit, UInt32.le_iff_toNat_le] using h
  unfold isIntSpace
  simp only [decide_eq_false_iff_not]
  omega

theorem dropWhile_of_isDigit {s : Text} (h : ∀ c ∈ s, c.isDigit = true) :
    s.dropWhile isIntSpace = s := by
  cases s with
  | nil => rfl
  | cons c s =>
    rw [List.dropWhile_cons, not_isIntSpace_of_isDigit (h c List.mem_cons_self)]
    rfl

theorem foldl_decimalValue {s : Text} (h : ∀ c ∈ s, c.isDigit = true) (n : Nat) :
    (s.map decimalValue).foldl (fun n d => 10 * n + d) n = Nat.ofDigitChars 10 s n := by
  induction s generalizing n with
  | nil => rfl
  | cons c s ih =>
    rw [List.map_cons, List.foldl_cons, ih fun d hd => h d (List.mem_cons_of_mem c hd),
      (isDecimal_of_isDigit (h c List.mem_cons_self)).2]
    rfl

theorem pyInt_of_isDigit {s : Text} (hne : s ≠ []) (h : ∀ c ∈ s, c.isDigit = true)
    (hlen : s.length ≤ 4300) : pyInt s = some (Int.ofNat (Nat.ofDigitChars 10 s 0)) := by
  have hreverse : ∀ c ∈ s.reverse, c.isDigit = true := fun c hc => h c (List.mem_reverse.mp hc)
  unfold pyInt
  rw [dropWhile_of_isDigit h, dropWhile_of_isDigit hreverse, List.reverse_reverse]
  have hvalue : (some (s.map decimalValue)).bind (fun ds => if ds.length ≤ 4300 then
      some (Int.ofNat (ds.foldl (fun n d => 10 * n + d) 0)) else none) =
      some (Int.ofNat (Nat.ofDigitChars 10 s 0)) := by
    rw [Option.bind_some, if_pos (by rwa [List.length_map]), foldl_decimalValue h]
  cases s with
  | nil => exact absurd rfl hne
  | cons c s =>
    have hc := h c List.mem_cons_self
    dsimp only
    split
    · rename_i heq
      rw [(List.cons.inj heq).1] at hc
      exact absurd hc (by decide)
    · rename_i heq
      rw [(List.cons.inj heq).1] at hc
      exact absurd hc (by decide)
    · rw [intDigits_of_isDigit hne h]
      exact hvalue

theorem isDigit_of_mem_natText {n : Nat} : ∀ c ∈ natText n, c.isDigit = true :=
  fun _ hc => Nat.isDigit_of_mem_toDigits (by decide) (by decide) hc

theorem natText_injective {m n : Nat} (h : natText m = natText n) : m = n := by
  have := congrArg (Nat.ofDigitChars 10 · 0) h
  simpa only [natText, Nat.ofDigitChars_ten_toDigits] using this

/-- **The round trip.** -/
theorem pyInt_natText {n : Nat} (hlen : (natText n).length ≤ 4300) :
    pyInt (natText n) = some (n : Int) := by
  have hvalue : Nat.ofDigitChars 10 (natText n) 0 = n := Nat.ofDigitChars_ten_toDigits
  have hne : natText n ≠ [] := Nat.toDigits_ne_nil
  rw [pyInt_of_isDigit hne isDigit_of_mem_natText hlen, hvalue]
  rfl

theorem strip_natText (n : Nat) : strip (natText n) = natText n := by
  have hspace : ∀ c : Char, c.isDigit = true → isSpace c = false := by
    intro c h
    have hc : 48 ≤ c.toNat ∧ c.toNat ≤ 57 := by
      simpa [Char.isDigit, UInt32.le_iff_toNat_le] using h
    unfold isSpace
    simp only [decide_eq_false_iff_not]
    omega
  have hstrip : ∀ s : Text, (∀ c ∈ s, c.isDigit = true) → lstrip s = s := by
    intro s h
    cases s with
    | nil => rfl
    | cons c s =>
      rw [lstrip, List.dropWhile_cons, hspace c (h c List.mem_cons_self)]
      rfl
  rw [strip, hstrip _ isDigit_of_mem_natText,
    hstrip _ fun c hc => isDigit_of_mem_natText c (List.mem_reverse.mp hc), List.reverse_reverse]

/-! ## Blanks around a literal -/

theorem isSpace_of_isIntSpace {c : Char} (h : isIntSpace c = true) : isSpace c = true := by
  have h' := of_decide_eq_true h
  refine decide_eq_true ?_
  rcases h' with h' | h' | h'
  · exact .inl h'
  · omega
  · exact of_decide_eq_true h'.2

/-- The code points of `str.isspace`. -/
def spaceCodes : List Nat :=
  [9, 10, 11, 12, 13, 28, 29, 30, 31, 32, 133, 160, 5760, 8192, 8193, 8194, 8195, 8196, 8197, 8198,
    8199, 8200, 8201, 8202, 8232, 8233, 8239, 8287, 12288]

theorem not_isDecimal_of_isSpace {c : Char} (h : isSpace c = true) : isDecimal c = false := by
  have hcode : c.toNat ∈ spaceCodes := by
    have h' := of_decide_eq_true h
    simp only [spaceCodes, List.mem_cons, List.not_mem_nil, or_false]
    omega
  have hnone : (spaceCodes.all fun n =>
      !(decimalZeros.any fun z => decide (z ≤ n ∧ n < z + 10))) = true := by decide +kernel
  have := List.all_eq_true.mp hnone c.toNat hcode
  rwa [Bool.not_eq_true'] at this

theorem intDigits_ends : ∀ {s : Text} {ds : List Nat}, intDigits s = some ds →
    (∀ c, s.head? = some c → isDecimal c = true) ∧
      (∀ c, s.getLast? = some c → isDecimal c = true) ∧ s ≠ []
  | [], _, h => nomatch h
  | [c], _, h => by
    by_cases hc : isDecimal c = true
    · exact ⟨fun d hd => Option.some.inj hd ▸ hc, fun d hd => Option.some.inj hd ▸ hc,
        List.cons_ne_nil c []⟩
    · rw [intDigits, if_neg hc] at h
      cases h
  | c :: d :: s, _, h => by
    rw [intDigits] at h
    by_cases hc : isDecimal c = true
    · rw [if_pos hc] at h
      obtain ⟨rest, hrest, -⟩ := Option.map_eq_some_iff.mp h
      refine ⟨fun e he => Option.some.inj he ▸ hc, fun e he => ?_, List.cons_ne_nil _ _⟩
      rw [List.getLast?_cons_cons] at he
      by_cases hd : d = '_'
      · rw [if_pos hd] at hrest
        obtain ⟨-, hlast, hne⟩ := intDigits_ends hrest
        obtain ⟨f, t, rfl⟩ := List.exists_cons_of_ne_nil hne
        rw [List.getLast?_cons_cons] at he
        exact hlast e he
      · rw [if_neg hd] at hrest
        exact (intDigits_ends hrest).2.1 e he
    · rw [if_neg hc] at h
      cases h

theorem dropWhile_dropWhile_of_imp {p q : Char → Bool} (h : ∀ c, p c = true → q c = true)
    (s : Text) : (s.dropWhile p).dropWhile q = s.dropWhile q := by
  induction s with
  | nil => rfl
  | cons c s ih =>
    by_cases hc : p c = true
    · rw [List.dropWhile_cons, if_pos hc, ih, List.dropWhile_cons, if_pos (h c hc)]
    · rw [List.dropWhile_cons, if_neg hc]

theorem dropWhile_of_head? {q : Char → Bool} {s : Text} (h : ∀ c, s.head? = some c → q c = false) :
    s.dropWhile q = s := by
  cases s with
  | nil => rfl
  | cons c s =>
    rw [List.dropWhile_cons, h c rfl]
    rfl

/-- What `int` reads between its blanks. -/
def intBody (s : Text) : Text :=
  ((s.dropWhile isIntSpace).reverse.dropWhile isIntSpace).reverse

/-- The value of a literal without blanks around it. -/
def intValue (s : Text) : Option Int :=
  let natural := fun digits => (intDigits digits).bind fun ds =>
    if ds.length ≤ 4300 then some (Int.ofNat (ds.foldl (fun n d => 10 * n + d) 0)) else none
  match s with
  | '-' :: digits => (natural digits).map (- ·)
  | '+' :: digits => natural digits
  | digits => natural digits

theorem pyInt_eq (s : Text) : pyInt s = intValue (intBody s) := rfl

theorem intValue_ends {s : Text} {n : Int} (h : intValue s = some n) :
    (∀ c, s.head? = some c → isSpace c = false) ∧
      ∀ c, s.reverse.head? = some c → isSpace c = false := by
  have hdecimal : ∀ c : Char, isDecimal c = true → isSpace c = false := fun c hc => by
    by_contra hspace
    rw [not_isDecimal_of_isSpace (Bool.not_eq_false _ ▸ hspace)] at hc
    cases hc
  have hsigned : ∀ (sign : Char) (digits : Text) (ds : List Nat), isSpace sign = false →
      intDigits digits = some ds →
      (∀ c, (sign :: digits).head? = some c → isSpace c = false) ∧
        ∀ c, (sign :: digits).reverse.head? = some c → isSpace c = false := by
    intro sign digits ds hsign hds
    obtain ⟨-, hlast, hne⟩ := intDigits_ends hds
    refine ⟨fun c hc => Option.some.inj hc ▸ hsign, fun c hc => hdecimal c (hlast c ?_)⟩
    obtain ⟨d, rest, rfl⟩ := List.exists_cons_of_ne_nil hne
    rwa [List.head?_reverse, List.getLast?_cons_cons] at hc
  unfold intValue at h
  dsimp only at h
  split at h
  · obtain ⟨m, hm, -⟩ := Option.map_eq_some_iff.mp h
    obtain ⟨ds, hds, -⟩ := Option.bind_eq_some_iff.mp hm
    exact hsigned _ _ ds (by decide) hds
  · obtain ⟨ds, hds, -⟩ := Option.bind_eq_some_iff.mp h
    exact hsigned _ _ ds (by decide) hds
  · obtain ⟨ds, hds, -⟩ := Option.bind_eq_some_iff.mp h
    obtain ⟨hfirst, hlast, -⟩ := intDigits_ends hds
    refine ⟨fun c hc => hdecimal c (hfirst c hc), fun c hc => hdecimal c (hlast c ?_)⟩
    rwa [List.head?_reverse] at hc

/-- **What `int` reads, `strip` leaves.** -/
theorem pyInt_strip {s : Text} {n : Int} (h : pyInt s = some n) : pyInt (strip s) = some n := by
  rw [pyInt_eq] at h
  obtain ⟨hfirst, hlast⟩ := intValue_ends h
  have hint : ∀ c, isSpace c = false → isIntSpace c = false := fun c hc => by
    by_contra hspace
    rw [isSpace_of_isIntSpace (Bool.not_eq_false _ ▸ hspace)] at hc
    cases hc
  have hbody : intBody (intBody s) = intBody s := by
    rw [intBody, dropWhile_of_head? fun c hc => hint c (hfirst c hc),
      dropWhile_of_head? fun c hc => hint c (hlast c hc), List.reverse_reverse]
  have hstrip : strip s = intBody s := by
    have hleft : (s.dropWhile isIntSpace).dropWhile isSpace = s.dropWhile isIntSpace := by
      refine dropWhile_of_head? fun c hc => hfirst c ?_
      obtain ⟨rest, hrest⟩ : intBody s <+: s.dropWhile isIntSpace :=
        List.rdropWhile_prefix isIntSpace _
      cases hb : intBody s with
      | nil =>
        rw [hb] at h
        cases h
      | cons d t =>
        rw [hb, List.cons_append] at hrest
        rw [← hrest] at hc
        exact hc
    have hright : ((s.dropWhile isIntSpace).reverse).dropWhile isSpace = (intBody s).reverse := by
      rw [← dropWhile_dropWhile_of_imp (fun _ => isSpace_of_isIntSpace), intBody,
        List.reverse_reverse]
      exact dropWhile_of_head? fun c hc => hlast c (by rwa [intBody, List.reverse_reverse])
    rw [strip, lstrip, lstrip, ← dropWhile_dropWhile_of_imp (fun _ => isSpace_of_isIntSpace) s,
      hleft, hright, List.reverse_reverse]
  rw [hstrip, pyInt_eq, hbody]
  exact h

end Concord.Python
