import Concord.Catalog.CanonicalForm
import Concord.Cci.Reader

/-!
# Identifiers of workbook rows

`_fold_to_canonical` of `ccf/cci/reconcile.py`. A row of the workbook is about a part of a control,
and its identifier is folded to the control: what follows the number and the numeric groups behind
it is dropped.

The fold takes three digits of a number and of a group, whatever zeros they begin with.
`fold_iff_tidy` says when that makes no difference.
-/

namespace Concord.Cci

open Concord.Python Concord.Packs.Catalog Concord.Catalog

/-! ## Identifiers -/

/-- A group in parentheses: its digits, its text, and what comes after it. -/
def numericGroup (s : Text) : Option (Text × Text × Text) :=
  match lstrip s with
  | '(' :: rest =>
    let inner := lstrip rest
    match inner.takeWhile isDecimal, lstrip (inner.dropWhile isDecimal) with
    | c :: digits, ')' :: rest => some (c :: digits, s.take (s.length - rest.length), rest)
    | _, _ => none
  | _ => none

/-- The groups at the beginning, with their digits and their texts. -/
def leadingGroups : Nat → Text → List (Text × Text)
  | 0, _ => []
  | k + 1, s =>
    match numericGroup s with
    | some (digits, text, rest) => (digits, text) :: leadingGroups k rest
    | none => []

/-- The letters of the family, and what comes after the dash. -/
def familyOf (s : Text) : Option (Char × Char × Text) :=
  match lstrip s with
  | a :: b :: '-' :: rest => if isAsciiLetter a && isAsciiLetter b then some (a, b, rest) else none
  | _ => none

def isShort (group : Text × Text) : Bool := group.1.length ≤ 3

/-- `_CONTROL_PREFIX.match(s).group(1)`: three digits of the number at most, and of every group. -/
def controlPrefix (s : Text) : Option Text :=
  (familyOf s).bind fun (a, b, rest) =>
    let digits := (rest.takeWhile isDecimal).take 3
    let groups := (leadingGroups s.length (rest.drop digits.length)).takeWhile isShort
    if digits = [] then none else some (a :: b :: '-' :: digits ++ groups.flatMap Prod.snd)

/-- `_fold_to_canonical`. -/
def foldToCanonical (identifier : Text) : Option CanonicalId :=
  (controlPrefix (identifier.takeWhile (· ≠ '_'))).bind canonicalize

/-- The control that an identifier denotes: what follows its number and its numeric groups, however
many digits they have, is about a part of it. -/
def denoted (identifier : Text) : Option CanonicalId :=
  (familyOf identifier).bind fun (a, b, rest) =>
    canonicalize (a :: b :: '-' :: rest.takeWhile isDecimal ++
      (leadingGroups identifier.length (rest.dropWhile isDecimal)).flatMap Prod.snd)

example : (foldToCanonical "AC-02(03)(a)_ODP[01]".toList).map CanonicalId.value =
    some "AC-2(3)".toList := by
  decide +kernel

/-! ## Groups -/

/-- The text of a group in parentheses, around some digits. -/
structure Group (digits text : Text) : Prop where
  ne_nil : digits ≠ []
  decimal : ∀ c ∈ digits, isDecimal c = true
  eq : ∃ before inside behind : Text, (∀ c ∈ before ++ inside ++ behind, isSpace c = true) ∧
    text = before ++ '(' :: (inside ++ digits ++ behind ++ [')'])

theorem lstrip_append_of_blank {lead s : Text} (h : ∀ c ∈ lead, isSpace c = true) :
    lstrip (lead ++ s) = lstrip s := List.dropWhile_append_of_pos h

/-- What is found where a group begins. -/
theorem Group.opens {digits text : Text} (h : Group digits text) (rest : Text) :
    ∃ inner, lstrip (text ++ rest) = '(' :: inner ∧
      (lstrip inner).takeWhile isDecimal = digits ∧
        lstrip ((lstrip inner).dropWhile isDecimal) = ')' :: rest := by
  obtain ⟨before, inside, behind, hblank, rfl⟩ := h.eq
  have hbefore : ∀ c ∈ before, isSpace c = true := fun c hc => hblank c (by simp [hc])
  have hinside : ∀ c ∈ inside, isSpace c = true := fun c hc => hblank c (by simp [hc])
  have hbehind : ∀ c ∈ behind, isSpace c = true := fun c hc => hblank c (by simp [hc])
  obtain ⟨d, ds, rfl⟩ := List.exists_cons_of_ne_nil h.ne_nil
  -- the digits begin where the blanks end, and end where blanks or the parenthesis begin
  have hdigit : isSpace d = false := by
    by_contra hspace
    have hd := h.decimal d List.mem_cons_self
    rw [not_isDecimal_of_isSpace (by simpa using hspace)] at hd
    cases hd
  have hstop : ∀ c more, behind ++ ')' :: rest = c :: more → isDecimal c = false := by
    intro c more heq
    cases hb : behind with
    | nil =>
      rw [hb] at heq
      rw [← (List.cons.inj heq).1]
      decide
    | cons b bs =>
      rw [hb] at heq
      rw [← (List.cons.inj heq).1]
      exact not_isDecimal_of_isSpace (hbehind b (hb ▸ List.mem_cons_self))
  have hassoc : before ++ '(' :: (inside ++ d :: ds ++ behind ++ [')']) ++ rest =
      before ++ '(' :: (inside ++ (d :: ds ++ (behind ++ ')' :: rest))) := by
    simp only [List.append_assoc, List.cons_append, List.nil_append]
  have hinner : lstrip (inside ++ (d :: ds ++ (behind ++ ')' :: rest))) =
      d :: ds ++ (behind ++ ')' :: rest) := by
    rw [lstrip_append_of_blank hinside]
    exact List.dropWhile_cons_of_neg (by simp [hdigit])
  obtain ⟨htake, hdrop⟩ := span_decimal h.decimal hstop
  refine ⟨inside ++ (d :: ds ++ (behind ++ ')' :: rest)), ?_, ?_, ?_⟩
  · rw [hassoc, lstrip_append_of_blank hbefore]
    exact List.dropWhile_cons_of_neg (by decide)
  · rw [hinner, htake]
  · rw [hinner, hdrop, lstrip_append_of_blank hbehind]
    exact List.dropWhile_cons_of_neg (by decide)

theorem numericGroup_append {digits text : Text} (h : Group digits text) (rest : Text) :
    numericGroup (text ++ rest) = some (digits, text, rest) := by
  obtain ⟨inner, hopen, htake, hclose⟩ := h.opens rest
  obtain ⟨d, ds, rfl⟩ := List.exists_cons_of_ne_nil h.ne_nil
  unfold numericGroup
  simp only [hopen, htake, hclose]
  rw [List.length_append, Nat.add_sub_cancel, List.take_left]

theorem group_of_numericGroup {s digits text rest : Text}
    (h : numericGroup s = some (digits, text, rest)) :
    Group digits text ∧ s = text ++ rest := by
  unfold numericGroup at h
  obtain ⟨before, hs, hbefore⟩ := Oscal.lstrip_append s
  split at h
  case h_2 => cases h
  case h_1 inner hopen =>
    obtain ⟨inside, hinner, hinside⟩ := Oscal.lstrip_append inner
    dsimp only at h
    split at h
    case h_2 => cases h
    case h_1 c ds rest' htake hclose =>
      obtain ⟨behind, hdrop, hbehind⟩ :=
        Oscal.lstrip_append ((lstrip inner).dropWhile isDecimal)
      have hsplit : lstrip inner = c :: ds ++ (behind ++ ')' :: rest') := by
        rw [← htake, ← hclose, ← hdrop, List.takeWhile_append_dropWhile]
      obtain ⟨rfl, rfl, rfl⟩ : c :: ds = digits ∧ s.take (s.length - rest'.length) = text ∧
          rest' = rest := by
        have h := Prod.mk.inj (Option.some.inj h)
        exact ⟨h.1, Prod.mk.inj h.2⟩
      have heq : s = (before ++ '(' :: (inside ++ c :: ds ++ behind ++ [')'])) ++ rest' := by
        rw [hs, hopen, hinner, hsplit]
        simp only [List.append_assoc, List.cons_append, List.nil_append]
      have htext : s.take (s.length - rest'.length) =
          before ++ '(' :: (inside ++ c :: ds ++ behind ++ [')']) := by
        rw [heq, List.length_append, Nat.add_sub_cancel, List.take_left]
      refine ⟨⟨List.cons_ne_nil c ds, ?_, before, inside, behind, ?_, htext⟩, htext ▸ heq⟩
      · exact fun x hx => List.mem_takeWhile_imp (htake ▸ hx)
      · intro x hx
        rw [List.mem_append, List.mem_append] at hx
        exact hx.elim (fun hx => hx.elim (hbefore x) (hinside x)) (hbehind x)

theorem Group.text_ne_nil {digits text : Text} (h : Group digits text) : text ≠ [] := by
  obtain ⟨before, inside, behind, -, rfl⟩ := h.eq
  exact List.append_ne_nil_of_right_ne_nil _ (List.cons_ne_nil _ _)

theorem Group.notMem_text {digits text : Text} (h : Group digits text) : '_' ∉ text := by
  obtain ⟨before, inside, behind, hblank, rfl⟩ := h.eq
  have hspace : ∀ c, isSpace c = true → '_' ≠ c := by
    rintro c hc rfl
    exact absurd hc (by decide)
  have hdigit : ∀ c ∈ digits, '_' ≠ c := by
    rintro c hc rfl
    exact absurd (h.decimal _ hc) (by decide)
  intro hmem
  simp only [List.mem_append, List.mem_cons, List.not_mem_nil, or_false] at hmem
  rcases hmem with hc | hc | ((hc | hc) | hc) | hc
  · exact hspace _ (hblank _ (by simp [hc])) rfl
  · exact absurd hc (by decide)
  · exact hspace _ (hblank _ (by simp [hc])) rfl
  · exact hdigit _ hc rfl
  · exact hspace _ (hblank _ (by simp [hc])) rfl
  · exact absurd hc (by decide)

theorem Group.not_decimal {digits text : Text} (h : Group digits text) {rest s : Text} {c : Char}
    (heq : text ++ rest = c :: s) : isDecimal c = false := by
  obtain ⟨before, inside, behind, hblank, rfl⟩ := h.eq
  cases before with
  | nil =>
    rw [← (List.cons.inj heq).1]
    decide
  | cons c' before =>
    rw [← (List.cons.inj heq).1]
    exact not_isDecimal_of_isSpace (hblank c' (by simp))

theorem leadingGroups_of_decimal {c : Char} (h : isDecimal c = true) (k : Nat) (s : Text) :
    leadingGroups k (c :: s) = [] := by
  cases k with
  | zero => rfl
  | succ k =>
    rw [leadingGroups]
    split
    case h_1 digits text rest hgroup =>
      obtain ⟨htext, heq⟩ := group_of_numericGroup hgroup
      rw [htext.not_decimal heq.symm] at h
      cases h
    case h_2 => rfl

theorem leadingGroups_group {k : Nat} {s : Text} :
    ∀ g ∈ leadingGroups k s, Group g.1 g.2 := by
  induction k generalizing s with
  | zero => exact fun g hg => absurd hg List.not_mem_nil
  | succ k ih =>
    rw [leadingGroups]
    split
    case h_1 digits text rest hgroup =>
      exact List.forall_mem_cons.mpr ⟨(group_of_numericGroup hgroup).1, ih⟩
    case h_2 => exact fun g hg => absurd hg List.not_mem_nil

theorem leadingGroups_eq {k k' : Nat} {s : Text} (hk : s.length ≤ k) (hk' : s.length ≤ k') :
    leadingGroups k s = leadingGroups k' s := by
  induction k generalizing k' s with
  | zero =>
    obtain rfl := List.length_eq_zero_iff.mp (Nat.le_zero.mp hk)
    cases k' with
    | zero => rfl
    | succ k' => rfl
  | succ k ih =>
    cases k' with
    | zero =>
      obtain rfl := List.length_eq_zero_iff.mp (Nat.le_zero.mp hk')
      rfl
    | succ k' =>
      rw [leadingGroups, leadingGroups]
      split
      case h_2 => rfl
      case h_1 digits text rest hgroup =>
        obtain ⟨htext, rfl⟩ := group_of_numericGroup hgroup
        have hpos := List.length_pos_iff.mpr htext.text_ne_nil
        rw [List.length_append] at hk hk'
        exact congrArg ((digits, text) :: ·) (ih (by omega) (by omega))

/-! ## Cutting at the underscore -/

/-- `identifier.split("_", maxsplit=1)[0]`. -/
def cut (s : Text) : Text := s.takeWhile (· ≠ '_')

theorem cut_append {s : Text} (h : '_' ∉ s) (rest : Text) : cut (s ++ rest) = s ++ cut rest := by
  refine List.takeWhile_append_of_pos fun c hc => decide_eq_true ?_
  rintro rfl
  exact h hc

theorem exists_cut_append (s : Text) : ∃ rest, s = cut s ++ rest :=
  ⟨_, List.takeWhile_append_dropWhile.symm⟩

theorem numericGroup_cut (s : Text) : numericGroup (cut s) =
    (numericGroup s).map fun q => (q.1, q.2.1, cut q.2.2) := by
  cases hs : numericGroup s with
  | some q =>
    obtain ⟨digits, text, rest⟩ := q
    obtain ⟨hgroup, rfl⟩ := group_of_numericGroup hs
    rw [cut_append hgroup.notMem_text]
    exact numericGroup_append hgroup _
  | none =>
    cases hcut : numericGroup (cut s) with
    | none => rfl
    | some q =>
      obtain ⟨digits, text, rest⟩ := q
      obtain ⟨hgroup, heq⟩ := group_of_numericGroup hcut
      obtain ⟨more, hmore⟩ := exists_cut_append s
      rw [hmore, heq, List.append_assoc, numericGroup_append hgroup] at hs
      cases hs

theorem leadingGroups_cut (k : Nat) (s : Text) : leadingGroups k (cut s) = leadingGroups k s := by
  induction k generalizing s with
  | zero => rfl
  | succ k ih =>
    rw [leadingGroups, leadingGroups, numericGroup_cut]
    cases numericGroup s with
    | none => rfl
    | some q =>
      dsimp only [Option.map_some]
      rw [ih]

theorem takeWhile_cut {p : Char → Bool} (hp : p '_' = false) (s : Text) :
    (cut s).takeWhile p = s.takeWhile p ∧ (cut s).dropWhile p = cut (s.dropWhile p) := by
  induction s with
  | nil => exact ⟨rfl, rfl⟩
  | cons c s ih =>
    by_cases hc : c = '_'
    · subst hc
      have hnil : cut ('_' :: s) = [] := List.takeWhile_cons_of_neg (by simp)
      rw [List.takeWhile_cons_of_neg (by simp [hp]), List.dropWhile_cons_of_neg (by simp [hp]), hnil]
      exact ⟨rfl, rfl⟩
    · have hcons : cut (c :: s) = c :: cut s := List.takeWhile_cons_of_pos (by simp [hc])
      rw [hcons]
      cases hpc : p c with
      | false =>
        rw [List.takeWhile_cons_of_neg (by simp [hpc]), List.takeWhile_cons_of_neg (by simp [hpc]),
          List.dropWhile_cons_of_neg (by simp [hpc]), List.dropWhile_cons_of_neg (by simp [hpc]),
          hcons]
        exact ⟨rfl, rfl⟩
      | true =>
        rw [List.takeWhile_cons_of_pos hpc, List.takeWhile_cons_of_pos hpc,
          List.dropWhile_cons_of_pos hpc, List.dropWhile_cons_of_pos hpc, ih.1]
        exact ⟨rfl, ih.2⟩

theorem familyOf_cut (s : Text) :
    familyOf (cut s) = (familyOf s).map fun q => (q.1, q.2.1, cut q.2.2) := by
  have hstrip : lstrip (cut s) = cut (lstrip s) := (takeWhile_cut (by decide) s).2
  unfold familyOf
  rw [hstrip]
  -- the letters and the dash are no underscores
  have hcons : ∀ {c : Char} {rest : Text}, c ≠ '_' → cut (c :: rest) = c :: cut rest :=
    fun hc => List.takeWhile_cons_of_pos (by simp [hc])
  have hletter : ∀ {c : Char}, isAsciiLetter c = true → c ≠ '_' := by
    rintro c hc rfl
    exact absurd hc (by decide)
  split
  case h_1 a b rest hcut =>
    obtain ⟨more, hmore⟩ := exists_cut_append (lstrip s)
    have heq : lstrip s = a :: b :: '-' :: (rest ++ more) := hmore.trans (congrArg (· ++ more) hcut)
    simp only [heq]
    split
    case isFalse => rfl
    case isTrue hab =>
      obtain ⟨ha, hb⟩ := Bool.and_eq_true_iff.mp hab
      rw [heq, hcons (hletter ha), hcons (hletter hb), hcons (by decide)] at hcut
      rw [Option.map_some, (List.cons.inj (List.cons.inj (List.cons.inj hcut).2).2).2]
  case h_2 hno =>
    split
    case h_2 => rfl
    case h_1 a b rest heq =>
      split
      case isFalse => rfl
      case isTrue hab =>
        obtain ⟨ha, hb⟩ := Bool.and_eq_true_iff.mp hab
        refine absurd ?_ (hno a b (cut rest))
        rw [heq, hcons (hletter ha), hcons (hletter hb), hcons (by decide)]

/-! ## What a text with groups is read as -/

def canonicalOf (a b : Char) (number : Nat) (enhancements : List Nat) : CanonicalId where
  value := [a.toUpper, b.toUpper] ++ '-' :: natText number ++
    enhancements.flatMap fun e => '(' :: natText e ++ [')']
  family := [a.toUpper, b.toUpper]
  number := number
  enhancements := enhancements

theorem readEnhancements_flatMap {gs : List (Text × Text)} (h : ∀ g ∈ gs, Group g.1 g.2) {k : Nat}
    (hk : gs.length < k) :
    readEnhancements k (gs.flatMap Prod.snd) = gs.mapM fun g => threeDigits g.1 := by
  induction gs generalizing k with
  | nil =>
    obtain ⟨k, rfl⟩ := Nat.exists_eq_succ_of_ne_zero (Nat.ne_zero_of_lt hk)
    rfl
  | cons g gs ih =>
    obtain ⟨k, rfl⟩ := Nat.exists_eq_succ_of_ne_zero (Nat.ne_zero_of_lt hk)
    rw [List.forall_mem_cons] at h
    obtain ⟨inner, hopen, htake, hclose⟩ := h.1.opens (gs.flatMap Prod.snd)
    rw [List.flatMap_cons, readEnhancements, List.mapM_cons]
    simp only [hopen, htake, hclose]
    cases threeDigits g.1 with
    | none => rfl
    | some n =>
      refine (congrArg (Option.map (n :: ·)) (ih h.2 (Nat.lt_of_succ_lt_succ hk))).trans ?_
      cases gs.mapM fun g => threeDigits g.1 <;> rfl

theorem length_le_flatMap {gs : List (Text × Text)} (h : ∀ g ∈ gs, Group g.1 g.2) :
    gs.length ≤ (gs.flatMap Prod.snd).length := by
  induction gs with
  | nil => exact Nat.le_refl 0
  | cons g gs ih =>
    rw [List.forall_mem_cons] at h
    have hpos := List.length_pos_iff.mpr h.1.text_ne_nil
    have hle := ih h.2
    rw [List.flatMap_cons, List.length_append, List.length_cons]
    omega

/-- **A family, a number and groups** are read as such. -/
theorem canonicalize_flatMap {a b : Char} (hab : (isAsciiLetter a && isAsciiLetter b) = true)
    {digits : Text} (hdigits : ∀ c ∈ digits, isDecimal c = true) {gs : List (Text × Text)}
    (hgs : ∀ g ∈ gs, Group g.1 g.2) :
    canonicalize (a :: b :: '-' :: digits ++ gs.flatMap Prod.snd) =
      (threeDigits digits).bind fun n =>
        (gs.mapM fun g => threeDigits g.1).map (canonicalOf a b n) := by
  have ha : isSpace a = false := by
    have hall : ∀ n < 128, isAsciiLetter (Char.ofNat n) = true →
        isSpace (Char.ofNat n) = false := by
      decide +kernel
    obtain ⟨ha, -⟩ := Bool.and_eq_true_iff.mp hab
    have hc := hall a.toNat (Oscal.toNat_of_isAsciiLetter ha)
    rw [Char.ofNat_toNat] at hc
    exact hc ha
  have hstrip : lstrip (a :: b :: '-' :: digits ++ gs.flatMap Prod.snd) =
      a :: b :: '-' :: (digits ++ gs.flatMap Prod.snd) :=
    List.dropWhile_cons_of_neg (by simp [ha])
  have hstop : ∀ c rest, gs.flatMap Prod.snd = c :: rest → isDecimal c = false := by
    intro c rest heq
    cases gs with
    | nil => cases heq
    | cons g gs => exact (hgs g List.mem_cons_self).not_decimal heq
  obtain ⟨htake, hdrop⟩ := span_decimal hdigits hstop
  have hfuel : gs.length < (digits ++ gs.flatMap Prod.snd).length + 1 := by
    have hle := length_le_flatMap hgs
    rw [List.length_append]
    omega
  unfold canonicalize
  simp only [hstrip, if_pos hab, htake, hdrop, readEnhancements_flatMap hgs hfuel]
  cases threeDigits digits with
  | none => rfl
  | some n => cases gs.mapM fun g => threeDigits g.1 <;> rfl

/-! ## The fold -/

/-- The number of an identifier, and the groups behind it. -/
def numberOf (rest : Text) : Text := rest.takeWhile isDecimal

def groupsOf (identifier rest : Text) : List (Text × Text) :=
  leadingGroups identifier.length (rest.dropWhile isDecimal)

/-- **When an identifier is folded to its control**: it has no number, or its number and its groups
have three digits at most, or it has no group and its number is zero. -/
def Tidy (identifier : Text) : Prop :=
  ∀ a b rest, familyOf identifier = some (a, b, rest) →
    numberOf rest = [] ∨
      ((numberOf rest).length ≤ 3 ∧ ∀ g ∈ groupsOf identifier rest, g.1.length ≤ 3) ∨
        (threeDigits (numberOf rest) = some 0 ∧ groupsOf identifier rest = [])

def spelt (digits : Text) : Nat := digits.foldl (fun n c => 10 * n + decimalValue c) 0

theorem threeDigits_short {digits : Text} (hne : digits ≠ []) (h : digits.length ≤ 3) :
    threeDigits digits = some (spelt digits) := by
  unfold threeDigits
  rw [Nat.sub_eq_zero_of_le h, List.take_zero]
  exact if_pos ⟨hne, rfl⟩

theorem spelt_of_threeDigits {digits : Text} {n : Nat} (h : threeDigits digits = some n) :
    n = spelt digits := by
  unfold threeDigits at h
  split at h
  · exact (Option.some.inj h).symm
  · cases h

theorem le_foldl_decimal (s : Text) (n : Nat) :
    n ≤ s.foldl (fun n c => 10 * n + decimalValue c) n := by
  induction s generalizing n with
  | nil => exact Nat.le_refl n
  | cons c s ih => exact Nat.le_trans (by omega) (ih (10 * n + decimalValue c))

theorem spelt_take {digits : Text} (h : 3 < digits.length) :
    10 * spelt (digits.take 3) ≤ spelt digits := by
  have hsplit : spelt digits =
      (digits.drop 3).foldl (fun n c => 10 * n + decimalValue c) (spelt (digits.take 3)) := by
    unfold spelt
    rw [← List.foldl_append, List.take_append_drop]
  cases hdrop : digits.drop 3 with
  | nil =>
    have hle := List.drop_eq_nil_iff.mp hdrop
    omega
  | cons c s =>
    rw [hsplit, hdrop]
    exact Nat.le_trans (Nat.le_add_right _ _) (le_foldl_decimal s _)

theorem mapM_short {gs : List (Text × Text)} (hgs : ∀ g ∈ gs, Group g.1 g.2)
    (h : ∀ g ∈ gs, g.1.length ≤ 3) :
    (gs.mapM fun g => threeDigits g.1) = some (gs.map fun g => spelt g.1) := by
  induction gs with
  | nil => rfl
  | cons g gs ih =>
    rw [List.forall_mem_cons] at hgs h
    rw [List.mapM_cons, threeDigits_short hgs.1.ne_nil h.1, ih hgs.2 h.2]
    rfl

theorem length_of_mapM {gs : List (Text × Text)} {es : List Nat}
    (h : (gs.mapM fun g => threeDigits g.1) = some es) : es.length = gs.length := by
  induction gs generalizing es with
  | nil =>
    rw [← Option.some.inj h]
    rfl
  | cons g gs ih =>
    rw [List.mapM_cons] at h
    obtain ⟨n, -, h⟩ := Option.bind_eq_some_iff.mp h
    obtain ⟨rest, hrest, h⟩ := Option.bind_eq_some_iff.mp h
    rw [← Option.some.inj h, List.length_cons, List.length_cons, ih hrest]

section Fold

variable {identifier : Text} {a b : Char} {rest : Text}

theorem familyOf_letters (h : familyOf identifier = some (a, b, rest)) :
    (isAsciiLetter a && isAsciiLetter b) = true := by
  unfold familyOf at h
  split at h
  · split at h
    case isTrue hab =>
      cases h
      exact hab
    case isFalse => cases h
  · cases h

theorem length_of_familyOf (h : familyOf identifier = some (a, b, rest)) :
    rest.length ≤ identifier.length := by
  obtain ⟨lead, hlead, -⟩ := Oscal.lstrip_append identifier
  unfold familyOf at h
  split at h
  · rename_i hstrip
    split at h
    · cases h
      rw [hlead, hstrip, List.length_append]
      simp only [List.length_cons]
      omega
    · cases h
  · cases h

theorem denoted_eq (h : familyOf identifier = some (a, b, rest)) :
    denoted identifier = (threeDigits (numberOf rest)).bind fun n =>
      ((groupsOf identifier rest).mapM fun g => threeDigits g.1).map (canonicalOf a b n) := by
  unfold denoted
  rw [h]
  exact canonicalize_flatMap (familyOf_letters h) (fun c hc => List.mem_takeWhile_imp hc)
    leadingGroups_group

theorem controlPrefix_eq {s : Text} (h : familyOf s = some (a, b, rest)) :
    controlPrefix s =
      if (numberOf rest).take 3 = [] then none
      else some (a :: b :: '-' :: (numberOf rest).take 3 ++
        ((leadingGroups s.length (rest.drop ((numberOf rest).take 3).length)).takeWhile
          isShort).flatMap Prod.snd) := by
  unfold controlPrefix
  rw [h]
  rfl

theorem numberOf_cut (rest : Text) : numberOf (cut rest) = numberOf rest :=
  (takeWhile_cut (by decide) rest).1

theorem drop_numberOf (rest : Text) :
    rest.drop (numberOf rest).length = rest.dropWhile isDecimal := by
  have hsplit : rest = numberOf rest ++ rest.dropWhile isDecimal :=
    List.takeWhile_append_dropWhile.symm
  calc rest.drop (numberOf rest).length
      = (numberOf rest ++ rest.dropWhile isDecimal).drop (numberOf rest).length :=
        congrArg (List.drop _) hsplit
    _ = rest.dropWhile isDecimal := List.drop_left

theorem fold_eq_of_short (h : familyOf identifier = some (a, b, rest)) (hne : numberOf rest ≠ [])
    (hlen : (numberOf rest).length ≤ 3) :
    foldToCanonical identifier = some (canonicalOf a b (spelt (numberOf rest))
      (((groupsOf identifier rest).takeWhile isShort).map fun g => spelt g.1)) := by
  have hcut : familyOf (cut identifier) = some (a, b, cut rest) := by
    rw [familyOf_cut, h, Option.map_some]
  have hdrop : (cut rest).drop (numberOf rest).length = cut (rest.dropWhile isDecimal) := by
    rw [← numberOf_cut, drop_numberOf]
    exact (takeWhile_cut (by decide) rest).2
  have hgroups : leadingGroups (cut identifier).length (cut (rest.dropWhile isDecimal)) =
      groupsOf identifier rest := by
    have hle : (cut (rest.dropWhile isDecimal)).length ≤ (cut identifier).length := by
      rw [← hdrop, List.length_drop]
      exact Nat.le_trans (Nat.sub_le _ _) (length_of_familyOf hcut)
    have hle' : (cut (rest.dropWhile isDecimal)).length ≤ identifier.length :=
      Nat.le_trans hle (List.takeWhile_sublist _).length_le
    rw [leadingGroups_eq hle hle', leadingGroups_cut]
    rfl
  have hcontrol : controlPrefix (cut identifier) = some (a :: b :: '-' :: numberOf rest ++
      ((groupsOf identifier rest).takeWhile isShort).flatMap Prod.snd) := by
    rw [controlPrefix_eq hcut, numberOf_cut, List.take_of_length_le hlen, if_neg hne, hdrop, hgroups]
  have hshort : ∀ g ∈ (groupsOf identifier rest).takeWhile isShort, Group g.1 g.2 :=
    fun g hg => leadingGroups_group g ((List.takeWhile_sublist _).subset hg)
  have hthree : ∀ g ∈ (groupsOf identifier rest).takeWhile isShort, g.1.length ≤ 3 :=
    fun g hg => of_decide_eq_true (show isShort g = true from List.mem_takeWhile_imp hg)
  have hdigits : ∀ c ∈ numberOf rest, isDecimal c = true := fun c hc => List.mem_takeWhile_imp hc
  change (controlPrefix (cut identifier)).bind canonicalize = _
  rw [hcontrol, Option.bind_some, canonicalize_flatMap (familyOf_letters h) hdigits hshort,
    threeDigits_short hne hlen, mapM_short hshort hthree]
  rfl

theorem fold_eq_of_long (h : familyOf identifier = some (a, b, rest))
    (hlen : 3 < (numberOf rest).length) :
    foldToCanonical identifier = some (canonicalOf a b (spelt ((numberOf rest).take 3)) []) := by
  have hcut : familyOf (cut identifier) = some (a, b, cut rest) := by
    rw [familyOf_cut, h, Option.map_some]
  have hthree : ((numberOf rest).take 3).length = 3 := by
    rw [List.length_take]
    omega
  have hne : (numberOf rest).take 3 ≠ [] := List.ne_nil_of_length_pos (by omega)
  -- what follows three digits is one more
  have hgroups : leadingGroups (cut identifier).length ((cut rest).drop 3) = [] := by
    have hsplit : cut rest = numberOf rest ++ (cut rest).dropWhile isDecimal := by
      rw [← numberOf_cut]
      exact List.takeWhile_append_dropWhile.symm
    cases hd : (numberOf rest).drop 3 with
    | nil =>
      have hle := List.drop_eq_nil_iff.mp hd
      omega
    | cons c s =>
      have hc : isDecimal c = true :=
        List.mem_takeWhile_imp (List.mem_of_mem_drop (hd ▸ List.mem_cons_self))
      rw [hsplit, List.drop_append_of_le_length (Nat.le_of_lt hlen), hd]
      exact leadingGroups_of_decimal hc _ _
  have hcontrol : controlPrefix (cut identifier) =
      some (a :: b :: '-' :: (numberOf rest).take 3 ++ ([] : List (Text × Text)).flatMap Prod.snd) := by
    rw [controlPrefix_eq hcut, numberOf_cut, if_neg hne, hthree, hgroups]
    rfl
  change (controlPrefix (cut identifier)).bind canonicalize = _
  have hdigits : ∀ c ∈ (numberOf rest).take 3, isDecimal c = true :=
    fun c hc => List.mem_takeWhile_imp (List.mem_of_mem_take hc)
  rw [hcontrol, Option.bind_some, canonicalize_flatMap (familyOf_letters h) hdigits
    (List.forall_mem_nil _), threeDigits_short hne (Nat.le_of_eq hthree)]
  rfl

theorem canonicalOf_inj {n n' : Nat} {es es' : List Nat} (h : canonicalOf a b n es = canonicalOf a b n' es') :
    n = n' ∧ es = es' :=
  ⟨congrArg CanonicalId.number h, congrArg CanonicalId.enhancements h⟩

theorem fold_short_iff (h : familyOf identifier = some (a, b, rest)) (hne : numberOf rest ≠ [])
    (hlen : (numberOf rest).length ≤ 3) :
    foldToCanonical identifier = denoted identifier ↔
      ∀ g ∈ groupsOf identifier rest, g.1.length ≤ 3 := by
  have hgroups : ∀ g ∈ groupsOf identifier rest, Group g.1 g.2 := leadingGroups_group
  rw [fold_eq_of_short h hne hlen, denoted_eq h, threeDigits_short hne hlen, Option.bind_some]
  constructor
  · intro heq
    obtain ⟨es, hes, heq⟩ := Option.map_eq_some_iff.mp heq.symm
    obtain ⟨-, rfl⟩ := canonicalOf_inj heq
    -- no group is left out
    have hall : (groupsOf identifier rest).takeWhile isShort = groupsOf identifier rest := by
      refine (List.takeWhile_prefix _).eq_of_length ?_
      rw [← length_of_mapM hes, List.length_map]
    exact fun g hg => of_decide_eq_true (List.takeWhile_eq_self_iff.mp hall g hg)
  · intro hall
    have hshort : (groupsOf identifier rest).takeWhile isShort = groupsOf identifier rest :=
      List.takeWhile_eq_self_iff.mpr fun g hg => decide_eq_true (hall g hg)
    rw [mapM_short hgroups hall, hshort]
    rfl

theorem fold_long_iff (h : familyOf identifier = some (a, b, rest))
    (hlen : 3 < (numberOf rest).length) :
    foldToCanonical identifier = denoted identifier ↔
      threeDigits (numberOf rest) = some 0 ∧ groupsOf identifier rest = [] := by
  have hten := spelt_take hlen
  rw [fold_eq_of_long h hlen, denoted_eq h]
  constructor
  · intro heq
    obtain ⟨n, hn, heq⟩ := Option.bind_eq_some_iff.mp heq.symm
    obtain ⟨es, hes, heq⟩ := Option.map_eq_some_iff.mp heq
    obtain ⟨hnumber, rfl⟩ := canonicalOf_inj heq
    have hspelt := spelt_of_threeDigits hn
    have hzero : n = 0 := by omega
    exact ⟨hzero ▸ hn, List.length_eq_zero_iff.mp (length_of_mapM hes).symm⟩
  · rintro ⟨hn, hnil⟩
    have hspelt := spelt_of_threeDigits hn
    have hzero : spelt ((numberOf rest).take 3) = 0 := by omega
    rw [hn, hnil, hzero]
    rfl

/-- **When an identifier is folded to the control that it denotes.** -/
theorem fold_iff_tidy (identifier : Text) :
    foldToCanonical identifier = denoted identifier ↔ Tidy identifier := by
  cases h : familyOf identifier with
  | none =>
    refine iff_of_true ?_ fun a b rest hsome => ?_
    · have hcut : familyOf (cut identifier) = none := by rw [familyOf_cut, h, Option.map_none]
      have hfold : foldToCanonical identifier = none := by
        change (controlPrefix (cut identifier)).bind canonicalize = _
        rw [controlPrefix, hcut]
        rfl
      rw [hfold, denoted, h]
      rfl
    · rw [h] at hsome
      cases hsome
  | some q =>
    obtain ⟨a, b, rest⟩ := q
    have htidy : Tidy identifier ↔ numberOf rest = [] ∨
        ((numberOf rest).length ≤ 3 ∧ ∀ g ∈ groupsOf identifier rest, g.1.length ≤ 3) ∨
          (threeDigits (numberOf rest) = some 0 ∧ groupsOf identifier rest = []) := by
      refine ⟨fun hall => hall a b rest h, fun hone a' b' rest' h' => ?_⟩
      rw [h] at h'
      cases h'
      exact hone
    rw [htidy]
    by_cases hne : numberOf rest = []
    · refine iff_of_true ?_ (.inl hne)
      have hcut : familyOf (cut identifier) = some (a, b, cut rest) := by
        rw [familyOf_cut, h, Option.map_some]
      have hfold : foldToCanonical identifier = none := by
        change (controlPrefix (cut identifier)).bind canonicalize = _
        rw [controlPrefix_eq hcut, numberOf_cut, hne]
        rfl
      rw [hfold, denoted_eq h, hne]
      rfl
    · rcases Nat.lt_or_ge 3 (numberOf rest).length with hlen | hlen
      · rw [fold_long_iff h hlen]
        exact ⟨fun hz => .inr (.inr hz), fun hz =>
          (hz.resolve_left hne).resolve_left fun hs => absurd hs.1 (Nat.not_le.mpr hlen)⟩
      · rw [fold_short_iff h hne hlen]
        constructor
        · exact fun hs => .inr (.inl ⟨hlen, hs⟩)
        · intro hs
          rcases hs.resolve_left hne with hs | ⟨-, hnil⟩
          · exact hs.2
          · rw [hnil]
            exact List.forall_mem_nil _

end Fold

end Concord.Cci
