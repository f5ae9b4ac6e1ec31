import Concord.Python.Bytes
import Concord.Python.Dict

/-!
# `json.dumps` with an indent, and `json.loads`

`pretty` is `json.dumps(value, indent=2)`, which keeps the order of a dict's items, and
`loads` is `json.loads`. A text is the list of its characters, so a literal with half of a
surrogate pair is refused. What a number with a fraction or an exponent reads as is left to
`float`.

`scanString_literal` and `scanValue_ofInt`: a string literal and an integer are read back off
the front of a text.
-/

namespace Concord.Python

theorem isDigit_of_mem_toDigits {n : Nat} : ∀ c ∈ Nat.toDigits 10 n, c.isDigit = true :=
  fun _ hc => Nat.isDigit_of_mem_toDigits (by decide) (by decide) hc

theorem isNumberChar_of_mem_toDigits {n : Nat} :
    ∀ c ∈ Nat.toDigits 10 n, isNumberChar c = true :=
  fun c hc => isNumberChar_of_isDigit (isDigit_of_mem_toDigits c hc)

/-- `int.__repr__`. -/
def Number.ofInt : Int → Number
  | .ofNat n => .ofNat n
  | .negSucc n =>
    { first := '-'
      rest := Nat.toDigits 10 (n + 1)
      isStart := rfl
      isNumber := isNumberChar_of_mem_toDigits }

theorem Number.ofNat_text (n : Nat) : (Number.ofNat n).text = Nat.toDigits 10 n := by
  unfold Number.ofNat Number.text
  split
  · rename_i h
    exact absurd h Nat.toDigits_ne_nil
  · rename_i h
    exact h.symm

namespace Json

/-! ## Printing with an indent -/

def newline (level : Nat) : Text := '\n' :: List.replicate (2 * level) ' '

mutual

/-- `json.dumps(value, indent=2)`, at a level. -/
def pretty : Nat → Json → Text
  | _, .null => ['n', 'u', 'l', 'l']
  | _, .bool true => ['t', 'r', 'u', 'e']
  | _, .bool false => ['f', 'a', 'l', 's', 'e']
  | _, .num n => n.text
  | _, .str s => dumpsStr s
  | _, .arr [] => ['[', ']']
  | k, .arr (v :: vs) => '[' :: (newline (k + 1) ++ (pretty (k + 1) v ++ prettyItems k vs))
  | _, .obj [] => ['{', '}']
  | k, .obj (f :: fs) =>
    '{' :: (newline (k + 1) ++ (prettyField (k + 1) f ++ prettyFields k fs))

/-- The items of an array after the first, and its closing bracket. -/
def prettyItems : Nat → List Json → Text
  | k, [] => newline k ++ [']']
  | k, v :: vs => ',' :: (newline (k + 1) ++ (pretty (k + 1) v ++ prettyItems k vs))

/-- The items of a dict after the first, and its closing brace. -/
def prettyFields : Nat → List (Text × Json) → Text
  | k, [] => newline k ++ ['}']
  | k, f :: fs => ',' :: (newline (k + 1) ++ (prettyField (k + 1) f ++ prettyFields k fs))

def prettyField : Nat → Text × Json → Text
  | k, (key, v) => dumpsStr key ++ ':' :: ' ' :: pretty k v

end

/-! ## Reading -/

/-- `WHITESPACE`. -/
def isWs (c : Char) : Bool := c = ' ' ∨ c = '\t' ∨ c = '\n' ∨ c = '\r'

def skipWs (s : Text) : Text := s.dropWhile isWs

def scanHex4 : Text → Option (Nat × Text)
  | a :: b :: c :: d :: s => do
    let a ← hexValue a
    let b ← hexValue b
    let c ← hexValue c
    let d ← hexValue d
    return (4096 * a + 256 * b + 16 * c + d, s)
  | _ => none

def shortUnescape : Char → Option Char
  | '"' => some '"'
  | '\\' => some '\\'
  | '/' => some '/'
  | 'n' => some '\n'
  | 'r' => some '\r'
  | 't' => some '\t'
  | 'f' => some '\x0c'
  | 'b' => some '\x08'
  | _ => none

/-- What follows the first half of a surrogate pair. -/
def scanLow (hi : Nat) : Text → Option (Char × Text)
  | '\\' :: 'u' :: s => do
    let (lo, s) ← scanHex4 s
    if 0xdc00 ≤ lo ∧ lo < 0xe000 then
      return (Char.ofNat (0x10000 + (hi - 0xd800) * 0x400 + (lo - 0xdc00)), s)
    else none
  | _ => none

/-- The character of an escape, after its backslash. -/
def unescape : Text → Option (Char × Text)
  | [] => none
  | 'u' :: s => do
    let (n, s) ← scanHex4 s
    if 0xd800 ≤ n ∧ n < 0xdc00 then scanLow n s
    else if 0xdc00 ≤ n ∧ n < 0xe000 then none
    else return (Char.ofNat n, s)
  | e :: s => (shortUnescape e).map fun c => (c, s)

/-- `scanstring`, after the opening quote; the first argument bounds the characters. -/
def scanString : Nat → Text → Option (Text × Text)
  | 0, _ => none
  | _ + 1, [] => none
  | n + 1, c :: s =>
    if c = '"' then some ([], s)
    else if c = '\\' then do
      let (d, s) ← unescape s
      let (t, s) ← scanString n s
      return (d :: t, s)
    else if c.toNat < 0x20 then none
    else do
      let (t, s) ← scanString n s
      return (c :: t, s)

def scanDigits (s : Text) : Text × Text := s.span Char.isDigit

def scanInteger : Text → Option (Text × Text)
  | '0' :: s => some (['0'], s)
  | s =>
    match scanDigits s with
    | ([], _) => none
    | (digits, s) => some (digits, s)

def scanFraction : Text → Text × Text
  | '.' :: s =>
    match scanDigits s with
    | ([], _) => ([], '.' :: s)
    | (digits, s) => ('.' :: digits, s)
  | s => ([], s)

def scanSign : Text → Text × Text
  | c :: s => if c = '+' ∨ c = '-' then ([c], s) else ([], c :: s)
  | [] => ([], [])

def scanExponent : Text → Text × Text
  | c :: s =>
    if c = 'e' ∨ c = 'E' then
      match scanDigits (scanSign s).2 with
      | ([], _) => ([], c :: s)
      | (digits, rest) => (c :: ((scanSign s).1 ++ digits), rest)
    else ([], c :: s)
  | [] => ([], [])

/-- A number after its sign: an integer of more than 4300 digits is a `ValueError`. -/
def scanUnsigned (float : Text → Number) (negative : Bool) (s : Text) :
    Option (Number × Text) := do
  let (int, s) ← scanInteger s
  let (fraction, s) := scanFraction s
  let (exponent, s) := scanExponent s
  if fraction = [] ∧ exponent = [] then
    if int.length ≤ 4300 then
      let n : Int := Nat.ofDigitChars 10 int 0
      return (.ofInt (if negative then -n else n), s)
    else none
  else
    return (float ((if negative then ['-'] else []) ++ int ++ fraction ++ exponent), s)

/-- `_match_number`. -/
def scanNumber (float : Text → Number) : Text → Option (Number × Text)
  | '-' :: s => scanUnsigned float true s
  | s => scanUnsigned float false s

theorem isNumberChar_nan : ∀ c ∈ ['a', 'N'], isNumberChar c = true :=
  List.all_eq_true.mp (by decide)

theorem isNumberChar_infinity :
    ∀ c ∈ ['I', 'n', 'f', 'i', 'n', 'i', 't', 'y'], isNumberChar c = true :=
  List.all_eq_true.mp (by decide)

theorem isNumberChar_nfinity :
    ∀ c ∈ ['n', 'f', 'i', 'n', 'i', 't', 'y'], isNumberChar c = true :=
  List.all_eq_true.mp (by decide)

/-- `NaN` and the infinities. -/
def scanConstant : Text → Option (Number × Text)
  | 'N' :: 'a' :: 'N' :: s => some (⟨'N', _, rfl, isNumberChar_nan⟩, s)
  | 'I' :: 'n' :: 'f' :: 'i' :: 'n' :: 'i' :: 't' :: 'y' :: s =>
    some (⟨'I', _, rfl, isNumberChar_nfinity⟩, s)
  | '-' :: 'I' :: 'n' :: 'f' :: 'i' :: 'n' :: 'i' :: 't' :: 'y' :: s =>
    some (⟨'-', _, rfl, isNumberChar_infinity⟩, s)
  | _ => none

/-- The items of an array after one of them, up to the closing bracket. -/
def scanItems (value : Text → Option (Json × Text)) : Nat → Text → Option (List Json × Text)
  | 0, _ => none
  | n + 1, s =>
    match skipWs s with
    | ']' :: s => some ([], s)
    | ',' :: s => do
      let (v, s) ← value (skipWs s)
      let (vs, s) ← scanItems value n s
      return (v :: vs, s)
    | _ => none

def scanField (value : Text → Option (Json × Text)) : Text → Option ((Text × Json) × Text)
  | '"' :: s => do
    let (key, s) ← scanString (s.length + 1) s
    match skipWs s with
    | ':' :: s => do
      let (v, s) ← value (skipWs s)
      return ((key, v), s)
    | _ => none
  | _ => none

/-- The items of a dict after one of them, up to the closing brace. -/
def scanFields (value : Text → Option (Json × Text)) :
    Nat → Text → Option (List (Text × Json) × Text)
  | 0, _ => none
  | n + 1, s =>
    match skipWs s with
    | '}' :: s => some ([], s)
    | ',' :: s => do
      let (f, s) ← scanField value (skipWs s)
      let (fs, s) ← scanFields value n s
      return (f :: fs, s)
    | _ => none

/-- `scan_once`; the first argument bounds the depth, and the items of each level. -/
def scanValue (float : Text → Number) : Nat → Text → Option (Json × Text)
  | 0, _ => none
  | n + 1, s =>
    match s with
    | '"' :: s => (scanString (s.length + 1) s).map fun p => (.str p.1, p.2)
    | '[' :: s =>
      match skipWs s with
      | ']' :: s => some (.arr [], s)
      | s => do
        let (v, s) ← scanValue float n s
        let (vs, s) ← scanItems (scanValue float n) n s
        return (.arr (v :: vs), s)
    | '{' :: s =>
      match skipWs s with
      | '}' :: s => some (.obj [], s)
      | s => do
        let (f, s) ← scanField (scanValue float n) s
        let (fs, s) ← scanFields (scanValue float n) n s
        return (.obj (Dict.ofPairs (f :: fs)).items, s)
    | 'n' :: 'u' :: 'l' :: 'l' :: s => some (.null, s)
    | 't' :: 'r' :: 'u' :: 'e' :: s => some (.bool true, s)
    | 'f' :: 'a' :: 'l' :: 's' :: 'e' :: s => some (.bool false, s)
    | s => ((scanConstant s).or (scanNumber float s)).map fun p => (.num p.1, p.2)

/-- `json.loads`; `none` is a `ValueError`. -/
def loads (float : Text → Number) (s : Text) : Option Json := do
  let (v, s) ← scanValue float (s.length + 1) (skipWs s)
  if skipWs s = [] then return v else none

example : loads (fun _ => Number.ofNat 0) "[\"a\\u00e9\", \x7b\"k\": -12\x7d]".toList =
    some (.arr [.str "aé".toList, .obj [("k".toList, .num (.ofInt (-12)))]]) := by
  rfl

/-! ## A string literal -/

theorem scanHex4_hex4 {n : Nat} (hn : n < 0x10000) (s : Text) :
    scanHex4 (hex4 n ++ s) = some (n, s) := by
  have h₃ := hexValue_digitChar ⟨n / 4096, by omega⟩
  have h₂ := hexValue_digitChar ⟨n / 256 % 16, by omega⟩
  have h₁ := hexValue_digitChar ⟨n / 16 % 16, by omega⟩
  have h₀ := hexValue_digitChar ⟨n % 16, by omega⟩
  simp only [hex4, List.cons_append, List.nil_append, scanHex4, h₃, h₂, h₁, h₀,
    Option.bind_eq_bind, Option.bind_some, Option.pure_def, Option.some.injEq, Prod.mk.injEq,
    and_true]
  omega

theorem unescape_short {c e : Char} (h : shortEscape c = some e) (s : Text) :
    unescape (e :: s) = some (c, s) := by
  unfold shortEscape at h
  split at h <;> cases h <;> rfl

theorem unescape_bmp {c : Char} (hc : c.toNat < 0x10000) (s : Text) :
    unescape ('u' :: (hex4 c.toNat ++ s)) = some (c, s) := by
  have hvalid := toNat_valid c
  rw [unescape, scanHex4_hex4 hc, Option.bind_eq_bind, Option.bind_some]
  dsimp only
  rw [if_neg (by omega), if_neg (by omega), Char.ofNat_toNat]
  rfl

theorem unescape_astral {c : Char} (hc : 0x10000 ≤ c.toNat) (s : Text) :
    unescape ('u' :: (hex4 (0xd800 + (c.toNat - 0x10000) / 0x400) ++
      (unicodeEscape (0xdc00 + (c.toNat - 0x10000) % 0x400) ++ s))) = some (c, s) := by
  have hvalid := toNat_valid c
  have hsum : 0x10000 + (0xd800 + (c.toNat - 0x10000) / 0x400 - 0xd800) * 0x400 +
      (0xdc00 + (c.toNat - 0x10000) % 0x400 - 0xdc00) = c.toNat := by omega
  rw [unescape, scanHex4_hex4 (by omega), Option.bind_eq_bind, Option.bind_some]
  dsimp only
  rw [if_pos (by omega), unicodeEscape, List.cons_append, List.cons_append, scanLow,
    scanHex4_hex4 (by omega), Option.bind_eq_bind, Option.bind_some]
  dsimp only
  rw [if_pos (by omega), hsum, Char.ofNat_toNat]
  rfl

theorem scanString_escape {t s : Text} {c : Char} (n : Nat)
    (h : unescape t = some (c, s)) :
    scanString (n + 1) ('\\' :: t) = (scanString n s).map fun p => (c :: p.1, p.2) := by
  rw [scanString, if_neg (by decide), if_pos rfl, h, Option.bind_eq_bind, Option.bind_some]
  dsimp only
  cases scanString n s <;> rfl

theorem scanString_escapeChar (c : Char) (n : Nat) (s : Text) :
    scanString (n + 1) (escapeChar c ++ s) =
      (scanString n s).map fun p => (c :: p.1, p.2) := by
  unfold escapeChar
  cases hs : shortEscape c with
  | some e => exact scanString_escape n (unescape_short hs s)
  | none =>
    dsimp only
    by_cases hp : 0x20 ≤ c.toNat ∧ c.toNat ≤ 0x7e
    · have hquote : c ≠ '"' := fun h => by rw [h] at hs; cases hs
      have hslash : c ≠ '\\' := fun h => by rw [h] at hs; cases hs
      rw [if_pos hp, List.singleton_append, scanString, if_neg hquote, if_neg hslash,
        if_neg (by omega)]
      cases scanString n s <;> rfl
    · rw [if_neg hp]
      by_cases hb : c.toNat < 0x10000
      · rw [if_pos hb]
        exact scanString_escape n (unescape_bmp hb s)
      · rw [if_neg hb, List.append_assoc]
        exact scanString_escape n (unescape_astral (by omega) s)

theorem scanString_dumpsStr (k : Text) (n : Nat) (rest : Text) (hn : k.length < n) :
    scanString n (k.flatMap escapeChar ++ '"' :: rest) = some (k, rest) := by
  induction k generalizing n with
  | nil =>
    obtain ⟨m, rfl⟩ := Nat.exists_eq_succ_of_ne_zero (Nat.ne_of_gt hn)
    rfl
  | cons c k ih =>
    obtain ⟨m, rfl⟩ := Nat.exists_eq_succ_of_ne_zero (Nat.ne_of_gt (Nat.zero_lt_of_lt hn))
    rw [List.flatMap_cons, List.append_assoc, Nat.succ_eq_add_one, scanString_escapeChar,
      ih m (Nat.lt_of_succ_lt_succ hn)]
    rfl

theorem length_le_flatMap (k : Text) : k.length ≤ (k.flatMap escapeChar).length := by
  induction k with
  | nil => exact Nat.le_refl _
  | cons c k ih =>
    obtain ⟨d, ds, hc, -⟩ := escapeChar_cons c
    rw [List.flatMap_cons, List.length_append, hc, List.length_cons, List.length_cons]
    omega

theorem scanString_literal (k rest : Text) :
    scanString ((k.flatMap escapeChar ++ '"' :: rest).length + 1)
      (k.flatMap escapeChar ++ '"' :: rest) = some (k, rest) := by
  have hle := length_le_flatMap k
  refine scanString_dumpsStr k _ rest ?_
  rw [List.length_append]
  omega

/-! ## Numbers -/

/-- What stands after a value: a comma, a closing bracket, a blank, or nothing. -/
def Follows (s : Text) : Prop := ∀ c ∈ s.head?, c ∈ [',', ']', '}', ' ', '\t', '\n', '\r']

theorem follows_nil : Follows [] := fun _ h => nomatch h

theorem follows_cons {c : Char} (h : c ∈ [',', ']', '}', ' ', '\t', '\n', '\r'])
    (s : Text) : Follows (c :: s) := by
  intro d hd
  rw [List.head?_cons, Option.mem_some_iff] at hd
  exact hd ▸ h

theorem Follows.head {c : Char} {s : Text} (h : Follows (c :: s)) :
    c.isDigit = false ∧ c ≠ '.' ∧ c ≠ 'e' ∧ c ≠ 'E' := by
  have hc : c ∈ [',', ']', '}', ' ', '\t', '\n', '\r'] := h c rfl
  simp only [List.mem_cons, List.not_mem_nil, or_false] at hc
  rcases hc with rfl | rfl | rfl | rfl | rfl | rfl | rfl <;> decide

theorem Follows.not_digit {s : Text} (h : Follows s) : s.takeWhile Char.isDigit = [] ∧
    s.dropWhile Char.isDigit = s := by
  cases s with
  | nil => exact ⟨rfl, rfl⟩
  | cons c s =>
    have hc : ¬c.isDigit = true := by simp [h.head.1]
    exact ⟨List.takeWhile_cons_of_neg hc, List.dropWhile_cons_of_neg hc⟩

theorem scanDigits_append {digits s : Text} (hdigits : ∀ c ∈ digits, c.isDigit = true)
    (hs : Follows s) : scanDigits (digits ++ s) = (digits, s) := by
  rw [scanDigits, List.span_eq_takeWhile_dropWhile, List.takeWhile_append_of_pos hdigits,
    List.dropWhile_append_of_pos hdigits, hs.not_digit.1, hs.not_digit.2, List.append_nil]

theorem head_toDigits {n : Nat} (hn : 0 < n) :
    ∃ c s, Nat.toDigits 10 n = c :: s ∧ c.isDigit = true ∧ c ≠ '0' := by
  induction n using Nat.strongRecOn with
  | ind n ih =>
    by_cases hlt : n < 10
    · have hdigit : ∀ i : Fin 10, 0 < i.val →
          (Nat.digitChar i).isDigit = true ∧ Nat.digitChar i ≠ '0' := by decide
      exact ⟨_, [], Nat.toDigits_of_lt_base hlt, hdigit ⟨n, hlt⟩ hn⟩
    · obtain ⟨c, s, heq, hc⟩ := ih (n / 10) (by omega) (by omega)
      exact ⟨c, s ++ [Nat.digitChar (n % 10)],
        by rw [Nat.toDigits_of_base_le (by decide) (by omega), heq, List.cons_append], hc⟩

theorem scanInteger_toDigits (n : Nat) {s : Text} (hs : Follows s) :
    scanInteger (Nat.toDigits 10 n ++ s) = some (Nat.toDigits 10 n, s) := by
  rcases Nat.eq_zero_or_pos n with rfl | hn
  · rw [Nat.toDigits_zero]
    rfl
  · obtain ⟨c, ds, heq, -, hc⟩ := head_toDigits hn
    have hscan := scanDigits_append (isDigit_of_mem_toDigits (n := n)) hs
    rw [heq, List.cons_append] at hscan ⊢
    unfold scanInteger
    split
    · rename_i h
      exact absurd (List.cons.inj h).1 hc
    · rw [hscan]

theorem Follows.fraction {s : Text} (h : Follows s) : scanFraction s = ([], s) := by
  unfold scanFraction
  split
  · exact absurd rfl h.head.2.1
  · rfl

theorem Follows.exponent {s : Text} (h : Follows s) : scanExponent s = ([], s) := by
  cases s with
  | nil => rfl
  | cons c s => rw [scanExponent, if_neg (not_or.mpr h.head.2.2)]

theorem scanUnsigned_toDigits (float : Text → Number) (negative : Bool) (n : Nat) {s : Text}
    (hn : (Nat.toDigits 10 n).length ≤ 4300) (hs : Follows s) :
    scanUnsigned float negative (Nat.toDigits 10 n ++ s) =
      some (.ofInt (if negative then -(n : Int) else n), s) := by
  rw [scanUnsigned, scanInteger_toDigits n hs, Option.bind_eq_bind, Option.bind_some]
  dsimp only
  rw [hs.fraction]
  dsimp only
  rw [hs.exponent]
  dsimp only
  rw [if_pos ⟨rfl, rfl⟩, if_pos hn, Nat.ofDigitChars_ten_toDigits]
  rfl

def digits (i : Int) : Text := Nat.toDigits 10 i.natAbs

theorem scanNumber_ofInt (float : Text → Number) (i : Int) {s : Text}
    (hi : (digits i).length ≤ 4300) (hs : Follows s) :
    scanNumber float ((Number.ofInt i).text ++ s) = some (.ofInt i, s) := by
  cases i with
  | ofNat n =>
    have htext : (Number.ofInt (.ofNat n)).text = Nat.toDigits 10 n := Number.ofNat_text n
    have hscan := scanUnsigned_toDigits float false n hi hs
    rw [htext]
    unfold scanNumber
    split
    · rename_i h
      have hmem : '-' ∈ Nat.toDigits 10 n := by
        cases hd : Nat.toDigits 10 n with
        | nil => exact absurd hd Nat.toDigits_ne_nil
        | cons c ds =>
          rw [hd, List.cons_append] at h
          exact (List.cons.inj h).1 ▸ List.mem_cons_self
      exact absurd (isDigit_of_mem_toDigits _ hmem) (by decide)
    · exact hscan
  | negSucc n => exact scanUnsigned_toDigits float true (n + 1) hi hs

theorem ofInt_text (i : Int) :
    ∃ c s, c.isDigit = true ∧
      ((Number.ofInt i).text = c :: s ∨ (Number.ofInt i).text = '-' :: c :: s) := by
  have hcons : ∀ n, ∃ c s, c.isDigit = true ∧ Nat.toDigits 10 n = c :: s := by
    intro n
    cases hd : Nat.toDigits 10 n with
    | nil => exact absurd hd Nat.toDigits_ne_nil
    | cons c s => exact ⟨c, s, isDigit_of_mem_toDigits c (hd ▸ List.mem_cons_self), rfl⟩
  cases i with
  | ofNat n =>
    obtain ⟨c, s, hc, heq⟩ := hcons n
    exact ⟨c, s, hc, .inl ((Number.ofNat_text n).trans heq)⟩
  | negSucc n =>
    obtain ⟨c, s, hc, heq⟩ := hcons (n + 1)
    exact ⟨c, s, hc, .inr (congrArg ('-' :: ·) heq)⟩

theorem scanConstant_digit {c : Char} (hc : c.isDigit = true) (s : Text) :
    scanConstant (c :: s) = none ∧ scanConstant ('-' :: c :: s) = none := by
  constructor
  · unfold scanConstant
    split
    · rename_i h
      exact absurd ((List.cons.inj h).1 ▸ hc) (by decide)
    · rename_i h
      exact absurd ((List.cons.inj h).1 ▸ hc) (by decide)
    · rename_i h
      exact absurd ((List.cons.inj h).1 ▸ hc) (by decide)
    · rfl
  · unfold scanConstant
    split
    · rename_i h
      exact absurd (List.cons.inj h).1 (by decide)
    · rename_i h
      exact absurd (List.cons.inj h).1 (by decide)
    · rename_i h
      exact absurd ((List.cons.inj (List.cons.inj h).2).1 ▸ hc) (by decide)
    · rfl

theorem scanValue_number (float : Text → Number) (n : Nat) {c : Char}
    (hc : c.isDigit = true ∨ c = '-') (s : Text) :
    scanValue float (n + 1) (c :: s) =
      ((scanConstant (c :: s)).or (scanNumber float (c :: s))).map fun p => (.num p.1, p.2) := by
  have hne : c ≠ '"' ∧ c ≠ '[' ∧ c ≠ '{' ∧ c ≠ 'n' ∧ c ≠ 't' ∧ c ≠ 'f' := by
    refine ⟨?_, ?_, ?_, ?_, ?_, ?_⟩ <;> (rintro rfl; revert hc; decide)
  obtain ⟨h1, h2, h3, h4, h5, h6⟩ := hne
  simp [scanValue, h1, h2, h3, h4, h5, h6]

theorem scanValue_ofInt (float : Text → Number) (n : Nat) (i : Int) {s : Text}
    (hi : (digits i).length ≤ 4300) (hs : Follows s) :
    scanValue float (n + 1) ((Number.ofInt i).text ++ s) = some (.num (.ofInt i), s) := by
  have hscan := scanNumber_ofInt float i hi hs
  obtain ⟨c, t, hc, htext | htext⟩ := ofInt_text i
  · rw [htext, List.cons_append] at hscan ⊢
    rw [scanValue_number float n (.inl hc), (scanConstant_digit hc _).1, hscan]
    rfl
  · rw [htext, List.cons_append, List.cons_append] at hscan ⊢
    rw [scanValue_number float n (.inr rfl), (scanConstant_digit hc _).2, hscan]
    rfl

end Json

/-! ## Integers -/

/-- The integer a literal is of, if it is of one. -/
def Number.toInt (n : Number) : Option Int :=
  if n.first = '-' then
    if !n.rest.isEmpty && n.rest.all Char.isDigit then some (-(Nat.ofDigitChars 10 n.rest 0 : Int))
    else none
  else if n.text.all Char.isDigit then some (Nat.ofDigitChars 10 n.text 0 : Int) else none

theorem Number.toInt_ofInt (i : Int) : (Number.ofInt i).toInt = some i := by
  cases i with
  | ofNat n =>
    have htext : (Number.ofInt (.ofNat n)).text = Nat.toDigits 10 n := Number.ofNat_text n
    have hdigits : (Nat.toDigits 10 n).all Char.isDigit = true :=
      List.all_eq_true.mpr isDigit_of_mem_toDigits
    have hfirst : (Number.ofInt (.ofNat n)).first ≠ '-' := by
      intro h
      have hmem : '-' ∈ (Number.ofInt (.ofNat n)).text := h ▸ List.mem_cons_self
      rw [htext] at hmem
      exact absurd (isDigit_of_mem_toDigits _ hmem) (by decide)
    rw [Number.toInt, if_neg hfirst, htext, if_pos hdigits, Nat.ofDigitChars_ten_toDigits]
    rfl
  | negSucc n =>
    have hdigits : (!(Nat.toDigits 10 (n + 1)).isEmpty &&
        (Nat.toDigits 10 (n + 1)).all Char.isDigit) = true := by
      rw [List.all_eq_true.mpr isDigit_of_mem_toDigits, Bool.and_true, Bool.not_eq_true',
        List.isEmpty_eq_false_iff]
      exact Nat.toDigits_ne_nil
    have hfirst : (Number.ofInt (.negSucc n)).first = '-' := rfl
    have hrest : (Number.ofInt (.negSucc n)).rest = Nat.toDigits 10 (n + 1) := rfl
    rw [Number.toInt, if_pos hfirst, hrest, if_pos hdigits, Nat.ofDigitChars_ten_toDigits]
    rfl

namespace Json

def ofInt (i : Int) : Json := .num (.ofInt i)

/-- `isinstance(v, int)`, with the value. -/
def toInt : Json → Option Int
  | .bool b => some (if b then 1 else 0)
  | .num n => n.toInt
  | _ => none

theorem toInt_ofInt (i : Int) : (ofInt i).toInt = some i := Number.toInt_ofInt i

end Json

end Concord.Python
