import Mathlib.Data.List.Induction

/-!
# Python JSON values and `json.dumps`

`Json` is what `json.loads` returns and `json.dumps` accepts. A `str` is the
list of its code points (`Text`). A number is the text `json.dumps` prints for
it (`int.__repr__` or `float.__repr__`), so `1` and `1.0` are different numbers,
as they are for a hash over the text. A dict is held as its items in key order,
which is all that `==` and `sort_keys=True` see of it; `ofItems` builds it from
items in any order, a later value for a key replacing an earlier one.

`dumps` is `json.dumps(value, sort_keys=True, separators=(",", ":"))` with the
default `ensure_ascii=True`. `dumps_injective` says that it loses nothing, and
`newline_notMem_dumps` that it stays on one line: the two facts that make the
text usable as the last line of a hashed body.
-/

namespace Concord.Python

/-- A Python `str`: its code points. -/
abbrev Text := List Char

/-- The characters `json.dumps` prints a number with, `NaN` and the infinities
included. -/
def isNumberChar (c : Char) : Bool :=
  c.isDigit || c ∈ ['+', '-', '.', 'e', 'N', 'a', 'I', 'n', 'f', 'i', 't', 'y']

def isNumberStart (c : Char) : Bool := c.isDigit || c ∈ ['-', 'N', 'I']

/-- A number, as the text `json.dumps` prints for it. -/
structure Number where
  first : Char
  rest : Text
  isStart : isNumberStart first = true
  isNumber : ∀ c ∈ rest, isNumberChar c = true
  deriving DecidableEq

def Number.text (n : Number) : Text := n.first :: n.rest

theorem isNumberChar_of_isDigit {c : Char} (h : c.isDigit = true) :
    isNumberChar c = true := by
  simp [isNumberChar, h]

theorem isNumberStart_of_isDigit {c : Char} (h : c.isDigit = true) :
    isNumberStart c = true := by
  simp [isNumberStart, h]

/-- `int.__repr__` of a natural number. -/
def Number.ofNat (n : Nat) : Number :=
  match h : Nat.toDigits 10 n with
  | [] => ⟨'0', [], rfl, fun _ hc => nomatch hc⟩
  | d :: ds =>
    { first := d
      rest := ds
      isStart := isNumberStart_of_isDigit
        (Nat.isDigit_of_mem_toDigits (by decide) (by decide)
          (h ▸ List.mem_cons_self))
      isNumber := fun c hc => isNumberChar_of_isDigit
        (Nat.isDigit_of_mem_toDigits (by decide) (by decide)
          (h ▸ List.mem_cons_of_mem d hc)) }

/-- A JSON value. -/
inductive Json where
  | null
  | bool (b : Bool)
  | num (n : Number)
  | str (s : Text)
  | arr (items : List Json)
  | obj (fields : List (Text × Json))

namespace Json

/-- A Python `int` that is not negative (a status code, a count). -/
def nat (n : Nat) : Json := .num (Number.ofNat n)

/-- Code point order of keys, the order `sort_keys=True` sorts by. -/
def keyLt : Text → Text → Bool
  | _, [] => false
  | [], _ :: _ => true
  | c :: cs, d :: ds => if c = d then keyLt cs ds else decide (c.toNat < d.toNat)

/-- `d[key] = value` on a dict held in key order. -/
def insertField (key : Text) (value : Json) :
    List (Text × Json) → List (Text × Json)
  | [] => [(key, value)]
  | (k, v) :: rest =>
    if key = k then (key, value) :: rest
    else if keyLt key k then (key, value) :: (k, v) :: rest
    else (k, v) :: insertField key value rest

/-- A dict display `{k₁: v₁, ...}`. -/
def ofItems (items : List (Text × Json)) : Json :=
  .obj (items.foldl (fun fields kv => insertField kv.1 kv.2 fields) [])

/-! ## `json.dumps` -/

/-- The two-character escapes: the character after the backslash. -/
def shortEscape : Char → Option Char
  | '"' => some '"'
  | '\\' => some '\\'
  | '\n' => some 'n'
  | '\r' => some 'r'
  | '\t' => some 't'
  | '\x0c' => some 'f'
  | '\x08' => some 'b'
  | _ => none

/-- `'{0:04x}'.format(n)`, for a 16-bit `n`. -/
def hex4 (n : Nat) : Text :=
  [Nat.digitChar (n / 4096), Nat.digitChar (n / 256 % 16),
   Nat.digitChar (n / 16 % 16), Nat.digitChar (n % 16)]

/-- `\uXXXX`. -/
def unicodeEscape (n : Nat) : Text := '\\' :: 'u' :: hex4 n

/-- One character of a string literal under `ensure_ascii=True`: printable ASCII
as it is, the rest escaped, beyond the BMP as a surrogate pair. -/
def escapeChar (c : Char) : Text :=
  match shortEscape c with
  | some e => ['\\', e]
  | none =>
    if 0x20 ≤ c.toNat ∧ c.toNat ≤ 0x7e then [c]
    else if c.toNat < 0x10000 then unicodeEscape c.toNat
    else unicodeEscape (0xd800 + (c.toNat - 0x10000) / 0x400) ++
      unicodeEscape (0xdc00 + (c.toNat - 0x10000) % 0x400)

def dumpsStr (s : Text) : Text := '"' :: (s.flatMap escapeChar ++ ['"'])

mutual

/-- `json.dumps(value, sort_keys=True, separators=(",", ":"))`. -/
def dumps : Json → Text
  | .null => ['n', 'u', 'l', 'l']
  | .bool true => ['t', 'r', 'u', 'e']
  | .bool false => ['f', 'a', 'l', 's', 'e']
  | .num n => n.text
  | .str s => dumpsStr s
  | .arr [] => ['[', ']']
  | .arr (v :: vs) => '[' :: (dumps v ++ dumpsItems vs)
  | .obj [] => ['{', '}']
  | .obj (f :: fs) => '{' :: (dumpsField f ++ dumpsFields fs)

/-- The items of an array after the first, and its closing bracket. -/
def dumpsItems : List Json → Text
  | [] => [']']
  | v :: vs => ',' :: (dumps v ++ dumpsItems vs)

/-- The items of a dict after the first, and its closing brace. -/
def dumpsFields : List (Text × Json) → Text
  | [] => ['}']
  | f :: fs => ',' :: (dumpsField f ++ dumpsFields fs)

def dumpsField : Text × Json → Text
  | (k, v) => dumpsStr k ++ ':' :: dumps v

end

example :
    dumps (ofItems [("b".toList, .arr [nat 12, .null]),
      ("a".toList, .str "é\n".toList)]) =
    "\x7b\"a\":\"\\u00e9\\n\",\"b\":[12,null]\x7d".toList := by
  decide +kernel

/-! ## One character of a string literal -/

theorem digitChar_injective {m n : Nat} (hm : m < 16) (hn : n < 16)
    (h : Nat.digitChar m = Nat.digitChar n) : m = n := by
  have hall : ∀ i j : Fin 16, Nat.digitChar i = Nat.digitChar j → i = j := by
    decide
  exact congrArg Fin.val (hall ⟨m, hm⟩ ⟨n, hn⟩ h)

theorem hex4_injective {m n : Nat} (hm : m < 0x10000) (hn : n < 0x10000)
    (h : hex4 m = hex4 n) : m = n := by
  simp only [hex4, List.cons.injEq, and_true] at h
  obtain ⟨h₃, h₂, h₁, h₀⟩ := h
  have e₃ := digitChar_injective (by omega) (by omega) h₃
  have e₂ := digitChar_injective (by omega) (by omega) h₂
  have e₁ := digitChar_injective (by omega) (by omega) h₁
  have e₀ := digitChar_injective (by omega) (by omega) h₀
  omega

theorem unicodeEscape_append_inj {m n : Nat} (hm : m < 0x10000)
    (hn : n < 0x10000) {s t : Text}
    (h : unicodeEscape m ++ s = unicodeEscape n ++ t) : m = n ∧ s = t := by
  obtain ⟨hesc, hst⟩ := List.append_inj h rfl
  simp only [unicodeEscape, List.cons.injEq, true_and] at hesc
  exact ⟨hex4_injective hm hn hesc, hst⟩

theorem shortEscape_ne_u {c e : Char} (h : shortEscape c = some e) : e ≠ 'u' := by
  unfold shortEscape at h
  split at h <;> simp_all <;> subst h <;> decide

theorem shortEscape_injective {c d e : Char} (hc : shortEscape c = some e)
    (hd : shortEscape d = some e) : c = d := by
  unfold shortEscape at hc hd
  split at hc <;> simp only [Option.some.injEq, reduceCtorEq] at hc <;>
    subst hc <;> split at hd <;> simp_all

/-- The four forms of an escaped character. -/
inductive EscapeForm (c : Char) : Prop
  | short (e : Char) (h : shortEscape c = some e)
      (eq : escapeChar c = ['\\', e])
  | plain (hb : c ≠ '\\') (hq : c ≠ '"') (eq : escapeChar c = [c])
  | bmp (lt : c.toNat < 0x10000) (eq : escapeChar c = unicodeEscape c.toNat)
  | astral (le : 0x10000 ≤ c.toNat) (lt : c.toNat < 0x110000)
      (eq : escapeChar c =
        unicodeEscape (0xd800 + (c.toNat - 0x10000) / 0x400) ++
          unicodeEscape (0xdc00 + (c.toNat - 0x10000) % 0x400))

theorem toNat_valid (c : Char) :
    c.toNat < 0xd800 ∨ (0xdfff < c.toNat ∧ c.toNat < 0x110000) :=
  c.valid

theorem escapeForm (c : Char) : EscapeForm c := by
  cases hs : shortEscape c with
  | some e => exact .short e hs (by simp [escapeChar, hs])
  | none =>
    by_cases hp : 0x20 ≤ c.toNat ∧ c.toNat ≤ 0x7e
    · refine .plain ?_ ?_ (by simp [escapeChar, hs, hp])
      · rintro rfl
        simp [shortEscape] at hs
      · rintro rfl
        simp [shortEscape] at hs
    · by_cases hb : c.toNat < 0x10000
      · exact .bmp hb (by simp only [escapeChar, hs]; rw [if_neg hp, if_pos hb])
      · refine .astral (by omega) ?_
          (by simp only [escapeChar, hs]; rw [if_neg hp, if_neg hb])
        rcases toNat_valid c with h | h <;> omega

theorem escapeChar_cons (c : Char) :
    ∃ d ds, escapeChar c = d :: ds ∧ d ≠ '"' := by
  cases escapeForm c with
  | short e _ eq => exact ⟨'\\', [e], eq, by decide⟩
  | plain _ hq eq => exact ⟨c, [], eq, hq⟩
  | bmp _ eq => exact ⟨'\\', _, eq, by decide⟩
  | astral _ _ eq => exact ⟨'\\', _, eq, by decide⟩

theorem plain_ne_escape {c d : Char} {s t ds : Text} (hb : c ≠ '\\') (hc : escapeChar c = [c])
    (hd : escapeChar d = '\\' :: ds) : escapeChar c ++ s ≠ escapeChar d ++ t := by
  rw [hc, hd]
  exact fun h => hb (List.cons.inj h).1

theorem short_ne_unicode {c d e : Char} {s t ds : Text} (hs : shortEscape c = some e)
    (hc : escapeChar c = ['\\', e]) (hd : escapeChar d = '\\' :: 'u' :: ds) :
    escapeChar c ++ s ≠ escapeChar d ++ t := by
  rw [hc, hd]
  exact fun h => shortEscape_ne_u hs (List.cons.inj (List.cons.inj h).2).1

theorem bmp_ne_astral {c d : Char} {s t rest : Text} (lt : c.toNat < 0x10000)
    (hc : escapeChar c = unicodeEscape c.toNat) (le : 0x10000 ≤ d.toNat)
    (hd : escapeChar d = unicodeEscape (0xd800 + (d.toNat - 0x10000) / 0x400) ++ rest) :
    escapeChar c ++ s ≠ escapeChar d ++ t := by
  have hvalid := toNat_valid c
  have hvalid' := toNat_valid d
  rw [hc, hd, List.append_assoc]
  intro h
  obtain ⟨hn, -⟩ := unicodeEscape_append_inj lt (by omega) h
  omega

theorem escapeChar_append_inj {c d : Char} {s t : Text}
    (h : escapeChar c ++ s = escapeChar d ++ t) : c = d ∧ s = t := by
  have hc := toNat_valid c
  have hd := toNat_valid d
  cases escapeForm c with
  | short e hs eq =>
    cases escapeForm d with
    | short e' hs' eq' =>
      rw [eq, eq'] at h
      simp only [List.cons_append, List.nil_append, List.cons.injEq, true_and] at h
      obtain ⟨rfl, hst⟩ := h
      exact ⟨shortEscape_injective hs hs', hst⟩
    | plain hb _ eq' => exact absurd h.symm (plain_ne_escape hb eq' eq)
    | bmp _ eq' => exact absurd h (short_ne_unicode hs eq eq')
    | astral _ _ eq' => exact absurd h (short_ne_unicode hs eq eq')
  | plain hb _ eq =>
    cases escapeForm d with
    | short e' _ eq' => exact absurd h (plain_ne_escape hb eq eq')
    | plain _ _ eq' =>
      rw [eq, eq'] at h
      exact List.cons.inj h
    | bmp _ eq' => exact absurd h (plain_ne_escape hb eq eq')
    | astral _ _ eq' => exact absurd h (plain_ne_escape hb eq eq')
  | bmp lt eq =>
    cases escapeForm d with
    | short e' hs' eq' => exact absurd h.symm (short_ne_unicode hs' eq' eq)
    | plain hb _ eq' => exact absurd h.symm (plain_ne_escape hb eq' eq)
    | bmp lt' eq' =>
      rw [eq, eq'] at h
      obtain ⟨hn, hst⟩ := unicodeEscape_append_inj lt lt' h
      exact ⟨Char.toNat_inj.mp hn, hst⟩
    | astral le' lt' eq' => exact absurd h (bmp_ne_astral lt eq le' eq')
  | astral le lt eq =>
    cases escapeForm d with
    | short e' hs' eq' => exact absurd h.symm (short_ne_unicode hs' eq' eq)
    | plain hb _ eq' => exact absurd h.symm (plain_ne_escape hb eq' eq)
    | bmp lt' eq' => exact absurd h.symm (bmp_ne_astral lt' eq' le eq)
    | astral le' lt' eq' =>
      rw [eq, eq', List.append_assoc, List.append_assoc] at h
      obtain ⟨hhi, h⟩ := unicodeEscape_append_inj (by omega) (by omega) h
      obtain ⟨hlo, hst⟩ := unicodeEscape_append_inj (by omega) (by omega) h
      exact ⟨Char.toNat_inj.mp (by omega), hst⟩

theorem dumpsStr_append_inj {k l : Text} {s t : Text}
    (h : dumpsStr k ++ s = dumpsStr l ++ t) : k = l ∧ s = t := by
  simp only [dumpsStr, List.cons_append, List.cons.injEq, true_and,
    List.append_assoc, List.nil_append] at h
  induction k generalizing l with
  | nil =>
    cases l with
    | nil => exact ⟨rfl, (List.cons.inj h).2⟩
    | cons d l =>
      obtain ⟨e, es, he, hq⟩ := escapeChar_cons d
      simp only [List.flatMap_nil, List.flatMap_cons, he] at h
      exact absurd (List.cons.inj h).1.symm hq
  | cons c k ih =>
    cases l with
    | nil =>
      obtain ⟨e, es, he, hq⟩ := escapeChar_cons c
      simp only [List.flatMap_nil, List.flatMap_cons, he] at h
      exact absurd (List.cons.inj h).1 hq
    | cons d l =>
      simp only [List.flatMap_cons, List.append_assoc] at h
      obtain ⟨rfl, h'⟩ := escapeChar_append_inj h
      obtain ⟨rfl, hst⟩ := ih h'
      exact ⟨rfl, hst⟩

/-! ## Numbers and heads -/

/-- The text cannot continue a number printed before it. -/
def EndsNumber (s : Text) : Prop := ∀ c, s.head? = some c → isNumberChar c = false

theorem endsNumber_nil : EndsNumber [] := fun _ h => nomatch h

theorem endsNumber_cons {c : Char} (h : isNumberChar c = false) (s : Text) :
    EndsNumber (c :: s) := by
  intro d hd
  rw [List.head?_cons, Option.some.injEq] at hd
  exact hd ▸ h

theorem takeWhile_number {r s : Text} (hr : ∀ c ∈ r, isNumberChar c = true)
    (hs : EndsNumber s) : (r ++ s).takeWhile isNumberChar = r := by
  rw [List.takeWhile_append_of_pos hr]
  cases s with
  | nil => exact List.append_nil r
  | cons c s =>
    rw [List.takeWhile_cons_of_neg (by simp [hs c rfl])]
    exact List.append_nil r

/-- A printed number can be read back off the front of a text that does not
continue it. -/
theorem number_append_inj {m n : Number} {s t : Text} (hs : EndsNumber s)
    (ht : EndsNumber t) (h : m.text ++ s = n.text ++ t) : m = n ∧ s = t := by
  simp only [Number.text, List.cons_append, List.cons.injEq] at h
  obtain ⟨hfirst, htail⟩ := h
  have hrest : m.rest = n.rest := by
    rw [← takeWhile_number m.isNumber hs, htail, takeWhile_number n.isNumber ht]
  refine ⟨?_, ?_⟩
  · cases m
    cases n
    simp_all
  · rw [hrest] at htail
    exact List.append_cancel_left htail

def kind : Json → Nat
  | .null => 0
  | .bool _ => 1
  | .num _ => 2
  | .str _ => 3
  | .arr _ => 4
  | .obj _ => 5

/-- The constructor the first printed character announces. -/
def headKind (c : Char) : Nat :=
  if isNumberStart c then 2
  else if c = 'n' then 0
  else if c = '"' then 3
  else if c = '[' then 4
  else if c = '{' then 5
  else if c = 't' ∨ c = 'f' then 1
  else 6

theorem dumps_head (a : Json) : ∃ c r, dumps a = c :: r ∧ headKind c = a.kind := by
  cases a with
  | null => exact ⟨_, _, by rw [dumps], rfl⟩
  | bool b => cases b <;> exact ⟨_, _, by rw [dumps], rfl⟩
  | num n =>
    refine ⟨n.first, n.rest, by rw [dumps]; rfl, ?_⟩
    simp [headKind, n.isStart, kind]
  | str s => exact ⟨_, _, by rw [dumps, dumpsStr], rfl⟩
  | arr vs => cases vs <;> exact ⟨_, _, by rw [dumps], rfl⟩
  | obj fs => cases fs <;> exact ⟨_, _, by rw [dumps], rfl⟩

theorem kind_eq {a b : Json} {s t : Text} (h : dumps a ++ s = dumps b ++ t) :
    a.kind = b.kind := by
  obtain ⟨c, r, ha, hc⟩ := dumps_head a
  obtain ⟨d, q, hb, hd⟩ := dumps_head b
  rw [ha, hb] at h
  rw [← hc, ← hd, (List.cons.inj h).1]

theorem dumps_append_ne (a : Json) (s t : Text) : dumps a ++ s ≠ ']' :: t := by
  obtain ⟨c, r, ha, hc⟩ := dumps_head a
  intro h
  rw [ha] at h
  rw [(List.cons.inj h).1] at hc
  have hbound : a.kind < 6 := by cases a <;> simp [kind]
  have hbracket : headKind ']' = 6 := rfl
  omega

theorem endsNumber_dumpsItems (vs : List Json) (s : Text) :
    EndsNumber (dumpsItems vs ++ s) := by
  cases vs <;> rw [dumpsItems] <;> exact endsNumber_cons rfl _

theorem endsNumber_dumpsFields (fs : List (Text × Json)) (s : Text) :
    EndsNumber (dumpsFields fs ++ s) := by
  cases fs <;> rw [dumpsFields] <;> exact endsNumber_cons rfl _

/-! ## `dumps` loses nothing -/

mutual

/-- A printed value can be read back off the front of a text. -/
theorem dumps_append_inj : ∀ (a b : Json) {s t : Text}, EndsNumber s →
    EndsNumber t → dumps a ++ s = dumps b ++ t → a = b ∧ s = t
  | .null, b, s, t, _, _, h => by
    have hk := kind_eq h
    cases b with
    | null => exact ⟨rfl, List.append_cancel_left h⟩
    | _ => simp [kind] at hk
  | .bool x, b, s, t, _, _, h => by
    have hk := kind_eq h
    cases b with
    | bool y => cases x <;> cases y <;> simp_all [dumps]
    | _ => simp [kind] at hk
  | .num m, b, s, t, hs, ht, h => by
    have hk := kind_eq h
    cases b with
    | num n =>
      rw [dumps, dumps] at h
      obtain ⟨rfl, hst⟩ := number_append_inj hs ht h
      exact ⟨rfl, hst⟩
    | _ => simp [kind] at hk
  | .str k, b, s, t, _, _, h => by
    have hk := kind_eq h
    cases b with
    | str l =>
      rw [dumps, dumps] at h
      obtain ⟨rfl, hst⟩ := dumpsStr_append_inj h
      exact ⟨rfl, hst⟩
    | _ => simp [kind] at hk
  | .arr [], b, s, t, _, _, h => by
    have hk := kind_eq h
    cases b with
    | arr ws =>
      cases ws with
      | nil => exact ⟨rfl, List.append_cancel_left h⟩
      | cons w ws =>
        simp only [dumps, List.cons_append, List.append_assoc, List.cons.injEq,
          true_and, List.nil_append] at h
        exact absurd h.symm (dumps_append_ne w _ s)
    | _ => simp [kind] at hk
  | .arr (v :: vs), b, s, t, _, _, h => by
    have hk := kind_eq h
    cases b with
    | arr ws =>
      cases ws with
      | nil =>
        simp only [dumps, List.cons_append, List.append_assoc, List.cons.injEq,
          true_and, List.nil_append] at h
        exact absurd h (dumps_append_ne v _ t)
      | cons w ws =>
        simp only [dumps, List.cons_append, List.append_assoc, List.cons.injEq,
          true_and] at h
        obtain ⟨rfl, h'⟩ := dumps_append_inj v w (endsNumber_dumpsItems _ _)
          (endsNumber_dumpsItems _ _) h
        obtain ⟨rfl, hst⟩ := dumpsItems_append_inj vs ws h'
        exact ⟨rfl, hst⟩
    | _ => simp [kind] at hk
  | .obj [], b, s, t, _, _, h => by
    have hk := kind_eq h
    cases b with
    | obj gs =>
      cases gs with
      | nil => exact ⟨rfl, List.append_cancel_left h⟩
      | cons g gs =>
        obtain ⟨k, v⟩ := g
        simp [dumps, dumpsField, dumpsStr] at h
    | _ => simp [kind] at hk
  | .obj (f :: fs), b, s, t, _, _, h => by
    have hk := kind_eq h
    cases b with
    | obj gs =>
      cases gs with
      | nil =>
        obtain ⟨k, v⟩ := f
        simp [dumps, dumpsField, dumpsStr] at h
      | cons g gs =>
        simp only [dumps, List.cons_append, List.append_assoc, List.cons.injEq,
          true_and] at h
        obtain ⟨rfl, h'⟩ := dumpsField_append_inj f g (endsNumber_dumpsFields _ _)
          (endsNumber_dumpsFields _ _) h
        obtain ⟨rfl, hst⟩ := dumpsFields_append_inj fs gs h'
        exact ⟨rfl, hst⟩
    | _ => simp [kind] at hk

theorem dumpsItems_append_inj : ∀ (vs ws : List Json) {s t : Text},
    dumpsItems vs ++ s = dumpsItems ws ++ t → vs = ws ∧ s = t
  | [], [], s, t, h => ⟨rfl, List.append_cancel_left h⟩
  | [], w :: ws, s, t, h => by simp [dumpsItems] at h
  | v :: vs, [], s, t, h => by simp [dumpsItems] at h
  | v :: vs, w :: ws, s, t, h => by
    simp only [dumpsItems, List.cons_append, List.append_assoc, List.cons.injEq,
      true_and] at h
    obtain ⟨rfl, h'⟩ := dumps_append_inj v w (endsNumber_dumpsItems _ _)
      (endsNumber_dumpsItems _ _) h
    obtain ⟨rfl, hst⟩ := dumpsItems_append_inj vs ws h'
    exact ⟨rfl, hst⟩

theorem dumpsFields_append_inj : ∀ (fs gs : List (Text × Json)) {s t : Text},
    dumpsFields fs ++ s = dumpsFields gs ++ t → fs = gs ∧ s = t
  | [], [], s, t, h => ⟨rfl, List.append_cancel_left h⟩
  | [], g :: gs, s, t, h => by simp [dumpsFields] at h
  | f :: fs, [], s, t, h => by simp [dumpsFields] at h
  | f :: fs, g :: gs, s, t, h => by
    simp only [dumpsFields, List.cons_append, List.append_assoc, List.cons.injEq,
      true_and] at h
    obtain ⟨rfl, h'⟩ := dumpsField_append_inj f g (endsNumber_dumpsFields _ _)
      (endsNumber_dumpsFields _ _) h
    obtain ⟨rfl, hst⟩ := dumpsFields_append_inj fs gs h'
    exact ⟨rfl, hst⟩

theorem dumpsField_append_inj : ∀ (f g : Text × Json) {s t : Text},
    EndsNumber s → EndsNumber t → dumpsField f ++ s = dumpsField g ++ t →
      f = g ∧ s = t
  | (k, v), (l, w), s, t, hs, ht, h => by
    simp only [dumpsField, List.append_assoc, List.cons_append] at h
    obtain ⟨rfl, h'⟩ := dumpsStr_append_inj h
    obtain ⟨rfl, hst⟩ := dumps_append_inj v w hs ht (List.cons.inj h').2
    exact ⟨rfl, hst⟩

end

/-- **Two values with one printed text are one value.** -/
theorem dumps_injective {a b : Json} (h : dumps a = dumps b) : a = b :=
  (dumps_append_inj a b endsNumber_nil endsNumber_nil
    (congrArg (· ++ []) h)).1

/-! ## `dumps` stays on one line -/

theorem digitChar_ne_newline {n : Nat} (hn : n < 16) : Nat.digitChar n ≠ '\n' := by
  have hall : ∀ i : Fin 16, Nat.digitChar i ≠ '\n' := by decide
  exact hall ⟨n, hn⟩

theorem newline_notMem_unicodeEscape {n : Nat} (hn : n < 0x10000) :
    '\n' ∉ unicodeEscape n := by
  have h₃ := digitChar_ne_newline (n := n / 4096) (by omega)
  have h₂ := digitChar_ne_newline (n := n / 256 % 16) (by omega)
  have h₁ := digitChar_ne_newline (n := n / 16 % 16) (by omega)
  have h₀ := digitChar_ne_newline (n := n % 16) (by omega)
  simp [unicodeEscape, hex4, h₃.symm, h₂.symm, h₁.symm, h₀.symm]

theorem newline_notMem_escapeChar (c : Char) : '\n' ∉ escapeChar c := by
  cases escapeForm c with
  | short e hs eq =>
    rw [eq]
    have he : e ≠ '\n' := by
      rintro rfl
      unfold shortEscape at hs
      split at hs <;> simp_all
    simp [he.symm]
  | plain hb _ eq =>
    rw [eq]
    have hc : c ≠ '\n' := by
      rintro rfl
      exact absurd eq (by decide)
    simp [hc.symm]
  | bmp lt eq =>
    rw [eq]
    exact newline_notMem_unicodeEscape lt
  | astral le lt eq =>
    rw [eq, List.mem_append, not_or]
    exact ⟨newline_notMem_unicodeEscape (by omega),
      newline_notMem_unicodeEscape (by omega)⟩

theorem newline_notMem_dumpsStr (s : Text) : '\n' ∉ dumpsStr s := by
  simp [dumpsStr, newline_notMem_escapeChar]

theorem newline_notMem_number (n : Number) : '\n' ∉ n.text := by
  intro h
  rcases List.mem_cons.mp h with hf | hr
  · exact absurd n.isStart (by rw [← hf]; decide)
  · exact absurd (n.isNumber _ hr) (by decide)

mutual

/-- **A printed value has no line break.** -/
theorem newline_notMem_dumps : ∀ a : Json, '\n' ∉ dumps a
  | .null => by decide
  | .bool true => by decide
  | .bool false => by decide
  | .num n => by
    rw [dumps]
    exact newline_notMem_number n
  | .str s => by
    rw [dumps]
    exact newline_notMem_dumpsStr s
  | .arr [] => by decide
  | .arr (v :: vs) => by
    have hv := newline_notMem_dumps v
    have hvs := newline_notMem_dumpsItems vs
    simp [dumps, hv, hvs]
  | .obj [] => by decide
  | .obj (f :: fs) => by
    have hf := newline_notMem_dumpsField f
    have hfs := newline_notMem_dumpsFields fs
    simp [dumps, hf, hfs]

theorem newline_notMem_dumpsItems : ∀ vs : List Json, '\n' ∉ dumpsItems vs
  | [] => by decide
  | v :: vs => by
    have hv := newline_notMem_dumps v
    have hvs := newline_notMem_dumpsItems vs
    simp [dumpsItems, hv, hvs]

theorem newline_notMem_dumpsFields :
    ∀ fs : List (Text × Json), '\n' ∉ dumpsFields fs
  | [] => by decide
  | f :: fs => by
    have hf := newline_notMem_dumpsField f
    have hfs := newline_notMem_dumpsFields fs
    simp [dumpsFields, hf, hfs]

theorem newline_notMem_dumpsField : ∀ f : Text × Json, '\n' ∉ dumpsField f
  | (k, v) => by
    have hv := newline_notMem_dumps v
    simp [dumpsField, newline_notMem_dumpsStr, hv]

end

end Json

end Concord.Python
