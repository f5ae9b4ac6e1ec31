import Concord.Python.Json

/-!
# Python string operations

The `str` methods and the regular-expression classes the modelled code uses, on
`Text`. Character classes are the Unicode ones of Python 3.12: `strip()` removes
what `str.isspace` accepts, and `\d` in a `str` pattern matches every decimal
digit, not only the ASCII ones.
-/

namespace Concord.Python

/-- `in`, of a list of strings. -/
instance (s : Text) (ss : List Text) : Decidable (s ∈ ss) := inferInstance

/-- `str.isspace` of one character. -/
def isSpace (c : Char) : Bool :=
  let n := c.toNat
  (0x09 ≤ n ∧ n ≤ 0x0d) ∨ (0x1c ≤ n ∧ n ≤ 0x20) ∨ n = 0x85 ∨ n = 0xa0 ∨ n = 0x1680 ∨
    (0x2000 ≤ n ∧ n ≤ 0x200a) ∨ n = 0x2028 ∨ n = 0x2029 ∨ n = 0x202f ∨ n = 0x205f ∨
    n = 0x3000

/-- `str.lstrip()`. -/
def lstrip (s : Text) : Text := s.dropWhile isSpace

/-- `str.strip()`. -/
def strip (s : Text) : Text := (lstrip (lstrip s).reverse).reverse

/-- The zeros of the decimal digits (general category `Nd`): each starts a run of
ten. -/
def decimalZeros : List Nat :=
  [0x30, 0x660, 0x6f0, 0x7c0, 0x966, 0x9e6, 0xa66, 0xae6, 0xb66, 0xbe6, 0xc66,
   0xce6, 0xd66, 0xde6, 0xe50, 0xed0, 0xf20, 0x1040, 0x1090, 0x17e0, 0x1810,
   0x1946, 0x19d0, 0x1a80, 0x1a90, 0x1b50, 0x1bb0, 0x1c40, 0x1c50, 0xa620,
   0xa8d0, 0xa900, 0xa9d0, 0xa9f0, 0xaa50, 0xabf0, 0xff10, 0x104a0, 0x10d30,
   0x11066, 0x110f0, 0x11136, 0x111d0, 0x112f0, 0x11450, 0x114d0, 0x11650,
   0x116c0, 0x11730, 0x118e0, 0x11950, 0x11c50, 0x11d50, 0x11da0, 0x11f50,
   0x16a60, 0x16ac0, 0x16b50, 0x1d7ce, 0x1d7d8, 0x1d7e2, 0x1d7ec, 0x1d7f6,
   0x1e140, 0x1e2f0, 0x1e4d0, 0x1e950, 0x1fbf0]

/-- `\d`. -/
def isDecimal (c : Char) : Bool :=
  decimalZeros.any fun z => z ≤ c.toNat ∧ c.toNat < z + 10

/-- The digits of `str.isdigit` that are no decimal digits: superscripts, circled digits and
the like. -/
def otherDigits : List (Nat × Nat) :=
  [(0xb2, 0xb3), (0xb9, 0xb9), (0x1369, 0x1371), (0x19da, 0x19da), (0x2070, 0x2070),
   (0x2074, 0x2079), (0x2080, 0x2089), (0x2460, 0x2468), (0x2474, 0x247c), (0x2488, 0x2490),
   (0x24ea, 0x24ea), (0x24f5, 0x24fd), (0x24ff, 0x24ff), (0x2776, 0x277e), (0x2780, 0x2788),
   (0x278a, 0x2792), (0x10a40, 0x10a43), (0x10e60, 0x10e68), (0x11052, 0x1105a),
   (0x1f100, 0x1f10a)]

/-- `str.isdigit`, of one character. -/
def isDigit (c : Char) : Bool :=
  isDecimal c || otherDigits.any fun r => r.1 ≤ c.toNat ∧ c.toNat ≤ r.2

def decimalValue (c : Char) : Nat :=
  match decimalZeros.find? fun z => z ≤ c.toNat ∧ c.toNat < z + 10 with
  | some z => c.toNat - z
  | none => 0

/-- `[A-Za-z]`. -/
def isAsciiLetter (c : Char) : Bool :=
  ('A' ≤ c ∧ c ≤ 'Z') ∨ ('a' ≤ c ∧ c ≤ 'z')

/-- The text before the place where `$` matches: without one final line break. -/
def beforeEnd (s : Text) : Text := if s.getLast? = some '\n' then s.dropLast else s

/-- `a or b`, for an optional string. -/
def orElse (a b : Option Text) : Option Text :=
  match a with
  | some (c :: cs) => some (c :: cs)
  | _ => b

/-- `str(n)` of a natural number. -/
def natText (n : Nat) : Text := Nat.toDigits 10 n

/-! ## `int` -/

/-- `int(x)` of a finite float. -/
def truncate (x : Rat) : Int := x.num.tdiv x.den

/-- What `int` skips at both ends: of the ASCII blanks of `str.isspace` it takes fewer. -/
def isIntSpace (c : Char) : Bool :=
  let n := c.toNat
  (0x09 ≤ n ∧ n ≤ 0x0d) ∨ n = 0x20 ∨ (0x7f ≤ n ∧ isSpace c)

/-- The digits of a literal, each but the last with an underscore after it or not. -/
def intDigits : Text → Option (List Nat)
  | [] => none
  | [c] => if isDecimal c then some [decimalValue c] else none
  | c :: d :: s =>
    if isDecimal c then
      (if d = '_' then intDigits s else intDigits (d :: s)).map (decimalValue c :: ·)
    else none

/-- `int(s)`; `none` is a `ValueError`. -/
def pyInt (s : Text) : Option Int :=
  let stripped := ((s.dropWhile isIntSpace).reverse.dropWhile isIntSpace).reverse
  let natural := fun digits => (intDigits digits).bind fun ds =>
    -- `sys.get_int_max_str_digits()`
    if ds.length ≤ 4300 then some (Int.ofNat (ds.foldl (fun n d => 10 * n + d) 0)) else none
  match stripped with
  | '-' :: digits => (natural digits).map (- ·)
  | '+' :: digits => natural digits
  | digits => natural digits

example : pyInt " -1_000\n".toList = some (-1000) ∧ pyInt "1__0".toList = none ∧
    pyInt "".toList = none := by
  decide +kernel

/-! ## Texts with a separator -/

theorem append_separator_inj {x : Char} {a b p q : Text} (ha : x ∉ a) (hb : x ∉ b)
    (h : a ++ x :: p = b ++ x :: q) : a = b ∧ p = q := by
  induction a generalizing b with
  | nil =>
    cases b with
    | nil => exact ⟨rfl, (List.cons.inj h).2⟩
    | cons d b => exact absurd ((List.cons.inj h).1 ▸ List.mem_cons_self) hb
  | cons c a ih =>
    cases b with
    | nil => exact absurd ((List.cons.inj h).1 ▸ List.mem_cons_self) ha
    | cons d b =>
      obtain ⟨hcd, hrest⟩ := List.cons.inj h
      obtain ⟨hab, hpq⟩ := ih (fun hm => ha (List.mem_cons_of_mem c hm))
        (fun hm => hb (List.mem_cons_of_mem d hm)) hrest
      exact ⟨by rw [hcd, hab], hpq⟩

theorem take_append_separator_inj {x : Char} {a b p q : Text} {n : Nat} (ha : x ∉ a) (hb : x ∉ b)
    (hna : a.length < n) (hnb : b.length < n)
    (h : (a ++ x :: p).take n = (b ++ x :: q).take n) :
    a = b ∧ p.take (n - a.length - 1) = q.take (n - a.length - 1) := by
  have hcut : ∀ {c r : Text}, c.length < n →
      (c ++ x :: r).take n = c ++ x :: r.take (n - c.length - 1) := by
    intro c r hc
    obtain ⟨k, hk⟩ : ∃ k, n - c.length = k + 1 := ⟨n - c.length - 1, by omega⟩
    rw [List.take_append, List.take_of_length_le (Nat.le_of_lt hc), hk, List.take_succ_cons,
      Nat.add_sub_cancel]
  rw [hcut hna, hcut hnb] at h
  obtain ⟨rfl, hrest⟩ := append_separator_inj ha hb h
  exact ⟨rfl, hrest⟩

end Concord.Python
