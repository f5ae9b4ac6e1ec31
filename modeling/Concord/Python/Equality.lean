import Concord.Python.Floats
import Concord.Python.JsonDict

/-!
# Equality and truth of JSON values

`==`, `bool` and `hash` of what `json.loads` returns. Numbers are compared by their values, an
integer with a double exactly, and `True` is `1`. Lists and dicts cannot be hashed.
-/

namespace Concord.Python

namespace Number

/-- An `int`. -/
def isInt (n : Number) : Bool := n.text.all fun c => c.isDigit || c = '-'

def unsigned (n : Number) : Text := if n.first = '-' then n.rest else n.text

def intValue (n : Number) : Int :=
  let value := Nat.ofDigitChars 10 n.unsigned 0
  if n.first = '-' then -value else value

/-- The double that a printed `float` is; `NaN` and the infinities are none. -/
def double (n : Number) : Option Rat :=
  if n.unsigned.any fun c => c ∈ ['N', 'I'] then none
  else
    let mantissa := n.unsigned.takeWhile (· ≠ 'e')
    let exponent := (n.unsigned.dropWhile (· ≠ 'e')).drop 1
    let fraction := (mantissa.dropWhile (· ≠ '.')).drop 1
    let digits := Nat.ofDigitChars 10 (mantissa.takeWhile (· ≠ '.') ++ fraction) 0
    let power : Int := Nat.ofDigitChars 10 (exponent.filter Char.isDigit) 0
    let scale := (if exponent.head? = some '-' then -power else power) - fraction.length
    let value := trueDivide (digits * 10 ^ scale.toNat) (10 ^ (-scale).toNat)
    some (if n.first = '-' then -value else value)

/-- `a == b`. -/
def eq (a b : Number) : Bool :=
  if a.isInt then
    if b.isInt then a.intValue = b.intValue else b.double = some (a.intValue : Rat)
  else if b.isInt then a.double = some (b.intValue : Rat)
  else (a = b && a.text ≠ "NaN".toList) || (a.double = some 0 && b.double = some 0)

def isZero (n : Number) : Bool := if n.isInt then n.intValue = 0 else n.double = some 0

end Number

/-- `int(b)`. -/
def boolNumber (b : Bool) : Number := Number.ofNat b.toNat

namespace Json

mutual

/-- `a == b`. -/
def eq : Json → Json → Bool
  | .null, .null => true
  | .bool a, .bool b => a = b
  | .bool a, .num n => (boolNumber a).eq n
  | .num n, .bool b => n.eq (boolNumber b)
  | .num m, .num n => m.eq n
  | .str s, .str t => s = t
  | .arr items, .arr items' => eqItems items items'
  | .obj fields, .obj fields' => fields.length = fields'.length && eqFields fields fields'
  | _, _ => false

def eqItems : List Json → List Json → Bool
  | [], [] => true
  | a :: items, b :: items' => eq a b && eqItems items items'
  | _, _ => false

def eqFields : List (Text × Json) → List (Text × Json) → Bool
  | [], _ => true
  | (key, value) :: fields, fields' =>
    (fields'.lookup key).any (fun value' => eq value value') && eqFields fields fields'

end

/-- `bool(value)`. -/
def truthy : Json → Bool
  | .null => false
  | .bool b => b
  | .num n => !n.isZero
  | .str s => s ≠ []
  | .arr items => !items.isEmpty
  | .obj fields => !fields.isEmpty

/-- It has a `hash`. -/
def hashable : Json → Bool
  | .arr _ | .obj _ => false
  | _ => true

end Json

end Concord.Python
