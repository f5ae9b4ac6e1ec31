import Mathlib.Algebra.GroupWithZero.Nat
import Concord.Python.Text
import Concord.Python.KeyOrder

/-!
# Python dates

`datetime.date`, `isoformat` and `fromisoformat` as of Python 3.11: calendar dates and week
dates, with and without the dashes. `fromisoformat_isoformat` is the round trip.

The texts of dates sort as the dates follow one another: padded numbers of one width compare
as the numbers do (`keyLt_padded`), and a date is three of them, the most significant first.
-/

namespace Concord.Python

/-- `calendar.isleap`. -/
def isLeap (year : Nat) : Bool := year % 4 = 0 ∧ (year % 100 ≠ 0 ∨ year % 400 = 0)

/-- `_days_in_month`. -/
def daysInMonth (year : Nat) : Nat → Nat
  | 2 => if isLeap year then 29 else 28
  | 4 => 30
  | 6 => 30
  | 9 => 30
  | 11 => 30
  | _ => 31

/-- A `date`. -/
structure Date where
  year : Nat
  month : Nat
  day : Nat
  year_pos : 1 ≤ year
  year_le : year ≤ 9999
  month_pos : 1 ≤ month
  month_le : month ≤ 12
  day_pos : 1 ≤ day
  day_le : day ≤ daysInMonth year month
  deriving DecidableEq

/-- `date(year, month, day)`; an error is the text of its `ValueError`. -/
def Date.mk? (year month day : Nat) : Except Text Date :=
  if hy : 1 ≤ year ∧ year ≤ 9999 then
    if hm : 1 ≤ month ∧ month ≤ 12 then
      if hd : 1 ≤ day ∧ day ≤ daysInMonth year month then
        .ok ⟨year, month, day, hy.1, hy.2, hm.1, hm.2, hd.1, hd.2⟩
      else .error "day is out of range for month".toList
    else .error "month must be in 1..12".toList
  else .error ("year ".toList ++ natText year ++ " is out of range".toList)

theorem daysInMonth_le (year month : Nat) : daysInMonth year month ≤ 31 := by
  unfold daysInMonth
  repeat' split
  all_goals omega

theorem Date.day_le_31 (d : Date) : d.day ≤ 31 := Nat.le_trans d.day_le (daysInMonth_le _ _)

/-- `'%0*d' % (width, n)`. -/
def padded : Nat → Nat → Text
  | 0, _ => []
  | width + 1, n => padded width (n / 10) ++ [Nat.digitChar (n % 10)]

/-- `d.isoformat()`. -/
def Date.isoformat (d : Date) : Text :=
  padded 4 d.year ++ '-' :: (padded 2 d.month ++ '-' :: padded 2 d.day)

/-! ## Week dates -/

def daysBefore (year month : Nat) : Nat :=
  365 * (year - 1) + (year - 1) / 4 - (year - 1) / 100 + (year - 1) / 400 +
    ((List.range (month - 1)).map fun m => daysInMonth year (m + 1)).sum

/-- `ymd_to_ord`. -/
def ymdToOrd (year month day : Nat) : Nat := daysBefore year month + day

/-- `ord_to_ymd`. -/
def ordToYmd (ordinal : Nat) : Nat × Nat × Nat :=
  let n := ordinal - 1
  let n400 := n / 146097
  let n := n % 146097
  let n100 := n / 36524
  let n := n % 36524
  let n4 := n / 1461
  let n := n % 1461
  let n1 := n / 365
  let n := n % 365
  let year := n400 * 400 + n100 * 100 + n4 * 4 + n1 + 1
  if n1 = 4 ∨ n100 = 4 then (year - 1, 12, 31)
  else
    let month := (n + 50) / 32
    let before (m : Nat) : Nat := ((List.range (m - 1)).map fun i => daysInMonth year (i + 1)).sum
    -- the estimate of the month is one too large at times
    let month := if n < before month then month - 1 else month
    (year, month, n - before month + 1)

/-- `weekday`, of the first of January. -/
def firstWeekday (year : Nat) : Nat := (ymdToOrd year 1 1 + 6) % 7

/-- `iso_week1_monday`. -/
def isoWeek1Monday (year : Nat) : Nat :=
  let monday := ymdToOrd year 1 1 - firstWeekday year
  if firstWeekday year > 3 then monday + 7 else monday

/-- `iso_to_ymd`. -/
def isoToYmd (year week day : Nat) : Option (Nat × Nat × Nat) :=
  let long := firstWeekday year = 3 ∨ (firstWeekday year = 2 ∧ isLeap year = true)
  if (1 ≤ year ∧ year ≤ 9999) ∧ (1 ≤ week ∧ (week ≤ 52 ∨ (week = 53 ∧ long))) ∧
      (1 ≤ day ∧ day ≤ 7) then
    some (ordToYmd (isoWeek1Monday year + (week - 1) * 7 + (day - 1)))
  else none

example : isoToYmd 2026 53 5 = some (2027, 1, 1) := by decide +kernel

/-! ## `fromisoformat` -/

def digitValue (c : Char) : Option Nat :=
  if '0' ≤ c ∧ c ≤ '9' then some (c.toNat - 48) else none

/-- `parse_digits`: a number of so many digits, and what follows it. -/
def parseDigits : Nat → Nat → Text → Option (Nat × Text)
  | 0, n, s => some (n, s)
  | _ + 1, _, [] => none
  | count + 1, n, c :: s => do
    let d ← digitValue c
    parseDigits count (10 * n + d) s

/-- The dash before a part, where dashes are used. -/
def parseDash (dashes : Bool) (s : Text) : Option Text :=
  if dashes then
    match s with
    | '-' :: s => some s
    | _ => none
  else some s

/-- What follows the year. What follows the day is not looked at. -/
def parseRest (year : Nat) (dashes : Bool) : Text → Option (Nat × Nat × Nat)
  | 'W' :: s => do
    let (week, s) ← parseDigits 2 0 s
    match s with
    | [] => isoToYmd year week 1
    | _ :: _ =>
      let s ← parseDash dashes s
      let (day, _) ← parseDigits 1 0 s
      isoToYmd year week day
  | s => do
    let (month, s) ← parseDigits 2 0 s
    let s ← parseDash dashes s
    let (day, _) ← parseDigits 2 0 s
    return (year, month, day)

/-- `parse_isoformat_date`, of a text of one of the lengths that it takes. -/
def parseIsoformatDate (s : Text) : Option (Nat × Nat × Nat) := do
  let (year, s) ← parseDigits 4 0 s
  match s with
  | '-' :: s => parseRest year true s
  | s => parseRest year false s

/-- `date.fromisoformat`; an error is the text of its `ValueError`. -/
def Date.fromisoformat (repr : Text → Text) (s : Text) : Except Text Date :=
  match if s.length ∈ [7, 8, 10] then parseIsoformatDate s else none with
  | none => .error ("Invalid isoformat string: ".toList ++ repr s)
  | some (year, month, day) => Date.mk? year month day

theorem digitValue_digitChar : ∀ n : Fin 10, digitValue (Nat.digitChar n) = some n.val := by
  decide

theorem parseDigits_add (a b n : Nat) (s : Text) :
    parseDigits (a + b) n s = (parseDigits a n s).bind fun p => parseDigits b p.1 p.2 := by
  induction a generalizing n s with
  | zero => rw [Nat.zero_add, parseDigits, Option.bind_some]
  | succ a ih =>
    rw [Nat.add_right_comm]
    cases s with
    | nil => rfl
    | cons c s =>
      simp only [parseDigits, Option.bind_eq_bind, Option.bind_assoc]
      congr 1
      exact funext fun d => ih _ _

theorem parseDigits_padded (count n m : Nat) (s : Text) (hm : m < 10 ^ count) :
    parseDigits count n (padded count m ++ s) = some (n * 10 ^ count + m, s) := by
  induction count generalizing m s with
  | zero =>
    obtain rfl : m = 0 := by simpa using hm
    simp [parseDigits, padded]
  | succ count ih =>
    have hdiv : m / 10 < 10 ^ count := Nat.div_lt_of_lt_mul (by rwa [Nat.pow_succ'] at hm)
    have hdigit := digitValue_digitChar ⟨m % 10, by omega⟩
    rw [parseDigits_add, padded, List.append_assoc, ih _ _ hdiv, Option.bind_some,
      List.singleton_append]
    simp only [parseDigits, hdigit, Option.bind_eq_bind, Option.bind_some]
    rw [Nat.pow_succ', Nat.mul_left_comm]
    exact congrArg (fun v => some (v, s)) (by omega)

theorem padded_two (n : Nat) (s : Text) :
    padded 2 n ++ s = Nat.digitChar (n / 10 % 10) :: Nat.digitChar (n % 10) :: s := rfl

theorem digitChar_ne_w : ∀ n : Fin 10, Nat.digitChar n ≠ 'W' := by decide

theorem parseRest_padded (d : Date) :
    parseRest d.year true (padded 2 d.month ++ '-' :: padded 2 d.day) =
      some (d.year, d.month, d.day) := by
  have hmonth : d.month < 10 ^ 2 := Nat.lt_of_le_of_lt d.month_le (by decide)
  have hday : d.day < 10 ^ 2 := Nat.lt_of_le_of_lt d.day_le_31 (by decide)
  have hread := parseDigits_padded 2 0 d.month ('-' :: padded 2 d.day) hmonth
  have hlast := parseDigits_padded 2 0 d.day [] hday
  rw [List.append_nil] at hlast
  unfold parseRest
  split
  · rename_i heq
    rw [padded_two] at heq
    exact absurd (List.cons.inj heq).1 (digitChar_ne_w ⟨d.month / 10 % 10, by omega⟩)
  · rw [hread]
    simp only [Option.bind_eq_bind, Option.bind_some, Option.pure_def, parseDash, if_pos,
      hlast, Nat.zero_mul, Nat.zero_add]

theorem isoformat_length (d : Date) : d.isoformat.length = 10 := rfl

/-- **`fromisoformat` undoes `isoformat`.** -/
theorem fromisoformat_isoformat (repr : Text → Text) (d : Date) :
    Date.fromisoformat repr d.isoformat = .ok d := by
  have hyear : d.year < 10 ^ 4 := Nat.lt_of_le_of_lt d.year_le (by decide)
  have hparse : parseIsoformatDate d.isoformat = some (d.year, d.month, d.day) := by
    unfold parseIsoformatDate Date.isoformat
    rw [parseDigits_padded 4 0 d.year _ hyear]
    simp only [Option.bind_eq_bind, Option.bind_some, Nat.zero_mul, Nat.zero_add]
    exact parseRest_padded d
  have hlength : d.isoformat.length ∈ [7, 8, 10] := by simp [isoformat_length]
  simp only [Date.fromisoformat, if_pos hlength, hparse, Date.mk?, d.year_pos, d.year_le,
    d.month_pos, d.month_le, d.day_pos, d.day_le, and_self, dite_true]

/-! ## The order of dates -/

/-- `a < b`, of dates. -/
def Date.lt (a b : Date) : Bool :=
  a.year < b.year ∨ a.year = b.year ∧ (a.month < b.month ∨ a.month = b.month ∧ a.day < b.day)

theorem Date.lt_self (a : Date) : a.lt a = false := by
  refine decide_eq_false fun h => ?_
  omega

namespace Json

theorem keyLt_digit {m n : Nat} (hm : m < 10) (hn : n < 10) (s t : Text) :
    keyLt (Nat.digitChar m :: s) (Nat.digitChar n :: t) =
      if m = n then keyLt s t else decide (m < n) := by
  have hvalue : ∀ k : Fin 10, (Nat.digitChar k.val).toNat = 48 + k.val := by decide
  have hmv := hvalue ⟨m, hm⟩
  have hnv := hvalue ⟨n, hn⟩
  dsimp only at hmv hnv
  rw [keyLt]
  by_cases h : m = n
  · rw [if_pos h, if_pos (congrArg Nat.digitChar h)]
  · have hne : Nat.digitChar m ≠ Nat.digitChar n := fun heq => h (by
      have := congrArg Char.toNat heq
      omega)
    rw [if_neg h, if_neg hne, hmv, hnv, decide_eq_decide]
    omega

/-- **Padded numbers** of one width. -/
theorem keyLt_padded {width m n : Nat} (hm : m < 10 ^ width) (hn : n < 10 ^ width) (s t : Text) :
    keyLt (padded width m ++ s) (padded width n ++ t) =
      if m = n then keyLt s t else decide (m < n) := by
  induction width generalizing m n s t with
  | zero =>
    have hm : m = 0 := by omega
    have hn : n = 0 := by omega
    rw [hm, hn, if_pos rfl]
    rfl
  | succ width ih =>
    have hmd : m / 10 < 10 ^ width := Nat.div_lt_of_lt_mul (by rwa [Nat.pow_succ, Nat.mul_comm] at hm)
    have hnd : n / 10 < 10 ^ width := Nat.div_lt_of_lt_mul (by rwa [Nat.pow_succ, Nat.mul_comm] at hn)
    rw [padded, padded, List.append_assoc, List.append_assoc, List.singleton_append,
      List.singleton_append, ih hmd hnd, keyLt_digit (by omega) (by omega)]
    by_cases h : m / 10 = n / 10
    · rw [if_pos h]
      by_cases hmod : m % 10 = n % 10
      · rw [if_pos hmod, if_pos (by omega)]
      · rw [if_neg hmod, if_neg (by omega), decide_eq_decide]
        omega
    · rw [if_neg h, if_neg fun heq => h (congrArg (· / 10) heq), decide_eq_decide]
      omega

end Json

/-- **The texts of dates**, with anything after them. -/
theorem keyLt_isoformat (a b : Date) (s t : Text) :
    Json.keyLt (a.isoformat ++ s) (b.isoformat ++ t) =
      if a = b then Json.keyLt s t else a.lt b := by
  have hyear : ∀ d : Date, d.year < 10 ^ 4 := fun d => Nat.lt_succ_of_le d.year_le
  have hmonth : ∀ d : Date, d.month < 10 ^ 2 := fun d =>
    Nat.lt_of_le_of_lt d.month_le (by decide)
  have hday : ∀ d : Date, d.day < 10 ^ 2 := fun d => Nat.lt_of_le_of_lt d.day_le_31 (by decide)
  have heq : a = b ↔ a.year = b.year ∧ a.month = b.month ∧ a.day = b.day := by
    constructor
    · rintro rfl
      exact ⟨rfl, rfl, rfl⟩
    · obtain ⟨y, m, d⟩ := a
      obtain ⟨y', m', d'⟩ := b
      rintro ⟨rfl, rfl, rfl⟩
      rfl
  unfold Date.isoformat
  rw [List.append_assoc, List.append_assoc, Json.keyLt_padded (hyear a) (hyear b),
    List.cons_append, List.cons_append, Json.keyLt_cons, List.append_assoc, List.append_assoc,
    Json.keyLt_padded (hmonth a) (hmonth b), List.cons_append, List.cons_append, Json.keyLt_cons,
    Json.keyLt_padded (hday a) (hday b)]
  unfold Date.lt
  by_cases hy : a.year = b.year
  · by_cases hm : a.month = b.month
    · by_cases hd : a.day = b.day
      · rw [if_pos hy, if_pos hm, if_pos hd, if_pos (heq.mpr ⟨hy, hm, hd⟩)]
      · rw [if_pos hy, if_pos hm, if_neg hd, if_neg fun h => hd (heq.mp h).2.2, decide_eq_decide]
        omega
    · rw [if_pos hy, if_neg hm, if_neg fun h => hm (heq.mp h).2.1, decide_eq_decide]
      omega
  · rw [if_neg hy, if_neg fun h => hy (heq.mp h).1, decide_eq_decide]
    omega

end Concord.Python
