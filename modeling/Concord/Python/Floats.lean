import Mathlib.Algebra.Order.Field.Power
import Mathlib.Algebra.Order.Field.Rat
import Mathlib.Algebra.Order.Floor.Ring
import Mathlib.Data.Rat.Floor
import Concord.Python.Text

/-!
# `float`

`sum / len` of integers, and `round(x, 1)`: the quotient is the double nearest to the exact one,
and it is rounded to tenths from its exact value, a tie to the even tenth. Both roundings keep the
order (`roundHalfEven_mono`, `trueDivide_mono`).

`toDouble` rounds the exact result of an operation on doubles. It keeps the order as well, and
`Within` follows how far a result that took several operations is from the exact one.

A `Double` has its exact value. There are two conversions to it: of a text (`pyFloat`), where what
is too large is an infinity, and of an integer (`Double.ofInt`), where it is an error.
-/

namespace Concord.Python

def roundHalfEven (q : Rat) : Int :=
  let rest := q - q.floor
  if rest < 1 / 2 then q.floor
  else if 1 / 2 < rest then q.floor + 1
  else if q.floor % 2 = 0 then q.floor
  else q.floor + 1

/-- `m / n`, as a double; `n` is not zero. -/
def trueDivide (m n : Nat) : Rat :=
  if m = 0 then 0
  else
    let q : Rat := m / n
    -- the exponent of `q`, or one more
    let e : Int := m.log2 - n.log2
    let exponent := if (2 : Rat) ^ e ≤ q then e else e - 1
    let ulp := (2 : Rat) ^ (exponent - 52)
    roundHalfEven (q / ulp) * ulp

/-- The double nearest to a number, which is not negative. -/
def toDouble (q : Rat) : Rat := trueDivide q.num.toNat q.den

/-- `round(sum(v) / len(v), 1)`, in tenths. -/
def meanTenths (v : List Nat) : Int := roundHalfEven (10 * trueDivide v.sum v.length)

/-- `round(100 * part / whole, 1)`, in tenths. -/
def percentTenths (part whole : Nat) : Int := roundHalfEven (10 * trueDivide (100 * part) whole)

example : [[1, 2], [1, 0, 0, 0], [3, 17]].map meanTenths = [15, 2, 100] := by decide +kernel

-- the doubles of 0.05 and of 0.15 are no ties
example : (meanTenths (1 :: List.replicate 19 0), meanTenths (3 :: List.replicate 19 0)) =
    (1, 1) := by
  decide +kernel

/-! ## Order -/

theorem floor_le_roundHalfEven (q : Rat) : q.floor ≤ roundHalfEven q := by
  unfold roundHalfEven
  dsimp only
  split_ifs <;> omega

theorem roundHalfEven_le_floor (q : Rat) : roundHalfEven q ≤ q.floor + 1 := by
  unfold roundHalfEven
  dsimp only
  split_ifs <;> omega

theorem roundHalfEven_intCast (n : Int) : roundHalfEven n = n := by
  unfold roundHalfEven
  dsimp only
  rw [Rat.floor_intCast, sub_self, if_pos (by norm_num)]

theorem roundHalfEven_mono {p q : Rat} (h : p ≤ q) : roundHalfEven p ≤ roundHalfEven q := by
  rcases lt_or_eq_of_le (Rat.floor_monotone h) with hlt | heq
  · have hp := roundHalfEven_le_floor p
    have hq := floor_le_roundHalfEven q
    omega
  · -- both lie between the same two integers
    have hrest : p - p.floor ≤ q - q.floor := by
      rw [heq]
      exact sub_le_sub_right h _
    unfold roundHalfEven
    rw [heq] at hrest ⊢
    dsimp only
    split_ifs <;> first | omega | (exfalso; linarith)

theorem log2_bounds {n : Nat} (h : 0 < n) :
    (2 : Rat) ^ (n.log2 : Int) ≤ n ∧ (n : Rat) < 2 ^ ((n.log2 : Int) + 1) := by
  have hle : 2 ^ n.log2 ≤ n := Nat.log2_self_le (Nat.pos_iff_ne_zero.mp h)
  have hlt : n < 2 ^ (n.log2 + 1) := Nat.lt_log2_self
  constructor
  · rw [zpow_natCast]
    exact_mod_cast hle
  · have hcast : (2 : Rat) ^ ((n.log2 : Int) + 1) = 2 ^ (n.log2 + 1) := by
      rw [← zpow_natCast]
      rfl
    rw [hcast]
    exact_mod_cast hlt

theorem trueDivide_eq {m n : Nat} (hm : 0 < m) (hn : 0 < n) :
    ∃ e : Int, (2 : Rat) ^ e ≤ (m : Rat) / n ∧ (m : Rat) / n < 2 ^ (e + 1) ∧
      trueDivide m n = roundHalfEven ((m : Rat) / n / 2 ^ (e - 52)) * 2 ^ (e - 52) := by
  obtain ⟨hmle, hmlt⟩ := log2_bounds hm
  obtain ⟨hnle, hnlt⟩ := log2_bounds hn
  have hn' : (0 : Rat) < n := by exact_mod_cast hn
  have hbelow : (2 : Rat) ^ ((m.log2 : Int) - n.log2 - 1) ≤ (m : Rat) / n := by
    rw [le_div_iff₀ hn']
    refine le_trans ?_ hmle
    refine le_trans (mul_le_mul_of_nonneg_left hnlt.le (by positivity)) ?_
    rw [← zpow_add₀ two_ne_zero]
    exact le_of_eq (congrArg _ (by omega))
  have habove : (m : Rat) / n < 2 ^ ((m.log2 : Int) - n.log2 + 1) := by
    rw [div_lt_iff₀ hn']
    refine lt_of_lt_of_le hmlt ?_
    refine le_trans (le_of_eq ?_) (mul_le_mul_of_nonneg_left hnle (by positivity))
    rw [← zpow_add₀ two_ne_zero]
    exact congrArg _ (by omega)
  have hvalue : trueDivide m n = roundHalfEven ((m : Rat) / n /
      2 ^ ((if (2 : Rat) ^ ((m.log2 : Int) - n.log2) ≤ m / n then (m.log2 : Int) - n.log2
        else (m.log2 : Int) - n.log2 - 1) - 52)) *
      2 ^ ((if (2 : Rat) ^ ((m.log2 : Int) - n.log2) ≤ m / n then (m.log2 : Int) - n.log2
        else (m.log2 : Int) - n.log2 - 1) - 52) := by
    unfold trueDivide
    rw [if_neg (Nat.pos_iff_ne_zero.mp hm)]
  by_cases h : (2 : Rat) ^ ((m.log2 : Int) - n.log2) ≤ m / n
  · rw [if_pos h] at hvalue
    exact ⟨_, h, habove, hvalue⟩
  · rw [if_neg h] at hvalue
    refine ⟨_, hbelow, ?_, hvalue⟩
    rw [sub_add_cancel]
    exact lt_of_not_ge h

theorem trueDivide_zero (m : Nat) : trueDivide m 0 = 0 := by
  unfold trueDivide
  dsimp only
  split
  · rfl
  · rw [Nat.cast_zero, div_zero, zero_div, show (0 : Rat) = (0 : Int) from rfl,
      roundHalfEven_intCast, Int.cast_zero, zero_mul]

theorem trueDivide_bounds {m n : Nat} {e : Int} (hle : (2 : Rat) ^ e ≤ (m : Rat) / n)
    (hlt : (m : Rat) / n < 2 ^ (e + 1)) :
    (2 : Rat) ^ e ≤ roundHalfEven ((m : Rat) / n / 2 ^ (e - 52)) * 2 ^ (e - 52) ∧
      roundHalfEven ((m : Rat) / n / 2 ^ (e - 52)) * 2 ^ (e - 52) ≤ (2 : Rat) ^ (e + 1) := by
  have hulp : (0 : Rat) < 2 ^ (e - 52) := by positivity
  have hlow : (2 : Rat) ^ e = ((2 ^ 52 : Int) : Rat) * 2 ^ (e - 52) := by
    rw [Int.cast_pow, ← zpow_natCast, Int.cast_ofNat, ← zpow_add₀ two_ne_zero]
    exact congrArg _ (by omega)
  have hhigh : (2 : Rat) ^ (e + 1) = ((2 ^ 53 : Int) : Rat) * 2 ^ (e - 52) := by
    rw [Int.cast_pow, ← zpow_natCast, Int.cast_ofNat, ← zpow_add₀ two_ne_zero]
    exact congrArg _ (by omega)
  constructor
  · rw [hlow]
    refine mul_le_mul_of_nonneg_right (Int.cast_le.mpr ?_) hulp.le
    rw [← roundHalfEven_intCast (2 ^ 52)]
    exact roundHalfEven_mono ((le_div_iff₀ hulp).mpr (hlow ▸ hle))
  · rw [hhigh]
    refine mul_le_mul_of_nonneg_right (Int.cast_le.mpr ?_) hulp.le
    rw [← roundHalfEven_intCast (2 ^ 53)]
    exact roundHalfEven_mono ((div_le_iff₀ hulp).mpr (hhigh ▸ hlt.le))

/-- **Division keeps the order** of the exact quotients. -/
theorem trueDivide_le_of_div_le {m n m' n' : Nat} (hn : 0 < n) (hn' : 0 < n')
    (h : (m : Rat) / n ≤ m' / n') : trueDivide m n ≤ trueDivide m' n' := by
  have hnpos : (0 : Rat) < n := by exact_mod_cast hn
  rcases Nat.eq_zero_or_pos m' with rfl | hm'
  · rw [Nat.cast_zero, zero_div, div_le_iff₀ hnpos, zero_mul] at h
    rw [Nat.le_zero.mp (by exact_mod_cast h : m ≤ 0)]
    exact le_of_eq rfl
  obtain ⟨e', hle', hlt', hvalue'⟩ := trueDivide_eq hm' hn'
  have hbounds' := trueDivide_bounds hle' hlt'
  rw [← hvalue'] at hbounds'
  rcases Nat.eq_zero_or_pos m with rfl | hm
  · exact le_trans (by positivity) hbounds'.1
  obtain ⟨e, hle, hlt, hvalue⟩ := trueDivide_eq hm hn
  have hbounds := trueDivide_bounds hle hlt
  rw [← hvalue] at hbounds
  have he : e < e' + 1 := (zpow_lt_zpow_iff_right₀ one_lt_two).mp ((hle.trans h).trans_lt hlt')
  rcases lt_or_eq_of_le (Int.lt_add_one_iff.mp he) with hlt | rfl
  · -- the smaller one stays below a power of two that the greater one is above
    exact hbounds.2.trans ((zpow_le_zpow_right₀ one_le_two hlt).trans hbounds'.1)
  · rw [hvalue, hvalue']
    refine mul_le_mul_of_nonneg_right (Int.cast_le.mpr (roundHalfEven_mono ?_)) (by positivity)
    exact div_le_div_of_nonneg_right h (by positivity)

theorem trueDivide_mono {m m' : Nat} (n : Nat) (h : m ≤ m') : trueDivide m n ≤ trueDivide m' n := by
  rcases Nat.eq_zero_or_pos n with rfl | hn
  · rw [trueDivide_zero, trueDivide_zero]
  · exact trueDivide_le_of_div_le hn hn
      (div_le_div_of_nonneg_right (Nat.cast_le.mpr h) (Nat.cast_nonneg n))

theorem percentTenths_zero (part : Nat) : percentTenths part 0 = 0 := by
  rw [percentTenths, trueDivide_zero, mul_zero]
  exact roundHalfEven_intCast 0

theorem percentTenths_mono {part part' : Nat} (whole : Nat) (h : part ≤ part') :
    percentTenths part whole ≤ percentTenths part' whole :=
  roundHalfEven_mono (mul_le_mul_of_nonneg_left
    (trueDivide_mono whole (Nat.mul_le_mul_left 100 h)) (by norm_num))

theorem toNat_num_div_den {q : Rat} (h : 0 ≤ q) : (q.num.toNat : Rat) / q.den = q := by
  have hnum : ((q.num.toNat : Nat) : Rat) = q.num := by
    rw [← Int.cast_natCast, Int.toNat_of_nonneg (Rat.num_nonneg.mpr h)]
  rw [hnum, Rat.num_div_den]

theorem toDouble_mono {p q : Rat} (hp : 0 ≤ p) (h : p ≤ q) : toDouble p ≤ toDouble q := by
  refine trueDivide_le_of_div_le p.den_pos q.den_pos ?_
  rw [toNat_num_div_den hp, toNat_num_div_den (hp.trans h)]
  exact h

theorem trueDivide_nonneg (m n : Nat) : 0 ≤ trueDivide m n := by
  have h := trueDivide_mono n (Nat.zero_le m)
  rwa [show trueDivide 0 n = 0 from rfl] at h

theorem toDouble_nonneg (q : Rat) : 0 ≤ toDouble q := trueDivide_nonneg _ _

theorem trueDivide_self {n : Nat} (h : 0 < n) : trueDivide n n = 1 := by
  have hone : (n : Rat) / n = (1 : Nat) / (1 : Nat) := by
    rw [div_self (by exact_mod_cast h.ne'), Nat.cast_one, div_self one_ne_zero]
  rw [le_antisymm (trueDivide_le_of_div_le h one_pos hone.le)
    (trueDivide_le_of_div_le one_pos h hone.ge)]
  decide +kernel

theorem toDouble_eq_self {n : Nat} {e : Int} (hle : 2 ^ 52 ≤ n) (hlt : n ≤ 2 ^ 53) :
    toDouble (n * 2 ^ e) = n * 2 ^ e := by
  have hpow : (0 : Rat) < 2 ^ e := by positivity
  have hn : (0 : Rat) < n := by exact_mod_cast lt_of_lt_of_le (by norm_num) hle
  have hlow : (2 : Rat) ^ (e + 52) ≤ n * 2 ^ e := by
    rw [add_comm, zpow_add₀ two_ne_zero]
    refine mul_le_mul_of_nonneg_right ?_ hpow.le
    exact_mod_cast hle
  have hhigh : n * (2 : Rat) ^ e ≤ 2 ^ (e + 53) := by
    rw [add_comm, zpow_add₀ two_ne_zero]
    refine mul_le_mul_of_nonneg_right ?_ hpow.le
    exact_mod_cast hlt
  have hq : (((n : Rat) * 2 ^ e).num.toNat : Rat) / ((n : Rat) * 2 ^ e).den = n * 2 ^ e :=
    toNat_num_div_den (by positivity)
  have hnum : 0 < ((n : Rat) * 2 ^ e).num.toNat := by
    have hpos : (0 : Rat) < n * 2 ^ e := mul_pos hn hpow
    have hnumpos := Rat.num_pos.mpr hpos
    omega
  obtain ⟨k, hk, hk', hvalue⟩ := trueDivide_eq hnum ((n : Rat) * 2 ^ e).den_pos
  rw [hq] at hk hk' hvalue
  have hke : k < e + 54 := (zpow_lt_zpow_iff_right₀ one_lt_two).mp
    ((hk.trans hhigh).trans_lt (zpow_lt_zpow_right₀ one_lt_two (by omega)))
  have hek : e + 52 < k + 1 := (zpow_lt_zpow_iff_right₀ one_lt_two).mp (hlow.trans_lt hk')
  have hulp : (0 : Rat) < 2 ^ (k - 52) := by positivity
  have hinteger : ∃ i : Int, (n : Rat) * 2 ^ e / 2 ^ (k - 52) = i := by
    rcases (by omega : k = e + 52 ∨ k = e + 53) with rfl | rfl
    · refine ⟨n, ?_⟩
      rw [add_sub_cancel_right, mul_div_assoc, div_self hpow.ne', mul_one, Int.cast_natCast]
    · -- only the power of two itself reaches that far
      refine ⟨2 ^ 52, ?_⟩
      rw [le_antisymm hhigh hk, ← zpow_sub₀ two_ne_zero, show e + 53 - (e + 53 - 52) = 52 by omega]
      norm_num
  obtain ⟨i, hi⟩ := hinteger
  rw [toDouble, hvalue, hi, roundHalfEven_intCast, ← hi, div_mul_cancel₀ _ hulp.ne']

theorem exists_trueDivide_eq {m n : Nat} (hm : 0 < m) (hn : 0 < n) :
    ∃ (i : Nat) (e : Int), 2 ^ 52 ≤ i ∧ i ≤ 2 ^ 53 ∧ trueDivide m n = i * 2 ^ e := by
  obtain ⟨e, hle, hlt, hvalue⟩ := trueDivide_eq hm hn
  obtain ⟨hlow, hhigh⟩ := trueDivide_bounds hle hlt
  have hulp : (0 : Rat) < 2 ^ (e - 52) := by positivity
  rw [show (2 : Rat) ^ e = 2 ^ (52 : Int) * 2 ^ (e - 52) by
    rw [← zpow_add₀ two_ne_zero, add_sub_cancel]] at hlow
  rw [show (2 : Rat) ^ (e + 1) = 2 ^ (53 : Int) * 2 ^ (e - 52) by
    rw [← zpow_add₀ two_ne_zero, show (53 : Int) + (e - 52) = e + 1 by omega]] at hhigh
  have hlow' := le_of_mul_le_mul_right hlow hulp
  have hhigh' := le_of_mul_le_mul_right hhigh hulp
  generalize roundHalfEven ((m : Rat) / n / 2 ^ (e - 52)) = r at hvalue hlow' hhigh'
  have hrlow : (2 : Int) ^ 52 ≤ r := by exact_mod_cast hlow'
  have hrhigh : r ≤ (2 : Int) ^ 53 := by exact_mod_cast hhigh'
  obtain ⟨i, rfl⟩ := Int.eq_ofNat_of_zero_le (le_trans (by norm_num) hrlow)
  exact ⟨i, e - 52, by exact_mod_cast hrlow, by exact_mod_cast hrhigh, hvalue⟩

theorem toDouble_toDouble (q : Rat) : toDouble (toDouble q) = toDouble q := by
  rcases Nat.eq_zero_or_pos q.num.toNat with h | h
  · rw [show toDouble q = 0 by rw [toDouble, h]; rfl]
    rfl
  · obtain ⟨i, e, hlow, hhigh, heq⟩ := exists_trueDivide_eq h q.den_pos
    rw [show toDouble q = i * 2 ^ e from heq]
    exact toDouble_eq_self hlow hhigh

theorem toDouble_two_mul (m n : Nat) : toDouble (2 * trueDivide m n) = 2 * trueDivide m n := by
  rcases Nat.eq_zero_or_pos n with rfl | hn
  · rw [trueDivide_zero, mul_zero]
    rfl
  rcases Nat.eq_zero_or_pos m with rfl | hm
  · rw [show trueDivide 0 n = 0 from rfl, mul_zero]
    rfl
  obtain ⟨i, e, hlow, hhigh, heq⟩ := exists_trueDivide_eq hm hn
  have hdouble : 2 * trueDivide m n = i * 2 ^ (e + 1) := by
    rw [heq, zpow_add_one₀ two_ne_zero]
    ring
  rw [hdouble]
  exact toDouble_eq_self hlow hhigh

/-! ## Error -/

theorem abs_roundHalfEven_sub_le (q : Rat) : |(roundHalfEven q : Rat) - q| ≤ 1 / 2 := by
  have hle : (q.floor : Rat) ≤ q := Rat.floor_le q
  have hlt : q < q.floor + 1 := by exact_mod_cast Rat.lt_floor_add_one q
  rw [abs_le]
  unfold roundHalfEven
  dsimp only
  split_ifs with h h' <;> push_cast <;> constructor <;> linarith

def unitRoundoff : Rat := 2 ^ (-53 : Int)

theorem unitRoundoff_pos : 0 < unitRoundoff := by
  unfold unitRoundoff
  positivity

theorem unitRoundoff_lt_one : unitRoundoff < 1 := by
  unfold unitRoundoff
  norm_num

theorem abs_trueDivide_sub_le (m : Nat) {n : Nat} (hn : 0 < n) :
    |trueDivide m n - (m : Rat) / n| ≤ m / n * unitRoundoff := by
  rcases Nat.eq_zero_or_pos m with rfl | hm
  · rw [show trueDivide 0 n = 0 from rfl, Nat.cast_zero, zero_div, sub_zero, abs_zero, zero_mul]
  obtain ⟨e, hle, -, hvalue⟩ := trueDivide_eq hm hn
  have hulp : (0 : Rat) < 2 ^ (e - 52) := by positivity
  have hfactor : (m : Rat) / n = m / n / 2 ^ (e - 52) * 2 ^ (e - 52) :=
    (div_mul_cancel₀ _ hulp.ne').symm
  have hhalf : (1 / 2 : Rat) * 2 ^ (e - 52) = 2 ^ e * unitRoundoff := by
    rw [unitRoundoff, ← zpow_add₀ two_ne_zero, show e + -53 = -1 + (e - 52) by omega,
      zpow_add₀ two_ne_zero (-1), zpow_neg_one, one_div]
  calc |trueDivide m n - (m : Rat) / n|
      = |(roundHalfEven ((m : Rat) / n / 2 ^ (e - 52)) : Rat) - m / n / 2 ^ (e - 52)| *
          2 ^ (e - 52) := by
        rw [hvalue, ← abs_of_pos hulp, ← abs_mul, abs_of_pos hulp, sub_mul, ← hfactor]
    _ ≤ 1 / 2 * 2 ^ (e - 52) :=
        mul_le_mul_of_nonneg_right (abs_roundHalfEven_sub_le _) hulp.le
    _ = 2 ^ e * unitRoundoff := hhalf
    _ ≤ m / n * unitRoundoff := mul_le_mul_of_nonneg_right hle unitRoundoff_pos.le

/-- `x` is `q`, up to `k` roundings. -/
structure Within (k : Nat) (q x : Rat) : Prop where
  nonneg : 0 ≤ q
  low : q * (1 - unitRoundoff) ^ k ≤ x
  high : x ≤ q * (1 + unitRoundoff) ^ k

namespace Within

variable {j k : Nat} {p q x y : Rat}

theorem value_nonneg (h : Within k q x) : 0 ≤ x :=
  (mul_nonneg h.nonneg (pow_nonneg (sub_nonneg.mpr unitRoundoff_lt_one.le) k)).trans h.low

theorem refl (h : 0 ≤ q) : Within 0 q q where
  nonneg := h
  low := by rw [pow_zero, mul_one]
  high := by rw [pow_zero, mul_one]

theorem mono (h : Within j q x) (hk : j ≤ k) : Within k q x where
  nonneg := h.nonneg
  low := by
    refine le_trans (mul_le_mul_of_nonneg_left ?_ h.nonneg) h.low
    have hpos := unitRoundoff_pos
    have hlt := unitRoundoff_lt_one
    exact pow_le_pow_of_le_one (by linarith) (by linarith) hk
  high := by
    refine le_trans h.high (mul_le_mul_of_nonneg_left ?_ h.nonneg)
    have hpos := unitRoundoff_pos
    exact pow_le_pow_right₀ (by linarith) hk

theorem add (hx : Within k p x) (hy : Within k q y) : Within k (p + q) (x + y) where
  nonneg := add_nonneg hx.nonneg hy.nonneg
  low := by
    rw [add_mul]
    exact add_le_add hx.low hy.low
  high := by
    rw [add_mul]
    exact add_le_add hx.high hy.high

theorem mul (hx : Within j p x) (hy : Within k q y) : Within (j + k) (p * q) (x * y) where
  nonneg := mul_nonneg hx.nonneg hy.nonneg
  low := by
    rw [pow_add, mul_mul_mul_comm]
    refine mul_le_mul hx.low hy.low (mul_nonneg hy.nonneg ?_) hx.value_nonneg
    exact pow_nonneg (sub_nonneg.mpr unitRoundoff_lt_one.le) k
  high := by
    rw [pow_add, mul_mul_mul_comm]
    refine mul_le_mul hx.high hy.high hy.value_nonneg (mul_nonneg hx.nonneg ?_)
    exact pow_nonneg (by linarith [unitRoundoff_pos]) j

theorem scale {c : Rat} (hc : 0 ≤ c) (h : Within k q x) : Within k (c * q) (c * x) :=
  Nat.zero_add k ▸ (refl hc).mul h

theorem trueDivide (m : Nat) {n : Nat} (hn : 0 < n) :
    Within 1 ((m : Rat) / n) (Python.trueDivide m n) := by
  have h := abs_le.mp (abs_trueDivide_sub_le m hn)
  constructor
  · positivity
  · rw [pow_one, mul_sub, mul_one]
    linarith
  · rw [pow_one, mul_add, mul_one]
    linarith

theorem toDouble (h : Within k q x) : Within (k + 1) q (toDouble x) := by
  have hx := h.value_nonneg
  have hround := trueDivide x.num.toNat x.den_pos
  rw [toNat_num_div_den hx] at hround
  have hlt := unitRoundoff_lt_one
  have hpos := unitRoundoff_pos
  constructor
  · exact h.nonneg
  · rw [pow_succ, ← mul_assoc]
    refine le_trans (mul_le_mul_of_nonneg_right h.low (by linarith)) ?_
    exact (pow_one (1 - unitRoundoff)) ▸ hround.low
  · rw [pow_succ, ← mul_assoc]
    refine le_trans ?_ (mul_le_mul_of_nonneg_right h.high (by linarith))
    exact (pow_one (1 + unitRoundoff)) ▸ hround.high

theorem abs_sub_le (h : Within 7 q x) (hq : q ≤ 1000) : |x - q| ≤ 1 / 1000 := by
  have hlow : (1 : Rat) - 1 / 1000000 ≤ (1 - unitRoundoff) ^ 7 := by
    unfold unitRoundoff
    norm_num
  have hhigh : (1 + unitRoundoff) ^ 7 ≤ (1 : Rat) + 1 / 1000000 := by
    unfold unitRoundoff
    norm_num
  have hbelow := (mul_le_mul_of_nonneg_left hlow h.nonneg).trans h.low
  have habove := h.high.trans (mul_le_mul_of_nonneg_left hhigh h.nonneg)
  rw [abs_le]
  constructor <;> linarith

end Within

/-! ## Texts and integers -/

/-- A `float`. The two zeros are one. -/
inductive Double
  | nan
  | infinite (negative : Bool)
  | finite (value : Rat)
  deriving DecidableEq

namespace Double

/-- The nearest double, of two the even one; below the least normal one the steps stay the same. -/
def nearest (q : Rat) : Double :=
  if q = 0 then .finite 0
  else
    let size : Rat := q.num.natAbs / q.den
    -- the exponent of `q`, or one more
    let e : Int := q.num.natAbs.log2 - q.den.log2
    let exponent := if (2 : Rat) ^ e ≤ size then e else e - 1
    let ulp := (2 : Rat) ^ max (exponent - 52) (-1074)
    let rounded := roundHalfEven (size / ulp) * ulp
    if (2 : Rat) ^ 1024 ≤ rounded then .infinite (decide (q < 0))
    else .finite (if q < 0 then -rounded else rounded)

/-- `float(n)` of an integer; `none` is an `OverflowError`. -/
def ofInt (n : Int) : Option Rat :=
  match nearest n with
  | .finite q => some q
  | _ => none

def neg : Double → Double
  | .nan => .nan
  | .infinite negative => .infinite !negative
  | .finite q => .finite (-q)

def value : Double → Rat
  | .finite q => q
  | _ => 0

end Double

/-- The digits before or after the point, which may be none. -/
def digitPart (s : Text) : Option (List Nat) := if s = [] then some [] else intDigits s

def digitsValue (ds : List Nat) : Nat := ds.foldl (fun n d => 10 * n + d) 0

/-- What follows the `e`. -/
def exponentValue : Text → Option Int
  | '-' :: ds => (intDigits ds).map fun ds => -(digitsValue ds : Int)
  | '+' :: ds => (intDigits ds).map fun ds => (digitsValue ds : Int)
  | ds => (intDigits ds).map fun ds => (digitsValue ds : Int)

/-- The exact value of a decimal number without a sign. -/
def decimalNumber (s : Text) : Option Rat := do
  let (mantissa, tail) := s.span fun c => c ≠ 'e' ∧ c ≠ 'E'
  let (whole, point) := mantissa.span (· ≠ '.')
  let ds ← digitPart whole
  let fs ← digitPart (point.drop 1)
  let e ← if tail = [] then some 0 else exponentValue (tail.drop 1)
  if ds ++ fs = [] then none
  else some (digitsValue (ds ++ fs) * (10 : Rat) ^ (e - fs.length))

/-- A number without a sign, or one of the spellings that are none. -/
def unsignedFloat (s : Text) : Option Double :=
  let word := s.map Char.toLower
  if word = "inf".toList ∨ word = "infinity".toList then some (.infinite false)
  else if word = "nan".toList then some .nan
  else (decimalNumber s).map Double.nearest

/-- `float(s)`; `none` is a `ValueError`. -/
def pyFloat (s : Text) : Option Double :=
  match ((s.dropWhile isIntSpace).reverse.dropWhile isIntSpace).reverse with
  | '-' :: s => (unsignedFloat s).map Double.neg
  | '+' :: s => unsignedFloat s
  | s => unsignedFloat s

example : ["4.5", " -1_0.e-1\n", ".5E+1", "1e400", "-Infinity", "1e-400", "NaN", "1__0", ".", "1e",
      "4.00000000000000000001"].map (fun s => pyFloat s.toList) =
    [some (.finite (9 / 2)), some (.finite (-1)), some (.finite 5), some (.infinite false),
      some (.infinite true), some (.finite 0), some .nan, none, none, none, some (.finite 4)] := by
  decide +kernel

end Concord.Python
