import Mathlib.Algebra.Order.Field.Power
import Mathlib.Data.Rat.Floor
import Mathlib.Tactic.FieldSimp
import Mathlib.Tactic.Linarith
import Mathlib.Tactic.NormNum
import Mathlib.Tactic.Positivity
import SocketDocs.Decimal.Shortest

/-!
# Rounding

A fraction that lies in the interval of a number of the format is rounded to that number
(`round_of_roundsTo`). What `round` gives is always a number of the format.
-/

namespace SocketDocs.Double

-- ---------------------------------------------------------------------------
-- Powers
-- ---------------------------------------------------------------------------

theorem twoPow_fst_pos (e : Int) : 0 < (twoPow e).1 := Nat.pow_pos (by decide)

theorem twoPow_snd_pos (e : Int) : 0 < (twoPow e).2 := Nat.pow_pos (by decide)

theorem tenPow_fst_pos (e : Int) : 0 < (tenPow e).1 := Nat.pow_pos (by decide)

theorem tenPow_snd_pos (e : Int) : 0 < (tenPow e).2 := Nat.pow_pos (by decide)

theorem pow_toNat_eq {b : ℚ} (hb : b ≠ 0) (e : Int) :
    b ^ e.toNat = b ^ e * b ^ (-e).toNat := by
  rcases Int.le_total 0 e with he | he
  · have hneg : (-e).toNat = 0 := by omega
    rw [hneg, pow_zero, mul_one, ← zpow_natCast, Int.toNat_of_nonneg he]
  · have hpos : e.toNat = 0 := by omega
    rw [hpos, pow_zero, ← zpow_natCast, Int.toNat_of_nonneg (by omega), ← zpow_add₀ hb]
    simp

theorem twoPow_eq (e : Int) : ((twoPow e).1 : ℚ) = 2 ^ e * (twoPow e).2 := by
  simpa [twoPow] using pow_toNat_eq (b := 2) (by norm_num) e

theorem tenPow_eq (e : Int) : ((tenPow e).1 : ℚ) = 10 ^ e * (tenPow e).2 := by
  simpa [tenPow] using pow_toNat_eq (b := 10) (by norm_num) e

theorem two_zpow_succ (e : Int) : (2 : ℚ) ^ (e + 1) = 2 * 2 ^ e := by
  rw [zpow_add_one₀ (by norm_num), mul_comm]

-- ---------------------------------------------------------------------------
-- Numbers of the format
-- ---------------------------------------------------------------------------

/-- A number of the binary64 format. -/
structure InFormat (x : Double) : Prop where
  mantissa_lt : x.mantissa < 2 * leastFullMantissa
  least_le : leastExponent ≤ x.exponent
  le_greatest : x.exponent ≤ greatestExponent
  full : leastExponent < x.exponent → leastFullMantissa ≤ x.mantissa

/-- The value lies between the ends of the interval, in multiples of `unit`. -/
def Interval.Contains (i : Interval) (unit q : ℚ) : Prop :=
  if i.closed then i.low * unit ≤ q ∧ q ≤ i.high * unit else i.low * unit < q ∧ q < i.high * unit

/-- The value is nearer to `x` than to the numbers around it, or as near and `x` is even. -/
def RoundsTo (x : Double) (q : ℚ) : Prop :=
  x.interval.Contains (2 ^ (x.exponent - 2)) q

-- ---------------------------------------------------------------------------
-- The exponent
-- ---------------------------------------------------------------------------

structure IsExponent (q : ℚ) (e : Int) : Prop where
  least_le : leastExponent ≤ e
  lt : q < 2 * leastFullMantissa * 2 ^ e
  le : leastExponent < e → leastFullMantissa * 2 ^ e ≤ q

theorem IsExponent.unique {q : ℚ} {e e' : Int} (h : IsExponent q e) (h' : IsExponent q e') :
    e = e' := by
  -- a greater exponent needs a full mantissa, which is too much for the smaller one
  have hnot : ∀ {a b : Int}, IsExponent q a → IsExponent q b → ¬a < b := by
    intro a b ha hb hlt
    have hmono : (2 : ℚ) ^ (a + 1) ≤ 2 ^ b := zpow_le_zpow_right₀ (by norm_num) (by omega)
    rw [two_zpow_succ] at hmono
    have hlow := hb.le (lt_of_le_of_lt ha.least_le hlt)
    have hhigh := ha.lt
    have hpos : (0 : ℚ) < leastFullMantissa := by norm_num [leastFullMantissa]
    nlinarith
  exact le_antisymm (not_lt.mp (hnot h' h)) (not_lt.mp (hnot h h'))

theorem log2_bounds {n : Nat} (h : 0 < n) :
    (2 : ℚ) ^ (n.log2 : Int) ≤ n ∧ (n : ℚ) < 2 * 2 ^ (n.log2 : Int) := by
  have hlow : 2 ^ n.log2 ≤ n := Nat.log2_self_le (by omega)
  have hhigh : n < 2 ^ (n.log2 + 1) := Nat.lt_log2_self
  rw [pow_succ] at hhigh
  refine ⟨?_, ?_⟩
  · rw [zpow_natCast]
    exact_mod_cast hlow
  · rw [zpow_natCast, mul_comm]
    exact_mod_cast hhigh

theorem mul_twoPow_le_iff {num den : Nat} (hden : 0 < den) (k : Nat) (e : Int) :
    k * (den * (twoPow e).1) ≤ num * (twoPow e).2 ↔ (k : ℚ) * 2 ^ e ≤ (num : ℚ) / den := by
  have hden' : (0 : ℚ) < den := by exact_mod_cast hden
  have hdown : (0 : ℚ) < (twoPow e).2 := by exact_mod_cast twoPow_snd_pos e
  rw [le_div_iff₀ hden', ← mul_le_mul_iff_left₀ hdown, ← Nat.cast_le (α := ℚ)]
  push_cast
  rw [twoPow_eq]
  ring_nf

theorem isExponent_exponentFor {num den : Nat} (hnum : 0 < num) (hden : 0 < den) :
    IsExponent ((num : ℚ) / den) (exponentFor num den) := by
  let guess : Int := (num.log2 : Int) - (den.log2 : Int) - 53
  have heq : exponentFor num den = max leastExponent
      (if 2 * leastFullMantissa ≤ num * (twoPow guess).2 / (den * (twoPow guess).1) then guess + 1
        else guess) := rfl
  have hpos : (0 : ℚ) < 2 ^ guess := by positivity
  have hden' : (0 : ℚ) < den := by exact_mod_cast hden
  obtain ⟨hnumLow, hnumHigh⟩ := log2_bounds hnum
  obtain ⟨hdenLow, hdenHigh⟩ := log2_bounds hden
  -- the guess is right or one too small
  have hsplit : (2 : ℚ) ^ (num.log2 : Int) =
      2 * leastFullMantissa * 2 ^ guess * 2 ^ (den.log2 : Int) := by
    have hsum : (num.log2 : Int) = 53 + guess + den.log2 := by omega
    rw [hsum, zpow_add₀ (by norm_num), zpow_add₀ (by norm_num)]
    norm_num [leastFullMantissa]
  have hlow : leastFullMantissa * 2 ^ guess ≤ (num : ℚ) / den := by
    rw [le_div_iff₀ hden']
    have : (0 : ℚ) ≤ leastFullMantissa * 2 ^ guess := by positivity
    nlinarith
  have hhigh : (num : ℚ) / den < 4 * leastFullMantissa * 2 ^ guess := by
    rw [div_lt_iff₀ hden']
    have : (0 : ℚ) ≤ leastFullMantissa * 2 ^ guess := by positivity
    nlinarith
  have htest : 2 * leastFullMantissa ≤ num * (twoPow guess).2 / (den * (twoPow guess).1) ↔
      (2 * leastFullMantissa : ℚ) * 2 ^ guess ≤ (num : ℚ) / den := by
    rw [Nat.le_div_iff_mul_le (Nat.mul_pos hden (twoPow_fst_pos guess)), mul_twoPow_le_iff hden]
    push_cast
    rfl
  -- a full mantissa at an exponent below the least one is no more than it holds
  have hclamp : ∀ e : Int, (num : ℚ) / den < 2 * leastFullMantissa * 2 ^ e →
      leastFullMantissa * 2 ^ e ≤ (num : ℚ) / den →
      IsExponent ((num : ℚ) / den) (max leastExponent e) := by
    intro e hlt hle
    refine ⟨le_max_left _ _, ?_, ?_⟩
    · have hmono : (2 : ℚ) ^ e ≤ 2 ^ max leastExponent e :=
        zpow_le_zpow_right₀ (by norm_num) (le_max_right _ _)
      have : (0 : ℚ) < leastFullMantissa := by norm_num [leastFullMantissa]
      nlinarith
    · intro hlt'
      rwa [max_eq_right (by omega)]
  rw [heq]
  split_ifs with hcond
  · have hcond' := htest.mp hcond
    refine hclamp _ ?_ ?_
    · rw [two_zpow_succ]
      linarith
    · rw [two_zpow_succ]
      linarith
  · have hcond' := mt htest.mpr hcond
    exact hclamp _ (not_le.mp hcond') hlow

-- ---------------------------------------------------------------------------
-- The mantissa
-- ---------------------------------------------------------------------------

/-- A fraction is rounded to a neighbour at most a half away, to an even one if it is a half. -/
theorem roundDiv_eq {num den m : Nat} (hden : 0 < den) (hlow : 2 * (m * den) ≤ 2 * num + den)
    (hhigh : 2 * num ≤ 2 * (m * den) + den)
    (hodd : m % 2 = 1 → 2 * (m * den) < 2 * num + den ∧ 2 * num < 2 * (m * den) + den) :
    roundDiv num den = m := by
  have hdiv := Nat.div_add_mod num den
  have hmod := Nat.mod_lt num hden
  rw [Nat.mul_comm] at hdiv
  have hcases : num / den = m ∨ num / den + 1 = m := by
    have hle : num / den ≤ m := by
      by_contra hgt
      have : (m + 1) * den ≤ num / den * den := Nat.mul_le_mul_right _ (by omega)
      rw [Nat.add_mul] at this
      omega
    have hge : m ≤ num / den + 1 := by
      by_contra hgt
      have : (num / den + 2) * den ≤ m * den := Nat.mul_le_mul_right _ (by omega)
      rw [Nat.add_mul] at this
      omega
    omega
  rcases hcases with hq | hq
  · subst hq
    simp only [roundDiv, Bool.or_eq_true, Bool.and_eq_true, decide_eq_true_eq, beq_iff_eq]
    rw [if_neg]
    rintro (hlt | ⟨htie, hq⟩)
    · omega
    · have := hodd hq
      omega
  · subst hq
    simp only [roundDiv, Bool.or_eq_true, Bool.and_eq_true, decide_eq_true_eq, beq_iff_eq]
    rw [Nat.add_mul] at hlow hodd
    rw [if_pos]
    by_cases hlt : den < 2 * (num % den)
    · exact .inl hlt
    · refine .inr ⟨by omega, ?_⟩
      by_contra heven
      have := hodd (by omega)
      omega

theorem roundDiv_of_near {num den m : Nat} {e : Int} (hden : 0 < den)
    (hlow : (2 * m - 1) * 2 ^ e ≤ 2 * ((num : ℚ) / den))
    (hhigh : 2 * ((num : ℚ) / den) ≤ (2 * m + 1) * 2 ^ e)
    (hodd : m % 2 = 1 → (2 * m - 1) * 2 ^ e < 2 * ((num : ℚ) / den) ∧
      2 * ((num : ℚ) / den) < (2 * m + 1) * 2 ^ e) :
    roundDiv (num * (twoPow e).2) (den * (twoPow e).1) = m := by
  have hden' : (0 : ℚ) < den := by exact_mod_cast hden
  have hdown : (0 : ℚ) < (twoPow e).2 := by exact_mod_cast twoPow_snd_pos e
  have hscale : (0 : ℚ) < den * (twoPow e).2 := mul_pos hden' hdown
  have hnum : (num : ℚ) = num / den * den := by field_simp
  generalize (num : ℚ) / den = q at *
  refine roundDiv_eq (Nat.mul_pos hden (twoPow_fst_pos e)) ?_ ?_ ?_
  · have := mul_le_mul_of_nonneg_left hlow hscale.le
    rw [← Nat.cast_le (α := ℚ)]
    push_cast
    rw [twoPow_eq, hnum]
    linarith
  · have := mul_le_mul_of_nonneg_left hhigh hscale.le
    rw [← Nat.cast_le (α := ℚ)]
    push_cast
    rw [twoPow_eq, hnum]
    linarith
  · intro hm
    obtain ⟨hlow, hhigh⟩ := hodd hm
    have := mul_lt_mul_of_pos_left hlow hscale
    have := mul_lt_mul_of_pos_left hhigh hscale
    rw [← Nat.cast_lt (α := ℚ), ← Nat.cast_lt (α := ℚ)]
    push_cast
    rw [twoPow_eq, hnum]
    constructor <;> linarith

-- ---------------------------------------------------------------------------
-- Rounding
-- ---------------------------------------------------------------------------

theorem zpow_eq_four_mul (e : Int) : (2 : ℚ) ^ e = 4 * 2 ^ (e - 2) := by
  rw [zpow_sub₀ (by norm_num)]
  norm_num
  ring

theorem RoundsTo.bounds {x : Double} {q : ℚ} (h : x.RoundsTo q) :
    (2 * x.mantissa - 1) * 2 ^ x.exponent ≤ 2 * q ∧ 2 * q ≤ (2 * x.mantissa + 1) * 2 ^ x.exponent ∧
      (x.mantissa % 2 = 1 → (2 * x.mantissa - 1) * 2 ^ x.exponent < 2 * q ∧
        2 * q < (2 * x.mantissa + 1) * 2 ^ x.exponent) ∧
      (x.mantissa = leastFullMantissa → leastExponent < x.exponent →
        (4 * x.mantissa - 1) * 2 ^ x.exponent ≤ 4 * q) := by
  have hunit : (0 : ℚ) < 2 ^ (x.exponent - 2) := by positivity
  have hlow : (4 * x.mantissa - 2 : ℚ) ≤ x.interval.low := by
    have : 4 * x.mantissa ≤ x.interval.low + 2 := by
      simp only [interval]
      split_ifs <;> omega
    have : (4 * x.mantissa : ℚ) ≤ x.interval.low + 2 := by exact_mod_cast this
    linarith
  have hhigh : (x.interval.high : ℚ) = 4 * x.mantissa + 2 := by simp [interval]
  have hclosed : x.interval.closed = (x.mantissa % 2 == 0) := rfl
  unfold RoundsTo Interval.Contains at h
  rw [zpow_eq_four_mul x.exponent]
  generalize (2 : ℚ) ^ (x.exponent - 2) = unit at *
  rw [hhigh, hclosed] at h
  split at h
  · rename_i heven
    have hq := mul_le_mul_of_nonneg_right hlow hunit.le
    refine ⟨by linarith, by linarith, ?_, ?_⟩
    · intro hodd
      simp [hodd] at heven
    · intro hm he
      have hlow' : (x.interval.low : ℚ) = 4 * x.mantissa - 1 := by
        have : x.interval.low + 1 = 4 * x.mantissa := by
          simp only [interval, hm, he, beq_self_eq_true, decide_true, Bool.and_self, if_true]
          decide
        have : (x.interval.low : ℚ) + 1 = 4 * x.mantissa := by exact_mod_cast this
        linarith
      rw [hlow'] at h
      linarith
  · rename_i hodd
    have hq := mul_le_mul_of_nonneg_right hlow hunit.le
    refine ⟨by linarith, by linarith, fun _ => ⟨by linarith, by linarith⟩, ?_⟩
    intro hm
    simp [hm, leastFullMantissa] at hodd

/-- The parts of a rounded number, before a carry out of the mantissa. -/
theorem round_eq {num den : Nat} (hnum : 0 < num) {e : Int} {m : Nat} (negative : Bool)
    (he : exponentFor num den = e)
    (hm : roundDiv (num * (twoPow e).2) (den * (twoPow e).1) = m) :
    round negative num den =
      if m = 2 * leastFullMantissa then
        if greatestExponent < e + 1 then none else some ⟨negative, leastFullMantissa, e + 1⟩
      else if greatestExponent < e then none else some ⟨negative, m, e⟩ := by
  subst he hm
  have hne : (num == 0) = false := by simpa using hnum.ne'
  simp only [round, hne]
  split_ifs <;> simp_all

theorem round_of_roundsTo {x : Double} (hx : x.InFormat) (hm : x.mantissa ≠ 0) {num den : Nat}
    (hden : 0 < den) (h : x.RoundsTo ((num : ℚ) / den)) : round x.negative num den = some x := by
  obtain ⟨hlow, hhigh, hodd, hbinade⟩ := h.bounds
  have hunit : (0 : ℚ) < 2 ^ x.exponent := by positivity
  have hmantissa : (1 : ℚ) ≤ x.mantissa := by exact_mod_cast Nat.one_le_iff_ne_zero.mpr hm
  have hnum : 0 < num := by
    rw [Nat.pos_iff_ne_zero]
    rintro rfl
    simp only [Nat.cast_zero, zero_div, mul_zero] at hlow
    nlinarith
  have hexponent := isExponent_exponentFor hnum hden
  have hmlt : (x.mantissa : ℚ) + 1 ≤ 2 * leastFullMantissa := by exact_mod_cast hx.mantissa_lt
  by_cases hfull : leastExponent < x.exponent → leastFullMantissa * 2 ^ x.exponent ≤ (num : ℚ) / den
  · -- the fraction has the exponent of `x`
    have he : exponentFor num den = x.exponent :=
      hexponent.unique ⟨hx.least_le, by nlinarith, hfull⟩
    rw [round_eq hnum x.negative he (roundDiv_of_near hden hlow hhigh hodd),
      if_neg (by have := hx.mantissa_lt; omega), if_neg (not_lt.mpr hx.le_greatest)]
  · -- it lies below the least full mantissa, and rounding carries into it
    obtain ⟨hleast, hbelow⟩ := Classical.not_imp.mp hfull
    have hbelow := not_le.mp hbelow
    have hmin : x.mantissa = leastFullMantissa := by
      refine le_antisymm ?_ (hx.full hleast)
      by_contra hgt
      have : (leastFullMantissa : ℚ) + 1 ≤ x.mantissa := by exact_mod_cast not_le.mp hgt
      nlinarith
    have hquarter := hbinade hmin hleast
    rw [hmin] at hquarter
    have hsucc : (2 : ℚ) ^ x.exponent = 2 * 2 ^ (x.exponent - 1) := by
      rw [← two_zpow_succ, Int.sub_add_cancel]
    have hhalf : (0 : ℚ) < 2 ^ (x.exponent - 1) := by positivity
    rw [hsucc] at hquarter hbelow
    have hbig : (1 : ℚ) ≤ leastFullMantissa := by norm_num [leastFullMantissa]
    have he : exponentFor num den = x.exponent - 1 := by
      refine hexponent.unique ⟨by omega, by linarith, fun _ => by nlinarith⟩
    have hround : roundDiv (num * (twoPow (x.exponent - 1)).2) (den * (twoPow (x.exponent - 1)).1) =
        2 * leastFullMantissa := by
      refine roundDiv_of_near hden ?_ ?_ ?_
      · push_cast
        linarith
      · push_cast
        linarith
      · intro hodd
        simp [Nat.mul_mod_right] at hodd
    rw [round_eq hnum x.negative he hround, if_pos rfl, Int.sub_add_cancel,
      if_neg (not_lt.mpr hx.le_greatest), ← hmin]

-- ---------------------------------------------------------------------------
-- Results
-- ---------------------------------------------------------------------------

theorem roundDiv_bounds (num den : Nat) :
    num / den ≤ roundDiv num den ∧ roundDiv num den ≤ num / den + 1 := by
  simp only [roundDiv]
  split_ifs <;> omega

theorem roundDiv_full {num den : Nat} (hden : 0 < den) {e : Int}
    (he : IsExponent ((num : ℚ) / den) e) :
    roundDiv (num * (twoPow e).2) (den * (twoPow e).1) ≤ 2 * leastFullMantissa ∧
      (leastExponent < e →
        leastFullMantissa ≤ roundDiv (num * (twoPow e).2) (den * (twoPow e).1)) := by
  obtain ⟨hlow, hhigh⟩ := roundDiv_bounds (num * (twoPow e).2) (den * (twoPow e).1)
  have hpos := Nat.mul_pos hden (twoPow_fst_pos e)
  refine ⟨?_, ?_⟩
  · have hlt : num * (twoPow e).2 / (den * (twoPow e).1) < 2 * leastFullMantissa := by
      rw [Nat.div_lt_iff_lt_mul hpos]
      by_contra hge
      have := (mul_twoPow_le_iff hden _ e).mp (not_lt.mp hge)
      push_cast at this
      exact not_le.mpr he.lt this
    omega
  · intro hleast
    refine le_trans ?_ hlow
    rw [Nat.le_div_iff_mul_le hpos, mul_twoPow_le_iff hden]
    exact he.le hleast

theorem inFormat_zero (negative : Bool) : (zero negative).InFormat :=
  ⟨by simp [zero, leastFullMantissa], le_refl _, by simp [zero, leastExponent, greatestExponent],
    fun h => absurd h (lt_irrefl _)⟩

theorem inFormat_of_round {negative : Bool} {num den : Nat} {x : Double} (hden : 0 < den)
    (h : round negative num den = some x) : x.InFormat := by
  rcases Nat.eq_zero_or_pos num with rfl | hnum
  · cases h
    exact inFormat_zero negative
  have hexponent := isExponent_exponentFor hnum hden
  obtain ⟨hle, hfull⟩ := roundDiv_full hden hexponent
  rw [round_eq hnum negative rfl rfl] at h
  split_ifs at h with hcarry hbig hbig
  · cases h
    have hleast := hexponent.least_le
    refine ⟨?_, ?_, ?_, fun _ => le_refl _⟩
    · simp [leastFullMantissa]
    · dsimp only
      omega
    · dsimp only
      omega
  · cases h
    exact ⟨lt_of_le_of_ne hle hcarry, hexponent.least_le, not_lt.mp hbig, hfull⟩

theorem mantissa_ne_zero_of_round {negative : Bool} {num den : Nat} {x : Double} (hden : 0 < den)
    (hle : den ≤ num) (h : round negative num den = some x) : x.mantissa ≠ 0 := by
  have hnum : 0 < num := by omega
  have hexponent := isExponent_exponentFor hnum hden
  have hone : (1 : ℚ) ≤ (num : ℚ) / den := by
    rw [one_le_div (by exact_mod_cast hden)]
    exact_mod_cast hle
  have hleast : leastExponent < exponentFor num den := by
    refine lt_of_le_of_ne hexponent.least_le ?_
    intro heq
    have hlt := hexponent.lt
    rw [← heq] at hlt
    have hsmall : (2 : ℚ) ^ leastExponent ≤ 2 ^ (-54 : Int) :=
      zpow_le_zpow_right₀ (by norm_num) (by decide)
    norm_num [leastFullMantissa] at hsmall hlt
    linarith
  have hfull := (roundDiv_full hden hexponent).2 hleast
  rw [round_eq hnum negative rfl rfl] at h
  split_ifs at h with hcarry hbig hbig
  · cases h
    simp [leastFullMantissa]
  · cases h
    have : 0 < leastFullMantissa := by decide
    simp only
    omega

end SocketDocs.Double
