import Mathlib.Data.Nat.Digits.Defs
import SocketDocs.Proofs.Decimal.Rounding

/-!
# Shortest decimals read back

The point of a grid that is chosen for a number rounds back to it, and on the grid of seventeen
digits there always is one. So the shortest decimal of a number reads back as that number
(`ofDecimal_shortest`), whichever digits spell it.
-/

namespace SocketDocs.Double

def magnitude (x : Double) : ℚ :=
  x.mantissa * 2 ^ x.exponent

def Decimal.value (d : Decimal) : ℚ :=
  d.digits * 10 ^ d.exponent

-- ---------------------------------------------------------------------------
-- Grids
-- ---------------------------------------------------------------------------

theorem Interval.holds_iff (i : Interval) (e place : Int) (d : Nat) :
    i.holds ((twoPow e).1 * (tenPow place).2) (d * ((twoPow e).2 * (tenPow place).1)) = true ↔
      i.Contains (2 ^ e) (d * 10 ^ place) := by
  have htwo : (0 : ℚ) < (twoPow e).2 := by exact_mod_cast twoPow_snd_pos e
  have hten : (0 : ℚ) < (tenPow place).2 := by exact_mod_cast tenPow_snd_pos place
  have hpos := mul_pos htwo hten
  have hscale : ∀ k : Nat, ((k * ((twoPow e).1 * (tenPow place).2) : Nat) : ℚ) =
      k * 2 ^ e * ((twoPow e).2 * (tenPow place).2) := by
    intro k
    push_cast
    rw [twoPow_eq]
    ring
  have hvalue : ((d * ((twoPow e).2 * (tenPow place).1) : Nat) : ℚ) =
      d * 10 ^ place * ((twoPow e).2 * (tenPow place).2) := by
    push_cast
    rw [tenPow_eq]
    ring
  unfold Interval.holds Interval.Contains
  split
  · simp only [Bool.and_eq_true, decide_eq_true_eq, ← Nat.cast_le (α := ℚ), hscale, hvalue,
      mul_le_mul_iff_left₀ hpos]
  · simp only [Bool.and_eq_true, decide_eq_true_eq, ← Nat.cast_lt (α := ℚ), hscale, hvalue,
      mul_lt_mul_iff_left₀ hpos]

def below (x : Double) (place : Int) : Nat :=
  x.interval.middle * ((twoPow (x.exponent - 2)).1 * (tenPow place).2) /
    ((twoPow (x.exponent - 2)).2 * (tenPow place).1)

theorem below_bounds (x : Double) (place : Int) :
    x.below place * 10 ^ place ≤ x.magnitude ∧ x.magnitude < (x.below place + 1) * 10 ^ place := by
  have htwo : (0 : ℚ) < (twoPow (x.exponent - 2)).2 := by exact_mod_cast twoPow_snd_pos _
  have hten : (0 : ℚ) < (tenPow place).2 := by exact_mod_cast tenPow_snd_pos place
  have hpos := mul_pos htwo hten
  have hexact : ((x.interval.middle * ((twoPow (x.exponent - 2)).1 * (tenPow place).2) : Nat) : ℚ) =
      x.magnitude * ((twoPow (x.exponent - 2)).2 * (tenPow place).2) := by
    simp only [interval, magnitude]
    push_cast
    rw [twoPow_eq, zpow_eq_four_mul x.exponent]
    ring
  have hunit : (((twoPow (x.exponent - 2)).2 * (tenPow place).1 : Nat) : ℚ) =
      10 ^ place * ((twoPow (x.exponent - 2)).2 * (tenPow place).2) := by
    push_cast
    rw [tenPow_eq]
    ring
  have hle := Nat.div_mul_le_self
    (x.interval.middle * ((twoPow (x.exponent - 2)).1 * (tenPow place).2))
    ((twoPow (x.exponent - 2)).2 * (tenPow place).1)
  have hlt : x.interval.middle * ((twoPow (x.exponent - 2)).1 * (tenPow place).2) <
      (x.below place + 1) * ((twoPow (x.exponent - 2)).2 * (tenPow place).1) := by
    rw [Nat.mul_comm (x.below place + 1)]
    exact Nat.lt_mul_div_succ _
      (Nat.mul_pos (twoPow_snd_pos (x.exponent - 2)) (tenPow_fst_pos place))
  refine ⟨?_, ?_⟩
  · rw [← mul_le_mul_iff_left₀ hpos, ← hexact, mul_assoc, ← hunit]
    exact_mod_cast hle
  · rw [← mul_lt_mul_iff_left₀ hpos, ← hexact, mul_assoc, ← hunit]
    exact_mod_cast hlt

/-- A grid point that rounds back to the number. -/
def fits (x : Double) (place : Int) (d : Nat) : Bool :=
  x.interval.holds ((twoPow (x.exponent - 2)).1 * (tenPow place).2)
    (d * ((twoPow (x.exponent - 2)).2 * (tenPow place).1))

theorem fits_iff (x : Double) (place : Int) (d : Nat) :
    x.fits place d = true ↔ x.RoundsTo (d * 10 ^ place) :=
  Interval.holds_iff _ _ _ _

theorem onGrid?_eq (x : Double) (place : Int) : ∃ nearer : Bool, x.onGrid? place =
    if (x.fits place (x.below place) && x.below place != 0) && x.fits place (x.below place + 1) then
      if nearer then some (x.below place) else some (x.below place + 1)
    else if x.fits place (x.below place) && x.below place != 0 then some (x.below place)
    else if x.fits place (x.below place + 1) then some (x.below place + 1)
    else none :=
  ⟨_, rfl⟩

theorem roundsTo_of_onGrid? {x : Double} {place : Int} {d : Nat}
    (h : x.onGrid? place = some d) : x.RoundsTo (d * 10 ^ place) ∧ d ≠ 0 := by
  obtain ⟨nearer, heq⟩ := x.onGrid?_eq place
  rw [heq] at h
  rw [← fits_iff]
  split_ifs at h <;> cases h <;> simp_all

theorem isSome_onGrid? {x : Double} {place : Int}
    (h : (x.fits place (x.below place) = true ∧ x.below place ≠ 0) ∨
      x.fits place (x.below place + 1) = true) : ∃ d, x.onGrid? place = some d := by
  obtain ⟨nearer, heq⟩ := x.onGrid?_eq place
  rw [heq]
  split_ifs <;> simp_all

-- ---------------------------------------------------------------------------
-- Seventeen digits
-- ---------------------------------------------------------------------------

theorem decimalLength_pos (n : Nat) : 0 < decimalLength n :=
  Nat.length_toDigits_pos

theorem decimalLength_bounds {n : Nat} (h : n ≠ 0) :
    (10 : ℚ) ^ ((decimalLength n : Int) - 1) ≤ n ∧ (n : ℚ) < 10 ^ (decimalLength n : Int) := by
  have hpos := decimalLength_pos n
  have hhigh : n < 10 ^ decimalLength n :=
    (Nat.length_toDigits_le_iff (by decide) hpos).mp (le_refl _)
  have hlow : 10 ^ (decimalLength n - 1) ≤ n := by
    rcases Nat.eq_or_lt_of_le hpos with hone | hmore
    · rw [← hone]
      simpa [Nat.one_le_iff_ne_zero] using h
    · by_contra hlt
      have := (Nat.length_toDigits_le_iff (b := 10) (by decide) (by omega)).mpr (not_le.mp hlt)
      rw [← decimalLength] at this
      omega
  refine ⟨?_, ?_⟩
  · rw [show (decimalLength n : Int) - 1 = ((decimalLength n - 1 : Nat) : Int) by omega,
      zpow_natCast]
    exact_mod_cast hlow
  · rw [zpow_natCast]
    exact_mod_cast hhigh

theorem fraction_eq (x : Double) :
    (x.fraction.1 : ℚ) / x.fraction.2 = x.magnitude ∧ 0 < x.fraction.2 := by
  have hdown : (0 : ℚ) < (twoPow x.exponent).2 := by exact_mod_cast twoPow_snd_pos _
  refine ⟨?_, twoPow_snd_pos _⟩
  simp only [fraction, magnitude]
  push_cast
  rw [twoPow_eq]
  field_simp

theorem ten_zpow_succ (e : Int) : (10 : ℚ) ^ (e + 1) = 10 * 10 ^ e := by
  rw [zpow_add_one₀ (by norm_num), mul_comm]

theorem firstPlace_bounds {x : Double} (hm : x.mantissa ≠ 0) :
    10 ^ (x.firstPlace - 1) ≤ x.magnitude ∧ x.magnitude < 10 ^ x.firstPlace := by
  obtain ⟨hvalue, hden⟩ := x.fraction_eq
  have hnum : x.fraction.1 ≠ 0 := Nat.mul_ne_zero hm (twoPow_fst_pos x.exponent).ne'
  generalize hn : x.fraction.1 = num at *
  generalize hd : x.fraction.2 = den at *
  have hden' : (0 : ℚ) < den := by exact_mod_cast hden
  let guess : Int := (decimalLength num : Int) - (decimalLength den : Int)
  have heq : x.firstPlace =
      if num * (tenPow guess).2 < den * (tenPow guess).1 then guess else guess + 1 := by
    subst hn hd
    rfl
  have hdown : (0 : ℚ) < (tenPow guess).2 := by exact_mod_cast tenPow_snd_pos _
  have htest : num * (tenPow guess).2 < den * (tenPow guess).1 ↔ x.magnitude < 10 ^ guess := by
    rw [← hvalue, div_lt_iff₀ hden', ← mul_lt_mul_iff_left₀ hdown, ← Nat.cast_lt (α := ℚ)]
    push_cast
    rw [tenPow_eq]
    ring_nf
  obtain ⟨hnumLow, hnumHigh⟩ := decimalLength_bounds hnum
  obtain ⟨hdenLow, hdenHigh⟩ := decimalLength_bounds hden.ne'
  have hpos : (0 : ℚ) < 10 ^ (guess - 1) := by positivity
  -- the guess is right or one too small
  have hlow : 10 ^ (guess - 1) ≤ x.magnitude := by
    rw [← hvalue, le_div_iff₀ hden']
    have hsplit : (10 : ℚ) ^ ((decimalLength num : Int) - 1) =
        10 ^ (guess - 1) * 10 ^ (decimalLength den : Int) := by
      rw [← zpow_add₀ (by norm_num)]
      congr 1
      omega
    rw [hsplit] at hnumLow
    nlinarith
  have hhigh : x.magnitude < 10 ^ (guess + 1) := by
    rw [← hvalue, div_lt_iff₀ hden']
    have hsplit : (10 : ℚ) ^ (decimalLength num : Int) =
        10 ^ (guess + 1) * 10 ^ ((decimalLength den : Int) - 1) := by
      rw [← zpow_add₀ (by norm_num)]
      congr 1
      omega
    rw [hsplit] at hnumHigh
    have : (0 : ℚ) < 10 ^ (guess + 1) := by positivity
    nlinarith
  rw [heq]
  split_ifs with hcond
  · exact ⟨hlow, htest.mp hcond⟩
  · rw [Int.add_sub_cancel]
    exact ⟨not_lt.mp (mt htest.mpr hcond), hhigh⟩

theorem roundsTo_of_lt {x : Double} {q : ℚ} (hlow : x.interval.low * 2 ^ (x.exponent - 2) < q)
    (hhigh : q < x.interval.high * 2 ^ (x.exponent - 2)) : x.RoundsTo q := by
  unfold RoundsTo Interval.Contains
  split
  · exact ⟨hlow.le, hhigh.le⟩
  · exact ⟨hlow, hhigh⟩

/-- On a grid of seventeen digits a neighbour is at most half a step away, and a step is small
against the width of the interval. -/
theorem exists_onGrid?_seventeen {x : Double} (hx : x.InFormat) (hm : x.mantissa ≠ 0) :
    ∃ d, x.onGrid? (x.firstPlace - 17) = some d := by
  have hmantissa : (1 : ℚ) ≤ x.mantissa := by exact_mod_cast Nat.one_le_iff_ne_zero.mpr hm
  have hleast : (leastFullMantissa : ℚ) = 4503599627370496 := by norm_num [leastFullMantissa]
  have hmlt : (x.mantissa : ℚ) + 1 ≤ 2 * leastFullMantissa := by exact_mod_cast hx.mantissa_lt
  rw [hleast] at hmlt
  have hunit : (0 : ℚ) < 2 ^ (x.exponent - 2) := by positivity
  have hstep : (0 : ℚ) < 10 ^ (x.firstPlace - 17) := by positivity
  have hsmall : 10 ^ 16 * (10 : ℚ) ^ (x.firstPlace - 17) ≤ x.magnitude := by
    refine le_trans (le_of_eq ?_) (firstPlace_bounds hm).1
    rw [← zpow_natCast, ← zpow_add₀ (by norm_num)]
    congr 1
    push_cast
    omega
  obtain ⟨hbelow, habove⟩ := x.below_bounds (x.firstPlace - 17)
  have hmag : x.magnitude = 4 * x.mantissa * 2 ^ (x.exponent - 2) := by
    rw [magnitude, zpow_eq_four_mul x.exponent]
    ring
  have hhigh : (x.interval.high : ℚ) = 4 * x.mantissa + 2 := by simp [interval]
  have hlow : (x.interval.low : ℚ) ≤ 4 * x.mantissa - 1 := by
    have : x.interval.low + 1 ≤ 4 * x.mantissa := by
      simp only [interval]
      split_ifs <;> omega
    have : (x.interval.low : ℚ) + 1 ≤ 4 * x.mantissa := by exact_mod_cast this
    linarith
  -- half a step, against the width of the interval below the number
  have hwidth : x.interval.low * (2 : ℚ) ^ (x.exponent - 2) <
      x.magnitude - 10 ^ (x.firstPlace - 17) / 2 := by
    by_cases hmin : x.mantissa = leastFullMantissa
    · rw [hmin, hleast] at hmag hlow
      nlinarith
    · have hlow : (x.interval.low : ℚ) ≤ 4 * x.mantissa - 2 := by
        have : x.interval.low + 2 ≤ 4 * x.mantissa := by
          have hcond : (x.mantissa == leastFullMantissa) = false := by simpa using hmin
          simp only [interval, hcond, Bool.false_and, Bool.false_eq_true, if_false]
          omega
        have : (x.interval.low : ℚ) + 2 ≤ 4 * x.mantissa := by exact_mod_cast this
        linarith
      nlinarith
  have hroom : x.magnitude + (10 : ℚ) ^ (x.firstPlace - 17) / 2 <
      x.interval.high * 2 ^ (x.exponent - 2) := by
    rw [hhigh]
    nlinarith
  refine isSome_onGrid? ?_
  simp only [fits_iff]
  push_cast
  by_cases hnear : x.magnitude ≤
      x.below (x.firstPlace - 17) * 10 ^ (x.firstPlace - 17) + 10 ^ (x.firstPlace - 17) / 2
  · refine .inl ⟨roundsTo_of_lt (by linarith) (by linarith), ?_⟩
    intro hzero
    rw [hzero] at habove
    push_cast at habove
    linarith
  · exact .inr (roundsTo_of_lt (by linarith) (by linarith))

-- ---------------------------------------------------------------------------
-- The shortest decimal
-- ---------------------------------------------------------------------------

theorem searchGrid_spec {x : Double} {first : Int} {places : List Nat}
    (h : ∃ n ∈ places, ∃ d, x.onGrid? (first - n) = some d) :
    x.RoundsTo (searchGrid x first places).value := by
  induction places with
  | nil =>
    obtain ⟨n, hn, -⟩ := h
    cases hn
  | cons n more ih =>
    rw [searchGrid]
    cases hgrid : x.onGrid? (first - n) with
    | some d => exact (roundsTo_of_onGrid? hgrid).1
    | none =>
      refine ih ?_
      obtain ⟨k, hk, d, hd⟩ := h
      rcases List.mem_cons.mp hk with rfl | hk
      · rw [hgrid] at hd
        cases hd
      · exact ⟨k, hk, d, hd⟩

theorem Decimal.value_strip (fuel : Nat) (d : Decimal) : (strip fuel d).value = d.value := by
  induction fuel generalizing d with
  | zero => rfl
  | succ fuel ih =>
    rw [strip]
    split
    · rename_i hzero
      have hmod : d.digits % 10 = 0 := by simp_all
      have hdigits : d.digits = d.digits / 10 * 10 := by omega
      rw [ih, value, value, ten_zpow_succ]
      conv_rhs => rw [hdigits]
      push_cast
      ring
    · rfl

theorem roundsTo_shortest {x : Double} (hx : x.InFormat) (hm : x.mantissa ≠ 0) :
    x.RoundsTo x.shortest.value := by
  rw [shortest, Decimal.value_strip]
  refine searchGrid_spec ⟨17, by decide, ?_⟩
  exact exists_onGrid?_seventeen hx hm

theorem pos_of_roundsTo {x : Double} {q : ℚ} (hm : x.mantissa ≠ 0) (h : x.RoundsTo q) : 0 < q := by
  have hmantissa : (1 : ℚ) ≤ x.mantissa := by exact_mod_cast Nat.one_le_iff_ne_zero.mpr hm
  have hunit : (0 : ℚ) < 2 ^ x.exponent := by positivity
  have := h.bounds.1
  nlinarith

theorem two_pow_lt : (2 : ℚ) ^ (1024 : Int) ≤ 10 ^ (309 : Int) := by
  calc (2 : ℚ) ^ (1024 : Int) = (2 ^ (128 : Nat)) ^ (8 : Nat) := by
        rw [← pow_mul, ← zpow_natCast]
        rfl
    _ ≤ (4 * 10 ^ (38 : Nat)) ^ (8 : Nat) := by gcongr; norm_num
    _ = 4 ^ (8 : Nat) * 10 ^ (304 : Int) := by
        rw [mul_pow, ← pow_mul, ← zpow_natCast (10 : ℚ)]
        rfl
    _ ≤ 10 ^ (5 : Int) * 10 ^ (304 : Int) := by gcongr; norm_num
    _ = 10 ^ (309 : Int) := by rw [← zpow_add₀ (by norm_num)]; rfl

theorem roundsTo_bounds {x : Double} (hx : x.InFormat) (hm : x.mantissa ≠ 0) {q : ℚ}
    (h : x.RoundsTo q) : (10 : ℚ) ^ (-329 : Int) < q ∧ q < 10 ^ (309 : Int) := by
  obtain ⟨hlow, hhigh, -⟩ := h.bounds
  have hmantissa : (1 : ℚ) ≤ x.mantissa := by exact_mod_cast Nat.one_le_iff_ne_zero.mpr hm
  have hmlt : (x.mantissa : ℚ) + 1 ≤ 2 * leastFullMantissa := by exact_mod_cast hx.mantissa_lt
  have hunit : (0 : ℚ) < 2 ^ x.exponent := by positivity
  have hbig := two_pow_lt
  have hbigPos : (0 : ℚ) < 2 ^ (1024 : Int) := zpow_pos (by norm_num) _
  refine ⟨?_, ?_⟩
  · have hleast : (2 : ℚ) ^ leastExponent ≤ 2 ^ x.exponent :=
      zpow_le_zpow_right₀ (by norm_num) hx.least_le
    have hten : (10 : ℚ) ^ (-329 : Int) * 10 ^ 20 * 10 ^ (309 : Int) = 1 := by
      rw [← zpow_natCast, ← zpow_add₀ (by norm_num), ← zpow_add₀ (by norm_num)]
      norm_num
    have htwo : (2 : ℚ) ^ leastExponent * 2 ^ 50 * 2 ^ (1024 : Int) = 1 := by
      rw [← zpow_natCast, ← zpow_add₀ (by norm_num), ← zpow_add₀ (by norm_num)]
      norm_num [leastExponent]
    have htenPos : (0 : ℚ) < 10 ^ (-329 : Int) := zpow_pos (by norm_num) _
    generalize (2 : ℚ) ^ x.exponent = unit at *
    generalize (2 : ℚ) ^ leastExponent = least at *
    generalize (10 : ℚ) ^ (-329 : Int) = small at *
    generalize (2 : ℚ) ^ (1024 : Int) = big at *
    generalize (10 : ℚ) ^ (309 : Int) = bound at *
    have hhalf : least ≤ 2 * q := by nlinarith
    by_contra hsmall
    have hmul : least * big ≤ 2 * small * bound :=
      mul_le_mul (by linarith) hbig hbigPos.le (by positivity)
    norm_num at hten htwo
    linarith
  · have hgreatest : (2 : ℚ) ^ x.exponent ≤ 2 ^ greatestExponent :=
      zpow_le_zpow_right₀ (by norm_num) hx.le_greatest
    have htwo : (2 : ℚ) * leastFullMantissa * 2 ^ greatestExponent = 2 ^ (1024 : Int) := by
      have : (2 : ℚ) * leastFullMantissa = 2 ^ (53 : Int) := by norm_num [leastFullMantissa]
      rw [this, ← zpow_add₀ (by norm_num)]
      rfl
    generalize (2 : ℚ) ^ x.exponent = unit at *
    generalize (2 : ℚ) ^ greatestExponent = greatest at *
    generalize (2 : ℚ) ^ (1024 : Int) = big at *
    generalize (10 : ℚ) ^ (309 : Int) = bound at *
    calc q < (x.mantissa + 1) * unit := by linarith
      _ ≤ 2 * leastFullMantissa * unit := mul_le_mul_of_nonneg_right hmlt hunit.le
      _ ≤ 2 * leastFullMantissa * greatest := mul_le_mul_of_nonneg_left hgreatest (by positivity)
      _ = big := htwo
      _ ≤ bound := hbig

/-- Digits that round to a number are read as that number: their first place is never so far out
that they are settled without rounding. -/
theorem ofDecimal_of_roundsTo {x : Double} (hx : x.InFormat) (hm : x.mantissa ≠ 0) {digits : Nat}
    {exponent : Int} (h : x.RoundsTo (digits * 10 ^ exponent)) :
    ofDecimal x.negative digits exponent = some x := by
  have hdigits : digits ≠ 0 := by
    rintro rfl
    simpa using pos_of_roundsTo hm h
  obtain ⟨hlow, hhigh⟩ := decimalLength_bounds hdigits
  obtain ⟨hmin, hmax⟩ := roundsTo_bounds hx hm h
  have hpos : (0 : ℚ) < 10 ^ exponent := by positivity
  have hfirst : (decimalLength digits : Int) + exponent - 1 < 309 := by
    rw [← zpow_lt_zpow_iff_right₀ (a := (10 : ℚ)) (by norm_num)]
    refine lt_of_le_of_lt ?_ hmax
    rw [show (decimalLength digits : Int) + exponent - 1 = (decimalLength digits - 1) + exponent by
      omega, zpow_add₀ (by norm_num)]
    exact mul_le_mul_of_nonneg_right hlow hpos.le
  have hlast : -329 < (decimalLength digits : Int) + exponent := by
    rw [← zpow_lt_zpow_iff_right₀ (a := (10 : ℚ)) (by norm_num)]
    refine hmin.trans ?_
    rw [zpow_add₀ (by norm_num)]
    exact mul_lt_mul_of_pos_right hhigh hpos
  have hne : (digits == 0) = false := by simpa using hdigits
  simp only [ofDecimal, hne, Bool.false_eq_true, if_false]
  rw [if_neg (by omega), if_neg (by omega)]
  refine round_of_roundsTo hx hm (tenPow_snd_pos exponent) ?_
  have hdown : (0 : ℚ) < (tenPow exponent).2 := by exact_mod_cast tenPow_snd_pos exponent
  have hvalue : ((digits * (tenPow exponent).1 : Nat) : ℚ) / (tenPow exponent).2 =
      digits * 10 ^ exponent := by
    push_cast
    rw [tenPow_eq]
    field_simp
  rwa [hvalue]

end SocketDocs.Double
