import ReplyScript.Proofs.Decimal.Value

/-! # Rounding

Rounding a fraction gives the number of the format that is nearest to it, and of two that are equally
near the one with the even significand. Main statements: `BinaryFormat.rounds_round`, and
`BinaryFormat.Rounds.unique`, a value is rounded to one value only.
-/

namespace ReplyScript.Decimal

/-! ## Whole numbers of steps -/

/-- The whole number is at most half a step away, and at half a step it is the even neighbour. -/
theorem roundHalfEven_near (num : Nat) {den : Nat} (positive : 0 < den) :
    2 * |(num : ℚ) / den - roundHalfEven num den| ≤ 1
      ∧ (2 * |(num : ℚ) / den - roundHalfEven num den| = 1 → roundHalfEven num den % 2 = 0) := by
  have den_pos : (0 : ℚ) < den := by exact_mod_cast positive
  obtain ⟨r, rest⟩ : ∃ r : ℚ, r = ((num % den : Nat) : ℚ) / den := ⟨_, rfl⟩
  have parts : (num : ℚ) / den = (num / den : Nat) + r := by
    rw [rest, div_eq_iff den_pos.ne', add_mul, div_mul_cancel₀ _ den_pos.ne']
    exact_mod_cast (Nat.div_add_mod' num den).symm
  have low : 0 ≤ r := by
    rw [rest]
    positivity
  have below : 2 * (num % den) < den ↔ 2 * r < 1 := by
    rw [rest, ← mul_div_assoc, div_lt_one den_pos]
    norm_cast
  have above : den < 2 * (num % den) ↔ 1 < 2 * r := by
    rw [rest, ← mul_div_assoc, one_lt_div den_pos]
    norm_cast
  have high : r < 1 := by
    rw [rest, div_lt_one den_pos]
    exact_mod_cast Nat.mod_lt num positive
  have up : (num : ℚ) / den - (num / den + 1 : Nat) = r - 1 := by
    rw [parts]
    push_cast
    ring
  have down : (num : ℚ) / den - (num / den : Nat) = r := by
    rw [parts, add_sub_cancel_left]
  unfold roundHalfEven
  simp only [below, above]
  split
  · rename_i less
    rw [down, abs_of_nonneg low]
    exact ⟨less.le, fun half => absurd half less.ne⟩
  · rename_i atLeast
    split
    · rename_i more
      rw [up, abs_of_nonpos (by linarith)]
      exact ⟨by linarith, fun half => by linarith⟩
    · rename_i atMost
      have half : 2 * r = 1 := le_antisymm (not_lt.mp atMost) (not_lt.mp atLeast)
      split
      · rename_i even
        rw [down, abs_of_nonneg low]
        exact ⟨half.le, fun _ => even⟩
      · rename_i odd
        rw [up, abs_of_nonpos (by linarith)]
        exact ⟨by linarith, fun _ => by omega⟩

/-- A whole number that is at most half a step away is nearer than any below it, or the next one
below is at the same distance. -/
theorem near_beats_below {t : ℚ} {s k : Int} (near : 2 * |t - s| ≤ 1) (less : k < s) :
    |t - s| < |t - k| ∨ (|t - s| = |t - k| ∧ 2 * |t - s| = 1 ∧ k = s - 1) := by
  obtain ⟨low, high⟩ := abs_le.mp (show |t - s| ≤ 1 / 2 by linarith)
  have step : (k : ℚ) ≤ s - 1 := by exact_mod_cast Int.le_sub_one_of_lt less
  have far : |t - k| = t - k := abs_of_nonneg (by linarith)
  rw [far]
  by_cases half : t - s = -(1 / 2)
  · rw [half, abs_neg, abs_of_nonneg (by norm_num)]
    by_cases next : k = s - 1
    · right
      have behind : (k : ℚ) = s - 1 := by exact_mod_cast next
      exact ⟨by linarith, by norm_num, next⟩
    · left
      have behind : (k : ℚ) ≤ s - 2 := by exact_mod_cast (by omega : k ≤ s - 2)
      linarith
  · left
    have short : -(1 / 2) < t - s := lt_of_le_of_ne low (Ne.symm half)
    exact abs_lt.mpr ⟨by linarith, by linarith⟩

/-- The same on both sides. -/
theorem near_beats {t : ℚ} {s k : Int} (near : 2 * |t - s| ≤ 1) (other : k ≠ s) :
    |t - s| < |t - k| ∨ (|t - s| = |t - k| ∧ 2 * |t - s| = 1 ∧ (k = s - 1 ∨ k = s + 1)) := by
  rcases lt_or_gt_of_ne other with less | more
  · exact (near_beats_below near less).imp_right fun tie => ⟨tie.1, tie.2.1, .inl tie.2.2⟩
  · have mirror (j : Int) : |-t - (-j : Int)| = |t - j| := by
      rw [← abs_neg]
      push_cast
      ring_nf
    have mirrored := near_beats_below (t := -t) (s := -s) (k := -k) (by rwa [mirror]) (by omega)
    rw [mirror, mirror] at mirrored
    exact mirrored.imp_right fun tie => ⟨tie.1, tie.2.1, .inr (by omega)⟩

theorem near_le {t : ℚ} {s : Int} (near : 2 * |t - s| ≤ 1) (k : Int) : |t - s| ≤ |t - k| := by
  by_cases same : k = s
  · rw [same]
  · exact (near_beats near same).elim (·.le) (·.1.le)

theorem div_lt_iff_cast {num den k : Nat} (positive : 0 < den) :
    num / den < k ↔ (num : ℚ) / den < k := by
  rw [Nat.div_lt_iff_lt_mul positive, div_lt_iff₀ (by exact_mod_cast positive)]
  norm_cast

/-! ## Exponents -/

theorem log2_bounds {n : Nat} (positive : 0 < n) :
    (2 : ℚ) ^ (n.log2 : Int) ≤ n ∧ (n : ℚ) < 2 ^ ((n.log2 : Int) + 1) := by
  constructor
  · rw [zpow_natCast]
    exact_mod_cast Nat.log2_self_le positive.ne'
  · rw [← Nat.cast_succ, zpow_natCast]
    exact_mod_cast Nat.lt_log2_self

theorem log2_sub_bounds {num den : Nat} (above : 0 < num) (positive : 0 < den) :
    (2 : ℚ) ^ ((num.log2 : Int) - den.log2 - 1) ≤ num / den
      ∧ (num : ℚ) / den < 2 ^ ((num.log2 : Int) - den.log2 + 1) := by
  have den_pos : (0 : ℚ) < den := by exact_mod_cast positive
  obtain ⟨num_low, num_high⟩ := log2_bounds above
  obtain ⟨den_low, den_high⟩ := log2_bounds positive
  rw [le_div_iff₀ den_pos, div_lt_iff₀ den_pos]
  constructor
  · calc (2 : ℚ) ^ ((num.log2 : Int) - den.log2 - 1) * den
        ≤ 2 ^ ((num.log2 : Int) - den.log2 - 1) * 2 ^ ((den.log2 : Int) + 1) := by gcongr
      _ = 2 ^ (num.log2 : Int) := by
          rw [← zpow_add₀ two_ne_zero]
          congr 1
          omega
      _ ≤ num := num_low
  · calc (num : ℚ) < 2 ^ ((num.log2 : Int) + 1) := num_high
      _ = 2 ^ ((num.log2 : Int) - den.log2 + 1) * 2 ^ (den.log2 : Int) := by
          rw [← zpow_add₀ two_ne_zero]
          congr 1
          omega
      _ ≤ 2 ^ ((num.log2 : Int) - den.log2 + 1) * den := by gcongr

/-- The exponent leaves room for the significand, which has all of its bits unless the exponent is
the least of the format. -/
theorem BinaryFormat.exponentOf_bounds (f : BinaryFormat) {num den : Nat} (above : 0 < num)
    (positive : 0 < den) :
    f.minExponent ≤ f.exponentOf num den
      ∧ (num : ℚ) / den < 2 ^ (f.exponentOf num den + f.precision)
      ∧ (f.exponentOf num den = f.minExponent
        ∨ 2 ^ (f.exponentOf num den + f.precision - 1) ≤ (num : ℚ) / den) := by
  obtain ⟨guess, guessed⟩ : ∃ guess : Int, guess = num.log2 - den.log2 - f.precision := ⟨_, rfl⟩
  obtain ⟨low, high⟩ := log2_sub_bounds above positive
  rw [show (num.log2 : Int) - den.log2 = guess + f.precision by omega] at low high
  have tried : (scaleFraction num den (-guess)).1 / (scaleFraction num den (-guess)).2
      < Nat.pow 2 f.precision ↔ (num : ℚ) / den < 2 ^ (guess + f.precision) := by
    rw [div_lt_iff_cast (scaleFraction_den_pos positive _), value_scaleFraction, zpow_neg,
      ← div_eq_mul_inv, div_lt_iff₀ (by positivity), zpow_add₀ two_ne_zero, mul_comm,
      Nat.pow_eq,
      Nat.cast_pow, Nat.cast_ofNat, zpow_natCast]
  have found (e : Int) (least : (2 : ℚ) ^ (e + f.precision - 1) ≤ num / den)
      (greatest : (num : ℚ) / den < 2 ^ (e + f.precision)) :
      f.minExponent ≤ max e f.minExponent
        ∧ (num : ℚ) / den < 2 ^ (max e f.minExponent + f.precision)
        ∧ (max e f.minExponent = f.minExponent
          ∨ 2 ^ (max e f.minExponent + f.precision - 1) ≤ (num : ℚ) / den) := by
    refine ⟨le_max_right _ _, greatest.trans_le ?_, ?_⟩
    · exact zpow_le_zpow_right₀ one_le_two (by omega)
    · rcases le_total f.minExponent e with inside | outside
      · rw [max_eq_left inside]
        exact .inr least
      · exact .inl (max_eq_right outside)
  unfold exponentOf
  simp only [← guessed, tried]
  split
  · rename_i small
    exact found guess low small
  · rename_i large
    refine found (guess + 1) ?_ ?_
    · rw [show guess + 1 + f.precision - 1 = guess + f.precision by omega]
      exact not_lt.mp large
    · rw [show guess + 1 + f.precision = guess + f.precision + 1 by omega]
      exact high

/-! ## Numbers of a format -/

namespace BinaryFormat

/-- The number is within the bounds of the format. -/
structure Fits (f : BinaryFormat) (x : Binary) : Prop where
  significand : x.significand < 2 ^ f.precision
  low : f.minExponent ≤ x.exponent
  high : x.exponent ≤ f.maxExponent

/-- The significand has all of its bits, unless the exponent is the least of the format. There is
one such number for each value but zero, which has a sign. -/
def Full (f : BinaryFormat) (x : Binary) : Prop :=
  x.exponent = f.minExponent ∨ 2 ^ f.precision ≤ 2 * x.significand

end BinaryFormat

/-- One number is nearer to a value than another, or as near, and it is the one of the two whose
significand is even. -/
def Binary.Beats (x y : Binary) (q : ℚ) : Prop :=
  |q - x.value| < |q - y.value|
    ∨ (|q - x.value| = |q - y.value| ∧ x.significand % 2 = 0 ∧ y.significand % 2 = 1)

/-- A number of the format is what a value is rounded to: the nearest one, and of two that are
equally near the one whose significand is even. -/
structure BinaryFormat.Rounds (f : BinaryFormat) (q : ℚ) (x : Binary) : Prop where
  fits : f.Fits x
  full : f.Full x
  beats : ∀ y, f.Fits y → y.value ≠ x.value → x.Beats y q

theorem Binary.Beats.not_beaten {x y : Binary} {q : ℚ} (beats : x.Beats y q) : ¬ y.Beats x q := by
  rintro (less | ⟨tie, even, odd⟩)
  · rcases beats with more | ⟨tie, -, -⟩
    · exact less.asymm more
    · exact less.ne' tie
  · rcases beats with more | ⟨-, even', -⟩
    · exact more.ne' tie
    · omega

/-- A value is rounded to one value. -/
theorem BinaryFormat.Rounds.unique {f : BinaryFormat} {q : ℚ} {x y : Binary} (first : f.Rounds q x)
    (second : f.Rounds q y) : x.value = y.value := by
  by_contra other
  exact (first.beats y second.fits (Ne.symm other)).not_beaten (second.beats x first.fits other)

/-! ## What rounding gives -/

/-- How a positive fraction was rounded: to `steps` steps of `2 ^ unit`. -/
structure RoundedBy (f : BinaryFormat) (q : ℚ) (x : Binary) (steps : Nat) (unit : Int) : Prop where
  magnitude : x.magnitude = steps * 2 ^ unit
  near : 2 * |q / 2 ^ unit - steps| ≤ 1
  tie : 2 * |q / 2 ^ unit - steps| = 1 → x.significand % 2 = 0 ∧ steps % 2 = 0
  low : f.minExponent ≤ unit
  below : q < 2 ^ (unit + f.precision)
  high : unit = f.minExponent ∨ 2 ^ (unit + f.precision - 1) ≤ q

theorem steps_lt_iff {q : ℚ} {e : Int} {p : Nat} :
    q / 2 ^ e < (2 ^ p : Nat) ↔ q < 2 ^ (e + p) := by
  rw [div_lt_iff₀ (by positivity), Nat.cast_pow, Nat.cast_ofNat, ← zpow_natCast,
    ← zpow_add₀ two_ne_zero, add_comm]

theorem le_steps_iff {q : ℚ} {e : Int} {p : Nat} :
    ((2 ^ p : Nat) : ℚ) ≤ 2 * (q / 2 ^ e) ↔ 2 ^ (e + p - 1) ≤ q := by
  have twice : (2 : ℚ) ^ ((p : Int) + e) = 2 * 2 ^ (e + p - 1) := by
    rw [← zpow_one_add₀ two_ne_zero]
    congr 1
    omega
  rw [← mul_div_assoc, le_div_iff₀ (by positivity), Nat.cast_pow, Nat.cast_ofNat, ← zpow_natCast,
    ← zpow_add₀ two_ne_zero, twice, mul_le_mul_iff_right₀ two_pos]

section

variable {t : ℚ} {s p : Nat}

theorem le_of_near (near : 2 * |t - s| ≤ 1) (below : t < (2 ^ p : Nat)) : s ≤ 2 ^ p := by
  obtain ⟨back, -⟩ := abs_le.mp (show |t - s| ≤ 1 / 2 by linarith)
  have close : (s : ℚ) < (2 ^ p : Nat) + 1 := by linarith
  exact Nat.lt_succ_iff.mp (by exact_mod_cast close)

theorem full_of_near (even : 2 ^ p % 2 = 0) (near : 2 * |t - s| ≤ 1)
    (above : ((2 ^ p : Nat) : ℚ) ≤ 2 * t) : 2 ^ p ≤ 2 * s := by
  obtain ⟨-, forth⟩ := abs_le.mp (show |t - s| ≤ 1 / 2 by linarith)
  have close : ((2 ^ p : Nat) : ℚ) < (2 * s + 2 : Nat) := by
    simp only [Nat.cast_add, Nat.cast_mul, Nat.cast_ofNat]
    linarith
  have close : 2 ^ p < 2 * s + 2 := by exact_mod_cast close
  omega

theorem half_mul_zpow (even : s % 2 = 0) (e : Int) :
    ((s / 2 : Nat) : ℚ) * 2 ^ (e + 1) = s * 2 ^ e := by
  obtain ⟨half, rfl⟩ := Nat.dvd_of_mod_eq_zero even
  rw [Nat.mul_div_cancel_left half two_pos, zpow_add_one₀ two_ne_zero]
  push_cast
  ring

end

/-- Rounding counts steps of the exponent that fits, and carries if there is one bit too many. -/
theorem BinaryFormat.round_steps {f : BinaryFormat} {negative : Bool} {num den : Nat} {x : Binary}
    (wide : 2 ≤ f.precision) (above : 0 < num) (positive : 0 < den)
    (rounded : f.round negative num den = some x) :
    x.negative = negative ∧ f.Fits x ∧ f.Full x
      ∧ ∃ steps unit, RoundedBy f (num / den) x steps unit := by
  obtain ⟨quarter, whole, nonzero⟩ : ∃ quarter, 2 ^ f.precision = 4 * quarter ∧ 0 < quarter := by
    obtain ⟨k, bits⟩ : ∃ k, f.precision = 2 + k := ⟨f.precision - 2, by omega⟩
    rw [bits]
    exact ⟨2 ^ k, pow_add 2 2 k, by positivity⟩
  obtain ⟨low, below, high⟩ := f.exponentOf_bounds above positive
  unfold round at rounded
  rw [if_neg above.ne'] at rounded
  dsimp only at rounded
  obtain ⟨e, exponent⟩ : ∃ e, e = f.exponentOf num den := ⟨_, rfl⟩
  rw [← exponent] at rounded low below high
  have den_pos : 0 < (scaleFraction num den (-e)).2 := scaleFraction_den_pos positive _
  obtain ⟨near, even⟩ := roundHalfEven_near (scaleFraction num den (-e)).1 den_pos
  rw [value_scaleFraction, zpow_neg, ← div_eq_mul_inv] at near even
  generalize roundHalfEven (scaleFraction num den (-e)).1 (scaleFraction num den (-e)).2 = s
    at rounded near even
  have room : s ≤ 2 ^ f.precision := le_of_near near (steps_lt_iff.mpr below)
  have bits : e = f.minExponent ∨ 2 ^ f.precision ≤ 2 * s :=
    high.imp_right fun full => full_of_near (by omega) near (le_steps_iff.mpr full)
  rw [Nat.pow_eq] at rounded
  split at rounded
  · -- The significand has one bit too many, and the exponent is raised.
    rename_i full
    simp only [Option.ite_none_left_eq_some, not_lt, Option.some.injEq] at rounded
    obtain ⟨inside, rfl⟩ := rounded
    refine ⟨rfl, ⟨?_, ?_, inside⟩, .inr ?_, s, e, half_mul_zpow (by omega) e, near, ?_, low, below,
      high⟩
    · show s / 2 < 2 ^ f.precision
      omega
    · show f.minExponent ≤ e + 1
      omega
    · show 2 ^ f.precision ≤ 2 * (s / 2)
      omega
    · intro tie
      exact ⟨show s / 2 % 2 = 0 by omega, even tie⟩
  · rename_i less
    simp only [Option.ite_none_left_eq_some, not_lt, Option.some.injEq] at rounded
    obtain ⟨inside, rfl⟩ := rounded
    exact ⟨rfl, ⟨lt_of_le_of_ne room less, low, inside⟩, bits, s, e, rfl, near,
      fun tie => ⟨even tie, even tie⟩, low, below, high⟩

/-- No other number of the format beats what a size was rounded to. -/
theorem RoundedBy.beats {f : BinaryFormat} {q : ℚ} {x y : Binary} {steps : Nat} {unit : Int}
    (wide : 2 ≤ f.precision) (counted : RoundedBy f q x steps unit) (fits : f.Fits y)
    (other : y.magnitude ≠ x.magnitude) :
    |q - x.magnitude| < |q - y.magnitude| ∨ (|q - x.magnitude| = |q - y.magnitude|
      ∧ x.significand % 2 = 0 ∧ y.significand % 2 = 1) := by
  have unit_pos : (0 : ℚ) < 2 ^ unit := by positivity
  -- Distances are measured in steps.
  have inSteps (n : Nat) : |q - n * 2 ^ unit| = |q / 2 ^ unit - (n : Int)| * 2 ^ unit := by
    rw [← abs_of_pos unit_pos, ← abs_mul, sub_mul, abs_of_pos unit_pos,
      div_mul_cancel₀ _ unit_pos.ne', Int.cast_natCast]
  have near : 2 * |q / 2 ^ unit - (steps : Int)| ≤ 1 := counted.near
  rw [counted.magnitude] at other ⊢
  by_cases wider : unit ≤ y.exponent
  · rw [Binary.magnitude_steps wider] at other ⊢
    have apart : ((y.significand * 2 ^ (y.exponent - unit).toNat : Nat) : Int) ≠ steps := by
      intro same
      exact other (by rw [Int.natCast_inj.mp same])
    rw [inSteps, inSteps]
    rcases near_beats near apart with less | ⟨tie, half, next⟩
    · exact .inl ((mul_lt_mul_iff_left₀ unit_pos).mpr less)
    · obtain ⟨even, evenSteps⟩ := counted.tie half
      refine .inr ⟨by rw [tie], even, ?_⟩
      by_contra notOdd
      have evenOther : y.significand * 2 ^ (y.exponent - unit).toNat % 2 = 0 := by
        rw [Nat.mul_mod, show y.significand % 2 = 0 by omega, Nat.zero_mul, Nat.zero_mod]
      omega
  · -- Numbers with narrower steps lie below the first one with all bits, which is no nearer.
    left
    have full := counted.high.resolve_left fun least => wider (by rw [least]; exact fits.low)
    have first : (2 : ℚ) ^ (unit + f.precision - 1) = (2 ^ (f.precision - 1) : Nat) * 2 ^ unit := by
      rw [Nat.cast_pow, Nat.cast_ofNat, ← zpow_natCast, ← zpow_add₀ two_ne_zero]
      congr 1
      omega
    have under : y.magnitude < 2 ^ (unit + f.precision - 1) := by
      calc y.magnitude < (2 ^ f.precision : Nat) * 2 ^ y.exponent := by
            unfold Binary.magnitude
            exact mul_lt_mul_of_pos_right (by exact_mod_cast fits.significand) (by positivity)
        _ = 2 ^ (f.precision + y.exponent) := by
            rw [Nat.cast_pow, Nat.cast_ofNat, ← zpow_natCast, ← zpow_add₀ two_ne_zero]
        _ ≤ 2 ^ (unit + f.precision - 1) := zpow_le_zpow_right₀ one_le_two (by omega)
    calc |q - steps * 2 ^ unit| ≤ |q - 2 ^ (unit + f.precision - 1)| := by
          rw [first, inSteps, inSteps]
          exact mul_le_mul_of_nonneg_right (near_le near _) unit_pos.le
      _ = q - 2 ^ (unit + f.precision - 1) := abs_of_nonneg (sub_nonneg.mpr full)
      _ < q - y.magnitude := sub_lt_sub_left under q
      _ ≤ |q - y.magnitude| := le_abs_self _

/-- A number below zero or not. -/
def signed (negative : Bool) (q : ℚ) : ℚ :=
  if negative then -q else q

theorem abs_signed_sub (negative : Bool) (q r : ℚ) :
    |signed negative q - signed negative r| = |q - r| := by
  cases negative with
  | false => rfl
  | true => rw [signed, signed, if_pos rfl, if_pos rfl, neg_sub_neg, abs_sub_comm]

theorem abs_signed_sub_of_ne {negative other : Bool} (apart : other ≠ negative) (q r : ℚ) :
    |signed negative q - signed other r| = |q + r| := by
  obtain rfl : other = !negative := Bool.eq_not.mpr apart
  cases negative with
  | false =>
      show |q - -r| = |q + r|
      rw [sub_neg_eq_add]
  | true =>
      show |-q - r| = |q + r|
      rw [← neg_add', abs_neg]

theorem Binary.value_eq_signed (x : Binary) : x.value = signed x.negative x.magnitude :=
  rfl

theorem RoundedBy.le_self {f : BinaryFormat} {q : ℚ} {x : Binary} {steps : Nat} {unit : Int}
    (wide : 2 ≤ f.precision) (positive : 0 < q) (counted : RoundedBy f q x steps unit)
    (fits : f.Fits x) : |q - x.magnitude| ≤ q := by
  have empty : (⟨false, 0, f.minExponent⟩ : Binary).magnitude = 0 :=
    Binary.magnitude_eq_zero_iff.mpr rfl
  have zero : f.Fits ⟨false, 0, f.minExponent⟩ :=
    ⟨Nat.two_pow_pos _, le_refl _, fits.low.trans fits.high⟩
  by_cases same : x.magnitude = 0
  · rw [same, sub_zero, abs_of_pos positive]
  · have nearer := counted.beats wide zero (by rw [empty]; exact Ne.symm same)
    rw [empty, sub_zero, abs_of_pos positive] at nearer
    exact nearer.elim (·.le) (·.1.le)

/-- What has a sign is rounded to the number with that sign that its size is rounded to. -/
theorem RoundedBy.rounds {f : BinaryFormat} {q : ℚ} {x : Binary} {steps : Nat} {unit : Int}
    (wide : 2 ≤ f.precision) (positive : 0 < q) (counted : RoundedBy f q x steps unit)
    (fits : f.Fits x) (full : f.Full x) : f.Rounds (signed x.negative q) x := by
  refine ⟨fits, full, fun y within other => ?_⟩
  unfold Binary.Beats
  rw [x.value_eq_signed, y.value_eq_signed, abs_signed_sub] at *
  by_cases same : y.negative = x.negative
  · rw [same, abs_signed_sub]
    exact counted.beats wide within fun size => other (by rw [same, size])
  · rw [abs_signed_sub_of_ne same]
    rcases y.magnitude_nonneg.eq_or_lt with zero | farther
    · have merged : |q + y.magnitude| = |q - y.magnitude| := by rw [← zero, add_zero, sub_zero]
      rw [merged]
      refine counted.beats wide within fun size => other ?_
      rw [← size, ← zero, signed, signed, neg_zero, ite_self, ite_self]
    · -- The other number is on the far side of zero.
      left
      calc |q - x.magnitude| ≤ q := counted.le_self wide positive fits
        _ < q + y.magnitude := lt_add_of_pos_right q farther
        _ ≤ |q + y.magnitude| := le_abs_self _

/-- What a signed fraction is rounded to. -/
theorem BinaryFormat.rounds_round {f : BinaryFormat} {negative : Bool} {num den : Nat} {x : Binary}
    (wide : 2 ≤ f.precision) (ordered : f.minExponent ≤ f.maxExponent) (positive : 0 < den)
    (rounded : f.round negative num den = some x) : f.Rounds (signed negative (num / den)) x := by
  rcases Nat.eq_zero_or_pos num with rfl | above
  · obtain rfl : ⟨negative, 0, f.minExponent⟩ = x := by
      rw [round, if_pos rfl] at rounded
      exact Option.some.inj rounded
    refine ⟨⟨Nat.two_pow_pos _, le_refl _, ordered⟩, .inl rfl, fun y _ other => .inl ?_⟩
    have isZero : (⟨negative, 0, f.minExponent⟩ : Binary).value = 0 := by
      rw [Binary.value_eq_signed, Binary.magnitude_eq_zero_iff.mpr rfl, signed, neg_zero, ite_self]
    rw [isZero] at other ⊢
    rw [Nat.cast_zero, zero_div, signed, neg_zero, ite_self, sub_zero, abs_zero, zero_sub, abs_neg]
    exact abs_pos.mpr other
  · obtain ⟨rfl, fits, full, steps, unit, counted⟩ := round_steps wide above positive rounded
    exact counted.rounds wide (by positivity) fits full

/-! ## Whole numbers -/

theorem signed_natAbs (n : Int) : signed (decide (n < 0)) n.natAbs = n := by
  rw [Nat.cast_natAbs, Int.cast_abs]
  rcases lt_or_ge n 0 with below | above
  · have cast : (n : ℚ) < 0 := by exact_mod_cast below
    rw [signed, decide_eq_true below, if_pos rfl, abs_of_neg cast, neg_neg]
  · have cast : (0 : ℚ) ≤ n := by exact_mod_cast above
    rw [signed, decide_eq_false (not_lt.mpr above), if_neg (by decide), abs_of_nonneg cast]

/-- The conversion of a whole number rounds it. -/
theorem Binary.rounds_ofInt {n : Int} {x : Binary} (converted : Binary.ofInt n = some x) :
    binary64.Rounds n x := by
  have rounded := BinaryFormat.rounds_round (by decide) (by decide) Nat.one_pos converted
  rwa [Nat.cast_one, div_one, signed_natAbs] at rounded

/-- What a number of the format is worth is not changed. -/
theorem BinaryFormat.Rounds.eq_of_fits {f : BinaryFormat} {x y : Binary} (fits : f.Fits y)
    (rounds : f.Rounds y.value x) : x.value = y.value := by
  by_contra other
  rcases rounds.beats y fits (Ne.symm other) with less | ⟨tie, -, -⟩
  · rw [sub_self, abs_zero] at less
    exact (abs_nonneg _).not_gt less
  · rw [sub_self, abs_zero, abs_eq_zero, sub_eq_zero] at tie
    exact other tie.symm

/-- Whole numbers of up to 53 bits, and the next one, are numbers of the format. -/
theorem exists_fits {n : Int} (small : n.natAbs ≤ 2 ^ 53) :
    ∃ x : Binary, binary64.Fits x ∧ x.value = n := by
  obtain ⟨s, e, bits, low, high, size⟩ : ∃ (s : Nat) (e : Int), s < 2 ^ 53 ∧ 0 ≤ e ∧ e ≤ 1
      ∧ (s : ℚ) * 2 ^ e = n.natAbs := by
    rcases small.lt_or_eq with less | last
    · exact ⟨n.natAbs, 0, less, by omega, by omega, by rw [zpow_zero, mul_one]⟩
    · exact ⟨2 ^ 52, 1, by decide, by omega, by omega, by rw [last]; norm_num⟩
  refine ⟨⟨decide (n < 0), s, e⟩, ⟨bits, ?_, ?_⟩, ?_⟩
  · exact (show (-1074 : Int) ≤ 0 by decide).trans low
  · exact high.trans (by decide)
  · rw [Binary.value_eq_signed, Binary.magnitude, size, signed_natAbs]

/-- Different whole numbers are rounded to different ones if one of them has at most 53 bits. -/
theorem BinaryFormat.Rounds.eq_of_small {m n : Int} {x y : Binary} (small : m.natAbs < 2 ^ 53)
    (first : binary64.Rounds m x) (second : binary64.Rounds n y) (same : x.value = y.value) :
    m = n := by
  have kept (k : Int) (bits : k.natAbs ≤ 2 ^ 53) {z : Binary} (rounds : binary64.Rounds k z) :
      z.value = k := by
    obtain ⟨w, fits, worth⟩ := exists_fits bits
    rw [← worth] at rounds ⊢
    exact rounds.eq_of_fits fits
  by_contra apart
  -- The neighbour of `m` towards `n` would be nearer to `n`.
  obtain ⟨k, bits, other, nearer⟩ : ∃ k : Int, k.natAbs ≤ 2 ^ 53 ∧ k ≠ m ∧ |n - k| < |n - m| := by
    rcases lt_or_gt_of_ne apart with less | more
    · refine ⟨m + 1, by omega, by omega, ?_⟩
      rw [abs_of_nonneg (by omega), abs_of_nonneg (by omega)]
      omega
    · refine ⟨m - 1, by omega, by omega, ?_⟩
      rw [abs_of_nonpos (by omega), abs_of_nonpos (by omega)]
      omega
  obtain ⟨z, fits, worth⟩ := exists_fits bits
  have beaten : y.Beats z n := by
    refine second.beats z fits ?_
    rw [worth, ← same, kept m small.le first]
    exact_mod_cast other
  rw [Binary.Beats, worth, ← same, kept m small.le first] at beaten
  have nearer : |(n : ℚ) - k| < |(n : ℚ) - m| := by exact_mod_cast nearer
  rcases beaten with less | ⟨tie, -, -⟩
  · exact less.asymm nearer
  · exact nearer.ne' tie

end ReplyScript.Decimal
