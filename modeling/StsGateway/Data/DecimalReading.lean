import Mathlib.Data.List.TakeWhile
import StsGateway.Data.BinaryValues

namespace StsGateway.Data

/-! What a rendered bit pattern says: its text is read as the pattern, no decimal with as
many places is nearer to the pattern's value, and none with fewer is read as it.
-/

/-! ### The multiples of a power of ten -/

namespace RoundingInterval

section Nearest

variable (interval : RoundingInterval) (power : Int)

def scale : Nat := 2 ^ interval.exponent.toNat * 10 ^ (-power).toNat

def unit : Nat := 2 ^ (-interval.exponent).toNat * 10 ^ power.toNat

def LowEnough (digits : Nat) : Prop :=
  if interval.inclusive then digits * interval.unit power ≤
    (interval.value + interval.above) * interval.scale power
  else digits * interval.unit power < (interval.value + interval.above) * interval.scale power

def HighEnough (digits : Nat) : Prop :=
  if interval.inclusive then (interval.value - interval.below) * interval.scale power ≤
    digits * interval.unit power
  else (interval.value - interval.below) * interval.scale power < digits * interval.unit power

instance (digits : Nat) : Decidable (interval.LowEnough power digits) := by
  unfold LowEnough
  infer_instance

instance (digits : Nat) : Decidable (interval.HighEnough power digits) := by
  unfold HighEnough
  infer_instance

theorem zpow_toNat {base : ℚ} (positive : 0 < base) (exponent : Int) :
    base ^ exponent.toNat = base ^ exponent * base ^ (-exponent).toNat := by
  rw [← zpow_natCast, ← zpow_natCast, ← zpow_add₀ positive.ne']
  congr 1
  omega

theorem exists_ratio : ∃ ratio : ℚ, 0 < ratio ∧
    (∀ count : Nat, (count : ℚ) * 2 ^ interval.exponent =
      ratio * (count * interval.scale power : Nat)) ∧
    ∀ digits : Nat, (digits : ℚ) * 10 ^ power = ratio * (digits * interval.unit power : Nat) := by
  have tens : (0 : ℚ) < 10 ^ power := zpow_pos (by norm_num) power
  have unit : (0 : ℚ) < interval.unit power := by
    have positive : 0 < interval.unit power := by
      rw [RoundingInterval.unit]
      positivity
    exact_mod_cast positive
  have scaled : (2 : ℚ) ^ interval.exponent * interval.unit power =
      10 ^ power * interval.scale power := by
    rw [RoundingInterval.unit, RoundingInterval.scale]
    push_cast
    rw [zpow_toNat (by norm_num) interval.exponent, zpow_toNat (by norm_num : (0 : ℚ) < 10) power]
    ring
  refine ⟨10 ^ power / interval.unit power, div_pos tens unit, fun count => ?_, fun digits => ?_⟩
  · push_cast
    rw [div_mul_eq_mul_div, eq_div_iff unit.ne', mul_assoc, scaled]
    ring
  · push_cast
    rw [div_mul_eq_mul_div, eq_div_iff unit.ne']
    ring

theorem contains_iff (digits : Nat) : interval.Contains (digits * 10 ^ power) ↔
    interval.HighEnough power digits ∧ interval.LowEnough power digits := by
  obtain ⟨ratio, positive, counted, spelled⟩ := interval.exists_ratio power
  rw [HighEnough, LowEnough, Contains, counted, counted, spelled]
  simp only [mul_le_mul_iff_right₀ positive, mul_lt_mul_iff_right₀ positive, Nat.cast_le, Nat.cast_lt]
  split <;> rfl

/-- How far a multiple is from the value. -/
theorem distance_le_iff (digits other : Nat) :
    |(digits : ℚ) * 10 ^ power - interval.value * 2 ^ interval.exponent| ≤
        |(other : ℚ) * 10 ^ power - interval.value * 2 ^ interval.exponent| ↔
      |((digits * interval.unit power : Nat) : Int) - (interval.value * interval.scale power : Nat)| ≤
        |((other * interval.unit power : Nat) : Int) - (interval.value * interval.scale power : Nat)| := by
  obtain ⟨ratio, positive, counted, spelled⟩ := interval.exists_ratio power
  rw [counted, spelled, spelled, ← mul_sub, ← mul_sub, abs_mul, abs_mul,
    mul_le_mul_iff_right₀ (abs_pos.mpr positive.ne')]
  norm_cast

theorem unit_pos : 0 < interval.unit power := by
  rw [unit]
  positivity

variable {interval power}

/-- All multiples up to the value are low enough. -/
theorem lowEnough_of_le {digits : Nat} (above : 0 < interval.above)
    (below : digits * interval.unit power ≤ interval.value * interval.scale power) :
    interval.LowEnough power digits := by
  have positive : 0 < interval.scale power := by
    rw [scale]
    positivity
  have high := Nat.mul_lt_mul_of_pos_right (Nat.lt_add_of_pos_right (n := interval.value) above) positive
  rw [LowEnough]
  split
  · exact (below.trans_lt high).le
  · exact below.trans_lt high

/-- All multiples beyond the value are high enough. -/
theorem highEnough_of_lt {digits : Nat}
    (beyond : interval.value * interval.scale power < digits * interval.unit power) :
    interval.HighEnough power digits := by
  have low := (Nat.mul_le_mul_right (interval.scale power)
    (Nat.sub_le interval.value interval.below)).trans_lt beyond
  rw [HighEnough]
  split
  · exact low.le
  · exact low

theorem HighEnough.mono {digits other : Nat} (high : interval.HighEnough power digits)
    (more : digits ≤ other) : interval.HighEnough power other := by
  have step := Nat.mul_le_mul_right (interval.unit power) more
  rw [HighEnough] at high ⊢
  split at high <;> rename_i inclusive
  · rw [if_pos inclusive]
    exact high.trans step
  · rw [if_neg inclusive]
    exact high.trans_le step

theorem LowEnough.mono {digits other : Nat} (low : interval.LowEnough power digits)
    (fewer : other ≤ digits) : interval.LowEnough power other := by
  have step := Nat.mul_le_mul_right (interval.unit power) fewer
  rw [LowEnough] at low ⊢
  split at low <;> rename_i inclusive
  · rw [if_pos inclusive]
    exact step.trans low
  · rw [if_neg inclusive]
    exact step.trans_lt low

/-- `nearest` weighs the multiples on both sides of the value against each other. -/
theorem nearest_eq : interval.nearest power =
    let digits := interval.value * interval.scale power / interval.unit power
    if interval.LowEnough power (digits + 1) ∧ (¬interval.HighEnough power digits ∨
        interval.unit power ≤ 2 * (interval.value * interval.scale power % interval.unit power)) then
      some (digits + 1)
    else if interval.HighEnough power digits then some digits else none := rfl

/-- The nearer of two numbers on either side of a third. -/
theorem abs_sub_le_abs_sub {near far center : Nat}
    (closer : (near ≤ center → far ≤ near ∨ center + center ≤ near + far) ∧
      (center ≤ near → near ≤ far ∨ near + far ≤ center + center)) :
    |((near : Nat) : Int) - center| ≤ |((far : Nat) : Int) - center| := by
  rcases abs_cases ((near : Int) - center) with ⟨same, _⟩ | ⟨same, _⟩ <;>
    rcases abs_cases ((far : Int) - center) with ⟨other, _⟩ | ⟨other, _⟩ <;> omega

/-- The multiple of a power of ten that `nearest` finds lies in the interval, and no
other is nearer to the value. -/
theorem nearest_eq_some {digits : Nat} (above : 0 < interval.above)
    (found : interval.nearest power = some digits) :
    interval.Contains (digits * 10 ^ power) ∧ ∀ other : Nat, interval.Contains (other * 10 ^ power) →
      |(digits : ℚ) * 10 ^ power - interval.value * 2 ^ interval.exponent| ≤
        |(other : ℚ) * 10 ^ power - interval.value * 2 ^ interval.exponent| := by
  have below := Nat.div_mul_le_self (interval.value * interval.scale power) (interval.unit power)
  have whole := Nat.div_add_mod' (interval.value * interval.scale power) (interval.unit power)
  have rest := Nat.mod_lt (interval.value * interval.scale power) (interval.unit_pos power)
  rw [nearest_eq] at found
  simp only [contains_iff, distance_le_iff]
  generalize interval.value * interval.scale power / interval.unit power = floor at *
  have next : (floor + 1) * interval.unit power = floor * interval.unit power + interval.unit power :=
    Nat.succ_mul floor (interval.unit power)
  have beyond : interval.value * interval.scale power < (floor + 1) * interval.unit power := by omega
  dsimp only at found
  split at found
  · rename_i upper
    cases found
    refine ⟨⟨highEnough_of_lt beyond, upper.1⟩, fun other inside => ?_⟩
    rcases Nat.lt_or_ge floor other with more | fewer
    · have step : (floor + 1) * interval.unit power ≤ other * interval.unit power :=
        Nat.mul_le_mul_right (interval.unit power) more
      exact abs_sub_le_abs_sub (by omega)
    · have near := upper.2.resolve_left (not_not.mpr (inside.1.mono fewer))
      have step := Nat.mul_le_mul_right (interval.unit power) fewer
      exact abs_sub_le_abs_sub (by omega)
  · split at found
    · rename_i notUpper lower
      cases found
      refine ⟨⟨lower, lowEnough_of_le above below⟩, fun other inside => ?_⟩
      rcases Nat.lt_or_ge digits other with more | fewer
      · have step : (digits + 1) * interval.unit power ≤ other * interval.unit power :=
          Nat.mul_le_mul_right (interval.unit power) more
        have far : ¬interval.unit power ≤
            2 * (interval.value * interval.scale power % interval.unit power) :=
          fun near => notUpper ⟨inside.2.mono more, .inr near⟩
        exact abs_sub_le_abs_sub (by omega)
      · have step := Nat.mul_le_mul_right (interval.unit power) fewer
        exact abs_sub_le_abs_sub (by omega)
    · cases found

theorem nearest_eq_none (missed : interval.nearest power = none)
    (other : Nat) : ¬interval.Contains (other * 10 ^ power) := by
  have below := Nat.div_mul_le_self (interval.value * interval.scale power) (interval.unit power)
  have whole := Nat.div_add_mod' (interval.value * interval.scale power) (interval.unit power)
  have rest := Nat.mod_lt (interval.value * interval.scale power) (interval.unit_pos power)
  rw [nearest_eq] at missed
  rw [contains_iff]
  generalize interval.value * interval.scale power / interval.unit power = floor at *
  dsimp only at missed
  intro inside
  split at missed
  · cases missed
  · rename_i notUpper
    split at missed
    · cases missed
    · rename_i lower
      rcases Nat.lt_or_ge floor other with more | fewer
      · exact notUpper ⟨inside.2.mono more, .inl lower⟩
      · exact lower (inside.1.mono fewer)

/-- The search ends at the coarsest power of ten with a multiple in the interval, if it
comes that far. -/
theorem shortest_eq {fuel : Nat} {reached : Int}
    (enough : power - fuel < reached) (upper : reached ≤ power)
    (found : (interval.nearest reached).isSome = true) :
    ∃ digits last, interval.shortest fuel power = (digits, last) ∧ last ≤ power ∧
      interval.nearest last = some digits ∧
      ∀ coarser, last < coarser → coarser ≤ power → ∀ other : Nat,
        ¬interval.Contains (other * 10 ^ coarser) := by
  induction fuel generalizing power with
  | zero => omega
  | succ fuel ih =>
      rw [shortest]
      cases here : interval.nearest power with
      | some digits => exact ⟨digits, power, rfl, le_rfl, here, fun coarser more less => by omega⟩
      | none =>
          have other : reached ≠ power := by
            rintro rfl
            rw [here] at found
            cases found
          have further : power - 1 - (fuel : Int) < reached := by
            push_cast at enough
            omega
          obtain ⟨digits, last, searched, within, nearest, coarsest⟩ := ih further (by omega)
          refine ⟨digits, last, searched, by omega, nearest, fun coarser more less => ?_⟩
          rcases eq_or_ne coarser power with rfl | different
          · exact nearest_eq_none here
          · exact coarsest coarser more (by omega)

/-- A power of ten that is no larger than the unit has a multiple in the interval. -/
theorem nearest_fine (above : 0 < interval.above) (below : 0 < interval.below)
    (positive : 0 < interval.value) (fine : (10 : ℚ) ^ power ≤ 2 ^ interval.exponent) :
    (interval.nearest power).isSome = true := by
  obtain ⟨ratio, ratioPositive, counted, spelled⟩ := interval.exists_ratio power
  have smaller : interval.unit power ≤ interval.scale power := by
    have compared := fine
    rw [← one_mul ((10 : ℚ) ^ power), ← one_mul ((2 : ℚ) ^ interval.exponent)] at compared
    have one := spelled 1
    have unitCounted := counted 1
    rw [Nat.cast_one] at one unitCounted
    rw [one, unitCounted, mul_le_mul_iff_right₀ ratioPositive, Nat.one_mul, Nat.one_mul] at compared
    exact_mod_cast compared
  have floor := Nat.div_mul_le_self (interval.value * interval.scale power) (interval.unit power)
  have whole := Nat.div_add_mod' (interval.value * interval.scale power) (interval.unit power)
  have rest := Nat.mod_lt (interval.value * interval.scale power) (interval.unit_pos power)
  cases found : interval.nearest power with
  | some digits => rfl
  | none =>
      refine absurd ?_ (nearest_eq_none found
        (interval.value * interval.scale power / interval.unit power))
      rw [contains_iff]
      refine ⟨?_, lowEnough_of_le above floor⟩
      have low : (interval.value - interval.below) * interval.scale power + interval.scale power ≤
          interval.value * interval.scale power := by
        rw [← Nat.succ_mul]
        exact Nat.mul_le_mul_right _ (by omega)
      have strictly : (interval.value - interval.below) * interval.scale power <
          interval.value * interval.scale power / interval.unit power * interval.unit power := by
        omega
      rw [HighEnough]
      split
      · exact strictly.le
      · exact strictly

end Nearest

end RoundingInterval

/-! ### Every pattern -/

/-- The search for the digits starts high enough and goes on long enough. -/
structure BinaryFormat.Renderable (format : BinaryFormat) : Prop where
  fractional : 1 ≤ format.mantissaBits
  deep : 2 ^ (format.exponentBits - 1) + format.mantissaBits + 2 ≤ 6 * (2 ^ format.exponentBits / 6)

theorem BinaryFormat.binary32_renderable : binary32.Renderable := ⟨by decide, by decide⟩

theorem BinaryFormat.binary64_renderable : binary64.Renderable := ⟨by decide, by decide⟩

/-- The number that digits with at most one point spell. -/
def decimalValue (text : List Char) : ℚ :=
  let whole := text.takeWhile (· ≠ '.')
  let fractional := (text.dropWhile (· ≠ '.')).tail
  (Nat.ofDigitChars 10 (whole ++ fractional) 0 : ℚ) / 10 ^ fractional.length

/-- The text is read as the pattern; of the decimals with as many places that are, none is
nearer to the value, and with fewer places none is. -/
structure BinaryFormat.Shortest (format : BinaryFormat) (bits : Nat) (text : List Char) : Prop where
  reads : format.ReadsAs (decimalValue text) bits
  shortest : ∃ power : Int, (∃ digits : Nat, decimalValue text = digits * 10 ^ power) ∧
    (∀ other : Nat, format.ReadsAs (other * 10 ^ power) bits →
      |decimalValue text - format.value bits| ≤ |other * 10 ^ power - format.value bits|) ∧
    ∀ coarser, power < coarser → ∀ other : Nat, ¬format.ReadsAs (other * 10 ^ coarser) bits

namespace BinaryFormat

variable {format : BinaryFormat}

theorem lowest_le_exponent (biased fraction : Nat) :
    format.lowest - 1 ≤ (format.interval biased fraction).exponent := by
  by_cases normal : biased = 0
  · rw [normal, interval_zero]
  · by_cases power : fraction = 0 ∧ biased ≠ 1
    · rw [power.1, interval_power normal power.2]
      change format.lowest - 1 ≤ format.lowest + (biased : Int) - 3
      omega
    · rw [interval_normal normal power]
      change format.lowest - 1 ≤ format.lowest + (biased : Int) - 2
      omega

theorem exponents (renderable : format.Renderable) :
    1 ≤ format.exponentBits ∧ 2 ^ format.exponentBits = 2 * 2 ^ (format.exponentBits - 1) := by
  have some : 1 ≤ format.exponentBits := by
    by_contra none
    have zero : format.exponentBits = 0 := by omega
    have deep := renderable.deep
    rw [zero] at deep
    simp at deep
  exact ⟨some, (mul_pow_sub_one (by omega) 2).symm⟩

/-- The value past the last finite one. -/
theorem valueAt_last (renderable : format.Renderable) :
    format.valueAt (2 ^ format.exponentBits - 1) 0 = 2 ^ 2 ^ (format.exponentBits - 1) := by
  obtain ⟨_, doubled⟩ := exponents renderable
  have half : 0 < 2 ^ (format.exponentBits - 1) := by positivity
  have exponent : (format.mantissaBits : Int) +
      (format.lowest + ((2 ^ format.exponentBits - 1 : Nat) : Int) - 1) =
      ((2 ^ (format.exponentBits - 1) : Nat) : Int) := by
    rw [lowest, doubled, Nat.cast_sub (by omega)]
    push_cast
    ring
  rw [valueAt, if_neg (by omega), Nat.cast_zero, add_zero, ← zpow_natCast 2 format.mantissaBits,
    ← zpow_add₀ (by norm_num), exponent, zpow_natCast]

/-- No finite value, nor the one past the last, reaches the first power above the search. -/
theorem value_lt_ten (renderable : format.Renderable) {bits : Nat}
    (finite : bits < 2 ^ format.mantissaBits * (2 ^ format.exponentBits - 1)) :
    format.value (bits + 1) < 10 ^ (2 ^ format.exponentBits / 6 + 1) := by
  obtain ⟨_, doubled⟩ := exponents renderable
  have positive : 0 < 2 ^ format.mantissaBits := by positivity
  have last : format.value (bits + 1) ≤ 2 ^ 2 ^ (format.exponentBits - 1) := by
    rw [← valueAt_last renderable]
    have most : format.value (2 ^ format.mantissaBits * (2 ^ format.exponentBits - 1)) =
        format.valueAt (2 ^ format.exponentBits - 1) 0 := by
      rw [value, Nat.mul_div_cancel_left _ positive, Nat.mul_mod_right]
    rw [← most]
    exact value_strictMono.monotone finite
  have wide : 2 ^ (format.exponentBits - 1) ≤ 3 * (2 ^ format.exponentBits / 6 + 1) := by
    rw [doubled]
    omega
  calc format.value (bits + 1) ≤ 2 ^ 2 ^ (format.exponentBits - 1) := last
    _ ≤ 2 ^ (3 * (2 ^ format.exponentBits / 6 + 1)) := pow_le_pow_right₀ (by norm_num) wide
    _ = 8 ^ (2 ^ format.exponentBits / 6 + 1) := by rw [pow_mul]; norm_num
    _ < 10 ^ (2 ^ format.exponentBits / 6 + 1) :=
        pow_lt_pow_left₀ (by norm_num) (by norm_num) (Nat.succ_ne_zero _)

/-- Far enough down the powers of ten are finer than any pattern's unit. -/
theorem ten_le_two (renderable : format.Renderable) (biased fraction : Nat) :
    (10 : ℚ) ^ (-(2 * (2 ^ format.exponentBits / 6 : Nat) - 1) : Int) ≤
      2 ^ (format.interval biased fraction).exponent := by
  obtain ⟨_, doubled⟩ := exponents renderable
  have deep := renderable.deep
  have bound := format.lowest_le_exponent biased fraction
  generalize 2 ^ format.exponentBits / 6 = top at *
  obtain ⟨digits, counted⟩ : ∃ digits : Nat, (2 * (top : Int) - 1) = digits :=
    ⟨2 * top - 1, by omega⟩
  have reach : -(3 * digits : Nat) ≤ (format.interval biased fraction).exponent := by
    refine le_trans ?_ bound
    rw [lowest]
    have half : ((2 : Int) ^ (format.exponentBits - 1)) = ((2 ^ (format.exponentBits - 1) : Nat) : Int) := by
      push_cast
      rfl
    rw [half]
    omega
  rw [counted]
  calc (10 : ℚ) ^ (-digits : Int) ≤ 8 ^ (-digits : Int) := by
        rw [zpow_neg, zpow_neg, zpow_natCast, zpow_natCast]
        exact inv_anti₀ (by positivity) (pow_le_pow_left₀ (by norm_num) (by norm_num) _)
    _ = 2 ^ (-(3 * digits : Nat) : Int) := by
        rw [zpow_neg, zpow_neg, zpow_natCast, zpow_natCast, pow_mul]
        norm_num
    _ ≤ 2 ^ (format.interval biased fraction).exponent := zpow_le_zpow_right₀ (by norm_num) reach

end BinaryFormat

/-! ### The text -/

theorem not_point_of_toDigits {digits : Nat} {digit : Char} (member : digit ∈ Nat.toDigits 10 digits) :
    digit ≠ '.' := by
  rintro rfl
  have isDigit := Nat.isDigit_of_mem_toDigits (by decide) (by decide) member
  contradiction

theorem decimalValue_whole {text : List Char} (whole : ∀ digit ∈ text, digit ≠ '.') :
    decimalValue text = Nat.ofDigitChars 10 text 0 := by
  have taken : text.takeWhile (· ≠ '.') = text :=
    List.takeWhile_eq_self_iff.mpr fun digit member => decide_eq_true (whole digit member)
  have dropped : text.dropWhile (· ≠ '.') = [] :=
    List.dropWhile_eq_nil_iff.mpr fun digit member => decide_eq_true (whole digit member)
  simp only [decimalValue, taken, dropped, List.tail_nil, List.append_nil, List.length_nil, pow_zero,
    div_one]

theorem decimalValue_point {whole fractional : List Char} (pure : ∀ digit ∈ whole, digit ≠ '.') :
    decimalValue (whole ++ '.' :: fractional) =
      (Nat.ofDigitChars 10 (whole ++ fractional) 0 : ℚ) / 10 ^ fractional.length := by
  have taken : (whole ++ '.' :: fractional).takeWhile (· ≠ '.') = whole := by
    rw [List.takeWhile_append_of_pos fun digit member => decide_eq_true (pure digit member)]
    simp
  have dropped : (whole ++ '.' :: fractional).dropWhile (· ≠ '.') = '.' :: fractional := by
    rw [List.dropWhile_append_of_pos fun digit member => decide_eq_true (pure digit member)]
    simp
  simp only [decimalValue, taken, dropped, List.tail_cons]

theorem decimalValue_positional (digits : Nat) (power : Int) :
    decimalValue (positional digits power).toList = digits * 10 ^ power := by
  have spelled : Nat.ofDigitChars 10 (Nat.toDigits 10 digits) 0 = digits := Nat.ofDigitChars_ten_toDigits
  simp only [positional, Nat.toList_repr]
  split
  · rename_i whole
    obtain ⟨zeros, rfl⟩ := Int.eq_ofNat_of_zero_le whole
    rw [String.toList_ofList, decimalValue_whole, Nat.ofDigitChars_append, spelled]
    · simp
      ring
    · intro digit member
      rcases List.mem_append.mp member with member | member
      · exact not_point_of_toDigits member
      · rw [List.eq_of_mem_replicate member]
        decide
  · rename_i negative
    obtain ⟨places, rfl⟩ : ∃ places : Nat, power = -places := ⟨power.natAbs, by omega⟩
    have same : (- -(places : Int)).toNat = places := by omega
    have shift : (digits : ℚ) * 10 ^ (-places : Int) = digits / 10 ^ places := by
      rw [zpow_neg, zpow_natCast, div_eq_mul_inv]
    rw [same, shift]
    split
    · rename_i inner
      rw [String.toList_ofList, decimalValue_point, List.take_append_drop, spelled, List.length_drop]
      · congr 2
        omega
      · exact fun digit member => not_point_of_toDigits (List.mem_of_mem_take member)
    · rename_i outer
      have pointed : decimalValue (['0'] ++ '.' :: (List.replicate
          (places - (Nat.toDigits 10 digits).length) '0' ++ Nat.toDigits 10 digits)) = _ :=
        decimalValue_point (by simp)
      rw [String.toList_ofList, List.cons_append, List.cons_append]
      refine pointed.trans ?_
      rw [Nat.ofDigitChars_append, Nat.ofDigitChars_append, Nat.ofDigitChars_replicate_zero,
        List.length_append, List.length_replicate, Nat.sub_add_cancel (Nat.le_of_not_lt outer)]
      have zero : Nat.ofDigitChars 10 ['0'] 0 = 0 := rfl
      rw [zero, Nat.mul_zero, spelled]

/-! ### Rendering -/

namespace BinaryFormat

variable {format : BinaryFormat}

/-- What `render` prints after the sign. -/
def magnitude (format : BinaryFormat) (bits : Nat) : Nat :=
  bits % 2 ^ (format.mantissaBits + format.exponentBits)

theorem magnitude_parts (bits : Nat) :
    format.magnitude bits / 2 ^ format.mantissaBits =
        bits / 2 ^ format.mantissaBits % 2 ^ format.exponentBits ∧
      format.magnitude bits % 2 ^ format.mantissaBits = bits % 2 ^ format.mantissaBits := by
  rw [magnitude, pow_add]
  exact ⟨Nat.mod_mul_right_div_self .., Nat.mod_mul_right_mod ..⟩

theorem searches (renderable : format.Renderable) :
    ((2 ^ format.exponentBits / 6 : Nat) : Int) - (3 * (2 ^ format.exponentBits / 6) : Nat) <
        -(2 * (2 ^ format.exponentBits / 6 : Nat) - 1) ∧
      -(2 * ((2 ^ format.exponentBits / 6 : Nat) : Int) - 1) ≤ (2 ^ format.exponentBits / 6 : Nat) := by
  have deep := renderable.deep
  generalize 2 ^ (format.exponentBits - 1) = half at deep
  generalize 2 ^ format.exponentBits / 6 = top at *
  omega

/-- Above the first power that is tried no multiple but zero is small enough. -/
theorem not_contains_coarse (renderable : format.Renderable) {before : Nat}
    (finite : before + 1 < 2 ^ format.mantissaBits * (2 ^ format.exponentBits - 1)) {coarser : Int}
    (more : ((2 ^ format.exponentBits / 6 : Nat) : Int) < coarser) (other : Nat) :
    ¬(format.intervalOf (before + 1)).Contains (other * 10 ^ coarser) := by
  intro contained
  have nonnegative := format.value_nonneg before
  have first : format.value before < format.value (before + 1) := value_strictMono (Nat.lt_succ_self _)
  have second : format.value (before + 1) < format.value (before + 1 + 1) :=
    value_strictMono (Nat.lt_succ_self _)
  have bound := value_lt_ten renderable finite
  rw [RoundingInterval.Contains, intervalOf_below, intervalOf_above] at contained
  have inside : 0 < (other : ℚ) * 10 ^ coarser ∧
      (other : ℚ) * 10 ^ coarser < 10 ^ (2 ^ format.exponentBits / 6 + 1) := by
    split at contained <;> exact ⟨by linarith, by linarith⟩
  have one : (1 : ℚ) ≤ other := by
    rcases Nat.eq_zero_or_pos other with rfl | positive
    · simp at inside
    · exact_mod_cast positive
  have power : (10 : ℚ) ^ (2 ^ format.exponentBits / 6 + 1) ≤ 10 ^ coarser := by
    rw [← zpow_natCast]
    refine zpow_le_zpow_right₀ (by norm_num) ?_
    rw [Nat.cast_add, Nat.cast_one]
    exact Int.add_one_le_of_lt more
  have positive : (0 : ℚ) < 10 ^ coarser := zpow_pos (by norm_num) coarser
  have least := mul_le_mul_of_nonneg_right one positive.le
  linarith

/-- A finite pattern other than zero is rendered by the shortest text that is read as it. -/
theorem render_shortest (renderable : format.Renderable) {bits : Nat}
    (finite : bits / 2 ^ format.mantissaBits % 2 ^ format.exponentBits ≠ 2 ^ format.exponentBits - 1)
    (nonzero : format.magnitude bits ≠ 0) :
    ∃ sign text : String, format.render bits = sign ++ text ∧
      (sign = if bits / 2 ^ (format.mantissaBits + format.exponentBits) % 2 = 1 then "-" else "") ∧
      format.Shortest (format.magnitude bits) text.toList := by
  obtain ⟨before, same⟩ : ∃ before, format.magnitude bits = before + 1 :=
    Nat.exists_eq_succ_of_ne_zero nonzero
  obtain ⟨biased, fraction⟩ := format.magnitude_parts bits
  have parts : ¬(bits / 2 ^ format.mantissaBits % 2 ^ format.exponentBits = 0 ∧
      bits % 2 ^ format.mantissaBits = 0) := by
    rintro ⟨noExponent, noFraction⟩
    rw [← biased] at noExponent
    rw [← fraction] at noFraction
    have whole := Nat.div_add_mod (format.magnitude bits) (2 ^ format.mantissaBits)
    rw [noExponent, noFraction] at whole
    exact nonzero whole.symm
  have own : format.interval (bits / 2 ^ format.mantissaBits % 2 ^ format.exponentBits)
      (bits % 2 ^ format.mantissaBits) = format.interval ((before + 1) / 2 ^ format.mantissaBits)
        ((before + 1) % 2 ^ format.mantissaBits) := by
    rw [← same, biased, fraction]
  have small : before + 1 < 2 ^ format.mantissaBits * (2 ^ format.exponentBits - 1) := by
    have bound := Nat.mod_lt (bits / 2 ^ format.mantissaBits) (show 0 < 2 ^ format.exponentBits by positivity)
    rw [← same, Nat.mul_comm]
    refine (Nat.div_lt_iff_lt_mul (by positivity)).mp ?_
    rw [biased]
    omega
  obtain ⟨below, above⟩ := format.interval_sizes ((before + 1) / 2 ^ format.mantissaBits)
    ((before + 1) % 2 ^ format.mantissaBits)
  have positive : 0 < (format.intervalOf (before + 1)).value := by
    have exact := format.intervalOf_value (before + 1)
    have first : format.value before < format.value (before + 1) :=
      value_strictMono (Nat.lt_succ_self _)
    have nonnegative := format.value_nonneg before
    by_contra none
    rw [Nat.eq_zero_of_not_pos none, Nat.cast_zero, zero_mul] at exact
    linarith
  have fine := RoundingInterval.nearest_fine above below positive (ten_le_two renderable _ _)
  obtain ⟨enough, within⟩ := searches renderable
  obtain ⟨digits, last, searched, most, nearest, coarsest⟩ :=
    RoundingInterval.shortest_eq enough within fine
  obtain ⟨contained, nearer⟩ := RoundingInterval.nearest_eq_some above nearest
  have spelled := decimalValue_positional digits last
  have readsAs := contains_iff_readsAs renderable.fractional before
  refine ⟨_, positional digits last, ?_, rfl, ?_⟩
  · rw [render]
    dsimp only
    rw [if_neg finite, if_neg parts, own, searched]
  · rw [same]
    refine ⟨?_, last, ⟨digits, spelled⟩, fun other reads => ?_, fun coarser more other reads => ?_⟩
    · rw [spelled]
      exact (readsAs _).mp contained
    · rw [spelled, ← intervalOf_value]
      exact nearer other ((readsAs _).mpr reads)
    · rcases le_or_gt coarser (2 ^ format.exponentBits / 6 : Nat) with tried | untried
      · exact coarsest coarser more tried other ((readsAs _).mpr reads)
      · exact not_contains_coarse renderable small untried other ((readsAs _).mpr reads)

end BinaryFormat

end StsGateway.Data
