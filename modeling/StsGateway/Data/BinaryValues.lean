import Mathlib.Algebra.Order.Field.Power
import Mathlib.Data.Rat.Cast.Order
import Mathlib.Order.Monotone.Basic
import Mathlib.Tactic.Linarith
import Mathlib.Tactic.Ring
import StsGateway.Data.ShortestDecimal

namespace StsGateway.Data

/-! The values of bit patterns, and which numbers are read as them.

The half-way points of `RoundingInterval` are those to the neighbouring patterns, so lying
between them and being read as the pattern are the same.
-/

namespace BinaryFormat

variable (format : BinaryFormat)

/-- The exponent of the last place of the smallest values. -/
def lowest : Int := 1 - (2 ^ (format.exponentBits - 1) - 1) - format.mantissaBits

def valueAt (biased fraction : Nat) : ℚ :=
  if biased = 0 then fraction * 2 ^ format.lowest
  else (2 ^ format.mantissaBits + fraction) * 2 ^ (format.lowest + biased - 1)

/-- The value of a pattern without its sign. -/
def value (bits : Nat) : ℚ := format.valueAt (bits / 2 ^ format.mantissaBits) (bits % 2 ^ format.mantissaBits)

/-- No other pattern is nearer, and where one is as near, this one is even. -/
def ReadsAs (number : ℚ) (bits : Nat) : Prop :=
  ∀ other ≠ bits, |number - format.value bits| < |number - format.value other| ∨
    |number - format.value bits| = |number - format.value other| ∧ bits % 2 = 0

/-! ### The values of a format -/

variable {format}

theorem two_zpow_pos (exponent : Int) : (0 : ℚ) < 2 ^ exponent := zpow_pos (by norm_num) exponent

theorem two_zpow_succ (exponent : Int) : (2 : ℚ) ^ (exponent + 1) = 2 ^ exponent * 2 :=
  zpow_add_one₀ (by norm_num) exponent

/-- A fraction that overflows is carried into the exponent. -/
theorem valueAt_carry (biased : Nat) :
    format.valueAt biased (2 ^ format.mantissaBits) = format.valueAt (biased + 1) 0 := by
  cases biased with
  | zero => simp [valueAt]
  | succ biased =>
      have next : format.lowest + ((biased + 1 + 1 : Nat) : Int) - 1 =
          format.lowest + ((biased + 1 : Nat) : Int) - 1 + 1 := by
        push_cast
        ring
      rw [valueAt, valueAt, if_neg (by omega), if_neg (by omega), next, two_zpow_succ]
      push_cast
      ring

/-- Counting on leaves the quotient alone until the remainder is full. -/
theorem div_mod_succ {bits unit : Nat} (room : bits % unit + 1 < unit) :
    (bits + 1) / unit = bits / unit ∧ (bits + 1) % unit = bits % unit + 1 := by
  have next : bits + 1 = bits % unit + 1 + unit * (bits / unit) := by
    have split := Nat.mod_add_div bits unit
    omega
  have positive : 0 < unit := Nat.lt_of_le_of_lt (Nat.zero_le _) room
  constructor
  · conv_lhs => rw [next]
    rw [Nat.add_mul_div_left _ _ positive, Nat.div_eq_of_lt room, Nat.zero_add]
  · conv_lhs => rw [next]
    rw [Nat.add_mul_mod_self_left, Nat.mod_eq_of_lt room]

theorem div_mod_full {bits unit : Nat} (positive : 0 < unit) (full : bits % unit + 1 = unit) :
    (bits + 1) / unit = bits / unit + 1 ∧ (bits + 1) % unit = 0 := by
  have next : bits + 1 = unit * (bits / unit + 1) := by
    have split := Nat.mod_add_div bits unit
    rw [Nat.mul_add, Nat.mul_one]
    omega
  rw [next, Nat.mul_div_cancel_left _ positive, Nat.mul_mod_right]
  exact ⟨rfl, rfl⟩

theorem value_succ (bits : Nat) : format.value (bits + 1) =
    format.valueAt (bits / 2 ^ format.mantissaBits) (bits % 2 ^ format.mantissaBits + 1) := by
  have positive : 0 < 2 ^ format.mantissaBits := by positivity
  rcases Nat.lt_or_eq_of_le (Nat.succ_le_of_lt (Nat.mod_lt bits positive)) with room | full
  · obtain ⟨quotient, remainder⟩ := div_mod_succ room
    rw [value, quotient, remainder]
  · obtain ⟨quotient, remainder⟩ := div_mod_full positive full
    rw [value, quotient, remainder, ← valueAt_carry]
    exact congrArg _ full.symm

theorem value_strictMono : StrictMono format.value := by
  refine strictMono_nat_of_lt_succ fun bits => ?_
  rw [value_succ, value, valueAt, valueAt]
  split
  · exact mul_lt_mul_of_pos_right (by push_cast; linarith) (two_zpow_pos _)
  · exact mul_lt_mul_of_pos_right (by push_cast; linarith) (two_zpow_pos _)

theorem value_nonneg (bits : Nat) : 0 ≤ format.value bits := by
  have zero : format.value 0 = 0 := by simp [value, valueAt]
  rw [← zero]
  exact value_strictMono.monotone (Nat.zero_le bits)

theorem two_zpow_pred (exponent : Int) : (2 : ℚ) ^ exponent = 2 ^ (exponent - 1) * 2 := by
  rw [← two_zpow_succ, sub_add_cancel]

theorem valueAt_normal {biased : Nat} (normal : biased ≠ 0) (fraction : Nat) :
    format.valueAt biased fraction =
      (2 ^ format.mantissaBits + fraction) * (2 ^ (format.lowest + biased - 2) * 2) := by
  have same : format.lowest + (biased : Int) - 1 - 1 = format.lowest + biased - 2 := by ring
  rw [valueAt, if_neg normal, two_zpow_pred, same]

/-! ### The interval ends half-way to the neighbours -/

theorem interval_zero (fraction : Nat) : format.interval 0 fraction =
    ⟨2 * fraction, 1, 1, format.lowest - 1, fraction % 2 = 0⟩ := rfl

theorem interval_power {biased : Nat} (normal : biased ≠ 0) (second : biased ≠ 1) :
    format.interval biased 0 =
      ⟨4 * 2 ^ format.mantissaBits, 1, 2, format.lowest + biased - 3, true⟩ := by
  rw [interval, if_neg normal, if_pos ⟨rfl, second⟩, lowest]

theorem interval_normal {biased fraction : Nat} (normal : biased ≠ 0)
    (inner : ¬(fraction = 0 ∧ biased ≠ 1)) : format.interval biased fraction =
      ⟨2 * (2 ^ format.mantissaBits + fraction), 1, 1, format.lowest + biased - 2,
        fraction % 2 = 0⟩ := by
  rw [interval, if_neg normal, if_neg inner, lowest]

/-- The interval of a pattern, in units of its own exponent. -/
def intervalOf (format : BinaryFormat) (bits : Nat) : RoundingInterval :=
  format.interval (bits / 2 ^ format.mantissaBits) (bits % 2 ^ format.mantissaBits)

theorem two_zpow_third {biased : Nat} : (2 : ℚ) ^ (format.lowest + biased - 2) =
    2 ^ (format.lowest + biased - 3) * 2 := by
  have same : format.lowest + (biased : Int) - 2 - 1 = format.lowest + biased - 3 := by ring
  rw [two_zpow_pred, same]

theorem interval_value (biased fraction : Nat) :
    ((format.interval biased fraction).value : ℚ) * 2 ^ (format.interval biased fraction).exponent =
      format.valueAt biased fraction := by
  by_cases normal : biased = 0
  · rw [normal, interval_zero, valueAt, if_pos rfl, two_zpow_pred format.lowest]
    push_cast
    ring
  · rw [valueAt_normal normal]
    by_cases power : fraction = 0 ∧ biased ≠ 1
    · rw [power.1, interval_power normal power.2, two_zpow_third]
      push_cast
      ring
    · rw [interval_normal normal power]
      push_cast
      ring

theorem interval_above (biased fraction : Nat) :
    (((format.interval biased fraction).value + (format.interval biased fraction).above : Nat) : ℚ) *
        2 ^ (format.interval biased fraction).exponent =
      (format.valueAt biased fraction + format.valueAt biased (fraction + 1)) / 2 := by
  by_cases normal : biased = 0
  · rw [normal, interval_zero, valueAt, valueAt, if_pos rfl, if_pos rfl, two_zpow_pred format.lowest]
    push_cast
    ring
  · rw [valueAt_normal normal, valueAt_normal normal]
    by_cases power : fraction = 0 ∧ biased ≠ 1
    · rw [power.1, interval_power normal power.2, two_zpow_third]
      push_cast
      ring
    · rw [interval_normal normal power]
      push_cast
      ring

/-- The neighbour below, where the fraction before is not the last one. -/
theorem interval_below_room (biased fraction : Nat) :
    (((format.interval biased (fraction + 1)).value - (format.interval biased (fraction + 1)).below :
        Nat) : ℚ) * 2 ^ (format.interval biased (fraction + 1)).exponent =
      (format.valueAt biased fraction + format.valueAt biased (fraction + 1)) / 2 := by
  by_cases normal : biased = 0
  · have lower : 2 * (fraction + 1) - 1 = 2 * fraction + 1 := by omega
    rw [normal, interval_zero, valueAt, valueAt, if_pos rfl, if_pos rfl, two_zpow_pred format.lowest]
    simp only [lower]
    push_cast
    ring
  · have lower : 2 * (2 ^ format.mantissaBits + (fraction + 1)) - 1 =
        2 * 2 ^ format.mantissaBits + 2 * fraction + 1 := by omega
    rw [valueAt_normal normal, valueAt_normal normal,
      interval_normal normal (fun power => Nat.succ_ne_zero fraction power.1)]
    simp only [lower]
    push_cast
    ring

/-- The neighbour below a power of two. -/
theorem interval_below_full (biased fraction : Nat) (full : fraction + 1 = 2 ^ format.mantissaBits) :
    (((format.interval (biased + 1) 0).value - (format.interval (biased + 1) 0).below : Nat) : ℚ) *
        2 ^ (format.interval (biased + 1) 0).exponent =
      (format.valueAt biased fraction + format.valueAt biased (fraction + 1)) / 2 := by
  have whole : ((2 : ℚ) ^ format.mantissaBits) = fraction + 1 := by exact_mod_cast full.symm
  by_cases normal : biased = 0
  · have lower : 2 * (2 ^ format.mantissaBits + 0) - 1 = 2 * fraction + 1 := by omega
    have exponent : format.lowest + ((0 + 1 : Nat) : Int) - 2 = format.lowest - 1 := by
      push_cast
      ring
    rw [normal, interval_normal (Nat.succ_ne_zero 0) (fun power => power.2 rfl), valueAt, valueAt,
      if_pos rfl, if_pos rfl, two_zpow_pred format.lowest]
    simp only [lower, exponent]
    push_cast
    ring
  · have lower : 4 * 2 ^ format.mantissaBits - 1 = 4 * fraction + 3 := by omega
    have exponent : format.lowest + ((biased + 1 : Nat) : Int) - 3 = format.lowest + biased - 2 := by
      push_cast
      ring
    rw [interval_power (Nat.succ_ne_zero biased) (by omega), valueAt_normal normal,
      valueAt_normal normal, whole]
    simp only [lower, exponent]
    push_cast
    ring

theorem intervalOf_value (bits : Nat) :
    ((format.intervalOf bits).value : ℚ) * 2 ^ (format.intervalOf bits).exponent =
      format.value bits :=
  interval_value _ _

theorem intervalOf_above (bits : Nat) :
    (((format.intervalOf bits).value + (format.intervalOf bits).above : Nat) : ℚ) *
        2 ^ (format.intervalOf bits).exponent =
      (format.value bits + format.value (bits + 1)) / 2 := by
  rw [value_succ]
  exact interval_above _ _

theorem intervalOf_below (bits : Nat) :
    (((format.intervalOf (bits + 1)).value - (format.intervalOf (bits + 1)).below : Nat) : ℚ) *
        2 ^ (format.intervalOf (bits + 1)).exponent =
      (format.value bits + format.value (bits + 1)) / 2 := by
  have positive : 0 < 2 ^ format.mantissaBits := by positivity
  rw [value_succ, intervalOf]
  rcases Nat.lt_or_eq_of_le (Nat.succ_le_of_lt (Nat.mod_lt bits positive)) with room | full
  · obtain ⟨quotient, remainder⟩ := div_mod_succ room
    rw [quotient, remainder]
    exact interval_below_room _ _
  · obtain ⟨quotient, remainder⟩ := div_mod_full positive full
    rw [quotient, remainder]
    exact interval_below_full _ _ full

theorem intervalOf_inclusive (fractional : 1 ≤ format.mantissaBits) (bits : Nat) :
    (format.intervalOf bits).inclusive = true ↔ bits % 2 = 0 := by
  have even : bits % 2 ^ format.mantissaBits % 2 = bits % 2 :=
    Nat.mod_mod_of_dvd bits (dvd_pow_self 2 (by omega))
  rw [intervalOf, ← even]
  by_cases normal : bits / 2 ^ format.mantissaBits = 0
  · rw [normal, interval_zero]
    exact decide_eq_true_iff
  · by_cases power : bits % 2 ^ format.mantissaBits = 0 ∧ bits / 2 ^ format.mantissaBits ≠ 1
    · rw [power.1, interval_power normal power.2]
      exact iff_of_true rfl rfl
    · rw [interval_normal normal power]
      exact decide_eq_true_iff

theorem interval_sizes (biased fraction : Nat) :
    0 < (format.interval biased fraction).below ∧ 0 < (format.interval biased fraction).above := by
  by_cases normal : biased = 0
  · rw [normal, interval_zero]
    exact ⟨Nat.one_pos, Nat.one_pos⟩
  · by_cases power : fraction = 0 ∧ biased ≠ 1
    · rw [power.1, interval_power normal power.2]
      exact ⟨Nat.one_pos, Nat.two_pos⟩
    · rw [interval_normal normal power]
      exact ⟨Nat.one_pos, Nat.one_pos⟩

end BinaryFormat

/-! ### Between the half-way points -/

/-- Between the half-way points; on one of them where it rounds to the value. -/
def RoundingInterval.Contains (interval : RoundingInterval) (number : ℚ) : Prop :=
  let low := ((interval.value - interval.below : Nat) : ℚ) * 2 ^ interval.exponent
  let high := ((interval.value + interval.above : Nat) : ℚ) * 2 ^ interval.exponent
  if interval.inclusive then low ≤ number ∧ number ≤ high else low < number ∧ number < high

theorem nearer_above {lower upper number other : ℚ} (apart : lower < upper) (beyond : other ≤ lower)
    (half : (lower + upper) / 2 ≤ number) :
    |number - upper| ≤ |number - other| ∧
      ((lower + upper) / 2 < number → |number - upper| < |number - other|) := by
  rw [abs_of_nonneg (show 0 ≤ number - other by linarith)]
  rcases le_total upper number with past | before
  · rw [abs_of_nonneg (show 0 ≤ number - upper by linarith)]
    exact ⟨by linarith, fun _ => by linarith⟩
  · rw [abs_of_nonpos (show number - upper ≤ 0 by linarith)]
    exact ⟨by linarith, fun _ => by linarith⟩

theorem nearer_below {lower upper number other : ℚ} (apart : lower < upper) (beyond : upper ≤ other)
    (half : number ≤ (lower + upper) / 2) :
    |number - lower| ≤ |number - other| ∧
      (number < (lower + upper) / 2 → |number - lower| < |number - other|) := by
  have mirrored := nearer_above (neg_lt_neg apart) (neg_le_neg beyond)
    (show (-upper + -lower) / 2 ≤ -number by linarith)
  have flip : ∀ point : ℚ, |-number - -point| = |number - point| := fun point => by
    rw [← abs_neg, neg_sub, neg_sub_neg]
  rw [flip, flip] at mirrored
  exact ⟨mirrored.1, fun strict => mirrored.2 (by linarith)⟩

theorem BinaryFormat.contains_iff_readsAs {format : BinaryFormat} (fractional : 1 ≤ format.mantissaBits)
    (bits : Nat) (number : ℚ) :
    (format.intervalOf (bits + 1)).Contains number ↔ format.ReadsAs number (bits + 1) := by
  have before : format.value bits < format.value (bits + 1) := value_strictMono (Nat.lt_succ_self _)
  have behind : format.value (bits + 1) < format.value (bits + 1 + 1) :=
    value_strictMono (Nat.lt_succ_self _)
  have even := intervalOf_inclusive fractional (bits + 1)
  rw [RoundingInterval.Contains, intervalOf_below, intervalOf_above]
  constructor
  · intro contained other different
    rcases Nat.lt_or_gt_of_ne different with smaller | larger
    · have beyond : format.value other ≤ format.value bits :=
        value_strictMono.monotone (Nat.le_of_lt_succ smaller)
      split at contained
      · rename_i inclusive
        obtain ⟨nearer, strictly⟩ := nearer_above before beyond contained.1
        rcases nearer.lt_or_eq with nearer | equal
        · exact .inl nearer
        · exact .inr ⟨equal, even.mp inclusive⟩
      · exact .inl ((nearer_above before beyond contained.1.le).2 contained.1)
    · have beyond : format.value (bits + 1 + 1) ≤ format.value other :=
        value_strictMono.monotone larger
      split at contained
      · rename_i inclusive
        obtain ⟨nearer, strictly⟩ := nearer_below behind beyond contained.2
        rcases nearer.lt_or_eq with nearer | equal
        · exact .inl nearer
        · exact .inr ⟨equal, even.mp inclusive⟩
      · exact .inl ((nearer_below behind beyond contained.2.le).2 contained.2)
  · intro reads
    have lower := reads bits (Nat.ne_of_lt (Nat.lt_succ_self _))
    have upper := reads (bits + 1 + 1) (Nat.ne_of_gt (Nat.lt_succ_self _))
    split
    · constructor
      · by_contra below
        have nearer := (nearer_below before le_rfl (not_le.mp below).le).2 (not_le.mp below)
        rcases lower with closer | ⟨equal, _⟩ <;> linarith
      · by_contra above
        have nearer := (nearer_above behind le_rfl (not_le.mp above).le).2 (not_le.mp above)
        rcases upper with closer | ⟨equal, _⟩ <;> linarith
    · rename_i odd
      have closer := lower.resolve_right fun tie => odd (even.mpr tie.2)
      have nearer := upper.resolve_right fun tie => odd (even.mpr tie.2)
      constructor
      · by_contra below
        exact absurd closer (not_lt.mpr (nearer_below before le_rfl (not_lt.mp below)).1)
      · by_contra above
        exact absurd nearer (not_lt.mpr (nearer_above behind le_rfl (not_lt.mp above)).1)

end StsGateway.Data
