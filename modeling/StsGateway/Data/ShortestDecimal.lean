import Mathlib.Algebra.Group.Int.Defs
import Mathlib.Algebra.Group.Nat.Defs

namespace StsGateway.Data

/-! Shortest decimal rendering of a binary floating-point bit pattern.

A finite value `mantissa * 2 ^ exponent` is printed with the fewest significant
digits that still read back as the same value, the closest such decimal if there
are several, and never in exponent notation.
-/

structure BinaryFormat where
  mantissaBits : Nat
  exponentBits : Nat

namespace BinaryFormat

def binary32 : BinaryFormat := ⟨23, 8⟩
def binary64 : BinaryFormat := ⟨52, 11⟩

end BinaryFormat

/-- A positive value with the half-way points to its neighbours, all in units of
`2 ^ exponent`; the half-way points round to it when `inclusive`. -/
structure RoundingInterval where
  value : Nat
  below : Nat
  above : Nat
  exponent : Int
  inclusive : Bool

namespace BinaryFormat

variable (format : BinaryFormat)

def interval (biased fraction : Nat) : RoundingInterval :=
  let bias := 2 ^ (format.exponentBits - 1) - 1
  let lowest : Int := 1 - (bias : Int) - format.mantissaBits
  if biased = 0 then
    ⟨2 * fraction, 1, 1, lowest - 1, fraction % 2 = 0⟩
  else if fraction = 0 ∧ biased ≠ 1 then
    -- the neighbour below a power of two is half as far away
    ⟨4 * 2 ^ format.mantissaBits, 1, 2, lowest + biased - 3, true⟩
  else
    ⟨2 * (2 ^ format.mantissaBits + fraction), 1, 1, lowest + biased - 2, fraction % 2 = 0⟩

end BinaryFormat

namespace RoundingInterval

/-- The multiples of `10 ^ power` next to the value, if one lies in the interval;
the nearer one, and the upper one when both are equally near. -/
def nearest (interval : RoundingInterval) (power : Int) : Option Nat :=
  let scale := 2 ^ interval.exponent.toNat * 10 ^ (-power).toNat
  let unit := 2 ^ (-interval.exponent).toNat * 10 ^ power.toNat
  let value := interval.value * scale
  let digits := value / unit
  let low := (interval.value - interval.below) * scale
  let high := (interval.value + interval.above) * scale
  let down := if interval.inclusive then low ≤ digits * unit else low < digits * unit
  let up := if interval.inclusive then (digits + 1) * unit ≤ high else (digits + 1) * unit < high
  if up ∧ (¬down ∨ unit ≤ 2 * (value % unit)) then some (digits + 1)
  else if down then some digits
  else none

/-- Digits and power of ten, searched from the coarsest power down. -/
def shortest (interval : RoundingInterval) : Nat → Int → Nat × Int
  | 0, power => (interval.value, power)
  | fuel + 1, power =>
      match interval.nearest power with
      | some digits => (digits, power)
      | none => shortest interval fuel (power - 1)

end RoundingInterval

def positional (digits : Nat) (power : Int) : String :=
  let text := (Nat.repr digits).toList
  if 0 ≤ power then String.ofList (text ++ List.replicate power.toNat '0')
  else
    let fractional := (-power).toNat
    if fractional < text.length then
      String.ofList (text.take (text.length - fractional) ++
        '.' :: text.drop (text.length - fractional))
    else String.ofList ('0' :: '.' :: List.replicate (fractional - text.length) '0' ++ text)

def BinaryFormat.render (format : BinaryFormat) (bits : Nat) : String :=
  let fraction := bits % 2 ^ format.mantissaBits
  let biased := bits / 2 ^ format.mantissaBits % 2 ^ format.exponentBits
  let sign := if bits / 2 ^ (format.mantissaBits + format.exponentBits) % 2 = 1 then "-" else ""
  if biased = 2 ^ format.exponentBits - 1 then
    if fraction = 0 then sign ++ "inf" else "NaN"
  else if biased = 0 ∧ fraction = 0 then sign ++ "0"
  else
    let top : Nat := 2 ^ format.exponentBits / 6
    let (digits, power) := (format.interval biased fraction).shortest (3 * top) top
    sign ++ positional digits power

example : BinaryFormat.binary32.render 0x4121999A = "10.1" := by decide +kernel

end StsGateway.Data
