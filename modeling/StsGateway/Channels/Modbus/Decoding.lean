import StsGateway.Channels.Modbus.Parse
import StsGateway.Data.DecimalReading

namespace StsGateway.Modbus

open Data

/-! Decoding one data point: when it panics, and what it decodes otherwise.

The reference says what the registers mean and does not mention the byte buffer:
the words spell bytes, most significant first, and a value is the number that
the bytes of its window spell.
-/

namespace ModbusDataPointReader

/-- The buffer at the typed read, after the seek. -/
def sought (self : ModbusDataPointReader) (data : List UInt16) : ByteBuffer where
  data := wordsBytes data
  rpos := min self.dataOffset.toNat (wordsBytes data).length

/-- `data_offset + width`, as the guard computes it. -/
def guardSum (profile : Profile) (self : ModbusDataPointReader) : Except Panic UInt64 :=
  profile.addUsize self.dataOffset (UInt64.ofNat self.dataType.width)

def ReadsTyped (profile : Profile) (self : ModbusDataPointReader) (data : List UInt16) : Prop :=
  ∃ sum, self.guardSum profile = .ok sum ∧ sum.toNat ≤ (self.sought data).len

end ModbusDataPointReader

/-- Decoding never panics, in either build. -/
structure DecodesSafely (reader : ModbusDataPointReader) (data : List UInt16) : Prop where
  returns : ∀ profile, ∃ point, reader.parse profile data = .ok point
  exactSum : ∀ profile, ∃ sum, reader.guardSum profile = .ok sum ∧ sum.toNat = reader.stop
  readsInside : ∀ profile, reader.ReadsTyped profile data →
    (reader.sought data).rpos + reader.dataType.width ≤ (reader.sought data).len

theorem guardSum_fits {self : ModbusDataPointReader} (fits : self.stop < 2 ^ 64)
    (profile : Profile) : ∃ sum, self.guardSum profile = .ok sum ∧ sum.toNat = self.stop := by
  have width : (UInt64.ofNat self.dataType.width).toNat = self.dataType.width := by
    cases self.dataType <;> rfl
  obtain ⟨sum, added, exact⟩ := profile.addUsize_fits self.dataOffset
    (UInt64.ofNat self.dataType.width) (by rw [width]; exact fits)
  rw [width] at exact
  exact ⟨sum, added, exact⟩

theorem decodes_safely_iff (self : ModbusDataPointReader) (data : List UInt16) :
    DecodesSafely self data ↔
      self.dataType ≠ .int16 ∧ self.dataOffset.toNat + self.dataType.width < 2 ^ 64 := by
  constructor
  · intro safe
    constructor
    · intro untyped
      obtain ⟨point, returned⟩ := safe.returns .release
      rw [ModbusDataPointReader.parse_int16 untyped] at returned
      contradiction
    · obtain ⟨sum, _, exact⟩ := safe.exactSum .release
      have bound := sum.toNat_lt
      rw [exact] at bound
      exact bound
  · intro condition
    obtain ⟨typed, fits⟩ := condition
    refine ⟨?_, guardSum_fits fits, ?_⟩
    · intro profile
      exact ⟨_, ModbusDataPointReader.parse_fits typed fits⟩
    · intro profile executed
      obtain ⟨sum, added, guarded⟩ := executed
      obtain ⟨other, same, exact⟩ := guardSum_fits fits profile
      rw [added] at same
      cases same
      have stop : self.stop = self.dataOffset.toNat + self.dataType.width := rfl
      rw [exact, ByteBuffer.len] at guarded
      -- the guard let the read pass, so the seek was not clamped
      change min self.dataOffset.toNat (wordsBytes data).length + self.dataType.width ≤
        (wordsBytes data).length
      change self.stop ≤ (wordsBytes data).length at guarded
      omega

/-- A register map may say `int16`, and no registers save the thread then. -/
theorem int16_is_unimplemented : ¬DecodesSafely ⟨0, 1, .int16, "current"⟩ [7] := by
  intro safe
  obtain ⟨point, returned⟩ := safe.returns .release
  cases returned

/-! ### The reference -/

/-- The bytes of the words, most significant byte first. -/
def referenceBytes (data : List UInt16) : List Nat :=
  data.flatMap fun word => [word.toNat / 256, word.toNat % 256]

def referenceWindow (data : List UInt16) (offset width : Nat) : List Nat :=
  ((referenceBytes data).drop offset).take width

/-- The number a window spells; `ofDigits` wants the least significant digit first. -/
def referenceNumber (data : List UInt16) (offset width : Nat) : Nat :=
  Nat.ofDigits 256 (referenceWindow data offset width).reverse

/-- The decimal rendering of the value with exactly these bits. -/
def ModbusDataType.reference : ModbusDataType → Nat → String
  | .double, bits => BinaryFormat.binary64.render bits
  | .float, bits => BinaryFormat.binary32.render bits
  | .int32, bits => toString (BitVec.ofNat 32 bits).toInt
  | .int16, bits => toString (BitVec.ofNat 16 bits).toInt
  | .uint32, bits | .uint16, bits => toString bits

def ModbusDataPointReader.reference (self : ModbusDataPointReader) (bits : Nat) : DataPoint where
  key := self.keyName
  value := self.dataType.reference bits
  ts := none

structure MatchesReference (profile : Profile) (reader : ModbusDataPointReader)
    (data : List UInt16) : Prop where
  some_iff : (∃ point, reader.parse profile data = .ok (some point)) ↔
    reader.dataOffset.toNat + reader.dataType.width ≤ 2 * data.length
  none_iff : reader.parse profile data = .ok none ↔
    ¬reader.dataOffset.toNat + reader.dataType.width ≤ 2 * data.length
  value : ∀ point, reader.parse profile data = .ok (some point) →
    point = reader.reference (referenceNumber data reader.dataOffset.toNat reader.dataType.width)
  window : reader.dataOffset.toNat + reader.dataType.width ≤ 2 * data.length → ∀ other,
    referenceWindow other reader.dataOffset.toNat reader.dataType.width =
      referenceWindow data reader.dataOffset.toNat reader.dataType.width →
    reader.parse profile other = reader.parse profile data
  roundTrip : ∀ front back number, reader.dataOffset.toNat = 2 * front.length →
    number < 2 ^ (8 * reader.dataType.width) →
    reader.parse profile (front ++ numberWords (reader.dataType.width / 2) number ++ back) =
      .ok (some (reader.reference number))
  integers : reader.dataType = .int32 → ∀ front back (value : Int),
    reader.dataOffset.toNat = 2 * front.length → -(2 ^ 31) ≤ value → value < 2 ^ 31 →
    reader.parse profile (front ++ numberWords 2 (BitVec.ofInt 32 value).toNat ++ back) =
      .ok (some ⟨reader.keyName, toString value, none⟩)

section Reference

variable {profile : Profile} {self : ModbusDataPointReader} {data : List UInt16} {offset width : Nat}

theorem referenceWindow_eq (data : List UInt16) (offset width : Nat) :
    referenceWindow data offset width =
      (window (wordsBytes data) offset width).map UInt8.toNat := by
  rw [referenceWindow, referenceBytes, ← bytes_of_words, window, List.map_take, List.map_drop]

theorem referenceNumber_eq (data : List UInt16) (offset width : Nat) :
    referenceNumber data offset width = bigEndian (window (wordsBytes data) offset width) := by
  rw [referenceNumber, referenceWindow_eq, bigEndian_eq_ofDigits]

theorem length_referenceWindow (data : List UInt16) (offset width : Nat) :
    (referenceWindow data offset width).length = min width (2 * data.length - offset) := by
  rw [referenceWindow_eq, List.length_map, window, List.length_take, List.length_drop,
    length_wordsBytes]

theorem referenceNumber_lt (data : List UInt16) (offset width : Nat) :
    referenceNumber data offset width < 256 ^ width := by
  have digits : ∀ digit ∈ (referenceWindow data offset width).reverse, digit < 256 := by
    intro digit member
    rw [List.mem_reverse, referenceWindow_eq] at member
    obtain ⟨byte, _, rfl⟩ := List.mem_map.mp member
    exact byte.toNat_lt
  have bound := Nat.ofDigits_lt_base_pow_length (by decide) digits
  rw [List.length_reverse, length_referenceWindow] at bound
  exact lt_of_lt_of_le bound (Nat.pow_le_pow_right (by decide) (Nat.min_le_left _ _))

/-- Lean's own two's complement is the one `read_i32` computes. -/
theorem twosComplement_eq {number : Nat} (bound : number < 2 ^ 32) :
    twosComplement 32 number = (BitVec.ofNat 32 number).toInt := by
  rw [BitVec.toInt_eq_toNat_cond, BitVec.toNat_ofNat, Nat.mod_eq_of_lt bound, twosComplement]
  by_cases positive : number < 2 ^ 31
  · have doubled : 2 * number < 2 ^ 32 := by omega
    rw [if_pos positive, if_pos doubled]
  · have doubled : ¬2 * number < 2 ^ 32 := by omega
    rw [if_neg positive, if_neg doubled]
    rfl

theorem decoded_eq_reference (typed : self.dataType ≠ .int16) :
    self.decoded data =
      self.reference (referenceNumber data self.dataOffset.toNat self.dataType.width) := by
  have bound := referenceNumber_lt data self.dataOffset.toNat self.dataType.width
  rw [ModbusDataPointReader.decoded, ModbusDataPointReader.reference]
  congr 1
  rw [referenceNumber_eq] at bound ⊢
  cases kind : self.dataType with
  | int32 =>
      rw [kind] at bound
      rw [ModbusDataType.decode, ModbusDataType.reference, twosComplement_eq bound]
  | int16 => contradiction
  | double => rfl
  | float => rfl
  | uint32 => rfl
  | uint16 => rfl

theorem parse_reference (profile : Profile) (typed : self.dataType ≠ .int16) (fits : self.stop < 2 ^ 64)
    (data : List UInt16) :
    self.parse profile data = .ok (if self.stop ≤ 2 * data.length then
      some (self.reference (referenceNumber data self.dataOffset.toNat self.dataType.width))
      else none) := by
  rw [ModbusDataPointReader.parse_fits typed fits, decoded_eq_reference typed]

def ModbusDataType.format? : ModbusDataType → Option BinaryFormat
  | .double => some .binary64
  | .float => some .binary32
  | .int32 | .int16 | .uint32 | .uint16 => none

/-- A finite number other than zero is published as the shortest text that is read as it. -/
theorem parse_shortest (profile : Profile) {format : BinaryFormat}
    (decimal : self.dataType.format? = some format) (fits : self.stop < 2 ^ 64)
    (inside : self.stop ≤ 2 * data.length) {bits : Nat}
    (spelled : referenceNumber data self.dataOffset.toNat self.dataType.width = bits)
    (finite : bits / 2 ^ format.mantissaBits % 2 ^ format.exponentBits ≠ 2 ^ format.exponentBits - 1)
    (nonzero : format.magnitude bits ≠ 0) :
    ∃ sign text : String, self.parse profile data = .ok (some ⟨self.keyName, sign ++ text, none⟩) ∧
      (sign = if bits / 2 ^ (format.mantissaBits + format.exponentBits) % 2 = 1 then "-" else "") ∧
      format.Shortest (format.magnitude bits) text.toList := by
  have typed : self.dataType ≠ .int16 := by
    intro short
    rw [short] at decimal
    cases decimal
  have rendered : self.dataType.reference bits = format.render bits ∧ format.Renderable := by
    cases kind : self.dataType with
    | double =>
        rw [kind] at decimal
        cases decimal
        exact ⟨rfl, BinaryFormat.binary64_renderable⟩
    | float =>
        rw [kind] at decimal
        cases decimal
        exact ⟨rfl, BinaryFormat.binary32_renderable⟩
    | _ =>
        rw [kind] at decimal
        cases decimal
  obtain ⟨sign, text, printed, signed, shortest⟩ :=
    BinaryFormat.render_shortest rendered.2 finite nonzero
  refine ⟨sign, text, ?_, signed, shortest⟩
  rw [parse_reference profile typed fits, if_pos inside, spelled, ModbusDataPointReader.reference,
    rendered.1, printed]

theorem width_words (typed : self.dataType ≠ .int16) :
    2 * (self.dataType.width / 2) = self.dataType.width ∧
      2 ^ (8 * self.dataType.width) = 65536 ^ (self.dataType.width / 2) := by
  cases kind : self.dataType with
  | int16 => contradiction
  | _ => exact ⟨rfl, rfl⟩

theorem referenceNumber_numberWords {count number : Nat} (front back : List UInt16)
    (bound : number < 65536 ^ count) :
    referenceNumber (front ++ numberWords count number ++ back) (2 * front.length) (2 * count) =
      number := by
  have spelled : window (wordsBytes (front ++ numberWords count number ++ back))
      (2 * front.length) (2 * count) = wordsBytes (numberWords count number) := by
    rw [List.append_assoc, wordsBytes_append, window_append_right _ (length_wordsBytes front).symm,
      wordsBytes_append, List.take_left']
    rw [length_wordsBytes, length_numberWords]
  rw [referenceNumber_eq, spelled, bigEndian_numberWords, Nat.mod_eq_of_lt bound]

/-- What is written at an aligned offset is what is decoded there, whatever stands around it. -/
theorem parse_numberWords (profile : Profile) (typed : self.dataType ≠ .int16) (fits : self.stop < 2 ^ 64)
    (front back : List UInt16) {number : Nat} (aligned : self.dataOffset.toNat = 2 * front.length)
    (bound : number < 2 ^ (8 * self.dataType.width)) :
    self.parse profile (front ++ numberWords (self.dataType.width / 2) number ++ back) =
      .ok (some (self.reference number)) := by
  obtain ⟨even, power⟩ := width_words typed
  have inside : self.stop ≤
      2 * (front ++ numberWords (self.dataType.width / 2) number ++ back).length := by
    simp only [List.length_append, length_numberWords, ModbusDataPointReader.stop]
    omega
  rw [power] at bound
  have spelled := referenceNumber_numberWords front back bound
  rw [even] at spelled
  rw [parse_reference profile typed fits, if_pos inside, aligned, spelled]

theorem parse_matches_reference (profile : Profile) (self : ModbusDataPointReader)
    (data : List UInt16) (typed : self.dataType ≠ .int16)
    (fits : self.dataOffset.toNat + self.dataType.width < 2 ^ 64) :
    MatchesReference profile self data := by
  have parsed := parse_reference profile typed fits
  have positive : 0 < self.dataType.width := by cases self.dataType <;> decide
  refine ⟨?_, ?_, ?_, ?_, ?_, ?_⟩
  · rw [parsed, ← ModbusDataPointReader.stop]
    by_cases inside : self.stop ≤ 2 * data.length <;> simp [inside]
  · rw [parsed, ← ModbusDataPointReader.stop]
    by_cases inside : self.stop ≤ 2 * data.length <;> simp [inside]
  · intro point returned
    rw [parsed] at returned
    split at returned
    · cases returned
      rfl
    · cases returned
  · intro inside other same
    change self.stop ≤ 2 * data.length at inside
    have lengths := congrArg List.length same
    rw [length_referenceWindow, length_referenceWindow] at lengths
    have otherInside : self.stop ≤ 2 * other.length := by
      rw [ModbusDataPointReader.stop] at inside ⊢
      omega
    rw [parsed, parsed, if_pos inside, if_pos otherInside, referenceNumber, referenceNumber, same]
  · intro front back number aligned bound
    exact parse_numberWords profile typed fits front back aligned bound
  · intro signed front back value aligned lower upper
    have width : self.dataType.width = 4 := by rw [signed]; rfl
    have bound := (BitVec.ofInt 32 value).isLt
    have number : (BitVec.ofInt 32 value).toNat < 2 ^ (8 * self.dataType.width) := by
      rw [width]
      exact bound
    have written := parse_numberWords profile typed fits front back aligned number
    rw [width] at written
    rw [written, ModbusDataPointReader.reference, signed, ModbusDataType.reference,
      BitVec.ofNat_toNat, BitVec.setWidth_eq, BitVec.toInt_ofInt_eq_self (by decide) lower upper]

end Reference

theorem parse_matches_reference_float :
    ModbusDataPointReader.parse .release ⟨2, 4, .float, "voltage"⟩ [0, 0x4121, 0x999A] =
        .ok (some ⟨"voltage", "10.1", none⟩) ∧
      MatchesReference .release ⟨2, 4, .float, "voltage"⟩ [0, 0x4121, 0x999A] := by
  exact ⟨by decide +kernel,
    parse_matches_reference .release ⟨2, 4, .float, "voltage"⟩ [0, 0x4121, 0x999A] (by decide) (by decide)⟩

end StsGateway.Modbus
