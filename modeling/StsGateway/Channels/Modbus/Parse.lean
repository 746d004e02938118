import StsGateway.Rust
import StsGateway.Data.BigEndian
import StsGateway.Data.ShortestDecimal

namespace StsGateway

open Data

/-! `channels/mod.rs` and `channels/modbus/mod.rs`: register maps and decoding. -/

structure DataPoint where
  key : String
  value : String
  ts : Option Int
deriving DecidableEq, Repr

namespace Modbus

inductive ModbusDataType where
  | double
  | float
  | int32
  | int16
  | uint32
  | uint16
deriving DecidableEq, Repr

structure ModbusDataPointReader where
  dataOffset : UInt64
  registerCount : UInt64
  dataType : ModbusDataType
  keyName : String
deriving DecidableEq, Repr

structure ModbusRegisterGroup where
  startingAddress : UInt16
  elementsCount : UInt16
  dataPoints : List ModbusDataPointReader
deriving DecidableEq, Repr

structure ModbusRegisterMap where
  attributes : List ModbusRegisterGroup
  timeseries : List ModbusRegisterGroup
deriving DecidableEq, Repr

structure ModbusSlave where
  deviceName : String
  deviceType : Option String
  modbusId : UInt8
  registerMap : String
deriving DecidableEq, Repr

/-- `bytebuffer::ByteBuffer`: bytes are written at the end and read from `rpos`. -/
structure ByteBuffer where
  data : List UInt8
  rpos : Nat

namespace ByteBuffer

def new : ByteBuffer := ⟨[], 0⟩

def len (buff : ByteBuffer) : Nat := buff.data.length

def writeU16 (buff : ByteBuffer) (word : UInt16) : ByteBuffer :=
  { buff with data := buff.data ++ wordBytes word }

/-- The read position never passes the end. -/
def setRpos (buff : ByteBuffer) (rpos : Nat) : ByteBuffer :=
  { buff with rpos := min rpos buff.data.length }

/-- A typed read panics when fewer bytes remain than the type needs. -/
def readBytes (buff : ByteBuffer) (width : Nat) : Except Panic (List UInt8) :=
  if buff.rpos + width ≤ buff.data.length then .ok (window buff.data buff.rpos width)
  else .error ⟨"could not read enough bits from buffer"⟩

def readU16 (buff : ByteBuffer) : Except Panic Nat := bigEndian <$> buff.readBytes 2

def readU32 (buff : ByteBuffer) : Except Panic Nat := bigEndian <$> buff.readBytes 4

def readI32 (buff : ByteBuffer) : Except Panic Int :=
  (twosComplement 32 ∘ bigEndian) <$> buff.readBytes 4

/-- `read_f32` and `read_f64` return the value with exactly the bits that were read. -/
def readF32 (buff : ByteBuffer) : Except Panic Nat := buff.readU32

def readF64 (buff : ByteBuffer) : Except Panic Nat := bigEndian <$> buff.readBytes 8

end ByteBuffer

namespace ModbusDataPointReader

/-- The tail shared by the typed branches: guard the seek, then read. -/
def readGuarded (profile : Profile) (self : ModbusDataPointReader) (buff : ByteBuffer)
    (width : UInt64) (read : ByteBuffer → Except Panic String) : Except Panic (Option DataPoint) := do
  let stop ← profile.addUsize self.dataOffset width
  if ¬stop.toNat ≤ buff.len then .ok none
  else
    let value ← read buff
    .ok (some { key := self.keyName, value, ts := none })

def parse (profile : Profile) (self : ModbusDataPointReader) (data : List UInt16) :
    Except Panic (Option DataPoint) :=
  let buff := data.foldl ByteBuffer.writeU16 ByteBuffer.new
  match self.dataType with
  | .float =>
      self.readGuarded profile (buff.setRpos self.dataOffset.toNat) 4 fun buff =>
        BinaryFormat.binary32.render <$> buff.readF32
  | .double =>
      self.readGuarded profile (buff.setRpos self.dataOffset.toNat) 8 fun buff =>
        BinaryFormat.binary64.render <$> buff.readF64
  | .int32 =>
      self.readGuarded profile (buff.setRpos self.dataOffset.toNat) 4 fun buff =>
        toString <$> buff.readI32
  | .uint32 =>
      self.readGuarded profile (buff.setRpos self.dataOffset.toNat) 4 fun buff =>
        toString <$> buff.readU32
  | .uint16 =>
      self.readGuarded profile (buff.setRpos (min self.dataOffset.toNat buff.len)) 2 fun buff =>
        toString <$> buff.readU16
  | .int16 => .error ⟨"not yet implemented"⟩

end ModbusDataPointReader

/-! ### What `parse` computes -/

def ModbusDataType.width : ModbusDataType → Nat
  | .double => 8
  | .float | .int32 | .uint32 => 4
  | .int16 | .uint16 => 2

def ModbusDataType.decode : ModbusDataType → List UInt8 → String
  | .double, bytes => BinaryFormat.binary64.render (bigEndian bytes)
  | .float, bytes => BinaryFormat.binary32.render (bigEndian bytes)
  | .int32, bytes => toString (twosComplement 32 (bigEndian bytes))
  | .int16, _ => ""
  | .uint32, bytes | .uint16, bytes => toString (bigEndian bytes)

def ModbusDataPointReader.stop (self : ModbusDataPointReader) : Nat :=
  self.dataOffset.toNat + self.dataType.width

def ModbusDataPointReader.decoded (self : ModbusDataPointReader) (data : List UInt16) : DataPoint where
  key := self.keyName
  value := self.dataType.decode (window (wordsBytes data) self.dataOffset.toNat self.dataType.width)
  ts := none

namespace ByteBuffer

theorem foldl_writeU16 (buff : ByteBuffer) (data : List UInt16) :
    data.foldl writeU16 buff = { buff with data := buff.data ++ wordsBytes data } := by
  induction data generalizing buff with
  | nil => simp
  | cons word rest ih => simp [ih, writeU16]

theorem readBytes_inside {data : List UInt8} {offset width : Nat}
    (inside : offset + width ≤ data.length) :
    (ByteBuffer.mk data (min offset data.length)).readBytes width = .ok (window data offset width) := by
  have position : min offset data.length = offset := by omega
  simp only [readBytes, position, if_pos inside]

theorem readBytes_clamped {data : List UInt8} {offset width : Nat} (past : data.length ≤ offset)
    (positive : 0 < width) :
    (ByteBuffer.mk data (min offset data.length)).readBytes width =
      .error ⟨"could not read enough bits from buffer"⟩ := by
  have position : min offset data.length = data.length := by omega
  have short : ¬data.length + width ≤ data.length := by omega
  simp only [readBytes, position, if_neg short]

end ByteBuffer

namespace ModbusDataPointReader

variable {profile : Profile} {self : ModbusDataPointReader} {data : List UInt16}

theorem parse_eq (typed : self.dataType ≠ .int16) :
    self.parse profile data =
      self.readGuarded profile
        ⟨wordsBytes data, min self.dataOffset.toNat (wordsBytes data).length⟩
        (UInt64.ofNat self.dataType.width) fun buff =>
          self.dataType.decode <$> buff.readBytes self.dataType.width := by
  unfold parse
  cases kind : self.dataType with
  | int16 => contradiction
  | _ =>
      simp only [ByteBuffer.foldl_writeU16, ByteBuffer.new, ByteBuffer.setRpos, ByteBuffer.len,
        ByteBuffer.readF32, ByteBuffer.readF64, ByteBuffer.readU16, ByteBuffer.readU32,
        ByteBuffer.readI32, List.nil_append, Functor.map_map, Nat.min_assoc, Nat.min_self]
      rfl

theorem parse_fits (typed : self.dataType ≠ .int16) (fits : self.stop < 2 ^ 64) :
    self.parse profile data =
      .ok (if self.stop ≤ 2 * data.length then some (self.decoded data) else none) := by
  have width : (UInt64.ofNat self.dataType.width).toNat = self.dataType.width := by
    cases self.dataType <;> rfl
  obtain ⟨stop, added, exact⟩ := profile.addUsize_fits self.dataOffset
    (UInt64.ofNat self.dataType.width) (by rw [width]; exact fits)
  rw [width] at exact
  have ends : stop.toNat = self.stop := exact
  rw [parse_eq typed, readGuarded, added, ok_bind, ends, ByteBuffer.len, length_wordsBytes]
  by_cases inside : self.stop ≤ 2 * data.length
  · have within : self.dataOffset.toNat + self.dataType.width ≤ (wordsBytes data).length := by
      rw [length_wordsBytes]
      exact inside
    have read := ByteBuffer.readBytes_inside within
    rw [length_wordsBytes] at read
    rw [if_neg (not_not.mpr inside), if_pos inside, read]
    rfl
  · rw [if_pos inside, if_neg inside]

theorem parse_int16 (untyped : self.dataType = .int16) :
    self.parse profile data = .error ⟨"not yet implemented"⟩ := by
  simp only [parse, untyped]

/-- An end past `usize::MAX` panics in the addition, or wraps around the guard
and panics in the read; it is rejected only when the buffer is shorter still. -/
theorem parse_overflows (typed : self.dataType ≠ .int16) (overflows : 2 ^ 64 ≤ self.stop)
    (short : data.length < 2 ^ 62) :
    (∃ panic, self.parse profile data = .error panic) ∧
        (profile = .dev ∨ self.stop - 2 ^ 64 ≤ 2 * data.length) ∨
      self.parse profile data = .ok none ∧
        ¬(profile = .dev ∨ self.stop - 2 ^ 64 ≤ 2 * data.length) := by
  have width : (UInt64.ofNat self.dataType.width).toNat = self.dataType.width := by
    cases self.dataType <;> rfl
  have positive : 0 < self.dataType.width ∧ self.dataType.width ≤ 8 := by
    cases self.dataType <;> decide
  cases profile with
  | dev =>
      have added := Profile.addUsize_dev_overflows self.dataOffset
        (UInt64.ofNat self.dataType.width) (by rw [width]; exact overflows)
      exact .inl ⟨⟨_, by rw [parse_eq typed, readGuarded, added, error_bind]⟩, .inl rfl⟩
  | release =>
      obtain ⟨stop, added, wrapped⟩ := Profile.addUsize_release_overflows
        self.dataOffset (UInt64.ofNat self.dataType.width)
        (by rw [width]; exact overflows)
      rw [width] at wrapped
      have same : stop.toNat = self.stop - 2 ^ 64 := wrapped
      rw [parse_eq typed, readGuarded, added, ok_bind, same, ByteBuffer.len, length_wordsBytes]
      by_cases guarded : self.stop - 2 ^ 64 ≤ 2 * data.length
      · have past : (wordsBytes data).length ≤ self.dataOffset.toNat := by
          rw [length_wordsBytes]
          have bound : self.stop = self.dataOffset.toNat + self.dataType.width := rfl
          omega
        have read := ByteBuffer.readBytes_clamped past positive.1
        rw [length_wordsBytes] at read
        rw [if_neg (not_not.mpr guarded), read]
        exact .inl ⟨⟨_, rfl⟩, .inr guarded⟩
      · rw [if_pos guarded]
        exact .inr ⟨rfl, by simpa using guarded⟩

/-- When `parse` panics on `count` words, in terms of the point alone. -/
def ParsePanics (profile : Profile) (self : ModbusDataPointReader) (count : Nat) : Prop :=
  self.dataType = .int16 ∨
    2 ^ 64 ≤ self.stop ∧ (profile = .dev ∨ self.stop - 2 ^ 64 ≤ 2 * count)

instance (profile : Profile) (self : ModbusDataPointReader) (count : Nat) :
    Decidable (self.ParsePanics profile count) :=
  inferInstanceAs (Decidable (_ ∨ _))

theorem parse_panics (short : data.length < 2 ^ 62) (panics : self.ParsePanics profile data.length) :
    ∃ panic, self.parse profile data = .error panic := by
  rcases panics with untyped | ⟨overflows, guarded⟩
  · exact ⟨_, parse_int16 untyped⟩
  · by_cases typed : self.dataType = .int16
    · exact ⟨_, parse_int16 typed⟩
    · rcases parse_overflows typed overflows short with ⟨panicked, _⟩ | ⟨_, unguarded⟩
      · exact panicked
      · exact absurd guarded unguarded

theorem parse_returns (short : data.length < 2 ^ 62)
    (calm : ¬self.ParsePanics profile data.length) :
    self.parse profile data =
      .ok (if self.stop ≤ 2 * data.length then some (self.decoded data) else none) := by
  obtain ⟨typed, bounded⟩ := not_or.mp calm
  by_cases fits : self.stop < 2 ^ 64
  · exact parse_fits typed fits
  · have overflows : 2 ^ 64 ≤ self.stop := by omega
    have outside : ¬self.stop ≤ 2 * data.length := by omega
    rcases parse_overflows typed overflows short with ⟨_, guarded⟩ | ⟨rejected, _⟩
    · exact absurd ⟨overflows, guarded⟩ bounded
    · rw [rejected, if_neg outside]

end ModbusDataPointReader

end Modbus

end StsGateway
