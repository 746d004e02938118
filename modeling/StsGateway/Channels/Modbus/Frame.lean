import StsGateway.Data.BigEndian

namespace StsGateway.Modbus

open Data

/-! Modbus RTU frames, and `rmodbus`, the library the channel builds and parses them with.

`rmodbus` is not part of the repository, so its functions are parameters. What
the channel relies on is `Rmodbus.Lawful`; a reference implementation shows
that the laws can be met.
-/

/-! ### Frames -/

/-- One byte of CRC-16/MODBUS: eight shifts with the reflected polynomial. -/
def crcByte (crc : UInt16) (byte : UInt8) : UInt16 :=
  (List.range 8).foldl
    (fun crc _ => if crc &&& 1 = 1 then (crc >>> 1) ^^^ 0xA001 else crc >>> 1)
    (crc ^^^ byte.toUInt16)

def crc16 (bytes : List UInt8) : UInt16 := bytes.foldl crcByte 0xFFFF

/-- The checksum follows the body, low byte first. -/
def withCrc (body : List UInt8) : List UInt8 :=
  body ++ [UInt8.ofNat ((crc16 body).toNat % 256), UInt8.ofNat ((crc16 body).toNat / 256)]

@[simp] theorem length_withCrc (body : List UInt8) : (withCrc body).length = body.length + 2 := by
  rw [withCrc, List.length_append, List.length_cons, List.length_singleton]

theorem take_withCrc (body : List UInt8) :
    (withCrc body).take ((withCrc body).length - 2) = body := by
  rw [length_withCrc, Nat.add_sub_cancel, withCrc, List.take_left]

structure ReadRequest where
  unitId : UInt8
  startingAddress : UInt16
  elementsCount : UInt16
deriving DecidableEq, Repr

def ReadRequest.frame (request : ReadRequest) : List UInt8 :=
  withCrc (request.unitId :: 3 :: (wordBytes request.startingAddress ++ wordBytes request.elementsCount))

/-- What a slave makes of the bytes on the line. -/
def decodeRequest : List UInt8 → Option ReadRequest
  | unitId :: 3 :: addressHigh :: addressLow :: countHigh :: countLow :: checksum =>
      let request : ReadRequest :=
        ⟨unitId, bytesWord addressHigh addressLow, bytesWord countHigh countLow⟩
      if checksum = request.frame.drop 6 then some request else none
  | _ => none

theorem decodeRequest_frame (request : ReadRequest) :
    decodeRequest request.frame = some request := by
  simp [decodeRequest, ReadRequest.frame, withCrc, wordBytes, bytesWord_wordBytes]

inductive Answer where
  | holdings (words : List UInt16)
  | exception (code : UInt8)
deriving DecidableEq, Repr

def Answer.frame (unitId : UInt8) : Answer → List UInt8
  | .holdings words => withCrc (unitId :: 3 :: UInt8.ofNat (2 * words.length) :: wordsBytes words)
  | .exception code => withCrc [unitId, 0x83, code]

/-- Registers come as many as were asked for, and never more than 125. -/
def Answer.Fits (request : ReadRequest) : Answer → Prop
  | .holdings words =>
      words.length = request.elementsCount.toNat ∧ request.elementsCount.toNat ≤ 125
  | .exception _ => True

instance (request : ReadRequest) : ∀ answer : Answer, Decidable (answer.Fits request)
  | .holdings _ => inferInstanceAs (Decidable (_ ∧ _))
  | .exception _ => isTrue trivial

theorem length_holdings_frame (unitId : UInt8) (words : List UInt16) :
    ((Answer.holdings words).frame unitId).length = 5 + 2 * words.length := by
  simp only [Answer.frame, length_withCrc, List.length_cons, length_wordsBytes]
  omega

theorem length_exception_frame (unitId code : UInt8) :
    ((Answer.exception code).frame unitId).length = 5 := by
  rw [Answer.frame, length_withCrc]
  rfl

/-! ### `rmodbus` -/

/-- `generate_get_holdings`: whether it returned `Ok`, the request object and the bytes. -/
structure Generated (ModbusRequest : Type) where
  ok : Bool
  mreq : ModbusRequest
  request : List UInt8

/-- `ModbusRequest` and `guess_response_frame_len`, for the RTU protocol. -/
structure Rmodbus where
  ModbusRequest : Type
  new : UInt8 → ModbusRequest
  generateGetHoldings : ModbusRequest → UInt16 → UInt16 → Generated ModbusRequest
  guessResponseFrameLen : List UInt8 → Option UInt8
  parseOk : ModbusRequest → List UInt8 → Bool
  parseU16 : ModbusRequest → List UInt8 → Option (List UInt16)

def Rmodbus.asked (rmodbus : Rmodbus) (request : ReadRequest) : Generated rmodbus.ModbusRequest :=
  rmodbus.generateGetHoldings (rmodbus.new request.unitId) request.startingAddress
    request.elementsCount

structure Rmodbus.Lawful (rmodbus : Rmodbus) : Prop where
  generates : ∀ request : ReadRequest, request.elementsCount.toNat ≤ 125 → 1 ≤ request.elementsCount.toNat →
    (rmodbus.asked request).ok = true
  spells : ∀ request, (rmodbus.asked request).ok = true →
    (rmodbus.asked request).request = request.frame
  /-- An error leaves the caller's vector as it was, which is empty. -/
  untouched : ∀ request, (rmodbus.asked request).ok = false → (rmodbus.asked request).request = []
  guesses : ∀ (unitId byteCount : UInt8) (rest : List UInt8), byteCount.toNat ≤ 250 →
    rmodbus.guessResponseFrameLen (unitId :: 3 :: byteCount :: rest) = some (byteCount + 5)
  /-- Unit id, function code and the checksum over the whole buffer match. -/
  accepts : ∀ request body, (rmodbus.asked request).ok = true → body.length ≤ 251 →
    rmodbus.parseOk (rmodbus.asked request).mreq (withCrc (request.unitId :: 3 :: body)) = true
  /-- Nothing is asked of frames with more or fewer words than were requested. -/
  carries : ∀ request words, (rmodbus.asked request).ok = true →
    (Answer.holdings words).Fits request →
      rmodbus.parseU16 (rmodbus.asked request).mreq ((Answer.holdings words).frame request.unitId) =
        some words

theorem Rmodbus.Lawful.guesses_frame {rmodbus : Rmodbus} (lawful : rmodbus.Lawful) (unitId : UInt8)
    {words : List UInt16} (few : words.length ≤ 125)
    (long : 10 ≤ ((Answer.holdings words).frame unitId).length) :
    ∃ len, rmodbus.guessResponseFrameLen (((Answer.holdings words).frame unitId).take 10) = some len ∧
      10 < len ∧ (len - 10).toNat = ((Answer.holdings words).frame unitId).length - 10 := by
  rw [length_holdings_frame] at long ⊢
  have byteCount : (UInt8.ofNat (2 * words.length)).toNat = 2 * words.length := by
    rw [UInt8.toNat_ofNat']
    omega
  have total : (UInt8.ofNat (2 * words.length) + 5).toNat = 5 + 2 * words.length := by
    rw [UInt8.toNat_add, byteCount]
    change (2 * words.length + 5) % 256 = _
    omega
  have longer : 10 < UInt8.ofNat (2 * words.length) + 5 := by
    rw [UInt8.lt_iff_toNat_lt, total]
    change 10 < _
    omega
  refine ⟨UInt8.ofNat (2 * words.length) + 5, ?_, longer, ?_⟩
  · rw [Answer.frame, withCrc, List.cons_append, List.cons_append, List.cons_append,
      List.take_succ_cons, List.take_succ_cons, List.take_succ_cons]
    apply lawful.guesses
    omega
  · rw [UInt8.toNat_sub_of_le _ _ (UInt8.le_of_lt longer), total]
    rfl

theorem Rmodbus.Lawful.accepts_holdings {rmodbus : Rmodbus} (lawful : rmodbus.Lawful)
    (request : ReadRequest) (words : List UInt16) (ok : (rmodbus.asked request).ok = true)
    (few : words.length ≤ 125) :
    rmodbus.parseOk (rmodbus.asked request).mreq ((Answer.holdings words).frame request.unitId) =
      true := by
  apply lawful.accepts request _ ok
  rw [List.length_cons, length_wordsBytes]
  omega

namespace Rmodbus

structure ReferenceRequest where
  unitId : UInt8
  func : UInt8
  count : UInt16

def referenceParseOk (mreq : ReferenceRequest) (response : List UInt8) : Bool :=
  response = withCrc (response.take (response.length - 2)) &&
    response.take 2 = [mreq.unitId, mreq.func]

/-- It refuses no count, and reads no more registers than were requested. -/
def reference : Rmodbus where
  ModbusRequest := ReferenceRequest
  new unitId := ⟨unitId, 0, 0⟩
  generateGetHoldings mreq reg count :=
    ⟨true, { mreq with func := 3, count }, ReadRequest.frame ⟨mreq.unitId, reg, count⟩⟩
  guessResponseFrameLen
    | _ :: func :: byteCount :: _ => if func = 3 ∧ byteCount ≤ 250 then some (byteCount + 5) else none
    | _ => none
  parseOk := referenceParseOk
  parseU16 mreq response :=
    if referenceParseOk mreq response then
      some ((bytesWords ((response.drop 3).take (response.length - 5))).take mreq.count.toNat)
    else none

theorem referenceParseOk_withCrc (unitId func : UInt8) (count : UInt16) (body : List UInt8) :
    referenceParseOk ⟨unitId, func, count⟩ (withCrc (unitId :: func :: body)) = true := by
  rw [referenceParseOk, take_withCrc]
  simp [withCrc]

theorem holdings_frame_data (unitId : UInt8) (words : List UInt16) :
    (((Answer.holdings words).frame unitId).drop 3).take
      (((Answer.holdings words).frame unitId).length - 5) = wordsBytes words := by
  rw [length_holdings_frame, Nat.add_sub_cancel_left, Answer.frame, withCrc, List.cons_append,
    List.cons_append, List.cons_append, List.drop_succ_cons, List.drop_succ_cons,
    List.drop_succ_cons, List.drop_zero, ← length_wordsBytes, List.take_left]

theorem reference_lawful : reference.Lawful where
  generates _ _ _ := rfl
  spells _ _ := rfl
  untouched _ failed := absurd failed (by simp [asked, reference])
  guesses unitId byteCount rest few := by
    have bound : byteCount ≤ 250 := few
    simp [reference, bound]
  accepts request body _ _ := referenceParseOk_withCrc request.unitId 3 request.elementsCount body
  carries request words _ fits := by
    have accepted : referenceParseOk ⟨request.unitId, 3, request.elementsCount⟩
        ((Answer.holdings words).frame request.unitId) = true :=
      referenceParseOk_withCrc request.unitId 3 request.elementsCount _
    simp only [asked, reference, if_pos accepted, holdings_frame_data, bytesWords_wordsBytes,
      ← fits.1, List.take_length]

end Rmodbus

end StsGateway.Modbus
