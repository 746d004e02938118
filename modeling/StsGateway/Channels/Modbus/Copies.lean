import StsGateway.Channels.Modbus.Rtu

namespace StsGateway.Modbus

open Data

/-! The read sequence of a group stands in the source twice, once for the
attributes and once for the timeseries. Here both copies run against one and the
same behaviour of the port.
-/

/-- The replies of the port, and what comes in, by the number of the call: the `n`th
`clear` succeeds or fails, `during n` comes in until the `n`th `read_exact` is over
and `behind n` right after it. A read that fails takes `lost n` bytes. -/
structure PortBehaviour where
  clears : Nat → Bool
  writes : Bool
  flushes : Bool
  during : Nat → List UInt8
  behind : Nat → List UInt8
  reads : Nat → Bool
  lost : Nat → Nat

/-- What has come in is `queued` until it is read or cleared. `discarded` is what was
cleared between the first read and the second. -/
structure Port where
  queued : List UInt8
  written : List (List UInt8)
  clears : Nat
  reads : Nat
  discarded : List UInt8
deriving DecidableEq

def Port.opened (line : List UInt8) : Port := ⟨line, [], 0, 0, []⟩

namespace PortBehaviour

variable (behaviour : PortBehaviour)

def arrived (port : Port) : List UInt8 := port.queued ++ behaviour.during port.reads

def readable (port : Port) (count : Nat) : Option (BytesRead count) :=
  if enough : behaviour.reads port.reads = true ∧ count ≤ (behaviour.arrived port).length then
    some ⟨(behaviour.arrived port).take count, by rw [List.length_take, Nat.min_eq_left enough.2]⟩
  else none

def afterRead (port : Port) (taken : Nat) : Port := { port with
  queued := (behaviour.arrived port).drop taken ++ behaviour.behind port.reads
  reads := port.reads + 1 }

def afterClear (port : Port) : Port :=
  if behaviour.clears port.clears then { port with
    queued := []
    clears := port.clears + 1
    discarded := if port.reads = 1 then port.discarded ++ port.queued else port.discarded }
  else { port with clears := port.clears + 1 }

/-- The exchange of a group neither asks for the time nor sends. -/
def respond (port : Port) : (call : SerialCall) → call.Reply × Port
  | .clear _ => (behaviour.clears port.clears, behaviour.afterClear port)
  | .write request => (behaviour.writes, { port with written := port.written ++ [request] })
  | .flush => (behaviour.flushes, port)
  | .readExact count =>
      (behaviour.readable port count, behaviour.afterRead port
        (if (behaviour.readable port count).isSome then count else behaviour.lost port.reads))
  | .timestamp => (0, port)
  | .send _ => (true, port)

/-- What the first `read_exact` can take from: the line as the first `clear` left
it, and what comes in. -/
def heard (line : List UInt8) : List UInt8 :=
  (if behaviour.clears 0 then [] else line) ++ behaviour.during 0

/-- What is queued when the first ten bytes have been read. -/
def behindTen (line : List UInt8) : List UInt8 :=
  (behaviour.heard line).drop 10 ++ behaviour.behind 0

/-- The first ten bytes are read, and announce a longer frame. -/
def FrameContinues (rmodbus : Rmodbus) (line : List UInt8) : Prop :=
  behaviour.writes = true ∧ behaviour.reads 0 = true ∧ 10 ≤ (behaviour.heard line).length ∧
    ∃ len, rmodbus.guessResponseFrameLen ((behaviour.heard line).take 10) = some len ∧ 10 < len

end PortBehaviour

/-! ### One copy of the read -/

/-- Where one copy of the read of a group ends: with the words read, or with
none when the group is skipped. -/
structure GroupRead where
  readBuffer : Except Panic (Option (List UInt16))
  port : Port
deriving DecidableEq

def GroupRead.points (profile : Profile) (regGroup : ModbusRegisterGroup) (read : GroupRead) :
    Except Panic (Option (List DataPoint)) := do
  match ← read.readBuffer with
  | none => return none
  | some words => some <$> collectPoints (ModbusRtuChannel.parsePoint profile words) regGroup.dataPoints

namespace ModbusRtuChannel

variable (rmodbus : Rmodbus)

def readGroup (behaviour : PortBehaviour) (line : List UInt8)
    (response : SerialProgram (Option (rmodbus.ModbusRequest × List UInt8))) : GroupRead :=
  let ended := response.execute behaviour.respond (.opened line)
  ⟨ended.1.map (extract rmodbus), ended.2⟩

def readAttributes (behaviour : PortBehaviour) (line : List UInt8) (request : ReadRequest) : GroupRead :=
  readGroup rmodbus behaviour line (attributesResponse rmodbus request)

def readTimeseries (behaviour : PortBehaviour) (line : List UInt8) (request : ReadRequest) : GroupRead :=
  readGroup rmodbus behaviour line (timeseriesResponse rmodbus request)

end ModbusRtuChannel

/-- The same bytes are written, with the same words or the same failure and so the same
data points; a request that could not be generated is neither written nor waited for,
and nothing of a frame of which ten bytes have been read is discarded. -/
structure GroupRead.Agree (rmodbus : Rmodbus) (request : ReadRequest)
    (regGroup : ModbusRegisterGroup) (continues : Prop) (attributes timeseries : GroupRead) :
    Prop where
  written : attributes.port.written = timeseries.port.written
  readBuffer : attributes.readBuffer = timeseries.readBuffer
  points : ∀ profile, attributes.points profile regGroup = timeseries.points profile regGroup
  rejected : (rmodbus.asked request).ok = false →
    ∀ read ∈ [attributes, timeseries], read.port.written = [] ∧ read.port.reads = 0
  kept : continues → ∀ read ∈ [attributes, timeseries], read.port.discarded = []

/-- What the two copies make of one group of one slave, from the same line. -/
def CopiesAgree (rmodbus : Rmodbus) (slave : ModbusSlave) (regGroup : ModbusRegisterGroup)
    (behaviour : PortBehaviour) (line : List UInt8) : Prop :=
  let request := ModbusRtuChannel.groupRequest slave regGroup
  GroupRead.Agree rmodbus request regGroup (behaviour.FrameContinues rmodbus line)
    (ModbusRtuChannel.readAttributes rmodbus behaviour line request)
    (ModbusRtuChannel.readTimeseries rmodbus behaviour line request)

/-! ### Running the copies -/

namespace PortBehaviour

variable {behaviour : PortBehaviour} {line bytes : List UInt8}

/-- The port when the request has been written. -/
def askedPort (behaviour : PortBehaviour) (line bytes : List UInt8) : Port :=
  ⟨if behaviour.clears 0 then [] else line, [bytes], 1, 0, []⟩

/-- The port when the first ten bytes have been read. -/
def headedPort (behaviour : PortBehaviour) (line bytes : List UInt8) : Port :=
  ⟨behaviour.behindTen line, [bytes], 1, 1, []⟩

@[simp] theorem respond_clear (port : Port) (buffer : ClearBuffer) :
    behaviour.respond port (.clear buffer) =
      (behaviour.clears port.clears, behaviour.afterClear port) := rfl

@[simp] theorem respond_flush (port : Port) :
    behaviour.respond port .flush = (behaviour.flushes, port) := rfl

@[simp] theorem respond_readExact (port : Port) (count : Nat) :
    behaviour.respond port (.readExact count) =
      (behaviour.readable port count, behaviour.afterRead port
        (if (behaviour.readable port count).isSome then count else behaviour.lost port.reads)) := rfl

@[simp] theorem askedPort_written : (behaviour.askedPort line bytes).written = [bytes] := rfl

@[simp] theorem askedPort_discarded : (behaviour.askedPort line bytes).discarded = [] := rfl

@[simp] theorem afterRead_written (port : Port) (taken : Nat) :
    (behaviour.afterRead port taken).written = port.written := rfl

@[simp] theorem afterRead_discarded (port : Port) (taken : Nat) :
    (behaviour.afterRead port taken).discarded = port.discarded := rfl

@[simp] theorem afterRead_reads (port : Port) (taken : Nat) :
    (behaviour.afterRead port taken).reads = port.reads + 1 := rfl

@[simp] theorem afterClear_written (port : Port) :
    (behaviour.afterClear port).written = port.written := by
  unfold afterClear
  split <;> rfl

@[simp] theorem afterClear_reads (port : Port) :
    (behaviour.afterClear port).reads = port.reads := by
  unfold afterClear
  split <;> rfl

theorem afterClear_discarded {port : Port} (elsewhere : port.reads ≠ 1) :
    (behaviour.afterClear port).discarded = port.discarded := by
  unfold afterClear
  split
  · rfl
  · rfl

theorem headedPort_afterClear_discarded :
    (behaviour.afterClear (behaviour.headedPort line bytes)).discarded =
      if behaviour.clears 1 then behaviour.behindTen line else [] := by
  dsimp only [afterClear, headedPort]
  split <;> rfl

theorem respond_asked :
    behaviour.respond (behaviour.respond (.opened line) (.clear .all)).2 (.write bytes) =
      (behaviour.writes, behaviour.askedPort line bytes) := by
  dsimp only [respond, afterClear, askedPort, Port.opened]
  split <;> rfl

theorem respond_headed {buf : BytesRead 10}
    (read : behaviour.readable (behaviour.askedPort line bytes) 10 = some buf) :
    behaviour.respond (behaviour.askedPort line bytes) (.readExact 10) =
      (some buf, behaviour.headedPort line bytes) := by
  simp only [respond, read, Option.isSome_some, if_true]
  rfl

theorem readable_eq_some {port : Port} {count : Nat} {read : BytesRead count}
    (readable : behaviour.readable port count = some read) :
    behaviour.reads port.reads = true ∧ count ≤ (behaviour.arrived port).length ∧
      read.val = (behaviour.arrived port).take count := by
  unfold PortBehaviour.readable at readable
  split at readable
  · rename_i enough
    cases readable
    exact ⟨enough.1, enough.2, rfl⟩
  · contradiction

theorem readable_asked (reads : behaviour.reads 0 = true)
    (long : 10 ≤ (behaviour.heard line).length) (bytes : List UInt8) :
    ∃ buf : BytesRead 10, behaviour.readable (behaviour.askedPort line bytes) 10 = some buf ∧
      buf.val = (behaviour.heard line).take 10 := by
  have enough : behaviour.reads (behaviour.askedPort line bytes).reads = true ∧
      10 ≤ (behaviour.arrived (behaviour.askedPort line bytes)).length := ⟨reads, long⟩
  exact ⟨_, by rw [readable, dif_pos enough], rfl⟩

/-- A clear that finds nothing is not seen by the reads that follow. -/
theorem readable_afterClear {port : Port} (nothing : behaviour.clears port.clears = true → port.queued = [])
    (count : Nat) :
    behaviour.readable (behaviour.afterClear port) count = behaviour.readable port count := by
  unfold afterClear
  split
  · rename_i cleared
    simp only [readable, arrived, nothing cleared]
    rfl
  · rfl

end PortBehaviour

namespace ModbusRtuChannel

variable {rmodbus : Rmodbus} {behaviour : PortBehaviour} {line : List UInt8} {request : ReadRequest}

theorem readTimeseries_port :
    (readTimeseries rmodbus behaviour line request).port.written = [(rmodbus.asked request).request] ∧
      (readTimeseries rmodbus behaviour line request).port.discarded = [] := by
  unfold readTimeseries readGroup timeseriesResponse
  simp only [Program.execute_call_bind, PortBehaviour.respond_asked]
  cases behaviour.writes with
  | false => simp
  | true =>
      simp only [if_true, Program.execute_call_bind, PortBehaviour.respond_flush,
        PortBehaviour.respond_readExact]
      cases behaviour.readable (behaviour.askedPort line (rmodbus.asked request).request) 10 with
      | none => simp
      | some buf =>
          dsimp only
          cases rmodbus.guessResponseFrameLen buf.val with
          | none => simp
          | some len =>
              dsimp only
              split
              · simp
              · simp

theorem readAttributes_written (ok : (rmodbus.asked request).ok = true) :
    (readAttributes rmodbus behaviour line request).port.written =
      [(rmodbus.asked request).request] := by
  unfold readAttributes readGroup attributesResponse
  simp only [ok, if_true, Program.execute_call_bind, PortBehaviour.respond_asked]
  cases behaviour.writes with
  | false => simp
  | true =>
      simp only [if_true, Program.execute_call_bind, PortBehaviour.respond_flush,
        PortBehaviour.respond_readExact]
      cases behaviour.readable (behaviour.askedPort line (rmodbus.asked request).request) 10 with
      | none => simp
      | some buf =>
          simp only [Program.execute_call_bind, PortBehaviour.respond_clear]
          cases rmodbus.guessResponseFrameLen buf.val with
          | none => simp
          | some len =>
              dsimp only
              split
              · simp
              · simp

/-- Between the two reads this copy clears once, whatever has come in. -/
theorem readAttributes_discarded (ok : (rmodbus.asked request).ok = true)
    (continues : behaviour.FrameContinues rmodbus line) :
    (readAttributes rmodbus behaviour line request).port.discarded =
      if behaviour.clears 1 then behaviour.behindTen line else [] := by
  obtain ⟨writes, reads, long, len, guessed, longer⟩ := continues
  obtain ⟨buf, read, header⟩ := PortBehaviour.readable_asked reads long (rmodbus.asked request).request
  unfold readAttributes readGroup attributesResponse
  rw [← header] at guessed
  simp only [ok, if_true, Program.execute_call_bind, PortBehaviour.respond_asked, writes,
    PortBehaviour.respond_flush, PortBehaviour.respond_headed read, guessed, if_pos longer,
    Program.execute_pure]
  dsimp only [PortBehaviour.respond]
  rw [PortBehaviour.afterClear_discarded (by
      rw [PortBehaviour.afterRead_reads, PortBehaviour.afterClear_reads]
      exact Nat.succ_ne_self 1),
    PortBehaviour.afterRead_discarded, PortBehaviour.headedPort_afterClear_discarded]

theorem readBuffers_agree (ok : (rmodbus.asked request).ok = true)
    (kept : behaviour.FrameContinues rmodbus line → behaviour.clears 1 = true →
      behaviour.behindTen line = []) :
    (readAttributes rmodbus behaviour line request).readBuffer =
      (readTimeseries rmodbus behaviour line request).readBuffer := by
  unfold readAttributes readTimeseries readGroup attributesResponse timeseriesResponse
  simp only [ok, if_true, Program.execute_call_bind, PortBehaviour.respond_asked]
  cases writes : behaviour.writes with
  | false => rfl
  | true =>
      simp only [Program.execute_call_bind, if_true, PortBehaviour.respond_flush]
      cases read : behaviour.readable (behaviour.askedPort line (rmodbus.asked request).request) 10 with
      | none =>
          simp only [PortBehaviour.respond, read]
          rfl
      | some buf =>
          obtain ⟨reads, long, header⟩ := PortBehaviour.readable_eq_some read
          simp only [Program.execute_call_bind, PortBehaviour.respond_headed read]
          cases guessed : rmodbus.guessResponseFrameLen buf.val with
          | none => rfl
          | some len =>
              dsimp only
              by_cases longer : 10 < len
              · have nothing := kept ⟨writes, reads, long, len, by rw [← guessed, header]; rfl, longer⟩
                simp only [if_pos longer, Program.execute_call_bind, Program.execute_pure]
                dsimp only [PortBehaviour.respond]
                rw [PortBehaviour.readable_afterClear nothing]
              · simp only [if_neg longer]
                rfl

end ModbusRtuChannel

theorem copies_agree_iff (rmodbus : Rmodbus) (slave : ModbusSlave) (regGroup : ModbusRegisterGroup)
    (behaviour : PortBehaviour) (line : List UInt8) :
    CopiesAgree rmodbus slave regGroup behaviour line ↔
      (rmodbus.asked (ModbusRtuChannel.groupRequest slave regGroup)).ok = true ∧
        (behaviour.FrameContinues rmodbus line → behaviour.clears 1 = true →
          behaviour.behindTen line = []) := by
  constructor
  · intro agree
    have ok : (rmodbus.asked (ModbusRtuChannel.groupRequest slave regGroup)).ok = true := by
      by_contra failed
      have unwritten := (agree.rejected (by simpa using failed) _
        (List.mem_cons_of_mem _ List.mem_cons_self)).1
      rw [ModbusRtuChannel.readTimeseries_port.1] at unwritten
      contradiction
    refine ⟨ok, ?_⟩
    intro continues cleared
    have kept := agree.kept continues _ List.mem_cons_self
    rwa [ModbusRtuChannel.readAttributes_discarded ok continues, if_pos cleared] at kept
  · rintro ⟨ok, kept⟩
    have readBuffer := ModbusRtuChannel.readBuffers_agree ok kept
    exact {
      written := by rw [ModbusRtuChannel.readAttributes_written ok, ModbusRtuChannel.readTimeseries_port.1]
      readBuffer := readBuffer
      points := fun profile => by rw [GroupRead.points, GroupRead.points, readBuffer]
      rejected := fun failed => absurd (ok.symm.trans failed) nofun
      kept := by
        intro continues read member
        rcases List.mem_pair.mp member with rfl | rfl
        · rw [ModbusRtuChannel.readAttributes_discarded ok continues]
          split
          · rename_i cleared
            exact kept continues cleared
          · rfl
        · exact ModbusRtuChannel.readTimeseries_port.2 }

/-- The slave answers at once, so that its whole answer has come in with the first ten bytes. -/
def promptAnswer (words : List UInt16) : PortBehaviour where
  clears _ := true
  writes := true
  flushes := true
  during
    | 0 => (Answer.holdings words).frame 1
    | _ => []
  behind _ := []
  reads _ := true
  lost _ := 0

/-- Of three registers the attributes copy loses the last byte of the answer. -/
theorem prompt_answer_is_discarded :
    ¬ CopiesAgree .reference ⟨"meter", none, 1, "meter.yaml"⟩ ⟨0, 3, []⟩ (promptAnswer [7, 8, 9]) [] := by
  intro agree
  have same := agree.readBuffer
  revert same
  decide +kernel

end StsGateway.Modbus
