import StsGateway.Data.Interaction
import StsGateway.Channels.Modbus.Agreement

namespace StsGateway.Modbus

open Data

/-! `channels/modbus/tcp.rs`: the polling loop of the TCP channel against libmodbus.

The loop is a program over the calls it makes. The slave id libmodbus has
selected is state of the world the calls run in: `set_slave` changes it only
when it succeeds, and reads are answered by whatever id is selected.
-/

inductive Half where
  | attributes
  | timeseries
deriving DecidableEq

/-- `readRegisters` asks for the group's address and count. -/
inductive TcpCall where
  | setSlave (id : UInt8)
  | flush
  | readRegisters (half : Half) (group : ModbusRegisterGroup)
  | timestamp
  | close
  | send (action : AggregatorAction)

/-- A successful read returns as many registers as were asked for, at most 125. -/
abbrev RegistersRead (group : ModbusRegisterGroup) :=
  { words : List UInt16 //
    words.length = group.elementsCount.toNat ∧ group.elementsCount.toNat ≤ 125 }

abbrev TcpCall.Reply : TcpCall → Type
  | .setSlave _ | .flush | .send _ => Bool
  | .readRegisters _ group => Option (RegistersRead group)
  | .timestamp => Int
  | .close => Unit

abbrev TcpProgram := Program TcpCall TcpCall.Reply Panic

def PolledGroup.ofRead (group : ModbusRegisterGroup) (result : Option (RegistersRead group)) :
    PolledGroup where
  group := group
  words := result.map Subtype.val
  complete := by
    intro registers read
    obtain ⟨words, _, rfl⟩ := Option.map_eq_some_iff.mp read
    exact words.property

namespace ModbusTcpChannel

def attributesStep (profile : Profile) (values : HashMap String String)
    (group : ModbusRegisterGroup) : TcpProgram (HashMap String String) := do
  let _ ← Program.call .flush
  let result : Option (RegistersRead group) ←
    Program.call (TcpCall.readRegisters .attributes group)
  Program.ofExcept (attributesGroup (parseAttribute profile) values (.ofRead group result))

/-- Here the flush comes after the read, and only after one that succeeded. -/
def timeseriesStep (profile : Profile) (telemetries : List OneTelemetry)
    (group : ModbusRegisterGroup) : TcpProgram (List OneTelemetry) := do
  let result : Option (RegistersRead group) ←
    Program.call (TcpCall.readRegisters .timeseries group)
  match result with
  | none => return telemetries
  | some words =>
      let _ ← Program.call .flush
      let points ← Program.ofExcept (collectPoints (parseTimeseries profile words.val) group.dataPoints)
      let now ← Program.call .timestamp
      return telemetries ++ [OneTelemetry.fromDataPoints points now]

/-- A failed `set_slave` is only logged. -/
def slaveStep (profile : Profile) (entry : ModbusSlave × ModbusRegisterMap) : TcpProgram Unit := do
  let _ ← Program.call (.setSlave entry.1.modbusId)
  let attributes ← entry.2.attributes.foldlM (attributesStep profile) ∅
  let timeseries ← entry.2.timeseries.foldlM (timeseriesStep profile) []
  let _ ← Program.call .close
  let _ ← Program.call (.send (.sendBoth (entry.1.deviceName, attributes)
    (entry.1.deviceName, timeseries)))
  return ()

def cycle (profile : Profile) (registerMaps : List (ModbusSlave × ModbusRegisterMap)) :
    TcpProgram Unit :=
  registerMaps.foldlM (fun _ entry => slaveStep profile entry) ()

end ModbusTcpChannel

/-! ### The world the calls run in -/

structure TcpRead where
  slaveId : UInt8
  group : ModbusRegisterGroup
  words : List UInt16
deriving DecidableEq

structure TcpSent where
  action : AggregatorAction
  requested : UInt8
  reads : List TcpRead
deriving DecidableEq

structure TcpState where
  selected : UInt8
  requested : UInt8
  reads : List TcpRead
  sent : List TcpSent

/-- How one call turns out: the registers of every slave at that moment, and the clock. -/
structure TcpChoice where
  succeeds : Bool
  registers : UInt8 → UInt16 → UInt16
  now : Int

def holdingRegisters (registers : UInt16 → UInt16) (group : ModbusRegisterGroup) : List UInt16 :=
  (List.range group.elementsCount.toNat).map fun index =>
    registers (group.startingAddress + UInt16.ofNat index)

theorem length_holdingRegisters (registers : UInt16 → UInt16) (group : ModbusRegisterGroup) :
    (holdingRegisters registers group).length = group.elementsCount.toNat := by
  rw [holdingRegisters, List.length_map, List.length_range]

def TcpState.read (state : TcpState) (choice : TcpChoice) (group : ModbusRegisterGroup) :
    Option (RegistersRead group) :=
  if bound : choice.succeeds = true ∧ group.elementsCount.toNat ≤ 125 then
    some ⟨holdingRegisters (choice.registers state.selected) group,
      length_holdingRegisters _ _, bound.2⟩
  else none

def tcpWorld : World TcpCall TcpCall.Reply TcpState TcpChoice where
  respond state choice
    | .setSlave id =>
        (choice.succeeds, { state with
          selected := if choice.succeeds then id else state.selected
          requested := id
          reads := [] })
    | .flush => (choice.succeeds, state)
    | .readRegisters _ group =>
        (state.read choice group, { state with
          reads := state.reads ++ (state.read choice group).toList.map fun words =>
            ⟨state.selected, group, words.val⟩ })
    | .timestamp => (choice.now, state)
    | .close => ((), state)
    | .send action =>
        (choice.succeeds, { state with
          sent := state.sent ++ [⟨action, state.requested, state.reads⟩] })

/-- No point of the group reaches past its registers into the rest of the buffer. -/
def NoFiller (half : Half) (group : ModbusRegisterGroup) : Prop :=
  ∀ reader ∈ group.dataPoints, ¬((half = .attributes → reader.PassesGuard) ∧ reader.ReachesFiller group)

/-- A read that succeeds is made with the requested slave selected, on a group
whose points stay inside the registers read. -/
def OwnRegisters (state : TcpState) (choice : TcpChoice) : TcpCall → Prop
  | .readRegisters half group => (state.read choice group).isSome = true →
      state.selected = state.requested ∧ NoFiller half group
  | _ => True

instance (self : ModbusDataPointReader) (group : ModbusRegisterGroup) :
    Decidable (self.ReachesFiller group) :=
  inferInstanceAs (Decidable (_ ∧ _))

instance (half : Half) (group : ModbusRegisterGroup) : Decidable (NoFiller half group) :=
  inferInstanceAs (Decidable (∀ reader ∈ group.dataPoints,
    ¬((half = .attributes → reader.PassesGuard) ∧ reader.ReachesFiller group)))

instance (state : TcpState) (choice : TcpChoice) : ∀ call, Decidable (OwnRegisters state choice call)
  | .readRegisters _ _ => inferInstanceAs (Decidable (_ → _ ∧ _))
  | .setSlave _ | .flush | .timestamp | .close | .send _ => isTrue trivial

/-- The value was decoded from bytes inside registers read from the slave. -/
def ReadFrom (reads : List TcpRead) (id : UInt8) (key value : String) : Prop :=
  ∃ read ∈ reads, read.slaveId = id ∧ ∃ point ∈ read.group.dataPoints, point.keyName = key ∧
    point.stop ≤ 2 * read.words.length ∧ (point.decoded read.words).value = value

def FiledRight (registerMaps : List (ModbusSlave × ModbusRegisterMap)) (sent : TcpSent) : Prop :=
  match sent.action with
  | .sendBoth attributes timeseries => ∃ entry ∈ registerMaps,
      attributes.1 = entry.1.deviceName ∧ timeseries.1 = entry.1.deviceName ∧
      AllFrom (ReadFrom sent.reads entry.1.modbusId) attributes.2 ∧
      ∀ telemetry ∈ timeseries.2, AllFrom (ReadFrom sent.reads entry.1.modbusId) telemetry.values

/-! ### One slave, one cycle, any number of cycles -/

section Polling

variable {profile : Profile} {registerMaps : List (ModbusSlave × ModbusRegisterMap)}
  {entry : ModbusSlave × ModbusRegisterMap} {state : TcpState}

def Filed (registerMaps : List (ModbusSlave × ModbusRegisterMap)) (state : TcpState) : Prop :=
  ∀ sent ∈ state.sent, FiledRight registerMaps sent

/-- Between `set_slave` and `send`: the reads so far were asked of this slave. -/
structure Polling (registerMaps : List (ModbusSlave × ModbusRegisterMap)) (slave : ModbusSlave)
    (state : TcpState) : Prop where
  filed : Filed registerMaps state
  requested : state.requested = slave.modbusId

theorem ReadFrom.mono {reads later : List TcpRead} (grown : reads <+: later) {id : UInt8}
    (key value : String) (found : ReadFrom reads id key value) : ReadFrom later id key value := by
  obtain ⟨read, member, rest⟩ := found
  exact ⟨read, grown.subset member, rest⟩

theorem parseTimeseries_inside {registers : List UInt16} {reader : ModbusDataPointReader}
    {group : ModbusRegisterGroup} {point : DataPoint} (short : registers.length ≤ 125)
    (count : registers.length = group.elementsCount.toNat) (clean : ¬reader.ReachesFiller group)
    (parsed : ModbusTcpChannel.parseTimeseries profile registers reader = .ok (some point)) :
    reader.stop ≤ 2 * registers.length ∧ point = reader.decoded registers := by
  by_cases panics : reader.ParsePanics profile 200
  · obtain ⟨panic, failed⟩ := parseTimeseries_panics short panics
    rw [failed] at parsed
    contradiction
  · rw [parseTimeseries_returns short panics] at parsed
    split at parsed
    · rename_i buffered
      have inside : reader.stop ≤ 2 * registers.length := by
        by_contra outside
        exact clean ⟨by omega, buffered⟩
      rw [decoded_readBuffer inside] at parsed
      cases parsed
      exact ⟨inside, rfl⟩
    · cases parsed

theorem parseAttribute_inside {registers : List UInt16} {reader : ModbusDataPointReader}
    {group : ModbusRegisterGroup} {point : DataPoint} (short : registers.length ≤ 125)
    (count : registers.length = group.elementsCount.toNat)
    (clean : ¬(reader.PassesGuard ∧ reader.ReachesFiller group))
    (parsed : ModbusTcpChannel.parseAttribute profile registers reader = .ok (some point)) :
    reader.stop ≤ 2 * registers.length ∧ point = reader.decoded registers := by
  by_cases panics : reader.TcpAttributePanics profile
  · obtain ⟨panic, failed⟩ := parseAttribute_panics short panics
    rw [failed] at parsed
    contradiction
  · rw [parseAttribute_returns short panics] at parsed
    split at parsed
    · rename_i taken
      have inside : reader.stop ≤ 2 * registers.length := by
        by_contra outside
        exact clean ⟨taken.1, by omega, taken.2⟩
      rw [decoded_readBuffer inside] at parsed
      cases parsed
      exact ⟨inside, rfl⟩
    · cases parsed

theorem readFrom_last {reads : List TcpRead} {id : UInt8} {group : ModbusRegisterGroup}
    {words : List UInt16} {reader : ModbusDataPointReader} {point : DataPoint}
    (listed : reader ∈ group.dataPoints)
    (inside : reader.stop ≤ 2 * words.length ∧ point = reader.decoded words) :
    ReadFrom (reads ++ [⟨id, group, words⟩]) id point.key point.value := by
  obtain ⟨inside, rfl⟩ := inside
  exact ⟨_, List.mem_append_right _ List.mem_cons_self, rfl, reader, listed, rfl, inside, rfl⟩

namespace ModbusTcpChannel

theorem attributesStep_ensures {values : HashMap String String} (group : ModbusRegisterGroup)
    (polling : Polling registerMaps entry.1 state)
    (known : AllFrom (ReadFrom state.reads entry.1.modbusId) values) :
    (attributesStep profile values group).Ensures tcpWorld OwnRegisters (Filed registerMaps)
      (fun after next => Polling registerMaps entry.1 next ∧
        AllFrom (ReadFrom next.reads entry.1.modbusId) after) state := by
  apply Program.Ensures.call_bind
  intro flushed _
  apply And.intro polling.filed
  apply Program.Ensures.call_bind
  intro choice admitted
  apply And.intro polling.filed
  apply Program.Ensures.ofExcept
  intro after grouped
  refine ⟨⟨polling.filed, polling.requested⟩, ?_⟩
  change attributesGroup _ _ (.ofRead group (state.read choice group)) = _ at grouped
  change AllFrom (ReadFrom (state.reads ++ (state.read choice group).toList.map fun words =>
    ⟨state.selected, group, words.val⟩) _) _
  have admitted : (state.read choice group).isSome = true →
      state.selected = state.requested ∧ NoFiller .attributes group := admitted
  cases read : state.read choice group with
  | none =>
      rw [read] at grouped
      cases grouped
      simpa using known
  | some words =>
      obtain ⟨own, clean⟩ := admitted (by rw [read]; rfl)
      rw [read] at grouped
      obtain ⟨points, collected, built⟩ := bind_eq_ok.mp grouped
      cases built
      refine allFrom_insertPoints (known.mono (ReadFrom.mono (List.prefix_append _ _))) ?_
      intro point member
      obtain ⟨reader, listed, parsed⟩ := collectPoints_origin collected member
      have inside := parseAttribute_inside (by omega) words.property.1
        (fun reaches => clean reader listed ⟨fun _ => reaches.1, reaches.2⟩) parsed
      rw [own, polling.requested]
      exact readFrom_last listed inside

theorem timeseriesStep_ensures {telemetries : List OneTelemetry} (group : ModbusRegisterGroup)
    (polling : Polling registerMaps entry.1 state)
    (known : ∀ telemetry ∈ telemetries,
      AllFrom (ReadFrom state.reads entry.1.modbusId) telemetry.values) :
    (timeseriesStep profile telemetries group).Ensures tcpWorld OwnRegisters (Filed registerMaps)
      (fun after next => Polling registerMaps entry.1 next ∧ state.reads <+: next.reads ∧
        ∀ telemetry ∈ after, AllFrom (ReadFrom next.reads entry.1.modbusId) telemetry.values)
      state := by
  apply Program.Ensures.call_bind
  intro choice admitted
  apply And.intro polling.filed
  have admitted : (state.read choice group).isSome = true →
      state.selected = state.requested ∧ NoFiller .timeseries group := admitted
  dsimp only [tcpWorld]
  cases read : state.read choice group with
  | none =>
      refine ⟨⟨polling.filed, polling.requested⟩, List.prefix_append _ _, ?_⟩
      simpa [read] using known
  | some words =>
      obtain ⟨own, clean⟩ := admitted (by rw [read]; rfl)
      apply Program.Ensures.call_bind
      intro flushed _
      apply And.intro polling.filed
      apply Program.Ensures.ofExcept_bind
      intro points collected
      apply Program.Ensures.call_bind
      intro clock _
      apply And.intro polling.filed
      refine ⟨⟨polling.filed, polling.requested⟩, List.prefix_append _ _, ?_⟩
      intro telemetry member
      change AllFrom (ReadFrom (state.reads ++ [⟨state.selected, group, words.val⟩]) _) _
      rcases List.mem_append.mp member with member | member
      · exact (known telemetry member).mono (ReadFrom.mono (List.prefix_append _ _))
      · rw [List.mem_singleton.mp member]
        refine allFrom_insertPoints (allFrom_empty _) ?_
        intro point member
        obtain ⟨reader, listed, parsed⟩ := collectPoints_origin collected member
        have inside := parseTimeseries_inside (by omega) words.property.1
          (fun reaches => clean reader listed ⟨nofun, reaches⟩) parsed
        rw [own, polling.requested]
        exact readFrom_last listed inside

theorem slaveStep_ensures (member : entry ∈ registerMaps) (filed : Filed registerMaps state) :
    (slaveStep profile entry).Ensures tcpWorld OwnRegisters (Filed registerMaps)
      (fun _ => Filed registerMaps) state := by
  apply Program.Ensures.call_bind
  intro selected _
  apply And.intro filed
  have polling : Polling registerMaps entry.1
      (tcpWorld.respond state selected (.setSlave entry.1.modbusId)).2 := ⟨filed, rfl⟩
  -- the loop invariants: all values so far come from reads asked of this slave
  refine Program.Ensures.bind (Program.Ensures.foldlM
    (fun _ values next => Polling registerMaps entry.1 next ∧
      AllFrom (ReadFrom next.reads entry.1.modbusId) values)
    ⟨polling, allFrom_empty _⟩
    fun _ group _ _ _ _ holds => attributesStep_ensures group holds.1 holds.2) ?_
  intro attributes between holds
  obtain ⟨polling, attributesRead⟩ := holds
  refine Program.Ensures.bind (Program.Ensures.foldlM
    (fun _ telemetries next => Polling registerMaps entry.1 next ∧ between.reads <+: next.reads ∧
      ∀ telemetry ∈ telemetries, AllFrom (ReadFrom next.reads entry.1.modbusId) telemetry.values)
    ⟨polling, List.prefix_rfl, by simp⟩ ?_) ?_
  · intro _ group _ _ telemetries before holds
    obtain ⟨polling, grown, read⟩ := holds
    apply (timeseriesStep_ensures group polling read).mono
    intro after next holds
    exact ⟨holds.1, grown.trans holds.2.1, holds.2.2⟩
  · intro timeseries last holds
    obtain ⟨polling, grown, timeseriesRead⟩ := holds
    apply Program.Ensures.call_bind
    intro closed _
    apply And.intro polling.filed
    have delivered : Filed registerMaps { last with
        sent := last.sent ++ [⟨.sendBoth (entry.1.deviceName, attributes)
          (entry.1.deviceName, timeseries), last.requested, last.reads⟩] } := by
      intro sent present
      rcases List.mem_append.mp present with present | present
      · exact polling.filed sent present
      · rw [List.mem_singleton.mp present]
        exact ⟨entry, member, rfl, rfl, attributesRead.mono (ReadFrom.mono grown), timeseriesRead⟩
    exact Program.Ensures.call_bind fun sent _ => ⟨delivered, delivered⟩

theorem cycle_ensures (profile : Profile) (filed : Filed registerMaps state) :
    (cycle profile registerMaps).Ensures tcpWorld OwnRegisters (Filed registerMaps)
      (fun _ => Filed registerMaps) state := by
  apply Program.Ensures.foldlM (fun _ _ => Filed registerMaps) filed
  intro earlier entry later split _ before filed
  exact slaveStep_ensures (by simp [split]) filed

end ModbusTcpChannel

/-- Over any number of cycles, also when the last one is cut short: a value sent
under a slave's device name was read from that slave's registers. -/
theorem tcp_values_filed_right (profile : Profile)
    (registerMaps : List (ModbusSlave × ModbusRegisterMap)) (cycles : Nat) (selected : UInt8)
    (choices : List TcpChoice)
    (own : ((ModbusTcpChannel.cycle profile registerMaps).iterate cycles).StepsMeet tcpWorld
      OwnRegisters ⟨selected, selected, [], []⟩ choices) :
    ∀ sent ∈ (((ModbusTcpChannel.cycle profile registerMaps).iterate cycles).run tcpWorld
      ⟨selected, selected, [], []⟩ choices).2.sent, FiledRight registerMaps sent := by
  have start : Filed registerMaps ⟨selected, selected, [], []⟩ := by
    intro sent member
    contradiction
  have ensures := Program.Ensures.iterate (Filed registerMaps)
    (fun before filed => ModbusTcpChannel.cycle_ensures profile filed) start cycles
  exact (ensures.sound start own).1

end Polling

namespace Sample

def meter (deviceName : String) (modbusId : UInt8) : ModbusSlave × ModbusRegisterMap :=
  (⟨deviceName, none, modbusId, "meter.yml"⟩, ⟨[], [⟨0, 1, [⟨0, 1, .uint16, "power"⟩]⟩]⟩)

def outcome (succeeds : Bool) : TcpChoice := ⟨succeeds, fun id _ => id.toUInt16, 0⟩

/-- The calls of one meter's poll: `set_slave`, then read, flush, clock, close and send. -/
def poll (selects : Bool) : List TcpChoice := outcome selects :: List.replicate 5 (outcome true)

end Sample

theorem tcp_values_filed_right_one_meter :
    let run := ((ModbusTcpChannel.cycle .release [Sample.meter "a" 1]).iterate 1).run tcpWorld
      ⟨255, 255, [], []⟩ (Sample.poll true)
    run.2.sent.length = 1 ∧ ∀ sent ∈ run.2.sent, FiledRight [Sample.meter "a" 1] sent := by
  exact ⟨by decide +kernel, tcp_values_filed_right .release [Sample.meter "a" 1] 1 255
    (Sample.poll true) (by decide +kernel)⟩

/-- Selecting slave 250 fails, and what slave 1 holds is sent as meter b's. -/
theorem tcp_value_misfiled :
    ¬∀ sent ∈ (((ModbusTcpChannel.cycle .release [Sample.meter "a" 1, Sample.meter "b" 250]).iterate
        1).run tcpWorld ⟨255, 255, [], []⟩ (Sample.poll true ++ Sample.poll false)).2.sent,
      FiledRight [Sample.meter "a" 1, Sample.meter "b" 250] sent := by
  intro filed
  have sent := filed ⟨.sendBoth ("b", ∅) ("b", [⟨0, insertPoints ∅ [⟨"power", "1", none⟩]⟩]), 250,
    [⟨1, ⟨0, 1, [⟨0, 1, .uint16, "power"⟩]⟩, [1]⟩]⟩ (by decide +kernel)
  obtain ⟨entry, listed, name, _, _, telemetry⟩ := sent
  obtain ⟨read, member, own, _⟩ := telemetry _ List.mem_cons_self "power" "1" (by decide +kernel)
  rw [List.mem_singleton.mp member] at own
  rcases List.mem_cons.mp listed with rfl | listed
  · exact absurd name (by decide)
  · rw [List.mem_singleton.mp listed] at own
    cases own

end StsGateway.Modbus
