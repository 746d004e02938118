import StsGateway.Gateway
import StsGateway.Channels.Modbus.TcpReport

namespace StsGateway

open Data

/-! What the two channel programs send are the messages of the gateway machine,
however their calls turn out.
-/

def SameDevice (action : AggregatorAction) : Prop :=
  ∃ deviceName attributes timeseries,
    action = .sendBoth (deviceName, attributes) (deviceName, timeseries)

namespace Modbus

section Calls

variable {profile : Profile} {rmodbus : Rmodbus} {slave : ModbusSlave}

def TcpCall.Builds (call : TcpCall) : Prop := ∀ action, call = .send action → SameDevice action

def SerialCall.Builds (call : SerialCall) : Prop := ∀ action, call = .send action → SameDevice action

theorem TcpCall.builds_of_quiet (call : TcpCall) (quiet : call.sent = none) : call.Builds := by
  intro action same
  rw [same] at quiet
  contradiction

theorem SerialCall.builds_of_quiet (call : SerialCall) (quiet : call.sent = none) : call.Builds := by
  intro action same
  rw [same] at quiet
  contradiction

namespace ModbusTcpChannel

theorem attributesStep_quiet (values : HashMap String String) (group : ModbusRegisterGroup) :
    (attributesStep profile values group).Calls fun call => call.sent = none := by
  apply Program.Calls.call_bind (by rfl)
  intro flushed
  apply Program.Calls.call_bind (by rfl)
  intro result
  exact Program.Calls.ofExcept

theorem timeseriesStep_quiet (telemetries : List OneTelemetry) (group : ModbusRegisterGroup) :
    (timeseriesStep profile telemetries group).Calls fun call => call.sent = none := by
  apply Program.Calls.call_bind (by rfl)
  intro result
  cases result with
  | none => trivial
  | some words =>
      apply Program.Calls.call_bind (by rfl)
      intro flushed
      apply Program.Calls.bind Program.Calls.ofExcept
      intro points
      exact Program.Calls.call_bind (by rfl) fun _ => trivial

theorem slaveStep_builds (entry : ModbusSlave × ModbusRegisterMap) :
    (slaveStep profile entry).Calls TcpCall.Builds := by
  apply Program.Calls.call_bind nofun
  intro selected
  apply Program.Calls.bind
    ((Program.Calls.foldlM attributesStep_quiet ∅).mono TcpCall.builds_of_quiet)
  intro attributes
  apply Program.Calls.bind
    ((Program.Calls.foldlM timeseriesStep_quiet []).mono TcpCall.builds_of_quiet)
  intro timeseries
  apply Program.Calls.call_bind nofun
  intro closed
  refine Program.Calls.call_bind ?_ fun _ => trivial
  intro action sent
  cases sent
  exact ⟨_, _, _, rfl⟩

theorem cycle_builds (profile : Profile) (registerMaps : List (ModbusSlave × ModbusRegisterMap)) :
    (cycle profile registerMaps).Calls TcpCall.Builds :=
  Program.Calls.foldlM (fun _ => slaveStep_builds) ()

end ModbusTcpChannel

namespace ModbusRtuChannel

theorem quiet_of_onPort (call : SerialCall) (port : call.onPort = true) : call.sent = none := by
  cases call with
  | send action => contradiction
  | _ => rfl

theorem attributesStep_quiet (values : HashMap String String) (regGroup : ModbusRegisterGroup) :
    (attributesStep rmodbus profile slave values regGroup).Calls fun call => call.sent = none := by
  apply Program.Calls.bind ((attributesResponse_completes rmodbus _).calls.mono quiet_of_onPort)
  intro response
  split
  · trivial
  · exact Program.Calls.bind Program.Calls.ofExcept fun _ => trivial

theorem timeseriesStep_quiet (telemetries : List OneTelemetry) (regGroup : ModbusRegisterGroup) :
    (timeseriesStep rmodbus profile slave telemetries regGroup).Calls fun call => call.sent = none := by
  apply Program.Calls.bind ((timeseriesResponse_completes rmodbus _).calls.mono quiet_of_onPort)
  intro response
  split
  · trivial
  · apply Program.Calls.bind Program.Calls.ofExcept
    intro points
    exact Program.Calls.call_bind (by rfl) fun _ => trivial

theorem slaveStep_builds (entry : ModbusSlave × ModbusRegisterMap) :
    (slaveStep rmodbus profile entry).Calls SerialCall.Builds := by
  apply Program.Calls.bind
    ((Program.Calls.foldlM attributesStep_quiet ∅).mono SerialCall.builds_of_quiet)
  intro attributes
  apply Program.Calls.bind
    ((Program.Calls.foldlM timeseriesStep_quiet []).mono SerialCall.builds_of_quiet)
  intro timeseries
  refine Program.Calls.call_bind ?_ fun _ => trivial
  intro action sent
  cases sent
  exact ⟨_, _, _, rfl⟩

theorem cycle_builds (rmodbus : Rmodbus) (profile : Profile)
    (registerMaps : List (ModbusSlave × ModbusRegisterMap)) :
    (cycle rmodbus profile registerMaps).Calls SerialCall.Builds :=
  Program.Calls.foldlM (fun _ => slaveStep_builds) ()

end ModbusRtuChannel

end Calls

/-- Whatever happens on the bus, the aggregator is sent channel messages only. -/
theorem tcp_sends_channelMessages (profile : Profile)
    (registerMaps : List (ModbusSlave × ModbusRegisterMap)) (cycles : Nat) (selected : UInt8)
    (choices : List TcpChoice) :
    ∀ sent ∈ (((ModbusTcpChannel.cycle profile registerMaps).iterate cycles).run tcpWorld
      ⟨selected, selected, [], []⟩ choices).2.sent,
      ∃ message : ChannelMessage, message.action = sent.action := by
  have calls := (ModbusTcpChannel.cycle_builds profile registerMaps).iterate cycles
  apply calls.preserves (fun state : TcpState => ∀ sent ∈ state.sent,
    ∃ message : ChannelMessage, message.action = sent.action) _
    (fun sent member => absurd member List.not_mem_nil)
  intro before choice call builds holds sent member
  cases call with
  | send action =>
      rcases List.mem_append.mp member with member | member
      · exact holds sent member
      · rw [List.mem_singleton.mp member]
        exact ⟨⟨action, builds action rfl⟩, rfl⟩
  | setSlave id => exact holds sent member
  | flush => exact holds sent member
  | readRegisters half group => exact holds sent member
  | timestamp => exact holds sent member
  | close => exact holds sent member

theorem rtu_sends_channelMessages (rmodbus : Rmodbus) (profile : Profile)
    (registerMaps : List (ModbusSlave × ModbusRegisterMap)) (cycles : Nat)
    (choices : List SerialChoice) :
    ∀ sent ∈ (((ModbusRtuChannel.cycle rmodbus profile registerMaps).iterate cycles).run serialWorld
      ⟨[], [], [], []⟩ choices).2.sent,
      ∃ message : ChannelMessage, message.action = sent.action := by
  have calls := (ModbusRtuChannel.cycle_builds rmodbus profile registerMaps).iterate cycles
  apply calls.preserves (fun line : SerialLine => ∀ sent ∈ line.sent,
    ∃ message : ChannelMessage, message.action = sent.action) _
    (fun sent member => absurd member List.not_mem_nil)
  intro before choice call builds holds sent member
  by_cases silent : ∀ action, call ≠ .send action
  · rw [respond_sent silent] at member
    exact holds sent member
  · simp only [not_forall, ne_eq, not_not] at silent
    obtain ⟨action, rfl⟩ := silent
    rcases List.mem_append.mp member with member | member
    · rw [(before.arrive_frame choice.arrivals).2.1] at member
      exact holds sent member
    · rw [List.mem_singleton.mp member]
      exact ⟨⟨action, builds action rfl⟩, rfl⟩

end Modbus

end StsGateway
