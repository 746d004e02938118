import StsGateway.Channels.Modbus.Report
import StsGateway.Channels.Modbus.Tcp

namespace StsGateway.Modbus

open Data

/-! What one polling cycle of the TCP channel reports, whatever libmodbus does.

The points of a group are taken from the 200-word buffer that the registers were
read into. Where no point of the register map reaches past its registers, the report
is that of the registers alone.
-/

/-- One message, made of what the given functions take out of the outcomes. -/
def ReportOf (attributePoints timeseriesPoints : GroupOutcome → List DataPoint) (slave : ModbusSlave)
    (attributes timeseries : List GroupOutcome) (action : AggregatorAction) : Prop :=
  ∃ values telemetries,
    action = .sendBoth (slave.deviceName, values) (slave.deviceName, telemetries) ∧
    LastWins (attributes.flatMap attributePoints) values ∧
    List.Forall₂ (fun telemetry outcome => LastWins (timeseriesPoints outcome) telemetry.values)
      telemetries (timeseries.filter fun outcome => outcome.words.isSome)

/-- The points of a group as the words of a buffer give them; `takes` are the points
looked at. -/
def pointsIn (buffer : List UInt16 → List UInt16) (takes : ModbusDataPointReader → Prop)
    [DecidablePred takes] (outcome : GroupOutcome) : List DataPoint :=
  match outcome.words with
  | none => []
  | some words => outcome.group.dataPoints.filterMap fun reader =>
      if takes reader ∧ reader.stop ≤ 2 * (buffer words).length then
        some (reader.decoded (buffer words))
      else none

/-- The guard on attributes asks for four bytes, whatever the type. -/
def tcpAttributePoints : GroupOutcome → List DataPoint :=
  pointsIn ModbusTcpChannel.readBuffer ModbusDataPointReader.PassesGuard

def tcpTimeseriesPoints : GroupOutcome → List DataPoint :=
  pointsIn ModbusTcpChannel.readBuffer fun _ => True

/-- The points that end inside the registers that were read. -/
def registerPoints : GroupOutcome → List DataPoint := pointsIn id fun _ => True

abbrev TcpTrace := List ((call : TcpCall) × call.Reply)

namespace TcpCall

def sent : TcpCall → Option AggregatorAction
  | .send action => some action
  | _ => none

def onBus : TcpCall → Bool
  | .timestamp | .send _ => false
  | .setSlave _ | .flush | .readRegisters _ _ | .close => true

end TcpCall

/-- One group's read, with the calls it took. -/
structure TcpGroupPoll (half : Half) where
  group : ModbusRegisterGroup
  result : Option (RegistersRead group)
  flushed : Bool

namespace TcpGroupPoll

variable {half : Half} (poll : TcpGroupPoll half)

def calls : TcpTrace :=
  match half with
  | .attributes => [⟨.flush, poll.flushed⟩, ⟨.readRegisters .attributes poll.group, poll.result⟩]
  | .timeseries =>
      ⟨.readRegisters .timeseries poll.group, poll.result⟩ ::
        if poll.result.isSome then [⟨.flush, poll.flushed⟩] else []

def outcome : GroupOutcome where
  group := poll.group
  words := poll.result.map Subtype.val

end TcpGroupPoll

structure TcpSlavePoll where
  entry : ModbusSlave × ModbusRegisterMap
  selected : Bool
  attributes : List (TcpGroupPoll .attributes)
  timeseries : List (TcpGroupPoll .timeseries)
  action : AggregatorAction

namespace TcpSlavePoll

variable (poll : TcpSlavePoll)

def calls : TcpTrace :=
  ⟨.setSlave poll.entry.1.modbusId, poll.selected⟩ ::
    (poll.attributes.flatMap TcpGroupPoll.calls ++ poll.timeseries.flatMap TcpGroupPoll.calls ++
      [⟨.close, ()⟩])

def attributeOutcomes : List GroupOutcome := poll.attributes.map TcpGroupPoll.outcome

def timeseriesOutcomes : List GroupOutcome := poll.timeseries.map TcpGroupPoll.outcome

/-- Every group of the slave was read once, in order, and the message is the report of
what the reads returned. -/
structure Exact : Prop where
  attributes : poll.attributes.map TcpGroupPoll.group = poll.entry.2.attributes
  timeseries : poll.timeseries.map TcpGroupPoll.group = poll.entry.2.timeseries
  reports : ReportOf tcpAttributePoints tcpTimeseriesPoints poll.entry.1 poll.attributeOutcomes
    poll.timeseriesOutcomes poll.action
  registers : (∀ group ∈ poll.entry.2.attributes, NoFiller .attributes group) →
    (∀ group ∈ poll.entry.2.timeseries, NoFiller .timeseries group) →
    ReportOf registerPoints registerPoints poll.entry.1 poll.attributeOutcomes
      poll.timeseriesOutcomes poll.action

end TcpSlavePoll

/-- One message for each slave, in order; the calls to the bus are those of the polls. -/
structure TcpCycleReports (registerMaps : List (ModbusSlave × ModbusRegisterMap)) (trace : TcpTrace)
    (polls : List TcpSlavePoll) : Prop where
  slaves : polls.map TcpSlavePoll.entry = registerMaps
  sent : trace.filterMap (fun call => call.1.sent) = polls.map TcpSlavePoll.action
  bus : trace.filter (fun call => call.1.onBus) = polls.flatMap TcpSlavePoll.calls
  exact : ∀ poll ∈ polls, poll.Exact

/-! ### What the buffer adds to the registers -/

section Points

variable {profile : Profile} {words : List UInt16} {reader : ModbusDataPointReader}
  {half : Half}

theorem passesGuard_of_inside (short : words.length ≤ 125) (inside : reader.stop ≤ 2 * words.length) :
    reader.PassesGuard := by
  have widths := width_bounds reader
  have ends : reader.stop = reader.dataOffset.toNat + reader.dataType.width := rfl
  unfold ModbusDataPointReader.PassesGuard
  omega

theorem pointsIn_readBuffer {takes : ModbusDataPointReader → Prop} [DecidablePred takes]
    {poll : GroupOutcome}
    (complete : ∀ words, poll.words = some words →
      words.length = poll.group.elementsCount.toNat ∧ words.length ≤ 125)
    (taken : ∀ (reader : ModbusDataPointReader) (words : List UInt16), words.length ≤ 125 →
      reader.stop ≤ 2 * words.length → takes reader)
    (clean : ∀ reader ∈ poll.group.dataPoints, ¬(takes reader ∧ reader.ReachesFiller poll.group)) :
    pointsIn ModbusTcpChannel.readBuffer takes poll = registerPoints poll := by
  unfold registerPoints pointsIn
  cases read : poll.words with
  | none => rfl
  | some words =>
      obtain ⟨length, short⟩ := complete words read
      apply List.filterMap_congr
      intro reader listed
      by_cases inside : reader.stop ≤ 2 * words.length
      · have buffered : reader.stop ≤ 2 * (ModbusTcpChannel.readBuffer words).length := by
          rw [length_readBuffer short]
          omega
        rw [if_pos ⟨taken reader words short inside, buffered⟩, if_pos ⟨trivial, inside⟩,
          decoded_readBuffer inside]
        rfl
      · have outside : ¬(takes reader ∧
            reader.stop ≤ 2 * (ModbusTcpChannel.readBuffer words).length) := by
          intro both
          have reaches : reader.ReachesFiller poll.group := by
            rw [length_readBuffer short] at both
            exact ⟨by omega, both.2⟩
          exact clean reader listed ⟨both.1, reaches⟩
        rw [if_neg outside, if_neg fun both => inside both.2]

theorem TcpGroupPoll.complete (poll : TcpGroupPoll half) (words : List UInt16)
    (read : poll.outcome.words = some words) :
    words.length = poll.group.elementsCount.toNat ∧ words.length ≤ 125 := by
  obtain ⟨registers, _, rfl⟩ := Option.map_eq_some_iff.mp read
  obtain ⟨length, bound⟩ := registers.property
  exact ⟨length, by omega⟩

theorem tcpAttributePoints_registers (poll : TcpGroupPoll .attributes)
    (clean : NoFiller .attributes poll.group) :
    tcpAttributePoints poll.outcome = registerPoints poll.outcome :=
  pointsIn_readBuffer poll.complete (fun _ _ => passesGuard_of_inside)
    fun reader listed reaches => clean reader listed ⟨fun _ => reaches.1, reaches.2⟩

theorem tcpTimeseriesPoints_registers (poll : TcpGroupPoll .timeseries)
    (clean : NoFiller .timeseries poll.group) :
    tcpTimeseriesPoints poll.outcome = registerPoints poll.outcome :=
  pointsIn_readBuffer poll.complete (fun _ _ _ _ => trivial)
    fun reader listed reaches => clean reader listed ⟨nofun, reaches.2⟩

theorem parseAttribute_ok {point : Option DataPoint} (short : words.length ≤ 125)
    (parsed : ModbusTcpChannel.parseAttribute profile words reader = .ok point) :
    point = if reader.PassesGuard ∧ reader.stop ≤ 2 * (ModbusTcpChannel.readBuffer words).length then
      some (reader.decoded (ModbusTcpChannel.readBuffer words)) else none := by
  by_cases panics : reader.TcpAttributePanics profile
  · obtain ⟨panic, failed⟩ := parseAttribute_panics short panics
    rw [failed] at parsed
    contradiction
  · rw [parseAttribute_returns short panics] at parsed
    rw [length_readBuffer short]
    exact (Except.ok.inj parsed).symm

theorem parseTimeseries_ok {point : Option DataPoint} (short : words.length ≤ 125)
    (parsed : ModbusTcpChannel.parseTimeseries profile words reader = .ok point) :
    point = if True ∧ reader.stop ≤ 2 * (ModbusTcpChannel.readBuffer words).length then
      some (reader.decoded (ModbusTcpChannel.readBuffer words)) else none := by
  by_cases panics : reader.ParsePanics profile 200
  · obtain ⟨panic, failed⟩ := parseTimeseries_panics short panics
    rw [failed] at parsed
    contradiction
  · rw [parseTimeseries_returns short panics] at parsed
    rw [length_readBuffer short]
    simp only [true_and]
    exact (Except.ok.inj parsed).symm

/-- If no parse call panicked, the points collected are those the parse calls took. -/
theorem collectPoints_taken {parse : ModbusDataPointReader → Except Panic (Option DataPoint)}
    {taken : ModbusDataPointReader → Option DataPoint} {readers : List ModbusDataPointReader}
    {points : List DataPoint} (each : ∀ {reader point}, parse reader = .ok point → point = taken reader)
    (collected : collectPoints parse readers = .ok points) : points = readers.filterMap taken := by
  induction readers generalizing points with
  | nil =>
      cases collected
      rfl
  | cons reader rest ih =>
      obtain ⟨point, parsed, remaining⟩ := bind_eq_ok.mp collected
      obtain ⟨later, recollected, built⟩ := bind_eq_ok.mp remaining
      cases built
      rw [ih recollected, each parsed, List.filterMap_cons]
      cases taken reader <;> rfl

end Points

section Reports

variable {slave : ModbusSlave} {action : AggregatorAction} {half : Half}

theorem ReportOf.registers {attributes : List (TcpGroupPoll .attributes)}
    {timeseries : List (TcpGroupPoll .timeseries)}
    (reports : ReportOf tcpAttributePoints tcpTimeseriesPoints slave
      (attributes.map TcpGroupPoll.outcome) (timeseries.map TcpGroupPoll.outcome) action)
    (attributesClean : ∀ group ∈ attributes.map TcpGroupPoll.group, NoFiller .attributes group)
    (timeseriesClean : ∀ group ∈ timeseries.map TcpGroupPoll.group, NoFiller .timeseries group) :
    ReportOf registerPoints registerPoints slave (attributes.map TcpGroupPoll.outcome)
      (timeseries.map TcpGroupPoll.outcome) action := by
  obtain ⟨values, telemetries, rfl, wins, each⟩ := reports
  refine ⟨values, telemetries, rfl, ?_, ?_⟩
  · have same : (attributes.map TcpGroupPoll.outcome).flatMap tcpAttributePoints =
        (attributes.map TcpGroupPoll.outcome).flatMap registerPoints := by
      apply List.flatMap_congr
      intro outcome member
      obtain ⟨poll, listed, rfl⟩ := List.mem_map.mp member
      exact tcpAttributePoints_registers poll (attributesClean _ (List.mem_map_of_mem listed))
    rwa [← same]
  · have known : ∀ outcome ∈ (timeseries.map TcpGroupPoll.outcome).filter
        (fun outcome => outcome.words.isSome), tcpTimeseriesPoints outcome = registerPoints outcome := by
      intro outcome member
      obtain ⟨poll, listed, rfl⟩ := List.mem_map.mp (List.mem_of_mem_filter member)
      exact tcpTimeseriesPoints_registers poll (timeseriesClean _ (List.mem_map_of_mem listed))
    have both := (List.forall₂_and_left _ _).mpr ⟨known, each.flip⟩
    refine (both.imp ?_).flip
    intro outcome telemetry holds
    change LastWins (registerPoints outcome) telemetry.values
    rw [← holds.1]
    exact holds.2

/-- The calls of a poll are all on the bus. -/
theorem TcpGroupPoll.calls_filters (poll : TcpGroupPoll half) :
    poll.calls.filter (fun call => call.1.onBus) = poll.calls ∧
      poll.calls.filterMap (fun call => call.1.sent) = [] := by
  obtain ⟨group, result, flushed⟩ := poll
  cases half with
  | attributes => exact ⟨rfl, rfl⟩
  | timeseries => cases result <;> exact ⟨rfl, rfl⟩

theorem flatMap_calls_filters (polls : List (TcpGroupPoll half)) :
    (polls.flatMap TcpGroupPoll.calls).filter (fun call => call.1.onBus) =
        polls.flatMap TcpGroupPoll.calls ∧
      (polls.flatMap TcpGroupPoll.calls).filterMap (fun call => call.1.sent) = [] := by
  induction polls with
  | nil => exact ⟨rfl, rfl⟩
  | cons poll rest ih =>
      obtain ⟨own, quiet⟩ := poll.calls_filters
      rw [List.flatMap_cons, List.filter_append, List.filterMap_append, own, quiet, ih.1, ih.2]
      exact ⟨rfl, rfl⟩

end Reports

/-! ### One group, one slave, one cycle -/

section Polling

variable {profile : Profile} {trace : TcpTrace} {group : ModbusRegisterGroup}

namespace ModbusTcpChannel

theorem attributesStep_returns {values after : HashMap String String}
    (returned : (attributesStep profile values group).Returns trace after) :
    ∃ poll : TcpGroupPoll .attributes, poll.group = group ∧ poll.calls = trace ∧
      after = insertPoints values (tcpAttributePoints poll.outcome) := by
  obtain ⟨flushed, _, rfl, continued⟩ := returned.call_bind_inv
  obtain ⟨result, _, rfl, grouped⟩ := continued.call_bind_inv
  refine ⟨⟨group, result, flushed⟩, rfl, ?_⟩
  cases read : attributesGroup (parseAttribute profile) values (.ofRead group result) with
  | error panic =>
      rw [read] at grouped
      cases grouped
  | ok built =>
      rw [read] at grouped
      obtain ⟨rfl, rfl⟩ := grouped.pure_inv
      refine ⟨rfl, ?_⟩
      cases result with
      | none =>
          cases read
          rfl
      | some words =>
          obtain ⟨points, collected, inserted⟩ := bind_eq_ok.mp read
          cases inserted
          rw [collectPoints_taken (parseAttribute_ok (by
            obtain ⟨length, bound⟩ := words.property
            omega)) collected]
          rfl

theorem timeseriesStep_returns {telemetries after : List OneTelemetry}
    (returned : (timeseriesStep profile telemetries group).Returns trace after) :
    ∃ (poll : TcpGroupPoll .timeseries) (stamp : TcpTrace) (appended : List OneTelemetry),
      poll.group = group ∧ trace = poll.calls ++ stamp ∧ after = telemetries ++ appended ∧
      stamp.filter (fun call => call.1.onBus) = [] ∧
      stamp.filterMap (fun call => call.1.sent) = [] ∧
      List.Forall₂ (fun telemetry outcome => LastWins (tcpTimeseriesPoints outcome) telemetry.values)
        appended ([poll.outcome].filter fun outcome => outcome.words.isSome) := by
  obtain ⟨result, _, rfl, continued⟩ := returned.call_bind_inv
  cases result with
  | none =>
      obtain ⟨rfl, rfl⟩ := continued.pure_inv
      exact ⟨⟨group, none, false⟩, [], [], rfl, rfl, (List.append_nil _).symm, rfl, rfl, .nil⟩
  | some words =>
      obtain ⟨flushed, _, rfl, parsing⟩ := continued.call_bind_inv
      obtain ⟨points, collected, stamping⟩ := parsing.ofExcept_bind_inv
      obtain ⟨now, rest, rfl, stamped⟩ := stamping.call_bind_inv
      obtain ⟨rfl, rfl⟩ := stamped.pure_inv
      refine ⟨⟨group, some words, flushed⟩, [⟨.timestamp, now⟩],
        [OneTelemetry.fromDataPoints points now], rfl, rfl, rfl, rfl, rfl, ?_⟩
      refine .cons ?_ .nil
      have wins := lastWins_nil.insertPoints points
      rw [List.nil_append, collectPoints_taken (parseTimeseries_ok (by
        obtain ⟨length, bound⟩ := words.property
        omega)) collected] at wins
      rw [collectPoints_taken (parseTimeseries_ok (by
        obtain ⟨length, bound⟩ := words.property
        omega)) collected]
      exact wins

theorem attributes_returns {groups : List ModbusRegisterGroup} {values : HashMap String String}
    (returned : (groups.foldlM (attributesStep profile) ∅).Returns trace values) :
    ∃ polls : List (TcpGroupPoll .attributes), polls.map TcpGroupPoll.group = groups ∧
      trace = polls.flatMap TcpGroupPoll.calls ∧
      LastWins ((polls.map TcpGroupPoll.outcome).flatMap tcpAttributePoints) values := by
  refine returned.foldlM (fun groups trace values =>
    ∃ polls : List (TcpGroupPoll .attributes), polls.map TcpGroupPoll.group = groups ∧
      trace = polls.flatMap TcpGroupPoll.calls ∧
      LastWins ((polls.map TcpGroupPoll.outcome).flatMap tcpAttributePoints) values)
    ⟨[], rfl, rfl, lastWins_nil⟩ ?_
  intro earlier group later _ before values piece after holds stepped
  obtain ⟨polls, rfl, rfl, wins⟩ := holds
  obtain ⟨poll, rfl, rfl, rfl⟩ := attributesStep_returns stepped
  refine ⟨polls ++ [poll], by simp, by simp, ?_⟩
  rw [List.map_append, List.flatMap_append, List.map_singleton, List.flatMap_singleton]
  exact wins.insertPoints _

theorem timeseries_returns {groups : List ModbusRegisterGroup} {telemetries : List OneTelemetry}
    (returned : (groups.foldlM (timeseriesStep profile) []).Returns trace telemetries) :
    ∃ polls : List (TcpGroupPoll .timeseries), polls.map TcpGroupPoll.group = groups ∧
      trace.filter (fun call => call.1.onBus) = polls.flatMap TcpGroupPoll.calls ∧
      trace.filterMap (fun call => call.1.sent) = [] ∧
      List.Forall₂ (fun telemetry outcome => LastWins (tcpTimeseriesPoints outcome) telemetry.values)
        telemetries ((polls.map TcpGroupPoll.outcome).filter fun outcome => outcome.words.isSome) := by
  refine returned.foldlM (fun groups trace telemetries =>
    ∃ polls : List (TcpGroupPoll .timeseries), polls.map TcpGroupPoll.group = groups ∧
      trace.filter (fun call => call.1.onBus) = polls.flatMap TcpGroupPoll.calls ∧
      trace.filterMap (fun call => call.1.sent) = [] ∧
      List.Forall₂ (fun telemetry outcome => LastWins (tcpTimeseriesPoints outcome) telemetry.values)
        telemetries ((polls.map TcpGroupPoll.outcome).filter fun outcome => outcome.words.isSome))
    ⟨[], rfl, rfl, rfl, .nil⟩ ?_
  intro earlier group later _ before telemetries piece after holds stepped
  obtain ⟨polls, rfl, bus, silent, wins⟩ := holds
  obtain ⟨poll, stamp, appended, rfl, rfl, rfl, offBus, noSend, last⟩ := timeseriesStep_returns stepped
  obtain ⟨own, quiet⟩ := poll.calls_filters
  refine ⟨polls ++ [poll], by simp, ?_, ?_, ?_⟩
  · rw [List.filter_append, bus, List.filter_append, own, offBus, List.append_nil,
      List.flatMap_append, List.flatMap_singleton]
  · rw [List.filterMap_append, silent, List.filterMap_append, quiet, noSend]
    rfl
  · rw [List.map_append, List.filter_append, List.map_singleton]
    exact List.rel_append wins last

theorem slaveStep_returns {entry : ModbusSlave × ModbusRegisterMap}
    (returned : (slaveStep profile entry).Returns trace ()) :
    ∃ poll : TcpSlavePoll, poll.entry = entry ∧
      trace.filterMap (fun call => call.1.sent) = [poll.action] ∧
      trace.filter (fun call => call.1.onBus) = poll.calls ∧ poll.Exact := by
  obtain ⟨selected, _, rfl, reading⟩ := returned.call_bind_inv
  obtain ⟨first, rest, values, rfl, readAttributes, continued⟩ := reading.bind_inv
  obtain ⟨second, last, telemetries, rfl, readTimeseries, closing⟩ := continued.bind_inv
  obtain ⟨closed, _, rfl, sending⟩ := closing.call_bind_inv
  obtain ⟨delivered, _, rfl, ended⟩ := sending.call_bind_inv
  obtain ⟨rfl, _⟩ := ended.pure_inv
  obtain ⟨attributes, attributeGroups, rfl, wins⟩ := attributes_returns readAttributes
  obtain ⟨timeseries, timeseriesGroups, bus, silent, each⟩ := timeseries_returns readTimeseries
  obtain ⟨own, unsent⟩ := flatMap_calls_filters attributes
  have reports : ReportOf tcpAttributePoints tcpTimeseriesPoints entry.1
      (attributes.map TcpGroupPoll.outcome) (timeseries.map TcpGroupPoll.outcome)
      (.sendBoth (entry.1.deviceName, values) (entry.1.deviceName, telemetries)) :=
    ⟨values, telemetries, rfl, wins, each⟩
  refine ⟨⟨entry, selected, attributes, timeseries, .sendBoth (entry.1.deviceName, values)
    (entry.1.deviceName, telemetries)⟩, rfl, ?_, ?_, ?_⟩
  · rw [List.filterMap_cons, List.filterMap_append, List.filterMap_append, unsent, silent]
    rfl
  · rw [List.filter_cons, List.filter_append, List.filter_append, own, bus]
    simp [TcpSlavePoll.calls, TcpCall.onBus]
  · exact {
      attributes := attributeGroups
      timeseries := timeseriesGroups
      reports := reports
      registers := by
        intro attributesClean timeseriesClean
        rw [← attributeGroups] at attributesClean
        rw [← timeseriesGroups] at timeseriesClean
        exact reports.registers attributesClean timeseriesClean }

end ModbusTcpChannel

/-- Every cycle that completes reports exactly what was read: any register maps, in any
order, and any outcome of each call to libmodbus. -/
theorem tcp_cycle_reports (profile : Profile)
    (registerMaps : List (ModbusSlave × ModbusRegisterMap)) (trace : TcpTrace)
    (returned : (ModbusTcpChannel.cycle profile registerMaps).Returns trace ()) :
    ∃ polls, TcpCycleReports registerMaps trace polls := by
  refine returned.foldlM (fun registerMaps trace _ => ∃ polls, TcpCycleReports registerMaps trace polls)
    ⟨[], rfl, rfl, rfl, nofun⟩ ?_
  intro earlier entry later _ before _ piece _ holds stepped
  obtain ⟨polls, holds⟩ := holds
  obtain ⟨poll, rfl, sent, bus, exact⟩ := ModbusTcpChannel.slaveStep_returns stepped
  refine ⟨polls ++ [poll], ?_, ?_, ?_, ?_⟩
  · rw [List.map_append, holds.slaves, List.map_singleton]
  · rw [List.filterMap_append, holds.sent, sent, List.map_append, List.map_singleton]
  · rw [List.filter_append, holds.bus, bus, List.flatMap_append, List.flatMap_singleton]
  · intro other member
    rcases List.mem_append.mp member with member | member
    · exact holds.exact other member
    · rw [List.mem_singleton.mp member]
      exact exact

end Polling

/-- The world of the TCP channel logs the messages one by one. -/
theorem tcpWorld_logs (state : TcpState) (choice : TcpChoice) (call : TcpCall) :
    (tcpWorld.respond state choice call).2.sent.map TcpSent.action =
      state.sent.map TcpSent.action ++ call.sent.toList := by
  cases call with
  | send action => exact List.map_append
  | _ => exact (List.append_nil _).symm

theorem tcp_cycle_reports_one_meter :
    ∃ trace polls, trace.filterMap (fun call => call.1.sent) =
        [.sendBoth ("a", ∅) ("a", [⟨0, insertPoints ∅ [⟨"power", "1", none⟩]⟩])] ∧
      TcpCycleReports [Sample.meter "a" 1] trace polls := by
  have returned : ((ModbusTcpChannel.cycle .release [Sample.meter "a" 1]).run tcpWorld
      ⟨255, 255, [], []⟩ (Sample.poll true)).1 = .returned () := by decide +kernel
  have sent : ((ModbusTcpChannel.cycle .release [Sample.meter "a" 1]).run tcpWorld
      ⟨255, 255, [], []⟩ (Sample.poll true)).2.sent.map TcpSent.action =
        [.sendBoth ("a", ∅) ("a", [⟨0, insertPoints ∅ [⟨"power", "1", none⟩]⟩])] := by decide +kernel
  obtain ⟨trace, returns, logged⟩ := Program.returns_of_run
    (fun state : TcpState => state.sent.map TcpSent.action) TcpCall.sent tcpWorld_logs returned
  obtain ⟨polls, reports⟩ := tcp_cycle_reports .release [Sample.meter "a" 1] trace returns
  exact ⟨trace, polls, logged.symm.trans sent, reports⟩

end StsGateway.Modbus
