import StsGateway.Data.Trace
import StsGateway.Channels.Modbus.Agreement
import StsGateway.Channels.Modbus.Rtu

namespace StsGateway.Modbus

open Data

/-! What one polling cycle of the RTU channel reports, whatever the port does.

The report of a slave is stated from the outcomes of its groups alone. A group's
outcome is what `rmodbus` makes of the response its exchange with the port returned.
-/

/-- A group with the words that were read; `none` is a group that failed. -/
structure GroupOutcome where
  group : ModbusRegisterGroup
  words : Option (List UInt16)

def decodedPoint (profile : Profile) (words : List UInt16) (reader : ModbusDataPointReader) :
    Option DataPoint :=
  match reader.parse profile words with
  | .ok point => point
  | .error _ => none

def GroupOutcome.points (profile : Profile) (outcome : GroupOutcome) : List DataPoint :=
  match outcome.words with
  | none => []
  | some words => outcome.group.dataPoints.filterMap (decodedPoint profile words)

/-- Each key has the value of the last point with that key, and no other keys are there. -/
def LastWins (points : List DataPoint) (values : HashMap String String) : Prop :=
  ∀ key, values.lookup key =
    (points.filter fun point => point.key = key).getLast?.map DataPoint.value

/-- Where no two points share a key, none is lost. -/
def NoneLost (points : List DataPoint) (values : HashMap String String) : Prop :=
  (points.map DataPoint.key).Nodup →
    ∀ point ∈ points, values.lookup point.key = some point.value

/-- One message, with the slave's name in both halves, the attributes of all groups
in one map, and one telemetry for each group that was read. -/
def Reports (profile : Profile) (slave : ModbusSlave) (attributes timeseries : List GroupOutcome)
    (action : AggregatorAction) : Prop :=
  ∃ values telemetries,
    action = .sendBoth (slave.deviceName, values) (slave.deviceName, telemetries) ∧
    LastWins (attributes.flatMap (GroupOutcome.points profile)) values ∧
    List.Forall₂ (fun telemetry outcome => LastWins (outcome.points profile) telemetry.values)
      telemetries (timeseries.filter fun outcome => outcome.words.isSome)

abbrev SerialTrace := List ((call : SerialCall) × call.Reply)

def SerialCall.sent : SerialCall → Option AggregatorAction
  | .send action => some action
  | _ => none

abbrev GroupExchange (rmodbus : Rmodbus) :=
  ReadRequest → SerialProgram (Option (rmodbus.ModbusRequest × List UInt8))

/-- One group's exchange with the port: the calls with their replies, and the
response they made. -/
structure GroupPoll (rmodbus : Rmodbus) (exchange : GroupExchange rmodbus) (slave : ModbusSlave) where
  group : ModbusRegisterGroup
  calls : SerialTrace
  response : Option (rmodbus.ModbusRequest × List UInt8)
  returned : (exchange (ModbusRtuChannel.groupRequest slave group)).Returns calls response

/-- A group is successful when `parse_ok` and `parse_u16` both are. -/
def GroupPoll.outcome {rmodbus : Rmodbus} {exchange : GroupExchange rmodbus} {slave : ModbusSlave}
    (poll : GroupPoll rmodbus exchange slave) : GroupOutcome where
  group := poll.group
  words := ModbusRtuChannel.extract rmodbus poll.response

structure SlavePoll (rmodbus : Rmodbus) where
  entry : ModbusSlave × ModbusRegisterMap
  attributes : List (GroupPoll rmodbus (ModbusRtuChannel.attributesResponse rmodbus) entry.1)
  timeseries : List (GroupPoll rmodbus (ModbusRtuChannel.timeseriesResponse rmodbus) entry.1)
  action : AggregatorAction

namespace SlavePoll

variable {rmodbus : Rmodbus} (poll : SlavePoll rmodbus)

def calls : SerialTrace :=
  poll.attributes.flatMap GroupPoll.calls ++ poll.timeseries.flatMap GroupPoll.calls

def attributeOutcomes : List GroupOutcome := poll.attributes.map GroupPoll.outcome

def timeseriesOutcomes : List GroupOutcome := poll.timeseries.map GroupPoll.outcome

/-- The slave's message is the report of its own outcomes, and they determine it. -/
structure Exact (profile : Profile) (poll : SlavePoll rmodbus) : Prop where
  attributes : poll.attributes.map GroupPoll.group = poll.entry.2.attributes
  timeseries : poll.timeseries.map GroupPoll.group = poll.entry.2.timeseries
  reports : Reports profile poll.entry.1 poll.attributeOutcomes poll.timeseriesOutcomes poll.action
  determined : ∀ other,
    Reports profile poll.entry.1 poll.attributeOutcomes poll.timeseriesOutcomes other →
      SameData (.ok other) (.ok poll.action)
  noneLost : ∀ values telemetries,
    poll.action = .sendBoth (poll.entry.1.deviceName, values)
      (poll.entry.1.deviceName, telemetries) →
    NoneLost (poll.attributeOutcomes.flatMap (GroupOutcome.points profile)) values ∧
      List.Forall₂ (fun telemetry outcome => NoneLost (outcome.points profile) telemetry.values)
        telemetries (poll.timeseriesOutcomes.filter fun outcome => outcome.words.isSome)

end SlavePoll

/-- One message for each slave, in order; the calls to the port are those of the polls. -/
structure CycleReports (rmodbus : Rmodbus) (profile : Profile)
    (registerMaps : List (ModbusSlave × ModbusRegisterMap)) (trace : SerialTrace)
    (polls : List (SlavePoll rmodbus)) : Prop where
  slaves : polls.map SlavePoll.entry = registerMaps
  sent : trace.filterMap (fun call => call.1.sent) = polls.map SlavePoll.action
  port : trace.filter (fun call => call.1.onPort) = polls.flatMap SlavePoll.calls
  exact : ∀ poll ∈ polls, poll.Exact profile

/-! ### Last-wins maps -/

section LastWins

variable {points : List DataPoint} {values other : HashMap String String}

theorem lastWins_nil : LastWins [] ∅ := by
  intro key
  rw [Finmap.lookup_empty]
  rfl

theorem LastWins.insertPoints (holds : LastWins points values) (more : List DataPoint) :
    LastWins (points ++ more) (insertPoints values more) := by
  intro key
  rw [lookup_insertPoints, holds key]
  exact (lastWrite_append DataPoint.key DataPoint.value points more key).symm

theorem LastWins.unique (holds : LastWins points values) (also : LastWins points other) :
    values = other := by
  apply Finmap.ext_lookup
  intro key
  rw [holds key, also key]

theorem LastWins.noneLost (holds : LastWins points values) : NoneLost points values := by
  intro distinct point member
  obtain ⟨front, back, rfl⟩ := List.append_of_mem member
  rw [List.map_append, List.map_cons, List.nodup_append] at distinct
  have later : back.filter (fun later => later.key = point.key) = [] := by
    rw [List.filter_eq_nil_iff]
    intro later listed same
    have fresh := (List.nodup_cons.mp distinct.2.1).1
    rw [← of_decide_eq_true same] at fresh
    exact fresh (List.mem_map_of_mem listed)
  rw [holds, List.filter_append, List.filter_cons, if_pos (decide_eq_true rfl), later]
  simp

end LastWins

section Reports

variable {profile : Profile} {slave : ModbusSlave} {attributes timeseries : List GroupOutcome}
  {action other : AggregatorAction}

theorem values_of_forall₂ {outcomes : List GroupOutcome} {left right : List OneTelemetry}
    (leftWins : List.Forall₂
      (fun telemetry outcome => LastWins (outcome.points profile) telemetry.values) left outcomes)
    (rightWins : List.Forall₂
      (fun telemetry outcome => LastWins (outcome.points profile) telemetry.values) right outcomes) :
    left.map OneTelemetry.values = right.map OneTelemetry.values := by
  induction leftWins generalizing right with
  | nil =>
      cases rightWins
      rfl
  | cons first _ ih =>
      cases rightWins with
      | cons second remaining => rw [List.map_cons, List.map_cons, first.unique second, ih remaining]

/-- The outcomes of a slave's own groups leave only the time stamps open. -/
theorem Reports.determined (reports : Reports profile slave attributes timeseries action)
    (also : Reports profile slave attributes timeseries other) :
    SameData (.ok other) (.ok action) := by
  obtain ⟨values, telemetries, rfl, wins, each⟩ := reports
  obtain ⟨otherValues, otherTelemetries, rfl, otherWins, otherEach⟩ := also
  refine ⟨?_, rfl, values_of_forall₂ otherEach each⟩
  rw [otherWins.unique wins]

theorem Reports.noneLost {values : HashMap String String} {telemetries : List OneTelemetry}
    (reports : Reports profile slave attributes timeseries
      (.sendBoth (slave.deviceName, values) (slave.deviceName, telemetries))) :
    NoneLost (attributes.flatMap (GroupOutcome.points profile)) values ∧
      List.Forall₂ (fun telemetry outcome => NoneLost (outcome.points profile) telemetry.values)
        telemetries (timeseries.filter fun outcome => outcome.words.isSome) := by
  obtain ⟨_, _, same, wins, each⟩ := reports
  cases same
  exact ⟨wins.noneLost, each.imp fun _ _ wins => wins.noneLost⟩

end Reports

/-! ### One group, one slave, one cycle -/

theorem collectPoints_eq {profile : Profile} {words : List UInt16}
    {readers : List ModbusDataPointReader} {points : List DataPoint}
    (collected : collectPoints (ModbusRtuChannel.parsePoint profile words) readers = .ok points) :
    points = readers.filterMap (decodedPoint profile words) := by
  induction readers generalizing points with
  | nil =>
      cases collected
      rfl
  | cons reader rest ih =>
      rw [collectPoints] at collected
      obtain ⟨point, parsed, continued⟩ := bind_eq_ok.mp collected
      obtain ⟨later, remaining, built⟩ := bind_eq_ok.mp continued
      cases built
      have decoded : decodedPoint profile words reader = point := by
        rw [ModbusRtuChannel.parsePoint] at parsed
        rw [decodedPoint, parsed]
      rw [List.filterMap_cons, decoded, ih remaining]
      cases point <;> rfl

section Polling

variable {rmodbus : Rmodbus} {profile : Profile} {slave : ModbusSlave}
  {regGroup : ModbusRegisterGroup} {trace : SerialTrace}

theorem onPort_filters (port : ∀ call ∈ trace, call.1.onPort = true) :
    trace.filter (fun call => call.1.onPort) = trace ∧
      trace.filterMap (fun call => call.1.sent) = [] := by
  refine ⟨List.filter_eq_self.mpr port, ?_⟩
  rw [List.filterMap_eq_nil_iff]
  intro call member
  obtain ⟨call, reply⟩ := call
  have onPort := port _ member
  cases call with
  | send action => contradiction
  | clear buffer => rfl
  | write request => rfl
  | flush => rfl
  | readExact count => rfl
  | timestamp => rfl

namespace ModbusRtuChannel

theorem attributesStep_returns {values after : HashMap String String}
    (returned : (attributesStep rmodbus profile slave values regGroup).Returns trace after) :
    ∃ poll : GroupPoll rmodbus (attributesResponse rmodbus) slave,
      poll.group = regGroup ∧ poll.calls = trace ∧
        after = insertPoints values (poll.outcome.points profile) := by
  obtain ⟨calls, later, response, rfl, exchanged, continued⟩ := returned.bind_inv
  refine ⟨⟨regGroup, calls, response, exchanged⟩, rfl, ?_⟩
  dsimp only [GroupPoll.outcome, GroupOutcome.points]
  cases extracted : extract rmodbus response with
  | none =>
      rw [extracted] at continued
      obtain ⟨rfl, rfl⟩ := continued.pure_inv
      exact ⟨(List.append_nil calls).symm, rfl⟩
  | some readBuffer =>
      rw [extracted] at continued
      obtain ⟨points, collected, continued⟩ := continued.ofExcept_bind_inv
      obtain ⟨rfl, rfl⟩ := continued.pure_inv
      rw [collectPoints_eq collected]
      exact ⟨(List.append_nil calls).symm, rfl⟩

theorem timeseriesStep_returns {telemetries after : List OneTelemetry}
    (returned : (timeseriesStep rmodbus profile slave telemetries regGroup).Returns trace after) :
    ∃ (poll : GroupPoll rmodbus (timeseriesResponse rmodbus) slave) (stamp : SerialTrace)
      (appended : List OneTelemetry),
      poll.group = regGroup ∧ trace = poll.calls ++ stamp ∧ after = telemetries ++ appended ∧
      stamp.filter (fun call => call.1.onPort) = [] ∧
      stamp.filterMap (fun call => call.1.sent) = [] ∧
      List.Forall₂ (fun telemetry outcome => LastWins (outcome.points profile) telemetry.values)
        appended ([poll.outcome].filter fun outcome => outcome.words.isSome) := by
  obtain ⟨calls, later, response, rfl, exchanged, continued⟩ := returned.bind_inv
  refine ⟨⟨regGroup, calls, response, exchanged⟩, later, ?_⟩
  dsimp only [GroupPoll.outcome, List.filter_cons, List.filter_nil, GroupOutcome.points]
  cases extracted : extract rmodbus response with
  | none =>
      rw [extracted] at continued
      obtain ⟨rfl, rfl⟩ := continued.pure_inv
      exact ⟨[], rfl, rfl, (List.append_nil _).symm, rfl, rfl, .nil⟩
  | some readBuffer =>
      rw [extracted] at continued
      obtain ⟨points, collected, continued⟩ := continued.ofExcept_bind_inv
      obtain ⟨now, rest, rfl, stamped⟩ := continued.call_bind_inv
      obtain ⟨rfl, rfl⟩ := stamped.pure_inv
      refine ⟨[OneTelemetry.fromDataPoints points now], rfl, rfl, rfl, rfl, rfl, ?_⟩
      refine .cons ?_ .nil
      have wins := lastWins_nil.insertPoints points
      rw [List.nil_append, collectPoints_eq collected] at wins
      rw [collectPoints_eq collected]
      exact wins

/-- The loop over the attribute groups. -/
theorem attributes_returns {regGroups : List ModbusRegisterGroup} {values : HashMap String String}
    (returned : (regGroups.foldlM (attributesStep rmodbus profile slave) ∅).Returns trace values) :
    ∃ polls : List (GroupPoll rmodbus (attributesResponse rmodbus) slave),
      polls.map GroupPoll.group = regGroups ∧ trace = polls.flatMap GroupPoll.calls ∧
      LastWins ((polls.map GroupPoll.outcome).flatMap (GroupOutcome.points profile)) values := by
  refine returned.foldlM (fun regGroups trace values =>
    ∃ polls : List (GroupPoll rmodbus (attributesResponse rmodbus) slave),
      polls.map GroupPoll.group = regGroups ∧ trace = polls.flatMap GroupPoll.calls ∧
      LastWins ((polls.map GroupPoll.outcome).flatMap (GroupOutcome.points profile)) values)
    ⟨[], rfl, rfl, lastWins_nil⟩ ?_
  intro earlier regGroup later _ before values piece after holds stepped
  obtain ⟨polls, rfl, rfl, wins⟩ := holds
  obtain ⟨poll, rfl, rfl, rfl⟩ := attributesStep_returns stepped
  refine ⟨polls ++ [poll], by simp, by simp, ?_⟩
  rw [List.map_append, List.flatMap_append, List.map_singleton, List.flatMap_singleton]
  exact wins.insertPoints _

/-- The loop over the timeseries groups; only the time stamps come between the polls. -/
theorem timeseries_returns {regGroups : List ModbusRegisterGroup} {telemetries : List OneTelemetry}
    (returned : (regGroups.foldlM (timeseriesStep rmodbus profile slave) []).Returns trace
      telemetries) :
    ∃ polls : List (GroupPoll rmodbus (timeseriesResponse rmodbus) slave),
      polls.map GroupPoll.group = regGroups ∧
      trace.filter (fun call => call.1.onPort) = polls.flatMap GroupPoll.calls ∧
      trace.filterMap (fun call => call.1.sent) = [] ∧
      List.Forall₂ (fun telemetry outcome => LastWins (outcome.points profile) telemetry.values)
        telemetries ((polls.map GroupPoll.outcome).filter fun outcome => outcome.words.isSome) := by
  refine returned.foldlM (fun regGroups trace telemetries =>
    ∃ polls : List (GroupPoll rmodbus (timeseriesResponse rmodbus) slave),
      polls.map GroupPoll.group = regGroups ∧
      trace.filter (fun call => call.1.onPort) = polls.flatMap GroupPoll.calls ∧
      trace.filterMap (fun call => call.1.sent) = [] ∧
      List.Forall₂ (fun telemetry outcome => LastWins (outcome.points profile) telemetry.values)
        telemetries ((polls.map GroupPoll.outcome).filter fun outcome => outcome.words.isSome))
    ⟨[], rfl, rfl, rfl, .nil⟩ ?_
  intro earlier regGroup later _ before telemetries piece after holds stepped
  obtain ⟨polls, rfl, port, silent, wins⟩ := holds
  obtain ⟨poll, stamp, appended, rfl, rfl, rfl, noPort, noSend, last⟩ :=
    timeseriesStep_returns stepped
  obtain ⟨own, quiet⟩ := onPort_filters (poll.returned.calls
    (timeseriesResponse_completes rmodbus _).calls)
  refine ⟨polls ++ [poll], by simp, ?_, ?_, ?_⟩
  · rw [List.filter_append, port, List.filter_append, own, noPort, List.append_nil,
      List.flatMap_append, List.flatMap_singleton]
  · rw [List.filterMap_append, silent, List.filterMap_append, quiet, noSend]
    rfl
  · rw [List.map_append, List.filter_append, List.map_singleton]
    exact List.rel_append wins last

theorem slaveStep_returns {entry : ModbusSlave × ModbusRegisterMap}
    (returned : (slaveStep rmodbus profile entry).Returns trace ()) :
    ∃ poll : SlavePoll rmodbus, poll.entry = entry ∧
      trace.filterMap (fun call => call.1.sent) = [poll.action] ∧
      trace.filter (fun call => call.1.onPort) = poll.calls ∧ poll.Exact profile := by
  obtain ⟨first, rest, values, rfl, readAttributes, continued⟩ := returned.bind_inv
  obtain ⟨second, last, telemetries, rfl, readTimeseries, sending⟩ := continued.bind_inv
  obtain ⟨delivered, none, rfl, ended⟩ := sending.call_bind_inv
  obtain ⟨rfl, _⟩ := ended.pure_inv
  obtain ⟨attributes, attributeGroups, rfl, wins⟩ := attributes_returns readAttributes
  obtain ⟨timeseries, timeseriesGroups, port, silent, each⟩ := timeseries_returns readTimeseries
  have quiet : ∀ call ∈ attributes.flatMap GroupPoll.calls, call.1.onPort = true := by
    intro call member
    obtain ⟨poll, _, listed⟩ := List.mem_flatMap.mp member
    exact poll.returned.calls (attributesResponse_completes rmodbus _).calls call listed
  obtain ⟨own, unsent⟩ := onPort_filters quiet
  have reports : Reports profile entry.1 (attributes.map GroupPoll.outcome)
      (timeseries.map GroupPoll.outcome)
      (.sendBoth (entry.1.deviceName, values) (entry.1.deviceName, telemetries)) :=
    ⟨values, telemetries, rfl, wins, each⟩
  refine ⟨⟨entry, attributes, timeseries, .sendBoth (entry.1.deviceName, values)
    (entry.1.deviceName, telemetries)⟩, rfl, ?_, ?_, ?_⟩
  · rw [List.filterMap_append, List.filterMap_append, unsent, silent]
    rfl
  · rw [List.filter_append, List.filter_append, own, port]
    exact congrArg _ (List.append_nil _)
  · exact {
      attributes := attributeGroups
      timeseries := timeseriesGroups
      reports := reports
      determined := fun other also => reports.determined also
      noneLost := by
        intro values telemetries same
        cases same
        exact reports.noneLost }

end ModbusRtuChannel

/-- Every cycle that completes reports exactly what was read: any register maps, in
any order, and any outcome of each call to the port. -/
theorem rtu_cycle_reports (rmodbus : Rmodbus) (profile : Profile)
    (registerMaps : List (ModbusSlave × ModbusRegisterMap)) (trace : SerialTrace)
    (returned : (ModbusRtuChannel.cycle rmodbus profile registerMaps).Returns trace ()) :
    ∃ polls, CycleReports rmodbus profile registerMaps trace polls := by
  refine returned.foldlM (fun registerMaps trace _ =>
    ∃ polls, CycleReports rmodbus profile registerMaps trace polls)
    ⟨[], rfl, rfl, rfl, nofun⟩ ?_
  intro earlier entry later _ before _ piece _ holds stepped
  obtain ⟨polls, holds⟩ := holds
  obtain ⟨poll, rfl, sent, port, exact⟩ := ModbusRtuChannel.slaveStep_returns stepped
  refine ⟨polls ++ [poll], ?_, ?_, ?_, ?_⟩
  · rw [List.map_append, holds.slaves, List.map_singleton]
  · rw [List.filterMap_append, holds.sent, sent, List.map_append, List.map_singleton]
  · rw [List.filter_append, holds.port, port, List.flatMap_append, List.flatMap_singleton]
  · intro other member
    rcases List.mem_append.mp member with member | member
    · exact holds.exact other member
    · rw [List.mem_singleton.mp member]
      exact exact

end Polling

/-! ### When a cycle does not complete -/

/-- A point of the group panics on the words that the group's own exchange returned. -/
def GroupPoll.Panics (profile : Profile) (panic : Panic) {rmodbus : Rmodbus}
    {exchange : GroupExchange rmodbus} {slave : ModbusSlave}
    (poll : GroupPoll rmodbus exchange slave) : Prop :=
  ∃ words, poll.outcome.words = some words ∧
    ∃ reader ∈ poll.group.dataPoints, reader.parse profile words = .error panic

/-- The calls of the cycle end with a group's exchange, and decoding what it returned
panics. -/
def ParseCallPanics (rmodbus : Rmodbus) (profile : Profile)
    (registerMaps : List (ModbusSlave × ModbusRegisterMap)) (trace : SerialTrace) (panic : Panic) :
    Prop :=
  ∃ entry ∈ registerMaps,
    (∃ poll : GroupPoll rmodbus (ModbusRtuChannel.attributesResponse rmodbus) entry.1,
      poll.group ∈ entry.2.attributes ∧ poll.calls <:+ trace ∧ poll.Panics profile panic) ∨
    ∃ poll : GroupPoll rmodbus (ModbusRtuChannel.timeseriesResponse rmodbus) entry.1,
      poll.group ∈ entry.2.timeseries ∧ poll.calls <:+ trace ∧ poll.Panics profile panic

theorem collectPoints_panics {parse : ModbusDataPointReader → Except Panic (Option DataPoint)}
    {readers : List ModbusDataPointReader} {panic : Panic}
    (failed : collectPoints parse readers = .error panic) :
    ∃ reader ∈ readers, parse reader = .error panic := by
  induction readers with
  | nil => contradiction
  | cons reader rest ih =>
      cases parsed : parse reader with
      | error other =>
          rw [collectPoints, parsed, error_bind] at failed
          cases failed
          exact ⟨reader, List.mem_cons_self, parsed⟩
      | ok point =>
          cases remaining : collectPoints parse rest with
          | ok points => simp [collectPoints, parsed, remaining] at failed
          | error other =>
              rw [collectPoints, parsed, ok_bind, remaining, error_bind] at failed
              cases failed
              obtain ⟨reader, member, panicked⟩ := ih remaining
              exact ⟨reader, List.mem_cons_of_mem _ member, panicked⟩

section Crashes

variable {rmodbus : Rmodbus} {profile : Profile} {slave : ModbusSlave}
  {regGroup : ModbusRegisterGroup} {trace : SerialTrace} {panic : Panic}

namespace ModbusRtuChannel

/-- What both loops do with one group; what comes after the decoding does not crash. -/
theorem groupStep_crashes {α : Type} {exchange : GroupExchange rmodbus} {skip : α}
    {finish : List DataPoint → SerialProgram α}
    (completes : (exchange (groupRequest slave regGroup)).Completes fun call => call.onPort = true)
    (finishes : ∀ points later, ¬(finish points).Reaches later (.crash panic))
    (crashed : (exchange (groupRequest slave regGroup) >>= fun response =>
      match extract rmodbus response with
      | none => pure skip
      | some readBuffer => do
          let points ← Program.ofExcept (collectPoints (parsePoint profile readBuffer) regGroup.dataPoints)
          finish points).Reaches trace (.crash panic)) :
    ∃ poll : GroupPoll rmodbus exchange slave,
      poll.group = regGroup ∧ poll.calls = trace ∧ poll.Panics profile panic := by
  rcases crashed.bind_crash with exchanging | ⟨calls, later, response, rfl, exchanged, decoding⟩
  · exact absurd exchanging completes.not_crash
  · cases extracted : extract rmodbus response with
    | none =>
        rw [extracted] at decoding
        cases decoding
    | some readBuffer =>
        rw [extracted] at decoding
        rcases decoding.ofExcept_bind_crash with ⟨failed, rfl⟩ | ⟨points, _, finishing⟩
        · exact ⟨⟨regGroup, calls, response, exchanged⟩, rfl, (List.append_nil calls).symm,
            readBuffer, extracted, collectPoints_panics failed⟩
        · exact absurd finishing (finishes points later)

theorem attributesStep_crashes {values : HashMap String String}
    (crashed : (attributesStep rmodbus profile slave values regGroup).Reaches trace (.crash panic)) :
    ∃ poll : GroupPoll rmodbus (attributesResponse rmodbus) slave,
      poll.group = regGroup ∧ poll.calls = trace ∧ poll.Panics profile panic :=
  groupStep_crashes (attributesResponse_completes rmodbus _) (fun _ _ ended => by cases ended) crashed

theorem timeseriesStep_crashes {telemetries : List OneTelemetry}
    (crashed : (timeseriesStep rmodbus profile slave telemetries regGroup).Reaches trace
      (.crash panic)) :
    ∃ poll : GroupPoll rmodbus (timeseriesResponse rmodbus) slave,
      poll.group = regGroup ∧ poll.calls = trace ∧ poll.Panics profile panic := by
  refine groupStep_crashes (timeseriesResponse_completes rmodbus _) (fun _ _ stamping => ?_) crashed
  cases stamping with
  | perform now ended => cases ended

end ModbusRtuChannel

/-- A cycle crashes nowhere but in a parse call, on words that it has just read. -/
theorem rtu_cycle_crashes {registerMaps : List (ModbusSlave × ModbusRegisterMap)}
    (crashed : (ModbusRtuChannel.cycle rmodbus profile registerMaps).Reaches trace (.crash panic)) :
    ParseCallPanics rmodbus profile registerMaps trace panic := by
  obtain ⟨entry, listed, _, before, own, rfl, polling⟩ := crashed.foldlM_crash
  refine ⟨entry, listed, ?_⟩
  rcases polling.bind_crash with reading | ⟨attributes, rest, values, rfl, _, continued⟩
  · obtain ⟨regGroup, member, _, earlier, round, rfl, stepped⟩ := reading.foldlM_crash
    obtain ⟨poll, rfl, rfl, panics⟩ := ModbusRtuChannel.attributesStep_crashes stepped
    exact .inl ⟨poll, member, ⟨before ++ earlier, List.append_assoc ..⟩, panics⟩
  · rcases continued.bind_crash with reading | ⟨_, _, _, _, _, sending⟩
    · obtain ⟨regGroup, member, _, earlier, round, rfl, stepped⟩ := reading.foldlM_crash
      obtain ⟨poll, rfl, rfl, panics⟩ := ModbusRtuChannel.timeseriesStep_crashes stepped
      refine .inr ⟨poll, member, ⟨before ++ (attributes ++ earlier), ?_⟩, panics⟩
      simp only [List.append_assoc]
    · cases sending with
      | perform delivered ended => cases ended

/-- Whatever the environment, a run of a cycle that crashes does so in a parse call. -/
theorem rtu_run_crashes {State Choice : Type} {world : World SerialCall SerialCall.Reply State Choice}
    {registerMaps : List (ModbusSlave × ModbusRegisterMap)} {state : State} {choices : List Choice}
    (crashed : ((ModbusRtuChannel.cycle rmodbus profile registerMaps).run world state choices).1 =
      .crashed panic) : ∃ trace, ParseCallPanics rmodbus profile registerMaps trace panic := by
  obtain ⟨trace, reached⟩ := Program.reaches_of_run crashed
  exact ⟨trace, rtu_cycle_crashes reached⟩

end Crashes

/-- The serial line logs the messages one by one. -/
theorem respond_logs (line : SerialLine) (choice : SerialChoice) (call : SerialCall) :
    (serialWorld.respond line choice call).2.sent.map RtuSent.action =
      line.sent.map RtuSent.action ++ call.sent.toList := by
  by_cases silent : ∀ action, call ≠ .send action
  · have unsent : call.sent = none := by
      cases call with
      | send action => exact absurd rfl (silent action)
      | _ => rfl
    rw [respond_sent silent, unsent]
    exact (List.append_nil _).symm
  · simp only [not_forall, ne_eq, not_not] at silent
    obtain ⟨action, rfl⟩ := silent
    have arrived := (line.arrive_frame choice.arrivals).2.1
    simp [serialWorld, serialRespond, SerialCall.sent, arrived]

namespace Sample

def fullMeter : ModbusSlave × ModbusRegisterMap :=
  (⟨"meter", none, 1, "meter.yml"⟩, ⟨[⟨0, 3, [⟨0, 1, .uint16, "model"⟩]⟩],
    [⟨10, 3, [⟨0, 1, .uint16, "voltage"⟩]⟩, ⟨20, 3, [⟨0, 1, .uint16, "current"⟩]⟩]⟩)

/-- The attributes arrive around the second clear, nobody answers for the voltage. -/
def oneSilent : List SerialChoice :=
  firstRead (List.replicate 10 0) [900, 901, 902] ++
    [serial [] none, serial [0] none, serial [] none] ++
    List.replicate 4 (serial [] none) ++
    firstRead (List.replicate 11 2) [5, 6, 7] ++ remainder ++ [serial [] none]

end Sample

theorem rtu_cycle_reports_in_time :
    ∃ trace polls, trace.filterMap (fun call => call.1.sent) =
        [.sendBoth ("meter", insertPoints ∅ [⟨"model", "900", none⟩])
          ("meter", [⟨0, insertPoints ∅ [⟨"current", "5", none⟩]⟩])] ∧
      CycleReports Rmodbus.reference .release [Sample.fullMeter] trace polls := by
  have returned : ((ModbusRtuChannel.cycle Rmodbus.reference .release [Sample.fullMeter]).run
      serialWorld ⟨[], [], [], []⟩ Sample.oneSilent).1 = .returned () := by decide +kernel
  have sent : ((ModbusRtuChannel.cycle Rmodbus.reference .release [Sample.fullMeter]).run
      serialWorld ⟨[], [], [], []⟩ Sample.oneSilent).2.sent.map RtuSent.action =
        [.sendBoth ("meter", insertPoints ∅ [⟨"model", "900", none⟩])
          ("meter", [⟨0, insertPoints ∅ [⟨"current", "5", none⟩]⟩])] := by decide +kernel
  obtain ⟨trace, returns, logged⟩ := Program.returns_of_run
    (fun line : SerialLine => line.sent.map RtuSent.action) SerialCall.sent respond_logs returned
  obtain ⟨polls, reports⟩ :=
    rtu_cycle_reports Rmodbus.reference .release [Sample.fullMeter] trace returns
  exact ⟨trace, polls, logged.symm.trans sent, reports⟩

end StsGateway.Modbus
