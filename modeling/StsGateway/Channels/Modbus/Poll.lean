import StsGateway.Data.LastWrite
import StsGateway.Definitions
import StsGateway.Channels.Modbus.Parse

namespace StsGateway

open Data

/-! From the registers read in one cycle to the message a channel sends.

The loops of both channels have one shape and differ in how a data point is
taken from the words of its group, so the shape is written once. What was read
is an input here; the modules on the clients and the serial line say where it
comes from.
-/

/-- Later points overwrite earlier ones with the same key. -/
def insertPoints (values : HashMap String String) (points : List DataPoint) :
    HashMap String String :=
  points.foldl (fun values point => values.insert point.key point.value) values

theorem lookup_insertPoints (values : HashMap String String) (points : List DataPoint) (key : String) :
    (insertPoints values points).lookup key =
      (lastWrite DataPoint.key DataPoint.value points key).or (values.lookup key) :=
  lookup_insertAll values

/-- `From<Vec<DataPoint>> for OneTelemetry`, at clock reading `now`. -/
def OneTelemetry.fromDataPoints (input : List DataPoint) (now : Int) : OneTelemetry where
  ts := now
  values := insertPoints ∅ input

namespace Modbus

abbrev PointParser := List UInt16 → ModbusDataPointReader → Except Panic (Option DataPoint)

/-- A register group with what its read returned; `none` is a read that failed.
Both clients read at most 125 registers and return as many as were asked for. -/
structure PolledGroup where
  group : ModbusRegisterGroup
  words : Option (List UInt16)
  complete : ∀ registers, words = some registers →
    registers.length = group.elementsCount.toNat ∧ group.elementsCount.toNat ≤ 125

def collectPoints (parse : ModbusDataPointReader → Except Panic (Option DataPoint)) :
    List ModbusDataPointReader → Except Panic (List DataPoint)
  | [] => .ok []
  | reader :: rest => do
      let point ← parse reader
      let points ← collectPoints parse rest
      .ok (point.toList ++ points)

def attributesGroup (parse : PointParser) (attributes : HashMap String String)
    (polled : PolledGroup) : Except Panic (HashMap String String) :=
  match polled.words with
  | none => .ok attributes
  | some words => do
      let dataPointVec ← collectPoints (parse words) polled.group.dataPoints
      .ok (insertPoints attributes dataPointVec)

/-- `clock k` is the reading with which the k-th telemetry of the cycle is stamped. -/
def timeseriesGroup (parse : PointParser) (clock : Nat → Int) (timeseries : List OneTelemetry)
    (polled : PolledGroup) : Except Panic (List OneTelemetry) :=
  match polled.words with
  | none => .ok timeseries
  | some words => do
      let dataPointVec ← collectPoints (parse words) polled.group.dataPoints
      .ok (timeseries ++ [OneTelemetry.fromDataPoints dataPointVec (clock timeseries.length)])

def pollSlave (parseAttribute parseTimeseries : PointParser) (clock : Nat → Int) (slave : ModbusSlave)
    (attributes timeseries : List PolledGroup) : Except Panic AggregatorAction := do
  let values ← attributes.foldlM (attributesGroup parseAttribute) ∅
  let telemetries ← timeseries.foldlM (timeseriesGroup parseTimeseries clock) []
  .ok (.sendBoth (slave.deviceName, values) (slave.deviceName, telemetries))

namespace ModbusTcpChannel

/-- libmodbus writes the registers at the front of the caller's 200-word buffer. -/
def readBuffer (registers : List UInt16) : List UInt16 :=
  registers ++ (List.replicate 200 0).drop registers.length

/-- The attribute loop has a guard of its own before `parse`. -/
def parseAttribute (profile : Profile) : PointParser := fun registers dataPoint => do
  let stop ← profile.addUsize dataPoint.dataOffset 4
  if ¬stop.toNat ≤ (wordsBytes (readBuffer registers)).length then .ok none
  else dataPoint.parse profile (readBuffer registers)

def parseTimeseries (profile : Profile) : PointParser := fun registers dataPoint =>
  dataPoint.parse profile (readBuffer registers)

def poll (profile : Profile) (clock : Nat → Int) (slave : ModbusSlave)
    (attributes timeseries : List PolledGroup) : Except Panic AggregatorAction :=
  pollSlave (parseAttribute profile) (parseTimeseries profile) clock slave attributes timeseries

end ModbusTcpChannel

namespace ModbusRtuChannel

/-- `read_buffer` holds the words of the response and nothing else. -/
def parsePoint (profile : Profile) : PointParser := fun registers dataPoint =>
  dataPoint.parse profile registers

def poll (profile : Profile) (clock : Nat → Int) (slave : ModbusSlave)
    (attributes timeseries : List PolledGroup) : Except Panic AggregatorAction :=
  pollSlave (parsePoint profile) (parsePoint profile) clock slave attributes timeseries

end ModbusRtuChannel

/-! ### What a cycle depends on -/

def GroupsPanic (parse : PointParser) (groups : List PolledGroup) : Prop :=
  ∃ polled ∈ groups, ∃ words, polled.words = some words ∧
    ∃ reader ∈ polled.group.dataPoints, ∃ panic, parse words reader = .error panic

def GroupsAgree (parse other : PointParser) (groups : List PolledGroup) : Prop :=
  ∀ polled ∈ groups, ∀ words, polled.words = some words →
    ∀ reader ∈ polled.group.dataPoints, parse words reader = other words reader

theorem collectPoints_congr
    {parse other : ModbusDataPointReader → Except Panic (Option DataPoint)}
    {readers : List ModbusDataPointReader} (agree : ∀ reader ∈ readers, parse reader = other reader) :
    collectPoints parse readers = collectPoints other readers := by
  induction readers with
  | nil => rfl
  | cons reader rest ih =>
      rw [collectPoints, collectPoints, agree reader List.mem_cons_self,
        ih fun reader member => agree reader (List.mem_cons_of_mem _ member)]

theorem collectPoints_returns_iff
    (parse : ModbusDataPointReader → Except Panic (Option DataPoint))
    (readers : List ModbusDataPointReader) :
    (∃ points, collectPoints parse readers = .ok points) ↔
      ¬∃ reader ∈ readers, ∃ panic, parse reader = .error panic := by
  induction readers with
  | nil => simp [collectPoints]
  | cons reader rest ih =>
      cases parsed : parse reader with
      | error panic => simp [collectPoints, parsed]
      | ok point =>
          cases collected : collectPoints parse rest with
          | error panic => simpa [collectPoints, parsed, collected] using ih
          | ok points => simpa [collectPoints, parsed, collected] using ih

variable {parse other : PointParser} {polled : PolledGroup} {groups : List PolledGroup}

theorem attributesGroup_returns_iff (values : HashMap String String) :
    (∃ after, attributesGroup parse values polled = .ok after) ↔ ¬GroupsPanic parse [polled] := by
  cases read : polled.words with
  | none => simp [attributesGroup, GroupsPanic, read]
  | some words =>
      have collected := collectPoints_returns_iff (parse words) polled.group.dataPoints
      simp only [attributesGroup, read, bind_eq_ok, Except.ok.injEq, GroupsPanic,
        List.mem_singleton, exists_eq_left, Option.some.injEq, exists_eq_left']
      rw [← collected]
      constructor
      · intro holds
        obtain ⟨_, points, returned, _⟩ := holds
        exact ⟨points, returned⟩
      · intro holds
        obtain ⟨points, returned⟩ := holds
        exact ⟨_, points, returned, rfl⟩

theorem timeseriesGroup_returns_iff (clock : Nat → Int) (telemetries : List OneTelemetry) :
    (∃ after, timeseriesGroup parse clock telemetries polled = .ok after) ↔
      ¬GroupsPanic parse [polled] := by
  rw [← attributesGroup_returns_iff ∅]
  cases read : polled.words with
  | none => simp [attributesGroup, timeseriesGroup, read]
  | some words =>
      cases collected : collectPoints (parse words) polled.group.dataPoints <;>
        simp [attributesGroup, timeseriesGroup, read, collected]

theorem groupsPanic_cons :
    GroupsPanic parse (polled :: groups) ↔ GroupsPanic parse [polled] ∨ GroupsPanic parse groups := by
  simp [GroupsPanic]

theorem foldlM_returns_iff {State : Type} {body : State → PolledGroup → Except Panic State}
    (returns : ∀ state polled, (∃ after, body state polled = .ok after) ↔
      ¬GroupsPanic parse [polled]) (state : State) :
    (∃ after, groups.foldlM body state = .ok after) ↔ ¬GroupsPanic parse groups := by
  induction groups generalizing state with
  | nil => simp [GroupsPanic]
  | cons polled rest ih =>
      rw [groupsPanic_cons, not_or, ← returns state polled, List.foldlM_cons]
      cases first : body state polled with
      | error panic => simp
      | ok next => simpa using ih next

theorem pollSlave_returns_iff {parseAttribute parseTimeseries : PointParser} {clock : Nat → Int}
    {slave : ModbusSlave} {attributes timeseries : List PolledGroup} :
    (∃ action, pollSlave parseAttribute parseTimeseries clock slave attributes timeseries =
      .ok action) ↔
        ¬GroupsPanic parseAttribute attributes ∧ ¬GroupsPanic parseTimeseries timeseries := by
  rw [← foldlM_returns_iff (fun values _ => attributesGroup_returns_iff values) ∅,
    ← foldlM_returns_iff (fun telemetries _ => timeseriesGroup_returns_iff clock telemetries) []]
  unfold pollSlave
  cases attributes.foldlM (attributesGroup parseAttribute) ∅ <;>
    cases timeseries.foldlM (timeseriesGroup parseTimeseries clock) [] <;> simp

/-- A slave none of whose groups could be read still sends a message, an empty one. -/
theorem pollSlave_unread {parseAttribute parseTimeseries : PointParser} {clock : Nat → Int}
    {slave : ModbusSlave} {attributes timeseries : List PolledGroup}
    (silent : ∀ polled ∈ attributes, polled.words = none)
    (mute : ∀ polled ∈ timeseries, polled.words = none) :
    pollSlave parseAttribute parseTimeseries clock slave attributes timeseries =
      .ok (.sendBoth (slave.deviceName, ∅) (slave.deviceName, [])) := by
  have noAttributes : attributes.foldlM (attributesGroup parseAttribute) ∅ = .ok ∅ := by
    induction attributes with
    | nil => rfl
    | cons polled rest ih =>
        rw [List.foldlM_cons, attributesGroup, silent polled List.mem_cons_self]
        exact ih fun other member => silent other (List.mem_cons_of_mem _ member)
  have noTimeseries : timeseries.foldlM (timeseriesGroup parseTimeseries clock) [] = .ok [] := by
    induction timeseries with
    | nil => rfl
    | cons polled rest ih =>
        rw [List.foldlM_cons, timeseriesGroup, mute polled List.mem_cons_self]
        exact ih fun other member => mute other (List.mem_cons_of_mem _ member)
  rw [pollSlave, noAttributes, noTimeseries]
  rfl

theorem attributesGroup_congr {values : HashMap String String}
    (agree : GroupsAgree parse other [polled]) :
    attributesGroup parse values polled = attributesGroup other values polled := by
  cases read : polled.words with
  | none => simp only [attributesGroup, read]
  | some words =>
      have same := collectPoints_congr (agree polled List.mem_cons_self words read)
      simp only [attributesGroup, read, same]

theorem GroupsAgree.head (agree : GroupsAgree parse other (polled :: groups)) :
    GroupsAgree parse other [polled] := by
  intro group member
  rw [List.mem_singleton.mp member]
  exact agree polled List.mem_cons_self

theorem GroupsAgree.tail (agree : GroupsAgree parse other (polled :: groups)) :
    GroupsAgree parse other groups :=
  fun group member => agree group (List.mem_cons_of_mem _ member)

theorem foldlM_attributesGroup_congr (values : HashMap String String)
    (agree : GroupsAgree parse other groups) :
    groups.foldlM (attributesGroup parse) values = groups.foldlM (attributesGroup other) values := by
  induction groups generalizing values with
  | nil => rfl
  | cons polled rest ih =>
      rw [List.foldlM_cons, List.foldlM_cons, attributesGroup_congr agree.head]
      cases attributesGroup other values polled with
      | error panic => rfl
      | ok next => exact ih next agree.tail

theorem timeseriesGroup_congr (clock otherClock : Nat → Int) {left right : List OneTelemetry}
    (agree : GroupsAgree parse other [polled])
    (same : left.map OneTelemetry.values = right.map OneTelemetry.values) :
    (timeseriesGroup parse clock left polled).map (List.map OneTelemetry.values) =
      (timeseriesGroup other otherClock right polled).map (List.map OneTelemetry.values) := by
  cases read : polled.words with
  | none => simpa only [timeseriesGroup, read, Except.map, Except.ok.injEq] using same
  | some words =>
      have collected := collectPoints_congr (agree polled List.mem_cons_self words read)
      cases points : collectPoints (other words) polled.group.dataPoints with
      | error panic => simp [timeseriesGroup, read, collected, points, Except.map]
      | ok points => simp [timeseriesGroup, read, collected, points, Except.map, same,
          OneTelemetry.fromDataPoints]

theorem foldlM_timeseriesGroup_congr (clock otherClock : Nat → Int)
    {left right : List OneTelemetry} (agree : GroupsAgree parse other groups)
    (same : left.map OneTelemetry.values = right.map OneTelemetry.values) :
    (groups.foldlM (timeseriesGroup parse clock) left).map (List.map OneTelemetry.values) =
      (groups.foldlM (timeseriesGroup other otherClock) right).map
        (List.map OneTelemetry.values) := by
  induction groups generalizing left right with
  | nil => simpa only [List.foldlM_nil, pure_eq_ok, Except.map, Except.ok.injEq] using same
  | cons polled rest ih =>
      have first := timeseriesGroup_congr clock otherClock agree.head same
      rw [List.foldlM_cons, List.foldlM_cons]
      cases leftStep : timeseriesGroup parse clock left polled <;>
        cases rightStep : timeseriesGroup other otherClock right polled <;>
        simp only [leftStep, rightStep, Except.map, reduceCtorEq, Except.error.injEq,
          Except.ok.injEq] at first
      · simp [Except.map, first]
      · exact ih agree.tail first

/-! ### Where published values come from -/

def AllFrom (origin : String → String → Prop) (values : HashMap String String) : Prop :=
  ∀ key value, values.lookup key = some value → origin key value

section Origin

variable {origin wider : String → String → Prop} {values : HashMap String String}

theorem AllFrom.mono (all : AllFrom origin values)
    (widen : ∀ key value, origin key value → wider key value) : AllFrom wider values :=
  fun key value found => widen key value (all key value found)

theorem allFrom_empty (origin : String → String → Prop) : AllFrom origin ∅ := by
  intro key value found
  rw [Finmap.lookup_empty] at found
  contradiction

theorem allFrom_insertPoints {points : List DataPoint} (all : AllFrom origin values)
    (allowed : ∀ point ∈ points, origin point.key point.value) :
    AllFrom origin (insertPoints values points) := by
  intro key value found
  rw [lookup_insertPoints] at found
  rcases Option.or_eq_some_iff.mp found with written | ⟨_, kept⟩
  · obtain ⟨point, member, rfl, rfl⟩ := mem_of_lastWrite written
    exact allowed point member
  · exact all key value kept

theorem collectPoints_origin {parse : ModbusDataPointReader → Except Panic (Option DataPoint)}
    {readers : List ModbusDataPointReader} {points : List DataPoint}
    (collected : collectPoints parse readers = .ok points) {point : DataPoint}
    (member : point ∈ points) : ∃ reader ∈ readers, parse reader = .ok (some point) := by
  induction readers generalizing points with
  | nil =>
      cases collected
      contradiction
  | cons reader rest ih =>
      rw [collectPoints] at collected
      obtain ⟨taken, parsed, continued⟩ := bind_eq_ok.mp collected
      obtain ⟨later, remaining, built⟩ := bind_eq_ok.mp continued
      cases built
      rcases List.mem_append.mp member with member | member
      · rw [Option.mem_toList] at member
        cases member
        exact ⟨reader, List.mem_cons_self, parsed⟩
      · obtain ⟨other, listed, parsed⟩ := ih remaining member
        exact ⟨other, List.mem_cons_of_mem _ listed, parsed⟩

end Origin

end Modbus

end StsGateway
