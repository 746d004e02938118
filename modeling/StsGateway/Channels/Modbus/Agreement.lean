import StsGateway.Channels.Modbus.Poll

namespace StsGateway.Modbus

open Data

/-! The two channels side by side, on the same slave and the same read outcomes.

The TCP loops hand the decoder the whole 200-word buffer, so a point past the
registers that were read is decoded from the buffer's filler; the RTU loops
hand it the words of the response. The attribute loop of the TCP channel also
guards every point as if it were four bytes wide.
-/

/-- Equal up to the time stamps. -/
def SameData : Except Panic AggregatorAction → Except Panic AggregatorAction → Prop
  | .ok (.sendBoth attributes timeseries), .ok (.sendBoth attributes' timeseries') =>
      attributes = attributes' ∧ timeseries.1 = timeseries'.1 ∧
        timeseries.2.map OneTelemetry.values = timeseries'.2.map OneTelemetry.values
  | .error _, .error _ => True
  | _, _ => False

/-- No point whose bytes leave the registers that were read is taken. -/
def OnlyRegistersRead (parse : PointParser) (groups : List PolledGroup) : Prop :=
  ∀ polled ∈ groups, ∀ words, polled.words = some words →
    ∀ reader ∈ polled.group.dataPoints, 2 * words.length < reader.stop →
      ∀ point, parse words reader ≠ .ok (some point)

def ChannelsAgree (profile : Profile) (tcpClock rtuClock : Nat → Int) (slave : ModbusSlave)
    (attributes timeseries : List PolledGroup) : Prop :=
  SameData (ModbusTcpChannel.poll profile tcpClock slave attributes timeseries)
      (ModbusRtuChannel.poll profile rtuClock slave attributes timeseries) ∧
    (∀ message, ModbusTcpChannel.poll profile tcpClock slave attributes timeseries = .ok message →
      OnlyRegistersRead (ModbusTcpChannel.parseAttribute profile) attributes ∧
        OnlyRegistersRead (ModbusTcpChannel.parseTimeseries profile) timeseries) ∧
    ∀ message, ModbusRtuChannel.poll profile rtuClock slave attributes timeseries = .ok message →
      OnlyRegistersRead (ModbusRtuChannel.parsePoint profile) attributes ∧
        OnlyRegistersRead (ModbusRtuChannel.parsePoint profile) timeseries

/-! ### The condition, read off the register maps and the read outcomes -/

def SomePoint (kind : ModbusRegisterGroup → ModbusDataPointReader → Prop)
    (groups : List PolledGroup) : Prop :=
  ∃ polled ∈ groups, polled.words.isSome ∧
    ∃ reader ∈ polled.group.dataPoints, kind polled.group reader

/-- The four-byte guard of the TCP attribute loop lets the point through. -/
def ModbusDataPointReader.PassesGuard (self : ModbusDataPointReader) : Prop :=
  self.dataOffset.toNat + 4 ≤ 400

instance (self : ModbusDataPointReader) : Decidable self.PassesGuard :=
  inferInstanceAs (Decidable (self.dataOffset.toNat + 4 ≤ 400))

/-- The guard's own addition may overflow: it panics in a `dev` build and lets
the point through in a `release` build. -/
def ModbusDataPointReader.TcpAttributePanics (profile : Profile) (self : ModbusDataPointReader) :
    Prop :=
  if 2 ^ 64 ≤ self.dataOffset.toNat + 4 then profile = .dev ∨ self.ParsePanics profile 200
  else self.PassesGuard ∧ self.ParsePanics profile 200

/-- The point leaves the registers of its group and stays in the 200-word buffer. -/
def ModbusDataPointReader.ReachesFiller (self : ModbusDataPointReader)
    (group : ModbusRegisterGroup) : Prop :=
  2 * group.elementsCount.toNat < self.stop ∧ self.stop ≤ 400

def TcpPanics (profile : Profile) (attributes timeseries : List PolledGroup) : Prop :=
  SomePoint (fun _ reader => reader.TcpAttributePanics profile) attributes ∨
    SomePoint (fun _ reader => reader.ParsePanics profile 200) timeseries

def RtuPanics (profile : Profile) (attributes timeseries : List PolledGroup) : Prop :=
  SomePoint (fun group reader => reader.ParsePanics profile group.elementsCount.toNat)
      (attributes ++ timeseries)

def FillerDecoded (attributes timeseries : List PolledGroup) : Prop :=
  SomePoint (fun group reader => reader.PassesGuard ∧ reader.ReachesFiller group) attributes ∨
    SomePoint (fun group reader => reader.ReachesFiller group) timeseries

/-! ### What the parsers of the channels take -/

section Parsers

variable {profile : Profile} {registers : List UInt16} {reader : ModbusDataPointReader}

theorem length_readBuffer (short : registers.length ≤ 125) :
    (ModbusTcpChannel.readBuffer registers).length = 200 := by
  rw [ModbusTcpChannel.readBuffer, List.length_append, List.length_drop, List.length_replicate]
  omega

theorem decoded_readBuffer (inside : reader.stop ≤ 2 * registers.length) :
    reader.decoded (ModbusTcpChannel.readBuffer registers) = reader.decoded registers := by
  have within : reader.dataOffset.toNat + reader.dataType.width ≤ (wordsBytes registers).length := by
    rw [length_wordsBytes]
    exact inside
  rw [ModbusDataPointReader.decoded, ModbusDataPointReader.decoded, ModbusTcpChannel.readBuffer,
    wordsBytes_append, window_append_left _ within]

theorem width_bounds (reader : ModbusDataPointReader) :
    2 ≤ reader.dataType.width ∧ reader.dataType.width ≤ 8 := by
  cases reader.dataType <;> decide

theorem parseTimeseries_panics (short : registers.length ≤ 125)
    (panics : reader.ParsePanics profile 200) :
    ∃ panic, ModbusTcpChannel.parseTimeseries profile registers reader = .error panic :=
  ModbusDataPointReader.parse_panics (by rw [length_readBuffer short]; decide)
    (by rwa [length_readBuffer short])

theorem parseTimeseries_returns (short : registers.length ≤ 125)
    (calm : ¬reader.ParsePanics profile 200) :
    ModbusTcpChannel.parseTimeseries profile registers reader =
      .ok (if reader.stop ≤ 400 then some (reader.decoded (ModbusTcpChannel.readBuffer registers))
        else none) := by
  have words : (ModbusTcpChannel.readBuffer registers).length < 2 ^ 62 := by
    rw [length_readBuffer short]
    decide
  have returned := ModbusDataPointReader.parse_returns words (by rwa [length_readBuffer short])
  rw [length_readBuffer short] at returned
  exact returned

theorem parsePoint_panics (short : registers.length ≤ 125)
    (panics : reader.ParsePanics profile registers.length) :
    ∃ panic, ModbusRtuChannel.parsePoint profile registers reader = .error panic :=
  ModbusDataPointReader.parse_panics (by omega) panics

theorem parsePoint_returns (short : registers.length ≤ 125)
    (calm : ¬reader.ParsePanics profile registers.length) :
    ModbusRtuChannel.parsePoint profile registers reader =
      .ok (if reader.stop ≤ 2 * registers.length then some (reader.decoded registers) else none) :=
  ModbusDataPointReader.parse_returns (by omega) calm

theorem parseAttribute_eq (short : registers.length ≤ 125) :
    ModbusTcpChannel.parseAttribute profile registers reader =
      if 2 ^ 64 ≤ reader.dataOffset.toNat + 4 then
        match profile with
        | .dev => .error ⟨"attempt to add with overflow"⟩
        | .release => ModbusTcpChannel.parseTimeseries .release registers reader
      else if reader.PassesGuard then ModbusTcpChannel.parseTimeseries profile registers reader
      else .ok none := by
  have four : (4 : UInt64).toNat = 4 := rfl
  have offsetBound := reader.dataOffset.toNat_lt
  unfold ModbusTcpChannel.parseAttribute
  rw [length_wordsBytes, length_readBuffer short]
  split
  · rename_i overflows
    cases profile with
    | dev =>
        rw [Profile.addUsize_dev_overflows reader.dataOffset 4 (by rwa [four])]
        rfl
    | release =>
        obtain ⟨stop, added, wrapped⟩ := Profile.addUsize_release_overflows
          reader.dataOffset 4 (by rwa [four])
        have guarded : stop.toNat ≤ 2 * 200 := by
          rw [wrapped, four]
          omega
        simp only [added, ok_bind, guarded, not_true_eq_false, if_false]
        rfl
  · rename_i fits
    obtain ⟨stop, added, exact⟩ := profile.addUsize_fits reader.dataOffset 4
      (by rw [four]; omega)
    rw [four] at exact
    have sameGuard : stop.toNat ≤ 2 * 200 ↔ reader.PassesGuard := by
      rw [exact]
      exact Iff.rfl
    simp only [added, ok_bind, ite_not, sameGuard]
    rfl

theorem parseAttribute_panics (short : registers.length ≤ 125)
    (panics : reader.TcpAttributePanics profile) :
    ∃ panic, ModbusTcpChannel.parseAttribute profile registers reader = .error panic := by
  rw [parseAttribute_eq short]
  unfold ModbusDataPointReader.TcpAttributePanics at panics
  split at panics
  · rename_i overflows
    rw [if_pos overflows]
    cases profile with
    | dev => exact ⟨_, rfl⟩
    | release => exact parseTimeseries_panics short (panics.resolve_left (by decide))
  · rename_i fits
    rw [if_neg fits, if_pos panics.1]
    exact parseTimeseries_panics short panics.2

theorem parseAttribute_returns (short : registers.length ≤ 125)
    (calm : ¬reader.TcpAttributePanics profile) :
    ModbusTcpChannel.parseAttribute profile registers reader =
      .ok (if reader.PassesGuard ∧ reader.stop ≤ 400 then
        some (reader.decoded (ModbusTcpChannel.readBuffer registers)) else none) := by
  have widths := width_bounds reader
  have ends : reader.stop = reader.dataOffset.toNat + reader.dataType.width := rfl
  rw [parseAttribute_eq short]
  unfold ModbusDataPointReader.TcpAttributePanics at calm
  split at calm
  · rename_i overflows
    obtain ⟨released, calm⟩ := not_or.mp calm
    have outside : ¬reader.stop ≤ 400 := by omega
    cases profile with
    | dev => exact absurd rfl released
    | release =>
        rw [if_pos overflows, parseTimeseries_returns short calm, if_neg outside,
          if_neg fun both => outside both.2]
  · rename_i fits
    rw [if_neg fits]
    by_cases passes : reader.PassesGuard
    · have quiet : ¬reader.ParsePanics profile 200 := fun panics => calm ⟨passes, panics⟩
      rw [if_pos passes, parseTimeseries_returns short quiet]
      simp only [passes, true_and]
    · rw [if_neg passes, if_neg fun both => passes both.1]

end Parsers

/-! ### From points to cycles -/

theorem PolledGroup.words_length {polled : PolledGroup} {words : List UInt16}
    (read : polled.words = some words) :
    words.length = polled.group.elementsCount.toNat ∧ words.length ≤ 125 := by
  obtain ⟨length, bound⟩ := polled.complete words read
  exact ⟨length, by rw [length]; exact bound⟩

section Groups

variable {parse : PointParser} {groups : List PolledGroup}
  {panics : ModbusRegisterGroup → ModbusDataPointReader → Prop}

theorem groupsPanic_iff_somePoint
    (decides : ∀ polled ∈ groups, ∀ words, polled.words = some words → ∀ reader,
      (∃ panic, parse words reader = .error panic) ↔ panics polled.group reader) :
    GroupsPanic parse groups ↔ SomePoint panics groups := by
  constructor
  · intro holds
    obtain ⟨polled, member, words, read, reader, listed, panicked⟩ := holds
    exact ⟨polled, member, Option.isSome_of_eq_some read, reader, listed,
      (decides polled member words read reader).mp panicked⟩
  · intro holds
    obtain ⟨polled, member, wasRead, reader, listed, panicking⟩ := holds
    obtain ⟨words, read⟩ := Option.isSome_iff_exists.mp wasRead
    exact ⟨polled, member, words, read, reader, listed,
      (decides polled member words read reader).mpr panicking⟩

theorem onlyRegistersRead_iff (taken : ModbusRegisterGroup → ModbusDataPointReader → Prop)
    (decides : ∀ polled ∈ groups, ∀ words, polled.words = some words →
      ∀ reader ∈ polled.group.dataPoints,
        (∃ point, parse words reader = .ok (some point)) ↔ taken polled.group reader) :
    OnlyRegistersRead parse groups ↔ ¬SomePoint (fun group reader =>
      2 * group.elementsCount.toNat < reader.stop ∧ taken group reader) groups := by
  constructor
  · intro only outside
    obtain ⟨polled, member, wasRead, reader, listed, leaves, takes⟩ := outside
    obtain ⟨words, read⟩ := Option.isSome_iff_exists.mp wasRead
    obtain ⟨point, parsed⟩ := (decides polled member words read reader listed).mpr takes
    exact only polled member words read reader listed
      (by rwa [(polled.words_length read).1]) point parsed
  · intro none polled member words read reader listed leaves point parsed
    rw [(polled.words_length read).1] at leaves
    exact none ⟨polled, member, Option.isSome_of_eq_some read, reader, listed, leaves,
      (decides polled member words read reader listed).mp ⟨point, parsed⟩⟩

end Groups

theorem panics_iff {result : Except Panic (Option DataPoint)} {panics taken : Prop}
    [Decidable taken] {point : DataPoint} (bad : panics → ∃ panic, result = .error panic)
    (good : ¬panics → result = .ok (if taken then some point else none)) :
    (∃ panic, result = .error panic) ↔ panics := by
  constructor
  · intro holds
    obtain ⟨panic, failed⟩ := holds
    by_contra calm
    rw [good calm] at failed
    contradiction
  · exact bad

theorem takes_iff {result : Except Panic (Option DataPoint)} {taken : Prop} [Decidable taken]
    {point : DataPoint} (returned : result = .ok (if taken then some point else none)) :
    (∃ point, result = .ok (some point)) ↔ taken := by
  rw [returned]
  split <;> simp_all

section Cycle

variable {profile : Profile} {tcpClock rtuClock : Nat → Int} {slave : ModbusSlave}
  {attributes timeseries : List PolledGroup}

theorem tcpAttributes_panic_iff :
    GroupsPanic (ModbusTcpChannel.parseAttribute profile) attributes ↔
      SomePoint (fun _ reader => reader.TcpAttributePanics profile) attributes :=
  groupsPanic_iff_somePoint fun polled _ _ read _ =>
    have short := (polled.words_length read).2
    panics_iff (parseAttribute_panics short) (parseAttribute_returns short)

theorem tcpTimeseries_panic_iff :
    GroupsPanic (ModbusTcpChannel.parseTimeseries profile) timeseries ↔
      SomePoint (fun _ reader => reader.ParsePanics profile 200) timeseries :=
  groupsPanic_iff_somePoint fun polled _ _ read _ =>
    have short := (polled.words_length read).2
    panics_iff (parseTimeseries_panics short) (parseTimeseries_returns short)

theorem rtu_panic_iff {groups : List PolledGroup} :
    GroupsPanic (ModbusRtuChannel.parsePoint profile) groups ↔
      SomePoint (fun group reader => reader.ParsePanics profile group.elementsCount.toNat)
        groups := by
  apply groupsPanic_iff_somePoint
  intro polled _ words read reader
  obtain ⟨length, short⟩ := polled.words_length read
  rw [← length]
  exact panics_iff (parsePoint_panics short) (parsePoint_returns short)

theorem somePoint_append {kind : ModbusRegisterGroup → ModbusDataPointReader → Prop}
    {left right : List PolledGroup} :
    SomePoint kind (left ++ right) ↔ SomePoint kind left ∨ SomePoint kind right := by
  simp only [SomePoint, List.mem_append, or_and_right, exists_or]

theorem tcp_returns_iff (profile : Profile) (tcpClock : Nat → Int) (slave : ModbusSlave)
    (attributes timeseries : List PolledGroup) :
    (∃ message, ModbusTcpChannel.poll profile tcpClock slave attributes timeseries = .ok message) ↔
      ¬TcpPanics profile attributes timeseries := by
  rw [ModbusTcpChannel.poll, pollSlave_returns_iff, tcpAttributes_panic_iff,
    tcpTimeseries_panic_iff, TcpPanics, not_or]

theorem rtu_returns_iff (profile : Profile) (rtuClock : Nat → Int) (slave : ModbusSlave)
    (attributes timeseries : List PolledGroup) :
    (∃ message, ModbusRtuChannel.poll profile rtuClock slave attributes timeseries = .ok message) ↔
      ¬RtuPanics profile attributes timeseries := by
  rw [ModbusRtuChannel.poll, pollSlave_returns_iff, rtu_panic_iff, rtu_panic_iff, RtuPanics,
    somePoint_append, not_or]

theorem tcp_onlyRegistersRead_iff (calm : ¬TcpPanics profile attributes timeseries) :
    OnlyRegistersRead (ModbusTcpChannel.parseAttribute profile) attributes ∧
        OnlyRegistersRead (ModbusTcpChannel.parseTimeseries profile) timeseries ↔
      ¬FillerDecoded attributes timeseries := by
  obtain ⟨attributesCalm, timeseriesCalm⟩ := not_or.mp calm
  have attributesTaken : OnlyRegistersRead (ModbusTcpChannel.parseAttribute profile) attributes ↔
      ¬SomePoint (fun group reader => 2 * group.elementsCount.toNat < reader.stop ∧
        reader.PassesGuard ∧ reader.stop ≤ 400) attributes := by
    apply onlyRegistersRead_iff fun _ reader => reader.PassesGuard ∧ reader.stop ≤ 400
    intro polled member words read reader listed
    refine takes_iff (parseAttribute_returns (polled.words_length read).2 fun panics => ?_)
    exact attributesCalm ⟨polled, member, Option.isSome_of_eq_some read, reader, listed, panics⟩
  have timeseriesTaken : OnlyRegistersRead (ModbusTcpChannel.parseTimeseries profile) timeseries ↔
      ¬SomePoint (fun group reader => 2 * group.elementsCount.toNat < reader.stop ∧
        reader.stop ≤ 400) timeseries := by
    apply onlyRegistersRead_iff fun _ reader => reader.stop ≤ 400
    intro polled member words read reader listed
    refine takes_iff (parseTimeseries_returns (polled.words_length read).2 fun panics => ?_)
    exact timeseriesCalm ⟨polled, member, Option.isSome_of_eq_some read, reader, listed, panics⟩
  rw [attributesTaken, timeseriesTaken, FillerDecoded, not_or]
  simp only [ModbusDataPointReader.ReachesFiller, and_left_comm]

theorem rtu_onlyRegistersRead {groups : List PolledGroup}
    (calm : ¬SomePoint (fun group reader => reader.ParsePanics profile group.elementsCount.toNat)
      groups) :
    OnlyRegistersRead (ModbusRtuChannel.parsePoint profile) groups := by
  intro polled member words read reader listed leaves point parsed
  obtain ⟨length, short⟩ := polled.words_length read
  have outside : ¬reader.stop ≤ 2 * words.length := by omega
  rw [parsePoint_returns short fun panics => calm ⟨polled, member, Option.isSome_of_eq_some read,
    reader, listed, by rwa [length] at panics⟩, if_neg outside] at parsed
  cases parsed

theorem groupsAgree (tcpCalm : ¬TcpPanics profile attributes timeseries)
    (rtuCalm : ¬RtuPanics profile attributes timeseries)
    (clean : ¬FillerDecoded attributes timeseries) :
    GroupsAgree (ModbusTcpChannel.parseAttribute profile) (ModbusRtuChannel.parsePoint profile)
        attributes ∧
      GroupsAgree (ModbusTcpChannel.parseTimeseries profile) (ModbusRtuChannel.parsePoint profile)
        timeseries := by
  obtain ⟨attributesCalm, timeseriesCalm⟩ := not_or.mp tcpCalm
  obtain ⟨rtuAttributes, rtuTimeseries⟩ := not_or.mp (somePoint_append.not.mp rtuCalm)
  obtain ⟨cleanAttributes, cleanTimeseries⟩ := not_or.mp clean
  constructor
  · intro polled member words read reader listed
    obtain ⟨length, short⟩ := polled.words_length read
    have wasRead := Option.isSome_of_eq_some read
    rw [parseAttribute_returns short fun panics =>
        attributesCalm ⟨polled, member, wasRead, reader, listed, panics⟩,
      parsePoint_returns short fun panics =>
        rtuAttributes ⟨polled, member, wasRead, reader, listed, by rwa [length] at panics⟩]
    by_cases inside : reader.stop ≤ 2 * words.length
    · have widths := width_bounds reader
      have ends : reader.stop = reader.dataOffset.toNat + reader.dataType.width := rfl
      have passes : reader.PassesGuard ∧ reader.stop ≤ 400 := by
        unfold ModbusDataPointReader.PassesGuard
        omega
      rw [if_pos inside, if_pos passes, decoded_readBuffer inside]
    · rw [if_neg inside, if_neg]
      intro holds
      obtain ⟨passes, buffered⟩ := holds
      exact cleanAttributes ⟨polled, member, wasRead, reader, listed, passes, by omega, buffered⟩
  · intro polled member words read reader listed
    obtain ⟨length, short⟩ := polled.words_length read
    have wasRead := Option.isSome_of_eq_some read
    rw [parseTimeseries_returns short fun panics =>
        timeseriesCalm ⟨polled, member, wasRead, reader, listed, panics⟩,
      parsePoint_returns short fun panics =>
        rtuTimeseries ⟨polled, member, wasRead, reader, listed, by rwa [length] at panics⟩]
    by_cases inside : reader.stop ≤ 2 * words.length
    · have buffered : reader.stop ≤ 400 := by omega
      rw [if_pos inside, if_pos buffered, decoded_readBuffer inside]
    · rw [if_neg inside, if_neg]
      intro buffered
      exact cleanTimeseries ⟨polled, member, wasRead, reader, listed, by omega, buffered⟩

theorem sameData_of_groupsAgree {parse parse' other other' : PointParser}
    (attributesAgree : GroupsAgree parse other attributes)
    (timeseriesAgree : GroupsAgree parse' other' timeseries) :
    SameData (pollSlave parse parse' tcpClock slave attributes timeseries)
      (pollSlave other other' rtuClock slave attributes timeseries) := by
  have sameAttributes := foldlM_attributesGroup_congr ∅ attributesAgree
  have sameTimeseries := foldlM_timeseriesGroup_congr tcpClock rtuClock timeseriesAgree
    (rfl : ([] : List OneTelemetry).map OneTelemetry.values = [])
  unfold pollSlave
  rw [sameAttributes]
  cases attributes.foldlM (attributesGroup other) ∅ with
  | error panic => trivial
  | ok values =>
      cases left : timeseries.foldlM (timeseriesGroup parse' tcpClock) [] <;>
        cases right : timeseries.foldlM (timeseriesGroup other' rtuClock) [] <;>
        simp only [left, right, Except.map, reduceCtorEq, Except.ok.injEq] at sameTimeseries
      · trivial
      · exact ⟨rfl, rfl, sameTimeseries⟩

theorem sameData_returns {left right : Except Panic AggregatorAction} (same : SameData left right) :
    (∃ message, left = .ok message) ↔ ∃ message, right = .ok message := by
  cases left <;> cases right <;> simp_all [SameData]

/-- The channels agree exactly when both panic, or neither does and no point
is decoded from the filler of the TCP buffer. -/
theorem channels_agree_iff :
    ChannelsAgree profile tcpClock rtuClock slave attributes timeseries ↔
      TcpPanics profile attributes timeseries ∧ RtuPanics profile attributes timeseries ∨
        ¬TcpPanics profile attributes timeseries ∧ ¬RtuPanics profile attributes timeseries ∧
          ¬FillerDecoded attributes timeseries := by
  have tcpReturns := tcp_returns_iff profile tcpClock slave attributes timeseries
  have rtuReturns := rtu_returns_iff profile rtuClock slave attributes timeseries
  constructor
  · intro holds
    obtain ⟨same, tcpOnly, _⟩ := holds
    have together := sameData_returns same
    rw [tcpReturns, rtuReturns] at together
    by_cases tcpPanics : TcpPanics profile attributes timeseries
    · exact .inl ⟨tcpPanics, not_not.mp fun calm => together.mpr calm tcpPanics⟩
    · obtain ⟨message, sent⟩ := tcpReturns.mpr tcpPanics
      exact .inr ⟨tcpPanics, together.mp tcpPanics,
        (tcp_onlyRegistersRead_iff tcpPanics).mp (tcpOnly message sent)⟩
  · intro holds
    rcases holds with ⟨tcpPanics, rtuPanics⟩ | ⟨tcpCalm, rtuCalm, clean⟩
    · have tcpSilent := fun message sent => tcpReturns.mp ⟨message, sent⟩ tcpPanics
      have rtuSilent := fun message sent => rtuReturns.mp ⟨message, sent⟩ rtuPanics
      refine ⟨?_, fun message sent => (tcpSilent message sent).elim,
        fun message sent => (rtuSilent message sent).elim⟩
      cases tcp : ModbusTcpChannel.poll profile tcpClock slave attributes timeseries with
      | ok message => exact (tcpSilent message tcp).elim
      | error panic =>
          cases rtu : ModbusRtuChannel.poll profile rtuClock slave attributes timeseries with
          | ok message => exact (rtuSilent message rtu).elim
          | error panic => trivial
    · obtain ⟨attributesAgree, timeseriesAgree⟩ := groupsAgree tcpCalm rtuCalm clean
      obtain ⟨rtuAttributes, rtuTimeseries⟩ := not_or.mp (somePoint_append.not.mp rtuCalm)
      exact ⟨sameData_of_groupsAgree attributesAgree timeseriesAgree,
        fun _ _ => (tcp_onlyRegistersRead_iff tcpCalm).mpr clean,
        fun _ _ => ⟨rtu_onlyRegistersRead rtuAttributes, rtu_onlyRegistersRead rtuTimeseries⟩⟩

end Cycle

def Sample.pastRegisters : PolledGroup where
  group := ⟨0, 3, [⟨0, 1, .uint16, "power"⟩, ⟨6, 1, .uint16, "energy"⟩]⟩
  words := some [7, 8, 9]
  complete := by
    intro registers read
    cases read
    exact ⟨rfl, by decide⟩

/-- Three registers are read and a fourth one is published: the TCP channel
decodes the `uint16` at offset 6 from its filler, the RTU channel leaves it out. -/
theorem channels_disagree_past_the_registers :
    ¬ChannelsAgree .dev (fun _ => 0) (fun _ => 0) ⟨"meter", none, 1, "meter.yml"⟩ []
      [Sample.pastRegisters] := by
  intro agree
  have tcp : ModbusTcpChannel.poll .dev (fun _ => 0) ⟨"meter", none, 1, "meter.yml"⟩ []
      [Sample.pastRegisters] =
        .ok (.sendBoth ("meter", ∅)
          ("meter", [⟨0, insertPoints ∅ [⟨"power", "7", none⟩, ⟨"energy", "0", none⟩]⟩])) := by
    decide +kernel
  have rtu : ModbusRtuChannel.poll .dev (fun _ => 0) ⟨"meter", none, 1, "meter.yml"⟩ []
      [Sample.pastRegisters] =
        .ok (.sendBoth ("meter", ∅)
          ("meter", [⟨0, insertPoints ∅ [⟨"power", "7", none⟩]⟩])) := by
    decide +kernel
  rw [ChannelsAgree, tcp, rtu] at agree
  obtain ⟨⟨_, _, values⟩, _⟩ := agree
  revert values
  decide

end StsGateway.Modbus
