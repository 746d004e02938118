import StsGateway.Startup.Loading

namespace StsGateway

open Data Modbus

/-! Which definitions `main` starts a channel for, and with which register maps. -/

namespace Startup

variable (yaml : SerdeYaml) (startup : Startup)

/-- The channel file is read and parsed, and so is the register map of every slave. -/
def complete : Bool :=
  match startup.config yaml with
  | none => false
  | some modbusConfig => (startup.slaveReads modbusConfig.slaves).all fun read =>
      (read.2.bind yaml.modbusRegisterMap).isSome

/-- The channel of this definition, with exactly the configured slaves, each bound to
the map that was parsed from its own file. -/
structure Binds (channel : StartedChannel) : Prop where
  config : startup.config yaml = some channel.config.value
  slaves : ∀ slave, slave ∈ channel.registerMaps ↔ slave ∈ channel.config.value.slaves
  own : ∀ slave bound, channel.registerMaps.lookup slave = some bound →
    ∃ content, (slave, some content) ∈ startup.slaveReads channel.config.value.slaves ∧
      yaml.modbusRegisterMap content = some bound.value

/-- Where the channel file is good, some register map that was read is broken, or all
of them were read; and a thread can have the channel's name. -/
def Decided : Prop :=
  ∀ modbusConfig, startup.config yaml = some modbusConfig →
    (∃ read ∈ startup.slaveReads modbusConfig.slaves, Broken yaml read) ∨
      (∀ read ∈ startup.slaveReads modbusConfig.slaves, read.2.isSome = true) ∧
        '\x00' ∉ modbusConfig.name.toList

end Startup

def started (yaml : SerdeYaml) (sha256 : String → String) (state : MainState)
    (startups : List Startup) : Except Panic (List StartedChannel) := do
  let loaded ← loadChannels yaml sha256 ⟨state, []⟩ startups
  .ok loaded.channelHandles

/-- The channels are those of the complete definitions, and any other definition
could as well be missing. -/
structure StartsAllOrNothing (yaml : SerdeYaml) (sha256 : String → String) (state : MainState)
    (startups : List Startup) : Prop where
  exact : ∃ channels, started yaml sha256 state startups = .ok channels ∧
    List.Forall₂ (Startup.Binds yaml) (startups.filter (Startup.complete yaml)) channels
  independent : ∀ earlier startup later, startups = earlier ++ startup :: later →
    startup.complete yaml = false →
      started yaml sha256 state startups = started yaml sha256 state (earlier ++ later)

section Start

variable {yaml : SerdeYaml} {sha256 : String → String} {state : MainState} {startup : Startup}
  {startups : List Startup} {modbusConfig : ChannelConfig} {channel : StartedChannel}

theorem mem_slaveReads (startup : Startup) {slaves : List ModbusSlave} {slave : ModbusSlave} :
    slave ∈ slaves ↔ ∃ file, (slave, file) ∈ startup.slaveReads slaves := by
  constructor
  · intro member
    obtain ⟨index, inside, rfl⟩ := List.getElem_of_mem member
    exact ⟨startup.registerMaps index, List.mem_map.mpr
      ⟨(slaves[index], index), List.mem_zipIdx_iff_getElem?.mpr (List.getElem?_eq_getElem inside), rfl⟩⟩
  · rintro ⟨file, member⟩
    obtain ⟨entry, listed, same⟩ := List.mem_map.mp member
    cases same
    exact List.mem_of_getElem? (List.mem_zipIdx_iff_getElem?.mp listed)

theorem Startup.complete_iff : startup.complete yaml = true ↔
    ∃ modbusConfig, startup.config yaml = some modbusConfig ∧
      ∀ read ∈ startup.slaveReads modbusConfig.slaves,
        read.2.isSome = true ∧ ¬ Broken yaml read := by
  have parses (read : ModbusSlave × Option String) :
      (read.2.bind yaml.modbusRegisterMap).isSome = true ↔ read.2.isSome = true ∧ ¬ Broken yaml read := by
    obtain ⟨slave, file⟩ := read
    cases file with
    | none => simp
    | some content => simp [Broken, Option.isSome_iff_ne_none]
  unfold complete
  cases startup.config yaml with
  | none => simp
  | some modbusConfig => simp only [List.all_eq_true, parses, Option.some.injEq, exists_eq_left']

theorem Startup.binds_of_complete (complete : startup.complete yaml = true)
    (built : startup.channel yaml = some channel) : startup.Binds yaml channel := by
  obtain ⟨_, _, parsed, _, bound⟩ := makes_of_channel built
  obtain ⟨modbusConfig, same, reads⟩ := complete_iff.mp complete
  cases parsed.symm.trans same
  have found {slave : ModbusSlave} {kept : Sourced ModbusRegisterMap}
      (found : channel.registerMaps.lookup slave = some kept) :
      (slave, some kept.content) ∈ startup.slaveReads channel.config.value.slaves := by
    have last := bound.last slave
    rw [found] at last
    obtain ⟨⟨_, _⟩, listed, rfl, rfl⟩ := mem_of_lastWrite last.symm
    exact mem_readable.mp listed
  refine ⟨parsed, ?_, ?_⟩
  · intro slave
    rw [Finmap.mem_iff, mem_slaveReads startup]
    constructor
    · rintro ⟨kept, present⟩
      exact ⟨_, found present⟩
    · rintro ⟨file, listed⟩
      obtain ⟨content, rfl⟩ := Option.isSome_iff_exists.mp (reads _ listed).1
      obtain ⟨written, last⟩ := lastWrite_of_mem Prod.fst Prod.snd
        (mem_readable.mpr listed)
      rw [← bound.last slave] at last
      obtain ⟨kept, present, _⟩ := Option.map_eq_some_iff.mp last
      exact ⟨kept, present⟩
  · intro slave kept present
    exact ⟨kept.content, found present, (bound.parsed slave kept present).2⟩

theorem Startup.exists_channel (complete : startup.complete yaml = true) :
    ∃ channel, startup.channel yaml = some channel := by
  obtain ⟨modbusConfig, parsed, reads⟩ := complete_iff.mp complete
  apply channel_of_sound parsed
  rintro ⟨read, listed, broken⟩
  exact (reads read listed).2 broken

theorem Startup.Decided.complete (decided : startup.Decided yaml)
    (built : startup.channel yaml = some channel) :
    startup.complete yaml = true ∧ channel.Nameable := by
  have makes := makes_of_channel built
  obtain ⟨reads, nameable⟩ := (decided _ makes.parsed).resolve_left makes.sound
  refine ⟨complete_iff.mpr ⟨_, makes.parsed, ?_⟩, nameable⟩
  intro read listed
  exact ⟨reads read listed, fun broken => makes.sound ⟨read, listed, broken⟩⟩

theorem started_eq_ok {channels : List StartedChannel} :
    started yaml sha256 state startups = .ok channels ↔
      (∀ startup ∈ startups, ∀ channel ∈ startup.channel yaml, channel.Nameable) ∧
        channels = startups.filterMap (Startup.channel yaml) := by
  simp only [started, bind_eq_ok, loadChannels_eq_ok]
  constructor
  · rintro ⟨_, ⟨nameable, rfl⟩, same⟩
    cases same
    exact ⟨nameable, rfl⟩
  · rintro ⟨nameable, rfl⟩
    exact ⟨_, ⟨nameable, rfl⟩, rfl⟩

theorem forall₂_binds (decided : ∀ startup ∈ startups, startup.Decided yaml) :
    List.Forall₂ (Startup.Binds yaml) (startups.filter (Startup.complete yaml))
      (startups.filterMap (Startup.channel yaml)) := by
  induction startups with
  | nil => exact .nil
  | cons startup rest ih =>
      obtain ⟨here, later⟩ := List.forall_mem_cons.mp decided
      rw [List.filterMap_cons]
      cases built : startup.channel yaml with
      | none =>
          have incomplete : ¬ startup.complete yaml = true := by
            intro complete
            obtain ⟨channel, present⟩ := Startup.exists_channel complete
            rw [built] at present
            contradiction
          rw [List.filter_cons_of_neg incomplete]
          exact ih later
      | some channel =>
          have complete := (here.complete built).1
          rw [List.filter_cons_of_pos complete]
          exact .cons (Startup.binds_of_complete complete built) (ih later)

end Start

theorem starts_all_or_nothing_iff (yaml : SerdeYaml) (sha256 : String → String) (state : MainState)
    (startups : List Startup) :
    StartsAllOrNothing yaml sha256 state startups ↔ ∀ startup ∈ startups, startup.Decided yaml := by
  constructor
  · intro holds startup member modbusConfig parsed
    obtain ⟨channels, ran, _⟩ := holds.exact
    obtain ⟨nameable, _⟩ := started_eq_ok.mp ran
    by_cases broken : ∃ read ∈ startup.slaveReads modbusConfig.slaves, Broken yaml read
    · exact .inl broken
    · obtain ⟨channel, built⟩ := Startup.channel_of_sound parsed broken
      cases parsed.symm.trans (Startup.makes_of_channel built).parsed
      refine .inr ⟨?_, nameable startup member channel built⟩
      -- a channel that started without being complete would be missed
      have complete : startup.complete yaml = true := by
        rw [← Bool.not_eq_false]
        intro incomplete
        obtain ⟨earlier, later, rfl⟩ := List.append_of_mem member
        have same := holds.independent earlier startup later rfl incomplete
        rw [ran] at same
        have shorter := (started_eq_ok.mp same.symm).2
        have longer := (started_eq_ok.mp ran).2
        have lengths := congrArg List.length (longer.symm.trans shorter)
        simp [built] at lengths
      obtain ⟨modbusConfig, same, reads⟩ := Startup.complete_iff.mp complete
      cases parsed.symm.trans same
      exact fun read listed => (reads read listed).1
  · intro decided
    have nameable : ∀ startup ∈ startups, ∀ channel ∈ startup.channel yaml, channel.Nameable :=
      fun startup member channel built => ((decided startup member).complete built).2
    refine ⟨⟨_, started_eq_ok.mpr ⟨nameable, rfl⟩, forall₂_binds decided⟩, ?_⟩
    rintro earlier startup later rfl incomplete
    have rejected : startup.channel yaml = none := by
      rw [← Option.not_isSome_iff_eq_none, Option.isSome_iff_exists]
      rintro ⟨channel, built⟩
      rw [((decided startup (by simp)).complete built).1] at incomplete
      contradiction
    rw [started_eq_ok.mpr ⟨nameable, rfl⟩, eq_comm, started_eq_ok]
    refine ⟨?_, by simp [rejected]⟩
    intro other member
    exact nameable other (by
      rcases List.mem_append.mp member with member | member
      · exact List.mem_append_left _ member
      · exact List.mem_append_right _ (List.mem_cons_of_mem _ member))

def twoMeters : String :=
  "name: Modbus Channel 1\n" ++
  "host: 127.0.0.1\n" ++
  "port: 5020\n" ++
  "slaves:\n" ++
  "  - device_name: Meter1\n" ++
  "    modbus_id: 1\n" ++
  "    register_map: meter1.yml\n" ++
  "  - device_name: Meter2\n" ++
  "    modbus_id: 2\n" ++
  "    register_map: meter2.yml\n"

def emptyMap : String :=
  "attributes: []\n" ++
  "timeseries: []\n"

def twoMetersConfig : ModbusClientTcpConfig where
  name := "Modbus Channel 1"
  host := "127.0.0.1"
  port := 5020
  slaves := [⟨"Meter1", none, 1, "meter1.yml"⟩, ⟨"Meter2", none, 2, "meter2.yml"⟩]

/-- What `serde_yaml` makes of these two files. -/
def twoMetersYaml : SerdeYaml where
  mainConfig _ := none
  modbusClientTcpConfig text := if text = twoMeters then some twoMetersConfig else none
  modbusClientRtuConfig _ := none
  modbusRegisterMap text := if text = emptyMap then some ⟨[], []⟩ else none

def twoMetersDigest (content : String) : String :=
  if content = twoMeters then "1e949660907d0a6d241944d5be9640d4db73fb131d336b06da6bb45f9af4d51a"
  else "fb49f833a4bd9f36d9c2a678f47cd706a9d0ee729c6354740e0355554dd28ce3"

/-- The register map of the second meter cannot be read. -/
def missingMap : Startup where
  definition := ⟨.modbusTcp, "modbus_tcp.yml"⟩
  file := some twoMeters
  registerMaps
    | 0 => some emptyMap
    | _ => none

/-- The channel starts without its second meter. -/
theorem missing_map_is_left_out :
    ¬ StartsAllOrNothing twoMetersYaml twoMetersDigest .new [missingMap] := by
  intro holds
  obtain ⟨channels, ran, matched⟩ := holds.exact
  have nothing : [missingMap].filter (Startup.complete twoMetersYaml) = [] := by decide +kernel
  rw [nothing, List.forall₂_nil_left_iff] at matched
  subst matched
  have running : missingMap.channel twoMetersYaml ≠ none := by decide +kernel
  have handles := (started_eq_ok.mp ran).2
  rw [eq_comm, List.filterMap_eq_nil_iff] at handles
  exact running (handles missingMap List.mem_cons_self)

end StsGateway
