import StsGateway.Definitions
import StsGateway.Channels.Modbus.Parse
import StsGateway.Data.LastWrite

namespace StsGateway

open Data Modbus

/-! `main.rs`: reading the configuration and starting the channels.

Parsing and hashing are not part of the repository, so `serde_yaml` and the digest
are parameters. What a read of a file returns is part of the input, read by read:
files may change or vanish in between.
-/

inductive ChannelType where
  | modbusTcp
  | modbusRtu
deriving DecidableEq

structure ChannelDefinition where
  type : ChannelType
  file : String
deriving DecidableEq

/-- `MainConfig` with the fields that only `main` looks at. -/
structure RootConfig extends MainConfig where
  logConfig : String
  channels : List ChannelDefinition

namespace Modbus

structure ModbusClientTcpConfig where
  name : String
  host : String
  port : UInt16
  slaves : List ModbusSlave
deriving DecidableEq

structure ModbusClientRtuConfig where
  name : String
  port : String
  baudrate : UInt32
  parity : Char
  dataBits : UInt8
  stopBits : UInt8
  slaves : List ModbusSlave
deriving DecidableEq

end Modbus

inductive ChannelConfig where
  | modbusTcp (config : ModbusClientTcpConfig)
  | modbusRtu (config : ModbusClientRtuConfig)
deriving DecidableEq

namespace ChannelConfig

def name : ChannelConfig → String
  | .modbusTcp config => config.name
  | .modbusRtu config => config.name

def slaves : ChannelConfig → List ModbusSlave
  | .modbusTcp config => config.slaves
  | .modbusRtu config => config.slaves

end ChannelConfig

/-- `serde_yaml::from_str` at the four types that `main` reads. -/
structure SerdeYaml where
  mainConfig : String → Option RootConfig
  modbusClientTcpConfig : String → Option ModbusClientTcpConfig
  modbusClientRtuConfig : String → Option ModbusClientRtuConfig
  modbusRegisterMap : String → Option ModbusRegisterMap

/-! ### `MainState` -/

/-- `utilities::open_and_read`, with what the file system returned. -/
def openAndRead (sha256 : String → String) (file : Option String) : Option (String × String) :=
  file.map fun data => (data, sha256 data)

structure MainState where
  configuredHashes : HashMap String String
deriving DecidableEq

namespace MainState

def new : MainState := ⟨∅⟩

def readFile (sha256 : String → String) (state : MainState) (path : String) (file : Option String) :
    Option String × MainState :=
  match openAndRead sha256 file with
  | none => (none, state)
  | some (data, hash) => (some data, ⟨state.configuredHashes.insert path hash⟩)

end MainState

/-! ### Channels -/

/-- A value with the file and the content it was parsed from. The program keeps
only the value. -/
structure Sourced (α : Type) where
  path : String
  content : String
  value : α
deriving DecidableEq

abbrev RegisterMaps := HashMap ModbusSlave (Sourced ModbusRegisterMap)

structure StartedChannel where
  config : Sourced ChannelConfig
  registerMaps : RegisterMaps
deriving DecidableEq

/-- The thread is named after the channel. -/
def StartedChannel.run (channel : StartedChannel) : Except Panic StartedChannel :=
  if '\x00' ∈ channel.config.value.name.toList then
    .error ⟨"thread name may not contain interior null bytes"⟩
  else .ok channel

/-- A definition with what the reads it causes return: that of its channel file
and, for the slave at each position, that of the slave's register map. -/
structure Startup where
  definition : ChannelDefinition
  file : Option String
  registerMaps : Nat → Option String

def Startup.slaveReads (startup : Startup) (slaves : List ModbusSlave) :
    List (ModbusSlave × Option String) :=
  slaves.zipIdx.map fun (slave, index) => (slave, startup.registerMaps index)

/-- What `main` has made of the definitions so far. -/
structure Loading where
  state : MainState
  channelHandles : List StartedChannel
deriving DecidableEq

section Load

variable (yaml : SerdeYaml) (sha256 : String → String)

/-- The loop over the slaves of one definition; `none` is `skip_slave`. -/
def loadRegisterMaps : List (ModbusSlave × Option String) → RegisterMaps → MainState →
    Option RegisterMaps × MainState
  | [], registerMaps, state => (some registerMaps, state)
  | (slave, file) :: rest, registerMaps, state =>
      match state.readFile sha256 slave.registerMap file with
      -- an error of the read is only logged
      | (none, state) => loadRegisterMaps rest registerMaps state
      | (some registerMapRaw, state) =>
          match yaml.modbusRegisterMap registerMapRaw with
          | none => (none, state)
          | some registerMap => loadRegisterMaps rest
              (registerMaps.insert slave ⟨slave.registerMap, registerMapRaw, registerMap⟩) state

/-- What both branches of the match on the channel's type do with their configuration. -/
def loadModbus (startup : Startup) (raw : String) (modbusConfig : ChannelConfig) (loading : Loading) :
    Except Panic Loading :=
  match loadRegisterMaps yaml sha256 (startup.slaveReads modbusConfig.slaves) ∅ loading.state with
  | (none, state) => .ok { loading with state }
  | (some registerMaps, state) => do
      let channel : StartedChannel := ⟨⟨startup.definition.file, raw, modbusConfig⟩, registerMaps⟩
      let handle ← channel.run
      .ok ⟨state, loading.channelHandles ++ [handle]⟩

def loadModbusTcp (startup : Startup) (raw : String) (loading : Loading) : Except Panic Loading :=
  match yaml.modbusClientTcpConfig raw with
  | none => .ok loading
  | some modbusConfig => loadModbus yaml sha256 startup raw (.modbusTcp modbusConfig) loading

def loadModbusRtu (startup : Startup) (raw : String) (loading : Loading) : Except Panic Loading :=
  match yaml.modbusClientRtuConfig raw with
  | none => .ok loading
  | some modbusConfig => loadModbus yaml sha256 startup raw (.modbusRtu modbusConfig) loading

def loadChannel (loading : Loading) (startup : Startup) : Except Panic Loading :=
  match loading.state.readFile sha256 startup.definition.file startup.file with
  | (none, state) => .ok { loading with state }
  | (some raw, state) =>
      match startup.definition.type with
      | .modbusTcp => loadModbusTcp yaml sha256 startup raw { loading with state }
      | .modbusRtu => loadModbusRtu yaml sha256 startup raw { loading with state }

def loadChannels (loading : Loading) (startups : List Startup) : Except Panic Loading :=
  startups.foldlM (loadChannel yaml sha256) loading

end Load

/-! ### What loading does -/

/-- The hashes once these files have been read, in this order. -/
def MainState.record (sha256 : String → String) (state : MainState) (reads : List (String × String)) :
    MainState :=
  ⟨insertAll Prod.fst (fun read => sha256 read.2) state.configuredHashes reads⟩

theorem MainState.record_append (sha256 : String → String) (state : MainState)
    (earlier later : List (String × String)) :
    state.record sha256 (earlier ++ later) = (state.record sha256 earlier).record sha256 later := by
  rw [record, insertAll, List.foldl_append]
  rfl

@[simp] theorem MainState.readFile_some (sha256 : String → String) (state : MainState)
    (path data : String) :
    state.readFile sha256 path (some data) = (some data, state.record sha256 [(path, data)]) := rfl

/-- A register map that was read and cannot be parsed. -/
def Broken (yaml : SerdeYaml) (read : ModbusSlave × Option String) : Prop :=
  ∃ content, read.2 = some content ∧ yaml.modbusRegisterMap content = none

def readable (reads : List (ModbusSlave × Option String)) : List (ModbusSlave × String) :=
  reads.filterMap fun (slave, file) => file.map fun content => (slave, content)

def bindSlave (yaml : SerdeYaml) (registerMaps : RegisterMaps) :
    ModbusSlave × Option String → Option RegisterMaps
  | (_, none) => some registerMaps
  | (slave, some content) => (yaml.modbusRegisterMap content).map fun registerMap =>
      registerMaps.insert slave ⟨slave.registerMap, content, registerMap⟩

/-- The loop over the slaves reads no further than the first broken map. -/
def readsOfSlaves (yaml : SerdeYaml) : List (ModbusSlave × Option String) → List (String × String)
  | [] => []
  | (_, none) :: rest => readsOfSlaves yaml rest
  | (slave, some content) :: rest => (slave.registerMap, content) ::
      if (yaml.modbusRegisterMap content).isSome then readsOfSlaves yaml rest else []

def SerdeYaml.channelConfig (yaml : SerdeYaml) (raw : String) : ChannelType → Option ChannelConfig
  | .modbusTcp => (yaml.modbusClientTcpConfig raw).map .modbusTcp
  | .modbusRtu => (yaml.modbusClientRtuConfig raw).map .modbusRtu

namespace Startup

variable (yaml : SerdeYaml) (startup : Startup)

def config : Option ChannelConfig :=
  startup.file.bind fun raw => yaml.channelConfig raw startup.definition.type

def channelOf (raw : String) (modbusConfig : ChannelConfig) : Option StartedChannel :=
  ((startup.slaveReads modbusConfig.slaves).foldlM (bindSlave yaml) ∅).map fun registerMaps =>
    ⟨⟨startup.definition.file, raw, modbusConfig⟩, registerMaps⟩

/-- The channel the definition comes to, if any. -/
def channel : Option StartedChannel :=
  startup.file.bind fun raw =>
    (yaml.channelConfig raw startup.definition.type).bind (startup.channelOf yaml raw)

/-- The files read for the definition, in order. -/
def reads : List (String × String) :=
  match startup.file with
  | none => []
  | some raw => (startup.definition.file, raw) ::
      match yaml.channelConfig raw startup.definition.type with
      | none => []
      | some modbusConfig => readsOfSlaves yaml (startup.slaveReads modbusConfig.slaves)

end Startup

/-- Where a definition leaves `main`: its files have been read, and its channel runs. -/
def Loading.settle (sha256 : String → String) (loading : Loading) (reads : List (String × String)) :
    Option StartedChannel → Except Panic Loading
  | none => .ok { loading with state := loading.state.record sha256 reads }
  | some channel => do
      let handle ← channel.run
      .ok ⟨loading.state.record sha256 reads, loading.channelHandles ++ [handle]⟩

def StartedChannel.Nameable (channel : StartedChannel) : Prop :=
  '\x00' ∉ channel.config.value.name.toList

instance (channel : StartedChannel) : Decidable channel.Nameable := inferInstanceAs (Decidable (¬_))

section Load

variable {yaml : SerdeYaml} {sha256 : String → String} {loading loaded : Loading}

theorem StartedChannel.run_eq_ok {channel handle : StartedChannel} :
    channel.run = .ok handle ↔ channel.Nameable ∧ handle = channel := by
  unfold run Nameable
  split
  · rename_i named
    simp [named]
  · rename_i named
    simp [named, eq_comm]

theorem Loading.settle_cons (read : String × String) (reads : List (String × String))
    (channel : Option StartedChannel) :
    Loading.settle sha256 { loading with state := loading.state.record sha256 [read] } reads channel =
      loading.settle sha256 (read :: reads) channel := by
  cases channel with
  | none => rfl
  | some started => rfl

theorem loadRegisterMaps_eq (yaml : SerdeYaml) (sha256 : String → String)
    (reads : List (ModbusSlave × Option String)) (registerMaps : RegisterMaps) (state : MainState) :
    loadRegisterMaps yaml sha256 reads registerMaps state =
      (reads.foldlM (bindSlave yaml) registerMaps, state.record sha256 (readsOfSlaves yaml reads)) := by
  induction reads generalizing registerMaps state with
  | nil => rfl
  | cons read rest ih =>
      obtain ⟨slave, file⟩ := read
      cases file with
      | none => exact ih registerMaps state
      | some content =>
          simp only [loadRegisterMaps, MainState.readFile_some, List.foldlM_cons, bindSlave,
            readsOfSlaves]
          cases yaml.modbusRegisterMap content with
          | none => rfl
          | some registerMap => exact ih _ _

theorem loadModbus_eq (startup : Startup) (raw : String) (modbusConfig : ChannelConfig) :
    loadModbus yaml sha256 startup raw modbusConfig loading =
      loading.settle sha256 (readsOfSlaves yaml (startup.slaveReads modbusConfig.slaves))
        (startup.channelOf yaml raw modbusConfig) := by
  rw [loadModbus, loadRegisterMaps_eq, Startup.channelOf]
  cases (startup.slaveReads modbusConfig.slaves).foldlM (bindSlave yaml) ∅ with
  | none => rfl
  | some registerMaps => rfl

/-- The branches for the two types differ only in the parser. -/
theorem loadChannel_eq (startup : Startup) :
    loadChannel yaml sha256 loading startup =
      loading.settle sha256 (startup.reads yaml) (startup.channel yaml) := by
  rw [loadChannel, Startup.channel, Startup.reads]
  cases startup.file with
  | none => rfl
  | some raw =>
      simp only [MainState.readFile_some, Option.bind_some]
      cases startup.definition.type with
      | modbusTcp =>
          dsimp only [loadModbusTcp, SerdeYaml.channelConfig]
          cases yaml.modbusClientTcpConfig raw with
          | none => rfl
          | some modbusConfig =>
              simp only [Option.map_some, Option.bind_some, loadModbus_eq, Loading.settle_cons]
      | modbusRtu =>
          dsimp only [loadModbusRtu, SerdeYaml.channelConfig]
          cases yaml.modbusClientRtuConfig raw with
          | none => rfl
          | some modbusConfig =>
              simp only [Option.map_some, Option.bind_some, loadModbus_eq, Loading.settle_cons]

theorem Loading.settle_eq_ok {reads : List (String × String)} {channel : Option StartedChannel} :
    loading.settle sha256 reads channel = .ok loaded ↔
      (∀ started ∈ channel, started.Nameable) ∧
        loaded = ⟨loading.state.record sha256 reads, loading.channelHandles ++ channel.toList⟩ := by
  cases channel with
  | none => simp [settle, eq_comm]
  | some started =>
      simp only [settle, bind_eq_ok, StartedChannel.run_eq_ok]
      constructor
      · rintro ⟨_, ⟨nameable, rfl⟩, same⟩
        cases same
        refine ⟨?_, rfl⟩
        intro other same
        cases same
        exact nameable
      · rintro ⟨nameable, rfl⟩
        exact ⟨started, ⟨nameable started rfl, rfl⟩, rfl⟩

/-- The whole loop. -/
theorem loadChannels_eq_ok {startups : List Startup} :
    loadChannels yaml sha256 loading startups = .ok loaded ↔
      (∀ startup ∈ startups, ∀ started ∈ startup.channel yaml, started.Nameable) ∧
        loaded = ⟨loading.state.record sha256 (startups.flatMap (Startup.reads yaml)),
          loading.channelHandles ++ startups.filterMap (Startup.channel yaml)⟩ := by
  induction startups generalizing loading with
  | nil =>
      change Except.ok loading = Except.ok loaded ↔ _
      simp [MainState.record, insertAll, eq_comm]
  | cons startup rest ih =>
      have filtered : (startup :: rest).filterMap (Startup.channel yaml) =
          (startup.channel yaml).toList ++ rest.filterMap (Startup.channel yaml) := by
        rw [List.filterMap_cons]
        cases startup.channel yaml <;> rfl
      rw [loadChannels, List.foldlM_cons, bind_eq_ok, filtered, List.flatMap_cons,
        MainState.record_append, List.forall_mem_cons]
      constructor
      · rintro ⟨settled, first, continued⟩
        rw [loadChannel_eq, Loading.settle_eq_ok] at first
        obtain ⟨nameable, rfl⟩ := first
        obtain ⟨others, rfl⟩ := ih.mp continued
        exact ⟨⟨nameable, others⟩, by rw [List.append_assoc]⟩
      · rintro ⟨⟨nameable, others⟩, rfl⟩
        refine ⟨_, by rw [loadChannel_eq, Loading.settle_eq_ok]; exact ⟨nameable, rfl⟩, ?_⟩
        exact ih.mpr ⟨others, by rw [List.append_assoc]⟩

end Load

/-! ### The register maps of a channel -/

/-- Each slave has the map that was parsed from the last content its own reads returned. -/
structure Bound (yaml : SerdeYaml) (reads : List (ModbusSlave × Option String))
    (registerMaps : RegisterMaps) : Prop where
  last : ∀ slave, (registerMaps.lookup slave).map Sourced.content =
    lastWrite Prod.fst Prod.snd (readable reads) slave
  parsed : ∀ slave bound, registerMaps.lookup slave = some bound →
    bound.path = slave.registerMap ∧ yaml.modbusRegisterMap bound.content = some bound.value

section Bind

variable {yaml : SerdeYaml} {reads earlier later : List (ModbusSlave × Option String)}
  {registerMaps after : RegisterMaps}

theorem bound_nil : Bound yaml [] ∅ where
  last slave := by rw [Finmap.lookup_empty]; rfl
  parsed slave bound found := by rw [Finmap.lookup_empty] at found; contradiction

theorem Bound.step {read : ModbusSlave × Option String} (holds : Bound yaml earlier registerMaps)
    (stepped : bindSlave yaml registerMaps read = some after) :
    Bound yaml (earlier ++ [read]) after := by
  obtain ⟨slave, file⟩ := read
  cases file with
  | none =>
      cases stepped
      have same : readable (earlier ++ [(slave, none)]) = readable earlier := by simp [readable]
      exact ⟨by rw [same]; exact holds.last, holds.parsed⟩
  | some content =>
      obtain ⟨registerMap, parsed, rfl⟩ := Option.map_eq_some_iff.mp stepped
      have more : readable (earlier ++ [(slave, some content)]) =
          readable earlier ++ [(slave, content)] := by simp [readable]
      constructor
      · intro other
        rw [more, lastWrite_append, lastWrite_singleton, ← holds.last]
        split
        · rename_i same
          subst same
          rw [Finmap.lookup_insert]
          rfl
        · rename_i different
          rw [Finmap.lookup_insert_of_ne _ (Ne.symm different)]
          rfl
      · intro other bound found
        by_cases same : other = slave
        · subst same
          rw [Finmap.lookup_insert] at found
          cases found
          exact ⟨rfl, parsed⟩
        · rw [Finmap.lookup_insert_of_ne _ same] at found
          exact holds.parsed other bound found

theorem Bound.foldlM (holds : Bound yaml earlier registerMaps)
    (folded : later.foldlM (bindSlave yaml) registerMaps = some after) :
    Bound yaml (earlier ++ later) after := by
  induction later generalizing earlier registerMaps with
  | nil =>
      cases folded
      rw [List.append_nil]
      exact holds
  | cons read rest ih =>
      rw [List.foldlM_cons] at folded
      obtain ⟨middle, stepped, continued⟩ := Option.bind_eq_some_iff.mp folded
      rw [← List.singleton_append, ← List.append_assoc]
      exact ih (holds.step stepped) continued

theorem bindSlave_eq_none (registerMaps : RegisterMaps) {read : ModbusSlave × Option String} :
    bindSlave yaml registerMaps read = none ↔ Broken yaml read := by
  obtain ⟨slave, file⟩ := read
  cases file with
  | none => simp [bindSlave, Broken]
  | some content => simp [bindSlave, Broken]

theorem foldlM_bindSlave_eq_none (registerMaps : RegisterMaps) :
    reads.foldlM (bindSlave yaml) registerMaps = none ↔ ∃ read ∈ reads, Broken yaml read := by
  induction reads generalizing registerMaps with
  | nil => exact ⟨nofun, nofun⟩
  | cons read rest ih =>
      rw [List.foldlM_cons, List.exists_mem_cons_iff, ← bindSlave_eq_none registerMaps]
      cases bindSlave yaml registerMaps read with
      | none => simp
      | some middle => simpa using ih middle

theorem mem_readable {reads : List (ModbusSlave × Option String)} {slave : ModbusSlave}
    {content : String} : (slave, content) ∈ readable reads ↔ (slave, some content) ∈ reads := by
  rw [readable, List.mem_filterMap]
  constructor
  · rintro ⟨⟨other, file⟩, listed, same⟩
    obtain ⟨found, rfl, same⟩ := Option.map_eq_some_iff.mp same
    cases same
    exact listed
  · exact fun listed => ⟨(slave, some content), listed, rfl⟩

/-- The loop reads every map when none of them is broken. -/
theorem readsOfSlaves_eq (sound : ¬ ∃ read ∈ reads, Broken yaml read) :
    readsOfSlaves yaml reads =
      (readable reads).map fun (slave, content) => (slave.registerMap, content) := by
  induction reads with
  | nil => rfl
  | cons read rest ih =>
      rw [List.exists_mem_cons_iff, not_or] at sound
      obtain ⟨slave, file⟩ := read
      cases file with
      | none => exact ih sound.2
      | some content =>
          have parses : (yaml.modbusRegisterMap content).isSome = true := by
            rw [Option.isSome_iff_ne_none]
            exact fun fails => sound.1 ⟨content, rfl, fails⟩
          rw [readsOfSlaves, if_pos parses, ih sound.2]
          rfl

end Bind

namespace Startup

variable {yaml : SerdeYaml} {startup : Startup} {channel : StartedChannel}
  {modbusConfig : ChannelConfig}

/-- The channel was made from the files of this definition. -/
structure Makes (yaml : SerdeYaml) (startup : Startup) (channel : StartedChannel) : Prop where
  path : channel.config.path = startup.definition.file
  file : startup.file = some channel.config.content
  parsed : startup.config yaml = some channel.config.value
  sound : ¬ ∃ read ∈ startup.slaveReads channel.config.value.slaves, Broken yaml read
  bound : Bound yaml (startup.slaveReads channel.config.value.slaves) channel.registerMaps

theorem makes_of_channel (built : startup.channel yaml = some channel) : startup.Makes yaml channel := by
  obtain ⟨raw, file, built⟩ := Option.bind_eq_some_iff.mp built
  obtain ⟨modbusConfig, parsed, built⟩ := Option.bind_eq_some_iff.mp built
  obtain ⟨registerMaps, folded, rfl⟩ := Option.map_eq_some_iff.mp built
  refine ⟨rfl, file, Option.bind_eq_some_iff.mpr ⟨raw, file, parsed⟩, ?_, bound_nil.foldlM folded⟩
  rw [← foldlM_bindSlave_eq_none ∅, folded]
  exact nofun

theorem channel_of_sound (parsed : startup.config yaml = some modbusConfig)
    (sound : ¬ ∃ read ∈ startup.slaveReads modbusConfig.slaves, Broken yaml read) :
    ∃ channel, startup.channel yaml = some channel := by
  obtain ⟨raw, file, parsed⟩ := Option.bind_eq_some_iff.mp parsed
  rw [← foldlM_bindSlave_eq_none ∅] at sound
  obtain ⟨registerMaps, folded⟩ := Option.ne_none_iff_exists'.mp sound
  exact ⟨_, by rw [channel, file, Option.bind_some, parsed, Option.bind_some, channelOf, folded]; rfl⟩

end Startup

end StsGateway
