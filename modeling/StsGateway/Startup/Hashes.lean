import Mathlib.Data.List.Nodup
import Mathlib.Data.Set.Function
import StsGateway.Startup.Loading

namespace StsGateway

open Data Modbus

/-! The hashes `main` keeps of the files it has read, against the configuration the
running gateway holds.
-/

/-- What `main` finds: the root file, whether log4rs takes its own configuration, and
for each channel definition what the reads return that it causes. -/
structure Environment where
  root : Option String
  logging : Option Unit
  file : Nat → Option String
  registerMaps : Nat → Nat → Option String

namespace Environment

def startupsOf (environment : Environment) (channels : List ChannelDefinition) : List Startup :=
  channels.zipIdx.map fun (definition, index) =>
    ⟨definition, environment.file index, environment.registerMaps index⟩

end Environment

structure Running where
  root : Sourced RootConfig
  loaded : Loading

/-- `main` to the end of loading. The threads it starts in between read no configuration. -/
def main (yaml : SerdeYaml) (sha256 : String → String) (rootConfig : String)
    (environment : Environment) : Except Panic Running := do
  let (raw, state) := MainState.new.readFile sha256 rootConfig environment.root
  let configPath ← unwrapOk (resultOf raw)
  let config ← unwrapOk (resultOf (yaml.mainConfig configPath))
  let _ ← unwrapOk (resultOf environment.logging)
  let loaded ← loadChannels yaml sha256 ⟨state, []⟩ (environment.startupsOf config.channels)
  .ok ⟨⟨rootConfig, configPath, config⟩, loaded⟩

/-- The running gateway holds a part of its configuration that was parsed from this
content of the file at this path. -/
inductive Running.InUse (running : Running) : String → String → Prop where
  | root : running.InUse running.root.path running.root.content
  | channel {channel : StartedChannel} (handle : channel ∈ running.loaded.channelHandles) :
      running.InUse channel.config.path channel.config.content
  | registerMap {channel : StartedChannel} (handle : channel ∈ running.loaded.channelHandles)
      {slave : ModbusSlave} {registerMap : Sourced ModbusRegisterMap}
      (bound : channel.registerMaps.lookup slave = some registerMap) :
      running.InUse registerMap.path registerMap.content

/-- For every part in use the hash of the very content is kept, so that comparing
hashes tells any other content of the file from it. -/
structure HashesDescribe (sha256 : String → String) (met : Set String) (running : Running) : Prop where
  recorded : ∀ path content, running.InUse path content →
    running.loaded.state.configuredHashes.lookup path = some (sha256 content)
  reported : ∀ path content, running.InUse path content → ∀ later ∈ met, later ≠ content →
    running.loaded.state.configuredHashes.lookup path ≠ some (sha256 later)

/-! ### The reads of a whole startup -/

namespace Environment

variable (yaml : SerdeYaml) (rootConfig : String) (environment : Environment)

def startups : List Startup :=
  match environment.root.bind yaml.mainConfig with
  | none => []
  | some config => environment.startupsOf config.channels

/-- The files read, in order, each with what was in it then. -/
def reads : List (String × String) :=
  (environment.root.map fun raw => (rootConfig, raw)).toList ++
    (environment.startups yaml).flatMap (Startup.reads yaml)

/-- A definition starts a channel when its file is good and no register map that is
read is broken. Of several reads for one slave the last is used. -/
inductive Uses : String → String → Prop where
  | root {content : String} (read : environment.root = some content) : Uses rootConfig content
  | channel {startup : Startup} (listed : startup ∈ environment.startups yaml)
      {modbusConfig : ChannelConfig} (parsed : startup.config yaml = some modbusConfig)
      (sound : ¬ ∃ read ∈ startup.slaveReads modbusConfig.slaves, Broken yaml read)
      {content : String} (read : startup.file = some content) :
      Uses startup.definition.file content
  | registerMap {startup : Startup} (listed : startup ∈ environment.startups yaml)
      {modbusConfig : ChannelConfig} (parsed : startup.config yaml = some modbusConfig)
      (sound : ¬ ∃ read ∈ startup.slaveReads modbusConfig.slaves, Broken yaml read)
      {slave : ModbusSlave} {content : String}
      (last : lastWrite Prod.fst Prod.snd
        (readable (startup.slaveReads modbusConfig.slaves)) slave = some content) :
      Uses slave.registerMap content

/-- No file that a part in use came from was found with other content later on. -/
def Steady : Prop :=
  ∀ path content, environment.Uses yaml rootConfig path content →
    lastWrite Prod.fst Prod.snd (environment.reads yaml rootConfig) path = some content

end Environment

section Main

variable {yaml : SerdeYaml} {sha256 : String → String} {rootConfig : String}
  {environment : Environment} {running : Running} {startup : Startup}

/-- What `main` has when loading is over. -/
theorem main_eq_ok (returned : main yaml sha256 rootConfig environment = .ok running) :
    environment.root = some running.root.content ∧ running.root.path = rootConfig ∧
      running.loaded.channelHandles =
        (environment.startups yaml).filterMap (Startup.channel yaml) ∧
      running.loaded.state = MainState.new.record sha256 (environment.reads yaml rootConfig) := by
  rw [main] at returned
  obtain ⟨raw, read, returned⟩ := bind_eq_ok.mp returned
  obtain ⟨config, parsed, returned⟩ := bind_eq_ok.mp returned
  obtain ⟨_, _, returned⟩ := bind_eq_ok.mp returned
  obtain ⟨loaded, loads, returned⟩ := bind_eq_ok.mp returned
  cases returned
  rw [unwrapOk_eq_ok] at read parsed
  rw [Environment.reads, Environment.startups]
  cases root : environment.root with
  | none =>
      rw [root] at read
      contradiction
  | some content =>
      rw [root] at read loads
      cases read
      obtain ⟨_, rfl⟩ := loadChannels_eq_ok.mp loads
      rw [Option.bind_some, parsed]
      exact ⟨rfl, rfl, rfl, rfl⟩

theorem main_returns (yaml : SerdeYaml) (sha256 : String → String) (rootConfig : String)
    (environment : Environment) {content : String} {config : RootConfig}
    (root : environment.root = some content) (parsed : yaml.mainConfig content = some config)
    (logging : environment.logging = some ())
    (nameable : ∀ startup ∈ environment.startups yaml,
      ∀ channel ∈ startup.channel yaml, channel.Nameable) :
    ∃ running, main yaml sha256 rootConfig environment = .ok running := by
  rw [Environment.startups, root, Option.bind_some, parsed] at nameable
  have loads (loading : Loading) : ∃ loaded,
      loadChannels yaml sha256 loading (environment.startupsOf config.channels) = .ok loaded :=
    ⟨_, loadChannels_eq_ok.mpr ⟨nameable, rfl⟩⟩
  obtain ⟨loaded, loads⟩ := loads ⟨MainState.new.record sha256 [(rootConfig, content)], []⟩
  refine ⟨⟨⟨rootConfig, content, config⟩, loaded⟩, ?_⟩
  rw [main, root]
  simp only [MainState.readFile_some, unwrapOk, resultOf, ok_bind, parsed, logging, loads]

theorem lookup_recorded (returned : main yaml sha256 rootConfig environment = .ok running)
    (path : String) :
    running.loaded.state.configuredHashes.lookup path =
      (lastWrite Prod.fst Prod.snd (environment.reads yaml rootConfig) path).map sha256 := by
  rw [(main_eq_ok returned).2.2.2, ← lastWrite_comp]
  exact (lookup_insertAll _).trans (Option.or_none)

theorem inUse_iff (returned : main yaml sha256 rootConfig environment = .ok running)
    (path content : String) :
    running.InUse path content ↔ environment.Uses yaml rootConfig path content := by
  obtain ⟨root, rootPath, handles, _⟩ := main_eq_ok returned
  constructor
  · intro inUse
    cases inUse with
    | root =>
        rw [rootPath]
        exact .root root
    | channel handle =>
        rw [handles] at handle
        obtain ⟨startup, listed, built⟩ := List.mem_filterMap.mp handle
        have makes := Startup.makes_of_channel built
        rw [makes.path]
        exact .channel listed makes.parsed makes.sound makes.file
    | registerMap handle bound =>
        rw [handles] at handle
        obtain ⟨startup, listed, built⟩ := List.mem_filterMap.mp handle
        have makes := Startup.makes_of_channel built
        rw [(makes.bound.parsed _ _ bound).1]
        refine .registerMap listed makes.parsed makes.sound ?_
        rw [← makes.bound.last, bound]
        rfl
  · intro uses
    cases uses with
    | root read =>
        rw [root] at read
        cases read
        rw [← rootPath]
        exact .root
    | channel listed parsed sound read =>
        obtain ⟨channel, built⟩ := Startup.channel_of_sound parsed sound
        have makes := Startup.makes_of_channel built
        rw [makes.file] at read
        cases read
        rw [← makes.path]
        exact .channel (by rw [handles]; exact List.mem_filterMap.mpr ⟨_, listed, built⟩)
    | registerMap listed parsed sound last =>
        obtain ⟨channel, built⟩ := Startup.channel_of_sound parsed sound
        have makes := Startup.makes_of_channel built
        cases parsed.symm.trans makes.parsed
        rw [← makes.bound.last] at last
        obtain ⟨registerMap, bound, rfl⟩ := Option.map_eq_some_iff.mp last
        rw [← (makes.bound.parsed _ _ bound).1]
        exact .registerMap (by rw [handles]; exact List.mem_filterMap.mpr ⟨_, listed, built⟩) bound

theorem Environment.Uses.mem_reads {path content : String}
    (uses : environment.Uses yaml rootConfig path content) :
    (path, content) ∈ environment.reads yaml rootConfig := by
  cases uses with
  | root read =>
      apply List.mem_append_left
      simp [read]
  | channel listed parsed sound read =>
      apply List.mem_append_right
      apply List.mem_flatMap.mpr
      refine ⟨_, listed, ?_⟩
      rw [Startup.reads, read]
      exact List.mem_cons_self
  | registerMap listed parsed sound last =>
      apply List.mem_append_right
      apply List.mem_flatMap.mpr
      refine ⟨_, listed, ?_⟩
      obtain ⟨raw, read, parsed⟩ := Option.bind_eq_some_iff.mp parsed
      rw [Startup.reads, read]
      dsimp only
      rw [parsed]
      dsimp only
      rw [readsOfSlaves_eq sound]
      obtain ⟨⟨slave, content⟩, found, rfl, rfl⟩ := mem_of_lastWrite last
      exact List.mem_cons_of_mem _ (List.mem_map_of_mem found)

end Main

theorem hashes_describe_iff (yaml : SerdeYaml) (sha256 : String → String) (rootConfig : String)
    (environment : Environment) (running : Running) (met : Set String)
    (returned : main yaml sha256 rootConfig environment = .ok running)
    (contents : ∀ read ∈ environment.reads yaml rootConfig, read.2 ∈ met)
    (injective : Set.InjOn sha256 met) :
    HashesDescribe sha256 met running ↔ environment.Steady yaml rootConfig := by
  constructor
  · intro describes path content uses
    have recorded := describes.recorded path content ((inUse_iff returned path content).mpr uses)
    rw [lookup_recorded returned] at recorded
    obtain ⟨last, found, same⟩ := Option.map_eq_some_iff.mp recorded
    obtain ⟨read, listed, _, rfl⟩ := mem_of_lastWrite found
    rw [found, injective (contents read listed) (contents _ uses.mem_reads) same]
  · intro steady
    have recorded (path content : String) (inUse : running.InUse path content) :
        running.loaded.state.configuredHashes.lookup path = some (sha256 content) := by
      rw [lookup_recorded returned, steady path content ((inUse_iff returned path content).mp inUse)]
      rfl
    refine ⟨recorded, ?_⟩
    intro path content inUse later known different same
    rw [recorded path content inUse, Option.some_inj] at same
    have read := ((inUse_iff returned path content).mp inUse).mem_reads
    exact different (injective known (contents _ read) same.symm)

def gatewayFile : String :=
  "name: Gateway\n" ++
  "log_config: logs.yml\n" ++
  "mqtt:\n" ++
  "  host: localhost\n" ++
  "  port: 1883\n" ++
  "  qos: 0\n" ++
  "storage:\n" ++
  "  type: sqlite\n" ++
  "  data_folder: data.db\n" ++
  "  size_management:\n" ++
  "    type: fixed_window\n" ++
  "    messages_ttl_check: 0 0 * * * *\n" ++
  "    messages_ttl: 24\n" ++
  "  backup_management:\n" ++
  "    type: local\n" ++
  "    backup_folder: backup\n" ++
  "    backup_interval: 0 0 * * * *\n" ++
  "    backup_ttl: 24\n" ++
  "channels:\n" ++
  "  - type: modbus_tcp\n" ++
  "    file: modbus_tcp.yml\n"

def channelFile : String :=
  "name: Modbus Channel 1\n" ++
  "host: 127.0.0.1\n" ++
  "port: 5020\n" ++
  "slaves:\n" ++
  "  - device_name: Meter1\n" ++
  "    modbus_id: 1\n" ++
  "    register_map: meter.yml\n" ++
  "  - device_name: Meter2\n" ++
  "    modbus_id: 2\n" ++
  "    register_map: meter.yml\n"

def mapFile : String :=
  "attributes: []\n" ++
  "timeseries: []\n"

def editedMapFile : String :=
  "attributes: []\n" ++
  "timeseries:\n" ++
  "  - starting_address: 0\n" ++
  "    elements_count: 2\n" ++
  "    data_points: []\n"

def gatewayConfig : RootConfig where
  name := "Gateway"
  logConfig := "logs.yml"
  mqtt := ⟨0⟩
  storage := .sqlite "data.db" (.fixedWindow 24) (.local "backup" 24)
  channels := [⟨.modbusTcp, "modbus_tcp.yml"⟩]

def sharingConfig : ModbusClientTcpConfig where
  name := "Modbus Channel 1"
  host := "127.0.0.1"
  port := 5020
  slaves := [⟨"Meter1", none, 1, "meter.yml"⟩, ⟨"Meter2", none, 2, "meter.yml"⟩]

/-- What `serde_yaml` makes of these four files. -/
def meterYaml : SerdeYaml where
  mainConfig text := if text = gatewayFile then some gatewayConfig else none
  modbusClientTcpConfig text := if text = channelFile then some sharingConfig else none
  modbusClientRtuConfig _ := none
  modbusRegisterMap text :=
    if text = mapFile then some ⟨[], []⟩
    else if text = editedMapFile then some ⟨[], [⟨0, 2, []⟩]⟩
    else none

def meterFiles : List String := [gatewayFile, channelFile, mapFile, editedMapFile]

/-- The SHA-256 digests of the four files. -/
def meterDigest (content : String) : String :=
  if content = gatewayFile then "353c7ccdc350da92354be3104f4d3c478a05c59a791070e7567dbd9040338a92"
  else if content = channelFile then
    "cf22de8a26ea3020b82e9f41a6c1567c1469bdbcd67a42fcad7838484e2d3e8f"
  else if content = mapFile then
    "fb49f833a4bd9f36d9c2a678f47cd706a9d0ee729c6354740e0355554dd28ce3"
  else "558ca1e9a0d1817a6d922bc1884a05c3626fdc5c9be748a089c74cc73695c9f9"

/-- Two slaves share the register map; `second` is what the second read of it returns. -/
def sharedMap (second : String) : Environment where
  root := some gatewayFile
  logging := some ()
  file _ := some channelFile
  registerMaps
    | _, 0 => some mapFile
    | _, _ => some second

theorem meterYaml_gateway : meterYaml.mainConfig gatewayFile = some gatewayConfig := by
  simp only [meterYaml, if_true]

theorem meterDigest_injective : Set.InjOn meterDigest {content | content ∈ meterFiles} := by
  have distinct : (meterFiles.map meterDigest).Nodup := by decide +kernel
  exact fun first listed second also => List.inj_on_of_nodup_map distinct listed also

theorem hashes_describe_shared_map :
    ∃ running, main meterYaml meterDigest "sts_gateway.yml" (sharedMap mapFile) = .ok running ∧
      (HashesDescribe meterDigest {content | content ∈ meterFiles} running ↔
        (sharedMap mapFile).Steady meterYaml "sts_gateway.yml") := by
  obtain ⟨running, returned⟩ := main_returns meterYaml meterDigest "sts_gateway.yml"
    (sharedMap mapFile) rfl meterYaml_gateway rfl
    (by decide +kernel)
  have contents : ∀ read ∈ (sharedMap mapFile).reads meterYaml "sts_gateway.yml",
      read.2 ∈ meterFiles := by decide +kernel
  exact ⟨running, returned,
    hashes_describe_iff _ _ _ _ running _ returned contents meterDigest_injective⟩

/-- The map of the first meter is in use, and the hash is that of its edited file. -/
theorem edited_map_is_not_described :
    ∃ running, main meterYaml meterDigest "sts_gateway.yml" (sharedMap editedMapFile) = .ok running ∧
      ¬ HashesDescribe meterDigest {content | content ∈ meterFiles} running := by
  obtain ⟨running, returned⟩ := main_returns meterYaml meterDigest "sts_gateway.yml"
    (sharedMap editedMapFile) rfl meterYaml_gateway rfl
    (by decide +kernel)
  refine ⟨running, returned, ?_⟩
  intro describes
  have bound : ∃ channel ∈ ((sharedMap editedMapFile).startups meterYaml).filterMap
      (Startup.channel meterYaml), channel.registerMaps.lookup ⟨"Meter1", none, 1, "meter.yml"⟩ =
        some ⟨"meter.yml", mapFile, ⟨[], []⟩⟩ := by decide +kernel
  rw [← (main_eq_ok returned).2.2.1] at bound
  obtain ⟨channel, handle, bound⟩ := bound
  have recorded := describes.recorded _ _ (.registerMap handle bound)
  rw [lookup_recorded returned] at recorded
  revert recorded
  decide +kernel

end StsGateway
