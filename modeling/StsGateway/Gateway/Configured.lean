import StsGateway.Gateway.System
import StsGateway.Startup.AllOrNothing
import StsGateway.Startup.Hashes

namespace StsGateway

open Data Modbus

/-! From the configuration files to the rows: the channels that `main` has started are
those that run beside the other threads.
-/

def ChannelConfig.type : ChannelConfig → ChannelType
  | .modbusTcp _ => .modbusTcp
  | .modbusRtu _ => .modbusRtu

def ChannelThread.type : ChannelThread → ChannelType
  | .modbusTcp _ _ => .modbusTcp
  | .modbusRtu _ => .modbusRtu

/-- What `run` makes of a channel. A `HashMap` that does not change is iterated in the
same order each time. -/
structure StartedChannel.Runs (channel : StartedChannel) (thread : ChannelThread) : Prop where
  type : thread.type = channel.config.value.type
  distinct : (thread.registerMaps.map Prod.fst).Nodup
  entries : ∀ slave registerMap, (slave, registerMap) ∈ thread.registerMaps ↔
    (channel.registerMaps.lookup slave).map Sourced.value = some registerMap

/-- The slave is one of the channel file's, and this is the register map in its own file
as it was read last. -/
def Startup.Configures (yaml : SerdeYaml) (startup : Startup) (slave : ModbusSlave)
    (registerMap : ModbusRegisterMap) : Prop :=
  ∃ modbusConfig, startup.config yaml = some modbusConfig ∧ slave ∈ modbusConfig.slaves ∧
    ∃ content, lastWrite Prod.fst Prod.snd
        (readable (startup.slaveReads modbusConfig.slaves)) slave = some content ∧
      yaml.modbusRegisterMap content = some registerMap

section Configured

variable {yaml : SerdeYaml} {startup : Startup} {channel : StartedChannel} {thread : ChannelThread}
  {json : SerdeJson} {rmodbus : Rmodbus} {profile : Profile}

theorem Startup.Makes.configures_iff (makes : startup.Makes yaml channel) (slave : ModbusSlave)
    (registerMap : ModbusRegisterMap) :
    (channel.registerMaps.lookup slave).map Sourced.value = some registerMap ↔
      startup.Configures yaml slave registerMap := by
  have last := makes.bound.last slave
  constructor
  · intro present
    obtain ⟨bound, found, rfl⟩ := Option.map_eq_some_iff.mp present
    rw [found] at last
    obtain ⟨⟨_, _⟩, listed, rfl, _⟩ := mem_of_lastWrite last.symm
    exact ⟨_, makes.parsed, (mem_slaveReads startup).mpr ⟨_, mem_readable.mp listed⟩, bound.content,
      last.symm, (makes.bound.parsed _ bound found).2⟩
  · rintro ⟨modbusConfig, parsed, _, content, written, read⟩
    cases parsed.symm.trans makes.parsed
    rw [written] at last
    obtain ⟨bound, found, rfl⟩ := Option.map_eq_some_iff.mp last
    have value := (makes.bound.parsed slave bound found).2
    rw [read] at value
    rw [found, Option.map_some, value]

theorem Polled.mem_registerMaps {state : (thread.agent rmodbus profile).State}
    {polls : List (Poll rmodbus)} {poll : Poll rmodbus} (polled : Polled thread state polls)
    (member : poll ∈ polls) : poll.entry ∈ thread.registerMaps := by
  obtain ⟨rounds, order⟩ := polled.order
  have listed := order.subset (List.mem_map_of_mem member)
  obtain ⟨round, copy, inside⟩ := List.mem_flatten.mp listed
  rw [List.eq_of_mem_replicate copy] at inside
  exact inside

theorem mem_messagesOf {ι : Type} [DecidableEq ι] {polls : List (ι × Poll rmodbus)}
    {entry : ι × Poll rmodbus} (member : entry ∈ polls) : entry.2 ∈ messagesOf entry.1 polls :=
  List.mem_filterMap.mpr ⟨entry, member, if_pos rfl⟩

theorem ReadBack.origin {ι : Type} {polls : List (ι × Poll rmodbus)} {rows : List Row} {row : Row}
    (readBack : ReadBack json rows polls) (stored : row ∈ rows) :
    ∃ poll ∈ polls, row.message? json = some poll.2.action := by
  obtain ⟨origins, chosen, read⟩ := readBack
  have message : row.message? json ∈ origins.map fun origin => some origin.2.action :=
    read ▸ List.mem_map_of_mem stored
  obtain ⟨poll, member, same⟩ := List.mem_map.mp message
  exact ⟨poll, chosen.subset member, same.symm⟩

theorem deviceName_of_row {poll : Poll rmodbus} {row : Row} (exact : poll.Exact profile)
    (read : row.message? json = some poll.action) : row.deviceName = poll.entry.1.deviceName := by
  have sent : ∃ values telemetries, poll.action =
      .sendBoth (poll.entry.1.deviceName, values) (poll.entry.1.deviceName, telemetries) := by
    cases poll with
    | tcp poll =>
        obtain ⟨values, telemetries, sent, _⟩ := exact.reports
        exact ⟨values, telemetries, sent⟩
    | rtu poll =>
        obtain ⟨values, telemetries, sent, _⟩ := exact.reports
        exact ⟨values, telemetries, sent⟩
  obtain ⟨values, telemetries, sent⟩ := sent
  rw [sent] at read
  obtain ⟨timeseries, _, rest⟩ := Option.bind_eq_some_iff.mp read
  obtain ⟨attributes, _, same⟩ := Option.bind_eq_some_iff.mp rest
  split at same
  · rename_i device
    cases same
    exact device
  · cases same

end Configured

/-- Where the gateway's data comes from, given the startup that each channel is from. -/
structure FollowsConfiguration {ι : Type} {rmodbus : Rmodbus} (yaml : SerdeYaml)
    (startups : ι → Startup) (gateway : Gateway) (polls : List (ι × Poll rmodbus)) : Prop where
  polls : ∀ poll ∈ polls, (startups poll.1).Configures yaml poll.2.entry.1 poll.2.entry.2
  table : ∀ row ∈ gateway.storage.messages, ∃ index slave registerMap,
    (startups index).Configures yaml slave registerMap ∧ row.deviceName = slave.deviceName
  backups : ∀ backup ∈ gateway.storage.backups, ∀ row ∈ backup.rows, ∃ index slave registerMap,
    (startups index).Configures yaml slave registerMap ∧ row.deviceName = slave.deviceName

theorem followsConfiguration_of_polled {ι : Type} [DecidableEq ι] {json : SerdeJson}
    {rmodbus : Rmodbus} {profile : Profile} {yaml : SerdeYaml} {config : MainConfig}
    {gateway : Gateway} {threads : ι → ChannelThread} {startups : ι → Startup}
    {states : ∀ index, ((threads index).agent rmodbus profile).State}
    {polls : List (ι × Poll rmodbus)}
    (configured : ∀ index slave registerMap, (slave, registerMap) ∈ (threads index).registerMaps ↔
      (startups index).Configures yaml slave registerMap)
    (polled : ∀ index, Polled (threads index) (states index) (messagesOf index polls))
    (endToEnd : EndToEnd json config gateway polls) :
    FollowsConfiguration yaml startups gateway polls := by
  have source : ∀ poll ∈ polls,
      (startups poll.1).Configures yaml poll.2.entry.1 poll.2.entry.2 := by
    intro poll member
    exact (configured poll.1 _ _).mp ((polled poll.1).mem_registerMaps (mem_messagesOf member))
  have device : ∀ {rows : List Row}, ReadBack json rows polls → ∀ row ∈ rows,
      ∃ index slave registerMap, (startups index).Configures yaml slave registerMap ∧
        row.deviceName = slave.deviceName := by
    intro rows readBack row stored
    obtain ⟨poll, member, read⟩ := readBack.origin stored
    have exact := (polled poll.1).exact poll.2 (mem_messagesOf member)
    exact ⟨poll.1, _, _, source poll member, deviceName_of_row exact read⟩
  exact ⟨source, device endToEnd.table, fun backup member => device (endToEnd.backups backup member)⟩

/-- Once the loading has finished, each channel goes round exactly the slaves that its own
file names and whose register map was read, each with the map in that slave's file; and
whatever fails later, all that is stored and published comes from exact polls of these. -/
theorem data_follows_configuration (json : SerdeJson) (rmodbus : Rmodbus) (profile : Profile)
    (yaml : SerdeYaml) (sha256 : String → String) (rootConfig : String) (environment : Environment)
    (running : Running) (loaded : main yaml sha256 rootConfig environment = .ok running)
    (threads : Fin running.loaded.channelHandles.length → ChannelThread)
    (runs : ∀ index, (running.loaded.channelHandles.get index).Runs (threads index))
    (moves : List (Move Gateway.Step fun index => (threads index).agent rmodbus profile))
    (after : Together Gateway fun index => (threads index).agent rmodbus profile)
    (executed : (system json rmodbus profile running.root.value.toMainConfig threads).run moves =
      some after)
    (decodes : Gateway.Decodes json after.state) :
    ∃ startups : Fin running.loaded.channelHandles.length → Startup,
      (∀ index, startups index ∈ environment.startups yaml ∧
        (startups index).channel yaml = some (running.loaded.channelHandles.get index) ∧
        ∀ slave registerMap, (slave, registerMap) ∈ (threads index).registerMaps ↔
          (startups index).Configures yaml slave registerMap) ∧
      ∃ polls : List (Fin running.loaded.channelHandles.length × Poll rmodbus),
        (∀ index, Polled (threads index) (after.threads index) (messagesOf index polls)) ∧
          EndToEnd json running.root.value.toMainConfig after.state polls ∧
            FollowsConfiguration yaml startups after.state polls := by
  have own : ∀ index, ∃ startup ∈ environment.startups yaml,
      startup.channel yaml = some (running.loaded.channelHandles.get index) := by
    intro index
    have handle : running.loaded.channelHandles.get index ∈
        (environment.startups yaml).filterMap (Startup.channel yaml) :=
      (main_eq_ok loaded).2.2.1 ▸ List.get_mem _ _
    exact List.mem_filterMap.mp handle
  choose startups listed built using own
  have configured : ∀ index slave registerMap,
      (slave, registerMap) ∈ (threads index).registerMaps ↔
        (startups index).Configures yaml slave registerMap := by
    intro index slave registerMap
    rw [(runs index).entries, (Startup.makes_of_channel (built index)).configures_iff]
  obtain ⟨polls, polled, endToEnd⟩ := exists_polls executed decodes
  exact ⟨startups, fun index => ⟨listed index, built index, configured index⟩, polls, polled,
    endToEnd, followsConfiguration_of_polled configured polled endToEnd⟩

def oneMeterFile : String :=
  "name: Modbus Channel 1\n" ++
  "host: 127.0.0.1\n" ++
  "port: 5020\n" ++
  "slaves:\n" ++
  "  - device_name: a\n" ++
  "    modbus_id: 1\n" ++
  "    register_map: meter.yml\n"

def powerMapFile : String :=
  "attributes: []\n" ++
  "timeseries:\n" ++
  "  - starting_address: 0\n" ++
  "    elements_count: 1\n" ++
  "    data_points:\n" ++
  "      - data_offset: 0\n" ++
  "        register_count: 1\n" ++
  "        data_type: uint16\n" ++
  "        key_name: power\n"

def oneMeterConfig : ModbusClientTcpConfig where
  name := "Modbus Channel 1"
  host := "127.0.0.1"
  port := 5020
  slaves := [(Modbus.Sample.meter "a" 1).1]

/-- What `serde_yaml` makes of the three files. -/
def oneMeterYaml : SerdeYaml where
  mainConfig text := if text = gatewayFile then some gatewayConfig else none
  modbusClientTcpConfig text := if text = oneMeterFile then some oneMeterConfig else none
  modbusClientRtuConfig _ := none
  modbusRegisterMap text := if text = powerMapFile then some (Modbus.Sample.meter "a" 1).2 else none

/-- The SHA-256 digests of the three files. -/
def oneMeterDigest (content : String) : String :=
  if content = gatewayFile then "353c7ccdc350da92354be3104f4d3c478a05c59a791070e7567dbd9040338a92"
  else if content = oneMeterFile then
    "08aa6ec1871aafb38d1b2a34043aa04a98afee1695156ebeed3e26a0685514c6"
  else "aa944be75345deb73e01bbca1bce2a7f189fe2d290f96be634e95dc87bbeea91"

def oneMeter : Environment where
  root := some gatewayFile
  logging := some ()
  file _ := some oneMeterFile
  registerMaps _ _ := some powerMapFile

def oneMeterRunning : Running where
  root := ⟨"sts_gateway.yml", gatewayFile, gatewayConfig⟩
  loaded := ⟨MainState.new.record oneMeterDigest (oneMeter.reads oneMeterYaml "sts_gateway.yml"),
    [⟨⟨"modbus_tcp.yml", oneMeterFile, .modbusTcp oneMeterConfig⟩,
      (∅ : RegisterMaps).insert (Modbus.Sample.meter "a" 1).1
        ⟨"meter.yml", powerMapFile, (Modbus.Sample.meter "a" 1).2⟩⟩]⟩

theorem main_runs_one_meter :
    main oneMeterYaml oneMeterDigest "sts_gateway.yml" oneMeter = .ok oneMeterRunning := by
  have parsed : oneMeterYaml.mainConfig gatewayFile = some gatewayConfig := by
    simp only [oneMeterYaml, if_true]
  have startups : oneMeter.startups oneMeterYaml = oneMeter.startupsOf gatewayConfig.channels := by
    rw [Environment.startups, show oneMeter.root = some gatewayFile from rfl, Option.bind_some, parsed]
  have channels : (oneMeter.startups oneMeterYaml).filterMap (Startup.channel oneMeterYaml) =
      oneMeterRunning.loaded.channelHandles := by decide +kernel
  have loads : loadChannels oneMeterYaml oneMeterDigest
      ⟨MainState.new.record oneMeterDigest [("sts_gateway.yml", gatewayFile)], []⟩
      (oneMeter.startupsOf gatewayConfig.channels) = .ok oneMeterRunning.loaded := by
    rw [← startups]
    refine loadChannels_eq_ok.mpr ⟨by decide +kernel, ?_⟩
    rw [channels, ← MainState.record_append]
    rfl
  rw [main, show oneMeter.root = some gatewayFile from rfl]
  simp only [MainState.readFile_some, unwrapOk, resultOf, ok_bind, parsed, loads]
  rfl

def oneMeterThreads : Fin oneMeterRunning.loaded.channelHandles.length → ChannelThread :=
  fun _ => Gateway.Sample.meterThread ()

theorem oneMeter_runs (index : Fin oneMeterRunning.loaded.channelHandles.length) :
    (oneMeterRunning.loaded.channelHandles.get index).Runs (oneMeterThreads index) := by
  have only := List.mem_singleton.mp (List.get_mem oneMeterRunning.loaded.channelHandles index)
  rw [only]
  refine ⟨rfl, List.nodup_singleton _, fun slave registerMap => ?_⟩
  rw [oneMeterThreads, Gateway.Sample.meterThread, ChannelThread.registerMaps, List.mem_singleton]
  by_cases same : slave = (Modbus.Sample.meter "a" 1).1
  · subst same
    rw [Finmap.lookup_insert]
    simp [Modbus.Sample.meter, eq_comm]
  · rw [Finmap.lookup_insert_of_ne _ same, Finmap.lookup_empty]
    simp only [Option.map_none, reduceCtorEq, iff_false]
    intro entry
    exact same (congrArg Prod.fst entry)

/-- One poll of the configured meter is stored. -/
def oneMeterPoll (rmodbus : Rmodbus) (now : UtcDateTime) :
    List (Move Gateway.Step fun index => (oneMeterThreads index).agent rmodbus .release) :=
  (Modbus.Sample.poll true).map (fun choice => .thread ⟨0, Nat.zero_lt_one⟩ choice) ++
    [.own .aggregatorRecv, .own (.stamp now), .own .sendToStorage,
      .own (.storageTurn (Gateway.Sample.turn now))]

theorem data_follows_configuration_one_meter :
    ∃ after, (system Gateway.Sample.meterJson Rmodbus.reference .release
        oneMeterRunning.root.value.toMainConfig oneMeterThreads).run
        (oneMeterPoll Rmodbus.reference (Gateway.Sample.reading 100 0)) = some after ∧
      after.state.storage.messages.length = 1 ∧
      ∃ startups : Fin oneMeterRunning.loaded.channelHandles.length → Startup,
        (∀ index, startups index ∈ oneMeter.startups oneMeterYaml) ∧
        ∀ row ∈ after.state.storage.messages, ∃ index slave registerMap,
          (startups index).Configures oneMeterYaml slave registerMap ∧
            row.deviceName = slave.deviceName := by
  have counts : ((system Gateway.Sample.meterJson Rmodbus.reference .release
      oneMeterRunning.root.value.toMainConfig oneMeterThreads).run
      (oneMeterPoll Rmodbus.reference (Gateway.Sample.reading 100 0))).map
        (fun after => (after.state.storage.messages.length, after.state.aggregatorQueue.sent)) =
      some (1, [Gateway.Sample.meterMessage]) := by decide +kernel
  obtain ⟨after, executed, found⟩ := Option.map_eq_some_iff.mp counts
  obtain ⟨stored, sent⟩ := Prod.mk.inj found
  have decodes : Gateway.Decodes Gateway.Sample.meterJson after.state :=
    Gateway.Sample.meterJson_decodes fun action member => by
      rw [sent] at member
      exact List.mem_singleton.mp member
  obtain ⟨startups, own, polls, _, _, follows⟩ := data_follows_configuration Gateway.Sample.meterJson
    Rmodbus.reference .release oneMeterYaml oneMeterDigest "sts_gateway.yml" oneMeter oneMeterRunning
    main_runs_one_meter oneMeterThreads oneMeter_runs
    (oneMeterPoll Rmodbus.reference (Gateway.Sample.reading 100 0)) after executed decodes
  exact ⟨after, executed, stored, startups, fun index => (own index).1, follows.table⟩

end StsGateway
