import StsGateway.Data.Threads
import StsGateway.Gateway.Channels
import StsGateway.Gateway.Settling

namespace StsGateway

open Data Modbus

/-! The channels' programs beside the other threads.

Each channel goes round its register maps for as long as the gateway runs, in a world
of its own, and hands its messages to the aggregator. A channel that cannot open its
connection is one that takes no steps.
-/

/-- `register_maps` in the order its entries are iterated in, and for TCP the slave that
libmodbus has selected at first. -/
inductive ChannelThread where
  | modbusTcp (registerMaps : List (ModbusSlave × ModbusRegisterMap)) (selected : UInt8)
  | modbusRtu (registerMaps : List (ModbusSlave × ModbusRegisterMap))

def channelMessage? : AggregatorAction → Option ChannelMessage
  | .sendBoth (first, attributes) (second, timeseries) =>
      if same : first = second then
        some ⟨.sendBoth (first, attributes) (second, timeseries),
          ⟨first, attributes, timeseries, by rw [same]⟩⟩
      else none

namespace ChannelThread

def registerMaps : ChannelThread → List (ModbusSlave × ModbusRegisterMap)
  | .modbusTcp registerMaps _ | .modbusRtu registerMaps => registerMaps

def agent (rmodbus : Rmodbus) (profile : Profile) : ChannelThread → Agent ChannelMessage
  | .modbusTcp registerMaps selected =>
      (ModbusTcpChannel.cycle profile registerMaps).looping tcpWorld ⟨selected, selected, [], []⟩
        fun call => call.sent.bind channelMessage?
  | .modbusRtu registerMaps =>
      (ModbusRtuChannel.cycle rmodbus profile registerMaps).looping serialWorld ⟨[], [], [], []⟩
        fun call => call.sent.bind channelMessage?

end ChannelThread

namespace Modbus

/-- One slave polled by either channel. -/
inductive Poll (rmodbus : Rmodbus) where
  | tcp (poll : TcpSlavePoll)
  | rtu (poll : SlavePoll rmodbus)

namespace Poll

variable {rmodbus : Rmodbus}

def entry : Poll rmodbus → ModbusSlave × ModbusRegisterMap
  | .tcp poll => poll.entry
  | .rtu poll => poll.entry

def action : Poll rmodbus → AggregatorAction
  | .tcp poll => poll.action
  | .rtu poll => poll.action

/-- The message is the exact report of what the slave's groups returned. -/
def Exact (profile : Profile) : Poll rmodbus → Prop
  | .tcp poll => poll.Exact
  | .rtu poll => poll.Exact profile

end Poll

end Modbus

/-- The polls made the calls that the channel's thread has made. -/
def ChannelThread.Performed {rmodbus : Rmodbus} {profile : Profile} : (thread : ChannelThread) →
    (thread.agent rmodbus profile).State → List (Poll rmodbus) → Prop
  | .modbusTcp _ _, (state : Looping TcpCall TcpCall.Reply Panic TcpState), polls =>
      ∃ own : List TcpSlavePoll, polls = own.map .tcp ∧
        own.flatMap TcpSlavePoll.calls <+: state.history.filter fun call => call.1.onBus
  | .modbusRtu _, (state : Looping SerialCall SerialCall.Reply Panic SerialLine), polls =>
      ∃ own : List (SlavePoll rmodbus), polls = own.map .rtu ∧
        own.flatMap SlavePoll.calls <+: state.history.filter fun call => call.1.onPort

/-- What a channel has polled so far: round and round its register maps, with each
poll reported exactly. -/
structure Polled {rmodbus : Rmodbus} {profile : Profile} (thread : ChannelThread)
    (state : (thread.agent rmodbus profile).State) (polls : List (Poll rmodbus)) : Prop where
  order : ∃ rounds, polls.map Poll.entry <+: (List.replicate rounds thread.registerMaps).flatten
  exact : ∀ poll ∈ polls, poll.Exact profile
  performed : thread.Performed state polls

def Row.message? (json : SerdeJson) (row : Row) : Option AggregatorAction := do
  let timeseries ← json.readTimeseries row.timeseriesMessage
  let attributes ← json.readAttributes row.attributesMessage
  if row.deviceName = timeseries.1 then some (.sendBoth attributes timeseries) else none

/-- What the broker is to get of a message. -/
def AggregatorAction.publications (json : SerdeJson) (config : MainConfig) :
    AggregatorAction → List MqttMessage
  | .sendBoth attributes timeseries =>
      [.sendTimeseries (json.timeseries timeseries.1 timeseries.2),
        .sendAttributes (json.attributes timeseries.1 attributes.2)].map
        (MqttTransport.message config.mqtt)

/-- The rows read back as messages of some of the polls, in order, each at most once. -/
def ReadBack {ι : Type} {rmodbus : Rmodbus} (json : SerdeJson) (rows : List Row)
    (polls : List (ι × Poll rmodbus)) : Prop :=
  ∃ origins : List (ι × Poll rmodbus), origins.Sublist polls ∧
    rows.map (Row.message? json) = origins.map fun origin => some origin.2.action

/-- Where all that is stored and published comes from. -/
structure EndToEnd {ι : Type} {rmodbus : Rmodbus} (json : SerdeJson) (config : MainConfig)
    (gateway : Gateway) (polls : List (ι × Poll rmodbus)) : Prop where
  table : ReadBack json gateway.storage.messages polls
  backups : ∀ backup ∈ gateway.storage.backups, ReadBack json backup.rows polls
  published : gateway.published <+:
    polls.flatMap fun poll => poll.2.action.publications json config
  delivered : gateway.delivered.Sublist gateway.published

/-- The message a channel's step hands to the aggregator. -/
def Gateway.Step.message? : Gateway.Step → Option ChannelMessage
  | .channelSend message => some message
  | _ => none

/-- The other threads from where they stand. -/
def Gateway.machineFrom (json : SerdeJson) (config : MainConfig) (gateway : Gateway) :
    Machine Gateway Gateway.Step :=
  { Gateway.machine json config with start := gateway }

/-- The gateway with its channels. -/
def system {ι : Type} [DecidableEq ι] (json : SerdeJson) (rmodbus : Rmodbus) (profile : Profile)
    (config : MainConfig) (channels : ι → ChannelThread) :
    Machine (Together Gateway fun index => (channels index).agent rmodbus profile)
      (Move Gateway.Step fun index => (channels index).agent rmodbus profile) :=
  (Gateway.machine json config).together _ Gateway.Step.message? .channelSend

/-! ### What a channel sends -/

namespace Modbus

section Quiet

variable {profile : Profile} {rmodbus : Rmodbus} {slave : ModbusSlave}

namespace ModbusTcpChannel

/-- The message is sent last. -/
theorem slaveStep_concludes (entry : ModbusSlave × ModbusRegisterMap) :
    (slaveStep profile entry).Concludes fun call => call.sent = none := by
  apply Program.Concludes.call_bind (by rfl)
  intro selected
  apply Program.Concludes.bind (Program.Calls.foldlM attributesStep_quiet ∅)
  intro attributes
  apply Program.Concludes.bind (Program.Calls.foldlM timeseriesStep_quiet [])
  intro timeseries
  apply Program.Concludes.call_bind (by rfl)
  intro closed
  exact Program.Concludes.last ()

end ModbusTcpChannel

namespace ModbusRtuChannel

theorem slaveStep_concludes (entry : ModbusSlave × ModbusRegisterMap) :
    (slaveStep rmodbus profile entry).Concludes fun call => call.sent = none := by
  apply Program.Concludes.bind (Program.Calls.foldlM attributesStep_quiet ∅)
  intro attributes
  apply Program.Concludes.bind (Program.Calls.foldlM timeseriesStep_quiet [])
  intro timeseries
  exact Program.Concludes.last ()

end ModbusRtuChannel

end Quiet

end Modbus

section Polls

variable {rmodbus : Rmodbus} {profile : Profile}

theorem channelMessage?_sameDevice {deviceName : String} (attributes : HashMap String String)
    (timeseries : List OneTelemetry) :
    ∃ message, channelMessage? (.sendBoth (deviceName, attributes) (deviceName, timeseries)) =
        some message ∧
      message.action = .sendBoth (deviceName, attributes) (deviceName, timeseries) :=
  ⟨_, dif_pos rfl, rfl⟩

theorem Modbus.Poll.message_of_exact {poll : Poll rmodbus} (exact : poll.Exact profile) :
    ∃ message, channelMessage? poll.action = some message ∧ message.action = poll.action := by
  cases poll with
  | tcp poll =>
      obtain ⟨values, telemetries, sent, _⟩ := exact.reports
      change ∃ message, channelMessage? poll.action = some message ∧ message.action = poll.action
      rw [sent]
      exact channelMessage?_sameDevice values telemetries
  | rtu poll =>
      obtain ⟨values, telemetries, sent, _⟩ := exact.reports
      change ∃ message, channelMessage? poll.action = some message ∧ message.action = poll.action
      rw [sent]
      exact channelMessage?_sameDevice values telemetries

/-- A poll's message always reaches the aggregator as it is. -/
theorem filterMap_messages {polls : List (Poll rmodbus)} (exact : ∀ poll ∈ polls, poll.Exact profile) :
    ((polls.map Poll.action).filterMap channelMessage?).map ChannelMessage.action =
      polls.map Poll.action := by
  induction polls with
  | nil => rfl
  | cons poll rest ih =>
      obtain ⟨here, later⟩ := List.forall_mem_cons.mp exact
      obtain ⟨message, taken, same⟩ := Poll.message_of_exact here
      rw [List.map_cons, List.filterMap_cons, taken]
      change message.action :: _ = _
      rw [same, ih later]

/-- The sends of whole visits are the messages; the visit under way has sent nothing. -/
theorem sent_of_visits {Op : Type} {Reply : Op → Type} (sent : Op → Option AggregatorAction)
    {visited under : List ((op : Op) × Reply op)} {polls : List (Poll rmodbus)}
    (exact : ∀ poll ∈ polls, poll.Exact profile)
    (logged : visited.filterMap (fun performed => sent performed.1) = polls.map Poll.action)
    (quiet : ∀ performed ∈ under, sent performed.1 = none) :
    ((visited ++ under).filterMap fun performed =>
      (sent performed.1).bind channelMessage?).map ChannelMessage.action = polls.map Poll.action := by
  have silent : (under.filterMap fun performed => (sent performed.1).bind channelMessage?) = [] := by
    rw [List.filterMap_eq_nil_iff]
    intro performed member
    rw [quiet performed member]
    rfl
  have messages : (visited.filterMap fun performed => (sent performed.1).bind channelMessage?) =
      (polls.map Poll.action).filterMap channelMessage? := by
    rw [← logged, List.filterMap_filterMap]
  rw [List.filterMap_append, silent, List.append_nil, messages, filterMap_messages exact]

theorem tcp_visits {visits : List (Visit (ModbusSlave × ModbusRegisterMap) TcpCall TcpCall.Reply)}
    (whole : ∀ visit ∈ visits, (ModbusTcpChannel.slaveStep profile visit.1).Returns visit.2 ()) :
    ∃ polls : List TcpSlavePoll, polls.map TcpSlavePoll.entry = visits.map Prod.fst ∧
      (visits.map Prod.snd).flatten.filterMap (fun call => call.1.sent) =
        polls.map TcpSlavePoll.action ∧
      (visits.map Prod.snd).flatten.filter (fun call => call.1.onBus) =
        polls.flatMap TcpSlavePoll.calls ∧ ∀ poll ∈ polls, poll.Exact := by
  induction visits with
  | nil => exact ⟨[], rfl, rfl, rfl, nofun⟩
  | cons visit rest ih =>
      obtain ⟨first, later⟩ := List.forall_mem_cons.mp whole
      obtain ⟨poll, entry, sent, bus, exact⟩ := ModbusTcpChannel.slaveStep_returns first
      obtain ⟨polls, order, logged, calls, each⟩ := ih later
      refine ⟨poll :: polls, ?_, ?_, ?_, List.forall_mem_cons.mpr ⟨exact, each⟩⟩
      · rw [List.map_cons, List.map_cons, entry, order]
      · rw [List.map_cons, List.flatten_cons, List.filterMap_append, sent, logged]
        rfl
      · rw [List.map_cons, List.flatten_cons, List.filter_append, bus, calls, List.flatMap_cons]

theorem rtu_visits
    {visits : List (Visit (ModbusSlave × ModbusRegisterMap) SerialCall SerialCall.Reply)}
    (whole : ∀ visit ∈ visits, (ModbusRtuChannel.slaveStep rmodbus profile visit.1).Returns visit.2 ()) :
    ∃ polls : List (SlavePoll rmodbus), polls.map SlavePoll.entry = visits.map Prod.fst ∧
      (visits.map Prod.snd).flatten.filterMap (fun call => call.1.sent) =
        polls.map SlavePoll.action ∧
      (visits.map Prod.snd).flatten.filter (fun call => call.1.onPort) =
        polls.flatMap SlavePoll.calls ∧ ∀ poll ∈ polls, poll.Exact profile := by
  induction visits with
  | nil => exact ⟨[], rfl, rfl, rfl, nofun⟩
  | cons visit rest ih =>
      obtain ⟨first, later⟩ := List.forall_mem_cons.mp whole
      obtain ⟨poll, entry, sent, port, exact⟩ := ModbusRtuChannel.slaveStep_returns first
      obtain ⟨polls, order, logged, calls, each⟩ := ih later
      refine ⟨poll :: polls, ?_, ?_, ?_, List.forall_mem_cons.mpr ⟨exact, each⟩⟩
      · rw [List.map_cons, List.map_cons, entry, order]
      · rw [List.map_cons, List.flatten_cons, List.filterMap_append, sent, logged]
        rfl
      · rw [List.map_cons, List.flatten_cons, List.filter_append, port, calls, List.flatMap_cons]

/-- Wherever a channel's thread has got to, its messages are those of its polls. -/
theorem ChannelThread.polled (thread : ChannelThread) {sent : List ChannelMessage}
    {state : (thread.agent rmodbus profile).State}
    (reached : (thread.agent rmodbus profile).Reached sent state) :
    ∃ polls, Polled thread state polls ∧
      polls.map Poll.action = sent.map ChannelMessage.action := by
  cases thread with
  | modbusTcp registerMaps selected =>
      obtain ⟨logged, visits, ⟨rounds, order⟩, whole, under, history, quiet⟩ :=
        looping_visited ModbusTcpChannel.slaveStep_concludes reached
      obtain ⟨polls, entries, sends, bus, exact⟩ := tcp_visits whole
      have each : ∀ poll ∈ polls.map (@Poll.tcp rmodbus), poll.Exact profile := by
        intro poll member
        obtain ⟨own, listed, rfl⟩ := List.mem_map.mp member
        exact exact own listed
      refine ⟨polls.map .tcp, ⟨⟨rounds, ?_⟩, each, polls, rfl, ?_⟩, ?_⟩
      · rw [List.map_map]
        exact entries ▸ order
      · rw [history, List.filter_append, bus]
        exact List.prefix_append _ _
      · rw [logged, history]
        exact (sent_of_visits TcpCall.sent each (by rw [sends, List.map_map]; rfl) quiet).symm
  | modbusRtu registerMaps =>
      obtain ⟨logged, visits, ⟨rounds, order⟩, whole, under, history, quiet⟩ :=
        looping_visited ModbusRtuChannel.slaveStep_concludes reached
      obtain ⟨polls, entries, sends, port, exact⟩ := rtu_visits whole
      have each : ∀ poll ∈ polls.map (@Poll.rtu rmodbus), poll.Exact profile := by
        intro poll member
        obtain ⟨own, listed, rfl⟩ := List.mem_map.mp member
        exact exact own listed
      refine ⟨polls.map .rtu, ⟨⟨rounds, ?_⟩, each, polls, rfl, ?_⟩, ?_⟩
      · rw [List.map_map]
        exact entries ▸ order
      · rw [history, List.filter_append, port]
        exact List.prefix_append _ _
      · rw [logged, history]
        exact (sent_of_visits SerialCall.sent each (by rw [sends, List.map_map]; rfl) quiet).symm

end Polls

/-! ### From the sends to the rows and the broker -/

namespace Gateway

section Sends

variable {json : SerdeJson} {config : MainConfig} {before next gateway : Gateway}

theorem step_aggregatorQueue {label : Step} (stepped : step json config before label = some next) :
    next.aggregatorQueue.sent =
      before.aggregatorQueue.sent ++ (label.message?.map ChannelMessage.action).toList := by
  cases label with
  | channelSend message =>
      cases stepped
      exact Mpsc.sent_send _ _
  | aggregatorRecv =>
      obtain ⟨attributes, timeseries, queue, _, taken, rfl⟩ := aggregatorRecv_some stepped
      exact (Mpsc.recv?_some taken).2.trans (List.append_nil _).symm
  | stamp now =>
      obtain ⟨attributes, timeseries, _, rfl⟩ := stamp_some stepped
      exact (List.append_nil _).symm
  | sendToStorage =>
      obtain ⟨item, _, rfl⟩ := sendToStorage_some stepped
      exact (congrArg Mpsc.sent (sendStorage_frame before _).1).trans (List.append_nil _).symm
  | sendTimeseries =>
      obtain ⟨item, _, rfl⟩ := sendTimeseries_some stepped
      exact (List.append_nil _).symm
  | sendAttributes =>
      obtain ⟨item, _, rfl⟩ := sendAttributes_some stepped
      exact (List.append_nil _).symm
  | backupJobTruncate path =>
      obtain ⟨_, rfl⟩ := backupJobTruncate_some stepped
      exact (congrArg Mpsc.sent (sendStorage_frame before _).1).trans (List.append_nil _).symm
  | backupJobBackup =>
      obtain ⟨path, _, rfl⟩ := backupJobBackup_some stepped
      exact (congrArg Mpsc.sent (sendStorage_frame before _).1).trans (List.append_nil _).symm
  | truncateJob =>
      rw [truncateJob_some stepped]
      exact (congrArg Mpsc.sent (sendStorage_frame before _).1).trans (List.append_nil _).symm
  | storageTurn turn =>
      obtain ⟨queued, queue, _, _, ⟨panic, _, rfl⟩ | ⟨storage, _, rfl⟩⟩ := storageTurn_some stepped
      · exact (List.append_nil _).symm
      · exact (List.append_nil _).symm
  | connect succeeds =>
      cases stepped
      exact (List.append_nil _).symm
  | publish =>
      obtain ⟨action, queue, _, rfl⟩ := publish_some stepped
      exact (List.append_nil _).symm

theorem run_aggregatorQueue {labels : List Step} (unsent : before.aggregatorQueue.sent = [])
    (executed : (machineFrom json config before).run labels = some gateway) :
    gateway.aggregatorQueue.sent = (labels.filterMap Step.message?).map ChannelMessage.action := by
  have logged := Machine.runFrom_logs (fun gateway : Gateway => gateway.aggregatorQueue.sent)
    (fun label => label.message?.map ChannelMessage.action) step_aggregatorQueue executed
  rw [logged, List.map_filterMap]
  change before.aggregatorQueue.sent ++ _ = _
  rw [unsent]
  rfl

end Sends

section Reading

variable {json : SerdeJson} {config : MainConfig} {gateway : Gateway}

/-- A row reads back as the message it was made of. -/
theorem Stamped.row_message {item : Stamped} (decodes : Decodes json gateway)
    (sent : item.action ∈ gateway.aggregatorQueue.sent)
    (same : item.attributes.1 = item.timeseries.1) :
    (item.row json).message? json = some item.action := by
  obtain ⟨ts, ⟨first, attributes⟩, ⟨second, timeseries⟩⟩ := item
  cases same
  obtain ⟨readTimeseries, readAttributes⟩ := decodes _ _ sent
  simp only at readTimeseries readAttributes
  simp [Row.message?, Stamped.row, Stamped.timeseriesMessage, Stamped.attributesMessage,
    Stamped.deviceName, Stamped.action, readTimeseries, readAttributes]

/-- The messages the aggregator has in storage's queue or beyond are the first sent. -/
theorem Accounts.storedItems_prefix (holds : Accounts json config gateway) :
    gateway.storedItems.map Stamped.action <+: gateway.aggregatorQueue.sent := by
  refine List.IsPrefix.trans ?_ gateway.aggregatorQueue.received_prefix
  rw [holds.received, storedItems, List.map_append, List.prefix_append_right_inj]
  cases gateway.aggregator <;> simp [AggregatorPoint.inHand, AggregatorPoint.stored]

section Origins

variable {ι : Type} {rmodbus : Rmodbus} {polls : List (ι × Poll rmodbus)}

/-- Rows that are the encodings of some of the stored items read back as what was sent. -/
theorem readBack_of_sublist {rows : List Row} {items : List Stamped}
    (encoded : rows.Sublist (items.map (Stamped.row json)))
    (reads : ∀ item ∈ items, (item.row json).message? json = some item.action)
    (sent : items.map Stamped.action <+: polls.map fun poll => poll.2.action) :
    ReadBack json rows polls := by
  obtain ⟨kept, listed, rfl⟩ := List.sublist_map_iff.mp encoded
  obtain ⟨origins, chosen, same⟩ :=
    List.sublist_map_iff.mp ((listed.map Stamped.action).trans sent.sublist)
  refine ⟨origins, chosen, ?_⟩
  have read : (kept.map (Stamped.row json)).map (Row.message? json) =
      (kept.map Stamped.action).map some := by
    rw [List.map_map, List.map_map]
    apply List.map_congr_left
    intro item member
    exact reads item (listed.subset member)
  rw [read, same, List.map_map]
  rfl

theorem endToEnd_of_sent (holds : Accounts json config gateway)
    (recorded : Recorded config gateway) (decodes : Decodes json gateway)
    (sent : gateway.aggregatorQueue.sent = polls.map fun poll => poll.2.action)
    (sameDevice : ∀ attributes timeseries,
      .sendBoth attributes timeseries ∈ gateway.aggregatorQueue.sent → attributes.1 = timeseries.1) :
    EndToEnd json config gateway polls := by
  have items := holds.storedItems_prefix
  have each : ∀ item ∈ gateway.storedItems, (item.row json).message? json = some item.action := by
    intro item member
    have known := items.subset (List.mem_map_of_mem member)
    exact Stamped.row_message decodes known (sameDevice _ _ known)
  rw [sent] at items
  refine ⟨?_, ?_, ?_, holds.delivered⟩
  · exact readBack_of_sublist (holds.table.trans (holds.rows recorded)) each items
  · intro backup member
    exact readBack_of_sublist ((holds.snapshots backup member).trans (holds.rows recorded)) each items
  · refine holds.published_prefix.trans ?_
    obtain ⟨later, whole⟩ := items
    rw [List.map_flatMap]
    have first : (gateway.storedItems.flatMap fun item =>
        (item.transportActions json).map (MqttTransport.message config.mqtt)) =
        (gateway.storedItems.map Stamped.action).flatMap
          (AggregatorAction.publications json config) := by
      rw [List.flatMap_map]
      rfl
    have all : (polls.flatMap fun poll => poll.2.action.publications json config) =
        (polls.map fun poll => poll.2.action).flatMap
          (AggregatorAction.publications json config) := by
      rw [List.flatMap_map]
    rw [first, all, ← whole, List.flatMap_append]
    exact List.prefix_append _ _

end Origins

end Reading

end Gateway

/-- The polls behind all that is stored and published. -/
theorem exists_polls_from {ι : Type} [DecidableEq ι] {json : SerdeJson} {rmodbus : Rmodbus}
    {profile : Profile} {config : MainConfig} {channels : ι → ChannelThread} {initial : Gateway}
    (accounts : Gateway.Accounts json config initial)
    (recorded : Gateway.Recorded config initial) (unsent : initial.aggregatorQueue.sent = [])
    {moves : List (Move Gateway.Step fun index => (channels index).agent rmodbus profile)}
    {after : Together Gateway fun index => (channels index).agent rmodbus profile}
    (executed : ((Gateway.machineFrom json config initial).together _ Gateway.Step.message?
      .channelSend).run moves = some after)
    (decodes : Gateway.Decodes json after.state) :
    ∃ polls : List (ι × Poll rmodbus),
      (∀ index, Polled (channels index) (after.threads index) (messagesOf index polls)) ∧
        EndToEnd json config after.state polls := by
  have splits : Splits (Gateway.machineFrom json config initial) _ Gateway.Step.message? after :=
    together_splits (fun _ => rfl) executed
  obtain ⟨labels, sends, split⟩ := splits
  have each : ∀ index, ∃ polls, Polled (channels index) (after.threads index) polls ∧
      polls.map Poll.action = (messagesOf index sends).map ChannelMessage.action :=
    fun index => (channels index).polled (split.threads index)
  choose logs polled described using each
  have matching : ∀ index, (logs index).map Poll.action =
      messagesOf index (sends.map fun send => (send.1, send.2.action)) := by
    intro index
    rw [described index, messagesOf_map]
  obtain ⟨polls, merged, own⟩ := exists_merged Poll.action matching
  refine ⟨polls, fun index => by rw [own index]; exact polled index, ?_⟩
  have holds : Gateway.Accounts json config after.state :=
    Machine.invariant_always Gateway.step_accounts accounts split.executed
  have recorded : Gateway.Recorded config after.state :=
    Machine.invariant_always Gateway.step_recorded recorded split.executed
  have queue := Gateway.run_aggregatorQueue unsent split.executed
  rw [split.delivered, List.map_map] at queue
  refine Gateway.endToEnd_of_sent holds recorded decodes ?_ ?_
  · have order := congrArg (List.map Prod.snd) merged
    rw [List.map_map, List.map_map] at order
    exact queue.trans order.symm
  · intro attributes timeseries member
    rw [queue] at member
    obtain ⟨send, _, same⟩ := List.mem_map.mp member
    exact Gateway.channelMessage_sameDevice send.2 same.symm

theorem exists_polls {ι : Type} [DecidableEq ι] {json : SerdeJson} {rmodbus : Rmodbus}
    {profile : Profile} {config : MainConfig} {channels : ι → ChannelThread}
    {moves : List (Move Gateway.Step fun index => (channels index).agent rmodbus profile)}
    {after : Together Gateway fun index => (channels index).agent rmodbus profile}
    (executed : (system json rmodbus profile config channels).run moves = some after)
    (decodes : Gateway.Decodes json after.state) :
    ∃ polls : List (ι × Poll rmodbus),
      (∀ index, Polled (channels index) (after.threads index) (messagesOf index polls)) ∧
        EndToEnd json config after.state polls :=
  exists_polls_from Gateway.start_accounts Gateway.start_recorded rfl executed decodes

/-- However the threads interleave and whatever fails, each row of the table and of every
backup reads back as the exact report of one poll of one slave, in the order the polls
were sent in, none twice; and a publish is tried for the messages of all polls in order. -/
theorem every_row_is_a_poll {ι : Type} [DecidableEq ι] (json : SerdeJson) (rmodbus : Rmodbus)
    (profile : Profile) (config : MainConfig) (channels : ι → ChannelThread)
    (moves : List (Move Gateway.Step fun index => (channels index).agent rmodbus profile))
    (after : Together Gateway fun index => (channels index).agent rmodbus profile)
    (executed : (system json rmodbus profile config channels).run moves = some after)
    (decodes : Gateway.Decodes json after.state) :
    ∃ polls : List (ι × Poll rmodbus),
      (∀ index, Polled (channels index) (after.threads index) (messagesOf index polls)) ∧
        EndToEnd json config after.state polls :=
  exists_polls executed decodes

namespace Gateway.Sample

def meterThread : Unit → ChannelThread := fun _ => .modbusTcp [Modbus.Sample.meter "a" 1] 255

def meterMessage : AggregatorAction := .sendBoth ("a", ∅) ("a", [⟨0, values "power" "1"⟩])

/-- `serde_json` on the meter's message. -/
def meterJson : SerdeJson where
  timeseries _ _ := "\x7b\"a\":[\x7b\"ts\":0,\"values\":\x7b\"power\":\"1\"\x7d\x7d]\x7d"
  attributes _ _ := "\x7b\"a\":\x7b\x7d\x7d"
  readTimeseries _ := some ("a", [⟨0, values "power" "1"⟩])
  readAttributes _ := some ("a", ∅)

theorem meterJson_decodes {gateway : Gateway}
    (sent : ∀ action ∈ gateway.aggregatorQueue.sent, action = meterMessage) :
    Decodes meterJson gateway := by
  intro attributes timeseries member
  cases sent _ member
  exact ⟨rfl, rfl⟩

/-- One poll of the meter, stored and published, and the start of the next. -/
def onePoll (rmodbus : Rmodbus) (now : UtcDateTime) :
    List (Move Step fun index => (meterThread index).agent rmodbus .release) :=
  (Modbus.Sample.poll true ++ [Modbus.Sample.outcome true, Modbus.Sample.outcome true]).map
      (fun choice => .thread () choice) ++
    [.own .aggregatorRecv, .own (.stamp now), .own .sendToStorage, .own (.storageTurn (turn now)),
      .own .sendTimeseries, .own .sendAttributes, .own (.connect true), .own (.publish true),
      .own (.publish true)]

end Gateway.Sample

theorem every_row_is_a_poll_one_meter :
    ∃ after, (system Gateway.Sample.meterJson Rmodbus.reference .release Gateway.Sample.config
        Gateway.Sample.meterThread).run
        (Gateway.Sample.onePoll Rmodbus.reference (Gateway.Sample.reading 100 0)) = some after ∧
      after.state.storage.messages.length = 1 ∧ after.state.published.length = 2 ∧
      ∃ polls : List (Unit × Poll Rmodbus.reference),
        (∀ index, Polled (Gateway.Sample.meterThread index) (after.threads index)
          (messagesOf index polls)) ∧
        EndToEnd Gateway.Sample.meterJson Gateway.Sample.config after.state polls := by
  have counts : ((system Gateway.Sample.meterJson Rmodbus.reference .release Gateway.Sample.config
      Gateway.Sample.meterThread).run
      (Gateway.Sample.onePoll Rmodbus.reference (Gateway.Sample.reading 100 0))).map
        (fun after => (after.state.storage.messages.length, after.state.published.length,
          after.state.aggregatorQueue.sent)) =
      some (1, 2, [Gateway.Sample.meterMessage]) := by decide +kernel
  obtain ⟨after, ran, found⟩ := Option.map_eq_some_iff.mp counts
  obtain ⟨stored, found⟩ := Prod.mk.inj found
  obtain ⟨published, sent⟩ := Prod.mk.inj found
  have decodes : Gateway.Decodes Gateway.Sample.meterJson after.state :=
    Gateway.Sample.meterJson_decodes fun action member => by
      rw [sent] at member
      exact List.mem_singleton.mp member
  exact ⟨after, ran, stored, published, every_row_is_a_poll Gateway.Sample.meterJson
    Rmodbus.reference .release Gateway.Sample.config Gateway.Sample.meterThread
    (Gateway.Sample.onePoll Rmodbus.reference (Gateway.Sample.reading 100 0)) after ran decodes⟩

end StsGateway
