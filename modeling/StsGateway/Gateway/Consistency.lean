import StsGateway.Gateway
import StsGateway.Data.History

namespace StsGateway

open Data

/-! Store and transport agree, at every point between the aggregator's sends. -/

namespace Queued

def insert? (queued : Queued) : Option Insert :=
  match queued.action with
  | .insertBoth insert => some insert
  | _ => none

def row? (queued : Queued) : Option Row :=
  queued.insert?.bind fun insert => insert.row.toOption

end Queued

namespace Gateway

/-- Insertions succeed and no action panics. -/
def Lossless (gateway : Gateway) : Step → Prop
  | .storageTurn turn => turn.insert.succeeds = true ∧
      ∀ queued ∈ gateway.storageQueue.waiting.head?,
        (gateway.storage.process turn queued.action).isOk = true
  | _ => True

instance (gateway : Gateway) : ∀ label, Decidable (gateway.Lossless label)
  | .storageTurn _ => inferInstanceAs (Decidable (_ ∧ _))
  | .channelSend _ | .aggregatorRecv | .stamp _ | .sendToStorage | .sendTimeseries
  | .sendAttributes | .backupJobTruncate _ | .backupJobBackup | .truncateJob | .connect _
  | .publish _ => isTrue trivial

def storedItems (gateway : Gateway) : List Stamped := gateway.handled ++ gateway.aggregator.stored

/-- How the queues, the table and the broker relate, wherever the aggregator stands. -/
structure Consistent (json : SerdeJson) (config : MainConfig) (gateway : Gateway) : Prop where
  alive : gateway.storagePanicked = false
  sameDevice : ∀ attributes timeseries,
    .sendBoth attributes timeseries ∈ gateway.aggregatorQueue.sent → attributes.1 = timeseries.1
  received : gateway.aggregatorQueue.received =
    gateway.handled.map Stamped.action ++ gateway.aggregator.inHand
  storageSent : gateway.storageQueue.sent.filterMap Queued.insert? =
    gateway.storedItems.map (Stamped.insert json)
  inserted : gateway.inserted = gateway.storageQueue.received.filterMap Queued.row?
  transportSent : gateway.transportQueue.sent =
    gateway.handled.flatMap (Stamped.transportActions json) ++ gateway.aggregator.transported json
  published : gateway.published =
    gateway.transportQueue.received.map (MqttTransport.message config.mqtt)

section Steps

variable {json : SerdeJson} {config : MainConfig} {before next : Gateway}

theorem sendStorage_alive {queued : Queued} (alive : before.storagePanicked = false) :
    before.sendStorage queued =
      { before with storageQueue := before.storageQueue.send queued } := by
  simp [sendStorage, alive]

theorem rowsAppended_process {storage after : SqliteStorage} {turn : Turn} {queued : Queued}
    (succeeds : turn.insert.succeeds = true)
    (executed : storage.process turn queued.action = .ok after) :
    rowsAppended queued.action storage.messages after.messages = queued.row?.toList := by
  obtain ⟨sender, action⟩ := queued
  cases action with
  | insertBoth insert =>
      cases bound : insert.row with
      | error panic =>
          simp only [InsertOutcome.succeeds, Bool.and_eq_true] at succeeds
          simp [SqliteStorage.process, SqliteStorage.insertBoth, bound, succeeds] at executed
      | ok row =>
          rw [SqliteStorage.process_insertBoth bound succeeds] at executed
          cases executed
          simp [rowsAppended, Queued.row?, Queued.insert?, bound, Except.toOption]
  | insertAttributes insert => rfl
  | insertTimeseries insert => rfl
  | closeDb => rfl
  | backupDb path => rfl
  | truncate mode => rfl
  | timeout => rfl

theorem channelMessage_sameDevice (message : ChannelMessage) {attributes : AttributeMessage}
    {timeseries : TimeseriesMessage} (sent : .sendBoth attributes timeseries = message.action) :
    attributes.1 = timeseries.1 := by
  obtain ⟨deviceName, values, telemetries, built⟩ := message.sameDevice
  rw [built] at sent
  cases sent
  rfl

theorem start_consistent : Consistent json config start where
  alive := rfl
  sameDevice := by simp [start]
  received := rfl
  storageSent := rfl
  inserted := rfl
  transportSent := rfl
  published := rfl

theorem Consistent.sendStorage (holds : Consistent json config before) (queued : Queued)
    (noInsert : queued.insert? = none) : Consistent json config (before.sendStorage queued) := by
  rw [sendStorage_alive holds.alive]
  exact { holds with
    storageSent := by
      rw [Mpsc.sent_send, List.filterMap_append, holds.storageSent]
      simp [storedItems, noInsert] }

theorem step_consistent {label : Step} (holds : Consistent json config before)
    (lossless : Lossless before label) (stepped : step json config before label = some next) :
    Consistent json config next := by
  cases label with
  | channelSend message =>
      cases stepped
      refine { holds with sameDevice := ?_, received := ?_ }
      · intro attributes timeseries member
        rw [Mpsc.sent_send, List.mem_append, List.mem_singleton] at member
        rcases member with member | built
        · exact holds.sameDevice attributes timeseries member
        · exact channelMessage_sameDevice message built
      · exact holds.received
  | aggregatorRecv =>
      obtain ⟨attributes, timeseries, queue, receiving, taken, rfl⟩ := aggregatorRecv_some stepped
      obtain ⟨received, sent⟩ := Mpsc.recv?_some taken
      have past := holds.received
      have stored := holds.storageSent
      have transported := holds.transportSent
      rw [receiving] at past transported
      rw [storedItems, receiving] at stored
      refine { holds with sameDevice := ?_, received := ?_, storageSent := stored,
                          transportSent := transported }
      · intro first second member
        rw [sent] at member
        exact holds.sameDevice first second member
      · rw [received, past, AggregatorPoint.inHand, List.append_nil]
        rfl
  | stamp now =>
      obtain ⟨attributes, timeseries, stamping, rfl⟩ := stamp_some stepped
      have past := holds.received
      have stored := holds.storageSent
      have transported := holds.transportSent
      rw [stamping] at past transported
      rw [storedItems, stamping] at stored
      exact { holds with received := past, storageSent := stored, transportSent := transported }
  | sendToStorage =>
      obtain ⟨item, sending, rfl⟩ := sendToStorage_some stepped
      rw [sendStorage_alive holds.alive]
      have past := holds.received
      have stored := holds.storageSent
      have transported := holds.transportSent
      rw [sending] at past transported
      rw [storedItems, sending] at stored
      refine { holds with received := past, storageSent := ?_, transportSent := transported }
      rw [Mpsc.sent_send, List.filterMap_append, stored]
      simp [storedItems, AggregatorPoint.stored, Queued.insert?]
  | sendTimeseries =>
      obtain ⟨item, sending, rfl⟩ := sendTimeseries_some stepped
      have past := holds.received
      have stored := holds.storageSent
      have transported := holds.transportSent
      rw [sending] at past transported
      rw [storedItems, sending] at stored
      refine { holds with received := past, storageSent := stored, transportSent := ?_ }
      rw [Mpsc.sent_send, transported]
      simp [AggregatorPoint.transported]
  | sendAttributes =>
      obtain ⟨item, sending, rfl⟩ := sendAttributes_some stepped
      have past := holds.received
      have stored := holds.storageSent
      have transported := holds.transportSent
      rw [sending] at past transported
      rw [storedItems, sending] at stored
      refine { holds with received := ?_, storageSent := ?_, transportSent := ?_ }
      · rw [past]
        simp [AggregatorPoint.inHand]
      · rw [stored]
        simp [storedItems, AggregatorPoint.stored]
      · rw [Mpsc.sent_send, transported]
        simp [AggregatorPoint.transported, Stamped.transportActions]
  | backupJobTruncate path =>
      obtain ⟨idle, rfl⟩ := backupJobTruncate_some stepped
      have sent := holds.sendStorage ⟨.backupJob before.jobRuns, configuredTruncate config⟩ rfl
      exact { sent with }
  | backupJobBackup =>
      obtain ⟨path, sending, rfl⟩ := backupJobBackup_some stepped
      have sent := holds.sendStorage ⟨.backupJob before.jobRuns, .backupDb path⟩ rfl
      exact { sent with }
  | truncateJob =>
      rw [truncateJob_some stepped]
      exact holds.sendStorage _ rfl
  | storageTurn turn =>
      obtain ⟨queued, queue, alive, taken, outcome⟩ := storageTurn_some stepped
      obtain ⟨succeeds, returns⟩ := lossless
      obtain ⟨received, sent⟩ := Mpsc.recv?_some taken
      rcases outcome with ⟨panic, failed, _⟩ | ⟨storage, executed, rfl⟩
      · have returned := returns queued (Mpsc.recv?_head taken)
        rw [failed] at returned
        contradiction
      · refine { holds with storageSent := ?_, inserted := ?_ }
        · rw [sent]
          exact holds.storageSent
        · rw [received, List.filterMap_append, ← holds.inserted,
            rowsAppended_process succeeds executed]
          cases stored : queued.row? <;> simp [stored]
  | connect succeeds =>
      cases stepped
      exact { holds with }
  | publish succeeds =>
      obtain ⟨action, queue, taken, rfl⟩ := publish_some stepped
      obtain ⟨received, sent⟩ := Mpsc.recv?_some taken
      refine { holds with transportSent := ?_, published := ?_ }
      · rw [sent]
        exact holds.transportSent
      · rw [received, List.map_append, ← holds.published]
        rfl

end Steps

/-! ### What the invariant says about stored rows and publish attempts -/

theorem flatMap_transportActions (json : SerdeJson) (items : List Stamped) (index : Nat) :
    (items.flatMap (Stamped.transportActions json))[2 * index]? =
        items[index]?.map (fun item => .sendTimeseries (item.timeseriesMessage json)) ∧
      (items.flatMap (Stamped.transportActions json))[2 * index + 1]? =
        items[index]?.map (fun item => .sendAttributes (item.attributesMessage json)) := by
  induction items generalizing index with
  | nil => simp
  | cons item rest ih =>
      cases index with
      | zero => simp [Stamped.transportActions]
      | succ index =>
          have even : 2 * (index + 1) = 2 * index + 2 := by omega
          have odd : 2 * (index + 1) + 1 = 2 * index + 1 + 2 := by omega
          rw [odd, even]
          simpa [Stamped.transportActions] using ih index

/-- The store and the transport get the same messages: exactly those the channels
sent, in that order, with a row and two publish attempts for each. -/
structure StoreAndTransportAgree (json : SerdeJson) (config : MainConfig) (gateway : Gateway) :
    Prop where
  handled : gateway.aggregatorQueue.received =
    gateway.handled.map Stamped.action ++ gateway.aggregator.inHand
  insertsSent : gateway.storageQueue.sent.filterMap Queued.insert? =
    gateway.handled.map (Stamped.insert json) ++ gateway.aggregator.stored.map (Stamped.insert json)
  inserted : gateway.inserted <+: (gateway.storageQueue.sent.filterMap Queued.insert?).filterMap
    fun insert => insert.row.toOption
  actionsSent : gateway.transportQueue.sent =
    gateway.handled.flatMap (Stamped.transportActions json) ++ gateway.aggregator.transported json
  published : gateway.published <+:
    gateway.transportQueue.sent.map (MqttTransport.message config.mqtt)
  timeseriesBytes : ∀ (index : Nat) (row : Row) (message : MqttMessage),
    gateway.inserted[index]? = some row → gateway.published[2 * index]? = some message →
      message.topic = MqttTransport.tbDeviceTelemetriTopic ∧
        message.payload = row.timeseriesMessage.toUTF8
  attributesBytes : ∀ (index : Nat) (row : Row) (message : MqttMessage),
    gateway.inserted[index]? = some row → gateway.published[2 * index + 1]? = some message →
      message.topic = MqttTransport.tbDeviceAttributesTopic ∧
        message.payload = row.attributesMessage.toUTF8
  decoded : ∀ (index : Nat) (row : Row) (attributes : AttributeMessage)
    (timeseries : TimeseriesMessage), gateway.inserted[index]? = some row →
    gateway.aggregatorQueue.sent[index]? = some (.sendBoth attributes timeseries) →
      json.readTimeseries row.timeseriesMessage = some timeseries ∧
        json.readAttributes row.attributesMessage = some attributes ∧
        row.deviceName = timeseries.1 ∧ row.deviceName = attributes.1

/-- What encoding promises about the messages of a run. -/
def Decodes (json : SerdeJson) (gateway : Gateway) : Prop :=
  ∀ attributes timeseries, .sendBoth attributes timeseries ∈ gateway.aggregatorQueue.sent →
    json.readTimeseries (json.timeseries timeseries.1 timeseries.2) = some timeseries ∧
      json.readAttributes (json.attributes timeseries.1 attributes.2) =
        some (timeseries.1, attributes.2)

section Agreement

variable {json : SerdeJson} {config : MainConfig} {gateway : Gateway}

namespace Consistent

theorem filterMap_row (holds : Consistent json config gateway) :
    gateway.storageQueue.sent.filterMap Queued.row? =
      gateway.storedItems.map (Stamped.row json) := by
  have rows : gateway.storageQueue.sent.filterMap Queued.row? =
      (gateway.storageQueue.sent.filterMap Queued.insert?).filterMap
        fun insert => insert.row.toOption := by
    rw [List.filterMap_filterMap]
    rfl
  rw [rows, holds.storageSent, List.filterMap_map]
  exact congrFun List.filterMap_eq_map gateway.storedItems

theorem inserted_prefix (holds : Consistent json config gateway) :
    gateway.inserted <+: gateway.storedItems.map (Stamped.row json) := by
  rw [holds.inserted, ← holds.filterMap_row]
  exact Mpsc.filterMap_received_prefix _ _

theorem transported_prefix (holds : Consistent json config gateway) :
    gateway.transportQueue.sent <+:
      gateway.storedItems.flatMap (Stamped.transportActions json) := by
  rw [holds.transportSent, storedItems, List.flatMap_append, List.prefix_append_right_inj]
  cases gateway.aggregator <;>
    simp [AggregatorPoint.transported, AggregatorPoint.stored, Stamped.transportActions]

theorem published_prefix (holds : Consistent json config gateway) :
    gateway.published <+: (gateway.storedItems.flatMap (Stamped.transportActions json)).map
      (MqttTransport.message config.mqtt) := by
  rw [holds.published]
  exact (gateway.transportQueue.received_prefix.trans holds.transported_prefix).map _

theorem row_of_index (holds : Consistent json config gateway) {index : Nat} {row : Row}
    (stored : gateway.inserted[index]? = some row) :
    ∃ item, gateway.storedItems[index]? = some item ∧ row = item.row json := by
  have found := getElem?_of_prefix holds.inserted_prefix stored
  rw [List.getElem?_map, Option.map_eq_some_iff] at found
  obtain ⟨item, present, same⟩ := found
  exact ⟨item, present, same.symm⟩

theorem item_sent (holds : Consistent json config gateway) {index : Nat} {item : Stamped}
    (present : gateway.storedItems[index]? = some item) :
    gateway.aggregatorQueue.sent[index]? = some item.action := by
  have actions : gateway.storedItems.map Stamped.action <+: gateway.aggregatorQueue.sent := by
    refine List.IsPrefix.trans ?_ gateway.aggregatorQueue.received_prefix
    rw [holds.received, storedItems, List.map_append, List.prefix_append_right_inj]
    cases gateway.aggregator <;> simp [AggregatorPoint.inHand, AggregatorPoint.stored]
  apply getElem?_of_prefix actions
  rw [List.getElem?_map, present]
  rfl

theorem agree (holds : Consistent json config gateway) (decodes : Decodes json gateway) :
    StoreAndTransportAgree json config gateway where
  handled := holds.received
  insertsSent := by rw [holds.storageSent, storedItems, List.map_append]
  inserted := by
    rw [holds.storageSent, List.filterMap_map]
    have rows := holds.inserted_prefix
    rw [← List.filterMap_eq_map] at rows
    exact rows
  actionsSent := holds.transportSent
  published := by
    rw [holds.published]
    exact gateway.transportQueue.received_prefix.map _
  timeseriesBytes := by
    intro index row message stored sent
    obtain ⟨item, present, rfl⟩ := holds.row_of_index stored
    have found := getElem?_of_prefix holds.published_prefix sent
    rw [List.getElem?_map, (flatMap_transportActions json _ index).1, present] at found
    cases found
    exact ⟨rfl, rfl⟩
  attributesBytes := by
    intro index row message stored sent
    obtain ⟨item, present, rfl⟩ := holds.row_of_index stored
    have found := getElem?_of_prefix holds.published_prefix sent
    rw [List.getElem?_map, (flatMap_transportActions json _ index).2, present] at found
    cases found
    exact ⟨rfl, rfl⟩
  decoded := by
    intro index row attributes timeseries stored sent
    obtain ⟨item, present, rfl⟩ := holds.row_of_index stored
    rw [holds.item_sent present] at sent
    obtain ⟨ts, sentAttributes, sentTimeseries⟩ := item
    cases sent
    have member := List.mem_of_getElem? (holds.item_sent present)
    have sameDevice := holds.sameDevice sentAttributes sentTimeseries member
    obtain ⟨readTimeseries, readAttributes⟩ := decodes sentAttributes sentTimeseries member
    rw [← sameDevice] at readAttributes
    refine ⟨readTimeseries, ?_, rfl, sameDevice.symm⟩
    rw [← readAttributes, sameDevice]
    rfl

end Consistent

theorem store_and_transport_agree (labels : List Step)
    (lossless : (machine json config).StepsMeet Lossless start labels)
    (executed : (machine json config).run labels = some gateway)
    (decodes : Decodes json gateway) : StoreAndTransportAgree json config gateway := by
  have consistent : Consistent json config gateway :=
    Machine.invariant_run step_consistent start_consistent lossless executed
  exact consistent.agree decodes

end Agreement

theorem store_and_transport_agree_once :
    ∃ gateway, (machine Sample.json Sample.config).run Sample.oneMessage = some gateway ∧
      gateway.inserted.length = 1 ∧ gateway.published.length = 2 ∧
        StoreAndTransportAgree Sample.json Sample.config gateway := by
  refine ⟨_, rfl, rfl, rfl, store_and_transport_agree Sample.oneMessage ?_ rfl ?_⟩
  · decide
  · intro attributes timeseries member
    cases List.mem_singleton.mp member
    exact ⟨rfl, rfl⟩

end Gateway

end StsGateway
