import StsGateway.Gateway.Retention

namespace StsGateway

open Data

/-! Where every message is, whatever fails.

The other results about the store assume that insertions succeed. Here nothing is
assumed: any statement, commit, backup or cutoff may fail or panic, and the clock
may show anything.
-/

/-- The rows these actions added. A message whose transaction or statement failed is
logged and lost. -/
def storedRows (processed : List Processed) : List Row :=
  (processed.filter fun entry => entry.turn.insert.succeeds).filterMap fun entry => entry.queued.row?

/-- The item the aggregator has stamped and not yet sent to all. -/
def AggregatorPoint.items : AggregatorPoint → List Stamped
  | receiving | stamping _ _ => []
  | sendingToStorage item | sendingTimeseries item | sendingAttributes item => [item]

namespace Gateway

structure Accounts (json : SerdeJson) (config : MainConfig) (gateway : Gateway) : Prop where
  received : gateway.aggregatorQueue.received =
    gateway.handled.map Stamped.action ++ gateway.aggregator.inHand
  stamped : ∀ item ∈ gateway.handled ++ gateway.aggregator.items,
    ∃ reading ∈ gateway.readings, item.ts = reading.timestampMillis
  storageSent : gateway.storageQueue.sent.filterMap Queued.insert? <+:
    gateway.storedItems.map (Stamped.insert json)
  storageSentAll : gateway.storagePanicked = false →
    gateway.storageQueue.sent.filterMap Queued.insert? =
      gateway.storedItems.map (Stamped.insert json)
  inserted : gateway.inserted = storedRows gateway.processed
  table : gateway.storage.messages.Sublist gateway.inserted
  snapshots : ∀ backup ∈ gateway.storage.backups, backup.rows.Sublist gateway.inserted
  transportSent : gateway.transportQueue.sent =
    gateway.handled.flatMap (Stamped.transportActions json) ++ gateway.aggregator.transported json
  published : gateway.published =
    gateway.transportQueue.received.map (MqttTransport.message config.mqtt)
  delivered : gateway.delivered.Sublist gateway.published

/-- What holds of the store and the broker in every run: nothing is invented, stored
twice or reordered, and a message is missing only for a reason given here. What the
transport tried to publish has no gap; what was delivered may have some. -/
structure AccountedFor (json : SerdeJson) (config : MainConfig) (gateway : Gateway) : Prop where
  handled : gateway.aggregatorQueue.received =
    gateway.handled.map Stamped.action ++ gateway.aggregator.inHand
  timestamps : ∀ item ∈ gateway.handled, ∃ reading ∈ gateway.readings,
    item.ts = reading.timestampMillis
  rows : gateway.inserted.Sublist (gateway.storedItems.map (Stamped.row json))
  kept : gateway.storage.messages.Sublist gateway.inserted
  snapshots : ∀ backup ∈ gateway.storage.backups, backup.rows.Sublist gateway.inserted
  published : gateway.published <+: (gateway.storedItems.flatMap (Stamped.transportActions json)).map
    (MqttTransport.message config.mqtt)
  delivered : gateway.delivered.Sublist gateway.published
  inserted : gateway.inserted = storedRows gateway.processed
  processed : gateway.processed.map Processed.queued <+: gateway.storageQueue.sent
  missing : gateway.storagePanicked = false →
    gateway.processed.map Processed.queued = gateway.storageQueue.received ∧
      gateway.storageQueue.sent.filterMap Queued.insert? =
        gateway.storedItems.map (Stamped.insert json)

section Steps

variable {json : SerdeJson} {config : MainConfig} {before next gateway : Gateway}

theorem rowsAppended_stored {storage after : SqliteStorage} {turn : Turn} {queued : Queued}
    (executed : storage.process turn queued.action = .ok after) (earlier later inserted : List Row) :
    rowsAppended queued.action storage.messages after.messages =
      storedRows [⟨queued, turn, earlier, later, inserted⟩] := by
  cases succeeds : turn.insert.succeeds with
  | true =>
      rw [rowsAppended_process succeeds executed]
      cases stored : queued.row? <;> simp [storedRows, succeeds, stored]
  | false =>
      have nothing : storedRows [⟨queued, turn, earlier, later, inserted⟩] = [] := by
        simp [storedRows, succeeds]
      rw [nothing]
      obtain ⟨sender, action⟩ := queued
      cases action with
      | insertBoth insert =>
          have same : after = storage := by
            simp only [SqliteStorage.process, SqliteStorage.insertBoth] at executed
            split at executed
            · exact (Except.ok.inj executed).symm
            · rename_i begun
              obtain ⟨row, _, finished⟩ := bind_eq_ok.mp executed
              split at finished
              · contradiction
              · rename_i committed
                split at finished
                · exact (Except.ok.inj finished).symm
                · rename_i written
                  simp_all [InsertOutcome.succeeds]
          simp [rowsAppended, same]
      | insertAttributes insert => rfl
      | insertTimeseries insert => rfl
      | closeDb => rfl
      | backupDb path => rfl
      | truncate mode => rfl
      | timeout => rfl

theorem process_sublist {storage after : SqliteStorage} {turn : Turn} {queued : Queued}
    (executed : storage.process turn queued.action = .ok after) :
    after.messages.Sublist
      (storage.messages ++ rowsAppended queued.action storage.messages after.messages) := by
  cases isTruncate : queued.action.isTruncate with
  | false =>
      rw [← process_appends isTruncate executed]
  | true =>
      obtain ⟨⟨olderThan⟩, same⟩ := isTruncate_iff.mp isTruncate
      rw [same] at executed
      obtain ⟨old, _, rfl⟩ := SqliteStorage.process_truncate.mp executed
      refine List.Sublist.trans ?_ (List.sublist_append_left _ _)
      split
      · exact List.filter_sublist
      · exact List.Sublist.refl _

theorem storedRows_append (earlier later : List Processed) :
    storedRows (earlier ++ later) = storedRows earlier ++ storedRows later := by
  simp [storedRows]

theorem start_accounts : Accounts json config start where
  received := rfl
  stamped := by simp [start, AggregatorPoint.items]
  storageSent := List.prefix_rfl
  storageSentAll _ := rfl
  inserted := rfl
  table := .slnil
  snapshots := by simp [start]
  transportSent := rfl
  published := rfl
  delivered := .slnil

theorem Accounts.sendStorage (holds : Accounts json config before) (queued : Queued)
    (noInsert : queued.insert? = none) : Accounts json config (before.sendStorage queued) := by
  cases panicked : before.storagePanicked with
  | true => simpa [Gateway.sendStorage, panicked] using holds
  | false =>
      rw [sendStorage_alive panicked]
      have same : (before.storageQueue.send queued).sent.filterMap Queued.insert? =
          before.storageQueue.sent.filterMap Queued.insert? := by
        simp [noInsert]
      exact { holds with
        storageSent := by
          rw [same]
          exact holds.storageSent
        storageSentAll := by
          rw [same]
          exact holds.storageSentAll }

theorem step_accounts {label : Step} (holds : Accounts json config before)
    (stepped : step json config before label = some next) : Accounts json config next := by
  have received := holds.received
  have stamped := holds.stamped
  have sent := holds.storageSent
  have sentAll := holds.storageSentAll
  have transported := holds.transportSent
  cases label with
  | channelSend message =>
      cases stepped
      exact { holds with received := received }
  | aggregatorRecv =>
      obtain ⟨attributes, timeseries, queue, receiving, taken, rfl⟩ := aggregatorRecv_some stepped
      rw [receiving] at received transported stamped
      rw [storedItems, receiving] at sent sentAll
      refine { holds with received := ?_, stamped := stamped,
                          storageSent := sent, storageSentAll := sentAll,
                          transportSent := transported }
      rw [(Mpsc.recv?_some taken).1, received, AggregatorPoint.inHand, List.append_nil]
      rfl
  | stamp now =>
      obtain ⟨attributes, timeseries, stamping, rfl⟩ := stamp_some stepped
      rw [stamping] at received transported stamped
      rw [storedItems, stamping] at sent sentAll
      refine { holds with received := received, stamped := ?_,
                          storageSent := sent, storageSentAll := sentAll,
                          transportSent := transported }
      intro item member
      rcases List.mem_append.mp member with member | member
      · obtain ⟨reading, known, same⟩ := stamped item (List.mem_append_left _ member)
        exact ⟨reading, List.mem_append_left _ known, same⟩
      · rw [List.mem_singleton.mp member]
        exact ⟨now, List.mem_append_right _ List.mem_cons_self, rfl⟩
  | sendToStorage =>
      obtain ⟨item, sending, rfl⟩ := sendToStorage_some stepped
      rw [sending] at received transported stamped
      rw [storedItems, sending] at sent sentAll
      have grown : before.handled.map (Stamped.insert json) <+:
          (before.handled ++ [item]).map (Stamped.insert json) := by
        rw [List.map_append]
        exact List.prefix_append _ _
      cases panicked : before.storagePanicked with
      | true =>
          simp only [Gateway.sendStorage, panicked, if_true]
          refine { holds with received := received, stamped := stamped,
                              storageSent := ?_, storageSentAll := ?_,
                              transportSent := transported }
          · rw [AggregatorPoint.stored, List.append_nil] at sent
            exact sent.trans grown
          · intro alive
            contradiction
      | false =>
          rw [sendStorage_alive panicked]
          have all : (before.storageQueue.send ⟨.aggregator, .insertBoth (item.insert json)⟩).sent.filterMap
              Queued.insert? = (before.handled ++ [item]).map (Stamped.insert json) := by
            rw [Mpsc.sent_send, List.filterMap_append, sentAll panicked]
            simp [AggregatorPoint.stored, Queued.insert?]
          refine { holds with received := received, stamped := stamped,
                              storageSent := ?_, storageSentAll := fun _ => all,
                              transportSent := transported }
          rw [all]
          exact List.prefix_rfl
  | sendTimeseries =>
      obtain ⟨item, sending, rfl⟩ := sendTimeseries_some stepped
      rw [sending] at received transported stamped
      rw [storedItems, sending] at sent sentAll
      refine { holds with received := received, stamped := stamped,
                          storageSent := sent, storageSentAll := sentAll, transportSent := ?_ }
      rw [Mpsc.sent_send, transported]
      simp [AggregatorPoint.transported]
  | sendAttributes =>
      obtain ⟨item, sending, rfl⟩ := sendAttributes_some stepped
      rw [sending] at received transported stamped
      rw [storedItems, sending] at sent sentAll
      refine { holds with received := ?_, stamped := ?_, storageSent := ?_,
                          storageSentAll := ?_, transportSent := ?_ }
      · rw [received]
        simp [AggregatorPoint.inHand]
      · simpa [AggregatorPoint.items] using stamped
      · simpa [storedItems, AggregatorPoint.stored] using sent
      · simpa [storedItems, AggregatorPoint.stored] using sentAll
      · rw [Mpsc.sent_send, transported]
        simp [AggregatorPoint.transported, Stamped.transportActions]
  | backupJobTruncate path =>
      obtain ⟨_, rfl⟩ := backupJobTruncate_some stepped
      have sent := holds.sendStorage ⟨.backupJob before.jobRuns, configuredTruncate config⟩ rfl
      exact { sent with }
  | backupJobBackup =>
      obtain ⟨path, _, rfl⟩ := backupJobBackup_some stepped
      have sent := holds.sendStorage ⟨.backupJob before.jobRuns, .backupDb path⟩ rfl
      exact { sent with }
  | truncateJob =>
      rw [truncateJob_some stepped]
      exact holds.sendStorage _ rfl
  | storageTurn turn =>
      obtain ⟨queued, queue, alive, taken, outcome⟩ := storageTurn_some stepped
      obtain ⟨_, unchanged⟩ := Mpsc.recv?_some taken
      have stamped : ∀ item ∈ before.handled ++ before.aggregator.items,
          ∃ reading ∈ before.readings ++ readingsOf queued.action turn,
            item.ts = reading.timestampMillis := by
        intro item member
        obtain ⟨reading, known, same⟩ := stamped item member
        exact ⟨reading, List.mem_append_left _ known, same⟩
      rcases outcome with ⟨panic, _, rfl⟩ | ⟨storage, executed, rfl⟩
      · exact { holds with
          stamped := stamped
          storageSent := by
            rw [unchanged]
            exact sent
          storageSentAll := by
            intro alive
            contradiction }
      · have added := rowsAppended_stored executed before.storage.messages storage.messages
          (before.inserted ++ rowsAppended queued.action before.storage.messages storage.messages)
        refine { holds with stamped := stamped, storageSent := ?_,
                            storageSentAll := ?_, inserted := ?_, table := ?_, snapshots := ?_ }
        · rw [unchanged]
          exact sent
        · rw [unchanged]
          exact sentAll
        · rw [storedRows_append, ← holds.inserted, ← added]
        · exact (process_sublist executed).trans (holds.table.append_right _)
        · intro backup member
          rw [@backup?_process _ _ _ _ before.inserted executed] at member
          rcases List.mem_append.mp member with member | member
          · exact (holds.snapshots backup member).trans (List.sublist_append_left _ _)
          · obtain ⟨sender, action⟩ := queued
            cases action with
            | backupDb path =>
                cases List.mem_singleton.mp member
                exact holds.table.trans (List.sublist_append_left _ _)
            | _ => contradiction
  | connect succeeds =>
      cases stepped
      exact { holds with }
  | publish succeeds =>
      obtain ⟨action, queue, taken, rfl⟩ := publish_some stepped
      obtain ⟨received, unchanged⟩ := Mpsc.recv?_some taken
      refine { holds with transportSent := ?_, published := ?_, delivered := ?_ }
      · rw [unchanged]
        exact transported
      · rw [received, List.map_append, ← holds.published]
        rfl
      · refine holds.delivered.append ?_
        split
        · exact List.Sublist.refl _
        · exact List.nil_sublist _

theorem filterMap_row (queued : List Queued) : queued.filterMap Queued.row? =
    (queued.filterMap Queued.insert?).filterMap fun insert => insert.row.toOption := by
  rw [List.filterMap_filterMap]
  rfl

theorem filterMap_insert_row (items : List Stamped) :
    ((items.map (Stamped.insert json)).filterMap fun insert => insert.row.toOption) =
      items.map (Stamped.row json) := by
  rw [List.filterMap_map]
  exact congrFun List.filterMap_eq_map items

theorem Accounts.rows (holds : Accounts json config gateway) (recorded : Recorded config gateway) :
    gateway.inserted.Sublist (gateway.storedItems.map (Stamped.row json)) := by
  have added : gateway.inserted.Sublist
      ((gateway.processed.map Processed.queued).filterMap Queued.row?) := by
    rw [holds.inserted, storedRows, List.filterMap_map]
    exact List.filter_sublist.filterMap _
  have executed : ((gateway.processed.map Processed.queued).filterMap Queued.row?).Sublist
      (gateway.storageQueue.sent.filterMap Queued.row?) :=
    ((recorded.received.trans gateway.storageQueue.received_prefix).filterMap _).sublist
  have sent : (gateway.storageQueue.sent.filterMap Queued.row?).Sublist
      (gateway.storedItems.map (Stamped.row json)) := by
    rw [filterMap_row, ← filterMap_insert_row]
    exact (holds.storageSent.filterMap _).sublist
  exact (added.trans executed).trans sent

theorem Accounts.published_prefix (holds : Accounts json config gateway) :
    gateway.published <+: (gateway.storedItems.flatMap (Stamped.transportActions json)).map
      (MqttTransport.message config.mqtt) := by
  have actions : gateway.transportQueue.sent <+:
      gateway.storedItems.flatMap (Stamped.transportActions json) := by
    rw [holds.transportSent, storedItems, List.flatMap_append, List.prefix_append_right_inj]
    cases gateway.aggregator <;>
      simp [AggregatorPoint.transported, AggregatorPoint.stored, Stamped.transportActions]
  rw [holds.published]
  exact (gateway.transportQueue.received_prefix.trans actions).map _

end Steps

theorem every_message_accounted (json : SerdeJson) (config : MainConfig) (labels : List Step)
    (gateway : Gateway) (executed : (machine json config).run labels = some gateway) :
    AccountedFor json config gateway := by
  have holds : Accounts json config gateway :=
    Machine.invariant_always step_accounts start_accounts executed
  have recorded : Recorded config gateway :=
    Machine.invariant_always step_recorded start_recorded executed
  exact {
    handled := holds.received
    timestamps := fun item member => holds.stamped item (List.mem_append_left _ member)
    rows := holds.rows recorded
    kept := holds.table
    snapshots := holds.snapshots
    published := holds.published_prefix
    delivered := holds.delivered
    inserted := holds.inserted
    processed := recorded.received.trans gateway.storageQueue.received_prefix
    missing := fun alive => ⟨recorded.receivedAll alive, holds.storageSentAll alive⟩ }

namespace Sample

/-- The `INSERT` and the first publish fail: the row is lost, and the broker gets only
the second half of the message. -/
def failedInsert (now : UtcDateTime) : List Step :=
  [.channelSend message, .aggregatorRecv, .stamp now, .sendToStorage,
    .storageTurn { turn now with insert := ⟨true, false, true, true⟩ },
    .sendTimeseries, .sendAttributes, .connect true, .publish false, .publish true]

end Sample

theorem every_message_accounted_failed_insert :
    ∃ gateway, (machine Sample.json Sample.config).run
        (Sample.failedInsert (Sample.reading 100 0)) = some gateway ∧
      gateway.inserted = [] ∧ gateway.published.length = 2 ∧ gateway.delivered.length = 1 ∧
        AccountedFor Sample.json Sample.config gateway :=
  ⟨_, rfl, rfl, rfl, rfl, every_message_accounted Sample.json Sample.config
    (Sample.failedInsert (Sample.reading 100 0)) _ rfl⟩

end Gateway

end StsGateway
