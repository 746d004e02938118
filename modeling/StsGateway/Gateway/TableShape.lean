import StsGateway.Gateway.Retention

namespace StsGateway

open Data

/-! The shape of the message table on a clock that never steps back. -/

namespace Gateway

/-- Clock readings never decrease, across threads, and every operation succeeds. -/
def ClockForward (gateway : Gateway) : Step → Prop
  | .stamp now => ∀ reading ∈ gateway.readings, reading.nanos ≤ now.nanos
  | .storageTurn turn =>
      (turn.insert.succeeds = true ∧ turn.delete = true ∧ turn.backup.succeeds = true) ∧
        ∀ queued ∈ gateway.storageQueue.waiting.head?, ∀ now ∈ readingsOf queued.action turn,
          ∀ reading ∈ gateway.readings, reading.nanos ≤ now.nanos
  | _ => True

instance (gateway : Gateway) : ∀ label, Decidable (gateway.ClockForward label)
  | .stamp _ => inferInstanceAs (Decidable (∀ _ ∈ gateway.readings, _))
  | .storageTurn _ => inferInstanceAs (Decidable (_ ∧ _))
  | .channelSend _ | .aggregatorRecv | .sendToStorage | .sendTimeseries | .sendAttributes
  | .backupJobTruncate _ | .backupJobBackup | .truncateJob | .connect _ | .publish _ =>
      isTrue trivial

/-- The stamps of all rows sent to storage, then that of the row being sent. -/
def stamps (gateway : Gateway) : List Int :=
  (gateway.storageQueue.sent.filterMap Queued.row?).map Row.ts ++
    match gateway.aggregator with
    | .sendingToStorage item => [item.ts]
    | _ => []

structure EntryShape (ttl : Int32) (earlier : List Processed) (entry : Processed) : Prop where
  truncated : entry.queued.action.isTruncate = true →
    entry.after = entry.inserted.filter fun row => cutoff ttl entry.turn.now ≤ row.ts
  copied : ∀ path, entry.queued.action = .backupDb path →
    ∃ dropped, entry.before = entry.inserted.drop dropped ∧
      ∀ own ∈ earlier, own.queued.action.isTruncate = true → own.inserted <+: entry.inserted ∧
        ∀ row ∈ own.inserted.drop dropped, cutoff ttl own.turn.now ≤ row.ts

/-- The table is the history without its first rows; those are older than any
window still to come, and the rest is inside every window so far. -/
def Windowed (ttl : Int32) (readings : List UtcDateTime) (processed : List Processed)
    (inserted messages : List Row) : Prop :=
  ∃ dropped ≤ inserted.length, messages = inserted.drop dropped ∧
    (∀ now : UtcDateTime, (∀ reading ∈ readings, reading.nanos ≤ now.nanos) →
      ∀ row ∈ inserted.take dropped, row.ts < cutoff ttl now) ∧
    ∀ own ∈ processed, own.queued.action.isTruncate = true →
      ∀ row ∈ own.inserted.drop dropped, cutoff ttl own.turn.now ≤ row.ts

section Window

variable {ttl : Int32} {readings : List UtcDateTime} {processed : List Processed}
  {inserted messages rows : List Row} {entry : Processed}

theorem Windowed.append (windowed : Windowed ttl readings processed inserted messages)
    (other : entry.queued.action.isTruncate = false) :
    Windowed ttl readings (processed ++ [entry]) (inserted ++ rows) (messages ++ rows) := by
  obtain ⟨dropped, bound, rfl, older, inside⟩ := windowed
  refine ⟨dropped, ?_, ?_, ?_, ?_⟩
  · rw [List.length_append]
    omega
  · rw [List.drop_append_of_le_length bound]
  · rw [List.take_append_of_le_length bound]
    exact older
  · intro own member isTruncate
    rw [List.mem_append, List.mem_singleton] at member
    rcases member with member | rfl
    · exact inside own member isTruncate
    · rw [other] at isTruncate
      contradiction

theorem Windowed.deleteNotBetween_eq (windowed : Windowed ttl readings processed inserted messages)
    {now : UtcDateTime} (forward : ∀ reading ∈ readings, reading.nanos ≤ now.nanos)
    (past : ∀ row ∈ inserted, row.ts ≤ now.timestampMillis) :
    deleteNotBetween messages (cutoff ttl now) now.timestampMillis =
      inserted.filter fun row => cutoff ttl now ≤ row.ts := by
  obtain ⟨dropped, bound, rfl, older, _⟩ := windowed
  rw [← filter_drop_eq (older now forward), deleteNotBetween]
  apply List.filter_congr
  intro row member
  simp [past row (List.mem_of_mem_drop member)]

theorem Windowed.truncate (windowed : Windowed ttl readings processed inserted messages)
    (entry : Processed) (sorted : inserted.Pairwise fun first second => first.ts ≤ second.ts)
    (forward : ∀ reading ∈ readings, reading.nanos ≤ entry.turn.now.nanos)
    (history : entry.inserted = inserted) :
    Windowed ttl (readings ++ [entry.turn.now]) (processed ++ [entry]) inserted
      (inserted.filter fun row => cutoff ttl entry.turn.now ≤ row.ts) := by
  obtain ⟨dropped, bound, rfl, older, inside⟩ := windowed
  obtain ⟨count, within, kept, below⟩ :=
    filter_eq_drop (sorted.sublist (List.drop_sublist dropped inserted)) (cutoff ttl entry.turn.now)
  rw [filter_drop_eq (older entry.turn.now forward), List.drop_drop] at kept
  rw [List.length_drop] at within
  refine ⟨dropped + count, by omega, kept, ?_, ?_⟩
  · intro now later row member
    rw [List.take_add, List.mem_append] at member
    rcases member with member | member
    · exact older now (fun reading known => later reading (List.mem_append_left _ known)) row member
    · have reached := cutoff_mono ttl (later entry.turn.now (by simp))
      exact lt_of_lt_of_le (below row member) reached
  · intro own member isTruncate row present
    rw [List.mem_append, List.mem_singleton] at member
    rcases member with member | rfl
    · rw [← List.drop_drop] at present
      exact inside own member isTruncate row (List.mem_of_mem_drop present)
    · rw [history, ← kept] at present
      simpa using (List.mem_filter.mp present).2

end Window

/-- The aggregator's last stamp, the stamps in flight, the table and the cutoffs so far. -/
structure Ordered (config : MainConfig) (gateway : Gateway) : Prop where
  recorded : Recorded config gateway
  sorted : gateway.stamps.Pairwise (· ≤ ·)
  past : ∀ ts ∈ gateway.stamps, ∃ reading ∈ gateway.readings, ts ≤ reading.timestampMillis
  inserted : gateway.inserted = gateway.storageQueue.received.filterMap Queued.row?
  histories : ∀ own ∈ gateway.processed, own.inserted <+: gateway.inserted
  table : Windowed config.storage.messagesTtl gateway.readings gateway.processed gateway.inserted
    gateway.storage.messages
  entries : EachStep (EntryShape config.storage.messagesTtl) gateway.processed

section Steps

variable {json : SerdeJson} {config : MainConfig} {before next : Gateway}

theorem start_ordered : Ordered config start where
  recorded := start_recorded
  sorted := .nil
  past := by simp [stamps, start]
  inserted := rfl
  histories := by simp [start]
  table := ⟨0, Nat.le_refl 0, rfl, by simp, by simp [start]⟩
  entries := eachStep_nil

theorem Ordered.inserted_sorted (holds : Ordered config before) :
    before.inserted.Pairwise fun first second => first.ts ≤ second.ts := by
  have isPrefix : before.inserted.map Row.ts <+: before.stamps := by
    rw [holds.inserted]
    exact ((Mpsc.filterMap_received_prefix _ _).map _).trans (List.prefix_append _ _)
  exact List.pairwise_map.mp (holds.sorted.sublist isPrefix.sublist)

theorem Ordered.inserted_past (holds : Ordered config before) {now : UtcDateTime}
    (forward : ∀ reading ∈ before.readings, reading.nanos ≤ now.nanos) :
    ∀ row ∈ before.inserted, row.ts ≤ now.timestampMillis := by
  intro row member
  rw [holds.inserted] at member
  have sent := (Mpsc.filterMap_received_prefix _ _).subset member
  obtain ⟨reading, known, bound⟩ := holds.past row.ts
    (List.mem_append_left _ (List.mem_map_of_mem sent))
  exact le_trans bound (UtcDateTime.timestampMillis_mono (forward reading known))

theorem row?_of_panic {storage : SqliteStorage} {turn : Turn} {queued : Queued} {panic : Panic}
    (succeeds : turn.insert.succeeds = true)
    (failed : storage.process turn queued.action = .error panic) : queued.row? = none := by
  obtain ⟨sender, action⟩ := queued
  cases action with
  | insertBoth insert =>
      cases bound : insert.row with
      | error reason => simp [Queued.row?, Queued.insert?, bound, Except.toOption]
      | ok row =>
          rw [SqliteStorage.process_insertBoth bound succeeds] at failed
          contradiction
  | _ => rfl

theorem Ordered.keep (holds : Ordered config before) (recorded : Recorded config next)
    (stamps : next.stamps.Sublist before.stamps) (readings : next.readings = before.readings)
    (received : next.storageQueue.received = before.storageQueue.received)
    (frame : next.storage = before.storage ∧ next.processed = before.processed ∧
      next.inserted = before.inserted) : Ordered config next := by
  obtain ⟨storage, processed, inserted⟩ := frame
  refine ⟨recorded, holds.sorted.sublist stamps, ?_, ?_, ?_, ?_, ?_⟩
  · rw [readings]
    exact fun ts member => holds.past ts (stamps.subset member)
  · rw [inserted, received, holds.inserted]
  · rw [processed, inserted]
    exact holds.histories
  · rw [processed, inserted, storage, readings]
    exact holds.table
  · rw [processed]
    exact holds.entries

theorem sendStorage_received (queued : Queued) :
    (before.sendStorage queued).storageQueue.received = before.storageQueue.received := by
  unfold sendStorage
  split <;> rfl

theorem sendStorage_readings (queued : Queued) :
    (before.sendStorage queued).readings = before.readings := by
  unfold sendStorage
  split <;> rfl

theorem stamps_sendStorage (queued : Queued) (other : queued.row? = none) :
    (before.sendStorage queued).stamps.Sublist before.stamps := by
  unfold sendStorage
  split
  · exact List.Sublist.refl _
  · simp [stamps, other]

theorem Ordered.process_truncate (holds : Ordered config before) {queued : Queued}
    {queue : Mpsc Queued} {turn : Turn} {storage : SqliteStorage}
    (taken : before.storageQueue.recv? = some (queued, queue)) (deletes : turn.delete = true)
    (isTruncate : queued.action.isTruncate = true)
    (forward : ∀ reading ∈ before.readings, reading.nanos ≤ turn.now.nanos)
    (executed : before.storage.process turn queued.action = .ok storage) :
    storage.messages = before.inserted.filter fun row =>
      cutoff config.storage.messagesTtl turn.now ≤ row.ts := by
  rw [taken_configured holds.recorded taken isTruncate] at executed
  obtain ⟨old, subtracted, _⟩ := SqliteStorage.process_truncate.mp executed
  have deleted : (configuredTruncate config).deletes turn = true := by
    simp [configuredTruncate, SqliteStorageAction.deletes, deletes, subtracted, Except.isOk,
      Except.toBool]
  rw [process_configuredTruncate executed, if_pos deleted]
  exact holds.table.deleteNotBetween_eq forward (holds.inserted_past forward)

theorem step_ordered {label : Step} (holds : Ordered config before)
    (forward : before.ClockForward label) (stepped : step json config before label = some next) :
    Ordered config next := by
  have recorded := step_recorded holds.recorded stepped
  cases label with
  | stamp now =>
      obtain ⟨attributes, timeseries, stamping, rfl⟩ := stamp_some stepped
      have known := holds.past
      have sorted := holds.sorted
      simp only [stamps, stamping, List.append_nil] at known sorted
      refine { holds with recorded := recorded, sorted := ?_, past := ?_, table := ?_ }
      · refine List.pairwise_append.mpr ⟨sorted, List.pairwise_singleton _ _, ?_⟩
        intro earlier member ts new
        rw [List.mem_singleton.mp new]
        obtain ⟨reading, member, bound⟩ := known earlier member
        exact le_trans bound (UtcDateTime.timestampMillis_mono (forward reading member))
      · intro ts member
        rcases List.mem_append.mp member with member | member
        · obtain ⟨reading, member, bound⟩ := known ts member
          exact ⟨reading, List.mem_append_left _ member, bound⟩
        · exact ⟨now, by simp, by rw [List.mem_singleton.mp member]⟩
      · obtain ⟨dropped, bound, kept, older, inside⟩ := holds.table
        refine ⟨dropped, bound, kept, fun later readings => older later ?_, inside⟩
        exact fun reading member => readings reading (List.mem_append_left _ member)
  | storageTurn turn =>
      obtain ⟨queued, queue, alive, taken, outcome⟩ := storageTurn_some stepped
      obtain ⟨received, sent⟩ := Mpsc.recv?_some taken
      obtain ⟨⟨inserts, deletes, backups⟩, readingsForward⟩ := forward
      have reads := readingsForward queued (Mpsc.recv?_head taken)
      have past : ∀ ts ∈ before.stamps,
          ∃ reading ∈ before.readings ++ readingsOf queued.action turn,
            ts ≤ reading.timestampMillis := by
        intro ts member
        obtain ⟨reading, member, bound⟩ := holds.past ts member
        exact ⟨reading, List.mem_append_left _ member, bound⟩
      rcases outcome with ⟨panic, failed, rfl⟩ | ⟨storage, executed, rfl⟩
      · refine { holds with recorded := recorded, sorted := ?_, past := ?_, inserted := ?_,
                            table := ?_ }
        · simpa only [stamps, sent] using holds.sorted
        · simpa only [stamps, sent] using past
        · rw [received, List.filterMap_append, holds.inserted]
          simp [row?_of_panic inserts failed]
        · obtain ⟨dropped, bound, kept, older, inside⟩ := holds.table
          refine ⟨dropped, bound, kept, fun later readings => older later ?_, inside⟩
          exact fun reading member => readings reading (List.mem_append_left _ member)
      · have appended := rowsAppended_process inserts executed
        have histories : ∀ own ∈ before.processed, own.inserted <+: before.inserted ++
            rowsAppended queued.action before.storage.messages storage.messages :=
          fun own member => (holds.histories own member).trans (List.prefix_append _ _)
        refine { holds with recorded := recorded, sorted := ?_, past := ?_, inserted := ?_,
                            histories := ?_, table := ?_, entries := ?_ }
        · simpa only [stamps, sent] using holds.sorted
        · simpa only [stamps, sent] using past
        · rw [received, List.filterMap_append, ← holds.inserted, appended]
          cases stored : queued.row? <;> simp [stored]
        · intro own member
          rcases List.mem_append.mp member with member | member
          · exact histories own member
          · rw [List.mem_singleton.mp member]
        · cases isTruncate : queued.action.isTruncate with
          | false =>
              have noReading : readingsOf queued.action turn = [] := by
                cases same : queued.action <;>
                  simp_all [readingsOf, SqliteStorageAction.isTruncate]
              have appended := process_appends isTruncate executed
              generalize rowsAppended queued.action before.storage.messages storage.messages = rows
                at appended ⊢
              rw [noReading, List.append_nil, appended]
              exact holds.table.append isTruncate
          | true =>
              obtain ⟨mode, same⟩ := isTruncate_iff.mp isTruncate
              have reads : ∀ reading ∈ before.readings, reading.nanos ≤ turn.now.nanos :=
                reads turn.now (by simp [readingsOf, same])
              have kept := holds.process_truncate taken deletes isTruncate reads executed
              have nothing : rowsAppended queued.action before.storage.messages storage.messages =
                  [] := by
                rw [same]
                rfl
              have reading : readingsOf queued.action turn = [turn.now] := by
                rw [same]
                rfl
              simp only [nothing, reading, List.append_nil]
              rw [kept]
              exact holds.table.truncate ⟨queued, turn, before.storage.messages, _, before.inserted⟩
                holds.inserted_sorted reads rfl
        · rw [eachStep_concat]
          refine ⟨holds.entries, ?_, ?_⟩
          · intro isTruncate
            obtain ⟨mode, same⟩ := isTruncate_iff.mp isTruncate
            have reads : ∀ reading ∈ before.readings, reading.nanos ≤ turn.now.nanos :=
              reads turn.now (by rw [same]; exact List.mem_cons_self)
            have kept := holds.process_truncate taken deletes isTruncate reads executed
            have nothing : rowsAppended queued.action before.storage.messages storage.messages =
                [] := by
              rw [same]
              rfl
            simp only [nothing, List.append_nil]
            exact kept
          · intro path same
            have nothing : rowsAppended queued.action before.storage.messages storage.messages =
                [] := by
              rw [same]
              rfl
            obtain ⟨dropped, _, table, _, inside⟩ := holds.table
            simp only [nothing, List.append_nil]
            exact ⟨dropped, table, fun own member isTruncate =>
              ⟨holds.histories own member, inside own member isTruncate⟩⟩
  | sendToStorage =>
      obtain ⟨item, sending, rfl⟩ := sendToStorage_some stepped
      refine holds.keep recorded ?_ (sendStorage_readings _) (sendStorage_received _)
        (step_frame (by simp) stepped)
      simp only [stamps, sending, List.append_nil]
      unfold sendStorage
      split
      · exact List.sublist_append_left _ _
      · simp [Queued.row?, Queued.insert?, Stamped.insert_row, Except.toOption, Stamped.row]
  | channelSend message => cases stepped; exact { holds with recorded := recorded }
  | aggregatorRecv =>
      obtain ⟨attributes, timeseries, queue, receiving, _, rfl⟩ := aggregatorRecv_some stepped
      refine holds.keep recorded ?_ rfl rfl ⟨rfl, rfl, rfl⟩
      simp [stamps, receiving]
  | sendTimeseries =>
      obtain ⟨item, sending, rfl⟩ := sendTimeseries_some stepped
      refine holds.keep recorded ?_ rfl rfl ⟨rfl, rfl, rfl⟩
      simp [stamps, sending]
  | sendAttributes =>
      obtain ⟨item, sending, rfl⟩ := sendAttributes_some stepped
      refine holds.keep recorded ?_ rfl rfl ⟨rfl, rfl, rfl⟩
      simp [stamps, sending]
  | backupJobTruncate path =>
      obtain ⟨_, rfl⟩ := backupJobTruncate_some stepped
      refine holds.keep recorded ?_ (sendStorage_readings _) (sendStorage_received _)
        (step_frame (by simp) stepped)
      exact stamps_sendStorage _ rfl
  | backupJobBackup =>
      obtain ⟨path, _, rfl⟩ := backupJobBackup_some stepped
      refine holds.keep recorded ?_ (sendStorage_readings _) (sendStorage_received _)
        (step_frame (by simp) stepped)
      exact stamps_sendStorage _ rfl
  | truncateJob =>
      have same := truncateJob_some stepped
      subst same
      refine holds.keep recorded ?_ (sendStorage_readings _) (sendStorage_received _)
        (step_frame (by simp) stepped)
      exact stamps_sendStorage _ rfl
  | connect succeeds => cases stepped; exact { holds with recorded := recorded }
  | publish =>
      obtain ⟨action, queue, _, rfl⟩ := publish_some stepped
      exact { holds with recorded := recorded }

end Steps

/-- The table over a whole run. The snapshot of a backup is read off its entry:
`before` is the table it copied. -/
structure TableShape (config : MainConfig) (gateway : Gateway) : Prop where
  sorted : gateway.storage.messages.Pairwise fun first second => first.ts ≤ second.ts
  isSuffix : gateway.storage.messages <:+ gateway.inserted
  afterTruncate : ∀ entry ∈ gateway.processed, entry.queued.action.isTruncate = true →
    entry.after = entry.inserted.filter fun row =>
      cutoff config.storage.messagesTtl entry.turn.now ≤ row.ts
  lastEntry : ∀ entry ∈ gateway.processed.getLast?,
    entry.after = gateway.storage.messages ∧ entry.inserted = gateway.inserted
  snapshots : gateway.storage.backups = gateway.processed.filterMap Processed.backup?
  folded : EachStep (fun earlier entry =>
    (∃ later, gateway.storageQueue.sent =
      earlier.map Processed.queued ++ entry.queued :: later) ∧
    ∃ storage, replay earlier = .ok storage ∧ entry.before = storage.messages) gateway.processed
  snapshotShape : EachStep (fun earlier entry => ∀ path, entry.queued.action = .backupDb path →
    (∃ own ∈ earlier, own.queued = ⟨entry.queued.sender, configuredTruncate config⟩) ∧
    ∃ dropped, entry.before = entry.inserted.drop dropped ∧
      ∀ own ∈ earlier, own.queued = ⟨entry.queued.sender, configuredTruncate config⟩ →
        own.inserted <+: entry.inserted ∧ ∀ row ∈ own.inserted.drop dropped,
          cutoff config.storage.messagesTtl own.turn.now ≤ row.ts) gateway.processed

section Shape

variable {json : SerdeJson} {config : MainConfig} {gateway : Gateway}

theorem Recorded.sent_split (holds : Recorded config gateway) {earlier later : List Processed}
    {entry : Processed} (split : gateway.processed = earlier ++ entry :: later) :
    ∃ rest, gateway.storageQueue.sent = earlier.map Processed.queued ++ entry.queued :: rest := by
  obtain ⟨rest, same⟩ := holds.received.trans gateway.storageQueue.received_prefix
  refine ⟨later.map Processed.queued ++ rest, ?_⟩
  rw [← same, split]
  simp

theorem Ordered.shape (holds : Ordered config gateway) : TableShape config gateway where
  sorted := by
    obtain ⟨dropped, _, table, _, _⟩ := holds.table
    rw [table]
    exact holds.inserted_sorted.sublist (List.drop_sublist _ _)
  isSuffix := by
    obtain ⟨dropped, _, table, _, _⟩ := holds.table
    rw [table]
    exact List.drop_suffix _ _
  afterTruncate := by
    intro entry member
    obtain ⟨earlier, later, split⟩ := List.append_of_mem member
    exact (holds.entries earlier entry later split).truncated
  lastEntry := holds.recorded.last
  snapshots := holds.recorded.backups
  folded := by
    intro earlier entry later split
    obtain ⟨before, _, replayed, _, same, _⟩ := holds.recorded.steps earlier entry later split
    exact ⟨holds.recorded.sent_split split, before, replayed, same⟩
  snapshotShape := by
    intro earlier entry later split path backup
    obtain ⟨rest, sent⟩ := holds.recorded.sent_split split
    obtain ⟨run, sender, truncated⟩ := holds.recorded.jobs _ entry.queued rest sent path backup
    obtain ⟨own, member, same⟩ := List.mem_map.mp truncated
    refine ⟨⟨own, member, by rw [same, sender]⟩, ?_⟩
    obtain ⟨dropped, copied, inside⟩ := (holds.entries earlier entry later split).copied path backup
    refine ⟨dropped, copied, fun own member same => inside own member ?_⟩
    rw [same]
    rfl

theorem table_shape (labels : List Step)
    (forward : (machine json config).StepsMeet ClockForward start labels)
    (executed : (machine json config).run labels = some gateway) : TableShape config gateway := by
  have ordered : Ordered config gateway :=
    Machine.invariant_run step_ordered start_ordered forward executed
  exact ordered.shape

/-- A backup job runs two hours after a message was stored: its truncation
removes the message and the snapshot is empty. -/
theorem table_shape_of_backup :
    ∃ gateway, (machine Sample.json Sample.config).run (Sample.store (Sample.reading 100 0) ++
        [.backupJobTruncate (PathBuf.new "backup/gw.db"), .backupJobBackup,
          .storageTurn (Sample.turn (Sample.reading 102 0)),
          .storageTurn (Sample.turn (Sample.reading 102 0))]) = some gateway ∧
      gateway.inserted.length = 1 ∧
      gateway.storage.backups = [⟨PathBuf.new "backup/gw.db.zst", []⟩] ∧
      TableShape Sample.config gateway := by
  obtain ⟨gateway, executed, shape⟩ : ∃ gateway, (machine Sample.json Sample.config).run
      (Sample.store (Sample.reading 100 0) ++
        [.backupJobTruncate (PathBuf.new "backup/gw.db"), .backupJobBackup,
          .storageTurn (Sample.turn (Sample.reading 102 0)),
          .storageTurn (Sample.turn (Sample.reading 102 0))]) = some gateway ∧
      gateway.inserted.length = 1 ∧
      gateway.storage.backups = [⟨PathBuf.new "backup/gw.db.zst", []⟩] := by
    refine ⟨_, rfl, rfl, ?_⟩
    decide
  exact ⟨gateway, executed, shape.1, shape.2, table_shape _ (by decide) executed⟩

end Shape

end Gateway

end StsGateway
