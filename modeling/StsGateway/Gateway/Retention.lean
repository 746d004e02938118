import StsGateway.Gateway.Consistency
import StsGateway.Storage.Maintenance

namespace StsGateway

open Data

/-! What the message table holds over whole runs. -/

/-- The oldest millisecond inside the window of `ttl` hours at a clock reading. -/
def cutoff (ttl : Int32) (now : UtcDateTime) : Int :=
  now.timestampMillis - ttl.toInt * Chrono.millisPerHour

/-- The action deletes rows: a truncation whose cutoff exists and whose statement succeeds. -/
def SqliteStorageAction.deletes (action : SqliteStorageAction) (turn : Turn) : Bool :=
  match action with
  | .truncate (.fixedWindow olderThan) => turn.delete && (turn.now.sub olderThan).isOk
  | _ => false

def SqliteStorageAction.isTruncate : SqliteStorageAction → Bool
  | .truncate _ => true
  | _ => false

theorem deletes_isTruncate {action : SqliteStorageAction} {turn : Turn}
    (deletes : action.deletes turn = true) : action.isTruncate = true := by
  cases action <;> simp_all [SqliteStorageAction.deletes, SqliteStorageAction.isTruncate]

theorem isTruncate_iff {action : SqliteStorageAction} :
    action.isTruncate = true ↔ ∃ mode, action = .truncate mode := by
  cases action <;> simp [SqliteStorageAction.isTruncate]

theorem UtcDateTime.timestampMillis_mono {earlier later : UtcDateTime}
    (forward : earlier.nanos ≤ later.nanos) : earlier.timestampMillis ≤ later.timestampMillis :=
  Int.ediv_le_ediv (by decide) forward

theorem cutoff_mono (ttl : Int32) {earlier later : UtcDateTime}
    (forward : earlier.nanos ≤ later.nanos) : cutoff ttl earlier ≤ cutoff ttl later := by
  have millis := UtcDateTime.timestampMillis_mono forward
  unfold cutoff
  omega

namespace Gateway

/-! ### One action on the table -/

section Process

variable {config : MainConfig} {storage after : SqliteStorage} {turn : Turn} {queued : Queued}

theorem process_appends (noTruncate : queued.action.isTruncate = false)
    (executed : storage.process turn queued.action = .ok after) :
    after.messages =
      storage.messages ++ rowsAppended queued.action storage.messages after.messages := by
  obtain ⟨sender, action⟩ := queued
  cases action with
  | insertBoth insert =>
      obtain ⟨rows, rfl⟩ := SqliteStorage.process_insertBoth_appends executed
      simp [rowsAppended]
  | backupDb path =>
      obtain ⟨_, rfl⟩ := SqliteStorage.process_backupDb.mp executed
      simp [rowsAppended]
  | truncate mode => cases noTruncate
  | insertAttributes insert => cases executed; simp [rowsAppended]
  | insertTimeseries insert => cases executed; simp [rowsAppended]
  | closeDb => cases executed; simp [rowsAppended]
  | timeout => cases executed; simp [rowsAppended]

theorem process_configuredTruncate
    (executed : storage.process turn (configuredTruncate config) = .ok after) :
    after = if (configuredTruncate config).deletes turn then { storage with
      messages := deleteNotBetween storage.messages (cutoff config.storage.messagesTtl turn.now)
        turn.now.timestampMillis }
    else storage := by
  obtain ⟨old, subtracted, rfl⟩ := SqliteStorage.process_truncate.mp executed
  have lower := UtcDateTime.timestampMillis_sub subtracted
  simp [configuredTruncate, SqliteStorageAction.deletes, subtracted, Except.isOk,
    Except.toBool, lower, cutoff]

end Process

/-! ### What holds of every run -/

def replay (processed : List Processed) : Except Panic SqliteStorage :=
  processed.foldlM (fun storage entry => storage.process entry.turn entry.queued.action) ⟨[], []⟩

/-- The backup an action finished, with the table it copied. -/
def Processed.backup? (entry : Processed) : Option Backup :=
  match entry.queued.action with
  | .backupDb path => some ⟨path.withExtension "db.zst", entry.before⟩
  | _ => none

/-- The record of processed actions is what the queue, the storage and the jobs made of it. -/
structure Recorded (config : MainConfig) (gateway : Gateway) : Prop where
  sentByGateway : ∀ queued ∈ gateway.storageQueue.sent, queued.action.SentByGateway
  configured : ∀ queued ∈ gateway.storageQueue.sent, queued.action.isTruncate = true →
    queued.action = configuredTruncate config
  received : gateway.processed.map Processed.queued <+: gateway.storageQueue.received
  receivedAll : gateway.storagePanicked = false →
    gateway.processed.map Processed.queued = gateway.storageQueue.received
  replayed : replay gateway.processed = .ok gateway.storage
  steps : EachStep (fun earlier entry => ∃ before after, replay earlier = .ok before ∧
    before.process entry.turn entry.queued.action = .ok after ∧
    entry.before = before.messages ∧ entry.after = after.messages) gateway.processed
  backups : gateway.storage.backups = gateway.processed.filterMap Processed.backup?
  last : ∀ entry ∈ gateway.processed.getLast?,
    entry.after = gateway.storage.messages ∧ entry.inserted = gateway.inserted
  jobs : EachStep (fun earlier queued => ∀ path, queued.action = .backupDb path →
    ∃ run, queued.sender = .backupJob run ∧ ⟨.backupJob run, configuredTruncate config⟩ ∈ earlier)
    gateway.storageQueue.sent
  job : gateway.storagePanicked = false → gateway.backupJob ≠ none →
    ⟨.backupJob gateway.jobRuns, configuredTruncate config⟩ ∈ gateway.storageQueue.sent

section Recording

variable {json : SerdeJson} {config : MainConfig} {before next : Gateway}

theorem start_recorded : Recorded config start where
  sentByGateway := by simp [start]
  configured := by simp [start]
  received := List.nil_prefix
  receivedAll _ := rfl
  replayed := rfl
  steps := eachStep_nil
  backups := rfl
  last := by simp [start]
  jobs := eachStep_nil
  job := fun _ running => (running rfl).elim

theorem configuredTruncate_sentByGateway (config : MainConfig) :
    (configuredTruncate config).SentByGateway :=
  ⟨config.storage.messagesTtl, Chrono.Duration.hours_of_i32 _⟩

theorem replay_concat (processed : List Processed) (entry : Processed) :
    replay (processed ++ [entry]) =
      replay processed >>= fun storage => storage.process entry.turn entry.queued.action := by
  simp only [replay, List.foldlM_append, List.foldlM_cons, List.foldlM_nil]
  cases processed.foldlM (fun storage entry => storage.process entry.turn entry.queued.action)
    (⟨[], []⟩ : SqliteStorage) with
  | error panic => rfl
  | ok storage =>
      simp only [ok_bind]
      cases storage.process entry.turn entry.queued.action <;> rfl

theorem Recorded.sendStorage (holds : Recorded config before) (queued : Queued)
    (sentByGateway : queued.action.SentByGateway)
    (configured : queued.action.isTruncate = true → queued.action = configuredTruncate config)
    (job : before.storagePanicked = false → ∀ path, queued.action = .backupDb path →
      ∃ run, queued.sender = .backupJob run ∧
        ⟨.backupJob run, configuredTruncate config⟩ ∈ before.storageQueue.sent) :
    Recorded config (before.sendStorage queued) := by
  cases panicked : before.storagePanicked with
  | true => simpa [Gateway.sendStorage, panicked] using holds
  | false =>
      rw [sendStorage_alive panicked]
      refine { holds with sentByGateway := ?_, configured := ?_, jobs := ?_, job := ?_ }
      · intro present member
        rw [Mpsc.sent_send, List.mem_append, List.mem_singleton] at member
        rcases member with member | rfl
        · exact holds.sentByGateway present member
        · exact sentByGateway
      · intro present member
        rw [Mpsc.sent_send, List.mem_append, List.mem_singleton] at member
        rcases member with member | rfl
        · exact holds.configured present member
        · exact configured
      · rw [Mpsc.sent_send, eachStep_concat]
        exact ⟨holds.jobs, job panicked⟩
      · intro alive running
        rw [Mpsc.sent_send]
        exact List.mem_append_left _ (holds.job alive running)

theorem backup?_process {storage after : SqliteStorage} {turn : Turn} {queued : Queued}
    {inserted : List Row} (executed : storage.process turn queued.action = .ok after) :
    after.backups = storage.backups ++
      (Processed.backup? ⟨queued, turn, storage.messages, after.messages, inserted⟩).toList := by
  obtain ⟨sender, action⟩ := queued
  cases action with
  | insertBoth insert =>
      obtain ⟨rows, rfl⟩ := SqliteStorage.process_insertBoth_appends executed
      simp [Processed.backup?]
  | backupDb path =>
      obtain ⟨_, rfl⟩ := SqliteStorage.process_backupDb.mp executed
      simp [Processed.backup?]
  | truncate mode =>
      obtain ⟨olderThan⟩ := mode
      obtain ⟨old, _, rfl⟩ := SqliteStorage.process_truncate.mp executed
      split <;> simp [Processed.backup?]
  | insertAttributes insert => cases executed; simp [Processed.backup?]
  | insertTimeseries insert => cases executed; simp [Processed.backup?]
  | closeDb => cases executed; simp [Processed.backup?]
  | timeout => cases executed; simp [Processed.backup?]

theorem step_recorded {label : Step} (holds : Recorded config before)
    (stepped : step json config before label = some next) : Recorded config next := by
  cases label with
  | channelSend message => cases stepped; exact { holds with }
  | aggregatorRecv =>
      obtain ⟨attributes, timeseries, queue, _, _, rfl⟩ := aggregatorRecv_some stepped
      exact { holds with }
  | stamp now =>
      obtain ⟨attributes, timeseries, _, rfl⟩ := stamp_some stepped
      exact { holds with }
  | sendToStorage =>
      obtain ⟨item, _, rfl⟩ := sendToStorage_some stepped
      have sent := holds.sendStorage ⟨.aggregator, .insertBoth (item.insert json)⟩
        ⟨_, _, rfl, rfl⟩ (fun isTruncate => by cases isTruncate) (fun _ path same => by contradiction)
      exact { sent with }
  | sendTimeseries =>
      obtain ⟨item, _, rfl⟩ := sendTimeseries_some stepped
      exact { holds with }
  | sendAttributes =>
      obtain ⟨item, _, rfl⟩ := sendAttributes_some stepped
      exact { holds with }
  | backupJobTruncate path =>
      obtain ⟨_, rfl⟩ := backupJobTruncate_some stepped
      have sent := holds.sendStorage
        ⟨.backupJob before.jobRuns, configuredTruncate config⟩
        (configuredTruncate_sentByGateway config) (fun _ => rfl) (fun _ path same => by contradiction)
      refine { sent with job := ?_ }
      intro alive _
      have alive : before.storagePanicked = false := by
        cases panicked : before.storagePanicked <;> simp [Gateway.sendStorage, panicked] at alive ⊢
      rw [sendStorage_alive alive, Mpsc.sent_send]
      exact List.mem_append_right _ List.mem_cons_self
  | backupJobBackup =>
      obtain ⟨path, running, rfl⟩ := backupJobBackup_some stepped
      have sent := holds.sendStorage ⟨.backupJob before.jobRuns, .backupDb path⟩
        trivial (fun isTruncate => by cases isTruncate) (by
          intro alive path _
          exact ⟨before.jobRuns, rfl, holds.job alive (by simp [running])⟩)
      exact { sent with job := fun _ idle => (idle rfl).elim }
  | truncateJob =>
      rw [truncateJob_some stepped]
      exact holds.sendStorage _ (configuredTruncate_sentByGateway config) (fun _ => rfl) (fun _ path same => by contradiction)
  | storageTurn turn =>
      obtain ⟨queued, queue, alive, taken, outcome⟩ := storageTurn_some stepped
      obtain ⟨received, sent⟩ := Mpsc.recv?_some taken
      rcases outcome with ⟨panic, _, rfl⟩ | ⟨storage, executed, rfl⟩
      · refine { holds with sentByGateway := ?_, configured := ?_, received := ?_,
                            receivedAll := ?_, jobs := ?_, job := ?_ }
        · rw [sent]
          exact holds.sentByGateway
        · rw [sent]
          exact holds.configured
        · rw [received]
          exact holds.received.trans (List.prefix_append _ _)
        · intro stillAlive
          contradiction
        · rw [sent]
          exact holds.jobs
        · intro stillAlive
          contradiction
      · refine { holds with sentByGateway := ?_, configured := ?_, received := ?_,
                            receivedAll := ?_, replayed := ?_, steps := ?_, backups := ?_,
                            last := ?_, jobs := ?_, job := ?_ }
        · rw [sent]
          exact holds.sentByGateway
        · rw [sent]
          exact holds.configured
        · rw [received, List.map_append, holds.receivedAll alive]
          exact List.prefix_rfl
        · intro _
          rw [received, List.map_append, holds.receivedAll alive]
          rfl
        · rw [replay_concat, holds.replayed]
          exact executed
        · rw [eachStep_concat]
          exact ⟨holds.steps, before.storage, storage, holds.replayed, executed, rfl, rfl⟩
        · rw [backup?_process executed, List.filterMap_append, holds.backups,
            List.filterMap_cons, List.filterMap_nil]
          cases finished : Processed.backup? _ <;> simp
        · intro entry final
          rw [List.getLast?_concat] at final
          cases final
          exact ⟨rfl, rfl⟩
        · rw [sent]
          exact holds.jobs
        · rw [sent]
          exact holds.job
  | connect succeeds => cases stepped; exact { holds with }
  | publish =>
      obtain ⟨action, queue, _, rfl⟩ := publish_some stepped
      exact { holds with }

end Recording

/-! ### Retention under any clock -/

/-- The row was inside the window at every truncation processed so far. -/
def neverExpired (ttl : Int32) (processed : List Processed) (row : Row) : Bool :=
  processed.all fun entry =>
    !entry.queued.action.isTruncate || decide (cutoff ttl entry.turn.now ≤ row.ts)

/-- Only rows older than the window are ever removed. -/
structure RetainsUnexpired (ttl : Int32) (gateway : Gateway) : Prop where
  eachTruncate : ∀ entry ∈ gateway.processed, entry.queued.action.isTruncate = true →
    entry.after.filter (fun row => cutoff ttl entry.turn.now ≤ row.ts) =
      entry.before.filter fun row => cutoff ttl entry.turn.now ≤ row.ts
  wholeRun : gateway.storage.messages.filter (neverExpired ttl gateway.processed) =
    gateway.inserted.filter (neverExpired ttl gateway.processed)

/-- No row is dated after the clock reading of a truncation that deletes. -/
def NoFutureRow (gateway : Gateway) : Step → Prop
  | .storageTurn turn => ∀ queued ∈ gateway.storageQueue.waiting.head?,
      queued.action.deletes turn = true →
        ∀ row ∈ gateway.storage.messages, row.ts ≤ turn.now.timestampMillis
  | _ => True

instance (gateway : Gateway) : ∀ label, Decidable (gateway.NoFutureRow label)
  | .storageTurn _ => inferInstanceAs (Decidable (∀ _ ∈ gateway.storageQueue.waiting.head?, _ → _))
  | .channelSend _ | .aggregatorRecv | .stamp _ | .sendToStorage | .sendTimeseries
  | .sendAttributes | .backupJobTruncate _ | .backupJobBackup | .truncateJob | .connect _
  | .publish _ => isTrue trivial

section AnyClock

variable {json : SerdeJson} {config : MainConfig} {before next gateway : Gateway}

/-- The two-sided range keeps all rows above its lower end exactly when none
lies above its upper end. -/
theorem deleteNotBetween_keeps_iff {rows : List Row} {low high : Int} :
    (deleteNotBetween rows low high).filter (fun row => low ≤ row.ts) =
        rows.filter (fun row => low ≤ row.ts) ↔
      ∀ row ∈ rows, low ≤ row.ts → row.ts ≤ high := by
  rw [deleteNotBetween, List.filter_filter]
  constructor
  · intro same row member recent
    have kept : row ∈ rows.filter fun row => low ≤ row.ts :=
      List.mem_filter.mpr ⟨member, by simpa using recent⟩
    rw [← same] at kept
    simpa [recent] using (List.mem_filter.mp kept).2
  · intro bounded
    apply List.filter_congr
    intro row member
    by_cases recent : low ≤ row.ts
    · simp [recent, bounded row member recent]
    · simp [recent]

theorem cutoff_le_now {ttl : Int32} (nonnegative : 0 ≤ ttl.toInt) (now : UtcDateTime) :
    cutoff ttl now ≤ now.timestampMillis := by
  unfold cutoff Chrono.millisPerHour
  omega

theorem truncate_keeps_iff (nonnegative : 0 ≤ config.storage.messagesTtl.toInt)
    {storage after : SqliteStorage} {turn : Turn}
    (executed : storage.process turn (configuredTruncate config) = .ok after) :
    after.messages.filter (fun row => cutoff config.storage.messagesTtl turn.now ≤ row.ts) =
        storage.messages.filter (fun row => cutoff config.storage.messagesTtl turn.now ≤ row.ts) ↔
      ((configuredTruncate config).deletes turn = true →
        ∀ row ∈ storage.messages, row.ts ≤ turn.now.timestampMillis) := by
  have window := cutoff_le_now nonnegative turn.now
  rw [process_configuredTruncate executed]
  cases deletes : (configuredTruncate config).deletes turn with
  | false => simp
  | true =>
      simp only [if_true, deleteNotBetween_keeps_iff, forall_const]
      constructor
      · intro kept row member
        by_contra future
        exact future (kept row member (by omega))
      · intro past row member _
        exact past row member

theorem not_deletes_of_panic {storage : SqliteStorage} {turn : Turn} {action : SqliteStorageAction}
    {panic : Panic} (failed : storage.process turn action = .error panic) :
    action.deletes turn = false := by
  cases action with
  | truncate mode =>
      obtain ⟨olderThan⟩ := mode
      cases subtracted : turn.now.sub olderThan with
      | error reason => simp [SqliteStorageAction.deletes, subtracted, Except.isOk, Except.toBool]
      | ok old =>
          obtain ⟨after, returned⟩ : ∃ after, storage.process turn (.truncate (.fixedWindow olderThan)) =
              .ok after := ⟨_, SqliteStorage.process_truncate.mpr ⟨old, subtracted, rfl⟩⟩
          rw [failed] at returned
          contradiction
  | insertBoth insert => rfl
  | insertAttributes insert => rfl
  | insertTimeseries insert => rfl
  | closeDb => rfl
  | backupDb path => rfl
  | timeout => rfl

def EachTruncateKeeps (ttl : Int32) (gateway : Gateway) : Prop :=
  ∀ entry ∈ gateway.processed, entry.queued.action.isTruncate = true →
    entry.after.filter (fun row => cutoff ttl entry.turn.now ≤ row.ts) =
      entry.before.filter fun row => cutoff ttl entry.turn.now ≤ row.ts

theorem taken_configured {queued : Queued} {queue : Mpsc Queued} (holds : Recorded config before)
    (taken : before.storageQueue.recv? = some (queued, queue))
    (isTruncate : queued.action.isTruncate = true) : queued.action = configuredTruncate config := by
  refine holds.configured queued ?_ isTruncate
  rw [Mpsc.sent, Mpsc.recv?_waiting taken]
  simp

theorem step_keeps_iff (nonnegative : 0 ≤ config.storage.messagesTtl.toInt) {label : Step}
    (holds : Recorded config before) (stepped : step json config before label = some next) :
    EachTruncateKeeps config.storage.messagesTtl next ↔
      EachTruncateKeeps config.storage.messagesTtl before ∧ before.NoFutureRow label := by
  cases label with
  | storageTurn turn =>
      obtain ⟨queued, queue, _, taken, outcome⟩ := storageTurn_some stepped
      have head : before.storageQueue.waiting.head? = some queued := Mpsc.recv?_head taken
      have condition : before.NoFutureRow (.storageTurn turn) ↔
          (queued.action.deletes turn = true →
            ∀ row ∈ before.storage.messages, row.ts ≤ turn.now.timestampMillis) := by
        simp [NoFutureRow, head]
      rw [condition]
      rcases outcome with ⟨panic, failed, rfl⟩ | ⟨storage, executed, rfl⟩
      · simp [EachTruncateKeeps, not_deletes_of_panic failed]
      · simp only [EachTruncateKeeps, List.mem_append, List.mem_singleton, or_imp, forall_and,
          forall_eq]
        apply and_congr_right
        intro _
        by_cases isTruncate : queued.action.isTruncate = true
        · have configured := taken_configured holds taken isTruncate
          rw [configured] at executed isTruncate ⊢
          rw [← truncate_keeps_iff nonnegative executed]
          simp [isTruncate]
        · refine ⟨fun _ deletes => absurd (deletes_isTruncate deletes) isTruncate,
            fun _ truncates => absurd truncates isTruncate⟩
  | _ =>
      obtain ⟨_, processed, _⟩ := step_frame (by simp) stepped
      simp [NoFutureRow, EachTruncateKeeps, processed]

/-- If each truncation kept its window, only rows expired at some truncation are gone. -/
def WholeRunKeeps (ttl : Int32) (gateway : Gateway) : Prop :=
  EachTruncateKeeps ttl gateway →
    gateway.storage.messages.filter (neverExpired ttl gateway.processed) =
      gateway.inserted.filter (neverExpired ttl gateway.processed)

theorem neverExpired_concat (ttl : Int32) (processed : List Processed) (entry : Processed) :
    neverExpired ttl (processed ++ [entry]) = fun row =>
      (!entry.queued.action.isTruncate || decide (cutoff ttl entry.turn.now ≤ row.ts)) &&
        neverExpired ttl processed row := by
  funext row
  simp [neverExpired, Bool.and_comm]

theorem step_wholeRun {label : Step} {ttl : Int32} (holds : WholeRunKeeps ttl before)
    (stepped : step json config before label = some next) : WholeRunKeeps ttl next := by
  cases label with
  | storageTurn turn =>
      obtain ⟨queued, queue, _, _, outcome⟩ := storageTurn_some stepped
      rcases outcome with ⟨panic, _, rfl⟩ | ⟨storage, executed, rfl⟩
      · exact holds
      · intro keeps
        have past := holds fun entry member => keeps entry (List.mem_append_left _ member)
        have now := keeps _ (List.mem_append_right _ List.mem_cons_self)
        simp only [neverExpired_concat]
        cases isTruncate : queued.action.isTruncate with
        | false =>
            simp only [Bool.not_false, Bool.true_or, Bool.true_and]
            have appended := process_appends isTruncate executed
            generalize rowsAppended queued.action before.storage.messages storage.messages = rows
              at appended ⊢
            rw [appended, List.filter_append, List.filter_append, past]
        | true =>
            obtain ⟨mode, same⟩ := isTruncate_iff.mp isTruncate
            have none : rowsAppended queued.action before.storage.messages storage.messages = [] := by
              rw [same]
              rfl
            simp only [Bool.not_true, Bool.false_or, none, List.append_nil]
            rw [← List.filter_filter, ← List.filter_filter, ← past, List.filter_comm,
              now isTruncate, List.filter_comm]
  | _ =>
      obtain ⟨storage, processed, inserted⟩ := step_frame (by simp) stepped
      simpa only [WholeRunKeeps, EachTruncateKeeps, storage, processed, inserted] using holds

theorem retains_unexpired_iff (labels : List Step)
    (nonnegative : 0 ≤ config.storage.messagesTtl.toInt)
    (executed : (machine json config).run labels = some gateway) :
    RetainsUnexpired config.storage.messagesTtl gateway ↔
      (machine json config).StepsMeet NoFutureRow start labels := by
  have each : EachTruncateKeeps config.storage.messagesTtl gateway ↔
      EachTruncateKeeps config.storage.messagesTtl start ∧
        (machine json config).StepsMeet NoFutureRow start labels :=
    Machine.property_iff_stepsMeet step_recorded (step_keeps_iff nonnegative) start_recorded executed
  have whole : WholeRunKeeps config.storage.messagesTtl gateway :=
    Machine.invariant_always step_wholeRun (fun _ => rfl) executed
  refine ⟨fun retains => (each.mp retains.eachTruncate).2, fun meets => ?_⟩
  have keeps := each.mpr ⟨by simp [EachTruncateKeeps, start], meets⟩
  exact ⟨keeps, whole keeps⟩

theorem retains_unexpired_forward :
    ∃ gateway, (machine Sample.json Sample.config).run
        (Sample.truncateAfter (Sample.reading 100 0) (Sample.reading 101 0)) = some gateway ∧
      RetainsUnexpired Sample.config.storage.messagesTtl gateway := by
  obtain ⟨gateway, executed⟩ : ∃ gateway, (machine Sample.json Sample.config).run
      (Sample.truncateAfter (Sample.reading 100 0) (Sample.reading 101 0)) = some gateway := ⟨_, rfl⟩
  exact ⟨gateway, executed, (retains_unexpired_iff _ (by decide) executed).mpr (by decide)⟩

/-- The clock steps back by almost an hour between the stamp and the truncation: a
message that was stored a moment ago is deleted. -/
theorem clock_step_back_loses_message :
    ∃ gateway, (machine Sample.json Sample.config).run
        (Sample.truncateAfter (Sample.reading 100 0) (Sample.reading 99 500)) = some gateway ∧
      ¬RetainsUnexpired Sample.config.storage.messagesTtl gateway := by
  refine ⟨_, rfl, fun retains => ?_⟩
  have lost := retains.wholeRun
  revert lost
  decide

end AnyClock

end Gateway

end StsGateway
