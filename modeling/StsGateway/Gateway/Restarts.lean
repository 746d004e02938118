import Mathlib.Data.List.DropRight
import StsGateway.Backup.Cleanup
import StsGateway.Gateway.System

namespace StsGateway

open Data Modbus

/-! One database over any number of lives of the gateway.

A life ends anywhere between two steps, whatever waits in the queues then, and all it
leaves is the database. A statement that is cut off is rolled back when the database is
opened again, so it counts as one that the life did not get to. A cleanup that takes the
database file for an old backup removes it: the life goes on with the file it has open,
and the next one finds no table.
-/

/-- Which rows of the table the action leaves. -/
def SqliteStorageAction.keeps (action : SqliteStorageAction) (turn : Turn) (row : Row) : Bool :=
  match action with
  | .truncate (.fixedWindow olderThan) =>
      match turn.delete, turn.now.sub olderThan with
      | true, .ok old => decide (old.timestampMillis ≤ row.ts ∧ row.ts ≤ turn.now.timestampMillis)
      | _, _ => true
  | _ => true

def Processed.keeps (entry : Processed) (row : Row) : Bool :=
  entry.queued.action.keeps entry.turn row

namespace Gateway

/-- The backups of these actions on a table with further rows in front. -/
def backupsOn (rows : List Row) : List Processed → List Backup
  | [] => []
  | entry :: later =>
      ((Processed.backup? entry).map fun backup => { backup with rows := rows ++ backup.rows }).toList ++
        backupsOn (rows.filter entry.keeps) later

def keeps (gateway : Gateway) (row : Row) : Bool :=
  gateway.processed.all fun entry => entry.keeps row

/-- `SqliteStorage::new` creates the table only where there is none. If it fails, the
storage thread panics before its first action. -/
def opened (database : SqliteStorage) (opens : Bool) : Gateway :=
  { start with storage := database, storagePanicked := !opens }

/-- The rows these actions stored, less those that later ones deleted. -/
def tableOf (processed : List Processed) : List Row :=
  survivors (fun entry => storedRows [entry]) Processed.keeps processed

def TableMatches (gateway : Gateway) : Prop := gateway.storage.messages = tableOf gateway.processed

/-- What a life makes of the database it finds, from what it makes of an empty one. -/
def outlive (found : SqliteStorage) (own : Gateway) : SqliteStorage where
  messages := found.messages.filter own.keeps ++ own.storage.messages
  backups := found.backups ++ backupsOn found.messages own.processed

/-- The same life on the database it finds and on an empty one. -/
def Beside (found : SqliteStorage) (gateway own : Gateway) : Prop :=
  ∃ processed, gateway = { own with storage := outlive found own, processed }

section Process

variable {storage after : SqliteStorage} {turn : Turn} {queued : Queued}

theorem process_messages (executed : storage.process turn queued.action = .ok after) :
    after.messages = storage.messages.filter (queued.action.keeps turn) ++
      rowsAppended queued.action storage.messages after.messages := by
  cases isTruncate : queued.action.isTruncate with
  | false =>
      have all : ∀ row ∈ storage.messages, queued.action.keeps turn row = true := by
        intro row _
        cases same : queued.action <;>
          simp_all [SqliteStorageAction.keeps, SqliteStorageAction.isTruncate]
      rw [List.filter_eq_self.mpr all]
      exact process_appends isTruncate executed
  | true =>
      obtain ⟨⟨olderThan⟩, same⟩ := isTruncate_iff.mp isTruncate
      rw [same] at executed ⊢
      obtain ⟨old, subtracted, rfl⟩ := SqliteStorage.process_truncate.mp executed
      simp only [rowsAppended, List.append_nil]
      cases deleted : turn.delete with
      | false =>
          refine (List.filter_eq_self.mpr fun row _ => ?_).symm
          simp [SqliteStorageAction.keeps, deleted]
      | true =>
          refine List.filter_congr fun row _ => ?_
          simp [SqliteStorageAction.keeps, deleted, subtracted]

/-- Whether an action panics does not depend on the database. -/
theorem process_panics {action : SqliteStorageAction} {panic : Panic}
    (failed : storage.process turn action = .error panic) (other : SqliteStorage) :
    other.process turn action = .error panic := by
  cases action with
  | insertBoth insert =>
      simp only [SqliteStorage.process, SqliteStorage.insertBoth] at failed ⊢
      cases bound : insert.row <;> simp only [bound, error_bind, ok_bind] at failed ⊢ <;>
        split_ifs at failed ⊢ <;> exact failed
  | backupDb path =>
      simp only [SqliteStorage.process, backupDb] at failed ⊢
      split_ifs at failed ⊢ <;> first | exact failed | contradiction
  | truncate mode =>
      obtain ⟨olderThan⟩ := mode
      simp only [SqliteStorage.process, truncateFixedWindow] at failed ⊢
      cases subtracted : turn.now.sub olderThan <;>
        simp only [subtracted, error_bind, ok_bind] at failed ⊢
      · exact failed
      · split_ifs at failed <;> contradiction
  | insertAttributes insert => contradiction
  | insertTimeseries insert => contradiction
  | closeDb => contradiction
  | timeout => contradiction

theorem process_returns {action : SqliteStorageAction}
    (executed : storage.process turn action = .ok after) (other : SqliteStorage) :
    ∃ result, other.process turn action = .ok result := by
  cases outcome : other.process turn action with
  | ok result => exact ⟨result, rfl⟩
  | error panic =>
      rw [process_panics outcome storage] at executed
      contradiction

end Process

/-! ### One step beside the other -/

section Steps

variable {json : SerdeJson} {config : MainConfig} {before next own : Gateway} {found : SqliteStorage}

theorem keeps_concat (earlier : List Processed) (entry : Processed) (rows : List Row) :
    rows.filter (fun row => (earlier ++ [entry]).all fun own => own.keeps row) =
      (rows.filter fun row => earlier.all fun own => own.keeps row).filter entry.keeps := by
  rw [List.filter_filter]
  refine List.filter_congr fun row _ => ?_
  simp [Bool.and_comm]

theorem backupsOn_concat (rows : List Row) (earlier : List Processed) (entry : Processed) :
    backupsOn rows (earlier ++ [entry]) = backupsOn rows earlier ++
      ((Processed.backup? entry).map fun backup =>
        { backup with rows := (rows.filter fun row => earlier.all fun own => own.keeps row) ++
          backup.rows }).toList := by
  induction earlier generalizing rows with
  | nil => simp [backupsOn]
  | cons first rest ih =>
      rw [List.cons_append, backupsOn, backupsOn, ih, List.append_assoc, List.filter_filter]
      simp only [List.all_cons, Bool.and_comm]

/-- The other threads do not see the database. -/
theorem step_reframe {label : Step} (other : ∀ turn, label ≠ .storageTurn turn)
    (stepped : step json config before label = some next) (storage : SqliteStorage)
    (processed : List Processed) :
    step json config { before with storage, processed } label =
      some { next with storage, processed } := by
  cases label with
  | channelSend message => cases stepped; rfl
  | aggregatorRecv =>
      obtain ⟨attributes, timeseries, queue, receiving, taken, rfl⟩ := aggregatorRecv_some stepped
      simp only [step, receiving, taken]
  | stamp now =>
      obtain ⟨attributes, timeseries, stamping, rfl⟩ := stamp_some stepped
      simp only [step, stamping]
  | sendToStorage =>
      obtain ⟨item, sending, rfl⟩ := sendToStorage_some stepped
      simp only [step, sending, sendStorage]
      split <;> rfl
  | sendTimeseries =>
      obtain ⟨item, sending, rfl⟩ := sendTimeseries_some stepped
      simp only [step, sending]
  | sendAttributes =>
      obtain ⟨item, sending, rfl⟩ := sendAttributes_some stepped
      simp only [step, sending]
  | backupJobTruncate path =>
      obtain ⟨idle, rfl⟩ := backupJobTruncate_some stepped
      simp only [step, idle, truncateAction_configured, sendStorage]
      split <;> rfl
  | backupJobBackup =>
      obtain ⟨path, running, rfl⟩ := backupJobBackup_some stepped
      simp only [step, running, sendStorage]
      split <;> rfl
  | truncateJob =>
      rw [truncateJob_some stepped]
      simp only [step, truncateAction_configured, sendStorage]
      split <;> rfl
  | storageTurn turn => exact absurd rfl (other turn)
  | connect succeeds => cases stepped; rfl
  | publish succeeds =>
      simp only [step] at stepped ⊢
      split at stepped
      · rename_i action queue connected received
        cases stepped
        simp only [connected]
      · contradiction

theorem rowsAppended_alike {storage other after result : SqliteStorage} {turn : Turn} {queued : Queued}
    (executed : storage.process turn queued.action = .ok after)
    (alone : other.process turn queued.action = .ok result) :
    rowsAppended queued.action storage.messages after.messages =
      rowsAppended queued.action other.messages result.messages :=
  (rowsAppended_stored executed [] [] []).trans (rowsAppended_stored alone [] [] []).symm

/-- The table and the backups of the one life follow those of the other through an action. -/
theorem outlive_process {storage after result : SqliteStorage} {entry : Processed}
    (holds : storage = outlive found own) (before : entry.before = own.storage.messages)
    (executed : storage.process entry.turn entry.queued.action = .ok after)
    (alone : own.storage.process entry.turn entry.queued.action = .ok result) :
    after = outlive found { own with
      storage := result
      processed := own.processed ++ [entry] } := by
  have table : after.messages = found.messages.filter (fun row =>
      (own.processed ++ [entry]).all fun own => own.keeps row) ++ result.messages := by
    rw [process_messages executed, process_messages alone, rowsAppended_alike executed alone, holds, keeps_concat,
      ← List.append_assoc]
    exact congrArg (· ++ _) (List.filter_append _ _)
  have copies : after.backups = found.backups ++
      backupsOn found.messages (own.processed ++ [entry]) := by
    rw [@backup?_process _ _ _ _ [] executed, backupsOn_concat, holds, ← List.append_assoc]
    congr 1
    obtain ⟨⟨sender, action⟩, turn, earlier, later, inserted⟩ := entry
    cases before
    cases action with
    | backupDb path => rfl
    | _ => rfl
  obtain ⟨messages, backups⟩ := after
  cases table
  cases copies
  rfl

theorem step_beside {label : Step} (holds : Beside found before own)
    (stepped : step json config before label = some next) :
    ∃ reached, step json config own label = some reached ∧ Beside found next reached := by
  obtain ⟨processed, rfl⟩ := holds
  by_cases turns : ∃ turn, label = .storageTurn turn
  · obtain ⟨turn, rfl⟩ := turns
    obtain ⟨queued, queue, alive, taken, outcome⟩ := storageTurn_some stepped
    rcases outcome with ⟨panic, failed, rfl⟩ | ⟨storage, executed, rfl⟩
    · exact ⟨_, storageTurn_of_panic alive taken (process_panics failed own.storage), processed, rfl⟩
    · obtain ⟨result, alone⟩ := process_returns executed own.storage
      have table := @outlive_process own found _ _ _ ⟨queued, turn, own.storage.messages, result.messages,
        own.inserted ++ rowsAppended queued.action own.storage.messages result.messages⟩ rfl rfl
        executed alone
      have appended := rowsAppended_alike executed alone
      dsimp only at appended ⊢
      exact ⟨_, storageTurn_of_ok alive taken alone, _, by rw [appended, table]; rfl⟩
  · have other : ∀ turn, label ≠ .storageTurn turn := fun turn same => turns ⟨turn, same⟩
    have alone := step_reframe other stepped own.storage own.processed
    obtain ⟨storage, unchanged, _⟩ := step_frame other stepped
    refine ⟨_, alone, processed, ?_⟩
    obtain ⟨_, _, _, _, _⟩ := next
    cases storage
    cases unchanged
    rfl

theorem step_tableMatches {label : Step} (holds : TableMatches before)
    (stepped : step json config before label = some next) : TableMatches next := by
  by_cases turns : ∃ turn, label = .storageTurn turn
  · obtain ⟨turn, rfl⟩ := turns
    obtain ⟨queued, queue, _, _, outcome⟩ := storageTurn_some stepped
    rcases outcome with ⟨panic, _, rfl⟩ | ⟨storage, executed, rfl⟩
    · exact holds
    · have kept := congrArg (List.filter (queued.action.keeps turn)) holds
      have added := rowsAppended_stored executed before.storage.messages storage.messages
        (before.inserted ++ rowsAppended queued.action before.storage.messages storage.messages)
      rw [TableMatches, tableOf, survivors_concat, ← added]
      exact (process_messages executed).trans (congrArg (· ++ _) kept)
  · obtain ⟨storage, processed, _⟩ := step_frame (fun turn same => turns ⟨turn, same⟩) stepped
    rw [TableMatches, storage, processed, holds]

theorem opened_beside (opens : Bool) : Beside found (opened found opens) (opened ⟨[], []⟩ opens) := by
  have table : found.messages.filter (opened ⟨[], []⟩ opens).keeps = found.messages :=
    List.filter_eq_self.mpr fun _ _ => rfl
  refine ⟨[], ?_⟩
  rw [outlive, table]
  simp [opened, backupsOn, start]

theorem opened_tableMatches (opens : Bool) : TableMatches (opened ⟨[], []⟩ opens) := rfl

theorem opened_accounts (opens : Bool) : Accounts json config (opened ⟨[], []⟩ opens) :=
  { start_accounts with storageSentAll := fun _ => rfl }

theorem opened_recorded (opens : Bool) : Recorded config (opened ⟨[], []⟩ opens) :=
  { start_recorded with
    receivedAll := fun _ => rfl
    job := fun _ running => (running rfl).elim }

end Steps

end Gateway

/-- What a backup job finds in the folder, and what its clock shows, when it comes to
deleting old backups. -/
structure CleanupRun where
  now : SystemTime
  folder : BackupFolder

def CleanupRun.removed (profile : Profile) (config : MainConfig) (cleanup : CleanupRun) :
    List PathBuf :=
  (deleteOldBackups profile config cleanup.now cleanup.folder).removed

/-- One life of the gateway on the database file `live`: its configuration, whether the
database opened, its channels, what happened until the end and how its backup jobs ended.
The database's journal is left alone: without it nothing is rolled back. -/
structure Life {File : Type} (resolve : PathBuf → File) (live : File) (rmodbus : Rmodbus)
    (profile : Profile) where
  config : MainConfig
  onDatabase : resolve (SqliteStorage.dataPath config.storage.dataFolder) = live
  opens : Bool
  channels : List ChannelThread
  moves : List (Move Gateway.Step fun index : Fin channels.length =>
    (channels.get index).agent rmodbus profile)
  cleanups : List CleanupRun
  journal : ∀ cleanup ∈ cleanups, ∀ path ∈ cleanup.removed profile config,
    resolve path ≠ resolve (journalPath (SqliteStorage.dataPath config.storage.dataFolder))

section Lives

variable {File : Type} {resolve : PathBuf → File} {live : File}
  {json : SerdeJson} {rmodbus : Rmodbus} {profile : Profile}

def Life.run (json : SerdeJson) (life : Life resolve live rmodbus profile)
    (database : SqliteStorage) :
    Option (Together Gateway fun index : Fin life.channels.length =>
      (life.channels.get index).agent rmodbus profile) :=
  ((Gateway.machineFrom json life.config (Gateway.opened database life.opens)).together _
    Gateway.Step.message? .channelSend).run life.moves

/-- What the life does on a database of its own. -/
structure Lived (json : SerdeJson) (life : Life resolve live rmodbus profile) (own : Gateway) :
    Prop where
  alone : ∃ after, life.run json ⟨[], []⟩ = some after ∧ after.state = own ∧
    ∃ polls : List (Fin life.channels.length × Poll rmodbus),
      (∀ index, Polled (life.channels.get index) (after.threads index) (messagesOf index polls)) ∧
        EndToEnd json life.config own polls
  table : Gateway.TableMatches own
  windows : ∀ entry ∈ own.processed, ∀ row, entry.keeps row = true ↔
    (entry.queued.action.deletes entry.turn = true →
      cutoff life.config.storage.messagesTtl entry.turn.now ≤ row.ts ∧
        row.ts ≤ entry.turn.now.timestampMillis)

theorem keeps_iff {config : MainConfig} {entry : Processed}
    (configured : entry.queued.action.isTruncate = true →
      entry.queued.action = Gateway.configuredTruncate config) (row : Row) :
    entry.keeps row = true ↔ (entry.queued.action.deletes entry.turn = true →
      cutoff config.storage.messagesTtl entry.turn.now ≤ row.ts ∧
        row.ts ≤ entry.turn.now.timestampMillis) := by
  cases isTruncate : entry.queued.action.isTruncate with
  | false =>
      clear configured
      cases same : entry.queued.action <;>
        simp_all [Processed.keeps, SqliteStorageAction.keeps, SqliteStorageAction.deletes,
          SqliteStorageAction.isTruncate]
  | true =>
      rw [Processed.keeps, configured isTruncate, Gateway.configuredTruncate]
      simp only [SqliteStorageAction.keeps, SqliteStorageAction.deletes]
      cases subtracted : entry.turn.now.sub ⟨config.storage.messagesTtl.toInt * Chrono.nanosPerHour⟩ with
      | error panic => cases entry.turn.delete <;> simp [Except.isOk, Except.toBool]
      | ok old =>
          have lower := UtcDateTime.timestampMillis_sub subtracted
          cases entry.turn.delete <;> simp [Except.isOk, Except.toBool, lower, cutoff]

/-- Whatever a life finds, it does what it does on a database of its own. -/
theorem Life.lived {life : Life resolve live rmodbus profile} {found : SqliteStorage}
    {after : Together Gateway fun index : Fin life.channels.length =>
      (life.channels.get index).agent rmodbus profile}
    (decodes : ∀ own, life.run json ⟨[], []⟩ = some own → Gateway.Decodes json own.state)
    (executed : life.run json found = some after) :
    ∃ own, Lived json life own ∧ after.state.storage = Gateway.outlive found own := by
  have begin : Gateway.Beside found
      (Gateway.machineFrom json life.config (Gateway.opened found life.opens)).start
      (Gateway.machineFrom json life.config (Gateway.opened ⟨[], []⟩ life.opens)).start :=
    Gateway.opened_beside life.opens
  obtain ⟨own, alone, processed, same⟩ := together_matched Gateway.step_beside begin executed
  have splits : Splits (Gateway.machineFrom json life.config (Gateway.opened ⟨[], []⟩ life.opens))
      _ Gateway.Step.message? _ := together_splits (fun _ => rfl) alone
  obtain ⟨labels, _, split⟩ := splits
  have table : Gateway.TableMatches own :=
    Machine.invariant_always Gateway.step_tableMatches (Gateway.opened_tableMatches life.opens)
      split.executed
  have recorded : Gateway.Recorded life.config own :=
    Machine.invariant_always Gateway.step_recorded (Gateway.opened_recorded life.opens) split.executed
  refine ⟨own, ⟨⟨_, alone, rfl, ?_⟩, table, ?_⟩, by rw [same]⟩
  · exact exists_polls_from (Gateway.opened_accounts life.opens)
      (Gateway.opened_recorded life.opens) rfl alone (decodes _ alone)
  · intro entry member
    have received := recorded.received.trans own.storageQueue.received_prefix
    exact keeps_iff (recorded.configured _ (received.subset (List.mem_map_of_mem member)))

variable [DecidableEq File]

def Life.removesDatabase (life : Life resolve live rmodbus profile) : Bool :=
  life.cleanups.any fun cleanup =>
    (cleanup.removed profile life.config).any fun path => resolve path = live

/-- What the next life finds. -/
def Life.leaves (life : Life resolve live rmodbus profile) (storage : SqliteStorage) :
    SqliteStorage :=
  if life.removesDatabase then { storage with messages := [] } else storage

/-- Lives on one database, which is not there at first. -/
def restarts (resolve : PathBuf → File) (live : File) (json : SerdeJson) (rmodbus : Rmodbus)
    (profile : Profile) : Machine SqliteStorage (Life resolve live rmodbus profile) where
  start := ⟨[], []⟩
  step database life := (life.run json database).map fun after => life.leaves after.state.storage

/-- What the lives did whose rows can still be there: those after the last one that
removed the database. -/
def sinceRemoval (lives : List (Life resolve live rmodbus profile)) (gateways : List Gateway) :
    List Gateway :=
  ((lives.zip gateways).rtakeWhile fun entry => !entry.1.removesDatabase).map Prod.snd

theorem sinceRemoval_concat {earlier : List (Life resolve live rmodbus profile)}
    {gateways : List Gateway} (life : Life resolve live rmodbus profile) (own : Gateway)
    (length : earlier.length = gateways.length) :
    sinceRemoval (earlier ++ [life]) (gateways ++ [own]) =
      if life.removesDatabase then [] else sinceRemoval earlier gateways ++ [own] := by
  rw [sinceRemoval, List.zip_append length]
  change List.map Prod.snd (List.rtakeWhile _ (_ ++ [(life, own)])) = _
  split
  · rename_i removes
    rw [List.rtakeWhile_concat_neg _ _ _ (by simp [removes])]
    rfl
  · rename_i spares
    rw [List.rtakeWhile_concat_pos _ _ _ (by simp [spares]), List.map_append]
    rfl

/-- However often the gateway is stopped and started again, wherever it was stopped and
whatever failed: the table holds, life after life since a cleanup last removed the database,
what the life stores on a database of its own, less the rows outside the window of a
truncation since. -/
theorem table_after_restarts (resolve : PathBuf → File) (live : File) (json : SerdeJson)
    (rmodbus : Rmodbus) (profile : Profile) (lives : List (Life resolve live rmodbus profile))
    (database : SqliteStorage)
    (executed : (restarts resolve live json rmodbus profile).run lives = some database)
    (decodes : ∀ life ∈ lives, ∀ own, life.run json ⟨[], []⟩ = some own →
      Gateway.Decodes json own.state) :
    ∃ gateways : List Gateway, List.Forall₂ (Lived json) lives gateways ∧
      database = (lives.zip gateways).foldl
        (fun found entry => entry.1.leaves (Gateway.outlive found entry.2)) ⟨[], []⟩ ∧
        database.messages =
          Gateway.tableOf ((sinceRemoval lives gateways).flatMap Gateway.processed) := by
  induction lives using List.reverseRecOn generalizing database with
  | nil =>
      cases executed
      exact ⟨[], .nil, rfl, rfl⟩
  | append_singleton earlier life ih =>
      obtain ⟨found, before, last⟩ := Machine.run_concat executed
      obtain ⟨after, ran, rfl⟩ := Option.map_eq_some_iff.mp last
      obtain ⟨gateways, each, folded, table⟩ := ih found before fun other member =>
        decodes other (List.mem_append_left _ member)
      obtain ⟨own, lived, outlived⟩ := Life.lived (decodes life (by simp)) ran
      refine ⟨gateways ++ [own], ?_, ?_, ?_⟩
      · exact List.rel_append each (.cons lived .nil)
      · rw [List.zip_append each.length_eq, List.foldl_append, ← folded, outlived]
        rfl
      · rw [sinceRemoval_concat life own each.length_eq, Life.leaves, outlived]
        split
        · rfl
        · rw [List.flatMap_append, Gateway.tableOf, survivors_append, List.flatMap_cons,
            List.flatMap_nil, List.append_nil]
          exact congrArg₂ (· ++ ·) (congrArg (List.filter own.keeps) table) lived.table

end Lives

namespace Gateway.Sample

/-- The folder `backup` is a link to `db`. -/
def linked (path : PathBuf) : Option String := path.fileName

theorem linked_database :
    linked (SqliteStorage.dataPath config.storage.dataFolder) = some "data.db" := by decide

/-- One poll of the meter is stored, and then this happens. -/
def meterLife (rmodbus : Rmodbus) (now : UtcDateTime) (later : List Step) :
    Life linked (some "data.db") rmodbus .release where
  config := config
  onDatabase := linked_database
  opens := true
  channels := [meterThread ()]
  moves := (Modbus.Sample.poll true).map (fun choice => .thread ⟨0, Nat.zero_lt_one⟩ choice) ++
    (Step.aggregatorRecv :: .stamp now :: .sendToStorage :: .storageTurn (turn now) :: later).map .own
  cleanups := []
  journal := by simp

/-- The database was created at the epoch, and this is what a cleanup two hours later finds. -/
def oldDatabase : CleanupRun where
  now := ⟨2 * Chrono.nanosPerHour, by decide⟩
  folder := ⟨true, [some ⟨"data.db", some ⟨true, some .unixEpoch⟩, true⟩], by decide⟩

theorem oldDatabase_journal : ∀ cleanup ∈ [oldDatabase], ∀ path ∈ cleanup.removed .release config,
    linked path ≠ linked (journalPath (SqliteStorage.dataPath config.storage.dataFolder)) := by decide

/-- One poll is stored, and the cleanup of a backup job removes the database. -/
def removingLife (rmodbus : Rmodbus) (now : UtcDateTime) :
    Life linked (some "data.db") rmodbus .release :=
  { meterLife rmodbus now [] with
    cleanups := [oldDatabase]
    journal := oldDatabase_journal }

def truncatingLife (rmodbus : Rmodbus) (now : UtcDateTime) :
    Life linked (some "data.db") rmodbus .release where
  config := config
  onDatabase := linked_database
  opens := true
  channels := []
  moves := (Step.truncateJob :: .storageTurn (turn now) :: []).map .own
  cleanups := []
  journal := by simp

/-- A life removes the database. Two lives store a message each and are cut off before the
broker gets it. The last only truncates. -/
def fourLives (rmodbus : Rmodbus) (first second third : UtcDateTime) :
    List (Life linked (some "data.db") rmodbus .release) :=
  [removingLife rmodbus first, meterLife rmodbus first [],
    meterLife rmodbus second [.truncateJob, .storageTurn (turn second)],
    truncatingLife rmodbus third]

end Gateway.Sample

open Gateway.Sample (reading fourLives)

/-- The last life begins an hour and half a second after the first messages. -/
theorem table_after_restarts_four_lives :
    ∃ database gateways, (restarts Gateway.Sample.linked (some "data.db") Gateway.Sample.meterJson
        Rmodbus.reference .release).run
        (fourLives Rmodbus.reference (reading 100 0) (reading 101 0) (reading 101 500)) = some database ∧
      database.messages.map Row.ts = [(reading 101 0).timestampMillis] ∧
      List.Forall₂ (Lived Gateway.Sample.meterJson)
        (fourLives Rmodbus.reference (reading 100 0) (reading 101 0) (reading 101 500)) gateways ∧
      database.messages = Gateway.tableOf ((sinceRemoval
        (fourLives Rmodbus.reference (reading 100 0) (reading 101 0) (reading 101 500))
        gateways).flatMap Gateway.processed) := by
  have stamps : ((restarts Gateway.Sample.linked (some "data.db") Gateway.Sample.meterJson
      Rmodbus.reference .release).run
      (fourLives Rmodbus.reference (reading 100 0) (reading 101 0) (reading 101 500))).map
        (fun database => database.messages.map Row.ts) = some [(reading 101 0).timestampMillis] := by
    decide +kernel
  have sent : ∀ life ∈ fourLives Rmodbus.reference (reading 100 0) (reading 101 0) (reading 101 500),
      (life.run Gateway.Sample.meterJson ⟨[], []⟩).all (fun own =>
        own.state.aggregatorQueue.sent.all (· = Gateway.Sample.meterMessage)) = true := by
    decide +kernel
  obtain ⟨database, executed, left⟩ := Option.map_eq_some_iff.mp stamps
  obtain ⟨gateways, lived, _, table⟩ := table_after_restarts Gateway.Sample.linked (some "data.db")
    Gateway.Sample.meterJson Rmodbus.reference .release
    (fourLives Rmodbus.reference (reading 100 0) (reading 101 0) (reading 101 500)) database executed
    (by
      intro life member own ran
      have each := sent life member
      rw [ran] at each
      exact Gateway.Sample.meterJson_decodes fun action listed =>
        of_decide_eq_true (List.all_eq_true.mp each action listed))
  exact ⟨database, gateways, executed, left, lived, table⟩

end StsGateway
