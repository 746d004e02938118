import StsGateway.Definitions
import StsGateway.Path

namespace StsGateway

/-! `storage.rs`: the message table and the actions the storage thread performs on it.

The table is the list of its rows in insertion order. Which of the SQLite and
file operations succeed, and what the clock shows, is decided from outside and
passed in as the `Turn` of one `process` call.
-/

structure Insert where
  ts : Int
  deviceName : String
  timeseriesMessage : Option String
  attributesMessage : Option String
deriving DecidableEq

inductive SqliteStorageTruncate where
  | fixedWindow (olderThan : Chrono.Duration)
deriving DecidableEq

inductive SqliteStorageAction where
  | insertAttributes (insert : Insert)
  | insertTimeseries (insert : Insert)
  | insertBoth (insert : Insert)
  | closeDb
  | backupDb (path : PathBuf)
  | truncate (mode : SqliteStorageTruncate)
  | timeout
deriving DecidableEq

structure Row where
  ts : Int
  deviceName : String
  timeseriesMessage : String
  attributesMessage : String
deriving DecidableEq

/-- A finished backup: the compressed file and the rows it holds. -/
structure Backup where
  file : PathBuf
  rows : List Row
deriving DecidableEq

structure SqliteStorage where
  messages : List Row
  backups : List Backup
deriving DecidableEq

structure SqliteError where
  operation : String
deriving DecidableEq

/-- A `COMMIT` that fails is rolled back, and only a rollback that fails as well makes
`finish` an error. -/
structure InsertOutcome where
  transaction : Bool
  execute : Bool
  commit : Bool
  finish : Bool
deriving DecidableEq

/-- Success of the operations a backup performs, in their order. -/
structure BackupOutcome where
  openDestination : Bool
  newBackup : Bool
  runToCompletion : Bool
  readFile : Bool
  compress : Bool
  writeCompressed : Bool
  removeFile : Bool
deriving DecidableEq

/-- What the environment decides about one `process` call. -/
structure Turn where
  now : UtcDateTime
  insert : InsertOutcome
  delete : Bool
  backup : BackupOutcome
deriving DecidableEq

def InsertOutcome.succeeds (outcome : InsertOutcome) : Bool :=
  outcome.transaction && outcome.execute && outcome.commit && outcome.finish

def BackupOutcome.succeeds (outcome : BackupOutcome) : Bool :=
  outcome.openDestination && outcome.newBackup && outcome.runToCompletion && outcome.readFile &&
    outcome.compress && outcome.writeCompressed && outcome.removeFile

def Insert.row (insert : Insert) : Except Panic Row := do
  let timeseriesMessage ← unwrap insert.timeseriesMessage
  let attributesMessage ← unwrap insert.attributesMessage
  return { ts := insert.ts, deviceName := insert.deviceName, timeseriesMessage, attributesMessage }

/-- The rows `DELETE ... WHERE ts NOT BETWEEN ?1 AND ?2` leaves. -/
def deleteNotBetween (messages : List Row) (low high : Int) : List Row :=
  messages.filter fun row => low ≤ row.ts ∧ row.ts ≤ high

def truncateFixedWindow (messages : List Row) (olderThan : Chrono.Duration) (now : UtcDateTime)
    (delete : Bool) : Except Panic (Except SqliteError (List Row)) := do
  let old ← now.sub olderThan
  if delete then .ok (.ok (deleteNotBetween messages old.timestampMillis now.timestampMillis))
  else .ok (.error ⟨"DELETE FROM messages"⟩)

/-- The compression thread is joined with `unwrap`, so its panics are the caller's. -/
def backupDb (messages : List Row) (path : PathBuf) (outcome : BackupOutcome) :
    Except Panic (Except SqliteError Backup) :=
  if !outcome.openDestination then .ok (.error ⟨"sqlite3_open"⟩)
  else if !outcome.newBackup then .ok (.error ⟨"sqlite3_backup_init"⟩)
  else if !outcome.runToCompletion then .ok (.error ⟨"sqlite3_backup_step"⟩)
  else if !outcome.readFile then .error ⟨"Could not read database file"⟩
  else if !outcome.compress then .error ⟨"called `Result::unwrap()` on an `Err` value"⟩
  else if !outcome.writeCompressed then .error ⟨"called `Result::unwrap()` on an `Err` value"⟩
  else if !outcome.removeFile then .error ⟨"called `Result::unwrap()` on an `Err` value"⟩
  else .ok (.ok { file := path.withExtension "db.zst", rows := messages })

namespace SqliteStorage

/-- A row whose statement failed is logged and lost, one whose commit was rolled back is
lost and logged as written; a transaction that cannot be ended panics. -/
def insertBoth (storage : SqliteStorage) (insert : Insert) (outcome : InsertOutcome) :
    Except Panic SqliteStorage :=
  if !outcome.transaction then .ok storage
  else do
    let row ← insert.row
    if !outcome.finish then .error ⟨"Rollback failed to save transaction"⟩
    else if !outcome.execute || !outcome.commit then .ok storage
    else .ok { storage with messages := storage.messages ++ [row] }

def process (storage : SqliteStorage) (turn : Turn) : SqliteStorageAction →
    Except Panic SqliteStorage
  | .insertBoth insert => storage.insertBoth insert turn.insert
  | .backupDb path => do
      let result ← backupDb storage.messages path turn.backup
      let backup ← unwrapOk result
      return { storage with backups := storage.backups ++ [backup] }
  | .truncate (.fixedWindow olderThan) => do
      match ← truncateFixedWindow storage.messages olderThan turn.now turn.delete with
      | .ok messages => return { storage with messages }
      | .error _ => return storage
  | .closeDb => .ok storage
  | .timeout => .ok storage
  | .insertAttributes _ => .ok storage
  | .insertTimeseries _ => .ok storage

end SqliteStorage

/-- Where `SqliteStorage::new` opens the database. -/
def SqliteStorage.dataPath (dataFolder : String) : PathBuf :=
  if endsWith dataFolder ".db" then PathBuf.new dataFolder
  else (PathBuf.new dataFolder).join (PathBuf.new "data.db")

/-! ### What each action does -/

theorem Insert.row_of_some {insert : Insert} {timeseries attributes : String}
    (hasTimeseries : insert.timeseriesMessage = some timeseries)
    (hasAttributes : insert.attributesMessage = some attributes) :
    insert.row = .ok ⟨insert.ts, insert.deviceName, timeseries, attributes⟩ := by
  simp [Insert.row, unwrap, hasTimeseries, hasAttributes]

theorem backupDb_ok_iff {messages : List Row} {path : PathBuf} {outcome : BackupOutcome}
    {backup : Backup} :
    backupDb messages path outcome = .ok (.ok backup) ↔
      outcome.succeeds = true ∧ backup = ⟨path.withExtension "db.zst", messages⟩ := by
  obtain ⟨opened, started, copied, read, compressed, written, removed⟩ := outcome
  cases opened <;> cases started <;> cases copied <;> cases read <;> cases compressed <;>
    cases written <;> cases removed <;> simp [backupDb, BackupOutcome.succeeds, eq_comm]

namespace SqliteStorage

variable {storage after : SqliteStorage} {turn : Turn}

theorem process_insertBoth {insert : Insert} {row : Row} (bound : insert.row = .ok row)
    (succeeds : turn.insert.succeeds = true) :
    storage.process turn (.insertBoth insert) =
      .ok { storage with messages := storage.messages ++ [row] } := by
  simp only [InsertOutcome.succeeds, Bool.and_eq_true] at succeeds
  simp [process, insertBoth, bound, succeeds]

/-- Whatever fails on the way, an insert only ever adds rows. -/
theorem process_insertBoth_appends {insert : Insert}
    (executed : storage.process turn (.insertBoth insert) = .ok after) :
    ∃ rows, after = { storage with messages := storage.messages ++ rows } := by
  simp only [process, insertBoth] at executed
  split at executed
  · cases executed
    exact ⟨[], by rw [List.append_nil]⟩
  · obtain ⟨row, bound, inserted⟩ := bind_eq_ok.mp executed
    split at inserted
    · contradiction
    · split at inserted
      · cases inserted
        exact ⟨[], by rw [List.append_nil]⟩
      · cases inserted
        exact ⟨[row], rfl⟩

theorem process_backupDb {path : PathBuf} :
    storage.process turn (.backupDb path) = .ok after ↔ turn.backup.succeeds = true ∧
      after = { storage with
        backups := storage.backups ++ [⟨path.withExtension "db.zst", storage.messages⟩] } := by
  simp only [process, bind_eq_ok]
  constructor
  · intro holds
    obtain ⟨result, ran, backup, unwrapped, done⟩ := holds
    cases result with
    | error failure => simp [unwrapOk] at unwrapped
    | ok finished =>
        cases unwrapped
        obtain ⟨succeeds, rfl⟩ := backupDb_ok_iff.mp ran
        exact ⟨succeeds, (Except.ok.inj done).symm⟩
  · intro holds
    obtain ⟨succeeds, rfl⟩ := holds
    exact ⟨_, backupDb_ok_iff.mpr ⟨succeeds, rfl⟩, _, rfl, rfl⟩

/-- A truncation deletes what lies outside the window or, when the statement
fails, nothing; it panics only if the cutoff leaves the calendar. -/
theorem process_truncate {olderThan : Chrono.Duration} :
    storage.process turn (.truncate (.fixedWindow olderThan)) = .ok after ↔
      ∃ old, turn.now.sub olderThan = .ok old ∧
        after = if turn.delete then { storage with
          messages := deleteNotBetween storage.messages old.timestampMillis turn.now.timestampMillis }
        else storage := by
  cases cutoff : turn.now.sub olderThan with
  | error panic => simp [process, truncateFixedWindow, cutoff]
  | ok old =>
      cases deleted : turn.delete <;>
        simp [process, truncateFixedWindow, cutoff, deleted, eq_comm]

end SqliteStorage

end StsGateway
