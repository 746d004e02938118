import StsGateway.Host

namespace StsGateway

open Data

/-! The storage thread's loop, call by call.

`SqliteStorage.process` performs an action in one step on an abstract table. Here is what
the thread asks SQLite and the file system for on the way, and that both come to the same.
-/

namespace StorageThread

/-- The panics of the compression thread come out of `join().unwrap()`. -/
def compressionThread (destPath : PathBuf) : HostProgram Unit := do
  let databaseBytes : Bool ← Program.call (HostCall.read destPath)
  if databaseBytes then
    let compressed : Bool ← Program.call HostCall.compress
    if compressed then
      let written : Bool ← Program.call (HostCall.write (destPath.withExtension "db.zst"))
      if written then
        let removed : Bool ← Program.call (HostCall.removeFile destPath)
        if removed then return ()
        else .crash ⟨"called `Result::unwrap()` on an `Err` value"⟩
      else .crash ⟨"called `Result::unwrap()` on an `Err` value"⟩
    else .crash ⟨"called `Result::unwrap()` on an `Err` value"⟩
  else .crash ⟨"Could not read database file"⟩

def backupDb (destPath : PathBuf) : HostProgram (Except SqliteError Unit) := do
  let opened : Bool ← Program.call (HostCall.openDestination destPath)
  if opened then
    let started : Bool ← Program.call HostCall.newBackup
    if started then
      let completed : Bool ← Program.call HostCall.runToCompletion
      if completed then
        compressionThread destPath
        return .ok ()
      else return .error ⟨"sqlite3_backup_step"⟩
    else return .error ⟨"sqlite3_backup_init"⟩
  else return .error ⟨"sqlite3_open"⟩

def insertBoth (insert : Insert) : HostProgram Unit := do
  let begun : Bool ← Program.call HostCall.transaction
  if begun then
    let row ← Program.ofExcept insert.row
    let _executed : Bool ← Program.call (HostCall.execute row)
    -- the transaction commits when it is dropped, whatever became of the statement
    let finished : Bool ← Program.call HostCall.finish
    if finished then return () else .crash ⟨"Rollback failed to save transaction"⟩
  else return ()

def truncateFixedWindow (olderThan : Chrono.Duration) : HostProgram Unit := do
  let now : UtcDateTime ← Program.call HostCall.utcNow
  let old ← Program.ofExcept (now.sub olderThan)
  let _deleted : Bool ← Program.call (HostCall.delete old.timestampMillis now.timestampMillis)
  return ()

def perform : SqliteStorageAction → HostProgram Unit
  | .insertBoth insert => insertBoth insert
  | .backupDb path => do
      let result ← backupDb path
      Program.ofExcept (unwrapOk result)
  | .truncate (.fixedWindow olderThan) => truncateFixedWindow olderThan
  | .closeDb | .timeout | .insertAttributes _ | .insertTimeseries _ => return ()

def process : HostProgram Unit := do
  let action : SqliteStorageAction ← Program.call HostCall.recv
  perform action

end StorageThread

/-! ### What the thread works on -/

/-- The files that a backup goes through. -/
def backupFiles (path : PathBuf) : List PathBuf := [path, path.withExtension "db.zst"]

/-- The database and the folder of the backups. A file of the folder is told by the rows it
holds, `none` if it was not finished. -/
structure Disk where
  storage : SqliteStorage
  files : HashMap PathBuf (Option (List Row))

namespace Disk

/-- A backup leaves its compressed file, and no copy. -/
def filesAfter (disk : Disk) : SqliteStorageAction → HashMap PathBuf (Option (List Row))
  | .backupDb path =>
      (disk.files.insert (path.withExtension "db.zst") (some disk.storage.messages)).erase path
  | _ => disk.files

def process (disk : Disk) (turn : Turn) (action : SqliteStorageAction) : Except Panic Disk :=
  (disk.storage.process turn action).map fun storage => ⟨storage, disk.filesAfter action⟩

/-- A panic is the last thing that happens; what the action before it left of a backup is
not counted here. -/
def processQueue (disk : Disk) : List (Turn × SqliteStorageAction) → Except Panic Unit × Disk
  | [] => (.ok (), disk)
  | (turn, action) :: rest =>
      match disk.process turn action with
      | .ok after => after.processQueue rest
      | .error panic => (.error panic, disk)

/-- An action under way has done nothing to the database. Of the folder it may have touched
the two files of a backup; each of them holds the table or is not finished. -/
structure Underway (before after : Disk) (action : SqliteStorageAction) : Prop where
  storage : after.storage = before.storage
  files : ∀ file, after.files.lookup file = before.files.lookup file ∨
    ∃ path, action = .backupDb path ∧ file ∈ backupFiles path ∧
      (after.files.lookup file = some none ∨
        after.files.lookup file = some (some before.storage.messages))

theorem Underway.refl (disk : Disk) (action : SqliteStorageAction) : disk.Underway disk action :=
  ⟨rfl, fun _ => .inl rfl⟩

/-- Another write to one of the two files. -/
theorem Underway.insert {before after : Disk} {path file : PathBuf} {rows : Option (List Row)}
    (underway : before.Underway after (.backupDb path)) (own : file ∈ backupFiles path)
    (whole : rows = none ∨ rows = some before.storage.messages) :
    before.Underway { after with files := after.files.insert file rows } (.backupDb path) := by
  refine ⟨underway.storage, fun other => ?_⟩
  by_cases same : other = file
  · subst same
    refine .inr ⟨path, rfl, own, ?_⟩
    rw [Finmap.lookup_insert]
    exact whole.imp (congrArg some) (congrArg some)
  · rw [Finmap.lookup_insert_of_ne _ same]
    exact underway.files other

end Disk

/-- The connection and the disk. Every queued action comes with what will become of its
calls. A statement counts once its transaction is committed; a backup is finished once its
`.db` copy is gone. -/
structure StorageHost where
  queue : List (Turn × SqliteStorageAction)
  turn : Turn
  disk : Disk
  statement : Option Row
  destination : Option PathBuf
  databaseBytes : Option (List Row)
  compressed : Option Backup

namespace StorageHost

/-- A write that fails may leave a file. -/
def respond (host : StorageHost) (leavesFile : Bool) : (op : HostCall) → op.Reply × StorageHost
  | .recv =>
      match host.queue with
      | [] => (.timeout, host)
      | (turn, action) :: queue =>
          (action, { host with queue, turn, statement := none, destination := none, compressed := none })
  | .utcNow => (host.turn.now, host)
  | .transaction => (host.turn.insert.transaction, host)
  | .execute row =>
      (host.turn.insert.execute,
        { host with statement := if host.turn.insert.execute then some row else none })
  | .finish =>
      (host.turn.insert.finish,
        if host.turn.insert.finish && host.turn.insert.commit then
          { host with disk.storage.messages := host.disk.storage.messages ++ host.statement.toList }
        else host)
  | .delete low high =>
      (host.turn.delete,
        if host.turn.delete then
          { host with
            disk.storage.messages := deleteNotBetween host.disk.storage.messages low high }
        else host)
  | .openDestination path =>
      (host.turn.backup.openDestination,
        if host.turn.backup.openDestination then
          { host with
            destination := some path
            disk.files := if path ∈ host.disk.files then host.disk.files
              else host.disk.files.insert path none }
        else host)
  | .newBackup => (host.turn.backup.newBackup, host)
  | .runToCompletion =>
      (host.turn.backup.runToCompletion,
        match host.destination with
        | none => host
        | some path =>
            if host.turn.backup.runToCompletion then
              { host with disk.files := host.disk.files.insert path (some host.disk.storage.messages) }
            else { host with disk.files := host.disk.files.insert path none })
  | .read path =>
      (host.turn.backup.readFile, { host with databaseBytes := (host.disk.files.lookup path).join })
  | .compress => (host.turn.backup.compress, host)
  | .write path =>
      (host.turn.backup.writeCompressed,
        if host.turn.backup.writeCompressed then
          { host with
            disk.files := host.disk.files.insert path host.databaseBytes
            compressed := host.databaseBytes.map fun rows => ⟨path, rows⟩ }
        else if leavesFile then { host with disk.files := host.disk.files.insert path none }
        else host)
  | .removeFile path =>
      (host.turn.backup.removeFile,
        if host.turn.backup.removeFile then
          { host with
            disk.files := host.disk.files.erase path
            disk.storage.backups := host.disk.storage.backups ++ host.compressed.toList }
        else host)
  | op => (op.refused, host)

def world : World HostCall HostCall.Reply StorageHost Bool where
  respond := respond

def start (disk : Disk) (turn : Turn) (queue : List (Turn × SqliteStorageAction)) : StorageHost :=
  ⟨queue, turn, disk, none, none, none, none⟩

end StorageHost

namespace StorageThread

variable {host : StorageHost} {leavesFile : Bool}

/-- The host after an action, as far as the next action depends on it. -/
def Performed (before : StorageHost) (action : SqliteStorageAction)
    (outcome : Except Panic Unit × StorageHost) : Prop :=
  outcome.2.queue = before.queue ∧
    match before.disk.process before.turn action with
    | .ok after => outcome.1 = .ok () ∧ outcome.2.disk = after
    | .error panic => outcome.1 = .error panic ∧ outcome.2.disk.storage = before.disk.storage

theorem insertBoth_performed (insert : Insert) (clean : host.statement = none) :
    Performed host (.insertBoth insert)
      ((insertBoth insert).execute (StorageHost.respond · leavesFile) host) := by
  obtain ⟨queue, ⟨now, ⟨transaction, execute, commit, finish⟩, delete, backup⟩, disk, statement,
    destination, databaseBytes, compressed⟩ := host
  cases clean
  cases transaction with
  | false => exact ⟨rfl, rfl, rfl⟩
  | true =>
      cases bound : insert.row with
      | error panic =>
          simp [Performed, insertBoth, StorageHost.respond, Disk.process, SqliteStorage.process,
            SqliteStorage.insertBoth, bound, Except.map]
      | ok row =>
          cases finish <;> cases execute <;> cases commit <;>
            simp [Performed, insertBoth, StorageHost.respond, Disk.process, Disk.filesAfter,
              SqliteStorage.process, SqliteStorage.insertBoth, bound, Except.map]

/-- What was written to the copy is gone with it. -/
theorem erase_copy {files : HashMap PathBuf (Option (List Row))} {path file : PathBuf}
    {first second rows : Option (List Row)} :
    (((if path ∈ files then files else files.insert path first).insert path second).insert file
      rows).erase path = (files.insert file rows).erase path := by
  refine Finmap.ext_lookup fun other => ?_
  by_cases same : other = path
  · rw [same, Finmap.lookup_erase, Finmap.lookup_erase]
  · rw [Finmap.lookup_erase_ne same, Finmap.lookup_erase_ne same]
    by_cases written : other = file
    · rw [written, Finmap.lookup_insert, Finmap.lookup_insert]
    · rw [Finmap.lookup_insert_of_ne _ written, Finmap.lookup_insert_of_ne _ written,
        Finmap.lookup_insert_of_ne _ same]
      split
      · rfl
      · exact Finmap.lookup_insert_of_ne _ same

/-- The compressed file holds what was read back from the copy. -/
theorem process_backup {disk : Disk} {turn : Turn} {path : PathBuf}
    (succeeds : turn.backup.succeeds = true) :
    let copied := (if path ∈ disk.files then disk.files else disk.files.insert path none).insert path
      (some disk.storage.messages)
    let read := (copied.lookup path).join
    disk.process turn (.backupDb path) = .ok
      { storage := { disk.storage with
          backups := disk.storage.backups ++
            (read.map fun rows => Backup.mk (path.withExtension "db.zst") rows).toList }
        files := (copied.insert (path.withExtension "db.zst") read).erase path } := by
  intro copied read
  have same : read = some disk.storage.messages := by
    simp only [read, copied, Finmap.lookup_insert, Option.join_some]
  rw [same, Disk.process, SqliteStorage.process_backupDb.mpr ⟨succeeds, rfl⟩]
  simp only [copied, erase_copy]
  rfl

theorem backupDb_performed (path : PathBuf) :
    Performed host (.backupDb path)
      ((perform (.backupDb path)).execute (StorageHost.respond · leavesFile) host) := by
  obtain ⟨queue, ⟨now, insert, delete, ⟨opened, started, completed, read, compressed, written, removed⟩⟩,
    disk, statement, destination, databaseBytes, pending⟩ := host
  simp only [perform, Program.execute_bind]
  cases opened with
  | false => exact ⟨rfl, rfl, rfl⟩
  | true =>
      cases started with
      | false => exact ⟨rfl, rfl, rfl⟩
      | true =>
          cases completed with
          | false => exact ⟨rfl, rfl, rfl⟩
          | true =>
              cases read with
              | false => exact ⟨rfl, rfl, rfl⟩
              | true =>
                  cases compressed with
                  | false => exact ⟨rfl, rfl, rfl⟩
                  | true =>
                      cases written with
                      | false => cases leavesFile <;> exact ⟨rfl, rfl, rfl⟩
                      | true =>
                          cases removed with
                          | false => exact ⟨rfl, rfl, rfl⟩
                          | true =>
                              rw [Performed, process_backup rfl]
                              exact ⟨rfl, rfl, rfl⟩

theorem truncateFixedWindow_performed (olderThan : Chrono.Duration) :
    Performed host (.truncate (.fixedWindow olderThan))
      ((truncateFixedWindow olderThan).execute (StorageHost.respond · leavesFile) host) := by
  obtain ⟨queue, ⟨now, insert, delete, backup⟩, disk, statement, destination, databaseBytes,
    compressed⟩ := host
  cases cutoff : now.sub olderThan with
  | error panic =>
      simp [Performed, truncateFixedWindow, StorageHost.respond, Disk.process, SqliteStorage.process,
        StsGateway.truncateFixedWindow, cutoff, Except.map]
  | ok old =>
      cases delete <;>
        simp [Performed, truncateFixedWindow, StorageHost.respond, Disk.process, Disk.filesAfter,
          SqliteStorage.process, StsGateway.truncateFixedWindow, cutoff, Except.map]

theorem perform_performed (action : SqliteStorageAction) (committed : host.statement = none) :
    Performed host action ((perform action).execute (StorageHost.respond · leavesFile) host) := by
  cases action with
  | insertBoth insert => exact insertBoth_performed insert committed
  | backupDb path => exact backupDb_performed path
  | truncate mode =>
      obtain ⟨olderThan⟩ := mode
      exact truncateFixedWindow_performed olderThan
  | insertAttributes insert => exact ⟨rfl, rfl, rfl⟩
  | insertTimeseries insert => exact ⟨rfl, rfl, rfl⟩
  | closeDb => exact ⟨rfl, rfl, rfl⟩
  | timeout => exact ⟨rfl, rfl, rfl⟩

/-- The thread ends as processing the queue does. -/
structure Ends (disk : Disk) (queue : List (Turn × SqliteStorageAction))
    (outcome : Except Panic Unit × StorageHost) : Prop where
  result : outcome.1 = (disk.processQueue queue).1
  storage : outcome.2.disk.storage = (disk.processQueue queue).2.storage
  disk : outcome.1 = .ok () → outcome.2.disk = (disk.processQueue queue).2

theorem iterate_process (queue : List (Turn × SqliteStorageAction)) (host : StorageHost)
    (waiting : host.queue = queue) :
    Ends host.disk queue
      ((process.iterate queue.length).execute (StorageHost.respond · leavesFile) host) := by
  induction queue generalizing host with
  | nil => exact ⟨rfl, rfl, fun _ => rfl⟩
  | cons entry rest ih =>
      obtain ⟨_, former, disk, statement, destination, databaseBytes, compressed⟩ := host
      obtain ⟨turn, action⟩ := entry
      cases waiting
      let taken : StorageHost := ⟨rest, turn, disk, none, none, databaseBytes, none⟩
      have iterated : (process.iterate (rest.length + 1)).execute (StorageHost.respond · leavesFile)
          ⟨(turn, action) :: rest, former, disk, statement, destination, databaseBytes, compressed⟩ =
        (perform action >>= fun _ => process.iterate rest.length).execute
          (StorageHost.respond · leavesFile) taken := rfl
      obtain ⟨remaining, performed⟩ := @perform_performed taken leavesFile action rfl
      rw [List.length_cons, iterated, Program.execute_bind]
      generalize (perform action).execute (StorageHost.respond · leavesFile) taken = outcome
        at remaining performed
      obtain ⟨ended, after⟩ := outcome
      cases processed : disk.process turn action with
      | error panic =>
          simp only [taken, processed] at performed
          obtain ⟨rfl, stored⟩ := performed
          constructor <;> simp [Disk.processQueue, processed, stored]
      | ok next =>
          simp only [taken, processed] at performed
          obtain ⟨rfl, rfl⟩ := performed
          have continued := ih after remaining
          have queued : disk.processQueue ((turn, action) :: rest) = after.disk.processQueue rest := by
            rw [Disk.processQueue, processed]
          exact ⟨by rw [queued]; exact continued.result, by rw [queued]; exact continued.storage,
            by rw [queued]; exact continued.disk⟩

/-! ### Between two calls -/

/-- Seen between two of its calls, the action is under way or has been performed. -/
def Atomic (before : StorageHost) (action : SqliteStorageAction) (host : StorageHost) : Prop :=
  before.disk.Underway host.disk action ∨ before.disk.process before.turn action = .ok host.disk

def Finished (before : StorageHost) (action : SqliteStorageAction) (host : StorageHost) : Prop :=
  before.disk.process before.turn action = .ok host.disk ∧ host.queue = before.queue

abbrev PerformsAtomically (host : StorageHost) (action : SqliteStorageAction) : Prop :=
  (perform action).Ensures StorageHost.world (fun _ _ _ => True) (Atomic host action)
    (fun _ => Finished host action) host

theorem insertBoth_atomic (insert : Insert) (clean : host.statement = none) :
    PerformsAtomically host (.insertBoth insert) := by
  obtain ⟨queue, ⟨now, ⟨transaction, execute, commit, finish⟩, delete, backup⟩, disk, statement,
    destination, databaseBytes, compressed⟩ := host
  cases clean
  refine fun _ _ => ⟨.inl (.refl _ _), ?_⟩
  cases transaction with
  | false => exact ⟨rfl, rfl⟩
  | true =>
      refine Program.Ensures.ofExcept_bind fun row bound => ?_
      refine fun _ _ => ⟨.inl (.refl _ _), fun _ _ => ?_⟩
      cases finish with
      | false => exact ⟨.inl (.refl _ _), trivial⟩
      | true =>
          have inserted : disk.process ⟨now, ⟨true, execute, commit, true⟩, delete, backup⟩
              (.insertBoth insert) = .ok { disk with
                storage.messages := disk.storage.messages ++
                  if execute && commit then [row] else [] } := by
            cases execute <;> cases commit <;>
              simp [Disk.process, Disk.filesAfter, SqliteStorage.process, SqliteStorage.insertBoth,
                bound, Except.map]
          cases commit with
          | true => cases execute <;> exact ⟨.inr inserted, inserted, rfl⟩
          | false =>
              simp only [Bool.and_false, Bool.false_eq_true, if_false, List.append_nil] at inserted
              exact ⟨.inr inserted, inserted, rfl⟩

theorem underway_opened (disk : Disk) (path : PathBuf) :
    disk.Underway { disk with
      files := if path ∈ disk.files then disk.files else disk.files.insert path none }
      (.backupDb path) := by
  split
  · exact Disk.Underway.refl disk _
  · exact (Disk.Underway.refl disk _).insert List.mem_cons_self (.inl rfl)

theorem backupDb_atomic (path : PathBuf) : PerformsAtomically host (.backupDb path) := by
  obtain ⟨queue, ⟨now, insert, delete, ⟨opened, started, completed, read, compressed, written, removed⟩⟩,
    disk, statement, destination, databaseBytes, pending⟩ := host
  have created := underway_opened disk path
  have copied := created.insert List.mem_cons_self (.inr rfl)
  have readBack : (((if path ∈ disk.files then disk.files else disk.files.insert path none).insert path
      (some disk.storage.messages)).lookup path).join = some disk.storage.messages := by
    rw [Finmap.lookup_insert]
    rfl
  have second : path.withExtension "db.zst" ∈ backupFiles path :=
    List.mem_cons_of_mem _ List.mem_cons_self
  have both := copied.insert second (.inr readBack)
  refine fun _ _ => ?_
  cases opened with
  | false => exact ⟨.inl (.refl _ _), trivial⟩
  | true =>
      refine ⟨.inl created, fun _ _ => ⟨.inl created, ?_⟩⟩
      cases started with
      | false => trivial
      | true =>
          refine fun _ _ => ?_
          cases completed with
          | false => exact ⟨.inl (created.insert List.mem_cons_self (.inl rfl)), trivial⟩
          | true =>
              refine ⟨.inl copied, fun _ _ => ⟨.inl copied, ?_⟩⟩
              cases read with
              | false => trivial
              | true =>
                  refine fun _ _ => ⟨.inl copied, ?_⟩
                  cases compressed with
                  | false => trivial
                  | true =>
                      refine fun leavesFile _ => ?_
                      cases written with
                      | false =>
                          cases leavesFile with
                          | false => exact ⟨.inl copied, trivial⟩
                          | true => exact ⟨.inl (copied.insert second (.inl rfl)), trivial⟩
                      | true =>
                          refine ⟨.inl both, fun _ _ => ?_⟩
                          cases removed with
                          | false => exact ⟨.inl both, trivial⟩
                          | true =>
                              exact ⟨.inr (process_backup rfl), process_backup rfl, rfl⟩

theorem truncateFixedWindow_atomic (olderThan : Chrono.Duration) :
    PerformsAtomically host (.truncate (.fixedWindow olderThan)) := by
  refine fun leavesFile _ => ⟨.inl (.refl _ _), ?_⟩
  refine Program.Ensures.ofExcept_bind fun old cutoff => fun _ _ => ?_
  have truncated : host.disk.process host.turn (.truncate (.fixedWindow olderThan)) = .ok
      (host.respond leavesFile
        (.delete old.timestampMillis host.turn.now.timestampMillis)).2.disk := by
    rw [Disk.process, SqliteStorage.process_truncate.mpr ⟨old, cutoff, rfl⟩]
    simp only [StorageHost.respond]
    split <;> rfl
  refine ⟨.inr truncated, truncated, ?_⟩
  simp only [StorageHost.world, StorageHost.respond]
  split <;> rfl

theorem perform_atomic (action : SqliteStorageAction) (committed : host.statement = none) :
    PerformsAtomically host action := by
  cases action with
  | insertBoth insert => exact insertBoth_atomic insert committed
  | backupDb path => exact backupDb_atomic path
  | truncate mode =>
      obtain ⟨olderThan⟩ := mode
      exact truncateFixedWindow_atomic olderThan
  | insertAttributes insert => exact ⟨rfl, rfl⟩
  | insertTimeseries insert => exact ⟨rfl, rfl⟩
  | closeDb => exact ⟨rfl, rfl⟩
  | timeout => exact ⟨rfl, rfl⟩

variable {disk : Disk} {queue : List (Turn × SqliteStorageAction)}

theorem processQueue_append {done rest : List (Turn × SqliteStorageAction)} {after : Disk}
    (performed : disk.processQueue done = (.ok (), after)) :
    disk.processQueue (done ++ rest) = after.processQueue rest := by
  induction done generalizing disk with
  | nil =>
      cases performed
      rfl
  | cons entry done ih =>
      obtain ⟨turn, action⟩ := entry
      rw [List.cons_append]
      simp only [Disk.processQueue] at performed ⊢
      split at performed
      · exact ih performed
      · cases performed

/-- What a process killed at some moment leaves behind. -/
def Leaves (disk : Disk) (queue : List (Turn × SqliteStorageAction)) (host : StorageHost) : Prop :=
  ∃ done under, done ++ under <+: queue ∧ under.length ≤ 1 ∧
    host.disk.storage = (disk.processQueue done).2.storage ∧
    ∀ file, host.disk.files.lookup file = (disk.processQueue done).2.files.lookup file ∨
      ∃ turn path, (turn, .backupDb path) ∈ under ∧ file ∈ backupFiles path ∧
        (host.disk.files.lookup file = some none ∨
          host.disk.files.lookup file = some (some host.disk.storage.messages))

def AtRecv (disk : Disk) (queue : List (Turn × SqliteStorageAction)) (host : StorageHost) : Prop :=
  ∃ done, queue = done ++ host.queue ∧ disk.processQueue done = (.ok (), host.disk)

theorem AtRecv.leaves (holds : AtRecv disk queue host) : Leaves disk queue host := by
  obtain ⟨done, split, performed⟩ := holds
  refine ⟨done, [], ?_, Nat.zero_le _, by rw [performed], fun _ => .inl (by rw [performed])⟩
  rw [List.append_nil, split]
  exact List.prefix_append _ _

theorem process_leaves (holds : AtRecv disk queue host) :
    process.Ensures StorageHost.world (fun _ _ _ => True) (Leaves disk queue)
      (fun _ => AtRecv disk queue) host := by
  obtain ⟨waiting, former, current, statement, destination, databaseBytes, compressed⟩ := host
  obtain ⟨done, split, performed⟩ := id holds
  refine Program.Ensures.call_bind fun _ _ => ?_
  cases waiting with
  | nil => exact ⟨holds.leaves, holds⟩
  | cons entry rest =>
      obtain ⟨turn, action⟩ := entry
      refine ⟨?_, ?_⟩
      · exact ⟨done, [], by rw [List.append_nil]; exact ⟨_, split.symm⟩, Nat.zero_le _,
          by rw [performed]; rfl, fun _ => .inl (by rw [performed]; rfl)⟩
      · have next : queue = (done ++ [(turn, action)]) ++ rest := by
          rw [split, List.append_assoc]
          rfl
        have extended : ∀ {after}, current.process turn action = .ok after →
            disk.processQueue (done ++ [(turn, action)]) = (.ok (), after) := by
          intro after processed
          rw [processQueue_append performed, Disk.processQueue, processed]
          rfl
        have atomic := @perform_atomic ⟨rest, turn, current, none, none, databaseBytes, none⟩ action rfl
        refine (atomic.maintains ?_).mono ?_
        · rintro after (⟨same, files⟩ | processed)
          · refine ⟨done, [(turn, action)], ⟨rest, next.symm⟩, Nat.le_refl _,
              by rw [performed]; exact same, fun file => ?_⟩
            rw [performed]
            refine (files file).imp_right fun touched => ?_
            obtain ⟨path, rfl, own, left⟩ := touched
            exact ⟨turn, path, List.mem_singleton_self _, own, by rw [same]; exact left⟩
          · refine ⟨done ++ [(turn, action)], [], ⟨rest, ?_⟩, Nat.zero_le _,
              by rw [extended processed], fun _ => .inl (by rw [extended processed])⟩
            rw [List.append_nil, next]
        · rintro _ after ⟨processed, remaining⟩
          exact ⟨done ++ [(turn, action)], by rw [next, remaining], extended processed⟩

end StorageThread

/-- The storage thread, call by call, does to the database and the folder what processing
the queue action by action does, and ends as it does. Killed at any moment, it leaves the
result of some first actions of the queue; only the two files of a backup under way may
differ, and each of these is either not finished or holds the table. -/
theorem storage_thread_processes_queue (disk : Disk) (turn : Turn)
    (queue : List (Turn × SqliteStorageAction)) :
    (∀ leavesFile, StorageThread.Ends disk queue ((StorageThread.process.iterate queue.length).execute
      (StorageHost.respond · leavesFile) (StorageHost.start disk turn queue))) ∧
    ∀ moments, StorageThread.Leaves disk queue
      ((StorageThread.process.iterate queue.length).run StorageHost.world
        (StorageHost.start disk turn queue) moments).2 := by
  refine ⟨fun _ => StorageThread.iterate_process queue (StorageHost.start disk turn queue) rfl,
    fun moments => ?_⟩
  have initial : StorageThread.AtRecv disk queue (StorageHost.start disk turn queue) :=
    ⟨[], rfl, rfl⟩
  have ensures := Program.Ensures.iterate (StorageThread.AtRecv disk queue)
    (fun before holds => StorageThread.process_leaves holds) initial queue.length
  exact (ensures.sound initial.leaves (Program.stepsMeet_true StorageHost.world _ _ moments)).1

end StsGateway
