import StsGateway.Gateway
import StsGateway.Host

namespace StsGateway

open Data

/-! The scheduler thread, `backup_local_fixed_window_scheduler` in `main.rs`, call by call. -/

structure BackupScheduler where
  profile : Profile
  naming : Naming
  config : MainConfig
  /-- How many entries a walk may be handed; a folder is listed without a bound. -/
  fuel : Nat

namespace BackupScheduler

def folder (scheduler : BackupScheduler) : PathBuf := PathBuf.new scheduler.config.storage.backupFolder

/-- The loop over the entries of the folder. -/
def removeExpired (olderThan : SystemTime) : Nat → HostProgram Unit
  | 0 => do
      let _nothing : Unit ← Program.call HostCall.outOfFuel
      return ()
  | fuel + 1 => do
      let listed : Option (Option PathBuf) ← Program.call HostCall.nextEntry
      match listed with
      | none => return ()
      | some none => removeExpired olderThan fuel
      | some (some path) =>
          let metadata : Option Metadata ← Program.call (HostCall.metadata path)
          match metadata with
          | none => .crash ⟨"called `Result::unwrap()` on an `Err` value"⟩
          | some ⟨true, some created⟩ =>
              if created.nanos < olderThan.nanos then
                -- a file that could not be removed is only logged
                let _removed : Bool ← Program.call (HostCall.removeFile path)
                removeExpired olderThan fuel
              else removeExpired olderThan fuel
          | some _ => removeExpired olderThan fuel

def deleteOldBackups (scheduler : BackupScheduler) : HostProgram Unit := do
  let opened : Bool ← Program.call (HostCall.readDir scheduler.folder)
  if opened then
    let seconds ← Program.ofExcept (scheduler.profile.mulU64 3600 (asU64 scheduler.config.storage.backupTtl))
    let now : SystemTime ← Program.call HostCall.systemNow
    let olderThan ← Program.ofExcept (now.subSecs seconds)
    removeExpired olderThan scheduler.fuel
  else return ()

def backupJob (scheduler : BackupScheduler) : HostProgram Unit := do
  let datetime : UtcDateTime ← Program.call HostCall.utcNow
  let present : Bool ← Program.call (HostCall.exists scheduler.folder)
  if !present then
    let _created : Bool ← Program.call (HostCall.createDirAll scheduler.folder)
  let backupPath := scheduler.naming.backupPath scheduler.config datetime.nanos
  let truncation ← Program.ofExcept (Gateway.truncateAction scheduler.config.storage.messagesTtl)
  let _truncating : Bool ← Program.call (HostCall.send truncation)
  let _backingUp : Bool ← Program.call (HostCall.send (.backupDb backupPath))
  scheduler.deleteOldBackups

def truncateJob (scheduler : BackupScheduler) : HostProgram Unit := do
  let truncation ← Program.ofExcept (Gateway.truncateAction scheduler.config.storage.messagesTtl)
  let _truncating : Bool ← Program.call (HostCall.send truncation)
  return ()

/-- `scheduler.tick()` runs the jobs that are due in the order they were added. -/
def tick (scheduler : BackupScheduler) : HostProgram Unit := do
  let backups : Nat ← Program.call (HostCall.due .backup)
  scheduler.backupJob.iterate backups
  let truncations : Nat ← Program.call (HostCall.due .truncate)
  scheduler.truncateJob.iterate truncations
  let _slept : Unit ← Program.call HostCall.sleep
  return ()

end BackupScheduler

/-! ### A job that is alone with the folder -/

/-- The folder does not change but for what the walk itself removes. -/
structure QuietFolder where
  folder : BackupFolder
  base : PathBuf
  utc : UtcDateTime
  now : SystemTime
  present : Bool
  created : Bool
  sends : SqliteStorageAction → Bool

/-- What a job leaves outside its own thread. -/
inductive QuietFolder.Deed where
  | sent (action : SqliteStorageAction)
  | removed (path : PathBuf)
deriving DecidableEq

structure QuietFolder.State where
  unread : List (Option DirEntry)
  /-- The commands sent and the files removed, in the order of the calls. -/
  done : List QuietFolder.Deed

namespace QuietFolder

variable (quiet : QuietFolder)

def entryAt (path : PathBuf) : Option DirEntry :=
  (quiet.folder.entries.filterMap id).find? fun entry => entry.path quiet.base = path

def respond (state : State) : (op : HostCall) → op.Reply × State
  | .utcNow => (quiet.utc, state)
  | .systemNow => (quiet.now, state)
  | .exists _ => (quiet.present, state)
  | .createDirAll _ => (quiet.created, state)
  | .send action => (quiet.sends action, { state with done := state.done ++ [.sent action] })
  | .readDir _ => (quiet.folder.opens, { state with unread := quiet.folder.entries })
  | .nextEntry =>
      match state.unread with
      | [] => (none, state)
      | listed :: unread => (some (listed.map (DirEntry.path quiet.base)), { state with unread })
  | .metadata path => ((quiet.entryAt path).bind DirEntry.metadata, state)
  | .removeFile path =>
      if (quiet.entryAt path).any DirEntry.removable then
        (true, { state with done := state.done ++ [.removed path] })
      else (false, state)
  | op => (op.refused, state)

variable {quiet}

theorem entryAt_path {entry : DirEntry} (listed : some entry ∈ quiet.folder.entries) :
    quiet.entryAt (entry.path quiet.base) = some entry := by
  have member : entry ∈ quiet.folder.entries.filterMap id := by simpa using listed
  have found : (quiet.entryAt (entry.path quiet.base)).isSome := by
    rw [entryAt, List.find?_isSome]
    exact ⟨entry, member, by simp⟩
  obtain ⟨other, located⟩ := Option.isSome_iff_exists.mp found
  have same : other.path quiet.base = entry.path quiet.base := by
    simpa using List.find?_some located
  have otherListed : some other ∈ quiet.folder.entries := by
    simpa using List.mem_of_find?_eq_some located
  rw [located, entry_of_path otherListed listed same]

/-- What a walk did, against the cleanup it should come to. -/
structure Walked (before : State) (cleanup : Cleanup) (outcome : Except Panic Unit × State) : Prop where
  result : outcome.1 = cleanup.panicked.elim (.ok ()) .error
  done : outcome.2.done = before.done ++ cleanup.removed.map .removed

theorem removeExpired_walked {olderThan : SystemTime} (unread : List (Option DirEntry)) {fuel : Nat}
    {state : State} (enough : unread.length < fuel) (standing : state.unread = unread)
    (listed : ∀ entry, some entry ∈ unread → some entry ∈ quiet.folder.entries) :
    Walked state (removeExpired quiet.base olderThan unread)
      ((BackupScheduler.removeExpired olderThan fuel).execute quiet.respond state) := by
  induction unread generalizing fuel state with
  | nil =>
      obtain ⟨fuel, rfl⟩ := Nat.exists_eq_succ_of_ne_zero (Nat.ne_of_gt enough)
      obtain ⟨_, done⟩ := state
      cases standing
      exact ⟨rfl, (List.append_nil _).symm⟩
  | cons listing rest ih =>
      obtain ⟨fuel, rfl⟩ := Nat.exists_eq_succ_of_ne_zero (Nat.ne_of_gt (Nat.zero_lt_of_lt enough))
      obtain ⟨_, done⟩ := state
      cases standing
      have more : rest.length < fuel := Nat.lt_of_succ_lt_succ enough
      have later : ∀ entry, some entry ∈ rest → some entry ∈ quiet.folder.entries :=
        fun entry member => listed entry (List.mem_cons_of_mem _ member)
      have continued := @ih fuel ⟨rest, done⟩ more rfl later
      cases listing with
      | none => exact ⟨continued.result, continued.done⟩
      | some entry =>
          have located := entryAt_path (listed entry List.mem_cons_self)
          obtain ⟨fileName, metadata, removable⟩ := entry
          cases metadata with
          | none => constructor <;> simp [BackupScheduler.removeExpired, respond, removeExpired, located]
          | some metadata =>
              obtain ⟨isFile, created⟩ := metadata
              cases isFile with
              | false =>
                  constructor <;>
                    simp [BackupScheduler.removeExpired, respond, removeExpired, located,
                      continued.result, continued.done]
              | true =>
                  cases created with
                  | none =>
                      constructor <;>
                        simp [BackupScheduler.removeExpired, respond, removeExpired, located,
                          continued.result, continued.done]
                  | some created =>
                      by_cases early : created.nanos < olderThan.nanos
                      · cases removable with
                        | false =>
                            constructor <;>
                              simp [BackupScheduler.removeExpired, respond, removeExpired, located, early,
                                continued.result, continued.done]
                        | true =>
                            have gone := @ih fuel ⟨rest, done ++ [.removed (DirEntry.path quiet.base
                              ⟨fileName, some ⟨true, some created⟩, true⟩)]⟩ more rfl later
                            constructor <;>
                              simp [BackupScheduler.removeExpired, respond, removeExpired, located, early,
                                gone.result, gone.done]
                      · constructor <;>
                          simp [BackupScheduler.removeExpired, respond, removeExpired, located, early,
                            continued.result, continued.done]

theorem deleteOldBackups_walked {scheduler : BackupScheduler} {state : State}
    (based : quiet.base = scheduler.folder) (enough : quiet.folder.entries.length < scheduler.fuel) :
    Walked state (deleteOldBackups scheduler.profile scheduler.config quiet.now quiet.folder)
      (scheduler.deleteOldBackups.execute quiet.respond state) := by
  have walked := fun {olderThan : SystemTime} => @removeExpired_walked quiet olderThan
    quiet.folder.entries scheduler.fuel { state with unread := quiet.folder.entries } enough rfl
    fun _ listed => listed
  have base : PathBuf.new scheduler.config.storage.backupFolder = quiet.base := based.symm
  unfold deleteOldBackups BackupScheduler.deleteOldBackups
  cases opens : quiet.folder.opens with
  | false => constructor <;> simp [respond, opens]
  | true =>
      cases multiplied : scheduler.profile.mulU64 3600 (asU64 scheduler.config.storage.backupTtl) with
      | error panic => constructor <;> simp [respond, opens, olderThan, multiplied]
      | ok seconds =>
          cases subtracted : quiet.now.subSecs seconds with
          | error panic => constructor <;> simp [respond, opens, olderThan, multiplied, subtracted]
          | ok cutoff =>
              constructor <;>
                simp [respond, opens, olderThan, multiplied, subtracted, base, walked.result,
                  walked.done]

end QuietFolder

/-- A backup job that has the folder to itself asks for the truncation and the backup, in
this order, and then removes and panics as `deleteOldBackups` says. -/
theorem backup_job_cleans_up (scheduler : BackupScheduler) (quiet : QuietFolder)
    (based : quiet.base = scheduler.folder) (enough : quiet.folder.entries.length < scheduler.fuel)
    (state : QuietFolder.State) :
    (scheduler.backupJob.execute quiet.respond state).2.done = state.done ++
        [.sent (Gateway.configuredTruncate scheduler.config),
          .sent (.backupDb (scheduler.naming.backupPath scheduler.config quiet.utc.nanos))] ++
        (deleteOldBackups scheduler.profile scheduler.config quiet.now quiet.folder).removed.map
          .removed ∧
      (scheduler.backupJob.execute quiet.respond state).1 =
        (deleteOldBackups scheduler.profile scheduler.config quiet.now quiet.folder).panicked.elim
          (.ok ()) .error := by
  have walked := fun {after : QuietFolder.State} =>
    @QuietFolder.deleteOldBackups_walked quiet scheduler after based enough
  unfold BackupScheduler.backupJob
  rw [Gateway.truncateAction_configured]
  cases present : quiet.present <;>
    simp [QuietFolder.respond, present, walked.result, walked.done]

namespace Sample

def scheduler : BackupScheduler := ⟨.release, naming, gateway "db", 2⟩

def quiet : QuietFolder where
  folder := folderOf "my_gw:2022-04-01T10:00:00+02:00.db.zst"
  base := scheduler.folder
  utc := ⟨0, unixEpoch_representable⟩
  now := twoHours
  present := true
  created := true
  sends _ := true

end Sample

theorem backup_job_removes_expired :
    (Sample.scheduler.backupJob.execute Sample.quiet.respond ⟨[], []⟩).2.done =
      [.sent (Gateway.configuredTruncate Sample.scheduler.config),
        .sent (.backupDb (Sample.naming.backupPath Sample.scheduler.config 0)),
        .removed (PathBuf.new "store/my_gw:2022-04-01T10:00:00+02:00.db.zst")] := by
  rw [(backup_job_cleans_up Sample.scheduler Sample.quiet rfl (Nat.lt_succ_self 1) ⟨[], []⟩).1]
  decide +kernel

end StsGateway
