import StsGateway.Gateway.World

namespace StsGateway

open Data GatewayThreads

/-! The threads refine `BackupRace`, where a job and the taking of a backup are one step
each.

A job of `BackupRace` fixes its cutoff when it queues the backup; the thread reads the
clock only later, when the storage thread may be at work already. So until the reading the
threads are matched with one run of `BackupRace` for every reading the clock could give.
-/

def GatewayThreads.SchedulerPhase.walk (profile : Profile) (ttl : Int32) (now : SystemTime)
    (folder : Folder) : SchedulerPhase → BackupRace.Walk
  | idle | named _ | truncated _ => .idle
  | sent | opened =>
      match olderThan profile ttl now with
      | .ok cutoff => .walking cutoff []
      | .error _ => .panicked
  | walking cutoff => .walking cutoff folder.buffer
  | inspecting cutoff path => .walking cutoff (path :: folder.buffer)
  | removing cutoff path => .removing cutoff path folder.buffer
  | panicked => .panicked

def GatewayThreads.StoragePhase.creation : StoragePhase → BackupRace.Creation
  | starting path | copying path => .copying path
  | reading path => .reading path
  | compressing path | writing path => .writing path
  | removing path => .removing path
  | panicked true => .panicked
  | _ => .idle

def GatewayThreads.StoragePhase.taken : StoragePhase → List PathBuf
  | opening path => [path]
  | _ => []

def GatewayThreads.StoragePhase.copying? : StoragePhase → Option PathBuf
  | starting path | copying path => some path
  | _ => none

namespace BackupThreads

def race (profile : Profile) (ttl : Int32) (now : SystemTime) (host : Host)
    (scheduler : SchedulerPhase) (storage : StoragePhase) : BackupRace.State where
  files := host.folder.files
  queue := storage.taken ++ host.waiting
  walk := scheduler.walk profile ttl now host.folder
  creation := storage.creation
  journals := host.folder.journals
  broken := host.folder.broken

/-- The threads' version of `BackupRace.Undisturbed`: the reading gives a cutoff, and nobody
removes a name that another still needs. -/
def Undisturbed (profile : Profile) (ttl : Int32) (host : Host) (worker : Worker) (answer : Answer) :
    HostCall → Prop
  | .systemNow => (olderThan profile ttl answer.now).isOk = true
  | .removeFile path =>
      (worker = .scheduler → path ∉ host.folder.inProgress.toList ++ host.folder.journals) ∧
        (worker = .storage → path ∉ host.folder.listed ++ host.folder.journals)
  | .journal =>
      match answer.journal with
      | .closes path => path ∉ host.folder.listed ++ host.folder.inProgress.toList
      | .opens _ => True
  | _ => True

instance (profile : Profile) (ttl : Int32) (host : Host) (worker : Worker) (answer : Answer) :
    ∀ op, Decidable (Undisturbed profile ttl host worker answer op)
  | .systemNow => inferInstanceAs (Decidable (_ = true))
  | .removeFile _ => inferInstanceAs (Decidable (_ ∧ _))
  | .journal =>
      match event : answer.journal with
      | .closes path =>
          decidable_of_iff (path ∉ host.folder.listed ++ host.folder.inProgress.toList)
            (by rw [Undisturbed, event])
      | .opens _ => isTrue (by rw [Undisturbed, event]; trivial)
  | .utcNow | .recv | .send _ | .transaction | .execute _ | .finish | .delete _ _ | .openDestination _
  | .newBackup | .runToCompletion | .read _ | .compress | .write _ | .exists _ | .createDirAll _
  | .readDir _ | .nextEntry | .metadata _ | .due _ | .sleep | .outOfFuel | .channelSend | .recvMessage
  | .sendTransport _ | .createClient | .connect | .recvTransport | .publish _ => isTrue trivial

/-- What the walk was handed last. -/
def Recorded (folder : Folder) : SchedulerPhase → Prop
  | .opened => folder.buffer = []
  | .inspecting _ path => folder.inspecting = some path
  | _ => True

structure Refines (strict : Prop) (sqlite : SqliteFiles) (profile : Profile) (ttl : Int32)
    (files : HashMap PathBuf SystemTime) (host : Host) (scheduler : SchedulerPhase)
    (storage : StoragePhase) : Prop where
  recorded : Recorded host.folder scheduler
  copying : host.folder.copying = storage.copying?
  inProgress : storage ≠ .panicked true → host.folder.inProgress = storage.creation.file?
  reached : ∀ now, (strict → (olderThan profile ttl now).isOk = true) →
    (BackupRace.machine sqlite profile ttl files).ReachedMeeting
      (fun state label => strict → BackupRace.Undisturbed profile ttl state label)
      (race profile ttl now host scheduler storage)

section Steps

variable {profile : Profile} {ttl : Int32} {strict : Prop} {sqlite : SqliteFiles}
  {files : HashMap PathBuf SystemTime} {host after : Host} {worker : Worker} {answer : Answer}
  {op : HostCall} {reply : op.Reply} {phase next : SchedulerPhase} {storage : StoragePhase}

/-- A call that is one step of `BackupRace`. -/
theorem Refines.matched {after' : StoragePhase}
    (refines : Refines strict sqlite profile ttl files host phase storage) (label : BackupRace.Step)
    (recorded : Recorded after.folder next) (copying : after.folder.copying = after'.copying?)
    (inProgress : after' ≠ .panicked true → after.folder.inProgress = after'.creation.file?)
    (stepped : ∀ now, BackupRace.step sqlite profile ttl (race profile ttl now host phase storage)
      label = some (race profile ttl now after next after'))
    (undisturbed : ∀ now, strict →
      BackupRace.Undisturbed profile ttl (race profile ttl now host phase storage) label) :
    Refines strict sqlite profile ttl files after next after' :=
  ⟨recorded, copying, inProgress,
    fun now good => (refines.reached now good).step (undisturbed now) (stepped now)⟩

theorem erase_absent {files : HashMap PathBuf SystemTime} {path : PathBuf} (absent : path ∉ files) :
    files.erase path = files := by
  refine Finmap.ext_lookup fun other => ?_
  by_cases same : other = path
  · rw [same, Finmap.lookup_erase, Finmap.lookup_eq_none.mpr absent]
  · rw [Finmap.lookup_erase_ne same]

/-- A call that `BackupRace` does not see. -/
theorem Refines.aside (refines : Refines strict sqlite profile ttl files host phase storage)
    (aside : Host.Aside op)
    (answered : host.respond false sqlite worker answer op = some (reply, after)) :
    Refines strict sqlite profile ttl files after phase storage := by
  obtain ⟨folder, waiting, _⟩ := Host.respond_aside aside answered
  obtain ⟨recorded, copying, inProgress, reached⟩ := refines
  refine ⟨by rw [folder]; exact recorded, by rw [folder]; exact copying,
    by rw [folder]; exact inProgress, fun now good => ?_⟩
  have same : race profile ttl now after phase storage = race profile ttl now host phase storage := by
    simp only [race, folder, waiting]
  rw [same]
  exact reached now good

theorem Refines.rescheduled (refines : Refines strict sqlite profile ttl files host phase storage)
    (recorded : Recorded host.folder next)
    (walk : ∀ now, next.walk profile ttl now host.folder = phase.walk profile ttl now host.folder) :
    Refines strict sqlite profile ttl files host next storage := by
  refine ⟨recorded, refines.copying, refines.inProgress, fun now good => ?_⟩
  have same : race profile ttl now host next storage = race profile ttl now host phase storage := by
    simp only [race, walk]
  rw [same]
  exact refines.reached now good

/-- A step of the storage thread that `BackupRace` does not see. -/
theorem Refines.unseen {before after' : StoragePhase}
    (refines : Refines strict sqlite profile ttl files host phase before)
    (alive : before ≠ .panicked true) (taken : after'.taken = before.taken)
    (creation : after'.creation = before.creation) (copying : after'.copying? = before.copying?) :
    Refines strict sqlite profile ttl files host phase after' := by
  obtain ⟨recorded, copied, inProgress, reached⟩ := refines
  refine ⟨recorded, by rw [copying]; exact copied, fun _ => by rw [creation]; exact inProgress alive,
    fun now good => ?_⟩
  have same : race profile ttl now host phase after' = race profile ttl now host phase before := by
    simp only [race, taken, creation]
  rw [same]
  exact reached now good

/-- The file of the backup in progress is the one on record. -/
theorem Refines.file_inProgress {path : PathBuf}
    (refines : Refines strict sqlite profile ttl files host phase storage)
    (file : path ∈ storage.creation.file?.toList) : path ∈ host.folder.inProgress.toList := by
  have alive : storage ≠ .panicked true := by
    rintro rfl
    exact absurd file List.not_mem_nil
  rwa [refines.inProgress alive]

theorem scheduler_refines {thread : BackupScheduler}
    (refines : Refines strict sqlite thread.profile thread.config.storage.backupTtl files host phase
      storage)
    (led : SchedulerStep thread phase op reply next)
    (undisturbed : strict →
      Undisturbed thread.profile thread.config.storage.backupTtl host .scheduler answer op)
    (answered : host.respond false sqlite .scheduler answer op = some (reply, after)) :
    Refines strict sqlite thread.profile thread.config.storage.backupTtl files after next storage := by
  cases led with
  | quiet quiet =>
      have aside : Host.Aside op := by
        cases op <;> first | exact quiet.elim | exact not_false
      exact refines.aside aside answered
  | truncateJob => exact refines.aside (by exact not_false) answered
  | named =>
      exact (refines.aside (by exact not_false) answered).rescheduled trivial fun _ => rfl
  | looked looks =>
      obtain rfl := Host.respond_looks looks answered
      exact refines
  | truncated => exact (refines.aside (by exact not_false) answered).rescheduled trivial fun _ => rfl
  | backedUp =>
      cases answered
      rename_i path
      refine ⟨trivial, refines.copying, refines.inProgress, fun now good => ?_⟩
      have waiting : (host.actions.send (.backupDb path)).waiting.filterMap backupPath? =
          host.waiting ++ [path] := by
        rw [Mpsc.send, List.filterMap_append]
        rfl
      have stepped : BackupRace.step sqlite thread.profile thread.config.storage.backupTtl
          (race thread.profile thread.config.storage.backupTtl now host (.truncated path) storage)
          (.startJob path now) = some (race thread.profile thread.config.storage.backupTtl now
            { host with actions := host.actions.send (.backupDb path) } .sent storage) := by
        simp only [race, BackupRace.step, SchedulerPhase.walk, Host.waiting, waiting,
          ← List.append_assoc]
        cases olderThan thread.profile thread.config.storage.backupTtl now <;> rfl
      exact @Machine.ReachedMeeting.step _ _ _ _ _ _ (.startJob path now) (refines.reached now good)
        good stepped
  | opened =>
      obtain ⟨folder, found, rfl⟩ := Host.respond_folder (by trivial) answered
      rcases Folder.respond_readDir found with ⟨none, _⟩ | ⟨_, rfl⟩
      · cases none
      · exact ⟨rfl, refines.copying, refines.inProgress, refines.reached⟩
  | unreadable =>
      obtain ⟨folder, found, rfl⟩ := Host.respond_folder (by trivial) answered
      rcases Folder.respond_readDir found with ⟨_, _, fails⟩ | ⟨none, _⟩
      · cases fails
      · cases none
  | began cut =>
      obtain ⟨folder, found, rfl⟩ := Host.respond_folder (by trivial) answered
      cases found
      rename_i cutoff
      have unbuffered : host.folder.buffer = [] := refines.recorded
      refine ⟨trivial, refines.copying, refines.inProgress, fun now good => ?_⟩
      have before := refines.reached answer.now fun _ => by rw [cut]; rfl
      have same : race thread.profile thread.config.storage.backupTtl answer.now host .opened storage =
          race thread.profile thread.config.storage.backupTtl now
            { host with folder.readings := host.folder.readings ++ [answer.now] } (.walking cutoff)
            storage := by
        simp only [race, SchedulerPhase.walk, cut, unbuffered, Host.waiting]
      rwa [same] at before
  | overflowed failed =>
      obtain ⟨folder, found, rfl⟩ := Host.respond_folder (by trivial) answered
      cases found
      refine ⟨trivial, refines.copying, refines.inProgress, fun now good => ?_⟩
      have before := refines.reached answer.now undisturbed
      simp only [race, SchedulerPhase.walk, failed] at before
      exact before
  | ended =>
      rename_i cutoff
      obtain ⟨folder, found, rfl⟩ := Host.respond_folder (by trivial) answered
      rcases Folder.respond_nextEntry found with ⟨none, _⟩ | ⟨_, rfl, empty⟩ | ⟨_, _, none, _⟩
      · cases none
      · refine refines.matched .endWalk trivial refines.copying refines.inProgress (fun now => ?_)
          fun _ _ => trivial
        simp only [race, BackupRace.step, SchedulerPhase.walk, empty, Host.waiting]
      · cases none
  | skipped =>
      obtain ⟨folder, found, rfl⟩ := Host.respond_folder (by trivial) answered
      rcases Folder.respond_nextEntry found with ⟨_, rfl⟩ | ⟨none, _, _⟩ | ⟨_, _, none, _⟩
      · exact ⟨trivial, refines.copying, refines.inProgress, refines.reached⟩
      · cases none
      · cases none
  | listed =>
      rename_i cutoff path
      obtain ⟨folder, found, rfl⟩ := Host.respond_folder (by trivial) answered
      rcases Folder.respond_nextEntry found with ⟨none, _⟩ | ⟨none, _, _⟩ |
        ⟨_, buffer, same, listable, split, rfl⟩
      · cases none
      · cases none
      · cases same
        refine refines.matched (.list answer.names) rfl refines.copying refines.inProgress
          (fun now => ?_) fun _ _ => trivial
        have allowed : (host.folder.buffer ++ answer.names).Nodup ∧
            ∀ name ∈ answer.names, name ∈ host.folder.files := listable
        rw [split] at allowed
        simp only [race, BackupRace.step, SchedulerPhase.walk, split, if_pos allowed, Host.waiting]
  | stopped => cases answered
  | vanished =>
      rename_i cutoff path
      obtain ⟨folder, found, rfl⟩ := Host.respond_folder (by trivial) answered
      obtain ⟨rfl, ⟨_, gone⟩ | ⟨_, none, _⟩⟩ := Folder.respond_metadata found
      · refine refines.matched .inspect trivial refines.copying refines.inProgress (fun now => ?_)
          fun _ _ => trivial
        simp only [race, BackupRace.step, SchedulerPhase.walk, Finmap.lookup_eq_none.mpr (gone rfl),
          Host.waiting]
      · cases none
  | expired early =>
      rename_i cutoff created path
      obtain ⟨folder, found, rfl⟩ := Host.respond_folder (by trivial) answered
      obtain ⟨rfl, ⟨none, _⟩ | ⟨_, same, located⟩⟩ := Folder.respond_metadata found
      · cases none
      · cases same
        refine refines.matched .inspect trivial refines.copying refines.inProgress (fun now => ?_)
          fun _ _ => trivial
        simp only [race, BackupRace.step, SchedulerPhase.walk, located, if_pos early, Host.waiting]
  | kept late =>
      rename_i cutoff path metadata
      obtain ⟨folder, found, rfl⟩ := Host.respond_folder (by trivial) answered
      obtain ⟨rfl, ⟨none, _⟩ | ⟨created, same, located⟩⟩ := Folder.respond_metadata found
      · cases none
      · cases same
        have young : ¬created.nanos < cutoff.nanos := Int.not_lt.mpr (late created rfl)
        refine refines.matched .inspect trivial refines.copying refines.inProgress (fun now => ?_)
          fun _ _ => trivial
        simp only [race, BackupRace.step, SchedulerPhase.walk, located, if_neg young, Host.waiting]
  | removed =>
      rename_i cutoff path _
      have elsewhere : strict →
          path ∉ storage.creation.file?.toList ++ host.folder.journals := by
        intro holds needed
        refine (undisturbed holds).1 rfl (List.mem_append.mpr ?_)
        exact (List.mem_append.mp needed).imp_left refines.file_inProgress
      obtain ⟨folder, found, rfl⟩ := Host.respond_folder (by trivial) answered
      rcases Folder.respond_removeFile found with ⟨_, rfl, gone⟩ | ⟨created, _, _, rfl⟩
      · refine refines.matched .removeOld trivial refines.copying refines.inProgress (fun now => ?_)
          fun _ => elsewhere
        simp only [race, BackupRace.step, SchedulerPhase.walk, erase_absent (gone rfl)]
        rfl
      · exact refines.matched .removeOld trivial refines.copying refines.inProgress (fun _ => rfl)
          fun _ => elsewhere

/-- What the walk has yet to inspect is what the folder has handed or read ahead. -/
theorem mem_listed {now : SystemTime} {path : PathBuf} (recorded : Recorded host.folder phase)
    (listed : path ∈ (phase.walk profile ttl now host.folder).listed) : path ∈ host.folder.listed := by
  cases phase with
  | idle => exact absurd listed List.not_mem_nil
  | named other => exact absurd listed List.not_mem_nil
  | truncated other => exact absurd listed List.not_mem_nil
  | sent =>
      simp only [SchedulerPhase.walk] at listed
      split at listed <;> exact absurd listed List.not_mem_nil
  | opened =>
      simp only [SchedulerPhase.walk] at listed
      split at listed <;> exact absurd listed List.not_mem_nil
  | walking cutoff => exact List.mem_append_right _ listed
  | inspecting cutoff other =>
      have inspecting : host.folder.inspecting = some other := recorded
      rw [Folder.listed, inspecting]
      exact listed
  | removing cutoff other => exact List.mem_append_right _ listed
  | panicked => exact absurd listed List.not_mem_nil

theorem Refines.received {action : SqliteStorageAction} {after' : StoragePhase}
    (refines : Refines strict sqlite profile ttl files host phase .idle)
    (answered : host.respond false sqlite .storage answer .recv = some (action, after))
    (taken : after'.taken = (backupPath? action).toList) (creation : after'.creation = .idle)
    (copying : after'.copying? = none) :
    Refines strict sqlite profile ttl files after phase after' := by
  obtain ⟨folder, _, waiting⟩ := Host.respond_recv answered
  obtain ⟨recorded, uncopied, inProgress, reached⟩ := refines
  refine ⟨by rw [folder]; exact recorded, by rw [folder, copying]; exact uncopied,
    fun _ => by rw [folder, creation]; exact inProgress nofun, fun now good => ?_⟩
  have same : race profile ttl now after phase after' = race profile ttl now host phase .idle := by
    rw [race, race, folder, waiting, taken, creation]
    rfl
  rw [same]
  exact reached now good

theorem storage_refines {before after' : StoragePhase}
    (refines : Refines strict sqlite profile ttl files host phase before)
    (led : StorageStep before op reply after')
    (undisturbed : strict → Undisturbed profile ttl host .storage answer op)
    (answered : host.respond false sqlite .storage answer op = some (reply, after)) :
    Refines strict sqlite profile ttl files after phase after' := by
  have unlisted : ∀ {now path}, Undisturbed profile ttl host .storage answer (.removeFile path) →
      path ∉ (phase.walk profile ttl now host.folder).listed ++ host.folder.journals := by
    intro now path kept needed
    refine kept.2 rfl (List.mem_append.mpr ?_)
    exact (List.mem_append.mp needed).imp_left (mem_listed refines.recorded)
  cases led with
  | ignored ignored =>
      rename_i action
      refine refines.received answered ?_ rfl rfl
      cases action <;> first | exact ignored.elim | rfl
  | insert => exact refines.received answered rfl rfl rfl
  | truncate => exact refines.received answered rfl rfl rfl
  | backup => exact refines.received answered rfl rfl rfl
  | notBegun => exact (refines.aside (by exact not_false) answered).unseen nofun rfl rfl rfl
  | begun => exact (refines.aside (by exact not_false) answered).unseen nofun rfl rfl rfl
  | unbound => exact (refines.aside (by exact not_false) answered).unseen nofun rfl rfl rfl
  | executed => exact (refines.aside (by exact not_false) answered).unseen nofun rfl rfl rfl
  | finished => exact (refines.aside (by exact not_false) answered).unseen nofun rfl rfl rfl
  | notFinished => exact (refines.aside (by exact not_false) answered).unseen nofun rfl rfl rfl
  | dated => exact (refines.aside (by exact not_false) answered).unseen nofun rfl rfl rfl
  | undated => exact (refines.aside (by exact not_false) answered).unseen nofun rfl rfl rfl
  | deleted => exact (refines.aside (by exact not_false) answered).unseen nofun rfl rfl rfl
  | opened =>
      rename_i path
      obtain ⟨folder, found, rfl⟩ := Host.respond_folder (by trivial) answered
      rcases Folder.respond_openDestination found with ⟨_, _, fails⟩ | ⟨_, rfl⟩
      · cases fails
      · exact refines.matched (.takeBackup answer.now) refines.recorded rfl (fun _ => rfl)
          (fun _ => rfl) fun _ _ => trivial
  | notOpened =>
      obtain ⟨folder, found, rfl⟩ := Host.respond_folder (by trivial) answered
      rcases Folder.respond_openDestination found with ⟨_, _, fails⟩ | ⟨none, _⟩
      · cases fails
      · cases none
  | started =>
      obtain ⟨folder, found, rfl⟩ := Host.respond_folder (by trivial) answered
      rcases Folder.respond_newBackup found with ⟨none, _⟩ | ⟨_, rfl⟩
      · cases none
      · exact ⟨refines.recorded, refines.copying, fun _ => refines.inProgress nofun, refines.reached⟩
  | notStarted =>
      obtain ⟨folder, found, rfl⟩ := Host.respond_folder (by trivial) answered
      rcases Folder.respond_newBackup found with ⟨_, _, fails⟩ | ⟨none, _⟩
      · cases fails
      · cases none
  | copied =>
      obtain ⟨folder, found, rfl⟩ := Host.respond_folder (by trivial) answered
      obtain ⟨rfl, _⟩ := Folder.respond_runToCompletion found
      exact refines.matched .copied refines.recorded rfl (fun _ => refines.inProgress nofun)
        (fun _ => rfl) fun _ _ => trivial
  | notCopied =>
      rename_i path
      obtain ⟨folder, found, rfl⟩ := Host.respond_folder (by trivial) answered
      obtain ⟨rfl, fails⟩ := Folder.respond_runToCompletion found
      have cause : ∀ now, (race profile ttl now host phase (.copying path)).broken ∨
          (race profile ttl now host phase (.copying path)).copyVanished := by
        intro now
        refine (fails rfl rfl).imp_right fun vanished => ⟨path, rfl, ?_⟩
        rw [Folder.copyVanished, refines.copying] at vanished
        exact of_decide_eq_true vanished
      exact refines.matched .sqliteFails refines.recorded rfl (fun alive => absurd rfl alive)
        (fun now => if_pos (cause now)) fun _ _ => trivial
  | readBack =>
      rename_i path
      obtain ⟨folder, found, rfl⟩ := Host.respond_folder (by trivial) answered
      obtain ⟨rfl, present⟩ := Folder.respond_read found
      have there : path ∈ host.folder.files := (present rfl).mp rfl
      exact refines.matched .readBack refines.recorded refines.copying
        (fun _ => refines.inProgress nofun) (fun _ => if_pos there) fun _ _ => trivial
  | notRead =>
      rename_i path
      obtain ⟨folder, found, rfl⟩ := Host.respond_folder (by trivial) answered
      obtain ⟨rfl, present⟩ := Folder.respond_read found
      have absent : path ∉ host.folder.files := fun there => nomatch (present rfl).mpr there
      exact refines.matched .readBack refines.recorded refines.copying
        (fun alive => absurd rfl alive) (fun _ => if_neg absent) fun _ _ => trivial
  | compressed =>
      obtain ⟨folder, found, rfl⟩ := Host.respond_folder (by trivial) answered
      obtain ⟨rfl, _⟩ := Folder.respond_compress found
      exact ⟨refines.recorded, refines.copying, fun _ => refines.inProgress nofun, refines.reached⟩
  | notCompressed =>
      obtain ⟨folder, found, rfl⟩ := Host.respond_folder (by trivial) answered
      cases (Folder.respond_compress found).2 rfl
  | written =>
      obtain ⟨folder, found, rfl⟩ := Host.respond_folder (by trivial) answered
      rcases Folder.respond_write found with ⟨none, _⟩ | ⟨_, rfl⟩
      · cases none
      · exact refines.matched (.writeCompressed answer.now) refines.recorded refines.copying
          (fun _ => refines.inProgress nofun) (fun _ => rfl) fun _ _ => trivial
  | notWritten =>
      obtain ⟨folder, found, rfl⟩ := Host.respond_folder (by trivial) answered
      rcases Folder.respond_write found with ⟨_, fails, _⟩ | ⟨none, _⟩
      · cases fails
      · cases none
  | removed =>
      obtain ⟨folder, found, rfl⟩ := Host.respond_folder (by trivial) answered
      rcases Folder.respond_removeFile found with ⟨none, _⟩ | ⟨created, _, located, rfl⟩
      · cases none
      · exact refines.matched .removeCopy refines.recorded refines.copying (fun _ => rfl)
          (fun _ => if_pos (Finmap.mem_of_lookup_eq_some located))
          fun _ holds => unlisted (undisturbed holds)
  | notRemoved =>
      obtain ⟨folder, found, rfl⟩ := Host.respond_folder (by trivial) answered
      rcases Folder.respond_removeFile found with ⟨_, rfl, gone⟩ | ⟨_, none, _⟩
      · exact refines.matched .removeCopy refines.recorded refines.copying
          (fun alive => absurd rfl alive) (fun _ => if_neg (gone rfl))
          fun _ holds => unlisted (undisturbed holds)
      · cases none

/-- SQLite keeps files beside the same databases. -/
theorem databases_eq (copying : host.folder.copying = storage.copying?) :
    storage.creation.databases sqlite = host.folder.databases sqlite := by
  rw [Folder.databases, copying]
  cases storage with
  | panicked overBackup => cases overBackup <;> rfl
  | _ => rfl

theorem sqlite_refines (refines : Refines strict sqlite profile ttl files host phase storage)
    (undisturbed : strict → Undisturbed profile ttl host .sqlite answer .journal)
    (answered : host.respond false sqlite .sqlite answer .journal = some ((), after)) :
    Refines strict sqlite profile ttl files after phase storage := by
  obtain ⟨folder, found, rfl⟩ := Host.respond_folder (by trivial) answered
  obtain ⟨kept, keeps, same⟩ := Option.map_eq_some_iff.mp found
  cases same
  simp only [Undisturbed] at undisturbed
  revert keeps undisturbed
  cases answer.journal with
  | opens path =>
      intro undisturbed keeps
      obtain ⟨allowed, rfl⟩ := Folder.keep_opens keeps
      rw [← databases_eq refines.copying] at allowed
      exact refines.matched (.openJournal path answer.now) refines.recorded refines.copying
        refines.inProgress (fun _ => if_pos allowed) fun _ _ => trivial
  | closes path =>
      intro undisturbed keeps
      have apart : ∀ now, strict → BackupRace.Undisturbed profile ttl
          (race profile ttl now host phase storage) (.closeJournal path) := by
        intro now holds needed
        refine undisturbed holds (List.mem_append.mpr ?_)
        exact (List.mem_append.mp needed).imp (mem_listed refines.recorded) refines.file_inProgress
      obtain ⟨held, ⟨present, rfl⟩ | ⟨absent, rfl⟩⟩ := Folder.keep_closes keeps
      · exact refines.matched (.closeJournal path) refines.recorded refines.copying
          refines.inProgress (fun _ => (if_pos held).trans (if_pos present)) apart
      · exact refines.matched (.closeJournal path) refines.recorded refines.copying
          refines.inProgress (fun _ => (if_pos held).trans (if_neg absent)) apart

end Steps

section Runs

variable {sqlite : SqliteFiles} {json : SerdeJson} {scheduler : BackupScheduler} {attempts : Nat}
  {files : HashMap PathBuf SystemTime} {moves : List (Worker × Answer)}
  {crew : Crew HostCall HostCall.Reply Panic Host Worker}

theorem run_refines (strict : Prop)
    (executed : (threads false sqlite json scheduler attempts files).run moves = some crew)
    (meets : (threads false sqlite json scheduler attempts files).StepsMeet
      (Crew.Meets fun host worker answer op => strict →
        Undisturbed scheduler.profile scheduler.config.storage.backupTtl host worker answer op)
      (threads false sqlite json scheduler attempts files).start moves) :
    InPhase (protocol json scheduler) home
      (fun host phases => Refines strict sqlite scheduler.profile scheduler.config.storage.backupTtl
        files host (phases .scheduler) (phases .storage)) crew := by
  refine crewFrom_inPhase (first_follows attempts) bodies_follow ?_
    ⟨trivial, rfl, fun _ => rfl, fun _ _ => .start⟩ meets executed
  intro before phases worker answer op reply after phase refines undisturbed answered led
  cases worker with
  | scheduler =>
      have refined := scheduler_refines refines led undisturbed answered
      rwa [Function.update_self, Function.update_of_ne (by decide)]
  | storage =>
      have refined := storage_refines refines led undisturbed answered
      rwa [Function.update_self, Function.update_of_ne (by decide)]
  | sqlite =>
      cases led
      have refined := sqlite_refines refines undisturbed answered
      rwa [Function.update_of_ne (by decide), Function.update_of_ne (by decide)]
  | channels =>
      have refined := refines.aside (Host.aside_of_step led (by decide)) answered
      rwa [Function.update_of_ne (by decide), Function.update_of_ne (by decide)]
  | aggregator =>
      have refined := refines.aside (Host.aside_of_step led (by decide)) answered
      rwa [Function.update_of_ne (by decide), Function.update_of_ne (by decide)]
  | transport =>
      have refined := refines.aside (Host.aside_of_step led (by decide)) answered
      rwa [Function.update_of_ne (by decide), Function.update_of_ne (by decide)]

theorem scheduler_crash {now : SystemTime} {folder : Folder} {phase : SchedulerPhase} {reason : Panic}
    (follows : (Program.crash reason : HostProgram Unit).Follows (protocol json scheduler .scheduler)
      (fun _ after => after = home .scheduler) phase) :
    phase.walk scheduler.profile scheduler.config.storage.backupTtl now folder = .panicked := by
  rcases follows with rfl | ⟨rfl, overflows⟩
  · rfl
  · obtain ⟨panic, failed⟩ := overflows now
    simp only [SchedulerPhase.walk, failed]

theorem storage_panicked {program : HostProgram Unit} {overBackup : Bool}
    (follows : program.Follows (protocol json scheduler .storage)
      (fun _ after => after = home .storage) (StoragePhase.panicked overBackup)) :
    ∃ reason, program = .crash reason := by
  refine follows.crashed (fun op => ⟨op.refused⟩) ?_ nofun
  intro op reply after led
  have none : StorageStep (.panicked overBackup) op reply after := led
  cases none

/-- Whatever state the threads reach, `BackupRace` reaches one with the same files, the same
files of SQLite's and the same backups waiting, where the walk has panicked if the scheduler
thread has, and a backup only if the storage thread has. -/
theorem threads_refine_backup_race
    (executed : (threads false sqlite json scheduler attempts files).run moves = some crew) :
    ∃ labels state,
      (BackupRace.machine sqlite scheduler.profile scheduler.config.storage.backupTtl files).run
        labels = some state ∧
      state.files = crew.state.folder.files ∧ state.journals = crew.state.folder.journals ∧
      (∃ opening, opening.length ≤ 1 ∧ state.queue = opening ++ crew.state.waiting) ∧
      (∀ reason, crew.standing .scheduler = .crash reason → state.walk = .panicked) ∧
      (state.creation = .panicked → ∃ reason, crew.standing .storage = .crash reason) := by
  have meets : (threads false sqlite json scheduler attempts files).StepsMeet
      (Crew.Meets fun host worker answer op => False →
        Undisturbed scheduler.profile scheduler.config.storage.backupTtl host worker answer op)
      (threads false sqlite json scheduler attempts files).start moves :=
    crewFrom_meets (fun _ _ _ _ => False.elim) _ _
  obtain ⟨phases, follows, refines⟩ := run_refines False executed meets
  obtain ⟨labels, ran, _⟩ := refines.reached .unixEpoch False.elim
  refine ⟨labels, _, ran, rfl, rfl, ⟨(phases .storage).taken, ?_, rfl⟩, ?_, ?_⟩
  · generalize phases .storage = storage
    cases storage <;> simp [StoragePhase.taken]
  · intro reason crashed
    have own := follows .scheduler
    rw [crashed] at own
    exact scheduler_crash own
  · intro panicked
    have own := follows .storage
    have standing : phases .storage = StoragePhase.panicked true := by
      revert panicked
      simp only [race]
      generalize phases .storage = storage
      cases storage with
      | panicked overBackup => cases overBackup <;> simp [StoragePhase.creation]
      | _ => simp [StoragePhase.creation]
    rw [standing] at own
    exact storage_panicked own

end Runs

namespace Sample

def copy : PathBuf := PathBuf.new "store/my_gw:2022-04-01T10:00:00+02:00.db"

def answer : Answer := GatewayThreads.Sample.answer ⟨0, unixEpoch_representable⟩ 1

/-- The job sends its commands, the storage thread obeys, SQLite has its journal meanwhile,
and then the walk comes upon the compressed backup. -/
def oneBackup : List (Worker × Answer) :=
  List.replicate 6 (.scheduler, answer) ++ List.replicate 7 (.storage, answer) ++
    [(.sqlite, { answer with journal := .opens (journalPath copy) }), (.sqlite, answer),
      (.sqlite, { answer with journal := .closes (journalPath copy) })] ++
    List.replicate 5 (.storage, answer) ++
    [(.scheduler, answer), (.scheduler, { answer with names := [copy.withExtension "db.zst"] }),
      (.scheduler, answer), (.scheduler, answer)]

def machine : Machine (Crew HostCall HostCall.Reply Panic Host Worker) (Worker × Answer) :=
  threads false BackupRace.Sample.sqlite Gateway.Sample.json StsGateway.Sample.scheduler 1 ∅

end Sample

theorem one_backup_refines :
    ∃ crew labels state, Sample.machine.run Sample.oneBackup = some crew ∧
      (BackupRace.machine BackupRace.Sample.sqlite .release 1 ∅).run labels = some state ∧
      state.files = crew.state.folder.files := by
  have ran : (Sample.machine.run Sample.oneBackup).isSome = true := by decide +kernel
  obtain ⟨crew, executed⟩ := Option.isSome_iff_exists.mp ran
  obtain ⟨labels, state, reached, files, _⟩ := threads_refine_backup_race executed
  exact ⟨crew, labels, state, executed, reached, files⟩

end BackupThreads

end StsGateway
