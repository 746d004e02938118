import StsGateway.Backup.Refinement

namespace StsGateway

open Data GatewayThreads

/-! No backup is deleted before its time.

Between reading the metadata of a file and removing it the scheduler holds nothing: another
file may have taken the name. SQLite uses the names of its own files over and over; as long
as no other name is used twice, whatever is removed has outlived the cutoff.
-/

/-- The backup that the storage thread has taken up. -/
def GatewayThreads.StoragePhase.current : StoragePhase → List PathBuf
  | opening path | starting path | copying path | reading path | compressing path | writing path
  | removing path => [path]
  | _ => []

/-- The files of the backup under way that have been created. -/
def GatewayThreads.StoragePhase.begun : StoragePhase → List PathBuf
  | starting path | copying path | reading path | compressing path | writing path => [path]
  | removing path => backupFiles path
  | _ => []

namespace BackupThreads

/-- No two files of the jobs have one name, none had it before, and none is SQLite's. -/
structure Distinct (files : HashMap PathBuf SystemTime) (host : Host) : Prop where
  nodup : (host.requested.flatMap backupFiles).Nodup
  unclaimed : ∀ path ∈ host.requested.flatMap backupFiles, path ∉ files
  unjournaled : ∀ path ∈ host.requested.flatMap backupFiles, path ∉ host.folder.journaled

/-- Created before the cutoff of some walk. -/
def Expires (profile : Profile) (ttl : Int32) (readings : List SystemTime) (created : SystemTime) : Prop :=
  ∃ now ∈ readings, ∃ cutoff, olderThan profile ttl now = .ok cutoff ∧ created.nanos < cutoff.nanos

def Known (files : HashMap PathBuf SystemTime) (folder : Folder) (path : PathBuf) : Prop :=
  path ∈ files ∨ path ∈ folder.created.map Prod.fst ∨ path ∈ folder.journaled

/-- The backups are made in the order in which they were asked for. -/
structure Orderly (host : Host) (phase : StoragePhase) (done : List PathBuf) : Prop where
  order : host.requested = done ++ (phase.current ++ host.waiting)
  named : ∀ path ∈ host.folder.created.map Prod.fst,
    path ∈ done.flatMap backupFiles ∨ path ∈ phase.begun

structure Retained (profile : Profile) (ttl : Int32) (files : HashMap PathBuf SystemTime) (host : Host) :
    Prop where
  known : ∀ path ∈ host.folder.files, Known files host.folder path
  spared : ∀ path time, (path, time) ∈ host.folder.created → path ∉ host.requested →
    path ∉ host.folder.journaled → ¬Expires profile ttl host.folder.readings time →
      host.folder.files.lookup path = some time
  removed : ∀ path created, (path, created) ∈ host.folder.removals →
    path ∉ host.folder.journaled → Expires profile ttl host.folder.readings created
  journals : ∀ path ∈ host.folder.journals, path ∈ host.folder.journaled

def Reached (profile : Profile) (ttl : Int32) (readings : List SystemTime) (cutoff : SystemTime) : Prop :=
  ∃ now ∈ readings, olderThan profile ttl now = .ok cutoff

/-- What the scheduler relies on where it stands. -/
def Relies (profile : Profile) (ttl : Int32) (files : HashMap PathBuf SystemTime) (folder : Folder) :
    SchedulerPhase → Prop
  | .walking cutoff | .inspecting cutoff _ => Reached profile ttl folder.readings cutoff
  | .removing cutoff path => Reached profile ttl folder.readings cutoff ∧ Known files folder path ∧
      (path ∉ folder.journaled →
        ∀ created, folder.files.lookup path = some created → created.nanos < cutoff.nanos)
  | _ => True

structure Keeps (profile : Profile) (ttl : Int32) (files : HashMap PathBuf SystemTime) (host : Host)
    (scheduler : SchedulerPhase) (storage : StoragePhase) : Prop where
  retained : Retained profile ttl files host
  relies : Relies profile ttl files host.folder scheduler
  orderly : storage ≠ .panicked true → ∃ done, Orderly host storage done

section Steps

variable {profile : Profile} {ttl : Int32} {files : HashMap PathBuf SystemTime} {host after : Host}
  {path : PathBuf} {now : SystemTime} {mayFail : Bool} {sqlite : SqliteFiles} {worker : Worker}
  {answer : Answer} {op : HostCall} {reply : op.Reply} {phase next : SchedulerPhase}
  {storage : StoragePhase}

theorem Expires.mono {readings more : List SystemTime} {created : SystemTime}
    (expires : Expires profile ttl readings created) : Expires profile ttl (readings ++ more) created := by
  obtain ⟨now, read, cutoff, reached, early⟩ := expires
  exact ⟨now, List.mem_append_left _ read, cutoff, reached, early⟩

theorem Reached.expires {readings : List SystemTime} {cutoff created : SystemTime}
    (reached : Reached profile ttl readings cutoff) (early : created.nanos < cutoff.nanos) :
    Expires profile ttl readings created := by
  obtain ⟨now, read, reached⟩ := reached
  exact ⟨now, read, cutoff, reached, early⟩

theorem Distinct.earlier (distinct : Distinct files after) (grows : host.requested <+: after.requested)
    (journaled : ∀ path ∈ host.folder.journaled, path ∈ after.folder.journaled) :
    Distinct files host := by
  obtain ⟨later, split⟩ := grows
  obtain ⟨nodup, unclaimed, unjournaled⟩ := distinct
  rw [← split, List.flatMap_append] at nodup unclaimed unjournaled
  exact ⟨(List.nodup_append.mp nodup).1, fun path member => unclaimed path (List.mem_append_left _ member),
    fun path member held => unjournaled path (List.mem_append_left _ member) (journaled path held)⟩

/-- A call on the folder that SQLite has no part in asks for nothing. -/
theorem Distinct.same (distinct : Distinct files after) (requested : after.requested = host.requested)
    (journaled : after.folder.journaled = host.folder.journaled) : Distinct files host :=
  distinct.earlier (by rw [requested]) fun _ held => by rwa [journaled]

/-! ### Calls that leave the files alone -/

theorem Keeps.unmoved (keeps : Keeps profile ttl files host phase storage)
    (folder : after.folder = host.folder) (requested : after.requested = host.requested)
    (waiting : after.waiting = host.waiting) : Keeps profile ttl files after phase storage := by
  obtain ⟨⟨known, spared, removed, journals⟩, relies, orderly⟩ := keeps
  refine ⟨⟨?_, ?_, ?_, ?_⟩, ?_, fun alive => ?_⟩
  · rwa [folder]
  · rwa [folder, requested]
  · rwa [folder]
  · rwa [folder]
  · rwa [folder]
  · obtain ⟨done, order, named⟩ := orderly alive
    exact ⟨done, by rw [requested, waiting, order], by rwa [folder]⟩

theorem aside_keeps (holds : Distinct files host → Keeps profile ttl files host phase storage)
    (aside : Host.Aside op)
    (answered : host.respond mayFail sqlite worker answer op = some (reply, after))
    (distinct : Distinct files after) : Keeps profile ttl files after phase storage := by
  obtain ⟨folder, waiting, requested⟩ := Host.respond_aside aside answered
  exact (holds (distinct.same requested (by rw [folder]))).unmoved folder requested waiting

/-- What is read ahead or merely recorded does not matter. -/
theorem Keeps.aside (keeps : Keeps profile ttl files host phase storage) {connection : Connection}
    {buffer : List PathBuf} {inspecting inProgress copying : Option PathBuf} :
    Keeps profile ttl files { host with
      folder := { host.folder with buffer, inspecting, inProgress, copying }
      connection } phase storage := by
  obtain ⟨⟨known, spared, removed, journals⟩, relies, orderly⟩ := keeps
  refine ⟨⟨known, spared, removed, journals⟩, ?_, fun alive => ?_⟩
  · cases phase <;> exact relies
  · obtain ⟨done, order, named⟩ := orderly alive
    exact ⟨done, order, named⟩

theorem Keeps.rescheduled (next : SchedulerPhase) (keeps : Keeps profile ttl files host phase storage)
    (relies : Relies profile ttl files host.folder next) : Keeps profile ttl files host next storage :=
  ⟨keeps.retained, relies, keeps.orderly⟩

theorem Keeps.read (now : SystemTime) (keeps : Keeps profile ttl files host phase storage) {connection : Connection} :
    Keeps profile ttl files { host with
      folder := { host.folder with readings := host.folder.readings ++ [now] }
      connection } .idle storage := by
  obtain ⟨⟨known, spared, removed, journals⟩, _, orderly⟩ := keeps
  refine ⟨⟨known, ?_, ?_, journals⟩, trivial, fun alive => ?_⟩
  · exact fun path time made unsent unjournaled young =>
      spared path time made unsent unjournaled fun early => young early.mono
  · exact fun path created gone unjournaled => (removed path created gone unjournaled).mono
  · obtain ⟨done, order, named⟩ := orderly alive
    exact ⟨done, order, named⟩

/-! ### A file is created -/

/-- A name is free for the file about to be created. -/
theorem Orderly.free {done : List PathBuf} (distinct : Distinct files host)
    (orderly : Orderly host storage done) (own : path ∈ storage.current.flatMap backupFiles)
    (unbegun : path ∉ storage.begun) : ¬Known files host.folder path := by
  obtain ⟨order, named⟩ := orderly
  obtain ⟨nodup, unclaimed, unjournaled⟩ := distinct
  have sent : path ∈ host.requested.flatMap backupFiles := by
    rw [order, List.flatMap_append, List.flatMap_append]
    exact List.mem_append_right _ (List.mem_append_left _ own)
  rintro (old | created | journaled)
  · exact unclaimed path sent old
  · rcases named path created with earlier | begun
    · rw [order, List.flatMap_append, List.flatMap_append] at nodup
      exact (List.nodup_append.mp nodup).2.2 path earlier path (List.mem_append_left _ own) rfl
    · exact unbegun begun
  · exact unjournaled path sent journaled

theorem mem_created {folder : Folder} {file : PathBuf}
    (created : file ∈ (folder.create path now).created.map Prod.fst) :
    file ∈ folder.created.map Prod.fst ∨ file = path := by
  simp only [Folder.create, List.map_append, List.mem_append] at created
  exact created.imp id List.mem_singleton.mp

theorem Known.create {folder : Folder} {other : PathBuf} (known : Known files folder other) :
    Known files (folder.create path now) other := by
  refine known.imp_right fun known => known.imp_left fun created => ?_
  simp only [Folder.create, List.map_append]
  exact List.mem_append_left _ created

theorem Retained.create (retained : Retained profile ttl files host)
    (free : ¬Known files host.folder path) {connection : Connection} :
    Retained profile ttl files
      { host with folder := host.folder.create path now, connection } := by
  have absent : path ∉ host.folder.files := fun present => free (retained.known path present)
  have inserted : (host.folder.create path now).files = host.folder.files.insert path now := by
    simp only [Folder.create, BackupRace.touch, if_neg absent]
  refine ⟨?_, ?_, retained.removed, retained.journals⟩
  · intro other present
    simp only [inserted, Finmap.mem_insert] at present
    rcases present with rfl | present
    · exact .inr (.inl (by simp [Folder.create]))
    · exact (retained.known other present).create
  · intro other time created unsent unjournaled young
    simp only [inserted]
    rcases List.mem_append.mp created with earlier | new
    · have different : other ≠ path := by
        rintro rfl
        exact free (.inr (.inl (List.mem_map_of_mem (f := Prod.fst) earlier)))
      rw [Finmap.lookup_insert_of_ne _ different]
      exact retained.spared other time earlier unsent unjournaled young
    · cases List.mem_singleton.mp new
      exact Finmap.lookup_insert _

theorem Relies.create {folder : Folder} (relies : Relies profile ttl files folder phase)
    (absent : path ∉ folder.files) (free : ¬Known files folder path) :
    Relies profile ttl files (folder.create path now) phase := by
  cases phase with
  | removing cutoff other =>
      obtain ⟨reached, known, early⟩ := relies
      have different : other ≠ path := by
        rintro rfl
        exact free known
      refine ⟨reached, known.create, fun unjournaled created found => ?_⟩
      simp only [Folder.create, BackupRace.touch, if_neg absent,
        Finmap.lookup_insert_of_ne _ different] at found
      exact early unjournaled created found
  | _ => exact relies

theorem Keeps.create {done : List PathBuf} {connection : Connection} (now : SystemTime)
    (keeps : Keeps profile ttl files host phase storage) (distinct : Distinct files host)
    (orderly : Orderly host storage done) (own : path ∈ storage.current.flatMap backupFiles)
    (unbegun : path ∉ storage.begun) :
    Retained profile ttl files { host with folder := host.folder.create path now, connection } ∧
      Relies profile ttl files (host.folder.create path now) phase := by
  have free := orderly.free distinct own unbegun
  have absent : path ∉ host.folder.files := fun present => free (keeps.retained.known path present)
  exact ⟨keeps.retained.create free, keeps.relies.create absent free⟩

theorem withExtension_ne {done : List PathBuf} (distinct : Distinct files host)
    (orderly : Orderly host storage done) (current : path ∈ storage.current) :
    path.withExtension "db.zst" ≠ path := by
  have sent : path ∈ host.requested := by
    rw [orderly.order]
    exact List.mem_append_right _ (List.mem_append_left _ current)
  have own : (backupFiles path).Nodup := (List.nodup_flatMap.mp distinct.nodup).1 path sent
  intro same
  simp [backupFiles, same] at own

/-- The file the compressed copy goes to is new, whether writing it succeeds or not. -/
theorem Keeps.compresses {connection : Connection} (now : SystemTime)
    (keeps : Keeps profile ttl files host phase (.writing path)) (distinct : Distinct files host) :
    Retained profile ttl files
        { host with folder := host.folder.create (path.withExtension "db.zst") now, connection } ∧
      Relies profile ttl files (host.folder.create (path.withExtension "db.zst") now) phase := by
  obtain ⟨done, orderly⟩ := keeps.orderly nofun
  have other := withExtension_ne distinct orderly List.mem_cons_self
  exact keeps.create now distinct orderly (List.mem_cons_of_mem _ List.mem_cons_self)
    fun same => other (List.mem_singleton.mp same)

/-! ### A file is removed -/

theorem Retained.remove {cutoff created : SystemTime} {connection : Connection}
    (retained : Retained profile ttl files host)
    (reached : Reached profile ttl host.folder.readings cutoff)
    (found : host.folder.files.lookup path = some created)
    (early : path ∉ host.folder.journaled → created.nanos < cutoff.nanos) :
    Retained profile ttl files
      { host with folder := host.folder.remove path created .scheduler, connection } := by
  refine ⟨?_, ?_, ?_, retained.journals⟩
  · intro other present
    exact retained.known other (Finmap.mem_erase.mp present).2
  · intro other time made unsent unjournaled young
    have kept := retained.spared other time made unsent unjournaled young
    have different : other ≠ path := by
      rintro rfl
      rw [found] at kept
      cases kept
      exact young (reached.expires (early unjournaled))
    simpa only [Folder.remove, Finmap.lookup_erase_ne different] using kept
  · intro other time removed unjournaled
    rcases List.mem_append.mp removed with earlier | new
    · exact retained.removed other time earlier unjournaled
    · cases List.mem_singleton.mp new
      exact reached.expires (early unjournaled)

/-- The `.db` copy a backup removes is the one file that may go before its time. -/
theorem Retained.removeCopy {created : SystemTime} {connection : Connection}
    (retained : Retained profile ttl files host) (sent : path ∈ host.requested) :
    Retained profile ttl files
      { host with folder := host.folder.remove path created .storage, connection } := by
  refine ⟨?_, ?_, retained.removed, retained.journals⟩
  · intro other present
    exact retained.known other (Finmap.mem_erase.mp present).2
  · intro other time made unsent unjournaled young
    have different : other ≠ path := by
      rintro rfl
      exact unsent sent
    simpa only [Folder.remove, Finmap.lookup_erase_ne different] using
      retained.spared other time made unsent unjournaled young

/-- Without a file the scheduler finds nothing young to remove. -/
theorem Relies.erase {folder gone : Folder} (relies : Relies profile ttl files folder phase)
    (erased : gone.files = folder.files.erase path) (readings : gone.readings = folder.readings)
    (known : ∀ other, Known files folder other → Known files gone other)
    (journaled : gone.journaled = folder.journaled) : Relies profile ttl files gone phase := by
  cases phase with
  | walking cutoff => rwa [Relies, readings]
  | inspecting cutoff other => rwa [Relies, readings]
  | removing cutoff other =>
      obtain ⟨reached, owned, early⟩ := relies
      refine ⟨by rwa [readings], known other owned, fun unjournaled created found => ?_⟩
      rw [journaled] at unjournaled
      by_cases same : other = path
      · subst same
        rw [erased, Finmap.lookup_erase] at found
        cases found
      · rw [erased, Finmap.lookup_erase_ne same] at found
        exact early unjournaled created found
  | _ => trivial

theorem Orderly.completed {done : List PathBuf} (orderly : Orderly host (.removing path) done) :
    ∀ file ∈ host.folder.created.map Prod.fst,
      file ∈ (done ++ [path]).flatMap backupFiles ∨ file ∈ StoragePhase.begun .idle := by
  intro file created
  left
  rw [List.flatMap_append, List.mem_append]
  exact (orderly.named file created).imp id fun begun => by
    rwa [List.flatMap_singleton]

/-! ### The threads -/

theorem scheduler_keeps {thread : BackupScheduler}
    (holds : Distinct files host →
      Keeps thread.profile thread.config.storage.backupTtl files host phase storage)
    (led : SchedulerStep thread phase op reply next)
    (answered : host.respond mayFail sqlite .scheduler answer op = some (reply, after))
    (distinct : Distinct files after) :
    Keeps thread.profile thread.config.storage.backupTtl files after next storage := by
  cases led with
  | quiet quiet =>
      have aside : Host.Aside op := by
        cases op <;> first | exact quiet.elim | exact not_false
      exact aside_keeps holds aside answered distinct
  | truncateJob => exact aside_keeps holds (by exact not_false) answered distinct
  | named => exact (aside_keeps holds (by exact not_false) answered distinct).rescheduled _ trivial
  | looked looks =>
      obtain rfl := Host.respond_looks looks answered
      exact holds distinct
  | truncated => exact (aside_keeps holds (by exact not_false) answered distinct).rescheduled _ trivial
  | backedUp =>
      cases answered
      rename_i path
      have sent : Host.requested { host with actions := host.actions.send (.backupDb path) } =
          host.requested ++ [path] := by
        rw [Host.requested, Mpsc.sent_send, List.filterMap_append]
        rfl
      have waiting : Host.waiting { host with actions := host.actions.send (.backupDb path) } =
          host.waiting ++ [path] := by
        rw [Host.waiting, Mpsc.send, List.filterMap_append]
        rfl
      have keeps := holds (distinct.earlier (by rw [sent]; exact List.prefix_append _ _) fun _ held => held)
      obtain ⟨retained, relies, orderly⟩ := keeps
      refine ⟨⟨retained.known, ?_, retained.removed, retained.journals⟩, trivial, fun alive => ?_⟩
      · intro other time made unsent
        refine retained.spared other time made fun requested => unsent ?_
        rw [sent]
        exact List.mem_append_left _ requested
      · obtain ⟨done, order, named⟩ := orderly alive
        exact ⟨done, by rw [sent, waiting, order, List.append_assoc, List.append_assoc], named⟩
  | opened =>
      obtain ⟨folder, found, rfl⟩ := Host.respond_folder (by trivial) answered
      rcases Folder.respond_readDir found with ⟨none, _⟩ | ⟨_, rfl⟩
      · cases none
      · exact ((holds (distinct.same rfl rfl)).rescheduled .opened trivial).aside
  | unreadable =>
      obtain ⟨folder, found, rfl⟩ := Host.respond_folder (by trivial) answered
      rcases Folder.respond_readDir found with ⟨_, rfl, _⟩ | ⟨none, _⟩
      · exact ((holds (distinct.same rfl rfl)).rescheduled .idle trivial).aside
      · cases none
  | began reached =>
      obtain ⟨folder, found, rfl⟩ := Host.respond_folder (by trivial) answered
      cases found
      exact ((holds (distinct.same rfl rfl)).read answer.now).rescheduled _
        ⟨_, List.mem_append_right _ (List.mem_singleton_self _), reached⟩
  | overflowed failed =>
      obtain ⟨folder, found, rfl⟩ := Host.respond_folder (by trivial) answered
      cases found
      exact ((holds (distinct.same rfl rfl)).read answer.now).rescheduled _ trivial
  | ended =>
      obtain ⟨folder, found, rfl⟩ := Host.respond_folder (by trivial) answered
      rcases Folder.respond_nextEntry found with ⟨none, _⟩ | ⟨_, rfl, _⟩ | ⟨_, _, none, _⟩
      · cases none
      · exact ((holds (distinct.same rfl rfl)).rescheduled .idle trivial).aside
      · cases none
  | skipped =>
      obtain ⟨folder, found, rfl⟩ := Host.respond_folder (by trivial) answered
      rcases Folder.respond_nextEntry found with ⟨_, rfl⟩ | ⟨none, _, _⟩ | ⟨_, _, none, _⟩
      · exact (holds (distinct.same rfl rfl)).aside
      · cases none
      · cases none
  | listed =>
      rename_i cutoff path
      obtain ⟨folder, found, rfl⟩ := Host.respond_folder (by trivial) answered
      rcases Folder.respond_nextEntry found with ⟨none, _⟩ | ⟨none, _, _⟩ | ⟨_, _, _, _, _, rfl⟩
      · cases none
      · cases none
      · have keeps := holds (distinct.same rfl rfl)
        exact (keeps.rescheduled (.inspecting cutoff path) keeps.relies).aside
  | stopped => cases answered
  | vanished =>
      obtain ⟨folder, found, rfl⟩ := Host.respond_folder (by trivial) answered
      obtain ⟨rfl, _⟩ := Folder.respond_metadata found
      exact ((holds (distinct.same rfl rfl)).rescheduled .panicked trivial).aside
  | expired early =>
      rename_i cutoff created path
      obtain ⟨folder, found, rfl⟩ := Host.respond_folder (by trivial) answered
      obtain ⟨rfl, ⟨none, _⟩ | ⟨_, same, located⟩⟩ := Folder.respond_metadata found
      · cases none
      · cases same
        have keeps := holds (distinct.same rfl rfl)
        have known := keeps.retained.known path (Finmap.mem_of_lookup_eq_some located)
        have relies : Relies thread.profile thread.config.storage.backupTtl files host.folder
            (.removing cutoff path) := by
          refine ⟨keeps.relies, known, fun _ created found => ?_⟩
          rw [located] at found
          cases found
          exact early
        exact (keeps.rescheduled _ relies).aside
  | kept late =>
      rename_i cutoff path metadata
      obtain ⟨folder, found, rfl⟩ := Host.respond_folder (by trivial) answered
      obtain ⟨rfl, _⟩ := Folder.respond_metadata found
      have keeps := holds (distinct.same rfl rfl)
      exact (keeps.rescheduled (.walking cutoff) keeps.relies).aside
  | removed =>
      rename_i cutoff path _
      obtain ⟨folder, found, rfl⟩ := Host.respond_folder (by trivial) answered
      rcases Folder.respond_removeFile found with ⟨_, rfl, _⟩ | ⟨created, _, located, rfl⟩
      · have keeps := holds (distinct.same rfl rfl)
        exact (keeps.rescheduled (.walking cutoff) keeps.relies.1).aside
      · obtain ⟨retained, ⟨reached, _, early⟩, orderly⟩ := holds (distinct.same rfl rfl)
        refine ⟨retained.remove reached located fun unjournaled => early unjournaled created located,
          reached, fun alive => ?_⟩
        obtain ⟨done, order, named⟩ := orderly alive
        exact ⟨done, order, named⟩

theorem Keeps.moved {before after' : StoragePhase}
    (keeps : Keeps profile ttl files host phase before) (alive : before ≠ .panicked true)
    (same : after'.current = before.current) (begun : after'.begun = before.begun) :
    Keeps profile ttl files host phase after' := by
  obtain ⟨retained, relies, orderly⟩ := keeps
  obtain ⟨done, order, named⟩ := orderly alive
  exact ⟨retained, relies, fun _ => ⟨done, by rw [same]; exact order, by rw [begun]; exact named⟩⟩

theorem Keeps.dead {before : StoragePhase} (keeps : Keeps profile ttl files host phase before) :
    Keeps profile ttl files host phase (.panicked true) :=
  ⟨keeps.retained, keeps.relies, fun alive => absurd rfl alive⟩

theorem received_keeps {action : SqliteStorageAction} {after' : StoragePhase}
    (holds : Distinct files host → Keeps profile ttl files host phase .idle)
    (answered : host.respond mayFail sqlite .storage answer .recv = some (action, after))
    (current : after'.current = (backupPath? action).toList) (begun : after'.begun = [])
    (distinct : Distinct files after) : Keeps profile ttl files after phase after' := by
  obtain ⟨folder, requested, waiting⟩ := Host.respond_recv answered
  obtain ⟨⟨known, spared, removed, journals⟩, relies, orderly⟩ :=
    holds (distinct.same requested (by rw [folder]))
  obtain ⟨done, order, named⟩ := orderly nofun
  refine ⟨⟨by rwa [folder], by rwa [folder, requested], by rwa [folder], by rwa [folder]⟩,
    by rwa [folder], fun _ => ⟨done, ?_, ?_⟩⟩
  · rw [requested, order, waiting, current]
    rfl
  · rw [folder, begun]
    exact named

theorem storage_keeps {before after' : StoragePhase}
    (holds : Distinct files host → Keeps profile ttl files host phase before)
    (led : StorageStep before op reply after')
    (answered : host.respond mayFail sqlite .storage answer op = some (reply, after))
    (distinct : Distinct files after) : Keeps profile ttl files after phase after' := by
  cases led with
  | ignored ignored =>
      rename_i action
      refine received_keeps holds answered ?_ rfl distinct
      cases action <;> first | exact ignored.elim | rfl
  | insert => exact received_keeps holds answered rfl rfl distinct
  | truncate => exact received_keeps holds answered rfl rfl distinct
  | backup => exact received_keeps holds answered rfl rfl distinct
  | notBegun => exact (aside_keeps holds (by exact not_false) answered distinct).moved nofun rfl rfl
  | begun => exact (aside_keeps holds (by exact not_false) answered distinct).moved nofun rfl rfl
  | unbound => exact (aside_keeps holds (by exact not_false) answered distinct).moved nofun rfl rfl
  | executed => exact (aside_keeps holds (by exact not_false) answered distinct).moved nofun rfl rfl
  | finished => exact (aside_keeps holds (by exact not_false) answered distinct).moved nofun rfl rfl
  | notFinished => exact (aside_keeps holds (by exact not_false) answered distinct).moved nofun rfl rfl
  | dated => exact (aside_keeps holds (by exact not_false) answered distinct).moved nofun rfl rfl
  | undated => exact (aside_keeps holds (by exact not_false) answered distinct).moved nofun rfl rfl
  | deleted => exact (aside_keeps holds (by exact not_false) answered distinct).moved nofun rfl rfl
  | opened =>
      rename_i path
      obtain ⟨folder, found, rfl⟩ := Host.respond_folder (by trivial) answered
      rcases Folder.respond_openDestination found with ⟨none, _⟩ | ⟨_, rfl⟩
      · cases none
      · have earlier : Distinct files host := distinct.same rfl rfl
        have keeps := holds earlier
        obtain ⟨done, orderly⟩ := keeps.orderly nofun
        obtain ⟨retained, relies⟩ := keeps.create answer.now earlier orderly List.mem_cons_self
          nofun
        have made : Keeps profile ttl files
            { host with folder := host.folder.create path answer.now } phase (.starting path) := by
          refine ⟨retained, relies, fun _ => ⟨done, orderly.order, fun other created => ?_⟩⟩
          rcases mem_created created with earlier | rfl
          · exact (orderly.named other earlier).imp id nofun
          · exact .inr List.mem_cons_self
        exact made.aside
  | started =>
      obtain ⟨folder, found, rfl⟩ := Host.respond_folder (by trivial) answered
      rcases Folder.respond_newBackup found with ⟨none, _⟩ | ⟨_, rfl⟩
      · cases none
      · exact (holds (distinct.same rfl rfl)).aside.moved nofun rfl rfl
  | copied =>
      obtain ⟨folder, found, rfl⟩ := Host.respond_folder (by trivial) answered
      obtain ⟨rfl, _⟩ := Folder.respond_runToCompletion found
      exact (holds (distinct.same rfl rfl)).aside.moved nofun rfl rfl
  | readBack =>
      obtain ⟨folder, found, rfl⟩ := Host.respond_folder (by trivial) answered
      obtain ⟨rfl, _⟩ := Folder.respond_read found
      exact (holds (distinct.same rfl rfl)).aside.moved nofun rfl rfl
  | compressed =>
      obtain ⟨folder, found, rfl⟩ := Host.respond_folder (by trivial) answered
      obtain ⟨rfl, _⟩ := Folder.respond_compress found
      exact (holds (distinct.same rfl rfl)).aside.moved nofun rfl rfl
  | written =>
      rename_i path
      obtain ⟨folder, found, rfl⟩ := Host.respond_folder (by trivial) answered
      rcases Folder.respond_write found with ⟨none, _⟩ | ⟨_, rfl⟩
      · cases none
      · have earlier : Distinct files host := distinct.same rfl rfl
        have keeps := holds earlier
        obtain ⟨retained, relies⟩ := keeps.compresses answer.now earlier
        obtain ⟨done, orderly⟩ := keeps.orderly nofun
        refine ⟨retained, relies, fun _ => ⟨done, orderly.order, fun file created => ?_⟩⟩
        rcases mem_created created with made | rfl
        · refine (orderly.named file made).imp id fun begun => ?_
          exact List.mem_singleton.mp begun ▸ List.mem_cons_self
        · exact .inr (List.mem_cons_of_mem _ List.mem_cons_self)
  | removed =>
      rename_i path
      obtain ⟨folder, found, rfl⟩ := Host.respond_folder (by trivial) answered
      rcases Folder.respond_removeFile found with ⟨none, _⟩ | ⟨created, _, _, rfl⟩
      · cases none
      · have keeps := holds (distinct.same rfl rfl)
        obtain ⟨done, orderly⟩ := keeps.orderly nofun
        have sent : path ∈ host.requested := by
          rw [orderly.order]
          exact List.mem_append_right _ List.mem_cons_self
        refine ⟨keeps.retained.removeCopy sent, keeps.relies.erase rfl rfl (fun _ known => known) rfl,
          fun _ => ⟨done ++ [path], ?_, orderly.completed⟩⟩
        rw [List.append_assoc]
        exact orderly.order
  | notOpened =>
      obtain ⟨folder, found, rfl⟩ := Host.respond_folder (by trivial) answered
      rcases Folder.respond_openDestination found with ⟨_, rfl, _⟩ | ⟨none, _⟩
      · exact (holds (distinct.same rfl rfl)).aside.dead
      · cases none
  | notStarted =>
      obtain ⟨folder, found, rfl⟩ := Host.respond_folder (by trivial) answered
      rcases Folder.respond_newBackup found with ⟨_, rfl, _⟩ | ⟨none, _⟩
      · exact (holds (distinct.same rfl rfl)).aside.dead
      · cases none
  | notCopied =>
      obtain ⟨folder, found, rfl⟩ := Host.respond_folder (by trivial) answered
      obtain ⟨rfl, _⟩ := Folder.respond_runToCompletion found
      exact (holds (distinct.same rfl rfl)).aside.dead
  | notRead =>
      obtain ⟨folder, found, rfl⟩ := Host.respond_folder (by trivial) answered
      obtain ⟨rfl, _⟩ := Folder.respond_read found
      exact (holds (distinct.same rfl rfl)).aside.dead
  | notCompressed =>
      obtain ⟨folder, found, rfl⟩ := Host.respond_folder (by trivial) answered
      obtain ⟨rfl, _⟩ := Folder.respond_compress found
      exact (holds (distinct.same rfl rfl)).aside.dead
  | notWritten =>
      rename_i path
      obtain ⟨folder, found, rfl⟩ := Host.respond_folder (by trivial) answered
      rcases Folder.respond_write found with ⟨_, _, rfl | rfl⟩ | ⟨none, _⟩
      · exact (holds (distinct.same rfl rfl)).aside.dead
      · have earlier : Distinct files host := distinct.same rfl rfl
        obtain ⟨retained, relies⟩ := (holds earlier).compresses answer.now earlier
        exact ⟨retained, relies, fun alive => absurd rfl alive⟩
      · cases none
  | notRemoved =>
      obtain ⟨folder, found, rfl⟩ := Host.respond_folder (by trivial) answered
      rcases Folder.respond_removeFile found with ⟨_, rfl, _⟩ | ⟨_, none, _⟩
      · exact (holds (distinct.same rfl rfl)).aside.dead
      · cases none

/-- SQLite creates and removes no file but its own. -/
theorem sqlite_keeps (holds : Distinct files host → Keeps profile ttl files host phase storage)
    (answered : host.respond mayFail sqlite .sqlite answer .journal = some ((), after))
    (distinct : Distinct files after) : Keeps profile ttl files after phase storage := by
  obtain ⟨folder, found, rfl⟩ := Host.respond_folder (by trivial) answered
  obtain ⟨kept, keeps, same⟩ := Option.map_eq_some_iff.mp found
  cases same
  cases event : answer.journal with
  | opens path =>
      rw [event] at keeps
      obtain ⟨_, rfl⟩ := Folder.keep_opens keeps
      have own := holds (distinct.earlier (List.prefix_refl _) fun _ => List.mem_append_left _)
      obtain ⟨⟨known, spared, removed, journals⟩, relies, orderly⟩ := own
      have knows : ∀ other, Known files host.folder other →
          Known files { host.folder with journaled := host.folder.journaled ++ [path] } other :=
        fun other => Or.imp_right (Or.imp_right (List.mem_append_left _))
      have kept : ∀ other ∉ host.folder.journaled ++ [path],
          (BackupRace.touch host.folder.files path answer.now).lookup other =
            host.folder.files.lookup other := by
        intro other unjournaled
        refine BackupRace.lookup_touch_ne ?_
        rintro rfl
        exact unjournaled (List.mem_append_right _ (List.mem_singleton_self _))
      refine ⟨⟨?_, ?_, ?_, ?_⟩, ?_, fun alive => ?_⟩
      · intro other present
        rcases BackupRace.mem_touch.mp present with rfl | present
        · exact .inr (.inr (List.mem_append_right _ (List.mem_singleton_self _)))
        · exact knows other (known other present)
      · intro other time made unsent unjournaled young
        rw [kept other unjournaled]
        exact spared other time made unsent (fun held => unjournaled (List.mem_append_left _ held)) young
      · exact fun other created gone unjournaled =>
          removed other created gone fun held => unjournaled (List.mem_append_left _ held)
      · intro other opened
        rcases List.mem_cons.mp opened with rfl | earlier
        · exact List.mem_append_right _ (List.mem_singleton_self _)
        · exact List.mem_append_left _ (journals other earlier)
      · cases phase with
        | removing cutoff other =>
            obtain ⟨reached, owned, early⟩ := relies
            refine ⟨reached, knows other owned, fun unjournaled created located => ?_⟩
            rw [kept other unjournaled] at located
            exact early (fun held => unjournaled (List.mem_append_left _ held)) created located
        | _ => exact relies
      · obtain ⟨done, order, named⟩ := orderly alive
        exact ⟨done, order, named⟩
  | closes path =>
      rw [event] at keeps
      obtain ⟨held, ⟨_, rfl⟩ | ⟨_, rfl⟩⟩ := Folder.keep_closes keeps
      · obtain ⟨⟨known, spared, removed, journals⟩, relies, orderly⟩ := holds (distinct.same rfl rfl)
        refine ⟨⟨?_, ?_, removed, ?_⟩, relies.erase rfl rfl (fun _ known => known) rfl, fun alive => ?_⟩
        · exact fun other present => known other (Finmap.mem_erase.mp present).2
        · intro other time made unsent unjournaled young
          have different : other ≠ path := by
            rintro rfl
            exact unjournaled (journals other held)
          exact (Finmap.lookup_erase_ne different).trans
            (spared other time made unsent unjournaled young)
        · exact fun other kept => journals other (List.mem_of_mem_erase kept)
        · obtain ⟨done, order, named⟩ := orderly alive
          exact ⟨done, order, named⟩
      · obtain ⟨⟨known, spared, removed, journals⟩, relies, orderly⟩ := holds (distinct.same rfl rfl)
        refine ⟨⟨known, spared, removed, ?_⟩, ?_, fun alive => ?_⟩
        · exact fun other kept => journals other (List.mem_of_mem_erase kept)
        · cases phase <;> exact relies
        · obtain ⟨done, order, named⟩ := orderly alive
          exact ⟨done, order, named⟩

theorem compressed_unsent (distinct : Distinct files host) (sent : path ∈ host.requested) :
    path.withExtension "db.zst" ∉ host.requested := by
  intro copy
  obtain ⟨own, apart⟩ := List.nodup_flatMap.mp distinct.nodup
  have compressed : path.withExtension "db.zst" ∈ backupFiles path :=
    List.mem_cons_of_mem _ List.mem_cons_self
  by_cases same : path.withExtension "db.zst" = path
  · have nodup := own path sent
    simp [backupFiles, same] at nodup
  · have symmetric : Std.Symm (Function.onFun List.Disjoint backupFiles) := ⟨fun _ _ apart => apart.symm⟩
    exact apart.forall copy sent same List.mem_cons_self compressed

end Steps

section Runs

variable {mayFail : Bool} {sqlite : SqliteFiles} {json : SerdeJson} {scheduler : BackupScheduler}
  {attempts : Nat} {files : HashMap PathBuf SystemTime} {moves : List (Worker × Answer)}
  {crew : Crew HostCall HostCall.Reply Panic Host Worker}

theorem run_keeps
    (executed : (threads mayFail sqlite json scheduler attempts files).run moves = some crew)
    (distinct : Distinct files crew.state) :
    Retained scheduler.profile scheduler.config.storage.backupTtl files crew.state := by
  have inPhase : InPhase (protocol json scheduler) home
      (fun host phases => Distinct files host → Keeps scheduler.profile
        scheduler.config.storage.backupTtl files host (phases .scheduler) (phases .storage)) crew := by
    refine crewFrom_inPhase (first_follows attempts) bodies_follow ?_ ?_
      (crewFrom_meets (fun _ _ _ _ => trivial) moves _) executed
    · intro before phases worker answer op reply after phase holds _ answered led distinct
      cases worker with
      | scheduler =>
          have kept := scheduler_keeps holds led answered distinct
          rwa [Function.update_self, Function.update_of_ne (by decide)]
      | storage =>
          have kept := storage_keeps holds led answered distinct
          rwa [Function.update_self, Function.update_of_ne (by decide)]
      | sqlite =>
          cases led
          have kept := sqlite_keeps holds answered distinct
          rwa [Function.update_of_ne (by decide), Function.update_of_ne (by decide)]
      | channels =>
          have kept := aside_keeps holds (Host.aside_of_step led (by decide)) answered distinct
          rwa [Function.update_of_ne (by decide), Function.update_of_ne (by decide)]
      | aggregator =>
          have kept := aside_keeps holds (Host.aside_of_step led (by decide)) answered distinct
          rwa [Function.update_of_ne (by decide), Function.update_of_ne (by decide)]
      | transport =>
          have kept := aside_keeps holds (Host.aside_of_step led (by decide)) answered distinct
          rwa [Function.update_of_ne (by decide), Function.update_of_ne (by decide)]
    · intro _
      refine ⟨⟨fun path present => .inl present, ?_, ?_, ?_⟩, trivial, fun _ => ⟨[], rfl, ?_⟩⟩
      · exact fun _ _ created => absurd created List.not_mem_nil
      · exact fun _ _ removed => absurd removed List.not_mem_nil
      · exact fun _ held => absurd held List.not_mem_nil
      · exact fun _ created => absurd created List.not_mem_nil
  obtain ⟨_, _, keeps⟩ := inPhase
  exact (keeps distinct).retained

/-- Whatever the threads do and whatever fails: the cleanup removes no file, SQLite's own
aside, that was not created before the cutoff of a walk, and a compressed backup the storage
thread has written is there until it was. -/
theorem no_young_backup_is_lost
    (executed : (threads mayFail sqlite json scheduler attempts files).run moves = some crew)
    (distinct : Distinct files crew.state) :
    (∀ path created, (path, created) ∈ crew.state.folder.removals →
        path ∉ crew.state.folder.journaled →
          Expires scheduler.profile scheduler.config.storage.backupTtl crew.state.folder.readings
            created) ∧
      ∀ path ∈ crew.state.requested, ∀ time,
        (path.withExtension "db.zst", time) ∈ crew.state.folder.created →
          ¬Expires scheduler.profile scheduler.config.storage.backupTtl crew.state.folder.readings
            time →
            crew.state.folder.files.lookup (path.withExtension "db.zst") = some time := by
  have retained := run_keeps executed distinct
  refine ⟨retained.removed, fun path sent time made young => ?_⟩
  have compressed : path.withExtension "db.zst" ∈ crew.state.requested.flatMap backupFiles :=
    List.mem_flatMap.mpr ⟨path, sent, List.mem_cons_of_mem _ List.mem_cons_self⟩
  exact retained.spared _ time made (compressed_unsent distinct sent)
    (distinct.unjournaled _ compressed) young

end Runs

theorem young_backup_survives_its_walk :
    ∃ crew, (threads true BackupRace.Sample.sqlite Gateway.Sample.json StsGateway.Sample.scheduler 1
        ∅).run Sample.oneBackup = some crew ∧
      crew.state.folder.files.lookup (Sample.copy.withExtension "db.zst") = some .unixEpoch := by
  have ran : ((threads true BackupRace.Sample.sqlite Gateway.Sample.json StsGateway.Sample.scheduler 1
      ∅).run Sample.oneBackup).map (fun crew => (crew.state.requested, crew.state.folder.created,
        crew.state.folder.readings, crew.state.folder.journaled)) =
      some ([Sample.copy],
        [(Sample.copy, .unixEpoch), (Sample.copy.withExtension "db.zst", .unixEpoch)],
        [.unixEpoch], [journalPath Sample.copy]) := by decide +kernel
  obtain ⟨crew, executed, same⟩ := Option.map_eq_some_iff.mp ran
  simp only [Prod.mk.injEq] at same
  obtain ⟨sent, created, readings, journaled⟩ := same
  have distinct : Distinct ∅ crew.state := by
    refine ⟨?_, fun path _ => Finmap.notMem_empty, ?_⟩
    · rw [sent]
      decide +kernel
    · rw [sent, journaled]
      decide +kernel
  refine ⟨crew, executed, (no_young_backup_is_lost executed distinct).2 Sample.copy ?_ .unixEpoch ?_ ?_⟩
  · rw [sent]
    exact List.mem_singleton_self _
  · rw [created]
    exact List.mem_cons_of_mem _ List.mem_cons_self
  · rw [readings]
    rintro ⟨now, read, cutoff, reached, early⟩
    cases List.mem_singleton.mp read
    have before : (olderThan .release 1 .unixEpoch).map SystemTime.nanos = .ok (-3600000000000) := by
      decide +kernel
    have exact : olderThan .release 1 .unixEpoch = .ok cutoff := reached
    rw [exact] at before
    have hour : cutoff.nanos = -3600000000000 := Except.ok.inj before
    rw [hour] at early
    exact absurd early (by decide)

end BackupThreads

end StsGateway
