import StsGateway.Backup.Interleaving
import StsGateway.Host

namespace StsGateway

open Data

/-! The folder of the backups, as the scheduler's cleanup, the storage thread's backups and
SQLite find it call by call.
-/

/-- SQLite begins or ceases to keep a file beside a database. -/
inductive JournalEvent where
  | opens (path : PathBuf)
  | closes (path : PathBuf)
deriving DecidableEq

/-- The folder is read ahead: `buffer` are names not yet handed to the walk. The fields from
`inspecting` on keep a record; no reply depends on them. -/
structure Folder where
  files : HashMap PathBuf SystemTime
  journals : List PathBuf
  broken : Bool
  copying : Option PathBuf
  buffer : List PathBuf
  inspecting : Option PathBuf
  inProgress : Option PathBuf
  created : List (PathBuf × SystemTime)
  removals : List (PathBuf × SystemTime)
  readings : List SystemTime
  journaled : List PathBuf

/-- What one call on the folder finds. -/
structure FolderAnswer where
  now : SystemTime
  succeeds : Bool
  leavesFile : Bool
  names : List PathBuf
  readable : Bool
  journal : JournalEvent

namespace Folder

def start (files : HashMap PathBuf SystemTime) : Folder :=
  ⟨files, [], false, none, [], none, none, [], [], [], []⟩

/-- The names the walk has yet to inspect. -/
def listed (folder : Folder) : List PathBuf := folder.inspecting.toList ++ folder.buffer

def create (folder : Folder) (path : PathBuf) (now : SystemTime) : Folder :=
  { folder with
    files := BackupRace.touch folder.files path now
    created := folder.created ++ [(path, now)] }

/-- The scheduler's removals are recorded with the creation time of the file. -/
def remove (folder : Folder) (path : PathBuf) (created : SystemTime) : Worker → Folder
  | .scheduler =>
      { folder with
        files := folder.files.erase path
        removals := folder.removals ++ [(path, created)] }
  | _ => { folder with files := folder.files.erase path, inProgress := none }

/-- Names that are not in the buffer yet, of files that are there. -/
def Listable (folder : Folder) (names : List PathBuf) : Prop :=
  (folder.buffer ++ names).Nodup ∧ ∀ name ∈ names, name ∈ folder.files

instance (folder : Folder) (names : List PathBuf) : Decidable (folder.Listable names) :=
  inferInstanceAs (Decidable (_ ∧ _))

/-- The copy is written to a file that was unlinked. -/
def copyVanished (folder : Folder) : Bool := folder.copying.any fun path => path ∉ folder.files

/-- The databases that SQLite may be writing. -/
def databases (sqlite : SqliteFiles) (folder : Folder) : List PathBuf :=
  sqlite.database :: folder.copying.toList

/-- A file of SQLite's that somebody else removed is missed when it is closed. -/
def keep (sqlite : SqliteFiles) (folder : Folder) (now : SystemTime) : JournalEvent → Option Folder
  | .opens path =>
      if (∃ database ∈ folder.databases sqlite, path ∈ sqlite.beside database) ∧
          path ∉ folder.journals then
        some { folder with
          files := BackupRace.touch folder.files path now
          journals := path :: folder.journals
          journaled := folder.journaled ++ [path] }
      else none
  | .closes path =>
      if path ∈ folder.journals then
        if path ∈ folder.files then
          some { folder with
            files := folder.files.erase path
            journals := folder.journals.erase path }
        else some { folder with journals := folder.journals.erase path, broken := true }
      else none

/-- Where nothing fails of its own accord, only a file that is gone makes a call fail. -/
def respond (mayFail : Bool) (sqlite : SqliteFiles) (folder : Folder) (worker : Worker)
    (answer : FolderAnswer) : (op : HostCall) → Option (op.Reply × Folder)
  | .systemNow => some (answer.now, { folder with readings := folder.readings ++ [answer.now] })
  | .openDestination path =>
      if mayFail && !answer.succeeds then some (false, folder)
      else some (true, { folder.create path answer.now with
        inProgress := some path
        copying := some path })
  | .newBackup =>
      if mayFail && !answer.succeeds then some (false, { folder with copying := none })
      else some (true, folder)
  | .runToCompletion =>
      if (mayFail || folder.broken || folder.copyVanished) && !answer.succeeds then
        some (false, { folder with copying := none })
      else some (true, { folder with copying := none })
  | .compress => some (!mayFail || answer.succeeds, folder)
  | .read path => some ((!mayFail || answer.succeeds) && path ∈ folder.files, folder)
  | .write path =>
      if mayFail && !answer.succeeds then
        some (false, if answer.leavesFile then folder.create path answer.now else folder)
      else some (true, folder.create path answer.now)
  | .removeFile path =>
      match folder.files.lookup path with
      | none => some (false, folder)
      | some created =>
          if mayFail && !answer.succeeds then some (false, folder)
          else some (true, folder.remove path created worker)
  | .journal => (folder.keep sqlite answer.now answer.journal).map fun after => ((), after)
  | .exists _ | .createDirAll _ => some (answer.succeeds, folder)
  | .readDir _ =>
      if mayFail && !answer.succeeds then some (false, folder)
      else some (true, { folder with buffer := [], inspecting := none })
  | .nextEntry =>
      if answer.readable then
        if folder.Listable answer.names then
          match folder.buffer ++ answer.names with
          | [] => some (none, folder)
          | path :: buffer =>
              some (some (some path), { folder with buffer, inspecting := some path })
        else none
      else some (some none, folder)
  | .metadata path =>
      if mayFail && !answer.succeeds then some (none, { folder with inspecting := none })
      else some ((folder.files.lookup path).map fun created => ⟨true, some created⟩,
        { folder with inspecting := none })
  -- the calls that are not about the folder
  | .utcNow | .recv | .send _ | .transaction | .execute _ | .finish | .delete _ _ | .due _ | .sleep
  | .outOfFuel | .channelSend | .recvMessage | .sendTransport _ | .createClient | .connect
  | .recvTransport | .publish _ => none

section Calls

variable {mayFail : Bool} {sqlite : SqliteFiles} {folder after : Folder} {worker : Worker}
  {answer : FolderAnswer} {path : PathBuf} {succeeded : Bool}

theorem respond_openDestination
    (answered : folder.respond mayFail sqlite worker answer (.openDestination path) =
      some (succeeded, after)) :
    (succeeded = false ∧ after = folder ∧ mayFail = true) ∨
      (succeeded = true ∧ after = { folder.create path answer.now with
        inProgress := some path, copying := some path }) := by
  simp only [respond] at answered
  split at answered
  · rename_i failed
    cases answered
    exact .inl ⟨rfl, rfl, (Bool.and_eq_true_iff.mp failed).1⟩
  · cases answered
    exact .inr ⟨rfl, rfl⟩

theorem respond_newBackup
    (answered : folder.respond mayFail sqlite worker answer .newBackup = some (succeeded, after)) :
    (succeeded = false ∧ after = { folder with copying := none } ∧ mayFail = true) ∨
      (succeeded = true ∧ after = folder) := by
  simp only [respond] at answered
  split at answered
  · rename_i failed
    cases answered
    exact .inl ⟨rfl, rfl, (Bool.and_eq_true_iff.mp failed).1⟩
  · cases answered
    exact .inr ⟨rfl, rfl⟩

theorem respond_runToCompletion
    (answered : folder.respond mayFail sqlite worker answer .runToCompletion =
      some (succeeded, after)) :
    after = { folder with copying := none } ∧ (succeeded = false → mayFail = false →
      folder.broken = true ∨ folder.copyVanished = true) := by
  simp only [respond] at answered
  split at answered
  · rename_i failed
    cases answered
    refine ⟨rfl, fun _ reliable => ?_⟩
    simpa [reliable] using (Bool.and_eq_true_iff.mp failed).1
  · cases answered
    exact ⟨rfl, nofun⟩

theorem respond_compress
    (answered : folder.respond mayFail sqlite worker answer .compress = some (succeeded, after)) :
    after = folder ∧ (mayFail = false → succeeded = true) := by
  cases answered
  refine ⟨rfl, fun reliable => ?_⟩
  rw [reliable]
  rfl

theorem respond_read
    (answered : folder.respond mayFail sqlite worker answer (.read path) = some (succeeded, after)) :
    after = folder ∧ (mayFail = false → (succeeded = true ↔ path ∈ folder.files)) := by
  cases answered
  refine ⟨rfl, fun reliable => ?_⟩
  simp [reliable]

theorem respond_write
    (answered : folder.respond mayFail sqlite worker answer (.write path) = some (succeeded, after)) :
    (succeeded = false ∧ mayFail = true ∧ (after = folder ∨ after = folder.create path answer.now)) ∨
      (succeeded = true ∧ after = folder.create path answer.now) := by
  simp only [respond] at answered
  split at answered
  · rename_i failed
    cases answered
    refine .inl ⟨rfl, (Bool.and_eq_true_iff.mp failed).1, ?_⟩
    cases answer.leavesFile with
    | false => exact .inl rfl
    | true => exact .inr rfl
  · cases answered
    exact .inr ⟨rfl, rfl⟩

theorem respond_removeFile
    (answered : folder.respond mayFail sqlite worker answer (.removeFile path) =
      some (succeeded, after)) :
    (succeeded = false ∧ after = folder ∧ (mayFail = false → path ∉ folder.files)) ∨
      ∃ created, succeeded = true ∧ folder.files.lookup path = some created ∧
        after = folder.remove path created worker := by
  simp only [respond] at answered
  split at answered
  · rename_i gone
    cases answered
    exact .inl ⟨rfl, rfl, fun _ => Finmap.lookup_eq_none.mp gone⟩
  · rename_i created found
    split at answered
    · rename_i failed
      cases answered
      refine .inl ⟨rfl, rfl, fun reliable => ?_⟩
      rw [reliable] at failed
      cases failed
    · cases answered
      exact .inr ⟨created, rfl, found, rfl⟩

theorem respond_readDir
    (answered : folder.respond mayFail sqlite worker answer (.readDir path) =
      some (succeeded, after)) :
    (succeeded = false ∧ after = folder ∧ mayFail = true) ∨
      (succeeded = true ∧ after = { folder with buffer := [], inspecting := none }) := by
  simp only [respond] at answered
  split at answered
  · rename_i failed
    cases answered
    exact .inl ⟨rfl, rfl, (Bool.and_eq_true_iff.mp failed).1⟩
  · cases answered
    exact .inr ⟨rfl, rfl⟩

theorem respond_nextEntry {listed : Option (Option PathBuf)}
    (answered : folder.respond mayFail sqlite worker answer .nextEntry = some (listed, after)) :
    (listed = some none ∧ after = folder) ∨
      (listed = none ∧ after = folder ∧ folder.buffer = []) ∨
      ∃ path buffer, listed = some (some path) ∧ folder.Listable answer.names ∧
        folder.buffer ++ answer.names = path :: buffer ∧
        after = { folder with buffer, inspecting := some path } := by
  simp only [respond] at answered
  split at answered
  · split at answered
    · rename_i listable
      split at answered
      · rename_i none
        cases answered
        exact .inr (.inl ⟨rfl, rfl, (List.append_eq_nil_iff.mp none).1⟩)
      · rename_i path buffer split
        cases answered
        exact .inr (.inr ⟨path, buffer, rfl, listable, split, rfl⟩)
    · cases answered
  · cases answered
    exact .inl ⟨rfl, rfl⟩

theorem respond_metadata {metadata : Option Metadata}
    (answered : folder.respond mayFail sqlite worker answer (.metadata path) =
      some (metadata, after)) :
    after = { folder with inspecting := none } ∧
      ((metadata = none ∧ (mayFail = false → path ∉ folder.files)) ∨
        ∃ created, metadata = some ⟨true, some created⟩ ∧
          folder.files.lookup path = some created) := by
  simp only [respond] at answered
  split at answered
  · rename_i failed
    cases answered
    refine ⟨rfl, .inl ⟨rfl, fun reliable => ?_⟩⟩
    rw [reliable] at failed
    cases failed
  · cases answered
    refine ⟨rfl, ?_⟩
    cases found : folder.files.lookup path with
    | none => exact .inl ⟨rfl, fun _ => Finmap.lookup_eq_none.mp found⟩
    | some created => exact .inr ⟨created, rfl, rfl⟩

theorem keep_opens {now : SystemTime} (kept : folder.keep sqlite now (.opens path) = some after) :
    ((∃ database ∈ folder.databases sqlite, path ∈ sqlite.beside database) ∧
        path ∉ folder.journals) ∧
      after = { folder with
        files := BackupRace.touch folder.files path now
        journals := path :: folder.journals
        journaled := folder.journaled ++ [path] } := by
  simp only [keep] at kept
  split at kept
  · rename_i allowed
    cases kept
    exact ⟨allowed, rfl⟩
  · cases kept

theorem keep_closes {now : SystemTime} (kept : folder.keep sqlite now (.closes path) = some after) :
    path ∈ folder.journals ∧
      ((path ∈ folder.files ∧ after = { folder with
          files := folder.files.erase path
          journals := folder.journals.erase path }) ∨
        (path ∉ folder.files ∧ after = { folder with
          journals := folder.journals.erase path
          broken := true })) := by
  simp only [keep] at kept
  split at kept
  · rename_i held
    split at kept
    · rename_i present
      cases kept
      exact ⟨held, .inl ⟨present, rfl⟩⟩
    · rename_i absent
      cases kept
      exact ⟨held, .inr ⟨absent, rfl⟩⟩
  · cases kept

end Calls

end Folder

end StsGateway
