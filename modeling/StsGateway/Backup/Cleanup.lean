import StsGateway.Storage.Sqlite

namespace StsGateway

/-! The end of the backup job in `main.rs`: deleting old backups.

A directory is what `read_dir` lists, with what its entries answer when they
are asked. The files behind paths are told apart by a `resolve` function, so a
database can be reached through another path than the backup folder's.
-/

structure Metadata where
  isFile : Bool
  created : Option SystemTime
deriving DecidableEq

structure DirEntry where
  fileName : String
  metadata : Option Metadata
  removable : Bool
deriving DecidableEq

def DirEntry.path (folder : PathBuf) (entry : DirEntry) : PathBuf :=
  { folder with components := folder.components ++ [entry.fileName] }

/-- The backup folder when the job walks it. An entry that could not be read is
`none`; the names of the others are distinct. -/
structure BackupFolder where
  opens : Bool
  entries : List (Option DirEntry)
  distinct : ((entries.filterMap id).map DirEntry.fileName).Nodup

structure Cleanup where
  removed : List PathBuf
  panicked : Option Panic
deriving DecidableEq

/-- `as u64` on an `i32`. -/
def asU64 (value : Int32) : UInt64 := UInt64.ofNat (value.toInt % 2 ^ 64).toNat

def removeExpired (folder : PathBuf) (olderThan : SystemTime) : List (Option DirEntry) → Cleanup
  | [] => ⟨[], none⟩
  | none :: rest => removeExpired folder olderThan rest
  | some entry :: rest =>
      match entry.metadata with
      | none => ⟨[], some ⟨"called `Result::unwrap()` on an `Err` value"⟩⟩
      | some ⟨true, some created⟩ =>
          let later := removeExpired folder olderThan rest
          if created.nanos < olderThan.nanos ∧ entry.removable then
            { later with removed := entry.path folder :: later.removed }
          else later
      | some _ => removeExpired folder olderThan rest

/-- `now` is the reading of `SystemTime::now()`, taken once per walk. -/
def olderThan (profile : Profile) (backupTtl : Int32) (now : SystemTime) :
    Except Panic SystemTime := do
  let seconds ← profile.mulU64 3600 (asU64 backupTtl)
  now.subSecs seconds

def deleteOldBackups (profile : Profile) (config : MainConfig) (now : SystemTime)
    (folder : BackupFolder) : Cleanup :=
  if !folder.opens then ⟨[], none⟩
  else
    match olderThan profile config.storage.backupTtl now with
    | .error panic => ⟨[], some panic⟩
    | .ok cutoff => removeExpired (PathBuf.new config.storage.backupFolder) cutoff folder.entries

/-! ### The paths the program derives -/

/-- `str::to_lowercase`, and `chrono`'s `:%+.db` of a job's date, given as an instant. -/
structure Naming where
  lowercase : String → String
  dateString : Int → String

def Naming.backupName (naming : Naming) (config : MainConfig) (date : Int) : String :=
  naming.lowercase (replaceChar config.name ' ' '_') ++ naming.dateString date

def Naming.backupPath (naming : Naming) (config : MainConfig) (date : Int) : PathBuf :=
  (PathBuf.new config.storage.backupFolder).join (PathBuf.new (naming.backupName config date))

/-- The file of a backup started at one of `dates`, before or after compression. -/
def IsOwnBackup (naming : Naming) (config : MainConfig) (dates : List Int) (path : PathBuf) : Prop :=
  ∃ date ∈ dates, path = naming.backupPath config date ∨
    path = (naming.backupPath config date).withExtension "db.zst"

def journalPath (path : PathBuf) : PathBuf :=
  { path with components := path.components.dropLast ++ path.components.getLast?.toList.map (· ++ "-journal") }

section Paths

variable {File : Type} (resolve : PathBuf → File) (config : MainConfig)

def IsLiveDatabase (path : PathBuf) : Prop :=
  resolve path = resolve (SqliteStorage.dataPath config.storage.dataFolder) ∨
    resolve path = resolve (journalPath (SqliteStorage.dataPath config.storage.dataFolder))

def MayRemove (naming : Naming) (dates : List Int) (path : PathBuf) : Prop :=
  IsOwnBackup naming config dates path ∧ ¬IsLiveDatabase resolve config path

end Paths

/-- A regular file created before `now - backup_ttl`, as far as it can be told. -/
def DirEntry.Expired (ttl : Int32) (now : SystemTime) (entry : DirEntry) : Prop :=
  ∃ created, entry.metadata = some ⟨true, some created⟩ ∧
    created.nanos < now.nanos - 3600 * ttl.toInt * 1000000000

/-- The entries before the first one whose metadata cannot be read. -/
def BackupFolder.reached (folder : BackupFolder) : List DirEntry :=
  if folder.opens then (folder.entries.filterMap id).takeWhile fun entry => entry.metadata.isSome
  else []

/-- Backup cleanup removes the expired backups and nothing else. -/
structure RemovesOnlyExpired {File : Type} (resolve : PathBuf → File) (naming : Naming)
    (config : MainConfig) (dates : List Int) (now : SystemTime) (folder : BackupFolder)
    (cleanup : Cleanup) : Prop where
  removed : ∀ path ∈ cleanup.removed, MayRemove resolve config naming dates path ∧
    ∃ entry, some entry ∈ folder.entries ∧
      path = entry.path (PathBuf.new config.storage.backupFolder) ∧
      entry.Expired config.storage.backupTtl now
  expired : ∀ entry, some entry ∈ folder.entries → entry.Expired config.storage.backupTtl now →
    MayRemove resolve config naming dates (entry.path (PathBuf.new config.storage.backupFolder)) →
      entry.path (PathBuf.new config.storage.backupFolder) ∈ cleanup.removed

/-! ### What the walk removes -/

section Walk

variable {folder : PathBuf} {olderThan : SystemTime} {path : PathBuf}

def DirEntry.Before (olderThan : SystemTime) (entry : DirEntry) : Prop :=
  ∃ created, entry.metadata = some ⟨true, some created⟩ ∧ created.nanos < olderThan.nanos

theorem mem_removeExpired (entries : List (Option DirEntry)) :
    path ∈ (removeExpired folder olderThan entries).removed ↔
      ∃ entry ∈ (entries.filterMap id).takeWhile fun entry => entry.metadata.isSome,
        path = entry.path folder ∧ entry.Before olderThan ∧ entry.removable = true := by
  induction entries with
  | nil => simp [removeExpired]
  | cons listed rest ih =>
      cases listed with
      | none => simpa [removeExpired] using ih
      | some entry =>
          obtain ⟨fileName, metadata, removable⟩ := entry
          cases metadata with
          | none => simp [removeExpired]
          | some metadata =>
              obtain ⟨isFile, created⟩ := metadata
              cases isFile with
              | false => simpa [removeExpired, DirEntry.Before] using ih
              | true =>
                  cases created with
                  | none => simpa [removeExpired, DirEntry.Before] using ih
                  | some created =>
                      by_cases goes : created.nanos < olderThan.nanos ∧ removable
                      · simp only [removeExpired, if_pos goes, List.mem_cons, ih]
                        simp [DirEntry.Before, goes]
                      · have stays := goes
                        simp only [not_and, Bool.not_eq_true] at stays
                        simp only [removeExpired, if_neg goes, ih]
                        simp [DirEntry.Before]
                        intro _ early gone
                        rw [stays early] at gone
                        contradiction

end Walk

theorem asU64_toNat {value : Int32} (nonnegative : 0 ≤ value.toInt) :
    ((asU64 value).toNat : Int) = value.toInt := by
  have upper := value.toInt_lt
  rw [asU64, UInt64.toNat_ofNat']
  omega

theorem mulU64_hours (profile : Profile) {ttl : Int32} (nonnegative : 0 ≤ ttl.toInt) :
    ∃ seconds, profile.mulU64 3600 (asU64 ttl) = .ok seconds ∧
      (seconds.toNat : Int) = 3600 * ttl.toInt := by
  have upper := ttl.toInt_lt
  have exact := asU64_toNat nonnegative
  have hour : (3600 : UInt64).toNat = 3600 := rfl
  have fits : (3600 : UInt64).toNat * (asU64 ttl).toNat < 2 ^ 64 := by
    rw [hour]
    omega
  refine ⟨UInt64.ofNat ((3600 : UInt64).toNat * (asU64 ttl).toNat), ?_, ?_⟩
  · simp only [Profile.mulU64, Profile.wrapU64, if_pos fits]
  · rw [UInt64.toNat_ofNat', Nat.mod_eq_of_lt fits, hour]
    omega

/-- For a non-negative number of hours nothing overflows; a cutoff before the
first representable time has no file before it. -/
theorem mem_deleteOldBackups {profile : Profile} {config : MainConfig} {now : SystemTime}
    {folder : BackupFolder} {path : PathBuf} (nonnegative : 0 ≤ config.storage.backupTtl.toInt) :
    path ∈ (deleteOldBackups profile config now folder).removed ↔
      ∃ entry ∈ folder.reached, path = entry.path (PathBuf.new config.storage.backupFolder) ∧
        entry.Expired config.storage.backupTtl now ∧ entry.removable = true := by
  obtain ⟨seconds, multiplied, exact⟩ := mulU64_hours profile nonnegative
  unfold deleteOldBackups BackupFolder.reached
  cases opens : folder.opens with
  | false => simp
  | true =>
      simp only [Bool.not_true, Bool.false_eq_true, if_false, if_true, StsGateway.olderThan,
        multiplied, ok_bind]
      cases subtracted : now.subSecs seconds with
      | error panic =>
          have before := now.representable
          simp only [SystemTime.subSecs] at subtracted
          split at subtracted
          · contradiction
          · rename_i unrepresentable
            simp only [List.not_mem_nil, false_iff, not_exists, not_and]
            intro entry _ _ expired
            obtain ⟨created, _, early⟩ := expired
            have bounds := created.representable
            omega
      | ok olderThan =>
          simp only [SystemTime.subSecs] at subtracted
          split at subtracted
          · have cut : olderThan.nanos = now.nanos - 3600 * config.storage.backupTtl.toInt * 1000000000 := by
              cases subtracted
              simp only [exact]
            simp only [mem_removeExpired, DirEntry.Before, DirEntry.Expired, cut]
          · contradiction

theorem mem_of_reached {folder : BackupFolder} {entry : DirEntry} (reached : entry ∈ folder.reached) :
    some entry ∈ folder.entries := by
  unfold BackupFolder.reached at reached
  split at reached
  · have listed := (List.takeWhile_subset _) reached
    simpa using listed
  · contradiction

theorem entry_of_path {folder : BackupFolder} {base : PathBuf} {first second : DirEntry}
    (firstListed : some first ∈ folder.entries) (secondListed : some second ∈ folder.entries)
    (same : first.path base = second.path base) : first = second := by
  have names : first.fileName = second.fileName := by
    simpa [DirEntry.path] using same
  have firstMember : first ∈ folder.entries.filterMap id := by simpa using firstListed
  have secondMember : second ∈ folder.entries.filterMap id := by simpa using secondListed
  exact List.inj_on_of_nodup_map folder.distinct firstMember secondMember names

theorem removes_only_expired_iff {File : Type} (resolve : PathBuf → File) (naming : Naming)
    (profile : Profile) (config : MainConfig) (dates : List Int) (now : SystemTime)
    (folder : BackupFolder) (nonnegative : 0 ≤ config.storage.backupTtl.toInt) :
    RemovesOnlyExpired resolve naming config dates now folder
        (deleteOldBackups profile config now folder) ↔
      (∀ entry ∈ folder.reached, entry.Expired config.storage.backupTtl now →
        entry.removable = true → MayRemove resolve config naming dates
          (entry.path (PathBuf.new config.storage.backupFolder))) ∧
      ∀ entry, some entry ∈ folder.entries → entry.Expired config.storage.backupTtl now →
        MayRemove resolve config naming dates
          (entry.path (PathBuf.new config.storage.backupFolder)) →
        entry ∈ folder.reached ∧ entry.removable = true := by
  constructor
  · intro only
    constructor
    · intro entry reached expired removable
      exact (only.removed _ ((mem_deleteOldBackups nonnegative).mpr
        ⟨entry, reached, rfl, expired, removable⟩)).1
    · intro entry listed expired may
      obtain ⟨other, reached, same, _, removable⟩ :=
        (mem_deleteOldBackups nonnegative).mp (only.expired entry listed expired may)
      rw [entry_of_path listed (mem_of_reached reached) same]
      exact ⟨reached, removable⟩
  · intro holds
    obtain ⟨own, complete⟩ := holds
    constructor
    · intro path removed
      obtain ⟨entry, reached, rfl, expired, removable⟩ := (mem_deleteOldBackups nonnegative).mp removed
      exact ⟨own entry reached expired removable, entry, mem_of_reached reached, rfl, expired⟩
    · intro entry listed expired may
      obtain ⟨reached, removable⟩ := complete entry listed expired may
      exact (mem_deleteOldBackups nonnegative).mpr ⟨entry, reached, rfl, expired, removable⟩

namespace Sample

def naming : Naming where
  lowercase := String.toLower
  dateString _ := ":2022-04-01T10:00:00+02:00.db"

def gateway (dataFolder : String) : MainConfig where
  name := "My GW"
  storage := .sqlite dataFolder (.fixedWindow 24) (.local "store" 1)
  mqtt := ⟨0⟩

def folderOf (fileName : String) : BackupFolder where
  opens := true
  entries := [some ⟨fileName, some ⟨true, some .unixEpoch⟩, true⟩]
  distinct := by simp

def twoHours : SystemTime := ⟨7200000000000, by decide⟩

end Sample

theorem removes_expired_backup :
    RemovesOnlyExpired id Sample.naming (Sample.gateway "db") [0] Sample.twoHours
      (Sample.folderOf "my_gw:2022-04-01T10:00:00+02:00.db.zst")
      (deleteOldBackups .release (Sample.gateway "db") Sample.twoHours
        (Sample.folderOf "my_gw:2022-04-01T10:00:00+02:00.db.zst")) := by
  refine (removes_only_expired_iff id Sample.naming .release (Sample.gateway "db") [0]
    Sample.twoHours _ (by decide)).mpr ⟨?_, ?_⟩
  · intro entry reached _ _
    rw [List.mem_singleton.mp reached]
    refine ⟨⟨0, List.mem_singleton_self 0, .inr (by decide +kernel)⟩, ?_⟩
    intro live
    rcases live with live | journal
    · revert live
      decide +kernel
    · revert journal
      decide +kernel
  · intro entry listed _ _
    cases List.mem_singleton.mp listed
    exact ⟨List.mem_singleton_self _, rfl⟩

/-- With one folder for both, the live database is removed once it is old enough. -/
theorem cleanup_removes_live_database :
    ¬RemovesOnlyExpired id Sample.naming (Sample.gateway "store") [0] Sample.twoHours
      (Sample.folderOf "data.db")
      (deleteOldBackups .release (Sample.gateway "store") Sample.twoHours
        (Sample.folderOf "data.db")) := by
  intro only
  have live : SqliteStorage.dataPath "store" ∈ (deleteOldBackups .release (Sample.gateway "store")
      Sample.twoHours (Sample.folderOf "data.db")).removed := by decide +kernel
  obtain ⟨⟨_, spared⟩, _⟩ := only.removed _ live
  exact spared (.inl rfl)

end StsGateway
