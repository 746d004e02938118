import StsGateway.Gateway
import StsGateway.Backup.Cleanup

namespace StsGateway

open Chrono

/-! The arithmetic on the two configured lifetimes.

Messages are kept for a signed number of hours; the backup job casts its number
of hours to `u64` first.
-/

/-- The first second of the year 10000. -/
def year10000 : Int := 253402300800

/-- One run of the backup job: the clock readings of the scheduler thread and of
the storage thread that processes its truncation, between 1970 and 9999, and the
folder the walk finds. -/
structure JobRun where
  system : SystemTime
  utc : UtcDateTime
  folder : BackupFolder
  systemCommon : 0 ≤ system.nanos ∧ system.nanos < year10000 * 1000000000
  utcCommon : 0 ≤ utc.nanos ∧ utc.nanos < year10000 * 1000000000

/-- The backup job, apart from its sends. -/
def backupJob (profile : Profile) (config : MainConfig) (run : JobRun) : Except Panic Cleanup := do
  let _ ← Gateway.truncateAction config.storage.messagesTtl
  let cleanup := deleteOldBackups profile config run.system run.folder
  match cleanup.panicked with
  | none => .ok cleanup
  | some panic => .error panic

/-- The scheduler thread: a panic in one job run is its last. -/
def scheduler (profile : Profile) (config : MainConfig) (runs : List JobRun) :
    Except Panic (List Cleanup) :=
  runs.mapM (backupJob profile config)

def BackupFolder.Readable (folder : BackupFolder) : Prop :=
  ∀ entry, some entry ∈ folder.entries → entry.metadata.isSome = true

/-- Each cutoff comes out, and is the clock reading less the configured hours. -/
structure CutoffsExact (profile : Profile) (storage : Storage) (run : JobRun) : Prop where
  seconds : ∃ seconds, profile.mulU64 3600 (asU64 storage.backupTtl) = .ok seconds ∧
    (seconds.toNat : Int) = 3600 * storage.backupTtl.toInt
  backups : ∃ cutoff, olderThan profile storage.backupTtl run.system = .ok cutoff ∧
    cutoff.nanos = run.system.nanos - storage.backupTtl.toInt * nanosPerHour
  window : Duration.hours storage.messagesTtl.toInt =
    .ok ⟨storage.messagesTtl.toInt * nanosPerHour⟩
  messages : ∃ old, run.utc.sub ⟨storage.messagesTtl.toInt * nanosPerHour⟩ = .ok old ∧
    old.nanos = run.utc.nanos - storage.messagesTtl.toInt * nanosPerHour

structure TtlSafe (profile : Profile) (config : MainConfig) (runs : List JobRun) : Prop where
  exact : ∀ run ∈ runs, CutoffsExact profile config.storage run
  survives : (∀ run ∈ runs, run.folder.Readable) →
    ∃ cleanups, scheduler profile config runs = .ok cleanups

section Ttl

variable {profile : Profile} {config : MainConfig} {run : JobRun} {ttl : Int32}

theorem olderThan_nonnegative (profile : Profile) (run : JobRun) (nonnegative : 0 ≤ ttl.toInt) :
    ∃ cutoff, olderThan profile ttl run.system = .ok cutoff ∧
      cutoff.nanos = run.system.nanos - ttl.toInt * nanosPerHour := by
  obtain ⟨seconds, multiplied, exact⟩ := mulU64_hours profile nonnegative
  have common := run.systemCommon
  have upper := ttl.toInt_lt
  have representable : -(2 ^ 63) * 1000000000 ≤ run.system.nanos - seconds.toNat * 1000000000 ∧
      run.system.nanos - seconds.toNat * 1000000000 < 2 ^ 63 * 1000000000 := by
    unfold year10000 at common
    omega
  refine ⟨⟨_, representable⟩, ?_, ?_⟩
  · rw [olderThan, multiplied, ok_bind, SystemTime.subSecs, dif_pos representable]
  · change run.system.nanos - seconds.toNat * 1000000000 = _
    unfold nanosPerHour
    omega

/-- The cast makes a negative number of hours a huge one: the multiplication
overflows in one build, and the subtraction in the other. -/
theorem olderThan_negative (profile : Profile) (run : JobRun) (negative : ttl.toInt < 0) :
    ∃ panic, olderThan profile ttl run.system = .error panic := by
  have lower := ttl.le_toInt
  have hour : (3600 : UInt64).toNat = 3600 := rfl
  have cast : ((asU64 ttl).toNat : Int) = 2 ^ 64 + ttl.toInt := by
    rw [asU64, UInt64.toNat_ofNat']
    omega
  have overflows : ¬(3600 : UInt64).toNat * (asU64 ttl).toNat < 2 ^ 64 := by
    rw [hour]
    omega
  cases profile with
  | dev => exact ⟨_, by simp only [olderThan, Profile.mulU64, Profile.wrapU64, if_neg overflows]; rfl⟩
  | release =>
      have wrapped : ((UInt64.ofNat ((3600 : UInt64).toNat * (asU64 ttl).toNat)).toNat : Int) =
          2 ^ 64 + 3600 * ttl.toInt := by
        rw [UInt64.toNat_ofNat', hour]
        omega
      have common := run.systemCommon
      have unrepresentable : ¬(-(2 ^ 63) * 1000000000 ≤ run.system.nanos -
          (UInt64.ofNat ((3600 : UInt64).toNat * (asU64 ttl).toNat)).toNat * 1000000000 ∧
        run.system.nanos -
          (UInt64.ofNat ((3600 : UInt64).toNat * (asU64 ttl).toNat)).toNat * 1000000000 <
            2 ^ 63 * 1000000000) := by
        rw [wrapped]
        unfold year10000 at common
        omega
      refine ⟨⟨"overflow when subtracting duration from instant"⟩, ?_⟩
      simp only [olderThan, Profile.mulU64, Profile.wrapU64, if_neg overflows, ok_bind,
        SystemTime.subSecs, dif_neg unrepresentable]

/-- The lifetimes `i32` admits never leave the calendar in these years. -/
theorem sub_hours (run : JobRun) (ttl : Int32) :
    ∃ old, run.utc.sub ⟨ttl.toInt * nanosPerHour⟩ = .ok old ∧
      old.nanos = run.utc.nanos - ttl.toInt * nanosPerHour := by
  have common := run.utcCommon
  have lower := ttl.le_toInt
  have upper := ttl.toInt_lt
  have representable : minNanos ≤ run.utc.nanos - ttl.toInt * nanosPerHour ∧
      run.utc.nanos - ttl.toInt * nanosPerHour ≤ maxNanos := by
    unfold year10000 at common
    unfold minNanos maxNanos nanosPerHour
    omega
  exact ⟨⟨_, representable⟩, by rw [UtcDateTime.sub, dif_pos representable], rfl⟩

theorem removeExpired_returns {folder : PathBuf} {olderThan : SystemTime}
    {entries : List (Option DirEntry)}
    (readable : ∀ entry, some entry ∈ entries → entry.metadata.isSome = true) :
    (removeExpired folder olderThan entries).panicked = none := by
  induction entries with
  | nil => rfl
  | cons listed rest ih =>
      have remaining := ih fun entry member => readable entry (List.mem_cons_of_mem _ member)
      cases listed with
      | none => exact remaining
      | some entry =>
          have known := readable entry List.mem_cons_self
          rw [removeExpired]
          split
          · rename_i unknown
            rw [unknown] at known
            contradiction
          · dsimp only
            split <;> exact remaining
          · exact remaining

theorem backupJob_returns (nonnegative : 0 ≤ config.storage.backupTtl.toInt)
    (readable : run.folder.Readable) : ∃ cleanup, backupJob profile config run = .ok cleanup := by
  obtain ⟨cutoff, computed, _⟩ := olderThan_nonnegative profile run nonnegative
  have calm : (deleteOldBackups profile config run.system run.folder).panicked = none := by
    rw [deleteOldBackups]
    split
    · rfl
    · rw [computed]
      exact removeExpired_returns readable
  refine ⟨deleteOldBackups profile config run.system run.folder, ?_⟩
  simp only [backupJob, Gateway.truncateAction_configured, ok_bind, calm]

theorem backupJob_dies (profile : Profile) (negative : config.storage.backupTtl.toInt < 0)
    (opens : run.folder.opens = true) : ∃ panic, backupJob profile config run = .error panic := by
  obtain ⟨panic, failed⟩ := olderThan_negative profile run negative
  refine ⟨panic, ?_⟩
  simp [backupJob, Gateway.truncateAction_configured, deleteOldBackups, opens, failed]

theorem scheduler_returns {runs : List JobRun}
    (returns : ∀ run ∈ runs, ∃ cleanup, backupJob profile config run = .ok cleanup) :
    ∃ cleanups, scheduler profile config runs = .ok cleanups := by
  induction runs with
  | nil => exact ⟨[], rfl⟩
  | cons run rest ih =>
      obtain ⟨cleanup, first⟩ := returns run List.mem_cons_self
      obtain ⟨cleanups, remaining⟩ := ih fun other member => returns other (List.mem_cons_of_mem _ member)
      rw [scheduler] at remaining
      exact ⟨cleanup :: cleanups, by rw [scheduler, List.mapM_cons, first, ok_bind, remaining]; rfl⟩

theorem ttl_arithmetic_safe_iff (profile : Profile) (config : MainConfig) (runs : List JobRun) :
    TtlSafe profile config runs ↔ 0 ≤ config.storage.backupTtl.toInt ∨ runs = [] := by
  constructor
  · intro safe
    cases runs with
    | nil => exact .inr rfl
    | cons run rest =>
        obtain ⟨seconds, _, exact⟩ := (safe.exact run List.mem_cons_self).seconds
        exact .inl (by omega)
  · intro condition
    rcases condition with nonnegative | rfl
    · constructor
      · intro run _
        exact {
          seconds := mulU64_hours profile nonnegative
          backups := olderThan_nonnegative profile run nonnegative
          window := Duration.hours_of_i32 config.storage.messagesTtl
          messages := sub_hours run config.storage.messagesTtl }
      · intro readable
        exact scheduler_returns fun run member => backupJob_returns nonnegative (readable run member)
    · exact ⟨fun run member => absurd member List.not_mem_nil, fun _ => ⟨[], rfl⟩⟩

end Ttl

namespace Sample

def negativeTtl : MainConfig where
  name := "My GW"
  storage := .sqlite "db" (.fixedWindow 24) (.local "store" (-1))
  mqtt := ⟨0⟩

def jobRun : JobRun where
  system := twoHours
  utc := ⟨7200000000000, by decide⟩
  folder := folderOf "my_gw:2022-04-01T10:00:00+02:00.db.zst"
  systemCommon := by decide
  utcCommon := by decide

end Sample

/-- `backup_ttl: -1` is a legal configuration; the first run of the job ends the
thread that also drives truncation. -/
theorem negative_ttl_ends_scheduler :
    (∃ panic, scheduler .release Sample.negativeTtl [Sample.jobRun] = .error panic) ∧
      ¬TtlSafe .release Sample.negativeTtl [Sample.jobRun] := by
  have negative : Sample.negativeTtl.storage.backupTtl.toInt < 0 := by decide
  have opens : Sample.jobRun.folder.opens = true := rfl
  obtain ⟨panic, failed⟩ := backupJob_dies .release negative opens
  refine ⟨⟨panic, by rw [scheduler, List.mapM_cons, failed]; rfl⟩, ?_⟩
  intro safe
  obtain ⟨cutoff, computed, _⟩ := (safe.exact _ List.mem_cons_self).backups
  obtain ⟨other, overflowed⟩ := olderThan_negative .release Sample.jobRun negative
  rw [overflowed] at computed
  contradiction

end StsGateway
