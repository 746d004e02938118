import StsGateway.Storage.Sqlite

namespace StsGateway

/-! The storage thread over a whole sequence of actions, with failing maintenance.

`main` joins the storage thread with `unwrap`, so an action that panics here
ends the process.
-/

/-- What the gateway's own senders put on the storage queue. -/
def SqliteStorageAction.SentByGateway : SqliteStorageAction → Prop
  | .insertBoth insert =>
      ∃ timeseries attributes, insert.timeseriesMessage = some timeseries ∧
        insert.attributesMessage = some attributes
  | .truncate (.fixedWindow olderThan) => ∃ ttl : Int32, Chrono.Duration.hours ttl.toInt = .ok olderThan
  | .backupDb _ => True
  | _ => False

/-- One action of a sequence, with the outcome of everything it does. Insertions
succeed; the operations of truncations and backups may fail in any pattern. -/
structure QueuedAction where
  action : SqliteStorageAction
  turn : Turn
  sentByGateway : action.SentByGateway
  inserts : turn.insert.succeeds = true

namespace QueuedAction

def MaintenanceFails (queued : QueuedAction) : Prop :=
  match queued.action with
  | .truncate _ => queued.turn.delete = false
  | .backupDb _ => queued.turn.backup.succeeds = false
  | _ => False

/-- No backup fails, and no cutoff leaves the calendar. -/
def Harmless (queued : QueuedAction) : Prop :=
  match queued.action with
  | .truncate (.fixedWindow olderThan) => ∃ old, queued.turn.now.sub olderThan = .ok old
  | .backupDb _ => queued.turn.backup.succeeds = true
  | _ => True

end QueuedAction

def SqliteStorage.processAll (storage : SqliteStorage) (sequence : List QueuedAction) :
    Except Panic SqliteStorage :=
  sequence.foldlM (fun storage queued => storage.process queued.turn queued.action) storage

/-- A failed maintenance action does not stop data collection. -/
structure CollectionSurvives (start : SqliteStorage) (sequence : List QueuedAction) : Prop where
  neverPanics : ∀ earlier, earlier <+: sequence → ∃ storage, start.processAll earlier = .ok storage
  leavesTable : ∀ earlier queued later, sequence = earlier ++ queued :: later →
    queued.MaintenanceFails → ∀ before, start.processAll earlier = .ok before →
      ∃ after, before.process queued.turn queued.action = .ok after ∧
        after.messages = before.messages
  asIfAbsent : ∀ earlier queued later, sequence = earlier ++ queued :: later →
    queued.MaintenanceFails →
      start.processAll (earlier ++ queued :: later) = start.processAll (earlier ++ later)

section Steps

variable {storage : SqliteStorage} {queued : QueuedAction} {sequence : List QueuedAction}

theorem process_returns_iff (storage : SqliteStorage) (queued : QueuedAction) :
    (∃ after, storage.process queued.turn queued.action = .ok after) ↔ queued.Harmless := by
  obtain ⟨action, turn, sent, inserts⟩ := queued
  cases action with
  | insertBoth insert =>
      obtain ⟨timeseries, attributes, hasTimeseries, hasAttributes⟩ := sent
      have bound := Insert.row_of_some hasTimeseries hasAttributes
      exact ⟨fun _ => trivial, fun _ => ⟨_, SqliteStorage.process_insertBoth bound inserts⟩⟩
  | backupDb path =>
      simp only [SqliteStorage.process_backupDb, QueuedAction.Harmless]
      exact ⟨fun ⟨_, succeeds, _⟩ => succeeds, fun succeeds => ⟨_, succeeds, rfl⟩⟩
  | truncate mode =>
      obtain ⟨olderThan⟩ := mode
      simp only [SqliteStorage.process_truncate, QueuedAction.Harmless]
      exact ⟨fun ⟨_, old, cutoff, _⟩ => ⟨old, cutoff⟩, fun ⟨old, cutoff⟩ => ⟨_, old, cutoff, rfl⟩⟩
  | insertAttributes insert => exact sent.elim
  | insertTimeseries insert => exact sent.elim
  | closeDb => exact sent.elim
  | timeout => exact sent.elim

/-- The only maintenance that can fail without a panic is a `DELETE`, and it
leaves everything as it was. -/
theorem process_failed (harmless : queued.Harmless) (fails : queued.MaintenanceFails) :
    storage.process queued.turn queued.action = .ok storage := by
  obtain ⟨action, turn, sent, inserts⟩ := queued
  cases action with
  | truncate mode =>
      obtain ⟨olderThan⟩ := mode
      obtain ⟨old, cutoff⟩ := harmless
      have kept : turn.delete = false := fails
      refine SqliteStorage.process_truncate.mpr ⟨old, cutoff, ?_⟩
      simp [kept]
  | backupDb path =>
      have succeeds : turn.backup.succeeds = true := harmless
      have failed : turn.backup.succeeds = false := fails
      rw [succeeds] at failed
      contradiction
  | insertBoth insert => exact fails.elim
  | insertAttributes insert => exact fails.elim
  | insertTimeseries insert => exact fails.elim
  | closeDb => exact fails.elim
  | timeout => exact fails.elim

theorem processAll_append {earlier later : List QueuedAction} :
    storage.processAll (earlier ++ later) =
      storage.processAll earlier >>= fun between => between.processAll later :=
  List.foldlM_append

theorem processAll_cons :
    storage.processAll (queued :: sequence) =
      storage.process queued.turn queued.action >>= fun next => next.processAll sequence :=
  List.foldlM_cons

/-- A sequence runs through exactly when each of its actions is harmless: the
actions before one never decide whether it panics. -/
theorem processAll_returns_iff (storage : SqliteStorage) (sequence : List QueuedAction) :
    (∃ after, storage.processAll sequence = .ok after) ↔ ∀ queued ∈ sequence, queued.Harmless := by
  induction sequence generalizing storage with
  | nil => exact ⟨by simp, fun _ => ⟨storage, rfl⟩⟩
  | cons queued rest ih =>
      rw [processAll_cons, List.forall_mem_cons, ← process_returns_iff storage]
      cases storage.process queued.turn queued.action with
      | error panic => simp
      | ok next => simpa using ih next

end Steps

theorem collection_survives_iff (start : SqliteStorage) (sequence : List QueuedAction) :
    CollectionSurvives start sequence ↔ ∀ queued ∈ sequence, queued.Harmless := by
  constructor
  · intro survives
    exact (processAll_returns_iff start sequence).mp (survives.neverPanics sequence List.prefix_rfl)
  · intro harmless
    refine ⟨?_, ?_, ?_⟩
    · intro earlier isPrefix
      exact (processAll_returns_iff start earlier).mpr fun queued member => harmless queued (isPrefix.subset member)
    · intro earlier queued later split fails before _
      have member : queued ∈ sequence := by simp [split]
      exact ⟨before, process_failed (harmless queued member) fails, rfl⟩
    · intro earlier queued later split fails
      have member : queued ∈ sequence := by simp [split]
      rw [processAll_append, processAll_append]
      congr 1
      funext between
      rw [processAll_cons, process_failed (harmless queued member) fails, ok_bind]

/-- The disk is full when the compressed backup is written: the storage thread
panics and the message queued behind the backup is never stored. -/
theorem collection_dies_with_a_full_disk :
    ¬CollectionSurvives ⟨[], []⟩
      [⟨.backupDb (PathBuf.new "backup/gw.db"),
          ⟨⟨0, by decide⟩, ⟨true, true, true, true⟩, true, ⟨true, true, true, true, true, false, true⟩⟩,
          trivial, rfl⟩,
        ⟨.insertBoth ⟨1, "meter", some "{}", some "{}"⟩,
          ⟨⟨0, by decide⟩, ⟨true, true, true, true⟩, true, ⟨true, true, true, true, true, true, true⟩⟩,
          ⟨_, _, rfl, rfl⟩, rfl⟩] := by
  intro survives
  obtain ⟨storage, ran⟩ := survives.neverPanics _ List.prefix_rfl
  rw [processAll_cons, SqliteStorage.process, backupDb] at ran
  cases ran

end StsGateway
