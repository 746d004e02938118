import StsGateway.Gateway.Refinement

namespace StsGateway

open Data

namespace GatewayThreads

/-! The shape of the message table holds of the threads' single calls, and of what they did
rather than of a run of the machine that matches it.
-/

/-- The row an insertion binds. -/
def row? : SqliteStorageAction → Option Row
  | .insertBoth insert => insert.row.toOption
  | _ => none

def Performed.backup? (entry : Performed) : Option Backup :=
  match entry.action with
  | .backupDb path => some ⟨path.withExtension "db.zst", entry.before⟩
  | _ => none

/-- The table that the actions performed so far have left. -/
def tableAfter (performed : List Performed) : List Row :=
  (performed.getLast?.map Performed.after).getD []

/-- The table on disk, the rows inserted and the backups, against the actions that the
storage thread has taken and what each of them found and left. -/
structure Host.TableShape (config : MainConfig) (host : Host) : Prop where
  received : host.connection.performed.map Performed.action = host.actions.received
  inserted : host.connection.inserted = host.actions.received.filterMap row?
  sorted : host.connection.storage.messages.Pairwise fun first second => first.ts ≤ second.ts
  isSuffix : host.connection.storage.messages <:+ host.connection.inserted
  chained : EachStep (fun earlier entry => entry.before = tableAfter earlier) host.connection.performed
  last : host.connection.storage.messages = tableAfter host.connection.performed
  histories : ∀ entry ∈ host.connection.performed, entry.inserted <+: host.connection.inserted
  afterTruncate : ∀ entry ∈ host.connection.performed, entry.action.isTruncate = true →
    ∃ now, entry.reading = some now ∧ entry.after = entry.inserted.filter fun row =>
      cutoff config.storage.messagesTtl now ≤ row.ts
  snapshots : host.connection.storage.backups = host.connection.performed.filterMap Performed.backup?
  snapshotShape : ∀ entry ∈ host.connection.performed, ∀ path, entry.action = .backupDb path →
    entry.before <:+ entry.inserted

section Shape

variable {config : MainConfig} {gateway : Gateway}

theorem row?_action (queued : Queued) : queued.row? = row? queued.action := by
  obtain ⟨sender, action⟩ := queued
  cases action <;> rfl

theorem backup?_ofProcessed (entry : Processed) :
    (Performed.ofProcessed entry).backup? = Gateway.Processed.backup? entry := by
  obtain ⟨⟨sender, action⟩, turn, before, after, inserted⟩ := entry
  cases action <;> rfl

theorem tableAfter_replayed {processed : List Processed} {storage : SqliteStorage}
    (steps : EachStep (fun earlier entry => ∃ before after, Gateway.replay earlier = .ok before ∧
      before.process entry.turn entry.queued.action = .ok after ∧
      entry.before = before.messages ∧ entry.after = after.messages) processed)
    (replayed : Gateway.replay processed = .ok storage) :
    tableAfter (processed.map Performed.ofProcessed) = storage.messages := by
  rcases List.eq_nil_or_concat' processed with rfl | ⟨front, final, rfl⟩
  · cases replayed
    rfl
  · obtain ⟨before, after, earlier, executed, _, left⟩ := steps front final [] rfl
    rw [Gateway.replay_concat, earlier, ok_bind, executed] at replayed
    cases replayed
    simp [tableAfter, Performed.ofProcessed, left]

variable {host : Host} {aggregator : AggregatorPoint} {transport : TransportPhase}
  {phase : SchedulerPhase} {deletes : Bool}

/-- Between two actions both levels have received the same. -/
theorem Related.received (related : Related deletes host aggregator transport .idle phase gateway) :
    host.actions.received = gateway.storageQueue.received.map Queued.action := by
  obtain ⟨sent, waiting⟩ := related.actions rfl
  exact (received_inHand Queued.action sent waiting).trans (List.append_nil _)

theorem Related.stored (related : Related deletes host aggregator transport .idle phase gateway) :
    host.connection.storage = gateway.storage := related.database.symm

theorem Related.settled (related : Related deletes host aggregator transport .idle phase gateway) :
    host.connection.performed = gateway.processed.map Performed.ofProcessed := related.processed.symm

theorem Related.tableShape (related : Related deletes host aggregator transport .idle phase gateway)
    (ordered : Gateway.Ordered config gateway) : host.TableShape config where
  received := by
    rw [related.received, ← ordered.recorded.receivedAll related.alive, List.map_map]
    rw [related.settled, List.map_map]
    rfl
  inserted := by
    rw [← related.inserted, ordered.inserted, related.received, List.filterMap_map]
    exact List.filterMap_congr fun queued _ => row?_action queued
  sorted := by
    rw [related.stored]
    exact ordered.shape.sorted
  isSuffix := by
    rw [← related.inserted, related.stored]
    exact ordered.shape.isSuffix
  chained := by
    rw [related.settled]
    intro earlier entry later split
    obtain ⟨front, rest, whole, rfl, remaining⟩ := List.map_eq_append_iff.mp split
    obtain ⟨present, back, rfl, rfl, _⟩ := List.map_eq_cons_iff.mp remaining
    obtain ⟨before, _, replayed, _, found, _⟩ := ordered.recorded.steps front present back whole
    refine found.trans (tableAfter_replayed (fun first item second same => ?_) replayed).symm
    refine ordered.recorded.steps first item (second ++ present :: back) ?_
    rw [whole, same]
    simp
  last := by
    rw [related.settled, tableAfter_replayed ordered.recorded.steps ordered.recorded.replayed,
      related.stored]
  histories := by
    rw [related.settled, ← related.inserted]
    intro entry member
    obtain ⟨own, known, rfl⟩ := List.mem_map.mp member
    exact ordered.histories own known
  afterTruncate := by
    rw [related.settled]
    intro entry member isTruncate
    obtain ⟨own, known, rfl⟩ := List.mem_map.mp member
    refine ⟨own.turn.now, ?_, ordered.shape.afterTruncate own known isTruncate⟩
    obtain ⟨mode, truncates⟩ := isTruncate_iff.mp isTruncate
    have action : own.queued.action = .truncate mode := truncates
    simp only [Performed.ofProcessed, action]
    rfl
  snapshots := by
    rw [related.settled, List.filterMap_map, related.stored, ordered.shape.snapshots]
    exact List.filterMap_congr fun own _ => (backup?_ofProcessed own).symm
  snapshotShape := by
    rw [related.settled]
    intro entry member path backup
    obtain ⟨own, known, rfl⟩ := List.mem_map.mp member
    obtain ⟨earlier, later, split⟩ := List.append_of_mem known
    obtain ⟨dropped, copied, _⟩ := (ordered.entries earlier own later split).copied path backup
    simp only [Performed.ofProcessed, copied]
    exact List.drop_suffix _ _

end Shape

section Runs

variable {mayFail : Bool} {sqlite : SqliteFiles} {json : SerdeJson} {scheduler : BackupScheduler}
  {attempts : Nat} {files : HashMap PathBuf SystemTime} {moves : List (Worker × Answer)}
  {crew : Crew HostCall HostCall.Reply Panic Host Worker}

/-- Between two actions. -/
theorem resting_idle {program : HostProgram Unit} {phase : StoragePhase}
    (resting : program = .done () ∨ program = StorageThread.process)
    (follows : program.Follows (protocol json scheduler .storage)
      (fun _ after => after = home .storage) phase) : phase = .idle := by
  rcases resting with rfl | rfl
  · exact follows
  · obtain ⟨after, led, _⟩ := follows SqliteStorageAction.closeDb
    have received : StorageStep phase .recv .closeDb after := led
    cases received
    rfl

/-- On a clock that does not step back, and if no call of the storage thread fails, the
table has its shape whenever the storage thread is between two actions, wherever the
other threads are. -/
theorem threads_keep_table_shape
    (executed : (threads mayFail sqlite json scheduler attempts files).run moves = some crew)
    (forward : (threads mayFail sqlite json scheduler attempts files).StepsMeet
      (Crew.Meets (Host.Forward mayFail sqlite))
      (threads mayFail sqlite json scheduler attempts files).start moves)
    (resting : crew.standing .storage = .done () ∨ crew.standing .storage = StorageThread.process) :
    crew.state.TableShape scheduler.config := by
  have meets : (threads mayFail sqlite json scheduler attempts files).StepsMeet
      (Crew.Meets fun host worker answer op => True → host.Forward mayFail sqlite worker answer op)
      (threads mayFail sqlite json scheduler attempts files).start moves := by
    simpa only [true_imp_iff] using forward
  obtain ⟨phases, follows, refines⟩ := run_refines True executed meets
  obtain ⟨gateway, reached, related⟩ := refines.reached true fun _ => rfl
  have ordered : Gateway.Ordered scheduler.config gateway := reached.invariant
    (fun holds meets stepped => Gateway.step_ordered holds (meets trivial) stepped) Gateway.start_ordered
  have idle : phases .storage = StoragePhase.idle := resting_idle resting (follows .storage)
  rw [idle] at related
  exact related.tableShape ordered

end Runs

def Sample.truncated (stamped now : UtcDateTime) : List (Worker × Answer) :=
  Sample.underway stamped now ++ [(.storage, Sample.answer now 1)]

open Gateway.Sample (reading)

theorem truncation_done_keeps_table_shape :
    ∃ crew, Sample.machine.run (Sample.truncated (reading 100 0) (reading 102 0)) = some crew ∧
      crew.state.connection.storage.messages = [] ∧ crew.state.connection.inserted.length = 1 ∧
      crew.state.TableShape Gateway.Sample.config := by
  have ran : (Sample.machine.run (Sample.truncated (reading 100 0) (reading 102 0))).map
      (fun crew => (crew.state.connection.storage.messages, crew.state.connection.inserted.length,
        (crew.standing .storage).progress)) = some ([], 1, .returned ()) := by decide +kernel
  obtain ⟨crew, executed, ended⟩ := Option.map_eq_some_iff.mp ran
  simp only [Prod.mk.injEq] at ended
  obtain ⟨emptied, counted, returned⟩ := ended
  have forward : Sample.machine.StepsMeet (Crew.Meets (Host.Forward true BackupRace.Sample.sqlite))
      Sample.machine.start (Sample.truncated (reading 100 0) (reading 102 0)) := by decide +kernel
  have resting := Program.progress_returned returned
  exact ⟨crew, executed, emptied, counted, threads_keep_table_shape executed forward (.inl resting)⟩

end GatewayThreads

end StsGateway
