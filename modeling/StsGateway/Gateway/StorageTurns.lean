import StsGateway.Gateway.Related

namespace StsGateway

open Data

namespace GatewayThreads

/-! The calls of the storage thread against the turns of the machine: an action stays in
the machine's queue until the call that settles what becomes of it.
-/

section Steps

variable {mayFail : Bool} {sqlite : SqliteFiles} {strict : Prop} {json : SerdeJson}
  {config : MainConfig} {host after : Host} {answer : Answer}
  {op : HostCall} {reply : op.Reply} {deletes : Bool} {gateway : Gateway}
  {aggregator nextAggregator : AggregatorPoint} {transport nextTransport : TransportPhase}
  {storage nextStorage : StoragePhase} {scheduler nextScheduler : SchedulerPhase}

def Turn.Succeeds (turn : Turn) : Prop :=
  turn.insert.succeeds = true ∧ turn.delete = true ∧ turn.backup.succeeds = true

/-- The thread concludes an action whose turn the machine takes now. -/
structure Concludes (strict : Prop) (host after : Host) (storage : StoragePhase)
    (action : SqliteStorageAction) (turn : Turn) : Prop where
  waiting : storage.inHand ++ host.actions.waiting = action :: after.actions.waiting
  sent : after.actions.sent = host.actions.sent
  alive : storage.isPanicked = false
  database : ∀ deletes, storage.database deletes host.connection.storage = host.connection.storage
  performed : ∀ deletes, storage.performed deletes host.connection = after.connection.log
  frame : after = { host with
    actions := after.actions
    readings := after.readings
    connection := after.connection
    folder := after.folder }
  readings : after.readings = host.readings ++ Gateway.readingsOf action turn
  forward : strict → Turn.Succeeds turn ∧
    ∀ now ∈ Gateway.readingsOf action turn, ∀ reading ∈ host.readings, reading.nanos ≤ now.nanos

/-- A turn on which everything succeeds. -/
def Answer.turn (answer : Answer) : Turn :=
  ⟨answer.utc, ⟨true, true, true, true⟩, true, ⟨true, true, true, true, true, true, true⟩⟩

theorem Concludes.unread {action : SqliteStorageAction} {turn : Turn}
    (waiting : storage.inHand ++ host.actions.waiting = action :: after.actions.waiting)
    (sent : after.actions.sent = host.actions.sent) (alive : storage.isPanicked = false)
    (database : ∀ deletes, storage.database deletes host.connection.storage = host.connection.storage)
    (performed : ∀ deletes, storage.performed deletes host.connection = after.connection.log)
    (frame : after = { host with
      actions := after.actions
      connection := after.connection
      folder := after.folder })
    (silent : Gateway.readingsOf action turn = []) (succeeds : strict → Turn.Succeeds turn) :
    Concludes strict host after storage action turn where
  waiting := waiting
  sent := sent
  alive := alive
  database := database
  performed := performed
  frame := by
    rw [frame]
  readings := by
    rw [frame, silent, List.append_nil]
  forward := fun holds => ⟨succeeds holds, fun now read => by rw [silent] at read; exact absurd read List.not_mem_nil⟩

/-- A truncation, performed when the thread reads the clock. -/
theorem Concludes.truncation {olderThan : Chrono.Duration} {turn : Turn}
    (truncating : storage = .truncating olderThan) (now : turn.now = answer.utc)
    (frame : after = { host with
      readings := host.readings ++ [answer.utc]
      connection := host.connection.reads answer.utc })
    (forward : strict → Turn.Succeeds turn ∧ ∀ reading ∈ host.readings, reading.nanos ≤ answer.utc.nanos) :
    Concludes strict host after storage (.truncate (.fixedWindow olderThan)) turn where
  waiting := by
    rw [truncating, frame]
    rfl
  sent := by
    rw [frame]
  alive := by
    rw [truncating]
    rfl
  database := by
    rw [truncating]
    exact fun _ => rfl
  performed := by
    rw [truncating, frame]
    exact fun _ => rfl
  frame := by
    rw [frame]
  readings := by
    rw [frame, ← now]
    rfl
  forward := by
    intro holds
    obtain ⟨succeeds, earlier⟩ := forward holds
    refine ⟨succeeds, fun read known reading before => ?_⟩
    rw [List.mem_singleton.mp known, now]
    exact earlier reading before

theorem Related.taken {action : SqliteStorageAction} {turn : Turn}
    (related : Related deletes host aggregator transport storage scheduler gateway)
    (concludes : Concludes strict host after storage action turn) :
    gateway.storagePanicked = false ∧ gateway.storage = host.connection.storage ∧
      ∃ queued queue, gateway.storageQueue.recv? = some (queued, queue) ∧ queued.action = action ∧
        queue.sent.map Queued.action = after.actions.sent ∧
        queue.waiting.map Queued.action = after.actions.waiting := by
  obtain ⟨sent, waiting⟩ := related.actions concludes.alive
  rw [concludes.waiting] at waiting
  obtain ⟨queued, rest, split, same, remaining⟩ := List.map_eq_cons_iff.mp waiting
  have taken := Mpsc.recv?_cons split
  refine ⟨related.alive.trans concludes.alive, by rw [related.database, concludes.database], queued, _,
    taken, same, ?_, remaining⟩
  rw [(Mpsc.recv?_some taken).2, sent, concludes.sent]

theorem Related.clockForward {action : SqliteStorageAction} {turn : Turn}
    (related : Related deletes host aggregator transport storage scheduler gateway)
    (concludes : Concludes strict host after storage action turn) (holds : strict) :
    gateway.ClockForward (.storageTurn turn) := by
  obtain ⟨succeeds, forward⟩ := concludes.forward holds
  obtain ⟨_, _, queued, queue, taken, same, _⟩ := related.taken concludes
  refine ⟨succeeds, fun head found now read reading known => ?_⟩
  rw [Mpsc.recv?_waiting taken] at found
  cases found
  rw [same] at read
  rw [related.readings] at known
  exact forward now read reading known

/-- What the machine and the storage thread record of an action it has performed. -/
structure Records (host after : Host) (storage : StoragePhase) (action : SqliteStorageAction)
    (turn : Turn) (deletes : Bool) : Prop where
  executed : host.connection.storage.process turn action =
    .ok (storage.database deletes after.connection.storage)
  inserted : after.connection.inserted = host.connection.inserted ++
    Gateway.rowsAppended action host.connection.storage.messages
      (storage.database deletes after.connection.storage).messages
  performed : storage.performed deletes after.connection = after.connection.log ++
    [⟨action, (Gateway.readingsOf action turn).head?, host.connection.storage.messages,
      (storage.database deletes after.connection.storage).messages, after.connection.inserted⟩]

/-- An action that did not read the clock, at its end. -/
theorem Records.unread {action : SqliteStorageAction} {turn : Turn}
    (executed : host.connection.storage.process turn action = .ok after.connection.storage)
    (inserted : after.connection.inserted = host.connection.inserted ++
      Gateway.rowsAppended action host.connection.storage.messages after.connection.storage.messages)
    (current : after.connection.current = some ⟨action, none, host.connection.storage.messages⟩)
    (silent : Gateway.readingsOf action turn = []) (deletes : Bool) :
    Records host after .idle action turn deletes where
  executed := executed
  inserted := inserted
  performed := by
    rw [StoragePhase.performed, Connection.performed_current current, silent]
    rfl

theorem Refines.performed
    (refines : Refines strict json config host aggregator transport storage scheduler)
    (action : SqliteStorageAction) (turn : Bool → Turn)
    (pending : nextStorage.Pending strict after.connection)
    (concludes : ∀ deletes, (strict → deletes = true) →
      Concludes strict host after storage action (turn deletes))
    (records : ∀ deletes, Records host after nextStorage action (turn deletes) deletes)
    (emptied : nextStorage.inHand = []) (lives : nextStorage.isPanicked = false) :
    Refines strict json config after aggregator transport nextStorage scheduler := by
  refine refines.matched pending fun deletes gateway outcome related => ?_
  have concludes := concludes deletes outcome
  have records := records deletes
  obtain ⟨alive, found, queued, queue, taken, same, sent, remaining⟩ := related.taken concludes
  have processed : gateway.storage.process (turn deletes) queued.action =
      .ok (nextStorage.database deletes after.connection.storage) := by
    rw [found, same, records.executed]
  refine ⟨.storageTurn (turn deletes), _, Gateway.storageTurn_of_ok alive taken processed,
    related.clockForward concludes, ?_⟩
  have inserted : gateway.inserted ++ Gateway.rowsAppended queued.action gateway.storage.messages
      (nextStorage.database deletes after.connection.storage).messages = after.connection.inserted := by
    rw [records.inserted, related.inserted, found, same]
  rw [concludes.frame]
  exact { related with
    alive := alive.trans lives.symm
    actions := fun _ => ⟨sent, by rw [emptied]; exact remaining⟩
    database := rfl
    inserted := inserted
    processed := by
      rw [records.performed, List.map_append, related.processed, concludes.performed]
      simp only [List.map_cons, List.map_nil, Performed.ofProcessed, inserted]
      rw [same, found]
    readings := by rw [same, related.readings, concludes.readings] }

theorem Refines.fails {action : SqliteStorageAction} {panic : Panic} {overBackup : Bool}
    (refines : Refines strict json config host aggregator transport storage scheduler) (turn : Turn)
    (concludes : Concludes strict host after storage action turn)
    (unchanged : after.connection.storage = host.connection.storage)
    (uninserted : after.connection.inserted = host.connection.inserted)
    (failed : host.connection.storage.process turn action = .error panic) :
    Refines strict json config after aggregator transport (.panicked overBackup) scheduler := by
  refine refines.matched ⟨nofun, trivial⟩ fun deletes gateway outcome related => ?_
  obtain ⟨alive, found, queued, queue, taken, same, _⟩ := related.taken concludes
  have processed : gateway.storage.process turn queued.action = .error panic := by
    rw [found, same, failed]
  refine ⟨.storageTurn turn, _, Gateway.storageTurn_of_panic alive taken processed,
    related.clockForward concludes, ?_⟩
  rw [concludes.frame]
  exact { related with
    alive := rfl
    actions := nofun
    database := found.trans unchanged.symm
    inserted := related.inserted.trans uninserted.symm
    processed := related.processed.trans (concludes.performed deletes)
    readings := by rw [same, related.readings, concludes.readings] }

theorem process_failed_backup {database : SqliteStorage} {turn : Turn} {path : PathBuf}
    (fails : turn.backup.succeeds = false) :
    ∃ panic, database.process turn (.backupDb path) = .error panic := by
  cases outcome : database.process turn (.backupDb path) with
  | error panic => exact ⟨panic, rfl⟩
  | ok storage =>
      obtain ⟨succeeds, _⟩ := SqliteStorage.process_backupDb.mp outcome
      rw [fails] at succeeds
      contradiction

/-- Whichever call of a backup fails, the thread is gone. -/
theorem Refines.backup_fails {path : PathBuf} {folder : Folder}
    (refines : Refines strict json config host aggregator transport storage scheduler)
    (inHand : storage.inHand = [.backupDb path]) (alive : storage.isPanicked = false)
    (database : ∀ deletes, storage.database deletes host.connection.storage = host.connection.storage)
    (performed : ∀ deletes, storage.performed deletes host.connection = host.connection.log)
    (unlucky : ¬strict) :
    Refines strict json config { host with folder } aggregator transport (.panicked true)
      scheduler := by
  let turn : Turn :=
    ⟨⟨0, unixEpoch_representable⟩, ⟨true, true, true, true⟩, true,
      ⟨false, false, false, false, false, false, false⟩⟩
  obtain ⟨panic, failed⟩ := @process_failed_backup host.connection.storage turn path rfl
  refine refines.fails turn (Concludes.unread ?_ rfl alive database performed rfl rfl
    fun holds => absurd holds unlucky) rfl rfl failed
  rw [inHand]
  rfl

/-- A call within an action, of which the machine sees nothing. -/
theorem Refines.within
    (refines : Refines strict json config host aggregator transport storage scheduler)
    (pending : nextStorage.Pending strict after.connection)
    (frame : after = { host with
      connection.statement := after.connection.statement
      connection.copied := after.connection.copied
      connection.compressed := after.connection.compressed
      folder := after.folder })
    (inHand : nextStorage.inHand = storage.inHand) (alive : storage.isPanicked = false)
    (lives : nextStorage.isPanicked = false)
    (database : ∀ deletes, nextStorage.database deletes after.connection.storage =
      storage.database deletes host.connection.storage)
    (performed : ∀ deletes, nextStorage.performed deletes after.connection =
      storage.performed deletes host.connection) :
    Refines strict json config after aggregator transport nextStorage scheduler := by
  refine refines.silent pending fun deletes gateway related => ?_
  have databaseSame := related.database.trans (database deletes).symm
  have performedSame := related.processed.trans (performed deletes).symm
  rw [frame] at databaseSame performedSame ⊢
  exact { related with
    alive := related.alive.trans (alive.trans lives.symm)
    actions := fun _ => by rw [inHand]; exact related.actions alive
    database := databaseSame
    processed := performedSame }

/-- The machine leaves an action in the queue until its turn. -/
theorem Refines.taking {action : SqliteStorageAction} {actions : Mpsc SqliteStorageAction}
    (refines : Refines strict json config host aggregator transport .idle scheduler)
    (received : host.actions.recv? = some (action, actions))
    (inHand : nextStorage.inHand = [action]) (lives : nextStorage.isPanicked = false)
    (database : ∀ deletes, nextStorage.database deletes host.connection.storage =
      host.connection.storage)
    (performed : ∀ deletes, nextStorage.performed deletes (host.connection.take action) =
      host.connection.performed)
    (holds : nextStorage.Holds strict (host.connection.take action)) :
    Refines strict json config
      { host with actions := actions, connection := host.connection.take action } aggregator transport
      nextStorage scheduler := by
  refine refines.silent ⟨?_, holds⟩ fun deletes gateway related => ?_
  · intro other member
    rw [inHand] at member
    rw [List.mem_singleton.mp member]
    rfl
  · obtain ⟨sent, waiting⟩ := related.actions rfl
    refine { related with
      alive := related.alive.trans lives.symm
      actions := fun _ => ⟨?_, ?_⟩
      database := related.database.trans (database deletes).symm
      processed := related.processed.trans (performed deletes).symm }
    · exact sent.trans (Mpsc.recv?_some received).2.symm
    · rw [waiting, Mpsc.recv?_waiting received, inHand]
      rfl

theorem process_ignored {database : SqliteStorage} {turn : Turn} {action : SqliteStorageAction}
    (ignored : Ignored action) : database.process turn action = .ok database := by
  cases action <;> first | exact ignored.elim | rfl

theorem readingsOf_ignored {turn : Turn} {action : SqliteStorageAction} (ignored : Ignored action) :
    Gateway.readingsOf action turn = [] := by
  cases action <;> first | exact ignored.elim | rfl

/-- Nothing is appended to a table that stays as it is. -/
theorem rowsAppended_same (action : SqliteStorageAction) (messages : List Row) :
    Gateway.rowsAppended action messages messages = [] := by
  cases action <;> first | exact List.drop_length | rfl

theorem process_unbound {database : SqliteStorage} {turn : Turn} {insert : Insert} {panic : Panic}
    (begun : turn.insert.transaction = true) (bound : insert.row = .error panic) :
    database.process turn (.insertBoth insert) = .error panic := by
  simp only [SqliteStorage.process, SqliteStorage.insertBoth, begun, bound]
  rfl

theorem process_unfinished {database : SqliteStorage} {turn : Turn} {insert : Insert} {row : Row}
    (begun : turn.insert.transaction = true) (finish : turn.insert.finish = false)
    (bound : insert.row = .ok row) : database.process turn (.insertBoth insert) =
      .error ⟨"Rollback failed to save transaction"⟩ := by
  simp only [SqliteStorage.process, SqliteStorage.insertBoth, begun, finish, bound]
  rfl

theorem process_undated {database : SqliteStorage} {turn : Turn} {olderThan : Chrono.Duration}
    {panic : Panic} (cutoff : turn.now.sub olderThan = .error panic) :
    database.process turn (.truncate (.fixedWindow olderThan)) = .error panic := by
  simp only [SqliteStorage.process, truncateFixedWindow, cutoff]
  rfl

theorem process_finished {database : SqliteStorage} {turn : Turn} {insert : Insert} {row : Row}
    (bound : insert.row = .ok row) (executed commits : Bool) :
    database.process { turn with insert := ⟨true, executed, commits, true⟩ } (.insertBoth insert) =
      .ok { database with
        messages := database.messages ++
          if commits then (if executed then some row else none).toList else [] } := by
  cases executed <;> cases commits <;> simp [SqliteStorage.process, SqliteStorage.insertBoth, bound]

/-- The thread has come to the end of an insertion. -/
theorem Refines.finished {insert : Insert} {row : Row} {executed : Bool}
    (refines : Refines strict json config host aggregator transport (.finishing insert row executed)
      scheduler) (commits : strict → answer.commits = true) :
    Refines strict json config
      (if answer.commits then
        { host with
          connection.storage.messages :=
            host.connection.storage.messages ++ host.connection.statement.toList
          connection.inserted := host.connection.inserted ++ host.connection.statement.toList }
      else host) aggregator transport .idle scheduler := by
  obtain ⟨bound, statement, succeeded⟩ := refines.pending.holds
  have current := refines.pending.current _ List.mem_cons_self
  let turn : Turn := { answer.turn with insert := ⟨true, executed, answer.commits, true⟩ }
  have succeeds : strict → Turn.Succeeds turn := by
    intro holds
    simp only [turn, succeeded holds, commits holds]
    exact ⟨rfl, rfl, rfl⟩
  have processed := @process_finished host.connection.storage answer.turn insert row bound executed
    answer.commits
  cases committed : answer.commits with
  | true =>
      simp only [committed, if_true, ← statement] at processed
      refine refines.performed _ (fun _ => turn) ⟨nofun, trivial⟩
        (fun _ _ => Concludes.unread rfl rfl rfl (fun _ => rfl) (fun _ => rfl) rfl rfl succeeds)
        (Records.unread ?_ ?_ current rfl) rfl rfl
      · simp only [turn, committed]
        exact processed
      · simp [Gateway.rowsAppended]
  | false =>
      simp only [committed, Bool.false_eq_true, if_false, List.append_nil] at processed
      refine refines.performed _ (fun _ => turn) ⟨nofun, trivial⟩
        (fun _ _ => Concludes.unread rfl rfl rfl (fun _ => rfl) (fun _ => rfl) rfl rfl succeeds)
        (Records.unread ?_ ?_ current rfl) rfl rfl
      · simp only [turn, committed]
        exact processed
      · exact (congrArg _ (rowsAppended_same _ _)).trans (List.append_nil _) |>.symm

theorem storage_refines
    (refines : Refines strict json config host aggregator transport storage scheduler)
    (led : StorageStep storage op reply nextStorage)
    (forward : strict → host.Forward mayFail sqlite .storage answer op)
    (answered : host.respond mayFail sqlite .storage answer op = some (reply, after)) :
    Refines strict json config after aggregator transport nextStorage scheduler := by
  cases led with
  | ignored ignored =>
      obtain ⟨⟨action, actions⟩, received, same⟩ := Option.map_eq_some_iff.mp answered
      cases same
      refine refines.performed _ (fun _ => answer.turn) ⟨nofun, trivial⟩ (fun _ _ => ?_)
        (Records.unread (process_ignored ignored) ?_ rfl (readingsOf_ignored ignored)) rfl rfl
      · exact Concludes.unread (Mpsc.recv?_waiting received) (Mpsc.recv?_some received).2 rfl
          (fun _ => rfl) (fun _ => rfl) rfl (readingsOf_ignored ignored) fun _ => ⟨rfl, rfl, rfl⟩
      · exact ((congrArg _ (rowsAppended_same _ _)).trans (List.append_nil _)).symm
  | insert =>
      obtain ⟨⟨action, actions⟩, received, same⟩ := Option.map_eq_some_iff.mp answered
      cases same
      exact refines.taking received rfl rfl (fun _ => rfl) (fun _ => rfl) trivial
  | truncate =>
      obtain ⟨⟨action, actions⟩, received, same⟩ := Option.map_eq_some_iff.mp answered
      cases same
      exact refines.taking received rfl rfl (fun _ => rfl) (fun _ => rfl) trivial
  | backup =>
      obtain ⟨⟨action, actions⟩, received, same⟩ := Option.map_eq_some_iff.mp answered
      cases same
      exact refines.taking received rfl rfl (fun _ => rfl) (fun _ => rfl) trivial
  | notBegun =>
      have unlucky : ¬strict := fun holds => absurd ((forward holds rfl).2 _ answered) Bool.false_ne_true
      obtain ⟨replied, rfl⟩ := Prod.mk.inj (Option.some.inj answered)
      have current := refines.pending.current _ List.mem_cons_self
      refine refines.performed _ (fun _ => { answer.turn with insert := ⟨false, true, true, true⟩ })
        ⟨nofun, trivial⟩
        (fun _ _ => Concludes.unread rfl rfl rfl (fun _ => rfl) (fun _ => rfl) rfl rfl
          fun holds => absurd holds unlucky)
        (Records.unread rfl ?_ current rfl) rfl rfl
      exact ((congrArg _ (rowsAppended_same _ _)).trans (List.append_nil _)).symm
  | begun bound =>
      obtain ⟨_, rfl⟩ := Prod.mk.inj (Option.some.inj answered)
      exact refines.within ⟨refines.pending.current, bound⟩ rfl rfl rfl rfl (fun _ => rfl)
        fun _ => rfl
  | unbound bound =>
      obtain ⟨_, rfl⟩ := Prod.mk.inj (Option.some.inj answered)
      refine refines.fails answer.turn (Concludes.unread rfl rfl rfl (fun _ => rfl) (fun _ => rfl)
        rfl rfl fun _ => ⟨rfl, rfl, rfl⟩) rfl rfl (process_unbound rfl bound)
  | executed =>
      rename_i insert row succeeded
      have works : strict → succeeded = true := fun holds => (forward holds rfl).2 _ answered
      obtain ⟨rfl, rfl⟩ := Prod.mk.inj (Option.some.inj answered)
      exact refines.within ⟨refines.pending.current, refines.pending.holds, rfl, works⟩ rfl rfl rfl
        rfl (fun _ => rfl) fun _ => rfl
  | finished =>
      have commits : strict → answer.commits = true := fun holds => (forward holds rfl).1
      obtain ⟨replied, rfl⟩ := Prod.mk.inj (Option.some.inj answered)
      rw [replied, Bool.true_and]
      exact refines.finished commits
  | notFinished =>
      rename_i insert row executed
      have unlucky : ¬strict := fun holds => absurd ((forward holds rfl).2 _ answered) Bool.false_ne_true
      obtain ⟨replied, rfl⟩ := Prod.mk.inj (Option.some.inj answered)
      obtain ⟨bound, _, _⟩ := refines.pending.holds
      rw [replied, Bool.false_and, if_neg Bool.false_ne_true]
      let turn : Turn := { answer.turn with insert := ⟨true, executed, true, false⟩ }
      exact refines.fails turn (Concludes.unread rfl rfl rfl (fun _ => rfl) (fun _ => rfl) rfl rfl
        fun holds => absurd holds unlucky) rfl rfl (process_unfinished rfl rfl bound)
  | dated cutoff =>
      cases answered
      rename_i olderThan old
      have current := refines.pending.current _ List.mem_cons_self
      have read : (host.connection.reads answer.utc).current =
          some ⟨.truncate (.fixedWindow olderThan), some answer.utc, host.connection.storage.messages⟩ := by
        simp only [Connection.reads, current, Option.map_some]
      refine refines.performed (.truncate (.fixedWindow olderThan))
        (fun deletes => { answer.turn with delete := deletes }) ⟨nofun, trivial⟩
        (fun _ outcome => ?_) (fun deletes => ⟨?_, ?_, ?_⟩) rfl rfl
      · exact Concludes.truncation rfl rfl rfl fun holds => ⟨⟨rfl, outcome holds, rfl⟩, forward holds nofun⟩
      · exact SqliteStorage.process_truncate.mpr ⟨_, cutoff, rfl⟩
      · exact (List.append_nil _).symm
      · exact @Connection.performed_current { host.connection.reads answer.utc with
          storage := StoragePhase.database deletes host.connection.storage
            (.deleting old.timestampMillis answer.utc.timestampMillis) } _ read
  | undated cutoff =>
      cases answered
      exact refines.fails answer.turn (Concludes.truncation rfl rfl rfl
        fun holds => ⟨⟨rfl, rfl, rfl⟩, forward holds nofun⟩) rfl rfl (process_undated cutoff)
  | deleted =>
      rename_i low high succeeded
      have works : strict → succeeded = true := fun holds => (forward holds rfl).2 _ answered
      obtain ⟨rfl, rfl⟩ := Prod.mk.inj (Option.some.inj answered)
      refine ⟨⟨nofun, trivial⟩, fun deletes _ => ?_⟩
      obtain ⟨gateway, reached, related⟩ := refines.reached answer.succeeds works
      refine ⟨gateway, reached, ?_⟩
      cases deleted : answer.succeeds with
      | true =>
          rw [deleted] at related
          exact { related with }
      | false =>
          rw [deleted] at related
          exact { related with }
  | opened =>
      obtain ⟨folder, rfl⟩ := Host.respond_storage (by trivial) answered
      exact refines.within ⟨refines.pending.current, trivial⟩ rfl rfl rfl rfl (fun _ => rfl)
        fun _ => rfl
  | started =>
      obtain ⟨folder, rfl⟩ := Host.respond_storage (by trivial) answered
      exact refines.within ⟨refines.pending.current, trivial⟩ rfl rfl rfl rfl (fun _ => rfl)
        fun _ => rfl
  | copied =>
      obtain ⟨folder, rfl⟩ := Host.respond_storage (by trivial) answered
      exact refines.within ⟨refines.pending.current, rfl⟩ rfl rfl rfl rfl (fun _ => rfl)
        fun _ => rfl
  | readBack =>
      obtain ⟨folder, rfl⟩ := Host.respond_storage (by trivial) answered
      exact refines.within ⟨refines.pending.current, refines.pending.holds⟩ rfl rfl rfl rfl
        (fun _ => rfl) fun _ => rfl
  | compressed =>
      obtain ⟨folder, rfl⟩ := Host.respond_storage (by trivial) answered
      exact refines.within ⟨refines.pending.current, refines.pending.holds⟩ rfl rfl rfl rfl
        (fun _ => rfl) fun _ => rfl
  | written =>
      obtain ⟨folder, rfl⟩ := Host.respond_storage (by trivial) answered
      have copied : host.connection.copied = host.connection.storage.messages := refines.pending.holds
      refine refines.within ⟨refines.pending.current, ?_⟩ rfl rfl rfl rfl (fun _ => rfl) fun _ => rfl
      simp only [StoragePhase.Holds, Connection.backs, copied]
  | removed =>
      rename_i path
      obtain ⟨folder, rfl⟩ := Host.respond_storage (by trivial) answered
      have compressed : host.connection.compressed =
          some ⟨path.withExtension "db.zst", host.connection.storage.messages⟩ := refines.pending.holds
      have current := refines.pending.current _ List.mem_cons_self
      refine refines.performed _ (fun _ => answer.turn) ⟨nofun, trivial⟩
        (fun _ _ => Concludes.unread rfl rfl rfl (fun _ => rfl) (fun _ => rfl) rfl rfl
          fun _ => ⟨rfl, rfl, rfl⟩)
        (Records.unread ?_ (List.append_nil _).symm current rfl) rfl rfl
      rw [SqliteStorage.process_backupDb]
      simp only [Connection.backs, compressed]
      exact ⟨rfl, rfl⟩
  | notOpened =>
      have unlucky : ¬strict := fun holds => absurd ((forward holds rfl).2 _ answered) Bool.false_ne_true
      obtain ⟨folder, rfl⟩ := Host.respond_storage (by trivial) answered
      exact refines.backup_fails rfl rfl (fun _ => rfl) (fun _ => rfl) unlucky
  | notStarted =>
      have unlucky : ¬strict := fun holds => absurd ((forward holds rfl).2 _ answered) Bool.false_ne_true
      obtain ⟨folder, rfl⟩ := Host.respond_storage (by trivial) answered
      exact refines.backup_fails rfl rfl (fun _ => rfl) (fun _ => rfl) unlucky
  | notCopied =>
      have unlucky : ¬strict := fun holds => absurd ((forward holds rfl).2 _ answered) Bool.false_ne_true
      obtain ⟨folder, rfl⟩ := Host.respond_storage (by trivial) answered
      exact refines.backup_fails rfl rfl (fun _ => rfl) (fun _ => rfl) unlucky
  | notRead =>
      have unlucky : ¬strict := fun holds => absurd ((forward holds rfl).2 _ answered) Bool.false_ne_true
      obtain ⟨folder, rfl⟩ := Host.respond_storage (by trivial) answered
      exact refines.backup_fails rfl rfl (fun _ => rfl) (fun _ => rfl) unlucky
  | notCompressed =>
      have unlucky : ¬strict := fun holds => absurd ((forward holds rfl).2 _ answered) Bool.false_ne_true
      obtain ⟨folder, rfl⟩ := Host.respond_storage (by trivial) answered
      exact refines.backup_fails rfl rfl (fun _ => rfl) (fun _ => rfl) unlucky
  | notWritten =>
      have unlucky : ¬strict := fun holds => absurd ((forward holds rfl).2 _ answered) Bool.false_ne_true
      obtain ⟨folder, rfl⟩ := Host.respond_storage (by trivial) answered
      exact refines.backup_fails rfl rfl (fun _ => rfl) (fun _ => rfl) unlucky
  | notRemoved =>
      have unlucky : ¬strict := fun holds => absurd ((forward holds rfl).2 _ answered) Bool.false_ne_true
      obtain ⟨folder, rfl⟩ := Host.respond_storage (by trivial) answered
      exact refines.backup_fails rfl rfl (fun _ => rfl) (fun _ => rfl) unlucky

end Steps

end GatewayThreads

end StsGateway
