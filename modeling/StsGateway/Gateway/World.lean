import StsGateway.Backup.Folder
import StsGateway.Gateway.Threads

namespace StsGateway

open Data

namespace GatewayThreads

/-! The one world that all threads share: the queues between them, the connection to the
database, the folder of the backups and the broker; and the threads in it, in any
interleaving of their single calls.
-/

/-- An action the storage thread has taken, the clock if it read it, and the table before. -/
structure Taken where
  action : SqliteStorageAction
  reading : Option UtcDateTime
  before : List Row
deriving DecidableEq

/-- An action with the table it left and all rows inserted so far. -/
structure Performed where
  action : SqliteStorageAction
  reading : Option UtcDateTime
  before : List Row
  after : List Row
  inserted : List Row
deriving DecidableEq

/-- The fields from `inserted` on keep a record; no reply depends on them. -/
structure Connection where
  storage : SqliteStorage
  statement : Option Row
  copied : List Row
  compressed : Option Backup
  inserted : List Row
  log : List Performed
  current : Option Taken

namespace Connection

/-- The action taken last, as far as it has got. -/
def present (connection : Connection) : Option Performed :=
  connection.current.map fun taken =>
    ⟨taken.action, taken.reading, taken.before, connection.storage.messages, connection.inserted⟩

def performed (connection : Connection) : List Performed := connection.log ++ connection.present.toList

def take (connection : Connection) (action : SqliteStorageAction) : Connection :=
  { connection with
    log := connection.performed
    current := some ⟨action, none, connection.storage.messages⟩ }

def reads (connection : Connection) (now : UtcDateTime) : Connection :=
  { connection with current := connection.current.map fun taken => { taken with reading := some now } }

/-- A backup is finished once its `.db` copy is gone. -/
def backs (connection : Connection) : (op : HostCall) → op.Reply → Connection
  | .runToCompletion, true => { connection with copied := connection.storage.messages }
  | .write path, true => { connection with compressed := some ⟨path, connection.copied⟩ }
  | .removeFile _, true =>
      { connection with
        storage.backups := connection.storage.backups ++ connection.compressed.toList }
  | _, _ => connection

theorem performed_current {connection : Connection} {taken : Taken}
    (current : connection.current = some taken) :
    connection.performed = connection.log ++ [⟨taken.action, taken.reading, taken.before,
      connection.storage.messages, connection.inserted⟩] := by
  simp [performed, present, current]

end Connection

/-- The clock readings are those that end up in the table or decide what is deleted from it. -/
structure Host where
  messages : Mpsc AggregatorAction
  actions : Mpsc SqliteStorageAction
  transport : Mpsc TransportAction
  published : List MqttMessage
  delivered : List MqttMessage
  readings : List UtcDateTime
  connection : Connection
  folder : Folder

/-- What one call finds. -/
structure Answer extends FolderAnswer where
  message : ChannelMessage
  utc : UtcDateTime
  commits : Bool
  due : Nat

namespace Host

def start (files : HashMap PathBuf SystemTime) : Host where
  messages := .channel
  actions := .channel
  transport := .channel
  published := []
  delivered := []
  readings := []
  connection := ⟨⟨[], []⟩, none, [], none, [], [], none⟩
  folder := .start files

/-- A `recv` on an empty queue blocks. What is sent to a thread that is gone stays in its
queue, which nobody looks at any more. -/
def respond (mayFail : Bool) (sqlite : SqliteFiles) (host : Host) (worker : Worker) (answer : Answer) :
    (op : HostCall) → Option (op.Reply × Host)
  | .channelSend => some ((), { host with messages := host.messages.send answer.message.action })
  | .recvMessage => host.messages.recv?.map fun taken => (taken.1, { host with messages := taken.2 })
  | .utcNow =>
      if worker = .scheduler then some (answer.utc, host)
      else some (answer.utc, { host with
        readings := host.readings ++ [answer.utc]
        connection :=
          if worker = .storage then host.connection.reads answer.utc else host.connection })
  | .send action => some (answer.succeeds, { host with actions := host.actions.send action })
  | .sendTransport action => some (answer.succeeds, { host with transport := host.transport.send action })
  | .createClient | .connect => some (answer.succeeds, host)
  | .recvTransport => host.transport.recv?.map fun taken => (taken.1, { host with transport := taken.2 })
  | .publish message =>
      some (answer.succeeds, { host with
        published := host.published ++ [message]
        delivered := host.delivered ++ if answer.succeeds then [message] else [] })
  | .recv =>
      host.actions.recv?.map fun taken =>
        (taken.1, { host with actions := taken.2, connection := host.connection.take taken.1 })
  | .transaction => some (answer.succeeds, host)
  | .execute row =>
      some (answer.succeeds,
        { host with connection.statement := if answer.succeeds then some row else none })
  | .finish => some (answer.succeeds,
      -- a `COMMIT` that fails is rolled back, and `finish` has succeeded all the same
      if answer.succeeds && answer.commits then
        { host with
          connection.storage.messages :=
            host.connection.storage.messages ++ host.connection.statement.toList
          connection.inserted := host.connection.inserted ++ host.connection.statement.toList }
      else host)
  | .delete low high => some (answer.succeeds,
      if answer.succeeds then
        { host with
          connection.storage.messages := deleteNotBetween host.connection.storage.messages low high }
      else host)
  | .due _ => some (answer.due, host)
  | .sleep => some ((), host)
  | .outOfFuel => none
  | op =>
      (host.folder.respond mayFail sqlite worker answer.toFolderAnswer op).map fun answered =>
        (answered.1, { host with
          folder := answered.2
          connection :=
            if worker = .storage then host.connection.backs op answered.1 else host.connection })

end Host

def world (mayFail : Bool) (sqlite : SqliteFiles) :
    SharedWorld Worker HostCall HostCall.Reply Host Answer where
  respond := Host.respond mayFail sqlite

/-- The threads from the start of the gateway. -/
def threads (mayFail : Bool) (sqlite : SqliteFiles) (json : SerdeJson) (scheduler : BackupScheduler)
    (attempts : Nat) (files : HashMap PathBuf SystemTime) :
    Machine (Crew HostCall HostCall.Reply Panic Host Worker) (Worker × Answer) :=
  (world mayFail sqlite).crewFrom (first json scheduler attempts) (bodies json scheduler)
    (Host.start files)

/-! ### What a call leaves alone -/

def backupPath? : SqliteStorageAction → Option PathBuf
  | .backupDb path => some path
  | _ => none

namespace Host

/-- The backups asked for. -/
def requested (host : Host) : List PathBuf := host.actions.sent.filterMap backupPath?

/-- The backups not yet begun. -/
def waiting (host : Host) : List PathBuf := host.actions.waiting.filterMap backupPath?

/-- The calls on the folder. -/
def OnFolder : HostCall → Prop
  | .systemNow | .openDestination _ | .newBackup | .runToCompletion | .compress | .read _ | .write _
  | .removeFile _ | .journal | .exists _ | .createDirAll _ | .readDir _ | .nextEntry | .metadata _ =>
      True
  | _ => False

/-- The calls that have to do neither with the folder nor with the backups queued. -/
def Aside : HostCall → Prop
  | .send (.backupDb _) | .recv => False
  | op => ¬OnFolder op

section Calls

variable {mayFail : Bool} {sqlite : SqliteFiles} {host after : Host} {worker : Worker}
  {answer : Answer} {op : HostCall} {reply : op.Reply}

theorem respond_folder (onFolder : OnFolder op)
    (answered : host.respond mayFail sqlite worker answer op = some (reply, after)) :
    ∃ folder, host.folder.respond mayFail sqlite worker answer.toFolderAnswer op =
        some (reply, folder) ∧
      after = { host with
        folder
        connection :=
          if worker = .storage then host.connection.backs op reply else host.connection } := by
  have mapped : (host.folder.respond mayFail sqlite worker answer.toFolderAnswer op).map (fun answered =>
      (answered.1, { host with
        folder := answered.2
        connection := if worker = .storage then host.connection.backs op answered.1
          else host.connection })) = some (reply, after) := by
    cases op <;> first | exact onFolder.elim | exact answered
  obtain ⟨⟨replied, folder⟩, found, same⟩ := Option.map_eq_some_iff.mp mapped
  cases same
  exact ⟨folder, found, rfl⟩

theorem respond_others (onFolder : OnFolder op) (other : worker ≠ .storage)
    (answered : host.respond mayFail sqlite worker answer op = some (reply, after)) :
    after = { host with folder := after.folder } := by
  obtain ⟨folder, _, rfl⟩ := respond_folder onFolder answered
  rw [if_neg other]

theorem respond_storage (onFolder : OnFolder op)
    (answered : host.respond mayFail sqlite .storage answer op = some (reply, after)) :
    ∃ folder, after = { host with folder, connection := host.connection.backs op reply } := by
  obtain ⟨folder, _, rfl⟩ := respond_folder onFolder answered
  exact ⟨folder, by rw [if_pos rfl]⟩

/-- Looking for the folder and making it changes nothing that is modelled. -/
theorem respond_looks (looks : Looks op)
    (answered : host.respond mayFail sqlite .scheduler answer op = some (reply, after)) :
    after = host := by
  have onFolder : OnFolder op := by
    cases op <;> first | exact looks.elim | trivial
  obtain ⟨folder, found, rfl⟩ := respond_folder onFolder answered
  have unchanged : folder = host.folder := by
    cases op <;> first | exact looks.elim | (cases found; rfl)
  rw [unchanged]
  rfl

theorem waiting_send {action : SqliteStorageAction} (actions : Mpsc SqliteStorageAction)
    (other : backupPath? action = none) :
    (actions.send action).waiting.filterMap backupPath? = actions.waiting.filterMap backupPath? ∧
      (actions.send action).sent.filterMap backupPath? = actions.sent.filterMap backupPath? := by
  rw [Mpsc.sent_send]
  simp [Mpsc.send, other]

theorem respond_aside (aside : Aside op)
    (answered : host.respond mayFail sqlite worker answer op = some (reply, after)) :
    after.folder = host.folder ∧ after.waiting = host.waiting ∧ after.requested = host.requested := by
  cases op with
  | send action =>
      cases answered
      have other : backupPath? action = none := by
        cases action <;> first | exact aside.elim | rfl
      exact ⟨rfl, waiting_send host.actions other⟩
  | utcNow =>
      simp only [respond] at answered
      split at answered <;> (cases answered; exact ⟨rfl, rfl, rfl⟩)
  | finish =>
      obtain ⟨_, rfl⟩ := Prod.mk.inj (Option.some.inj answered)
      split <;> exact ⟨rfl, rfl, rfl⟩
  | delete low high =>
      obtain ⟨_, rfl⟩ := Prod.mk.inj (Option.some.inj answered)
      split <;> exact ⟨rfl, rfl, rfl⟩
  | recvMessage =>
      obtain ⟨_, _, same⟩ := Option.map_eq_some_iff.mp answered
      cases same
      exact ⟨rfl, rfl, rfl⟩
  | recvTransport =>
      obtain ⟨_, _, same⟩ := Option.map_eq_some_iff.mp answered
      cases same
      exact ⟨rfl, rfl, rfl⟩
  | recv => exact aside.elim
  | outOfFuel => cases answered
  | channelSend | sendTransport | createClient | connect | publish | transaction | execute | due | sleep =>
      cases answered
      exact ⟨rfl, rfl, rfl⟩
  | _ => exact absurd trivial aside

theorem respond_recv {action : SqliteStorageAction}
    (answered : host.respond mayFail sqlite worker answer .recv = some (action, after)) :
    after.folder = host.folder ∧ after.requested = host.requested ∧
      host.waiting = (backupPath? action).toList ++ after.waiting := by
  obtain ⟨⟨taken, actions⟩, received, same⟩ := Option.map_eq_some_iff.mp answered
  cases same
  refine ⟨rfl, congrArg (List.filterMap backupPath?) (Mpsc.recv?_some received).2, ?_⟩
  rw [waiting, Mpsc.recv?_waiting received, List.filterMap_cons]
  cases backupPath? taken <;> simp [waiting]

/-- The channels, the aggregator and the transport have nothing to do with backups. -/
theorem aside_of_step {json : SerdeJson} {scheduler : BackupScheduler} {before next : Phase worker}
    (led : (protocol json scheduler worker).step before op reply next)
    (other : worker ∉ [Worker.storage, .scheduler, .sqlite]) : Aside op := by
  cases worker with
  | channels => cases led; exact not_false
  | aggregator => cases led <;> exact not_false
  | transport => cases led <;> exact not_false
  | _ => simp at other

end Calls

end Host

def Sample.answer (utc : UtcDateTime) (due : Nat) : Answer where
  now := .unixEpoch
  succeeds := true
  leavesFile := false
  names := []
  readable := true
  journal := .closes (PathBuf.new "")
  message := Gateway.Sample.message
  utc := utc
  commits := true
  due := due

end GatewayThreads

end StsGateway
