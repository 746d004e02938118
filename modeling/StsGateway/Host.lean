import StsGateway.Aggregator
import StsGateway.Data.Interaction
import StsGateway.Backup.Cleanup

namespace StsGateway

open Data

/-! What the threads ask of the system they run on, and of one another. -/

/-- What runs beside one another. SQLite works within the storage thread's calls, but on
files that the other threads see as well. -/
inductive Worker where
  | channels
  | aggregator
  | transport
  | storage
  | scheduler
  | sqlite
deriving DecidableEq

inductive SchedulerJob where
  | backup
  | truncate
deriving DecidableEq

inductive HostCall where
  | utcNow
  | systemNow
  | recv
  | send (action : SqliteStorageAction)
  -- the connection to the message table
  | transaction
  | execute (row : Row)
  | finish
  | delete (low high : Int)
  -- a backup
  | openDestination (path : PathBuf)
  | newBackup
  | runToCompletion
  | read (path : PathBuf)
  | compress
  | write (path : PathBuf)
  | removeFile (path : PathBuf)
  -- a file that SQLite keeps beside a database
  | journal
  -- the backup folder
  | exists (path : PathBuf)
  | createDirAll (path : PathBuf)
  | readDir (path : PathBuf)
  | nextEntry
  | metadata (path : PathBuf)
  -- the scheduler's clockwork
  | due (job : SchedulerJob)
  | sleep
  | outOfFuel
  -- the aggregator and the transport
  | channelSend
  | recvMessage
  | sendTransport (action : TransportAction)
  | createClient
  | connect
  | recvTransport
  | publish (message : MqttMessage)

/-- `due` is the number of times the schedule has come round since the last tick. An
entry is given by its path, `some none` is one that could not be read. What a channel
sends is up to the channel. -/
abbrev HostCall.Reply : HostCall → Type
  | .utcNow => UtcDateTime
  | .systemNow => SystemTime
  | .recv => SqliteStorageAction
  | .nextEntry => Option (Option PathBuf)
  | .metadata _ => Option Metadata
  | .due _ => Nat
  | .recvMessage => AggregatorAction
  | .recvTransport => TransportAction
  | .sleep | .outOfFuel | .channelSend | .journal => Unit
  | .sendTransport _ | .createClient | .connect | .publish _
  | .send _ | .transaction | .execute _ | .finish | .delete _ _ | .openDestination _ | .newBackup
  | .runToCompletion | .read _ | .compress | .write _ | .removeFile _ | .exists _ | .createDirAll _
  | .readDir _ => Bool

abbrev HostProgram := Program HostCall HostCall.Reply Panic

theorem unixEpoch_representable : Chrono.minNanos ≤ 0 ∧ 0 ≤ Chrono.maxNanos := by decide

/-- The replies of a system on which nothing is there and nothing succeeds. -/
def HostCall.refused : (op : HostCall) → op.Reply
  | .utcNow => ⟨0, unixEpoch_representable⟩
  | .systemNow => .unixEpoch
  | .recv => .timeout
  | .nextEntry | .metadata _ => none
  | .due _ => Nat.zero
  | .recvMessage => .sendBoth ("", ∅) ("", [])
  | .recvTransport => .sendTimeseries ""
  | .sleep | .outOfFuel | .channelSend | .journal => ()
  | .sendTransport _ | .createClient | .connect | .publish _
  | .send _ | .transaction | .execute _ | .finish | .delete _ _ | .openDestination _ | .newBackup
  | .runToCompletion | .read _ | .compress | .write _ | .removeFile _ | .exists _ | .createDirAll _
  | .readDir _ => false

/-- A call of the storage thread that can fail has not. -/
def HostCall.Works : (op : HostCall) → op.Reply → Prop
  | .transaction, reply | .execute _, reply | .finish, reply | .delete _ _, reply
  | .openDestination _, reply | .newBackup, reply | .runToCompletion, reply | .read _, reply
  | .compress, reply | .write _, reply | .removeFile _, reply => reply = true
  | _, _ => True

instance HostCall.decidableWorks : (op : HostCall) → (reply : op.Reply) → Decidable (op.Works reply)
  | .transaction, reply | .execute _, reply | .finish, reply | .delete _ _, reply
  | .openDestination _, reply | .newBackup, reply | .runToCompletion, reply | .read _, reply
  | .compress, reply | .write _, reply | .removeFile _, reply =>
      inferInstanceAs (Decidable (reply = true))
  | .utcNow, _ | .systemNow, _ | .recv, _ | .send _, _ | .journal, _ | .exists _, _
  | .createDirAll _, _ | .readDir _, _ | .nextEntry, _ | .metadata _, _ | .due _, _ | .sleep, _
  | .outOfFuel, _ | .channelSend, _ | .recvMessage, _ | .sendTransport _, _ | .createClient, _
  | .connect, _ | .recvTransport, _ | .publish _, _ => isTrue trivial

end StsGateway
