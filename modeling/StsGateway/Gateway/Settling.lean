import StsGateway.Gateway.Accounting

namespace StsGateway

open Data

/-! The gateway comes to rest.

When the channels and the jobs fall silent, the other threads have a bounded amount
of work left, whatever order they are scheduled in. Once none of them can go on every
message has been through all of them, unless the storage thread has panicked: then
`main` ends the process wherever the others are.
-/

namespace AggregatorPoint

/-- Steps still to be taken for the message in hand, those of the threads it goes to
included. -/
def work : AggregatorPoint → Nat
  | receiving => 0
  | stamping _ _ => 7
  | sendingToStorage _ => 6
  | sendingTimeseries _ => 4
  | sendingAttributes _ => 2

end AggregatorPoint

namespace Gateway

/-- The steps of the threads that work on what has been sent. A backup job under way
is finished. -/
def Step.Internal : Step → Prop
  | .channelSend _ | .backupJobTruncate _ | .truncateJob | .connect _ => False
  | .aggregatorRecv | .stamp _ | .sendToStorage | .sendTimeseries | .sendAttributes
  | .backupJobBackup | .storageTurn _ | .publish _ => True

def storageWork (gateway : Gateway) : Nat :=
  if gateway.storagePanicked then 0 else gateway.storageQueue.waiting.length

def jobWork (gateway : Gateway) : Nat := if gateway.backupJob.isSome then 2 else 0

def work (gateway : Gateway) : Nat :=
  8 * gateway.aggregatorQueue.waiting.length + gateway.aggregator.work + gateway.storageWork +
    gateway.transportQueue.waiting.length + gateway.jobWork

/-- Every message has been stamped and sent on, a publish was tried for each of its
halves, and the storage thread has executed all it was sent. -/
structure WorkedOff (json : SerdeJson) (config : MainConfig) (gateway : Gateway) : Prop where
  handled : gateway.handled.map Stamped.action = gateway.aggregatorQueue.sent
  published : gateway.published = (gateway.handled.flatMap (Stamped.transportActions json)).map
    (MqttTransport.message config.mqtt)
  executed : gateway.processed.map Processed.queued = gateway.storageQueue.sent
  inserts : gateway.storageQueue.sent.filterMap Queued.insert? =
    gateway.handled.map (Stamped.insert json)

/-- From this state the gateway comes to rest, and then, if the storage thread still
lives, all is worked off. -/
structure Settles (json : SerdeJson) (config : MainConfig) (gateway : Gateway) : Prop where
  bounded : ∀ later after, (∀ label ∈ later, label.Internal) →
    (machine json config).runFrom gateway later = some after → later.length ≤ gateway.work
  rests : ∃ later after, (∀ label ∈ later, label.Internal) ∧
    (machine json config).runFrom gateway later = some after ∧
      (machine json config).Stuck Step.Internal after
  workedOff : ∀ later after, (∀ label ∈ later, label.Internal) →
    (machine json config).runFrom gateway later = some after →
      (machine json config).Stuck Step.Internal after → after.storagePanicked = false →
        WorkedOff json config after

section Work

variable {json : SerdeJson} {config : MainConfig} {before next gateway : Gateway}

theorem sendStorage_storageWork (before : Gateway) (queued : Queued) :
    (before.sendStorage queued).storageWork ≤ before.storageWork + 1 := by
  unfold Gateway.sendStorage storageWork
  cases panicked : before.storagePanicked <;> simp [panicked, Mpsc.send]

theorem sendStorage_frame (before : Gateway) (queued : Queued) :
    (before.sendStorage queued).aggregatorQueue = before.aggregatorQueue ∧
      (before.sendStorage queued).transportQueue = before.transportQueue ∧
      (before.sendStorage queued).backupJob = before.backupJob ∧
      (before.sendStorage queued).aggregator = before.aggregator := by
  unfold Gateway.sendStorage
  split <;> exact ⟨rfl, rfl, rfl, rfl⟩

/-- Each step of a thread does away with at least one unit of the work. -/
theorem work_decreases {label : Step} (internal : label.Internal)
    (stepped : step json config before label = some next) : next.work < before.work := by
  cases label with
  | aggregatorRecv =>
      obtain ⟨attributes, timeseries, queue, receiving, taken, rfl⟩ := aggregatorRecv_some stepped
      have waiting := Mpsc.recv?_waiting taken
      simp only [work, receiving, waiting, AggregatorPoint.work, List.length_cons, storageWork, jobWork]
      omega
  | stamp now =>
      obtain ⟨attributes, timeseries, stamping, rfl⟩ := stamp_some stepped
      simp only [work, stamping, AggregatorPoint.work, storageWork, jobWork]
      omega
  | sendToStorage =>
      obtain ⟨item, sending, rfl⟩ := sendToStorage_some stepped
      have added := sendStorage_storageWork before
        ⟨.aggregator, .insertBoth (item.insert json)⟩
      obtain ⟨received, transported, job, _⟩ := sendStorage_frame before
        ⟨.aggregator, .insertBoth (item.insert json)⟩
      simp only [work, storageWork, jobWork, sending, AggregatorPoint.work, received, transported,
        job] at added ⊢
      omega
  | sendTimeseries =>
      obtain ⟨item, sending, rfl⟩ := sendTimeseries_some stepped
      simp only [work, sending, AggregatorPoint.work, storageWork, jobWork, Mpsc.send,
        List.length_append, List.length_singleton]
      omega
  | sendAttributes =>
      obtain ⟨item, sending, rfl⟩ := sendAttributes_some stepped
      simp only [work, sending, AggregatorPoint.work, storageWork, jobWork, Mpsc.send,
        List.length_append, List.length_singleton]
      omega
  | backupJobBackup =>
      obtain ⟨path, running, rfl⟩ := backupJobBackup_some stepped
      have added := sendStorage_storageWork before
        ⟨.backupJob before.jobRuns, .backupDb path⟩
      obtain ⟨received, transported, _, aggregator⟩ := sendStorage_frame before
        ⟨.backupJob before.jobRuns, .backupDb path⟩
      simp only [work, storageWork, jobWork, running, received, transported, aggregator,
        Option.isSome_none, Option.isSome_some, Bool.false_eq_true, if_false, if_true] at added ⊢
      omega
  | storageTurn turn =>
      obtain ⟨queued, queue, alive, taken, outcome⟩ := storageTurn_some stepped
      have waiting := Mpsc.recv?_waiting taken
      rcases outcome with ⟨panic, _, rfl⟩ | ⟨storage, _, rfl⟩
      · simp only [work, storageWork, jobWork, alive, waiting, List.length_cons, if_true,
          Bool.false_eq_true, if_false]
        omega
      · simp only [work, storageWork, jobWork, alive, waiting, List.length_cons,
          Bool.false_eq_true, if_false]
        omega
  | publish succeeds =>
      obtain ⟨action, queue, taken, rfl⟩ := publish_some stepped
      have waiting := Mpsc.recv?_waiting taken
      simp only [work, waiting, List.length_cons, storageWork, jobWork]
      omega
  | channelSend message => exact internal.elim
  | backupJobTruncate path => exact internal.elim
  | truncateJob => exact internal.elim
  | connect succeeds => exact internal.elim

/-- Nothing is left in the queues of a gateway at rest, or in the hands of its threads. -/
structure AtRest (gateway : Gateway) : Prop where
  aggregator : gateway.aggregator = .receiving
  aggregatorQueue : gateway.aggregatorQueue.waiting = []
  storageQueue : gateway.storagePanicked = false → gateway.storageQueue.waiting = []
  transportQueue : gateway.transportQueue.waiting = []
  backupJob : gateway.backupJob = none

theorem atRest_of_stuck (connected : gateway.connected = true)
    (stuck : (machine json config).Stuck Step.Internal gateway) : AtRest gateway := by
  have receiving : gateway.aggregator = .receiving := by
    cases standing : gateway.aggregator with
    | receiving => rfl
    | stamping attributes timeseries =>
        have stepped := stuck (.stamp ⟨0, by decide⟩) trivial
        simp [machine, step, standing] at stepped
    | sendingToStorage item =>
        have stepped := stuck .sendToStorage trivial
        simp [machine, step, standing] at stepped
    | sendingTimeseries item =>
        have stepped := stuck .sendTimeseries trivial
        simp [machine, step, standing] at stepped
    | sendingAttributes item =>
        have stepped := stuck .sendAttributes trivial
        simp [machine, step, standing] at stepped
  refine ⟨receiving, ?_, ?_, ?_, ?_⟩
  · cases waiting : gateway.aggregatorQueue.waiting with
    | nil => rfl
    | cons action rest =>
        obtain ⟨attributes, timeseries⟩ := action
        have stepped := stuck .aggregatorRecv trivial
        simp [machine, step, receiving, Mpsc.recv?_cons waiting] at stepped
  · intro alive
    cases waiting : gateway.storageQueue.waiting with
    | nil => rfl
    | cons queued rest =>
        have stepped := stuck (.storageTurn (Sample.turn ⟨0, by decide⟩)) trivial
        simp only [machine, step, alive, Mpsc.recv?_cons waiting] at stepped
        split at stepped <;> contradiction
  · cases waiting : gateway.transportQueue.waiting with
    | nil => rfl
    | cons action rest =>
        have stepped := stuck (.publish true) trivial
        simp [machine, step, connected, Mpsc.recv?_cons waiting] at stepped
  · cases running : gateway.backupJob with
    | none => rfl
    | some path =>
        have stepped := stuck .backupJobBackup trivial
        simp [machine, step, running] at stepped

theorem sendStorage_connected (queued : Queued) :
    (before.sendStorage queued).connected = before.connected := by
  unfold Gateway.sendStorage
  split <;> rfl

def Connected (gateway : Gateway) : Prop := gateway.connected = true

/-- The broker connection is never given up. -/
theorem step_connected {label : Step} (connected : Connected before)
    (stepped : step json config before label = some next) : Connected next := by
  cases label with
  | channelSend message => cases stepped; exact connected
  | aggregatorRecv =>
      obtain ⟨attributes, timeseries, queue, _, _, rfl⟩ := aggregatorRecv_some stepped
      exact connected
  | stamp now =>
      obtain ⟨attributes, timeseries, _, rfl⟩ := stamp_some stepped
      exact connected
  | sendToStorage =>
      obtain ⟨item, _, rfl⟩ := sendToStorage_some stepped
      exact (sendStorage_connected _).trans connected
  | sendTimeseries =>
      obtain ⟨item, _, rfl⟩ := sendTimeseries_some stepped
      exact connected
  | sendAttributes =>
      obtain ⟨item, _, rfl⟩ := sendAttributes_some stepped
      exact connected
  | backupJobTruncate path =>
      obtain ⟨_, rfl⟩ := backupJobTruncate_some stepped
      exact (sendStorage_connected _).trans connected
  | backupJobBackup =>
      obtain ⟨path, _, rfl⟩ := backupJobBackup_some stepped
      exact (sendStorage_connected _).trans connected
  | truncateJob =>
      rw [truncateJob_some stepped]
      exact (sendStorage_connected _).trans connected
  | storageTurn turn =>
      obtain ⟨queued, queue, _, _, ⟨panic, _, rfl⟩ | ⟨storage, _, rfl⟩⟩ := storageTurn_some stepped
      · exact connected
      · exact connected
  | connect succeeds =>
      cases stepped
      exact Bool.or_eq_true_iff.mpr (.inl connected)
  | publish succeeds =>
      obtain ⟨action, queue, _, rfl⟩ := publish_some stepped
      exact connected

theorem sent_of_waiting {α : Type} {channel : Mpsc α} (empty : channel.waiting = []) :
    channel.sent = channel.received := by
  rw [Mpsc.sent, empty, List.append_nil]

theorem AtRest.workedOff (rest : AtRest gateway) (alive : gateway.storagePanicked = false)
    (holds : Accounts json config gateway) (recorded : Recorded config gateway) :
    WorkedOff json config gateway where
  handled := by
    rw [sent_of_waiting rest.aggregatorQueue, holds.received, rest.aggregator]
    exact (List.append_nil _).symm
  published := by
    rw [holds.published, ← sent_of_waiting rest.transportQueue, holds.transportSent, rest.aggregator]
    exact congrArg _ (List.append_nil _)
  executed := by rw [recorded.receivedAll alive, sent_of_waiting (rest.storageQueue alive)]
  inserts := by
    rw [holds.storageSentAll alive, storedItems, rest.aggregator]
    exact congrArg _ (List.append_nil _)

end Work

theorem settles (json : SerdeJson) (config : MainConfig) (labels : List Step) (gateway : Gateway)
    (executed : (machine json config).run labels = some gateway)
    (connected : gateway.connected = true) : Settles json config gateway where
  bounded := by
    intro later after internal continued
    have spent := Machine.length_le_of_decreases work_decreases internal continued
    omega
  rests := Machine.exists_stuck work_decreases gateway
  workedOff := by
    intro later after internal continued stuck alive
    have whole : (machine json config).run (labels ++ later) = some after := by
      rw [Machine.run, Machine.runFrom_append]
      change ((machine json config).run labels).bind _ = _
      rw [executed]
      exact continued
    have holds : Accounts json config after :=
      Machine.invariant_always step_accounts start_accounts whole
    have recorded : Recorded config after :=
      Machine.invariant_always step_recorded start_recorded whole
    have stillConnected : Connected after :=
      Machine.invariant_runFrom (fun known _ stepped => step_connected known stepped) connected
        (Machine.stepsMeet_true gateway later) continued
    exact (atRest_of_stuck stillConnected stuck).workedOff alive holds recorded

/-- Two messages are still waiting for the aggregator when the channels fall silent. -/
theorem settles_two_waiting :
    ∃ gateway, (machine Sample.json Sample.config).run
        [.channelSend Sample.message, .channelSend Sample.message, .connect true] = some gateway ∧
      gateway.work = 16 ∧ Settles Sample.json Sample.config gateway :=
  ⟨_, rfl, rfl, settles Sample.json Sample.config
    [.channelSend Sample.message, .channelSend Sample.message, .connect true] _ rfl rfl⟩

end Gateway

end StsGateway
