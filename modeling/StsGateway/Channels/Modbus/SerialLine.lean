import StsGateway.Data.Interaction
import StsGateway.Definitions
import StsGateway.Channels.Modbus.Frame

namespace StsGateway.Modbus

open Data

/-! The calls the RTU channel makes, and the serial line that answers them.

A slave's answer carries no number of the request it answers, so the line tags
each byte with that number, which the program cannot see. Between any two calls
any bytes of any outstanding answers may come in.
-/

inductive ClearBuffer where
  | input
  | all
deriving DecidableEq

inductive SerialCall where
  | clear (buffer : ClearBuffer)
  | write (request : List UInt8)
  | flush
  | readExact (count : Nat)
  | timestamp
  | send (action : AggregatorAction)

/-- `read_exact` fills the whole buffer or fails. -/
abbrev BytesRead (count : Nat) := { bytes : List UInt8 // bytes.length = count }

abbrev SerialCall.Reply : SerialCall → Type
  | .clear _ | .write _ | .flush | .send _ => Bool
  | .readExact count => Option (BytesRead count)
  | .timestamp => Int

/-- The calls that go to the port. -/
def SerialCall.onPort : SerialCall → Bool
  | .clear _ | .write _ | .flush | .readExact _ => true
  | .timestamp | .send _ => false

abbrev SerialProgram := Program SerialCall SerialCall.Reply Panic

/-! ### The line -/

structure TaggedByte where
  index : Nat
  byte : UInt8
deriving DecidableEq

/-- One written request, its answer if the slave gives one, and what the reads took. -/
structure Exchange where
  index : Nat
  request : Option ReadRequest
  answer : Option Answer
  fits : ∀ given ∈ answer, ∃ asked ∈ request, given.Fits asked
  taken : List TaggedByte
deriving DecidableEq

def Exchange.frame (exchange : Exchange) : List UInt8 :=
  match exchange.request, exchange.answer with
  | some request, some answer => answer.frame request.unitId
  | _, _ => []

def Exchange.takes (exchange : Exchange) (bytes : List TaggedByte) : Exchange :=
  { exchange with taken := exchange.taken ++ bytes }

/-- The reads took the whole answer, and nothing but bytes sent in answer to this request. -/
structure Exchange.Complete (exchange : Exchange) : Prop where
  own : ∀ received ∈ exchange.taken, received.index = exchange.index
  whole : exchange.taken.map TaggedByte.byte = exchange.frame

/-- A sent message with the exchanges of its poll, the latest first. -/
structure RtuSent where
  action : AggregatorAction
  exchanges : List Exchange
deriving DecidableEq

/-- `pending` holds, for every request written so far, the bytes of its answer
that have not come in yet. -/
structure SerialLine where
  pending : List (List UInt8)
  input : List TaggedByte
  exchanges : List Exchange
  sent : List RtuSent

/-- How one call turns out. `arrivals` name the requests whose answers' next
bytes come in before the call is over; `consumed` bytes are lost in a read that fails. -/
structure SerialChoice where
  arrivals : List Nat
  succeeds : Bool
  answer : Option Answer
  consumed : Nat
  now : Int

namespace SerialLine

def arriveOne (line : SerialLine) (index : Nat) : SerialLine :=
  match line.pending[index]? with
  | some (byte :: later) => { line with
      pending := line.pending.set index later
      input := line.input ++ [⟨index, byte⟩] }
  | _ => line

def arrive (line : SerialLine) (arrivals : List Nat) : SerialLine := arrivals.foldl arriveOne line

/-- What is on the line is answered by the slave it addresses, if it is a
request and if the slave answers. -/
def ask (line : SerialLine) (bytes : List UInt8) (answer : Option Answer) : Exchange where
  index := line.pending.length
  request := decodeRequest bytes
  answer := answer.filter fun given => (decodeRequest bytes).any fun asked => given.Fits asked
  fits := by
    intro given kept
    obtain ⟨_, fits⟩ := Option.filter_eq_some_iff.mp kept
    obtain ⟨asked, decoded, accepted⟩ := (Option.any_eq_true _ _).mp fits
    exact ⟨asked, decoded, of_decide_eq_true accepted⟩
  taken := []

def cleared (line : SerialLine) : SerialLine := { line with input := [] }

def written (line : SerialLine) (exchange : Exchange) : SerialLine := { line with
  pending := line.pending ++ [exchange.frame]
  exchanges := exchange :: line.exchanges }

def take (line : SerialLine) (count : Nat) : SerialLine := { line with
  input := line.input.drop count
  exchanges := match line.exchanges with
    | [] => []
    | exchange :: earlier => exchange.takes (line.input.take count) :: earlier }

def readable (line : SerialLine) (choice : SerialChoice) (count : Nat) :
    Option (BytesRead count) :=
  if enough : choice.succeeds = true ∧ count ≤ line.input.length then
    some ⟨(line.input.take count).map TaggedByte.byte, by
      rw [List.length_map, List.length_take, Nat.min_eq_left enough.2]⟩
  else none

end SerialLine

def serialRespond (line : SerialLine) (choice : SerialChoice) :
    (call : SerialCall) → call.Reply × SerialLine
  | .clear _ => (choice.succeeds, if choice.succeeds then line.cleared else line)
  | .write request =>
      (choice.succeeds,
        if choice.succeeds then line.written (line.ask request choice.answer) else line)
  | .flush => (choice.succeeds, line)
  | .readExact count =>
      (line.readable choice count,
        if (line.readable choice count).isSome then line.take count
        else { line with input := line.input.drop choice.consumed })
  | .timestamp => (choice.now, line)
  | .send action =>
      (choice.succeeds, { line with
        exchanges := []
        sent := line.sent ++ [⟨action, line.exchanges⟩] })

def serialWorld : World SerialCall SerialCall.Reply SerialLine SerialChoice where
  respond line choice call := serialRespond (line.arrive choice.arrivals) choice call

/-! ### Bytes on their way -/

namespace SerialLine

variable {line : SerialLine} {exchange : Exchange} {earlier : List Exchange} {lost : List UInt8}

def received (line : SerialLine) (index : Nat) : List UInt8 :=
  (line.input.filter fun received => received.index = index).map TaggedByte.byte

def coming (line : SerialLine) (index : Nat) : List UInt8 := line.pending[index]?.getD []

def Tagged (line : SerialLine) : Prop :=
  ∀ received ∈ line.input, received.index < line.pending.length

/-- Since the request written last: what was taken, what clears have lost, what
is in the buffer and what is to come make up its answer. -/
structure Receiving (line : SerialLine) (exchange : Exchange) (earlier : List Exchange)
    (lost : List UInt8) : Prop where
  latest : line.exchanges = exchange :: earlier
  index : exchange.index + 1 = line.pending.length
  own : ∀ received ∈ exchange.taken, received.index = exchange.index
  whole : exchange.taken.map TaggedByte.byte ++ lost ++
    (line.received exchange.index ++ line.coming exchange.index) = exchange.frame

theorem arriveOne_cases (line : SerialLine) (index : Nat) :
    line.arriveOne index = line ∧ line.coming index = [] ∨ ∃ byte later, line.pending[index]? = some (byte :: later) ∧
      line.arriveOne index = { line with
        pending := line.pending.set index later
        input := line.input ++ [⟨index, byte⟩] } := by
  cases found : line.pending[index]? with
  | none => exact .inl (by simp [arriveOne, coming, found])
  | some bytes =>
      cases bytes with
      | nil => exact .inl (by simp [arriveOne, coming, found])
      | cons byte later => exact .inr ⟨byte, later, rfl, by simp [arriveOne, found]⟩

theorem arrive_induction (property : SerialLine → Prop)
    (preserved : ∀ line index, property line → property (line.arriveOne index))
    (initial : property line) (arrivals : List Nat) : property (line.arrive arrivals) := by
  induction arrivals generalizing line with
  | nil => exact initial
  | cons index rest ih => exact ih (preserved line index initial)

theorem arrive_frame (line : SerialLine) (arrivals : List Nat) :
    (line.arrive arrivals).exchanges = line.exchanges ∧ (line.arrive arrivals).sent = line.sent ∧
      (line.arrive arrivals).pending.length = line.pending.length := by
  apply arrive_induction (fun after => after.exchanges = line.exchanges ∧
    after.sent = line.sent ∧ after.pending.length = line.pending.length) _ ⟨rfl, rfl, rfl⟩
  intro before index same
  rcases before.arriveOne_cases index with ⟨stays, _⟩ | ⟨byte, later, _, moved⟩
  · rw [stays]
    exact same
  · rw [moved]
    exact ⟨same.1, same.2.1, by rw [List.length_set]; exact same.2.2⟩

theorem Tagged.arrive (tagged : line.Tagged) (arrivals : List Nat) : (line.arrive arrivals).Tagged := by
  apply arrive_induction Tagged _ tagged
  intro before index tagged received member
  rcases before.arriveOne_cases index with ⟨stays, _⟩ | ⟨byte, later, found, moved⟩
  · rw [stays] at member ⊢
    exact tagged received member
  · rw [moved] at member ⊢
    rw [List.length_set]
    rcases List.mem_append.mp member with member | member
    · exact tagged received member
    · rw [List.mem_singleton.mp member]
      exact (List.getElem?_eq_some_iff.mp found).1

theorem Tagged.respond (tagged : line.Tagged) (choice : SerialChoice) (call : SerialCall) :
    (serialWorld.respond line choice call).2.Tagged := by
  have arrived := tagged.arrive choice.arrivals
  change (serialRespond (line.arrive choice.arrivals) choice call).2.Tagged
  cases call with
  | clear buffer =>
      dsimp only [serialRespond]
      split
      · exact nofun
      · exact arrived
  | write request =>
      dsimp only [serialRespond]
      split
      · intro received member
        have bound := arrived received member
        change _ < (_ ++ [_]).length
        rw [List.length_append, List.length_singleton]
        omega
      · exact arrived
  | readExact count =>
      dsimp only [serialRespond]
      split
      · exact fun received member => arrived received (List.mem_of_mem_drop member)
      · exact fun received member => arrived received (List.mem_of_mem_drop member)
  | flush => exact arrived
  | timestamp => exact arrived
  | send action => exact arrived

/-- The bytes of one answer arrive in their order, whatever comes in between. -/
theorem received_arriveOne (line : SerialLine) (arriving index : Nat) :
    (line.arriveOne arriving).received index ++ (line.arriveOne arriving).coming index =
      line.received index ++ line.coming index := by
  rcases line.arriveOne_cases arriving with ⟨stays, _⟩ | ⟨byte, later, found, moved⟩
  · rw [stays]
  · rw [moved]
    by_cases same : arriving = index
    · subst same
      obtain ⟨inside, first⟩ := List.getElem?_eq_some_iff.mp found
      simp [received, coming, inside, first]
    · simp [received, coming, same]

theorem Receiving.arrive (receiving : line.Receiving exchange earlier lost) (arrivals : List Nat) :
    (line.arrive arrivals).Receiving exchange earlier lost := by
  apply arrive_induction (fun after => after.Receiving exchange earlier lost) _ receiving
  intro before index receiving
  have frame := before.arrive_frame [index]
  exact {
    latest := frame.1.trans receiving.latest
    index := receiving.index.trans frame.2.2.symm
    own := receiving.own
    whole := by
      rw [received_arriveOne]
      exact receiving.whole }

theorem Receiving.clear (receiving : line.Receiving exchange earlier lost) (succeeds : Bool) :
    ∃ more, (if succeeds then line.cleared else line).Receiving exchange earlier more := by
  cases succeeds with
  | false => exact ⟨lost, receiving⟩
  | true =>
      refine ⟨lost ++ line.received exchange.index, receiving.latest, receiving.index,
        receiving.own, ?_⟩
      rw [← receiving.whole]
      simp [received, coming, cleared]

theorem receiving_written (tagged : line.Tagged) (bytes : List UInt8) (answer : Option Answer) :
    (line.written (line.ask bytes answer)).Receiving (line.ask bytes answer) line.exchanges [] where
  latest := rfl
  index := by simp [written, ask]
  own := by
    intro received member
    contradiction
  whole := by
    have none : line.received line.pending.length = [] := by
      rw [received, List.map_eq_nil_iff, List.filter_eq_nil_iff]
      intro received member
      have bound := tagged received member
      simp only [decide_eq_true_eq]
      omega
    change [] ++ [] ++ (line.received line.pending.length ++
      (line.pending ++ [(line.ask bytes answer).frame])[line.pending.length]?.getD []) = _
    simp [none]

theorem ask_frame (line : SerialLine) {request : ReadRequest} {answer : Answer} (fits : answer.Fits request) :
    (line.ask request.frame (some answer)).request = some request ∧
      (line.ask request.frame (some answer)).frame = answer.frame request.unitId := by
  have kept : (some answer).filter (fun given => decide (given.Fits request)) = some answer := by
    rw [Option.filter_some, if_pos (decide_eq_true fits)]
  simp only [ask, Exchange.frame, decodeRequest_frame, Option.any_some, kept, and_self]

theorem received_own {index : Nat} (own : ∀ received ∈ line.input, received.index = index) :
    line.received index = line.input.map TaggedByte.byte := by
  rw [received, List.filter_eq_self.mpr (by simpa using own)]

theorem Receiving.take (receiving : line.Receiving exchange earlier [])
    (own : ∀ received ∈ line.input, received.index = exchange.index) (count : Nat) :
    (line.take count).Receiving (exchange.takes (line.input.take count)) earlier [] where
  latest := by rw [SerialLine.take, receiving.latest]
  index := receiving.index
  own := by
    intro received member
    rcases List.mem_append.mp member with member | member
    · exact receiving.own received member
    · exact own received (List.mem_of_mem_take member)
  whole := by
    have left : (line.take count).received exchange.index =
        (line.input.drop count).map TaggedByte.byte :=
      received_own fun received member => own received (List.mem_of_mem_drop member)
    change List.map _ (exchange.taken ++ line.input.take count) ++ [] ++
      ((line.take count).received exchange.index ++ line.coming exchange.index) = exchange.frame
    rw [left, ← receiving.whole, received_own own, List.map_append, List.append_nil,
      List.append_nil, List.append_assoc, ← List.append_assoc (List.map _ (line.input.take count)),
      ← List.map_append, List.take_append_drop]

theorem Receiving.lost_nil (receiving : line.Receiving exchange earlier lost)
    (own : ∀ received ∈ line.input, received.index = exchange.index)
    (enough : exchange.frame.length ≤ exchange.taken.length + line.input.length) : lost = [] := by
  have total := congrArg List.length receiving.whole
  rw [received_own own] at total
  simp only [List.length_append, List.length_map] at total
  apply List.eq_nil_of_length_eq_zero
  omega

theorem Receiving.complete (receiving : line.Receiving exchange earlier [])
    (all : exchange.frame.length ≤ exchange.taken.length) : exchange.Complete where
  own := receiving.own
  whole := by
    have total := congrArg List.length receiving.whole
    simp only [List.length_append, List.length_map, List.length_nil] at total
    have nothing : line.received exchange.index ++ line.coming exchange.index = [] := by
      apply List.eq_nil_of_length_eq_zero
      rw [List.length_append]
      omega
    rw [← receiving.whole, nothing, List.append_nil, List.append_nil]

theorem readable_eq_some {choice : SerialChoice} {count : Nat} {bytes : BytesRead count}
    (read : line.readable choice count = some bytes) :
    count ≤ line.input.length ∧ bytes.val = (line.input.take count).map TaggedByte.byte := by
  unfold readable at read
  split at read
  · rename_i enough
    cases read
    exact ⟨enough.2, rfl⟩
  · contradiction

end SerialLine

section Respond

variable {line : SerialLine} {choice : SerialChoice}

theorem respond_clear (succeeds : choice.succeeds = true) (buffer : ClearBuffer) :
    serialWorld.respond line choice (.clear buffer) =
      (true, (line.arrive choice.arrivals).cleared) := by
  simp only [serialWorld, serialRespond, succeeds, if_true]

theorem respond_write (succeeds : choice.succeeds = true) (request : List UInt8) :
    serialWorld.respond line choice (.write request) =
      (true, (line.arrive choice.arrivals).written
        ((line.arrive choice.arrivals).ask request choice.answer)) := by
  simp only [serialWorld, serialRespond, succeeds, if_true]

theorem respond_write_fails (fails : choice.succeeds = false) (request : List UInt8) :
    serialWorld.respond line choice (.write request) = (false, line.arrive choice.arrivals) := by
  simp only [serialWorld, serialRespond, fails, Bool.false_eq_true, if_false]

theorem respond_flush :
    serialWorld.respond line choice .flush = (choice.succeeds, line.arrive choice.arrivals) := rfl

theorem respond_readExact {count : Nat} {bytes : BytesRead count}
    (read : (line.arrive choice.arrivals).readable choice count = some bytes) :
    serialWorld.respond line choice (.readExact count) =
      (some bytes, (line.arrive choice.arrivals).take count) := by
  simp only [serialWorld, serialRespond, read, Option.isSome_some, if_true]

theorem respond_readExact_fails {count : Nat}
    (unread : (line.arrive choice.arrivals).readable choice count = none) :
    serialWorld.respond line choice (.readExact count) =
      (none, { line.arrive choice.arrivals with
        input := (line.arrive choice.arrivals).input.drop choice.consumed }) := by
  simp only [serialWorld, serialRespond, unread, Option.isSome_none, Bool.false_eq_true, if_false]

theorem respond_sent {call : SerialCall} (silent : ∀ action, call ≠ .send action) :
    (serialWorld.respond line choice call).2.sent = line.sent := by
  rw [← (line.arrive_frame choice.arrivals).2.1]
  cases call with
  | clear buffer | write request | readExact count =>
      dsimp only [serialWorld, serialRespond]
      split <;> rfl
  | flush => rfl
  | timestamp => rfl
  | send action => exact absurd rfl (silent action)

end Respond

end StsGateway.Modbus
