import StsGateway.Channels.Modbus.Rtu

namespace StsGateway.Modbus

open Data

/-! Which answers the timeseries read assembles, when they come in time.

The first read always asks for ten bytes, and an answer with one or two
registers has only seven or nine.
-/

/-- Nothing arrives but `answer`: its first ten bytes, or all of them, before
the first read gives up, and the others before the second does. -/
structure InTime (line : SerialLine) (request : ReadRequest) (answer : Answer)
    (clear write flush first remainder : SerialChoice) : Prop where
  cleared : clear.succeeds = true
  written : write.succeeds = true ∧ write.arrivals = [] ∧ write.answer = some answer
  own : ∀ index ∈ flush.arrivals ++ first.arrivals ++ remainder.arrivals,
    index = line.pending.length
  reads : first.succeeds = true ∧ remainder.succeeds = true
  start : min 10 (answer.frame request.unitId).length ≤
    flush.arrivals.length + first.arrivals.length
  rest : (answer.frame request.unitId).length ≤
    flush.arrivals.length + first.arrivals.length + remainder.arrivals.length

/-- `response` is exactly the frame, `parse_ok` accepts it, and `read_buffer` is the words. -/
def Assembled (rmodbus : Rmodbus) (request : ReadRequest) (words : List UInt16)
    (progress : Progress Panic (Option (rmodbus.ModbusRequest × List UInt8))) : Prop :=
  ∃ mreq, progress = .returned (some (mreq, (Answer.holdings words).frame request.unitId)) ∧
    rmodbus.parseOk mreq ((Answer.holdings words).frame request.unitId) = true ∧
    ModbusRtuChannel.extract rmodbus
      (some (mreq, (Answer.holdings words).frame request.unitId)) = some words

namespace SerialLine

variable {line : SerialLine} {exchange : Exchange} {earlier : List Exchange} {arrived : Nat}

/-- Only the answer to the request written last comes in, `arrived` bytes of it so far. -/
structure Fed (line : SerialLine) (exchange : Exchange) (earlier : List Exchange) (arrived : Nat) :
    Prop where
  receiving : line.Receiving exchange earlier []
  own : ∀ received ∈ line.input, received.index = exchange.index
  arrived : min exchange.frame.length arrived = exchange.taken.length + line.input.length

theorem Fed.arriveOne (fed : line.Fed exchange earlier arrived) :
    (line.arriveOne exchange.index).Fed exchange earlier (arrived + 1) := by
  have receiving := fed.receiving.arrive [exchange.index]
  have total := congrArg List.length fed.receiving.whole
  rw [received_own fed.own] at total
  simp only [List.length_append, List.length_map, List.length_nil] at total
  have counted := fed.arrived
  rcases line.arriveOne_cases exchange.index with ⟨stays, exhausted⟩ | ⟨byte, later, found, moved⟩
  · rw [exhausted, List.length_nil] at total
    rw [stays]
    refine ⟨fed.receiving, fed.own, ?_⟩
    omega
  · have coming : line.coming exchange.index = byte :: later := by rw [SerialLine.coming, found]; rfl
    rw [coming, List.length_cons] at total
    refine ⟨receiving, ?_, ?_⟩
    · rw [moved]
      intro received member
      rcases List.mem_append.mp member with member | member
      · exact fed.own received member
      · rw [List.mem_singleton.mp member]
    · rw [moved, List.length_append, List.length_singleton]
      omega

theorem Fed.arrive (fed : line.Fed exchange earlier arrived) {arrivals : List Nat}
    (own : ∀ index ∈ arrivals, index = exchange.index) :
    (line.arrive arrivals).Fed exchange earlier (arrived + arrivals.length) := by
  induction arrivals generalizing line arrived with
  | nil => exact fed
  | cons index rest ih =>
      rw [own index List.mem_cons_self, List.length_cons, Nat.add_comm rest.length,
        ← Nat.add_assoc]
      exact ih fed.arriveOne fun other member => own other (List.mem_cons_of_mem _ member)

theorem Fed.take (fed : line.Fed exchange earlier arrived) {count : Nat}
    (enough : count ≤ line.input.length) :
    (line.take count).Fed (exchange.takes (line.input.take count)) earlier arrived where
  receiving := fed.receiving.take fed.own count
  own received member := fed.own received (List.mem_of_mem_drop member)
  arrived := by
    have counted := fed.arrived
    change min exchange.frame.length arrived =
      (exchange.taken ++ line.input.take count).length + (line.input.drop count).length
    rw [List.length_append, List.length_take, List.length_drop]
    omega

theorem readable_of_enough {choice : SerialChoice} {count : Nat} (succeeds : choice.succeeds = true)
    (enough : count ≤ line.input.length) :
    ∃ bytes, line.readable choice count = some bytes := by
  rw [readable, dif_pos ⟨succeeds, enough⟩]
  exact ⟨_, rfl⟩

theorem readable_of_short {choice : SerialChoice} {count : Nat} (short : line.input.length < count) :
    line.readable choice count = none := by
  rw [readable, dif_neg fun enough => by omega]

end SerialLine

section Assembly

variable {rmodbus : Rmodbus} {request : ReadRequest} {words : List UInt16}
  {line : SerialLine} {clear write flush first remainder : SerialChoice}

theorem InTime.fed (lawful : rmodbus.Lawful) (fits : (Answer.holdings words).Fits request)
    (generates : (rmodbus.asked request).ok = true)
    (inTime : InTime line request (.holdings words) clear write flush first remainder) :
    ∃ exchange asked earlier,
      serialWorld.respond (serialWorld.respond line clear (.clear .all)).2 write
        (.write (rmodbus.asked request).request) = (true, asked) ∧
      exchange.index = line.pending.length ∧ exchange.taken = [] ∧
      exchange.request = decodeRequest (rmodbus.asked request).request ∧
      exchange.frame = (Answer.holdings words).frame request.unitId ∧
      ((asked.arrive flush.arrivals).arrive first.arrivals).Fed exchange earlier
        (flush.arrivals.length + first.arrivals.length) := by
  have quiet : (line.arrive clear.arrivals).cleared.Tagged := nofun
  have receiving := SerialLine.receiving_written quiet request.frame (some (.holdings words))
  have index : ((line.arrive clear.arrivals).cleared.ask request.frame
      (some (.holdings words))).index = line.pending.length :=
    (line.arrive_frame clear.arrivals).2.2
  have fed : SerialLine.Fed _ _ _ 0 := ⟨receiving, nofun, by rw [Nat.min_zero]; rfl⟩
  have flushing : ∀ other ∈ flush.arrivals, other = _ := fun other member =>
    (inTime.own other (by simp [member])).trans index.symm
  have reading : ∀ other ∈ first.arrivals, other = _ := fun other member =>
    (inTime.own other (by simp [member])).trans index.symm
  have started := (fed.arrive flushing).arrive reading
  rw [Nat.zero_add] at started
  rw [lawful.spells request generates, respond_clear inTime.cleared, respond_write inTime.written.1,
    inTime.written.2.1, inTime.written.2.2]
  exact ⟨_, _, _, rfl, index, rfl, rfl, (SerialLine.ask_frame _ fits).2, started⟩

/-- An answer that comes in time is assembled if and only if it has three registers or more. -/
theorem timeseries_assembles_iff (rmodbus : Rmodbus) (lawful : rmodbus.Lawful) (line : SerialLine)
    (request : ReadRequest) (words : List UInt16) (some : 1 ≤ request.elementsCount.toNat)
    (few : request.elementsCount.toNat ≤ 125)
    (all : words.length = request.elementsCount.toNat)
    (clear write flush first remainder : SerialChoice)
    (inTime : InTime line request (.holdings words) clear write flush first remainder) :
    Assembled rmodbus request words
      ((ModbusRtuChannel.timeseriesResponse rmodbus request).run serialWorld line
        [clear, write, flush, first, remainder]).1 ↔ 3 ≤ request.elementsCount.toNat := by
  have generates := lawful.generates request few some
  obtain ⟨exchange, asked, earlier, written, index, untaken, decoded, framed, fed⟩ :=
    inTime.fed lawful ⟨all, few⟩ generates
  have length := length_holdings_frame request.unitId words
  have counted := fed.arrived
  have start := inTime.start
  have rest := inTime.rest
  rw [framed, untaken, List.length_nil] at counted
  rw [ModbusRtuChannel.timeseriesResponse, Program.run_call_bind, Program.run_call_bind, written]
  simp only [if_true]
  rw [Program.run_call_bind, respond_flush, Program.run_call_bind]
  -- a frame of `5 + 2 * n` bytes has the ten of the first read from three registers on
  by_cases long : 3 ≤ request.elementsCount.toNat
  · have enough : 10 ≤ ((asked.arrive flush.arrivals).arrive first.arrivals).input.length := by omega
    obtain ⟨buf, read⟩ := SerialLine.readable_of_enough inTime.reads.1 enough
    have spelled := (SerialLine.readable_eq_some read).2
    have header := fed.receiving.header lawful decoded untaken fed.own enough
    rw [← spelled] at header
    obtain ⟨len, guessed, longer, announced⟩ := header.guesses lawful
    rw [respond_readExact read]
    simp only [guessed, if_pos longer]
    have remaining : ∀ other ∈ remainder.arrivals, other = exchange.index := fun other member =>
      (inTime.own other (by simp [member])).trans index.symm
    have fed := (fed.take enough).arrive remaining
    have counted := fed.arrived
    have ten : (exchange.takes (((asked.arrive flush.arrivals).arrive
        first.arrivals).input.take 10)).taken.length = 10 := by
      rw [Exchange.takes, untaken, List.nil_append, List.length_take, Nat.min_eq_left enough]
    change min exchange.frame.length _ = _ at counted
    change _ = exchange.frame.length - 10 at announced
    rw [framed, ten] at counted
    have whole : (len - 10).toNat ≤ (((((asked.arrive flush.arrivals).arrive
        first.arrivals).take 10).arrive remainder.arrivals).input).length := by
      rw [announced, framed]
      omega
    obtain ⟨rest, read⟩ := SerialLine.readable_of_enough inTime.reads.2 whole
    have last : Header rmodbus request _ _ _ _ _ := { header with receiving := fed.receiving }
    obtain ⟨_, _, response⟩ := last.response fed.own announced whole
    rw [← (SerialLine.readable_eq_some read).2] at response
    rw [Program.run_call_bind, respond_readExact read]
    apply iff_of_true _ long
    have accepted := lawful.accepts_holdings request words generates (by omega)
    refine ⟨(rmodbus.asked request).mreq, ?_, accepted, ?_⟩
    · change Progress.returned (Option.some (_, buf.val ++ rest.val)) = _
      rw [response, ← framed]
      rfl
    · rw [ModbusRtuChannel.extract, if_pos accepted]
      exact lawful.carries request words generates ⟨all, few⟩
  · have short : ((asked.arrive flush.arrivals).arrive first.arrivals).input.length < 10 := by omega
    rw [respond_readExact_fails (SerialLine.readable_of_short short)]
    apply iff_of_false _ long
    intro assembled
    obtain ⟨mreq, returned, _⟩ := assembled
    cases returned

end Assembly

namespace Sample

def registers (count : UInt16) : ReadRequest := ⟨1, 0, count⟩

def silent : SerialChoice := serial [] none

def answered (words : List UInt16) : List SerialChoice :=
  [silent, serial [] (some (.holdings words)), silent,
    serial (List.replicate (5 + 2 * words.length) 0) none, silent]

end Sample

theorem timeseries_assembles_three :
    Assembled Rmodbus.reference (Sample.registers 3) [1, 2, 3]
      ((ModbusRtuChannel.timeseriesResponse Rmodbus.reference (Sample.registers 3)).run serialWorld
        ⟨[], [], [], []⟩ (Sample.answered [1, 2, 3])).1 := by
  exact (timeseries_assembles_iff Rmodbus.reference Rmodbus.reference_lawful ⟨[], [], [], []⟩
    (Sample.registers 3) [1, 2, 3] (by decide) (by decide) rfl Sample.silent
    (Sample.serial [] (some (.holdings [1, 2, 3]))) Sample.silent
    (Sample.serial (List.replicate 11 0) none) Sample.silent
    ⟨rfl, ⟨rfl, rfl, rfl⟩, by decide, ⟨rfl, rfl⟩, by decide, by decide⟩).mpr (by decide)

/-- One register makes a frame of seven bytes, and the read of ten never succeeds. -/
theorem timeseries_loses_one_register :
    InTime ⟨[], [], [], []⟩ (Sample.registers 1) (.holdings [1]) Sample.silent
        (Sample.serial [] (some (.holdings [1]))) Sample.silent
        (Sample.serial (List.replicate 7 0) none) Sample.silent ∧
      ¬Assembled Rmodbus.reference (Sample.registers 1) [1]
        ((ModbusRtuChannel.timeseriesResponse Rmodbus.reference (Sample.registers 1)).run serialWorld
          ⟨[], [], [], []⟩ (Sample.answered [1])).1 := by
  have unread : (match ((ModbusRtuChannel.timeseriesResponse Rmodbus.reference
      (Sample.registers 1)).run serialWorld ⟨[], [], [], []⟩ (Sample.answered [1])).1 with
      | .returned none => true
      | _ => false) = true := by
    decide +kernel
  refine ⟨⟨rfl, ⟨rfl, rfl, rfl⟩, by decide, ⟨rfl, rfl⟩, by decide, by decide⟩, ?_⟩
  intro assembled
  obtain ⟨mreq, returned, _⟩ := assembled
  rw [returned] at unread
  contradiction

end StsGateway.Modbus
