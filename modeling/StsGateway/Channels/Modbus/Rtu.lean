import StsGateway.Channels.Modbus.SerialLine
import StsGateway.Channels.Modbus.Poll

namespace StsGateway.Modbus

open Data

/-! `channels/modbus/rtu.rs`: the polling loop of the RTU channel on the serial line. -/

namespace ModbusRtuChannel

variable (rmodbus : Rmodbus)

/-- The exchange of the attributes loop, up to the complete `response`. -/
def attributesResponse (request : ReadRequest) :
    SerialProgram (Option (rmodbus.ModbusRequest × List UInt8)) := do
  let _ ← Program.call (.clear .all)
  let generated := rmodbus.asked request
  if generated.ok then
    let written : Bool ← Program.call (SerialCall.write generated.request)
    if written then
      let _ ← Program.call .flush
      let first : Option (BytesRead 10) ←
        Program.call (SerialCall.readExact 10)
      match first with
      | none =>
          let _ ← Program.call (.clear .input)
          return none
      | some buf =>
          -- discards what has come in of the rest of this very answer
          let _ ← Program.call (.clear .input)
          match rmodbus.guessResponseFrameLen buf.val with
          | none =>
              let _ ← Program.call (.clear .input)
              return none
          | some len =>
              if 10 < len then
                let remainder : Option (BytesRead (len - 10).toNat) ←
                  Program.call (SerialCall.readExact (len - 10).toNat)
                let _ ← Program.call (.clear .input)
                return remainder.map fun rest => (generated.mreq, buf.val ++ rest.val)
              else return some (generated.mreq, buf.val)
    else return none
  else return none

/-- The timeseries loop clears only at the start, and writes also when
`generate_get_holdings` failed. -/
def timeseriesResponse (request : ReadRequest) :
    SerialProgram (Option (rmodbus.ModbusRequest × List UInt8)) := do
  let _ ← Program.call (.clear .all)
  let generated := rmodbus.asked request
  -- an error of the generation is only logged, and then the request is empty
  let written : Bool ← Program.call (SerialCall.write generated.request)
  if written then
    let _ ← Program.call .flush
    let first : Option (BytesRead 10) ←
        Program.call (SerialCall.readExact 10)
    match first with
    | none => return none
    | some buf =>
        match rmodbus.guessResponseFrameLen buf.val with
        | none => return none
        | some len =>
            if 10 < len then
              let remainder : Option (BytesRead (len - 10).toNat) ←
                Program.call (SerialCall.readExact (len - 10).toNat)
              return remainder.map fun rest => (generated.mreq, buf.val ++ rest.val)
            else return some (generated.mreq, buf.val)
  else return none

def extract (response : Option (rmodbus.ModbusRequest × List UInt8)) : Option (List UInt16) :=
  match response with
  | none => none
  | some (mreq, response) =>
      if rmodbus.parseOk mreq response then rmodbus.parseU16 mreq response else none

def groupRequest (slave : ModbusSlave) (regGroup : ModbusRegisterGroup) : ReadRequest :=
  ⟨slave.modbusId, regGroup.startingAddress, regGroup.elementsCount⟩

def attributesStep (profile : Profile) (slave : ModbusSlave) (attributes : HashMap String String)
    (regGroup : ModbusRegisterGroup) : SerialProgram (HashMap String String) := do
  let response ← attributesResponse rmodbus (groupRequest slave regGroup)
  match extract rmodbus response with
  | none => return attributes
  | some readBuffer =>
      let dataPointVec ← Program.ofExcept
        (collectPoints (parsePoint profile readBuffer) regGroup.dataPoints)
      return insertPoints attributes dataPointVec

def timeseriesStep (profile : Profile) (slave : ModbusSlave) (timeseries : List OneTelemetry)
    (regGroup : ModbusRegisterGroup) : SerialProgram (List OneTelemetry) := do
  let response ← timeseriesResponse rmodbus (groupRequest slave regGroup)
  match extract rmodbus response with
  | none => return timeseries
  | some readBuffer =>
      let dataPointVec ← Program.ofExcept
        (collectPoints (parsePoint profile readBuffer) regGroup.dataPoints)
      let now ← Program.call .timestamp
      return timeseries ++ [OneTelemetry.fromDataPoints dataPointVec now]

def slaveStep (profile : Profile) (entry : ModbusSlave × ModbusRegisterMap) : SerialProgram Unit := do
  let attributes ← entry.2.attributes.foldlM (attributesStep rmodbus profile entry.1) ∅
  let timeseries ← entry.2.timeseries.foldlM (timeseriesStep rmodbus profile entry.1) []
  let _ ← Program.call (.send (.sendBoth (entry.1.deviceName, attributes)
    (entry.1.deviceName, timeseries)))
  return ()

def cycle (profile : Profile) (registerMaps : List (ModbusSlave × ModbusRegisterMap)) :
    SerialProgram Unit :=
  registerMaps.foldlM (fun _ entry => slaveStep rmodbus profile entry) ()

theorem timeseriesResponse_completes (request : ReadRequest) :
    (timeseriesResponse rmodbus request).Completes fun call => call.onPort = true := by
  apply Program.Completes.call_bind (by rfl)
  intro cleared
  apply Program.Completes.call_bind (by rfl)
  intro written
  split
  · apply Program.Completes.call_bind (by rfl)
    intro flushed
    apply Program.Completes.call_bind (by rfl)
    intro first
    split
    · trivial
    · split
      · trivial
      · split
        · exact Program.Completes.call_bind (by rfl) fun _ => trivial
        · trivial
  · trivial

theorem attributesResponse_completes (request : ReadRequest) :
    (attributesResponse rmodbus request).Completes fun call => call.onPort = true := by
  apply Program.Completes.call_bind (by rfl)
  intro cleared
  dsimp only
  split
  · apply Program.Completes.call_bind (by rfl)
    intro written
    split
    · apply Program.Completes.call_bind (by rfl)
      intro flushed
      apply Program.Completes.call_bind (by rfl)
      intro first
      split
      · exact Program.Completes.call_bind (by rfl) fun _ => trivial
      · apply Program.Completes.call_bind (by rfl)
        intro recleared
        split
        · exact Program.Completes.call_bind (by rfl) fun _ => trivial
        · split
          · apply Program.Completes.call_bind (by rfl)
            intro remainder
            exact Program.Completes.call_bind (by rfl) fun _ => trivial
          · trivial
    · trivial
  · trivial

end ModbusRtuChannel

/-- A read that succeeds finds nothing in the input buffer, and gets nothing while
it waits, that answers an earlier request than the one written last. -/
def NoLateByte (line : SerialLine) (choice : SerialChoice) : SerialCall → Prop
  | .readExact count => ((line.arrive choice.arrivals).readable choice count).isSome = true →
      ∀ received ∈ (line.arrive choice.arrivals).input, received.index + 1 = line.pending.length
  | _ => True

instance (line : SerialLine) (choice : SerialChoice) : ∀ call, Decidable (NoLateByte line choice call)
  | .readExact _ => inferInstanceAs (Decidable (_ → _))
  | .clear _ | .write _ | .flush | .timestamp | .send _ => isTrue trivial

/-! ### What a sent message must be -/

structure GroupRun where
  polled : PolledGroup
  exchange : Option Exchange

/-- The words of the group are those of the complete answer to the group's own request. -/
def GroupRun.Matched (slave : ModbusSlave) (run : GroupRun) : Prop :=
  ∀ words, run.polled.words = some words → ∃ exchange, run.exchange = some exchange ∧
    exchange.request = some (ModbusRtuChannel.groupRequest slave run.polled.group) ∧
    exchange.answer = some (.holdings words) ∧ exchange.Complete

/-- The message is what the poll makes of matched groups, and the exchanges
are all the exchanges of this poll. -/
def MatchedRight (profile : Profile) (registerMaps : List (ModbusSlave × ModbusRegisterMap))
    (sent : RtuSent) : Prop :=
  ∃ entry ∈ registerMaps, ∃ clock : Nat → Int, ∃ attributes timeseries : List GroupRun,
    attributes.map (fun run => run.polled.group) = entry.2.attributes ∧
    timeseries.map (fun run => run.polled.group) = entry.2.timeseries ∧
    (∀ run ∈ attributes ++ timeseries, run.Matched entry.1) ∧
    sent.exchanges = ((attributes ++ timeseries).filterMap GroupRun.exchange).reverse ∧
    ModbusRtuChannel.poll profile clock entry.1 (attributes.map GroupRun.polled)
      (timeseries.map GroupRun.polled) = .ok sent.action

/-! ### One exchange -/

section Polling

variable {rmodbus : Rmodbus} {profile : Profile} {request : ReadRequest}
  {registerMaps : List (ModbusSlave × ModbusRegisterMap)} {line : SerialLine}
  {exchange : Exchange} {earlier : List Exchange} {lost buf : List UInt8}

structure Settled (profile : Profile) (registerMaps : List (ModbusSlave × ModbusRegisterMap))
    (line : SerialLine) : Prop where
  tagged : line.Tagged
  matched : ∀ sent ∈ line.sent, MatchedRight profile registerMaps sent

theorem Settled.arrive (settled : Settled profile registerMaps line) (arrivals : List Nat) :
    Settled profile registerMaps (line.arrive arrivals) where
  tagged := settled.tagged.arrive arrivals
  matched := by
    rw [(line.arrive_frame arrivals).2.1]
    exact settled.matched

theorem Settled.respond (settled : Settled profile registerMaps line) (choice : SerialChoice)
    (call : SerialCall) (silent : ∀ action, call ≠ .send action) :
    Settled profile registerMaps (serialWorld.respond line choice call).2 where
  tagged := settled.tagged.respond choice call
  matched := by
    rw [respond_sent silent]
    exact settled.matched

/-- The group made at most one exchange, and a response is a complete answer
to the group's own request. -/
structure Responded (rmodbus : Rmodbus) (request : ReadRequest) (earlier : List Exchange)
    (response : Option (rmodbus.ModbusRequest × List UInt8)) (line : SerialLine)
    (exchange : Option Exchange) : Prop where
  exchanges : line.exchanges = exchange.toList ++ earlier
  answered : ∀ mreq bytes, response = some (mreq, bytes) →
    (rmodbus.asked request).ok = true ∧ mreq = (rmodbus.asked request).mreq ∧
      ∃ own words, exchange = some own ∧ own.request = some request ∧
        own.answer = some (.holdings words) ∧ own.Complete ∧
        (Answer.holdings words).Fits request ∧
        bytes = (Answer.holdings words).frame request.unitId

theorem responded_none (exchanges : line.exchanges = earlier) :
    ∃ exchange, Responded rmodbus request earlier none line exchange :=
  ⟨none, exchanges, nofun⟩

theorem Exchange.holdings_of_long (long : 10 ≤ exchange.frame.length) :
    ∃ asked words, exchange.request = some asked ∧ exchange.answer = some (.holdings words) ∧
      (Answer.holdings words).Fits asked ∧
      exchange.frame = (Answer.holdings words).frame asked.unitId := by
  cases answered : exchange.answer with
  | none =>
      have empty : exchange.frame = [] := by simp [Exchange.frame, answered]
      rw [empty] at long
      contradiction
  | some given =>
      obtain ⟨asked, requested, fits⟩ := exchange.fits given answered
      rw [Option.mem_def] at requested
      have framed : exchange.frame = given.frame asked.unitId := by
        rw [Exchange.frame, requested, answered]
      cases given with
      | holdings words => exact ⟨asked, words, requested, rfl, fits, framed⟩
      | exception code =>
          rw [framed, length_exception_frame] at long
          omega

/-- The first ten bytes have been taken: they begin the answer to `request`. -/
structure Header (rmodbus : Rmodbus) (request : ReadRequest) (line : SerialLine)
    (exchange : Exchange) (earlier : List Exchange) (lost buf : List UInt8) : Prop where
  receiving : line.Receiving exchange earlier lost
  taken : exchange.taken.map TaggedByte.byte = buf
  start : buf = exchange.frame.take 10
  long : 10 ≤ exchange.frame.length
  ok : (rmodbus.asked request).ok = true
  requested : exchange.request = some request

theorem SerialLine.Receiving.header (lawful : rmodbus.Lawful)
    (receiving : line.Receiving exchange earlier [])
    (requested : exchange.request = decodeRequest (rmodbus.asked request).request)
    (untaken : exchange.taken = []) (own : ∀ received ∈ line.input, received.index = exchange.index)
    (enough : 10 ≤ line.input.length) :
    Header rmodbus request (line.take 10) (exchange.takes (line.input.take 10)) earlier []
      ((line.input.take 10).map TaggedByte.byte) := by
  have whole := receiving.whole
  rw [untaken, received_own own, List.map_nil, List.nil_append, List.nil_append] at whole
  have long : 10 ≤ exchange.frame.length := by
    rw [← whole, List.length_append, List.length_map]
    omega
  obtain ⟨asked, words, sent, _⟩ := exchange.holdings_of_long long
  have ok : (rmodbus.asked request).ok = true := by
    by_contra failed
    rw [lawful.untouched request (by simpa using failed), sent] at requested
    contradiction
  exact {
    receiving := receiving.take own 10
    taken := by rw [Exchange.takes, untaken, List.nil_append]
    start := by
      change _ = exchange.frame.take 10
      rw [← whole, List.take_append_of_le_length (by rw [List.length_map]; exact enough),
        List.map_take]
    long := long
    ok := ok
    requested := by
      change exchange.request = _
      rw [requested, lawful.spells request ok, decodeRequest_frame] }

theorem Header.guesses (lawful : rmodbus.Lawful)
    (header : Header rmodbus request line exchange earlier lost buf) :
    ∃ len, rmodbus.guessResponseFrameLen buf = some len ∧ 10 < len ∧
      (len - 10).toNat = exchange.frame.length - 10 := by
  obtain ⟨asked, words, _, _, fits, framed⟩ := exchange.holdings_of_long header.long
  have long := header.long
  rw [header.start, framed] at *
  exact lawful.guesses_frame asked.unitId (by rw [fits.1]; exact fits.2) long

theorem Header.response (header : Header rmodbus request line exchange earlier lost buf)
    {count : Nat} (own : ∀ received ∈ line.input, received.index = exchange.index)
    (rest : count = exchange.frame.length - 10) (enough : count ≤ line.input.length) :
    (line.take count).Receiving (exchange.takes (line.input.take count)) earlier [] ∧
      (exchange.takes (line.input.take count)).Complete ∧
      buf ++ (line.input.take count).map TaggedByte.byte = exchange.frame := by
  have long := header.long
  have taken : exchange.taken.length = 10 := by
    rw [← List.length_map TaggedByte.byte, header.taken, header.start, List.length_take,
      Nat.min_eq_left long]
  -- bytes lost to a clear would leave too few for the length the header announces
  have kept := header.receiving.lost_nil own (by omega)
  have receiving := header.receiving
  rw [kept] at receiving
  have complete := (receiving.take own count).complete (by
    change exchange.frame.length ≤ (exchange.taken ++ line.input.take count).length
    rw [List.length_append, List.length_take, Nat.min_eq_left enough]
    omega)
  refine ⟨receiving.take own count, complete, ?_⟩
  rw [← header.taken, ← List.map_append]
  exact complete.whole

theorem Header.finish (header : Header rmodbus request line exchange earlier lost buf) {count : Nat}
    (own : ∀ received ∈ line.input, received.index = exchange.index)
    (rest : count = exchange.frame.length - 10) (enough : count ≤ line.input.length) :
    ∃ complete, Responded rmodbus request earlier
      (some ((rmodbus.asked request).mreq, buf ++ (line.input.take count).map TaggedByte.byte))
      (line.take count) complete := by
  obtain ⟨receiving, complete, response⟩ := header.response own rest enough
  obtain ⟨asked, words, requested, answered, fits, framed⟩ := exchange.holdings_of_long header.long
  rw [header.requested] at requested
  cases requested
  refine ⟨some (exchange.takes (line.input.take count)), receiving.latest, ?_⟩
  intro mreq bytes responded
  cases responded
  exact ⟨header.ok, rfl, _, words, rfl, header.requested, answered, complete, fits,
    response.trans framed⟩

variable {α : Type} {post : α → SerialLine → Prop}

theorem clear_ensures {buffer : ClearBuffer} {next : Bool → SerialProgram α}
    (settled : Settled profile registerMaps line)
    (continues : ∀ succeeds after, Settled profile registerMaps after →
      after.exchanges = line.exchanges →
      (next succeeds).Ensures serialWorld NoLateByte (Settled profile registerMaps) post after) :
    (Program.call (SerialCall.clear buffer) >>= next).Ensures serialWorld NoLateByte
      (Settled profile registerMaps) post line := by
  apply Program.Ensures.call_bind
  intro choice _
  have cleared := settled.respond choice (.clear buffer) nofun
  refine ⟨cleared, continues _ _ cleared ?_⟩
  rw [← (line.arrive_frame choice.arrivals).1]
  change (if choice.succeeds then _ else _ : SerialLine).exchanges = _
  split <;> rfl

theorem readExact_ensures {count : Nat} {next : Option (BytesRead count) → SerialProgram α}
    (settled : Settled profile registerMaps line)
    (receiving : line.Receiving exchange earlier lost)
    (failed : ∀ after, Settled profile registerMaps after → after.exchanges = exchange :: earlier →
      (next none).Ensures serialWorld NoLateByte (Settled profile registerMaps) post after)
    (succeeded : ∀ (before : SerialLine) (bytes : BytesRead count),
      before.Receiving exchange earlier lost →
      (∀ received ∈ before.input, received.index = exchange.index) → count ≤ before.input.length →
      bytes.val = (before.input.take count).map TaggedByte.byte →
      Settled profile registerMaps (before.take count) →
      (next (some bytes)).Ensures serialWorld NoLateByte (Settled profile registerMaps) post
        (before.take count)) :
    (Program.call (SerialCall.readExact count) >>= next).Ensures serialWorld NoLateByte
      (Settled profile registerMaps) post line := by
  apply Program.Ensures.call_bind
  intro choice timely
  have after := settled.respond choice (.readExact count) nofun
  refine ⟨after, ?_⟩
  have receiving := receiving.arrive choice.arrivals
  cases read : (line.arrive choice.arrivals).readable choice count with
  | none =>
      rw [respond_readExact_fails read] at after ⊢
      exact failed _ after receiving.latest
  | some bytes =>
      obtain ⟨enough, spelled⟩ := SerialLine.readable_eq_some read
      have own : ∀ received ∈ (line.arrive choice.arrivals).input,
          received.index = exchange.index := by
        intro received member
        have latest := timely (by rw [read]; rfl) received member
        have index := receiving.index
        rw [(line.arrive_frame choice.arrivals).2.2] at index
        omega
      rw [respond_readExact read] at after ⊢
      exact succeeded _ bytes receiving own enough spelled after

/-- The clear after the first read may lose bytes that the rest of the answer needs. -/
theorem clearInput_ensures {next : Bool → SerialProgram α}
    (settled : Settled profile registerMaps line)
    (header : Header rmodbus request line exchange earlier lost buf)
    (continues : ∀ succeeds after more, Settled profile registerMaps after →
      Header rmodbus request after exchange earlier more buf →
      (next succeeds).Ensures serialWorld NoLateByte (Settled profile registerMaps) post after) :
    (Program.call (SerialCall.clear .input) >>= next).Ensures serialWorld NoLateByte
      (Settled profile registerMaps) post line := by
  apply Program.Ensures.call_bind
  intro choice _
  have cleared := settled.respond choice (.clear .input) nofun
  obtain ⟨more, receiving⟩ := (header.receiving.arrive choice.arrivals).clear choice.succeeds
  exact ⟨cleared, continues _ _ more cleared { header with receiving }⟩

theorem firstRead_ensures (lawful : rmodbus.Lawful) {next : Option (BytesRead 10) → SerialProgram α}
    {refused : SerialProgram α} (settled : Settled profile registerMaps line)
    (unwritten : ∀ after, Settled profile registerMaps after → after.exchanges = line.exchanges →
      refused.Ensures serialWorld NoLateByte (Settled profile registerMaps) post after)
    (unread : ∀ exchange after, Settled profile registerMaps after →
      after.exchanges = exchange :: line.exchanges →
      (next none).Ensures serialWorld NoLateByte (Settled profile registerMaps) post after)
    (read : ∀ exchange (buf : BytesRead 10) after, Settled profile registerMaps after →
      Header rmodbus request after exchange line.exchanges [] buf.val →
      (next (some buf)).Ensures serialWorld NoLateByte (Settled profile registerMaps) post after) :
    (do
      let written : Bool ← Program.call (SerialCall.write (rmodbus.asked request).request)
      if written then
        let _ ← Program.call SerialCall.flush
        let first : Option (BytesRead 10) ← Program.call (SerialCall.readExact 10)
        next first
      else refused).Ensures serialWorld NoLateByte (Settled profile registerMaps) post line := by
  apply Program.Ensures.call_bind
  intro sending _
  have sent := settled.respond sending (.write (rmodbus.asked request).request) nofun
  refine ⟨sent, ?_⟩
  have same := (line.arrive_frame sending.arrivals).1
  cases accepted : sending.succeeds with
  | false =>
      rw [respond_write_fails accepted] at sent ⊢
      exact unwritten _ sent same
  | true =>
      rw [respond_write accepted] at sent ⊢
      have receiving := SerialLine.receiving_written (settled.arrive sending.arrivals).tagged
        (rmodbus.asked request).request sending.answer
      rw [same] at receiving
      apply Program.Ensures.call_bind
      intro flushing _
      have flushed := sent.respond flushing .flush nofun
      refine ⟨flushed, ?_⟩
      apply readExact_ensures flushed (receiving.arrive flushing.arrivals) (unread _)
      intro before buf receiving own enough spelled after
      apply read _ buf _ after
      rw [spelled]
      exact receiving.header lawful rfl rfl own enough

theorem remainder_ensures {len : UInt8} {next : Option (BytesRead (len - 10).toNat) → SerialProgram α}
    (settled : Settled profile registerMaps line)
    (header : Header rmodbus request line exchange earlier lost buf)
    (announced : (len - 10).toNat = exchange.frame.length - 10)
    (unread : ∀ after, Settled profile registerMaps after → after.exchanges = exchange :: earlier →
      (next none).Ensures serialWorld NoLateByte (Settled profile registerMaps) post after)
    (read : ∀ (rest : BytesRead (len - 10).toNat) after complete,
      Settled profile registerMaps after →
      Responded rmodbus request earlier (some ((rmodbus.asked request).mreq, buf ++ rest.val)) after
        complete →
      (next (some rest)).Ensures serialWorld NoLateByte (Settled profile registerMaps) post after) :
    (Program.call (SerialCall.readExact (len - 10).toNat) >>= next).Ensures serialWorld NoLateByte
      (Settled profile registerMaps) post line := by
  apply readExact_ensures settled header.receiving unread
  intro before rest receiving own enough spelled after
  have header : Header rmodbus request before exchange earlier lost buf :=
    { header with receiving }
  obtain ⟨complete, responded⟩ := header.finish own announced enough
  apply read rest _ complete after
  rw [spelled]
  exact responded

namespace ModbusRtuChannel

theorem timeseriesResponse_ensures (lawful : rmodbus.Lawful) (request : ReadRequest)
    (settled : Settled profile registerMaps line) :
    (timeseriesResponse rmodbus request).Ensures serialWorld NoLateByte
      (Settled profile registerMaps)
      (fun response after => Settled profile registerMaps after ∧
        ∃ exchange, Responded rmodbus request line.exchanges response after exchange) line := by
  apply clear_ensures settled
  intro _ cleared settled same
  rw [← same]
  apply firstRead_ensures lawful settled
  · intro after settled same
    exact ⟨settled, responded_none same⟩
  · intro exchange after settled latest
    exact ⟨settled, some exchange, latest, nofun⟩
  · intro exchange buf after settled header
    obtain ⟨len, guessed, longer, announced⟩ := header.guesses lawful
    simp only [guessed, if_pos longer]
    apply remainder_ensures settled header announced
    · intro last settled latest
      exact ⟨settled, some exchange, latest, nofun⟩
    · intro rest last complete settled responded
      exact ⟨settled, complete, responded⟩

theorem attributesResponse_ensures (lawful : rmodbus.Lawful) (request : ReadRequest)
    (settled : Settled profile registerMaps line) :
    (attributesResponse rmodbus request).Ensures serialWorld NoLateByte
      (Settled profile registerMaps)
      (fun response after => Settled profile registerMaps after ∧
        ∃ exchange, Responded rmodbus request line.exchanges response after exchange) line := by
  apply clear_ensures settled
  intro _ cleared settled same
  rw [← same]
  dsimp only
  split
  · apply firstRead_ensures lawful settled
    · intro after settled same
      exact ⟨settled, responded_none same⟩
    · intro exchange after settled latest
      apply clear_ensures settled
      intro _ last settled same
      exact ⟨settled, some exchange, same.trans latest, nofun⟩
    · intro exchange buf after settled header
      apply clearInput_ensures settled header
      intro _ cleared more settled header
      obtain ⟨len, guessed, longer, announced⟩ := header.guesses lawful
      simp only [guessed, if_pos longer]
      apply remainder_ensures settled header announced
      · intro last settled latest
        apply clear_ensures settled
        intro _ last settled same
        exact ⟨settled, some exchange, same.trans latest, nofun⟩
      · intro rest last complete settled responded
        apply clear_ensures settled
        intro _ last settled same
        exact ⟨settled, complete, { responded with exchanges := same.trans responded.exchanges }⟩
  · exact ⟨settled, responded_none rfl⟩

end ModbusRtuChannel

/-! ### One group, one slave, any number of cycles -/

theorem Responded.extracted (lawful : rmodbus.Lawful)
    {response : Option (rmodbus.ModbusRequest × List UInt8)} {made : Option Exchange}
    (responded : Responded rmodbus request earlier response line made) {words : List UInt16}
    (extracted : ModbusRtuChannel.extract rmodbus response = some words) :
    ∃ own, made = some own ∧ own.request = some request ∧
      own.answer = some (.holdings words) ∧ own.Complete ∧ (Answer.holdings words).Fits request := by
  cases response with
  | none => contradiction
  | some response =>
      obtain ⟨mreq, bytes⟩ := response
      obtain ⟨ok, built, own, carried, is, requested, answered, complete, fits, framed⟩ :=
        responded.answered mreq bytes rfl
      dsimp only [ModbusRtuChannel.extract] at extracted
      split at extracted
      · rw [built, framed, lawful.carries request carried ok fits] at extracted
        cases extracted
        exact ⟨own, is, requested, answered, complete, fits⟩
      · contradiction

theorem Responded.matched (lawful : rmodbus.Lawful) {slave : ModbusSlave}
    {regGroup : ModbusRegisterGroup} {response : Option (rmodbus.ModbusRequest × List UInt8)}
    {made : Option Exchange}
    (responded : Responded rmodbus (ModbusRtuChannel.groupRequest slave regGroup) earlier response
      line made) :
    ∃ run : GroupRun, run.polled.group = regGroup ∧
      run.polled.words = ModbusRtuChannel.extract rmodbus response ∧ run.exchange = made ∧
      run.Matched slave := by
  have complete : ∀ words, ModbusRtuChannel.extract rmodbus response = some words →
      words.length = regGroup.elementsCount.toNat ∧ regGroup.elementsCount.toNat ≤ 125 := by
    intro words extracted
    obtain ⟨own, _, _, _, _, fits⟩ := responded.extracted lawful extracted
    exact fits
  refine ⟨⟨⟨regGroup, _, complete⟩, made⟩, rfl, rfl, rfl, ?_⟩
  intro words extracted
  obtain ⟨own, is, requested, answered, whole, _⟩ := responded.extracted lawful extracted
  exact ⟨own, is, requested, answered, whole⟩

/-- The groups polled so far in one of the two loops, `before` being the runs
of the loop before it. -/
structure PolledRuns (profile : Profile)
    (registerMaps : List (ModbusSlave × ModbusRegisterMap)) (slave : ModbusSlave)
    (before : List GroupRun) (regGroups : List ModbusRegisterGroup) (runs : List GroupRun)
    (line : SerialLine) : Prop where
  settled : Settled profile registerMaps line
  groups : runs.map (fun run => run.polled.group) = regGroups
  matched : ∀ run ∈ before ++ runs, run.Matched slave
  exchanges : line.exchanges = ((before ++ runs).filterMap GroupRun.exchange).reverse

variable {slave : ModbusSlave} {regGroup : ModbusRegisterGroup}
  {regGroups : List ModbusRegisterGroup} {before runs : List GroupRun}

theorem PolledRuns.concat (polled : PolledRuns profile registerMaps slave before regGroups runs line)
    {run : GroupRun} {after : SerialLine} (settled : Settled profile registerMaps after)
    (group : run.polled.group = regGroup) (matched : run.Matched slave)
    (exchanges : after.exchanges = run.exchange.toList ++ line.exchanges) :
    PolledRuns profile registerMaps slave before (regGroups ++ [regGroup]) (runs ++ [run]) after where
  settled := settled
  groups := by rw [List.map_append, polled.groups, List.map_singleton, group]
  matched := by
    intro other member
    rw [← List.append_assoc] at member
    rcases List.mem_append.mp member with member | member
    · exact polled.matched other member
    · rw [List.mem_singleton.mp member]
      exact matched
  exchanges := by
    rw [exchanges, polled.exchanges, ← List.append_assoc, List.filterMap_append,
      List.reverse_append]
    cases made : run.exchange <;> simp [made]

def Telemetries (profile : Profile) (runs : List GroupRun) (telemetries : List OneTelemetry) : Prop :=
  ∀ clock : Nat → Int, (∀ index telemetry, telemetries[index]? = some telemetry →
      clock index = telemetry.ts) →
    (runs.map GroupRun.polled).foldlM (timeseriesGroup (ModbusRtuChannel.parsePoint profile) clock) [] =
      .ok telemetries

theorem Telemetries.clock {telemetries : List OneTelemetry}
    (read : Telemetries profile runs telemetries) :
    ∃ clock, (runs.map GroupRun.polled).foldlM
      (timeseriesGroup (ModbusRtuChannel.parsePoint profile) clock) [] = .ok telemetries := by
  refine ⟨fun index => (telemetries[index]?.map OneTelemetry.ts).getD 0, read _ ?_⟩
  intro index telemetry found
  rw [found]
  rfl

namespace ModbusRtuChannel

theorem attributesStep_ensures (lawful : rmodbus.Lawful) {values : HashMap String String}
    (polled : PolledRuns profile registerMaps slave before regGroups runs line)
    (read : (runs.map GroupRun.polled).foldlM (attributesGroup (parsePoint profile)) ∅ = .ok values) :
    (attributesStep rmodbus profile slave values regGroup).Ensures serialWorld NoLateByte
      (Settled profile registerMaps)
      (fun after last => ∃ runs,
        PolledRuns profile registerMaps slave before (regGroups ++ [regGroup]) runs last ∧
        (runs.map GroupRun.polled).foldlM (attributesGroup (parsePoint profile)) ∅ = .ok after)
      line := by
  apply Program.Ensures.bind
    (attributesResponse_ensures lawful (groupRequest slave regGroup) polled.settled)
  intro response last holds
  obtain ⟨settled, exchange, responded⟩ := holds
  obtain ⟨run, group, words, rfl, matched⟩ := responded.matched lawful
  have appended := polled.concat settled group matched responded.exchanges
  have step : ∀ after, attributesGroup (parsePoint profile) values run.polled = .ok after →
      ((runs ++ [run]).map GroupRun.polled).foldlM (attributesGroup (parsePoint profile)) ∅ =
        .ok after := by
    intro after grouped
    rw [List.map_append, List.foldlM_append, read, ok_bind, List.map_singleton, List.foldlM_cons,
      grouped]
    rfl
  cases extracted : extract rmodbus response with
  | none =>
      refine ⟨_, appended, step _ ?_⟩
      rw [attributesGroup, words, extracted]
  | some readBuffer =>
      apply Program.Ensures.ofExcept_bind
      intro points collected
      refine ⟨_, appended, step _ ?_⟩
      rw [attributesGroup, words, extracted, group]
      dsimp only
      rw [collected]
      rfl

theorem timeseriesStep_ensures (lawful : rmodbus.Lawful) {telemetries : List OneTelemetry}
    (polled : PolledRuns profile registerMaps slave before regGroups runs line)
    (read : Telemetries profile runs telemetries) :
    (timeseriesStep rmodbus profile slave telemetries regGroup).Ensures serialWorld NoLateByte
      (Settled profile registerMaps)
      (fun after last => ∃ runs,
        PolledRuns profile registerMaps slave before (regGroups ++ [regGroup]) runs last ∧
        Telemetries profile runs after) line := by
  apply Program.Ensures.bind
    (timeseriesResponse_ensures lawful (groupRequest slave regGroup) polled.settled)
  intro response last holds
  obtain ⟨settled, exchange, responded⟩ := holds
  obtain ⟨run, group, words, rfl, matched⟩ := responded.matched lawful
  have appended := polled.concat settled group matched responded.exchanges
  cases extracted : extract rmodbus response with
  | none =>
      refine ⟨_, appended, ?_⟩
      intro clock stamped
      rw [List.map_append, List.foldlM_append, read clock stamped, ok_bind, List.map_singleton]
      simp [timeseriesGroup, words, extracted]
  | some readBuffer =>
      apply Program.Ensures.ofExcept_bind
      intro points collected
      apply Program.Ensures.call_bind
      intro choice _
      have stayed := settled.respond choice .timestamp (by intro action same; cases same)
      refine ⟨stayed, runs ++ [run], ?_, ?_⟩
      · exact { appended with
          settled := stayed
          exchanges := (last.arrive_frame choice.arrivals).1.trans appended.exchanges }
      · intro clock stamped
        have earlier : ∀ index telemetry, telemetries[index]? = some telemetry →
            clock index = telemetry.ts := by
          intro index telemetry found
          apply stamped
          rw [List.getElem?_append_left (List.getElem?_eq_some_iff.mp found).1]
          exact found
        have now : clock telemetries.length = choice.now :=
          stamped _ (OneTelemetry.fromDataPoints points choice.now) List.getElem?_concat_length
        rw [List.map_append, List.foldlM_append, read clock earlier, ok_bind, List.map_singleton]
        simp [timeseriesGroup, words, extracted, group, collected, now, serialWorld, serialRespond]

theorem slaveStep_ensures (lawful : rmodbus.Lawful)
    {entry : ModbusSlave × ModbusRegisterMap} (member : entry ∈ registerMaps)
    (settled : Settled profile registerMaps line) (fresh : line.exchanges = []) :
    (slaveStep rmodbus profile entry).Ensures serialWorld NoLateByte (Settled profile registerMaps)
      (fun _ after => Settled profile registerMaps after ∧ after.exchanges = []) line := by
  have none : PolledRuns profile registerMaps entry.1 [] [] [] line :=
    ⟨settled, rfl, nofun, fresh⟩
  apply Program.Ensures.bind (Program.Ensures.foldlM
    (fun regGroups values last => ∃ runs,
      PolledRuns profile registerMaps entry.1 [] regGroups runs last ∧
      (runs.map GroupRun.polled).foldlM (attributesGroup (parsePoint profile)) ∅ = .ok values)
    ⟨[], none, rfl⟩ fun _ _ _ _ _ _ holds =>
      attributesStep_ensures lawful holds.choose_spec.1 holds.choose_spec.2)
  intro values between holds
  obtain ⟨attributes, polledAttributes, readAttributes⟩ := holds
  have none : PolledRuns profile registerMaps entry.1 attributes [] [] between := {
    settled := polledAttributes.settled
    groups := rfl
    matched := by simpa using polledAttributes.matched
    exchanges := by simpa using polledAttributes.exchanges }
  apply Program.Ensures.bind (Program.Ensures.foldlM
    (fun regGroups telemetries last => ∃ runs,
      PolledRuns profile registerMaps entry.1 attributes regGroups runs last ∧
      Telemetries profile runs telemetries)
    ⟨[], none, fun _ _ => rfl⟩ fun _ _ _ _ _ _ holds =>
      timeseriesStep_ensures lawful holds.choose_spec.1 holds.choose_spec.2)
  intro telemetries last holds
  obtain ⟨timeseries, polled, readTimeseries⟩ := holds
  apply Program.Ensures.call_bind
  intro choice _
  have arrived := polled.settled.arrive choice.arrivals
  have delivered : Settled profile registerMaps
      (serialWorld.respond last choice (.send (.sendBoth (entry.1.deviceName, values)
        (entry.1.deviceName, telemetries)))).2 := by
    refine ⟨arrived.tagged, ?_⟩
    intro sent present
    rcases List.mem_append.mp present with present | present
    · exact arrived.matched sent present
    · rw [List.mem_singleton.mp present]
      obtain ⟨clock, read⟩ := readTimeseries.clock
      refine ⟨entry, member, clock, attributes, timeseries, polledAttributes.groups, polled.groups,
        polled.matched, (last.arrive_frame choice.arrivals).1.trans polled.exchanges, ?_⟩
      rw [poll, pollSlave, readAttributes, ok_bind, read, ok_bind]
  exact ⟨delivered, delivered, rfl⟩

theorem cycle_ensures (lawful : rmodbus.Lawful) (settled : Settled profile registerMaps line)
    (fresh : line.exchanges = []) :
    (cycle rmodbus profile registerMaps).Ensures serialWorld NoLateByte
      (Settled profile registerMaps)
      (fun _ after => Settled profile registerMaps after ∧ after.exchanges = []) line := by
  apply Program.Ensures.foldlM
    (fun _ _ after => Settled profile registerMaps after ∧ after.exchanges = []) ⟨settled, fresh⟩
  intro earlier entry later split _ before holds
  exact slaveStep_ensures lawful (by simp [split]) holds.1 holds.2

end ModbusRtuChannel

/-- Over any number of cycles, also when the last one is cut short: every message
is what the poll makes of the answers to its own requests. -/
theorem rtu_answers_matched (rmodbus : Rmodbus) (lawful : rmodbus.Lawful) (profile : Profile)
    (registerMaps : List (ModbusSlave × ModbusRegisterMap)) (cycles : Nat)
    (choices : List SerialChoice)
    (timely : ((ModbusRtuChannel.cycle rmodbus profile registerMaps).iterate cycles).StepsMeet
      serialWorld NoLateByte ⟨[], [], [], []⟩ choices) :
    ∀ sent ∈ (((ModbusRtuChannel.cycle rmodbus profile registerMaps).iterate cycles).run serialWorld
      ⟨[], [], [], []⟩ choices).2.sent, MatchedRight profile registerMaps sent := by
  have start : Settled profile registerMaps ⟨[], [], [], []⟩ := ⟨nofun, nofun⟩
  have ensures := Program.Ensures.iterate
    (fun line => Settled profile registerMaps line ∧ line.exchanges = [])
    (fun before holds => (ModbusRtuChannel.cycle_ensures lawful holds.1 holds.2)) ⟨start, rfl⟩ cycles
  exact (ensures.sound start timely).1.matched

theorem MatchedRight.answered {sent : RtuSent} (right : MatchedRight profile registerMaps sent) :
    (∃ exchange ∈ sent.exchanges, exchange.Complete) ∨ ∃ entry ∈ registerMaps,
      sent.action = .sendBoth (entry.1.deviceName, ∅) (entry.1.deviceName, []) := by
  obtain ⟨entry, member, clock, attributes, timeseries, _, _, matched, exchanges, polled⟩ := right
  by_cases unread : ∀ run ∈ attributes ++ timeseries, run.polled.words = none
  · refine .inr ⟨entry, member, ?_⟩
    rw [ModbusRtuChannel.poll, pollSlave_unread] at polled
    · exact (Except.ok.inj polled).symm
    · intro group listed
      obtain ⟨run, among, rfl⟩ := List.mem_map.mp listed
      exact unread run (List.mem_append_left _ among)
    · intro group listed
      obtain ⟨run, among, rfl⟩ := List.mem_map.mp listed
      exact unread run (List.mem_append_right _ among)
  · simp only [not_forall] at unread
    obtain ⟨run, listed, read⟩ := unread
    obtain ⟨words, found⟩ := Option.ne_none_iff_exists'.mp read
    obtain ⟨exchange, made, _, _, complete⟩ := matched run listed words found
    refine .inl ⟨exchange, ?_, complete⟩
    rw [exchanges, List.mem_reverse, List.mem_filterMap]
    exact ⟨run, listed, made⟩

end Polling

namespace Sample

def rtuMeter : ModbusSlave × ModbusRegisterMap :=
  (⟨"meter", none, 1, "meter.yml"⟩, ⟨[],
    [⟨0, 3, [⟨0, 1, .uint16, "voltage"⟩]⟩, ⟨10, 3, [⟨0, 1, .uint16, "current"⟩]⟩]⟩)

def serial (arrivals : List Nat) (answer : Option Answer) : SerialChoice :=
  ⟨arrivals, true, answer, 0, 0⟩

def firstRead (arrivals : List Nat) (words : List UInt16) : List SerialChoice :=
  [serial [] none, serial [] (some (.holdings words)), serial [] none, serial arrivals none]

def remainder : List SerialChoice := [serial [] none, serial [] none]

def inTime : List SerialChoice :=
  firstRead (List.replicate 11 0) [230, 231, 232] ++ remainder ++
    firstRead (List.replicate 11 1) [5, 6, 7] ++ remainder ++ [serial [] none]

/-- The first answer arrives after its read timed out and the second group has cleared. -/
def late : List SerialChoice :=
  firstRead [] [230, 231, 232] ++ firstRead (List.replicate 11 0) [5, 6, 7] ++ remainder ++
    [serial [] none]

end Sample

theorem rtu_answers_matched_in_time :
    let run := ((ModbusRtuChannel.cycle Rmodbus.reference .release [Sample.rtuMeter]).iterate 1).run
      serialWorld ⟨[], [], [], []⟩ Sample.inTime
    run.2.sent.length = 1 ∧ ∀ sent ∈ run.2.sent, MatchedRight .release [Sample.rtuMeter] sent := by
  exact ⟨by decide +kernel, rtu_answers_matched Rmodbus.reference Rmodbus.reference_lawful .release
    [Sample.rtuMeter] 1 Sample.inTime (by decide +kernel)⟩

/-- The late voltages are published as currents. -/
theorem rtu_late_answer_published :
    ¬∀ sent ∈ (((ModbusRtuChannel.cycle Rmodbus.reference .release [Sample.rtuMeter]).iterate 1).run
      serialWorld ⟨[], [], [], []⟩ Sample.late).2.sent, MatchedRight .release [Sample.rtuMeter] sent := by
  have published : ∃ sent ∈ (((ModbusRtuChannel.cycle Rmodbus.reference .release
      [Sample.rtuMeter]).iterate 1).run serialWorld ⟨[], [], [], []⟩ Sample.late).2.sent,
      sent.action = .sendBoth ("meter", ∅) ("meter",
        [⟨0, insertPoints ∅ [⟨"current", "230", none⟩]⟩]) ∧
      ∀ exchange ∈ sent.exchanges, exchange.taken.map TaggedByte.byte ≠ exchange.frame := by
    decide +kernel
  intro matched
  obtain ⟨sent, member, current, incomplete⟩ := published
  rcases (matched sent member).answered with ⟨exchange, listed, complete⟩ | ⟨entry, _, nothing⟩
  · exact incomplete exchange listed complete.whole
  · rw [current] at nothing
    simp only [AggregatorAction.sendBoth.injEq, Prod.mk.injEq, List.cons_ne_nil, and_false] at nothing

end StsGateway.Modbus
