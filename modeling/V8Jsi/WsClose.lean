import V8Jsi.Lib.Runs
import V8Jsi.WsHandler

set_option autoImplicit false

/- The closing handshake of an upgraded connection: everything that happens to one
`WsHandler` of inspector_socket.cpp between the upgrade and its destruction. -/
namespace V8Jsi.WsClose

open InspectorSocket Runs WsFrame

/-- The loop that fills `extended_payload_length` from its end. -/
def fillExtendedLength : Nat → Nat → List UInt8 → List UInt8 × Nat
  | 0, remaining, filled => (filled, remaining)
  | count + 1, remaining, filled =>
      fillExtendedLength count (remaining >>> 8) (UInt8.ofNat (remaining &&& 0xFF) :: filled)

/-- `none` where `CHECK_EQ(0, remaining)` aborts. -/
def encodeFrameHybi17 (message : List UInt8) : Option (List UInt8) :=
  let first := kFinalBit ||| kOpCodeText
  let dataLength := message.length
  if dataLength ≤ kMaxSingleBytePayloadLength then
    some (first :: UInt8.ofNat dataLength :: message)
  else if dataLength ≤ 0xFFFF then
    some (first :: UInt8.ofNat kTwoBytePayloadLengthField ::
      UInt8.ofNat ((dataLength &&& 0xFF00) >>> 8) :: UInt8.ofNat (dataLength &&& 0xFF) :: message)
  else
    let (extendedPayloadLength, remaining) := fillExtendedLength 8 dataLength []
    if remaining = 0 then
      some (first :: UInt8.ofNat kEightBytePayloadLengthField :: extendedPayloadLength ++ message)
    else none

/-- `WsHandler::Write`. -/
def write (handler : WsHandler) (data : List UInt8) : Option WsHandler :=
  if data.length = 0 then some (handler.emit (.writeRaw data))
  else (encodeFrameHybi17 data).map fun output => handler.emit (.writeRaw output)

/-- The body of the destructor. -/
def destroy (handler : WsHandler) : WsHandler :=
  if handler.tcp then handler.sendClose else handler

/-! ## Received frames -/

inductive Received
  | text (payload : List UInt8)
  | close
  deriving DecidableEq, Repr

section

variable (returns : List UInt8 → Bool)

/-- The frames that a chunk brings, up to its first incomplete or refused one or an
exception of the delegate. -/
def receivedLoop : Nat → List UInt8 → List Received
  | 0, _ => []
  | fuel + 1, data =>
      match decodeFrameHybi17 data true with
      | .error _ => []
      | .ok decoded =>
          let rest := data.drop decoded.bytesConsumed
          if decoded.compressed then []
          else
            match decoded.result with
            | .frameOk =>
                .text decoded.output ::
                  if returns decoded.output then receivedLoop fuel rest else []
            | .frameClose => .close :: receivedLoop fuel rest
            | .frameIncomplete | .frameError => []

def receivedFrames (chunk : List UInt8) : List Received :=
  receivedLoop returns (chunk.length + 1) chunk

end

/-- The payloads of the text frames in front of the first Close frame. -/
def textsBeforeClose : List Received → List (List UInt8)
  | [] => []
  | .text payload :: rest => payload :: textsBeforeClose rest
  | .close :: _ => []

/-! ## One connection -/

/-- `reading` says that the read loop was not left by an exception, and
`closeReceived` that a Close frame has been received. -/
structure Session where
  handler : WsHandler := {}
  reading : Bool := true
  destroyed : Bool := false
  closeReceived : Bool := false
  deriving DecidableEq, Repr

/-- With `tcp_` the end path also takes the session, and with it the handler. -/
def Session.alive (session : Session) : Bool := !session.destroyed && session.handler.tcp

inductive Action
  | received (chunk : List UInt8)
  | eof
  | write (data : List UInt8)
  | destroy
  deriving DecidableEq, Repr

/-- An access outside a vector, or a failed check. The session is as it was then. -/
structure Loss where
  session : Session
  deriving DecidableEq, Repr

section

variable (returns : List UInt8 → Bool)

def receive (session : Session) (chunk : List UInt8) : Except Loss Session :=
  let (result, handler) := onData returns session.handler chunk
  let session := { session with
    handler
    closeReceived := session.closeReceived || decide (.close ∈ receivedFrames returns chunk) }
  match result with
  | .ok () => .ok session
  | .error .thrown => .ok { session with reading := false }
  | .error (.fault _) => .error ⟨session⟩

/-- The length of a vector is a `size_t`. -/
def call (session : Session) : Action → Option (Except Loss Session)
  | .received chunk =>
      if session.alive ∧ session.reading then some (receive returns session chunk) else none
  | .eof =>
      if session.alive ∧ session.reading then
        some (.ok { session with handler := session.handler.onEof })
      else none
  | .write data =>
      if session.alive ∧ data.length < 2 ^ 64 then
        match write session.handler data with
        | some handler => some (.ok { session with handler })
        | none => some (.error ⟨session⟩)
      else none
  | .destroy =>
      if session.destroyed then none
      else some (.ok { session with handler := destroy session.handler, destroyed := true })

def sessionProgram : Program Session Action Loss where
  start := {}
  call := call returns

end

/-! ## The handshake -/

/-- The opcode of a frame is in the low half of its first byte. -/
def isCloseWrite : Event → Bool
  | .writeRaw (first :: _) => first &&& kOpCodeMask == kOpCodeClose
  | .writeRaw [] | .onWsFrame _ | .onEof => false

def isDataWrite : Event → Bool
  | .writeRaw (first :: _) => first &&& kOpCodeMask < kOpCodeClose
  | .writeRaw [] | .onWsFrame _ | .onEof => false

def Session.closesWritten (session : Session) : Nat := session.handler.events.countP isCloseWrite

def Session.dataWritten (session : Session) : Nat := session.handler.events.countP isDataWrite

/-- What the handshake asks of every step: one Close frame at most has been written;
once a Close frame was received nothing is delivered and no data is written; and a
chunk with a Close frame delivers only what stands before it. -/
structure Handshake (returns : List UInt8 → Bool) (before : Session) (action : Action)
    (after : Session) : Prop where
  once : after.closesWritten ≤ 1
  silent : before.closeReceived = true →
    after.handler.delivered = before.handler.delivered ∧ after.dataWritten = before.dataWritten
  cut : ∀ chunk, action = .received chunk → .close ∈ receivedFrames returns chunk →
    after.handler.delivered =
      before.handler.delivered ++ textsBeforeClose (receivedFrames returns chunk)

/-- A lost connection is judged by what it did before. -/
def ClosesProperly (returns : List UInt8 → Bool) (before : Session) (action : Action) :
    Except Loss Session → Prop
  | .ok after => Handshake returns before action after
  | .error loss => Handshake returns before action loss.session

/-- After a Close frame no further frame arrives, no data is handed to `Write`, and
the handler is not destroyed before its end path has reset `tcp_`. -/
def ClosedQuietly (returns : List UInt8 → Bool) (session : Session) : Action → Prop
  | .received chunk => session.closeReceived = true → receivedFrames returns chunk = []
  | .eof => True
  | .write data => session.closeReceived = true → data = []
  | .destroy => session.closeReceived = true → session.handler.tcp = false

/-! ## Writing -/

/-- The loop puts the low bytes in front of what it has filled. -/
theorem fillExtendedLength_eq (count : Nat) : ∀ remaining filled,
    fillExtendedLength count remaining filled =
      (bigEndian count remaining ++ filled, remaining / 256 ^ count) := by
  induction count with
  | zero => intro remaining filled; simp [fillExtendedLength, bigEndian]
  | succ count ih =>
    intro remaining filled
    have low : UInt8.ofNat (remaining &&& 0xFF) = UInt8.ofNat remaining := by
      apply UInt8.toNat_inj.mp
      rw [Nat.and_two_pow_sub_one_eq_mod remaining 8]
      simp
    have quotient : remaining / 256 ^ (count + 1) = remaining / 256 / 256 ^ count := by
      rw [Nat.pow_succ', Nat.div_div_eq_div_mul]
    rw [fillExtendedLength, ih, Nat.shiftRight_eq_div_pow, low, bigEndian_succ, quotient,
      List.append_assoc]
    rfl

theorem bigEndian_two (n : Nat) (low : n ≤ 0xFFFF) :
    bigEndian 2 n = [UInt8.ofNat ((n &&& 0xFF00) >>> 8), UInt8.ofNat (n &&& 0xFF)] := by
  have high : (n &&& 0xFF00) >>> 8 = n / 256 := by
    rw [Nat.shiftRight_and_distrib, Nat.shiftRight_eq_div_pow]
    exact (Nat.and_two_pow_sub_one_eq_mod (n / 256) 8).trans (Nat.mod_eq_of_lt (by omega))
  have rest : UInt8.ofNat (n &&& 0xFF) = UInt8.ofNat n := by
    apply UInt8.toNat_inj.mp
    rw [Nat.and_two_pow_sub_one_eq_mod n 8]
    simp
  rw [high, rest]
  simp [bigEndian]

/-- The check of the encoder holds for every vector, and the frame is a text frame with
the shortest length. -/
theorem encodeFrameHybi17_eq {message : List UInt8} (small : message.length < 2 ^ 64) :
    encodeFrameHybi17 message =
      some (0x81 :: (shortestLength message.length).1 ::
        ((shortestLength message.length).2 ++ message)) := by
  have first : kFinalBit ||| kOpCodeText = 0x81 := rfl
  have single : kMaxSingleBytePayloadLength = 125 := rfl
  have zero : message.length / 256 ^ 8 = 0 := Nat.div_eq_of_lt small
  simp only [encodeFrameHybi17, shortestLength, first, single, fillExtendedLength_eq, zero]
  split
  · rfl
  · split
    case isTrue low => rw [bigEndian_two _ low]; rfl
    case isFalse => simp; rfl

theorem write_empty (handler : WsHandler) : write handler [] = some (handler.emit (.writeRaw [])) :=
  rfl

theorem write_frame (handler : WsHandler) {data : List UInt8} (some' : data ≠ []) :
    write handler data =
      (encodeFrameHybi17 data).map fun output => handler.emit (.writeRaw output) := by
  rw [write, if_neg (by simpa using some')]

theorem write_data (handler : WsHandler) {data : List UInt8} (some' : data ≠ [])
    (small : data.length < 2 ^ 64) :
    ∃ rest, write handler data = some (handler.emit (.writeRaw (0x81 :: rest))) := by
  have written := write_frame handler some'
  rw [encodeFrameHybi17_eq small] at written
  exact ⟨_, written⟩

/-! ## Reading -/

/-- What a chunk makes a handler do that answers Close frames. -/
def chunkEvents (frames : List Received) : List Event :=
  (textsBeforeClose frames).map .onWsFrame ++
    if .close ∈ frames then [.writeRaw closeFrame] else []

theorem chunkEvents_text (payload : List UInt8) (rest : List Received) :
    chunkEvents (.text payload :: rest) = .onWsFrame payload :: chunkEvents rest := by
  simp [chunkEvents, textsBeforeClose]

theorem chunkEvents_close (rest : List Received) :
    chunkEvents (.close :: rest) = [.writeRaw closeFrame] := by
  simp [chunkEvents, textsBeforeClose]

/-- Nothing but the end path may follow what the frames ask for. -/
structure Fed (handler after : WsHandler) (frames : List Received) : Prop where
  answers : after.onCloseReceived = .closeFrameReceived
  events : ∃ ending, after.events = handler.events ++ chunkEvents frames ++ ending ∧
    (ending = [] ∨ ending = [.onEof] ∧ .close ∉ frames)

theorem Fed.nothing {handler : WsHandler} (answers : handler.onCloseReceived = .closeFrameReceived) :
    Fed handler handler [] :=
  ⟨answers, [], by simp [chunkEvents, textsBeforeClose], .inl rfl⟩

theorem Fed.ended {handler : WsHandler} (answers : handler.onCloseReceived = .closeFrameReceived) :
    Fed handler handler.onEof [] :=
  ⟨answers, [.onEof], by simp [chunkEvents, textsBeforeClose, WsHandler.onEof], .inr ⟨rfl, by simp⟩⟩

theorem Fed.closed {handler : WsHandler} (answers : handler.onCloseReceived = .closeFrameReceived)
    (rest : List Received) : Fed handler handler.closeFrameReceived (.close :: rest) :=
  ⟨answers, [], by simp [chunkEvents_close, WsHandler.closeFrameReceived, WsHandler.sendClose],
    .inl rfl⟩

theorem Fed.text {handler after : WsHandler} {payload : List UInt8} {rest : List Received}
    (fed : Fed (handler.emit (.onWsFrame payload)) after rest) :
    Fed handler after (.text payload :: rest) := by
  obtain ⟨ending, events, ends⟩ := fed.events
  refine ⟨fed.answers, ending, ?_, ?_⟩
  · rw [events, chunkEvents_text, emit_events]
    simp
  · simpa using ends

variable {returns : List UInt8 → Bool}

theorem receivedLoop_nil (fuel : Nat) : receivedLoop returns fuel [] = [] := by
  cases fuel <;> rfl

/-- The frames of a chunk are handed on in order up to a Close frame, which is
answered and ends the loop. -/
theorem onDataLoop_fed (fuel : Nat) : ∀ handler data,
    handler.onCloseReceived = .closeFrameReceived →
    Fed handler (onDataLoop returns fuel handler data).2 (receivedLoop returns fuel data) := by
  induction fuel with
  | zero => exact fun handler data answers => Fed.nothing answers
  | succ fuel ih =>
    intro handler data answers
    have round := onDataLoop_round returns fuel handler data
    generalize onDataLoop returns (fuel + 1) handler data = outcome at round ⊢
    cases round with
    | faulted fault decode =>
      simp only [receivedLoop, decode]
      exact Fed.nothing answers
    | refused decoded decode bad =>
      by_cases compressed : decoded.compressed = true
      · simp only [receivedLoop, decode, compressed, ↓reduceIte]
        exact Fed.ended answers
      · simp only [receivedLoop, decode, compressed, bad.resolve_left compressed]
        exact Fed.ended answers
    | waits decoded decode plain result =>
      simp only [receivedLoop, decode, plain, result, Bool.false_eq_true, ↓reduceIte]
      exact Fed.nothing answers
    | closed decoded decode plain result =>
      simp only [receivedLoop, decode, plain, result, Bool.false_eq_true, ↓reduceIte, answers,
        WsHandler.invoke]
      exact Fed.closed answers _
    | thrown decoded decode plain result threw =>
      simp only [receivedLoop, decode, plain, result, Bool.false_eq_true, ↓reduceIte, threw]
      exact Fed.text (Fed.nothing answers)
    | overrun decoded decode plain result returned beyond =>
      have empty : data.drop decoded.bytesConsumed = [] := List.drop_eq_nil_of_le (by omega)
      simp only [receivedLoop, decode, plain, result, Bool.false_eq_true, ↓reduceIte, returned,
        empty, receivedLoop_nil]
      exact Fed.text (Fed.nothing answers)
    | next decoded decode plain result returned inside =>
      simp only [receivedLoop, decode, plain, result, Bool.false_eq_true, ↓reduceIte, returned]
      exact Fed.text (ih _ _ answers)

theorem onData_fed (returns : List UInt8 → Bool) {handler : WsHandler} (chunk : List UInt8)
    (answers : handler.onCloseReceived = .closeFrameReceived) :
    Fed handler (onData returns handler chunk).2 (receivedFrames returns chunk) :=
  onDataLoop_fed _ handler chunk answers

/-! ## Counting -/

@[simp] theorem isCloseWrite_close : isCloseWrite (.writeRaw closeFrame) = true := rfl

@[simp] theorem isDataWrite_close : isDataWrite (.writeRaw closeFrame) = false := rfl

@[simp] theorem isCloseWrite_data (rest : List UInt8) :
    isCloseWrite (.writeRaw (0x81 :: rest)) = false := rfl

@[simp] theorem isDataWrite_data (rest : List UInt8) :
    isDataWrite (.writeRaw (0x81 :: rest)) = true := rfl

theorem chunkEvents_counts (frames : List Received) :
    (chunkEvents frames).countP isCloseWrite = (if .close ∈ frames then 1 else 0) ∧
      (chunkEvents frames).countP isDataWrite = 0 ∧
      (chunkEvents frames).filterMap payload? = textsBeforeClose frames := by
  induction frames with
  | nil => exact ⟨rfl, rfl, rfl⟩
  | cons frame rest ih =>
    cases frame with
    | close => simp [chunkEvents_close, textsBeforeClose, payload?]
    | text payload =>
      simp only [chunkEvents_text, textsBeforeClose, List.countP_cons, List.filterMap_cons,
        payload?, ih]
      simp [isCloseWrite, isDataWrite]

/-- The counts after a chunk. -/
theorem Fed.counts {handler after : WsHandler} {frames : List Received}
    (fed : Fed handler after frames) :
    after.events.countP isCloseWrite =
        handler.events.countP isCloseWrite + (if .close ∈ frames then 1 else 0) ∧
      after.events.countP isDataWrite = handler.events.countP isDataWrite ∧
      after.delivered = handler.delivered ++ textsBeforeClose frames := by
  obtain ⟨ending, events, ends⟩ := fed.events
  obtain ⟨closes, data, texts⟩ := chunkEvents_counts frames
  have quiet : ending.countP isCloseWrite = 0 ∧ ending.countP isDataWrite = 0 ∧
      ending.filterMap payload? = [] := by
    rcases ends with rfl | ⟨rfl, -⟩
    · exact ⟨rfl, rfl, rfl⟩
    · exact ⟨rfl, rfl, rfl⟩
  refine ⟨?_, ?_, ?_⟩
  · rw [events, List.countP_append, List.countP_append, closes, quiet.1, Nat.add_zero]
  · rw [events, List.countP_append, List.countP_append, data, quiet.2.1, Nat.add_zero]
  · simp only [WsHandler.delivered, events, List.filterMap_append, texts, quiet.2.2,
      List.append_nil]

/-! ## Runs -/

/-- A handler that is still there has answered the Close frame it received, and has
written no Close frame before. -/
structure Invariant (session : Session) : Prop where
  answers : session.handler.onCloseReceived = .closeFrameReceived
  once : session.closesWritten ≤ 1
  answered : session.destroyed = false →
    session.closesWritten = if session.closeReceived then 1 else 0

theorem start_invariant : Invariant (sessionProgram returns).start :=
  ⟨rfl, Nat.zero_le _, fun _ => rfl⟩

theorem receive_session (returns : List UInt8 → Bool) (session : Session) (chunk : List UInt8) :
    ∃ after, (receive returns session chunk = .ok after ∨
        receive returns session chunk = .error ⟨after⟩) ∧
      after.handler = (onData returns session.handler chunk).2 ∧
      after.destroyed = session.destroyed ∧
      after.closeReceived =
        (session.closeReceived || decide (.close ∈ receivedFrames returns chunk)) := by
  unfold receive
  split
  rename_i result handler fed
  rcases result with (_ | _) | _
  · exact ⟨_, .inr rfl, by rw [fed], rfl, rfl⟩
  · exact ⟨_, .inl rfl, by rw [fed], rfl, rfl⟩
  · exact ⟨_, .inl rfl, by rw [fed], rfl, rfl⟩

theorem receive_kept {session after : Session} {chunk : List UInt8} (inv : Invariant session)
    (present : session.destroyed = false)
    (fed : after.handler = (onData returns session.handler chunk).2)
    (closes : after.closeReceived =
      (session.closeReceived || decide (.close ∈ receivedFrames returns chunk)))
    (quiet : session.closeReceived = true → receivedFrames returns chunk = []) :
    Handshake returns session (.received chunk) after ∧ Invariant after := by
  have step := onData_fed returns chunk inv.answers
  rw [← fed] at step
  obtain ⟨written, data, delivered⟩ := step.counts
  have answered : session.handler.events.countP isCloseWrite =
      if session.closeReceived then 1 else 0 := inv.answered present
  have exact' : after.closesWritten = if after.closeReceived then 1 else 0 := by
    simp only [Session.closesWritten, written, answered, closes]
    cases received : session.closeReceived with
    | true => simp [quiet received]
    | false => simp
  have once : after.closesWritten ≤ 1 := by
    rw [exact']
    split <;> omega
  refine ⟨⟨once, ?_, ?_⟩, step.answers, once, fun _ => exact'⟩
  · intro received
    refine ⟨?_, data⟩
    rw [delivered, quiet received]
    simp [textsBeforeClose]
  · intro other same _
    obtain rfl := Action.received.inj same
    exact delivered

theorem receive_refused {session after : Session} {chunk : List UInt8} (inv : Invariant session)
    (present : session.destroyed = false)
    (fed : after.handler = (onData returns session.handler chunk).2)
    (received : session.closeReceived = true) (more : receivedFrames returns chunk ≠ []) :
    ¬ Handshake returns session (.received chunk) after := by
  have step := onData_fed returns chunk inv.answers
  rw [← fed] at step
  obtain ⟨written, data, delivered⟩ := step.counts
  have answered : session.handler.events.countP isCloseWrite = 1 := by
    simpa [received, Session.closesWritten] using inv.answered present
  intro handshake
  by_cases closing : .close ∈ receivedFrames returns chunk
  · have once := handshake.once
    simp only [Session.closesWritten, written, answered, closing, if_true] at once
    omega
  · have same := (handshake.silent received).1
    rw [delivered] at same
    cases frames : receivedFrames returns chunk with
    | nil => exact more frames
    | cons frame rest =>
      cases frame with
      | close => simp [frames] at closing
      | text payload => simp [frames, textsBeforeClose] at same

theorem eof_kept (returns : List UInt8 → Bool) {session : Session} (inv : Invariant session) :
    Handshake returns session .eof { session with handler := session.handler.onEof } ∧
      Invariant { session with handler := session.handler.onEof } := by
  have written : (session.handler.onEof.events).countP isCloseWrite = session.closesWritten := by
    simp [WsHandler.onEof, isCloseWrite, Session.closesWritten]
  have data : (session.handler.onEof.events).countP isDataWrite = session.dataWritten := by
    simp [WsHandler.onEof, isDataWrite, Session.dataWritten]
  refine ⟨⟨?_, fun _ => ⟨onEof_delivered _, data⟩, by simp⟩, inv.answers, ?_, fun present => ?_⟩
  · exact written.trans_le inv.once
  · exact written.trans_le inv.once
  · exact written.trans (inv.answered present)

theorem write_kept (returns : List UInt8 → Bool) {session : Session} {data : List UInt8} (inv : Invariant session)
    (small : data.length < 2 ^ 64) (quiet : session.closeReceived = true → data = []) :
    ∃ handler, write session.handler data = some handler ∧
      Handshake returns session (.write data) { session with handler } ∧
      Invariant { session with handler } := by
  by_cases nothing : data = []
  · subst nothing
    refine ⟨_, write_empty _, ⟨?_, fun _ => ⟨?_, ?_⟩, by simp⟩, inv.answers, ?_, fun present => ?_⟩
    · simpa [Session.closesWritten, isCloseWrite] using inv.once
    · simp [WsHandler.delivered, payload?]
    · simp [Session.dataWritten, isDataWrite]
    · simpa [Session.closesWritten, isCloseWrite] using inv.once
    · simpa [Session.closesWritten, isCloseWrite] using inv.answered present
  · obtain ⟨rest, wrote⟩ := write_data session.handler nothing small
    refine ⟨_, wrote, ⟨?_, fun received => absurd (quiet received) nothing, by simp⟩, inv.answers,
      ?_, fun present => ?_⟩
    · simpa [Session.closesWritten] using inv.once
    · simpa [Session.closesWritten] using inv.once
    · simpa [Session.closesWritten] using inv.answered present

theorem write_refused {session after : Session} {data : List UInt8}
    (small : data.length < 2 ^ 64) (received : session.closeReceived = true) (some' : data ≠ [])
    (wrote : write session.handler data = some after.handler) :
    ¬ Handshake returns session (.write data) after := by
  obtain ⟨rest, output⟩ := write_data session.handler some' small
  have handler : after.handler = session.handler.emit (.writeRaw (0x81 :: rest)) :=
    Option.some.inj (wrote.symm.trans output)
  intro handshake
  have same := (handshake.silent received).2
  simp [Session.dataWritten, handler] at same

theorem destroy_kept (returns : List UInt8 → Bool) {session : Session} (inv : Invariant session)
    (present : session.destroyed = false)
    (quiet : session.closeReceived = true → session.handler.tcp = false) :
    Handshake returns session .destroy
        { session with handler := destroy session.handler, destroyed := true } ∧
      Invariant { session with handler := destroy session.handler, destroyed := true } := by
  have answered := inv.answered present
  have delivered : (destroy session.handler).delivered = session.handler.delivered := by
    unfold destroy
    split <;> simp [WsHandler.delivered, WsHandler.sendClose, payload?]
  have data : (destroy session.handler).events.countP isDataWrite = session.dataWritten := by
    unfold destroy
    split <;> simp [WsHandler.sendClose, Session.dataWritten]
  have once : (destroy session.handler).events.countP isCloseWrite ≤ 1 := by
    unfold destroy
    split
    · rename_i open'
      have before : session.closeReceived = false := by
        cases received : session.closeReceived with
        | false => rfl
        | true => simp [quiet received] at open'
      have none' : session.handler.events.countP isCloseWrite = 0 := by
        simpa [before, Session.closesWritten] using answered
      simp [WsHandler.sendClose, none']
    · exact inv.once
  have answers : (destroy session.handler).onCloseReceived = .closeFrameReceived := by
    unfold destroy
    split
    · exact inv.answers
    · exact inv.answers
  exact ⟨⟨once, fun _ => ⟨delivered, data⟩, by simp⟩, answers, once, by simp⟩

theorem destroy_refused {session : Session} (inv : Invariant session)
    (present : session.destroyed = false) (received : session.closeReceived = true)
    (connected : session.handler.tcp = true) :
    ¬ Handshake returns session .destroy
        { session with handler := destroy session.handler, destroyed := true } := by
  intro handshake
  have answered : session.handler.events.countP isCloseWrite = 1 := by
    simpa [received, Session.closesWritten] using inv.answered present
  have once := handshake.once
  simp [Session.closesWritten, destroy, connected, WsHandler.sendClose, answered] at once

theorem alive_present {session : Session} (alive : session.alive = true) :
    session.destroyed = false := by
  simp only [Session.alive, Bool.and_eq_true, Bool.not_eq_true'] at alive
  exact alive.1

/-- One step, whatever it is. -/
theorem call_handshake (session : Session) (action : Action) (outcome : Except Loss Session)
    (inv : Invariant session) (admitted : ClosedQuietly returns session action)
    (called : call returns session action = some outcome) :
    ClosesProperly returns session action outcome ∧
      ∀ next, outcome = .ok next → Invariant next := by
  cases action with
  | received chunk =>
    simp only [call, Option.ite_none_right_eq_some, Option.some.injEq] at called
    obtain ⟨⟨alive, -⟩, rfl⟩ := called
    obtain ⟨after, outcome, fed, -, closes⟩ := receive_session returns session chunk
    have kept := receive_kept inv (alive_present alive) fed closes admitted
    rcases outcome with outcome | outcome
    · rw [outcome]
      refine ⟨kept.1, ?_⟩
      rintro next ⟨⟩
      exact kept.2
    · rw [outcome]
      exact ⟨kept.1, by simp⟩
  | eof =>
    obtain ⟨-, rfl⟩ : _ ∧ _ = outcome := by simpa [call] using called
    refine ⟨(eof_kept returns inv).1, ?_⟩
    rintro next ⟨⟩
    exact (eof_kept returns inv).2
  | write data =>
    simp only [call, Option.ite_none_right_eq_some] at called
    obtain ⟨⟨alive, small⟩, called⟩ := called
    obtain ⟨handler, wrote, handshake, held⟩ := write_kept returns inv small admitted
    simp only [wrote, Option.some.injEq] at called
    subst called
    refine ⟨handshake, ?_⟩
    rintro next ⟨⟩
    exact held
  | destroy =>
    simp only [call, Option.ite_none_left_eq_some, Option.some.injEq] at called
    obtain ⟨present, rfl⟩ := called
    have kept := destroy_kept returns inv (by simpa using present) admitted
    refine ⟨kept.1, ?_⟩
    rintro next ⟨⟩
    exact kept.2

theorem call_not_handshake (session : Session) (action : Action) (outcome : Except Loss Session)
    (inv : Invariant session) (refused : ¬ ClosedQuietly returns session action)
    (called : call returns session action = some outcome) :
    ¬ ClosesProperly returns session action outcome := by
  cases action with
  | received chunk =>
    obtain ⟨received, more⟩ : session.closeReceived = true ∧ receivedFrames returns chunk ≠ [] := by
      simpa [ClosedQuietly] using refused
    simp only [call, Option.ite_none_right_eq_some, Option.some.injEq] at called
    obtain ⟨⟨alive, -⟩, rfl⟩ := called
    obtain ⟨after, outcome, fed, -, -⟩ := receive_session returns session chunk
    have broken := receive_refused inv (alive_present alive) fed received more
    rcases outcome with outcome | outcome
    · rw [outcome]
      exact broken
    · rw [outcome]
      exact broken
  | eof => exact absurd trivial refused
  | write data =>
    obtain ⟨received, some'⟩ : session.closeReceived = true ∧ data ≠ [] := by
      simpa [ClosedQuietly] using refused
    simp only [call, Option.ite_none_right_eq_some] at called
    obtain ⟨⟨alive, small⟩, called⟩ := called
    obtain ⟨rest, wrote⟩ := write_data session.handler some' small
    simp only [wrote, Option.some.injEq] at called
    subst called
    exact write_refused small received some' wrote
  | destroy =>
    obtain ⟨received, connected⟩ : session.closeReceived = true ∧ session.handler.tcp = true := by
      simpa [ClosedQuietly] using refused
    simp only [call, Option.ite_none_left_eq_some, Option.some.injEq] at called
    obtain ⟨present, rfl⟩ := called
    exact destroy_refused inv (by simpa using present) received connected

/-- Along every run the closing handshake is kept as long as, and only as long as,
nothing follows the first Close frame but the end of the connection. -/
theorem closes_properly_iff (returns : List UInt8 → Bool) (trace : List Action)
    (outcome : Except Loss Session)
    (ran : (sessionProgram returns).run trace = some outcome) :
    (sessionProgram returns).Along (ClosesProperly returns) (sessionProgram returns).start trace ↔
      (sessionProgram returns).Meets (ClosedQuietly returns) (sessionProgram returns).start
        trace :=
  Program.along_iff_meets Invariant call_handshake call_not_handshake trace
    (sessionProgram returns).start outcome start_invariant ran

instance (returns : List UInt8 → Bool) (session : Session) (action : Action) :
    Decidable (ClosedQuietly returns session action) :=
  match action with
  | .received chunk =>
      inferInstanceAs (Decidable (session.closeReceived = true → receivedFrames returns chunk = []))
  | .eof => .isTrue trivial
  | .write data => inferInstanceAs (Decidable (session.closeReceived = true → data = []))
  | .destroy =>
      inferInstanceAs (Decidable (session.closeReceived = true → session.handler.tcp = false))

/-- An empty Close frame under the zero masking key. -/
def clientClose : List UInt8 := [0x88, 0x80, 0, 0, 0, 0]

/-- A text, an answer, the Close frame and the end of the stream. -/
theorem closes_properly_exchange :
    (sessionProgram fun _ => true).Along (ClosesProperly fun _ => true)
      (sessionProgram fun _ => true).start
      [.received letterFrame.encode, .write [0x42], .received clientClose, .eof, .destroy] := by
  apply (closes_properly_iff (fun _ => true) [.received letterFrame.encode, .write [0x42],
    .received clientClose, .eof, .destroy] _ rfl).mpr
  decide

/-- After a Close frame the handler still delivers a text, writes data, answers a
second Close frame, and says Close once more when it is destroyed. -/
theorem close_is_not_the_end :
    ¬ (sessionProgram fun _ => true).Along (ClosesProperly fun _ => true)
        (sessionProgram fun _ => true).start [.received clientClose, .received letterFrame.encode] ∧
      ¬ (sessionProgram fun _ => true).Along (ClosesProperly fun _ => true)
        (sessionProgram fun _ => true).start [.received clientClose, .write [0x42]] ∧
      ¬ (sessionProgram fun _ => true).Along (ClosesProperly fun _ => true)
        (sessionProgram fun _ => true).start [.received clientClose, .received clientClose] ∧
      ¬ (sessionProgram fun _ => true).Along (ClosesProperly fun _ => true)
        (sessionProgram fun _ => true).start [.received clientClose, .destroy] := by
  refine ⟨fun along => ?_, fun along => ?_, fun along => ?_, fun along => ?_⟩
  · have step : Handshake _ _ _ _ :=
      along [.received clientClose] (.received letterFrame.encode) [] _ (.ok _) rfl rfl rfl
    exact absurd (step.silent rfl).1 (by decide)
  · have step : Handshake _ _ _ _ :=
      along [.received clientClose] (.write [0x42]) [] _ (.ok _) rfl rfl rfl
    exact absurd (step.silent rfl).2 (by decide)
  · have step : Handshake _ _ _ _ :=
      along [.received clientClose] (.received clientClose) [] _ (.ok _) rfl rfl rfl
    exact absurd step.once (by decide)
  · have step : Handshake _ _ _ _ :=
      along [.received clientClose] .destroy [] _ (.ok _) rfl rfl rfl
    exact absurd step.once (by decide)

end V8Jsi.WsClose
