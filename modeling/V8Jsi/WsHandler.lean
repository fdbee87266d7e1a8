import V8Jsi.WsFrameDecode

set_option autoImplicit false

/- The WebSocket side of a connection: `WsHandler` of inspector_socket.cpp below
`TcpHolder::OnDataReceivedCb` and the read loop of inspector_tcp.cpp. The
delegate is a parameter that says for which frames `OnWsFrame` returns; for the
others it throws, and the exception leaves every caller up to `io_context::run`. -/
namespace V8Jsi.InspectorSocket

open WsFrame

/-- The member functions a `WsHandler::Callback` is ever set to. -/
inductive Callback
  | onEof
  | waitForCloseReply
  | closeFrameReceived
  deriving DecidableEq, Repr

/-- Calls that leave the handler. -/
inductive Event
  | onWsFrame (payload : List UInt8)
  | writeRaw (buffer : List UInt8)
  | onEof
  deriving DecidableEq, Repr

/-- `tcp` says that `tcp_` is non-null. `events` records the calls made so far. -/
structure WsHandler where
  tcp : Bool := true
  onCloseSent : Callback := .waitForCloseReply
  onCloseReceived : Callback := .closeFrameReceived
  events : List Event := []
  deriving DecidableEq, Repr

inductive Stop
  | fault (fault : MemoryFault)
  | thrown
  deriving DecidableEq, Repr

def closeFrame : List UInt8 := [0x88, 0x00]

namespace WsHandler

def emit (handler : WsHandler) (event : Event) : WsHandler :=
  { handler with events := handler.events ++ [event] }

def onEof (handler : WsHandler) : WsHandler := { handler.emit .onEof with tcp := false }

def waitForCloseReply (handler : WsHandler) : WsHandler :=
  { handler with onCloseReceived := .onEof }

def sendClose (handler : WsHandler) : WsHandler := handler.emit (.writeRaw closeFrame)

def closeFrameReceived (handler : WsHandler) : WsHandler :=
  { handler with onCloseSent := .onEof }.sendClose

def invoke (handler : WsHandler) : Callback → WsHandler
  | .onEof => handler.onEof
  | .waitForCloseReply => handler.waitForCloseReply
  | .closeFrameReceived => handler.closeFrameReceived

end WsHandler

def removeFromBeginning (buffer : List UInt8) (count : Nat) : Except Stop (List UInt8) :=
  if count ≤ buffer.length then .ok (buffer.drop count)
  else .error (.fault (.eraseOutside count))

section

variable (returns : List UInt8 → Bool)

def parseWsFrames (handler : WsHandler) (buffer : List UInt8) : Except Stop Nat × WsHandler :=
  match decodeFrameHybi17 buffer true with
  | .error fault => (.error (.fault fault), handler)
  | .ok decoded =>
      if decoded.compressed || decoded.result == .frameError then (.ok 0, handler.onEof)
      else
        match decoded.result with
        | .frameClose => (.ok 0, handler.invoke handler.onCloseReceived)
        | .frameOk =>
            let called := handler.emit (.onWsFrame decoded.output)
            if returns decoded.output then (.ok decoded.bytesConsumed, called)
            else (.error .thrown, called)
        | .frameIncomplete | .frameError => (.ok decoded.bytesConsumed, handler)

/-- The `do … while` of `OnData`. Each further turn has less data, so that fuel
above the length of the data is never used up. -/
def onDataLoop : Nat → WsHandler → List UInt8 → Except Stop Unit × WsHandler
  | 0, handler, _ => (.ok (), handler)
  | fuel + 1, handler, data =>
      match parseWsFrames returns handler data with
      | (.error stop, handler) => (.error stop, handler)
      | (.ok processed, handler) =>
          if processed > 0 then
            match removeFromBeginning data processed with
            | .error stop => (.error stop, handler)
            | .ok data =>
                if data.isEmpty then (.ok (), handler) else onDataLoop fuel handler data
          else (.ok (), handler)

def onData (handler : WsHandler) (data : List UInt8) : Except Stop Unit × WsHandler :=
  onDataLoop returns (data.length + 1) handler data

/-- The completions of `async_read_some` with data, in order. Every completion
passes a vector of its own. Once `tcp_` is reset the socket is closed and no
data arrives any more. -/
def readLoopAsync : WsHandler → List (List UInt8) → Except Stop Unit × WsHandler
  | handler, [] => (.ok (), handler)
  | handler, read :: rest =>
      if handler.tcp then
        match onData returns handler read with
        | (.error stop, handler) => (.error stop, handler)
        | (.ok (), handler) => readLoopAsync handler rest
      else (.ok (), handler)

end

def payload? : Event → Option (List UInt8)
  | .onWsFrame payload => some payload
  | .writeRaw _ | .onEof => none

/-- The arguments of the `OnWsFrame` calls so far. -/
def WsHandler.delivered (handler : WsHandler) : List (List UInt8) :=
  handler.events.filterMap payload?

/-- Feeding the reads returns, hands on exactly the payloads of the frames, and
never takes the protocol error path. -/
def Delivers (returns : List UInt8 → Bool) (frames : List ClientFrame)
    (reads : List (List UInt8)) : Prop :=
  (readLoopAsync returns {} reads).1 = .ok () ∧
    (readLoopAsync returns {} reads).2.delivered = frames.map (·.payload) ∧
    Event.onEof ∉ (readLoopAsync returns {} reads).2.events

def encodeAll (frames : List ClientFrame) : List UInt8 := frames.flatMap (·.encode)

/-- No read boundary cuts a frame. -/
def WholeFrames (frames : List ClientFrame) (reads : List (List UInt8)) : Prop :=
  ∃ groups : List (List ClientFrame), groups.flatten = frames ∧ groups.map encodeAll = reads

@[simp] theorem encodeAll_nil : encodeAll [] = [] := rfl

@[simp] theorem encodeAll_cons (frame : ClientFrame) (rest : List ClientFrame) :
    encodeAll (frame :: rest) = frame.encode ++ encodeAll rest := rfl

@[simp] theorem emit_events (handler : WsHandler) (event : Event) :
    (handler.emit event).events = handler.events ++ [event] := rfl

@[simp] theorem emit_delivered_onWsFrame (handler : WsHandler) (payload : List UInt8) :
    (handler.emit (.onWsFrame payload)).delivered = handler.delivered ++ [payload] := by
  simp [WsHandler.delivered, payload?]

@[simp] theorem onEof_delivered (handler : WsHandler) :
    handler.onEof.delivered = handler.delivered := by
  simp [WsHandler.delivered, WsHandler.onEof, payload?]

@[simp] theorem invoke_delivered (handler : WsHandler) (callback : Callback) :
    (handler.invoke callback).delivered = handler.delivered := by
  cases callback <;>
    simp [WsHandler.delivered, WsHandler.invoke, WsHandler.onEof, WsHandler.waitForCloseReply,
      WsHandler.closeFrameReceived, WsHandler.sendClose, payload?]

/-! ## One round of the loop -/

/-- How one round of `OnData` ends, or what it leaves to the next. -/
inductive Round (returns : List UInt8 → Bool) (fuel : Nat) (handler : WsHandler)
    (data : List UInt8) : Except Stop Unit × WsHandler → Prop
  | faulted (fault : MemoryFault) (decode : decodeFrameHybi17 data true = .error fault) :
      Round returns fuel handler data (.error (.fault fault), handler)
  | refused (decoded : Decoded) (decode : decodeFrameHybi17 data true = .ok decoded)
      (bad : decoded.compressed = true ∨ decoded.result = .frameError) :
      Round returns fuel handler data (.ok (), handler.onEof)
  | waits (decoded : Decoded) (decode : decodeFrameHybi17 data true = .ok decoded)
      (plain : decoded.compressed = false) (result : decoded.result = .frameIncomplete) :
      Round returns fuel handler data (.ok (), handler)
  | closed (decoded : Decoded) (decode : decodeFrameHybi17 data true = .ok decoded)
      (plain : decoded.compressed = false) (result : decoded.result = .frameClose) :
      Round returns fuel handler data (.ok (), handler.invoke handler.onCloseReceived)
  | thrown (decoded : Decoded) (decode : decodeFrameHybi17 data true = .ok decoded)
      (plain : decoded.compressed = false) (result : decoded.result = .frameOk)
      (threw : returns decoded.output = false) :
      Round returns fuel handler data (.error .thrown, handler.emit (.onWsFrame decoded.output))
  | overrun (decoded : Decoded) (decode : decodeFrameHybi17 data true = .ok decoded)
      (plain : decoded.compressed = false) (result : decoded.result = .frameOk)
      (returned : returns decoded.output = true) (beyond : data.length < decoded.bytesConsumed) :
      Round returns fuel handler data (.error (.fault (.eraseOutside decoded.bytesConsumed)),
        handler.emit (.onWsFrame decoded.output))
  | next (decoded : Decoded) (decode : decodeFrameHybi17 data true = .ok decoded)
      (plain : decoded.compressed = false) (result : decoded.result = .frameOk)
      (returned : returns decoded.output = true) (inside : decoded.bytesConsumed ≤ data.length) :
      Round returns fuel handler data (onDataLoop returns fuel
        (handler.emit (.onWsFrame decoded.output)) (data.drop decoded.bytesConsumed))

theorem onDataLoop_nil (returns : List UInt8 → Bool) (fuel : Nat) (handler : WsHandler) :
    onDataLoop returns fuel handler [] = (.ok (), handler) := by
  cases fuel with
  | zero => rfl
  | succ fuel => rfl

theorem onDataLoop_round (returns : List UInt8 → Bool) (fuel : Nat) (handler : WsHandler)
    (data : List UInt8) :
    Round returns fuel handler data (onDataLoop returns (fuel + 1) handler data) := by
  simp only [onDataLoop, parseWsFrames]
  cases decode : decodeFrameHybi17 data true with
  | error fault => exact .faulted fault decode
  | ok decoded =>
    simp only
    by_cases bad : decoded.compressed = true ∨ decoded.result = .frameError
    · have refused : (decoded.compressed || decoded.result == .frameError) = true := by
        simpa using bad
      rw [ite_cond_eq_true _ _ (eq_true refused)]
      exact .refused decoded decode bad
    · have accepted : ¬ (decoded.compressed || decoded.result == .frameError) = true := by
        simpa using bad
      rw [ite_cond_eq_false _ _ (eq_false accepted)]
      rw [not_or, Bool.not_eq_true] at bad
      cases result : decoded.result with
      | frameError => exact absurd result bad.2
      | frameIncomplete =>
        simp only [decode_incomplete decode result, gt_iff_lt, Nat.lt_irrefl, ↓reduceIte]
        exact .waits decoded decode bad.1 result
      | frameClose =>
        simp only [gt_iff_lt, Nat.lt_irrefl, ↓reduceIte]
        exact .closed decoded decode bad.1 result
      | frameOk =>
        have taken : decoded.bytesConsumed > 0 := by
          have least := decode_consumes decode result
          have positive := encodedLength_pos decoded.output.length
          omega
        by_cases returned : returns decoded.output = true
        · simp only [returned, ↓reduceIte, taken]
          by_cases inside : decoded.bytesConsumed ≤ data.length
          · have next : Round returns fuel handler data (onDataLoop returns fuel
                (handler.emit (.onWsFrame decoded.output)) (data.drop decoded.bytesConsumed)) :=
              .next decoded decode bad.1 result returned inside
            simp only [removeFromBeginning, inside, ↓reduceIte]
            by_cases finished : data.drop decoded.bytesConsumed = []
            · rw [finished, onDataLoop_nil] at next
              simpa [finished] using next
            · simpa [finished] using next
          · simp only [removeFromBeginning, inside, ↓reduceIte]
            exact .overrun decoded decode bad.1 result returned (by omega)
        · simp only [returned]
          exact .thrown decoded decode bad.1 result (by simpa using returned)

/-! ## Frames that arrive whole -/

theorem parseWsFrames_encode (returns : List UInt8 → Bool) (handler : WsHandler)
    (frame : ClientFrame) (rest : List UInt8)
    (small : (frame.encode ++ rest).length < 2 ^ 64) :
    parseWsFrames returns handler (frame.encode ++ rest) =
      (if returns frame.payload then .ok frame.encode.length else .error .thrown,
        handler.emit (.onWsFrame frame.payload)) := by
  simp only [parseWsFrames, decode_encode frame rest small]
  by_cases returned : returns frame.payload = true <;> simp [returned]

theorem encode_ne_nil (frame : ClientFrame) : frame.encode ≠ [] := by
  simp [ClientFrame.encode]

/-- One turn of the loop at a frame whose delegate call returns. -/
theorem onDataLoop_encode (returns : List UInt8 → Bool) (fuel : Nat) (handler : WsHandler)
    (frame : ClientFrame) (rest : List UInt8)
    (small : (frame.encode ++ rest).length < 2 ^ 64)
    (returned : returns frame.payload = true) :
    onDataLoop returns (fuel + 1) handler (frame.encode ++ rest) =
      if rest = [] then (.ok (), handler.emit (.onWsFrame frame.payload))
      else onDataLoop returns fuel (handler.emit (.onWsFrame frame.payload)) rest := by
  have positive : frame.encode.length > 0 := List.length_pos_iff.mpr (encode_ne_nil frame)
  have removed : removeFromBeginning (frame.encode ++ rest) frame.encode.length = .ok rest := by
    simp [removeFromBeginning]
  simp only [onDataLoop, parseWsFrames_encode returns handler frame rest small, returned,
    positive, removed, ↓reduceIte, List.isEmpty_iff]

theorem onDataLoop_encode_thrown (returns : List UInt8 → Bool) (fuel : Nat) (handler : WsHandler)
    (frame : ClientFrame) (rest : List UInt8)
    (small : (frame.encode ++ rest).length < 2 ^ 64)
    (threw : returns frame.payload = false) :
    onDataLoop returns (fuel + 1) handler (frame.encode ++ rest) =
      (.error .thrown, handler.emit (.onWsFrame frame.payload)) := by
  simp [onDataLoop, parseWsFrames_encode returns handler frame rest small, threw]

/-- The handler after it has handed on the payloads of these frames. -/
def WsHandler.deliver (handler : WsHandler) (frames : List ClientFrame) : WsHandler :=
  { handler with events := handler.events ++ frames.map fun frame => .onWsFrame frame.payload }

@[simp] theorem deliver_nil (handler : WsHandler) : handler.deliver [] = handler := by
  simp [WsHandler.deliver]

@[simp] theorem emit_deliver (handler : WsHandler) (frame : ClientFrame)
    (rest : List ClientFrame) :
    (handler.emit (.onWsFrame frame.payload)).deliver rest = handler.deliver (frame :: rest) := by
  simp [WsHandler.deliver, WsHandler.emit]

@[simp] theorem deliver_append (handler : WsHandler) (first second : List ClientFrame) :
    (handler.deliver first).deliver second = handler.deliver (first ++ second) := by
  simp [WsHandler.deliver]

theorem onDataLoop_encodeAll (returns : List UInt8 → Bool) (group : List ClientFrame) :
    ∀ fuel handler, group ≠ [] → (encodeAll group).length < 2 ^ 64 →
      (encodeAll group).length < fuel → (∀ frame ∈ group, returns frame.payload = true) →
      onDataLoop returns fuel handler (encodeAll group) = (.ok (), handler.deliver group) := by
  induction group with
  | nil => exact fun _ _ nonempty => absurd rfl nonempty
  | cons frame rest ih =>
    intro fuel handler _ small enough returned
    rw [encodeAll_cons] at small enough ⊢
    have grown : 0 < frame.encode.length := List.length_pos_iff.mpr (encode_ne_nil frame)
    rw [List.length_append] at enough
    obtain ⟨fuel, rfl⟩ : ∃ less, fuel = less + 1 := ⟨fuel - 1, by omega⟩
    rw [onDataLoop_encode returns fuel handler frame (encodeAll rest) small
      (returned frame List.mem_cons_self)]
    cases rest with
    | nil => rfl
    | cons next more =>
      have later : encodeAll (next :: more) ≠ [] := by simp [encode_ne_nil]
      rw [ite_cond_eq_false _ _ (eq_false later), ← emit_deliver]
      rw [List.length_append] at small
      exact ih fuel _ (List.cons_ne_nil _ _) (by omega) (by omega)
        fun other inside => returned other (List.mem_cons_of_mem _ inside)

/-- Reads that hold whole frames are handed on completely. -/
theorem readLoopAsync_groups (returns : List UInt8 → Bool) (groups : List (List ClientFrame)) :
    ∀ handler, handler.tcp = true →
      (∀ group ∈ groups, 1 ≤ (encodeAll group).length ∧ (encodeAll group).length ≤ 8192) →
      (∀ frame ∈ groups.flatten, returns frame.payload = true) →
      readLoopAsync returns handler (groups.map encodeAll) =
        (.ok (), handler.deliver groups.flatten) := by
  induction groups with
  | nil => intro handler _ _ _; simp [readLoopAsync]
  | cons group rest ih =>
    intro handler connected sizes returned
    obtain ⟨least, most⟩ := sizes group List.mem_cons_self
    have nonempty : group ≠ [] := by
      rintro rfl
      simp at least
    have fed := onDataLoop_encodeAll returns group ((encodeAll group).length + 1) handler nonempty
      (by omega) (by omega) fun frame inside => returned frame (by simp [inside])
    simp only [List.map_cons, readLoopAsync, connected, ↓reduceIte, onData, fed]
    rw [ih (handler.deliver group) connected
      (fun other inside => sizes other (List.mem_cons_of_mem _ inside))
      (fun frame inside => returned frame (by
        rw [List.flatten_cons]
        exact List.mem_append_right _ inside)),
      deliver_append, List.flatten_cons]

/-! ## Counting bytes -/

/-- The bytes that a client needs at least to send these payloads. -/
def weight (payloads : List (List UInt8)) : Nat :=
  (payloads.map fun payload => encodedLength payload.length).sum

@[simp] theorem weight_append (first second : List (List UInt8)) :
    weight (first ++ second) = weight first + weight second := by
  simp [weight]

theorem weight_payloads (frames : List ClientFrame) :
    weight (frames.map (·.payload)) = (encodeAll frames).length := by
  induction frames with
  | nil => rfl
  | cons frame rest ih =>
    rw [encodeAll_cons, List.length_append, ← ih, frame.encode_length]
    rfl

/-- A read hands on no more than its bytes can encode. -/
theorem onDataLoop_weight (returns : List UInt8 → Bool) (fuel : Nat) :
    ∀ handler after data, onDataLoop returns fuel handler data = (.ok (), after) →
      weight after.delivered ≤ weight handler.delivered + data.length := by
  induction fuel with
  | zero =>
    intro handler after data success
    obtain ⟨-, rfl⟩ := Prod.mk.inj success
    omega
  | succ fuel ih =>
    intro handler after data success
    have round := onDataLoop_round returns fuel handler data
    rw [success] at round
    generalize outcome : ((.ok (), after) : Except Stop Unit × WsHandler) = final at round
    cases round with
    | faulted | thrown | overrun => cases outcome
    | refused | waits | closed =>
      obtain ⟨-, rfl⟩ := Prod.mk.inj outcome
      simp
    | next decoded decode plain result returned inside =>
      have taken := decode_consumes decode result
      have later := ih _ after _ outcome.symm
      have emitted : weight (handler.emit (.onWsFrame decoded.output)).delivered =
          weight handler.delivered + encodedLength decoded.output.length := by
        simp [weight]
      rw [emitted, List.length_drop] at later
      omega

theorem readLoopAsync_weight (returns : List UInt8 → Bool) (reads : List (List UInt8)) :
    ∀ handler after, readLoopAsync returns handler reads = (.ok (), after) →
      weight after.delivered ≤ weight handler.delivered + reads.flatten.length := by
  induction reads with
  | nil =>
    intro handler after success
    obtain ⟨-, rfl⟩ := Prod.mk.inj success
    simp
  | cons read rest ih =>
    intro handler after success
    simp only [readLoopAsync] at success
    rw [List.flatten_cons, List.length_append]
    split at success
    · split at success
      · cases success
      · rename_i middle fed
        have first := onDataLoop_weight returns _ handler middle read fed
        have later := ih middle after success
        omega
    · obtain ⟨-, rfl⟩ := Prod.mk.inj success
      omega

/-- A frame whose end is missing is never handed on by a turn that returns and
keeps the rest of the data intact. -/
theorem onDataLoop_strict_prefix (returns : List UInt8 → Bool) (fuel : Nat)
    (handler after : WsHandler) (frame : ClientFrame) (front back : List UInt8)
    (split : frame.encode = front ++ back) (missing : back ≠ [])
    (success : onDataLoop returns (fuel + 1) handler front = (.ok (), after)) :
    after = handler := by
  simp only [onDataLoop, parseWsFrames] at success
  cases decode : decodeFrameHybi17 front true with
  | error fault =>
    rw [decode] at success
    cases success
  | ok decoded =>
    obtain ⟨plain, shape⟩ := decode_strict_prefix frame front back decoded split missing decode
    rcases shape with ⟨waits, nothing⟩ | ⟨claims, beyond⟩
    · simp only [decode, plain, waits, nothing] at success
      exact (Prod.mk.inj success).2.symm
    · have refused : removeFromBeginning front decoded.bytesConsumed =
          .error (.fault (.eraseOutside decoded.bytesConsumed)) := by
        simp [removeFromBeginning, show ¬ decoded.bytesConsumed ≤ front.length by omega]
      simp only [decode, plain, claims] at success
      by_cases returned : returns decoded.output = true
      · simp [returned, show decoded.bytesConsumed > 0 by omega, refused] at success
      · simp [returned] at success

/-- A read whose bytes were all handed on consists of whole frames. -/
theorem onDataLoop_exact (returns : List UInt8 → Bool) (frames : List ClientFrame) :
    ∀ fuel handler after read more, read.length < fuel → read.length < 2 ^ 64 → read ≠ [] →
      read ++ more = encodeAll frames →
      onDataLoop returns fuel handler read = (.ok (), after) →
      weight after.delivered = weight handler.delivered + read.length →
      ∃ group rest, frames = group ++ rest ∧ read = encodeAll group ∧
        ∀ frame ∈ group, returns frame.payload = true := by
  induction frames with
  | nil =>
    intro fuel handler after read more _ _ nonempty stream
    exact absurd (List.append_eq_nil_iff.mp stream).1 nonempty
  | cons frame rest ih =>
    intro fuel handler after read more enough small nonempty stream success exact
    obtain ⟨fuel, rfl⟩ : ∃ less, fuel = less + 1 := ⟨fuel - 1, by omega⟩
    rw [encodeAll_cons] at stream
    rcases List.append_eq_append_iff.mp stream with ⟨back, cut, -⟩ | ⟨later, whole, remains⟩
    · by_cases finished : back = []
      · obtain rfl : read = frame.encode := by rw [cut, finished, List.append_nil]
        refine ⟨[frame], rest, rfl, by simp, ?_⟩
        intro other inside
        obtain rfl := List.mem_singleton.mp inside
        by_contra threw
        have thrown := onDataLoop_encode_thrown returns fuel handler other []
          (by simpa using small) (by simpa using threw)
        rw [List.append_nil] at thrown
        rw [thrown] at success
        cases success
      · have unchanged := onDataLoop_strict_prefix returns fuel handler after frame read back cut
          finished success
        have some := List.length_pos_iff.mpr nonempty
        rw [unchanged] at exact
        omega
    · subst whole
      by_cases returned : returns frame.payload = true
      · rw [onDataLoop_encode returns fuel handler frame later small returned] at success
        by_cases finished : later = []
        · refine ⟨[frame], rest, rfl, by simp [finished], ?_⟩
          intro other inside
          rwa [List.mem_singleton.mp inside]
        · rw [ite_cond_eq_false _ _ (eq_false finished)] at success
          have grown : 0 < frame.encode.length := List.length_pos_iff.mpr (encode_ne_nil frame)
          rw [List.length_append] at enough small exact
          have emitted : weight (handler.emit (.onWsFrame frame.payload)).delivered =
              weight handler.delivered + frame.encode.length := by
            rw [emit_delivered_onWsFrame, weight_append, frame.encode_length]
            simp [weight]
          obtain ⟨group, remaining, frames, read, called⟩ := ih fuel _ after later more (by omega)
            (by omega) finished remains.symm success (by omega)
          refine ⟨frame :: group, remaining, by rw [frames, List.cons_append],
            by rw [read, encodeAll_cons], ?_⟩
          intro other inside
          rcases List.mem_cons.mp inside with rfl | inside
          · exact returned
          · exact called other inside
      · rw [onDataLoop_encode_thrown returns fuel handler frame later small
          (by simpa using returned)] at success
        cases success

/-- If every byte was handed on, then no read boundary cut a frame. -/
theorem readLoopAsync_exact (returns : List UInt8 → Bool) (reads : List (List UInt8)) :
    ∀ frames handler after, (∀ read ∈ reads, 1 ≤ read.length ∧ read.length ≤ 8192) →
      reads.flatten = encodeAll frames →
      readLoopAsync returns handler reads = (.ok (), after) →
      weight after.delivered = weight handler.delivered + reads.flatten.length →
      WholeFrames frames reads ∧ ∀ frame ∈ frames, returns frame.payload = true := by
  induction reads with
  | nil =>
    intro frames handler after _ stream _ _
    cases frames with
    | nil => exact ⟨⟨[], rfl, rfl⟩, by simp⟩
    | cons frame rest =>
      have empty : frame.encode ++ encodeAll rest = [] := stream.symm
      exact absurd (List.append_eq_nil_iff.mp empty).1 (encode_ne_nil frame)
  | cons read rest ih =>
    intro frames handler after sizes stream success exact
    obtain ⟨least, most⟩ := sizes read List.mem_cons_self
    have nonempty : read ≠ [] := by
      rintro rfl
      simp at least
    rw [List.flatten_cons] at stream exact
    rw [List.length_append] at exact
    simp only [readLoopAsync] at success
    split at success
    · split at success
      · cases success
      · rename_i middle fed
        have first := onDataLoop_weight returns _ handler middle read fed
        have later := readLoopAsync_weight returns rest middle after success
        obtain ⟨group, remaining, rfl, rfl, called⟩ := onDataLoop_exact returns frames _ handler
          middle read rest.flatten (Nat.lt_succ_self _) (by omega) nonempty stream fed (by omega)
        have suffix : rest.flatten = encodeAll remaining := by
          have joined : encodeAll group ++ rest.flatten = encodeAll group ++ encodeAll remaining := by
            rw [stream]
            simp [encodeAll]
          exact List.append_cancel_left joined
        obtain ⟨⟨groups, rfl, rfl⟩, calledLater⟩ := ih remaining middle after
          (fun other inside => sizes other (List.mem_cons_of_mem _ inside)) suffix success (by omega)
        refine ⟨⟨group :: groups, rfl, rfl⟩, ?_⟩
        intro frame inside
        rcases List.mem_append.mp inside with inside | inside
        · exact called frame inside
        · exact calledLater frame inside
    · obtain ⟨-, rfl⟩ := Prod.mk.inj success
      omega

/-- The input reaches the delegate unchanged exactly when no frame is cut by a
read boundary and the delegate returns from every frame. -/
theorem readLoopAsync_delivers_iff (returns : List UInt8 → Bool) (frames : List ClientFrame)
    (reads : List (List UInt8))
    (sizes : ∀ read ∈ reads, 1 ≤ read.length ∧ read.length ≤ 8192)
    (stream : reads.flatten = encodeAll frames) :
    Delivers returns frames reads ↔
      WholeFrames frames reads ∧ ∀ frame ∈ frames, returns frame.payload = true := by
  constructor
  · rintro ⟨returned, delivered, -⟩
    apply readLoopAsync_exact returns reads frames {} _ sizes stream (Prod.ext returned rfl)
    rw [delivered, weight_payloads, stream]
    simp [WsHandler.delivered, weight]
  · rintro ⟨⟨groups, rfl, rfl⟩, returned⟩
    have fed := readLoopAsync_groups returns groups {} rfl
      (fun group inside => sizes _ (List.mem_map_of_mem inside)) returned
    have payloads : ∀ frames : List ClientFrame,
        (WsHandler.deliver {} frames).delivered = frames.map (·.payload) := by
      intro frames
      simp [WsHandler.delivered, WsHandler.deliver, List.filterMap_map, Function.comp_def,
        payload?]
    refine ⟨by rw [fed], by rw [fed, payloads], ?_⟩
    rw [fed]
    simp [WsHandler.deliver]

/-- The text "A" under the zero masking key. -/
def letterFrame : ClientFrame where
  maskingKey := #v[0, 0, 0, 0]
  payload := [0x41]
  bounded := by decide

theorem readLoopAsync_delivers_letters :
    WholeFrames [letterFrame, letterFrame] [letterFrame.encode, letterFrame.encode] ∧
      Delivers (fun _ => true) [letterFrame, letterFrame]
        [letterFrame.encode, letterFrame.encode] := by
  have whole : WholeFrames [letterFrame, letterFrame] [letterFrame.encode, letterFrame.encode] :=
    ⟨[[letterFrame], [letterFrame]], rfl, rfl⟩
  exact ⟨whole, (readLoopAsync_delivers_iff (fun _ => true) [letterFrame, letterFrame]
    [letterFrame.encode, letterFrame.encode] (by decide) rfl).mpr ⟨whole, fun _ _ => rfl⟩⟩

/-- The byte of a first short read is dropped, and the second read then starts
with what looks like an unmasked frame. -/
theorem readLoopAsync_drops_split_frame :
    [[0x81], [0x81, 0, 0, 0, 0, 0x41]].flatten = encodeAll [letterFrame] ∧
      (readLoopAsync (fun _ => true) {} [[0x81], [0x81, 0, 0, 0, 0, 0x41]]).2.events =
        [.onEof] ∧
      ¬ Delivers (fun _ => true) [letterFrame] [[0x81], [0x81, 0, 0, 0, 0, 0x41]] := by
  refine ⟨by decide, by decide, ?_⟩
  rintro ⟨-, delivered, -⟩
  revert delivered
  decide

end V8Jsi.InspectorSocket
