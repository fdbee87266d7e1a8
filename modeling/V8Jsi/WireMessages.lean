import V8Jsi.AgentWrite
import V8Jsi.TcpWrite
import V8Jsi.WsFrameCodec

set_option autoImplicit false

/- The way of a message of the inspector to the debugger: `AgentImpl::Write` and
`StringViewToUtf8` of inspector_agent.cpp, `WsHandler::Write` of inspector_socket.cpp and
`tcp_connection` of inspector_tcp.cpp, read by a decoder of RFC 6455 at the other end. -/
namespace V8Jsi.WireMessages

open AgentWrite InspectorSocket InspectorUtils TcpWrite Unicode WsClose WsFrame

/-- What `SocketSession::Send` of a message makes `WriteRaw` hand to `write_async`. -/
def sendMessage (message : StringView) : Option (List UInt8) :=
  match stringViewToUtf8 message with
  | .error _ => none
  | .ok data => if data.length = 0 then some data else encodeFrameHybi17 data

/-- What a run gives to `write_async`, in order. -/
def handed : List TcpWrite.Action → List (List UInt8)
  | [] => []
  | .writeAsync message :: rest => message :: handed rest
  | _ :: rest => handed rest

/-- The frames of a stream of bytes that ends with a frame. -/
def parseFrames (limit : Nat) : Nat → List UInt8 → Option (List Frame)
  | _, [] => some []
  | 0, _ :: _ => none
  | fuel + 1, bytes => do
      let (frame, rest) ← parseFrame limit bytes
      let frames ← parseFrames limit fuel rest
      return frame :: frames

/-- A message that has UTF-8 in its representation and is not empty. -/
structure Sendable (message : StringView) : Prop where
  wellFormed : message.WellFormed
  encodable : AgentWrite.Encodable message
  nonempty : message.units ≠ []

/-! ## One frame -/

theorem sendMessage_of_handler (handler : WsHandler) {message : StringView} {data : List UInt8}
    (encoded : stringViewToUtf8 message = .ok data) :
    WsClose.write handler data =
      (sendMessage message).map fun output => handler.emit (.writeRaw output) := by
  rw [WsClose.write]
  simp only [sendMessage, encoded]
  split <;> rfl

theorem parseFrame_encoded (data rest : List UInt8) {limit : Nat} (small : data.length < 2 ^ 64)
    (within : data.length < limit) :
    ∃ frame, encodeFrameHybi17 data = some frame ∧ frame ≠ [] ∧
      parseFrame limit (frame ++ rest) = some (textFrame data, rest) := by
  refine ⟨_, encodeFrameHybi17_eq small, List.cons_ne_nil _ _, ?_⟩
  have inside : ¬ ((data ++ rest).length < data.length ∨ limit ≤ data.length) := by
    rw [List.length_append]
    omega
  rw [List.cons_append, List.cons_append, List.append_assoc, parseFrame,
    parseLength_shortest _ small, unmasked_shortest]
  simp only [parseMaskingKey, Option.bind_eq_bind, Option.bind_some, Bool.false_eq_true,
    if_false, if_neg inside, List.take_left, List.drop_left, unmaskWith, textFrame]
  congr

theorem utf8_length {message : StringView} (sendable : Sendable message) :
    0 < (utf8Encode message.text).length ∧ (utf8Encode message.text).length < 2 ^ 32 := by
  constructor
  · rw [StringView.text]
    cases text : decodeLossy message.units with
    | nil =>
      exact absurd (decodeLossy_eq_nil text) sendable.nonempty
    | cons char rest =>
      rw [utf8Encode_cons, List.length_append, String.length_utf8EncodeChar]
      exact Nat.add_pos_left char.utf8Size_pos _
  · have encoded := (encodedAlike_iff sendable.wellFormed).mpr sendable.encodable
    exact (characters16_iff (encode_text sendable.wellFormed)).mp encoded.2

theorem parseFrame_sendMessage {message : StringView} (sendable : Sendable message)
    {output : List UInt8} (sent : sendMessage message = some output) (rest : List UInt8) :
    output ≠ [] ∧ parseFrame (2 ^ 63) (output ++ rest) =
      some (textFrame (utf8Encode message.text), rest) := by
  have encoded := ((encodedAlike_iff sendable.wellFormed).mpr sendable.encodable).1
  obtain ⟨nonempty, short⟩ := utf8_length sendable
  obtain ⟨frame, framed, notEmpty, parsed⟩ := parseFrame_encoded (utf8Encode message.text) rest
    (show _ < 2 ^ 64 by omega) (show _ < 2 ^ 63 by omega)
  simp only [sendMessage, encoded, if_neg (Nat.ne_of_gt nonempty), framed] at sent
  obtain rfl := Option.some.inj sent
  exact ⟨notEmpty, parsed⟩

/-! ## The stream -/

theorem parseFrames_cons (limit fuel : Nat) {bytes : List UInt8} (more : bytes ≠ []) :
    parseFrames limit (fuel + 1) bytes = do
      let (frame, rest) ← parseFrame limit bytes
      let frames ← parseFrames limit fuel rest
      return frame :: frames := by
  match bytes with
  | [] => exact absurd rfl more
  | _ :: _ => rfl

theorem parseFrames_outputs (messages : List StringView) :
    ∀ (outputs : List (List UInt8)) fuel, messages.map sendMessage = outputs.map some →
      (∀ message ∈ messages, Sendable message) → messages.length ≤ fuel →
      parseFrames (2 ^ 63) fuel outputs.flatten =
        some (messages.map fun message => textFrame (utf8Encode message.text)) := by
  induction messages with
  | nil =>
    intro outputs fuel mapped _ _
    obtain rfl : outputs = [] := by simpa using mapped.symm
    cases fuel <;> rfl
  | cons message messages ih =>
    intro outputs fuel mapped sendable enough
    obtain ⟨output, later, rfl⟩ : ∃ output later, outputs = output :: later := by
      cases outputs with
      | nil => cases mapped
      | cons output later => exact ⟨output, later, rfl⟩
    obtain ⟨sent, others⟩ := List.cons.inj mapped
    obtain ⟨notEmpty, parsed⟩ :=
      parseFrame_sendMessage (sendable message List.mem_cons_self) sent later.flatten
    obtain ⟨fuel, rfl⟩ : ∃ less, fuel = less + 1 :=
      Nat.exists_eq_add_one.mpr (Nat.lt_of_lt_of_le (Nat.succ_pos _) enough)
    have rest := ih later fuel others
      (fun other inside => sendable other (List.mem_cons_of_mem _ inside))
      (Nat.le_of_succ_le_succ enough)
    have more : output ++ later.flatten ≠ [] := by simp [notEmpty]
    rw [List.flatten_cons, parseFrames_cons _ fuel more, parsed]
    simp only [Option.bind_eq_bind, Option.bind_some, rest]
    rfl

theorem call_pushed {connection next : TcpConnection} {action : TcpWrite.Action}
    (called : call connection action = some (.ok next)) :
    next.pushed = connection.pushed ++ handed [action] := by
  cases action with
  | writeAsync message =>
    obtain rfl := Except.ok.inj (Option.some.inj called)
    rfl
  | doWrite cont =>
    obtain ⟨taken, entered, locked⟩ := Option.map_eq_some_iff.mp called
    obtain rfl := Except.ok.inj locked
    rw [TcpConnection.doWriteLocked]
    split
    · simp [(takeCall_taken entered).pushed, handed]
    · split <;> simp [(takeCall_taken entered).pushed, handed]
  | issue i =>
    obtain ⟨message, popped, issued⟩ := Option.map_eq_some_iff.mp called
    obtain rfl := Except.ok.inj issued
    rw [TcpConnection.issue]
    split <;> simp [handed]
  | sendCompleted i bytesTransferred =>
    obtain ⟨message, pending, completed⟩ := Option.bind_eq_some_iff.mp called
    split at completed
    · obtain rfl := Except.ok.inj (Option.some.inj completed)
      simp [handed]
    · cases completed
  | sendFailed i aborted =>
    obtain ⟨message, pending, failed⟩ := Option.map_eq_some_iff.mp called
    split at failed
    · cases failed
    · obtain rfl := Except.ok.inj failed
      simp [handed]

theorem handed_cons (action : TcpWrite.Action) (rest : List TcpWrite.Action) :
    handed (action :: rest) = handed [action] ++ handed rest := by
  cases action <;> rfl

theorem exec_pushed (trace : List TcpWrite.Action) : ∀ connection next,
    tcpConnection.exec (.ok connection) trace = some (.ok next) →
    next.pushed = connection.pushed ++ handed trace := by
  induction trace with
  | nil =>
    intro connection next ran
    obtain rfl : connection = next := by simpa using ran
    simp [handed]
  | cons action rest ih =>
    intro connection next ran
    obtain ⟨middle, called, continued⟩ := Runs.Program.exec_alive_cons_inv ran
    rw [ih middle next continued, call_pushed called, handed_cons action rest, List.append_assoc]

/-- What has been given to the connection and how far it has come. -/
theorem wire_prefix {trace : List TcpWrite.Action} {connection : TcpConnection}
    (succeeds : ∀ i aborted, TcpWrite.Action.sendFailed i aborted ∉ trace)
    (whole : tcpConnection.Meets WholeTransfer tcpConnection.start trace)
    (ran : tcpConnection.run trace = some (.ok connection)) :
    ∃ completed, completed ≤ (handed trace).length ∧
      connection.wire = ((handed trace).take completed).flatten ∧
      (connection.Drained → completed = (handed trace).length) := by
  have fresh : Accounts tcpConnection.start [] := ⟨rfl, rfl, rfl, by simp⟩
  obtain ⟨sent, accounts, allWhole⟩ := exec_accounts trace _ [] connection fresh succeeds ran
  rw [List.nil_append] at accounts
  have pushed : connection.pushed = handed trace := exec_pushed trace _ connection ran
  have order := accounts.order
  rw [pushed, List.append_assoc] at order
  have wire : connection.wire = (sent.map Prod.fst).flatten := by
    rw [accounts.bytes]
    exact (transferred_all_iff sent accounts.within).mpr (allWhole.mp whole)
  refine ⟨sent.length, ?_, ?_, ?_⟩
  · rw [← order, List.length_append, List.length_map]
    omega
  · rw [wire, ← order, List.take_left' (List.length_map _)]
  · rintro ⟨queue, flight⟩
    rw [← order, queue, flight]
    simp

/-- The bytes of what came first, and what is behind them. -/
theorem flatten_take_append (earlier outputs : List (List UInt8)) (completed : Nat) :
    (((earlier ++ outputs).take completed).flatten.take earlier.flatten.length <+:
        earlier.flatten) ∧
      ((earlier ++ outputs).take completed).flatten.drop earlier.flatten.length =
        (outputs.take (completed - earlier.length)).flatten := by
  rw [List.take_append, List.flatten_append]
  by_cases first : completed ≤ earlier.length
  · have shorter : (earlier.take completed).flatten <+: earlier.flatten :=
      ⟨(earlier.drop completed).flatten, by rw [← List.flatten_append, List.take_append_drop]⟩
    have none : outputs.take (completed - earlier.length) = [] := by
      rw [Nat.sub_eq_zero_of_le first, List.take_zero]
    rw [none, List.flatten_nil, List.append_nil]
    exact ⟨(List.take_prefix ..).trans shorter, List.drop_eq_nil_of_le shorter.length_le⟩
  · have all : earlier.take completed = earlier :=
      List.take_of_length_le (Nat.le_of_not_le first)
    rw [all, List.take_left, List.drop_left]
    exact ⟨List.prefix_rfl, rfl⟩

/-- At every moment a debugger has read the first messages of the inspector, each as one text
frame with the UTF-8 of its text: no message is cut, merged with another, repeated or overtaken.
Once the connection has drained, it has read all of them. `earlier` is what was written before the
first message, which is the replies to HTTP requests. -/
theorem messages_arrive (earlier : List (List UInt8)) (messages : List StringView)
    {trace : List TcpWrite.Action} {connection : TcpConnection}
    (sendable : ∀ message ∈ messages, Sendable message)
    (sends : (handed trace).map some = earlier.map some ++ messages.map sendMessage)
    (succeeds : ∀ i aborted, TcpWrite.Action.sendFailed i aborted ∉ trace)
    (whole : tcpConnection.Meets WholeTransfer tcpConnection.start trace)
    (ran : tcpConnection.run trace = some (.ok connection)) :
    ∃ arrived ≤ messages.length,
      connection.wire.take earlier.flatten.length <+: earlier.flatten ∧
      parseFrames (2 ^ 63) messages.length (connection.wire.drop earlier.flatten.length) =
        some ((messages.take arrived).map fun message =>
          textFrame (utf8Encode message.text)) ∧
      (connection.Drained → earlier.flatten <+: connection.wire ∧ arrived = messages.length) := by
  obtain ⟨completed, within, wire, drained⟩ := wire_prefix succeeds whole ran
  obtain ⟨first, outputs, parts, firsts, rest⟩ := List.map_eq_append_iff.mp sends
  obtain rfl : first = earlier := List.map_injective_iff.mpr (Option.some_injective _) firsts
  have same : outputs.length = messages.length := by
    simpa using congrArg List.length rest
  rw [parts] at wire within drained
  rw [List.length_append] at within drained
  obtain ⟨before, behind⟩ := flatten_take_append first outputs completed
  have front : (messages.take (completed - first.length)).map sendMessage =
      (outputs.take (completed - first.length)).map some := by
    rw [List.map_take, ← rest, List.map_take]
  refine ⟨completed - first.length, by omega, wire ▸ before, ?_, fun done => ⟨?_, ?_⟩⟩
  · rw [wire, behind]
    refine parseFrames_outputs _ _ _ front ?_ ?_
    · exact fun message inside => sendable message (List.mem_of_mem_take inside)
    · rw [List.length_take]
      omega
  · rw [wire, drained done, ← List.length_append, List.take_length, List.flatten_append]
    exact List.prefix_append ..
  · rw [drained done]
    omega

/-- The reply and the first of two messages have arrived while the second is on its way. -/
theorem messages_arrive_first :
    ∃ connection arrived, tcpConnection.run
        [.writeAsync [0x48, 0x0A], .doWrite false, .issue 0, .sendCompleted 0 2, .doWrite true,
          .writeAsync [0x81, 2, 0x6F, 0x6B], .doWrite false, .issue 0,
          .writeAsync [0x81, 2, 0xC3, 0xA9], .sendCompleted 0 4, .doWrite true, .issue 0] =
        some (.ok connection) ∧
      connection.wire.take 2 <+: [0x48, 0x0A] ∧
      parseFrames (2 ^ 63) 2 (connection.wire.drop 2) =
        some (([StringView.characters8 [0x6F, 0x6B], .characters16 [0xE9]].take arrived).map
          fun message => textFrame (utf8Encode message.text)) ∧
      (connection.Drained → [0x48, 0x0A] <+: connection.wire ∧ arrived = 2) := by
  have sendable : ∀ message ∈ [StringView.characters8 [0x6F, 0x6B], .characters16 [0xE9]],
      Sendable message := by
    intro message inside
    simp only [List.mem_cons, List.not_mem_nil, or_false] at inside
    rcases inside with rfl | rfl
    · exact ⟨characters8_wellFormed _, by simp [AgentWrite.Encodable], by decide⟩
    · have short : (utf8Encode (decodeLossy [0xE9])).length = 2 := by decide +kernel
      have encodable : AgentWrite.Encodable (.characters16 [0xE9]) := by
        rw [AgentWrite.Encodable, short]
        omega
      exact ⟨⟨[Char.ofNat 0xE9], by decide +kernel⟩, encodable, by decide⟩
  let trace : List TcpWrite.Action :=
    [.writeAsync [0x48, 0x0A], .doWrite false, .issue 0, .sendCompleted 0 2, .doWrite true,
      .writeAsync [0x81, 2, 0x6F, 0x6B], .doWrite false, .issue 0,
      .writeAsync [0x81, 2, 0xC3, 0xA9], .sendCompleted 0 4, .doWrite true, .issue 0]
  have sends : (handed trace).map some = [[0x48, 0x0A]].map some ++
      [StringView.characters8 [0x6F, 0x6B], .characters16 [0xE9]].map sendMessage := by
    decide +kernel
  have whole : tcpConnection.Meets WholeTransfer tcpConnection.start trace := by
    simp [trace, Runs.Program.Meets, WholeTransfer, tcpConnection, TcpWrite.call,
      TcpConnection.takeCall, TcpConnection.writeAsync, TcpConnection.doWriteLocked,
      TcpConnection.issue]
  obtain ⟨arrived, -, reply, parsed, drained⟩ :=
    messages_arrive [[0x48, 0x0A]] _ sendable sends (by simp [trace]) whole rfl
  exact ⟨_, arrived, rfl, reply, parsed, drained⟩

end V8Jsi.WireMessages
