import V8Jsi.Lib.Outcome
import V8Jsi.TcpWrite
import V8Jsi.WsHandler

set_option autoImplicit false

/- The life of one `tcp_connection` of inspector_tcp.cpp with its `TcpHolder`: the
read loop, the sends of `do_write`, and the ways to close the socket. An operation
that is pending when the socket is closed completes with `operation_aborted`, one
that is started on a closed socket fails otherwise, and closing reports no error.
The steps of the completion handlers and of the threads that write are taken in any
order. -/
namespace V8Jsi.TcpClose

open Outcome Runs

/-- The error code and the result of an operation. -/
inductive Completion (α : Type)
  | success (value : α)
  | eof
  | operationAborted
  | failed
  deriving DecidableEq, Repr

/-- What a protocol handler does with the data of one read. -/
inductive Reaction
  | writeRaw (buffer : List UInt8)
  | onEof
  | throws
  | faults (fault : WsFrame.MemoryFault)
  deriving DecidableEq, Repr

/-- A read is outstanding until its completion handler runs; the handler carries out
the reactions and starts the next read. -/
inductive ReadLoop
  | outstanding (completed : Option (Completion (List UInt8)))
  | handling (reactions : List Reaction)
  | ended
  deriving DecidableEq, Repr

/-- `sends` has the completion of each outstanding send, `holder` says that the
`TcpHolder` lives, and `running` that `io_context::run` has not been left. -/
structure TcpConnection (Protocol : Type) where
  protocol : Protocol
  out : TcpWrite.TcpConnection := {}
  sends : List (Option (Completion Nat)) := []
  readLoop : ReadLoop := .outstanding none
  holder : Bool := true
  running : Bool := true

/-- A callback to a deleted holder has no defined behaviour, as little as an access
outside a buffer. -/
inductive Failure
  | abort
  | deletedHolder
  | memory (fault : WsFrame.MemoryFault)
  deriving DecidableEq, Repr

/-- A destructor of a handler that sends a last frame is a `writeAsync` before the
`destroyHolder`. -/
inductive Action
  | writeAsync (message : List UInt8)
  | doWrite (cont : Bool)
  | issue (i : Nat)
  | completeRead (result : Completion (List UInt8))
  | completeSend (i : Nat) (result : Completion Nat)
  | handleRead
  | react
  | handleSend (i : Nat)
  | destroyHolder
  deriving DecidableEq, Repr

/-! ## The connection -/

def ReadLoop.cancel : ReadLoop → ReadLoop
  | .outstanding none => .outstanding (some .operationAborted)
  | .outstanding (some result) => .outstanding (some result)
  | .handling reactions => .handling reactions
  | .ended => .ended

def cancelSend : Option (Completion Nat) → Option (Completion Nat)
  | none => some .operationAborted
  | some result => some result

namespace TcpConnection

variable {Protocol : Type}

def close (connection : TcpConnection Protocol) : TcpConnection Protocol :=
  if connection.out.socketOpen then
    { connection with
      out := { connection.out with socketOpen := false }
      sends := connection.sends.map cancelSend
      readLoop := connection.readLoop.cancel }
  else connection

/-- `tcp_.reset()`, whose destructor closes the connection. -/
def resetTcp (connection : TcpConnection Protocol) : TcpConnection Protocol :=
  if connection.holder then { connection.close with holder := false } else connection

/-- `readcallback_` with the end of the file. -/
def reportEof (connection : TcpConnection Protocol) : Except Failure (TcpConnection Protocol) :=
  if connection.holder then .ok connection.resetTcp else .error .deletedHolder

/-- What an operation is that is started now. -/
def started {α : Type} (connection : TcpConnection Protocol) : Option (Completion α) :=
  if connection.out.socketOpen then none else some .failed

/-- An empty message closes the connection. -/
def closeFor (connection : TcpConnection Protocol) (message : List UInt8) :
    Except Failure (TcpConnection Protocol) :=
  if message.length = 0 then connection.close.reportEof else .ok connection

def asyncSend (connection : TcpConnection Protocol) (i : Nat) (message : List UInt8) :
    TcpConnection Protocol :=
  { connection with
    out := { connection.out with issuing := connection.out.issuing.eraseIdx i }.issue message
    sends := connection.sends ++ [connection.started] }

/-- The part of `do_write` behind the lock. -/
def issue (connection : TcpConnection Protocol) (i : Nat) (message : List UInt8) :
    Except Failure (TcpConnection Protocol) :=
  (connection.closeFor message).map (·.asyncSend i message)

def readLoopAsync (connection : TcpConnection Protocol) : TcpConnection Protocol :=
  { connection with readLoop := .outstanding connection.started }

/-- The completion handler of a read. -/
def handleRead (onData : Protocol → List UInt8 → Protocol × List Reaction)
    (connection : TcpConnection Protocol) :
    Completion (List UInt8) → Except Failure (TcpConnection Protocol)
  | .success bytes =>
      if connection.holder then
        let (protocol, reactions) := onData connection.protocol bytes
        .ok { connection with protocol, readLoop := .handling reactions }
      else .error .deletedHolder
  | .eof => { connection with readLoop := .ended }.reportEof
  | .operationAborted => .error .abort
  | .failed => .ok { connection with readLoop := .ended }

def react (connection : TcpConnection Protocol) :
    Reaction → Except Failure (TcpConnection Protocol)
  | .writeRaw buffer =>
      if connection.holder then
        .ok { connection with out := connection.out.writeAsync buffer }
      else .error .deletedHolder
  | .onEof => .ok connection.resetTcp
  | .throws => .ok { connection with readLoop := .ended, running := false }
  | .faults fault => .error (.memory fault)

/-- The completion handler of a send. -/
def handleSend (connection : TcpConnection Protocol) (i : Nat) :
    Completion Nat → Except Failure (TcpConnection Protocol)
  | .success bytesTransferred =>
      .ok { connection with
        out := { connection.out with
          outstanding := connection.out.outstanding.eraseIdx i
          wire := connection.out.wire ++
            (connection.out.outstanding.getD i []).take bytesTransferred
          continuing := connection.out.continuing + 1 }
        sends := connection.sends.eraseIdx i }
  | .operationAborted => .error .abort
  | .eof | .failed =>
      .ok { connection with
        out := { connection.out with outstanding := connection.out.outstanding.eraseIdx i }
        sends := connection.sends.eraseIdx i }

end TcpConnection

section

variable {Protocol : Type}

/-- On an open socket an operation succeeds, meets the end or fails. A read brings
up to 8192 bytes. -/
def ReadCompletes : Completion (List UInt8) → Prop
  | .success bytes => 0 < bytes.length ∧ bytes.length ≤ 8192
  | .eof | .failed => True
  | .operationAborted => False

def SendCompletes (message : List UInt8) : Completion Nat → Prop
  | .success bytesTransferred => TcpWrite.TcpConnection.Transfers message bytesTransferred
  | .failed => True
  | .eof | .operationAborted => False

instance (result : Completion (List UInt8)) : Decidable (ReadCompletes result) :=
  match result with
  | .success bytes => inferInstanceAs (Decidable (0 < bytes.length ∧ bytes.length ≤ 8192))
  | .eof | .failed => .isTrue trivial
  | .operationAborted => .isFalse id

instance (message : List UInt8) (result : Completion Nat) :
    Decidable (SendCompletes message result) :=
  match result with
  | .success bytesTransferred =>
      inferInstanceAs (Decidable (TcpWrite.TcpConnection.Transfers message bytesTransferred))
  | .failed => .isTrue trivial
  | .eof | .operationAborted => .isFalse id

def call (onData : Protocol → List UInt8 → Protocol × List Reaction)
    (connection : TcpConnection Protocol) :
    Action → Option (Except Failure (TcpConnection Protocol))
  | .writeAsync message =>
      if connection.holder then
        some (.ok { connection with out := connection.out.writeAsync message })
      else none
  | .doWrite cont => (connection.out.takeCall cont).map fun taken =>
      .ok { connection with out := taken.doWriteLocked cont }
  | .issue i => connection.out.issuing[i]?.map (connection.issue i)
  | .completeRead result =>
      if connection.out.socketOpen ∧ connection.readLoop = .outstanding none ∧
          ReadCompletes result then
        some (.ok { connection with readLoop := .outstanding (some result) })
      else none
  | .completeSend i result =>
      if connection.out.socketOpen ∧ connection.sends[i]? = some none ∧
          SendCompletes (connection.out.outstanding.getD i []) result then
        some (.ok { connection with sends := connection.sends.set i (some result) })
      else none
  | .handleRead =>
      match connection.running, connection.readLoop with
      | true, .outstanding (some result) => some (connection.handleRead onData result)
      | _, _ => none
  | .react =>
      match connection.readLoop with
      | .handling (reaction :: rest) =>
          some ({ connection with readLoop := .handling rest }.react reaction)
      | .handling [] => some (.ok connection.readLoopAsync)
      | .outstanding _ | .ended => none
  | .handleSend i =>
      match connection.running, connection.sends[i]? with
      | true, some (some result) => some (connection.handleSend i result)
      | _, _ => none
  | .destroyHolder =>
      if connection.holder then some (.ok connection.resetTcp) else none

def tcpConnection (protocol : Protocol)
    (onData : Protocol → List UInt8 → Protocol × List Reaction) :
    Program (TcpConnection Protocol) Action Failure where
  start := { protocol }
  call := call onData

/-! ## Aborts -/

/-- No step can be taken that runs into `std::abort`. -/
def NeverAborts (onData : Protocol → List UInt8 → Protocol × List Reaction) :
    Except Failure (TcpConnection Protocol) → Prop
  | .ok connection => ∀ action, call onData connection action ≠ some (.error .abort)
  | .error reason => reason ≠ .abort

/-- The actions that close the socket: an empty message comes up, the end of the file
is reported, a handler meets a protocol error, the holder is destroyed. -/
def closes (connection : TcpConnection Protocol) : Action → Bool
  | .issue i => connection.out.issuing[i]? == some []
  | .handleRead => connection.readLoop == .outstanding (some .eof)
  | .react =>
      match connection.readLoop with
      | .handling (.onEof :: _) => true
      | .handling _ | .outstanding _ | .ended => false
  | .destroyHolder => true
  | .writeAsync _ | .doWrite _ | .completeRead _ | .completeSend _ _ | .handleSend _ => false

def operationPending (connection : TcpConnection Protocol) : Prop :=
  connection.readLoop = .outstanding none ∨ none ∈ connection.sends

instance (connection : TcpConnection Protocol) : Decidable (operationPending connection) :=
  inferInstanceAs (Decidable (_ ∨ _))

/-- The open socket is closed only while no read and no send is pending, as long as
there is a thread that runs their handlers. -/
def ClosesQuietly (connection : TcpConnection Protocol) (action : Action) : Prop :=
  closes connection action = true → connection.running = true →
    connection.out.socketOpen = true → ¬ operationPending connection

instance (connection : TcpConnection Protocol) (action : Action) :
    Decidable (ClosesQuietly connection action) :=
  inferInstanceAs (Decidable (_ → _))

/-- A handler that runs into `std::abort` is waiting. -/
def Cancelled (connection : TcpConnection Protocol) : Prop :=
  connection.readLoop = .outstanding (some .operationAborted) ∨
    some .operationAborted ∈ connection.sends

structure Quiet (connection : TcpConnection Protocol) : Prop where
  attached : connection.out.socketOpen = true → connection.holder = true
  uncancelled : connection.running = true → ¬ Cancelled connection

/-! ## Closing -/

variable {connection next : TcpConnection Protocol}

@[simp] theorem close_holder (connection : TcpConnection Protocol) :
    connection.close.holder = connection.holder := by
  unfold TcpConnection.close
  split <;> rfl

@[simp] theorem close_running (connection : TcpConnection Protocol) :
    connection.close.running = connection.running := by
  unfold TcpConnection.close
  split <;> rfl

@[simp] theorem close_socketOpen (connection : TcpConnection Protocol) :
    connection.close.out.socketOpen = false := by
  unfold TcpConnection.close
  split
  · rfl
  · rename_i closed
    simpa using closed

@[simp] theorem resetTcp_running (connection : TcpConnection Protocol) :
    connection.resetTcp.running = connection.running := by
  unfold TcpConnection.resetTcp
  split
  · exact close_running connection
  · rfl

/-- Closing cancels nothing when no operation is pending. -/
theorem close_uncancelled (uncancelled : ¬ Cancelled connection)
    (quiet : connection.out.socketOpen = true → ¬ operationPending connection) :
    ¬ Cancelled connection.close := by
  unfold TcpConnection.close
  split
  · rename_i isOpen
    obtain ⟨noRead, noSend⟩ := not_or.mp (quiet isOpen)
    obtain ⟨readKept, sendKept⟩ := not_or.mp uncancelled
    rintro (read | send)
    · cases loop : connection.readLoop with
      | outstanding completed =>
        cases completed with
        | none => exact noRead loop
        | some result =>
          rw [loop] at read
          exact readKept (loop.trans read)
      | handling reactions =>
        rw [loop] at read
        cases read
      | ended =>
        rw [loop] at read
        cases read
    · obtain ⟨before, member, cancelled⟩ := List.mem_map.mp send
      cases before with
      | none => exact noSend member
      | some result =>
        obtain rfl := Option.some.inj cancelled
        exact sendKept member
  · exact uncancelled

/-- Closing under a pending operation cancels it. -/
theorem close_cancelled (isOpen : connection.out.socketOpen = true)
    (pending : operationPending connection) : Cancelled connection.close := by
  unfold TcpConnection.close
  rw [ite_cond_eq_true _ _ (eq_true isOpen)]
  rcases pending with read | send
  · left
    simp only [read, ReadLoop.cancel]
  · right
    exact List.mem_map.mpr ⟨none, send, rfl⟩

theorem close_quiet (quiet : Quiet connection)
    (unpending : connection.running = true → connection.out.socketOpen = true →
      ¬ operationPending connection) : Quiet connection.close where
  attached isOpen := by
    rw [close_socketOpen] at isOpen
    cases isOpen
  uncancelled running := by
    rw [close_running] at running
    exact close_uncancelled (quiet.uncancelled running) (unpending running)

theorem resetTcp_quiet (quiet : Quiet connection)
    (unpending : connection.running = true → connection.out.socketOpen = true →
      ¬ operationPending connection) : Quiet connection.resetTcp := by
  unfold TcpConnection.resetTcp
  split
  · have closed := close_quiet quiet unpending
    constructor
    · intro isOpen
      change connection.close.out.socketOpen = true at isOpen
      rw [close_socketOpen] at isOpen
      cases isOpen
    · exact closed.uncancelled
  · exact quiet

theorem resetTcp_cancelled (held : connection.holder = true)
    (isOpen : connection.out.socketOpen = true) (pending : operationPending connection) :
    Cancelled connection.resetTcp := by
  unfold TcpConnection.resetTcp
  rw [ite_cond_eq_true _ _ (eq_true held)]
  exact close_cancelled isOpen pending

/-! ## Steps -/

variable {onData : Protocol → List UInt8 → Protocol × List Reaction} {action : Action}

theorem reportEof_abort (connection : TcpConnection Protocol) :
    connection.reportEof ≠ .error .abort := by
  unfold TcpConnection.reportEof
  split
  · exact nofun
  · exact nofun

theorem issue_abort (connection : TcpConnection Protocol) (i : Nat) (message : List UInt8) :
    connection.issue i message ≠ .error .abort := by
  unfold TcpConnection.issue TcpConnection.closeFor
  split
  · cases reported : connection.close.reportEof with
    | error reason =>
      intro aborted
      obtain rfl := Except.error.inj aborted
      exact reportEof_abort _ reported
    | ok closed => exact nofun
  · exact nofun

/-- `std::abort` is in the handlers of cancelled operations. -/
theorem call_abort (called : call onData connection action = some (.error .abort)) :
    connection.running = true ∧ Cancelled connection := by
  cases action with
  | writeAsync | destroyHolder | completeRead | completeSend =>
    obtain ⟨-, impossible⟩ := Option.ite_none_right_eq_some.mp called
    cases impossible
  | doWrite cont =>
    obtain ⟨taken, -, impossible⟩ := Option.map_eq_some_iff.mp called
    cases impossible
  | issue i =>
    obtain ⟨message, -, aborted⟩ := Option.map_eq_some_iff.mp called
    exact absurd aborted (issue_abort connection i message)
  | handleRead =>
    simp only [call] at called
    split at called
    · rename_i result running completed
      refine ⟨running, .inl ?_⟩
      cases result with
      | success bytes =>
        simp only [TcpConnection.handleRead] at called
        split at called <;> cases called
      | eof => exact absurd (Option.some.inj called) (reportEof_abort _)
      | operationAborted => exact completed
      | failed => cases called
    · cases called
  | react =>
    simp only [call] at called
    split at called
    · rename_i reaction rest handling
      cases reaction with
      | writeRaw buffer =>
        simp only [TcpConnection.react] at called
        split at called <;> cases called
      | onEof | throws | faults => cases called
    all_goals cases called
  | handleSend i =>
    simp only [call] at called
    split at called
    · rename_i result running completed
      refine ⟨running, .inr ?_⟩
      cases result with
      | success bytesTransferred => cases called
      | operationAborted => exact List.mem_of_getElem? completed
      | eof | failed => cases called
    · cases called

theorem abort_of_cancelled (onData : Protocol → List UInt8 → Protocol × List Reaction)
    (running : connection.running = true) (cancelled : Cancelled connection) :
    ∃ action, call onData connection action = some (.error .abort) := by
  rcases cancelled with read | send
  · refine ⟨.handleRead, ?_⟩
    simp only [call, running, read, TcpConnection.handleRead]
  · obtain ⟨i, found⟩ := List.mem_iff_getElem?.mp send
    refine ⟨.handleSend i, ?_⟩
    simp only [call, running, found, TcpConnection.handleSend]

theorem Quiet.congr (quiet : Quiet connection)
    (socketOpen : next.out.socketOpen = connection.out.socketOpen)
    (holder : next.holder = connection.holder) (running : next.running = connection.running)
    (cancelled : Cancelled next → Cancelled connection) : Quiet next where
  attached isOpen := by
    rw [socketOpen] at isOpen
    rw [holder]
    exact quiet.attached isOpen
  uncancelled runs := by
    rw [running] at runs
    exact fun is => quiet.uncancelled runs (cancelled is)

theorem doWriteLocked_socketOpen {out taken : TcpWrite.TcpConnection} {cont : Bool}
    (entered : out.takeCall cont = some taken) :
    (taken.doWriteLocked cont).socketOpen = out.socketOpen := by
  have kept : taken.socketOpen = out.socketOpen := by
    cases cont with
    | false | true =>
      obtain ⟨-, taking⟩ := Option.ite_none_right_eq_some.mp entered
      obtain rfl := Option.some.inj taking
      rfl
  rw [← kept]
  unfold TcpWrite.TcpConnection.doWriteLocked
  split
  · rfl
  · split <;> rfl

/-- An operation that is started is pending or fails. -/
theorem started_uncancelled {α : Type} (connection : TcpConnection Protocol) :
    (connection.started : Option (Completion α)) ≠ some .operationAborted := by
  unfold TcpConnection.started
  split
  · exact nofun
  · exact nofun

theorem Quiet.setRead (quiet : Quiet connection) (protocol : Protocol) {readLoop : ReadLoop}
    (other : readLoop ≠ .outstanding (some .operationAborted)) :
    Quiet { connection with protocol, readLoop } where
  attached := quiet.attached
  uncancelled running := by
    rintro (read | send)
    · exact other read
    · exact quiet.uncancelled running (.inr send)

/-- The socket is closed already when an empty message is handed to `async_send`. -/
theorem closeFor_quiet {message : List UInt8} (quiet : Quiet connection)
    (unpending : message = [] → connection.running = true →
      connection.out.socketOpen = true → ¬ operationPending connection)
    (closed : connection.closeFor message = .ok next) :
    Quiet next ∧ (message = [] → next.out.socketOpen = false) := by
  unfold TcpConnection.closeFor at closed
  by_cases empty : message = []
  · rw [ite_cond_eq_true _ _ (eq_true (List.length_eq_zero_iff.mpr empty))] at closed
    have quietClosed := close_quiet quiet (unpending empty)
    unfold TcpConnection.reportEof at closed
    split at closed
    · obtain rfl := Except.ok.inj closed
      constructor
      · apply resetTcp_quiet quietClosed
        simp
      · intro _
        unfold TcpConnection.resetTcp
        split
        · exact close_socketOpen _
        · exact close_socketOpen _
    · cases closed
  · rw [ite_cond_eq_false _ _ (eq_false (mt List.length_eq_zero_iff.mp empty))] at closed
    obtain rfl := Except.ok.inj closed
    exact ⟨quiet, fun same => absurd same empty⟩

theorem asyncSend_quiet {message : List UInt8} (i : Nat) (quiet : Quiet connection)
    (shut : message = [] → connection.out.socketOpen = false) :
    Quiet (connection.asyncSend i message) := by
  have kept : (connection.asyncSend i message).out.socketOpen = connection.out.socketOpen := by
    simp only [TcpConnection.asyncSend, TcpWrite.TcpConnection.issue]
    split
    · rename_i empty
      exact (shut (List.length_eq_zero_iff.mp empty)).symm
    · rfl
  apply quiet.congr kept rfl rfl
  rintro (read | send)
  · exact .inl read
  · rcases List.mem_append.mp send with before | last
    · exact .inr before
    · exact absurd (List.mem_singleton.mp last).symm (started_uncancelled connection)

theorem handleRead_quiet {result : Completion (List UInt8)} (quiet : Quiet connection)
    (unpending : result = .eof → connection.running = true →
      connection.out.socketOpen = true → ¬ operationPending connection)
    (handled : connection.handleRead onData result = .ok next) : Quiet next := by
  cases result with
  | success bytes =>
    simp only [TcpConnection.handleRead] at handled
    split at handled
    · obtain rfl := Except.ok.inj handled
      exact quiet.setRead _ nofun
    · cases handled
  | eof =>
    simp only [TcpConnection.handleRead, TcpConnection.reportEof] at handled
    split at handled
    · obtain rfl := Except.ok.inj handled
      have after : Quiet { connection with readLoop := .ended } := quiet.setRead _ nofun
      apply resetTcp_quiet after
      rintro running isOpen (impossible | send)
      · cases impossible
      · exact unpending rfl running isOpen (.inr send)
    · cases handled
  | operationAborted => cases handled
  | failed =>
    obtain rfl := Except.ok.inj handled
    exact quiet.setRead _ nofun

theorem react_quiet {reaction : Reaction} {rest : List Reaction} (quiet : Quiet connection)
    (unpending : reaction = .onEof → connection.running = true →
      connection.out.socketOpen = true → ¬ operationPending connection)
    (reacted : { connection with readLoop := .handling rest }.react reaction = .ok next) :
    Quiet next := by
  have after : Quiet { connection with readLoop := .handling rest } := quiet.setRead _ nofun
  cases reaction with
  | writeRaw buffer =>
    simp only [TcpConnection.react] at reacted
    split at reacted
    · obtain rfl := Except.ok.inj reacted
      exact ⟨after.attached, after.uncancelled⟩
    · cases reacted
  | onEof =>
    obtain rfl := Except.ok.inj reacted
    apply resetTcp_quiet after
    rintro running isOpen (impossible | send)
    · cases impossible
    · exact unpending rfl running isOpen (.inr send)
  | throws =>
    obtain rfl := Except.ok.inj reacted
    exact ⟨after.attached, nofun⟩
  | faults fault => cases reacted

theorem handleSend_quiet {i : Nat} {result : Completion Nat} (quiet : Quiet connection)
    (handled : connection.handleSend i result = .ok next) : Quiet next := by
  have erased : ∀ send ∈ connection.sends.eraseIdx i, send ∈ connection.sends :=
    fun send inside => List.mem_of_mem_eraseIdx inside
  cases result with
  | operationAborted => cases handled
  | success | eof | failed =>
    obtain rfl := Except.ok.inj handled
    refine ⟨quiet.attached, fun running cancelled => quiet.uncancelled running ?_⟩
    exact cancelled.imp id (erased _)

theorem call_quiet (quiet : Quiet connection) (admitted : ClosesQuietly connection action)
    (called : call onData connection action = some (.ok next)) : Quiet next := by
  cases action with
  | writeAsync message =>
    obtain ⟨-, rfl⟩ := Program.guard_inv called
    exact ⟨quiet.attached, quiet.uncancelled⟩
  | doWrite cont =>
    obtain ⟨taken, entered, taking⟩ := Option.map_eq_some_iff.mp called
    obtain rfl := Except.ok.inj taking
    exact quiet.congr (doWriteLocked_socketOpen entered) rfl rfl id
  | issue i =>
    obtain ⟨message, found, issued⟩ := Option.map_eq_some_iff.mp called
    cases closing : connection.closeFor message with
    | error reason =>
      rw [TcpConnection.issue, closing] at issued
      cases issued
    | ok closed =>
      rw [TcpConnection.issue, closing] at issued
      obtain rfl := Except.ok.inj issued
      obtain ⟨quietClosed, shut⟩ := closeFor_quiet quiet (by
        intro empty
        exact admitted (by simp [closes, found, empty])) closing
      exact asyncSend_quiet i quietClosed shut
  | completeRead result =>
    obtain ⟨⟨-, -, completes⟩, rfl⟩ := Program.guard_inv called
    apply quiet.setRead
    intro cancelled
    cases cancelled
    exact completes
  | completeSend i result =>
    obtain ⟨⟨-, -, completes⟩, rfl⟩ := Program.guard_inv called
    refine ⟨quiet.attached, fun running cancelled => ?_⟩
    rcases cancelled with read | send
    · exact quiet.uncancelled running (.inl read)
    · rcases List.mem_or_eq_of_mem_set send with before | set
      · exact quiet.uncancelled running (.inr before)
      · obtain rfl := Option.some.inj set
        exact completes
  | handleRead =>
    simp only [call] at called
    split at called
    · rename_i result running completed
      apply handleRead_quiet quiet _ (Option.some.inj called)
      intro eof
      exact admitted (by simp [closes, completed, eof])
    · cases called
  | react =>
    simp only [call] at called
    split at called
    · rename_i reaction rest handling
      apply react_quiet quiet _ (Option.some.inj called)
      intro eof
      exact admitted (by simp [closes, handling, eof])
    · obtain rfl := Except.ok.inj (Option.some.inj called)
      apply quiet.setRead
      intro cancelled
      exact started_uncancelled connection (ReadLoop.outstanding.inj cancelled)
    all_goals cases called
  | handleSend i =>
    simp only [call] at called
    split at called
    · exact handleSend_quiet quiet (Option.some.inj called)
    · cases called
  | destroyHolder =>
    obtain ⟨-, rfl⟩ := Program.guard_inv called
    exact resetTcp_quiet quiet (admitted rfl)

/-- Closing under a pending operation leaves a handler that aborts. -/
theorem call_cancelled {outcome : Except Failure (TcpConnection Protocol)}
    (quiet : Quiet connection) (isOpen : connection.out.socketOpen = true)
    (closing : closes connection action = true) (pending : operationPending connection)
    (called : call onData connection action = some outcome) :
    ∃ next, outcome = .ok next ∧ next.running = connection.running ∧ Cancelled next := by
  have held := quiet.attached isOpen
  cases action with
  | writeAsync | doWrite | completeRead | completeSend | handleSend => cases closing
  | issue i =>
    have empty : connection.out.issuing[i]? = some [] := by simpa [closes] using closing
    simp only [call, empty, Option.map_some, Option.some.injEq] at called
    have closed : connection.closeFor [] = .ok connection.close.resetTcp := by
      simp [TcpConnection.closeFor, TcpConnection.reportEof, held]
    rw [TcpConnection.issue, closed] at called
    refine ⟨_, called.symm, by simp [TcpConnection.asyncSend], ?_⟩
    have reset : Cancelled connection.close.resetTcp := by
      unfold TcpConnection.resetTcp
      rw [close_holder, ite_cond_eq_true _ _ (eq_true held)]
      have again : connection.close.close = connection.close := by
        unfold TcpConnection.close
        simp [isOpen]
      rw [again]
      exact close_cancelled isOpen pending
    exact reset.imp id fun send => List.mem_append_left _ send
  | handleRead =>
    have eof : connection.readLoop = .outstanding (some .eof) := by simpa [closes] using closing
    have send : none ∈ connection.sends := by
      apply pending.resolve_left
      rw [eof]
      exact nofun
    cases running : connection.running with
    | false =>
      simp only [call, running] at called
      cases called
    | true =>
      simp only [call, running, eof, TcpConnection.handleRead, TcpConnection.reportEof, held,
        ↓reduceIte, Option.some.injEq] at called
      refine ⟨_, called.symm, resetTcp_running _, ?_⟩
      exact resetTcp_cancelled rfl isOpen (.inr send)
  | react =>
    simp only [closes] at closing
    split at closing
    · rename_i rest handling
      have send : none ∈ connection.sends := by
        apply pending.resolve_left
        rw [handling]
        exact nofun
      simp only [call, handling, TcpConnection.react, Option.some.injEq] at called
      refine ⟨_, called.symm, resetTcp_running _, ?_⟩
      exact resetTcp_cancelled held isOpen (.inr send)
    all_goals cases closing
  | destroyHolder =>
    simp only [call, held, ↓reduceIte, Option.some.injEq] at called
    exact ⟨_, called.symm, resetTcp_running connection, resetTcp_cancelled held isOpen pending⟩

theorem Quiet.neverAborts (quiet : Quiet connection) : NeverAborts onData (.ok connection) := by
  intro action aborted
  obtain ⟨running, cancelled⟩ := call_abort aborted
  exact quiet.uncancelled running cancelled

theorem call_kept (connection : TcpConnection Protocol) (action : Action)
    (outcome : Except Failure (TcpConnection Protocol)) (quiet : Quiet connection)
    (admitted : ClosesQuietly connection action)
    (called : call onData connection action = some outcome) :
    NeverAborts onData outcome ∧ ∀ next, outcome = .ok next → Quiet next := by
  cases outcome with
  | error reason =>
    constructor
    · intro aborted
      rw [aborted] at called
      exact quiet.neverAborts action called
    · exact nofun
  | ok next =>
    have after := call_quiet quiet admitted called
    constructor
    · exact after.neverAborts
    · intro other same
      rw [← Except.ok.inj same]
      exact after

theorem call_refused (connection : TcpConnection Protocol) (action : Action)
    (outcome : Except Failure (TcpConnection Protocol)) (quiet : Quiet connection)
    (refused : ¬ ClosesQuietly connection action)
    (called : call onData connection action = some outcome) : ¬ NeverAborts onData outcome := by
  simp only [ClosesQuietly, Classical.not_imp, not_not] at refused
  obtain ⟨closing, running, isOpen, pending⟩ := refused
  obtain ⟨next, rfl, runs, cancelled⟩ := call_cancelled quiet isOpen closing pending called
  rw [running] at runs
  obtain ⟨later, aborts⟩ := abort_of_cancelled onData runs cancelled
  exact fun never => never later aborts

theorem start_quiet (protocol : Protocol) : Quiet { protocol : TcpConnection Protocol } where
  attached _ := rfl
  uncancelled _ := by
    rintro (read | send)
    · cases read
    · cases send

/-- Along every run no step can run into `std::abort` as long as, and only as long as,
the open socket is closed while nothing is pending on it. -/
theorem never_aborts_iff (protocol : Protocol)
    (onData : Protocol → List UInt8 → Protocol × List Reaction) (trace : List Action)
    (outcome : Except Failure (TcpConnection Protocol))
    (ran : (tcpConnection protocol onData).run trace = some outcome) :
    (tcpConnection protocol onData).SafeAlong (NeverAborts onData)
        (tcpConnection protocol onData).start trace ↔
      (tcpConnection protocol onData).Meets ClosesQuietly
        (tcpConnection protocol onData).start trace :=
  Program.safeAlong_iff_meets Quiet (fun _ quiet => quiet.neverAborts) call_kept call_refused trace
    (tcpConnection protocol onData).start outcome
    (start_quiet protocol) ran

end

/-! ## A WebSocket connection -/

open InspectorSocket (WsHandler Event)

def reaction? : Event → Option Reaction
  | .onWsFrame _ => none
  | .writeRaw buffer => some (.writeRaw buffer)
  | .onEof => some .onEof

/-- `WsHandler::OnData`. -/
def wsOnData (returns : List UInt8 → Bool) (handler : WsHandler) (bytes : List UInt8) :
    WsHandler × List Reaction :=
  let (result, after) := InspectorSocket.onData returns { handler with events := [] } bytes
  let reactions := after.events.filterMap reaction?
  match result with
  | .ok () => (after, reactions)
  | .error .thrown => (after, reactions ++ [.throws])
  | .error (.fault fault) => (after, reactions ++ [.faults fault])

/-- The connection ends after all has been sent. -/
theorem never_aborts_eof_after_send :
    (tcpConnection ({} : WsHandler) (wsOnData fun _ => true)).SafeAlong
      (NeverAborts (wsOnData fun _ => true))
      (tcpConnection ({} : WsHandler) (wsOnData fun _ => true)).start
      [.writeAsync [0x42], .doWrite false, .issue 0, .completeSend 0 (.success 1), .handleSend 0,
        .doWrite true, .completeRead .eof, .handleRead] :=
  (never_aborts_iff {} (wsOnData fun _ => true) _ _ rfl).mpr (by decide)

/-- The empty message closes the socket under the outstanding read, and the end of the
file under an outstanding send. -/
theorem close_under_operation_aborts :
    ¬ (tcpConnection ({} : WsHandler) (wsOnData fun _ => true)).SafeAlong
        (NeverAborts (wsOnData fun _ => true))
        (tcpConnection ({} : WsHandler) (wsOnData fun _ => true)).start
        [.writeAsync [], .doWrite false, .issue 0] ∧
      ¬ (tcpConnection ({} : WsHandler) (wsOnData fun _ => true)).SafeAlong
        (NeverAborts (wsOnData fun _ => true))
        (tcpConnection ({} : WsHandler) (wsOnData fun _ => true)).start
        [.writeAsync [0x42], .doWrite false, .issue 0, .completeRead .eof, .handleRead] := by
  constructor
  · intro safe
    have never : NeverAborts _ _ := safe _ [] _ (List.append_nil _).symm rfl
    exact never .handleRead rfl
  · intro safe
    have never : NeverAborts _ _ := safe _ [] _ (List.append_nil _).symm rfl
    exact never (.handleSend 0) rfl

end V8Jsi.TcpClose
