import V8Jsi.Lib.Runs

set_option autoImplicit false

/- The output side of `tcp_connection` in inspector_tcp.cpp. A call runs in the
steps that the mutex makes visible: the push of `write_async`, the locked part
of `do_write`, and the unlocked part that hands the buffer to `async_send`. -/
namespace V8Jsi.TcpWrite

open Runs

/-- `std::abort`, in the completion handler of a cancelled send. -/
inductive Failure
  | abort
  deriving DecidableEq, Repr

/-- The calls in progress follow the members of the class: how many stand before
the lock of `do_write(false)` and of `do_write(true)`, and the messages that
were popped and are yet to be issued. `pushed` and `wire` record the messages
given to `write_async` and the bytes handed to the peer. -/
structure TcpConnection where
  outQueue : List (List UInt8) := []
  messageToWrite : List UInt8 := []
  writing : Bool := false
  socketOpen : Bool := true
  eofReports : Nat := 0
  entering : Nat := 0
  continuing : Nat := 0
  issuing : List (List UInt8) := []
  outstanding : List (List UInt8) := []
  pushed : List (List UInt8) := []
  wire : List UInt8 := []
  deriving DecidableEq, Repr

inductive Action
  | writeAsync (message : List UInt8)
  | doWrite (cont : Bool)
  | issue (i : Nat)
  | sendCompleted (i bytesTransferred : Nat)
  | sendFailed (i : Nat) (operationAborted : Bool)
  deriving DecidableEq, Repr

namespace TcpConnection

def writeAsync (connection : TcpConnection) (message : List UInt8) : TcpConnection :=
  { connection with
    outQueue := connection.outQueue ++ [message]
    pushed := connection.pushed ++ [message]
    entering := connection.entering + 1 }

/-- The locked part of `do_write`. -/
def doWriteLocked (connection : TcpConnection) (cont : Bool) : TcpConnection :=
  if !cont && connection.writing then connection
  else
    match connection.outQueue with
    | [] => { connection with writing := false }
    | message :: rest =>
        { connection with
          outQueue := rest
          writing := true
          issuing := connection.issuing ++ [message] }

/-- One call leaves the set of those that stand before the lock. -/
def takeCall (connection : TcpConnection) : Bool → Option TcpConnection
  | false =>
      if 0 < connection.entering then
        some { connection with entering := connection.entering - 1 }
      else none
  | true =>
      if 0 < connection.continuing then
        some { connection with continuing := connection.continuing - 1 }
      else none

/-- The rest of `do_write`. An empty message closes the connection first. -/
def issue (connection : TcpConnection) (message : List UInt8) : TcpConnection :=
  let closed :=
    if message.length = 0 then
      { connection with socketOpen := false, eofReports := connection.eofReports + 1 }
    else connection
  { closed with messageToWrite := message, outstanding := closed.outstanding ++ [message] }

def Transfers (message : List UInt8) (bytesTransferred : Nat) : Prop :=
  bytesTransferred ≤ message.length ∧ (message ≠ [] → 1 ≤ bytesTransferred)

instance (message : List UInt8) (bytesTransferred : Nat) :
    Decidable (Transfers message bytesTransferred) :=
  inferInstanceAs (Decidable (_ ∧ _))

end TcpConnection

open TcpConnection

def call (connection : TcpConnection) : Action → Option (Except Failure TcpConnection)
  | .writeAsync message => some (.ok (connection.writeAsync message))
  | .doWrite cont => (connection.takeCall cont).map fun taken => .ok (taken.doWriteLocked cont)
  | .issue i => connection.issuing[i]?.map fun message =>
      .ok ({ connection with issuing := connection.issuing.eraseIdx i }.issue message)
  | .sendCompleted i bytesTransferred => connection.outstanding[i]?.bind fun message =>
      if connection.socketOpen ∧ Transfers message bytesTransferred then
        some (.ok { connection with
          outstanding := connection.outstanding.eraseIdx i
          wire := connection.wire ++ message.take bytesTransferred
          continuing := connection.continuing + 1 })
      else none
  | .sendFailed i operationAborted => connection.outstanding[i]?.map fun _ =>
      if operationAborted then .error .abort
      else .ok { connection with outstanding := connection.outstanding.eraseIdx i }

def tcpConnection : Program TcpConnection Action Failure where
  start := {}
  call := call

/-- The messages between the queue and the completion of their send. -/
def TcpConnection.inFlight (connection : TcpConnection) : List (List UInt8) :=
  connection.issuing ++ connection.outstanding

/-- No message waits, and none is on its way. -/
def TcpConnection.Drained (connection : TcpConnection) : Prop :=
  connection.outQueue = [] ∧ connection.inFlight = []

/-- A completion reports the whole buffer that was passed to `async_send`. -/
def WholeTransfer (connection : TcpConnection) : Action → Prop
  | .sendCompleted i bytesTransferred =>
      ∀ message, connection.outstanding[i]? = some message → bytesTransferred = message.length
  | .writeAsync _ | .doWrite _ | .issue _ | .sendFailed _ _ => True

/-- The flag and the calls in progress agree, so that one send at most is on its
way. `sent` lists the completed messages with the length that was transferred. -/
structure Accounts (connection : TcpConnection) (sent : List (List UInt8 × Nat)) : Prop where
  single : connection.continuing + connection.issuing.length + connection.outstanding.length =
    if connection.writing then 1 else 0
  order : sent.map Prod.fst ++ connection.inFlight ++ connection.outQueue = connection.pushed
  bytes : connection.wire = sent.flatMap fun entry => entry.1.take entry.2
  within : ∀ entry ∈ sent, entry.2 ≤ entry.1.length

theorem only_element {α : Type} {items : List α} {i : Nat} {item : α}
    (single : items.length ≤ 1) (found : items[i]? = some item) : items = [item] ∧ i = 0 := by
  match items, single with
  | [], _ => simp at found
  | [first], _ =>
    cases i with
    | zero => simpa using found
    | succ i => simp at found

/-- What entering the lock leaves of a connection. -/
structure Taken (connection taken : TcpConnection) (cont : Bool) : Prop where
  writing : taken.writing = connection.writing
  outQueue : taken.outQueue = connection.outQueue
  pushed : taken.pushed = connection.pushed
  wire : taken.wire = connection.wire
  issuing : taken.issuing = connection.issuing
  outstanding : taken.outstanding = connection.outstanding
  continuing : taken.continuing + cont.toNat = connection.continuing

theorem takeCall_taken {connection taken : TcpConnection} {cont : Bool}
    (entered : connection.takeCall cont = some taken) : Taken connection taken cont := by
  cases cont with
  | false =>
    simp only [takeCall] at entered
    split at entered
    · obtain rfl := Option.some.inj entered
      exact ⟨rfl, rfl, rfl, rfl, rfl, rfl, rfl⟩
    · cases entered
  | true =>
    simp only [takeCall] at entered
    split at entered
    · obtain rfl := Option.some.inj entered
      refine ⟨rfl, rfl, rfl, rfl, rfl, rfl, ?_⟩
      simp only [Bool.toNat_true]
      omega
    · cases entered

theorem Taken.inFlight {connection taken : TcpConnection} {cont : Bool}
    (entered : Taken connection taken cont) : taken.inFlight = connection.inFlight := by
  simp only [TcpConnection.inFlight, entered.issuing, entered.outstanding]

/-- A call that gets past the guard is either the continuation of the one send on its
way, or finds none. -/
theorem Taken.alone {connection taken : TcpConnection} {cont : Bool}
    {sent : List (List UInt8 × Nat)} (entered : Taken connection taken cont)
    (accounts : Accounts connection sent) (proceeds : cont = true ∨ taken.writing = false) :
    taken.continuing = 0 ∧ taken.issuing = [] ∧ taken.outstanding = [] := by
  have single := accounts.single
  have continuing := entered.continuing
  rw [entered.issuing, entered.outstanding, ← List.length_eq_zero_iff,
    ← List.length_eq_zero_iff]
  cases cont with
  | false =>
    have idle : connection.writing = false := by simpa [entered.writing] using proceeds
    simp only [idle, Bool.toNat_false, Bool.false_eq_true, ↓reduceIte] at continuing single
    omega
  | true =>
    simp only [Bool.toNat_true] at continuing
    split at single <;> omega

theorem doWriteLocked_accounts {connection taken : TcpConnection}
    {sent : List (List UInt8 × Nat)} {cont : Bool} (accounts : Accounts connection sent)
    (entered : Taken connection taken cont) :
    Accounts (taken.doWriteLocked cont) sent := by
  have ⟨single, order, bytes, within⟩ := accounts
  unfold doWriteLocked
  split
  · rename_i busy
    obtain ⟨rfl, busy⟩ : cont = false ∧ taken.writing = true := by simpa using busy
    apply Accounts.mk _ _ _ within
    · rw [entered.writing, entered.issuing, entered.outstanding]
      simpa only [Bool.toNat_false, Nat.add_zero, ← entered.continuing] using single
    · rw [entered.inFlight, entered.outQueue, entered.pushed]
      exact order
    · rw [entered.wire]
      exact bytes
  · rename_i proceeds
    have proceeds : cont = true ∨ taken.writing = false := by
      cases cont with
      | false => simpa using proceeds
      | true => exact .inl rfl
    obtain ⟨noneContinuing, noneIssuing, noneOutstanding⟩ := entered.alone accounts proceeds
    have queued : sent.map Prod.fst ++ taken.outQueue = taken.pushed := by
      rw [← entered.inFlight] at order
      rw [entered.outQueue, entered.pushed, ← order]
      simp [TcpConnection.inFlight, noneIssuing, noneOutstanding]
    split
    · rename_i empty
      apply Accounts.mk _ _ _ within
      · simp [noneContinuing, noneIssuing, noneOutstanding]
      · rw [empty] at queued
        simp [TcpConnection.inFlight, noneIssuing, noneOutstanding, empty, ← queued]
      · rw [← bytes, ← entered.wire]
    · rename_i message rest front
      apply Accounts.mk _ _ _ within
      · simp [noneContinuing, noneIssuing, noneOutstanding]
      · rw [front] at queued
        simp [TcpConnection.inFlight, noneIssuing, noneOutstanding, ← queued]
      · rw [← bytes, ← entered.wire]

theorem issue_accounts {connection : TcpConnection} {sent : List (List UInt8 × Nat)} {i : Nat}
    {message : List UInt8} (accounts : Accounts connection sent)
    (popped : connection.issuing[i]? = some message) :
    Accounts ({ connection with issuing := connection.issuing.eraseIdx i }.issue message) sent := by
  obtain ⟨single, order, bytes, within⟩ := accounts
  obtain ⟨issuing, rfl⟩ := only_element (by split at single <;> omega) popped
  have outstanding : connection.outstanding = [] := by
    rw [issuing] at single
    rw [← List.length_eq_zero_iff]
    simp only [List.length_singleton] at single
    split at single <;> omega
  rw [TcpConnection.inFlight, issuing, outstanding] at order
  rw [issuing, outstanding] at single
  unfold issue
  by_cases empty : message.length = 0
  · refine ⟨?_, ?_, ?_, within⟩
    · simpa [empty, issuing, outstanding] using single
    · simpa [TcpConnection.inFlight, empty, issuing, outstanding] using order
    · simpa [empty] using bytes
  · refine ⟨?_, ?_, ?_, within⟩
    · simpa [empty, issuing, outstanding] using single
    · simpa [TcpConnection.inFlight, empty, issuing, outstanding] using order
    · simpa [empty] using bytes

theorem sendCompleted_accounts {connection : TcpConnection} {sent : List (List UInt8 × Nat)}
    {i bytesTransferred : Nat} {message : List UInt8} (accounts : Accounts connection sent)
    (pending : connection.outstanding[i]? = some message)
    (range : bytesTransferred ≤ message.length) :
    Accounts { connection with
      outstanding := connection.outstanding.eraseIdx i
      wire := connection.wire ++ message.take bytesTransferred
      continuing := connection.continuing + 1 } (sent ++ [(message, bytesTransferred)]) := by
  obtain ⟨single, order, bytes, within⟩ := accounts
  obtain ⟨outstanding, rfl⟩ := only_element (by split at single <;> omega) pending
  have issuing : connection.issuing = [] := by
    rw [outstanding] at single
    rw [← List.length_eq_zero_iff]
    simp only [List.length_singleton] at single
    split at single <;> omega
  rw [TcpConnection.inFlight, issuing, outstanding] at order
  refine ⟨?_, ?_, ?_, ?_⟩
  · rw [issuing, outstanding] at single
    simpa [outstanding, issuing] using single
  · simpa [TcpConnection.inFlight, outstanding, issuing] using order
  · simp [bytes]
  · intro entry inside
    rcases List.mem_append.mp inside with inside | inside
    · exact within entry inside
    · rw [List.mem_singleton.mp inside]
      exact range

/-- What one step does to the accounts. -/
theorem call_accounts {connection next : TcpConnection} {sent : List (List UInt8 × Nat)}
    {action : Action} (accounts : Accounts connection sent)
    (succeeds : ∀ i aborted, action ≠ .sendFailed i aborted)
    (called : call connection action = some (.ok next)) :
    ∃ more, Accounts next (sent ++ more) ∧
      (WholeTransfer connection action ↔ ∀ entry ∈ more, entry.2 = entry.1.length) := by
  cases action with
  | writeAsync message =>
    obtain rfl := Except.ok.inj (Option.some.inj called)
    refine ⟨[], ?_, by simp [WholeTransfer]⟩
    rw [List.append_nil]
    refine ⟨accounts.single, ?_, accounts.bytes, accounts.within⟩
    simp only [writeAsync, ← accounts.order, List.append_assoc]
    rfl
  | doWrite cont =>
    obtain ⟨taken, entered, locked⟩ := Option.map_eq_some_iff.mp called
    obtain rfl := Except.ok.inj locked
    refine ⟨[], ?_, by simp [WholeTransfer]⟩
    rw [List.append_nil]
    exact doWriteLocked_accounts accounts (takeCall_taken entered)
  | issue i =>
    obtain ⟨message, popped, issued⟩ := Option.map_eq_some_iff.mp called
    obtain rfl := Except.ok.inj issued
    refine ⟨[], ?_, by simp [WholeTransfer]⟩
    rw [List.append_nil]
    exact issue_accounts accounts popped
  | sendCompleted i bytesTransferred =>
    obtain ⟨message, pending, completed⟩ := Option.bind_eq_some_iff.mp called
    split at completed
    · rename_i allowed
      obtain rfl := Except.ok.inj (Option.some.inj completed)
      refine ⟨[(message, bytesTransferred)], sendCompleted_accounts accounts pending allowed.2.1, ?_⟩
      simp [WholeTransfer, pending]
    · cases completed
  | sendFailed i aborted => exact absurd rfl (succeeds i aborted)

theorem exec_accounts (trace : List Action) : ∀ connection sent next, Accounts connection sent →
    (∀ i aborted, Action.sendFailed i aborted ∉ trace) →
    tcpConnection.exec (.ok connection) trace = some (.ok next) →
    ∃ more, Accounts next (sent ++ more) ∧
      (tcpConnection.Meets WholeTransfer connection trace ↔
        ∀ entry ∈ more, entry.2 = entry.1.length) := by
  induction trace with
  | nil =>
    intro connection sent next accounts _ ran
    obtain rfl : connection = next := by simpa using ran
    exact ⟨[], by rwa [List.append_nil], by simp [Program.Meets]⟩
  | cons action rest ih =>
    intro connection sent next accounts succeeds ran
    obtain ⟨middle, called, continued⟩ := Program.exec_alive_cons_inv ran
    obtain ⟨first, accounted, firstWhole⟩ := call_accounts accounts
      (fun i aborted same => succeeds i aborted (same ▸ List.mem_cons_self)) called
    obtain ⟨later, accountedLater, laterWhole⟩ := ih middle (sent ++ first) next accounted
      (fun i aborted inside => succeeds i aborted (List.mem_cons_of_mem _ inside)) continued
    refine ⟨first ++ later, by rwa [← List.append_assoc], ?_⟩
    rw [Program.meets_cons_ok rest called, firstWhole, laterWhole, List.forall_mem_append]

/-- Cutting some of the messages short loses bytes for good. -/
theorem transferred_all_iff (sent : List (List UInt8 × Nat))
    (within : ∀ entry ∈ sent, entry.2 ≤ entry.1.length) :
    (sent.flatMap fun entry => entry.1.take entry.2) = (sent.map Prod.fst).flatten ↔
      ∀ entry ∈ sent, entry.2 = entry.1.length := by
  induction sent with
  | nil => simp
  | cons entry rest ih =>
    have bound := within entry List.mem_cons_self
    have boundRest := fun other inside => within other (List.mem_cons_of_mem entry inside)
    have shorter : ∀ sent : List (List UInt8 × Nat),
        (sent.flatMap fun entry => entry.1.take entry.2).length ≤
          (sent.map Prod.fst).flatten.length := by
      intro sent
      induction sent with
      | nil => simp
      | cons other more ih =>
        simp only [List.flatMap_cons, List.map_cons, List.flatten_cons, List.length_append,
          List.length_take]
        omega
    rw [List.flatMap_cons, List.map_cons, List.flatten_cons, List.forall_mem_cons,
      ← ih boundRest]
    constructor
    · intro same
      have lengths := congrArg List.length same
      have rest := shorter rest
      simp only [List.length_append, List.length_take] at lengths
      have whole : entry.2 = entry.1.length := by omega
      rw [whole, List.take_length] at same
      exact ⟨whole, List.append_cancel_left same⟩
    · rintro ⟨whole, same⟩
      rw [whole, List.take_length, same]

/-- One send at most is outstanding, and a drained queue has been handed to the
peer byte for byte exactly when no completion reported a partial transfer. -/
theorem drained_wire_iff {trace : List Action} {connection : TcpConnection}
    (succeeds : ∀ i aborted, Action.sendFailed i aborted ∉ trace)
    (ran : tcpConnection.run trace = some (.ok connection)) :
    connection.outstanding.length ≤ 1 ∧
      (connection.Drained →
        (connection.wire = connection.pushed.flatten ↔
          tcpConnection.Meets WholeTransfer tcpConnection.start trace)) := by
  have fresh : Accounts tcpConnection.start [] := ⟨rfl, rfl, rfl, by simp⟩
  obtain ⟨sent, accounts, whole⟩ := exec_accounts trace _ [] connection fresh succeeds ran
  refine ⟨by have := accounts.single; split at this <;> omega, ?_⟩
  rintro ⟨queue, flight⟩
  have order := accounts.order
  rw [List.nil_append, queue, flight, List.append_nil, List.append_nil] at order
  rw [whole, accounts.bytes, ← order, List.nil_append]
  exact transferred_all_iff sent accounts.within

theorem drained_wire_two_messages :
    ∃ trace connection, tcpConnection.run trace = some (.ok connection) ∧ connection.Drained ∧
      connection.wire = [1, 2, 3] ∧
      tcpConnection.Meets WholeTransfer tcpConnection.start trace := by
  let trace : List Action :=
    [.writeAsync [1, 2], .writeAsync [3], .doWrite false, .issue 0, .sendCompleted 0 2,
      .doWrite true, .issue 0, .doWrite false, .sendCompleted 0 1, .doWrite true]
  have ran : ∃ connection, tcpConnection.run trace = some (.ok connection) ∧
      connection.Drained ∧ connection.wire = [1, 2, 3] ∧
      connection.wire = connection.pushed.flatten := ⟨_, rfl, ⟨rfl, rfl⟩, rfl, rfl⟩
  obtain ⟨connection, ran, drained, wire, complete⟩ := ran
  exact ⟨trace, connection, ran, drained, wire,
    ((drained_wire_iff (by simp [trace]) ran).2 drained).mp complete⟩

/-- The rest of a partly transferred message is never sent. -/
theorem partial_transfer_loses_bytes :
    ∃ connection, tcpConnection.run
      [.writeAsync [1, 2], .doWrite false, .issue 0, .sendCompleted 0 1, .doWrite true] =
        some (.ok connection) ∧
      connection.Drained ∧ connection.wire = [1] ∧ connection.pushed.flatten = [1, 2] :=
  ⟨_, rfl, ⟨rfl, rfl⟩, rfl, rfl⟩

end V8Jsi.TcpWrite
