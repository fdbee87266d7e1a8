import V8Jsi.TcpWrite

set_option autoImplicit false

/- Whether the output of a `tcp_connection` keeps moving. The completion handler of a
send that failed leaves `writing_` as it is. -/
namespace V8Jsi.TcpWrite

open Runs TcpConnection

namespace TcpConnection

/-- A send is outstanding, or a call that issues the next one is in progress. -/
def Sending (connection : TcpConnection) : Prop :=
  connection.inFlight ≠ [] ∨ 0 < connection.continuing

/-- `writing_` tells whether a send is outstanding or being issued, and a message in the
queue has one, or a call of `write_async` before its `do_write`. -/
def Pumps (connection : TcpConnection) : Prop :=
  (connection.writing = true ↔ connection.Sending) ∧
    (connection.outQueue ≠ [] → connection.Sending ∨ 0 < connection.entering)

/-- A queued message is taken up by the send on its way or by a call in progress. -/
def Attended (connection : TcpConnection) : Prop :=
  connection.outQueue ≠ [] → connection.writing = true ∨ 0 < connection.entering

/-- `writing_` is set, and nothing is left that would clear it. -/
structure Stalled (connection : TcpConnection) : Prop where
  writing : connection.writing = true
  continuing : connection.continuing = 0
  inFlight : connection.inFlight = []

end TcpConnection

/-! ## Without a failed send -/

theorem sending_iff {connection : TcpConnection} {sent : List (List UInt8 × Nat)}
    (accounts : Accounts connection sent) : connection.writing = true ↔ connection.Sending := by
  have single := accounts.single
  rw [Sending, inFlight, ← List.length_pos_iff, List.length_append]
  cases writing : connection.writing with
  | true =>
    rw [writing, if_pos rfl] at single
    exact iff_of_true rfl (by omega)
  | false =>
    rw [writing, if_neg Bool.false_ne_true] at single
    exact iff_of_false Bool.false_ne_true (by omega)

theorem doWriteLocked_attended (connection : TcpConnection) (cont : Bool) :
    (connection.doWriteLocked cont).Attended := by
  unfold doWriteLocked
  split
  case isTrue busy =>
    intro _
    exact .inl (by simpa using (Bool.and_eq_true_iff.mp busy).2)
  case isFalse =>
    split
    case h_1 empty => exact fun some => absurd empty some
    case h_2 => exact fun _ => .inl rfl

theorem call_attended {connection next : TcpConnection} {action : Action}
    (attended : connection.Attended) (called : call connection action = some (.ok next)) :
    next.Attended := by
  cases action with
  | writeAsync message =>
    obtain rfl := Except.ok.inj (Option.some.inj called)
    exact fun _ => .inr (Nat.succ_pos _)
  | doWrite cont =>
    obtain ⟨taken, -, locked⟩ := Option.map_eq_some_iff.mp called
    obtain rfl := Except.ok.inj locked
    exact doWriteLocked_attended taken cont
  | issue i =>
    obtain ⟨message, -, issued⟩ := Option.map_eq_some_iff.mp called
    obtain rfl := Except.ok.inj issued
    unfold issue
    dsimp only
    split <;> exact attended
  | sendCompleted i bytesTransferred =>
    obtain ⟨message, -, completed⟩ := Option.bind_eq_some_iff.mp called
    obtain ⟨-, rfl⟩ := Program.guard_inv completed
    exact attended
  | sendFailed i aborted =>
    obtain ⟨message, -, failed⟩ := Option.map_eq_some_iff.mp called
    split at failed
    · cases failed
    · obtain rfl := Except.ok.inj failed
      exact attended

theorem pumps_of_accounts {connection : TcpConnection} {sent : List (List UInt8 × Nat)}
    (accounts : Accounts connection sent) (attended : connection.Attended) :
    connection.Pumps := by
  refine ⟨sending_iff accounts, fun waiting => ?_⟩
  rcases attended waiting with writing | entering
  · exact .inl ((sending_iff accounts).mp writing)
  · exact .inr entering

/-! ## After a failed send -/

/-- The failed send was the only one. -/
theorem sendFailed_stalled {connection next : TcpConnection} {sent : List (List UInt8 × Nat)}
    {i : Nat} {aborted : Bool} (accounts : Accounts connection sent)
    (called : call connection (.sendFailed i aborted) = some (.ok next)) : next.Stalled := by
  have single := accounts.single
  obtain ⟨message, pending, failed⟩ := Option.map_eq_some_iff.mp called
  split at failed
  · cases failed
  · obtain rfl := Except.ok.inj failed
    obtain ⟨outstanding, rfl⟩ := only_element (by split at single <;> omega) pending
    rw [outstanding, List.length_singleton] at single
    split at single
    case isTrue writing =>
      have issuing : connection.issuing = [] := List.length_eq_zero_iff.mp (by omega)
      have continuing : connection.continuing = 0 := by omega
      refine ⟨writing, continuing, ?_⟩
      simp [inFlight, issuing, outstanding]
    case isFalse => omega

theorem TcpConnection.Stalled.not_pumps {connection : TcpConnection} (stalled : connection.Stalled) :
    ¬ connection.Pumps := by
  intro pumps
  rcases pumps.1.mp stalled.writing with flight | continuing
  · exact flight stalled.inFlight
  · exact absurd stalled.continuing (Nat.ne_of_gt continuing)

/-- Nothing is issued, completed or continued any more. -/
theorem call_stalled {connection next : TcpConnection} {action : Action}
    (stalled : connection.Stalled) (called : call connection action = some (.ok next)) :
    next.Stalled ∧ next.wire = connection.wire := by
  obtain ⟨issuing, outstanding⟩ := List.append_eq_nil_iff.mp stalled.inFlight
  cases action with
  | writeAsync message =>
    obtain rfl := Except.ok.inj (Option.some.inj called)
    exact ⟨⟨stalled.writing, stalled.continuing, stalled.inFlight⟩, rfl⟩
  | doWrite cont =>
    obtain ⟨taken, entered, locked⟩ := Option.map_eq_some_iff.mp called
    obtain rfl := Except.ok.inj locked
    have frame := takeCall_taken entered
    have continuing := frame.continuing
    rw [stalled.continuing] at continuing
    cases cont with
    | true => exact absurd continuing (by simp)
    | false =>
      have busy : (!false && taken.writing) = true := by
        rw [frame.writing, stalled.writing]
        rfl
      rw [doWriteLocked, if_pos busy]
      exact ⟨⟨frame.writing.trans stalled.writing, continuing,
        frame.inFlight.trans stalled.inFlight⟩, frame.wire⟩
  | issue i => simp [call, issuing] at called
  | sendCompleted i bytesTransferred => simp [call, outstanding] at called
  | sendFailed i aborted => simp [call, outstanding] at called

/-- Once a send has failed, no byte leaves the queue in any later run. -/
theorem exec_stalled {connection next : TcpConnection} (trace : List Action)
    (stalled : connection.Stalled)
    (ran : tcpConnection.exec (.ok connection) trace = some (.ok next)) :
    next.Stalled ∧ next.wire = connection.wire := by
  have step : ∀ state action after, state.Stalled ∧ state.wire = connection.wire →
      call state action = some (.ok after) →
      after.Stalled ∧ after.wire = connection.wire := by
    intro state action after before called
    obtain ⟨still, wire⟩ := call_stalled before.1 called
    exact ⟨still, wire.trans before.2⟩
  exact Program.exec_invariant_always _ step trace connection next ⟨stalled, rfl⟩ ran

/-! ## Whole runs -/

theorem exec_pumps_or_stalled (trace : List Action) : ∀ connection sent next,
    Accounts connection sent → connection.Attended →
    tcpConnection.exec (.ok connection) trace = some (.ok next) →
    (∀ i aborted, Action.sendFailed i aborted ∉ trace) ∧ next.Pumps ∨
      (∃ i aborted, Action.sendFailed i aborted ∈ trace) ∧ next.Stalled := by
  induction trace with
  | nil =>
    intro connection sent next accounts attended ran
    obtain rfl : connection = next := by simpa using ran
    exact .inl ⟨by simp, pumps_of_accounts accounts attended⟩
  | cons action rest ih =>
    intro connection sent next accounts attended ran
    obtain ⟨middle, called, continued⟩ := Program.exec_alive_cons_inv ran
    by_cases failed : ∃ i aborted, action = .sendFailed i aborted
    · obtain ⟨i, aborted, rfl⟩ := failed
      have stalled := sendFailed_stalled accounts called
      exact .inr ⟨⟨i, aborted, List.mem_cons_self⟩, (exec_stalled rest stalled continued).1⟩
    · have succeeds : ∀ i aborted, action ≠ .sendFailed i aborted :=
        fun i aborted same => failed ⟨i, aborted, same⟩
      obtain ⟨more, accounted, -⟩ := call_accounts accounts succeeds called
      rcases ih middle _ next accounted (call_attended attended called) continued with
        ⟨never, pumps⟩ | ⟨⟨i, aborted, inside⟩, stalled⟩
      · refine .inl ⟨fun i aborted inside => ?_, pumps⟩
        rcases List.mem_cons.mp inside with same | later
        · exact succeeds i aborted same.symm
        · exact never i aborted later
      · exact .inr ⟨⟨i, aborted, List.mem_cons_of_mem _ inside⟩, stalled⟩

/-- The output keeps moving exactly as long as no send has failed; from then on nothing is
handed to the peer again. -/
theorem pumps_iff_no_failure {trace : List Action} {connection : TcpConnection}
    (ran : tcpConnection.run trace = some (.ok connection)) :
    (connection.Pumps ↔ ∀ i aborted, Action.sendFailed i aborted ∉ trace) ∧
      (¬ connection.Pumps →
        ∀ later next, tcpConnection.exec (.ok connection) later = some (.ok next) →
          ¬ next.Pumps ∧ next.wire = connection.wire) := by
  have fresh : Accounts tcpConnection.start [] := ⟨rfl, rfl, rfl, by simp⟩
  have idle : tcpConnection.start.Attended := fun waiting => absurd rfl waiting
  rcases exec_pumps_or_stalled trace _ [] connection fresh idle ran with
    ⟨never, pumps⟩ | ⟨⟨i, aborted, inside⟩, stalled⟩
  · exact ⟨iff_of_true pumps never, fun stuck => absurd pumps stuck⟩
  · refine ⟨iff_of_false stalled.not_pumps fun never => never i aborted inside, ?_⟩
    intro _ later next continued
    obtain ⟨still, wire⟩ := exec_stalled later stalled continued
    exact ⟨still.not_pumps, wire⟩

/-- Two messages, one send completed and the next one on its way. -/
theorem pumps_two_messages :
    ∃ connection, tcpConnection.run
      [.writeAsync [1], .doWrite false, .writeAsync [2], .issue 0, .doWrite false,
        .sendCompleted 0 1, .doWrite true, .issue 0] = some (.ok connection) ∧
      connection.outstanding = [[2]] ∧ connection.Pumps := by
  have ran : ∃ connection, tcpConnection.run
      [.writeAsync [1], .doWrite false, .writeAsync [2], .issue 0, .doWrite false,
        .sendCompleted 0 1, .doWrite true, .issue 0] = some (.ok connection) ∧
      connection.outstanding = [[2]] := ⟨_, rfl, rfl⟩
  obtain ⟨connection, ran, outstanding⟩ := ran
  exact ⟨connection, ran, outstanding, (pumps_iff_no_failure ran).1.mpr (by simp)⟩

/-- A message behind a failed send waits on an open connection, and nothing sends it. -/
theorem failed_send_stalls :
    ∃ connection, tcpConnection.run
      [.writeAsync [1], .doWrite false, .issue 0, .sendFailed 0 false, .writeAsync [2],
        .doWrite false] = some (.ok connection) ∧
      connection.socketOpen = true ∧ connection.outQueue = [[2]] ∧ connection.writing = true ∧
      connection.inFlight = [] ∧ connection.continuing = 0 ∧ connection.entering = 0 ∧
      ¬ connection.Pumps := by
  refine ⟨_, rfl, rfl, rfl, rfl, rfl, rfl, rfl, ?_⟩
  exact TcpConnection.Stalled.not_pumps ⟨rfl, rfl, rfl⟩

end V8Jsi.TcpWrite
