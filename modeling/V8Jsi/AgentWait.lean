import V8Jsi.Lib.Runs

set_option autoImplicit false

/- The hand-over of incoming messages in inspector_agent.cpp: the socket thread
appends under `state_m` and then notifies, the JS thread waits on a condition
variable under `incoming_message_cond_m_`. Nobody else takes that mutex, so that
the waiter never waits for it. -/
namespace V8Jsi.AgentWait

open Runs

/-- Where the JS thread stands in `WaitForFrontendMessage`. The wait with a
predicate tests the queue before it blocks and again after each wake-up. -/
inductive Waiter
  | outside
  | locked
  | testing
  | blocking
  | blocked
  | woken
  deriving DecidableEq, Repr

/-- `notifying` counts the `PostIncomingMessage` calls that have appended their
message and have yet to execute `notify_all`. -/
structure Mailbox (Entry : Type) where
  incomingMessageQueue : List Entry := []
  notifying : Nat := 0
  waiter : Waiter := .outside
  deriving DecidableEq, Repr

inductive Action (Entry : Type)
  | appendMessage (entry : Entry)
  | notifyAll
  | lock
  | testEmpty
  | testPredicate
  | block
  | wakeSpuriously
  | relock
  | dispatchMessages
  deriving DecidableEq, Repr

section

variable {Entry : Type}

/-- The waiter takes its step from one program point to the next. -/
def Mailbox.move (mailbox : Mailbox Entry) (source target : Waiter) :
    Option (Except Empty (Mailbox Entry)) :=
  if mailbox.waiter = source then some (.ok { mailbox with waiter := target }) else none

/-- A notification reaches a waiter that is blocked, and no other. -/
def Mailbox.notifyAll (mailbox : Mailbox Entry) : Mailbox Entry :=
  { mailbox with
    notifying := mailbox.notifying - 1
    waiter := if mailbox.waiter = .blocked then .woken else mailbox.waiter }

def call (mailbox : Mailbox Entry) : Action Entry → Option (Except Empty (Mailbox Entry))
  | .appendMessage entry => some (.ok { mailbox with
      incomingMessageQueue := mailbox.incomingMessageQueue ++ [entry]
      notifying := mailbox.notifying + 1 })
  | .notifyAll => if 0 < mailbox.notifying then some (.ok mailbox.notifyAll) else none
  | .lock => mailbox.move .outside .locked
  | .testEmpty =>
      mailbox.move .locked (if mailbox.incomingMessageQueue.isEmpty then .testing else .outside)
  | .testPredicate =>
      mailbox.move .testing (if mailbox.incomingMessageQueue.isEmpty then .blocking else .outside)
  | .block => mailbox.move .blocking .blocked
  | .wakeSpuriously => mailbox.move .blocked .woken
  | .relock => mailbox.move .woken .testing
  | .dispatchMessages =>
      if mailbox.waiter = .outside then some (.ok { mailbox with incomingMessageQueue := [] })
      else none

def mailbox : Program (Mailbox Entry) (Action Entry) Empty where
  start := {}
  call := call

/-- The waiter sleeps on a message, and nobody is left to wake it. -/
def Mailbox.Stranded (mailbox : Mailbox Entry) : Prop :=
  mailbox.waiter = .blocked ∧ mailbox.incomingMessageQueue ≠ [] ∧ mailbox.notifying = 0

/-- The waiter has found the queue empty and has not blocked yet. -/
def Mailbox.InWindow (mailbox : Mailbox Entry) : Prop :=
  mailbox.waiter = .blocking ∧ mailbox.incomingMessageQueue ≠ []

/-- A notification falls into the window only while another one is to come. -/
def Timely (mailbox : Mailbox Entry) : Action Entry → Prop
  | .notifyAll => mailbox.InWindow → 2 ≤ mailbox.notifying
  | .appendMessage _ | .lock | .testEmpty | .testPredicate | .block | .wakeSpuriously | .relock
  | .dispatchMessages => True

instance (mailbox : Mailbox Entry) : Decidable mailbox.InWindow :=
  inferInstanceAs (Decidable (_ ∧ ¬ _))

instance (mailbox : Mailbox Entry) : ∀ action, Decidable (Timely mailbox action)
  | .notifyAll => inferInstanceAs (Decidable (_ → _))
  | .appendMessage _ | .lock | .testEmpty | .testPredicate | .block | .wakeSpuriously | .relock
  | .dispatchMessages => isTrue trivial

/-- A waiter that will not look at the queue again by itself still has a
notification coming when there is a message. -/
def Attended (mailbox : Mailbox Entry) : Prop :=
  mailbox.waiter = .blocking ∨ mailbox.waiter = .blocked →
    mailbox.incomingMessageQueue ≠ [] → 0 < mailbox.notifying

theorem Attended.not_stranded {mailbox : Mailbox Entry} (attended : Attended mailbox) :
    ¬ mailbox.Stranded := by
  rintro ⟨blocked, waiting, none⟩
  have coming := attended (.inr blocked) waiting
  omega

theorem move_ok {mailbox next : Mailbox Entry} {source target : Waiter}
    (moved : mailbox.move source target = some (.ok next)) :
    mailbox.waiter = source ∧ next = { mailbox with waiter := target } := by
  unfold Mailbox.move at moved
  split at moved
  · exact ⟨by assumption, (Except.ok.inj (Option.some.inj moved)).symm⟩
  · cases moved

/-- A move to a point where the queue is tested again needs no notification. -/
theorem move_attended {mailbox next : Mailbox Entry} {source target : Waiter}
    (moved : mailbox.move source target = some (.ok next))
    (tested : target ≠ .blocking ∧ target ≠ .blocked) : Attended next := by
  obtain ⟨-, rfl⟩ := move_ok moved
  intro asleep
  rcases asleep with blocking | blocked
  · exact absurd blocking tested.1
  · exact absurd blocked tested.2

theorem notifyAll_attended {mailbox : Mailbox Entry}
    (timely : Timely mailbox .notifyAll) : Attended mailbox.notifyAll := by
  intro asleep waiting
  have stays : mailbox.waiter = .blocking := by
    unfold Mailbox.notifyAll at asleep
    by_cases blocked : mailbox.waiter = .blocked
    · simp [blocked] at asleep
    · simpa [blocked] using asleep
  have others := timely ⟨stays, waiting⟩
  change 0 < mailbox.notifying - 1
  omega

theorem call_attended {mailbox next : Mailbox Entry} {action : Action Entry}
    (attended : Attended mailbox) (timely : Timely mailbox action)
    (called : call mailbox action = some (.ok next)) : Attended next := by
  cases action with
  | appendMessage entry =>
    obtain rfl := Except.ok.inj (Option.some.inj called)
    exact fun _ _ => Nat.succ_pos _
  | notifyAll =>
    simp only [call] at called
    split at called
    · obtain rfl := Except.ok.inj (Option.some.inj called)
      exact notifyAll_attended timely
    · cases called
  | lock => exact move_attended called (by decide)
  | testEmpty =>
    apply move_attended called
    split <;> decide
  | testPredicate =>
    -- The test that leads to blocking has just seen an empty queue.
    simp only [call] at called
    by_cases empty : mailbox.incomingMessageQueue = []
    · obtain ⟨-, rfl⟩ := move_ok called
      exact fun _ waiting => absurd empty waiting
    · rw [ite_cond_eq_false _ _ (by simp [empty])] at called
      exact move_attended called (by decide)
  | block =>
    obtain ⟨blocking, rfl⟩ := move_ok called
    exact fun _ waiting => attended (.inl blocking) waiting
  | wakeSpuriously => exact move_attended called (by decide)
  | relock => exact move_attended called (by decide)
  | dispatchMessages =>
    simp only [call] at called
    split at called
    · obtain rfl := Except.ok.inj (Option.some.inj called)
      exact fun _ waiting => absurd rfl waiting
    · cases called

/-- In a run whose notifications are timely no message is ever slept on. -/
theorem timely_never_stranded {trace : List (Action Entry)} {reached : Mailbox Entry}
    (timely : mailbox.Meets Timely mailbox.start trace)
    (ran : mailbox.run trace = some (.ok reached)) : ¬ reached.Stranded := by
  have init : Attended ({} : Mailbox Entry) := fun _ waiting => absurd rfl waiting
  have step : ∀ before action outcome, Attended before → Timely before action →
      mailbox.call before action = some outcome →
      True ∧ ∀ next : Mailbox Entry, outcome = .ok next → Attended next := by
    intro before action outcome attended admitted called
    refine ⟨trivial, ?_⟩
    rintro next rfl
    exact call_attended attended admitted called
  have kept := Program.run_invariant Attended (fun _ => True) init (fun _ _ => trivial) step
    timely ran
  exact (kept.2 reached rfl).not_stranded

/-- The condition cannot be weakened: after an untimely notification the waiter
blocks on the message. -/
theorem untimely_strands {before : Mailbox Entry} (single : before.notifying = 1)
    (window : before.InWindow) :
    ∃ reached, mailbox.exec (.ok before) [.notifyAll, .block] = some (.ok reached) ∧
      reached.Stranded := by
  obtain ⟨blocking, waiting⟩ := window
  refine ⟨{ before with notifying := 0, waiter := .blocked }, ?_, rfl, waiting, rfl⟩
  simp [mailbox, call, single, Mailbox.move, Mailbox.notifyAll, blocking]

end

theorem timely_notify_wakes :
    ∃ trace : List (Action Nat), Action.block ∈ trace ∧ mailbox.Meets Timely mailbox.start trace ∧
      ∃ reached, mailbox.run trace = some (.ok reached) ∧ ¬ reached.Stranded := by
  let trace : List (Action Nat) :=
    [.lock, .testEmpty, .testPredicate, .appendMessage 7, .block, .notifyAll]
  have timely : mailbox.Meets Timely mailbox.start trace := by decide
  obtain ⟨reached, ran⟩ : ∃ reached, mailbox.run trace = some (.ok reached) := ⟨_, rfl⟩
  exact ⟨trace, by decide, timely, reached, ran, timely_never_stranded timely ran⟩

/-- The message arrives and is announced between the waiter's test and its block. -/
theorem notify_in_window_is_lost :
    ∃ reached : Mailbox Nat, mailbox.run
        [.lock, .testEmpty, .testPredicate, .appendMessage 7, .notifyAll, .block] =
      some (.ok reached) ∧ reached.Stranded :=
  ⟨_, rfl, rfl, by decide, rfl⟩

end V8Jsi.AgentWait
