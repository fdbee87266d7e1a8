import Mathlib.Order.WellFounded

set_option autoImplicit false

/- The interceptors of host objects in src/V8JsiRuntime_impl.h: how a property access
on a receiver finds the `HostObjectProxy` that answers it. -/
namespace V8Jsi.HostObjectProxy

/-- What an internal field holds: a `v8::External` with its pointer, or some other
value. -/
inductive InternalField (β : Type)
  | external (pointer : Option β)
  | value
  deriving DecidableEq, Repr

/-- Objects `α` with their prototypes and internal fields. A JavaScript proxy has no
prototype for `GetPrototype`, so prototype chains end. -/
structure ObjectGraph (α β : Type) where
  prototype : α → Option α
  internalFields : α → List (InternalField β)
  acyclic : WellFounded fun proto obj => prototype obj = some proto
  /-- `createObject` makes a new `HostObjectProxy` for every host object. -/
  owned : ∀ first second proxy,
    (internalFields first).head? = some (.external (some proxy)) →
    (internalFields second).head? = some (.external (some proxy)) → first = second

/-- An object made by the constructor of host objects. -/
structure HostObject {α β : Type} (graph : ObjectGraph α β) where
  object : α
  proxy : β
  installed : graph.internalFields object = [.external (some proxy)]

inductive Failure
  | nullPrototype
  | noInternalField
  | notExternal
  | aborted
  deriving DecidableEq, Repr

inductive Name (σ : Type)
  | string (text : String)
  | symbol (symbol : σ)
  deriving DecidableEq, Repr

/-- The interceptor that V8 calls, with its arguments. -/
inductive Access (σ τ : Type)
  | get (propName : Name σ)
  | getIndexed (index : UInt32)
  | set (propName : Name σ) (value : τ)
  | setIndexed (index : UInt32) (value : τ)
  | enumerator
  deriving DecidableEq, Repr

inductive Operation (σ τ : Type)
  | get (propId : Name σ)
  | set (propId : Name σ) (value : τ)
  | getPropertyNames
  deriving DecidableEq, Repr

/-- A call of the host object behind a proxy. -/
structure HostCall (β σ τ : Type) where
  proxy : β
  operation : Operation σ τ
  deriving DecidableEq, Repr

section

variable {α β σ τ : Type} (graph : ObjectGraph α β)

/-- `GetInternalField(0)` cast to an external, and its pointer. -/
def fieldPointer (obj : α) : Except Failure (Option β) :=
  match (graph.internalFields obj).head? with
  | none => .error .noInternalField
  | some .value => .error .notExternal
  | some (.external pointer) => .ok pointer

/-- The walk up the prototype chain, for at most `fuel` objects. -/
def getHostObjectProxy : Nat → α → Option (Except Failure β)
  | 0, _ => none
  | fuel + 1, obj =>
      if (graph.internalFields obj).length ≠ 1 then
        match graph.prototype obj with
        | none => some (.error .nullPrototype)
        | some proto => getHostObjectProxy fuel proto
      else
        match fieldPointer graph obj with
        | .error failure => some (.error failure)
        | .ok none => some (.error .aborted)
        | .ok (some proxy) => some (.ok proxy)

/-- `GetInternal` and `SetInternal` look the proxy up again after the interceptor has
taken its runtime. -/
def accessInternal (fuel : Nat) (receiver : α) (operation : Operation σ τ) :
    Option (Except Failure (Option (HostCall β σ τ))) :=
  (getHostObjectProxy graph fuel receiver).bind fun outcome =>
    match outcome with
    | .error failure => some (.error failure)
    | .ok _ =>
        (getHostObjectProxy graph fuel receiver).map fun outcome =>
          outcome.map fun proxy => some { proxy, operation }

def intercept (fuel : Nat) (receiver : α) :
    Access σ τ → Option (Except Failure (Option (HostCall β σ τ)))
  | .get propName => accessInternal graph fuel receiver (.get propName)
  | .getIndexed index =>
      accessInternal graph fuel receiver (.get (.string (toString index.toNat)))
  | .set propName value => accessInternal graph fuel receiver (.set propName value)
  | .setIndexed index value =>
      accessInternal graph fuel receiver (.set (.string (toString index.toNat)) value)
  | .enumerator =>
      some ((fieldPointer graph receiver).map fun pointer =>
        pointer.map fun proxy => { proxy, operation := .getPropertyNames })

end

def Access.operation {σ τ : Type} : Access σ τ → Operation σ τ
  | .get propName => .get propName
  | .getIndexed index => .get (.string (toString index.toNat))
  | .set propName value => .set propName value
  | .setIndexed index value => .set (.string (toString index.toNat)) value
  | .enumerator => .getPropertyNames

/-- From `obj` up the prototype chain to `target`, past objects that have no or several
internal fields. -/
inductive WalksTo {α β : Type} (graph : ObjectGraph α β) (target : α) : α → Prop
  | here : WalksTo graph target target
  | up {obj proto : α} (passed : (graph.internalFields obj).length ≠ 1)
      (parent : graph.prototype obj = some proto) (rest : WalksTo graph target proto) :
      WalksTo graph target obj

/-- The receiver leads to the host object: by its prototype chain, or for the
enumerator by being it. -/
def Leads {α β σ τ : Type} (graph : ObjectGraph α β) (target receiver : α) : Access σ τ → Prop
  | .enumerator => receiver = target
  | .get _ | .getIndexed _ | .set _ _ | .setIndexed _ _ => WalksTo graph target receiver

section

variable {α β σ τ : Type} {graph : ObjectGraph α β}

theorem getHostObjectProxy_more (more : Nat) {outcome : Except Failure β} : ∀ fuel obj,
    getHostObjectProxy graph fuel obj = some outcome →
      getHostObjectProxy graph (fuel + more) obj = some outcome := by
  intro fuel
  induction fuel with
  | zero =>
    intro obj ends
    cases ends
  | succ fuel ih =>
    intro obj ends
    rw [Nat.add_right_comm]
    rw [getHostObjectProxy] at ends ⊢
    split
    · rename_i passed
      rw [if_pos passed] at ends
      cases parent : graph.prototype obj with
      | none =>
        rw [parent] at ends
        exact ends
      | some proto =>
        rw [parent] at ends
        exact ih proto ends
    · rename_i stays
      rw [if_neg stays] at ends
      exact ends

theorem getHostObjectProxy_ends (graph : ObjectGraph α β) (obj : α) :
    ∃ fuel outcome, getHostObjectProxy graph fuel obj = some outcome := by
  -- along the prototype chain, which has an end
  induction obj using graph.acyclic.induction with
  | h obj ih =>
    by_cases passed : (graph.internalFields obj).length ≠ 1
    · cases parent : graph.prototype obj with
      | none =>
        refine ⟨1, .error .nullPrototype, ?_⟩
        rw [getHostObjectProxy, if_pos passed, parent]
      | some proto =>
        obtain ⟨fuel, outcome, ends⟩ := ih proto parent
        refine ⟨fuel + 1, outcome, ?_⟩
        rw [getHostObjectProxy, if_pos passed, parent]
        exact ends
    · cases pointer : fieldPointer graph obj with
      | error failure =>
        refine ⟨1, .error failure, ?_⟩
        rw [getHostObjectProxy, if_neg passed, pointer]
      | ok proxy =>
        cases proxy with
        | none =>
          refine ⟨1, .error .aborted, ?_⟩
          rw [getHostObjectProxy, if_neg passed, pointer]
        | some proxy =>
          refine ⟨1, .ok proxy, ?_⟩
          rw [getHostObjectProxy, if_neg passed, pointer]

theorem fieldPointer_some_iff (host : HostObject graph) (obj : α) :
    fieldPointer graph obj = .ok (some host.proxy) ↔ obj = host.object := by
  have installed : (graph.internalFields host.object).head? = some (.external (some host.proxy)) := by
    rw [host.installed]
    rfl
  constructor
  · intro found
    refine graph.owned obj host.object host.proxy ?_ installed
    rw [fieldPointer] at found
    cases field : (graph.internalFields obj).head? with
    | none =>
      rw [field] at found
      cases found
    | some content =>
      rw [field] at found
      cases content with
      | value => cases found
      | external pointer => rw [Except.ok.inj found]
  · rintro rfl
    rw [fieldPointer, installed]

/-- The walk gives the proxy of the host object exactly when it gets there first. -/
theorem getHostObjectProxy_iff (host : HostObject graph) (receiver : α) :
    (∃ fuel, getHostObjectProxy graph fuel receiver = some (.ok host.proxy)) ↔
      WalksTo graph host.object receiver := by
  have single : (graph.internalFields host.object).length = 1 := by
    rw [host.installed]
    rfl
  constructor
  · rintro ⟨fuel, ends⟩
    induction fuel generalizing receiver with
    | zero => cases ends
    | succ fuel ih =>
      rw [getHostObjectProxy] at ends
      split at ends
      · rename_i passed
        cases parent : graph.prototype receiver with
        | none =>
          rw [parent] at ends
          cases ends
        | some proto =>
          rw [parent] at ends
          exact .up passed parent (ih proto ends)
      · have found : fieldPointer graph receiver = .ok (some host.proxy) := by
          cases pointer : fieldPointer graph receiver with
          | error failure =>
            rw [pointer] at ends
            cases ends
          | ok proxy =>
            rw [pointer] at ends
            cases proxy with
            | none => cases ends
            | some proxy => rw [Except.ok.inj (Option.some.inj ends)]
        rw [(fieldPointer_some_iff host receiver).mp found]
        exact .here
  · intro walks
    induction walks with
    | here =>
      refine ⟨1, ?_⟩
      rw [getHostObjectProxy, if_neg (not_not_intro single),
        (fieldPointer_some_iff host host.object).mpr rfl]
    | up passed parent rest ih =>
      obtain ⟨fuel, ends⟩ := ih
      refine ⟨fuel + 1, ?_⟩
      rw [getHostObjectProxy, if_pos passed, parent]
      exact ends

theorem accessInternal_eq (fuel : Nat) (receiver : α) (operation : Operation σ τ) :
    accessInternal graph fuel receiver operation =
      (getHostObjectProxy graph fuel receiver).map fun outcome =>
        outcome.map fun proxy => some { proxy, operation } := by
  rw [accessInternal]
  cases getHostObjectProxy graph fuel receiver with
  | none => rfl
  | some outcome =>
    cases outcome with
    | error failure => rfl
    | ok proxy => rfl

/-- An access through the prototype chain calls the host object of the proxy found. -/
theorem intercept_walk {access : Access σ τ} (walks : access ≠ .enumerator) (fuel : Nat)
    (receiver : α) :
    intercept graph fuel receiver access =
      (getHostObjectProxy graph fuel receiver).map fun outcome =>
        outcome.map fun proxy => some { proxy, operation := access.operation } := by
  cases access with
  | enumerator => exact absurd rfl walks
  | get propName => exact accessInternal_eq fuel receiver _
  | getIndexed index => exact accessInternal_eq fuel receiver _
  | set propName value => exact accessInternal_eq fuel receiver _
  | setIndexed index value => exact accessInternal_eq fuel receiver _

end

/-- The interceptor ends, takes no null prototype for an object, and calls the host
object it is installed on. -/
structure Answered {α β σ τ : Type} {graph : ObjectGraph α β} (host : HostObject graph)
    (receiver : α) (access : Access σ τ) : Prop where
  ends : ∃ fuel outcome, intercept graph fuel receiver access = some outcome
  objects : ∀ fuel, intercept graph fuel receiver access ≠ some (.error .nullPrototype)
  right : ∀ fuel outcome, intercept graph fuel receiver access = some outcome →
    outcome = .ok (some { proxy := host.proxy, operation := access.operation })

section

variable {α β σ τ : Type} {graph : ObjectGraph α β}

theorem answered_walk_iff (host : HostObject graph) (receiver : α) {access : Access σ τ}
    (walks : access ≠ .enumerator) :
    Answered host receiver access ↔ WalksTo graph host.object receiver := by
  rw [← getHostObjectProxy_iff host receiver]
  constructor
  · rintro ⟨⟨fuel, outcome, ends⟩, -, right⟩
    have called := right fuel outcome ends
    rw [called, intercept_walk walks] at ends
    obtain ⟨found, walk, result⟩ := Option.map_eq_some_iff.mp ends
    cases found with
    | error failure => cases result
    | ok proxy =>
      have same : proxy = host.proxy :=
        congrArg HostCall.proxy (Option.some.inj (Except.ok.inj result))
      exact ⟨fuel, by rw [walk, same]⟩
  · rintro ⟨fuel, found⟩
    have unique : ∀ fuel' outcome, intercept graph fuel' receiver access = some outcome →
        outcome = .ok (some { proxy := host.proxy, operation := access.operation }) := by
      intro fuel' outcome ends
      rw [intercept_walk walks] at ends
      obtain ⟨other, walk, rfl⟩ := Option.map_eq_some_iff.mp ends
      have long := getHostObjectProxy_more fuel fuel' receiver walk
      rw [Nat.add_comm, getHostObjectProxy_more fuel' fuel receiver found] at long
      rw [← Option.some.inj long]
      rfl
    refine ⟨⟨fuel, .ok (some { proxy := host.proxy, operation := access.operation }), ?_⟩, ?_,
      unique⟩
    · rw [intercept_walk walks, found]
      rfl
    · intro fuel' fails
      cases unique fuel' _ fails

theorem answered_enumerator_iff (host : HostObject graph) (receiver : α) :
    Answered host receiver (.enumerator : Access σ τ) ↔ receiver = host.object := by
  rw [← fieldPointer_some_iff host receiver]
  constructor
  · rintro ⟨-, -, right⟩
    have called := right 0 _ rfl
    cases pointer : fieldPointer graph receiver with
    | error failure =>
      rw [pointer] at called
      cases called
    | ok proxy =>
      rw [pointer] at called
      cases proxy with
      | none => cases called
      | some proxy =>
        have same : proxy = host.proxy :=
          congrArg HostCall.proxy (Option.some.inj (Except.ok.inj called))
        rw [same]
  · intro found
    have outcome : ∀ fuel, intercept graph fuel receiver (.enumerator : Access σ τ) =
        some (.ok (some { proxy := host.proxy, operation := .getPropertyNames })) := by
      intro fuel
      rw [intercept, found]
      rfl
    refine ⟨⟨0, _, outcome 0⟩, ?_, ?_⟩
    · intro fuel fails
      rw [outcome] at fails
      cases fails
    · intro fuel other ends
      rw [outcome] at ends
      exact (Option.some.inj ends).symm

/-- The walk up the prototype chain always ends. It ends at the host object that the
interceptor belongs to exactly when that is the first object above the receiver with one
internal field, and the enumerator, which does not walk, finds it only as the receiver. -/
theorem answered_iff (host : HostObject graph) (receiver : α) (access : Access σ τ) :
    (∃ fuel outcome, intercept graph fuel receiver access = some outcome) ∧
      (Answered host receiver access ↔ Leads graph host.object receiver access) := by
  by_cases walks : access = .enumerator
  · subst walks
    exact ⟨⟨0, _, rfl⟩, answered_enumerator_iff host receiver⟩
  · constructor
    · obtain ⟨fuel, outcome, ends⟩ := getHostObjectProxy_ends graph receiver
      refine ⟨fuel, outcome.map fun proxy => some { proxy, operation := access.operation }, ?_⟩
      rw [intercept_walk walks, ends]
      rfl
    · rw [answered_walk_iff host receiver walks]
      cases access with
      | enumerator => exact absurd rfl walks
      | get propName => exact Iff.rfl
      | getIndexed index => exact Iff.rfl
      | set propName value => exact Iff.rfl
      | setIndexed index value => exact Iff.rfl

end

/-- Two host objects 0 and 1, an object 2 without a prototype and an object 3 that
inherits from 0. -/
def fourObjects : ObjectGraph Nat Nat where
  prototype obj := if obj = 3 then some 0 else none
  internalFields obj := if obj < 2 then [.external (some obj)] else []
  acyclic := by
    refine Subrelation.wf (r := (· < ·)) ?_ Nat.lt_wfRel.wf
    intro proto obj parent
    split at parent
    · cases Option.some.inj parent
      omega
    · cases parent
  owned := by
    intro first second proxy one two
    split at one
    · split at two
      · simp at one two
        omega
      · cases two
    · cases one

/-- Reading from host object 0 with the other host object, with object 2 and, for its
names, with object 3 as the receiver. -/
theorem other_receivers_misled :
    let host : HostObject fourObjects := ⟨0, 0, rfl⟩
    let read : Access Nat Nat := .get (.string "x")
    intercept fourObjects 1 1 read =
        some (.ok (some { proxy := 1, operation := .get (.string "x") })) ∧
      intercept fourObjects 1 2 read = some (.error .nullPrototype) ∧
      intercept fourObjects 2 3 read =
        some (.ok (some { proxy := 0, operation := .get (.string "x") })) ∧
      intercept fourObjects 1 3 (.enumerator : Access Nat Nat) =
        some (.error .noInternalField) ∧
      ¬ Answered host 1 read ∧ ¬ Answered host 2 read ∧
      ¬ Answered host 3 (.enumerator : Access Nat Nat) := by
  refine ⟨by decide, by decide, by decide, by decide, fun answered => ?_, fun answered => ?_,
    fun answered => ?_⟩
  · exact absurd (answered.right 1 _ (by decide :
      intercept fourObjects 1 1 (.get (.string "x") : Access Nat Nat) =
        some (.ok (some { proxy := 1, operation := .get (.string "x") })))) (by decide)
  · exact answered.objects 1 (by decide)
  · exact absurd (answered.right 1 _ (by decide :
      intercept fourObjects 1 3 (.enumerator : Access Nat Nat) =
        some (.error .noInternalField))) (by decide)

end V8Jsi.HostObjectProxy
