import V8Jsi.HostObjectKeys

set_option autoImplicit false

/- When the keys of a host object are enumerated as they should be: each key needs one
pointer, whoever lists it. -/
namespace V8Jsi.HostObjectKeys

open ArrayIndex Distinct PrimitiveProperty
open HostObjectTraps (PropertyKey)
open PropNames (JsString JsValue NodeApiJsiRuntime element utf8)

/-! ## The keys of both -/

theorem readHostKeys_eq (hostOwnKeys : List KeyPointer) : ∀ ownKeys,
    readHostKeys ownKeys hostOwnKeys = ownKeys ++ unseen ownKeys hostOwnKeys := by
  induction hostOwnKeys with
  | nil =>
    intro ownKeys
    rw [readHostKeys, unseen, List.append_nil]
  | cons propNameId rest ih =>
    intro ownKeys
    rw [readHostKeys, unseen]
    split
    · exact ih ownKeys
    · rw [ih, List.append_assoc, List.singleton_append]

/-- A target with the symbol only has nothing to read. -/
theorem readTargetKeys_marked (enumeration : Enumeration)
    (only : ¬ enumeration.targetOwnKeys.length > 1) :
    readTargetKeys enumeration.hostObjectSymbol enumeration.targetOwnKeys enumeration.pointers [] =
      .ok (enumeration.pointers, []) := by
  have marked := enumeration.targetMarked
  cases keys : enumeration.targetOwnKeys with
  | nil =>
    rw [keys] at marked
    cases marked
  | cons key rest =>
    rw [keys] at marked only
    have last : rest = [] := List.eq_nil_of_length_eq_zero (by
      rw [List.length_cons] at only
      omega)
    rw [last, List.mem_singleton] at marked
    rw [last, ← marked, readTargetKeys, if_pos rfl, readTargetKeys]

/-- The values of the keys are read as long as no read fails. -/
theorem readKeys_ok_iff (pointers : Pointers) (ownKeys : List KeyPointer)
    (result : List (Option PropertyKey)) :
    readKeys pointers ownKeys = .ok result ↔
      (∀ pointer ∈ ownKeys, pointers.getNodeApiValue pointer ≠ none) ∧
        result = ownKeys.map pointers.denotes := by
  rw [readKeys]
  induction ownKeys generalizing result with
  | nil => simp [eq_comm]
  | cons first rest ih =>
    rw [List.mapM_cons]
    cases read : pointers.getNodeApiValue first with
    | none => simp [read]
    | some value =>
      cases others : rest.mapM pointers.getNodeApiValue with
      | none =>
        simp only [others, reduceCtorEq, false_iff, not_and] at ih
        simp only [Option.bind_eq_bind, Option.bind_some, Option.bind_none, reduceCtorEq,
          List.forall_mem_cons, false_iff, not_and, and_imp]
        exact fun _ reads _ => ih _ reads rfl
      | some values =>
        simp only [others, Except.ok.injEq] at ih
        obtain ⟨reads, same⟩ := (ih (values.map propertyKey)).mp rfl
        have denoted : pointers.denotes first = propertyKey value := by
          rw [Pointers.denotes, read]
          rfl
        simp only [Option.bind_eq_bind, Option.bind_some, Option.pure_def, Except.ok.injEq,
          List.map_cons, same, List.forall_mem_cons, read, denoted, ne_eq, reduceCtorEq,
          not_false_eq_true, true_and]
        exact ⟨fun done => ⟨reads, done.symm⟩, fun done => done.2.symm⟩

theorem trap_ok_iff (enumeration : Enumeration) (result : List (Option PropertyKey)) :
    hostObjectOwnKeysTrap enumeration = .ok result ↔
      ∃ final ownKeys,
        readTargetKeys enumeration.hostObjectSymbol enumeration.targetOwnKeys
          enumeration.pointers [] = .ok (final, ownKeys) ∧
        (∀ pointer ∈ ownKeys ++ unseen ownKeys enumeration.hostOwnKeys,
          final.getNodeApiValue pointer ≠ none) ∧
        result = arrange ((ownKeys ++ unseen ownKeys enumeration.hostOwnKeys).map
          final.denotes) := by
  have read : (if enumeration.targetOwnKeys.length > 1 then
      readTargetKeys enumeration.hostObjectSymbol enumeration.targetOwnKeys enumeration.pointers []
      else .ok (enumeration.pointers, [])) =
      readTargetKeys enumeration.hostObjectSymbol enumeration.targetOwnKeys
        enumeration.pointers [] := by
    split
    · rfl
    · rename_i only
      exact (readTargetKeys_marked enumeration only).symm
  rw [hostObjectOwnKeysTrap, read]
  cases readTargetKeys enumeration.hostObjectSymbol enumeration.targetOwnKeys
      enumeration.pointers [] with
  | error failure => simp
  | ok outcome =>
    obtain ⟨final, ownKeys⟩ := outcome
    dsimp only
    rw [readHostKeys_eq]
    constructor
    · intro done
      cases values : readKeys final (ownKeys ++ unseen ownKeys enumeration.hostOwnKeys) with
      | error failure =>
        rw [values] at done
        cases done
      | ok keys =>
        obtain ⟨reads, rfl⟩ := (readKeys_ok_iff ..).mp values
        rw [values] at done
        cases done
        exact ⟨final, ownKeys, rfl, reads, rfl⟩
    · rintro ⟨_, _, same, reads, rfl⟩
      cases same
      rw [(readKeys_ok_iff ..).mpr ⟨reads, rfl⟩]
      rfl

theorem Enumeration.mem_targetNames (enumeration : Enumeration) (key : PropertyKey) :
    key ∈ enumeration.targetNames ↔
      key ∈ enumeration.targetOwnKeys ∧ key ≠ .symbol enumeration.hostObjectSymbol := by
  rw [Enumeration.targetNames, List.mem_filter, decide_eq_true_eq]

theorem Enumeration.string_mem_targetNames (enumeration : Enumeration) (units : JsString) :
    .string units ∈ enumeration.targetNames ↔ .string units ∈ enumeration.targetOwnKeys := by
  rw [enumeration.mem_targetNames]
  simp

/-- The names of the target and those that the host object adds. -/
def Enumeration.names (enumeration : Enumeration) : List PropertyKey :=
  enumeration.targetNames ++ unseen enumeration.targetNames enumeration.hostNames

theorem Enumeration.names_nodup (enumeration : Enumeration) : enumeration.names.Nodup :=
  nodup_append_unseen _ _ (enumeration.targetDistinct.filter _)

theorem Enumeration.mem_names (enumeration : Enumeration) (key : PropertyKey) :
    key ∈ enumeration.names ↔
      key ∈ enumeration.targetNames ∨ key ∈ enumeration.hostNames := by
  rw [Enumeration.names, List.mem_append, mem_unseen]
  by_cases inside : key ∈ enumeration.targetNames
  · simp [inside]
  · simp [inside]

theorem map_eq_filterMap {α β : Type} {f : α → Option β} {list : List α}
    (defined : ∀ element ∈ list, f element ≠ none) : list.map f = (list.filterMap f).map some := by
  induction list with
  | nil => rfl
  | cons element rest ih =>
    obtain ⟨value, here⟩ := Option.ne_none_iff_exists'.mp (defined element (.head _))
    rw [List.map_cons, List.filterMap_cons_some here, List.map_cons, here,
      ih fun other inside => defined other (.tail _ inside)]

/-- Where every key has one pointer, the pointers denote the names. -/
theorem Enumerable.denotes {enumeration : Enumeration} (enumerable : Enumerable enumeration)
    {final : Pointers} {ownKeys : List KeyPointer}
    (progress : Progress enumeration.pointers enumeration.targetNames final ownKeys) :
    (ownKeys ++ unseen ownKeys enumeration.hostOwnKeys).map final.denotes =
      enumeration.names.map some := by
  have kept : ∀ pointer ∈ enumeration.hostOwnKeys,
      final.denotes pointer = enumeration.pointers.denotes pointer := fun pointer inside =>
    progress.grown.denotes (enumeration.hostHeld pointer inside)
  have targets := progress.denotes fun units inside =>
    enumerable.targetSpelled units ((enumeration.string_mem_targetNames units).mp inside)
  have hosts : enumeration.hostOwnKeys.map final.denotes = enumeration.hostNames.map some := by
    rw [List.map_congr_left kept, Enumeration.hostNames]
    exact map_eq_filterMap enumerable.hostDenotes
  rw [List.map_append, targets, map_unseen, targets, hosts, Enumeration.names, List.map_append,
    map_unseen]
  · intro first _ second _ same
    exact Option.some.inj same
  · intro first firstInside second secondInside same
    rcases List.mem_append.mp firstInside with own | host
    · -- A pointer of the target is shared with the host object through the table only.
      obtain ⟨key, named, given⟩ : ∃ key ∈ enumeration.targetNames,
          Given enumeration.pointers final key first := by
        obtain ⟨index, inside, rfl⟩ := List.mem_iff_getElem.mp own
        have length := progress.given.length_eq
        exact ⟨enumeration.targetNames[index], List.getElem_mem _,
          progress.given.get (by omega) inside⟩
      have denoted := given.denotes progress.grown fun units string =>
        enumerable.targetSpelled units
          ((enumeration.string_mem_targetNames units).mp (string ▸ named))
      rw [denoted, kept second secondInside] at same
      cases key with
      | string units =>
        obtain ⟨propNameRef, rfl, found⟩ := enumerable.hostShares units
          ((enumeration.string_mem_targetNames units).mp named) second secondInside same.symm
        obtain ⟨other, rfl, current, -⟩ := given
        rw [progress.grown.lookup found] at current
        cases current
        rfl
      | symbol identity =>
        exact absurd same.symm (enumerable.hostSymbols identity named second secondInside)
    · rw [kept first host, kept second secondInside] at same
      exact enumerable.hostDistinct first host second secondInside same

/-- One pointer for each key is enough. -/
theorem Enumerable.enumerates {enumeration : Enumeration} (enumerable : Enumerable enumeration) :
    Enumerates enumeration := by
  obtain ⟨final, ownKeys, read⟩ := readTargetKeys_succeeds enumeration.hostObjectSymbol
    enumeration.pointers enumeration.targetOwnKeys [] enumeration.pointers []
    (Progress.start enumeration.pointers) (enumeration.targetDistinct.filter _)
    (fun units inside => enumerable.targetSpelled units
      ((enumeration.string_mem_targetNames units).mp inside))
    (fun left right leftInside rightInside => enumerable.targetForms left right
      ((enumeration.string_mem_targetNames left).mp leftInside)
      ((enumeration.string_mem_targetNames right).mp rightInside))
  have progress : Progress enumeration.pointers enumeration.targetNames final ownKeys :=
    readTargetKeys_progress enumeration.hostObjectSymbol enumeration.pointers final ownKeys
      enumeration.targetOwnKeys [] enumeration.pointers [] (Progress.start enumeration.pointers)
      read
  obtain ⟨indices, named, arranged, ascending, small, others, order⟩ :=
    arrange_ordered enumeration.names enumeration.names_nodup
  have perm : (indices.map indexKey ++ named).Perm enumeration.names := by
    have whole := arrange_perm (enumeration.names.map some)
    rw [arranged] at whole
    exact (List.map_perm_map_iff (Option.some_injective _)).mp whole
  refine ⟨indices.map indexKey ++ named, ?_, perm.nodup_iff.mpr enumeration.names_nodup, ?_,
    indices, named, rfl, ascending, small, others, order⟩
  · have denoted := enumerable.denotes progress
    rw [trap_ok_iff]
    refine ⟨final, ownKeys, read, fun pointer inside unread => ?_, ?_⟩
    · have image := List.mem_map_of_mem (f := final.denotes) inside
      rw [denoted, Pointers.denotes, unread] at image
      simp at image
    · rw [denoted, arranged]
  · intro key
    rw [perm.mem_iff, enumeration.mem_names]

/-! ## One pointer for each key is needed -/

/-- In a regular table a key of the target can only be confused with another that has its
UTF-8 form, and an index with no other key. -/
theorem Given.similar {initial current : Pointers} (regular : Regular initial.runtime)
    (grown : Extends initial current) {key other : PropertyKey} {pointer : KeyPointer}
    (given : Given initial current key pointer) (denoted : current.denotes pointer = some other) :
    indexOf (some other) = indexOf (some key) ∧
      ((indexOf (some key)).isSome = true → other = key) := by
  cases key with
  | string units =>
    obtain ⟨propNameRef, rfl, -, origin⟩ := given
    -- The wrapper owns its property: scripts have no part in what is read.
    obtain ⟨value, held, named⟩ : ∃ value,
        current.runtime.wrappers[propNameRef]? = some (.own value) ∧
        (value = .undefined ∨ ∃ name, value = .string name ∧ utf8 name = utf8 units) := by
      rcases origin with early | ⟨-, new, props, wrapper, names, stored, held⟩
      · obtain ⟨value, held, named⟩ := regular.entries _ _ early
        rw [← grown.wrapper (List.getElem?_eq_some_iff.mp held).1] at held
        exact ⟨value, held, named⟩
      · rw [Scripts.setNamedProperty, regular.unscripted propNameRef new] at stored
        obtain rfl := Option.some.inj stored
        refine ⟨_, held, ?_⟩
        unfold element
        cases first : props[0]? with
        | none => exact .inl rfl
        | some name => exact .inr ⟨name, rfl, regular.assigned units props name names first⟩
    rw [Pointers.denotes, Pointers.getNodeApiValue, NodeApiJsiRuntime.getNodeApiValue, held]
      at denoted
    rcases named with rfl | ⟨name, rfl, form⟩
    · cases denoted
    · cases denoted
      have index : indexOf (some (.string name)) = indexOf (some (.string units)) := by
        rw [indexOf, indexOf, form]
      refine ⟨index, fun isIndex => ?_⟩
      obtain ⟨number, read⟩ := Option.isSome_iff_exists.mp isIndex
      rw [((indexOf_some_iff _ number).mp read).2,
        ((indexOf_some_iff _ number).mp (index.trans read)).2]
  | symbol identity =>
    obtain ⟨index, rfl, -, held⟩ := given
    rw [Pointers.denotes, Pointers.getNodeApiValue, held] at denoted
    cases denoted
    exact ⟨rfl, fun _ => rfl⟩

theorem nonIndexKeys_append (front back : List (Option PropertyKey)) :
    nonIndexKeys (front ++ back) = nonIndexKeys front ++ nonIndexKeys back :=
  List.filter_append front back

/-- Keys of the target that come out in their order come out as themselves. -/
theorem denotes_of_order {initial current : Pointers} (regular : Regular initial.runtime)
    (grown : Extends initial current) {names : List PropertyKey} {ownKeys : List KeyPointer}
    (given : List.Forall₂ (Given initial current) names ownKeys)
    (defined : ∀ pointer ∈ ownKeys, current.denotes pointer ≠ none)
    {left right : List (Option PropertyKey)}
    (order : nonIndexKeys (ownKeys.map current.denotes) ++ left =
      nonIndexKeys (names.map some) ++ right) :
    ownKeys.map current.denotes = names.map some := by
  induction given with
  | nil => rfl
  | @cons key pointer names ownKeys first rest ih =>
    obtain ⟨other, denoted⟩ := Option.ne_none_iff_exists'.mp (defined pointer (.head _))
    obtain ⟨index, same⟩ := first.similar regular grown denoted
    rw [List.map_cons, List.map_cons, denoted, nonIndexKeys, nonIndexKeys, List.filter_cons,
      List.filter_cons, index, ← nonIndexKeys, ← nonIndexKeys] at order
    rw [List.map_cons, List.map_cons, denoted]
    have later := ih fun pointer inside => defined pointer (.tail _ inside)
    cases read : indexOf (some key) with
    | some number =>
      rw [read] at order same
      rw [later order, same rfl]
    | none =>
      rw [read] at order
      obtain ⟨head, tail⟩ := List.cons.inj order
      rw [later tail, head]

/-- The keys in order are a rearrangement of what the pointers denote, and the names that
are not indices stand in the order of the names. -/
theorem Enumerates.pointers {enumeration : Enumeration} (enumerates : Enumerates enumeration) :
    ∃ final ownKeys,
      Progress enumeration.pointers enumeration.targetNames final ownKeys ∧
      ((ownKeys ++ unseen ownKeys enumeration.hostOwnKeys).map final.denotes).Nodup ∧
      (∀ pointer ∈ ownKeys ++ unseen ownKeys enumeration.hostOwnKeys,
        final.denotes pointer ≠ none) ∧
      nonIndexKeys ((ownKeys ++ unseen ownKeys enumeration.hostOwnKeys).map final.denotes) =
        nonIndexKeys (enumeration.names.map some) := by
  obtain ⟨keys, trapped, keysDistinct, complete, indices, named, split, -, small, others, order⟩ :=
    enumerates
  obtain ⟨final, ownKeys, read, -, arranged⟩ := (trap_ok_iff enumeration _).mp trapped
  have progress : Progress enumeration.pointers enumeration.targetNames final ownKeys :=
    readTargetKeys_progress enumeration.hostObjectSymbol enumeration.pointers final ownKeys
      enumeration.targetOwnKeys [] enumeration.pointers [] (Progress.start enumeration.pointers)
      read
  have perm := arrange_perm ((ownKeys ++ unseen ownKeys enumeration.hostOwnKeys).map final.denotes)
  rw [← arranged] at perm
  refine ⟨final, ownKeys, progress, ?_, ?_, ?_⟩
  · exact perm.nodup_iff.mp (keysDistinct.map (Option.some_injective _))
  · intro pointer inside undefined
    have image := perm.mem_iff.mpr (List.mem_map_of_mem inside)
    rw [undefined] at image
    obtain ⟨key, -, same⟩ := List.mem_map.mp image
    cases same
  · have named := nonIndexKeys_of_ordered split enumeration.names_nodup keysDistinct
      (fun key => (complete key).trans (enumeration.mem_names key).symm) small others order
    rw [← nonIndexKeys_arrange, ← arranged, nonIndexKeys, nonIndexKeys, List.filter_map,
      List.filter_map]
    exact congrArg (List.map some) named

/-- After a call that is as it should be, each key of the target has a pointer that denotes
it, and no two pointers of the call denote one key. -/
structure Pointed (enumeration : Enumeration) (final : Pointers) (ownKeys : List KeyPointer) :
    Prop where
  grown : Extends enumeration.pointers final
  targets : ∀ key ∈ enumeration.targetNames, ∃ pointer ∈ ownKeys,
    Given enumeration.pointers final key pointer ∧ final.denotes pointer = some key
  defined : ∀ pointer ∈ enumeration.hostOwnKeys, final.denotes pointer ≠ none
  apart : ∀ pointer ∈ enumeration.hostOwnKeys, ∀ other,
    other ∈ ownKeys ∨ other ∈ enumeration.hostOwnKeys →
    final.denotes pointer = final.denotes other → pointer = other

theorem Enumerates.pointed {enumeration : Enumeration}
    (regular : Regular enumeration.pointers.runtime) (enumerates : Enumerates enumeration) :
    ∃ final ownKeys, Pointed enumeration final ownKeys := by
  obtain ⟨final, ownKeys, progress, distinct, defined, order⟩ := enumerates.pointers
  have listed : ∀ pointer, pointer ∈ ownKeys ∨ pointer ∈ enumeration.hostOwnKeys →
      pointer ∈ ownKeys ++ unseen ownKeys enumeration.hostOwnKeys := by
    intro pointer inside
    rw [List.mem_append, mem_unseen]
    by_cases own : pointer ∈ ownKeys
    · exact .inl own
    · exact .inr ⟨inside.resolve_left own, own⟩
  rw [List.map_append, nonIndexKeys_append, Enumeration.names, List.map_append,
    nonIndexKeys_append] at order
  have targets := denotes_of_order regular progress.grown progress.given
    (fun pointer inside => defined pointer (List.mem_append_left _ inside)) order
  refine ⟨final, ownKeys, progress.grown, ?_,
    fun pointer inside => defined pointer (listed pointer (.inr inside)), ?_⟩
  · intro key named
    obtain ⟨index, inside, rfl⟩ := List.mem_iff_getElem.mp named
    have length := progress.given.length_eq
    have here : index < ownKeys.length := by omega
    refine ⟨ownKeys[index], List.getElem_mem here, progress.given.get inside here, ?_⟩
    have element := congrArg (fun list => list[index]?) targets
    simpa [List.getElem?_eq_getElem, here, inside] using element
  · intro pointer inside other otherInside same
    exact List.inj_on_of_nodup_map distinct (listed pointer (.inr inside))
      (listed other otherInside) same

/-- A string whose pointer denotes it is spelled as it was looked up. -/
theorem Given.spelled {initial current : Pointers} (regular : Regular initial.runtime)
    (grown : Extends initial current) {units : JsString} {pointer : KeyPointer}
    (given : Given initial current (.string units) pointer)
    (denoted : current.denotes pointer = some (.string units)) :
    Spelled initial.runtime units := by
  obtain ⟨propNameRef, rfl, -, origin⟩ := given
  rcases origin with early | ⟨absent, new, props, wrapper, names, stored, held⟩
  · refine ⟨fun other found => ?_, fun absent => ?_⟩
    · rw [early] at found
      cases found
      obtain ⟨value, held, -⟩ := regular.entries _ _ early
      have inside := (List.getElem?_eq_some_iff.mp held).1
      have kept : current.denotes (.string propNameRef) = _ := grown.denotes inside
      exact utf16_of_denotes (kept.symm.trans denoted)
    · rw [early] at absent
      cases absent
  · refine ⟨fun other found => ?_, fun _ => ⟨props, names, fun other later => ?_⟩⟩
    · rw [absent] at found
      cases found
    · rw [Scripts.setNamedProperty, regular.unscripted propNameRef new] at stored
      obtain rfl := Option.some.inj stored
      have read := PropNames.utf16_eq_some.mp (utf16_of_denotes denoted)
      rw [NodeApiJsiRuntime.getNodeApiValue, held] at read
      rw [Scripts.ReadsAs, regular.unscripted other later]
      exact Option.some.inj read

section

variable {enumeration : Enumeration} {final : Pointers} {ownKeys : List KeyPointer}

theorem Pointed.host_denotes (pointed : Pointed enumeration final ownKeys) :
    ∀ pointer ∈ enumeration.hostOwnKeys,
      final.denotes pointer = enumeration.pointers.denotes pointer := fun pointer inside =>
  pointed.grown.denotes (enumeration.hostHeld pointer inside)

theorem Pointed.string (pointed : Pointed enumeration final ownKeys) {units : JsString}
    (inside : .string units ∈ enumeration.targetOwnKeys) : ∃ pointer ∈ ownKeys,
      Given enumeration.pointers final (.string units) pointer ∧
        final.denotes pointer = some (.string units) :=
  pointed.targets _ ((enumeration.string_mem_targetNames units).mpr inside)

theorem Pointed.forms (pointed : Pointed enumeration final ownKeys) {left right : JsString}
    (leftInside : .string left ∈ enumeration.targetOwnKeys)
    (rightInside : .string right ∈ enumeration.targetOwnKeys) (form : utf8 left = utf8 right) :
    left = right := by
  obtain ⟨_, -, ⟨leftRef, rfl, leftFound, -⟩, leftDenotes⟩ := pointed.string leftInside
  obtain ⟨_, -, ⟨rightRef, rfl, rightFound, -⟩, rightDenotes⟩ := pointed.string rightInside
  rw [form, rightFound] at leftFound
  cases leftFound
  rw [leftDenotes] at rightDenotes
  cases rightDenotes
  rfl

/-- A pointer of the host object that denotes a key of the target is the target's pointer. -/
theorem Pointed.same (pointed : Pointed enumeration final ownKeys) {key : PropertyKey}
    (named : key ∈ enumeration.targetNames) {pointer : KeyPointer}
    (host : pointer ∈ enumeration.hostOwnKeys)
    (denoted : enumeration.pointers.denotes pointer = some key) :
    Given enumeration.pointers final key pointer := by
  obtain ⟨own, ownInside, given, ownDenotes⟩ := pointed.targets key named
  rw [← pointed.host_denotes pointer host, ← ownDenotes] at denoted
  rw [pointed.apart pointer host own (.inl ownInside) denoted]
  exact given

end

theorem Enumerates.enumerable {enumeration : Enumeration}
    (regular : Regular enumeration.pointers.runtime) (enumerates : Enumerates enumeration) :
    Enumerable enumeration := by
  obtain ⟨final, ownKeys, pointed⟩ := enumerates.pointed regular
  refine ⟨?_, fun _ _ => pointed.forms, ?_, ?_, ?_, ?_⟩
  · intro units inside
    obtain ⟨pointer, -, given, denoted⟩ := pointed.string inside
    exact given.spelled regular pointed.grown denoted
  · intro pointer inside
    rw [← pointed.host_denotes pointer inside]
    exact pointed.defined pointer inside
  · intro left leftInside right rightInside same
    rw [← pointed.host_denotes left leftInside, ← pointed.host_denotes right rightInside] at same
    exact pointed.apart left leftInside right (.inr rightInside) same
  · intro units inside pointer host denoted
    have named := (enumeration.string_mem_targetNames units).mpr inside
    obtain ⟨propNameRef, rfl, -, early | ⟨-, new, -⟩⟩ := pointed.same named host denoted
    · exact ⟨propNameRef, rfl, early⟩
    · exact absurd (enumeration.hostHeld _ host) (Nat.not_lt.mpr new)
  · intro identity named pointer host denoted
    obtain ⟨index, rfl, new, -⟩ := pointed.same named host denoted
    exact absurd (enumeration.hostHeld _ host) (Nat.not_lt.mpr new)

/-! ## Regular tables -/

theorem Regular.congr {runtime other : NodeApiJsiRuntime} (regular : Regular runtime)
    (prototype : other.objectPrototype = runtime.objectPrototype)
    (scripts : other.scripts = runtime.scripts) (wrappers : other.wrappers = runtime.wrappers)
    (table : other.propNameIDs = runtime.propNameIDs) : Regular other := by
  constructor
  · rw [table, wrappers]
    exact regular.entries
  · rw [prototype]
    exact regular.assigned
  · rw [wrappers, scripts]
    exact regular.unscripted

/-- A pointer that is added does not change the strings of the table. -/
theorem Regular.added {runtime : NodeApiJsiRuntime} (regular : Regular runtime)
    (wrapper : Wrapper JsValue) :
    Regular { runtime with wrappers := runtime.wrappers ++ [wrapper] } := by
  refine ⟨fun bytes propNameRef found => ?_, regular.assigned, fun other later => ?_⟩
  · obtain ⟨value, held, named⟩ := regular.entries bytes propNameRef found
    have inside := (List.getElem?_eq_some_iff.mp held).1
    exact ⟨value, (List.getElem?_append_left inside).trans held, named⟩
  · rw [List.length_append] at later
    exact regular.unscripted other (by omega)

theorem Regular.named {runtime after : NodeApiJsiRuntime} (regular : Regular runtime)
    {units : JsString} {propNameRef : Nat}
    (created : runtime.createPropNameIDFromString units = .ok (after, propNameRef)) :
    Regular after := by
  have asKey : createPropNameID { runtime } (.string units) =
      .ok ({ runtime := after }, .string propNameRef) := by
    rw [createPropNameID, created]
  rcases createPropNameID_string asKey with
    ⟨_, -, same, -⟩ | ⟨props, wrapper, -, names, stored, -, same⟩
  · cases same
    exact regular
  · cases same
    have added := regular.added wrapper
    refine ⟨fun bytes other found => ?_, added.assigned, added.unscripted⟩
    rw [List.lookup_append] at found
    cases early : runtime.propNameIDs.lookup bytes with
    | some _ =>
      rw [early, Option.some_or] at found
      exact added.entries bytes other (early.trans found)
    | none =>
      rw [early, Option.none_or] at found
      have entry := PropNames.mem_of_lookup found
      rw [List.mem_singleton] at entry
      cases entry
      dsimp only at stored
      rw [Scripts.setNamedProperty, regular.unscripted _ (Nat.le_refl _)] at stored
      obtain rfl := Option.some.inj stored
      refine ⟨_, List.getElem?_concat_length, ?_⟩
      unfold element
      cases first : props[0]? with
      | none => exact .inl rfl
      | some name => exact .inr ⟨name, rfl, regular.assigned units props name names first⟩

theorem Regular.finish {runtime : NodeApiJsiRuntime} (regular : Regular runtime)
    (name : JsString) {created : Except PropNames.Failure (NodeApiJsiRuntime × Nat)}
    (kept : ∀ after propNameID, created = .ok (after, propNameID) → Regular after)
    {next : NodeApiJsiRuntime} (finished : PropNames.finish runtime name created = .ok next) :
    Regular next := by
  match created with
  | .error .javaScript =>
    cases finished
    exact regular
  | .ok (after, propNameID) =>
    cases finished
    exact (kept after propNameID rfl).congr rfl rfl rfl rfl

theorem Regular.finishBytes {runtime : NodeApiJsiRuntime} (regular : Regular runtime)
    {name : JsString} {next : NodeApiJsiRuntime}
    (finished : PropNames.finishBytes runtime name (runtime.createPropNameIDFromString name) =
      .ok next) : Regular next := by
  refine regular.finish name (fun after propNameID created => ?_) finished
  cases named : runtime.createPropNameIDFromString name with
  | error failure =>
    rw [named] at created
    cases created
  | ok result =>
    rw [named] at created
    cases created
    exact (regular.named named).congr rfl rfl rfl rfl

end V8Jsi.HostObjectKeys
