import Mathlib.Data.List.TakeWhile
import V8Jsi.NodeApiExceptions

set_option autoImplicit false

/- What `rewriteErrorMessage` of NodeApiJsiRuntime.cpp makes of the stack of an error
whose message and stack are strings. -/
namespace V8Jsi.NodeApiExceptions

open Raising Unicode

section

variable {σ : Type} (engine : Engine σ) (jsError : JsValue)

/-- The properties that are read and assigned. -/
def errorKeys : List (List UInt16) := [name "message", name "stack"]

/-- `message` and `stack` are data properties of the error with the given values. -/
structure DataProperties (value : σ → List UInt16 → JsValue) : Prop where
  get : ∀ js, ∀ key ∈ errorKeys, engine.get js jsError key = (.ok (value js key), js)
  set : ∀ js new, ∀ key ∈ errorKeys, (engine.set js jsError key new).1 = .ok ()
  assigned : ∀ js new, ∀ key ∈ errorKeys, value (engine.set js jsError key new).2 key = new
  other : ∀ js new, ∀ key ∈ errorKeys, ∀ key' ∈ errorKeys, key' ≠ key →
    value (engine.set js jsError key new).2 key' = value js key'

/-- UTF-8 is decoded; what becomes of other bytes is left open. -/
def DecodesUtf8 : Prop := ∀ bytes units, transcode bytes = some units →
  engine.newFromUtf8 bytes = units

/-- The runtime in which `throwJSException` calls `rewriteErrorMessage`. -/
def throwing (js : σ) (sourceURL : List UInt8) : Runtime σ :=
  { js, hasPendingJSError := true, sourceURL }

/-- The stack then contains the URL: it is the one it was if that had the URL, and else
the URL, a newline and the one it was. A second call changes nothing. -/
def AddsURLOnce (value : σ → List UInt16 → JsValue) (js : σ) (original : List UInt16)
    (sourceURL : List UInt8) : Prop :=
  ∃ after stack, rewriteErrorMessage engine jsError (throwing js sourceURL) = .ok () after ∧
    value after.js (name "stack") = .string stack ∧
    sourceURL <:+: utf8 stack ∧
    (sourceURL <:+: utf8 original → stack = original) ∧
    (¬ sourceURL <:+: utf8 original →
      ∃ url, transcode sourceURL = some url ∧ stack = url ++ [0x0A] ++ original) ∧
    rewriteErrorMessage engine jsError after = .ok () after

end

/-! ## One call -/

theorem message_mem : name "message" ∈ errorKeys := List.mem_cons_self

theorem stack_mem : name "stack" ∈ errorKeys := List.mem_cons_of_mem _ List.mem_cons_self

theorem keys_ne : name "stack" ≠ name "message" := by decide +kernel

section

variable {σ : Type} {engine : Engine σ} {jsError : JsValue} {value : σ → List UInt16 → JsValue}
  {js : σ} {message stack : List UInt16} {sourceURL : List UInt8}

theorem afterMessage_data (data : DataProperties engine jsError value)
    (readMessage : value js (name "message") = .string message) :
    afterMessage engine js jsError =
      if utf8 message = outOfStackSpace then (assignMessage engine js jsError).2 else js := by
  rw [afterMessage, data.get js _ message_mem, readMessage]
  simp only [readsOverflow, decide_eq_true_eq]

theorem afterMessage_stack (data : DataProperties engine jsError value)
    (readMessage : value js (name "message") = .string message) :
    value (afterMessage engine js jsError) (name "stack") = value js (name "stack") := by
  rw [afterMessage_data data readMessage]
  split
  · exact data.other js _ _ message_mem _ stack_mem keys_ne
  · rfl

/-- The heap after the call. -/
def rewritten (engine : Engine σ) (jsError : JsValue) (js : σ) (stack : List UInt16)
    (sourceURL : List UInt8) : σ :=
  let js := afterMessage engine js jsError
  if sourceURL <:+: utf8 stack then js
  else (assignStack engine js jsError (utf8 stack) sourceURL).2

theorem addURL_data (data : DataProperties engine jsError value) (js : σ) :
    addURL engine jsError (.string stack) sourceURL (throwing js sourceURL) =
      .ok () (throwing (if sourceURL <:+: utf8 stack then js
        else (assignStack engine js jsError (utf8 stack) sourceURL).2) sourceURL) := by
  have clear : Clear (throwing js sourceURL) := ⟨rfl, rfl⟩
  rw [addURL, bind_ok (stringToStdString_string stack _)]
  by_cases holds : sourceURL <:+: utf8 stack
  · rw [if_neg (not_not_intro holds), if_pos holds]
    rfl
  · rw [if_pos holds, if_neg holds]
    exact setProperty_ok clear (data.set js _ _ stack_mem)

theorem rewriteStack_data (message : List UInt16) (sourceURL : List UInt8)
    (data : DataProperties engine jsError value)
    (readStack : value js (name "stack") = .string stack) :
    rewriteStack engine jsError (some (.string message)) sourceURL (throwing js sourceURL) =
      .ok () (throwing (if sourceURL <:+: utf8 stack then js
        else (assignStack engine js jsError (utf8 stack) sourceURL).2) sourceURL) := by
  have clear : Clear (throwing js sourceURL) := ⟨rfl, rfl⟩
  have read : engine.get (throwing js sourceURL).js jsError (name "stack") =
      (.ok (.string stack), js) := by
    rw [← readStack]
    exact data.get js _ stack_mem
  exact (rewriteStack_read clear _ _ read).trans (addURL_data data js)

theorem rewriteErrorMessage_data (data : DataProperties engine jsError value)
    (readMessage : value js (name "message") = .string message)
    (readStack : value js (name "stack") = .string stack) (present : sourceURL ≠ []) :
    rewriteErrorMessage engine jsError (throwing js sourceURL) =
      .ok () (throwing (rewritten engine jsError js stack sourceURL) sourceURL) := by
  have clear : Clear (throwing js sourceURL) := ⟨rfl, rfl⟩
  have settable : readsOverflow (engine.get js jsError (name "message")).1 = true →
      (assignMessage engine (engine.get js jsError (name "message")).2 jsError).1 = .ok () :=
    fun _ => data.set _ _ _ message_mem
  have found : (engine.get js jsError (name "message")).1.toOption = some (.string message) := by
    rw [data.get js _ message_mem, readMessage]
    rfl
  have first := rewriteMessage_ok clear settable
  have url : (throwing js sourceURL).sourceURL ≠ [] := present
  have second := rewriteStack_data message sourceURL data
    ((afterMessage_stack data readMessage).trans readStack)
  rw [rewriteErrorMessage_after first, if_pos url]
  exact (congrArg (fun text => rewriteStack engine jsError text sourceURL _) found).trans second

/-! ## The texts -/

/-- Bytes that UTF-8 decoding takes are read back. -/
theorem utf8_transcode {bytes : List UInt8} {units : List UInt16}
    (decoded : transcode bytes = some units) : utf8 units = bytes := by
  obtain ⟨text, rfl⟩ := wellFormed_of_transcode decoded
  rw [transcode_utf8Encode, Option.some.injEq] at decoded
  rw [← decoded, utf8, decodeLossy_utf16Encode]

theorem decodeLossy_newline (text : List Char) (units : List UInt16) :
    decodeLossy (utf16Encode text ++ 0x0A :: units) =
      text ++ Char.ofNat 0x0A :: decodeLossy units := by
  induction text with
  | nil => exact decodeLossy_unit rfl units
  | cons char rest ih =>
    rw [utf16Encode_cons, List.append_assoc, decodeLossy_utf16Char, ih]
    rfl

theorem utf8_newline {bytes : List UInt8} {url : List UInt16} (decoded : transcode bytes = some url)
    (units : List UInt16) : utf8 (url ++ [0x0A] ++ units) = bytes ++ [0x0A] ++ utf8 units := by
  obtain ⟨text, rfl⟩ := wellFormed_of_transcode decoded
  rw [transcode_utf8Encode, Option.some.injEq] at decoded
  have newline : String.utf8EncodeChar (Char.ofNat 0x0A) = [0x0A] := by decide
  rw [← decoded, utf8, List.append_assoc, List.singleton_append, decodeLossy_newline, utf8Encode,
    List.flatMap_append, List.flatMap_cons, newline, List.append_assoc]
  rfl

theorem transcode_newline {bytes : List UInt8} {url : List UInt16}
    (decoded : transcode bytes = some url) :
    transcode (bytes ++ [0x0A] ++ utf8 []) = some (url ++ [0x0A]) := by
  obtain ⟨text, rfl⟩ := wellFormed_of_transcode decoded
  rw [transcode_utf8Encode, Option.some.injEq] at decoded
  have longer : utf8Encode text ++ [0x0A] ++ utf8 [] = utf8Encode (text ++ [Char.ofNat 0x0A]) := by
    rw [utf8Encode, utf8Encode, List.flatMap_append]
    exact List.append_nil _
  rw [longer, transcode_utf8Encode, utf16Encode, List.flatMap_append, ← decoded]
  rfl

theorem zero_not_mem_cString (bytes : List UInt8) : 0 ∉ cString bytes := by
  intro inside
  have kept := List.mem_takeWhile_imp inside
  simp at kept

theorem cString_eq_self {bytes : List UInt8} (without : 0 ∉ bytes) : cString bytes = bytes := by
  rw [cString, List.takeWhile_eq_self_iff]
  intro byte inside
  rw [decide_eq_true_iff]
  rintro rfl
  exact without inside

theorem cString_cut {bytes : List UInt8} (inside : 0 ∈ bytes) :
    ∃ back, bytes = cString bytes ++ 0 :: back := by
  induction bytes with
  | nil => exact absurd inside List.not_mem_nil
  | cons byte rest ih =>
    by_cases zero : byte = 0
    · refine ⟨rest, ?_⟩
      simp [cString, zero]
    · obtain ⟨back, cut⟩ := ih ((List.mem_cons.mp inside).resolve_left (Ne.symm zero))
      refine ⟨back, ?_⟩
      rw [cString, List.takeWhile_cons_of_pos (by simpa using zero), List.cons_append]
      exact congrArg (byte :: ·) cut

theorem wellFormed_stackWithURL {stackStr sourceURL : List UInt8} (stack : WellFormed stackStr)
    (url : WellFormed sourceURL) : WellFormed (stackWithURL stackStr sourceURL) := by
  have newline : WellFormed [0x0A] := ⟨[Char.ofNat 0x0A], by decide⟩
  exact wellFormed_append stack (wellFormed_append (wellFormed_append url newline) stack)

/-- A text is cut at a character. -/
theorem wellFormed_cString {bytes : List UInt8} (wellFormed : WellFormed bytes) :
    WellFormed (cString bytes) := by
  obtain ⟨text, encoded⟩ := wellFormed
  by_cases inside : 0 ∈ bytes
  · obtain ⟨back, cut⟩ := cString_cut inside
    rw [cut] at encoded
    have ascii : (0 : UInt8) < 0x80 := by decide
    obtain ⟨first, -, -, -, front, -, -⟩ := utf8Encode_split ascii back text _ encoded
    exact ⟨first, front⟩
  · rw [cString_eq_self inside]
    exact ⟨text, encoded⟩

theorem utf8_wellFormed (units : List UInt16) : WellFormed (utf8 units) := ⟨_, rfl⟩

theorem utf8_eq_nil_iff (units : List UInt16) : utf8 units = [] ↔ units = [] := by
  constructor
  · intro empty
    have text : decodeLossy units = [] := by
      cases decoded : decodeLossy units with
      | nil => rfl
      | cons char rest =>
        rw [utf8, decoded, utf8Encode_cons] at empty
        exact absurd (List.append_eq_nil_iff.mp empty).1 String.utf8EncodeChar_ne_nil
    fun_cases decodeLossy units with
    | case1 => rfl
    | case2 unit => cases text
    | case3 unit next rest pair => rw [decodeLossy, if_pos pair] at text; cases text
    | case4 unit next rest single => rw [decodeLossy, if_neg single] at text; cases text
  · rintro rfl
    rfl

/-! ## Both calls -/

theorem rewritten_stack (js : σ) (data : DataProperties engine jsError value)
    (missing : ¬ sourceURL <:+: utf8 stack) :
    value (rewritten engine jsError js stack sourceURL) (name "stack") =
      createStringUtf8 engine (cString (stackWithURL (utf8 stack) sourceURL)) := by
  rw [rewritten, if_neg missing]
  exact data.assigned _ _ _ stack_mem

/-- The message of a stack overflow is replaced by one that is left alone. -/
theorem rewritten_message (stack : List UInt16) (sourceURL : List UInt8)
    (data : DataProperties engine jsError value) (decodes : DecodesUtf8 engine)
    (readMessage : value js (name "message") = .string message) :
    ∃ units, value (rewritten engine jsError js stack sourceURL) (name "message") =
        .string units ∧ utf8 units ≠ outOfStackSpace := by
  have kept : value (rewritten engine jsError js stack sourceURL) (name "message") =
      value (afterMessage engine js jsError) (name "message") := by
    rw [rewritten]
    split
    · rfl
    · exact data.other _ _ _ stack_mem _ message_mem (Ne.symm keys_ne)
  rw [kept, afterMessage_data data readMessage]
  split
  case isTrue overflow =>
    have new : engine.newFromUtf8 maximumCallStack =
        utf16Encode "RangeError : Maximum call stack size exceeded".toList :=
      decodes _ _ (transcode_utf8Encode _)
    refine ⟨_, data.assigned _ _ _ message_mem, ?_⟩
    rw [new, utf8, decodeLossy_utf16Encode]
    decide +kernel
  case isFalse other => exact ⟨message, readMessage, other⟩

/-- A call on an error that has been rewritten changes nothing. -/
theorem rewriteErrorMessage_again (data : DataProperties engine jsError value)
    (readMessage : value js (name "message") = .string message)
    (other : utf8 message ≠ outOfStackSpace)
    (readStack : value js (name "stack") = .string stack) (present : sourceURL ≠ [])
    (holds : sourceURL <:+: utf8 stack) :
    rewriteErrorMessage engine jsError (throwing js sourceURL) =
      .ok () (throwing js sourceURL) := by
  rw [rewriteErrorMessage_data data readMessage readStack present, rewritten, if_pos holds,
    afterMessage_data data readMessage, if_neg other]

/-- The URL is added in front only of an empty stack. -/
theorem cString_stackWithURL_iff (stackStr sourceURL : List UInt8) :
    cString (stackWithURL stackStr sourceURL) = sourceURL ++ [0x0A] ++ stackStr ↔
      stackStr = [] ∧ 0 ∉ sourceURL := by
  constructor
  · intro same
    have none := zero_not_mem_cString (stackWithURL stackStr sourceURL)
    rw [same] at none
    simp only [List.mem_append, not_or] at none
    have whole : 0 ∉ stackWithURL stackStr sourceURL := by
      simp only [stackWithURL, List.mem_append, not_or]
      exact ⟨none.2, none.1, none.2⟩
    rw [cString_eq_self whole, stackWithURL] at same
    have lengths := congrArg List.length same
    simp only [List.length_append] at lengths
    exact ⟨List.eq_nil_of_length_eq_zero (by omega), none.1.1⟩
  · rintro ⟨rfl, without⟩
    rw [cString_eq_self]
    · simp [stackWithURL]
    · simpa [stackWithURL] using without

/-- A stack that has the URL stays as it is. -/
theorem addsURLOnce_found (data : DataProperties engine jsError value)
    (decodes : DecodesUtf8 engine)
    (readMessage : value js (name "message") = .string message)
    (readStack : value js (name "stack") = .string stack) (present : sourceURL ≠ [])
    (holds : sourceURL <:+: utf8 stack) :
    AddsURLOnce engine jsError value js stack sourceURL := by
  have first := rewriteErrorMessage_data data readMessage readStack present
  obtain ⟨units, newMessage, other⟩ := rewritten_message stack sourceURL data decodes readMessage
  have unchanged : value (rewritten engine jsError js stack sourceURL) (name "stack") =
      .string stack := by
    rw [rewritten, if_pos holds]
    exact (afterMessage_stack data readMessage).trans readStack
  exact ⟨_, stack, first, unchanged, holds, fun _ => rfl, fun missing => absurd holds missing,
    rewriteErrorMessage_again data newMessage other unchanged present holds⟩

/-- The URL and a newline are written in front of an empty stack. -/
theorem addsURLOnce_empty (data : DataProperties engine jsError value)
    (decodes : DecodesUtf8 engine)
    (readMessage : value js (name "message") = .string message)
    (readStack : value js (name "stack") = .string []) (present : sourceURL ≠ [])
    (missing : ¬ sourceURL <:+: utf8 []) (wellFormed : WellFormed sourceURL)
    (without : 0 ∉ sourceURL) :
    AddsURLOnce engine jsError value js [] sourceURL := by
  have first := rewriteErrorMessage_data data readMessage readStack present
  obtain ⟨units, newMessage, other⟩ := rewritten_message [] sourceURL data decodes readMessage
  obtain ⟨url, decoded⟩ := transcode_of_wellFormed wellFormed
  have bytes := (cString_stackWithURL_iff (utf8 []) sourceURL).mpr ⟨rfl, without⟩
  have assigned : value (rewritten engine jsError js [] sourceURL) (name "stack") =
      .string (url ++ [0x0A] ++ []) := by
    rw [rewritten_stack _ data missing, bytes, createStringUtf8,
      decodes _ _ (transcode_newline decoded), List.append_nil]
  have inside : sourceURL <:+: utf8 (url ++ [0x0A] ++ []) := by
    rw [utf8_newline decoded []]
    exact ⟨[], [0x0A] ++ utf8 [], by simp⟩
  exact ⟨_, _, first, assigned, inside, fun found => absurd found missing,
    fun _ => ⟨url, decoded, rfl⟩,
    rewriteErrorMessage_again data newMessage other assigned present inside⟩

/-- A stack without the URL is right afterwards only if it was empty. -/
theorem empty_of_addsURLOnce (data : DataProperties engine jsError value)
    (decodes : DecodesUtf8 engine)
    (readMessage : value js (name "message") = .string message)
    (readStack : value js (name "stack") = .string stack) (present : sourceURL ≠ [])
    (missing : ¬ sourceURL <:+: utf8 stack)
    (adds : AddsURLOnce engine jsError value js stack sourceURL) :
    stack = [] ∧ WellFormed sourceURL ∧ 0 ∉ sourceURL := by
  have first := rewriteErrorMessage_data data readMessage readStack present
  obtain ⟨after, added, again, read, -, -, front, -⟩ := adds
  obtain ⟨url, decoded, rfl⟩ := front missing
  have wellFormed := wellFormed_of_transcode decoded
  obtain rfl : throwing (rewritten engine jsError js stack sourceURL) sourceURL = after :=
    (EStateM.Result.ok.inj (first.symm.trans again)).2
  have assigned := (rewritten_stack _ data missing).symm.trans read
  obtain ⟨text, cut⟩ := transcode_of_wellFormed
    (wellFormed_cString (wellFormed_stackWithURL (utf8_wellFormed stack) wellFormed))
  have same : text = url ++ [0x0A] ++ stack := by
    rw [createStringUtf8, decodes _ _ cut] at assigned
    exact JsValue.string.inj assigned
  have bytes := (utf8_transcode cut).symm.trans
    ((congrArg utf8 same).trans (utf8_newline decoded stack))
  obtain ⟨empty, without⟩ := (cString_stackWithURL_iff _ _).mp bytes
  exact ⟨(utf8_eq_nil_iff stack).mp empty, wellFormed, without⟩

/-- The URL is added as it should exactly when the stack has it already, or is empty and
the URL is UTF-8 without a zero byte. -/
theorem addsURLOnce_iff (data : DataProperties engine jsError value)
    (decodes : DecodesUtf8 engine)
    (readMessage : value js (name "message") = .string message)
    (readStack : value js (name "stack") = .string stack) (present : sourceURL ≠ []) :
    AddsURLOnce engine jsError value js stack sourceURL ↔
      sourceURL <:+: utf8 stack ∨ stack = [] ∧ WellFormed sourceURL ∧ 0 ∉ sourceURL := by
  by_cases holds : sourceURL <:+: utf8 stack
  · exact iff_of_true (addsURLOnce_found data decodes readMessage readStack present holds)
      (.inl holds)
  · constructor
    · intro adds
      exact .inr (empty_of_addsURLOnce data decodes readMessage readStack present holds adds)
    · intro kept
      obtain ⟨rfl, wellFormed, without⟩ := kept.resolve_left holds
      exact addsURLOnce_empty data decodes readMessage readStack present holds wellFormed without

end

/-! ## An error as a record -/

/-- A heap with the message and the stack of one error. -/
def recordValue (js : JsValue × JsValue) (key : List UInt16) : JsValue :=
  if key = name "message" then js.1 else if key = name "stack" then js.2 else .undefined

def recordSet (js : JsValue × JsValue) (key : List UInt16) (new : JsValue) : JsValue × JsValue :=
  if key = name "message" then (new, js.2) else if key = name "stack" then (js.1, new) else js

def recordEngine : Engine (JsValue × JsValue) where
  global := .undefined
  get js _ key := (.ok (recordValue js key), js)
  set js _ key new := (.ok (), recordSet js key new)
  call js _ _ := (.ok .undefined, js)
  newFromUtf8 bytes := (transcode bytes).getD []

theorem recordValue_message (js : JsValue × JsValue) : recordValue js (name "message") = js.1 :=
  if_pos rfl

theorem recordValue_stack (js : JsValue × JsValue) : recordValue js (name "stack") = js.2 :=
  (if_neg keys_ne).trans (if_pos rfl)

theorem recordSet_message (js : JsValue × JsValue) (new : JsValue) :
    recordSet js (name "message") new = (new, js.2) := if_pos rfl

theorem recordSet_stack (js : JsValue × JsValue) (new : JsValue) :
    recordSet js (name "stack") new = (js.1, new) := (if_neg keys_ne).trans (if_pos rfl)

theorem record_data (jsError : JsValue) : DataProperties recordEngine jsError recordValue where
  get _ _ _ := rfl
  set _ _ _ _ := rfl
  assigned js new key inside := by
    change recordValue (recordSet js key new) key = new
    rcases List.mem_cons.mp inside with rfl | inside
    · rw [recordSet_message, recordValue_message]
    · obtain rfl := List.mem_singleton.mp inside
      rw [recordSet_stack, recordValue_stack]
  other js new key inside key' inside' apart := by
    change recordValue (recordSet js key new) key' = recordValue js key'
    rcases List.mem_cons.mp inside with rfl | inside
    · obtain rfl := List.mem_singleton.mp ((List.mem_cons.mp inside').resolve_left apart)
      rw [recordSet_message, recordValue_stack, recordValue_stack]
    · obtain rfl := List.mem_singleton.mp inside
      rcases List.mem_cons.mp inside' with rfl | inside'
      · rw [recordSet_stack, recordValue_message, recordValue_message]
      · exact absurd (List.mem_singleton.mp inside') apart

theorem record_decodes : DecodesUtf8 recordEngine := by
  intro bytes units decoded
  show (transcode bytes).getD [] = units
  rw [decoded]
  rfl

/-- The stack "ab" has the URL "b" already. -/
theorem url_found_in_stack :
    AddsURLOnce recordEngine (.object 0) recordValue (.string [0x6D], .string [0x61, 0x62])
      [0x61, 0x62] [0x62] :=
  (addsURLOnce_iff (record_data _) record_decodes (recordValue_message _) (recordValue_stack _)
    (by decide)).mpr (.inl (by decide +kernel))

/-- The stack "a" with the URL "b" becomes "ab", a newline and "a". -/
theorem stack_doubled :
    (∃ after, rewriteErrorMessage recordEngine (.object 0)
        (throwing (.string [0x6D], .string [0x61]) [0x62]) = .ok () after ∧
      after.js.2 = .string [0x61, 0x62, 0x0A, 0x61]) ∧
    ¬ AddsURLOnce recordEngine (.object 0) recordValue (.string [0x6D], .string [0x61]) [0x61]
      [0x62] := by
  have missing : ¬ ([0x62] : List UInt8) <:+: utf8 [0x61] := by decide +kernel
  have present : ([0x62] : List UInt8) ≠ [] := by decide
  have first := rewriteErrorMessage_data (record_data (.object 0))
    (recordValue_message (.string [0x6D], .string [0x61])) (recordValue_stack _) present
  have stack := rewritten_stack (.string [0x6D], .string [0x61]) (record_data (.object 0)) missing
  have doubled : createStringUtf8 recordEngine
      (cString (stackWithURL (utf8 [0x61]) [0x62])) = .string [0x61, 0x62, 0x0A, 0x61] := by
    decide +kernel
  rw [recordValue_stack, doubled] at stack
  refine ⟨⟨_, first, stack⟩, ?_⟩
  rintro ⟨after, added, again, read, -, -, front, -⟩
  obtain ⟨url, decoded, rfl⟩ := front missing
  obtain rfl := (EStateM.Result.ok.inj (first.symm.trans again)).2
  have single : transcode [0x62] = some [0x62] := by decide +kernel
  obtain rfl := Option.some.inj (single.symm.trans decoded)
  rw [recordValue_stack] at read
  exact absurd (stack.symm.trans read) (by decide)

end V8Jsi.NodeApiExceptions
