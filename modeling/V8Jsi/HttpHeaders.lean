import V8Jsi.AllowedHost

set_option autoImplicit false

/- Headers as the parser delivers them to `HttpHandler`, and what `HeaderValue`
finds among them. -/
namespace V8Jsi.InspectorSocket

open SocketServer

/-- A header of a request. The parser hands out its name in one or more pieces and
then its value, which may be a single empty piece. -/
structure Header where
  namePieces : List (List UInt8)
  valuePieces : List (List UInt8)
  named : namePieces ≠ []
  valued : valuePieces ≠ []

namespace Header

def name (header : Header) : List UInt8 := header.namePieces.flatten

def value (header : Header) : List UInt8 := header.valuePieces.flatten

def callbacks (header : Header) : List ParserCallback :=
  header.namePieces.map .onHeaderField ++ header.valuePieces.map .onHeaderValue

/-- The names are equal ignoring the case of ASCII letters. -/
def isNamed (header : Header) (name : List UInt8) : Bool :=
  header.name.map toLower = name.map toLower

/-- The comparison of `HeaderValue`, which stops at the length of the name. -/
def isMatched (header : Header) (name : List UInt8) : Bool :=
  stringEqualNoCaseN header.name name 0 name.length

end Header

/-- The handler at the start of a request. -/
def HttpHandler.fresh (handler : HttpHandler) : HttpHandler :=
  { handler with parsingValue := false, currentHeader := [], headers := ∅ }

def HttpHandler.receive (handler : HttpHandler) (headers : List Header) : HttpHandler :=
  (headers.flatMap Header.callbacks).foldl HttpHandler.invoke handler

/-- The value of the only header of the name, and otherwise nothing. -/
def onlyValue (headers : List Header) (name : List UInt8) : List UInt8 :=
  match headers.filter (·.isNamed name) with
  | [header] => header.value
  | _ => []

/-- The only header of the name is empty or no longer name begins with it; without a
single header of the name, the matched names differ or their values are empty. -/
def MatchesApart (headers : List Header) (name : List UInt8) : Prop :=
  match headers.filter (·.isNamed name) with
  | [header] => header.value = [] ∨
      ∀ other ∈ headers, other.isMatched name = true → other.isNamed name = true
  | _ =>
      (∃ first ∈ headers, ∃ second ∈ headers, first.isMatched name = true ∧
        second.isMatched name = true ∧ first.name ≠ second.name) ∨
      ∀ header ∈ headers, header.isMatched name = true → header.value = []

/-! ## The map of headers -/

theorem onHeaderField_pieces (pieces : List (List UInt8)) : ∀ handler : HttpHandler,
    handler.parsingValue = false →
    (pieces.map ParserCallback.onHeaderField).foldl HttpHandler.invoke handler =
      { handler with currentHeader := handler.currentHeader ++ pieces.flatten } := by
  induction pieces with
  | nil =>
    intro handler parsing
    simp
  | cons piece rest ih =>
    intro handler parsing
    rw [List.map_cons, List.foldl_cons, ih]
    · simp [HttpHandler.invoke, HttpHandler.onHeaderField, parsing]
    · simp [HttpHandler.invoke, HttpHandler.onHeaderField, parsing]

theorem onHeaderValue_pieces (pieces : List (List UInt8)) : ∀ (handler : HttpHandler),
    (pieces.map ParserCallback.onHeaderValue).foldl HttpHandler.invoke handler =
      if pieces = [] then handler else { handler with
        parsingValue := true
        headers := handler.headers.insert handler.currentHeader
          ((handler.headers.lookup handler.currentHeader).getD [] ++ pieces.flatten) } := by
  induction pieces with
  | nil =>
    intro handler
    rfl
  | cons piece rest ih =>
    intro handler
    rw [List.map_cons, List.foldl_cons, ih, if_neg (List.cons_ne_nil piece rest)]
    split
    · rename_i last
      subst last
      simp [HttpHandler.invoke, HttpHandler.onHeaderValue]
    · simp only [HttpHandler.invoke, HttpHandler.onHeaderValue, AList.lookup_insert,
        Option.getD_some, List.append_assoc, List.flatten_cons, AList.insert_insert]

/-- The map entry of a header, which its value is appended to. -/
def collect (map : AList fun _ : List UInt8 => List UInt8) (header : Header) :
    AList fun _ : List UInt8 => List UInt8 :=
  map.insert header.name ((map.lookup header.name).getD [] ++ header.value)

/-- The next name piece begins a new name. -/
def HttpHandler.NameStarts (handler : HttpHandler) : Prop :=
  handler.parsingValue = true ∨ handler.currentHeader = []

theorem callbacks_header (header : Header) (handler : HttpHandler) (starts : handler.NameStarts) :
    header.callbacks.foldl HttpHandler.invoke handler =
      { handler with
        parsingValue := true
        currentHeader := header.name
        headers := collect handler.headers header } := by
  obtain ⟨namePieces, valuePieces, named, valued⟩ := header
  obtain ⟨first, rest, rfl⟩ := List.exists_cons_of_ne_nil named
  have field : handler.onHeaderField first =
      { handler with parsingValue := false, currentHeader := first } := by
    rcases starts with parsing | empty
    · simp [HttpHandler.onHeaderField, parsing]
    · cases parsing : handler.parsingValue with
      | true => simp [HttpHandler.onHeaderField, parsing]
      | false => simp [HttpHandler.onHeaderField, parsing, empty]
  rw [Header.callbacks, List.foldl_append, List.map_cons, List.foldl_cons, HttpHandler.invoke,
    field, onHeaderField_pieces rest _ rfl, onHeaderValue_pieces, if_neg valued]
  rfl

theorem receive_cons (handler : HttpHandler) (header : Header) (rest : List Header) :
    handler.receive (header :: rest) =
      (header.callbacks.foldl HttpHandler.invoke handler).receive rest := by
  rw [HttpHandler.receive, List.flatMap_cons, List.foldl_append]
  rfl

theorem receive_headers (headers : List Header) : ∀ handler : HttpHandler, handler.NameStarts →
    (handler.receive headers).headers = headers.foldl collect handler.headers := by
  induction headers with
  | nil =>
    intro handler starts
    rfl
  | cons header rest ih =>
    intro handler starts
    rw [receive_cons, callbacks_header header handler starts, ih _ (Or.inl rfl), List.foldl_cons]

/-- The values of the headers whose name is written exactly so, one behind the other. -/
def joinedValue (headers : List Header) (name : List UInt8) : List UInt8 :=
  (headers.filter (·.name = name)).flatMap Header.value

theorem lookup_collect (headers : List Header) (name : List UInt8) :
    ∀ map : AList fun _ : List UInt8 => List UInt8,
    (headers.foldl collect map).lookup name =
      if ∃ header ∈ headers, header.name = name
        then some ((map.lookup name).getD [] ++ joinedValue headers name)
        else map.lookup name := by
  induction headers with
  | nil =>
    intro map
    simp
  | cons header rest ih =>
    intro map
    rw [List.foldl_cons, ih]
    by_cases same : header.name = name
    · subst same
      simp only [collect, AList.lookup_insert, Option.getD_some, List.mem_cons, exists_eq_or_imp,
        true_or, ↓reduceIte, joinedValue, List.filter_cons, decide_true, List.flatMap_cons]
      split
      · simp
      · rename_i absent
        have nothing : rest.filter (fun other => decide (other.name = header.name)) = [] := by
          rw [List.filter_eq_nil_iff]
          intro other inside
          simpa using fun equal => absent ⟨other, inside, equal⟩
        simp [nothing]
    · simp only [collect, AList.lookup_insert_ne (Ne.symm same), List.mem_cons, exists_eq_or_imp,
        same, false_or, joinedValue, List.filter_cons, decide_false, Bool.false_eq_true,
        ↓reduceIte]

/-! ## The search of `HeaderValue` -/

theorem headerValueLoop_some (header : List UInt8) (value : List UInt8) :
    ∀ entries : List (Sigma fun _ : List UInt8 => List UInt8),
    HttpHandler.headerValueLoop header entries (some value) =
      if ∃ entry ∈ entries, stringEqualNoCaseN entry.1 header 0 header.length = true
        then [] else value := by
  intro entries
  induction entries with
  | nil => simp [HttpHandler.headerValueLoop]
  | cons entry rest ih =>
    rw [HttpHandler.headerValueLoop, ih]
    cases found : stringEqualNoCaseN entry.1 header 0 header.length with
    | true => simp [found]
    | false =>
      simp only [Bool.false_eq_true, ↓reduceIte, List.mem_cons, exists_eq_or_imp, found, false_or]

/-- The value of the only entry, and otherwise nothing. -/
def soleValue : List (Sigma fun _ : List UInt8 => List UInt8) → List UInt8
  | [entry] => entry.2
  | _ => []

theorem headerValueLoop_none (header : List UInt8) :
    ∀ entries : List (Sigma fun _ : List UInt8 => List UInt8),
    HttpHandler.headerValueLoop header entries none =
      soleValue (entries.filter fun entry =>
        stringEqualNoCaseN entry.1 header 0 header.length) := by
  intro entries
  induction entries with
  | nil => rfl
  | cons entry rest ih =>
    rw [HttpHandler.headerValueLoop]
    cases found : stringEqualNoCaseN entry.1 header 0 header.length with
    | false => simp [found, ih]
    | true =>
      simp only [↓reduceIte, headerValueLoop_some, List.filter_cons, found]
      cases others : rest.filter fun entry => stringEqualNoCaseN entry.1 header 0 header.length with
      | nil =>
        rw [if_neg, soleValue]
        rintro ⟨other, inside, matched⟩
        exact List.filter_eq_nil_iff.mp others other inside matched
      | cons other more =>
        have inside := List.mem_cons_self (a := other) (l := more)
        rw [← others, List.mem_filter] at inside
        rw [if_pos ⟨other, inside⟩, soleValue]
        simp

section Lookup

variable (headers : List Header) (name : List UInt8)

theorem mem_entries_collect (entry : Sigma fun _ : List UInt8 => List UInt8) :
    entry ∈ (headers.foldl collect ∅).entries ↔
      (∃ header ∈ headers, header.name = entry.1) ∧ entry.2 = joinedValue headers entry.1 := by
  obtain ⟨key, value⟩ := entry
  rw [← AList.mem_lookup_iff, lookup_collect]
  split
  · rename_i present
    simp only [AList.lookup_empty, Option.getD_none, List.nil_append, Option.mem_def,
      Option.some.injEq, present, true_and]
    exact eq_comm
  · rename_i absent
    simp [absent]

/-- The entries that `HeaderValue` stops at. -/
def matchedEntries : List (Sigma fun _ : List UInt8 => List UInt8) :=
  (headers.foldl collect ∅).entries.filter fun entry =>
    stringEqualNoCaseN entry.1 name 0 name.length

theorem mem_matchedEntries (entry : Sigma fun _ : List UInt8 => List UInt8) :
    entry ∈ matchedEntries headers name ↔
      (∃ header ∈ headers, header.isMatched name = true ∧ header.name = entry.1) ∧
        entry.2 = joinedValue headers entry.1 := by
  rw [matchedEntries, List.mem_filter, mem_entries_collect]
  constructor
  · rintro ⟨⟨⟨header, inside, named⟩, value⟩, matched⟩
    exact ⟨⟨header, inside, by rw [Header.isMatched, named]; exact matched, named⟩, value⟩
  · rintro ⟨⟨header, inside, matched, named⟩, value⟩
    rw [Header.isMatched, named] at matched
    exact ⟨⟨⟨header, inside, named⟩, value⟩, matched⟩

theorem header_mem_matchedEntries {header : Header} (inside : header ∈ headers)
    (matched : header.isMatched name = true) :
    ⟨header.name, joinedValue headers header.name⟩ ∈ matchedEntries headers name :=
  (mem_matchedEntries headers name _).mpr ⟨⟨header, inside, matched, rfl⟩, rfl⟩

theorem headerValue_receive (handler : HttpHandler) :
    (handler.fresh.receive headers).headerValue name =
      soleValue (matchedEntries headers name) := by
  rw [HttpHandler.headerValue, headerValueLoop_none, receive_headers headers _ (Or.inr rfl)]
  rfl

/-- Headers that match under two names hide each other. -/
theorem headerValue_twice (handler : HttpHandler) (first second : Header)
    (firstInside : first ∈ headers) (secondInside : second ∈ headers)
    (firstMatched : first.isMatched name = true) (secondMatched : second.isMatched name = true)
    (apart : first.name ≠ second.name) :
    (handler.fresh.receive headers).headerValue name = [] := by
  rw [headerValue_receive]
  have one := header_mem_matchedEntries headers name firstInside firstMatched
  have two := header_mem_matchedEntries headers name secondInside secondMatched
  generalize matchedEntries headers name = found at one two
  rcases found with _ | ⟨entry, _ | ⟨other, rest⟩⟩
  · rfl
  · rw [List.mem_singleton] at one two
    exact absurd (congrArg Sigma.fst (one.trans two.symm)) apart
  · rfl

/-- Headers that all match under one name are found, their values joined. -/
theorem headerValue_once (handler : HttpHandler) (header : Header) (inside : header ∈ headers)
    (matched : header.isMatched name = true)
    (alone : ∀ other ∈ headers, other.isMatched name = true → other.name = header.name) :
    (handler.fresh.receive headers).headerValue name = joinedValue headers header.name := by
  have here := header_mem_matchedEntries headers name inside matched
  have same : ∀ entry ∈ matchedEntries headers name,
      entry = ⟨header.name, joinedValue headers header.name⟩ := by
    intro entry among
    obtain ⟨⟨other, otherInside, otherMatched, named⟩, value⟩ :=
      (mem_matchedEntries headers name entry).mp among
    have key := alone other otherInside otherMatched
    obtain ⟨entryKey, entryValue⟩ := entry
    simp only at named value
    rw [value, ← named, key]
  have nodup : (matchedEntries headers name).Nodup :=
    (headers.foldl collect ∅).nodupKeys.nodup.filter _
  have single : (matchedEntries headers name).length = 1 := by
    have positive := List.length_pos_of_mem here
    have replicated := List.eq_replicate_of_mem same
    rw [replicated, List.nodup_replicate] at nodup
    omega
  rw [headerValue_receive, List.eq_replicate_of_mem same, single]
  rfl

theorem headerValue_unmatched (handler : HttpHandler)
    (unmatched : ∀ header ∈ headers, header.isMatched name = false) :
    (handler.fresh.receive headers).headerValue name = [] := by
  have nothing : matchedEntries headers name = [] := by
    rw [List.eq_nil_iff_forall_not_mem]
    intro entry inside
    obtain ⟨⟨header, among, matched, named⟩, value⟩ :=
      (mem_matchedEntries headers name entry).mp inside
    rw [unmatched header among] at matched
    exact Bool.false_ne_true matched
  rw [headerValue_receive, nothing, soleValue]
  simp

end Lookup

/-! ## The value of the only header of a name -/

theorem stringEqualNoCaseN_of_lower (a b : List UInt8) (same : a.map toLower = b.map toLower) :
    ∀ length i, stringEqualNoCaseN a b i length = true := by
  have chars : ∀ i, toLower (charAt a i) = toLower (charAt b i) := by
    intro i
    have at_i := congrArg (fun text : List UInt8 => text[i]?) same
    simp only [List.getElem?_map] at at_i
    rw [charAt, charAt]
    cases first : a[i]? <;> cases second : b[i]? <;> simp_all
  intro length
  induction length with
  | zero =>
    intro i
    rfl
  | succ length ih =>
    intro i
    rw [stringEqualNoCaseN, if_neg (not_not_intro (chars i)), ih]
    simp

theorem isMatched_of_isNamed {header : Header} {name : List UInt8}
    (named : header.isNamed name = true) : header.isMatched name = true :=
  stringEqualNoCaseN_of_lower _ _ (of_decide_eq_true named) _ _

theorem joinedValue_only {headers : List Header} {name : List UInt8} {header : Header}
    (only : headers.filter (·.isNamed name) = [header]) :
    joinedValue headers header.name = header.value := by
  have named : header.isNamed name = true := by
    have inside := List.mem_singleton_self header
    rw [← only] at inside
    exact (List.mem_filter.mp inside).2
  have filtered : headers.filter (·.name = header.name) =
      (headers.filter (·.isNamed name)).filter (·.name = header.name) := by
    rw [List.filter_filter]
    refine List.filter_congr fun other inside => ?_
    by_cases same : other.name = header.name
    · rw [Header.isNamed] at named
      simp [Header.isNamed, same, of_decide_eq_true named]
    · simp [same]
  rw [joinedValue, filtered, only]
  simp

theorem joinedValue_eq_nil {headers : List Header} {name : List UInt8} {first : Header}
    (matched : first.isMatched name = true)
    (alone : ∀ other ∈ headers, other.isMatched name = true → other.name = first.name) :
    joinedValue headers first.name = [] ↔
      ∀ header ∈ headers, header.isMatched name = true → header.value = [] := by
  rw [joinedValue, List.flatMap_eq_nil_iff]
  constructor
  · intro empty header inside headerMatched
    exact empty header (List.mem_filter.mpr
      ⟨inside, decide_eq_true (alone header inside headerMatched)⟩)
  · intro empty header inside
    obtain ⟨among, same⟩ := List.mem_filter.mp inside
    refine empty header among ?_
    rw [Header.isMatched, of_decide_eq_true same]
    exact matched

theorem headerValue_named_iff (handler : HttpHandler) {headers : List Header} {name : List UInt8}
    {header : Header} (only : headers.filter (·.isNamed name) = [header]) :
    (handler.fresh.receive headers).headerValue name = header.value ↔
      header.value = [] ∨
        ∀ other ∈ headers, other.isMatched name = true → other.isNamed name = true := by
  have among := List.mem_singleton_self header
  rw [← only, List.mem_filter] at among
  obtain ⟨inside, named⟩ := among
  by_cases all : ∀ other ∈ headers, other.isMatched name = true → other.isNamed name = true
  · have alone : ∀ other ∈ headers, other.isMatched name = true → other.name = header.name := by
      intro other otherInside matched
      have found : other ∈ headers.filter (·.isNamed name) :=
        List.mem_filter.mpr ⟨otherInside, all other otherInside matched⟩
      rw [only, List.mem_singleton] at found
      rw [found]
    rw [headerValue_once headers name handler header inside (isMatched_of_isNamed named) alone,
      joinedValue_only only]
    exact iff_of_true rfl (Or.inr all)
  · have ⟨other, otherInside, matched, unnamed⟩ : ∃ other ∈ headers,
        other.isMatched name = true ∧ ¬ other.isNamed name = true := by
      push Not at all
      exact all
    have apart : header.name ≠ other.name := by
      intro same
      rw [Header.isNamed, same] at named
      exact unnamed named
    rw [headerValue_twice headers name handler header other inside otherInside
      (isMatched_of_isNamed named) matched apart, or_iff_left all]
    exact eq_comm

theorem headerValue_empty_iff (handler : HttpHandler) (headers : List Header)
    (name : List UInt8) :
    (handler.fresh.receive headers).headerValue name = [] ↔
      (∃ first ∈ headers, ∃ second ∈ headers, first.isMatched name = true ∧
        second.isMatched name = true ∧ first.name ≠ second.name) ∨
      ∀ header ∈ headers, header.isMatched name = true → header.value = [] := by
  by_cases some : ∃ first ∈ headers, first.isMatched name = true
  · obtain ⟨first, inside, matched⟩ := some
    by_cases alone : ∀ other ∈ headers, other.isMatched name = true → other.name = first.name
    · rw [headerValue_once headers name handler first inside matched alone,
        joinedValue_eq_nil matched alone, or_iff_right]
      rintro ⟨one, oneInside, two, twoInside, oneMatched, twoMatched, apart⟩
      exact apart ((alone one oneInside oneMatched).trans (alone two twoInside twoMatched).symm)
    · push Not at alone
      obtain ⟨other, otherInside, otherMatched, apart⟩ := alone
      refine iff_of_true ?_ (Or.inl ⟨other, otherInside, first, inside, otherMatched, matched,
        apart⟩)
      exact headerValue_twice headers name handler other first otherInside inside otherMatched
        matched apart
  · push Not at some
    refine iff_of_true ?_ (Or.inr fun header inside matched => absurd matched (some header inside))
    refine headerValue_unmatched headers name handler fun header inside => ?_
    exact Bool.eq_false_iff.mpr (some header inside)

/-- `HeaderValue` gives the value of the only header of the name, and nothing for a name
that none or several have, exactly when longer names and repetitions stay out of its way;
for a complete message that is the host it is checked with. -/
theorem headerValue_exact_iff (handler : HttpHandler) (headers : List Header) :
    (∀ name, (handler.fresh.receive headers).headerValue name = onlyValue headers name ↔
      MatchesApart headers name) ∧
    ∀ upgrade isGET,
      ((handler.fresh.receive headers).invoke
        (.onMessageComplete upgrade isGET)).events.getLast?.map HttpEvent.host =
          some (onlyValue headers hostHeader) ↔ MatchesApart headers hostHeader := by
  have exact_iff : ∀ name, (handler.fresh.receive headers).headerValue name =
      onlyValue headers name ↔ MatchesApart headers name := by
    intro name
    rw [onlyValue, MatchesApart]
    split
    · rename_i header only
      exact headerValue_named_iff handler only
    · exact headerValue_empty_iff handler headers name
  refine ⟨exact_iff, fun upgrade isGET => ?_⟩
  rw [← exact_iff hostHeader]
  simp [HttpHandler.invoke, HttpHandler.onMessageComplete]

/-- A second header and a longer name: the two hosts become one, and a header that
begins with the name hides the host. -/
theorem repeated_and_longer_names_mislead :
    let host (value : UInt8) : Header := ⟨[hostHeader], [[value]], by simp, by simp⟩
    let longer : Header := ⟨[hostHeader ++ [0x78]], [[0x62]], by simp, by simp⟩
    let handler : HttpHandler := {}
    onlyValue [host 0x61, host 0x62] hostHeader = [] ∧
      (handler.fresh.receive [host 0x61, host 0x62]).headerValue hostHeader = [0x61, 0x62] ∧
      onlyValue [host 0x61, longer] hostHeader = [0x61] ∧
      (handler.fresh.receive [host 0x61, longer]).headerValue hostHeader = [] ∧
      onlyValue [longer] hostHeader = [] ∧
      (handler.fresh.receive [longer]).headerValue hostHeader = [0x62] := by
  decide

end V8Jsi.InspectorSocket
