import Mathlib.Data.List.TakeWhile
import V8Jsi.HttpHandler

set_option autoImplicit false

/- Which hosts `IsAllowedHost` lets through, against the forms a request may name
without leaving the machine: no host, localhost, and addresses written out. -/
namespace V8Jsi.InspectorSocket

open SocketServer

def isHexDigit (c : UInt8) : Bool :=
  isDigit c || 0x41 ≤ c && c ≤ 0x46 || 0x61 ≤ c && c ≤ 0x66

def decimalValue (digits : List UInt8) : Nat :=
  digits.foldl (fun value c => value * 10 + (c.toNat - 0x30)) 0

/-- A decimal octet, in as many digits as it likes. -/
def isOctet (text : List UInt8) : Bool :=
  !text.isEmpty && text.all isDigit && decimalValue text ≤ 255

def isDottedQuad (host : List UInt8) : Bool :=
  (host.splitOn dot).length = 4 && (host.splitOn dot).all isOctet

/-! ## IPv6 addresses in the text form of RFC 4291 -/

def isGroup (text : List UInt8) : Bool :=
  1 ≤ text.length && text.length ≤ 4 && text.all isHexDigit

/-- The dotted quad at the end of an address has no leading zeros. -/
def isEmbeddedQuad (text : List UInt8) : Bool :=
  isDottedQuad text && (text.splitOn dot).all fun octet => octet.length = 1 || octet.head? ≠ some 0x30

/-- The number of 16-bit groups that the pieces stand for. -/
def groupCount : List (List UInt8) → Option Nat
  | [] => some 0
  | [last] => if isGroup last then some 1 else if isEmbeddedQuad last then some 2 else none
  | piece :: rest => if isGroup piece then (groupCount rest).map (· + 1) else none

def pieces (text : List UInt8) : List (List UInt8) := if text = [] then [] else text.splitOn colon

/-- What stands before and behind the first pair of colons. -/
def splitDoubleColon : List UInt8 → Option (List UInt8 × List UInt8)
  | first :: second :: rest =>
      if first = colon ∧ second = colon then some ([], rest)
      else (splitDoubleColon (second :: rest)).map fun (left, right) => (first :: left, right)
  | [_] | [] => none

/-- Eight groups, or fewer with one pair of colons for those that are zero. -/
def isIPv6 (text : List UInt8) : Bool :=
  match splitDoubleColon text with
  | none => groupCount (pieces text) = some 8
  | some (left, right) =>
      (pieces left).all isGroup &&
        (groupCount (pieces right)).any fun behind => (pieces left).length + behind ≤ 7

example : [[0x3A, 0x3A, 0x31], [0x3A, 0x3A]].all isIPv6 = true := by decide

/-! ## The accepted hosts -/

def AllowedForm (host : List UInt8) : Prop :=
  host = [] ∨ host.map toLower = localhost ∨ host.map toLower = localhost6 ∨
    isDottedQuad host = true ∨
    ∃ address, host = openBracket :: address ++ [closeBracket] ∧ isIPv6 address = true

/-- Brackets around at least two bytes that are no address. -/
def BracketsNoAddress (host : List UInt8) : Prop :=
  ∃ inside, host = openBracket :: inside ++ [closeBracket] ∧ 2 ≤ inside.length ∧
    isIPv6 inside = false

/-- Digits and three dots with an octet that is missing or too large. -/
def CountsNoQuad (host : List UInt8) : Prop :=
  ((∀ c ∈ host, c = dot ∨ isDigit c = true) ∧ host.count dot = 3) ∧
    ∃ octet ∈ host.splitOn dot, octet = [] ∨ 255 < decimalValue octet

/-- The characters before the first zero byte. -/
def cString (text : List UInt8) : List UInt8 := text.takeWhile (· ≠ 0)

/-- A zero byte ends the name localhost. -/
def EndsEarly (host : List UInt8) : Prop :=
  0 ∈ host ∧ ((cString host).map toLower = localhost ∨ (cString host).map toLower = localhost6)

def Misleads (host : List UInt8) : Prop :=
  BracketsNoAddress host ∨ CountsNoQuad host ∨ EndsEarly host

theorem countQuads_iff (host : List UInt8) : ∀ quads,
    countQuads host quads = true ↔
      (∀ c ∈ host, c = dot ∨ isDigit c = true) ∧ host.count dot + quads = 3 := by
  induction host with
  | nil =>
    intro quads
    simp [countQuads]
  | cons c rest ih =>
    intro quads
    by_cases same : c = dot
    · subst same
      rw [countQuads, if_pos rfl, ih]
      simp only [List.mem_cons, forall_eq_or_imp, true_or, true_and, List.count_cons_self]
      constructor
      · rintro ⟨digits, total⟩
        exact ⟨digits, by omega⟩
      · rintro ⟨digits, total⟩
        exact ⟨digits, by omega⟩
    · rw [countQuads, if_neg same]
      cases digit : isDigit c with
      | false => simp [same, digit]
      | true =>
        simp only [Bool.not_true, Bool.false_eq_true, ↓reduceIte, ih, List.mem_cons,
          forall_eq_or_imp, digit, or_true, true_and, List.count_cons_of_ne same]

theorem length_splitOn (host : List UInt8) (separator : UInt8) :
    (host.splitOn separator).length = host.count separator + 1 := by
  induction host with
  | nil => simp
  | cons c rest ih =>
    rw [List.splitOn_cons_eq_if_modifyHead]
    by_cases same : c = separator
    · subst same
      simp [ih]
    · simp [same, ih, List.count_cons_of_ne same]

/-- The pieces hold the characters other than the separator. -/
theorem exists_mem_splitOn {separator c : UInt8} (host : List UInt8) :
    (∃ piece ∈ host.splitOn separator, c ∈ piece) ↔ c ∈ host ∧ c ≠ separator := by
  induction host with
  | nil => simp
  | cons first rest ih =>
    rw [List.splitOn_cons_eq_if_modifyHead]
    by_cases same : first = separator
    · subst same
      rw [if_pos (BEq.refl _), List.exists_mem_cons_iff, ih]
      simp only [List.not_mem_nil, false_or, List.mem_cons]
      constructor
      · exact fun ⟨member, apart⟩ => ⟨.inr member, apart⟩
      · exact fun ⟨member, apart⟩ => ⟨member.resolve_left apart, apart⟩
    · rw [if_neg (by simpa using same)]
      cases tail : rest.splitOn separator with
      | nil => exact absurd tail (List.splitOn_ne_nil _ _)
      | cons head others =>
        rw [tail, List.exists_mem_cons_iff] at ih
        rw [List.modifyHead_cons, List.exists_mem_cons_iff, List.mem_cons, or_assoc, ih,
          List.mem_cons, or_and_right]
        constructor
        · rintro (rfl | member)
          · exact .inl ⟨rfl, same⟩
          · exact .inr member
        · rintro (⟨rfl, -⟩ | member)
          · exact .inl rfl
          · exact .inr member

/-- The loop over the characters misses that an octet is missing or too large. -/
theorem isDottedQuad_iff (host : List UInt8) :
    isDottedQuad host = true ↔ countQuads host 0 = true ∧
      ∀ octet ∈ host.splitOn dot, octet ≠ [] ∧ decimalValue octet ≤ 255 := by
  have digital : (∀ octet ∈ host.splitOn dot, ∀ c ∈ octet, isDigit c = true) ↔
      ∀ c ∈ host, c = dot ∨ isDigit c = true := by
    constructor
    · intro octets c inside
      by_cases same : c = dot
      · exact .inl same
      · obtain ⟨octet, split, member⟩ := (exists_mem_splitOn host).mpr ⟨inside, same⟩
        exact .inr (octets octet split c member)
    · intro digits octet split c member
      obtain ⟨inside, apart⟩ := (exists_mem_splitOn host).mp ⟨octet, split, member⟩
      exact (digits c inside).resolve_left apart
  rw [countQuads_iff, ← digital]
  simp only [isDottedQuad, length_splitOn, isOctet, Bool.and_eq_true, decide_eq_true_eq,
    List.all_eq_true, Bool.not_eq_true', List.isEmpty_eq_false_iff]
  constructor
  · rintro ⟨four, octets⟩
    refine ⟨⟨fun octet split => (octets octet split).1.2, by omega⟩, fun octet split => ?_⟩
    exact ⟨(octets octet split).1.1, (octets octet split).2⟩
  · rintro ⟨⟨digits, dots⟩, octets⟩
    refine ⟨by omega, fun octet split => ?_⟩
    exact ⟨⟨(octets octet split).1, digits octet split⟩, (octets octet split).2⟩

theorem charAt_zero {text : List UInt8} (proper : 0 ∉ text) : charAt text 0 = 0 ↔ text = [] := by
  cases text with
  | nil => simp [charAt]
  | cons c rest =>
    have apart : c ≠ 0 := by
      rintro rfl
      exact proper List.mem_cons_self
    simp [charAt, apart]

theorem cString_cons_of_ne {c : UInt8} (apart : c ≠ 0) (rest : List UInt8) :
    cString (c :: rest) = c :: cString rest := by
  simp [cString, apart]

/-- The comparison sees its first argument up to the first zero byte. -/
theorem stringEqualNoCase_iff (a : List UInt8) : ∀ b : List UInt8, 0 ∉ b →
    (stringEqualNoCase a b = true ↔ (cString a).map toLower = b.map toLower) := by
  induction a with
  | nil =>
    intro b proper
    unfold stringEqualNoCase
    rw [beq_iff_eq, charAt_zero proper]
    exact ⟨fun empty => by rw [empty]; rfl, fun same => List.map_eq_nil_iff.mp same.symm⟩
  | cons c rest ih =>
    intro b proper
    unfold stringEqualNoCase
    by_cases zero : c = 0
    · subst zero
      rw [if_pos rfl, beq_iff_eq, charAt_zero proper]
      exact ⟨fun empty => by rw [empty]; rfl, fun same => List.map_eq_nil_iff.mp same.symm⟩
    · rw [if_neg zero, cString_cons_of_ne zero, List.map_cons]
      cases b with
      | nil => simp
      | cons d others =>
        rw [List.mem_cons, not_or] at proper
        simp only [ne_eq, Ne.symm proper.1, not_false_eq_true, decide_true, Bool.true_and,
          Bool.and_eq_true, beq_iff_eq, ih others proper.2, List.map_cons, List.cons.injEq]

theorem cString_eq_self {text : List UInt8} (proper : 0 ∉ text) : cString text = text := by
  apply List.takeWhile_eq_self_iff.mpr
  intro c inside
  have apart : c ≠ 0 := by
    rintro rfl
    exact proper inside
  simpa using apart

theorem zero_not_mem_map_toLower {text : List UInt8} (proper : 0 ∉ text.map toLower) : 0 ∉ text := by
  intro zero
  exact proper (List.mem_map.mpr ⟨0, zero, rfl⟩)

/-! ## The check -/

theorem not_mem_localhost : (0 : UInt8) ∉ localhost ∧ (0 : UInt8) ∉ localhost6 := by
  decide

/-- The two comparisons, for a host with or without a zero byte. -/
theorem isLocalhost_iff (host : List UInt8) :
    (stringEqualNoCase host localhost || stringEqualNoCase host localhost6) = true ↔
      (host.map toLower = localhost ∨ host.map toLower = localhost6) ∨ EndsEarly host := by
  have lowered : localhost.map toLower = localhost ∧ localhost6.map toLower = localhost6 := by
    decide
  rw [Bool.or_eq_true, stringEqualNoCase_iff host _ not_mem_localhost.1,
    stringEqualNoCase_iff host _ not_mem_localhost.2, lowered.1, lowered.2]
  by_cases zero : 0 ∈ host
  · have apart : ∀ name : List UInt8, 0 ∉ name → host.map toLower ≠ name := by
      rintro name proper rfl
      exact zero_not_mem_map_toLower proper zero
    simp only [apart _ not_mem_localhost.1, apart _ not_mem_localhost.2, or_self, false_or,
      EndsEarly, zero, true_and]
  · simp only [cString_eq_self zero, EndsEarly, zero, false_and, or_false]

theorem isIPAddress_iff (host : List UInt8) :
    isIPAddress host = true ↔
      (∃ inside, host = openBracket :: inside ++ [closeBracket] ∧ 2 ≤ inside.length) ∨
        countQuads host 0 = true := by
  have brackets : (host.length ≥ 4 ∧ host.head? = some openBracket ∧
      host.getLast? = some closeBracket) ↔
      ∃ inside, host = openBracket :: inside ++ [closeBracket] ∧ 2 ≤ inside.length := by
    constructor
    · rintro ⟨long, first, last⟩
      obtain ⟨tail, rfl⟩ := List.head?_eq_some_iff.mp first
      obtain ⟨front, split⟩ := List.getLast?_eq_some_iff.mp last
      cases front with
      | nil =>
        obtain ⟨-, rfl⟩ := List.cons.inj split
        simp at long
      | cons head inside =>
        obtain ⟨-, tail_eq⟩ := List.cons.inj split
        rw [List.append_eq, eq_comm] at tail_eq
        subst tail_eq
        refine ⟨inside, rfl, ?_⟩
        simp only [List.length_cons, List.length_append, List.length_nil] at long
        omega
    · rintro ⟨inside, rfl, long⟩
      refine ⟨?_, rfl, List.getLast?_concat ..⟩
      simp only [List.length_append, List.length_cons, List.length_nil]
      omega
  unfold isIPAddress
  split
  · rename_i bracketed
    exact ⟨fun _ => .inl (brackets.mp bracketed), fun _ => rfl⟩
  · rename_i bare
    exact ⟨.inr, fun accepted => accepted.resolve_left (mt brackets.mpr bare)⟩

theorem groupCount_le (texts : List (List UInt8)) :
    ∀ groups, groupCount texts = some groups → groups ≤ texts.length + 1 := by
  fun_induction groupCount texts with
  | case1 => simp
  | case2 last group => simp
  | case3 last _ quad => simp
  | case4 => simp
  | case5 piece rest _ group ih =>
    intro groups counted
    obtain ⟨behind, rest, rfl⟩ := Option.map_eq_some_iff.mp counted
    have := ih behind rest
    rw [List.length_cons]
    omega
  | case6 => simp

theorem splitDoubleColon_length (text : List UInt8) :
    ∀ parts, splitDoubleColon text = some parts → 2 ≤ text.length := by
  fun_cases splitDoubleColon text with
  | case1 => simp
  | case2 => simp
  | case3 => simp
  | case4 => simp

/-- An address has at least two characters. -/
theorem isIPv6_length {text : List UInt8} (address : isIPv6 text = true) : 2 ≤ text.length := by
  unfold isIPv6 at address
  split at address
  · rw [decide_eq_true_eq] at address
    have pieced := groupCount_le _ _ address
    unfold pieces at pieced
    split at pieced
    · simp at pieced
    · rw [length_splitOn] at pieced
      have := List.count_le_length (a := colon) (l := text)
      omega
  · rename_i parts split
    exact splitDoubleColon_length text _ split

theorem countsNoQuad_iff (host : List UInt8) :
    CountsNoQuad host ↔ countQuads host 0 = true ∧ isDottedQuad host = false := by
  rw [Bool.eq_false_iff, ne_eq, isDottedQuad_iff, not_and, CountsNoQuad, countQuads_iff]
  simp only [Nat.add_zero, not_forall, Nat.not_le, not_and_or, not_not, exists_prop]
  constructor
  · exact fun ⟨counted, bad⟩ => ⟨counted, fun _ => bad⟩
  · exact fun ⟨counted, bad⟩ => ⟨counted, bad counted⟩

/-- The accepted hosts are those of the allowed forms and the misleading ones. -/
theorem isAllowedHost_iff (hostWithPort : List UInt8) :
    isAllowedHost hostWithPort = true ↔
      AllowedForm (trimPort hostWithPort) ∨ Misleads (trimPort hostWithPort) := by
  simp only [isAllowedHost]
  generalize trimPort hostWithPort = host
  rw [Bool.or_assoc, Bool.or_eq_true, isLocalhost_iff, Bool.or_eq_true, isIPAddress_iff,
    List.isEmpty_iff]
  unfold AllowedForm Misleads
  rw [countsNoQuad_iff]
  constructor
  · rintro ((empty | ⟨inside, rfl, long⟩ | counted) | (lower | lower) | early)
    · exact .inl (.inl empty)
    · cases address : isIPv6 inside with
      | true => exact .inl (.inr (.inr (.inr (.inr ⟨inside, rfl, address⟩))))
      | false => exact .inr (.inl ⟨inside, rfl, long, address⟩)
    · cases quad : isDottedQuad host with
      | true => exact .inl (.inr (.inr (.inr (.inl rfl))))
      | false => exact .inr (.inr (.inl ⟨counted, rfl⟩))
    · exact .inl (.inr (.inl lower))
    · exact .inl (.inr (.inr (.inl lower)))
    · exact .inr (.inr (.inr early))
  · rintro ((empty | lower | lower | quad | ⟨address, rfl, valid⟩) |
      ⟨inside, rfl, long, -⟩ | ⟨counted, -⟩ | early)
    · exact .inl (.inl empty)
    · exact .inr (.inl (.inl lower))
    · exact .inr (.inl (.inr lower))
    · exact .inl (.inr (.inr ((isDottedQuad_iff host).mp quad).1))
    · exact .inl (.inr (.inl ⟨address, rfl, isIPv6_length valid⟩))
    · exact .inl (.inr (.inl ⟨inside, rfl, long⟩))
    · exact .inl (.inr (.inr counted))
    · exact .inr (.inr early)

theorem first_of_localhost {name : List UInt8}
    (lower : name.map toLower = localhost ∨ name.map toLower = localhost6) :
    ∃ first rest, name = first :: rest ∧ toLower first = 0x6C := by
  cases name with
  | nil => rcases lower with lower | lower <;> cases lower
  | cons first rest =>
    refine ⟨first, rest, rfl, ?_⟩
    rcases lower with lower | lower
    · exact (List.cons.inj lower).1
    · exact (List.cons.inj lower).1

theorem toLower_numeric {c : UInt8} (numeric : c = dot ∨ isDigit c = true) : toLower c = c := by
  rcases numeric with rfl | digit
  · rfl
  · simp only [isDigit, Bool.and_eq_true, decide_eq_true_eq] at digit
    have high := UInt8.le_iff_toNat_le.mp digit.2
    change c.toNat ≤ 0x39 at high
    unfold toLower
    rw [if_neg]
    rintro ⟨low, -⟩
    have low := UInt8.le_iff_toNat_le.mp low
    change 0x41 ≤ c.toNat at low
    omega

theorem BracketsNoAddress.not_allowed {host : List UInt8} (brackets : BracketsNoAddress host) :
    ¬ AllowedForm host := by
  obtain ⟨inside, rfl, -, invalid⟩ := brackets
  rintro (empty | lower | lower | quad | ⟨address, same, valid⟩)
  · cases empty
  · cases (List.cons.inj lower).1
  · cases (List.cons.inj lower).1
  · obtain ⟨counted, -⟩ := (isDottedQuad_iff _).mp quad
    have numeric := ((countQuads_iff _ 0).mp counted).1 openBracket List.mem_cons_self
    simp [openBracket, dot, isDigit] at numeric
  · obtain ⟨rfl, -⟩ := List.append_inj' (List.cons.inj same).2 rfl
    cases invalid.symm.trans valid

theorem CountsNoQuad.not_allowed {host : List UInt8} (counts : CountsNoQuad host) :
    ¬ AllowedForm host := by
  obtain ⟨counted, quadless⟩ := (countsNoQuad_iff host).mp counts
  have digits := counts.1.1
  have named : ¬ (host.map toLower = localhost ∨ host.map toLower = localhost6) := by
    intro lower
    obtain ⟨first, rest, rfl, low⟩ := first_of_localhost lower
    have numeric := digits first List.mem_cons_self
    rw [toLower_numeric numeric] at low
    subst low
    simp [dot, isDigit] at numeric
  rintro (rfl | lower | lower | quad | ⟨address, rfl, -⟩)
  · cases counted
  · exact named (.inl lower)
  · exact named (.inr lower)
  · cases quadless.symm.trans quad
  · have numeric := digits openBracket List.mem_cons_self
    simp [openBracket, dot, isDigit] at numeric

theorem EndsEarly.not_allowed {host : List UInt8} (early : EndsEarly host) :
    ¬ AllowedForm host := by
  obtain ⟨zero, lower⟩ := early
  have zeroed : (0 : UInt8) ∈ host.map toLower := List.mem_map.mpr ⟨0, zero, rfl⟩
  rintro (rfl | same | same | quad | ⟨address, rfl, -⟩)
  · cases zero
  · rw [same] at zeroed
    exact not_mem_localhost.1 zeroed
  · rw [same] at zeroed
    exact not_mem_localhost.2 zeroed
  · obtain ⟨counted, -⟩ := (isDottedQuad_iff _).mp quad
    have numeric := ((countQuads_iff _ 0).mp counted).1 0 zero
    simp [dot, isDigit] at numeric
  · obtain ⟨first, rest, same, low⟩ := first_of_localhost lower
    rw [List.cons_append, cString_cons_of_ne (by decide)] at same
    rw [← (List.cons.inj same).1] at low
    cases low

theorem Misleads.not_allowed {host : List UInt8} (misleads : Misleads host) :
    ¬ AllowedForm host := by
  rcases misleads with brackets | counts | early
  · exact brackets.not_allowed
  · exact counts.not_allowed
  · exact early.not_allowed

/-- Only addresses of this machine and addresses written out are let through, except
for the misleading hosts, which are all let through. -/
theorem allowedHost_form_iff (hostWithPort : List UInt8) :
    (isAllowedHost hostWithPort = true → AllowedForm (trimPort hostWithPort)) ↔
      ¬ Misleads (trimPort hostWithPort) := by
  rw [isAllowedHost_iff]
  constructor
  · intro accepted misleads
    exact misleads.not_allowed (accepted (.inr misleads))
  · intro honest accepted
    exact accepted.resolve_right honest

/-- "..." and "[no]" are let through. -/
theorem dots_and_brackets_allowed :
    (isAllowedHost [dot, dot, dot] = true ∧ ¬ AllowedForm (trimPort [dot, dot, dot])) ∧
      isAllowedHost [openBracket, 0x6E, 0x6F, closeBracket] = true ∧
        ¬ AllowedForm (trimPort [openBracket, 0x6E, 0x6F, closeBracket]) := by
  refine ⟨⟨by decide, ?_⟩, by decide, ?_⟩
  · exact CountsNoQuad.not_allowed ((countsNoQuad_iff _).mpr (by decide))
  · exact BracketsNoAddress.not_allowed ⟨[0x6E, 0x6F], by decide, by decide, by decide⟩

end V8Jsi.InspectorSocket
