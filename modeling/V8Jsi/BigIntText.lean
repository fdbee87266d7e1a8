import Mathlib.Data.Nat.Digits.Lemmas
import V8Jsi.Lib.Outcome

set_option autoImplicit false

/- bigintToString of src/V8JsiRuntime.cpp and of
src/node-api-jsi/NodeApiJsiRuntime.cpp, which repeat one division loop. The
32-bit halves of the words are written in place, and an access outside the array
of words has no defined result. -/
namespace V8Jsi.BigIntText

/-- A BigInt as V8 gives it out: its words stand least significant first, and the
last of them is not zero. -/
structure BigInt where
  signBit : Bool
  words : List UInt64
  normalised : words.getLast? ≠ some 0

def wordsValue (words : List UInt64) : Nat := Nat.ofDigits (2 ^ 64) (words.map UInt64.toNat)

def BigInt.magnitude (value : BigInt) : Nat := wordsValue value.words

/-- The exception an invalid radix leads to. -/
inductive Thrown
  | jsiNativeException (message : String)
  | jsError (message : String)
  deriving DecidableEq, Repr

inductive Failure
  | thrown (error : Thrown)
  | readOutside (index : Nat)
  | writeOutside (index : Nat)
  deriving DecidableEq, Repr

def hi32 (value : UInt64) : UInt32 := (value >>> 32).toUInt32

def lo32 (value : UInt64) : UInt32 := value.toUInt32

def make64 (high low : UInt32) : UInt64 := (high.toUInt64 <<< 32) ||| low.toUInt64

def readHalf (halfWords : List UInt32) (index : Nat) : Except Failure UInt32 :=
  match halfWords[index]? with
  | some half => .ok half
  | none => .error (.readOutside index)

def writeHalf (halfWords : List UInt32) (index : Nat) (half : UInt32) :
    Except Failure (List UInt32) :=
  if index < halfWords.length then .ok (halfWords.set index half)
  else .error (.writeOutside index)

/-- The array of words: eight on the stack, or as many as there are on the heap. -/
def wordsArray (words : List UInt64) : List UInt64 :=
  if words.length > 8 then words else words ++ List.replicate (8 - words.length) 0

/-- The words read as pairs of halves, as a little-endian machine has them. -/
def halvesOf (words : List UInt64) : List UInt32 := words.flatMap fun word => [lo32 word, hi32 word]

/-- The variables of the division loop. -/
structure Division where
  halfWords : List UInt32
  count : Nat
  remainder : UInt32 := 0
  word0 : UInt64
  deriving DecidableEq, Repr

/-- Leading zero halves are not counted; both loop variables of the source go
down together. -/
def trimmedCount (halfWords : List UInt32) : Nat → Nat
  | 0 => 0
  | count + 1 => if halfWords[count]?.getD 0 = 0 then trimmedCount halfWords count else count + 1

def firstWord (halfWords : List UInt32) : UInt64 :=
  make64 (halfWords[1]?.getD 0) (halfWords[0]?.getD 0)

/-- The bookkeeping when the quotient of the half at `i` is zero. -/
def dropTop (i : Nat) (division : Division) : Division :=
  if i = division.count then
    if division.count - 1 = 2 then
      { division with count := 2, word0 := firstWord division.halfWords }
    else { division with count := division.count - 1 }
  else division

/-- The body of the inner loop. The quotient goes to `i`, one above the half it
was computed from. -/
def divideHalf (divisor : UInt32) (i : Nat) (division : Division) : Except Failure Division := do
  let half ← readHalf division.halfWords (i - 1)
  let partialDividend := make64 division.remainder half
  if partialDividend = 0 then
    let halfWords ← writeHalf division.halfWords i 0
    return dropTop i { division with halfWords, remainder := 0 }
  else if partialDividend < divisor.toUInt64 then
    let halfWords ← writeHalf division.halfWords i 0
    return dropTop i { division with halfWords, remainder := lo32 partialDividend }
  else if partialDividend = divisor.toUInt64 then
    let halfWords ← writeHalf division.halfWords i 1
    return { division with halfWords, remainder := 0 }
  else
    let halfWords ← writeHalf division.halfWords i (lo32 (partialDividend / divisor.toUInt64))
    return { division with halfWords, remainder := lo32 (partialDividend % divisor.toUInt64) }

/-- The inner loop, from `i` down to 1. -/
def divideHalves (divisor : UInt32) : Nat → Division → Except Failure Division
  | 0, division => .ok division
  | i + 1, division => do divideHalves divisor i (← divideHalf divisor (i + 1) division)

def divide (divisor : UInt32) (division : Division) : Except Failure Division :=
  if division.count ≤ 2 then
    .ok { division with
          remainder := lo32 (division.word0 % divisor.toUInt64)
          word0 := division.word0 / divisor.toUInt64 }
  else divideHalves divisor division.count division

def digitChar (remainder : UInt32) : Char :=
  if remainder < 10 then Char.ofNat ('0'.toNat + remainder.toNat)
  else Char.ofNat ('a'.toNat + remainder.toNat - 10)

/-- The outer loop, for at most `fuel` digits. -/
def digitLoop (divisor : UInt32) :
    Nat → Division → List Char → Option (Except Failure (List Char))
  | 0, _, _ => none
  | fuel + 1, division, digits =>
      match divide divisor division with
      | .error failure => some (.error failure)
      | .ok division =>
          if division.count > 2 ∨ division.word0 ≠ 0 then
            digitLoop divisor fuel division (digits ++ [digitChar division.remainder])
          else some (.ok (digits ++ [digitChar division.remainder]))

def Division.start (words : List UInt64) : Division :=
  { halfWords := halvesOf (wordsArray words)
    count := trimmedCount (halvesOf (wordsArray words)) (words.length * 2)
    word0 := firstWord (halvesOf (wordsArray words)) }

/-- The text both functions return; they differ in the exception. -/
def bigintText (invalid : String → Thrown) (value : BigInt) (radix : Int) (fuel : Nat) :
    Option (Except Failure (List Char)) :=
  if radix < 2 ∨ radix > 36 then
    some (.error (.thrown (invalid ("Invalid radix " ++ toString radix ++ " to BigInt.toString"))))
  else if value.words.length = 0 then some (.ok ['0'])
  else
    (digitLoop (UInt32.ofNat radix.toNat) fuel (.start value.words) []).map fun outcome =>
      outcome.map fun digits =>
        (if value.signBit then digits ++ ['-'] else digits).reverse

def V8Runtime.bigintToString (value : BigInt) (radix : Int) (fuel : Nat) :
    Option (Except Failure (List Char)) :=
  bigintText .jsiNativeException value radix fuel

def NodeApiJsiRuntime.bigintToString (value : BigInt) (radix : Int) (fuel : Nat) :
    Option (Except Failure (List Char)) :=
  bigintText .jsError value radix fuel

/-! ## The digits of a number -/

def symbols : List Char :=
  ['0', '1', '2', '3', '4', '5', '6', '7', '8', '9', 'a', 'b', 'c', 'd', 'e', 'f', 'g', 'h', 'i',
    'j', 'k', 'l', 'm', 'n', 'o', 'p', 'q', 'r', 's', 't', 'u', 'v', 'w', 'x', 'y', 'z']

def symbol (digit : Nat) : Char := symbols[digit]?.getD '?'

/-- The number written in the radix, most significant digit first. -/
def written (value : BigInt) (radix : Nat) : List Char :=
  if value.magnitude = 0 then ['0']
  else
    (if value.signBit then ['-'] else []) ++
      ((Nat.digits radix value.magnitude).map symbol).reverse

/-- Whatever is returned is the number written in the radix, in both runtimes. -/
def TextRight (value : BigInt) (radix : Nat) : Prop :=
  (∀ fuel text, V8Runtime.bigintToString value radix fuel = some (.ok text) →
    text = written value radix) ∧
  ∀ fuel text, V8Runtime.bigintToString value radix fuel = some (.ok text) ↔
    NodeApiJsiRuntime.bigintToString value radix fuel = some (.ok text)

/-! ## Halves and words -/

theorem make64_toNat (high low : UInt32) :
    (make64 high low).toNat = high.toNat * 2 ^ 32 + low.toNat := by
  have highBound : high.toNat < 2 ^ 32 := high.toNat_lt
  have lowBound : low.toNat < 2 ^ 32 := low.toNat_lt
  have joined := Nat.shiftLeft_add_eq_or_of_lt lowBound high.toNat
  rw [Nat.shiftLeft_eq] at joined
  simp only [make64, UInt64.toNat_or, UInt64.toNat_shiftLeft, UInt32.toNat_toUInt64,
    UInt64.reduceToNat, Nat.reduceMod, Nat.shiftLeft_eq]
  rw [Nat.mod_eq_of_lt (by omega), joined]

theorem lo32_toNat (value : UInt64) : (lo32 value).toNat = value.toNat % 2 ^ 32 := by
  simp only [lo32, UInt64.toNat_toUInt32]

theorem hi32_toNat (value : UInt64) : (hi32 value).toNat = value.toNat / 2 ^ 32 := by
  have bound : value.toNat < 2 ^ 64 := value.toNat_lt
  simp only [hi32, UInt64.toNat_toUInt32, UInt64.toNat_shiftRight, UInt64.reduceToNat,
    Nat.reduceMod, Nat.shiftRight_eq_div_pow]
  omega

theorem make64_halves (word : UInt64) : make64 (hi32 word) (lo32 word) = word := by
  apply UInt64.toNat_inj.mp
  rw [make64_toNat, hi32_toNat, lo32_toNat]
  omega

theorem trimmedCount_le (halfWords : List UInt32) (count : Nat) :
    trimmedCount halfWords count ≤ count := by
  induction count with
  | zero => exact Nat.le_refl 0
  | succ count ih =>
    unfold trimmedCount
    split
    · omega
    · exact Nat.le_refl _

/-! ## The outer loop -/

theorem digitLoop_more {divisor : UInt32} {outcome : Except Failure (List Char)} (more : Nat) :
    ∀ fuel division digits, digitLoop divisor fuel division digits = some outcome →
      digitLoop divisor (fuel + more) division digits = some outcome := by
  intro fuel
  induction fuel with
  | zero => intro division digits ends; cases ends
  | succ fuel ih =>
    intro division digits ends
    rw [Nat.add_right_comm]
    unfold digitLoop at ends ⊢
    cases divided : divide divisor division with
    | error failure =>
      rw [divided] at ends
      exact ends
    | ok next =>
      rw [divided] at ends
      by_cases again : next.count > 2 ∨ next.word0 ≠ 0
      · simp only [again, ↓reduceIte] at ends ⊢
        exact ih next _ ends
      · simp only [again, ↓reduceIte] at ends ⊢
        exact ends

/-- A loop that ends has one outcome. -/
theorem digitLoop_unique {divisor : UInt32} {first second : Except Failure (List Char)}
    {fuel fuel' : Nat} {division : Division} {digits : List Char}
    (one : digitLoop divisor fuel division digits = some first)
    (other : digitLoop divisor fuel' division digits = some second) : first = second := by
  have long := digitLoop_more fuel' fuel division digits one
  rw [Nat.add_comm, digitLoop_more fuel fuel' division digits other] at long
  exact (Option.some.inj long).symm

/-- The radix the loop divides by. -/
structure Divisor (radix : Nat) (divisor : UInt32) : Prop where
  value : divisor.toNat = radix
  least : 2 ≤ radix
  most : radix ≤ 36

theorem digitChar_symbol : ∀ digit < 36, digitChar (UInt32.ofNat digit) = symbol digit := by
  decide

theorem digitChar_of_toNat {remainder : UInt32} {digit : Nat} (value : remainder.toNat = digit)
    (small : digit < 36) : digitChar remainder = symbol digit := by
  rw [← digitChar_symbol digit small, ← value, UInt32.ofNat_toNat]

section

variable {radix : Nat} {divisor : UInt32}

theorem Divisor.wide (known : Divisor radix divisor) : divisor.toUInt64.toNat = radix := by
  rw [UInt32.toNat_toUInt64, known.value]

/-- Once at most two halves are left, the loop divides the single word: it writes
the digits of that word, lowest first. -/
theorem digitLoop_single (known : Divisor radix divisor) (number : Nat) :
    ∀ division digits, division.count ≤ 2 → division.word0.toNat = number → number ≠ 0 →
      digitLoop divisor (Nat.digits radix number).length division digits =
        some (.ok (digits ++ (Nat.digits radix number).map symbol)) := by
  have least := known.least
  have most := known.most
  -- each round divides the number, so the induction is on its value
  induction number using Nat.strongRecOn with
  | ind number ih =>
    intro division digits single value nonzero
    have smaller : number / radix < number :=
      Nat.div_lt_self (Nat.pos_of_ne_zero nonzero) (by omega)
    have digit : (lo32 (division.word0 % divisor.toUInt64)).toNat = number % radix := by
      have bound := Nat.mod_lt number (show 0 < radix by omega)
      rw [lo32_toNat, UInt64.toNat_mod, known.wide, value]
      omega
    have quotient : (division.word0 / divisor.toUInt64).toNat = number / radix := by
      rw [UInt64.toNat_div, known.wide, value]
    have char := digitChar_of_toNat digit
      (Nat.lt_of_lt_of_le (Nat.mod_lt number (by omega)) most)
    have positive := Nat.pos_of_ne_zero nonzero
    rw [Nat.digits_def' (by omega) positive]
    simp only [List.length_cons, digitLoop, divide, single, ↓reduceIte, char, List.map_cons]
    by_cases rest : number / radix = 0
    · have stops : division.word0 / divisor.toUInt64 = 0 :=
        UInt64.toNat_inj.mp (quotient.trans rest)
      have few : ¬ division.count > 2 := by omega
      simp only [stops, few, rest, ne_eq, not_true_eq_false, or_self, ↓reduceIte,
        Nat.digits_zero, List.map_nil]
    · have goesOn : division.word0 / divisor.toUInt64 ≠ 0 := by
        intro stops
        rw [stops] at quotient
        exact rest quotient.symm
      simp only [goesOn, ne_eq, not_false_eq_true, or_true, ↓reduceIte]
      let next : Division :=
        { division with
          remainder := lo32 (division.word0 % divisor.toUInt64)
          word0 := division.word0 / divisor.toUInt64 }
      have goes := ih _ smaller next (digits ++ [symbol (number % radix)]) single quotient rest
      rw [List.append_assoc, List.singleton_append] at goes
      exact goes

/-- One step of the inner loop below the top, or at the top when the quotient is
not zero, leaves the remainder of the partial dividend. -/
theorem divideHalf_remainder (known : Divisor radix divisor) {i : Nat} {division : Division}
    {half : UInt32} (read : division.halfWords[i - 1]? = some half)
    (inside : i < division.halfWords.length)
    (keeps : i ≠ division.count ∨ radix ≤ division.remainder.toNat * 2 ^ 32 + half.toNat) :
    ∃ quotient remainder, divideHalf divisor i division =
        .ok { division with halfWords := division.halfWords.set i quotient, remainder } ∧
      remainder.toNat = (division.remainder.toNat * 2 ^ 32 + half.toNat) % radix := by
  have least := known.least
  have most := known.most
  have wide := known.wide
  have dividend := make64_toNat division.remainder half
  have reads : readHalf division.halfWords (i - 1) = .ok half := by simp only [readHalf, read]
  have writes : ∀ quotient, writeHalf division.halfWords i quotient =
      .ok (division.halfWords.set i quotient) := by
    intro quotient
    simp only [writeHalf, inside, ↓reduceIte]
  have kept : ∀ remainder halfWords,
      division.remainder.toNat * 2 ^ 32 + half.toNat < radix →
        dropTop i { division with halfWords, remainder } = { division with halfWords, remainder } := by
    intro remainder halfWords small
    have below : i ≠ division.count := by
      apply keeps.resolve_right
      omega
    simp only [dropTop, below, ↓reduceIte]
  simp only [divideHalf, reads, writes, Outcome.ok_bind, Outcome.pure_ok]
  by_cases zero : make64 division.remainder half = 0
  · have none : division.remainder.toNat * 2 ^ 32 + half.toNat = 0 := by
      rw [← dividend, zero]
      rfl
    refine ⟨0, 0, ?_, ?_⟩
    · simp only [zero, ↓reduceIte, kept _ _ (by omega : _ < radix)]
    · rw [none, Nat.zero_mod]
      rfl
  · simp only [zero, ↓reduceIte]
    by_cases small : make64 division.remainder half < divisor.toUInt64
    · have below : division.remainder.toNat * 2 ^ 32 + half.toNat < radix := by
        rw [← dividend, ← wide]
        exact UInt64.lt_iff_toNat_lt.mp small
      refine ⟨0, lo32 (make64 division.remainder half), ?_, ?_⟩
      · simp only [small, ↓reduceIte, kept _ _ below]
      · rw [lo32_toNat, dividend, Nat.mod_eq_of_lt below]
        omega
    · simp only [small, ↓reduceIte]
      by_cases exactly : make64 division.remainder half = divisor.toUInt64
      · refine ⟨1, 0, ?_, ?_⟩
        · simp only [exactly, ↓reduceIte]
        · rw [← dividend, exactly, wide, Nat.mod_self]
          rfl
      · refine ⟨lo32 (make64 division.remainder half / divisor.toUInt64),
          lo32 (make64 division.remainder half % divisor.toUInt64), ?_, ?_⟩
        · simp only [exactly, ↓reduceIte]
        · have bound := Nat.mod_lt (division.remainder.toNat * 2 ^ 32 + half.toNat)
            (show 0 < radix by omega)
          rw [lo32_toNat, UInt64.toNat_mod, wide, dividend]
          omega

/-- A top half below the radix is dropped, and the single word is taken from the
array as it is then. -/
theorem divideHalf_top (known : Divisor radix divisor) {division : Division} {half : UInt32}
    (three : division.count = 3) (fresh : division.remainder = 0)
    (read : division.halfWords[2]? = some half) (inside : 3 < division.halfWords.length)
    (positive : half ≠ 0) (small : half.toNat < radix) :
    divideHalf divisor 3 division =
      .ok { halfWords := division.halfWords.set 3 0, count := 2, remainder := half
            word0 := firstWord (division.halfWords.set 3 0) } := by
  have wide := known.wide
  have dividend : make64 0 half = half.toUInt64 := by
    apply UInt64.toNat_inj.mp
    rw [make64_toNat, UInt32.toNat_toUInt64]
    exact Nat.zero_add _
  have nonzero : half.toUInt64 ≠ 0 := by
    intro zero
    apply positive
    apply UInt32.toNat_inj.mp
    rw [← UInt32.toNat_toUInt64, zero]
    rfl
  have below : half.toUInt64 < divisor.toUInt64 := by
    apply UInt64.lt_iff_toNat_lt.mpr
    rw [wide, UInt32.toNat_toUInt64]
    exact small
  have narrow : lo32 half.toUInt64 = half := UInt32.toUInt32_toUInt64 half
  simp only [divideHalf, readHalf, read, writeHalf, inside, fresh, dividend, nonzero, below,
    narrow, three, dropTop, Outcome.ok_bind, Outcome.pure_ok, ↓reduceIte]

end

/-! ## Numbers of at most two words -/

theorem start_single (word : UInt64) :
    (Division.start [word]).count ≤ 2 ∧ (Division.start [word]).word0 = word := by
  refine ⟨?_, make64_halves word⟩
  exact trimmedCount_le _ 2

/-- Two words of which the upper one fits a half: three halves are counted. -/
theorem start_three (word0 word1 : UInt64) (positive : word1 ≠ 0) (small : word1.toNat < 2 ^ 32) :
    Division.start [word0, word1] =
      { halfWords := [lo32 word0, hi32 word0, lo32 word1, hi32 word1] ++ List.replicate 12 0
        count := 3
        word0 := word0 } := by
  have high : hi32 word1 = 0 := by
    apply UInt32.toNat_inj.mp
    rw [hi32_toNat, Nat.div_eq_of_lt small]
    rfl
  have low : lo32 word1 ≠ 0 := by
    intro zero
    apply positive
    apply UInt64.toNat_inj.mp
    have value := lo32_toNat word1
    rw [zero, Nat.mod_eq_of_lt small] at value
    exact value.symm
  have counted : trimmedCount ([lo32 word0, hi32 word0, lo32 word1, hi32 word1] ++
      List.replicate 12 0) 4 = 3 := by
    simp [trimmedCount, high, low]
  have first : firstWord ([lo32 word0, hi32 word0, lo32 word1, hi32 word1] ++
      List.replicate 12 0) = word0 := make64_halves word0
  have halves : halvesOf (wordsArray [word0, word1]) =
      [lo32 word0, hi32 word0, lo32 word1, hi32 word1] ++ List.replicate 12 0 := rfl
  simp only [Division.start, halves, List.length_cons, List.length_nil, Nat.zero_add, Nat.reduceAdd,
    Nat.reduceMul, counted, first]

section

variable {radix : Nat} {divisor : UInt32}

theorem divideHalves_succ (i : Nat) (division : Division) :
    divideHalves divisor (i + 1) division =
      divideHalf divisor (i + 1) division >>= divideHalves divisor i := rfl

/-- The two lower halves carry the remainder on; each is read before it is
written. -/
theorem divideHalves_two (known : Divisor radix divisor) {halfWords : List UInt32}
    {low high remainder : UInt32} (word0 : UInt64)
    (readLow : halfWords[0]? = some low) (readHigh : halfWords[1]? = some high)
    (inside : 2 < halfWords.length)
    (large : radix ≤ remainder.toNat * 2 ^ 32 + high.toNat) :
    ∃ next, divideHalves divisor 2 { halfWords, count := 2, remainder, word0 } = .ok next ∧
      next.count = 2 ∧ next.word0 = word0 ∧
      next.remainder.toNat =
        ((remainder.toNat * 2 ^ 32 + high.toNat) % radix * 2 ^ 32 + low.toNat) % radix := by
  let first : Division := { halfWords, count := 2, remainder, word0 }
  obtain ⟨quotient, middle, upper, value⟩ :=
    divideHalf_remainder known (i := 2) (show first.halfWords[2 - 1]? = some high from readHigh)
      inside (.inr large)
  let second : Division := { first with halfWords := halfWords.set 2 quotient, remainder := middle }
  have readNext : second.halfWords[1 - 1]? = some low := by
    rw [← readLow]
    exact List.getElem?_set_ne (by decide)
  have insideNext : 1 < second.halfWords.length := by
    have same : second.halfWords.length = halfWords.length := List.length_set
    omega
  have below : 1 ≠ second.count := show 1 ≠ 2 by decide
  obtain ⟨quotient', last, lower, value'⟩ :=
    divideHalf_remainder known readNext insideNext (.inl below)
  refine ⟨{ second with halfWords := second.halfWords.set 1 quotient', remainder := last },
    ?_, rfl, rfl, ?_⟩
  · rw [divideHalves_succ, upper, Outcome.ok_bind, divideHalves_succ, lower, Outcome.ok_bind]
    rfl
  · rw [value', value]

/-- The first round over three halves with a small top: the remainder is that of
the whole number, and the single word is still the lower word of the number. -/
theorem divide_three (known : Divisor radix divisor) (word0 word1 : UInt64) (positive : word1 ≠ 0)
    (small : word1.toNat < radix) :
    ∃ division, divide divisor (Division.start [word0, word1]) = .ok division ∧
      division.count = 2 ∧ division.word0 = word0 ∧
      division.remainder.toNat = (word0.toNat + 2 ^ 64 * word1.toNat) % radix := by
  have most := known.most
  have narrow : (lo32 word1).toNat = word1.toNat := by
    rw [lo32_toNat]
    omega
  have nonzero : word1.toNat ≠ 0 := fun zero => positive (UInt64.toNat_inj.mp zero)
  have top : lo32 word1 ≠ 0 := by
    intro zero
    apply nonzero
    rw [← narrow, zero]
    rfl
  rw [start_three word0 word1 positive (by omega)]
  simp only [divide, show ¬ 3 ≤ 2 by omega, ↓reduceIte, divideHalves_succ 2]
  rw [divideHalf_top known rfl rfl rfl (by simp) top (by omega), Outcome.ok_bind]
  have readLow : ([lo32 word0, hi32 word0, lo32 word1, 0] ++ List.replicate 12 0)[0]? =
    some (lo32 word0) := rfl
  have readHigh : ([lo32 word0, hi32 word0, lo32 word1, 0] ++ List.replicate 12 0)[1]? =
    some (hi32 word0) := rfl
  have large : radix ≤ (lo32 word1).toNat * 2 ^ 32 + (hi32 word0).toNat := by omega
  obtain ⟨division, divided, two, word, remainder⟩ :=
    divideHalves_two known (make64 (hi32 word0) (lo32 word0)) readLow readHigh (by simp) large
  refine ⟨division, divided, two, ?_, ?_⟩
  · rw [word, make64_halves]
  · rw [remainder, narrow, hi32_toNat, lo32_toNat, Nat.add_mod, Nat.mod_mul_mod, ← Nat.add_mod]
    congr 1
    omega

end

/-! ## The texts -/

theorem wordsValue_cons (word : UInt64) (words : List UInt64) :
    wordsValue (word :: words) = word.toNat + 2 ^ 64 * wordsValue words := by
  simp only [wordsValue, List.map_cons, Nat.ofDigits_cons]

theorem wordsValue_pos (words : List UInt64) (nonempty : words ≠ [])
    (normalised : words.getLast? ≠ some 0) : 0 < wordsValue words := by
  induction words with
  | nil => exact absurd rfl nonempty
  | cons word words ih =>
    rw [wordsValue_cons]
    cases words with
    | nil =>
      have nonzero : word.toNat ≠ 0 := by
        intro zero
        apply normalised
        rw [UInt64.toNat_inj.mp (show word.toNat = (0 : UInt64).toNat from zero)]
        rfl
      omega
    | cons next rest =>
      have positive := ih (by simp) (by simpa using normalised)
      omega

/-- A number below 2^128 has no, one or two words. -/
theorem words_cases (value : BigInt) (below : value.magnitude < 2 ^ 128) :
    value.words = [] ∧ value.magnitude = 0 ∨
    (∃ word, value.words = [word] ∧ value.magnitude = word.toNat ∧ word.toNat ≠ 0) ∨
    ∃ word0 word1, value.words = [word0, word1] ∧
      value.magnitude = word0.toNat + 2 ^ 64 * word1.toNat ∧ word1 ≠ 0 := by
  obtain ⟨signBit, words, normalised⟩ := value
  have magnitude : (BigInt.mk signBit words normalised).magnitude = wordsValue words := rfl
  rw [magnitude] at below ⊢
  match words, normalised with
  | [], _ => exact .inl ⟨rfl, rfl⟩
  | [word], normalised =>
    have positive := wordsValue_pos [word] (by simp) normalised
    have value : wordsValue [word] = word.toNat := by
      rw [wordsValue_cons]
      rfl
    exact .inr (.inl ⟨word, rfl, value, by omega⟩)
  | [word0, word1], normalised =>
    refine .inr (.inr ⟨word0, word1, rfl, ?_, ?_⟩)
    · rw [wordsValue_cons, wordsValue_cons]
      rfl
    · rintro rfl
      exact normalised rfl
  | word0 :: word1 :: word2 :: rest, normalised =>
    have positive := wordsValue_pos (word2 :: rest) (by simp) (by simpa using normalised)
    rw [wordsValue_cons, wordsValue_cons] at below
    omega

theorem symbol_index : ∀ digit < 36, symbols.idxOf (symbol digit) = digit := by
  decide

/-- Different digits have different symbols. -/
theorem symbols_injective {first second : List Nat} (small : ∀ digit ∈ first, digit < 36)
    (small' : ∀ digit ∈ second, digit < 36) (same : first.map symbol = second.map symbol) :
    first = second := by
  have back : ∀ digits : List Nat, (∀ digit ∈ digits, digit < 36) →
      (digits.map symbol).map symbols.idxOf = digits := by
    intro digits below
    rw [List.map_map]
    exact (List.map_congr_left fun digit member => symbol_index digit (below digit member)).trans
      (List.map_id digits)
  rw [← back first small, same, back second small']

section

variable {radix : Nat}

theorem divisor_ofNat (least : 2 ≤ radix) (most : radix ≤ 36) :
    Divisor radix (UInt32.ofNat radix) := by
  refine ⟨?_, least, most⟩
  simp only [UInt32.toNat_ofNat']
  omega

/-- What a run of the digit loop returns as a text. -/
def signed (signBit : Bool) (digits : List Nat) : List Char :=
  (if signBit then ['-'] else []) ++ (digits.map symbol).reverse

theorem written_signed (value : BigInt) (nonzero : value.magnitude ≠ 0) :
    written value radix = signed value.signBit (Nat.digits radix value.magnitude) := by
  simp only [written, nonzero, ↓reduceIte, signed]

theorem signed_injective {signBit : Bool} {first second : List Nat}
    (small : ∀ digit ∈ first, digit < 36) (small' : ∀ digit ∈ second, digit < 36)
    (same : signed signBit first = signed signBit second) : first = second := by
  apply symbols_injective small small'
  exact List.reverse_injective (List.append_cancel_left same)

theorem bigintText_zero (invalid : String → Thrown) (value : BigInt) (least : 2 ≤ radix)
    (most : radix ≤ 36) (empty : value.words = []) (fuel : Nat) :
    bigintText invalid value radix fuel = some (.ok ['0']) := by
  have valid : ¬ ((radix : Int) < 2 ∨ (radix : Int) > 36) := by omega
  simp only [bigintText, valid, ↓reduceIte, empty, List.length_nil]

theorem bigintText_loop (invalid : String → Thrown) (value : BigInt) (least : 2 ≤ radix)
    (most : radix ≤ 36) (nonempty : value.words ≠ []) (fuel : Nat) :
    bigintText invalid value radix fuel =
      (digitLoop (UInt32.ofNat radix) fuel (.start value.words) []).map fun outcome =>
        outcome.map fun digits => (if value.signBit then digits ++ ['-'] else digits).reverse := by
  have valid : ¬ ((radix : Int) < 2 ∨ (radix : Int) > 36) := by omega
  have words : ¬ value.words.length = 0 := by simpa using nonempty
  simp only [bigintText, valid, ↓reduceIte, words, Int.toNat_natCast]

/-- The only text a function can return is the one some run of the loop gives. -/
theorem bigintText_returns (invalid : String → Thrown) {value : BigInt} (least : 2 ≤ radix)
    (most : radix ≤ 36) (nonempty : value.words ≠ []) {fuel : Nat} {digits : List Nat}
    (ends : digitLoop (UInt32.ofNat radix) fuel (.start value.words) [] =
      some (.ok (digits.map symbol))) :
    bigintText invalid value radix fuel = some (.ok (signed value.signBit digits)) ∧
      ∀ fuel' text, bigintText invalid value radix fuel' = some (.ok text) →
        text = signed value.signBit digits := by
  have shape : (if value.signBit then digits.map symbol ++ ['-'] else digits.map symbol).reverse =
      signed value.signBit digits := by
    cases value.signBit with
    | false => rfl
    | true => exact List.reverse_append
  constructor
  · rw [bigintText_loop invalid value least most nonempty, ends, ← shape]
    rfl
  · intro fuel' text returned
    rw [bigintText_loop invalid value least most nonempty] at returned
    obtain ⟨outcome, loop, result⟩ := Option.map_eq_some_iff.mp returned
    rw [← digitLoop_unique ends loop] at result
    rw [← shape]
    exact (Except.ok.inj result).symm

/-- A number of one word is written digit by digit. -/
theorem digitLoop_one (least : 2 ≤ radix) (most : radix ≤ 36) (word : UInt64)
    (nonzero : word.toNat ≠ 0) :
    digitLoop (UInt32.ofNat radix) (Nat.digits radix word.toNat).length (.start [word]) [] =
      some (.ok ((Nat.digits radix word.toNat).map symbol)) := by
  obtain ⟨single, first⟩ := start_single word
  exact digitLoop_single (divisor_ofNat least most) word.toNat (.start [word]) [] single
    (congrArg UInt64.toNat first) nonzero

/-- Three halves with a small top: one digit of the number, and then the digits
of its lower word. -/
theorem digitLoop_three (least : 2 ≤ radix) (most : radix ≤ 36) (word0 word1 : UInt64)
    (positive : word1 ≠ 0) (small : word1.toNat < radix) :
    digitLoop (UInt32.ofNat radix) ((Nat.digits radix word0.toNat).length + 1)
        (.start [word0, word1]) [] =
      some (.ok (((word0.toNat + 2 ^ 64 * word1.toNat) % radix ::
        Nat.digits radix word0.toNat).map symbol)) := by
  have known := divisor_ofNat least most
  obtain ⟨division, divided, two, word, remainder⟩ :=
    divide_three known word0 word1 positive small
  have char := digitChar_of_toNat remainder
    (Nat.lt_of_lt_of_le (Nat.mod_lt _ (by omega)) most)
  have few : ¬ division.count > 2 := by omega
  simp only [digitLoop, divided, char, few, false_or, List.nil_append]
  by_cases zero : word0 = 0
  · have stops : ¬ division.word0 ≠ 0 := by simp only [word, zero, ne_eq, not_true_eq_false,
      not_false_eq_true]
    simp only [stops, ↓reduceIte, zero, UInt64.toNat_zero, Nat.digits_zero, List.map_cons,
      List.map_nil]
  · have goesOn : division.word0 ≠ 0 := by rwa [word]
    have nonzero : word0.toNat ≠ 0 := fun none => zero (UInt64.toNat_inj.mp none)
    simp only [goesOn, ↓reduceIte, ne_eq, not_false_eq_true]
    rw [digitLoop_single known word0.toNat division _ (by omega) (congrArg UInt64.toNat word)
      nonzero]
    rfl

/-- The condition on a number: it has at most one word, or it lies below the
radix times 2^64 and its quotient by the radix happens to be its lower word. -/
def Spared (number radix : Nat) : Prop :=
  number < 2 ^ 64 ∨ number < radix * 2 ^ 64 ∧ number / radix = number % 2 ^ 64

/-- Both runtimes run the same loop, so they return the same texts. -/
theorem runtimes_agree (value : BigInt) (least : 2 ≤ radix) (most : radix ≤ 36) (fuel : Nat) :
    V8Runtime.bigintToString value radix fuel =
      NodeApiJsiRuntime.bigintToString value radix fuel := by
  unfold V8Runtime.bigintToString NodeApiJsiRuntime.bigintToString
  by_cases empty : value.words = []
  · rw [bigintText_zero _ value least most empty, bigintText_zero _ value least most empty]
  · rw [bigintText_loop _ value least most empty, bigintText_loop _ value least most empty]

theorem digits_small (least : 2 ≤ radix) (most : radix ≤ 36) (number : Nat) :
    ∀ digit ∈ Nat.digits radix number, digit < 36 := by
  intro digit member
  exact Nat.lt_of_lt_of_le (Nat.digits_lt_base (by omega) member) most

/-- The text of a number below the radix times 2^64: all its digits when it has
one word, and otherwise one digit before those of the lower word. -/
theorem returns_below (value : BigInt) (least : 2 ≤ radix) (most : radix ≤ 36)
    (below : value.magnitude < radix * 2 ^ 64) :
    ∃ text, (∃ fuel, V8Runtime.bigintToString value radix fuel = some (.ok text)) ∧
      (∀ fuel text', V8Runtime.bigintToString value radix fuel = some (.ok text') → text' = text) ∧
      (text = written value radix ↔
        value.magnitude < 2 ^ 64 ∨ value.magnitude / radix = value.magnitude % 2 ^ 64) := by
  have two : value.magnitude < 2 ^ 128 := by omega
  rcases words_cases value two with ⟨words, magnitude⟩ | ⟨word, words, magnitude, nonzero⟩ |
    ⟨word0, word1, words, magnitude, positive⟩
  · refine ⟨['0'], ⟨0, bigintText_zero _ value least most words 0⟩, ?_, ?_⟩
    · intro fuel text' returned
      unfold V8Runtime.bigintToString at returned
      rw [bigintText_zero _ value least most words] at returned
      exact (Except.ok.inj (Option.some.inj returned)).symm
    · simp only [written, magnitude, ↓reduceIte, true_iff]
      left
      decide
  · have ends := digitLoop_one least most word nonzero
    rw [← words] at ends
    obtain ⟨returned, unique⟩ := bigintText_returns .jsiNativeException least most
      (by simp [words]) ends
    refine ⟨_, ⟨_, returned⟩, unique, ?_⟩
    rw [written_signed value (by omega), magnitude]
    simp only [true_iff]
    exact .inl word.toNat_lt
  · have nonzero : word1.toNat ≠ 0 := fun zero => positive (UInt64.toNat_inj.mp zero)
    have small : word1.toNat < radix := by
      by_contra large
      have least' := Nat.mul_le_mul_left (2 ^ 64) (Nat.le_of_not_lt large)
      omega
    have ends := digitLoop_three least most word0 word1 positive small
    rw [← words] at ends
    obtain ⟨returned, unique⟩ := bigintText_returns .jsiNativeException least most
      (by simp [words]) ends
    refine ⟨_, ⟨_, returned⟩, unique, ?_⟩
    have bound := word0.toNat_lt
    have lower : value.magnitude % 2 ^ 64 = word0.toNat := by omega
    have many : ¬ value.magnitude < 2 ^ 64 := by omega
    have split := Nat.digits_def' (show 1 < radix by omega) (show 0 < value.magnitude by omega)
    rw [written_signed value (by omega), split, ← magnitude, lower]
    simp only [many, false_or]
    constructor
    · intro same
      have digits := signed_injective ?_ ?_ same
      · exact Nat.digits_inj_iff.mp (List.cons.inj digits).2.symm
      · intro digit member
        rcases List.mem_cons.mp member with rfl | member
        · exact Nat.lt_of_lt_of_le (Nat.mod_lt _ (by omega)) most
        · exact digits_small least most _ digit member
      · intro digit member
        rw [← split] at member
        exact digits_small least most _ digit member
    · intro same
      rw [same]

/-- The texts are right for every number of at most one word, and returned. Above
that the first round leaves the quotient one half too high: up to the radix times
2^64 the text is right only if the quotient happens to be the lower word. -/
theorem textRight_of_spared (value : BigInt) (radix : Nat) (least : 2 ≤ radix)
    (most : radix ≤ 36) :
    (Spared value.magnitude radix → TextRight value radix ∧
      ∃ fuel, V8Runtime.bigintToString value radix fuel = some (.ok (written value radix))) ∧
    (value.magnitude < radix * 2 ^ 64 → TextRight value radix →
      Spared value.magnitude radix) := by
  have agree : ∀ fuel text, V8Runtime.bigintToString value radix fuel = some (.ok text) ↔
      NodeApiJsiRuntime.bigintToString value radix fuel = some (.ok text) := by
    intro fuel text
    rw [runtimes_agree value least most fuel]
  constructor
  · intro spared
    have below : value.magnitude < radix * 2 ^ 64 := by
      rcases spared with single | ⟨below, -⟩
      · omega
      · exact below
    obtain ⟨text, ⟨fuel, returned⟩, unique, right⟩ := returns_below value least most below
    have same : text = written value radix := right.mpr (spared.imp id And.right)
    rw [same] at returned unique
    exact ⟨⟨unique, agree⟩, fuel, returned⟩
  · intro below textRight
    obtain ⟨text, ⟨fuel, returned⟩, -, right⟩ := returns_below value least most below
    exact (right.mp (textRight.1 fuel text returned)).imp id fun same => ⟨below, same⟩

end

/-- 2^64 - 1 in radix 36. -/
theorem textRight_one_word :
    TextRight ⟨false, [0xffffffffffffffff], by decide⟩ 36 ∧
      written ⟨false, [0xffffffffffffffff], by decide⟩ 36 =
        ['3', 'w', '5', 'e', '1', '1', '2', '6', '4', 's', 'g', 's', 'f'] := by
  constructor
  · exact ((textRight_of_spared ⟨false, [0xffffffffffffffff], by decide⟩ 36 (by decide)
      (by decide)).1 (.inl (by decide))).1
  · decide

/-- 2^64 in radix 10 is returned as "6". -/
theorem first_two_word_number_wrong : ¬ TextRight ⟨false, [0, 1], by decide⟩ 10 := by
  intro right
  have returned : V8Runtime.bigintToString ⟨false, [0, 1], by decide⟩ 10 1 = some (.ok ['6']) := by
    decide
  have same := right.1 1 ['6'] returned
  exact absurd same (by decide)

end V8Jsi.BigIntText
