import V8Jsi.BigIntText

set_option autoImplicit false

/- The division loop of `bigintToString` on numbers of any size: which halves it
touches, and whether it comes to an end. -/
namespace V8Jsi.BigIntText

/-! ## One half -/

@[simp] theorem dropTop_halfWords (i : Nat) (division : Division) :
    (dropTop i division).halfWords = division.halfWords := by
  unfold dropTop
  split
  · split
    · rfl
    · rfl
  · rfl

@[simp] theorem dropTop_remainder (i : Nat) (division : Division) :
    (dropTop i division).remainder = division.remainder := by
  unfold dropTop
  split
  · split
    · rfl
    · rfl
  · rfl

theorem dropTop_count (division : Division) :
    (dropTop division.count division).count = division.count - 1 := by
  rw [dropTop, if_pos rfl]
  split
  · rename_i two
    exact two.symm
  · rfl

/-- One step of the inner loop: the half below `i` is divided together with the
remainder, the quotient is stored at `i`, and a zero quotient at the top shortens the
number. -/
structure HalfDivided (radix i : Nat) (division next : Division) : Prop where
  halves : ∃ quotient, next.halfWords = division.halfWords.set i quotient
  divided : ∃ half, division.halfWords[i - 1]? = some half ∧
    next.remainder.toNat = (division.remainder.toNat * 2 ^ 32 + half.toNat) % radix ∧
    next.count =
      if i = division.count ∧ division.remainder.toNat * 2 ^ 32 + half.toNat < radix
        then division.count - 1 else division.count

section

variable {radix : Nat} {divisor : UInt32} {division next : Division}

theorem HalfDivided.length {i : Nat} (step : HalfDivided radix i division next) :
    next.halfWords.length = division.halfWords.length := by
  obtain ⟨quotient, halves⟩ := step.halves
  rw [halves, List.length_set]

theorem HalfDivided.count_le {i : Nat} (step : HalfDivided radix i division next) :
    next.count ≤ division.count := by
  obtain ⟨half, -, -, count⟩ := step.divided
  rw [count]
  split
  · omega
  · exact Nat.le_refl _

theorem divideHalf_small (known : Divisor radix divisor) {half : UInt32}
    (read : division.halfWords[division.count - 1]? = some half)
    (inside : division.count < division.halfWords.length)
    (small : division.remainder.toNat * 2 ^ 32 + half.toNat < radix) :
    ∃ remainder, divideHalf divisor division.count division =
        .ok (dropTop division.count
          { division with halfWords := division.halfWords.set division.count 0, remainder }) ∧
      remainder.toNat = (division.remainder.toNat * 2 ^ 32 + half.toNat) % radix := by
  have most := known.most
  have dividend := make64_toNat division.remainder half
  have reads : readHalf division.halfWords (division.count - 1) = .ok half := by
    simp only [readHalf, read]
  have writes : writeHalf division.halfWords division.count 0 =
      .ok (division.halfWords.set division.count 0) := by
    simp only [writeHalf, inside, ↓reduceIte]
  simp only [divideHalf, reads, writes, Outcome.ok_bind, Outcome.pure_ok]
  by_cases zero : make64 division.remainder half = 0
  · refine ⟨0, ?_, ?_⟩
    · simp only [zero, ↓reduceIte]
    · rw [← dividend, zero]
      simp
  · have below : make64 division.remainder half < divisor.toUInt64 := by
      apply UInt64.lt_iff_toNat_lt.mpr
      rw [dividend, known.wide]
      exact small
    refine ⟨lo32 (make64 division.remainder half), ?_, ?_⟩
    · simp only [zero, below, ↓reduceIte]
    · rw [lo32_toNat, dividend, Nat.mod_eq_of_lt small]
      omega

theorem divideHalf_divided (known : Divisor radix divisor) {i : Nat}
    (inside : i < division.halfWords.length) :
    ∃ next, divideHalf divisor i division = .ok next ∧ HalfDivided radix i division next := by
  have readable : i - 1 < division.halfWords.length := by omega
  have read := List.getElem?_eq_getElem readable
  by_cases drops : i = division.count ∧
      division.remainder.toNat * 2 ^ 32 + division.halfWords[i - 1].toNat < radix
  · obtain ⟨rfl, small⟩ := drops
    obtain ⟨remainder, divided, value⟩ := divideHalf_small known read inside small
    refine ⟨_, divided, ⟨0, by simp⟩, ⟨_, read, by simpa using value, ?_⟩⟩
    rw [if_pos ⟨rfl, small⟩]
    exact dropTop_count { division with
      halfWords := division.halfWords.set division.count 0, remainder }
  · have keeps : i ≠ division.count ∨
        radix ≤ division.remainder.toNat * 2 ^ 32 + division.halfWords[i - 1].toNat := by
      by_contra neither
      push Not at neither
      exact drops neither
    obtain ⟨quotient, remainder, divided, value⟩ := divideHalf_remainder known read inside keeps
    refine ⟨_, divided, ⟨quotient, rfl⟩, ⟨_, read, value, ?_⟩⟩
    rw [if_neg drops]

theorem divideHalf_outside {i : Nat} (outside : division.halfWords.length ≤ i) :
    ∃ failure, divideHalf divisor i division = .error failure := by
  have unwritable : ¬ i < division.halfWords.length := by omega
  rw [divideHalf]
  cases read : readHalf division.halfWords (i - 1) with
  | error failure => exact ⟨failure, rfl⟩
  | ok half =>
    refine ⟨.writeOutside i, ?_⟩
    simp only [writeHalf, unwritable, ↓reduceIte, Outcome.ok_bind]
    split
    · rfl
    · split
      · rfl
      · split
        · rfl
        · rfl

theorem divideHalf_ok (known : Divisor radix divisor) {i : Nat}
    (ok : divideHalf divisor i division = .ok next) : HalfDivided radix i division next := by
  by_cases inside : i < division.halfWords.length
  · obtain ⟨next', divided, step⟩ := divideHalf_divided known inside
    rw [ok] at divided
    rwa [Except.ok.inj divided]
  · obtain ⟨failure, failed⟩ := divideHalf_outside (Nat.le_of_not_lt inside)
    rw [ok] at failed
    cases failed

/-! ## One round -/

theorem divideHalves_inside (known : Divisor radix divisor) : ∀ i (division : Division),
    i < division.halfWords.length →
    ∃ next, divideHalves divisor i division = .ok next ∧
      next.halfWords.length = division.halfWords.length ∧ next.count ≤ division.count := by
  intro i
  induction i with
  | zero =>
    intro division inside
    exact ⟨division, rfl, rfl, Nat.le_refl _⟩
  | succ i ih =>
    intro division inside
    obtain ⟨middle, divided, step⟩ := divideHalf_divided known inside
    obtain ⟨next, rest, length, count⟩ := ih middle (by rw [step.length]; omega)
    refine ⟨next, ?_, length.trans step.length, Nat.le_trans count step.count_le⟩
    rw [divideHalves_succ, divided, Outcome.ok_bind, rest]

theorem divide_inside (known : Divisor radix divisor)
    (inside : division.count < division.halfWords.length) :
    ∃ next, divide divisor division = .ok next ∧
      next.halfWords.length = division.halfWords.length ∧ next.count ≤ division.count := by
  rw [divide]
  split
  · exact ⟨_, rfl, rfl, Nat.le_refl _⟩
  · exact divideHalves_inside known division.count division inside

/-- While the top of the number stays inside the array, no access fails. -/
theorem digitLoop_inside (known : Divisor radix divisor) (failure : Failure) :
    ∀ fuel (division : Division) digits, division.count < division.halfWords.length →
      digitLoop divisor fuel division digits ≠ some (.error failure) := by
  intro fuel
  induction fuel with
  | zero =>
    intro division digits inside stops
    cases stops
  | succ fuel ih =>
    intro division digits inside
    obtain ⟨next, divided, length, count⟩ := divide_inside known inside
    rw [digitLoop, divided]
    by_cases again : next.count > 2 ∨ next.word0 ≠ 0
    · simp only [again, ↓reduceIte]
      exact ih next _ (by omega)
    · simp only [again, ↓reduceIte]
      intro stops
      cases stops

/-- The lowest half is read but never written, and the remainder a round leaves agrees
with it modulo whatever divides both the radix and 2^32. -/
theorem divideHalves_low (known : Divisor radix divisor) {factor : Nat} {low : UInt32}
    (divides : factor ∣ radix) (dividesHalf : factor ∣ 2 ^ 32) :
    ∀ i (division next : Division), divideHalves divisor (i + 1) division = .ok next →
      division.halfWords[0]? = some low →
      next.halfWords[0]? = some low ∧ next.remainder.toNat % factor = low.toNat % factor := by
  intro i
  induction i with
  | zero =>
    intro division next ok lowest
    rw [divideHalves_succ] at ok
    obtain ⟨middle, divided, rest⟩ := Outcome.bind_ok_inv ok
    cases rest
    have step := divideHalf_ok known divided
    obtain ⟨quotient, halves⟩ := step.halves
    obtain ⟨half, read, remainder, -⟩ := step.divided
    obtain rfl : half = low := by
      rw [lowest] at read
      exact (Option.some.inj read).symm
    constructor
    · rw [halves, List.getElem?_set_ne (by decide), lowest]
    · rw [remainder, Nat.mod_mod_of_dvd _ divides, Nat.add_mod,
        Nat.mod_eq_zero_of_dvd (Dvd.dvd.mul_left dividesHalf _), Nat.zero_add, Nat.mod_mod]
  | succ i ih =>
    intro division next ok lowest
    rw [divideHalves_succ] at ok
    obtain ⟨middle, divided, rest⟩ := Outcome.bind_ok_inv ok
    obtain ⟨quotient, halves⟩ := (divideHalf_ok known divided).halves
    refine ih middle next rest ?_
    rw [halves, List.getElem?_set_ne (by omega), lowest]

theorem divideHalves_below (known : Divisor radix divisor) :
    ∀ i (division next : Division), divideHalves divisor i division = .ok next →
      i < division.count → next.count = division.count := by
  intro i
  induction i with
  | zero =>
    intro division next ok below
    cases ok
    rfl
  | succ i ih =>
    intro division next ok below
    rw [divideHalves_succ] at ok
    obtain ⟨middle, divided, rest⟩ := Outcome.bind_ok_inv ok
    obtain ⟨half, -, -, count⟩ := (divideHalf_ok known divided).divided
    rw [if_neg (by omega)] at count
    rw [ih middle next rest (by omega), count]

/-- A round that finds a remainder drops no half. -/
theorem divideHalves_kept (known : Divisor radix divisor)
    (ok : divideHalves divisor division.count division = .ok next) (positive : 0 < division.count)
    (left : division.remainder.toNat ≠ 0) : next.count = division.count := by
  have most := known.most
  obtain ⟨i, top⟩ : ∃ i, division.count = i + 1 := ⟨division.count - 1, by omega⟩
  rw [top, divideHalves_succ] at ok
  obtain ⟨middle, divided, rest⟩ := Outcome.bind_ok_inv ok
  obtain ⟨half, -, -, count⟩ := (divideHalf_ok known divided).divided
  rw [if_neg (by omega)] at count
  rw [divideHalves_below known i middle next rest (by omega), count]

/-- The first round drops the top half when it is below the radix, and no other. -/
theorem divideHalves_first (known : Divisor radix divisor)
    (ok : divideHalves divisor division.count division = .ok next) (several : 1 < division.count)
    (none : division.remainder = 0) {top : UInt32}
    (read : division.halfWords[division.count - 1]? = some top) (positive : top.toNat ≠ 0) :
    next.count = if top.toNat < radix then division.count - 1 else division.count := by
  have zero : division.remainder.toNat = 0 := by rw [none]; rfl
  obtain ⟨i, counted⟩ : ∃ i, division.count = i + 1 := ⟨division.count - 1, by omega⟩
  rw [counted, divideHalves_succ] at ok
  obtain ⟨middle, divided, rest⟩ := Outcome.bind_ok_inv ok
  obtain ⟨half, readHalf, remainder, count⟩ := (divideHalf_ok known divided).divided
  obtain rfl : half = top := by
    rw [counted, readHalf] at read
    exact Option.some.inj read
  rw [zero, Nat.zero_mul, Nat.zero_add] at remainder count
  by_cases small : half.toNat < radix
  · rw [if_pos ⟨counted.symm, small⟩] at count
    rw [Nat.mod_eq_of_lt small] at remainder
    have here : i = middle.count := by omega
    rw [here] at rest
    rw [divideHalves_kept known rest (by omega) (by omega), count, if_pos small]
  · rw [if_neg (fun drops => small drops.2)] at count
    rw [divideHalves_below known i middle next rest (by omega), count, if_neg small]

/-! ## A loop that goes on for ever -/

/-- More than two halves are counted, and the remainder cannot become zero. -/
structure Stuck (factor : Nat) (division : Division) : Prop where
  many : 2 < division.count
  left : division.remainder.toNat ≠ 0
  lowest : ∃ low, division.halfWords[0]? = some low ∧ low.toNat % factor ≠ 0

theorem stuck_next (known : Divisor radix divisor) {factor : Nat} (divides : factor ∣ radix)
    (dividesHalf : factor ∣ 2 ^ 32) (stuck : Stuck factor division)
    (ok : divide divisor division = .ok next) : Stuck factor next := by
  have many := stuck.many
  obtain ⟨low, lowest, rest⟩ := stuck.lowest
  rw [divide, if_neg (by omega)] at ok
  have count := divideHalves_kept known ok (by omega) stuck.left
  obtain ⟨i, counted⟩ : ∃ i, division.count = i + 1 := ⟨division.count - 1, by omega⟩
  rw [counted] at ok
  obtain ⟨lowest', remainder⟩ := divideHalves_low known divides dividesHalf i division next ok lowest
  refine ⟨by omega, ?_, low, lowest', rest⟩
  intro zero
  rw [zero, Nat.zero_mod] at remainder
  exact rest remainder.symm

theorem digitLoop_stuck (known : Divisor radix divisor) {factor : Nat} (divides : factor ∣ radix)
    (dividesHalf : factor ∣ 2 ^ 32) (text : List Char) :
    ∀ fuel division digits, Stuck factor division →
      digitLoop divisor fuel division digits ≠ some (.ok text) := by
  intro fuel
  induction fuel with
  | zero =>
    intro division digits stuck ends
    cases ends
  | succ fuel ih =>
    intro division digits stuck
    rw [digitLoop]
    cases divided : divide divisor division with
    | error failure =>
      intro ends
      cases ends
    | ok next =>
      have stuck' := stuck_next known divides dividesHalf stuck divided
      have again : next.count > 2 ∨ next.word0 ≠ 0 := .inl stuck'.many
      simp only [again, ↓reduceIte]
      exact ih next _ stuck'

end

/-! ## The halves at the start -/

theorem length_halvesOf (words : List UInt64) : (halvesOf words).length = 2 * words.length := by
  induction words with
  | nil => rfl
  | cons word words ih =>
    simp only [halvesOf, List.flatMap_cons, List.length_append, List.length_cons,
      List.length_nil] at ih ⊢
    omega

/-- The words the buffer holds: eight on the stack, or just those of the number on the
heap. -/
def capacity (words : List UInt64) : Nat := if words.length ≤ 8 then 8 else words.length

theorem length_start (words : List UInt64) :
    (halvesOf (wordsArray words)).length = 2 * capacity words := by
  rw [length_halvesOf, wordsArray, capacity]
  split
  · rw [if_neg (by omega)]
  · rw [if_pos (by omega), List.length_append, List.length_replicate]
    omega

theorem getElem?_halvesOf (words : List UInt64) : ∀ k word, words[k]? = some word →
    (halvesOf words)[2 * k]? = some (lo32 word) ∧
      (halvesOf words)[2 * k + 1]? = some (hi32 word) := by
  induction words with
  | nil =>
    intro k word found
    simp at found
  | cons first words ih =>
    intro k word found
    cases k with
    | zero =>
      obtain rfl : first = word := by simpa using found
      exact ⟨rfl, rfl⟩
    | succ k => exact ih k word (by simpa using found)

theorem getElem?_start {words : List UInt64} {k : Nat} {word : UInt64}
    (found : words[k]? = some word) :
    (halvesOf (wordsArray words))[2 * k]? = some (lo32 word) ∧
      (halvesOf (wordsArray words))[2 * k + 1]? = some (hi32 word) := by
  apply getElem?_halvesOf
  rw [wordsArray]
  split
  · exact found
  · obtain ⟨inside, -⟩ := List.getElem?_eq_some_iff.mp found
    rw [List.getElem?_append_left inside, found]

theorem trimmedCount_gt (halfWords : List UInt32) {k : Nat} (nonzero : halfWords[k]?.getD 0 ≠ 0) :
    ∀ count, k < count → k < trimmedCount halfWords count := by
  intro count
  induction count with
  | zero =>
    intro below
    exact absurd below (Nat.not_lt_zero k)
  | succ count ih =>
    intro below
    rw [trimmedCount]
    split
    · rename_i zero
      have other : k ≠ count := by
        rintro rfl
        exact nonzero zero
      exact ih (by omega)
    · exact below

theorem trimmedCount_top (halfWords : List UInt32) : ∀ count,
    0 < trimmedCount halfWords count →
      halfWords[trimmedCount halfWords count - 1]?.getD 0 ≠ 0 := by
  intro count
  induction count with
  | zero =>
    intro positive
    exact absurd positive (Nat.lt_irrefl 0)
  | succ count ih =>
    intro positive
    rw [trimmedCount] at positive ⊢
    split at positive
    · rename_i zero
      rw [if_pos zero]
      exact ih positive
    · rename_i nonzero
      rw [if_neg nonzero]
      exact nonzero

theorem word_half_ne_zero {word : UInt64} (nonzero : word ≠ 0) : lo32 word ≠ 0 ∨ hi32 word ≠ 0 := by
  by_contra both
  push Not at both
  obtain ⟨low, high⟩ := both
  apply nonzero
  rw [← make64_halves word, low, high]
  rfl

theorem getLast_ne_zero {words : List UInt64} (nonempty : words ≠ [])
    (normalised : words.getLast? ≠ some 0) : words.getLast nonempty ≠ 0 := by
  intro zero
  apply normalised
  rw [List.getLast?_eq_some_getLast nonempty, zero]

theorem getElem?_last {words : List UInt64} (nonempty : words ≠ []) :
    words[words.length - 1]? = some (words.getLast nonempty) := by
  rw [← List.getLast?_eq_getElem?, List.getLast?_eq_some_getLast nonempty]

theorem wordsValue_lt (words : List UInt64) : wordsValue words < (2 ^ 64) ^ words.length := by
  have bound := Nat.ofDigits_lt_base_pow_length (b := 2 ^ 64) (l := words.map UInt64.toNat)
    (by decide) (by
      intro digit member
      obtain ⟨word, -, rfl⟩ := List.mem_map.mp member
      exact word.toNat_lt)
  rwa [List.length_map] at bound

/-- The top word is counted. -/
theorem start_count_gt {words : List UInt64} (nonempty : words ≠ [])
    (normalised : words.getLast? ≠ some 0) :
    2 * (words.length - 1) < (Division.start words).count := by
  have positive := List.length_pos_iff.mpr nonempty
  obtain ⟨low, high⟩ := getElem?_start (getElem?_last nonempty)
  rcases word_half_ne_zero (getLast_ne_zero nonempty normalised) with half | half
  · exact trimmedCount_gt _ (by rw [low]; exact half) _ (by omega)
  · exact Nat.lt_of_succ_lt (trimmedCount_gt _ (by rw [high]; exact half) _ (by omega))

/-- A number from the radix times 2^64 on has four halves, or three of which the top is
not below the radix. -/
theorem start_large (value : BigInt) {radix : Nat} (least : 2 ≤ radix) (most : radix ≤ 36)
    (large : radix * 2 ^ 64 ≤ value.magnitude) :
    3 < (Division.start value.words).count ∨
      (Division.start value.words).count = 3 ∧
        ∃ top, (Division.start value.words).halfWords[2]? = some top ∧ radix ≤ top.toNat := by
  by_cases two : value.magnitude < 2 ^ 128
  · rcases words_cases value two with ⟨-, magnitude⟩ | ⟨word, -, magnitude, -⟩ |
      ⟨word0, word1, words, magnitude, positive⟩
    · omega
    · have bound := word.toNat_lt
      omega
    · have bound := word0.toNat_lt
      have least' : radix ≤ word1.toNat := by omega
      rw [words]
      by_cases small : word1.toNat < 2 ^ 32
      · rw [start_three word0 word1 positive small]
        refine .inr ⟨rfl, lo32 word1, rfl, ?_⟩
        rw [lo32_toNat]
        omega
      · left
        have high : hi32 word1 ≠ 0 := by
          intro zero
          have value := hi32_toNat word1
          rw [zero] at value
          have bound1 := word1.toNat_lt
          change 0 = _ at value
          omega
        have found : (halvesOf (wordsArray [word0, word1]))[3]? = some (hi32 word1) := rfl
        exact trimmedCount_gt _ (by rw [found]; exact high) _ (by simp)
  · left
    have nonempty : value.words ≠ [] := by
      intro empty
      rw [BigInt.magnitude, empty] at large
      change radix * 2 ^ 64 ≤ 0 at large
      omega
    have counted := start_count_gt nonempty value.normalised
    have bound := wordsValue_lt value.words
    have length : 2 < value.words.length := by
      by_contra few
      have power := Nat.pow_le_pow_right (show 0 < 2 ^ 64 by decide) (Nat.le_of_not_lt few)
      rw [BigInt.magnitude] at two
      omega
    omega

/-- The lowest half of a number agrees with it modulo any divisor of 2^32. -/
theorem start_low {words : List UInt64} (nonempty : words ≠ []) {factor : Nat}
    (divides : factor ∣ 2 ^ 32) :
    ∃ low, (Division.start words).halfWords[0]? = some low ∧
      low.toNat % factor = wordsValue words % factor := by
  obtain ⟨word, rest, rfl⟩ := List.exists_cons_of_ne_nil nonempty
  have first : (word :: rest)[0]? = some word := rfl
  have low := (getElem?_start first).1
  refine ⟨lo32 word, low, ?_⟩
  have wide : factor ∣ 2 ^ 64 * wordsValue rest :=
    Dvd.dvd.mul_right (divides.trans (by decide)) _
  rw [lo32_toNat, Nat.mod_mod_of_dvd _ divides, wordsValue_cons, Nat.add_mod,
    Nat.mod_eq_zero_of_dvd wide, Nat.add_zero, Nat.mod_mod]

/-- The top half that is counted is not zero. -/
theorem start_top {words : List UInt64} (positive : 0 < (Division.start words).count) :
    ∃ top, (Division.start words).halfWords[(Division.start words).count - 1]? = some top ∧
      top.toNat ≠ 0 := by
  have nonzero := trimmedCount_top _ _ positive
  cases read : (halvesOf (wordsArray words))[(Division.start words).count - 1]? with
  | none =>
    rw [Division.start] at read
    rw [read] at nonzero
    exact absurd rfl nonzero
  | some top =>
    refine ⟨top, read, fun zero => nonzero ?_⟩
    rw [Division.start] at read
    rw [read]
    exact UInt32.toNat_inj.mp zero

/-- The first round leaves a large number stuck. -/
theorem start_stuck {value : BigInt} {radix : Nat} (least : 2 ≤ radix) (most : radix ≤ 36)
    (large : radix * 2 ^ 64 ≤ value.magnitude)
    (coprime : ¬ Nat.gcd radix (2 ^ 32) ∣ value.magnitude) {next : Division}
    (ok : divide (UInt32.ofNat radix) (.start value.words) = .ok next) :
    Stuck (Nat.gcd radix (2 ^ 32)) next := by
  have known := divisor_ofNat least most
  have nonempty : value.words ≠ [] := by
    intro empty
    rw [BigInt.magnitude, empty] at large
    change radix * 2 ^ 64 ≤ 0 at large
    omega
  have several := start_large value least most large
  have many : 2 < (Division.start value.words).count := by omega
  rw [divide, if_neg (by omega)] at ok
  obtain ⟨top, read, positive⟩ := start_top (show 0 < (Division.start value.words).count by omega)
  have count := divideHalves_first known ok (by omega) rfl read positive
  obtain ⟨low, lowest, value'⟩ := start_low nonempty (Nat.gcd_dvd_right radix (2 ^ 32))
  have rest : low.toNat % Nat.gcd radix (2 ^ 32) ≠ 0 := by
    intro zero
    exact coprime (Nat.dvd_of_mod_eq_zero (value'.symm.trans zero))
  obtain ⟨i, counted⟩ : ∃ i, (Division.start value.words).count = i + 1 :=
    ⟨(Division.start value.words).count - 1, by omega⟩
  rw [counted] at ok
  obtain ⟨lowest', remainder⟩ := divideHalves_low known (Nat.gcd_dvd_left radix (2 ^ 32))
    (Nat.gcd_dvd_right radix (2 ^ 32)) i _ next ok lowest
  refine ⟨?_, ?_, low, lowest', rest⟩
  · rcases several with four | ⟨three, top', read', large'⟩
    · split at count
      · omega
      · omega
    · rw [three, read'] at read
      obtain rfl := Option.some.inj read
      rw [if_neg (by omega)] at count
      omega
  · intro zero
    rw [zero, Nat.zero_mod] at remainder
    exact rest remainder.symm

/-- Both runtimes return some text. -/
def Ends (value : BigInt) (radix : Nat) : Prop :=
  (∃ fuel text, V8Runtime.bigintToString value radix fuel = some (.ok text)) ∧
    ∃ fuel text, NodeApiJsiRuntime.bigintToString value radix fuel = some (.ok text)

theorem below_of_ends {value : BigInt} {radix : Nat} (least : 2 ≤ radix) (most : radix ≤ 36)
    (coprime : ¬ Nat.gcd radix (2 ^ 32) ∣ value.magnitude) (ends : Ends value radix) :
    value.magnitude < radix * 2 ^ 64 := by
  by_contra large
  obtain ⟨⟨fuel, text, returned⟩, -⟩ := ends
  have nonempty : value.words ≠ [] := by
    intro empty
    apply coprime
    rw [BigInt.magnitude, empty]
    exact Nat.dvd_zero _
  rw [V8Runtime.bigintToString, bigintText_loop _ value least most nonempty] at returned
  obtain ⟨outcome, loop, result⟩ := Option.map_eq_some_iff.mp returned
  obtain ⟨digits, rfl⟩ : ∃ digits, outcome = .ok digits := by
    cases outcome with
    | error failure => cases result
    | ok digits => exact ⟨digits, rfl⟩
  cases fuel with
  | zero => cases loop
  | succ fuel =>
    rw [digitLoop] at loop
    cases divided : divide (UInt32.ofNat radix) (.start value.words) with
    | error failure =>
      rw [divided] at loop
      cases loop
    | ok next =>
      have stuck := start_stuck least most (Nat.le_of_not_lt large) coprime divided
      have again : next.count > 2 ∨ next.word0 ≠ 0 := .inl stuck.many
      rw [divided] at loop
      simp only [again, ↓reduceIte] at loop
      exact digitLoop_stuck (divisor_ofNat least most) (Nat.gcd_dvd_left radix (2 ^ 32))
        (Nat.gcd_dvd_right radix (2 ^ 32)) digits fuel next _ stuck loop

/-- Below the radix times 2^64 the loop ends. From there on it cannot end unless the
number happens to be divisible by the powers of two in the radix: the lowest half is
never overwritten, so the remainder a round leaves is never zero and no half is dropped. -/
theorem ends_below (value : BigInt) (radix : Nat) (least : 2 ≤ radix) (most : radix ≤ 36) :
    (value.magnitude < radix * 2 ^ 64 → Ends value radix) ∧
    (¬ Nat.gcd radix (2 ^ 32) ∣ value.magnitude → Ends value radix →
      value.magnitude < radix * 2 ^ 64) := by
  refine ⟨fun below => ?_, below_of_ends least most⟩
  obtain ⟨text, ⟨fuel, returned⟩, -, -⟩ := returns_below value least most below
  refine ⟨⟨fuel, text, returned⟩, fuel, text, ?_⟩
  rw [← runtimes_agree value least most fuel]
  exact returned

/-- 2^66 in radix 5. -/
theorem ends_two_words : Ends ⟨true, [0, 4], by decide⟩ 5 :=
  (ends_below ⟨true, [0, 4], by decide⟩ 5 (by decide) (by decide)).1 (by decide)

/-- 2^96 - 1 has no end in radix 10. -/
theorem three_halves_never_end : ¬ Ends ⟨false, [0xffffffffffffffff, 0xffffffff], by decide⟩ 10 := by
  intro ends
  have below := below_of_ends (by decide) (by decide) (by decide) ends
  exact absurd below (by decide)

/-! ## The buffer -/

/-- The body of the inner loop runs at `i`: it reads the half at `i - 1` and writes the
one at `i`. -/
inductive Enters (divisor : UInt32) (words : List UInt64) : Nat → Division → Prop
  | first (many : 2 < (Division.start words).count) :
      Enters divisor words (Division.start words).count (.start words)
  | lower {i : Nat} {division next : Division} (above : Enters divisor words (i + 2) division)
      (ok : divideHalf divisor (i + 2) division = .ok next) : Enters divisor words (i + 1) next
  | round {division next : Division} (last : Enters divisor words 1 division)
      (ok : divideHalf divisor 1 division = .ok next) (many : 2 < next.count) :
      Enters divisor words next.count next

/-- No half outside the buffer is touched: not while leading zeros are trimmed, not by
the body of the loop, and so in no run; and the count is never lowered below zero. -/
structure InsideBuffer (value : BigInt) (radix : Nat) : Prop where
  trims : ∀ index < value.words.length * 2, index < 2 * capacity value.words
  accesses : ∀ i division, Enters (UInt32.ofNat radix) value.words i division →
    i - 1 < 2 * capacity value.words ∧ i < 2 * capacity value.words
  counts : ∀ i division, Enters (UInt32.ofNat radix) value.words i division →
    i = division.count → 0 < division.count
  reads : ∀ fuel index,
    V8Runtime.bigintToString value radix fuel ≠ some (.error (.readOutside index)) ∧
      NodeApiJsiRuntime.bigintToString value radix fuel ≠ some (.error (.readOutside index))
  writes : ∀ fuel index,
    V8Runtime.bigintToString value radix fuel ≠ some (.error (.writeOutside index)) ∧
      NodeApiJsiRuntime.bigintToString value radix fuel ≠ some (.error (.writeOutside index))

/-- One half of the buffer stays free above the number. -/
def LeavesRoom (words : List UInt64) : Prop :=
  words.length < 8 ∨ ∀ top ∈ words.getLast?, top.toNat < 2 ^ 32

section

variable {radix : Nat} {words : List UInt64}

theorem length_le_capacity (words : List UInt64) : words.length ≤ capacity words := by
  rw [capacity]
  split
  · omega
  · exact Nat.le_refl _

theorem enters_bounds (least : 2 ≤ radix) (most : radix ≤ 36) {i : Nat} {division : Division}
    (enters : Enters (UInt32.ofNat radix) words i division) :
    0 < i ∧ i ≤ (Division.start words).count ∧ division.count ≤ (Division.start words).count := by
  have known := divisor_ofNat least most
  induction enters with
  | first many => exact ⟨by omega, Nat.le_refl _, Nat.le_refl _⟩
  | lower above ok ih =>
    have count := (divideHalf_ok known ok).count_le
    exact ⟨Nat.succ_pos _, by omega, by omega⟩
  | round last ok many ih =>
    have count := (divideHalf_ok known ok).count_le
    exact ⟨by omega, by omega, by omega⟩

/-- The count fills the buffer exactly when the high half of the top word is not zero
and the buffer has no word to spare. -/
theorem start_count_lt_iff (nonempty : words ≠ []) :
    (Division.start words).count < 2 * capacity words ↔ LeavesRoom words := by
  have few : (Division.start words).count ≤ words.length * 2 := trimmedCount_le _ _
  have positive := List.length_pos_iff.mpr nonempty
  have last := getElem?_last nonempty
  have high := (getElem?_start last).2
  have highest := List.getLast?_eq_some_getLast nonempty
  generalize words.getLast nonempty = top at last high highest
  rw [show 2 * (words.length - 1) + 1 = words.length * 2 - 1 by omega] at high
  by_cases short : words.length < 8
  · have room : capacity words = 8 := if_pos (by omega)
    exact iff_of_true (by omega) (.inl short)
  · have full : capacity words = words.length := by
      rw [capacity]
      split
      · omega
      · rfl
    have condition : LeavesRoom words ↔ top.toNat < 2 ^ 32 := by
      simp [LeavesRoom, short, highest]
    rw [condition, full]
    have value := hi32_toNat top
    constructor
    · intro below
      by_contra large
      have nonzero : hi32 top ≠ 0 := by
        intro zero
        rw [zero] at value
        change 0 = _ at value
        omega
      have counted := trimmedCount_gt (halvesOf (wordsArray words)) (k := words.length * 2 - 1)
        (by rw [high]; exact nonzero) (words.length * 2) (by omega)
      have all : words.length * 2 - 1 < (Division.start words).count := counted
      omega
    · intro small
      have zero : hi32 top = 0 := by
        apply UInt32.toNat_inj.mp
        rw [value, Nat.div_eq_of_lt small]
        rfl
      have dropped : (Division.start words).count =
          trimmedCount (halvesOf (wordsArray words)) (words.length * 2 - 1) := by
        rw [Division.start]
        obtain ⟨k, length⟩ : ∃ k, words.length * 2 = k + 1 := ⟨words.length * 2 - 1, by omega⟩
        rw [length, Nat.add_sub_cancel] at high ⊢
        rw [trimmedCount, if_pos (by rw [high]; exact zero)]
      have below := trimmedCount_le (halvesOf (wordsArray words)) (words.length * 2 - 1)
      omega

theorem bigintText_inside (invalid : String → Thrown) {value : BigInt} (least : 2 ≤ radix)
    (most : radix ≤ 36) (room : LeavesRoom value.words) (fuel : Nat) (failure : Failure) :
    bigintText invalid value radix fuel ≠ some (.error failure) := by
  by_cases empty : value.words = []
  · rw [bigintText_zero invalid value least most empty]
    intro failed
    cases failed
  · have below := (start_count_lt_iff empty).mpr room
    rw [← length_start] at below
    rw [bigintText_loop invalid value least most empty]
    intro failed
    obtain ⟨outcome, loop, result⟩ := Option.map_eq_some_iff.mp failed
    cases outcome with
    | ok digits => cases result
    | error reason =>
      exact digitLoop_inside (divisor_ofNat least most) reason fuel _ _ below loop

end

theorem room_of_inside {value : BigInt} {radix : Nat}
    (accesses : ∀ i division, Enters (UInt32.ofNat radix) value.words i division →
      i - 1 < 2 * capacity value.words ∧ i < 2 * capacity value.words) :
    LeavesRoom value.words := by
  by_cases empty : value.words = []
  · left
    rw [empty]
    decide
  · rw [← start_count_lt_iff empty]
    by_cases many : 2 < (Division.start value.words).count
    · exact (accesses _ _ (.first many)).2
    · have least : 8 ≤ capacity value.words := by
        rw [capacity]
        split
        · exact Nat.le_refl 8
        · omega
      omega

/-- The conversion stays inside its buffer exactly when it leaves room for one half
above the number: the quotient of the top half is written there. -/
theorem insideBuffer_iff (value : BigInt) (radix : Nat) (least : 2 ≤ radix) (most : radix ≤ 36) :
    InsideBuffer value radix ↔ LeavesRoom value.words := by
  constructor
  · intro inside
    exact room_of_inside inside.accesses
  · intro room
    have fits := length_le_capacity value.words
    refine ⟨fun index below => by omega, ?_, ?_, ?_, ?_⟩
    · intro i division enters
      obtain ⟨-, top, -⟩ := enters_bounds least most enters
      have nonempty : value.words ≠ [] := by
        intro empty
        have few : (Division.start value.words).count ≤ value.words.length * 2 :=
          trimmedCount_le _ _
        have positive := (enters_bounds least most enters).1
        rw [empty, List.length_nil] at few
        rw [empty] at top
        omega
      have below := (start_count_lt_iff nonempty).mpr room
      exact ⟨by omega, by omega⟩
    · intro i division enters here
      rw [← here]
      exact (enters_bounds least most enters).1
    · intro fuel index
      exact ⟨bigintText_inside _ least most room fuel _, bigintText_inside _ least most room fuel _⟩
    · intro fuel index
      exact ⟨bigintText_inside _ least most room fuel _, bigintText_inside _ least most room fuel _⟩

/-- Seven full words. -/
theorem insideBuffer_seven_words :
    InsideBuffer ⟨false, List.replicate 7 0xffffffffffffffff, by decide⟩ 10 :=
  (insideBuffer_iff ⟨false, List.replicate 7 0xffffffffffffffff, by decide⟩ 10 (by decide)
    (by decide)).mpr (.inl (by decide))

/-- 2^480 takes eight words, and its first division writes behind them. -/
theorem full_buffer_overrun :
    V8Runtime.bigintToString ⟨false, List.replicate 7 0 ++ [0x100000000], by decide⟩ 10 1 =
        some (.error (.writeOutside 16)) ∧
      ¬ InsideBuffer ⟨false, List.replicate 7 0 ++ [0x100000000], by decide⟩ 10 := by
  refine ⟨by decide, fun inside => ?_⟩
  have room := room_of_inside inside.accesses
  rcases room with short | small
  · exact absurd short (by decide)
  · exact absurd (small 0x100000000 (by decide)) (by decide)

end V8Jsi.BigIntText
