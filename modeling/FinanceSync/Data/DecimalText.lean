import FinanceSync.Data.QuantityEvent
import Mathlib.Algebra.Order.Field.Basic
import Mathlib.Data.List.DropRight
import Mathlib.Tactic.Positivity

/-!
# The text of a decimal

`str(decimal)` is the plain notation where that is short, and the scientific
notation elsewhere.  `Decimal(str(decimal))` is the decimal again, digit by digit.
-/

namespace FinanceSync

namespace Decimal

/-- The digits of the coefficient. -/
def digits (decimal : Decimal) : List Char := Nat.toDigits 10 decimal.coefficient.natAbs

/-- How many digits are left of the point in plain notation. -/
def leftDigits (decimal : Decimal) : Int := decimal.exponent + decimal.digits.length

/-- How many digits are left of the point in the text. -/
def dotPlace (decimal : Decimal) : Int :=
  if decimal.exponent ≤ 0 ∧ -6 < decimal.leftDigits then decimal.leftDigits else 1

def wholePart (decimal : Decimal) : List Char :=
  if decimal.dotPlace ≤ 0 then ['0']
  else if decimal.digits.length ≤ decimal.dotPlace then
    decimal.digits ++ List.replicate (decimal.dotPlace - decimal.digits.length).toNat '0'
  else decimal.digits.take decimal.dotPlace.toNat

def fractionPart (decimal : Decimal) : List Char :=
  if decimal.dotPlace ≤ 0 then
    List.replicate (-decimal.dotPlace).toNat '0' ++ decimal.digits
  else decimal.digits.drop decimal.dotPlace.toNat

/-- `"%+d" % number` -/
def signedDigits (number : Int) : List Char :=
  (if number < 0 then '-' else '+') :: Nat.toDigits 10 number.natAbs

/-- The fraction with its point. -/
def pointed (fraction : List Char) : List Char :=
  if fraction = [] then [] else '.' :: fraction

/-- The power of ten of the scientific notation. -/
def power (letter : Char) (number : Int) : List Char :=
  if number = 0 then [] else letter :: signedDigits number

/-- The characters after the sign. -/
def unsignedChars (decimal : Decimal) : List Char :=
  decimal.wholePart ++
    (pointed decimal.fractionPart ++ power 'E' (decimal.leftDigits - decimal.dotPlace))

def signed (negative : Bool) (chars : List Char) : List Char :=
  if negative then '-' :: chars else chars

/-- `str(decimal)` -/
def str (decimal : Decimal) : String :=
  String.ofList (signed (decimal.coefficient < 0) decimal.unsignedChars)

example : (⟨5, -8⟩ : Decimal).str = "5E-8" ∧ (⟨150, -2⟩ : Decimal).str = "1.50" := by
  decide +kernel

/-! ## Digits -/

theorem digits_ne_nil (decimal : Decimal) : decimal.digits ≠ [] := Nat.toDigits_ne_nil

theorem isDigit_of_mem_digits {decimal : Decimal} {char : Char}
    (isMem : char ∈ decimal.digits) : char.isDigit = true :=
  Nat.isDigit_of_mem_toDigits (by decide) (by decide) isMem

theorem digitsValue_eq (chars : List Char) : digitsValue chars = Nat.ofDigitChars 10 chars 0 :=
  Nat.ofDigitChars_eq_foldl.symm

theorem digitsValue_toDigits (number : Nat) : digitsValue (Nat.toDigits 10 number) = number := by
  rw [digitsValue_eq, Nat.ofDigitChars_ten_toDigits]

/-- Zeros before the digits do not count. -/
theorem digitsValue_zeros (count : Nat) (chars : List Char) :
    digitsValue (List.replicate count '0' ++ chars) = digitsValue chars := by
  rw [digitsValue_eq, Nat.ofDigitChars_append, Nat.ofDigitChars_replicate_zero, mul_zero,
    digitsValue_eq]

theorem isDigit_of_mem_wholePart {decimal : Decimal} {char : Char}
    (isMem : char ∈ decimal.wholePart) : char.isDigit = true := by
  rw [wholePart] at isMem
  split at isMem
  · rw [List.mem_singleton.mp isMem]
    rfl
  · split at isMem
    · cases List.mem_append.mp isMem with
      | inl digit => exact isDigit_of_mem_digits digit
      | inr zero =>
          rw [List.eq_of_mem_replicate zero]
          rfl
    · exact isDigit_of_mem_digits (List.mem_of_mem_take isMem)

theorem isDigit_of_mem_fractionPart {decimal : Decimal} {char : Char}
    (isMem : char ∈ decimal.fractionPart) : char.isDigit = true := by
  rw [fractionPart] at isMem
  split at isMem
  · cases List.mem_append.mp isMem with
    | inl zero =>
        rw [List.eq_of_mem_replicate zero]
        rfl
    | inr digit => exact isDigit_of_mem_digits digit
  · exact isDigit_of_mem_digits (List.mem_of_mem_drop isMem)

theorem wholePart_ne_nil (decimal : Decimal) : decimal.wholePart ≠ [] := by
  rw [wholePart]
  split
  · simp
  · next positive =>
      split
      · simp [digits_ne_nil]
      · rw [ne_eq, List.take_eq_nil_iff, not_or]
        exact ⟨by omega, decimal.digits_ne_nil⟩

/-- The digits of both parts are those of the coefficient, and the point and the
power of ten make up for each other. -/
theorem digitsValue_parts (decimal : Decimal) :
    digitsValue (decimal.wholePart ++ decimal.fractionPart) = decimal.coefficient.natAbs ∧
      decimal.leftDigits - decimal.dotPlace - decimal.fractionPart.length = decimal.exponent := by
  have isValue : digitsValue decimal.digits = decimal.coefficient.natAbs :=
    digitsValue_toDigits _
  have positive : 0 < decimal.digits.length := List.length_pos_iff.mpr decimal.digits_ne_nil
  have isLeft : decimal.leftDigits = decimal.exponent + decimal.digits.length := rfl
  have isPlace : decimal.dotPlace = decimal.leftDigits ∧ decimal.exponent ≤ 0 ∨
      decimal.dotPlace = 1 := by
    rw [dotPlace]
    split
    · next plain => exact .inl ⟨rfl, plain.1⟩
    · exact .inr rfl
  rw [wholePart, fractionPart]
  split
  · next noneLeft =>
      constructor
      · change digitsValue (List.replicate 1 '0' ++ (List.replicate _ '0' ++ decimal.digits)) = _
        rw [digitsValue_zeros, digitsValue_zeros, isValue]
      · rw [List.length_append, List.length_replicate]
        omega
  · next someLeft =>
      split
      · next allLeft =>
          have noZeros : (decimal.dotPlace - decimal.digits.length).toNat = 0 := by omega
          have noFraction : decimal.digits.drop decimal.dotPlace.toNat = [] := by
            rw [List.drop_eq_nil_iff]
            omega
          rw [noZeros, noFraction, List.replicate_zero, List.append_nil, List.append_nil, isValue]
          refine ⟨rfl, ?_⟩
          rw [List.length_nil]
          omega
      · next someRight =>
          rw [List.take_append_drop, isValue, List.length_drop]
          refine ⟨rfl, ?_⟩
          omega

/-! ## Reading the text -/

/-- A digit or a character of the scientific notation in lower case. -/
def Plain (char : Char) : Prop :=
  char.isDigit = true ∨ char ∈ ['.', '+', '-', 'e']

theorem toNat_of_isDigit {char : Char} (digit : char.isDigit = true) :
    48 ≤ char.toNat ∧ char.toNat ≤ 57 :=
  Char.isDigit_iff_toNat.mp digit

theorem toLower_of_isDigit {char : Char} (digit : char.isDigit = true) :
    char.toLower = char := by
  obtain ⟨-, atMost⟩ := toNat_of_isDigit digit
  apply dif_neg
  intro upper
  have atLeast : 65 ≤ char.toNat := UInt32.le_iff_toNat_le.mp upper.1
  omega

theorem Plain.toLower {char : Char} (plain : Plain char) : char.toLower = char := by
  cases plain with
  | inl digit => exact toLower_of_isDigit digit
  | inr mark =>
      simp only [List.mem_cons, List.not_mem_nil, or_false] at mark
      obtain rfl | rfl | rfl | rfl := mark <;> decide

theorem Plain.not_space {char : Char} (plain : Plain char) : isSpace char = false := by
  cases plain with
  | inl digit =>
      have bounds := toNat_of_isDigit digit
      simp only [isSpace, Bool.or_eq_false_iff, Bool.and_eq_false_iff, decide_eq_false_iff_not]
      omega
  | inr mark =>
      simp only [List.mem_cons, List.not_mem_nil, or_false] at mark
      obtain rfl | rfl | rfl | rfl := mark <;> decide

theorem Plain.ne {char : Char} (plain : Plain char) : char ≠ '_' ∧ char ≠ ',' := by
  cases plain with
  | inl digit =>
      constructor
      · rintro rfl
        cases digit
      · rintro rfl
        cases digit
  | inr mark =>
      simp only [List.mem_cons, List.not_mem_nil, or_false] at mark
      obtain rfl | rfl | rfl | rfl := mark <;> decide

theorem strip_of_not_space {chars : List Char}
    (notSpace : ∀ char ∈ chars, isSpace char = false) : strip chars = chars := by
  have kept : ∀ {chars : List Char}, (∀ char ∈ chars, isSpace char = false) →
      chars.dropWhile isSpace = chars := by
    intro chars notSpace
    cases chars with
    | nil => rfl
    | cons first rest =>
        rw [List.dropWhile_cons, notSpace first List.mem_cons_self]
        rfl
  rw [strip, kept notSpace,
    kept fun char charMem => notSpace char (List.mem_reverse.mp charMem), List.reverse_reverse]

theorem map_toLower_of_plain {chars : List Char} (plain : ∀ char ∈ chars, Plain char) :
    chars.map Char.toLower = chars := by
  conv_rhs => rw [← List.map_id chars]
  exact List.map_congr_left fun char charMem => (plain char charMem).toLower

/-- `Decimal(text)` of a text in lower case without blanks. -/
def parseSigned : List Char → Option ParsedDecimal
  | '-' :: body => parseUnsigned true body
  | '+' :: body => parseUnsigned false body
  | body => parseUnsigned false body

theorem parseDecimal_of_not_space {chars : List Char}
    (notSpace : ∀ char ∈ chars, isSpace char = false) (noBlank : ∀ char ∈ chars, char ≠ '_') :
    parseDecimal chars = parseSigned (chars.map Char.toLower) := by
  have kept : chars.filter (· ≠ '_') = chars := by
    rw [List.filter_eq_self]
    intro char charMem
    simpa using noBlank char charMem
  rw [parseDecimal, strip_of_not_space notSpace, kept]
  rfl

theorem parseSigned_signed {chars : List Char} (negative : Bool) {first : Char}
    (starts : chars.head? = some first) (digit : first.isDigit = true) :
    parseSigned (signed negative chars) = parseUnsigned negative chars := by
  cases negative with
  | true => rfl
  | false =>
      cases chars with
      | nil => cases starts
      | cons head rest =>
          have isFirst : head = first := Option.some.inj starts
          have notSign : head ≠ '-' ∧ head ≠ '+' := by
            constructor
            · intro minus
              rw [← isFirst, minus] at digit
              cases digit
            · intro plus
              rw [← isFirst, plus] at digit
              cases digit
          rw [signed, if_neg (by decide), parseSigned]
          · intro body same
            exact notSign.1 (List.cons.inj same).1
          · intro body same
            exact notSign.2 (List.cons.inj same).1

/-- The digits at the start of a text. -/
theorem takeWhile_digits {digits rest : List Char} (allDigits : ∀ char ∈ digits, char.isDigit)
    (ends : ∀ char ∈ rest.head?, char.isDigit = false) :
    (digits ++ rest).takeWhile Char.isDigit = digits ∧
      (digits ++ rest).dropWhile Char.isDigit = rest := by
  rw [List.takeWhile_append_of_pos allDigits, List.dropWhile_append_of_pos allDigits]
  cases rest with
  | nil => simp
  | cons first rest =>
      have notDigit := ends first rfl
      simp [notDigit]

theorem head?_pointed {fraction tail : List Char}
    (ends : ∀ char ∈ tail.head?, char.isDigit = false) :
    ∀ char ∈ (pointed fraction ++ tail).head?, char.isDigit = false := by
  rw [pointed]
  split
  · exact ends
  · intro char charMem
    cases charMem
    rfl

def withSign (negative : Bool) (decimal : Decimal) : Decimal :=
  if negative then -decimal else decimal

/-- What is read where the digits of a number are followed by a power of ten or by
nothing. -/
def readPower (negative : Bool) (whole fraction : List Char) : List Char → Option ParsedDecimal
  | [] => some (.finite (withSign negative (decimalOfDigits whole fraction 0)))
  | 'e' :: exponent =>
      (parseExponent exponent).map fun number =>
        .finite (withSign negative (decimalOfDigits whole fraction number))
  | _ => none

/-- The digits of a number are read as they are; what follows is no digit and no
point. -/
theorem parseUnsigned_parts (negative : Bool) {whole fraction tail : List Char}
    (wholeDigits : ∀ char ∈ whole, char.isDigit) (nonempty : whole ≠ [])
    (fractionDigits : ∀ char ∈ fraction, char.isDigit)
    (ends : ∀ char ∈ tail.head?, char.isDigit = false ∧ char ≠ '.') :
    parseUnsigned negative (whole ++ (pointed fraction ++ tail)) =
      readPower negative whole fraction tail := by
  have noDigit : ∀ char ∈ tail.head?, char.isDigit = false :=
    fun char charMem => (ends char charMem).1
  obtain ⟨isWhole, isRest⟩ := takeWhile_digits wholeDigits (head?_pointed noDigit)
  obtain ⟨isFraction, isTail⟩ := takeWhile_digits fractionDigits noDigit
  rw [parseUnsigned, isWhole, isRest]
  cases fraction with
  | nil =>
      cases tail with
      | nil => simp [pointed, nonempty, readPower, withSign]
      | cons first rest =>
          have noPoint : first ≠ '.' := (ends first rfl).2
          simp [pointed, nonempty, noPoint]
          rfl
  | cons digit fraction =>
      simp only [pointed, reduceCtorEq, if_false, List.cons_append] at isFraction isTail ⊢
      simp only [isFraction, isTail, nonempty, false_and, if_false]
      rfl

theorem parseExponent_signedDigits (number : Int) :
    parseExponent (signedDigits number) = some number := by
  have allDigits : (Nat.toDigits 10 number.natAbs).all Char.isDigit = true :=
    List.all_eq_true.mpr fun _ digitMem =>
      Nat.isDigit_of_mem_toDigits (by decide) (by decide) digitMem
  have isMagnitude : digitsValue (Nat.toDigits 10 number.natAbs) = number.natAbs :=
    digitsValue_toDigits _
  rw [signedDigits]
  split
  · next negative =>
      simp only [parseExponent, allDigits, ne_eq, Nat.toDigits_ne_nil, not_false_eq_true,
        and_self, if_true, isMagnitude]
      change some (-(number.natAbs : Int)) = some number
      rw [Int.ofNat_natAbs_of_nonpos negative.le, neg_neg]
  · next positive =>
      simp only [parseExponent, allDigits, ne_eq, Nat.toDigits_ne_nil, not_false_eq_true,
        and_self, if_true, isMagnitude]
      exact congrArg some (Int.natAbs_of_nonneg (not_lt.mp positive))

theorem readPower_power (negative : Bool) (whole fraction : List Char) (number : Int) :
    readPower negative whole fraction (power 'e' number) =
      some (.finite (withSign negative (decimalOfDigits whole fraction number))) := by
  rw [power]
  split
  · next zero =>
      rw [zero]
      rfl
  · rw [readPower, parseExponent_signedDigits, Option.map_some]

theorem plain_signedDigits {number : Int} {char : Char}
    (isMem : char ∈ signedDigits number) : Plain char := by
  cases List.mem_cons.mp isMem with
  | inl sign =>
      rw [sign]
      split
      · exact .inr (by decide)
      · exact .inr (by decide)
  | inr digit => exact .inl (Nat.isDigit_of_mem_toDigits (by decide) (by decide) digit)

/-- The characters after the sign in lower case. -/
def loweredChars (decimal : Decimal) : List Char :=
  decimal.wholePart ++
    (pointed decimal.fractionPart ++ power 'e' (decimal.leftDigits - decimal.dotPlace))

theorem plain_pointed {decimal : Decimal} {char : Char}
    (isMem : char ∈ pointed decimal.fractionPart) : Plain char := by
  rw [pointed] at isMem
  split at isMem
  · cases isMem
  · cases List.mem_cons.mp isMem with
    | inl point => exact .inr (by simp [point])
    | inr digit => exact .inl (isDigit_of_mem_fractionPart digit)

theorem plain_loweredChars {decimal : Decimal} :
    ∀ char ∈ decimal.loweredChars, Plain char := by
  intro char isMem
  rw [loweredChars, List.mem_append, List.mem_append] at isMem
  rcases isMem with whole | fraction | exponent
  · exact .inl (isDigit_of_mem_wholePart whole)
  · exact plain_pointed fraction
  · rw [power] at exponent
    split at exponent
    · cases exponent
    · cases List.mem_cons.mp exponent with
      | inl letter => exact .inr (by simp [letter])
      | inr sign => exact plain_signedDigits sign

theorem map_toLower_power (number : Int) :
    (power 'E' number).map Char.toLower = power 'e' number := by
  rw [power, power]
  split
  · rfl
  · rw [List.map_cons, map_toLower_of_plain fun _ charMem => plain_signedDigits charMem]
    rfl

theorem map_toLower_unsignedChars (decimal : Decimal) :
    decimal.unsignedChars.map Char.toLower = decimal.loweredChars := by
  have whole : decimal.wholePart.map Char.toLower = decimal.wholePart :=
    map_toLower_of_plain fun _ charMem => .inl (isDigit_of_mem_wholePart charMem)
  have fraction : (pointed decimal.fractionPart).map Char.toLower =
      pointed decimal.fractionPart :=
    map_toLower_of_plain fun _ charMem => plain_pointed charMem
  rw [unsignedChars, List.map_append, List.map_append, whole, fraction, map_toLower_power,
    loweredChars]

theorem head?_power {number : Int} :
    ∀ char ∈ (power 'e' number).head?, char.isDigit = false ∧ char ≠ '.' := by
  rw [power]
  split
  · simp
  · intro char charMem
    cases charMem
    decide

/-- The characters after the sign and a sign before them are read as the decimal
with that sign. -/
theorem parseSigned_loweredChars (negative : Bool) (decimal : Decimal) :
    parseSigned (signed negative decimal.loweredChars) =
      some (.finite (withSign negative decimal.abs)) := by
  obtain ⟨first, rest, isWhole⟩ := List.exists_cons_of_ne_nil decimal.wholePart_ne_nil
  have starts : decimal.loweredChars.head? = some first := by
    rw [loweredChars, isWhole]
    rfl
  have digit : first.isDigit = true :=
    isDigit_of_mem_wholePart (isWhole ▸ List.mem_cons_self)
  rw [parseSigned_signed negative starts digit, loweredChars,
    parseUnsigned_parts negative (fun _ charMem => isDigit_of_mem_wholePart charMem)
      decimal.wholePart_ne_nil (fun _ charMem => isDigit_of_mem_fractionPart charMem) head?_power,
    readPower_power, decimalOfDigits]
  obtain ⟨isValue, isExponent⟩ := decimal.digitsValue_parts
  rw [isValue, isExponent]
  rfl

theorem unsignedChars_not_space {decimal : Decimal} :
    ∀ char ∈ decimal.unsignedChars, isSpace char = false := by
  intro char isMem
  rw [unsignedChars, List.mem_append, List.mem_append] at isMem
  rcases isMem with whole | fraction | exponent
  · exact Plain.not_space (.inl (isDigit_of_mem_wholePart whole))
  · exact (plain_pointed fraction).not_space
  · rw [power] at exponent
    split at exponent
    · cases exponent
    · cases List.mem_cons.mp exponent with
      | inl letter =>
          rw [letter]
          decide
      | inr sign => exact (plain_signedDigits sign).not_space

theorem unsignedChars_ne_underscore {decimal : Decimal} :
    ∀ char ∈ decimal.unsignedChars, char ≠ '_' := by
  intro char isMem underscore
  have lowered : char.toLower ∈ decimal.loweredChars := by
    rw [← map_toLower_unsignedChars]
    exact List.mem_map_of_mem isMem
  rw [underscore] at lowered
  exact (plain_loweredChars _ lowered).ne.1 rfl

/-- A sign and the characters after it are read as the decimal with that sign. -/
theorem parseDecimal_signed (negative : Bool) (decimal : Decimal) :
    parseDecimal (signed negative decimal.unsignedChars) =
      some (.finite (withSign negative decimal.abs)) := by
  rw [← parseSigned_loweredChars, ← map_toLower_unsignedChars]
  cases negative with
  | false => exact parseDecimal_of_not_space unsignedChars_not_space unsignedChars_ne_underscore
  | true =>
      change parseDecimal ('-' :: decimal.unsignedChars) =
        parseSigned (('-' :: decimal.unsignedChars).map Char.toLower)
      apply parseDecimal_of_not_space
      · intro char isMem
        cases isMem with
        | head => decide
        | tail _ isMem => exact unsignedChars_not_space char isMem
      · intro char isMem
        cases isMem with
        | head => decide
        | tail _ isMem => exact unsignedChars_ne_underscore char isMem

theorem value_abs (decimal : Decimal) : decimal.abs.value = |decimal.value| := by
  obtain ⟨coefficient, exponent⟩ := decimal
  cases exponent with
  | ofNat places => simp [abs, value, abs_mul]
  | negSucc places => simp [abs, value, abs_div]

theorem withSign_abs (decimal : Decimal) :
    withSign (decimal.coefficient < 0) decimal.abs = decimal := by
  cases decimal with
  | mk coefficient exponent =>
      simp only [withSign, abs, decide_eq_true_eq]
      split
      · next negative =>
          apply congrArg (Decimal.mk · exponent)
          rw [Int.ofNat_natAbs_of_nonpos negative.le, neg_neg]
      · next positive =>
          exact congrArg (Decimal.mk · exponent) (Int.natAbs_of_nonneg (not_lt.mp positive))

theorem unsignedChars_ne_minus (decimal : Decimal) (rest : List Char) :
    decimal.unsignedChars ≠ '-' :: rest := by
  intro minus
  obtain ⟨first, others, isWhole⟩ := List.exists_cons_of_ne_nil decimal.wholePart_ne_nil
  have digit : first.isDigit = true :=
    isDigit_of_mem_wholePart (isWhole ▸ List.mem_cons_self)
  rw [unsignedChars, isWhole, List.cons_append, List.cons.injEq] at minus
  rw [minus.1] at digit
  cases digit

theorem exists_digit_str (decimal : Decimal) : ∃ digit ∈ decimal.str.toList, digit.isDigit := by
  obtain ⟨digit, whole⟩ := List.exists_mem_of_ne_nil _ (wholePart_ne_nil decimal)
  refine ⟨digit, ?_, isDigit_of_mem_wholePart whole⟩
  have unsigned : digit ∈ decimal.unsignedChars := List.mem_append_left _ whole
  rw [str, String.toList_ofList, signed]
  split
  · exact List.mem_cons_of_mem _ unsigned
  · exact unsigned

/-- `Decimal(str(decimal))` -/
theorem parseDecimal_str (decimal : Decimal) :
    parseDecimal decimal.str.toList = some (.finite decimal) := by
  rw [str, String.toList_ofList, parseDecimal_signed, withSign_abs]

/-- The characters of the text are plain but for the letter of the exponent. -/
theorem plain_or_eq_of_mem_str {decimal : Decimal} {char : Char}
    (isMem : char ∈ decimal.str.toList) : Plain char ∨ char = 'E' := by
  have unsigned : ∀ char ∈ decimal.unsignedChars, Plain char ∨ char = 'E' := by
    intro char isMem
    rw [unsignedChars, List.mem_append, List.mem_append] at isMem
    rcases isMem with whole | fraction | exponent
    · exact .inl (.inl (isDigit_of_mem_wholePart whole))
    · exact .inl (plain_pointed fraction)
    · rw [power] at exponent
      split at exponent
      · cases exponent
      · cases List.mem_cons.mp exponent with
        | inl letter => exact .inr letter
        | inr sign => exact .inl (plain_signedDigits sign)
  rw [str, String.toList_ofList, signed] at isMem
  split at isMem
  · cases isMem with
    | head => exact .inl (.inr (by decide))
    | tail _ later => exact unsigned char later
  · exact unsigned char isMem

/-- The text is ASCII without blanks. -/
theorem ascii_of_mem_str {decimal : Decimal} {char : Char}
    (isMem : char ∈ decimal.str.toList) :
    char.toNat < 128 ∧ isSpace char = false ∧ char ≠ '_' := by
  cases plain_or_eq_of_mem_str isMem with
  | inl plain =>
      refine ⟨?_, plain.not_space, plain.ne.1⟩
      cases plain with
      | inl digit => exact Nat.lt_of_le_of_lt (toNat_of_isDigit digit).2 (by decide)
      | inr mark =>
          simp only [List.mem_cons, List.not_mem_nil, or_false] at mark
          obtain rfl | rfl | rfl | rfl := mark <;> decide
  | inr letter =>
      rw [letter]
      decide

/-- Texts that differ in the letter case only are texts of one decimal. -/
theorem eq_of_map_toLower_str {decimal other : Decimal}
    (same : decimal.str.toList.map Char.toLower = other.str.toList.map Char.toLower) :
    decimal = other := by
  have read : ∀ decimal : Decimal,
      parseSigned (decimal.str.toList.map Char.toLower) = some (.finite decimal) := by
    intro decimal
    rw [← parseDecimal_str decimal, parseDecimal_of_not_space]
    · intro char charMem
      exact (ascii_of_mem_str charMem).2.1
    · intro char charMem
      exact (ascii_of_mem_str charMem).2.2
  have both := read decimal
  rw [same, read other] at both
  cases both
  rfl

/-- The digits at the start of a text are a plain number. -/
theorem plainNumber_parts {whole fraction tail : List Char}
    (wholeDigits : ∀ char ∈ whole, char.isDigit) (nonempty : whole ≠ [])
    (fractionDigits : ∀ char ∈ fraction, char.isDigit)
    (ends : ∀ char ∈ tail.head?, char.isDigit = false ∧ char ≠ '.') :
    plainNumber (whole ++ (pointed fraction ++ tail)) =
      some (decimalOfDigits whole fraction 0, tail) := by
  have noDigit : ∀ char ∈ tail.head?, char.isDigit = false :=
    fun char charMem => (ends char charMem).1
  obtain ⟨isWhole, isRest⟩ := takeWhile_digits wholeDigits (head?_pointed noDigit)
  obtain ⟨isFraction, isTail⟩ := takeWhile_digits fractionDigits noDigit
  rw [plainNumber, isWhole, isRest]
  cases fraction with
  | nil =>
      cases tail with
      | nil => simp [pointed, nonempty]
      | cons first rest =>
          have noPoint : first ≠ '.' := (ends first rfl).2
          simp [pointed, nonempty, noPoint]
  | cons digit fraction =>
      simp only [pointed, reduceCtorEq, if_false, List.cons_append] at isFraction isTail ⊢
      simp only [isFraction, isTail, nonempty, if_false, reduceCtorEq]

/-- The text of a decimal is no ratio of two numbers. -/
theorem ratioMatch_loweredChars (decimal : Decimal) :
    ratioMatch decimal.loweredChars = none := by
  have number : plainNumber decimal.loweredChars =
      some (decimalOfDigits decimal.wholePart decimal.fractionPart 0,
        power 'e' (decimal.leftDigits - decimal.dotPlace)) :=
    plainNumber_parts (fun _ charMem => isDigit_of_mem_wholePart charMem)
      decimal.wholePart_ne_nil (fun _ charMem => isDigit_of_mem_fractionPart charMem) head?_power
  have noSeparator : afterSeparator ((power 'e'
      (decimal.leftDigits - decimal.dotPlace)).dropWhile isSpace) = none := by
    rw [power]
    split
    · rfl
    · rfl
  rw [ratioMatch, number]
  simp [noSeparator]

theorem coefficient_nonneg {decimal : Decimal} (nonneg : 0 ≤ decimal.value) :
    0 ≤ decimal.coefficient := by
  by_contra negative
  have below : (decimal.coefficient : ℚ) < 0 := by exact_mod_cast not_le.mp negative
  rw [value] at nonneg
  split at nonneg
  · next places _ =>
      have power : (0 : ℚ) < 10 ^ places := by positivity
      exact absurd nonneg (mul_neg_of_neg_of_pos below power).not_ge
  · next places _ =>
      have power : (0 : ℚ) < 10 ^ (places + 1) := by positivity
      exact absurd nonneg (div_neg_of_neg_of_pos below power).not_ge

/-- A positive decimal is read as a ratio from its text. -/
theorem positiveRatio_str {decimal : Decimal} (positive : 0 < decimal.value) :
    positiveRatio (.string decimal.str) = some decimal.value := by
  have nonneg : ¬decimal.coefficient < 0 := (coefficient_nonneg positive.le).not_gt
  have isText : decimal.str.toList = decimal.unsignedChars := by
    rw [str, String.toList_ofList, signed, if_neg (by simpa using nonneg)]
  have noComma : decimal.loweredChars.map (fun char => if char = ',' then '.' else char) =
      decimal.loweredChars := by
    conv_rhs => rw [← List.map_id decimal.loweredChars]
    apply List.map_congr_left
    intro char charMem
    exact if_neg (plain_loweredChars char charMem).ne.2
  have isNumber : parseDecimal decimal.loweredChars = some (.finite decimal) := by
    rw [parseDecimal_of_not_space fun char charMem => (plain_loweredChars char charMem).not_space,
      map_toLower_of_plain plain_loweredChars]
    · have read := parseSigned_loweredChars (decimal.coefficient < 0) decimal
      rwa [withSign_abs, signed, if_neg (by simpa using nonneg)] at read
    · exact fun char charMem => (plain_loweredChars char charMem).ne.1
  simp only [positiveRatio, Json.str, isText, strip_of_not_space unsignedChars_not_space,
    map_toLower_unsignedChars, noComma, ratioMatch_loweredChars, isNumber]
  simp [positive]

end Decimal

/-! ## Stripping -/

theorem isSpace_of_isDigit {char : Char} (digit : char.isDigit = true) : isSpace char = false :=
  (Decimal.Plain.not_space (.inl digit))

theorem mem_strip {char : Char} {chars : List Char} (isMem : char ∈ chars)
    (visible : isSpace char = false) : char ∈ strip chars := by
  have kept : ∀ list : List Char, char ∈ list → char ∈ list.dropWhile isSpace := by
    intro list inList
    rw [← List.takeWhile_append_dropWhile (p := isSpace) (l := list), List.mem_append] at inList
    cases inList with
    | inl blank =>
        have space := List.mem_takeWhile_imp blank
        rw [visible] at space
        cases space
    | inr rest => exact rest
  rw [strip, List.mem_reverse]
  apply kept
  rw [List.mem_reverse]
  exact kept chars isMem

theorem strip_eq (chars : List Char) :
    strip chars = (chars.dropWhile isSpace).rdropWhile isSpace := rfl

theorem strip_strip (chars : List Char) : strip (strip chars) = strip chars := by
  have first : (strip chars).dropWhile isSpace = strip chars := by
    rw [List.dropWhile_eq_self_iff]
    intro nonempty
    have isPrefix : strip chars <+: chars.dropWhile isSpace := List.rdropWhile_prefix isSpace _
    rw [isPrefix.getElem]
    exact List.dropWhile_get_zero_not _ _ (nonempty.trans_le isPrefix.length_le)
  rw [strip_eq, first, strip_eq, List.rdropWhile_idempotent]

end FinanceSync
