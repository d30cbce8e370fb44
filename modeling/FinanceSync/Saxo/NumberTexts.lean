import FinanceSync.Saxo.Connector

/-!
# Numbers in texts

A number is written under the Dutch convention, with points between the thousands and a
decimal comma, or under the English one with commas and a decimal point.  `_decimal` drops
the points where there is a comma as well, and then reads the comma as a point.

That is the Dutch reading.  An English number with a comma comes out a thousand times too
small or not at all, and so does a Dutch one with points and no comma.
-/

namespace FinanceSync.Saxo

/-! ## Conventions -/

inductive Convention
  | dutch
  | english

def Convention.group : Convention → Char
  | dutch => '.'
  | english => ','

def Convention.mark : Convention → Char
  | dutch => ','
  | english => '.'

inductive Sign
  | none
  | plus
  | minus

def Sign.chars : Sign → List Char
  | none => []
  | plus => ['+']
  | minus => ['-']

def Sign.isMinus : Sign → Bool
  | minus => true
  | _ => false

def IsDigits (chars : List Char) : Prop := ∀ char ∈ chars, char.isDigit

theorem isDigits_of_all {chars : List Char} (all : chars.all Char.isDigit) : IsDigits chars :=
  List.all_eq_true.mp all

/-- A signed number with its digits before and after the decimal mark. -/
structure Numeral where
  sign : Sign
  whole : List Char
  fraction : List Char
  isWhole : IsDigits whole
  isFraction : IsDigits fraction
  nonempty : whole ++ fraction ≠ []

def Numeral.decimal (numeral : Numeral) : Decimal :=
  Decimal.withSign numeral.sign.isMinus (decimalOfDigits numeral.whole numeral.fraction 0)

/-- Up to three digits of which the first is no zero, and after every separator three
more. -/
inductive IsGrouped (separator : Char) : List Char → List Char → Prop
  | first {first : Char} {digits : List Char} (isDigits : IsDigits (first :: digits))
      (notZero : first ≠ '0') (short : digits.length < 3) :
      IsGrouped separator (first :: digits) (first :: digits)
  | next {text digits group : List Char} (before : IsGrouped separator text digits)
      (isDigits : IsDigits group) (three : group.length = 3) :
      IsGrouped separator (text ++ separator :: group) (digits ++ group)

/-- The text is the number under the convention, with or without separators between the
thousands. -/
inductive Reads (convention : Convention) (numeral : Numeral) : List Char → Prop
  | integer {text : List Char}
      (isText : text = numeral.whole ∨ IsGrouped convention.group text numeral.whole)
      (noFraction : numeral.fraction = []) : Reads convention numeral (numeral.sign.chars ++ text)
  | fraction {text : List Char}
      (isText : text = numeral.whole ∨ IsGrouped convention.group text numeral.whole) :
      Reads convention numeral
        (numeral.sign.chars ++ (text ++ convention.mark :: numeral.fraction))

/-! ## `_decimal` -/

/-- A text without currency signs and blanks. -/
def keptChars (text : String) : List Char :=
  (cleanText text).toList.filter fun char => char ∉ ['€', '$', '£', ' ']

/-- The points are dropped where there is a comma as well, and commas become points. -/
def pointed (chars : List Char) : List Char :=
  (if ',' ∈ chars ∧ '.' ∈ chars then chars.filter (· ≠ '.') else chars).map fun char =>
    if char = ',' then '.' else char

/-- `_decimal` of a text; `none` is a `ValueError`. -/
def decimalOfText (text : String) : Option ParsedDecimal :=
  if cleanText text ∈ blanks then none else parseDecimal (numberText text)

def valueOf : ParsedDecimal → Option ℚ
  | .finite number => some number.value
  | _ => none

def finite : Option ParsedDecimal → Option Decimal
  | some (.finite number) => some number
  | _ => none

/-- The reader of the exports, which refuses besides what is not finite. -/
theorem optionalDecimal_text (runtime : Runtime) (text field : String) :
    (optionalDecimal runtime (.text text) field).toOption =
      if cleanText text ∈ blanks then some none
      else (finite (decimalOfText text)).map some := by
  unfold optionalDecimal decimalOfText
  by_cases blank : cleanText text ∈ blanks
  · rw [if_pos blank, if_pos (show clean runtime (.text text) ∈ blanks from blank)]
    rfl
  · rw [if_neg blank, if_neg (show clean runtime (.text text) ∉ blanks from blank), if_neg blank]
    simp only [Cell.str]
    generalize parseDecimal (numberText text) = parsed
    rcases parsed with _ | _ | _ | _ <;> rfl

theorem decimalOfText_eq (text : String) :
    decimalOfText text = parseDecimal (pointed (keptChars text)) := by
  unfold decimalOfText
  split
  · next blank =>
      simp only [blanks, List.mem_cons, List.not_mem_nil, or_false] at blank
      unfold keptChars
      rcases blank with same | same | same | same <;> rw [same] <;> rfl
  · rfl

/-! ## Literals of digits and points -/

theorem ne_of_isDigit {char : Char} (digit : char.isDigit) :
    char ≠ '.' ∧ char ≠ ',' ∧ char ≠ '-' ∧ char ≠ '+' := by
  refine ⟨?_, ?_, ?_, ?_⟩ <;> intro same <;> rw [same] at digit <;> exact absurd digit (by decide)

/-- Digits and points. -/
def IsNumeric (chars : List Char) : Prop := ∀ char ∈ chars, char.isDigit ∨ char = '.'

theorem IsDigits.isNumeric {chars : List Char} (isDigits : IsDigits chars) : IsNumeric chars :=
  fun char isMem => .inl (isDigits char isMem)

theorem IsNumeric.append {first second : List Char} (isFirst : IsNumeric first)
    (isSecond : IsNumeric second) : IsNumeric (first ++ second) := by
  intro char isMem
  rcases List.mem_append.mp isMem with inFirst | inSecond
  · exact isFirst char inFirst
  · exact isSecond char inSecond

theorem IsNumeric.point {chars : List Char} (isNumeric : IsNumeric chars) :
    IsNumeric ('.' :: chars) :=
  IsNumeric.append (fun _ isMem => .inr (List.mem_singleton.mp isMem)) isNumeric

theorem parseDecimal_signed (sign : Sign) {body : List Char} (numeric : IsNumeric body) :
    parseDecimal (sign.chars ++ body) = parseUnsigned sign.isMinus body := by
  have plainBody : ∀ char ∈ body, Decimal.Plain char := by
    intro char isMem
    rcases numeric char isMem with digit | rfl
    · exact .inl digit
    · exact .inr (by decide)
  have plain : ∀ char ∈ sign.chars ++ body, Decimal.Plain char := by
    intro char isMem
    rcases List.mem_append.mp isMem with inSign | inBody
    · cases sign <;> simp only [Sign.chars, List.mem_cons, List.not_mem_nil, or_false] at inSign <;>
        rw [inSign] <;> exact .inr (by decide)
    · exact plainBody char inBody
  rw [Decimal.parseDecimal_of_not_space (fun char isMem => (plain char isMem).not_space)
    (fun char isMem => (plain char isMem).ne.1), Decimal.map_toLower_of_plain plain]
  cases sign with
  | none =>
      cases body with
      | nil => rfl
      | cons head rest =>
          have noSign : head ≠ '-' ∧ head ≠ '+' := by
            rcases numeric head List.mem_cons_self with digit | rfl
            · exact (ne_of_isDigit digit).2.2
            · decide
          simp [Sign.chars, Decimal.parseSigned, noSign.1, noSign.2, Sign.isMinus]
  | plus => rfl
  | minus => rfl

theorem parseUnsigned_digits (negative : Bool) {digits : List Char} (isDigits : IsDigits digits)
    (nonempty : digits ≠ []) :
    parseUnsigned negative digits =
      some (.finite (Decimal.withSign negative (decimalOfDigits digits [] 0))) := by
  have parsed := @Decimal.takeWhile_digits digits [] isDigits (by simp)
  rw [List.append_nil] at parsed
  rw [parseUnsigned, parsed.1, parsed.2]
  simp [nonempty, Decimal.withSign]

/-- A point between digits, of which there may be none on one side. -/
theorem parseUnsigned_point (negative : Bool) {whole fraction : List Char}
    (isWhole : IsDigits whole) (isFraction : IsDigits fraction)
    (nonempty : whole ++ fraction ≠ []) :
    parseUnsigned negative (whole ++ '.' :: fraction) =
      some (.finite (Decimal.withSign negative (decimalOfDigits whole fraction 0))) := by
  have parsedWhole := @Decimal.takeWhile_digits whole ('.' :: fraction) isWhole (by simp)
  have parsed := @Decimal.takeWhile_digits fraction [] isFraction (by simp)
  rw [List.append_nil] at parsed
  rw [ne_eq, List.append_eq_nil_iff] at nonempty
  rw [parseUnsigned, parsedWhole.1, parsedWhole.2]
  simp [parsed, nonempty, Decimal.withSign]

/-- No literal has two points. -/
theorem parseUnsigned_points (negative : Bool) {whole fraction : List Char} (rest : List Char)
    (isWhole : IsDigits whole) (isFraction : IsDigits fraction) :
    parseUnsigned negative (whole ++ '.' :: (fraction ++ '.' :: rest)) = none := by
  have parsedWhole := @Decimal.takeWhile_digits whole ('.' :: (fraction ++ '.' :: rest)) isWhole
    (by simp)
  have parsed := @Decimal.takeWhile_digits fraction ('.' :: rest) isFraction (by simp)
  rw [parseUnsigned, parsedWhole.1, parsedWhole.2]
  simp only [parsed]
  split
  · next none =>
      rw [none.1, none.2]
      simp
  · rfl

/-! ## Groups -/

theorem IsGrouped.mem {separator : Char} {text digits : List Char}
    (grouped : IsGrouped separator text digits) {char : Char} (isMem : char ∈ text) :
    char.isDigit ∨ char = separator := by
  induction grouped with
  | first isDigits => exact .inl (isDigits char isMem)
  | next _ isDigits _ ih =>
      rcases List.mem_append.mp isMem with before | after
      · exact ih before
      · rcases List.mem_cons.mp after with same | inGroup
        · exact .inr same
        · exact .inl (isDigits char inGroup)

theorem filter_digits {separator : Char} (noDigit : separator.isDigit = false)
    {digits : List Char} (isDigits : IsDigits digits) :
    digits.filter (· ≠ separator) = digits := by
  apply List.filter_eq_self.mpr
  intro char isMem
  apply decide_eq_true
  rintro rfl
  rw [isDigits char isMem] at noDigit
  cases noDigit

theorem IsGrouped.filter {separator : Char} (noDigit : separator.isDigit = false)
    {text digits : List Char} (grouped : IsGrouped separator text digits) :
    text.filter (· ≠ separator) = digits := by
  induction grouped with
  | first isDigits => exact filter_digits noDigit isDigits
  | next _ isDigits _ ih =>
      rw [List.filter_append, ih, List.filter_cons_of_neg (by simp),
        filter_digits noDigit isDigits]

theorem foldl_digits_le (digits : List Char) (value : Nat) :
    value ≤ digits.foldl (fun value digit => 10 * value + (digit.toNat - '0'.toNat)) value := by
  induction digits generalizing value with
  | nil => exact le_rfl
  | cons digit rest ih =>
      refine le_trans ?_ (ih _)
      change value ≤ 10 * value + (digit.toNat - '0'.toNat)
      omega

theorem IsGrouped.isDigits {separator : Char} {text digits : List Char}
    (grouped : IsGrouped separator text digits) : IsDigits digits := by
  induction grouped with
  | first isDigits => exact isDigits
  | next _ isDigits _ ih =>
      intro char isMem
      rcases List.mem_append.mp isMem with before | after
      · exact ih char before
      · exact isDigits char after

/-- A number that is written in groups is not zero. -/
theorem IsGrouped.pos {separator : Char} {text digits : List Char}
    (grouped : IsGrouped separator text digits) (rest : List Char) :
    0 < digitsValue (digits ++ rest) := by
  induction grouped generalizing rest with
  | @first first digits isDigits notZero _ =>
      refine lt_of_lt_of_le ?_ (foldl_digits_le (digits ++ rest) _)
      have digit := Decimal.toNat_of_isDigit (isDigits first List.mem_cons_self)
      have other : first.toNat ≠ 48 := fun same => notZero (Char.toNat_inj.mp same)
      change 0 < 10 * 0 + (first.toNat - 48)
      omega
  | next _ _ _ ih =>
      rw [List.append_assoc]
      exact ih _

theorem IsGrouped.eq_of_short {separator : Char} {text digits : List Char}
    (grouped : IsGrouped separator text digits) (short : digits.length ≤ 3) : text = digits := by
  cases grouped with
  | first => rfl
  | @next text digits group before _ three =>
      have positive := before.pos []
      rw [List.length_append, three] at short
      have none : digits = [] := List.eq_nil_of_length_eq_zero (by omega)
      rw [none] at positive
      cases positive

theorem IsGrouped.separator_mem {separator : Char} {text digits : List Char}
    (grouped : IsGrouped separator text digits) (long : ¬ digits.length ≤ 3) :
    separator ∈ text := by
  cases grouped with
  | first _ _ short => exact absurd short long
  | next => simp

/-- No separator, one, or several. -/
inductive Shape (separator : Char) (text digits : List Char) : Prop
  | plain (same : text = digits)
  | one {before after : List Char} (isBefore : IsDigits before) (isAfter : IsDigits after)
      (three : after.length = 3) (isText : text = before ++ separator :: after)
      (isDigits : digits = before ++ after)
  | more {before between after : List Char} (isBefore : IsDigits before)
      (isBetween : IsDigits between)
      (isText : text = before ++ separator :: (between ++ separator :: after))

theorem IsGrouped.shape {separator : Char} {text digits : List Char}
    (grouped : IsGrouped separator text digits) : Shape separator text digits := by
  induction grouped with
  | first => exact .plain rfl
  | @next text digits group before isDigits three ih =>
      cases ih with
      | plain same =>
          subst same
          exact .one before.isDigits isDigits three rfl rfl
      | @one first second isBefore isAfter _ isText _ =>
          refine @Shape.more _ _ _ first second group isBefore isAfter ?_
          rw [isText, List.append_assoc, List.cons_append]
      | @more first second rest isBefore isBetween isText =>
          refine @Shape.more _ _ _ first second (rest ++ separator :: group) isBefore isBetween ?_
          rw [isText, List.append_assoc, List.cons_append, List.append_assoc, List.cons_append]

/-! ## What is read of a number -/

theorem value_fraction (coefficient : Int) (places : Nat) :
    (⟨coefficient, -(places : Int)⟩ : Decimal).value = coefficient / 10 ^ places := by
  cases places with
  | zero => simp [Decimal.value]
  | succ places => rfl

theorem value_withSign (negative : Bool) (decimal : Decimal) :
    (Decimal.withSign negative decimal).value =
      if negative then -decimal.value else decimal.value := by
  cases negative with
  | false => rfl
  | true =>
      change (⟨-decimal.coefficient, decimal.exponent⟩ : Decimal).value = -decimal.value
      simp only [Decimal.value]
      split
      · rw [Int.cast_neg, neg_mul]
      · rw [Int.cast_neg, neg_div]

/-- The decimal mark three places too early. -/
theorem value_thousandth (negative : Bool) {before after : List Char} (three : after.length = 3)
    (fraction : List Char) :
    (Decimal.withSign negative (decimalOfDigits before (after ++ fraction) 0)).value =
      (Decimal.withSign negative (decimalOfDigits (before ++ after) fraction 0)).value / 1000 := by
  have smaller : ∀ digits places : ℚ, digits / (10 ^ 3 * places) = digits / places / 1000 := by
    intro digits places
    rw [div_div, mul_comm places]
    norm_num
  simp only [value_withSign, decimalOfDigits, zero_sub, value_fraction, List.length_append, three,
    List.append_assoc, pow_add, smaller]
  split
  · rw [neg_div]
  · rfl

/-- Nothing is read of the number, or its thousandth. -/
inductive Misread (numeral : Numeral) : Option ParsedDecimal → Prop
  | refused : Misread numeral none
  | thousandth {decimal : Decimal} (isValue : decimal.value = numeral.decimal.value / 1000) :
      Misread numeral (some (.finite decimal))

theorem pointed_of_no_comma {chars : List Char} (noComma : ',' ∉ chars) :
    pointed chars = chars := by
  rw [pointed, if_neg fun both => noComma both.1]
  conv_rhs => rw [← List.map_id chars]
  apply List.map_congr_left
  intro char isMem
  apply if_neg
  rintro rfl
  exact noComma isMem

/-- Where there is a comma it does not matter whether the points are dropped. -/
theorem pointed_of_comma {chars : List Char} (comma : ',' ∈ chars) :
    pointed chars = (chars.filter (· ≠ '.')).map fun char => if char = ',' then '.' else char := by
  rw [pointed]
  split
  · rfl
  · next notBoth =>
      rw [List.filter_eq_self.mpr]
      intro char isMem
      apply decide_eq_true
      rintro rfl
      exact notBoth ⟨comma, isMem⟩

theorem map_digits {digits : List Char} (isDigits : IsDigits digits) :
    (digits.map fun char => if char = ',' then '.' else char) = digits := by
  conv_rhs => rw [← List.map_id digits]
  apply List.map_congr_left
  intro char isMem
  exact if_neg (ne_of_isDigit (isDigits char isMem)).2.1

theorem Sign.filter (sign : Sign) : sign.chars.filter (· ≠ '.') = sign.chars := by
  cases sign <;> rfl

theorem Sign.map (sign : Sign) :
    (sign.chars.map fun char => if char = ',' then '.' else char) = sign.chars := by
  cases sign <;> rfl

theorem Sign.comma_not_mem (sign : Sign) : ',' ∉ sign.chars := by cases sign <;> decide

theorem Sign.point_not_mem (sign : Sign) : '.' ∉ sign.chars := by cases sign <;> decide

theorem IsDigits.comma_not_mem {digits : List Char} (isDigits : IsDigits digits) :
    ',' ∉ digits :=
  fun isMem => absurd (isDigits ',' isMem) (by decide)

theorem IsDigits.point_not_mem {digits : List Char} (isDigits : IsDigits digits) :
    '.' ∉ digits :=
  fun isMem => absurd (isDigits '.' isMem) (by decide)

section Reading

variable {numeral : Numeral} {chars : List Char}

/-- The text before the mark without its separators. -/
theorem filter_whole {separator : Char} (noDigit : separator.isDigit = false) {text : List Char}
    (isText : text = numeral.whole ∨ IsGrouped separator text numeral.whole) :
    text.filter (· ≠ separator) = numeral.whole := by
  rcases isText with rfl | grouped
  · exact filter_digits noDigit numeral.isWhole
  · exact grouped.filter noDigit

theorem shape_whole {separator : Char} {text : List Char}
    (isText : text = numeral.whole ∨ IsGrouped separator text numeral.whole) :
    Shape separator text numeral.whole := by
  rcases isText with same | grouped
  · exact .plain same
  · exact grouped.shape

theorem mem_whole {separator : Char} {text : List Char}
    (isText : text = numeral.whole ∨ IsGrouped separator text numeral.whole) {char : Char}
    (isMem : char ∈ text) : char.isDigit ∨ char = separator := by
  rcases isText with rfl | grouped
  · exact .inl (numeral.isWhole char isMem)
  · exact grouped.mem isMem

theorem whole_ne_nil (noFraction : numeral.fraction = []) : numeral.whole ≠ [] := by
  intro noWhole
  apply numeral.nonempty
  rw [noWhole, noFraction]
  rfl

theorem parse_whole (noFraction : numeral.fraction = []) :
    parseDecimal (numeral.sign.chars ++ numeral.whole) = some (.finite numeral.decimal) := by
  rw [parseDecimal_signed _ numeral.isWhole.isNumeric,
    parseUnsigned_digits _ numeral.isWhole (whole_ne_nil noFraction), Numeral.decimal, noFraction]

theorem parse_fraction (numeral : Numeral) :
    parseDecimal (numeral.sign.chars ++ (numeral.whole ++ '.' :: numeral.fraction)) =
      some (.finite numeral.decimal) := by
  rw [parseDecimal_signed _
    (numeral.isWhole.isNumeric.append numeral.isFraction.isNumeric.point),
    parseUnsigned_point _ numeral.isWhole numeral.isFraction numeral.nonempty]
  rfl

/-! ### The Dutch convention -/

/-- A Dutch number with a comma is read. -/
theorem parse_dutch_comma (reads : Reads .dutch numeral chars) (comma : ',' ∈ chars) :
    parseDecimal (pointed chars) = some (.finite numeral.decimal) := by
  cases reads with
  | integer isText noFraction =>
      rcases List.mem_append.mp comma with inSign | inText
      · exact absurd inSign numeral.sign.comma_not_mem
      · rcases mem_whole isText inText with digit | same
        · exact absurd digit (by decide)
        · exact absurd same (by decide)
  | @fraction text isText =>
      have isWhole : text.filter (· ≠ '.') = numeral.whole := filter_whole rfl isText
      have isPointed : pointed (numeral.sign.chars ++ (text ++ ',' :: numeral.fraction)) =
          numeral.sign.chars ++ (numeral.whole ++ '.' :: numeral.fraction) := by
        rw [pointed_of_comma (by simp), List.filter_append, numeral.sign.filter,
          List.filter_append, isWhole, List.filter_cons_of_pos (by decide),
          filter_digits rfl numeral.isFraction, List.map_append, numeral.sign.map, List.map_append,
          map_digits numeral.isWhole, List.map_cons, if_pos rfl, map_digits numeral.isFraction]
      change parseDecimal (pointed (numeral.sign.chars ++ (text ++ ',' :: numeral.fraction))) = _
      rw [isPointed]
      exact parse_fraction numeral

/-- A Dutch number without a comma is an English one if it has no point, its thousandth is
one if it has one point, and otherwise nothing is read. -/
theorem dutch_without_comma (reads : Reads .dutch numeral chars) (noComma : ',' ∉ chars) :
    '.' ∉ chars ∧ Reads .english numeral chars ∨
      (∃ other, Reads .english other chars ∧
        other.decimal.value = numeral.decimal.value / 1000) ∨
      parseDecimal (pointed chars) = none := by
  rw [pointed_of_no_comma noComma]
  cases reads with
  | fraction => exact absurd (by simp [Convention.mark]) noComma
  | @integer text isText noFraction =>
      cases shape_whole isText with
      | plain same =>
          refine .inl ⟨?_, .integer (.inl same) noFraction⟩
          rw [List.mem_append, not_or, same]
          exact ⟨numeral.sign.point_not_mem, numeral.isWhole.point_not_mem⟩
      | @one before after isBefore isAfter three same isWhole =>
          have nonempty : before ++ after ≠ [] := by
            intro none
            rw [(List.append_eq_nil_iff.mp none).2] at three
            cases three
          rw [same]
          refine .inr (.inl ⟨⟨numeral.sign, before, after, isBefore, isAfter, nonempty⟩,
            .fraction (.inl rfl), ?_⟩)
          have thousandth := @value_thousandth numeral.sign.isMinus before after three []
          rw [List.append_nil, ← isWhole] at thousandth
          simp only [Numeral.decimal, noFraction]
          exact thousandth
      | @more before between after isBefore isBetween same =>
          right
          right
          have numeric : IsNumeric text := fun char isMem => mem_whole isText isMem
          rw [parseDecimal_signed _ numeric, same]
          exact parseUnsigned_points _ after isBefore isBetween

/-! ### The English convention -/

theorem parse_english_plain (reads : Reads .english numeral chars) (noComma : ',' ∉ chars) :
    parseDecimal (pointed chars) = some (.finite numeral.decimal) := by
  rw [pointed_of_no_comma noComma]
  have plain : ∀ {text}, text = numeral.whole ∨ IsGrouped ',' text numeral.whole →
      ',' ∉ text → text = numeral.whole := by
    intro text isText noComma
    cases shape_whole isText with
    | plain same => exact same
    | one _ _ _ same _ => exact absurd (by simp [same]) noComma
    | more _ _ same => exact absurd (by simp [same]) noComma
  cases reads with
  | integer isText noFraction =>
      rw [plain isText fun inText => noComma (List.mem_append_right _ inText)]
      exact parse_whole noFraction
  | fraction isText =>
      rw [plain isText fun inText =>
        noComma (List.mem_append_right _ (List.mem_append_left _ inText))]
      exact parse_fraction numeral

/-- The points of an English number are dropped where it has commas, and these become
points. -/
theorem pointed_english (reads : Reads .english numeral chars) (comma : ',' ∈ chars) :
    ∃ text, IsGrouped ',' text numeral.whole ∧ ',' ∈ text ∧
      pointed chars = numeral.sign.chars ++
        (text.map (fun char => if char = ',' then '.' else char) ++ numeral.fraction) := by
  have noPoint : ∀ {text}, text = numeral.whole ∨ IsGrouped ',' text numeral.whole →
      text.filter (· ≠ '.') = text := by
    intro text isText
    apply List.filter_eq_self.mpr
    intro char isMem
    apply decide_eq_true
    rintro rfl
    rcases mem_whole isText isMem with digit | same
    · exact absurd digit (by decide)
    · exact absurd same (by decide)
  have grouped : ∀ {text}, text = numeral.whole ∨ IsGrouped ',' text numeral.whole →
      ',' ∈ text → IsGrouped ',' text numeral.whole := by
    intro text isText inText
    refine isText.resolve_left ?_
    rintro rfl
    exact numeral.isWhole.comma_not_mem inText
  cases reads with
  | @integer text isText noFraction =>
      have inText := (List.mem_append.mp comma).resolve_left numeral.sign.comma_not_mem
      refine ⟨text, grouped isText inText, inText, ?_⟩
      rw [pointed_of_comma comma, List.filter_append, numeral.sign.filter, noPoint isText,
        List.map_append, numeral.sign.map, noFraction, List.append_nil]
  | @fraction text isText =>
      change ',' ∈ numeral.sign.chars ++ (text ++ '.' :: numeral.fraction) at comma
      have inText : ',' ∈ text := by
        rcases List.mem_append.mp comma with inSign | inRest
        · exact absurd inSign numeral.sign.comma_not_mem
        · rcases List.mem_append.mp inRest with inText | inFraction
          · exact inText
          · rcases List.mem_cons.mp inFraction with same | inFraction
            · exact absurd same (by decide)
            · exact absurd inFraction numeral.isFraction.comma_not_mem
      refine ⟨text, grouped isText inText, inText, ?_⟩
      change pointed (numeral.sign.chars ++ (text ++ '.' :: numeral.fraction)) = _
      rw [pointed_of_comma comma, List.filter_append, numeral.sign.filter, List.filter_append,
        noPoint isText, List.filter_cons_of_neg (by decide), filter_digits rfl numeral.isFraction,
        List.map_append, numeral.sign.map, List.map_append, map_digits numeral.isFraction]

theorem IsGrouped.value_ne_zero {separator : Char} {text : List Char}
    (grouped : IsGrouped separator text numeral.whole) : numeral.decimal.value ≠ 0 := by
  have positive : (0 : ℚ) < digitsValue (numeral.whole ++ numeral.fraction) := by
    exact_mod_cast grouped.pos numeral.fraction
  have power : (0 : ℚ) < 10 ^ numeral.fraction.length := by positivity
  have quotient := (div_pos positive power).ne'
  simp only [Numeral.decimal, value_withSign, decimalOfDigits, zero_sub, value_fraction,
    Int.cast_natCast]
  split
  · exact neg_ne_zero.mpr quotient
  · exact quotient

/-- Of an English number with a comma nothing is read, or its thousandth. -/
theorem misread_english (reads : Reads .english numeral chars) (comma : ',' ∈ chars) :
    numeral.decimal.value ≠ 0 ∧ Misread numeral (parseDecimal (pointed chars)) := by
  rcases pointed_english reads comma with ⟨text, grouped, inText, isPointed⟩
  refine ⟨grouped.value_ne_zero, ?_⟩
  have numeric : IsNumeric
      (text.map (fun char => if char = ',' then '.' else char) ++ numeral.fraction) := by
    apply IsNumeric.append ?_ numeral.isFraction.isNumeric
    intro char isMem
    rcases List.mem_map.mp isMem with ⟨original, inText, same⟩
    rcases grouped.mem inText with digit | isComma
    · rw [if_neg (ne_of_isDigit digit).2.1] at same
      exact .inl (same ▸ digit)
    · rw [if_pos isComma] at same
      exact .inr same.symm
  rw [isPointed, parseDecimal_signed _ numeric]
  cases grouped.shape with
  | plain same => exact absurd (same ▸ inText) numeral.isWhole.comma_not_mem
  | @one before after isBefore isAfter three isText isWhole =>
      have isMapped : text.map (fun char => if char = ',' then '.' else char) =
          before ++ '.' :: after := by
        rw [isText, List.map_append, map_digits isBefore, List.map_cons, if_pos rfl,
          map_digits isAfter]
      have isRest : IsDigits (after ++ numeral.fraction) := by
        intro char isMem
        rcases List.mem_append.mp isMem with inAfter | inFraction
        · exact isAfter char inAfter
        · exact numeral.isFraction char inFraction
      rw [isMapped, List.append_assoc, List.cons_append,
        parseUnsigned_point _ isBefore isRest (by simp [List.ne_nil_of_length_pos, three])]
      apply Misread.thousandth
      rw [value_thousandth _ three, ← isWhole]
      rfl
  | @more before between after isBefore isBetween isText =>
      have isMapped : text.map (fun char => if char = ',' then '.' else char) =
          before ++ '.' :: (between ++ '.' ::
            after.map fun char => if char = ',' then '.' else char) := by
        rw [isText, List.map_append, map_digits isBefore, List.map_cons, if_pos rfl,
          List.map_append, map_digits isBetween, List.map_cons, if_pos rfl]
      rw [isMapped, List.append_assoc, List.cons_append, List.append_assoc, List.cons_append,
        parseUnsigned_points _ _ isBefore isBetween]
      exact .refused

end Reading

/-! ## When a text is read right -/

/-- What is read is a reading of the text; a text with one convention is read under it, and
one with none is refused. -/
structure ReadsRight (text : String) : Prop where
  reading : ∀ {parsed}, decimalOfText text = some parsed →
    ∃ convention numeral, Reads convention numeral (keptChars text) ∧
      valueOf parsed = some numeral.decimal.value
  only : ∀ {convention numeral}, Reads convention numeral (keptChars text) →
    (∀ other numeral, Reads other numeral (keptChars text) → other = convention) →
    (decimalOfText text).bind valueOf = some numeral.decimal.value
  neither : (∀ convention numeral, ¬ Reads convention numeral (keptChars text)) →
    decimalOfText text = none

/-- A text that is English only has no comma, one that is Dutch only has one, and one that
is neither is no literal of `decimal` when its commas are points. -/
structure Unmistakable (text : String) : Prop where
  english : ∀ numeral, Reads .english numeral (keptChars text) →
    (∀ other, ¬ Reads .dutch other (keptChars text)) → ',' ∉ keptChars text
  dutch : ∀ numeral, Reads .dutch numeral (keptChars text) →
    (∀ other, ¬ Reads .english other (keptChars text)) → ',' ∈ keptChars text
  neither : (∀ convention numeral, ¬ Reads convention numeral (keptChars text)) →
    parseDecimal (pointed (keptChars text)) = none

/-- Every number that is read is read under one of the conventions. -/
theorem Unmistakable.reading {text : String} (unmistakable : Unmistakable text)
    {parsed : ParsedDecimal} (isParsed : decimalOfText text = some parsed) :
    ∃ convention numeral, Reads convention numeral (keptChars text) ∧
      valueOf parsed = some numeral.decimal.value := by
  rw [decimalOfText_eq] at isParsed
  have found : ∀ {convention numeral}, Reads convention numeral (keptChars text) →
      parseDecimal (pointed (keptChars text)) = some (.finite numeral.decimal) →
      ∃ convention numeral, Reads convention numeral (keptChars text) ∧
        valueOf parsed = some numeral.decimal.value := by
    intro convention numeral reads same
    rw [isParsed] at same
    refine ⟨convention, numeral, reads, ?_⟩
    rw [Option.some.inj same]
    rfl
  by_cases comma : ',' ∈ keptChars text
  · by_cases isDutch : ∃ numeral, Reads .dutch numeral (keptChars text)
    · rcases isDutch with ⟨numeral, reads⟩
      exact found reads (parse_dutch_comma reads comma)
    · rw [not_exists] at isDutch
      have refused := unmistakable.neither ?_
      · rw [refused] at isParsed
        cases isParsed
      · intro convention numeral reads
        cases convention with
        | dutch => exact isDutch numeral reads
        | english => exact unmistakable.english numeral reads isDutch comma
  · by_cases isEnglish : ∃ numeral, Reads .english numeral (keptChars text)
    · rcases isEnglish with ⟨numeral, reads⟩
      exact found reads (parse_english_plain reads comma)
    · rw [not_exists] at isEnglish
      have refused := unmistakable.neither ?_
      · rw [refused] at isParsed
        cases isParsed
      · intro convention numeral reads
        cases convention with
        | dutch => exact comma (unmistakable.dutch numeral reads isEnglish)
        | english => exact isEnglish numeral reads

theorem readsRight_iff (text : String) : ReadsRight text ↔ Unmistakable text := by
  constructor
  · intro right
    constructor
    · intro numeral reads notDutch comma
      rcases misread_english reads comma with ⟨notZero, misread⟩
      have isRead := right.only reads ?_
      · rw [decimalOfText_eq] at isRead
        generalize parseDecimal (pointed (keptChars text)) = parsed at isRead misread
        cases misread with
        | refused => cases isRead
        | thousandth isValue =>
            have same := Option.some.inj isRead
            rw [isValue] at same
            apply notZero
            linarith
      · intro other numeral reads
        cases other with
        | dutch => exact absurd reads (notDutch numeral)
        | english => rfl
    · intro numeral reads notEnglish
      by_contra noComma
      have isRead := right.only reads ?_
      · rcases dutch_without_comma reads noComma with
          ⟨_, isEnglish⟩ | ⟨other, isEnglish, _⟩ | refused
        · exact notEnglish numeral isEnglish
        · exact notEnglish other isEnglish
        · rw [decimalOfText_eq, refused] at isRead
          cases isRead
      · intro other numeral reads
        cases other with
        | dutch => rfl
        | english => exact absurd reads (notEnglish numeral)
    · intro notRead
      rw [← decimalOfText_eq]
      exact right.neither notRead
  · intro unmistakable
    constructor
    · exact unmistakable.reading
    · intro convention numeral reads alone
      rw [decimalOfText_eq]
      cases convention with
      | dutch =>
          have comma := unmistakable.dutch numeral reads fun other isEnglish => by
            cases alone _ other isEnglish
          rw [parse_dutch_comma reads comma]
          rfl
      | english =>
          have noComma := unmistakable.english numeral reads fun other isDutch => by
            cases alone _ other isDutch
          rw [parse_english_plain reads noComma]
          rfl
    · intro notRead
      rw [decimalOfText_eq]
      exact unmistakable.neither notRead

/-! ## Trades -/

/-- A number as it is printed with separators between the thousands. -/
structure Printed (convention : Convention) where
  text : List Char
  whole : List Char
  fraction : List Char
  isText : text = ['0'] ∧ whole = ['0'] ∨ IsGrouped convention.group text whole
  isFraction : IsDigits fraction

namespace Printed

variable {convention : Convention} (printed : Printed convention)

def chars : List Char :=
  if printed.fraction = [] then printed.text
  else printed.text ++ convention.mark :: printed.fraction

theorem isWhole : IsDigits printed.whole := by
  rcases printed.isText with ⟨_, zero⟩ | grouped
  · rw [zero]
    exact isDigits_of_all (by decide)
  · exact grouped.isDigits

theorem whole_ne_nil : printed.whole ≠ [] := by
  rcases printed.isText with ⟨_, zero⟩ | grouped
  · rw [zero]
    decide
  · intro none
    have positive := grouped.pos []
    rw [none] at positive
    cases positive

/-- The number with a sign. -/
def numeral (sign : Sign) : Numeral where
  sign
  whole := printed.whole
  fraction := printed.fraction
  isWhole := printed.isWhole
  isFraction := printed.isFraction
  nonempty := by simp [printed.whole_ne_nil]

def value : ℚ := (printed.numeral .none).decimal.value

theorem isText_numeral (sign : Sign) : printed.text = (printed.numeral sign).whole ∨
    IsGrouped convention.group printed.text (printed.numeral sign).whole := by
  rcases printed.isText with ⟨text, zero⟩ | grouped
  · exact .inl (text.trans zero.symm)
  · exact .inr grouped

theorem reads (sign : Sign) :
    Reads convention (printed.numeral sign) (sign.chars ++ printed.chars) := by
  unfold chars
  split
  · next noFraction => exact .integer (printed.isText_numeral sign) noFraction
  · exact .fraction (printed.isText_numeral sign)

/-- Below a thousand, or Dutch with decimals. -/
def IsSafe : Prop := printed.whole.length ≤ 3 ∨ convention = .dutch ∧ printed.fraction ≠ []

theorem abs_decimal (sign : Sign) :
    (printed.numeral sign).decimal.abs = (printed.numeral .none).decimal := by
  cases sign with
  | none => rfl
  | plus => rfl
  | minus =>
      change Decimal.mk (-(digitsValue (printed.whole ++ printed.fraction) : Int)).natAbs _ = _
      rw [Int.natAbs_neg]
      rfl

variable {printed}

theorem text_of_short (short : printed.whole.length ≤ 3) : printed.text = printed.whole := by
  rcases printed.isText with ⟨text, zero⟩ | grouped
  · exact text.trans zero.symm
  · exact grouped.eq_of_short short

theorem grouped_of_long (long : ¬ printed.whole.length ≤ 3) :
    IsGrouped convention.group printed.text printed.whole := by
  refine printed.isText.resolve_left fun ⟨_, zero⟩ => long ?_
  rw [zero]
  decide

/-- A number below a thousand is an English one, unless it has a decimal comma. -/
theorem reads_english (short : printed.whole.length ≤ 3)
    (point : convention = .dutch → printed.fraction = []) (sign : Sign) :
    ',' ∉ sign.chars ++ printed.chars ∧
      Reads .english (printed.numeral sign) (sign.chars ++ printed.chars) := by
  unfold chars
  split
  · next noFraction =>
      rw [text_of_short short, List.mem_append, not_or]
      exact ⟨⟨sign.comma_not_mem, printed.isWhole.comma_not_mem⟩,
        .integer (.inl rfl) noFraction⟩
  · next isFraction =>
      have english : convention.mark = '.' := by
        cases convention with
        | dutch => exact absurd (point rfl) isFraction
        | english => rfl
      rw [text_of_short short, english]
      refine ⟨?_, .fraction (.inl rfl)⟩
      simp only [List.mem_append, List.mem_cons, not_or]
      exact ⟨sign.comma_not_mem, printed.isWhole.comma_not_mem, by decide,
        printed.isFraction.comma_not_mem⟩

theorem parse_of_safe (safe : printed.IsSafe) (sign : Sign) :
    parseDecimal (pointed (sign.chars ++ printed.chars)) =
      some (.finite (printed.numeral sign).decimal) := by
  by_cases withComma : convention = .dutch ∧ printed.fraction ≠ []
  · rcases withComma with ⟨rfl, isFraction⟩
    apply parse_dutch_comma (printed.reads sign)
    rw [chars, if_neg isFraction]
    simp [Convention.mark]
  · have short := safe.resolve_right withComma
    rw [not_and_not_right] at withComma
    rcases reads_english short withComma sign with ⟨noComma, isEnglish⟩
    exact parse_english_plain isEnglish noComma

theorem misread_of_not_safe (notSafe : ¬ printed.IsSafe) (sign : Sign) :
    Misread (printed.numeral sign) (parseDecimal (pointed (sign.chars ++ printed.chars))) := by
  rw [IsSafe, not_or] at notSafe
  have separated := (grouped_of_long notSafe.1).separator_mem notSafe.1
  have inChars : convention.group ∈ sign.chars ++ printed.chars := by
    apply List.mem_append_right
    unfold chars
    split
    · exact separated
    · exact List.mem_append_left _ separated
  cases convention with
  | english => exact (misread_english (printed.reads sign) inChars).2
  | dutch =>
      have noFraction : printed.fraction = [] := by
        by_contra isFraction
        exact notSafe.2 ⟨rfl, isFraction⟩
      have noComma : ',' ∉ sign.chars ++ printed.chars := by
        rw [chars, if_pos noFraction, List.mem_append, not_or]
        refine ⟨sign.comma_not_mem, fun inText => ?_⟩
        rcases (grouped_of_long notSafe.1).mem inText with digit | same
        · exact absurd digit (by decide)
        · exact absurd same (by decide)
      rcases dutch_without_comma (printed.reads sign) noComma with
        ⟨noPoint, _⟩ | ⟨other, isEnglish, isValue⟩ | refused
      · exact absurd inChars noPoint
      · rw [parse_english_plain isEnglish noComma]
        exact .thousandth isValue
      · rw [refused]
        exact .refused

theorem value_ne_zero (notSafe : ¬ printed.IsSafe) (sign : Sign) :
    (printed.numeral sign).decimal.value ≠ 0 := by
  rw [IsSafe, not_or] at notSafe
  exact IsGrouped.value_ne_zero (grouped_of_long notSafe.1)

end Printed

/-- `Koop q @ p CUR` or `Verkoop -q @ p CUR` -/
def tradeChars (isSale : Bool) (quantity price currency : List Char) : List Char :=
  (if isSale then "Verkoop -".toList else "Koop ".toList) ++
    (quantity ++ (' ' :: '@' :: ' ' :: (price ++ ' ' :: currency)))

theorem isNumberChar_of_isDigit {char : Char} (digit : char.isDigit) : isNumberChar char := by
  simp [isNumberChar, digit]

theorem Printed.isNumberChar {convention : Convention} (printed : Printed convention) {char : Char}
    (isMem : char ∈ printed.chars) : isNumberChar char := by
  have inText : char ∈ printed.text → Saxo.isNumberChar char := by
    intro inText
    rcases printed.isText with ⟨zero, _⟩ | grouped
    · rw [zero, List.mem_singleton] at inText
      rw [inText]
      rfl
    · rcases grouped.mem inText with digit | rfl
      · exact isNumberChar_of_isDigit digit
      · cases convention <;> rfl
  unfold chars at isMem
  split at isMem
  · exact inText isMem
  · rcases List.mem_append.mp isMem with text | rest
    · exact inText text
    · rcases List.mem_cons.mp rest with rfl | inFraction
      · cases convention <;> rfl
      · exact isNumberChar_of_isDigit (printed.isFraction char inFraction)

theorem IsGrouped.exists_digit {separator : Char} {text digits : List Char}
    (grouped : IsGrouped separator text digits) :
    ∃ digit rest, text = digit :: rest ∧ digit.isDigit := by
  induction grouped with
  | first isDigits => exact ⟨_, _, rfl, isDigits _ List.mem_cons_self⟩
  | next _ _ _ ih =>
      rcases ih with ⟨digit, rest, same, isDigit⟩
      exact ⟨digit, _, by rw [same, List.cons_append], isDigit⟩

/-- A printed number starts with a digit. -/
theorem Printed.exists_digit {convention : Convention} (printed : Printed convention) :
    ∃ digit rest, printed.chars = digit :: rest ∧ digit.isDigit := by
  have starts : ∃ digit rest, printed.text = digit :: rest ∧ digit.isDigit := by
    rcases printed.isText with ⟨zero, _⟩ | grouped
    · exact ⟨'0', [], zero, rfl⟩
    · exact grouped.exists_digit
  rcases starts with ⟨digit, rest, same, isDigit⟩
  unfold chars
  split
  · exact ⟨digit, rest, same, isDigit⟩
  · exact ⟨digit, _, by rw [same, List.cons_append], isDigit⟩

theorem isSpace_of_isNumberChar {char : Char} (isNumber : isNumberChar char) :
    isSpace char = false := by
  simp only [isNumberChar, Bool.or_eq_true, decide_eq_true_eq] at isNumber
  rcases isNumber with (digit | rfl) | rfl
  · exact isSpace_of_isDigit digit
  · decide
  · decide

theorem takeWhile_number {convention : Convention} (printed : Printed convention)
    (rest : List Char) :
    (printed.chars ++ ' ' :: rest).takeWhile isNumberChar = printed.chars ∧
      (printed.chars ++ ' ' :: rest).dropWhile isNumberChar = ' ' :: rest := by
  constructor
  · rw [List.takeWhile_append_of_pos fun char isMem => printed.isNumberChar isMem,
      List.takeWhile_cons_of_neg (by decide), List.append_nil]
  · rw [List.dropWhile_append_of_pos fun char isMem => printed.isNumberChar isMem,
      List.dropWhile_cons_of_neg (by decide)]

theorem dropWhile_space {convention : Convention} (printed : Printed convention)
    (rest : List Char) :
    (' ' :: (printed.chars ++ rest)).dropWhile isSpace = printed.chars ++ rest := by
  rcases printed.exists_digit with ⟨digit, others, same, isDigit⟩
  rw [List.dropWhile_cons_of_pos (by decide), same, List.cons_append,
    List.dropWhile_cons_of_neg (by rw [isSpace_of_isDigit isDigit]; decide)]

/-- The trade pattern matches at the start of the text and takes both numbers whole. -/
theorem matchTrade_tradeChars (isSale : Bool) {convention : Convention}
    (quantity price : Printed convention) (currency : List Char) :
    matchTrade (tradeChars isSale quantity.chars price.chars currency) =
      some ((if isSale then Sign.minus else Sign.none).chars ++ quantity.chars, price.chars) := by
  let rest := ' ' :: '@' :: ' ' :: (price.chars ++ ' ' :: currency)
  have quantityTaken : (quantity.chars ++ rest).takeWhile isNumberChar = quantity.chars ∧
      (quantity.chars ++ rest).dropWhile isNumberChar = rest := takeWhile_number quantity _
  have afterQuantity : rest.dropWhile isSpace = '@' :: ' ' :: (price.chars ++ ' ' :: currency) :=
    rfl
  have priceStarts := dropWhile_space price (' ' :: currency)
  have priceTaken := (takeWhile_number price currency).1
  rcases quantity.exists_digit with ⟨digit, others, isQuantity, isDigit⟩
  rcases price.exists_digit with ⟨first, more, isPrice, _⟩
  have quantityFilled : quantity.chars ≠ [] := by
    rw [isQuantity]
    exact List.cons_ne_nil _ _
  have priceFilled : price.chars ≠ [] := by
    rw [isPrice]
    exact List.cons_ne_nil _ _
  cases isSale with
  | false =>
      have isKoop : "koop".toList.isPrefixOf
          ((tradeChars false quantity.chars price.chars currency).map Char.toLower) = true := rfl
      have isBlank : (tradeChars false quantity.chars price.chars currency).drop 4 =
          ' ' :: (quantity.chars ++ rest) := rfl
      have blankTaken : (' ' :: (quantity.chars ++ rest)).takeWhile isSpace ≠ [] := by
        rw [List.takeWhile_cons_of_pos (by decide)]
        exact List.cons_ne_nil _ _
      have unsigned : (quantity.chars ++ rest).head? ≠ some '-' := by
        rw [isQuantity, List.cons_append, List.head?_cons]
        exact fun same => (ne_of_isDigit isDigit).2.2.1 (Option.some.inj same)
      simp only [matchTrade, isKoop, if_true, Option.bind_eq_bind, Option.bind_some, isBlank,
        dropWhile_space quantity rest, if_neg unsigned, List.length_nil, List.drop_zero,
        List.nil_append, quantityTaken, afterQuantity, priceStarts, priceTaken]
      rw [if_pos ⟨blankTaken, quantityFilled, priceFilled⟩]
      rfl
  | true =>
      have notKoop : "koop".toList.isPrefixOf
          ((tradeChars true quantity.chars price.chars currency).map Char.toLower) = false := rfl
      have isVerkoop : "verkoop".toList.isPrefixOf
          ((tradeChars true quantity.chars price.chars currency).map Char.toLower) = true := rfl
      have isBlank : (tradeChars true quantity.chars price.chars currency).drop 7 =
          ' ' :: '-' :: (quantity.chars ++ rest) := rfl
      have blankTaken : (' ' :: '-' :: (quantity.chars ++ rest)).takeWhile isSpace ≠ [] := by
        rw [List.takeWhile_cons_of_pos (by decide)]
        exact List.cons_ne_nil _ _
      have signStarts : (' ' :: '-' :: (quantity.chars ++ rest)).dropWhile isSpace =
          '-' :: (quantity.chars ++ rest) := rfl
      simp only [matchTrade, notKoop, isVerkoop, if_true, Bool.false_eq_true, if_false,
        Option.bind_eq_bind, Option.bind_some, isBlank, signStarts, List.head?_cons,
        List.length_cons, List.length_nil, List.drop_succ_cons, List.drop_zero,
        quantityTaken, afterQuantity, priceStarts, priceTaken]
      rw [if_pos ⟨blankTaken, quantityFilled, priceFilled⟩]
      rfl

theorem searchTrade_tradeChars (runtime : Runtime) (isSale : Bool) {convention : Convention}
    (quantity price : Printed convention) (currency : List Char) :
    searchTrade runtime none (tradeChars isSale quantity.chars price.chars currency) =
      some ((if isSale then Sign.minus else Sign.none).chars ++ quantity.chars, price.chars) := by
  have isMatch := matchTrade_tradeChars isSale quantity price currency
  rcases isTrade : tradeChars isSale quantity.chars price.chars currency with _ | ⟨first, rest⟩
  · cases isSale <;> cases isTrade
  · rw [isTrade] at isMatch
    rw [searchTrade, if_neg (by simp), isMatch, Option.some_or]

/-- Nothing is cleaned from a number that is printed. -/
theorem cleanText_printed {convention : Convention} (printed : Printed convention) (sign : Sign) :
    (cleanText (String.ofList (sign.chars ++ printed.chars))).toList =
      sign.chars ++ printed.chars := by
  have visible : ∀ char ∈ sign.chars ++ printed.chars, isSpace char = false := by
    intro char isMem
    rcases List.mem_append.mp isMem with inSign | inNumber
    · cases sign <;> simp only [Sign.chars, List.mem_cons, List.not_mem_nil, or_false] at inSign <;>
        rw [inSign] <;> decide
    · exact isSpace_of_isNumberChar (printed.isNumberChar inNumber)
  have same : ((sign.chars ++ printed.chars).map fun char =>
      if char = '\u00a0' then ' ' else char) = sign.chars ++ printed.chars := by
    conv_rhs => rw [← List.map_id (sign.chars ++ printed.chars)]
    apply List.map_congr_left
    intro char isMem
    apply if_neg
    rintro rfl
    cases visible _ isMem
  rw [cleanText, String.toList_ofList, String.toList_ofList, same,
    Decimal.strip_of_not_space visible]

theorem keptChars_printed {convention : Convention} (printed : Printed convention) (sign : Sign) :
    keptChars (String.ofList (sign.chars ++ printed.chars)) = sign.chars ++ printed.chars := by
  rw [keptChars, cleanText_printed, List.filter_eq_self]
  intro char isMem
  apply decide_eq_true
  intro symbol
  have others : ∀ char ∈ ['€', '$', '£', ' '], isNumberChar char = false ∧
      char ≠ '+' ∧ char ≠ '-' := by
    intro char member
    simp only [List.mem_cons, List.not_mem_nil, or_false] at member
    rcases member with rfl | rfl | rfl | rfl <;> decide
  rcases List.mem_append.mp isMem with inSign | inNumber
  · cases sign <;> simp only [Sign.chars, List.mem_cons, List.not_mem_nil, or_false] at inSign
    · exact (others char symbol).2.1 inSign
    · exact (others char symbol).2.2 inSign
  · have isNumber := printed.isNumberChar inNumber
    rw [(others char symbol).1] at isNumber
    cases isNumber

theorem optionalDecimal_printed (runtime : Runtime) {convention : Convention}
    (printed : Printed convention) (sign : Sign) (field : String) :
    (optionalDecimal runtime (.text (String.ofList (sign.chars ++ printed.chars))) field).toOption =
      (finite (parseDecimal (pointed (sign.chars ++ printed.chars)))).map some := by
  have notBlank : cleanText (String.ofList (sign.chars ++ printed.chars)) ∉ blanks := by
    intro blank
    rcases printed.exists_digit with ⟨digit, rest, same, isDigit⟩
    have noDigit : ∀ blank ∈ blanks, ∀ char ∈ blank.toList, char.isDigit = false := by
      have none : blanks.all fun blank => blank.toList.all fun char => !char.isDigit := by
        decide +kernel
      simpa only [List.all_eq_true, Bool.not_eq_true'] using none
    have inText : digit ∈ (cleanText (String.ofList (sign.chars ++ printed.chars))).toList := by
      rw [cleanText_printed, same]
      exact List.mem_append_right _ List.mem_cons_self
    have isNoDigit := noDigit _ blank digit inText
    rw [isDigit] at isNoDigit
    cases isNoDigit
  rw [optionalDecimal_text, if_neg notBlank, decimalOfText_eq, keptChars_printed]

/-! ### Trades are read right -/

section Trades

variable (runtime : Runtime) (isSale : Bool) {convention : Convention}
  (quantity price : Printed convention) (currency : List Char)

/-- The quantity and the price of a trade come back. -/
def TradeRight : Prop :=
  ∃ first second, tradeDetails runtime
      (String.ofList (tradeChars isSale quantity.chars price.chars currency)) =
        .ok (some first, some second) ∧
    first.value = quantity.value ∧ second.value = price.value

theorem tradeDetails_toOption :
    (tradeDetails runtime
      (String.ofList (tradeChars isSale quantity.chars price.chars currency))).toOption =
      (finite (parseDecimal (pointed
        ((if isSale then Sign.minus else Sign.none).chars ++ quantity.chars)))).bind fun first =>
      (finite (parseDecimal (pointed (Sign.none.chars ++ price.chars)))).map fun second =>
        (some first.abs, some second) := by
  have isQuantity := optionalDecimal_printed runtime quantity
    (if isSale then Sign.minus else Sign.none) "Handelsaantal"
  have isPrice := optionalDecimal_printed runtime price Sign.none "Handelskoers"
  rw [tradeDetails, String.toList_ofList, searchTrade_tradeChars]
  change Except.toOption (Except.bind (optionalDecimal runtime _ "Handelsaantal") fun first =>
    Except.bind (optionalDecimal runtime (.text (String.ofList (Sign.none.chars ++ price.chars)))
      "Handelskoers") fun second => .ok (first.map Decimal.abs, second)) = _
  generalize optionalDecimal runtime _ "Handelsaantal" = readQuantity at isQuantity
  generalize optionalDecimal runtime _ "Handelskoers" = readPrice at isPrice
  generalize finite (parseDecimal (pointed (Sign.none.chars ++ price.chars))) = second at isPrice
  generalize finite _ = first at isQuantity
  cases readQuantity with
  | error => 
      rw [Option.map_eq_none_iff.mp isQuantity.symm]
      rfl
  | ok value =>
      rcases Option.map_eq_some_iff.mp isQuantity.symm with ⟨number, rfl, rfl⟩
      cases readPrice with
      | error =>
          rw [Option.map_eq_none_iff.mp isPrice.symm]
          rfl
      | ok value =>
          rcases Option.map_eq_some_iff.mp isPrice.symm with ⟨number, rfl, rfl⟩
          rfl

/-- What is read of a printed number is the number or, unless it is safe, its thousandth. -/
theorem finite_printed {printed : Printed convention} {sign : Sign} {number : Decimal}
    (isNumber : finite (parseDecimal (pointed (sign.chars ++ printed.chars))) = some number) :
    printed.IsSafe ∧ number = (printed.numeral sign).decimal ∨
      (printed.numeral sign).decimal.value ≠ 0 ∧
        number.value = (printed.numeral sign).decimal.value / 1000 := by
  by_cases safe : printed.IsSafe
  · rw [Printed.parse_of_safe safe] at isNumber
    exact .inl ⟨safe, (Option.some.inj isNumber).symm⟩
  · have misread := Printed.misread_of_not_safe safe sign
    generalize parseDecimal (pointed (sign.chars ++ printed.chars)) = parsed at isNumber misread
    cases misread with
    | refused => cases isNumber
    | thousandth isValue =>
        rw [Option.some.inj isNumber] at isValue
        exact .inr ⟨Printed.value_ne_zero safe sign, isValue⟩

theorem Printed.value_eq_abs (printed : Printed convention) (sign : Sign) :
    printed.value = |(printed.numeral sign).decimal.value| := by
  rw [← Decimal.value_abs, printed.abs_decimal]
  rfl

/-- A thousandth is another number, with any sign. -/
theorem thousandth_ne {printed : Printed convention} {sign : Sign}
    (notZero : (printed.numeral sign).decimal.value ≠ 0) :
    |(printed.numeral sign).decimal.value / 1000| ≠ printed.value := by
  rw [printed.value_eq_abs sign, abs_div, abs_of_pos (show (0 : ℚ) < 1000 by norm_num)]
  intro same
  have positive := abs_pos.mpr notZero
  linarith

theorem tradeRight_iff :
    TradeRight runtime isSale quantity price currency ↔ quantity.IsSafe ∧ price.IsSafe := by
  have details := tradeDetails_toOption runtime isSale quantity price currency
  constructor
  · intro ⟨first, second, isRead, quantitySame, priceSame⟩
    rw [isRead] at details
    rcases Option.bind_eq_some_iff.mp details.symm with ⟨number, isNumber, isPair⟩
    rcases Option.map_eq_some_iff.mp isPair with ⟨_, isPrice, same⟩
    cases same
    constructor
    · rcases finite_printed isNumber with ⟨safe, _⟩ | ⟨notZero, isValue⟩
      · exact safe
      · rw [Decimal.value_abs, isValue] at quantitySame
        exact absurd quantitySame (thousandth_ne notZero)
    · rcases finite_printed isPrice with ⟨safe, _⟩ | ⟨notZero, isValue⟩
      · exact safe
      · have nonneg : 0 ≤ price.value := by
          rw [price.value_eq_abs .none]
          exact abs_nonneg _
        rw [← priceSame] at nonneg
        apply absurd priceSame
        rw [← abs_of_nonneg nonneg, isValue]
        exact thousandth_ne notZero
  · intro ⟨quantitySafe, priceSafe⟩
    rw [Printed.parse_of_safe quantitySafe, Printed.parse_of_safe priceSafe] at details
    refine ⟨(quantity.numeral (if isSale then .minus else .none)).decimal.abs,
      (price.numeral .none).decimal, ?_, congrArg Decimal.value (quantity.abs_decimal _), rfl⟩
    generalize tradeDetails runtime _ = result at details
    cases result with
    | error => cases details
    | ok pair => exact congrArg Except.ok (Option.some.inj details)

end Trades

/-- A text is read right exactly if it is unmistakable, and a trade exactly if both of its
numbers are safe. -/
theorem number_texts_iff (runtime : Runtime) :
    (∀ text, ReadsRight text ↔ Unmistakable text) ∧
      ∀ isSale {convention} (quantity price : Printed convention) currency,
        TradeRight runtime isSale quantity price currency ↔ quantity.IsSafe ∧ price.IsSafe :=
  ⟨readsRight_iff, fun isSale _ quantity price currency =>
    tradeRight_iff runtime isSale quantity price currency⟩

/-- What follows the first comma of a Dutch number is its fraction. -/
theorem digits_after_comma {numeral : Numeral} {chars : List Char}
    (reads : Reads .dutch numeral chars) : IsDigits (chars.dropWhile (· ≠ ',')).tail := by
  have noComma : ∀ {text}, text = numeral.whole ∨ IsGrouped '.' text numeral.whole →
      ∀ char ∈ numeral.sign.chars ++ text, decide (char ≠ ',') := by
    intro text isText char isMem
    apply decide_eq_true
    rintro rfl
    rcases List.mem_append.mp isMem with inSign | inText
    · exact numeral.sign.comma_not_mem inSign
    · rcases mem_whole isText inText with digit | same
      · exact absurd digit (by decide)
      · exact absurd same (by decide)
  cases reads with
  | integer isText =>
      rw [List.dropWhile_eq_nil_iff.mpr (noComma isText)]
      exact fun char none => absurd none List.not_mem_nil
  | fraction isText =>
      rw [← List.append_assoc, List.dropWhile_append_of_pos (noComma isText)]
      exact numeral.isFraction

/-- Twelve thousand and some, in English. -/
def twelveThousand : Numeral where
  sign := .none
  whole := "12345".toList
  fraction := "67".toList
  isWhole := isDigits_of_all (by decide)
  isFraction := isDigits_of_all (by decide)
  nonempty := by decide

theorem twelve_thousand_read_as_twelve :
    finite (decimalOfText "12,345.67") = some ⟨1234567, -5⟩ ∧ ¬ ReadsRight "12,345.67" := by
  constructor
  · decide +kernel
  · rw [readsRight_iff]
    intro unmistakable
    have first : IsGrouped ',' ['1', '2'] ['1', '2'] :=
      .first (isDigits_of_all (by decide)) (by decide) (by decide)
    have grouped : IsGrouped ',' "12,345".toList twelveThousand.whole :=
      first.next (isDigits_of_all (by decide)) rfl
    have isEnglish : Reads .english twelveThousand (keptChars "12,345.67") :=
      @Reads.fraction .english twelveThousand "12,345".toList (.inr grouped)
    refine unmistakable.english twelveThousand isEnglish ?_ (by decide)
    intro numeral reads
    exact absurd (digits_after_comma reads '.' (by decide)) (by decide)

end FinanceSync.Saxo
