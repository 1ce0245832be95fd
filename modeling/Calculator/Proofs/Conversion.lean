import Calculator.Proofs.Nearest
import Calculator.Proofs.Partition

/-!
# The numbers of numerals

What a numeral stands for is a rational number, the sum of its digits by their places. A run of digits and
points is taken up exactly when it has a digit and no second point, and the number it is taken up as is that
sum, correctly rounded. Everything else follows from that: zeros that do not change the sum do not change the
number, and the order of sums is the order of numbers.
-/

set_option autoImplicit false

namespace Calculator

-- Powers of natural numbers are core's, whatever algebra is in scope.
attribute [local instance (1001)] instPowNat

namespace Decimal

def fractionValue : List Char → ℚ
  | [] => 0
  | digit :: rest => ((digit.toNat - '0'.toNat : Nat) + fractionValue rest) / 10

/-- The sum of the digits before the first point and of those behind it. -/
def textValue (text : List Char) : ℚ :=
  Nat.ofDigitChars 10 (text.takeWhile (· != '.')) 0 +
    fractionValue ((text.dropWhile (· != '.')).drop 1)

def Legible (text : List Char) : Prop :=
  (∃ character ∈ text, character.isDigit = true) ∧ text.count '.' ≤ 1

section

variable {text : List Char} {decimal : Decimal}

/-- Behind the point the digits are a whole number over a power of ten. -/
theorem fraction_value_eq (digits : List Char) :
    fractionValue digits = Nat.ofDigitChars 10 digits 0 / 10 ^ digits.length := by
  induction digits with
  | nil => simp [fractionValue]
  | cons digit rest ih =>
      have leading := @Nat.ofDigitChars_eq_ofDigitChars_zero rest (digit.toNat - '0'.toNat)
      rw [fractionValue, ih, Nat.ofDigitChars_cons, Nat.mul_zero, Nat.zero_add, leading,
        List.length_cons, pow_succ]
      push_cast
      field_simp

theorem read_eq_some_iff : read? text = some decimal ↔
    ((split text).1 ≠ [] ∧ (split text).1.all Char.isDigit = true) ∧
      { digits := Nat.ofDigitChars 10 (split text).1 0, exponent := -(split text).2 } = decimal := by
  rw [read?]
  generalize split text = parts
  obtain ⟨digits, places⟩ := parts
  simp only [Option.ite_none_right_eq_some, Option.some.injEq]

theorem value_of_read (read : read? text = some decimal) :
    textValue text = decimal.dividend / decimal.divisor / unitsPerOne := by
  obtain ⟨_, rfl⟩ := read_eq_some_iff.mp read
  have unit : (unitsPerOne : ℚ) ≠ 0 := ne_of_gt units_per_one_pos
  simp only [textValue, fraction_value_eq, dividend, divisor, split, Nat.ofDigitChars_append, Int.neg_neg,
    Int.toNat_natCast, Int.toNat_neg_natCast]
  generalize text.takeWhile (· != '.') = whole
  generalize (text.dropWhile (· != '.')).drop 1 = fraction
  rw [@Nat.ofDigitChars_eq_ofDigitChars_zero fraction (Nat.ofDigitChars 10 whole 0)]
  push_cast
  field_simp

theorem is_some_read_iff :
    (read? text).isSome = true ↔ (split text).1 ≠ [] ∧ (split text).1.all Char.isDigit = true := by
  simp only [Option.isSome_iff_exists, read_eq_some_iff]
  constructor
  · rintro ⟨_, fits, _⟩
    exact fits
  · intro fits
    exact ⟨_, fits, rfl⟩

def Gathers (text : List Char) : Prop :=
  ∀ character ∈ text, (character.isDigit || character == '.') = true

theorem gathers_zeros (zeros : Nat) : Gathers (List.replicate zeros '0') := by
  intro character member
  rw [List.eq_of_mem_replicate member]
  decide

theorem Gathers.append {behind : List Char} (gathers : Gathers text) (more : Gathers behind) :
    Gathers (text ++ behind) := by
  intro character member
  exact (List.mem_append.mp member).elim (gathers character) (more character)

theorem Gathers.digits_iff (gathers : Gathers text) : text.all Char.isDigit = true ↔ '.' ∉ text := by
  constructor
  · intro digits point
    exact bne_iff_ne.mp (not_point_of_digits digits '.' point) rfl
  · intro noPoint
    rw [List.all_eq_true]
    intro character member
    refine (Bool.or_eq_true_iff.mp (gathers character member)).resolve_right ?_
    intro point
    rw [beq_iff_eq.mp point] at member
    exact noPoint member

theorem split_eq_erase (text : List Char) : (split text).1 = text.erase '.' := by
  induction text with
  | nil => rfl
  | cons character rest ih =>
      rw [split] at ih
      by_cases point : character = '.'
      · simp [split, point]
      · simpa [split, point, List.erase_cons_tail] using ih

theorem Gathers.is_some_read_iff (gathers : Gathers text) :
    (read? text).isSome = true ↔ Legible text := by
  have restGathers : Gathers (text.erase '.') := fun character member =>
    gathers character (List.mem_of_mem_erase member)
  rw [Decimal.is_some_read_iff, split_eq_erase, Legible]
  have few : (text.erase '.').all Char.isDigit = true ↔ text.count '.' ≤ 1 := by
    rw [restGathers.digits_iff, ← List.count_eq_zero, List.count_erase_self, Nat.sub_eq_zero_iff_le]
  rw [← few]
  apply and_congr_left
  intro digits
  constructor
  · intro nonempty
    obtain ⟨digit, member⟩ := List.exists_mem_of_ne_nil _ nonempty
    exact ⟨digit, List.mem_of_mem_erase member, List.all_eq_true.mp digits digit member⟩
  · rintro ⟨digit, member, isDigit⟩
    have plain : digit ≠ '.' := by
      rintro rfl
      cases isDigit
    exact List.ne_nil_of_mem ((List.mem_erase_of_ne plain).mpr member)

theorem text_value_zeros_before (zeros : Nat) (text : List Char) :
    textValue (List.replicate zeros '0' ++ text) = textValue text := by
  have noPoint : ∀ character ∈ List.replicate zeros '0', (character != '.') = true := by
    intro character member
    rw [List.eq_of_mem_replicate member]
    decide
  rw [textValue, textValue, List.takeWhile_append_of_pos noPoint, List.dropWhile_append_of_pos noPoint,
    Nat.ofDigitChars_append, Nat.ofDigitChars_replicate_zero, Nat.mul_zero]

theorem fraction_value_zeros (digits : List Char) (zeros : Nat) :
    fractionValue (digits ++ List.replicate zeros '0') = fractionValue digits := by
  induction digits with
  | nil =>
      induction zeros with
      | zero => rfl
      | succ zeros ih => simpa [List.replicate_succ, fractionValue] using ih
  | cons digit rest ih => rw [List.cons_append, fractionValue, ih, fractionValue]

theorem text_value_zeros_behind (pointed : '.' ∈ text) (zeros : Nat) :
    textValue (text ++ List.replicate zeros '0') = textValue text := by
  obtain ⟨whole, fraction, rfl, noPoint⟩ := List.eq_append_cons_of_mem pointed
  have plain : ∀ character ∈ whole, (character != '.') = true := by
    intro character member
    rw [bne_iff_ne]
    rintro rfl
    exact noPoint member
  simp only [textValue, List.append_assoc, List.cons_append, List.takeWhile_append_of_pos plain,
    List.dropWhile_append_of_pos plain]
  simp [fraction_value_zeros]

theorem Legible.zeros_before (legible : Legible text) (zeros : Nat) :
    Legible (List.replicate zeros '0' ++ text) := by
  obtain ⟨⟨digit, member, isDigit⟩, few⟩ := legible
  refine ⟨⟨digit, List.mem_append_right _ member, isDigit⟩, ?_⟩
  rw [List.count_append, List.count_replicate]
  simpa using few

theorem Legible.zeros_behind (legible : Legible text) (zeros : Nat) :
    Legible (text ++ List.replicate zeros '0') := by
  obtain ⟨⟨digit, member, isDigit⟩, few⟩ := legible
  refine ⟨⟨digit, List.mem_append_left _ member, isDigit⟩, ?_⟩
  rw [List.count_append, List.count_replicate]
  simpa using few

end

end Decimal

/-- Wherever the text stands as a numeral, it is scanned as the number. -/
def Converts (text : List Char) (value : Binary64) : Prop :=
  ∀ (cursor : Cursor) (start : Nat) (rest : List Lexeme),
    cursor.pending = { kind := .numeral, text := String.ofList text, start } :: rest →
      ∃ next, cursor.advance = .done () next ∧ next.lookahead = .number value ∧
        next.text = String.ofList text ∧ next.pending = rest

/-- Wherever the text stands as a numeral, it is refused and named as it is written. -/
def Refused (text : List Char) : Prop :=
  ∀ (cursor : Cursor) (start : Nat) (rest : List Lexeme),
    cursor.pending = { kind := .numeral, text := String.ofList text, start } :: rest →
      cursor.advance = .failed (.unknownOperator (String.ofList text)) { cursor with pending := rest }

section

variable {text larger : List Char} {value : Binary64}

theorem advance_to_numeral {cursor : Cursor} {start : Nat} {rest : List Lexeme}
    (pending : cursor.pending = { kind := .numeral, text := String.ofList text, start } :: rest) :
    cursor.advance =
      match Decimal.read? text with
      | none => .failed (.unknownOperator (String.ofList text)) { cursor with pending := rest }
      | some decimal =>
          .done ()
            { cursor with
              lookahead := .number decimal.nearest
              text := String.ofList text
              pending := rest
              log := .scanned (.number decimal.nearest) start
                (start + (String.ofList text).utf8ByteSize) :: cursor.log } := by
  rw [Cursor.advance, pending]
  simp only [Token.ofLexeme?, String.toList_ofList]
  cases Decimal.read? text <;> rfl

def Cursor.beforeNumeral (text : List Char) : Cursor where
  lookahead := .finish
  text := ""
  openGroups := 0
  pending := [{ kind := .numeral, text := String.ofList text, start := 0 }]
  log := []

theorem refused_iff : Refused text ↔ Decimal.read? text = none := by
  constructor
  · intro refused
    have failed := refused (.beforeNumeral text) 0 [] rfl
    rw [advance_to_numeral rfl] at failed
    cases read : Decimal.read? text with
    | none => rfl
    | some decimal =>
        rw [read] at failed
        cases failed
  · intro unread cursor start rest pending
    rw [advance_to_numeral pending, unread]

theorem converts_iff : Converts text value ↔
    ∃ decimal, Decimal.read? text = some decimal ∧ decimal.nearest = value := by
  constructor
  · intro converts
    obtain ⟨next, done, number, _⟩ := converts (.beforeNumeral text) 0 [] rfl
    rw [advance_to_numeral rfl] at done
    cases read : Decimal.read? text with
    | none =>
        rw [read] at done
        cases done
    | some decimal =>
        rw [read] at done
        cases done
        exact ⟨decimal, rfl, Token.number.inj number⟩
  · rintro ⟨decimal, read, rfl⟩ cursor start rest pending
    rw [advance_to_numeral pending, read]
    exact ⟨_, rfl, rfl, rfl, rfl⟩

theorem Converts.rounds (converts : Converts text value) : Binary64.Rounds (Decimal.textValue text) value := by
  obtain ⟨decimal, read, rfl⟩ := converts_iff.mp converts
  rw [Decimal.value_of_read read]
  exact Binary64.rounds_round _ (Decimal.divisor_pos decimal)

theorem Converts.of_same_value (converts : Converts text value) (gathers : Decimal.Gathers larger)
    (legible : Decimal.Legible larger) (same : Decimal.textValue larger = Decimal.textValue text) :
    Converts larger value := by
  obtain ⟨decimal, read⟩ := Option.isSome_iff_exists.mp (gathers.is_some_read_iff.mpr legible)
  have own : Converts larger decimal.nearest := converts_iff.mpr ⟨decimal, read, rfl⟩
  have rounds := own.rounds
  rw [same] at rounds
  rw [← rounds.unique converts.rounds]
  exact own

end

/-- A run of digits and points is taken up exactly when it has a digit and no second point, and is refused
unchanged otherwise. Its number is the one double that is its value, correctly rounded. -/
theorem numerals_convert {text : List Char} (run : Lexeme.Kind.numeral.Matches text) :
    Lexeme.ofSource (String.ofList text) =
        [{ kind := .numeral, text := String.ofList text, start := 0 }] ∧
      (Decimal.Legible text ↔ ∃ value, Converts text value) ∧
        (¬Decimal.Legible text ↔ Refused text) ∧
          ∀ value, Converts text value →
            (∀ result, Binary64.Rounds (Decimal.textValue text) result ↔ result = value) ∧
              (value = .infinity false ↔ 2 ^ 1024 - 2 ^ 970 ≤ Decimal.textValue text) ∧
                value.toBits.toNat < Binary64.signBits true ∧
                  (∀ zeros, Converts (List.replicate zeros '0' ++ text) value) ∧
                    ('.' ∈ text → ∀ zeros, Converts (text ++ List.replicate zeros '0') value) ∧
                      ∀ larger largerValue, Converts larger largerValue →
                        Decimal.textValue text ≤ Decimal.textValue larger → value.AtMost largerValue := by
  have gathers : Decimal.Gathers text := fun character member =>
    Lexeme.Kind.mem_numeral_characters.mp (run.2 character member)
  have readable := gathers.is_some_read_iff
  have accepted : Decimal.Legible text ↔ ∃ value, Converts text value := by
    simp only [← readable, Option.isSome_iff_exists, converts_iff, exists_comm, exists_and_left,
      exists_eq', and_true]
  refine ⟨?_, accepted, ?_, ?_⟩
  · rw [Lexeme.ofSource, String.toList_ofList, Lexeme.runs_of_numeral run.1 gathers]
    rfl
  · rw [← readable, refused_iff, Option.not_isSome_iff_eq_none]
  · intro value converts
    have rounds := converts.rounds
    have legible := accepted.mpr ⟨value, converts⟩
    refine ⟨?_, rounds.infinity_iff, rounds.signless, ?_, ?_, ?_⟩
    · intro result
      constructor
      · intro other
        exact other.unique rounds
      · rintro rfl
        exact rounds
    · intro zeros
      exact converts.of_same_value ((Decimal.gathers_zeros zeros).append gathers) (legible.zeros_before zeros)
        (Decimal.text_value_zeros_before zeros text)
    · intro pointed zeros
      exact converts.of_same_value (gathers.append (Decimal.gathers_zeros zeros)) (legible.zeros_behind zeros)
        (Decimal.text_value_zeros_behind pointed zeros)
    · intro larger largerValue largerConverts ordered
      exact rounds.at_most largerConverts.rounds ordered

/-- Half-way between two doubles the even one is taken, and zeros before the numeral make no difference. -/
theorem half_way_numeral_converts :
    Lexeme.Kind.numeral.Matches "9007199254740993.0".toList ∧
      Converts "9007199254740993.0".toList (.ofNat 9007199254740992) ∧
        Converts ("000".toList ++ "9007199254740993.0".toList) (.ofNat 9007199254740992) := by
  have gathers : Decimal.Gathers "9007199254740993.0".toList := List.all_eq_true.mp (by decide)
  have run : Lexeme.Kind.numeral.Matches "9007199254740993.0".toList :=
    ⟨by decide, fun character member =>
      Lexeme.Kind.mem_numeral_characters.mpr (gathers character member)⟩
  have legible : Decimal.Legible "9007199254740993.0".toList := ⟨⟨'9', by decide, rfl⟩, by decide⟩
  obtain ⟨_, accepted, _, converted⟩ := numerals_convert run
  obtain ⟨value, converts⟩ := accepted.mp legible
  obtain ⟨next, done, number, _⟩ := converts (.beforeNumeral "9007199254740993.0".toList) 0 [] rfl
  have scanned : (Cursor.beforeNumeral "9007199254740993.0".toList).advance.cursor.lookahead =
      .number (.ofNat 9007199254740992) := by decide +kernel
  rw [done] at scanned
  have same := Token.number.inj (number.symm.trans scanned)
  rw [same] at converts
  exact ⟨run, converts, (converted _ converts).2.2.2.1 3⟩

end Calculator
