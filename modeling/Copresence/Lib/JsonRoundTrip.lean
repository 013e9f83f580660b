import Copresence.Lib.JsonText
import Mathlib.Data.List.Forall2

/-! What is written of a value is read back, but for what the format has no
words for. -/
namespace Copresence.JsonText

open Floating

/-- A short escape is read back as the character it was written for. -/
theorem escaped_shorthand {c mark : Char} (h : shorthand c = some mark) :
    escaped mark = some c ∧ mark ≠ 'u' := by
  rw [shorthand] at h
  split_ifs at h with own newline carriage tab backspace feed
  · obtain rfl := Option.some.inj h
    rcases own with rfl | rfl <;> decide
  all_goals
    obtain rfl := Option.some.inj h
    subst_vars
    decide

/-- Quote mark and backslash have short escapes, so nothing written as itself is
one of them. -/
theorem not_special_of_shorthand_none {c : Char} (h : shorthand c = none) :
    c ≠ quoteMark ∧ c ≠ backslash := by
  constructor <;> rintro rfl <;> cases h

/-- The four digits written of a control character are read back as its code. -/
theorem codeUnit_control {n : Nat} (h : n < 32) :
    codeUnit ['0', '0', hexDigit (n / 16), hexDigit (n % 16)] = some n := by
  revert n
  decide

/-- What a character is read as: what has no short escape comes as a unit. -/
def piece (c : Char) : Char ⊕ Nat :=
  if shorthand c = none ∧ c.toNat < 32 then .inr c.toNat else .inl c

/-- What is written of one character is read back as one piece. -/
theorem readPieces_escape (c : Char) (text : List Char) :
    readPieces (escape c ++ text) =
      (readPieces text).map fun read => (piece c :: read.1, read.2) := by
  rw [escape, piece]
  cases h : shorthand c with
  | some mark =>
      obtain ⟨same, notUnit⟩ := escaped_shorthand h
      simp [readPieces, same, notUnit]
  | none =>
      obtain ⟨notQuote, notBackslash⟩ := not_special_of_shorthand_none h
      by_cases control : c.toNat < 32
      · simp [control, readPieces, codeUnit_control control]
      · have plain : c ≠ '\x5c' := notBackslash
        simp [control, readPieces, plain, notQuote]

/-- The pieces of a string are read up to its closing quote mark. -/
theorem readPieces_quoted (chars text : List Char) :
    readPieces (chars.flatMap escape ++ quoteMark :: text) = some (chars.map piece, text) := by
  induction chars with
  | nil =>
      show readPieces ('\x22' :: text) = _
      simp [readPieces]
  | cons c chars ih =>
      rw [List.flatMap_cons, List.append_assoc, readPieces_escape, ih]
      rfl

/-- A code unit below the surrogates stands for its character alone. -/
theorem joinPieces_unit {unit : Nat} (small : unit < 0xD800) (pieces : List (Char ⊕ Nat)) :
    joinPieces (.inr unit :: pieces) = Char.ofNat unit :: joinPieces pieces := by
  have alone : lone unit = Char.ofNat unit := if_neg (by omega)
  cases pieces with
  | nil => simp [joinPieces, alone]
  | cons other pieces =>
      cases other with
      | inl c => simp [joinPieces, alone]
      | inr low => rw [joinPieces, if_neg (by omega), alone]

/-- Joining the pieces of a text gives the text back. -/
theorem joinPieces_map (chars : List Char) : joinPieces (chars.map piece) = chars := by
  induction chars with
  | nil => rfl
  | cons c chars ih =>
      rw [List.map_cons, piece]
      split
      · next control => rw [joinPieces_unit (by omega), ih, Char.ofNat_toNat]
      · rw [joinPieces, ih]

/-- A string is what its quotation is read as. -/
theorem readString_quoted (string : String) (text : List Char) :
    readString (string.toList.flatMap escape ++ quoteMark :: text) = some (string, text) := by
  rw [readString, readPieces_quoted, Option.map_some, joinPieces_map, String.ofList_toList]

section Numbers

variable {whole fraction text digits : List Char}

/-- A digit is neither the point nor the mark of a power. -/
theorem digit_not_mark {c : Char} (h : c.isDigit = true) : c ≠ '.' ∧ isPowerMark c = false := by
  constructor
  · rintro rfl
    cases h
  · rw [isPowerMark, Bool.or_eq_false_iff]
    constructor <;> apply decide_eq_false <;> rintro rfl <;> cases h

/-- A run of digits has at least one. -/
theorem isDigits_iff : isDigits text = true ↔ text ≠ [] ∧ ∀ c ∈ text, c.isDigit = true := by
  simp [isDigits]

/-- Digits that begin with no needless zero. -/
structure Whole (whole : List Char) : Prop where
  digits : isDigits whole = true
  led : whole = ['0'] ∨ whole.head? ≠ some '0'

/-- There is no point in the digits before it. -/
theorem Whole.pointless (h : Whole whole) : ∀ c ∈ whole, decide (c ≠ '.') = true :=
  fun c listed => decide_eq_true (digit_not_mark ((isDigits_iff.mp h.digits).2 c listed)).1

/-- A whole number is a mantissa without a fraction. -/
theorem isMantissa_whole (h : Whole whole) : isMantissa whole = true := by
  rw [isMantissa, List.takeWhile_eq_self_iff.mpr h.pointless,
    List.dropWhile_eq_nil_iff.mpr h.pointless]
  simpa [h.digits] using h.led

/-- With a point, the digits after it must be some. -/
theorem isMantissa_pointed (h : Whole whole) (after : isDigits fraction = true) :
    isMantissa (whole ++ '.' :: fraction) = true := by
  rw [isMantissa, List.takeWhile_append_of_pos h.pointless,
    List.dropWhile_append_of_pos h.pointless]
  simpa [h.digits, after] using h.led

/-- No mark of a power stands in a mantissa. -/
def Powerless (text : List Char) : Prop := ∀ c ∈ text, (!isPowerMark c) = true

/-- Digits alone carry no power. -/
theorem powerless_of_digits (h : ∀ c ∈ text, c.isDigit = true) : Powerless text := by
  intro c listed
  rw [(digit_not_mark (h c listed)).2]
  rfl

/-- Digits with a point between them carry no power. -/
theorem Powerless.append_point (first : Powerless whole) (second : Powerless fraction) :
    Powerless (whole ++ '.' :: fraction) := by
  intro c listed
  rcases List.mem_append.mp listed with listed | listed
  · exact first c listed
  · rcases List.mem_cons.mp listed with rfl | listed
    · rfl
    · exact second c listed

/-- A mark of a power is an e, so a text without one has no e. -/
theorem Powerless.not_mem (h : Powerless text) : 'e' ∉ text := fun listed => by
  cases h 'e' listed

/-- A mantissa alone is a numeral, -/
theorem decimal_plain (powerless : Powerless text) (h : isMantissa text = true) :
    isDecimal text = true ∧ decimalValue text = readDecimal text := by
  have before : mantissa text = text := List.takeWhile_eq_self_iff.mpr powerless
  have after : power text = [] := List.dropWhile_eq_nil_iff.mpr powerless
  constructor
  · rw [isDecimal, before, after, h]
    rfl
  · rw [decimalValue, before, after, readDecimal_plain powerless.not_mem]
    simp [powerValue]

/-- The written exponent has a sign and digits, and is read back as it was. -/
theorem signed_power (place : ℤ) :
    isDigits (unsigned ((if place < 0 then '-' else '+') :: Nat.toDigits 10 place.natAbs)) = true ∧
      powerValue ((if place < 0 then '-' else '+') :: Nat.toDigits 10 place.natAbs) =
        readPower ((if place < 0 then '-' else '+') :: Nat.toDigits 10 place.natAbs) := by
  have digits : isDigits (Nat.toDigits 10 place.natAbs) = true :=
    isDigits_iff.mpr ⟨Nat.toDigits_ne_nil, fun _ => isDigit_of_mem_numeral⟩
  split
  · exact ⟨digits, rfl⟩
  · exact ⟨digits, rfl⟩

/-- and so is one with a signed power of ten. -/
theorem decimal_power (text : List Char) (powerless : Powerless text) (h : isMantissa text = true)
    {powerText : List Char} (signed : isDigits (unsigned powerText) = true ∧
      powerValue powerText = readPower powerText) :
    isDecimal (text ++ 'e' :: powerText) = true ∧
      decimalValue (text ++ 'e' :: powerText) = readDecimal (text ++ 'e' :: powerText) := by
  have before : mantissa (text ++ 'e' :: powerText) = text := by
    rw [mantissa, List.takeWhile_append_of_pos powerless]
    simp [isPowerMark]
  have after : power (text ++ 'e' :: powerText) = 'e' :: powerText := by
    rw [power, List.dropWhile_append_of_pos powerless]
    simp [isPowerMark]
  constructor
  · rw [isDecimal, before, after, h, isPower, List.tail_cons, signed.1]
    rfl
  · rw [decimalValue, before, after, readDecimal_power powerless.not_mem, List.tail_cons, signed.2]

/-- Digits that do not begin with zero make a whole number. -/
theorem whole_of_led {c : Char} (all : ∀ d ∈ c :: text, d.isDigit = true) (led : c ≠ '0') :
    Whole (c :: text) where
  digits := isDigits_iff.mpr ⟨List.cons_ne_nil c text, all⟩
  led := Or.inr (by simpa using led)

/-- Every form in which digits are written is a numeral. -/
theorem decimal_positional {c : Char} (all : ∀ d ∈ c :: digits, d.isDigit = true) (led : c ≠ '0')
    (point : ℤ) :
    isDecimal (positional (c :: digits) point) = true ∧
      decimalValue (positional (c :: digits) point) =
        readDecimal (positional (c :: digits) point) := by
  have zeros : ∀ count : ℕ, ∀ d ∈ List.replicate count '0', d.isDigit = true := by
    intro count d listed
    rw [List.eq_of_mem_replicate listed]
    rfl
  have ownDigit : ∀ d ∈ [c], d.isDigit = true :=
    fun d listed => all d (List.mem_cons.mpr (Or.inl (List.mem_singleton.mp listed)))
  rw [positional]
  split
  · next fits =>
      have longer : ∀ d ∈ (c :: digits) ++ List.replicate (point - (c :: digits).length).toNat '0',
          d.isDigit = true := by
        intro d listed
        exact (List.mem_append.mp listed).elim (all d) (zeros _ d)
      exact decimal_plain (powerless_of_digits longer) (isMantissa_whole (whole_of_led longer led))
  · next long =>
      split
      · next inside =>
          obtain ⟨count, hCount⟩ : ∃ count, point.toNat = count + 1 := ⟨point.toNat - 1, by omega⟩
          have before : ∀ d ∈ c :: digits.take count, d.isDigit = true := by
            intro d listed
            exact all d (List.mem_of_mem_take (i := count + 1) listed)
          have after : ∀ d ∈ digits.drop count, d.isDigit = true := by
            intro d listed
            exact all d (List.mem_cons_of_mem _ (List.mem_of_mem_drop listed))
          have rest : digits.drop count ≠ [] := by
            rw [List.length_cons] at long
            rw [Ne, List.drop_eq_nil_iff]
            omega
          rw [hCount]
          exact decimal_plain
            ((powerless_of_digits before).append_point (powerless_of_digits after))
            (isMantissa_pointed (whole_of_led before led) (isDigits_iff.mpr ⟨rest, after⟩))
      · next outside =>
          split
          · next small =>
              have after : ∀ d ∈ List.replicate (-point).toNat '0' ++ c :: digits,
                  d.isDigit = true := by
                intro d listed
                exact (List.mem_append.mp listed).elim (zeros _ d) (all d)
              have zero : Whole ['0'] := ⟨rfl, Or.inl rfl⟩
              have digits : isDigits (List.replicate (-point).toNat '0' ++ c :: digits) = true :=
                isDigits_iff.mpr ⟨by simp, after⟩
              exact decimal_plain ((powerless_of_digits (zeros 1)).append_point
                (powerless_of_digits after)) (isMantissa_pointed zero digits)
          · next large =>
              have alone : Whole [c] := whole_of_led ownDigit led
              dsimp only
              split
              · next digit only =>
                  obtain ⟨rfl, rfl⟩ := List.cons.inj only
                  exact decimal_power [c] (powerless_of_digits ownDigit)
                    (isMantissa_whole alone) (signed_power _)
              · next more =>
                  have after : ∀ d ∈ digits, d.isDigit = true :=
                    fun d listed => all d (List.mem_cons_of_mem _ listed)
                  have some : digits ≠ [] := fun none => more c (by rw [none])
                  exact decimal_power ([c] ++ '.' :: digits)
                    ((powerless_of_digits ownDigit).append_point (powerless_of_digits after))
                    (isMantissa_pointed alone (isDigits_iff.mpr ⟨some, after⟩)) (signed_power _)

/-- No digit but zero is written as zero. -/
theorem digitChar_ne_zero : ∀ n < 10, n ≠ 0 → n.digitChar ≠ '0' := by
  decide

/-- The digits of a number other than zero begin with another digit. -/
theorem toDigits_led {n : ℕ} (positive : n ≠ 0) :
    ∃ c digits, Nat.toDigits 10 n = c :: digits ∧ c ≠ '0' := by
  induction n using Nat.strongRecOn with
  | _ n ih =>
      by_cases small : n < 10
      · exact ⟨n.digitChar, [], Nat.toDigits_of_lt_base small, digitChar_ne_zero n small positive⟩
      · have parts := Nat.toDigits_of_base_le (b := 10) (n := n) (by omega) (by omega)
        obtain ⟨c, digits, same, led⟩ := ih (n / 10) (by omega) (by omega)
        exact ⟨c, digits ++ [(n % 10).digitChar], by rw [parts, same]; rfl, led⟩

/-- The shortest digits of a number make a decimal of the format, worth what
they were written for. -/
theorem decimal_write {s : Scientific} (positive : s.digits ≠ 0) :
    isDecimal s.write = true ∧ decimalValue s.write = readDecimal s.write := by
  obtain ⟨c, digits, same, led⟩ := toDigits_led positive
  rw [Scientific.write, same]
  apply decimal_positional _ led
  intro d listed
  rw [← same] at listed
  exact isDigit_of_mem_numeral listed

/-- A positive number has a digit that is not zero. -/
theorem shortest_digits {x : ℚ} (h : binary64.Representable x) (positive : 0 < x) :
    (Scientific.shortest x).digits ≠ 0 := by
  intro none
  have same := Scientific.nearest_shortest h positive
  rw [Scientific.value, none] at same
  simp only [Nat.cast_zero, zero_mul, Format.nearest_zero] at same
  exact positive.ne same

/-- A number that rounds to a value is read as that value. -/
theorem toNumber_eq {x : ℚ} {value : binary64.Finite} (h : binary64.nearest x = value.value) :
    toNumber x = .finite value.value := by
  have bounded : |binary64.nearest x| ≤ binary64.largest := by
    rw [h]
    exact value.bounded
  rw [toNumber, Number.ofRat_eq_finite bounded]
  exact congrArg JsNumber.finite h

/-- A text that begins with a digit is a decimal or no numeral at all. -/
theorem numeral_of_digit {c : Char} (digit : c.isDigit = true) :
    numeral (c :: text) =
      if isDecimal (c :: text) then some (toNumber (decimalValue (c :: text))) else none := by
  rw [numeral]
  intro rest same
  obtain ⟨rfl, rfl⟩ := List.cons.inj same
  cases digit

/-- A number is what its text is read as. -/
theorem numeral_numberToString (value : binary64.Finite) :
    numeral (numberToString value.value).toList = some (.finite value.value) := by
  have same := nearest_readNumber value.representable
  rw [numberToString] at same ⊢
  split at same
  · next zero =>
      rw [if_pos zero]
      have shown : numeral "0".toList = some (toNumber 0) := by decide +kernel
      have nearest : binary64.nearest 0 = value.value := by
        rw [zero]
        exact Format.nearest_zero
      rw [shown, toNumber_eq nearest]
  · next nonzero =>
      rw [if_neg nonzero]
      split at same
      · next negative =>
          obtain ⟨decimal, reads⟩ := decimal_write
            (shortest_digits value.representable.neg (by linarith))
          rw [if_pos negative, String.toList_ofList, numeral, if_pos decimal, reads]
          rw [String.toList_ofList, readNumber] at same
          rw [toNumber_eq same]
      · next nonneg =>
          have positive : 0 < value.value :=
            lt_of_le_of_ne (not_lt.mp nonneg) (Ne.symm nonzero)
          obtain ⟨decimal, reads⟩ := decimal_write (shortest_digits value.representable positive)
          obtain ⟨c, rest, hWrite, digit⟩ := (Scientific.shortest value.value).write_head
          rw [if_neg nonneg, String.toList_ofList]
          rw [String.toList_ofList, readNumber_write, ← Scientific.readDecimal_write,
            ← reads] at same
          rw [hWrite] at decimal same ⊢
          rw [numeral_of_digit digit, if_pos decimal, toNumber_eq same]

/-- All that numerals are written with belongs to one token. -/
theorem isMark_of_numeralMark {c : Char} (h : NumeralMark c) : isMark c = true := by
  rcases h with digit | listed
  · simp [isMark, digit]
  · simp only [List.mem_cons, List.not_mem_nil, or_false] at listed
    rcases listed with rfl | rfl | rfl | rfl <;> rfl

end Numbers

/-- A number of the language: one of 64 bits, infinite or none. -/
def IsDouble : JsNumber → Prop
  | .finite value => ∃ double : binary64.Finite, double.value = value
  | .infinity _ => True
  | .nan => True

mutual

/-- Numbers are of 64 bits, and no object has a property twice. -/
def WellFormed : JsValue → Prop
  | .number value => IsDouble value
  | .array items => AllWellFormed items
  | .object fields => (fields.map Prod.fst).Nodup ∧ FieldsWellFormed fields
  | _ => True

def AllWellFormed : List JsValue → Prop
  | [] => True
  | item :: items => WellFormed item ∧ AllWellFormed items

def FieldsWellFormed : List (String × JsValue) → Prop
  | [] => True
  | (_, value) :: fields => WellFormed value ∧ FieldsWellFormed fields

end

mutual

/-- What comes through the format: numbers that are not finite come as `null`,
and so does what is `undefined` in an array; in an object it is left out. -/
def json : JsValue → JsValue
  | .undefined => .null
  | .number (.finite value) => .number (.finite value)
  | .number _ => .null
  | .array items => .array (jsonItems items)
  | .object fields => .object (jsonFields fields)
  | value => value

def jsonItems : List JsValue → List JsValue
  | [] => []
  | item :: items => json item :: jsonItems items

def jsonFields : List (String × JsValue) → List (String × JsValue)
  | [] => []
  | (_, .undefined) :: fields => jsonFields fields
  | (key, value) :: fields => (key, json value) :: jsonFields fields

end

/-- What may follow a value: nothing that a number could go on with. -/
def Ends (rest : List Char) : Prop := ∀ c, rest.head? = some c → isMark c = false

/-- The text is read as the value wherever it stands. -/
def Reads (text : List Char) (value : JsValue) : Prop :=
  ∀ fuel rest, 2 * text.length < fuel → Ends rest →
    readValue fuel (text ++ rest) = some (value, rest)

/-- What is no space is not skipped. -/
theorem skip_cons {c : Char} {text : List Char} (h : isSpace c = false) :
    skip (c :: text) = c :: text := by
  rw [skip, List.dropWhile_cons_of_neg (by simp [h])]

/-- The next character is the first that is no space. -/
theorem next_cons {c : Char} {text : List Char} (h : isSpace c = false) :
    next (c :: text) = some (c, text) := by
  rw [next, skip_cons h]

/-- A token holds no spaces. -/
theorem isSpace_of_isMark {c : Char} (h : isMark c = true) : isSpace c = false := by
  by_contra space
  rw [Bool.not_eq_false, isSpace] at space
  simp only [Bool.or_eq_true, decide_eq_true_eq] at space
  rcases space with ((rfl | rfl) | rfl) | rfl <;> cases h

/-- Behind a value's end no token goes on. -/
theorem takeWhile_eq_nil {rest : List Char} (ends : Ends rest) : rest.takeWhile isMark = [] := by
  cases rest with
  | nil => rfl
  | cons c rest => exact List.takeWhile_cons_of_neg (by simp [ends c rfl])

/-- Behind a value's end there is nothing of a token to drop. -/
theorem dropWhile_eq_self {rest : List Char} (ends : Ends rest) : rest.dropWhile isMark = rest := by
  cases rest with
  | nil => rfl
  | cons c rest => exact List.dropWhile_cons_of_neg (by simp [ends c rfl])

/-- The three words of the format are read as their values. -/
theorem reads_literal {text : List Char} {value : JsValue} (listed : (text, value) ∈ literals) :
    Reads text value := by
  intro fuel rest enough ends
  obtain ⟨fuel, rfl⟩ : ∃ more, fuel = more + 1 := ⟨fuel - 1, by omega⟩
  simp only [literals, List.mem_cons, Prod.mk.injEq, List.not_mem_nil, or_false] at listed
  rcases listed with ⟨rfl, rfl⟩ | ⟨rfl, rfl⟩ | ⟨rfl, rfl⟩ <;> rfl

/-- A finite number is read back from what is written of it. -/
theorem reads_number (value : binary64.Finite) :
    Reads (numberToString value.value).toList (.number (.finite value.value)) := by
  intro fuel rest enough ends
  obtain ⟨fuel, rfl⟩ : ∃ more, fuel = more + 1 := ⟨fuel - 1, by omega⟩
  have marks : ∀ c ∈ (numberToString value.value).toList, isMark c = true :=
    fun c listed => isMark_of_numeralMark (numberToString_marks listed)
  have token : ((numberToString value.value).toList ++ rest).takeWhile isMark =
      (numberToString value.value).toList := by
    rw [List.takeWhile_append_of_pos marks, takeWhile_eq_nil ends, List.append_nil]
  have after : ((numberToString value.value).toList ++ rest).dropWhile isMark = rest := by
    rw [List.dropWhile_append_of_pos marks, dropWhile_eq_self ends]
  have reading : readNumeral ((numberToString value.value).toList ++ rest) =
      some (.number (.finite value.value), rest) := by
    rw [readNumeral, token, after, numeral_numberToString]
    rfl
  obtain ⟨c, more, same⟩ := List.exists_cons_of_ne_nil (numberToString_ne_nil value.value)
  rw [same] at marks reading ⊢
  have mark := marks c List.mem_cons_self
  have space := isSpace_of_isMark mark
  have others : c ≠ quoteMark ∧ c ≠ '[' ∧ c ≠ openBrace := by
    refine ⟨?_, ?_, ?_⟩ <;> rintro rfl <;> cases mark
  rw [readValue, List.cons_append, next_cons space, Option.bind_some, if_neg others.1,
    if_neg others.2.1, if_neg others.2.2, if_pos mark, skip_cons space]
  exact reading

/-- A string is read back from its quotation. -/
theorem reads_string (text : String) : Reads (quote text) (.string text) := by
  intro fuel rest enough ends
  obtain ⟨fuel, rfl⟩ : ∃ more, fuel = more + 1 := ⟨fuel - 1, by omega⟩
  rw [readValue, quote, List.cons_append, next_cons rfl, Option.bind_some, if_pos rfl,
    List.append_assoc, List.singleton_append, readString_quoted, Option.map_some]

/-- A comma is written between two items and nowhere else. -/
theorem length_separated_cons (text : List Char) (texts : List (List Char)) :
    (separated (text :: texts)).length =
      text.length + if texts = [] then 0 else 1 + (separated texts).length := by
  cases texts with
  | nil => rfl
  | cons next texts =>
      rw [separated, List.length_append, List.length_cons, if_neg (List.cons_ne_nil _ _)]
      omega

/-- Items that can be read are read one after the other. -/
theorem readItems_separated {texts : List (List Char)} {values : List JsValue}
    (reads : List.Forall₂ Reads texts values) (some : texts ≠ []) {fuel : Nat}
    (enough : 2 * (separated texts).length + 1 < fuel) (rest : List Char) :
    readItems fuel (separated texts ++ ']' :: rest) = .some (values, rest) := by
  induction reads generalizing fuel with
  | nil => exact absurd rfl some
  | @cons text value texts values first later ih =>
      obtain ⟨fuel, rfl⟩ : ∃ more, fuel = more + 1 := ⟨fuel - 1, by omega⟩
      rw [length_separated_cons] at enough
      rw [readItems]
      cases texts with
      | nil =>
          cases later
          have ends : Ends (']' :: rest) := by
            intro c h
            obtain rfl := Option.some.inj h
            rfl
          rw [separated, first fuel _ (by omega) ends, Option.bind_some, next_cons rfl,
            Option.bind_some, if_pos rfl]
      | cons text' texts =>
          have ends : Ends (',' :: (separated (text' :: texts) ++ ']' :: rest)) := by
            intro c h
            obtain rfl := Option.some.inj h
            rfl
          rw [if_neg (List.cons_ne_nil _ _)] at enough
          rw [separated, List.append_assoc, List.cons_append, first fuel _ (by omega) ends,
            Option.bind_some, next_cons rfl, Option.bind_some, if_neg (show ¬ ',' = ']' by decide),
            if_pos rfl, ih (List.cons_ne_nil _ _) (by omega)]
          rfl

/-- The text is read as a property with this value. -/
def ReadsMember (text : List Char) (member : String × JsValue) : Prop :=
  ∃ value, text = quote member.1 ++ ':' :: value ∧ Reads value member.2

/-- Fields written one behind the other are read as fields, up to the brace that
closes them. -/
theorem readMembers_separated {texts : List (List Char)} {members : List (String × JsValue)}
    (reads : List.Forall₂ ReadsMember texts members) (some : texts ≠ []) {fuel : Nat}
    (enough : 2 * (separated texts).length + 1 < fuel) (rest : List Char) :
    readMembers fuel (separated texts ++ closeBrace :: rest) = .some (members, rest) := by
  induction reads generalizing fuel with
  | nil => exact absurd rfl some
  | @cons text member texts members first later ih =>
      obtain ⟨fuel, rfl⟩ : ∃ more, fuel = more + 1 := ⟨fuel - 1, by omega⟩
      obtain ⟨valueText, rfl, value⟩ := first
      rw [length_separated_cons, List.length_append, List.length_cons] at enough
      rw [readMembers]
      cases texts with
      | nil =>
          cases later
          have ends : Ends (closeBrace :: rest) := by
            intro c h
            obtain rfl := Option.some.inj h
            rfl
          rw [separated, quote, List.append_assoc, List.cons_append, List.cons_append,
            next_cons rfl, Option.bind_some, if_pos rfl, List.append_assoc, List.singleton_append,
            readString_quoted, Option.bind_some, next_cons rfl, Option.bind_some, if_pos rfl,
            value fuel _ (by omega) ends, Option.bind_some, next_cons rfl, Option.bind_some,
            if_pos rfl]
      | cons text' texts =>
          have ends : Ends (',' :: (separated (text' :: texts) ++ closeBrace :: rest)) := by
            intro c h
            obtain rfl := Option.some.inj h
            rfl
          rw [if_neg (List.cons_ne_nil _ _)] at enough
          rw [separated, quote, List.append_assoc, List.append_assoc, List.cons_append,
            List.cons_append, next_cons rfl, Option.bind_some, if_pos rfl, List.append_assoc,
            List.singleton_append, readString_quoted, Option.bind_some, List.cons_append,
            next_cons rfl, Option.bind_some, if_pos rfl, value fuel _ (by omega) ends,
            Option.bind_some, next_cons rfl, Option.bind_some,
            if_neg (show ¬ ',' = closeBrace by decide), if_pos rfl,
            ih (List.cons_ne_nil _ _) (by omega)]
          rfl

/-- Fields of different names are kept in the order they are read in. -/
theorem foldl_put (before : List (String × JsValue)) {fields : List (String × JsValue)}
    (distinct : ((before ++ fields).map Prod.fst).Nodup) :
    fields.foldl put before = before ++ fields := by
  induction fields generalizing before with
  | nil => simp
  | cons field fields ih =>
      have fresh : field.1 ∉ before.map Prod.fst := by
        rw [List.map_append, List.nodup_append] at distinct
        intro listed
        exact distinct.2.2 _ listed _ (List.mem_map_of_mem List.mem_cons_self) rfl
      rw [List.append_cons] at distinct
      rw [List.foldl_cons, put, if_neg fresh, ih (before ++ [field]) distinct]
      exact (List.append_cons before field fields).symm

/-- Leaving out the fields the format has no words for brings in no new name. -/
theorem jsonFields_sublist (fields : List (String × JsValue)) :
    ((jsonFields fields).map Prod.fst).Sublist (fields.map Prod.fst) := by
  induction fields with
  | nil => exact List.Sublist.slnil
  | cons field fields ih =>
      obtain ⟨key, value⟩ := field
      cases value with
      | undefined => exact ih.cons key
      | _ => exact ih.cons_cons key

theorem reads_null : Reads "null".toList .null := reads_literal List.mem_cons_self

/-- What is written of a value begins with a character of the value's own. -/
theorem written_head (value : JsValue) :
    ∃ c text, written value = c :: text ∧ isSpace c = false ∧ c ≠ ']' := by
  cases value with
  | undefined => exact ⟨'n', _, rfl, rfl, by decide⟩
  | null => exact ⟨'n', _, rfl, rfl, by decide⟩
  | bool value =>
      cases value with
      | true => exact ⟨'t', _, rfl, rfl, by decide⟩
      | false => exact ⟨'f', _, rfl, rfl, by decide⟩
  | number value =>
      cases value with
      | finite value =>
          obtain ⟨c, text, same⟩ := List.exists_cons_of_ne_nil (numberToString_ne_nil value)
          have listed : c ∈ (numberToString value).toList := by
            rw [same]
            exact List.mem_cons_self
          have mark := isMark_of_numeralMark (numberToString_marks listed)
          refine ⟨c, text, same, isSpace_of_isMark mark, ?_⟩
          rintro rfl
          cases mark
      | infinity negative => exact ⟨'n', _, rfl, rfl, by decide⟩
      | nan => exact ⟨'n', _, rfl, rfl, by decide⟩
  | string text => exact ⟨quoteMark, _, rfl, rfl, by decide⟩
  | array items => exact ⟨'[', _, rfl, rfl, by decide⟩
  | object fields => exact ⟨openBrace, _, rfl, rfl, by decide⟩

/-- A list of texts begins as its first does. -/
theorem separated_head (c : Char) (text : List Char) (texts : List (List Char)) :
    ∃ rest, separated ((c :: text) :: texts) = c :: rest := by
  cases texts with
  | nil => exact ⟨text, rfl⟩
  | cons next texts => exact ⟨_, rfl⟩

/-- An array is read back when each of its items is. -/
theorem reads_array {items values : List JsValue}
    (reads : List.Forall₂ Reads (itemTexts items) values) :
    Reads (written (.array items)) (.array values) := by
  intro fuel rest enough ends
  obtain ⟨fuel, rfl⟩ : ∃ more, fuel = more + 1 := ⟨fuel - 1, by omega⟩
  rw [written, List.length_cons, List.length_append, List.length_singleton] at enough
  rw [readValue, written, List.cons_append, next_cons rfl, Option.bind_some,
    if_neg (show ¬ '[' = quoteMark by decide), if_pos rfl, List.append_assoc, List.singleton_append]
  dsimp only
  cases items with
  | nil =>
      cases reads
      rfl
  | cons item items =>
      rw [itemTexts] at reads enough ⊢
      obtain ⟨c, text, same, space, other⟩ := written_head item
      obtain ⟨more, first⟩ := separated_head c text (itemTexts items)
      have opened : (next (separated (written item :: itemTexts items) ++ ']' :: rest)).map
          Prod.fst ≠ some ']' := by
        rw [same, first, List.cons_append, next_cons space]
        simpa using other
      rw [if_neg opened, readItems_separated reads (List.cons_ne_nil _ _) (by omega)]
      rfl

/-- An object is read back when each of its fields is and no two have one name. -/
theorem reads_object {fields members : List (String × JsValue)}
    (distinct : (members.map Prod.fst).Nodup)
    (reads : List.Forall₂ ReadsMember (memberTexts fields) members) :
    Reads (written (.object fields)) (.object members) := by
  intro fuel rest enough ends
  obtain ⟨fuel, rfl⟩ : ∃ more, fuel = more + 1 := ⟨fuel - 1, by omega⟩
  rw [written, List.length_cons, List.length_append, List.length_singleton] at enough
  rw [readValue, written, List.cons_append, next_cons rfl, Option.bind_some,
    if_neg (show ¬openBrace = quoteMark by decide), if_neg (show ¬openBrace = '[' by decide),
    if_pos rfl, List.append_assoc, List.singleton_append]
  dsimp only
  generalize memberTexts fields = texts at reads enough ⊢
  cases reads with
  | nil => rfl
  | @cons text member texts members first later =>
      obtain ⟨valueText, rfl, value⟩ := first
      obtain ⟨more, head⟩ := separated_head quoteMark
        ((member.1.toList.flatMap escape ++ [quoteMark]) ++ ':' :: valueText) texts
      have opened : (next (separated ((quote member.1 ++ ':' :: valueText) :: texts) ++
          closeBrace :: rest)).map Prod.fst ≠ some closeBrace := by
        rw [quote, List.cons_append, head, List.cons_append, next_cons rfl]
        exact (show ¬some quoteMark = some closeBrace by decide)
      rw [if_neg opened, readMembers_separated (.cons ⟨valueText, rfl, value⟩ later)
        (List.cons_ne_nil _ _) (by omega), Option.map_some,
        foldl_put [] (by simpa using distinct)]
      rfl

/-- What is written of a value is read as what the format keeps of it. -/
theorem reads_written (value : JsValue) :
    WellFormed value → Reads (written value) (json value) := by
  refine @JsValue.rec (fun value => WellFormed value → Reads (written value) (json value))
    (fun items => AllWellFormed items → List.Forall₂ Reads (itemTexts items) (jsonItems items))
    (fun fields => FieldsWellFormed fields →
      List.Forall₂ ReadsMember (memberTexts fields) (jsonFields fields))
    (fun field => WellFormed field.2 → Reads (written field.2) (json field.2))
    ?undefined ?null ?bool ?number ?string ?array ?object ?noItem ?item ?noField ?field ?pair value
  case undefined => exact fun _ => reads_null
  case null => exact fun _ => reads_null
  case bool =>
    intro value _
    cases value with
    | true => exact reads_literal (List.mem_cons_of_mem _ List.mem_cons_self)
    | false =>
        apply reads_literal
        exact List.mem_cons_of_mem _ (List.mem_cons_of_mem _ List.mem_cons_self)
  case number =>
    intro value wf
    cases value with
    | finite value =>
        obtain ⟨double, rfl⟩ := wf
        exact reads_number double
    | infinity negative => exact reads_null
    | nan => exact reads_null
  case string => exact fun text _ => reads_string text
  case array => exact fun items ih wf => reads_array (ih wf)
  case object =>
    intro fields ih wf
    exact reads_object (wf.1.sublist (jsonFields_sublist fields)) (ih wf.2)
  case noItem => exact fun _ => .nil
  case item => exact fun item items first later wf => .cons (first wf.1) (later wf.2)
  case noField => exact fun _ => .nil
  case field =>
    intro field fields first later wf
    obtain ⟨key, value⟩ := field
    cases value with
    | undefined => exact later wf.2
    | _ => exact .cons ⟨_, rfl, first wf.1⟩ (later wf.2)
  case pair => exact fun _ _ ih => ih

/-- `JSON.parse` inverts `JSON.stringify`, but for what the format has no words for. -/
theorem parse_written {value : JsValue} (wf : WellFormed value) :
    parse (String.ofList (written value)) = some (json value) := by
  have whole := reads_written value wf (2 * (written value).length + 2) [] (by omega)
    (by intro c none; cases none)
  rw [List.append_nil] at whole
  rw [parse, String.toList_ofList, whole]
  rfl

/-- The items of a well formed array are well formed, each by itself. -/
theorem allWellFormed_iff {items : List JsValue} :
    AllWellFormed items ↔ ∀ item ∈ items, WellFormed item := by
  induction items with
  | nil => simp [AllWellFormed]
  | cons item items ih => rw [AllWellFormed, ih, List.forall_mem_cons]

/-- Items that the format can say are all written as they are. -/
theorem jsonItems_eq_self {items : List JsValue} (h : ∀ item ∈ items, json item = item) :
    jsonItems items = items := by
  induction items with
  | nil => rfl
  | cons item items ih =>
      obtain ⟨here, later⟩ := List.forall_mem_cons.mp h
      rw [jsonItems, here, ih later]

end Copresence.JsonText
