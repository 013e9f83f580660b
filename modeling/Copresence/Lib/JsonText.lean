import Copresence.Lib.JsValue

/-! The text that `JSON.stringify` writes of a value and the value that
`JSON.parse` reads of a text. -/
namespace Copresence.JsonText

open Floating

abbrev quoteMark : Char := '\x22'

abbrev backslash : Char := '\x5c'

abbrev openBrace : Char := '\x7b'

abbrev closeBrace : Char := '\x7d'

def isSpace (c : Char) : Bool := c = ' ' || c = '\t' || c = '\n' || c = '\r'

def isPowerMark (c : Char) : Bool := c = 'e' || c = 'E'

/-- The characters a number may be written with. -/
def isMark (c : Char) : Bool := c.isDigit || isPowerMark c || c = '.' || c = '+' || c = '-'

def hexDigits : List Char := "0123456789abcdef".toList

def hexDigit (n : Nat) : Char := hexDigits.getD n '0'

def hexValue (c : Char) : Option Nat :=
  let lower := c.toLower
  if lower ∈ hexDigits then some (hexDigits.idxOf lower) else none

/-- The character that stands for another one after a backslash. -/
def shorthand (c : Char) : Option Char :=
  if c = quoteMark ∨ c = backslash then some c
  else if c = '\n' then some 'n'
  else if c = '\r' then some 'r'
  else if c = '\t' then some 't'
  else if c = '\x08' then some 'b'
  else if c = '\x0c' then some 'f'
  else none

/-- One character between quotes. -/
def escape (c : Char) : List Char :=
  match shorthand c with
  | some mark => [backslash, mark]
  | none =>
    if c.toNat < 32 then
      [backslash, 'u', '0', '0', hexDigit (c.toNat / 16), hexDigit (c.toNat % 16)]
    else [c]

def quote (text : String) : List Char :=
  quoteMark :: (text.toList.flatMap escape ++ [quoteMark])

/-- What a character stands for after a backslash. -/
def escaped (mark : Char) : Option Char :=
  if mark = quoteMark ∨ mark = backslash ∨ mark = '/' then some mark
  else if mark = 'n' then some '\n'
  else if mark = 'r' then some '\r'
  else if mark = 't' then some '\t'
  else if mark = 'b' then some '\x08'
  else if mark = 'f' then some '\x0c'
  else none

/-- A code unit given by its four digits. -/
def codeUnit (digits : List Char) : Option Nat :=
  (digits.mapM hexValue).map fun values => values.foldl (fun n value => 16 * n + value) 0

/-- The characters and code units up to the closing quote, and what follows it. -/
def readPieces : List Char → Option (List (Char ⊕ Nat) × List Char)
  | [] => none
  | '\x5c' :: 'u' :: a :: b :: c :: d :: text =>
    (codeUnit [a, b, c, d]).bind fun unit =>
      (readPieces text).map fun read => (.inr unit :: read.1, read.2)
  | '\x5c' :: mark :: text =>
    (escaped mark).bind fun c => (readPieces text).map fun read => (.inl c :: read.1, read.2)
  | c :: text =>
    if c = quoteMark then some ([], text)
    else if c = backslash ∨ c.toNat < 32 then none
    else (readPieces text).map fun read => (.inl c :: read.1, read.2)

/-- A code unit by itself; half of a pair is no character. -/
def lone (unit : Nat) : Char :=
  if 0xD800 ≤ unit ∧ unit < 0xE000 then '\uFFFD' else Char.ofNat unit

/-- The string of these characters and code units, pairs of surrogates joined. -/
def joinPieces : List (Char ⊕ Nat) → List Char
  | [] => []
  | .inl c :: pieces => c :: joinPieces pieces
  | .inr high :: .inr low :: pieces =>
    if 0xD800 ≤ high ∧ high < 0xDC00 ∧ 0xDC00 ≤ low ∧ low < 0xE000 then
      Char.ofNat (0x10000 + (high - 0xD800) * 0x400 + (low - 0xDC00)) :: joinPieces pieces
    else lone high :: joinPieces (.inr low :: pieces)
  | .inr unit :: pieces => lone unit :: joinPieces pieces

/-- The string up to the closing quote. -/
def readString (text : List Char) : Option (String × List Char) :=
  (readPieces text).map fun read => (String.ofList (joinPieces read.1), read.2)

def isDigits (text : List Char) : Bool := !text.isEmpty && text.all Char.isDigit

/-- `(0|[1-9][0-9]*)(\.[0-9]+)?` -/
def isMantissa (text : List Char) : Bool :=
  let whole := text.takeWhile (· ≠ '.')
  let fraction := text.dropWhile (· ≠ '.')
  isDigits whole && (whole = ['0'] || whole.head? ≠ some '0') &&
    (fraction.isEmpty || isDigits fraction.tail)

def unsigned : List Char → List Char
  | '-' :: text => text
  | '+' :: text => text
  | text => text

/-- `([eE][+-]?[0-9]+)?` -/
def isPower (text : List Char) : Bool := text.isEmpty || isDigits (unsigned text.tail)

def mantissa (text : List Char) : List Char := text.takeWhile fun c => !isPowerMark c

def power (text : List Char) : List Char := text.dropWhile fun c => !isPowerMark c

def powerValue : List Char → ℤ
  | '-' :: digits => -Nat.ofDigitChars 10 digits 0
  | '+' :: digits => Nat.ofDigitChars 10 digits 0
  | digits => Nat.ofDigitChars 10 digits 0

def isDecimal (text : List Char) : Bool := isMantissa (mantissa text) && isPower (power text)

def decimalValue (text : List Char) : ℚ :=
  readFraction (mantissa text) * 10 ^ powerValue (power text).tail

/-- A number of the language that is near a rational. -/
def toNumber (x : ℚ) : JsNumber :=
  match (Number.ofRat x : Number binary64) with
  | .finite value => .finite value.value
  | .infinity negative => .infinity negative
  | .nan => .nan

/-- The number a text of marks stands for, if it is one. -/
def numeral : List Char → Option JsNumber
  | '-' :: text => if isDecimal text then some (toNumber (-decimalValue text)) else none
  | text => if isDecimal text then some (toNumber (decimalValue text)) else none

/-- What is written where commas separate. -/
def separated : List (List Char) → List Char
  | [] => []
  | [text] => text
  | text :: next :: texts => text ++ ',' :: separated (next :: texts)

mutual

/-- `JSON.stringify`; what is `undefined` is written so in an array only. -/
def written : JsValue → List Char
  | .undefined => "null".toList
  | .null => "null".toList
  | .bool value => if value then "true".toList else "false".toList
  | .number (.finite value) => (numberToString value).toList
  | .number _ => "null".toList
  | .string text => quote text
  | .array items => '[' :: (separated (itemTexts items) ++ [']'])
  | .object fields => openBrace :: (separated (memberTexts fields) ++ [closeBrace])

def itemTexts : List JsValue → List (List Char)
  | [] => []
  | item :: items => written item :: itemTexts items

/-- Properties that are `undefined` are left out. -/
def memberTexts : List (String × JsValue) → List (List Char)
  | [] => []
  | (_, .undefined) :: fields => memberTexts fields
  | (key, value) :: fields => (quote key ++ ':' :: written value) :: memberTexts fields

end

def skip (text : List Char) : List Char := text.dropWhile isSpace

/-- The next character that is no space, and what follows it. -/
def next (text : List Char) : Option (Char × List Char) :=
  match skip text with
  | [] => none
  | c :: text => some (c, text)

def literals : List (List Char × JsValue) :=
  [("null".toList, .null), ("true".toList, .bool true), ("false".toList, .bool false)]

def readLiteral (text : List Char) : Option (JsValue × List Char) :=
  (literals.find? fun literal => literal.1.isPrefixOf text).map fun literal =>
    (literal.2, text.drop literal.1.length)

def readNumeral (text : List Char) : Option (JsValue × List Char) :=
  (numeral (text.takeWhile isMark)).map fun value => (.number value, text.dropWhile isMark)

/-- A property given again keeps its place. -/
def put (fields : List (String × JsValue)) (member : String × JsValue) : List (String × JsValue) :=
  if member.1 ∈ fields.map Prod.fst then
    fields.map fun field => if field.1 = member.1 then member else field
  else fields ++ [member]

mutual

def readValue : Nat → List Char → Option (JsValue × List Char)
  | 0, _ => none
  | fuel + 1, text =>
    (next text).bind fun first =>
      if first.1 = quoteMark then (readString first.2).map fun read => (.string read.1, read.2)
      else if first.1 = '[' then
        if ((next first.2).map Prod.fst) = some ']' then
          some (.array [], (skip first.2).tail)
        else (readItems fuel first.2).map fun read => (.array read.1, read.2)
      else if first.1 = openBrace then
        if ((next first.2).map Prod.fst) = some closeBrace then
          some (.object [], (skip first.2).tail)
        else (readMembers fuel first.2).map fun read => (.object (read.1.foldl put []), read.2)
      else if isMark first.1 then readNumeral (skip text)
      else readLiteral (skip text)

def readItems : Nat → List Char → Option (List JsValue × List Char)
  | 0, _ => none
  | fuel + 1, text =>
    (readValue fuel text).bind fun read =>
      (next read.2).bind fun mark =>
        if mark.1 = ']' then some ([read.1], mark.2)
        else if mark.1 = ',' then
          (readItems fuel mark.2).map fun more => (read.1 :: more.1, more.2)
        else none

def readMembers : Nat → List Char → Option (List (String × JsValue) × List Char)
  | 0, _ => none
  | fuel + 1, text =>
    (next text).bind fun first =>
      if first.1 = quoteMark then
        (readString first.2).bind fun key =>
          (next key.2).bind fun colon =>
            if colon.1 = ':' then
              (readValue fuel colon.2).bind fun read =>
                (next read.2).bind fun mark =>
                  if mark.1 = closeBrace then some ([(key.1, read.1)], mark.2)
                  else if mark.1 = ',' then
                    (readMembers fuel mark.2).map fun more => ((key.1, read.1) :: more.1, more.2)
                  else none
            else none
      else none

end

/-- `JSON.parse`, none where it throws. Nothing is nested deeper than twice the
length of the text. -/
def parse (text : String) : Option JsValue :=
  (readValue (2 * text.toList.length + 2) text.toList).bind fun read =>
    if skip read.2 = [] then some read.1 else none

section Fuel

variable {text rest : List Char}

theorem skip_length_le (text : List Char) : (skip text).length ≤ text.length :=
  (List.dropWhile_sublist isSpace).length_le

/-- Taking a character leaves a shorter text. -/
theorem next_length {first : Char × List Char} (h : next text = some first) :
    first.2.length < text.length := by
  have shorter := skip_length_le text
  rw [next] at h
  split at h
  · cases h
  · next c rest same =>
      obtain rfl := Option.some.inj h
      rw [same, List.length_cons] at shorter
      exact shorter

/-- Reading the pieces of a string leaves a shorter text. -/
theorem readPieces_length {read : List (Char ⊕ Nat) × List Char} (h : readPieces text = some read) :
    read.2.length < text.length := by
  fun_induction readPieces text generalizing read with
  | case1 => cases h
  | case2 a b c d text ih =>
      obtain ⟨unit, _, h⟩ := Option.bind_eq_some_iff.mp h
      obtain ⟨more, hm, rfl⟩ := Option.map_eq_some_iff.mp h
      have := ih hm
      simp only [List.length_cons]
      omega
  | case3 mark text _ ih =>
      obtain ⟨c, _, h⟩ := Option.bind_eq_some_iff.mp h
      obtain ⟨more, hm, rfl⟩ := Option.map_eq_some_iff.mp h
      have := ih hm
      simp only [List.length_cons]
      omega
  | case4 text =>
      obtain rfl := Option.some.inj h
      simp
  | case5 c text _ _ ih => cases h
  | case6 c text _ _ _ _ ih =>
      obtain ⟨more, hm, rfl⟩ := Option.map_eq_some_iff.mp h
      have := ih hm
      simp only [List.length_cons]
      omega

/-- Reading a string leaves a shorter text. -/
theorem readString_length {read : String × List Char} (h : readString text = some read) :
    read.2.length < text.length := by
  obtain ⟨pieces, hp, rfl⟩ := Option.map_eq_some_iff.mp h
  exact readPieces_length hp

theorem numeral_nil : numeral [] = none := by
  decide

/-- Reading a numeral leaves a shorter text. -/
theorem readNumeral_length {read : JsValue × List Char} (h : readNumeral text = some read) :
    read.2.length < text.length := by
  obtain ⟨value, hv, rfl⟩ := Option.map_eq_some_iff.mp h
  have token : 0 < (text.takeWhile isMark).length := by
    rw [List.length_pos_iff]
    intro none
    rw [none, numeral_nil] at hv
    cases hv
  have parts := congrArg List.length (List.takeWhile_append_dropWhile (p := isMark) (l := text))
  rw [List.length_append] at parts
  dsimp only
  omega

/-- Reading a literal leaves a shorter text. -/
theorem readLiteral_length {read : JsValue × List Char} (h : readLiteral text = some read) :
    read.2.length < text.length := by
  obtain ⟨literal, hl, rfl⟩ := Option.map_eq_some_iff.mp h
  have stands : literal.1 <+: text := by simpa using List.find?_some hl
  have letters : 0 < literal.1.length := by
    have listed := List.mem_of_find?_eq_some hl
    simp only [literals, List.mem_cons, List.not_mem_nil, or_false] at listed
    rcases listed with rfl | rfl | rfl <;> decide
  have := stands.length_le
  rw [List.length_drop]
  omega

/-- Whatever is read takes up at least one character. -/
theorem read_length (fuel : Nat) :
    (∀ text read, readValue fuel text = some read → read.2.length < text.length) ∧
      (∀ text read, readItems fuel text = some read → read.2.length < text.length) ∧
        ∀ text read, readMembers fuel text = some read → read.2.length < text.length := by
  induction fuel with
  | zero => refine ⟨?_, ?_, ?_⟩ <;> intro text read h <;> cases h
  | succ fuel ih =>
      obtain ⟨value, items, members⟩ := ih
      refine ⟨?_, ?_, ?_⟩
      · intro text read h
        obtain ⟨first, hf, h⟩ := Option.bind_eq_some_iff.mp h
        have shorter := next_length hf
        have skipped := skip_length_le text
        have inside := skip_length_le first.2
        split_ifs at h
        · obtain ⟨more, hm, rfl⟩ := Option.map_eq_some_iff.mp h
          have := readString_length hm
          dsimp only
          omega
        · obtain rfl := Option.some.inj h
          rw [List.length_tail]
          omega
        · obtain ⟨more, hm, rfl⟩ := Option.map_eq_some_iff.mp h
          have := items _ _ hm
          dsimp only
          omega
        · obtain rfl := Option.some.inj h
          rw [List.length_tail]
          omega
        · obtain ⟨more, hm, rfl⟩ := Option.map_eq_some_iff.mp h
          have := members _ _ hm
          dsimp only
          omega
        · have := readNumeral_length h
          omega
        · have := readLiteral_length h
          omega
      · intro text read h
        obtain ⟨first, hf, h⟩ := Option.bind_eq_some_iff.mp h
        obtain ⟨mark, hm, h⟩ := Option.bind_eq_some_iff.mp h
        have shorter := value _ _ hf
        have marked := next_length hm
        split_ifs at h
        · obtain rfl := Option.some.inj h
          dsimp only
          omega
        · obtain ⟨more, hMore, rfl⟩ := Option.map_eq_some_iff.mp h
          have := items _ _ hMore
          dsimp only
          omega
      · intro text read h
        obtain ⟨first, hf, h⟩ := Option.bind_eq_some_iff.mp h
        have opened := next_length hf
        split_ifs at h
        obtain ⟨key, hk, h⟩ := Option.bind_eq_some_iff.mp h
        obtain ⟨colon, hc, h⟩ := Option.bind_eq_some_iff.mp h
        have named := readString_length hk
        have separated := next_length hc
        split_ifs at h
        obtain ⟨found, hv, h⟩ := Option.bind_eq_some_iff.mp h
        obtain ⟨mark, hm, h⟩ := Option.bind_eq_some_iff.mp h
        have shorter := value _ _ hv
        have marked := next_length hm
        split_ifs at h
        · obtain rfl := Option.some.inj h
          dsimp only
          omega
        · obtain ⟨more, hMore, rfl⟩ := Option.map_eq_some_iff.mp h
          have := members _ _ hMore
          dsimp only
          omega

/-- Fuel for each level, and for each item: twice the length is never too little. -/
theorem read_fuel (fuel : Nat) :
    (∀ text : List Char, 2 * text.length < fuel → readValue (fuel + 1) text = readValue fuel text) ∧
      (∀ text : List Char, 2 * text.length + 1 < fuel →
        readItems (fuel + 1) text = readItems fuel text) ∧
        ∀ text : List Char, 2 * text.length + 1 < fuel →
          readMembers (fuel + 1) text = readMembers fuel text := by
  induction fuel with
  | zero => refine ⟨?_, ?_, ?_⟩ <;> intro text enough <;> omega
  | succ fuel ih =>
      obtain ⟨value, items, members⟩ := ih
      refine ⟨?_, ?_, ?_⟩
      · intro text enough
        rw [readValue, readValue]
        cases hf : next text with
        | none => rfl
        | some first =>
            have shorter := next_length hf
            rw [Option.bind_some, Option.bind_some, items _ (by omega), members _ (by omega)]
      · intro text enough
        rw [readItems, readItems, value text (by omega)]
        cases hf : readValue fuel text with
        | none => rfl
        | some first =>
            rw [Option.bind_some, Option.bind_some]
            cases hm : next first.2 with
            | none => rfl
            | some mark =>
                have shorter := (read_length fuel).1 _ _ hf
                have marked := next_length hm
                rw [Option.bind_some, Option.bind_some, items _ (by omega)]
      · intro text enough
        rw [readMembers, readMembers]
        cases hf : next text with
        | none => rfl
        | some first =>
            have opened := next_length hf
            rw [Option.bind_some, Option.bind_some]
            cases hk : readString first.2 with
            | none => rfl
            | some key =>
                have named := readString_length hk
                rw [Option.bind_some, Option.bind_some]
                cases hc : next key.2 with
                | none => rfl
                | some colon =>
                    have separated := next_length hc
                    rw [Option.bind_some, Option.bind_some, value _ (by omega)]
                    cases hv : readValue fuel colon.2 with
                    | none => rfl
                    | some found =>
                        have shorter := (read_length fuel).1 _ _ hv
                        rw [Option.bind_some, Option.bind_some]
                        cases hm : next found.2 with
                        | none => rfl
                        | some mark =>
                            have marked := next_length hm
                            rw [Option.bind_some, Option.bind_some, members _ (by omega)]

/-- However much more fuel there is, `parse` reads the same. -/
theorem readValue_enough {fuel : Nat} (enough : 2 * text.length < fuel) :
    readValue fuel text = readValue (2 * text.length + 2) text := by
  induction fuel with
  | zero => omega
  | succ fuel ih =>
      by_cases last : fuel = 2 * text.length
      · rw [last]
        exact ((read_fuel _).1 text (by omega)).symm
      · rw [(read_fuel fuel).1 text (by omega), ih (by omega)]

end Fuel

end Copresence.JsonText
