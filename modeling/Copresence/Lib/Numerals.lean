import Copresence.Lib.Binary64
import Mathlib.Data.List.TakeWhile
import Mathlib.Tactic.FieldSimp

/-! How a finite number of 64 bits is written in decimal digits: the fewest
that are rounded back to it, with an exponent where it is large or small. What
is written can be read back, so different numbers are written differently. -/
namespace Floating

/-- The numeral `digits` with its last digit at the power `place` of ten. -/
structure Scientific where
  digits : ℕ
  place : ℤ
deriving DecidableEq, Repr

namespace Scientific

def value (s : Scientific) : ℚ := s.digits * 10 ^ s.place

/-- The candidates with `count + 1` digits, nearest first. All nines may be
rounded up to a power of ten. -/
def candidates (x : ℚ) (count : ℕ) : List Scientific :=
  let place := Int.log 10 x - count
  let scaled := x / 10 ^ place
  [roundEven scaled, ⌊scaled⌋, ⌈scaled⌉].map fun digits =>
    if digits = 10 ^ (count + 1) then ⟨1, place + count + 1⟩ else ⟨digits.toNat, place⟩

/-- The fewest digits that are rounded to `x`. Seventeen are always enough. -/
def shortest (x : ℚ) : Scientific :=
  ((List.range 17).findSome? fun count =>
    (candidates x count).find? fun s => binary64.nearest s.value = x).getD
      ⟨⌊x * 10 ^ 1074⌋.toNat, -1074⟩

/-- So many halvings leave as many decimal places. -/
theorem halved_mul_pow (n : ℤ) (k : ℕ) :
    (n : ℚ) * 2 ^ (-(k : ℤ)) * 10 ^ k = ((n * 5 ^ k : ℤ) : ℚ) := by
  have tens : (10 : ℚ) ^ k = 2 ^ k * 5 ^ k := by
    rw [← mul_pow]
    norm_num
  rw [tens, zpow_neg, zpow_natCast]
  push_cast
  field_simp

/-- A number of halves is written exactly in as many decimal places. -/
theorem value_exact {x : ℚ} {n : ℤ} {k : ℕ} (h : x = n * 2 ^ (-(k : ℤ))) (positive : 0 < x) :
    (⟨⌊x * 10 ^ k⌋.toNat, -k⟩ : Scientific).value = x := by
  have tens : (0 : ℚ) < 10 ^ k := by positivity
  have whole : x * 10 ^ k = ((n * 5 ^ k : ℤ) : ℚ) := by rw [h, halved_mul_pow]
  have nonneg : (0 : ℤ) ≤ n * 5 ^ k := by
    have := (mul_pos positive tens).le
    rw [whole] at this
    exact_mod_cast this
  have cast : (((n * 5 ^ k : ℤ).toNat : ℕ) : ℚ) = ((n * 5 ^ k : ℤ) : ℚ) := by
    exact_mod_cast congrArg (Int.cast (R := ℚ)) (Int.toNat_of_nonneg nonneg)
  rw [value]
  dsimp only
  rw [whole, Int.floor_intCast, cast, ← whole, zpow_neg, zpow_natCast]
  exact mul_inv_cancel_right₀ tens.ne' x

/-- What is found is rounded to the number it was found for. -/
theorem nearest_shortest {x : ℚ} (h : binary64.Representable x) (positive : 0 < x) :
    binary64.nearest (shortest x).value = x := by
  rw [shortest]
  cases found : (List.range 17).findSome? fun count =>
      (candidates x count).find? fun s => binary64.nearest s.value = x with
  | none =>
      obtain ⟨n, hn⟩ := h.exists_mul_least
      rw [Option.getD_none]
      exact (congrArg binary64.nearest (value_exact hn positive)).trans
        (Format.nearest_of_representable h)
  | some s =>
      obtain ⟨count, _, hs⟩ := List.exists_of_findSome?_eq_some found
      simpa using List.find?_some hs

end Scientific

/-- The digits of a numeral with the point after the first `point` of them. -/
def positional (digits : List Char) (point : ℤ) : List Char :=
  if digits.length ≤ point ∧ point ≤ 21 then
    digits ++ List.replicate (point - digits.length).toNat '0'
  else if 0 < point ∧ point ≤ 21 then
    digits.take point.toNat ++ '.' :: digits.drop point.toNat
  else if -6 < point ∧ point ≤ 0 then
    '0' :: '.' :: (List.replicate (-point).toNat '0' ++ digits)
  else
    let power := (if point - 1 < 0 then '-' else '+') :: Nat.toDigits 10 (point - 1).natAbs
    match digits with
    | [digit] => digit :: 'e' :: power
    | digits => digits.take 1 ++ '.' :: digits.drop 1 ++ 'e' :: power

def Scientific.write (s : Scientific) : List Char :=
  let digits := Nat.toDigits 10 s.digits
  positional digits (digits.length + s.place)

/-- `Number::toString` in base ten, of a finite number. -/
def numberToString (x : ℚ) : String :=
  if x = 0 then "0"
  else if x < 0 then String.ofList ('-' :: (Scientific.shortest (-x)).write)
  else String.ofList (Scientific.shortest x).write

section Reading

/-- Digits with at most one point among them. -/
def readFraction (text : List Char) : ℚ :=
  let decimals := (text.dropWhile (· ≠ '.')).tail
  Nat.ofDigitChars 10 (text.takeWhile (· ≠ '.') ++ decimals) 0 / 10 ^ decimals.length

def readPower : List Char → ℤ
  | '-' :: digits => -Nat.ofDigitChars 10 digits 0
  | '+' :: digits => Nat.ofDigitChars 10 digits 0
  | _ => 0

def readDecimal (text : List Char) : ℚ :=
  readFraction (text.takeWhile (· ≠ 'e')) * 10 ^ readPower (text.dropWhile (· ≠ 'e')).tail

variable {text digits decimals power : List Char}

/-- A mark that is not in a text is none of its characters. -/
theorem all_ne {mark : Char} (h : mark ∉ text) : ∀ c ∈ text, decide (c ≠ mark) = true := by
  intro c hc
  exact decide_eq_true fun same => h (same ▸ hc)

/-- Digits without a point are read as a whole number. -/
theorem readFraction_whole (h : '.' ∉ digits) :
    readFraction digits = Nat.ofDigitChars 10 digits 0 := by
  have plain := all_ne h
  rw [readFraction, List.takeWhile_eq_self_iff.mpr plain, List.dropWhile_eq_nil_iff.mpr plain]
  simp

/-- A number with a point is its digits, divided by ten for each decimal. -/
theorem readFraction_point (h : '.' ∉ digits) :
    readFraction (digits ++ '.' :: decimals) =
      Nat.ofDigitChars 10 (digits ++ decimals) 0 / 10 ^ decimals.length := by
  have plain := all_ne h
  rw [readFraction, List.takeWhile_append_of_pos plain, List.dropWhile_append_of_pos plain]
  simp

/-- A text without an exponent is read as its digits. -/
theorem readDecimal_plain (h : 'e' ∉ text) : readDecimal text = readFraction text := by
  have plain := all_ne h
  rw [readDecimal, List.takeWhile_eq_self_iff.mpr plain, List.dropWhile_eq_nil_iff.mpr plain]
  simp [readPower]

/-- An exponent multiplies by its power of ten. -/
theorem readDecimal_power (h : 'e' ∉ text) :
    readDecimal (text ++ 'e' :: power) = readFraction text * 10 ^ readPower power := by
  have plain := all_ne h
  rw [readDecimal, List.takeWhile_append_of_pos plain, List.dropWhile_append_of_pos plain]
  simp

/-- A written exponent is read back. -/
theorem readPower_signed (power : ℤ) :
    readPower ((if power < 0 then '-' else '+') :: Nat.toDigits 10 power.natAbs) = power := by
  split
  · next negative =>
      rw [readPower, Nat.ofDigitChars_ten_toDigits]
      omega
  · next nonneg =>
      rw [readPower, Nat.ofDigitChars_ten_toDigits]
      omega

/-- Moving the point is dividing by a power of ten. -/
theorem ten_zpow_sub {whole : ℤ} {count : ℕ} (v : ℚ) :
    v / 10 ^ count * 10 ^ whole = v * 10 ^ (whole - count) := by
  rw [zpow_sub₀ (by norm_num), zpow_natCast]
  field_simp

/-- Writing a point into digits writes no exponent. -/
theorem not_mem_pointed {count : ℕ} (h : 'e' ∉ digits) :
    'e' ∉ digits.take count ++ '.' :: digits.drop count := by
  intro listed
  rcases List.mem_append.mp listed with before | after
  · exact h (List.mem_of_mem_take before)
  · exact h (List.mem_of_mem_drop (List.mem_of_ne_of_mem (by decide) after))

/-- Every form is read as its digits with the point where it was asked for. -/
theorem readDecimal_positional (numeral : ∀ c ∈ digits, c.isDigit = true) (point : ℤ)
    (some : digits ≠ []) :
    readDecimal (positional digits point) =
      Nat.ofDigitChars 10 digits 0 * 10 ^ (point - digits.length) := by
  have noPoint : '.' ∉ digits := fun h => absurd (numeral _ h) (by decide)
  have noPower : 'e' ∉ digits := fun h => absurd (numeral _ h) (by decide)
  rw [positional]
  split
  · next fits =>
      rw [readDecimal_plain, readFraction_whole, Nat.ofDigitChars_append,
        Nat.ofDigitChars_replicate_zero]
      · have place : point - digits.length = ((point - digits.length).toNat : ℤ) := by omega
        rw [place, zpow_natCast]
        push_cast
        simp only [Int.toNat_natCast]
        ring
      · simp [noPoint]
      · simp [noPower]
  · next long =>
      split
      · next inside =>
          rw [readDecimal_plain, readFraction_point, List.take_append_drop]
          · have place : point - digits.length = -((digits.length - point.toNat : ℕ) : ℤ) := by omega
            rw [place, zpow_neg, zpow_natCast, List.length_drop, div_eq_mul_inv]
          · intro h
            exact noPoint (List.mem_of_mem_take h)
          · exact not_mem_pointed noPower
      · next outside =>
          split
          · next small =>
              have text : '0' :: '.' :: (List.replicate (-point).toNat '0' ++ digits) =
                  ['0'] ++ '.' :: (List.replicate (-point).toNat '0' ++ digits) := rfl
              rw [text, readDecimal_plain, readFraction_point (by decide)]
              · have place : point - digits.length =
                    -(((-point).toNat + digits.length : ℕ) : ℤ) := by omega
                rw [place, zpow_neg, zpow_natCast, div_eq_mul_inv]
                simp [Nat.ofDigitChars_append, Nat.ofDigitChars_cons]
              · simp [noPower]
          · next large =>
              dsimp only
              split
              · next digit =>
                  have text : ∀ power : List Char, digit :: 'e' :: power = [digit] ++ 'e' :: power :=
                    fun _ => rfl
                  rw [text, readDecimal_power noPower, readFraction_whole noPoint,
                    readPower_signed]
                  simp
              · rw [readDecimal_power, readFraction_point, List.take_append_drop, readPower_signed,
                  ten_zpow_sub]
                · have one : 0 < digits.length := List.length_pos_iff.mpr some
                  have place : point - 1 - (digits.drop 1).length = point - digits.length := by
                    rw [List.length_drop]
                    omega
                  rw [place]
                · intro h
                  exact noPoint (List.mem_of_mem_take h)
                · exact not_mem_pointed noPower

/-- A numeral is written in digits. -/
theorem isDigit_of_mem_numeral {n : ℕ} {c : Char} (h : c ∈ Nat.toDigits 10 n) :
    c.isDigit = true := Nat.isDigit_of_mem_toDigits (by decide) (by decide) h

/-- What is written in scientific digits is read back. -/
theorem Scientific.readDecimal_write (s : Scientific) : readDecimal s.write = s.value := by
  rw [write, readDecimal_positional (fun _ => isDigit_of_mem_numeral) _ Nat.toDigits_ne_nil,
    Nat.ofDigitChars_ten_toDigits, add_sub_cancel_left, value]

end Reading

section Marks

variable {digits : List Char} {c : Char}

/-- What a numeral is made of. -/
def NumeralMark (c : Char) : Prop := c.isDigit = true ∨ c ∈ ['.', 'e', '+', '-']

/-- The filling zeros are marks of a numeral. -/
theorem mark_of_mem_zeros {count : ℕ} (h : c ∈ List.replicate count '0') : NumeralMark c := by
  rw [List.eq_of_mem_replicate h]
  exact Or.inl rfl

/-- An exponent is written in marks of a numeral. -/
theorem mark_of_mem_power {power : ℤ}
    (h : c ∈ 'e' :: (if power < 0 then '-' else '+') :: Nat.toDigits 10 power.natAbs) :
    NumeralMark c := by
  rcases List.mem_cons.mp h with rfl | h
  · exact Or.inr (by decide)
  · rcases List.mem_cons.mp h with rfl | h
    · right
      split <;> decide
    · exact Or.inl (isDigit_of_mem_numeral h)

/-- Digits with a point between them are marks of a numeral. -/
theorem mark_of_mem_pointed {before after : List Char} (first : c ∈ before → NumeralMark c)
    (second : c ∈ after → NumeralMark c) (h : c ∈ before ++ '.' :: after) : NumeralMark c := by
  rcases List.mem_append.mp h with h | h
  · exact first h
  · rcases List.mem_cons.mp h with rfl | h
    · exact Or.inr (by decide)
    · exact second h

/-- Digits written out by position are marks of a numeral. -/
theorem mark_of_mem_positional (numeral : ∀ c ∈ digits, c.isDigit = true) {point : ℤ}
    (h : c ∈ positional digits point) : NumeralMark c := by
  have digit : c ∈ digits → NumeralMark c := fun listed => Or.inl (numeral c listed)
  have pointed : ∀ {count : ℕ}, c ∈ digits.take count ++ '.' :: digits.drop count →
      NumeralMark c :=
    mark_of_mem_pointed (fun listed => digit (List.mem_of_mem_take listed))
      fun listed => digit (List.mem_of_mem_drop listed)
  rw [positional] at h
  split at h
  · exact (List.mem_append.mp h).elim digit mark_of_mem_zeros
  · split at h
    · exact pointed h
    · split at h
      · have text : c ∈ ['0'] ++ '.' :: (List.replicate (-point).toNat '0' ++ digits) := h
        apply mark_of_mem_pointed _ _ text
        · intro listed
          rw [List.mem_singleton.mp listed]
          exact Or.inl rfl
        · intro listed
          exact (List.mem_append.mp listed).elim mark_of_mem_zeros digit
      · dsimp only at h
        split at h
        · next only =>
            rcases List.mem_cons.mp h with rfl | h
            · exact digit List.mem_cons_self
            · exact mark_of_mem_power h
        · exact (List.mem_append.mp h).elim pointed mark_of_mem_power

/-- A numeral begins with a digit. -/
theorem positional_head (numeral : ∀ c ∈ digits, c.isDigit = true) (point : ℤ)
    (some : digits ≠ []) : ∃ first rest, positional digits point = first :: rest ∧
      first.isDigit = true := by
  obtain ⟨first, rest, rfl⟩ := List.exists_cons_of_ne_nil some
  have digit := numeral first List.mem_cons_self
  rw [positional]
  split
  · exact ⟨first, _, rfl, digit⟩
  · split
    · next inside =>
        obtain ⟨count, hCount⟩ : ∃ count, point.toNat = count + 1 := ⟨point.toNat - 1, by omega⟩
        rw [hCount]
        exact ⟨first, _, rfl, digit⟩
    · split
      · exact ⟨'0', _, rfl, rfl⟩
      · dsimp only
        split
        · next only same =>
            exact ⟨_, _, rfl, numeral _ (same ▸ List.mem_cons_self)⟩
        · exact ⟨first, _, rfl, digit⟩

namespace Scientific

/-- All that is written of a positive number are marks of a numeral. -/
theorem mark_of_mem_write {s : Scientific} (h : c ∈ s.write) : NumeralMark c :=
  mark_of_mem_positional (fun _ => isDigit_of_mem_numeral) h

/-- A positive number is written with a digit first. -/
theorem write_head (s : Scientific) :
    ∃ first rest, s.write = first :: rest ∧ first.isDigit = true :=
  positional_head (fun _ => isDigit_of_mem_numeral) _ Nat.toDigits_ne_nil

end Scientific

/-- All that is written of a number are marks of a numeral. -/
theorem numberToString_marks {x : ℚ} (h : c ∈ (numberToString x).toList) : NumeralMark c := by
  rw [numberToString] at h
  split at h
  · rw [List.mem_singleton.mp h]
    exact Or.inl rfl
  · split at h
    · rw [String.toList_ofList] at h
      rcases List.mem_cons.mp h with rfl | h
      · exact Or.inr (by decide)
      · exact Scientific.mark_of_mem_write h
    · rw [String.toList_ofList] at h
      exact Scientific.mark_of_mem_write h

/-- Something is written of every number. -/
theorem numberToString_ne_nil (x : ℚ) : (numberToString x).toList ≠ [] := by
  obtain ⟨first, rest, hWrite, _⟩ := Scientific.write_head (Scientific.shortest x)
  rw [numberToString]
  split
  · simp
  · split <;> simp [hWrite]

end Marks

/-- What a numeral says, with its sign. -/
def readNumber (text : List Char) : ℚ :=
  match text with
  | '-' :: text => -readDecimal text
  | text => readDecimal text

/-- A written number is read back. -/
theorem readNumber_write (s : Scientific) : readNumber s.write = s.value := by
  obtain ⟨first, rest, hWrite, digit⟩ := s.write_head
  rw [readNumber]
  · exact s.readDecimal_write
  · intro rest same
    rw [same] at hWrite
    obtain rfl := (List.cons.inj hWrite).1
    cases digit

/-- A number is what its text is rounded to. -/
theorem nearest_readNumber {x : ℚ} (h : binary64.Representable x) :
    binary64.nearest (readNumber (numberToString x).toList) = x := by
  rw [numberToString]
  split
  · next zero =>
      rw [zero, show readNumber "0".toList = 0 by decide +kernel, Format.nearest_zero]
  · next nonzero =>
      split
      · next negative =>
          rw [String.toList_ofList, readNumber, Scientific.readDecimal_write, Format.nearest_neg,
            Scientific.nearest_shortest h.neg (by linarith), neg_neg]
      · next positive =>
          rw [String.toList_ofList, readNumber_write]
          exact Scientific.nearest_shortest h (lt_of_le_of_ne (not_lt.mp positive) (Ne.symm nonzero))

/-- Different numbers are written differently. -/
theorem numberToString_injOn {x y : ℚ} (hx : binary64.Representable x)
    (hy : binary64.Representable y) (h : numberToString x = numberToString y) : x = y := by
  rw [← nearest_readNumber hx, h, nearest_readNumber hy]

end Floating
