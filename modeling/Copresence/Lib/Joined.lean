import Mathlib.Data.List.Basic

/-! Records joined by a bar, each a key followed by its fields. The fields can
be told from the end of a record, and hold no bar, but a key may hold anything:
it may swallow whole records in front of it. -/
namespace Collections

variable {χ τ : Type}

/-- Where the last mark stands can be seen from the text. -/
theorem last_mark_inj {mark : χ} {before before' after after' : List χ} (h : mark ∉ after)
    (h' : mark ∉ after') (same : before ++ mark :: after = before' ++ mark :: after') :
    before = before' ∧ after = after' := by
  rcases List.append_eq_append_iff.mp same with ⟨gap, hGap, rest⟩ | ⟨gap, hGap, rest⟩
  · cases gap with
    | nil =>
        rw [List.append_nil] at hGap
        exact ⟨hGap.symm, (List.cons.inj rest).2⟩
    | cons c gap =>
        have held : mark ∈ after := by
          rw [(List.cons.inj rest).2]
          simp
        exact absurd held h
  · cases gap with
    | nil =>
        rw [List.append_nil] at hGap
        exact ⟨hGap, (List.cons.inj rest).2.symm⟩
    | cons c gap =>
        have held : mark ∈ after' := by
          rw [(List.cons.inj rest).2]
          simp
        exact absurd held h'

section Records

variable (bar : χ) (fields : τ → List χ)

/-- A record as it is written. -/
def written (record : List χ × τ) : List χ := record.1 ++ fields record.2

def joined (records : List (List χ × τ)) : List χ := [bar].intercalate (records.map (written fields))

/-- The record whose key is a whole record, a bar, and the key of the next. -/
def glue (first second : List χ × τ) : List χ × τ :=
  (written fields first ++ bar :: second.1, second.2)

/-- Some of the records are glued together. -/
inductive Glued : List (List χ × τ) → List (List χ × τ) → Prop
  | nil : Glued [] []
  | apart (record : List χ × τ) {pieces records} :
      Glued pieces records → Glued (record :: pieces) (record :: records)
  | together (piece record : List χ × τ) {pieces records} :
      Glued pieces (record :: records) → Glued (piece :: pieces) (glue bar fields piece record :: records)

/-- What the fields of the values in question are written as. -/
structure Delimited (good : τ → Prop) : Prop where
  plain : ∀ t, good t → bar ∉ fields t
  some : ∀ t, good t → fields t ≠ []
  apart : ∀ {key key' : List χ} {t t'}, good t → good t' → key ++ fields t = key' ++ fields t' →
    key = key' ∧ t = t'

end Records

section Reading

variable {bar : χ} {fields : τ → List χ} {good : τ → Prop}

theorem joined_singleton (record : List χ × τ) :
    joined bar fields [record] = written fields record := by simp [joined]

theorem joined_cons_cons (record next : List χ × τ) (records : List (List χ × τ)) :
    joined bar fields (record :: next :: records) =
      written fields record ++ bar :: joined bar fields (next :: records) := by
  simp [joined, List.intercalate]

/-- A record glued to the next is written as the two are. -/
theorem joined_glue (piece record : List χ × τ) (records : List (List χ × τ)) :
    joined bar fields (glue bar fields piece record :: records) =
      written fields piece ++ bar :: joined bar fields (record :: records) := by
  cases records with
  | nil => simp [joined_singleton, glue, written]
  | cons next records => simp [joined_cons_cons, glue, written]

theorem Glued.ne_nil {pieces : List (List χ × τ)} {record : List χ × τ}
    {records : List (List χ × τ)} (h : Glued bar fields pieces (record :: records)) :
    ∃ piece rest, pieces = piece :: rest := by
  cases h with
  | apart => exact ⟨_, _, rfl⟩
  | together => exact ⟨_, _, rfl⟩

/-- Gluing does not show. -/
theorem Glued.joined_eq {pieces records : List (List χ × τ)} (h : Glued bar fields pieces records) :
    joined bar fields pieces = joined bar fields records := by
  induction h with
  | nil => rfl
  | @apart record pieces records h ih =>
      cases records with
      | nil =>
          cases h
          rfl
      | cons next records =>
          obtain ⟨piece, rest, rfl⟩ := h.ne_nil
          rw [joined_cons_cons, joined_cons_cons, ih]
  | @together piece record pieces records h ih =>
      obtain ⟨next, rest, rfl⟩ := h.ne_nil
      rw [joined_cons_cons, joined_glue, ih]

/-- What comes after a record. -/
def following (bar : χ) (fields : τ → List χ) : List (List χ × τ) → List χ
  | [] => []
  | next :: records => bar :: joined bar fields (next :: records)

theorem joined_cons (record : List χ × τ) (records : List (List χ × τ)) :
    joined bar fields (record :: records) =
      written fields record ++ following bar fields records := by
  cases records with
  | nil => simp [joined_singleton, following]
  | cons next records => rw [joined_cons_cons, following]

/-- A record that goes on where another ends has it in its key. -/
theorem swallowed (delimited : Delimited bar fields good) {first second : List χ × τ}
    (hSecond : good second.2) {records others : List (List χ × τ)} {c : χ} {gap : List χ}
    (longer : written fields second = written fields first ++ c :: gap)
    (rest : following bar fields records = c :: gap ++ following bar fields others) :
    ∃ key, second = glue bar fields first (key, second.2) ∧
      joined bar fields records = joined bar fields ((key, second.2) :: others) := by
  have plain := delimited.plain second.2 hSecond
  cases records with
  | nil => cases rest
  | cons next records =>
      obtain ⟨rfl, after⟩ := List.cons.inj rest
      rcases List.append_eq_append_iff.mp longer with ⟨within, _, hFields⟩ | ⟨key, hKey, hFields⟩
      · exact absurd (by rw [hFields]; simp) plain
      · cases key with
        | nil =>
            rw [List.nil_append] at hFields
            exact absurd (hFields ▸ List.mem_cons_self) plain
        | cons c key =>
            obtain ⟨rfl, rfl⟩ := List.cons.inj hFields
            refine ⟨key, ?_, ?_⟩
            · exact Prod.ext hKey rfl
            · rw [after, joined_cons, written]
              rfl

/-- Only no records are written as nothing. -/
theorem joined_ne_nil (delimited : Delimited bar fields good) {record : List χ × τ}
    (h : good record.2) (records : List (List χ × τ)) :
    joined bar fields (record :: records) ≠ [] := by
  intro none
  rw [joined_cons, written, List.append_assoc] at none
  exact delimited.some record.2 h
    (List.append_eq_nil_iff.mp (List.append_eq_nil_iff.mp none).2).1

theorem following_inj {records others : List (List χ × τ)}
    (same : following bar fields records = following bar fields others) :
    joined bar fields records = joined bar fields others := by
  cases records with
  | nil =>
      cases others with
      | nil => rfl
      | cons => cases same
  | cons =>
      cases others with
      | nil => cases same
      | cons => exact (List.cons.inj same).2

/-- Of two lists written the same one begins with a record that is the first of
the other, or has that in its key. -/
theorem joined_cons_cases (delimited : Delimited bar fields good) {first second : List χ × τ}
    (hFirst : good first.2) (hSecond : good second.2) {records others : List (List χ × τ)}
    (same : joined bar fields (first :: records) = joined bar fields (second :: others)) :
    (first = second ∧ joined bar fields records = joined bar fields others) ∨
    (∃ key, second = glue bar fields first (key, second.2) ∧
      joined bar fields records = joined bar fields ((key, second.2) :: others)) ∨
    ∃ key, first = glue bar fields second (key, first.2) ∧
      joined bar fields others = joined bar fields ((key, first.2) :: records) := by
  rw [joined_cons, joined_cons] at same
  rcases List.append_eq_append_iff.mp same with ⟨gap, hGap, rest⟩ | ⟨gap, hGap, rest⟩
  · cases gap with
    | nil =>
        rw [List.append_nil] at hGap
        obtain ⟨hKey, hValue⟩ := delimited.apart hSecond hFirst hGap
        exact Or.inl ⟨(Prod.ext hKey hValue).symm, following_inj rest⟩
    | cons c gap => exact Or.inr (Or.inl (swallowed delimited hSecond hGap rest))
  · cases gap with
    | nil =>
        rw [List.append_nil] at hGap
        obtain ⟨hKey, hValue⟩ := delimited.apart hFirst hSecond hGap
        exact Or.inl ⟨Prod.ext hKey hValue, (following_inj rest).symm⟩
    | cons c gap => exact Or.inr (Or.inr (swallowed delimited hFirst hGap rest))

/-- Lists of records that are written the same are glued from the same pieces. -/
theorem exists_glued (delimited : Delimited bar fields good) {records others : List (List χ × τ)}
    (hRecords : ∀ record ∈ records, good record.2) (hOthers : ∀ record ∈ others, good record.2)
    (same : joined bar fields records = joined bar fields others) :
    ∃ pieces, Glued bar fields pieces records ∧ Glued bar fields pieces others := by
  -- of two different first records, the longer loses what its key has of the other
  induction hn : records.length + others.length using Nat.strongRecOn
    generalizing records others with
  | _ n ih =>
      cases records with
      | nil =>
          cases others with
          | nil => exact ⟨[], Glued.nil, Glued.nil⟩
          | cons second others =>
              exact absurd same.symm
                (joined_ne_nil delimited (hOthers second List.mem_cons_self) others)
      | cons first records =>
          cases others with
          | nil =>
              exact absurd same
                (joined_ne_nil delimited (hRecords first List.mem_cons_self) records)
          | cons second others =>
              obtain ⟨hFirst, laterRecords⟩ := List.forall_mem_cons.mp hRecords
              obtain ⟨hSecond, laterOthers⟩ := List.forall_mem_cons.mp hOthers
              simp only [List.length_cons] at hn
              rcases joined_cons_cases delimited hFirst hSecond same with
                ⟨rfl, rest⟩ | ⟨key, hKey, rest⟩ | ⟨key, hKey, rest⟩
              · obtain ⟨pieces, left, right⟩ := ih _ (by omega) laterRecords laterOthers rest rfl
                exact ⟨first :: pieces, left.apart first, right.apart first⟩
              · have shortened : ∀ record ∈ (key, second.2) :: others, good record.2 :=
                  List.forall_mem_cons.mpr ⟨hSecond, laterOthers⟩
                obtain ⟨pieces, left, right⟩ := ih (records.length + (others.length + 1))
                  (by omega) laterRecords shortened rest rfl
                rw [hKey]
                exact ⟨first :: pieces, left.apart first, right.together first _⟩
              · have shortened : ∀ record ∈ (key, first.2) :: records, good record.2 :=
                  List.forall_mem_cons.mpr ⟨hFirst, laterRecords⟩
                obtain ⟨pieces, right, left⟩ := ih (others.length + (records.length + 1))
                  (by omega) laterOthers shortened rest rfl
                rw [hKey]
                exact ⟨second :: pieces, left.together second _, right.apart second⟩

/-- So two lists are written the same if and only if they share their pieces. -/
theorem joined_eq_iff (delimited : Delimited bar fields good) {records others : List (List χ × τ)}
    (hRecords : ∀ record ∈ records, good record.2) (hOthers : ∀ record ∈ others, good record.2) :
    joined bar fields records = joined bar fields others ↔
      ∃ pieces, Glued bar fields pieces records ∧ Glued bar fields pieces others := by
  constructor
  · exact exists_glued delimited hRecords hOthers
  · intro ⟨pieces, left, right⟩
    rw [← left.joined_eq, right.joined_eq]

/-- Where no key holds a bar nothing was glued. -/
theorem Glued.eq_of_plain {pieces records : List (List χ × τ)}
    (h : Glued bar fields pieces records) (plain : ∀ record ∈ records, bar ∉ record.1) :
    pieces = records := by
  induction h with
  | nil => rfl
  | apart record h ih => rw [ih (List.forall_mem_cons.mp plain).2]
  | together piece record h ih =>
      exact absurd (by simp [glue]) (plain _ List.mem_cons_self)

end Reading

end Collections
