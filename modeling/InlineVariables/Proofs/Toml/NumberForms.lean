import InlineVariables.Toml.ValueText.Reader

/-!
Integers are read back from their digits when nothing stands behind these that could belong to a number
(`FollowsValue`). Main statement: `readNumber_signedDigits`. No truth value, no datetime and no float is read
from the digits of an integer.
-/

namespace InlineVariables.Toml

open Text (decimalDigits signedDigits splitSign after? isDigit_of_mem_decimalDigits)

variable {c d : Char} {digits text rest after : List Char} {n : Int}

/-- The signs that may stand behind a value inside an array, an inline table or a line. -/
def valueEnds : List Char :=
  [',', ']', '}', ' ', '\n']

/-- What may stand behind a written value. -/
def FollowsValue (rest : List Char) : Prop :=
  ∀ c ∈ rest.head?, c ∈ valueEnds

theorem followsValue_cons_iff : FollowsValue (c :: rest) ↔ c ∈ valueEnds := by
  simp [FollowsValue]

theorem FollowsValue.head?_ne (ends : FollowsValue rest) (other : c ∉ valueEnds) :
    rest.head? ≠ some c :=
  fun first => other (ends c first)

theorem not_mem_of_all {p : Char → Bool} {signs : List Char} (fits : p c = true)
    (none_fits : signs.all (!p ·) = true) : c ∉ signs := by
  intro member
  have unfit := List.all_eq_true.1 none_fits c member
  simp [fits] at unfit

theorem isDigit_of_valueEnds (ends : c ∈ valueEnds) : c.isDigit = false := by
  cases digit : c.isDigit with
  | false => rfl
  | true => exact absurd ends (not_mem_of_all digit (by decide))

theorem after?_of_ne (different : d ≠ c) (start text : List Char) :
    after? (d :: start) (c :: text) = none := by
  rw [after?, if_neg different]

/-! ### Digits -/

theorem readMoreDigits_digit (digit : c.isDigit = true) (text : List Char) :
    readMoreDigits Char.isDigit (c :: text) =
      StringText.consRead c (readMoreDigits Char.isDigit text) := by
  have other : c ≠ '_' := by
    rintro rfl
    cases digit
  cases text with
  | nil => simp [readMoreDigits, digit, StringText.consRead]
  | cons d text => simp [readMoreDigits, digit, other]

theorem readMoreDigits_end (ends : FollowsValue rest) :
    readMoreDigits Char.isDigit rest = some ([], rest) := by
  match rest, ends with
  | [], _ => rfl
  | [c], ends =>
    have no_digit := isDigit_of_valueEnds (followsValue_cons_iff.1 ends)
    have other : c ≠ '_' := by
      rintro rfl
      exact absurd (followsValue_cons_iff.1 ends) (by decide)
    simp [readMoreDigits, no_digit]
  | c :: d :: rest, ends =>
    have no_digit := isDigit_of_valueEnds (followsValue_cons_iff.1 ends)
    have other : c ≠ '_' := by
      rintro rfl
      exact absurd (followsValue_cons_iff.1 ends) (by decide)
    simp [readMoreDigits, no_digit, other]

theorem readMoreDigits_append (all : ∀ c ∈ digits, c.isDigit = true) (ends : FollowsValue rest) :
    readMoreDigits Char.isDigit (digits ++ rest) = some (digits, rest) := by
  induction digits with
  | nil => exact readMoreDigits_end ends
  | cons c digits ih =>
    obtain ⟨first, others⟩ := List.forall_mem_cons.1 all
    rw [List.cons_append, readMoreDigits_digit first, ih others]
    rfl

theorem readWhole_decimalDigits (n : Nat) (ends : FollowsValue rest) :
    readWhole (decimalDigits n ++ rest) = some (decimalDigits n, rest) := by
  by_cases zero : n = 0
  · subst n
    rfl
  · obtain ⟨d, digits, shape, _, other⟩ := Text.exists_decimalDigits_eq_cons n
    have all : ∀ c ∈ d :: digits, c.isDigit = true := by
      rw [← shape]
      exact fun c => isDigit_of_mem_decimalDigits
    obtain ⟨first, others⟩ := List.forall_mem_cons.1 all
    rw [shape, List.cons_append]
    unfold readWhole
    split
    · rename_i same
      cases same
      exact absurd rfl (other (by omega))
    · rw [readDigitGroup, if_pos first, readMoreDigits_append others ends]
      rfl

theorem splitSign_signedDigits (n : Int) (rest : List Char) :
    splitSign (signedDigits n ++ rest) = (decide (n < 0), decimalDigits n.natAbs ++ rest) := by
  unfold signedDigits
  by_cases negative : n < 0
  · rw [if_pos negative, decide_eq_true negative]
    rfl
  · obtain ⟨d, digits, shape, digit, _⟩ := Text.exists_decimalDigits_eq_cons n.natAbs
    have minus : d ≠ '-' := by
      rintro rfl
      cases digit
    have plus : d ≠ '+' := by
      rintro rfl
      cases digit
    rw [if_neg negative, decide_eq_false negative, shape]
    unfold splitSign
    split <;> simp_all

/-! ### No other kind of number -/

/-- A text of digits with the end of a value behind them. -/
def OnlyDigits (text : List Char) : Prop :=
  ∃ digits rest, text = digits ++ rest ∧ (∀ c ∈ digits, c.isDigit = true) ∧ FollowsValue rest

theorem onlyDigits_decimalDigits (n : Nat) (ends : FollowsValue rest) :
    OnlyDigits (decimalDigits n ++ rest) :=
  ⟨_, rest, rfl, fun _ => isDigit_of_mem_decimalDigits, ends⟩

theorem OnlyDigits.readDigits {width k : Nat} (only : OnlyDigits text)
    (found : readDigits width text = some (k, after)) : OnlyDigits after := by
  induction width generalizing text k with
  | zero =>
    cases found
    exact only
  | succ width ih =>
    obtain ⟨digits, rest, rfl, all, ends⟩ := only
    cases digits with
    | nil =>
      cases rest with
      | nil => cases found
      | cons c rest =>
        have no_digit := isDigit_of_valueEnds (followsValue_cons_iff.1 ends)
        simp [Toml.readDigits, no_digit] at found
    | cons c digits =>
      obtain ⟨first, others⟩ := List.forall_mem_cons.1 all
      simp only [List.cons_append, Toml.readDigits, first, if_true] at found
      obtain ⟨⟨m, behind⟩, more, same⟩ := Option.map_eq_some_iff.1 found
      cases same
      exact ih ⟨digits, rest, rfl, others, ends⟩ more

theorem OnlyDigits.readChar (only : OnlyDigits text) (no_digit : c.isDigit = false)
    (no_end : c ∉ valueEnds) : readChar c text = none := by
  obtain ⟨digits, rest, rfl, all, ends⟩ := only
  have different (d : Char) (first : d ∈ (digits ++ rest).head?) : d ≠ c := by
    rintro rfl
    cases digits with
    | nil => exact no_end (ends _ first)
    | cons e digits =>
      cases first
      rw [all d List.mem_cons_self] at no_digit
      cases no_digit
  cases shape : digits ++ rest with
  | nil => rfl
  | cons d tail =>
    rw [shape] at different
    rw [Toml.readChar, if_neg (different d rfl)]

/-- A datetime has a sign behind its first digits. -/
theorem readDatetime_of_no_sign
    (no_date : ∀ k after, readDigits 4 text = some (k, after) → readChar '-' after = none)
    (no_time : ∀ k after, readDigits 2 text = some (k, after) → readChar ':' after = none) :
    readDatetime text = none := by
  have date : readDate text = none := by
    unfold readDate
    cases found : readDigits 4 text with
    | none => rfl
    | some pair =>
      show (readChar '-' pair.2).bind _ = none
      rw [no_date pair.1 pair.2 found]
      rfl
  have time : readTime text = none := by
    unfold readTime readHourMinute
    cases found : readDigits 2 text with
    | none => rfl
    | some pair =>
      show ((readChar ':' pair.2).bind _).bind _ = none
      rw [no_time pair.1 pair.2 found]
      rfl
  unfold readDatetime
  rw [date, time]
  rfl

theorem readDatetime_signedDigits (n : Int) (ends : FollowsValue rest) :
    readDatetime (signedDigits n ++ rest) = none := by
  unfold signedDigits
  split
  · exact readDatetime_of_no_sign nofun nofun
  · have only := onlyDigits_decimalDigits n.natAbs ends
    refine readDatetime_of_no_sign ?_ ?_
    · exact fun k after found => (only.readDigits found).readChar (by decide) (by decide)
    · exact fun k after found => (only.readDigits found).readChar (by decide) (by decide)

theorem readFractionExponent_of_followsValue (ends : FollowsValue rest) :
    readFractionExponent rest = none := by
  cases rest with
  | nil => rfl
  | cons c rest =>
    have point : c ≠ '.' := by
      rintro rfl
      exact absurd (followsValue_cons_iff.1 ends) (by decide)
    have exponent : ¬ (c = 'e' ∨ c = 'E') := by
      rintro (rfl | rfl)
      · exact absurd (followsValue_cons_iff.1 ends) (by decide)
      · exact absurd (followsValue_cons_iff.1 ends) (by decide)
    unfold readFractionExponent
    split
    · rename_i same
      cases same
      exact absurd rfl point
    · rw [readExponent, if_neg exponent]
      rfl

theorem readFloat_signedDigits (n : Int) (ends : FollowsValue rest) :
    readFloat (signedDigits n ++ rest) = none := by
  obtain ⟨d, digits, shape, digit, _⟩ := Text.exists_decimalDigits_eq_cons n.natAbs
  have infinity : 'i' ≠ d := by
    rintro rfl
    cases digit
  have nan : 'n' ≠ d := by
    rintro rfl
    cases digit
  have whole := readWhole_decimalDigits n.natAbs ends
  unfold readFloat
  rw [splitSign_signedDigits]
  dsimp only
  rw [shape, List.cons_append] at whole ⊢
  rw [after?_of_ne infinity]
  dsimp only
  rw [after?_of_ne nan]
  dsimp only
  rw [whole]
  dsimp only
  rw [readFractionExponent_of_followsValue ends]

/-! ### Values -/

theorem second_of_zero {tail : List Char} (ends : FollowsValue rest)
    (shape : signedDigits n ++ rest = '0' :: c :: tail) : c ∈ valueEnds := by
  unfold signedDigits at shape
  split at shape
  · cases shape
  · obtain ⟨d, digits, first, _, other⟩ := Text.exists_decimalDigits_eq_cons n.natAbs
    by_cases zero : n.natAbs = 0
    · rw [zero] at shape
      obtain rfl : rest = c :: tail := (List.cons.inj shape).2
      exact followsValue_cons_iff.1 ends
    · rw [first, List.cons_append] at shape
      exact absurd (List.cons.inj shape).1 (other (by omega))

theorem readInteger_signedDigits (fits : isInt64 n = true) (ends : FollowsValue rest) :
    readInteger (signedDigits n ++ rest) = some (n, rest) := by
  have value : (if decide (n < 0) = true then -(Text.digitsValue (decimalDigits n.natAbs) : Int)
      else Text.digitsValue (decimalDigits n.natAbs)) = n := by
    rw [Text.digitsValue_decimalDigits]
    split
    · rename_i negative
      rw [decide_eq_true_eq] at negative
      omega
    · rename_i positive
      rw [decide_eq_true_eq] at positive
      omega
  unfold readInteger
  split
  · rename_i shape
    exact absurd (second_of_zero ends shape) (by decide)
  · rename_i shape
    exact absurd (second_of_zero ends shape) (by decide)
  · rename_i shape
    exact absurd (second_of_zero ends shape) (by decide)
  · rw [splitSign_signedDigits]
    dsimp only
    rw [readWhole_decimalDigits _ ends, Option.map_some]
    dsimp only
    rw [value, if_pos fits]

/-- An integer of 64 bits is read back from its digits. -/
theorem readNumber_signedDigits (fits : isInt64 n = true) (ends : FollowsValue rest) :
    readNumber (signedDigits n ++ rest) = some (.integer n, rest) := by
  unfold readNumber
  rw [readDatetime_signedDigits n ends]
  dsimp only
  rw [readFloat_signedDigits n ends]
  dsimp only
  rw [readInteger_signedDigits fits ends]
  rfl

theorem exists_signedDigits_eq_cons (n : Int) :
    ∃ c tail, signedDigits n = c :: tail ∧ (c = '-' ∨ c.isDigit = true) := by
  unfold signedDigits
  split
  · exact ⟨'-', _, rfl, .inl rfl⟩
  · obtain ⟨d, digits, shape, digit, _⟩ := Text.exists_decimalDigits_eq_cons n.natAbs
    exact ⟨d, digits, shape, .inr digit⟩

theorem readBoolean_signedDigits (n : Int) (rest : List Char) :
    readBoolean (signedDigits n ++ rest) = none := by
  obtain ⟨c, tail, shape, first⟩ := exists_signedDigits_eq_cons n
  have not_true : 't' ≠ c := by
    rintro rfl
    revert first
    decide
  have not_false : 'f' ≠ c := by
    rintro rfl
    revert first
    decide
  rw [shape, List.cons_append, readBoolean, after?_of_ne not_true, after?_of_ne not_false]
  rfl

end InlineVariables.Toml
