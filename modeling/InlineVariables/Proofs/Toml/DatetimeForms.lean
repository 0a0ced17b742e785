import InlineVariables.Proofs.Toml.NumberForms
import InlineVariables.Toml.Datetime
import InlineVariables.Toml.StringText

/-!
The text of a datetime is made of digits and a few signs (`Datetime.all_text`), so it stands between quotes
as it is (`StringText.write_of_datetimeChars`).
-/

namespace InlineVariables.Toml

open Text (paddedDigits)

/-- Digits, and the signs between the parts of a datetime. -/
def isDatetimeChar (c : Char) : Bool :=
  c.isDigit || ['-', ':', 'T', '.', 'Z', '+'].contains c

namespace StringText

variable {c : Char} {text : List Char}

theorem escape?_of_plain (plain : isControl c = false)
    (other : c ∉ ['\x08', '\t', '\n', '\x0c', '\r', '\\']) (multiline : Bool) :
    escape? multiline c = none := by
  simp only [List.mem_cons, List.not_mem_nil, or_false, not_or] at other
  simp [escape?, other, plain]

theorem basicBody_of_unescaped (other : ∀ c ∈ text, c ≠ '"')
    (plain : ∀ c ∈ text, escape? false c = none) : basicBody false 0 text = text := by
  induction text with
  | nil => rfl
  | cons c text ih =>
    obtain ⟨first, others⟩ := List.forall_mem_cons.1 other
    obtain ⟨first_plain, others_plain⟩ := List.forall_mem_cons.1 plain
    rw [basicBody, if_neg first, first_plain]
    dsimp only
    rw [ih others others_plain]

theorem isControl_of_isDatetimeChar (some_char : isDatetimeChar c = true) : isControl c = false := by
  simp only [isDatetimeChar, Bool.or_eq_true, List.contains_iff_mem] at some_char
  rcases some_char with digit | sign
  · simp only [Char.isDigit, Bool.and_eq_true, decide_eq_true_eq, UInt32.le_iff_toNat_le] at digit
    have low : 48 ≤ c.toNat := digit.1
    have high : c.toNat ≤ 57 := digit.2
    simp [isControl]
    omega
  · simp only [List.mem_cons, List.not_mem_nil, or_false] at sign
    rcases sign with rfl | rfl | rfl | rfl | rfl | rfl <;> decide

/-- A text without signs to escape stands between quotes as it is. -/
theorem write_of_datetimeChars (all : ∀ c ∈ text, isDatetimeChar c = true) :
    write text = '"' :: text ++ ['"'] := by
  have control (c : Char) (member : c ∈ text) : isControl c = false :=
    isControl_of_isDatetimeChar (all c member)
  have other (c : Char) (member : c ∈ text) :
      c ∉ ['"', '\x08', '\t', '\n', '\x0c', '\r', '\\'] :=
    not_mem_of_all (all c member) (by decide)
  have not_quote (c : Char) (member : c ∈ text) : c ≠ '"' :=
    fun same => other c member (same ▸ List.mem_cons_self)
  have unescaped (c : Char) (member : c ∈ text) : escape? false c = none :=
    escape?_of_plain (control c member)
      (fun escaped => other c member (List.mem_cons_of_mem _ escaped)) false
  have fits : fitsBasic text = true := by
    simp only [fitsBasic, isPlain, Bool.and_eq_true, List.all_eq_true]
    refine ⟨fun c member => by simp [control c member], fun c member => ?_⟩
    have := other c member
    simp_all
  rw [write, formOf, if_pos fits, writeAs, basicBody_of_unescaped not_quote unescaped]

end StringText

/-! ### The signs of a datetime -/

theorem isDatetimeChar_digitChar : ∀ n < 10, isDatetimeChar (Nat.digitChar n) = true := by
  decide

theorem all_paddedDigits (width n : Nat) : (paddedDigits width n).all isDatetimeChar = true := by
  induction width generalizing n with
  | zero => rfl
  | succ width ih =>
    have digit := isDatetimeChar_digitChar (n % 10) (Nat.mod_lt _ (by decide))
    simp [paddedDigits, ih, digit]

theorem all_dropTrailingZeros {p : Char → Bool} {text : List Char} (all : text.all p = true) :
    (dropTrailingZeros text).all p = true := by
  induction text with
  | nil => rfl
  | cons c text ih =>
    rw [List.all_cons, Bool.and_eq_true] at all
    obtain ⟨first, others⟩ := all
    have kept := ih others
    rw [dropTrailingZeros]
    split
    · split
      · rfl
      · simp [first]
    · rename_i shape
      rw [List.all_cons, first, kept]
      rfl

theorem Date.all_text (d : Date) : d.text.all isDatetimeChar = true := by
  have dash : isDatetimeChar '-' = true := by decide
  simp [Date.text, all_paddedDigits, dash]

theorem Time.all_text (t : Time) : t.text.all isDatetimeChar = true := by
  have colon : isDatetimeChar ':' = true := by decide
  have point : isDatetimeChar '.' = true := by decide
  have fraction := all_dropTrailingZeros (all_paddedDigits 9 t.nanosecond)
  unfold Time.text
  dsimp only
  split
  · simp [all_paddedDigits, colon]
  · rw [List.all_append, List.all_cons, fraction, point]
    simp [all_paddedDigits, colon]

theorem Offset.all_text (o : Offset) : o.text.all isDatetimeChar = true := by
  have colon : isDatetimeChar ':' = true := by decide
  have sign (count : Int) : isDatetimeChar (if count < 0 then '-' else '+') = true := by
    split <;> decide
  cases o with
  | utc => decide
  | minutes count => simp [Offset.text, all_paddedDigits, colon, sign]

theorem Datetime.all_text (d : Datetime) : d.text.all isDatetimeChar = true := by
  have letter : isDatetimeChar 'T' = true := by decide
  cases d with
  | date day => exact day.all_text
  | time clock => exact clock.all_text
  | dateTime day clock offset =>
    cases offset with
    | none => simp [Datetime.text, Date.all_text, Time.all_text, letter]
    | some offset => simp [Datetime.text, Date.all_text, Time.all_text, Offset.all_text, letter]

end InlineVariables.Toml
