/-!
Digits and the numbers they stand for. `digitsValue_decimalDigits` says that the decimal digits of a
number stand for it.
-/

namespace InlineVariables.Text

def decimalDigits (n : Nat) : List Char :=
  Nat.toDigits 10 n

/-- The digits of an integer, after a minus sign when it is negative. -/
def signedDigits (n : Int) : List Char :=
  if n < 0 then '-' :: decimalDigits n.natAbs else decimalDigits n.natAbs

/-- The last digits of a number, as many as asked for, with leading zeros. -/
def paddedDigits : Nat → Nat → List Char
  | 0, _ => []
  | width + 1, n => paddedDigits width (n / 10) ++ [Nat.digitChar (n % 10)]

/-- The value of a digit; `a` to `f` count on from ten in either case. -/
def digitValue (c : Char) : Nat :=
  if c.isDigit then c.toNat - '0'.toNat
  else if c.isLower then c.toNat - 'a'.toNat + 10
  else c.toNat - 'A'.toNat + 10

/-- The number that digits stand for in a base. -/
def digitsValueIn (base : Nat) (digits : List Char) : Nat :=
  digits.foldl (fun n c => base * n + digitValue c) 0

def digitsValue (digits : List Char) : Nat :=
  Nat.ofDigitChars 10 digits 0

/-- An optional sign and the text after it; true for a minus. -/
def splitSign : List Char → Bool × List Char
  | '-' :: rest => (true, rest)
  | '+' :: rest => (false, rest)
  | text => (false, text)

theorem digitsValue_decimalDigits (n : Nat) : digitsValue (decimalDigits n) = n :=
  Nat.ofDigitChars_toDigits (by decide) (by decide)

theorem isDigit_of_mem_decimalDigits {c : Char} {n : Nat} (digit : c ∈ decimalDigits n) :
    c.isDigit = true :=
  Nat.isDigit_of_mem_toDigits (by decide) (by decide) digit

theorem digitChar_ne_zero : ∀ n < 10, 0 < n → Nat.digitChar n ≠ '0' := by
  decide

/-- Only the digits of zero begin with a zero. -/
theorem exists_decimalDigits_eq_cons (n : Nat) :
    ∃ d digits, decimalDigits n = d :: digits ∧ d.isDigit = true ∧ (0 < n → d ≠ '0') := by
  induction n using Nat.strongRecOn with
  | _ n ih =>
    by_cases small : n < 10
    · refine ⟨Nat.digitChar n, [], Nat.toDigits_of_lt_base small, ?_, digitChar_ne_zero n small⟩
      apply isDigit_of_mem_decimalDigits (n := n)
      rw [decimalDigits, Nat.toDigits_of_lt_base small]
      exact List.mem_singleton.2 rfl
    · obtain ⟨d, digits, shape, digit, other⟩ := ih (n / 10) (by omega)
      have split := Nat.toDigits_of_base_le (b := 10) (by decide) (Nat.not_lt.1 small)
      rw [decimalDigits] at shape ⊢
      rw [split, shape]
      exact ⟨d, _, rfl, digit, fun _ => other (by omega)⟩

end InlineVariables.Text
