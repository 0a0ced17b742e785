import InlineVariables.Toml.KeyPath

/-!
Strings and keys are read back from their written forms. The basic forms hold every string, because
whatever cannot stand for itself is escaped; the literal forms hold the strings that they are chosen for.
Main statements: `StringText.read_write`, `readKey_writeKey`.
-/

namespace InlineVariables.Toml

theorem newline?_cons_of_ne {c : Char} (inline : c ≠ '\n') (inline' : c ≠ '\r') (rest : List Char) :
    newline? (c :: rest) = none := by
  unfold newline?
  split <;> simp_all

theorem newline?_of_isLineChar {c : Char} (inline : isLineChar c = true) (rest : List Char) :
    newline? (c :: rest) = none := by
  refine newline?_cons_of_ne ?_ ?_ rest
  · rintro rfl
    revert inline
    decide
  · rintro rfl
    revert inline
    decide

namespace StringText

open Text (digitValue digitsValueIn)

variable {c d quote : Char} {text rest : List Char}

theorem isLineChar_of_plain (plain : isControl c = false) (inline : c ≠ '\n') :
    isLineChar c = true := by
  unfold isControl at plain
  unfold isLineChar
  by_cases tab : c = '\t'
  · simp [tab]
  · simp [tab, inline] at plain ⊢
    omega

/-! ### Escapes -/

theorem digitValue_hexDigit : ∀ n < 16, digitValue (Nat.digitChar n).toUpper = n := by
  decide

theorem isHexDigit_hexDigit : ∀ n < 16, isHexDigit (Nat.digitChar n).toUpper = true := by
  decide

theorem digitsValueIn_fourHexDigits {n : Nat} (small : n < 65536) :
    digitsValueIn 16 (fourHexDigits n) = n := by
  have value (m : Nat) : digitValue (Nat.digitChar (m % 16)).toUpper = m % 16 :=
    digitValue_hexDigit _ (Nat.mod_lt _ (by decide))
  simp only [fourHexDigits, digitsValueIn, List.map_cons, List.map_nil, List.foldl_cons,
    List.foldl_nil, value]
  omega

theorem isHexDigit_fourHexDigits (n : Nat) : (fourHexDigits n).all isHexDigit = true := by
  have digit (m : Nat) : isHexDigit (Nat.digitChar (m % 16)).toUpper = true :=
    isHexDigit_hexDigit _ (Nat.mod_lt _ (by decide))
  simp [fourHexDigits, digit]

theorem readCodePoint_fourHexDigits (small : c.toNat < 65536) (rest : List Char) :
    readCodePoint 4 (fourHexDigits c.toNat ++ rest) = some (c, rest) := by
  have taken : (fourHexDigits c.toNat ++ rest).take 4 = fourHexDigits c.toNat := rfl
  have dropped : (fourHexDigits c.toNat ++ rest).drop 4 = rest := rfl
  unfold readCodePoint
  dsimp only
  rw [taken, dropped, digitsValueIn_fourHexDigits small,
    if_pos ⟨rfl, isHexDigit_fourHexDigits _, c.valid⟩, Char.ofNat_toNat]

/-- Behind a backslash the tail stands for the character, and does not end the line. -/
structure Escapes (tail : List Char) (c : Char) : Prop where
  read : ∀ rest, readEscape (tail ++ rest) = some (c, rest)
  inline : ∀ rest, continuation? (tail ++ rest) = none

theorem escapes_quote : Escapes ['"'] '"' :=
  ⟨fun _ => rfl, fun _ => rfl⟩

theorem escapes_of_escape? {multiline : Bool} {escaped : List Char}
    (found : escape? multiline c = some escaped) :
    ∃ tail, escaped = '\\' :: tail ∧ Escapes tail c := by
  unfold escape? at found
  split at found
  · subst c
    cases found
    exact ⟨['b'], rfl, fun _ => rfl, fun _ => rfl⟩
  split at found
  · subst c
    cases found
    exact ⟨['t'], rfl, fun _ => rfl, fun _ => rfl⟩
  split at found
  · subst c
    split at found
    · cases found
    · cases found
      exact ⟨['n'], rfl, fun _ => rfl, fun _ => rfl⟩
  split at found
  · subst c
    cases found
    exact ⟨['f'], rfl, fun _ => rfl, fun _ => rfl⟩
  split at found
  · subst c
    cases found
    exact ⟨['r'], rfl, fun _ => rfl, fun _ => rfl⟩
  split at found
  · subst c
    cases found
    exact ⟨['\\'], rfl, fun _ => rfl, fun _ => rfl⟩
  split at found
  · rename_i control
    cases found
    refine ⟨'u' :: fourHexDigits c.toNat, rfl, fun rest => ?_, fun _ => rfl⟩
    have small : c.toNat < 65536 := by
      unfold isControl at control
      simp at control
      omega
    exact readCodePoint_fourHexDigits small rest
  · cases found

theorem plain_of_escape? {multiline : Bool} (found : escape? multiline c = none) :
    c ≠ '\\' ∧ isControl c = false ∧ (c = '\n' → multiline = true) := by
  have newline : isControl '\n' = false := by decide
  unfold escape? at found
  grind

/-! ### On one line -/

theorem readBasic_close (rest : List Char) : readBasic ('"' :: rest) = some ([], rest) := by
  rw [readBasic]
  exact if_pos rfl

theorem readBasic_escape {tail : List Char} (escapes : Escapes tail c) (rest : List Char) :
    readBasic ('\\' :: (tail ++ rest)) = consRead c (readBasic rest) := by
  rw [readBasic, if_neg (by decide), if_pos rfl]
  split
  · rename_i found
    rw [escapes.read] at found
    cases found
    rfl
  · rename_i missing
    rw [escapes.read] at missing
    cases missing

theorem readBasic_char (not_quote : c ≠ '"') (not_escape : c ≠ '\\') (inline : isLineChar c = true)
    (rest : List Char) : readBasic (c :: rest) = consRead c (readBasic rest) := by
  rw [readBasic, if_neg not_quote, if_neg not_escape, if_pos inline]

theorem readBasic_basicBody (text rest : List Char) :
    readBasic (basicBody false 0 text ++ '"' :: rest) = some (text, rest) := by
  induction text with
  | nil => exact readBasic_close rest
  | cons c text ih =>
    rw [basicBody]
    split
    · subst c
      show readBasic ('\\' :: (['"'] ++ (basicBody false 0 text ++ '"' :: rest))) = _
      rw [readBasic_escape escapes_quote, ih]
      rfl
    · rename_i not_quote
      split
      · rename_i escaped found
        obtain ⟨tail, rfl, escapes⟩ := escapes_of_escape? found
        rw [List.append_assoc, List.cons_append, readBasic_escape escapes, ih]
        rfl
      · rename_i found
        obtain ⟨not_escape, plain, line⟩ := plain_of_escape? found
        have inline : c ≠ '\n' := fun same => Bool.false_ne_true (line same)
        rw [List.cons_append, readBasic_char not_quote not_escape (isLineChar_of_plain plain inline), ih]
        rfl

theorem readLiteral_append (fits : fitsLiteral text = true) (rest : List Char) :
    readLiteral (text ++ '\'' :: rest) = some (text, rest) := by
  induction text with
  | nil => rfl
  | cons c text ih =>
    simp [fitsLiteral, isPlain] at fits ih
    obtain ⟨⟨plain, all_plain⟩, ⟨not_quote, inline⟩, others⟩ := fits
    rw [List.cons_append, readLiteral, if_neg not_quote, if_pos (isLineChar_of_plain plain inline),
      ih all_plain others]
    rfl

/-! ### Three quotes -/

theorem threeQuotes?_first (different : c ≠ quote) (rest : List Char) :
    threeQuotes? quote (c :: rest) = none := by
  unfold threeQuotes?
  split <;> simp_all

theorem threeQuotes?_second (different : d ≠ quote) (rest : List Char) :
    threeQuotes? quote (c :: d :: rest) = none := by
  unfold threeQuotes?
  split <;> simp_all

theorem threeQuotes?_third {e : Char} (different : e ≠ quote) (rest : List Char) :
    threeQuotes? quote (c :: d :: e :: rest) = none := by
  simp [threeQuotes?, different]

theorem threeQuotes?_closing (quote : Char) (rest : List Char) :
    threeQuotes? quote (quote :: quote :: quote :: rest) = some rest := by
  simp [threeQuotes?]

theorem threeQuotes?_pair (ends : rest.head? ≠ some quote) :
    threeQuotes? quote (quote :: quote :: rest) = none := by
  cases rest with
  | nil => rfl
  | cons c rest =>
    apply threeQuotes?_third
    simpa using ends

/-- Up to two quotes before the last three belong to the string. -/
theorem readClosing_replicate {k : Nat} (few : k ≤ 2) (ends : rest.head? ≠ some quote) :
    readClosing quote (List.replicate k quote ++ rest) = (List.replicate k quote, rest) := by
  have other (c : Char) (tail : List Char) (shape : rest = c :: tail) : c ≠ quote := by
    subst shape
    simpa using ends
  match k, few with
  | 0, _ =>
    match rest, other with
    | [], _ => rfl
    | [c], other => simp [readClosing, other c [] rfl]
    | c :: d :: tail, other => simp [readClosing, other c _ rfl]
  | 1, _ =>
    match rest, other with
    | [], _ => simp [readClosing]
    | c :: tail, other => simp [readClosing, other c tail rfl]
  | 2, _ => simp [readClosing, List.replicate]

/-! ### On several lines -/

theorem readMultilineBasic_close {k : Nat} (few : k ≤ 2) (ends : rest.head? ≠ some '"') :
    readMultilineBasic ('"' :: '"' :: '"' :: (List.replicate k '"' ++ rest)) =
      some (List.replicate k '"', rest) := by
  rw [readMultilineBasic, threeQuotes?_closing]
  dsimp only
  rw [readClosing_replicate few ends]

theorem readMultilineBasic_escape {tail : List Char} (escapes : Escapes tail c) (rest : List Char) :
    readMultilineBasic ('\\' :: (tail ++ rest)) = consRead c (readMultilineBasic rest) := by
  rw [readMultilineBasic, threeQuotes?_first (by decide)]
  dsimp only
  rw [if_pos rfl]
  split
  · rename_i continued
    rw [escapes.inline] at continued
    cases continued
  · split
    · rename_i found
      rw [escapes.read] at found
      cases found
      rfl
    · rename_i missing
      rw [escapes.read] at missing
      cases missing

theorem readMultilineBasic_newline (rest : List Char) :
    readMultilineBasic ('\n' :: rest) = consRead '\n' (readMultilineBasic rest) := by
  rw [readMultilineBasic, threeQuotes?_first (by decide)]
  dsimp only
  rw [if_neg (by decide)]
  split
  · rename_i ended
    cases ended
    rfl
  · rename_i missing
    cases missing

theorem readMultilineBasic_char (opened : threeQuotes? '"' (c :: rest) = none)
    (not_escape : c ≠ '\\') (inline : isLineChar c = true) :
    readMultilineBasic (c :: rest) = consRead c (readMultilineBasic rest) := by
  rw [readMultilineBasic, opened]
  dsimp only
  rw [if_neg not_escape]
  split
  · rename_i ended
    rw [newline?_of_isLineChar inline] at ended
    cases ended
  · rw [if_pos inline]

/-- No quote stands first when none may stand for itself. -/
theorem basicBody_cons {multiline : Bool} {run : Nat}
    (full : c = '"' → (if multiline then 2 else 0) ≤ run) (text : List Char) :
    ∃ d tail, basicBody multiline run (c :: text) = d :: tail ∧ d ≠ '"' ∧
      (d = '\n' ∨ d = '\r' → c = '\n') := by
  rw [basicBody]
  split
  · rename_i is_quote
    rw [if_neg (by have := full is_quote; omega)]
    exact ⟨'\\', _, rfl, by decide, by simp⟩
  · rename_i not_quote
    split
    · rename_i escaped found
      obtain ⟨tail, rfl, _⟩ := escapes_of_escape? found
      exact ⟨'\\', _, rfl, by decide, by simp⟩
    · rename_i found
      refine ⟨c, _, rfl, not_quote, ?_⟩
      rintro (same | same)
      · exact same
      · subst c
        cases multiline <;> cases found

/-- A quote that stands for itself is read as one, unless the closing quotes follow so closely that it is
read with them. -/
theorem readMultilineBasic_quote {run : Nat} (room : run < 2) (ends : rest.head? ≠ some '"')
    (behind : readMultilineBasic (basicBody true (run + 1) text ++ '"' :: '"' :: '"' :: rest) =
      some (text, rest)) :
    readMultilineBasic ('"' :: (basicBody true (run + 1) text ++ '"' :: '"' :: '"' :: rest)) =
      some ('"' :: text, rest) := by
  have goes_on (opened : threeQuotes? '"'
        ('"' :: (basicBody true (run + 1) text ++ '"' :: '"' :: '"' :: rest)) = none) :
      readMultilineBasic ('"' :: (basicBody true (run + 1) text ++ '"' :: '"' :: '"' :: rest)) =
        some ('"' :: text, rest) := by
    rw [readMultilineBasic_char opened (by decide) (by decide), behind]
    rfl
  cases text with
  | nil => exact readMultilineBasic_close (k := 1) (by decide) ends
  | cons d text =>
    by_cases second : d = '"' ∧ run = 0
    · obtain ⟨rfl, rfl⟩ := second
      cases text with
      | nil => exact readMultilineBasic_close (k := 2) (by decide) ends
      | cons e text =>
        obtain ⟨first, tail, shape, other, _⟩ :=
          @basicBody_cons e true 2 (fun _ => Nat.le_refl 2) text
        apply goes_on
        show threeQuotes? '"' ('"' :: '"' :: (basicBody true 2 (e :: text) ++ _)) = none
        rw [shape]
        exact threeQuotes?_third other _
    · have full : d = '"' → (if true then 2 else 0) ≤ run + 1 := by
        intro is_quote
        have later : run ≠ 0 := fun first => second ⟨is_quote, first⟩
        show 2 ≤ run + 1
        omega
      obtain ⟨first, tail, shape, other, _⟩ := basicBody_cons full text
      apply goes_on
      rw [shape]
      exact threeQuotes?_second other _

theorem readMultilineBasic_basicBody (text : List Char) (run : Nat)
    (ends : rest.head? ≠ some '"') :
    readMultilineBasic (basicBody true run text ++ '"' :: '"' :: '"' :: rest) =
      some (text, rest) := by
  induction text generalizing run with
  | nil => exact readMultilineBasic_close (k := 0) (by decide) ends
  | cons c text ih =>
    rw [basicBody]
    split
    · subst c
      by_cases room : run < 2
      · rw [if_pos (show run < if true then 2 else 0 from room)]
        exact readMultilineBasic_quote room ends (ih (run + 1))
      · rw [if_neg (show ¬ run < if true then 2 else 0 from room)]
        show readMultilineBasic ('\\' :: (['"'] ++ (basicBody true 0 text ++ _))) = _
        rw [readMultilineBasic_escape escapes_quote, ih]
        rfl
    · rename_i not_quote
      split
      · rename_i escaped found
        obtain ⟨tail, rfl, escapes⟩ := escapes_of_escape? found
        rw [List.append_assoc, List.cons_append, readMultilineBasic_escape escapes, ih]
        rfl
      · rename_i found
        obtain ⟨not_escape, plain, _⟩ := plain_of_escape? found
        rw [List.cons_append]
        by_cases line : c = '\n'
        · subst c
          rw [readMultilineBasic_newline, ih]
          rfl
        · have opened := threeQuotes?_first not_quote
            (basicBody true 0 text ++ '"' :: '"' :: '"' :: rest)
          rw [readMultilineBasic_char opened not_escape (isLineChar_of_plain plain line), ih]
          rfl

theorem le_longestRunFrom (quote : Char) (current : Nat) (text : List Char) :
    current ≤ longestRunFrom quote current text := by
  induction text generalizing current with
  | nil => exact Nat.le_refl _
  | cons c text ih =>
    rw [longestRunFrom]
    split
    · have := ih (current + 1)
      omega
    · omega

theorem readMultilineLiteral_close {k : Nat} (few : k ≤ 2) (ends : rest.head? ≠ some '\'') :
    readMultilineLiteral ('\'' :: '\'' :: '\'' :: (List.replicate k '\'' ++ rest)) =
      some (List.replicate k '\'', rest) := by
  rw [readMultilineLiteral, threeQuotes?_closing]
  dsimp only
  rw [readClosing_replicate few ends]

theorem readMultilineLiteral_newline (rest : List Char) :
    readMultilineLiteral ('\n' :: rest) = consRead '\n' (readMultilineLiteral rest) := by
  rw [readMultilineLiteral, threeQuotes?_first (by decide)]
  dsimp only
  split
  · rename_i ended
    cases ended
    rfl
  · rename_i missing
    cases missing

theorem readMultilineLiteral_char (opened : threeQuotes? '\'' (c :: rest) = none)
    (inline : isLineChar c = true) :
    readMultilineLiteral (c :: rest) = consRead c (readMultilineLiteral rest) := by
  rw [readMultilineLiteral, opened]
  dsimp only
  split
  · rename_i ended
    rw [newline?_of_isLineChar inline] at ended
    cases ended
  · rw [if_pos inline]

/-- As for the basic form: the last quotes of the string are read with the closing ones. -/
theorem readMultilineLiteral_quote {run : Nat} (few : longestRunFrom '\'' (run + 1) text ≤ 2)
    (ends : rest.head? ≠ some '\'')
    (behind : readMultilineLiteral (text ++ '\'' :: '\'' :: '\'' :: rest) = some (text, rest)) :
    readMultilineLiteral ('\'' :: (text ++ '\'' :: '\'' :: '\'' :: rest)) =
      some ('\'' :: text, rest) := by
  have goes_on (opened : threeQuotes? '\'' ('\'' :: (text ++ '\'' :: '\'' :: '\'' :: rest)) = none) :
      readMultilineLiteral ('\'' :: (text ++ '\'' :: '\'' :: '\'' :: rest)) =
        some ('\'' :: text, rest) := by
    rw [readMultilineLiteral_char opened (by decide), behind]
    rfl
  match text, few, goes_on with
  | [], _, _ => exact readMultilineLiteral_close (k := 1) (by decide) ends
  | [d], _, goes_on =>
    by_cases second : d = '\''
    · subst d
      exact readMultilineLiteral_close (k := 2) (by decide) ends
    · exact goes_on (threeQuotes?_second second _)
  | d :: e :: text, few, goes_on =>
    by_cases second : d = '\''
    · by_cases third : e = '\''
      · rw [longestRunFrom, if_pos second, longestRunFrom, if_pos third] at few
        have := le_longestRunFrom '\'' (run + 1 + 1 + 1) text
        omega
      · exact goes_on (threeQuotes?_third third _)
    · exact goes_on (threeQuotes?_second second _)

theorem readMultilineLiteral_append {run : Nat} (few : longestRunFrom '\'' run text ≤ 2)
    (plain : isPlain text = true) (ends : rest.head? ≠ some '\'') :
    readMultilineLiteral (text ++ '\'' :: '\'' :: '\'' :: rest) = some (text, rest) := by
  induction text generalizing run with
  | nil => exact readMultilineLiteral_close (k := 0) (by decide) ends
  | cons c text ih =>
    simp only [isPlain, List.all_cons, Bool.and_eq_true, Bool.not_eq_true'] at plain ih
    obtain ⟨here, others⟩ := plain
    rw [longestRunFrom] at few
    split at few
    · subst c
      exact readMultilineLiteral_quote few ends (ih few others)
    · rename_i not_quote
      have behind := @ih 0 (by omega) others
      rw [List.cons_append]
      by_cases line : c = '\n'
      · subst c
        rw [readMultilineLiteral_newline, behind]
        rfl
      · rw [readMultilineLiteral_char (threeQuotes?_first not_quote _)
          (isLineChar_of_plain here line), behind]
        rfl

/-! ### Forms -/

theorem dropNewline_openingNewline {body : List Char}
    (opened : '\n' ∉ text → newline? body = none) :
    dropNewline (openingNewline text ++ body) = body := by
  unfold openingNewline dropNewline
  split
  · rfl
  · rename_i inline
    rw [List.nil_append, opened (by simpa using inline)]
    rfl

theorem newline?_basicBody (inline : '\n' ∉ text) :
    newline? (basicBody true 0 text ++ '"' :: rest) = none := by
  cases text with
  | nil => rfl
  | cons c text =>
    by_cases is_quote : c = '"'
    · subst c
      rfl
    · obtain ⟨d, tail, shape, _, line⟩ :=
        @basicBody_cons c true 0 (fun same => absurd same is_quote) text
      have other : ¬ (d = '\n' ∨ d = '\r') := by
        intro ends_line
        rw [line ends_line] at inline
        exact inline List.mem_cons_self
      rw [shape]
      exact newline?_cons_of_ne (fun same => other (.inl same)) (fun same => other (.inr same)) _

theorem newline?_of_isPlain (plain : isPlain text = true) (inline : '\n' ∉ text) :
    newline? (text ++ '\'' :: rest) = none := by
  cases text with
  | nil => rfl
  | cons c text =>
    simp [isPlain] at plain inline
    exact newline?_of_isLineChar (isLineChar_of_plain plain.1 (Ne.symm inline.1)) _

theorem read_writeAs_basic (text : List Char) (ends : rest.head? ≠ some '"') :
    read (writeAs text .basic ++ rest) = some (text, rest) := by
  have body := readBasic_basicBody text rest
  have opened : threeQuotes? '"' ('"' :: (basicBody false 0 text ++ '"' :: rest)) = none := by
    cases text with
    | nil => exact threeQuotes?_pair ends
    | cons c text =>
      obtain ⟨d, tail, shape, other, _⟩ := @basicBody_cons c false 0 (fun _ => Nat.le_refl 0) text
      rw [shape]
      exact threeQuotes?_second other _
  have written : writeAs text .basic ++ rest = '"' :: (basicBody false 0 text ++ '"' :: rest) := by
    simp [writeAs]
  rw [written, read, opened]
  dsimp only
  rw [threeQuotes?_first (by decide)]
  dsimp only
  rw [if_pos rfl, body]

theorem read_writeAs_literal (fits : fitsLiteral text = true) (ends : rest.head? ≠ some '\'') :
    read (writeAs text .literal ++ rest) = some (text, rest) := by
  have body := readLiteral_append fits rest
  have opened : threeQuotes? '\'' ('\'' :: (text ++ '\'' :: rest)) = none := by
    cases text with
    | nil => exact threeQuotes?_pair ends
    | cons c text =>
      simp [fitsLiteral] at fits
      exact threeQuotes?_second fits.2.1.1 _
  have written : writeAs text .literal ++ rest = '\'' :: (text ++ '\'' :: rest) := by
    simp [writeAs]
  rw [written, read, threeQuotes?_first (by decide)]
  dsimp only
  rw [opened]
  dsimp only
  rw [if_neg (by decide), if_pos rfl, body]

theorem read_writeAs_multilineBasic (text : List Char) (ends : rest.head? ≠ some '"') :
    read (writeAs text .multilineBasic ++ rest) = some (text, rest) := by
  have written : writeAs text .multilineBasic ++ rest =
      '"' :: '"' :: '"' :: (openingNewline text ++
        (basicBody true 0 text ++ '"' :: '"' :: '"' :: rest)) := by
    simp [writeAs]
  rw [written, read, threeQuotes?_closing]
  dsimp only
  rw [dropNewline_openingNewline newline?_basicBody, readMultilineBasic_basicBody text 0 ends]

theorem read_writeAs_multilineLiteral (fits : fitsMultilineLiteral text = true)
    (ends : rest.head? ≠ some '\'') :
    read (writeAs text .multilineLiteral ++ rest) = some (text, rest) := by
  simp only [fitsMultilineLiteral, Bool.and_eq_true, decide_eq_true_eq] at fits
  obtain ⟨plain, few⟩ := fits
  have written : writeAs text .multilineLiteral ++ rest =
      '\'' :: '\'' :: '\'' :: (openingNewline text ++ (text ++ '\'' :: '\'' :: '\'' :: rest)) := by
    simp [writeAs]
  rw [written, read, threeQuotes?_first (by decide)]
  dsimp only
  rw [threeQuotes?_closing]
  dsimp only
  rw [dropNewline_openingNewline (newline?_of_isPlain plain),
    readMultilineLiteral_append few plain ends]

theorem fits_of_formOf_literal (chosen : formOf text = .literal) : fitsLiteral text = true := by
  unfold formOf at chosen
  grind

theorem fits_of_formOf_multilineLiteral (chosen : formOf text = .multilineLiteral) :
    fitsMultilineLiteral text = true := by
  unfold formOf at chosen
  grind

/-- A string is read back from its written form when no quote stands behind it. -/
theorem read_write (text : List Char) (basic : rest.head? ≠ some '"')
    (literal : rest.head? ≠ some '\'') : read (write text ++ rest) = some (text, rest) := by
  rw [write]
  cases chosen : formOf text with
  | basic => exact read_writeAs_basic text basic
  | literal => exact read_writeAs_literal (fits_of_formOf_literal chosen) literal
  | multilineBasic => exact read_writeAs_multilineBasic text basic
  | multilineLiteral =>
    exact read_writeAs_multilineLiteral (fits_of_formOf_multilineLiteral chosen) literal

/-- A written string begins with a quote. -/
theorem exists_write_eq_cons (text : List Char) :
    ∃ c tail, write text = c :: tail ∧ (c = '"' ∨ c = '\'') := by
  rw [write]
  cases formOf text with
  | basic => exact ⟨'"', _, rfl, .inl rfl⟩
  | literal => exact ⟨'\'', _, rfl, .inr rfl⟩
  | multilineBasic => exact ⟨'"', _, rfl, .inl rfl⟩
  | multilineLiteral => exact ⟨'\'', _, rfl, .inr rfl⟩

end StringText

open StringText

variable {key rest : List Char}

theorem readKey_writeAs_basic (key rest : List Char) :
    readKey (writeAs key .basic ++ rest) = some (String.ofList key, rest) := by
  have written : writeAs key .basic ++ rest = '"' :: (basicBody false 0 key ++ '"' :: rest) := by
    simp [writeAs]
  rw [written, readKey]
  dsimp only
  rw [if_pos rfl, readBasic_basicBody]
  rfl

theorem readKey_writeAs_literal (fits : fitsLiteral key = true) (rest : List Char) :
    readKey (writeAs key .literal ++ rest) = some (String.ofList key, rest) := by
  have written : writeAs key .literal ++ rest = '\'' :: (key ++ '\'' :: rest) := by
    simp [writeAs]
  rw [written, readKey]
  dsimp only
  rw [if_neg (by decide), if_pos rfl, readLiteral_append fits]
  rfl

theorem readKey_bare (some_char : key ≠ []) (bare : key.all isBareKeyChar = true)
    (ends : ∀ c ∈ rest.head?, isBareKeyChar c = false) :
    readKey (key ++ rest) = some (String.ofList key, rest) := by
  have all : ∀ c ∈ key, isBareKeyChar c = true := List.all_eq_true.1 bare
  have taken : (key ++ rest).takeWhile isBareKeyChar = key := by
    rw [List.takeWhile_append_of_pos all]
    cases rest with
    | nil => simp
    | cons c rest => simp [ends c rfl]
  have dropped : (key ++ rest).dropWhile isBareKeyChar = rest := by
    rw [List.dropWhile_append_of_pos all]
    cases rest with
    | nil => rfl
    | cons c rest => simp [ends c rfl]
  cases key with
  | nil => exact absurd rfl some_char
  | cons c key =>
    have first := all c List.mem_cons_self
    have not_basic : c ≠ '"' := by
      rintro rfl
      revert first
      decide
    have not_literal : c ≠ '\'' := by
      rintro rfl
      revert first
      decide
    rw [List.cons_append] at taken dropped ⊢
    rw [readKey]
    dsimp only
    rw [if_neg not_basic, if_neg not_literal, taken, dropped, if_neg some_char]
    rfl

/-- A key is read back when something stands behind it that is in no bare key. -/
theorem readKey_writeKey (key : List Char) (ends : ∀ c ∈ rest.head?, isBareKeyChar c = false) :
    readKey (writeKey key ++ rest) = some (String.ofList key, rest) := by
  unfold writeKey
  split
  · rename_i bare
    simp only [Bool.and_eq_true, decide_eq_true_eq] at bare
    exact readKey_bare bare.1 bare.2 ends
  split
  · exact readKey_writeAs_basic key rest
  split
  · rename_i fits
    exact readKey_writeAs_literal fits rest
  · exact readKey_writeAs_basic key rest

end InlineVariables.Toml
