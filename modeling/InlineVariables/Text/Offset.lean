/-!
Byte offsets into text in its UTF-8 form. Main lemma: `dropBytes_eq_some_iff`, an offset is a
character boundary exactly when it is the length of a beginning of the text.
-/

namespace InlineVariables.Text

/-- The number of bytes of the UTF-8 form. -/
def byteLength : List Char → Nat
  | [] => 0
  | c :: rest => c.utf8Size + byteLength rest

/-- The text from a byte offset on, nothing when the offset is past the end or inside a
character. -/
def dropBytes : List Char → Nat → Option (List Char)
  | text, 0 => some text
  | [], _ + 1 => none
  | c :: rest, n + 1 =>
    if c.utf8Size ≤ n + 1 then dropBytes rest (n + 1 - c.utf8Size) else none

@[simp] theorem byteLength_nil : byteLength [] = 0 := rfl

@[simp] theorem byteLength_cons (c : Char) (rest : List Char) :
    byteLength (c :: rest) = c.utf8Size + byteLength rest := rfl

@[simp] theorem byteLength_append (a b : List Char) :
    byteLength (a ++ b) = byteLength a + byteLength b := by
  induction a with
  | nil => simp
  | cons c a ih => simp [ih, Nat.add_assoc]

@[simp] theorem dropBytes_zero (text : List Char) : dropBytes text 0 = some text := by
  cases text <;> rfl

theorem dropBytes_byteLength (start rest : List Char) :
    dropBytes (start ++ rest) (byteLength start) = some rest := by
  induction start with
  | nil => simp
  | cons c start ih =>
    have size : 0 < c.utf8Size := Char.utf8Size_pos c
    obtain ⟨n, total⟩ : ∃ n, byteLength (c :: start) = n + 1 :=
      ⟨byteLength (c :: start) - 1, by simp only [byteLength_cons]; omega⟩
    rw [total, List.cons_append, dropBytes]
    simp only [byteLength_cons] at total
    rw [if_pos (by omega), show n + 1 - c.utf8Size = byteLength start by omega, ih]

theorem dropBytes_eq_some_iff {text rest : List Char} {offset : Nat} :
    dropBytes text offset = some rest ↔
      ∃ start, text = start ++ rest ∧ byteLength start = offset := by
  constructor
  · intro found
    induction text generalizing offset with
    | nil =>
      cases offset with
      | zero => exact ⟨[], by simpa using found, rfl⟩
      | succ n => simp [dropBytes] at found
    | cons c text ih =>
      cases offset with
      | zero => exact ⟨[], by simpa using found, rfl⟩
      | succ n =>
        rw [dropBytes] at found
        split at found
        · obtain ⟨start, same, size⟩ := ih found
          exact ⟨c :: start, by simp [same], by simp [size]; omega⟩
        · simp at found
  · rintro ⟨start, rfl, rfl⟩
    exact dropBytes_byteLength start rest

/-- Dropping may be done in two goes. -/
theorem dropBytes_add {text rest : List Char} {offset : Nat}
    (found : dropBytes text offset = some rest) (more : Nat) :
    dropBytes text (offset + more) = dropBytes rest more := by
  obtain ⟨start, rfl, rfl⟩ := dropBytes_eq_some_iff.1 found
  clear found
  induction start with
  | nil => simp
  | cons c start ih =>
    have size : 0 < c.utf8Size := Char.utf8Size_pos c
    obtain ⟨n, total⟩ : ∃ n, byteLength (c :: start) + more = n + 1 :=
      ⟨byteLength (c :: start) + more - 1, by simp only [byteLength_cons]; omega⟩
    rw [total, List.cons_append, dropBytes]
    simp only [byteLength_cons] at total
    rw [if_pos (by omega), show n + 1 - c.utf8Size = byteLength start + more by omega, ih]

/-- An offset and what follows it make up the whole length. -/
theorem add_byteLength_of_dropBytes {text rest : List Char} {offset : Nat}
    (found : dropBytes text offset = some rest) : offset + byteLength rest = byteLength text := by
  obtain ⟨start, rfl, rfl⟩ := dropBytes_eq_some_iff.1 found
  simp

theorem byteLength_toList (text : String) : byteLength text.toList = text.utf8ByteSize := by
  have ofList : ∀ cs : List Char, (String.ofList cs).utf8ByteSize = byteLength cs := fun cs => by
    induction cs with
    | nil => rfl
    | cons c cs ih => simp [String.ofList_cons, ih]
  rw [← ofList, String.ofList_toList]

end InlineVariables.Text
