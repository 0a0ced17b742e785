/-!
Blanks, ends of lines and comments.
-/

namespace InlineVariables.Toml

/-- The characters that may stand in a line: no control character but tab. -/
def isLineChar (c : Char) : Bool :=
  c == '\t' || (0x20 ≤ c.toNat && c.toNat != 0x7F)

def isBlank (c : Char) : Bool :=
  c == ' ' || c == '\t'

def dropBlanks (text : List Char) : List Char :=
  text.dropWhile isBlank

/-- The text after an end of line, with or without a carriage return. -/
def newline? : List Char → Option (List Char)
  | '\n' :: rest => some rest
  | '\r' :: '\n' :: rest => some rest
  | _ => none

def dropBlankLines : List Char → List Char
  | '\r' :: '\n' :: rest => dropBlankLines rest
  | c :: rest => if isBlank c || c == '\n' then dropBlankLines rest else c :: rest
  | [] => []

/-- The text without blanks, ends of lines and comments at its beginning; `comment` tells whether it
begins inside a comment. Nothing when a comment holds a control character or has no end. -/
def dropTrivia? (comment : Bool) : List Char → Option (List Char)
  | [] => if comment then none else some []
  | '\r' :: '\n' :: rest => dropTrivia? false rest
  | c :: rest =>
    if c == '\n' then dropTrivia? false rest
    else if comment then (if isLineChar c then dropTrivia? true rest else none)
    else if isBlank c then dropTrivia? false rest
    else if c == '#' then dropTrivia? true rest
    else some (c :: rest)

/-- The text after the rest of a line, where only blanks and a comment may stand. -/
def lineEnd? (text : List Char) : Option (List Char) :=
  let text := dropBlanks text
  let text :=
    match text with
    | '#' :: comment => comment.dropWhile isLineChar
    | _ => text
  match text with
  | [] => some []
  | _ => newline? text

theorem dropWhile_length_le (p : Char → Bool) (text : List Char) :
    (text.dropWhile p).length ≤ text.length :=
  (List.dropWhile_suffix p).length_le

theorem dropBlanks_length_le (text : List Char) : (dropBlanks text).length ≤ text.length :=
  dropWhile_length_le isBlank text

theorem newline?_length_lt {text rest : List Char} (found : newline? text = some rest) :
    rest.length < text.length := by
  unfold newline? at found
  split at found <;> cases found <;> simp only [List.length_cons] <;> omega

theorem dropBlankLines_length_le (text : List Char) :
    (dropBlankLines text).length ≤ text.length := by
  fun_induction dropBlankLines text with
  | case1 rest ih => simp; omega
  | case2 c rest _ _ ih => simp; omega
  | case3 => simp
  | case4 => simp

theorem dropTrivia?_length_le {comment : Bool} {text rest : List Char}
    (found : dropTrivia? comment text = some rest) : rest.length ≤ text.length := by
  fun_induction dropTrivia? comment text generalizing rest with
  | case1 => cases found
  | case2 => cases found; simp
  | case3 _ tail ih => have := ih found; simp; omega
  | case4 _ c tail _ _ ih => have := ih found; simp; omega
  | case5 c tail _ _ _ ih => have := ih found; simp; omega
  | case6 => cases found
  | case7 _ c tail _ _ _ _ ih => have := ih found; simp; omega
  | case8 _ c tail _ _ _ _ _ ih => have := ih found; simp; omega
  | case9 => cases found; simp

theorem lineEnd?_length_le {text rest : List Char} (found : lineEnd? text = some rest) :
    rest.length ≤ text.length := by
  have blanks := dropBlanks_length_le text
  unfold lineEnd? at found
  simp only at found
  split at found
  · cases found; simp
  · have shorter := newline?_length_lt found
    split at shorter
    · rename_i comment same
      have tail := dropWhile_length_le isLineChar comment
      rw [same] at blanks
      simp at blanks
      omega
    · omega

end InlineVariables.Toml
