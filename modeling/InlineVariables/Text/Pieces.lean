/-!
Cutting text at a character or at a separator. Pieces are given as the first one and those that
follow, because cutting always gives at least one. `joinWith_pieces` and `not_mem_pieces` say that
cutting at a character loses nothing and leaves none of them.
-/

namespace InlineVariables.Text

/-- The text before and after the first `c`, nothing when `c` does not occur. -/
def cutAt? (c : Char) : List Char → Option (List Char × List Char)
  | [] => none
  | d :: rest =>
    if d = c then some ([], rest)
    else match cutAt? c rest with
      | some (before, after) => some (d :: before, after)
      | none => none

def pieces (c : Char) : List Char → List Char × List (List Char)
  | [] => ([], [])
  | d :: rest =>
    let (first, others) := pieces c rest
    if d = c then ([], first :: others) else (d :: first, others)

def joinWith (c : Char) (first : List Char) : List (List Char) → List Char
  | [] => first
  | next :: others => first ++ c :: joinWith c next others

/-- The text after `start`, when the text begins with it. -/
def after? : List Char → List Char → Option (List Char)
  | [], text => some text
  | _ :: _, [] => none
  | s :: start, c :: text => if s = c then after? start text else none

def piecesFrom (separator : List Char) : Nat → List Char → List Char × List (List Char)
  | _, [] => ([], [])
  | skip + 1, _ :: rest => piecesFrom separator skip rest
  | 0, c :: rest =>
    if (after? separator (c :: rest)).isSome then
      let (first, others) := piecesFrom separator (separator.length - 1) rest
      ([], first :: others)
    else
      let (first, others) := piecesFrom separator 0 rest
      (c :: first, others)

def piecesOn (separator text : List Char) : List Char × List (List Char) :=
  piecesFrom separator 0 text

theorem after?_eq_some_iff {start text rest : List Char} :
    after? start text = some rest ↔ text = start ++ rest := by
  induction start generalizing text with
  | nil => simp [after?]
  | cons s start ih =>
    cases text with
    | nil => simp [after?]
    | cons c text =>
      by_cases same : s = c
      · simp [after?, same, ih]
      · simp [after?, same, Ne.symm same]

theorem cutAt?_eq_some {c : Char} {text before after : List Char}
    (found : cutAt? c text = some (before, after)) : text = before ++ c :: after ∧ c ∉ before := by
  induction text generalizing before with
  | nil => simp [cutAt?] at found
  | cons d rest ih =>
    by_cases same : d = c
    · simp only [cutAt?, same, if_true, Option.some.injEq, Prod.mk.injEq] at found
      obtain ⟨rfl, rfl⟩ := found
      simp [same]
    · simp only [cutAt?, same, if_false] at found
      split at found
      · rename_i inner tail cut
        simp only [Option.some.injEq, Prod.mk.injEq] at found
        obtain ⟨rfl, rfl⟩ := found
        obtain ⟨whole, free⟩ := ih cut
        exact ⟨by rw [whole, List.cons_append], by simp [free, Ne.symm same]⟩
      · simp at found

theorem cutAt?_eq_none_iff {c : Char} {text : List Char} : cutAt? c text = none ↔ c ∉ text := by
  induction text with
  | nil => simp [cutAt?]
  | cons d rest ih =>
    by_cases same : d = c
    · simp [cutAt?, same]
    · have free : c ∉ rest ↔ c ∉ d :: rest := by simp [Ne.symm same]
      rw [← free, ← ih]
      simp only [cutAt?, same, if_false]
      cases cutAt? c rest <;> simp

theorem cutAt?_append {c : Char} {before : List Char} (free : c ∉ before) (after : List Char) :
    cutAt? c (before ++ c :: after) = some (before, after) := by
  induction before with
  | nil => simp [cutAt?]
  | cons d before ih =>
    rw [List.mem_cons, not_or] at free
    rw [List.cons_append, cutAt?, if_neg (Ne.symm free.1), ih free.2]

theorem joinWith_pieces (c : Char) (text : List Char) :
    joinWith c (pieces c text).1 (pieces c text).2 = text := by
  induction text with
  | nil => rfl
  | cons d rest ih =>
    by_cases same : d = c
    · simp [pieces, same, joinWith, ih]
    · cases others : (pieces c rest).2 with
      | nil =>
        rw [others] at ih
        simp only [joinWith] at ih
        simp [pieces, same, others, joinWith, ih]
      | cons next more =>
        rw [others] at ih
        simp only [joinWith] at ih
        simp [pieces, same, others, joinWith, ih]

theorem not_mem_pieces (c : Char) (text : List Char) :
    c ∉ (pieces c text).1 ∧ ∀ piece ∈ (pieces c text).2, c ∉ piece := by
  induction text with
  | nil => simp [pieces]
  | cons d rest ih =>
    obtain ⟨first, others⟩ := ih
    by_cases same : d = c
    · simp only [pieces, same, if_true]
      exact ⟨by simp, by simpa using ⟨first, others⟩⟩
    · simp only [pieces, same, if_false]
      exact ⟨by simp [Ne.symm same, first], others⟩

theorem pieces_of_not_mem {c : Char} {text : List Char} (free : c ∉ text) :
    pieces c text = (text, []) := by
  induction text with
  | nil => rfl
  | cons d rest ih =>
    rw [List.mem_cons, not_or] at free
    rw [pieces, ih free.2]
    exact if_neg (Ne.symm free.1)

theorem pieces_append {c : Char} {piece : List Char} (free : c ∉ piece) (rest : List Char) :
    pieces c (piece ++ c :: rest) = (piece, (pieces c rest).1 :: (pieces c rest).2) := by
  induction piece with
  | nil => simp [pieces]
  | cons d piece ih =>
    rw [List.mem_cons, not_or] at free
    rw [List.cons_append, pieces, ih free.2]
    exact if_neg (Ne.symm free.1)

/-- Every `c` ends a piece, and what is left is one piece more. -/
theorem length_pieces (c : Char) (text : List Char) : (pieces c text).2.length = text.count c := by
  induction text with
  | nil => rfl
  | cons d rest ih =>
    by_cases same : d = c
    · simp [pieces, same, ih]
    · simp [pieces, same, List.count_cons_of_ne, ih]

theorem joinWith_eq_intercalate (c : Char) (first : List Char) (others : List (List Char)) :
    joinWith c first others = [c].intercalate (first :: others) := by
  induction others generalizing first with
  | nil => rw [joinWith, List.intercalate_singleton]
  | cons next others ih =>
    rw [joinWith, ih, List.intercalate_cons_cons, List.append_assoc, List.singleton_append]

/-- Cutting gives back the pieces that were joined, when none has the character. -/
theorem pieces_joinWith {c : Char} {first : List Char} {others : List (List Char)}
    (free : c ∉ first) (others_free : ∀ piece ∈ others, c ∉ piece) :
    pieces c (joinWith c first others) = (first, others) := by
  induction others generalizing first with
  | nil => exact pieces_of_not_mem free
  | cons next others ih =>
    obtain ⟨next_free, others_free⟩ := List.forall_mem_cons.1 others_free
    rw [joinWith, pieces_append free, ih next_free others_free]

theorem after?_eq_none_of_not_mem {separator : List Char} (some_char : separator ≠ []) {c : Char}
    (free : c ∉ separator) (rest : List Char) : after? separator (c :: rest) = none := by
  cases separator with
  | nil => exact absurd rfl some_char
  | cons s separator =>
    rw [after?, if_neg]
    rintro rfl
    exact free List.mem_cons_self

theorem piecesFrom_append (separator skipped rest : List Char) :
    piecesFrom separator skipped.length (skipped ++ rest) = piecesOn separator rest := by
  induction skipped with
  | nil => rfl
  | cons c skipped ih =>
    rw [List.length_cons, List.cons_append, piecesFrom]
    exact ih

theorem piecesOn_separator {separator : List Char} (some_char : separator ≠ []) (rest : List Char) :
    piecesOn separator (separator ++ rest) =
      ([], (piecesOn separator rest).1 :: (piecesOn separator rest).2) := by
  cases separator with
  | nil => exact absurd rfl some_char
  | cons s separator =>
    have here : after? (s :: separator) (s :: (separator ++ rest)) = some rest :=
      after?_eq_some_iff.2 rfl
    have skip := piecesFrom_append (s :: separator) separator rest
    rw [piecesOn, List.cons_append, piecesFrom, here, Option.isSome_some, if_pos rfl,
      List.length_cons, Nat.add_sub_cancel, skip]

theorem piecesOn_append {separator : List Char} (some_char : separator ≠ []) {piece : List Char}
    (free : ∀ c ∈ piece, c ∉ separator) (rest : List Char) :
    piecesOn separator (piece ++ rest) =
      (piece ++ (piecesOn separator rest).1, (piecesOn separator rest).2) := by
  induction piece with
  | nil => rfl
  | cons c piece ih =>
    obtain ⟨here, others⟩ := List.forall_mem_cons.1 free
    have outside := after?_eq_none_of_not_mem some_char here (piece ++ rest)
    have tail := ih others
    unfold piecesOn at tail ⊢
    rw [List.cons_append, piecesFrom, outside, tail]
    rfl

/-- Cutting gives back the pieces that were joined, when none has a character of the separator. -/
theorem piecesOn_join {separator : List Char} (some_char : separator ≠ []) {first : List Char}
    {others : List (List Char)} (free : ∀ piece ∈ first :: others, ∀ c ∈ piece, c ∉ separator) :
    piecesOn separator (first ++ others.flatMap (separator ++ ·)) = (first, others) := by
  induction others generalizing first with
  | nil =>
    obtain ⟨here, _⟩ := List.forall_mem_cons.1 free
    rw [List.flatMap_nil, piecesOn_append some_char here]
    simp [piecesOn, piecesFrom]
  | cons next others ih =>
    obtain ⟨here, there⟩ := List.forall_mem_cons.1 free
    rw [piecesOn_append some_char here, List.flatMap_cons, List.append_assoc,
      piecesOn_separator some_char, ih there, List.append_nil]

end InlineVariables.Text
