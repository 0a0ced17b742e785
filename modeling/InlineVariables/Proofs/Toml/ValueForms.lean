import InlineVariables.Proofs.Toml.NumberForms
import InlineVariables.Proofs.Toml.StringForms
import InlineVariables.Proofs.Toml.UniqueKeys
import InlineVariables.Toml.ValueText

/-!
Nested values are read back from their written forms: `readNested_write`, by induction on the room that the
reader has. Left out are floats and datetimes (`Value.Exact`).
-/

namespace InlineVariables.Toml

open StringText (writeKey isBareKeyChar)

mutual

/-- Strings, truth values, integers of 64 bits, and arrays and tables of such. -/
def Value.Exact : Value → Prop
  | .string _ => True
  | .boolean _ => True
  | .integer n => isInt64 n = true
  | .float _ => False
  | .datetime _ => False
  | .array items => Value.AllExact items
  | .table entries => Table.Exact entries

def Value.AllExact : List Value → Prop
  | [] => True
  | item :: items => item.Exact ∧ Value.AllExact items

def Table.Exact : List (String × Value) → Prop
  | [] => True
  | (_, value) :: rest => value.Exact ∧ Table.Exact rest

end

mutual

/-- How many arrays and tables lie inside one another. -/
def Value.depth : Value → Nat
  | .array items => Value.itemsDepth items + 1
  | .table entries => Table.depth entries + 1
  | _ => 0

def Value.itemsDepth : List Value → Nat
  | [] => 0
  | item :: items => max item.depth (Value.itemsDepth items)

def Table.depth : List (String × Value) → Nat
  | [] => 0
  | (_, value) :: rest => max value.depth (Table.depth rest)

end

variable {c : Char} {text rest : List Char} {value : Value} {items : List Value}
  {entries : List (String × Value)} {room : Nat}

theorem Value.allExact_iff : Value.AllExact items ↔ ∀ item ∈ items, item.Exact := by
  induction items with
  | nil => simp [Value.AllExact]
  | cons item items ih => rw [Value.AllExact, ih, List.forall_mem_cons]

theorem Table.exact_iff : Table.Exact entries ↔ ∀ entry ∈ entries, entry.2.Exact := by
  induction entries with
  | nil => simp [Table.Exact]
  | cons entry rest ih =>
    obtain ⟨key, value⟩ := entry
    rw [Table.Exact, ih, List.forall_mem_cons]

theorem Value.allDistinct_iff : Value.AllDistinct items ↔ ∀ item ∈ items, item.Distinct := by
  induction items with
  | nil => simp [Value.AllDistinct]
  | cons item items ih => rw [Value.AllDistinct, ih, List.forall_mem_cons]

theorem Value.itemsDepth_le_iff :
    Value.itemsDepth items ≤ room ↔ ∀ item ∈ items, item.depth ≤ room := by
  induction items with
  | nil => simp [Value.itemsDepth]
  | cons item items ih => rw [Value.itemsDepth, Nat.max_le, ih, List.forall_mem_cons]

theorem Table.depth_le_iff :
    Table.depth entries ≤ room ↔ ∀ entry ∈ entries, entry.2.depth ≤ room := by
  induction entries with
  | nil => simp [Table.depth]
  | cons entry rest ih =>
    obtain ⟨key, value⟩ := entry
    rw [Table.depth, Nat.max_le, ih, List.forall_mem_cons]

/-- A value that a reader with this much room gives back. -/
structure Value.Fits (room : Nat) (value : Value) : Prop where
  exact : value.Exact
  unique : value.Distinct
  shallow : value.depth ≤ room

theorem Value.Fits.of_item (fits : Value.Fits (room + 1) (.array items)) :
    ∀ item ∈ items, item.Fits room := by
  have shallow := itemsDepth_le_iff.1 (Nat.le_of_succ_le_succ fits.shallow)
  intro item member
  exact ⟨allExact_iff.1 fits.exact item member, allDistinct_iff.1 fits.unique item member,
    shallow item member⟩

theorem Value.Fits.of_entry (fits : Value.Fits (room + 1) (.table entries)) :
    ∀ entry ∈ entries, entry.2.Fits room := by
  have shallow := Table.depth_le_iff.1 (Nat.le_of_succ_le_succ fits.shallow)
  intro entry member
  exact ⟨Table.exact_iff.1 fits.exact entry member,
    Table.valuesDistinct_iff.1 fits.unique.2 entry member, shallow entry member⟩

/-! ### First signs -/

/-- The signs that begin a blank, an end of line or a comment. -/
def triviaStarts : List Char :=
  [' ', '\t', '\n', '\r', '#']

theorem dropTrivia?_of_solid (solid : c ∉ triviaStarts) (rest : List Char) :
    dropTrivia? false (c :: rest) = some (c :: rest) := by
  simp only [triviaStarts, List.mem_cons, List.not_mem_nil, or_false, not_or] at solid
  obtain ⟨blank, tab, line, return_sign, comment⟩ := solid
  unfold dropTrivia?
  split
  · simp_all
  · simp_all
  · simp_all [isBlank]

theorem dropBlanks_of_solid (solid : c ∉ triviaStarts) (rest : List Char) :
    dropBlanks (c :: rest) = c :: rest := by
  simp only [triviaStarts, List.mem_cons, List.not_mem_nil, or_false, not_or] at solid
  simp [dropBlanks, isBlank, solid]

/-- The signs other than digits that a written value begins with. -/
def valueStarts : List Char :=
  ['"', '\'', '[', '{', '-', 't', 'f']

/-- The text begins as a value does. -/
def OpensValue (text : List Char) : Prop :=
  ∃ c tail, text = c :: tail ∧ (c ∈ valueStarts ∨ c.isDigit = true)

theorem OpensValue.append (opens : OpensValue text) (rest : List Char) :
    OpensValue (text ++ rest) := by
  obtain ⟨c, tail, rfl, first⟩ := opens
  exact ⟨c, tail ++ rest, rfl, first⟩

theorem OpensValue.solid (opens : OpensValue text) :
    ∃ c tail, text = c :: tail ∧ c ∉ triviaStarts ∧ c ≠ ']' := by
  obtain ⟨c, tail, rfl, first⟩ := opens
  have sign : c ∉ ']' :: triviaStarts := by
    rcases first with first | digit
    · have apart : valueStarts.all (· ∉ ']' :: triviaStarts) = true := by decide
      simpa using List.all_eq_true.1 apart c first
    · exact not_mem_of_all digit (by decide)
  obtain ⟨other, solid⟩ := not_or.1 (mt List.mem_cons.2 sign)
  exact ⟨c, tail, rfl, solid, other⟩

theorem opensValue_write (exact : value.Exact) : OpensValue value.write := by
  cases value with
  | string text =>
    obtain ⟨c, tail, shape, first⟩ := StringText.exists_write_eq_cons text.toList
    refine ⟨c, tail, shape, .inl ?_⟩
    rcases first with rfl | rfl
    · decide
    · decide
  | boolean b =>
    cases b
    · exact ⟨'f', _, rfl, by decide⟩
    · exact ⟨'t', _, rfl, by decide⟩
  | integer n =>
    obtain ⟨c, tail, shape, first⟩ := exists_signedDigits_eq_cons n
    refine ⟨c, tail, shape, ?_⟩
    rcases first with rfl | digit
    · decide
    · exact .inr digit
  | float => exact exact.elim
  | datetime => exact exact.elim
  | array items => exact ⟨'[', _, rfl, by decide⟩
  | table entries =>
    cases entries with
    | nil => exact ⟨'{', _, rfl, by decide⟩
    | cons entry entries => exact ⟨'{', _, rfl, by decide⟩

/-- The reader gives the value back from its written form, whatever may stand behind that. -/
def Reader.GivesBack (item : Reader Value) (value : Value) : Prop :=
  ∀ rest, FollowsValue rest → item (value.write ++ rest) = some (value, rest)

/-! ### Arrays -/

section Items

variable {item : Reader Value}

theorem readItems_end (start : dropTrivia? false text = some (']' :: rest)) :
    readItems item text = some ([], rest) := by
  rw [readItems, start]
  rfl

theorem readItems_last (start : dropTrivia? false text = some (value.write ++ ']' :: rest))
    (exact : value.Exact) (gives_back : item.GivesBack value) :
    readItems item text = some ([value], rest) := by
  have read := gives_back (']' :: rest) (followsValue_cons_iff.2 (by decide))
  have behind := dropTrivia?_of_solid (c := ']') (by decide) rest
  obtain ⟨c, tail, shape, _, other⟩ := ((opensValue_write exact).append (']' :: rest)).solid
  rw [shape] at start read
  rw [readItems, start]
  split
  · rename_i missing
    cases missing
  · rename_i closed
    cases closed
    exact absurd rfl other
  · rename_i same
    cases same
    rw [read]
    dsimp only
    rw [behind]
    rfl

theorem readItems_step {more : List Char} {values : List Value}
    (start : dropTrivia? false text = some (value.write ++ ',' :: more)) (exact : value.Exact)
    (gives_back : item.GivesBack value) (later : readItems item more = some (values, rest)) :
    readItems item text = some (value :: values, rest) := by
  have read := gives_back (',' :: more) (followsValue_cons_iff.2 (by decide))
  have behind := dropTrivia?_of_solid (c := ',') (by decide) more
  have shorter : more.length < text.length := by
    have := dropTrivia?_length_le start
    simp only [List.length_append, List.length_cons] at this
    omega
  obtain ⟨c, tail, shape, _, other⟩ := ((opensValue_write exact).append (',' :: more)).solid
  rw [shape] at start read
  rw [readItems, start]
  split
  · rename_i missing
    cases missing
  · rename_i closed
    cases closed
    exact absurd rfl other
  · rename_i same
    cases same
    rw [read]
    dsimp only
    rw [behind]
    show (if more.length < text.length then _ else none) = _
    rw [if_pos shorter, later]
    rfl

theorem opensValue_writeItems (exact : ∀ item ∈ items, item.Exact) (some_item : items ≠ []) :
    OpensValue (Value.writeItems items) := by
  match items, some_item with
  | [value], _ =>
    rw [Value.writeItems]
    exact opensValue_write (exact value List.mem_cons_self)
  | value :: next :: items, _ =>
    rw [Value.writeItems]
    exact (opensValue_write (exact value List.mem_cons_self)).append _

theorem dropTrivia?_writeItems (exact : ∀ item ∈ items, item.Exact) (rest : List Char) :
    dropTrivia? false (Value.writeItems items ++ ']' :: rest) =
      some (Value.writeItems items ++ ']' :: rest) := by
  by_cases empty : items = []
  · subst items
    rfl
  · obtain ⟨c, tail, shape, solid, _⟩ :=
      ((opensValue_writeItems exact empty).append (']' :: rest)).solid
    rw [shape]
    exact dropTrivia?_of_solid solid tail

theorem readItems_writeItems (exact : ∀ value ∈ items, value.Exact)
    (gives_back : ∀ value ∈ items, item.GivesBack value)
    (start : dropTrivia? false text = some (Value.writeItems items ++ ']' :: rest)) :
    readItems item text = some (items, rest) := by
  induction items generalizing text with
  | nil => exact readItems_end start
  | cons value items ih =>
    obtain ⟨first_exact, others_exact⟩ := List.forall_mem_cons.1 exact
    obtain ⟨first, others⟩ := List.forall_mem_cons.1 gives_back
    cases items with
    | nil => exact readItems_last start first_exact first
    | cons next items =>
      have behind : dropTrivia? false (' ' :: (Value.writeItems (next :: items) ++ ']' :: rest)) =
          some (Value.writeItems (next :: items) ++ ']' :: rest) :=
        dropTrivia?_writeItems others_exact rest
      rw [Value.writeItems, List.append_assoc] at start
      exact readItems_step start first_exact first (ih others_exact others behind)

end Items

/-! ### Entries -/

theorem exists_writeKey_eq_cons (key : List Char) :
    ∃ c tail, writeKey key = c :: tail ∧ (c = '"' ∨ c = '\'' ∨ isBareKeyChar c = true) := by
  unfold writeKey
  split
  · rename_i bare
    cases key with
    | nil => simp at bare
    | cons c key =>
      simp only [List.all_cons, Bool.and_eq_true] at bare
      exact ⟨c, key, rfl, .inr (.inr bare.2.1)⟩
  split
  · exact ⟨'"', _, rfl, .inl rfl⟩
  split
  · exact ⟨'\'', _, rfl, .inr (.inl rfl)⟩
  · exact ⟨'"', _, rfl, .inl rfl⟩

/-- The text of an entry: a key, an equals sign between blanks, and the text of its value. -/
def entryText (key : String) (written : List Char) : List Char :=
  writeKey key.toList ++ ' ' :: '=' :: ' ' :: written

/-- An entry begins with no sign that means anything in front of a key. -/
theorem exists_entryText_eq_cons (key : String) (written : List Char) :
    ∃ c tail, entryText key written = c :: tail ∧ c ∉ triviaStarts ∧ c ≠ '[' ∧ c ≠ '}' ∧
      c ≠ '\ufeff' := by
  obtain ⟨c, tail, shape, first⟩ := exists_writeKey_eq_cons key.toList
  refine ⟨c, tail ++ ' ' :: '=' :: ' ' :: written, by rw [entryText, shape]; rfl, ?_⟩
  rcases first with rfl | rfl | bare
  · decide
  · decide
  · have sign : c ∉ '[' :: '}' :: '\ufeff' :: triviaStarts := not_mem_of_all bare (by decide)
    simp only [List.mem_cons, not_or] at sign
    obtain ⟨bracket, brace, mark, solid⟩ := sign
    exact ⟨solid, bracket, brace, mark⟩

theorem readKeyPath_entryText {key : String} {written : List Char}
    (start : dropBlanks text = entryText key written) :
    readKeyPath text = some (⟨[], key⟩, '=' :: ' ' :: written) := by
  have read : readKey (dropBlanks text) = some (key, ' ' :: '=' :: ' ' :: written) := by
    rw [start, entryText, readKey_writeKey key.toList (by simp; decide), String.ofList_toList]
  have dotted : readDottedKey text = some (⟨[], key⟩, '=' :: ' ' :: written) := by
    rw [readDottedKey, read]
    rfl
  rw [readKeyPath, dotted]
  rfl

section Entries

variable {item : Reader Value} {key : String}

theorem readEntry_entryText (start : dropBlanks text = entryText key (value.write ++ rest))
    (exact : value.Exact) (gives_back : item.GivesBack value) (follows : FollowsValue rest) :
    readEntry item text = some ((⟨[], key⟩, value), dropBlanks rest) := by
  have behind : dropBlanks (' ' :: (value.write ++ rest)) = value.write ++ rest := by
    obtain ⟨c, tail, shape, solid, _⟩ := ((opensValue_write exact).append rest).solid
    rw [shape]
    exact dropBlanks_of_solid solid tail
  rw [readEntry, readKeyPath_entryText start]
  show (item (dropBlanks (' ' :: (value.write ++ rest)))).map _ = _
  rw [behind, gives_back rest follows]
  rfl

theorem readEntries_last (start : dropBlanks text = entryText key (value.write ++ ' ' :: '}' :: rest))
    (exact : value.Exact) (gives_back : item.GivesBack value) :
    readEntries item text = some ([(⟨[], key⟩, value)], rest) := by
  have first := readEntry_entryText start exact gives_back (followsValue_cons_iff.2 (by decide))
  have behind : dropBlanks (' ' :: '}' :: rest) = '}' :: rest := rfl
  rw [readEntries, first, behind]
  rfl

theorem readEntries_step {more : List Char} {others : List (KeyPath × Value)}
    (start : dropBlanks text = entryText key (value.write ++ ',' :: more))
    (exact : value.Exact) (gives_back : item.GivesBack value)
    (later : readEntries item more = some (others, rest)) :
    readEntries item text = some ((⟨[], key⟩, value) :: others, rest) := by
  have first := readEntry_entryText start exact gives_back (followsValue_cons_iff.2 (by decide))
  have behind : dropBlanks (',' :: more) = ',' :: more := rfl
  have shorter : more.length < text.length := by
    have := dropBlanks_length_le text
    rw [start] at this
    simp only [entryText, List.length_append, List.length_cons] at this
    omega
  rw [readEntries, first, behind]
  show (if more.length < text.length then _ else none) = _
  rw [if_pos shorter, later]
  rfl

def entryOf (entry : String × Value) : KeyPath × Value :=
  (⟨[], entry.1⟩, entry.2)

theorem writeEntries_last (key : String) (value : Value) :
    Value.writeEntries [(key, value)] = entryText key value.write := by
  simp [Value.writeEntries, entryText]

theorem writeEntries_step (key : String) (value : Value) (next : String × Value)
    (entries : List (String × Value)) :
    Value.writeEntries ((key, value) :: next :: entries) =
      entryText key (value.write ++ ',' :: ' ' :: Value.writeEntries (next :: entries)) := by
  simp [Value.writeEntries, entryText]

theorem entryText_append (key : String) (written rest : List Char) :
    entryText key written ++ rest = entryText key (written ++ rest) := by
  simp [entryText]

theorem exists_writeEntries_eq_cons (some_entry : entries ≠ []) (rest : List Char) :
    ∃ c tail, Value.writeEntries entries ++ rest = c :: tail ∧ c ≠ '}' ∧ c ∉ triviaStarts := by
  have opened : ∃ key written, Value.writeEntries entries = entryText key written := by
    match entries, some_entry with
    | [(key, value)], _ => exact ⟨key, _, writeEntries_last key value⟩
    | (key, value) :: next :: others, _ => exact ⟨key, _, writeEntries_step key value next others⟩
  obtain ⟨key, written, shape⟩ := opened
  obtain ⟨c, tail, first, solid, _, brace, _⟩ := exists_entryText_eq_cons key (written ++ rest)
  rw [shape, entryText_append, first]
  exact ⟨c, tail, rfl, brace, solid⟩

theorem dropBlanks_writeEntries (some_entry : entries ≠ []) (rest : List Char) :
    dropBlanks (' ' :: (Value.writeEntries entries ++ rest)) = Value.writeEntries entries ++ rest := by
  obtain ⟨c, tail, shape, _, solid⟩ := exists_writeEntries_eq_cons some_entry rest
  rw [shape]
  exact dropBlanks_of_solid solid tail

theorem readEntries_writeEntries (some_entry : entries ≠ [])
    (exact : ∀ entry ∈ entries, entry.2.Exact)
    (gives_back : ∀ entry ∈ entries, item.GivesBack entry.2)
    (start : dropBlanks text = Value.writeEntries entries ++ ' ' :: '}' :: rest) :
    readEntries item text = some (entries.map entryOf, rest) := by
  induction entries generalizing text with
  | nil => exact absurd rfl some_entry
  | cons entry entries ih =>
    obtain ⟨key, value⟩ := entry
    obtain ⟨first_exact, others_exact⟩ := List.forall_mem_cons.1 exact
    obtain ⟨first, others⟩ := List.forall_mem_cons.1 gives_back
    cases entries with
    | nil =>
      rw [writeEntries_last, entryText_append] at start
      exact readEntries_last start first_exact first
    | cons next entries =>
      have more : next :: entries ≠ [] := List.cons_ne_nil next entries
      have behind := dropBlanks_writeEntries more (' ' :: '}' :: rest)
      rw [writeEntries_step, entryText_append, List.append_assoc] at start
      exact readEntries_step start first_exact first (ih more others_exact others behind)

end Entries

/-! ### Tables -/

namespace OpenTable

theorem addEntry_new {t : OpenTable} {key : String} (new : key ∉ Assoc.keys t) (value : Value) :
    t.addEntry ⟨[], key⟩ value = some (t ++ [(key, .closed value)]) := by
  have absent : Assoc.contains t key = false := by
    rw [← Bool.not_eq_true, Assoc.contains_iff]
    exact new
  simp [addEntry, alter, absent, Assoc.insert_of_not_contains]

theorem addEntries_new {t : OpenTable} (unique : (Assoc.keys t ++ entries.map (·.1)).Nodup) :
    t.addEntries (entries.map entryOf) =
      some (t ++ entries.map fun entry => (entry.1, .closed entry.2)) := by
  induction entries generalizing t with
  | nil => simp [addEntries]
  | cons entry entries ih =>
    obtain ⟨key, value⟩ := entry
    have new : key ∉ Assoc.keys t := fun there =>
      (List.nodup_append.1 unique).2.2 key there key List.mem_cons_self rfl
    have others : (Assoc.keys (t ++ [(key, OpenNode.closed value)]) ++ entries.map (·.1)).Nodup := by
      simpa [Assoc.keys] using unique
    rw [List.map_cons, entryOf, addEntries, addEntry_new new]
    dsimp only
    rw [ih others]
    simp

theorem close_closed (entries : List (String × Value)) :
    close (entries.map fun entry => (entry.1, .closed entry.2)) = entries := by
  induction entries with
  | nil => rfl
  | cons entry entries ih => rw [List.map_cons, close, ih, OpenNode.close]

end OpenTable

theorem readInlineTable_writeEntries {item : Reader Value} (some_entry : entries ≠ [])
    (unique : (entries.map (·.1)).Nodup) (exact : ∀ entry ∈ entries, entry.2.Exact)
    (gives_back : ∀ entry ∈ entries, item.GivesBack entry.2) (rest : List Char) :
    readInlineTable item (' ' :: (Value.writeEntries entries ++ ' ' :: '}' :: rest)) =
      some (.table entries, rest) := by
  obtain ⟨c, tail, shape, other, _⟩ := exists_writeEntries_eq_cons some_entry (' ' :: '}' :: rest)
  have start := dropBlanks_writeEntries some_entry (' ' :: '}' :: rest)
  have read := readEntries_writeEntries some_entry exact gives_back start
  have added : OpenTable.addEntries [] (entries.map entryOf) =
      some (entries.map fun entry => (entry.1, .closed entry.2)) :=
    OpenTable.addEntries_new unique
  rw [readInlineTable, start, shape]
  split
  · rename_i closed
    cases closed
    exact absurd rfl other
  · rw [← shape, read]
    dsimp only
    rw [added, Option.map_some, OpenTable.close_closed]

/-! ### Values -/

section Values

variable {inner? : Option (Reader Value)} {inner : Reader Value}

theorem readValueWith_string (text : String) :
    Reader.GivesBack (readValueWith inner?) (.string text) := by
  intro rest follows
  have read := StringText.read_write text.toList (follows.head?_ne (by decide))
    (follows.head?_ne (by decide))
  obtain ⟨c, tail, shape, quoted⟩ := StringText.exists_write_eq_cons text.toList
  rw [shape, List.cons_append] at read
  rw [Value.write, shape, List.cons_append]
  unfold readValueWith
  dsimp only
  rw [if_pos quoted, read, Option.map_some, String.ofList_toList]

theorem readValueWith_boolean (b : Bool) :
    Reader.GivesBack (readValueWith inner?) (.boolean b) := by
  intro rest follows
  cases b <;> rfl

theorem readValueWith_integer {n : Int} (fits : isInt64 n = true) :
    Reader.GivesBack (readValueWith inner?) (.integer n) := by
  intro rest follows
  have number := readNumber_signedDigits fits follows
  have boolean := readBoolean_signedDigits n rest
  obtain ⟨c, tail, shape, first⟩ := exists_signedDigits_eq_cons n
  have sign : c ∉ ['"', '\'', '[', '{'] := by
    rcases first with rfl | digit
    · decide
    · exact not_mem_of_all digit (by decide)
  simp only [List.mem_cons, List.not_mem_nil, or_false, not_or] at sign
  obtain ⟨basic, literal, bracket, brace⟩ := sign
  rw [shape, List.cons_append] at number boolean
  rw [Value.write, shape, List.cons_append]
  unfold readValueWith
  dsimp only
  rw [if_neg (not_or.2 ⟨basic, literal⟩), if_neg bracket, if_neg brace, boolean]
  exact number

theorem readValueWith_array (exact : ∀ item ∈ items, item.Exact)
    (gives_back : ∀ item ∈ items, inner.GivesBack item) :
    Reader.GivesBack (readValueWith (some inner)) (.array items) := by
  intro rest _
  have read := readItems_writeItems exact gives_back (dropTrivia?_writeItems exact rest)
  have written : (Value.array items).write ++ rest =
      '[' :: (Value.writeItems items ++ ']' :: rest) := by
    simp [Value.write]
  rw [written]
  unfold readValueWith
  dsimp only
  rw [if_neg (by decide), if_pos rfl, read]
  rfl

theorem readValueWith_table (unique : (entries.map (·.1)).Nodup)
    (exact : ∀ entry ∈ entries, entry.2.Exact)
    (gives_back : ∀ entry ∈ entries, inner.GivesBack entry.2) :
    Reader.GivesBack (readValueWith (some inner)) (.table entries) := by
  intro rest _
  cases entries with
  | nil => rfl
  | cons entry entries =>
    have read := readInlineTable_writeEntries (List.cons_ne_nil entry entries) unique exact gives_back rest
    have written : (Value.table (entry :: entries)).write ++ rest =
        '{' :: ' ' :: (Value.writeEntries (entry :: entries) ++ ' ' :: '}' :: rest) := by
      simp [Value.write]
    rw [written]
    unfold readValueWith
    dsimp only
    rw [if_neg (by decide), if_neg (by decide), if_pos rfl, read]

theorem readValueWith_leaf (exact : value.Exact) (leaf : value.depth = 0) :
    Reader.GivesBack (readValueWith inner?) value := by
  cases value with
  | string text => exact readValueWith_string text
  | boolean b => exact readValueWith_boolean b
  | integer n => exact readValueWith_integer exact
  | float => exact exact.elim
  | datetime => exact exact.elim
  | array items => exact absurd leaf (Nat.succ_ne_zero _)
  | table entries => exact absurd leaf (Nat.succ_ne_zero _)

/-- Every value that fits is read back. -/
theorem readNested_write (fits : value.Fits room) : (readNested room).GivesBack value := by
  -- on the room and not on the value: what reads the members is the reader with one level less
  induction room generalizing value with
  | zero => exact readValueWith_leaf fits.exact (Nat.le_zero.1 fits.shallow)
  | succ room ih =>
    cases value with
    | array items =>
      have inside := fits.of_item
      exact readValueWith_array (fun item member => (inside item member).exact)
        (fun item member => ih (inside item member))
    | table entries =>
      have inside := fits.of_entry
      exact readValueWith_table fits.unique.1 (fun entry member => (inside entry member).exact)
        (fun entry member => ih (inside entry member))
    | _ => exact readValueWith_leaf fits.exact rfl

end Values

end InlineVariables.Toml
