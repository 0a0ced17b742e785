import InlineVariables.Proofs.Lexicon.Handler
import InlineVariables.Proofs.Options.DirectReading
import InlineVariables.Proofs.Toml.ValueForms

/-!
A table without floats and datetimes, written with one entry a line, is read back as it is
(`readDocument_linesText`). So the text of a field loses nothing: as the value of a key it is read as the
value that it was made of (`Record.field_read_back`). A text field is no such value, for it is kept without
quotes.
-/

namespace InlineVariables.Toml

open StringText (writeKey)

mutual

theorem Value.timeless_of_exact : ∀ value : Value, value.Exact → value.Timeless
  | .array items, exact => Value.allTimeless_of_exact items exact
  | .table entries, exact => Table.timeless_of_exact entries exact
  | .float _, exact => exact.elim
  | .datetime _, exact => exact.elim
  | .string _, _ => trivial
  | .integer _, _ => trivial
  | .boolean _, _ => trivial

theorem Value.allTimeless_of_exact : ∀ items : List Value, Value.AllExact items →
    Value.AllTimeless items
  | [], _ => trivial
  | item :: items, ⟨first, others⟩ =>
    ⟨Value.timeless_of_exact item first, Value.allTimeless_of_exact items others⟩

theorem Table.timeless_of_exact : ∀ entries : List (String × Value), Table.Exact entries →
    Table.Timeless entries
  | [], _ => trivial
  | (_, value) :: rest, ⟨first, others⟩ =>
    ⟨Value.timeless_of_exact value first, Table.timeless_of_exact rest others⟩

end

variable {c : Char} {key : String} {value : Value} {rest more : List Char} {entries : Table}

theorem lineEnd?_of_solid (solid : c ∉ triviaStarts) (rest : List Char) :
    lineEnd? (c :: rest) = none := by
  have blanks := dropBlanks_of_solid solid rest
  simp only [triviaStarts, List.mem_cons, List.not_mem_nil, or_false, not_or] at solid
  obtain ⟨_, _, line, return_sign, comment⟩ := solid
  have no_line := newline?_cons_of_ne line return_sign rest
  unfold lineEnd?
  rw [blanks]
  dsimp only
  split
  · rename_i shape
    split at shape
    · rename_i same
      cases same
      exact absurd rfl comment
    · cases shape
  · split
    · rename_i same
      cases same
      exact absurd rfl comment
    · exact no_line

theorem readLine_entryText (fits : value.Fits (depthLimit - 1)) (follows : FollowsValue rest)
    (ends : lineEnd? (dropBlanks rest) = some more) :
    readLine (entryText key (value.write ++ rest)) = some (.entry ⟨[], key⟩ value, more) := by
  obtain ⟨c, tail, shape, solid, bracket, _, _⟩ :=
    exists_entryText_eq_cons key (value.write ++ rest)
  have start : dropBlanks (c :: tail) = entryText key (value.write ++ rest) := by
    rw [dropBlanks_of_solid solid tail, shape]
  have read : readEntry readValue (c :: tail) = some ((⟨[], key⟩, value), dropBlanks rest) :=
    readEntry_entryText start fits.exact (readNested_write fits) follows
  rw [shape]
  unfold readLine
  dsimp only
  rw [read]
  split
  · rename_i missing
    split at missing
    · rename_i same
      cases same
      exact absurd rfl bracket
    · cases missing
  · rename_i found
    split at found
    · rename_i same
      cases same
      exact absurd rfl bracket
    · cases found
      rw [ends]
      rfl

theorem readLines_entryText (fits : value.Fits (depthLimit - 1)) (follows : FollowsValue rest)
    (ends : lineEnd? (dropBlanks rest) = some more) :
    readLines (entryText key (value.write ++ rest)) =
      (readLines more).map (.entry ⟨[], key⟩ value :: ·) := by
  have line := @readLine_entryText key value rest more fits follows ends
  have shorter : more.length < (entryText key (value.write ++ rest)).length := by
    have ended := lineEnd?_length_le ends
    have blanks := dropBlanks_length_le rest
    simp only [entryText, List.length_append, List.length_cons]
    omega
  obtain ⟨c, tail, shape, solid, _⟩ := exists_entryText_eq_cons key (value.write ++ rest)
  rw [shape] at line shorter ⊢
  rw [readLines, dropBlanks_of_solid solid tail]
  dsimp only
  rw [lineEnd?_of_solid solid tail]
  dsimp only
  rw [line]
  dsimp only
  rw [if_pos shorter]

/-- The entries of a table, one a line. -/
def linesText (entries : Table) : List Char :=
  entries.flatMap fun entry => entryText entry.1 (entry.2.write ++ ['\n'])

def lineOf (entry : String × Value) : Line :=
  .entry ⟨[], entry.1⟩ entry.2

theorem linesText_cons (entry : String × Value) (entries : Table) :
    linesText (entry :: entries) = entryText entry.1 (entry.2.write ++ '\n' :: linesText entries) := by
  rw [linesText, List.flatMap_cons, entryText_append, List.append_assoc]
  rfl

theorem readLines_linesText (fits : ∀ entry ∈ entries, entry.2.Fits (depthLimit - 1)) :
    readLines (linesText entries) = some (entries.map lineOf) := by
  induction entries with
  | nil =>
    show readLines [] = some []
    rw [readLines]
    rfl
  | cons entry entries ih =>
    obtain ⟨first, others⟩ := List.forall_mem_cons.1 fits
    have follows : FollowsValue ('\n' :: linesText entries) := followsValue_cons_iff.2 (by decide)
    have ends : lineEnd? (dropBlanks ('\n' :: linesText entries)) = some (linesText entries) := rfl
    rw [linesText_cons, readLines_entryText first follows ends, ih others]
    rfl

theorem dropByteOrderMark_linesText (entries : Table) :
    dropByteOrderMark (linesText entries) = linesText entries := by
  cases entries with
  | nil => rfl
  | cons entry entries =>
    obtain ⟨c, tail, shape, _, _, _, mark⟩ :=
      exists_entryText_eq_cons entry.1 (entry.2.write ++ '\n' :: linesText entries)
    rw [linesText_cons, shape]
    unfold dropByteOrderMark
    split
    · rename_i same
      cases same
      exact absurd rfl mark
    · rfl

/-- Lines with one key each, before any header, add the entries of the table. -/
theorem Draft.addAll_lineOf (t : OpenTable) (entries : Table) :
    (Draft.mk t []).addAll (entries.map lineOf) =
      (t.addEntries (entries.map entryOf)).map fun t => ⟨t, []⟩ := by
  induction entries generalizing t with
  | nil => rfl
  | cons entry entries ih =>
    have step : (Draft.mk t []).add (lineOf entry) =
        (t.addEntry ⟨[], entry.1⟩ entry.2).map fun t => ⟨t, []⟩ := rfl
    rw [List.map_cons, List.map_cons, Draft.addAll, step, entryOf, OpenTable.addEntries]
    cases t.addEntry ⟨[], entry.1⟩ entry.2 with
    | none => rfl
    | some t => exact ih t

theorem readEntriesOf_linesText (unique : (Assoc.keys entries).Nodup)
    (fits : ∀ entry ∈ entries, entry.2.Fits (depthLimit - 1)) :
    readEntriesOf (String.ofList (linesText entries)) = some entries := by
  have added : OpenTable.addEntries [] (entries.map entryOf) =
      some (entries.map fun entry => (entry.1, .closed entry.2)) :=
    OpenTable.addEntries_new unique
  have drafted : Draft.empty.addAll (entries.map lineOf) =
      some ⟨entries.map fun entry => (entry.1, .closed entry.2), []⟩ := by
    rw [Draft.empty, Draft.addAll_lineOf, added]
    rfl
  rw [readEntriesOf, String.toList_ofList, dropByteOrderMark_linesText, readLines_linesText fits]
  dsimp only
  rw [drafted, Option.map_some, OpenTable.close_closed]

/-- Every table that fits, and holds no marker where it would be taken for one, is read back. -/
theorem readDocument_linesText (unique : (Assoc.keys entries).Nodup)
    (fits : ∀ entry ∈ entries, entry.2.Fits (depthLimit - 1))
    (unmarked : ∀ entry ∈ entries, entry.2.Unmarked) :
    readDocument (String.ofList (linesText entries)) = some entries := by
  have timeless : Table.Timeless entries :=
    Table.timeless_iff.2 fun entry member => Value.timeless_of_exact _ (fits entry member).exact
  have restored : Table.restore .document entries = .ok entries :=
    Value.restoreEntries_of_timeless entries timeless (Table.valuesUnmarked_iff.2 unmarked)
  rw [readDocument, readEntriesOf_linesText unique fits]
  dsimp only
  rw [restored]
  rfl

end InlineVariables.Toml

namespace InlineVariables.Record

open Toml (Value Table datetimeMarker depthLimit)
open Toml.StringText (writeKey)

theorem fieldText_eq_write {value : Value} (no_text : ∀ text, value ≠ .string text)
    (exact : value.Exact) : fieldText value = String.ofList value.write := by
  cases value with
  | string text => exact absurd rfl (no_text text)
  | datetime => exact exact.elim
  | _ => rfl

/-- What a record keeps of a field that is no text, written behind any key, is read as the field. -/
theorem field_read_back {table : Table} {name : String} {value : Value}
    (found : Assoc.get? table name = some value) (no_text : ∀ text, value ≠ .string text)
    (exact : value.Exact) (unique : value.Distinct)
    (markerless : value.EveryKey (· ≠ datetimeMarker)) (shallow : value.depth < depthLimit) :
    ∃ text, (Record.ofTable table).get? name = some text ∧
      ∀ key : String,
        Toml.readDocument (String.ofList (writeKey key.toList) ++ " = " ++ text ++ "\n") =
          some [(key, value)] := by
  refine ⟨fieldText value, by rw [Record.get?_ofTable, found]; rfl, fun key => ?_⟩
  have line : String.ofList (writeKey key.toList) ++ " = " ++ fieldText value ++ "\n" =
      String.ofList (Toml.linesText [(key, value)]) := by
    apply String.toList_injective
    simp [Toml.linesText, Toml.entryText, fieldText_eq_write no_text exact]
  have fits : value.Fits (depthLimit - 1) := ⟨exact, unique, Nat.le_pred_of_lt shallow⟩
  rw [line]
  apply Toml.readDocument_linesText
  · exact List.pairwise_singleton _ key
  · exact List.forall_mem_singleton.2 fits
  · exact List.forall_mem_singleton.2 (Value.unmarked_of_everyKey value markerless)

/-- Strings of every written form, the last with escapes, and keys that need quotes. -/
private def quotations : Value :=
  .array [.string "plain", .string "say \"so\"", .string "it's \"so\"", .string "it's \\",
    .string "'''\\\n\"\"\"", .table [("it's", .integer (-5)), ("", .array [.boolean true])]]

private def quotedTable : Table :=
  [("label", .string "q"), ("abbr", quotations)]

theorem field_read_back_quotations :
    Assoc.get? quotedTable "abbr" = some quotations ∧ (∀ text, quotations ≠ .string text) ∧
      quotations.Exact ∧ quotations.Distinct ∧ quotations.EveryKey (· ≠ datetimeMarker) ∧
      quotations.depth < depthLimit ∧
      ∃ text, (Record.ofTable quotedTable).get? "abbr" = some text ∧
        ∀ key : String,
          Toml.readDocument (String.ofList (writeKey key.toList) ++ " = " ++ text ++ "\n") =
            some [(key, quotations)] := by
  have found : Assoc.get? quotedTable "abbr" = some quotations := rfl
  have no_text : ∀ text, quotations ≠ .string text := nofun
  have exact : quotations.Exact := by
    simp [quotations, Value.Exact, Value.AllExact, Table.Exact, Toml.isInt64]
  have unique : quotations.Distinct := by
    simp [quotations, Value.Distinct, Value.AllDistinct, Table.ValuesDistinct]
  have markerless : quotations.EveryKey (· ≠ datetimeMarker) := by
    simp [quotations, Value.EveryKey, Value.EveryItemKey, Table.EveryKey, datetimeMarker]
  have shallow : quotations.depth < depthLimit := by
    decide
  exact ⟨found, no_text, exact, unique, markerless, shallow,
    field_read_back found no_text exact unique markerless shallow⟩

end InlineVariables.Record
