import InlineVariables.Proofs.Toml.DatetimeForms
import InlineVariables.Variable

/-!
The text of an array field is made of the texts of its members. All members but datetimes show there what
they show as fields themselves, so the text is that of the fields exactly when no datetime is among them
(`Record.fieldText_array`).
-/

namespace InlineVariables.Toml

theorem Value.writeItems_eq_intercalate (items : List Value) :
    String.ofList (Value.writeItems items) =
      ", ".intercalate (items.map fun item => String.ofList item.write) := by
  induction items with
  | nil => rfl
  | cons item items ih =>
    cases items with
    | nil => simp [Value.writeItems]
    | cons next items =>
      rw [List.map_cons] at ih
      rw [Value.writeItems, List.map_cons, List.map_cons, String.intercalate_cons_cons, ← ih]
      show String.ofList (item.write ++ ([',', ' '] ++ Value.writeItems (next :: items))) = _
      rw [String.ofList_append, String.ofList_append, String.append_assoc]

end InlineVariables.Toml

namespace InlineVariables.Record

open Toml (Value Datetime)

/-- The text of a value inside an array: a datetime in its normal form, any other as in a field. -/
def memberText : Value → String
  | .datetime d => d.written
  | value => fieldText value

def listText (texts : List String) : String :=
  "[" ++ ", ".intercalate texts ++ "]"

/-- A datetime that is a field itself is shown as the table that it is exchanged as. -/
theorem fieldText_datetime (d : Datetime) :
    fieldText (.datetime d) =
      "\x7b \"$__toml_private_datetime\" = \"" ++ d.written ++ "\" \x7d" := by
  have all : ∀ c ∈ d.text, Toml.isDatetimeChar c = true := List.all_eq_true.1 d.all_text
  have written : d.written.toList = d.text := String.toList_ofList
  have value := Toml.StringText.write_of_datetimeChars all
  apply String.toList_injective
  simp [fieldText, Value.display, Value.write, Value.writeEntries, written, value]
  rfl

theorem memberText_eq_write {value : Value} (no_text : ∀ text, value ≠ .string text) :
    memberText value = String.ofList value.write := by
  cases value with
  | string text => exact absurd rfl (no_text text)
  | _ => rfl

theorem memberText_eq_fieldText {value : Value} (no_datetime : ∀ d, value ≠ .datetime d) :
    memberText value = fieldText value := by
  cases value with
  | datetime d => exact absurd rfl (no_datetime d)
  | _ => rfl

/-- A datetime is shorter inside an array than as a field. -/
theorem length_memberText_le (value : Value) :
    (memberText value).length ≤ (fieldText value).length := by
  cases value with
  | datetime d =>
    rw [fieldText_datetime]
    simp [memberText]
    omega
  | _ => exact Nat.le_refl _

section Lengths

variable {α : Type} {f g : α → String} {xs : List α} {separator : String}

theorem length_intercalate_le (shorter : ∀ x, (f x).length ≤ (g x).length) :
    (separator.intercalate (xs.map f)).length ≤ (separator.intercalate (xs.map g)).length := by
  induction xs with
  | nil => exact Nat.le_refl _
  | cons x xs ih =>
    cases xs with
    | nil => simpa using shorter x
    | cons y xs =>
      have := shorter x
      simp only [List.map_cons, String.intercalate_cons_cons, String.length_append] at ih ⊢
      omega

/-- When nothing is longer than the text in its place, joined texts of one length have pieces of one
length. -/
theorem length_eq_of_length_intercalate_eq (shorter : ∀ x, (f x).length ≤ (g x).length)
    (same : (separator.intercalate (xs.map f)).length = (separator.intercalate (xs.map g)).length) :
    ∀ x ∈ xs, (f x).length = (g x).length := by
  induction xs with
  | nil => exact nofun
  | cons x xs ih =>
    cases xs with
    | nil => simpa using same
    | cons y xs =>
      have here := shorter x
      have there := @length_intercalate_le _ f g (y :: xs) separator shorter
      simp only [List.map_cons, String.intercalate_cons_cons, String.length_append] at same ih there
      refine List.forall_mem_cons.2 ⟨by omega, ih (by omega)⟩

end Lengths

/-- Without texts among its members, an array field shows each member as it stands inside an array. These
are the texts that the members have as fields exactly when no datetime is among them. -/
theorem fieldText_array {items : List Value} (no_text : ∀ text, .string text ∉ items) :
    fieldText (.array items) = listText (items.map memberText) ∧
      (fieldText (.array items) = listText (items.map fieldText) ↔ ∀ d, .datetime d ∉ items) := by
  have members : fieldText (.array items) = listText (items.map memberText) := by
    have each : items.map memberText = items.map fun item => String.ofList item.write := by
      refine List.map_congr_left fun item member => memberText_eq_write ?_
      rintro text rfl
      exact no_text text member
    rw [listText, each, ← Value.writeItems_eq_intercalate]
    apply String.toList_injective
    simp [fieldText, Value.display, Value.write]
  refine ⟨members, ?_⟩
  rw [members]
  constructor
  · intro same d member
    -- a datetime among the members would make the texts of the fields longer
    have lengths := congrArg String.length same
    simp only [listText, String.length_append] at lengths
    have joined : (", ".intercalate (items.map memberText)).length =
        (", ".intercalate (items.map fieldText)).length := by
      omega
    have each := length_eq_of_length_intercalate_eq length_memberText_le joined _ member
    have closing : "\" \x7d".length = 3 := rfl
    rw [fieldText_datetime] at each
    simp only [memberText, String.length_append] at each
    omega
  · intro no_datetime
    have each : items.map memberText = items.map fieldText := by
      refine List.map_congr_left fun item member => memberText_eq_fieldText ?_
      rintro d rfl
      exact no_datetime d member
    rw [each]

private def firstOfJuly : Datetime :=
  .date ⟨1948, 7, 1⟩

private def mixedItems : List Value :=
  [.boolean true, .datetime firstOfJuly, .array [.string "a"], .table [("since", .integer 1948)]]

theorem fieldText_array_mixed :
    (∀ text, .string text ∉ mixedItems) ∧
      fieldText (.array mixedItems) = "[true, 1948-07-01, [\"a\"], \x7b since = 1948 \x7d]" ∧
      fieldText (.array mixedItems) ≠ listText (mixedItems.map fieldText) := by
  have no_text : ∀ text, .string text ∉ mixedItems := by
    simp [mixedItems]
  obtain ⟨members, as_fields⟩ := fieldText_array no_text
  refine ⟨no_text, members.trans (by decide), fun same => ?_⟩
  exact as_fields.1 same firstOfJuly (by simp [mixedItems])

/-- One and the same datetime has two texts. -/
theorem fieldText_of_datetime_twice :
    (∀ text, .string text ∉ [Value.datetime firstOfJuly]) ∧
      fieldText (.datetime firstOfJuly) =
        "\x7b \"$__toml_private_datetime\" = \"1948-07-01\" \x7d" ∧
      fieldText (.array [.datetime firstOfJuly]) = "[1948-07-01]" ∧
      fieldText (.array [.datetime firstOfJuly]) ≠
        "[" ++ ", ".intercalate ([Value.datetime firstOfJuly].map fieldText) ++ "]" := by
  have alone : fieldText (.datetime firstOfJuly) =
      "\x7b \"$__toml_private_datetime\" = \"1948-07-01\" \x7d" :=
    fieldText_datetime firstOfJuly
  have inside : fieldText (.array [.datetime firstOfJuly]) = "[1948-07-01]" := by
    decide
  refine ⟨by simp, alone, inside, ?_⟩
  rw [inside, List.map_singleton, alone]
  decide

end InlineVariables.Record
