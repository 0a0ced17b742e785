/-!
Ordered association lists: the first entry of a key counts, an insertion keeps the place of a key
that is there and puts a new key last. The lemmas say what `get?` sees after each operation.
-/

namespace InlineVariables

/-- Entries in the order they were given. -/
abbrev Assoc (β : Type) := List (String × β)

namespace Assoc

variable {β : Type}

/-- The value of the first entry under `key`. -/
def get? : Assoc β → String → Option β
  | [], _ => none
  | (k, v) :: rest, key => if k = key then some v else get? rest key

def contains (entries : Assoc β) (key : String) : Bool :=
  (get? entries key).isSome

/-- Replaces the value of `key` in its place, or adds the entry at the end. -/
def insert : Assoc β → String → β → Assoc β
  | [], key, value => [(key, value)]
  | (k, v) :: rest, key, value =>
    if k = key then (k, value) :: rest else (k, v) :: insert rest key value

/-- Drops the first entry of `key`. -/
def erase : Assoc β → String → Assoc β
  | [], _ => []
  | (k, v) :: rest, key => if k = key then rest else (k, v) :: erase rest key

def keys (entries : Assoc β) : List String :=
  entries.map (·.1)

/-- Inserts entries one after another, so that a repeated key keeps its first place and takes its
last value. -/
def ofList (entries : List (String × β)) : Assoc β :=
  entries.foldl (fun table entry => insert table entry.1 entry.2) []

@[simp] theorem get?_nil (key : String) : get? ([] : Assoc β) key = none := rfl

theorem get?_cons (k : String) (v : β) (rest : Assoc β) (key : String) :
    get? ((k, v) :: rest) key = if k = key then some v else get? rest key := rfl

@[simp] theorem get?_insert_self (entries : Assoc β) (key : String) (value : β) :
    get? (insert entries key value) key = some value := by
  induction entries with
  | nil => simp [insert, get?]
  | cons entry rest ih =>
    obtain ⟨k, v⟩ := entry
    by_cases same : k = key <;> simp [insert, get?, same, ih]

theorem get?_insert_other (entries : Assoc β) {key other : String} (value : β)
    (different : key ≠ other) : get? (insert entries key value) other = get? entries other := by
  induction entries with
  | nil => simp [insert, get?, different]
  | cons entry rest ih =>
    obtain ⟨k, v⟩ := entry
    by_cases same : k = key
    · subst same
      simp [insert, get?, different]
    · simp [insert, get?, same, ih]

theorem get?_insert (entries : Assoc β) (key other : String) (value : β) :
    get? (insert entries key value) other = if key = other then some value else get? entries other := by
  by_cases same : key = other
  · subst same
    rw [get?_insert_self, if_pos rfl]
  · rw [get?_insert_other entries value same, if_neg same]

theorem insert_insert_self (entries : Assoc β) (key : String) (first second : β) :
    insert (insert entries key first) key second = insert entries key second := by
  induction entries with
  | nil => simp [insert]
  | cons entry rest ih =>
    obtain ⟨k, v⟩ := entry
    by_cases same : k = key
    · simp [insert, same]
    · simp [insert, same, ih]

theorem contains_iff {entries : Assoc β} {key : String} :
    contains entries key = true ↔ key ∈ keys entries := by
  induction entries with
  | nil => simp [contains, keys]
  | cons entry rest ih =>
    obtain ⟨k, v⟩ := entry
    simp only [contains, keys] at ih ⊢
    by_cases same : k = key
    · simp [get?, same]
    · simp [get?, same, ih, Ne.symm same]

theorem get?_eq_none_iff {entries : Assoc β} {key : String} :
    get? entries key = none ↔ key ∉ keys entries := by
  rw [← contains_iff, contains, Bool.not_eq_true, Option.isSome_eq_false_iff, Option.isNone_iff_eq_none]

theorem mem_of_get? {entries : Assoc β} {key : String} {value : β}
    (found : get? entries key = some value) : (key, value) ∈ entries := by
  induction entries with
  | nil => cases found
  | cons entry rest ih =>
    obtain ⟨k, v⟩ := entry
    by_cases same : k = key
    · rw [get?_cons, if_pos same] at found
      cases found
      rw [same]
      exact List.mem_cons_self
    · rw [get?_cons, if_neg same] at found
      exact List.mem_cons_of_mem _ (ih found)

theorem keys_insert_of_contains {entries : Assoc β} {key : String} (value : β)
    (present : contains entries key = true) : keys (insert entries key value) = keys entries := by
  induction entries with
  | nil => simp [contains] at present
  | cons entry rest ih =>
    obtain ⟨k, v⟩ := entry
    by_cases same : k = key
    · simp [insert, keys, same]
    · have there : contains rest key = true := by
        simpa [contains, get?, same] using present
      have tail := ih there
      simp only [keys] at tail ⊢
      simp [insert, same, tail]

theorem keys_insert_of_not_contains {entries : Assoc β} {key : String} (value : β)
    (absent : contains entries key = false) :
    keys (insert entries key value) = keys entries ++ [key] := by
  induction entries with
  | nil => simp [insert, keys]
  | cons entry rest ih =>
    obtain ⟨k, v⟩ := entry
    by_cases same : k = key
    · simp [contains, get?, same] at absent
    · have gone : contains rest key = false := by
        simpa [contains, get?, same] using absent
      have tail := ih gone
      simp only [keys] at tail ⊢
      simp [insert, same, tail]

theorem keys_insert (entries : Assoc β) (key : String) (value : β) :
    keys (insert entries key value) =
      if contains entries key then keys entries else keys entries ++ [key] := by
  cases present : contains entries key with
  | true => exact keys_insert_of_contains value present
  | false => exact keys_insert_of_not_contains value present

theorem contains_insert_other (entries : Assoc β) {key other : String} (value : β)
    (different : key ≠ other) :
    contains (insert entries key value) other = contains entries other := by
  rw [contains, get?_insert_other entries value different, contains]

theorem insert_of_not_contains {entries : Assoc β} {key : String} (value : β)
    (absent : contains entries key = false) : insert entries key value = entries ++ [(key, value)] := by
  induction entries with
  | nil => rfl
  | cons entry rest ih =>
    obtain ⟨k, v⟩ := entry
    by_cases same : k = key
    · simp [contains, get?, same] at absent
    · have gone : contains rest key = false := by
        simpa [contains, get?, same] using absent
      rw [insert, if_neg same, ih gone, List.cons_append]

theorem mem_keys_insert {entries : Assoc β} {key other : String} {value : β} :
    other ∈ keys (insert entries key value) ↔ other = key ∨ other ∈ keys entries := by
  rw [← contains_iff, contains, get?_insert, ← contains_iff, contains]
  by_cases same : key = other
  · simp [same]
  · simp [same, Ne.symm same]

theorem nodup_insert {entries : Assoc β} (unique : (keys entries).Nodup) (key : String) (value : β) :
    (keys (insert entries key value)).Nodup := by
  cases present : contains entries key with
  | true =>
    rw [keys_insert_of_contains value present]
    exact unique
  | false =>
    rw [keys_insert_of_not_contains value present, List.nodup_append]
    refine ⟨unique, by simp, ?_⟩
    intro k member other last
    obtain rfl := List.mem_singleton.1 last
    rintro rfl
    rw [contains_iff.2 member] at present
    cases present

theorem erase_sublist (entries : Assoc β) (key : String) : (erase entries key).Sublist entries := by
  induction entries with
  | nil => exact .refl []
  | cons entry rest ih =>
    obtain ⟨k, v⟩ := entry
    rw [erase]
    split
    · exact List.sublist_cons_self _ rest
    · exact ih.cons_cons _

theorem get?_erase_other (entries : Assoc β) {key other : String} (different : key ≠ other) :
    get? (erase entries key) other = get? entries other := by
  induction entries with
  | nil => rfl
  | cons entry rest ih =>
    obtain ⟨k, v⟩ := entry
    by_cases same : k = key
    · rw [erase, if_pos same, get?_cons, if_neg (same ▸ different)]
    · rw [erase, if_neg same, get?_cons, get?_cons, ih]

theorem get?_of_mem {entries : Assoc β} (unique : (keys entries).Nodup) {key : String} {value : β}
    (member : (key, value) ∈ entries) : get? entries key = some value := by
  induction entries with
  | nil => cases member
  | cons entry rest ih =>
    obtain ⟨k, v⟩ := entry
    obtain ⟨fresh, unique⟩ := List.nodup_cons.1 unique
    rcases List.mem_cons.1 member with same | member
    · cases same
      rw [get?_cons, if_pos rfl]
    · have other : k ≠ key := by
        rintro rfl
        exact fresh (List.mem_map_of_mem (f := (·.1)) member)
      rw [get?_cons, if_neg other, ih unique member]

/-- Without a repeated key it does not matter in which order the entries stand. -/
theorem get?_perm {a b : Assoc β} (unique : (keys a).Nodup) (permuted : a.Perm b) (key : String) :
    get? a key = get? b key := by
  have unique' : (keys b).Nodup := (permuted.map _).nodup_iff.1 unique
  cases here : get? a key with
  | some value => exact (get?_of_mem unique' (permuted.mem_iff.1 (mem_of_get? here))).symm
  | none =>
    cases there : get? b key with
    | none => rfl
    | some value =>
      have found := get?_of_mem unique (permuted.mem_iff.2 (mem_of_get? there))
      cases here.symm.trans found

theorem not_contains_of_nodup {start rest : Assoc β} {key : String} {value : β}
    (unique : (keys (start ++ (key, value) :: rest)).Nodup) : contains start key = false := by
  rw [Bool.eq_false_iff, ne_eq, contains_iff]
  intro member
  rw [keys, List.map_append, List.nodup_append] at unique
  exact unique.2.2 key member key List.mem_cons_self rfl

/-- Entries with new keys are added as they are. -/
theorem foldl_insert_of_new {start entries : Assoc β} (unique : (keys (start ++ entries)).Nodup) :
    entries.foldl (fun table entry => insert table entry.1 entry.2) start = start ++ entries := by
  induction entries generalizing start with
  | nil => exact (List.append_nil start).symm
  | cons entry rest ih =>
    have absent : contains start entry.1 = false := not_contains_of_nodup unique
    rw [List.append_cons] at unique ⊢
    rw [List.foldl_cons, insert_of_not_contains entry.2 absent]
    exact ih unique

/-- Entries without a repeated key are determined by their keys in order and by what is found. -/
theorem ext_get? {a b : Assoc β} (unique : (keys a).Nodup) (order : keys a = keys b)
    (same : ∀ key, get? a key = get? b key) : a = b := by
  induction a generalizing b with
  | nil =>
    cases b with
    | nil => rfl
    | cons entry rest => cases order
  | cons entry rest ih =>
    obtain ⟨k, v⟩ := entry
    cases b with
    | nil => cases order
    | cons other others =>
      obtain ⟨k', v'⟩ := other
      obtain ⟨rfl, tail_order⟩ : k = k' ∧ keys rest = keys others := List.cons.inj order
      obtain ⟨fresh, unique⟩ := List.nodup_cons.1 unique
      have head := same k
      rw [get?_cons, if_pos rfl, get?_cons, if_pos rfl] at head
      obtain rfl := Option.some.inj head
      refine congrArg _ (ih unique tail_order fun key => ?_)
      by_cases here : k = key
      · subst here
        have absent : k ∉ keys others := tail_order ▸ fresh
        rw [get?_eq_none_iff.2 fresh, get?_eq_none_iff.2 absent]
      · have tail := same key
        rw [get?_cons, if_neg here, get?_cons, if_neg here] at tail
        exact tail

end Assoc

end InlineVariables
