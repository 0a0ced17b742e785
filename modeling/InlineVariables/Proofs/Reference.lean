import InlineVariables.Reference

/-!
Bodies of references. Every body is a key and tokens without bars, joined by bars, in exactly one way
(`Reference.body_ofBody`, `Reference.ofBody_body`). What its tokens ask for depends on which tokens there
are, not on their order (`Modifier.AskedBy`).
-/

namespace InlineVariables

namespace Modifier

theorem ofToken?_abbr_iff {token : String} :
    ofToken? token = some .abbr ↔ token = "abbr" ∨ token = "-" := by
  unfold ofToken?
  grind

theorem ofToken?_link_iff {token : String} :
    ofToken? token = some .link ↔ token = "link" ∨ token = "#" := by
  unfold ofToken?
  grind

/-- A token that asks for nothing. -/
def Unknown (token : String) : Prop :=
  token ∉ ["abbr", "-", "link", "#"]

theorem ofToken?_of_unknown {token : String} (unknown : Unknown token) : ofToken? token = none := by
  unfold Unknown at unknown
  unfold ofToken?
  grind

/-- Some token asks for the modifier. -/
def AskedBy (tokens : List String) (modifier : Modifier) : Prop :=
  ∃ token ∈ tokens, ofToken? token = some modifier

theorem askedBy_abbr_iff {tokens : List String} :
    AskedBy tokens .abbr ↔ "abbr" ∈ tokens ∨ "-" ∈ tokens := by
  unfold AskedBy
  simp only [ofToken?_abbr_iff]
  grind

theorem askedBy_link_iff {tokens : List String} :
    AskedBy tokens .link ↔ "link" ∈ tokens ∨ "#" ∈ tokens := by
  unfold AskedBy
  simp only [ofToken?_link_iff]
  grind

theorem askedBy_cons {token : String} {rest : List String} {modifier : Modifier} :
    AskedBy (token :: rest) modifier ↔ ofToken? token = some modifier ∨ AskedBy rest modifier := by
  simp only [AskedBy, List.mem_cons, or_and_right, exists_or, exists_eq_left]

theorem askedBy_append {a b : List String} {modifier : Modifier} :
    AskedBy (a ++ b) modifier ↔ AskedBy a modifier ∨ AskedBy b modifier := by
  simp only [AskedBy, List.mem_append, or_and_right, exists_or]

end Modifier

namespace Reference

/-- Neither the key nor a token has a bar. -/
def BarFree (r : Reference) : Prop :=
  ∀ text ∈ r.key :: r.modifiers, separator ∉ text.toList

theorem ofBody_barFree (body : String) : (ofBody body).BarFree := by
  obtain ⟨key_free, others_free⟩ := Text.not_mem_pieces separator body.toList
  refine List.forall_mem_cons.2 ⟨?_, ?_⟩
  · rw [ofBody, String.toList_ofList]
    exact key_free
  · intro token member
    obtain ⟨piece, there, rfl⟩ := List.mem_map.1 member
    rw [String.toList_ofList]
    exact others_free piece there

theorem body_ofBody (body : String) : (ofBody body).body = body := by
  have texts : ∀ pieces : List (List Char), (pieces.map String.ofList).map String.toList = pieces := by
    simp
  unfold Reference.body ofBody
  dsimp only
  rw [texts, String.toList_ofList, Text.joinWith_pieces, String.ofList_toList]

theorem ofBody_body {r : Reference} (free : r.BarFree) : ofBody r.body = r := by
  obtain ⟨key, modifiers⟩ := r
  obtain ⟨key_free, tokens_free⟩ := List.forall_mem_cons.1 free
  have others_free : ∀ piece ∈ modifiers.map String.toList, separator ∉ piece := by
    intro piece member
    obtain ⟨token, there, rfl⟩ := List.mem_map.1 member
    exact tokens_free token there
  have texts : (modifiers.map String.toList).map String.ofList = modifiers := by
    simp
  unfold Reference.body ofBody
  dsimp only
  rw [String.toList_ofList, Text.pieces_joinWith key_free others_free]
  dsimp only
  rw [texts, String.ofList_toList]

theorem has_iff {r : Reference} {modifier : Modifier} :
    r.has modifier = true ↔ Modifier.AskedBy r.modifiers modifier := by
  unfold has Modifier.AskedBy
  rw [List.any_eq_true]
  simp only [decide_eq_true_eq]

theorem has_abbr_iff {r : Reference} :
    r.has .abbr = true ↔ "abbr" ∈ r.modifiers ∨ "-" ∈ r.modifiers :=
  has_iff.trans Modifier.askedBy_abbr_iff

theorem has_link_iff {r : Reference} :
    r.has .link = true ↔ "link" ∈ r.modifiers ∨ "#" ∈ r.modifiers :=
  has_iff.trans Modifier.askedBy_link_iff

theorem hasModifiers_iff {r : Reference} : r.hasModifiers = true ↔ r.modifiers ≠ [] := by
  unfold hasModifiers
  cases r.modifiers with
  | nil => simp
  | cons token rest => simp

theorem body_eq_intercalate (r : Reference) : r.body = "|".intercalate (r.key :: r.modifiers) := by
  rw [body, Text.joinWith_eq_intercalate, ← String.toList_inj, String.toList_ofList,
    String.toList_intercalate, List.map_cons]
  rfl

theorem length_modifiers_ofBody (body : String) :
    (ofBody body).modifiers.length = body.toList.count separator := by
  rw [← Text.length_pieces]
  exact List.length_map String.ofList

theorem hasModifiers_ofBody_iff {body : String} :
    (ofBody body).hasModifiers = true ↔ separator ∈ body.toList := by
  rw [hasModifiers_iff, ← List.length_pos_iff, length_modifiers_ofBody, List.count_pos_iff]

/-- Bodies and references without bars stand for each other: reading a body and joining what was read
gives the body back, and joining a key and tokens and reading the body gives these back. -/
theorem bodies_correspond :
    (∀ body, "|".intercalate ((ofBody body).key :: (ofBody body).modifiers) = body ∧
      '|' ∉ (ofBody body).key.toList ∧ (∀ token ∈ (ofBody body).modifiers, '|' ∉ token.toList) ∧
      (ofBody body).modifiers.length = body.toList.count '|' ∧
      ((ofBody body).hasModifiers = true ↔ '|' ∈ body.toList)) ∧
    ∀ key modifiers, '|' ∉ key.toList → (∀ token ∈ modifiers, '|' ∉ token.toList) →
      ofBody ("|".intercalate (key :: modifiers)) = ⟨key, modifiers⟩ := by
  constructor
  · intro body
    obtain ⟨key_free, tokens_free⟩ := List.forall_mem_cons.1 (ofBody_barFree body)
    refine ⟨?_, key_free, tokens_free, length_modifiers_ofBody body, hasModifiers_ofBody_iff⟩
    rw [← body_eq_intercalate, body_ofBody]
  · intro key modifiers key_free tokens_free
    have free : BarFree ⟨key, modifiers⟩ := List.forall_mem_cons.2 ⟨key_free, tokens_free⟩
    have joined := body_eq_intercalate ⟨key, modifiers⟩
    rw [← joined, ofBody_body free]

/-- Bars at both ends and side by side: the key and three of the tokens are empty. -/
theorem bodies_correspond_bars :
    '|' ∉ "".toList ∧ (∀ token ∈ ["", "abbr", "", ""], '|' ∉ token.toList) ∧
      ofBody "||abbr||" = ⟨"", ["", "abbr", "", ""]⟩ ∧
      (ofBody "||abbr||").modifiers.length = "||abbr||".toList.count '|' := by
  have key_free : '|' ∉ "".toList := by decide
  have tokens_free : ∀ token ∈ ["", "abbr", "", ""], '|' ∉ token.toList := by decide
  obtain ⟨read, joined⟩ := bodies_correspond
  obtain ⟨_, _, _, count, _⟩ := read "||abbr||"
  exact ⟨key_free, tokens_free, joined "" _ key_free tokens_free, count⟩

end Reference

end InlineVariables
