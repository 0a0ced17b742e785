import InlineVariables.Text.Pieces
import Mathlib.Data.List.Infix

/-!
Cutting a text at a separator of any length, from the left. `CutFromLeft` says which pieces these are:
each ends where the separator first occurs in what is left. There is one such cutting of every text, and
`piecesOn` finds it (`cutFromLeft_iff`).
-/

namespace InlineVariables.Text

/-- A text cut wherever the separator occurs first in what is left of it. -/
inductive CutFromLeft (separator : List Char) : List Char → List (List Char) → Prop
  | whole {text : List Char} (free : ¬ separator <:+: text) : CutFromLeft separator text [text]
  | cut {text before after : List Char} {pieces : List (List Char)}
    (split : text = before ++ (separator ++ after))
    (first : ∀ earlier rest, text = earlier ++ (separator ++ rest) → before.length ≤ earlier.length)
    (rest : CutFromLeft separator after pieces) : CutFromLeft separator text (before :: pieces)

namespace CutFromLeft

variable {separator text : List Char} {pieces others : List (List Char)}

/-- A character at which no separator begins belongs to the first piece. -/
theorem cons {c : Char} {piece : List Char} (elsewhere : ¬ separator <+: c :: text)
    (cutting : CutFromLeft separator text (piece :: pieces)) :
    CutFromLeft separator (c :: text) ((c :: piece) :: pieces) := by
  cases cutting with
  | whole free =>
    refine .whole fun inside => ?_
    rcases List.infix_cons_iff.1 inside with here | there
    · exact elsewhere here
    · exact free there
  | @cut _ _ after _ split first rest =>
    refine .cut (congrArg (c :: ·) split) ?_ rest
    intro earlier remaining found
    cases earlier with
    | nil => exact absurd ⟨remaining, found.symm⟩ elsewhere
    | cons d earlier =>
      have shorter := first earlier remaining (List.cons.inj found).2
      simpa using shorter

theorem unique (one : CutFromLeft separator text pieces) (other : CutFromLeft separator text others) :
    pieces = others := by
  induction one generalizing others with
  | whole free =>
    cases other with
    | whole => rfl
    | cut split => exact absurd ⟨_, _, by rw [split, List.append_assoc]⟩ free
  | @cut _ before after _ split first rest ih =>
    cases other with
    | whole free => exact absurd ⟨_, _, by rw [split, List.append_assoc]⟩ free
    | @cut _ before' after' _ split' first' rest' =>
      -- Each occurrence is the first, so neither begins before the other.
      have lengths : before.length = before'.length :=
        Nat.le_antisymm (first _ _ split') (first' _ _ split)
      obtain ⟨rfl, behind⟩ := List.append_inj (split.symm.trans split') lengths
      obtain rfl := List.append_cancel_left behind
      rw [ih rest']

theorem intercalate (cutting : CutFromLeft separator text pieces) :
    separator.intercalate pieces = text := by
  induction cutting with
  | whole free => simp
  | @cut _ before _ pieces split first rest ih =>
    cases pieces with
    | nil => cases rest
    | cons next pieces =>
      rw [List.intercalate_cons_cons, ih, split, List.append_assoc]

theorem not_infix (some_char : separator ≠ []) (cutting : CutFromLeft separator text pieces) :
    ∀ piece ∈ pieces, ¬ separator <:+: piece := by
  induction cutting with
  | whole free => exact List.forall_mem_singleton.2 free
  | @cut _ before after _ split first rest ih =>
    refine List.forall_mem_cons.2 ⟨?_, ih⟩
    rintro ⟨earlier, behind, rfl⟩
    have shorter := first earlier (behind ++ (separator ++ after)) (by simp [split])
    have positive := List.length_pos_iff.2 some_char
    simp only [List.length_append] at shorter
    omega

end CutFromLeft

theorem piecesOn_cons {separator : List Char} {c : Char} {rest : List Char}
    (elsewhere : after? separator (c :: rest) = none) :
    piecesOn separator (c :: rest) = (c :: (piecesOn separator rest).1, (piecesOn separator rest).2) := by
  rw [piecesOn, piecesFrom, elsewhere]
  rfl

theorem piecesOn_cut {separator : List Char} (some_char : separator ≠ []) (text : List Char) :
    CutFromLeft separator text ((piecesOn separator text).1 :: (piecesOn separator text).2) := by
  -- The text behind a separator is shorter, but not by one character.
  induction length : text.length using Nat.strong_induction_on generalizing text with
  | _ n ih =>
    subst length
    cases text with
    | nil => exact .whole fun inside => some_char (List.infix_nil.1 inside)
    | cons c rest =>
      cases found : after? separator (c :: rest) with
      | none =>
        have elsewhere : ¬ separator <+: c :: rest := by
          rintro ⟨behind, split⟩
          cases found.symm.trans (after?_eq_some_iff.2 split.symm)
        rw [piecesOn_cons found]
        exact .cons elsewhere (ih rest.length (by simp) rest rfl)
      | some behind =>
        have split := after?_eq_some_iff.1 found
        have shorter : behind.length < (c :: rest).length := by
          have positive := List.length_pos_iff.2 some_char
          rw [split, List.length_append]
          omega
        rw [split, piecesOn_separator some_char]
        exact .cut (List.nil_append _).symm (fun _ _ _ => Nat.zero_le _)
          (ih behind.length shorter behind rfl)

theorem cutFromLeft_iff {separator text : List Char} {pieces : List (List Char)}
    (some_char : separator ≠ []) :
    CutFromLeft separator text pieces ↔
      pieces = (piecesOn separator text).1 :: (piecesOn separator text).2 := by
  constructor
  · exact fun cutting => cutting.unique (piecesOn_cut some_char text)
  · rintro rfl
    exact piecesOn_cut some_char text

end InlineVariables.Text
