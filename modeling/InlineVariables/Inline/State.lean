import InlineVariables.Text.Offset

/-!
The state of a scan over inline text: a byte position and the nodes found so far. Text that no rule
claims is copied into text nodes, neighbouring characters into one node. A state keeps the text from
its position on at hand; `State.eq_atPosition` says that it is determined by the other fields.
-/

namespace InlineVariables.Inline

/-- A piece of output that a rule pushes. -/
structure Token where
  /-- The name of the hook that turns the token into text. -/
  kind : String
  content : String
  deriving DecidableEq, Repr

inductive Node where
  | text (content : String)
  | token (token : Token)
  deriving DecidableEq, Repr

def Node.token? : Node → Option Token
  | .token t => some t
  | .text _ => none

/-- A scan under way. -/
structure State where
  source : String
  position : Nat
  /-- The nodes found so far, the newest first. -/
  newest : List Node
  /-- The text from the position on; nothing when the position is past the end or inside a
  character. -/
  rest? : Option (List Char)
  rest?_eq : rest? = Text.dropBytes source.toList position
  deriving DecidableEq

namespace State

def atPosition (source : String) (position : Nat) (newest : List Node) : State :=
  ⟨source, position, newest, Text.dropBytes source.toList position, rfl⟩

theorem eq_atPosition (s : State) : s = atPosition s.source s.position s.newest := by
  obtain ⟨source, position, newest, rest?, rfl⟩ := s
  rfl

def start (source : String) : State :=
  ⟨source, 0, [], some source.toList, (Text.dropBytes_zero _).symm⟩

def length (s : State) : Nat :=
  s.source.utf8ByteSize

/-- The number of bytes from the position to the end. -/
def remaining (s : State) : Nat :=
  s.length - s.position

def nodes (s : State) : List Node :=
  s.newest.reverse

def tokens (s : State) : List Token :=
  s.nodes.filterMap Node.token?

def push (s : State) (token : Token) : State :=
  { s with newest := .token token :: s.newest }

/-- Moves to a position. A position further on is looked for from the present one. -/
def moveTo (s : State) (position : Nat) : State :=
  match found : s.rest? with
  | some rest =>
    if forward : s.position ≤ position then
      ⟨s.source, position, s.newest, Text.dropBytes rest (position - s.position), by
        rw [← Text.dropBytes_add (s.rest?_eq ▸ found), Nat.add_sub_cancel' forward]⟩
    else atPosition s.source position s.newest
  | none => atPosition s.source position s.newest

theorem moveTo_eq (s : State) (position : Nat) :
    s.moveTo position = atPosition s.source position s.newest := by
  have determined : ∀ t : State, t.source = s.source → t.position = position →
      t.newest = s.newest → t = atPosition s.source position s.newest := fun t a b c => by
    rw [eq_atPosition t, a, b, c]
  unfold moveTo
  split
  · split
    · exact determined _ rfl rfl rfl
    · rfl
  · rfl

/-- Adds a character to the text copied so far. -/
def copyChar (c : Char) : List Node → List Node
  | .text content :: older => .text (content.push c) :: older
  | nodes => .text (String.singleton c) :: nodes

/-- Copies the character at the position, if there is one, and moves past it. -/
def advance (s : State) : State :=
  match s.rest? with
  | some (c :: _) => { s with newest := copyChar c s.newest }.moveTo (s.position + c.utf8Size)
  | _ => s

@[simp] theorem push_source (s : State) (token : Token) : (s.push token).source = s.source := rfl

@[simp] theorem push_newest (s : State) (token : Token) :
    (s.push token).newest = .token token :: s.newest := rfl

@[simp] theorem moveTo_source (s : State) (position : Nat) :
    (s.moveTo position).source = s.source := by
  rw [moveTo_eq]
  rfl

@[simp] theorem moveTo_position (s : State) (position : Nat) :
    (s.moveTo position).position = position := by
  rw [moveTo_eq]
  rfl

@[simp] theorem moveTo_newest (s : State) (position : Nat) :
    (s.moveTo position).newest = s.newest := by
  rw [moveTo_eq]
  rfl

/-- A move over the next text leaves what comes after it. -/
theorem moveTo_rest? {s : State} {span rest : List Char} (here : s.rest? = some (span ++ rest)) :
    (s.moveTo (s.position + Text.byteLength span)).rest? = some rest := by
  rw [moveTo_eq]
  change Text.dropBytes s.source.toList (s.position + Text.byteLength span) = some rest
  rw [Text.dropBytes_add (s.rest?_eq ▸ here), Text.dropBytes_byteLength]

theorem position_add {s : State} {rest : List Char} (here : s.rest? = some rest) :
    s.position + Text.byteLength rest = s.length := by
  rw [length, ← Text.byteLength_toList]
  exact Text.add_byteLength_of_dropBytes (s.rest?_eq ▸ here)

theorem remaining_eq {s : State} {rest : List Char} (here : s.rest? = some rest) :
    s.remaining = Text.byteLength rest := by
  have whole := position_add here
  unfold remaining
  omega

theorem advance_eq {s : State} {c : Char} {rest : List Char} (here : s.rest? = some (c :: rest)) :
    s.advance =
      { s with newest := copyChar c s.newest }.moveTo (s.position + Text.byteLength [c]) := by
  unfold advance
  split
  · rename_i d tail found
    rw [here] at found
    cases found
    rfl
  · rename_i other
    exact (other c rest here).elim

theorem advance_rest? {s : State} {c : Char} {rest : List Char}
    (here : s.rest? = some (c :: rest)) : s.advance.rest? = some rest := by
  rw [advance_eq here]
  exact moveTo_rest? (s := { s with newest := copyChar c s.newest }) here

theorem advance_newest {s : State} {c : Char} {rest : List Char}
    (here : s.rest? = some (c :: rest)) : s.advance.newest = copyChar c s.newest := by
  rw [advance_eq here, moveTo_newest]

theorem advance_source (s : State) : s.advance.source = s.source := by
  unfold advance
  split
  · rw [moveTo_source]
  · rfl

theorem filterMap_token? (tokens : List Token) :
    (tokens.map Node.token).filterMap Node.token? = tokens := by
  rw [List.filterMap_map]
  exact List.filterMap_some

/-- Copied text adds no token. -/
theorem tokens_copyChar (c : Char) (newest : List Node) :
    (copyChar c newest).reverse.filterMap Node.token? =
      newest.reverse.filterMap Node.token? := by
  unfold copyChar
  split
  · simp only [List.reverse_cons, List.filterMap_append]
    rfl
  · simp [List.filterMap_append, Node.token?]

end State

end InlineVariables.Inline
