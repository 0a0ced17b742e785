import InlineVariables.Proofs.Inline.Severity

/-!
Rendering of a text made of two. Where the first part leaves no reference open and no opening spans the
cut, the references of the whole are those of the parts (`segments_append`), and a rendering of the
whole is a rendering of the first part followed by one of the second.
-/

namespace InlineVariables.Text

theorem after?_append {start text rest : List Char} (begins : after? start text = some rest)
    (more : List Char) : after? start (text ++ more) = some (rest ++ more) := by
  obtain rfl := after?_eq_some_iff.1 begins
  exact after?_eq_some_iff.2 (List.append_assoc start rest more)

/-- A text that is long enough shows whether it begins with `start`. -/
theorem after?_append_of_none {start text : List Char} (plain : after? start text = none)
    (long : start.length ≤ text.length) (more : List Char) : after? start (text ++ more) = none := by
  induction start generalizing text with
  | nil => cases plain
  | cons s start ih =>
    cases text with
    | nil => cases long
    | cons c text =>
      rw [List.cons_append]
      by_cases same : s = c
      · rw [after?, if_pos same] at plain ⊢
        exact ih plain (Nat.le_of_succ_le_succ long)
      · rw [after?, if_neg same]

theorem cutAt?_append_right {c : Char} {text before after : List Char}
    (found : cutAt? c text = some (before, after)) (more : List Char) :
    cutAt? c (text ++ more) = some (before, after ++ more) := by
  obtain ⟨rfl, first⟩ := cutAt?_eq_some found
  rw [List.append_assoc, List.cons_append]
  exact cutAt?_append first (after ++ more)

end InlineVariables.Text

namespace InlineVariables.Inline

/-- The cut between two texts does not go through an opening. -/
def Apart (a b : List Char) : Prop :=
  ¬ (a.getLast? = some '#' ∧ b.head? = some '{')

theorem Apart.of_append {start a b : List Char} (apart : Apart (start ++ a) b) : Apart a b := by
  rintro ⟨last, first⟩
  refine apart ⟨?_, first⟩
  rw [List.getLast?_append, last]
  rfl

theorem after?_opening_append {a b : List Char} {c : Char} (apart : Apart (c :: a) b)
    (plain : Text.after? opening (c :: a) = none) :
    Text.after? opening (c :: a ++ b) = none := by
  cases a with
  | nil =>
    -- Only here the cut matters: the first text is shorter than an opening.
    refine Option.eq_none_iff_forall_ne_some.2 fun rest begins => ?_
    have whole := Text.after?_eq_some_iff.1 begins
    obtain ⟨rfl, inner⟩ := List.cons.inj whole
    change b = '{' :: rest at inner
    exact apart ⟨rfl, by rw [inner]; rfl⟩
  | cons d a =>
    have long : opening.length ≤ (c :: d :: a).length := by simp [opening]
    exact Text.after?_append_of_none plain long b

theorem cutOn?_append_of_none {a b : List Char} (apart : Apart a b)
    (plain : Text.cutOn? opening a = none) :
    Text.cutOn? opening (a ++ b) =
      (Text.cutOn? opening b).map fun (before, inner) => (a ++ before, inner) := by
  induction a with
  | nil => simp
  | cons c a ih =>
    rw [Text.cutOn?] at plain
    split at plain
    · cases plain
    · rename_i none_here
      have inside : Apart a b := @Apart.of_append [c] a b apart
      have later := ih inside (Option.map_eq_none_iff.1 plain)
      have still := after?_opening_append apart none_here
      rw [List.cons_append] at still ⊢
      rw [Text.cutOn?, still]
      dsimp only
      rw [later, Option.map_map]
      rfl

theorem cutOn?_append_of_some {a before inner : List Char}
    (opens : Text.cutOn? opening a = some (before, inner)) (b : List Char) :
    Text.cutOn? opening (a ++ b) = some (before, inner ++ b) := by
  induction a generalizing before with
  | nil => cases opens
  | cons c a ih =>
    rw [Text.cutOn?] at opens
    split at opens
    · rename_i begins
      cases opens
      have still := Text.after?_append begins b
      rw [List.cons_append] at still ⊢
      rw [Text.cutOn?, still]
    · rename_i none_here
      obtain ⟨⟨first, rest⟩, cut, same⟩ := Option.map_eq_some_iff.1 opens
      cases same
      have long : opening.length ≤ (c :: a).length := by
        rw [(Text.cutOn?_eq_some cut).1]
        simp only [List.length_cons, List.length_append]
        omega
      have still := Text.after?_append_of_none none_here long b
      rw [List.cons_append] at still ⊢
      rw [Text.cutOn?, still, ih cut]
      rfl

/-! ### The references of a text made of two -/

theorem segments_first (text : List Char) :
    ∃ first rest, segments text = .text first :: rest := by
  cases opens : Text.cutOn? opening text with
  | none => exact ⟨text, [], segments_of_plain opens⟩
  | some parts =>
    obtain ⟨before, inner⟩ := parts
    cases closes : Text.cutAt? closing inner with
    | none => exact ⟨before, [.unclosed inner], segments_of_unclosed opens closes⟩
    | some parts => exact ⟨before, _, segments_of_closed opens closes⟩

/-- The references of the whole are those of the parts; the text around the cut is joined. -/
theorem segments_append {a b : List Char} (ended : ∀ inner, .unclosed inner ∉ segments a)
    (apart : Apart a b) :
    ∃ start last first rest, segments a = start ++ [.text last] ∧
      segments b = .text first :: rest ∧
      segments (a ++ b) = start ++ .text (last ++ first) :: rest := by
  induction a using segments.induct with
  | case1 a plain =>
    obtain ⟨first, rest, same⟩ := segments_first b
    refine ⟨[], a, first, rest, segments_of_plain plain, same, ?_⟩
    have cut := cutOn?_append_of_none apart plain
    cases opens : Text.cutOn? opening b with
    | none =>
      rw [segments_of_plain opens] at same
      cases same
      rw [opens] at cut
      exact segments_of_plain cut
    | some parts =>
      obtain ⟨before, inner⟩ := parts
      rw [opens] at cut
      cases closes : Text.cutAt? closing inner with
      | none =>
        rw [segments_of_unclosed opens closes] at same
        cases same
        exact segments_of_unclosed cut closes
      | some parts =>
        rw [segments_of_closed opens closes] at same
        cases same
        exact segments_of_closed cut closes
  | case2 a before inner opens unclosed =>
    rw [segments_of_unclosed opens unclosed] at ended
    exact absurd (List.mem_cons_of_mem _ List.mem_cons_self) (ended inner)
  | case3 a before inner opens body after closes this ih =>
    have cut := cutOn?_append_of_some opens b
    have close := Text.cutAt?_append_right closes b
    have same := segments_of_closed opens closes
    have split : a = before ++ (opening ++ (body ++ [closing])) ++ after := by
      rw [(Text.cutOn?_eq_some opens).1, (Text.cutAt?_eq_some closes).1]
      simp
    rw [split] at apart
    obtain ⟨start, last, first, rest, here, there, whole⟩ := ih
      (fun inner member => ended inner (same ▸ List.mem_cons_of_mem _ (List.mem_cons_of_mem _ member)))
      apart.of_append
    refine ⟨.text before :: .reference body :: start, last, first, rest, ?_, there, ?_⟩
    · rw [same, here]
      rfl
    · rw [segments_of_closed cut close, whole]
      rfl

/-! ### Runs one after the other -/

/-- A run does what a first run does, and when that succeeds what a second one does. Of the reports
only the warnings of recorders are compared: an offset in the second text is another in the whole. -/
structure Joins {α : Type} (combine : α → α → α) (first second whole : Run ScanError α) : Prop where
  error : ∀ e, first.result = .error e →
    whole.result = .error e ∧ ∀ id, recorded id whole.events = recorded id first.events
  ok : ∀ shown, first.result = .ok shown →
    whole.result = second.result.map (combine shown) ∧
      ∀ id, recorded id whole.events = recorded id first.events ++ recorded id second.events

theorem joins_raising {α : Type} (combine : α → α → α) (policy : Policy)
    (problems more : List ReferenceError) (x y : α) {first second whole : List Event}
    (quiet : ∀ id, recorded id first = [] ∧ recorded id second = [] ∧ recorded id whole = []) :
    Joins combine (raising policy problems x first) (raising policy more y second)
      (raising policy (problems ++ more) (combine x y) whole) := by
  cases raised : policy.raiseAll problems with
  | mk result events =>
    cases result with
    | error e =>
      have all : policy.raiseAll (problems ++ more) = ⟨.error e, events⟩ := by
        rw [Policy.raiseAll_append, raised]
        rfl
      rw [raising_of_error raised, raising_of_error all]
      exact ⟨fun _ same => ⟨same, fun _ => rfl⟩, nofun⟩
    | ok _ =>
      have all : policy.raiseAll (problems ++ more) =
          ⟨(policy.raiseAll more).result, events ++ (policy.raiseAll more).events⟩ := by
        rw [Policy.raiseAll_append, raised]
        rfl
      rw [raising_of_ok raised]
      cases later : policy.raiseAll more with
      | mk result reports =>
        rw [later] at all
        cases result with
        | error e =>
          rw [raising_of_error later, raising_of_error all]
          refine ⟨nofun, ?_⟩
          rintro shown ⟨⟩
          refine ⟨rfl, fun id => ?_⟩
          simp only [recorded_append, quiet id, List.append_nil]
        | ok _ =>
          rw [raising_of_ok later, raising_of_ok all]
          refine ⟨nofun, ?_⟩
          rintro shown ⟨⟩
          refine ⟨rfl, fun id => ?_⟩
          simp only [recorded_append, quiet id, List.append_nil]

/-- What the references of a text raise and show is that of its two parts. -/
theorem shown_append (ctx : Context) (host : PlainHost) {a b : List Char}
    (ended : ∀ inner, .unclosed inner ∉ segments a) (apart : Apart a b) :
    let problems (text : List Char) := (segments text).flatMap (Segment.problems ctx)
    let nodes (text : List Char) := (segments text).map (Segment.node ctx)
    problems (a ++ b) = problems a ++ problems b ∧
      host.nodesText (nodes (a ++ b)) = host.nodesText (nodes a) ++ host.nodesText (nodes b) ∧
      (nodes (a ++ b)).filterMap Node.token? =
        (nodes a).filterMap Node.token? ++ (nodes b).filterMap Node.token? := by
  intro problems nodes
  obtain ⟨start, last, first, rest, here, there, whole⟩ := segments_append ended apart
  simp only [problems, nodes, here, there, whole]
  refine ⟨?_, ?_, ?_⟩
  · simp [Segment.problems]
  · simp [PlainHost.nodesText, PlainHost.nodeText, Segment.node, String.append_assoc]
  · simp [List.filterMap_cons, Segment.node, Node.token?]

/-- With one context installed, a text made of two renders as the first and then the second, unless
the first leaves a reference open or an opening spans the cut. A failure of the first is one of the
whole; the warnings of both are recorded in order. -/
theorem render_append (ctx : Context) (hooks : Assoc RenderHook) (a b : String)
    (ended : ∀ inner, .unclosed inner ∉ segments a.toList)
    (apart : ¬ (a.toList.getLast? = some '#' ∧ b.toList.head? = some '{')) :
    let host := (PlainHost.mk [] hooks).installContext ctx
    Joins (· ++ ·) (host.render a) (host.render b) (host.render (a ++ b)) ∧
      Joins (· ++ ·) (host.tokenize a) (host.tokenize b) (host.tokenize (a ++ b)) ∧
      ∀ e, (host.render a).result = .error e ↔ (host.tokenize a).result = .error e := by
  intro host
  cases empty : ctx.lexicon.isEmpty with
  | true =>
    have copied (source : String) :
        host.render source = .ok source ∧ host.tokenize source = .ok [] := by
      refine scan_of_declined ?_ source
      intro entry member s
      obtain rfl := List.mem_singleton.1 member
      exact variableRule_of_empty empty s false
    rw [(copied a).1, (copied b).1, (copied (a ++ b)).1, (copied a).2, (copied b).2,
      (copied (a ++ b)).2]
    refine ⟨⟨nofun, ?_⟩, ⟨nofun, ?_⟩, fun e => ⟨nofun, nofun⟩⟩
    · rintro shown ⟨⟩
      exact ⟨rfl, fun _ => rfl⟩
    · rintro shown ⟨⟩
      exact ⟨rfl, fun _ => rfl⟩
  | false =>
    have only : host.rules = [(variableRuleName, variableRule ctx)] := rfl
    have raises := PlainHost.render_raising only empty
    obtain ⟨problems, text, tokens⟩ := shown_append ctx host ended apart
    dsimp only at problems text tokens
    have quiet (id : Nat) :
        recorded id (unclosedReports 0 (segments a.toList)) = [] ∧
          recorded id (unclosedReports 0 (segments b.toList)) = [] ∧
          recorded id (unclosedReports 0 (segments (a.toList ++ b.toList))) = [] :=
      ⟨recorded_unclosedReports .., recorded_unclosedReports .., recorded_unclosedReports ..⟩
    refine ⟨?_, ?_, ?_⟩
    · rw [(raises a).1, (raises b).1, (raises (a ++ b)).1, String.toList_append, problems, text]
      exact joins_raising (· ++ ·) ctx.policy _ _ _ _ quiet
    · rw [(raises a).2, (raises b).2, (raises (a ++ b)).2, String.toList_append, problems, tokens]
      exact joins_raising (· ++ ·) ctx.policy _ _ _ _ quiet
    · intro e
      rw [PlainHost.render_eq only empty, PlainHost.tokenize_eq only empty, finish_error_iff,
        finish_error_iff]

theorem render_append_greeting :
    let host := PlainHost.empty.installContext greetingContext
    let a := "#\x7bgreeting\x7d \x7bé#"
    let b := "#\x7babsent\x7d#\x7bgreeting"
    (∀ inner, .unclosed inner ∉ segments a.toList) ∧
      ¬ (a.toList.getLast? = some '#' ∧ b.toList.head? = some '{') ∧
      Joins (· ++ ·) (host.render a) (host.render b) (host.render (a ++ b)) := by
  intro host a b
  have divided : segments a.toList =
      [.text [], .reference "greeting".toList, .text [' ', '{', 'é', '#']] := by
    have opens : Text.cutOn? opening a.toList = some ([], "greeting\x7d \x7bé#".toList) := by decide
    have closes : Text.cutAt? closing "greeting\x7d \x7bé#".toList =
        some ("greeting".toList, [' ', '{', 'é', '#']) := by decide
    have plain : Text.cutOn? opening [' ', '{', 'é', '#'] = none := by decide
    rw [segments_of_closed opens closes, segments_of_plain plain]
  have ended : ∀ inner, .unclosed inner ∉ segments a.toList := by
    intro inner
    rw [divided]
    simp
  have apart : ¬ (a.toList.getLast? = some '#' ∧ b.toList.head? = some '{') := by
    have first : b.toList.head? = some '#' := by decide
    rw [first]
    exact fun same => absurd same.2 (by decide)
  exact ⟨ended, apart, (render_append greetingContext [] a b ended apart).1⟩

end InlineVariables.Inline
