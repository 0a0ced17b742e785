import InlineVariables.Proofs.Reference
import InlineVariables.Proofs.Resolution

/-!
What resolving a reference raises and shows, for each kind of variable (`Context.resolve_by_kind`). Of
its tokens it counts whether there are any, and which modifiers they ask for; nothing else does
(`Context.resolve_of_same_modifiers`).
-/

namespace InlineVariables

/-! ### Elements spelled out -/

namespace Markup

theorem element_of_field (name field value content : String) :
    element name [(field, value)] content =
      ("<" ++ name ++ " " ++ field ++ "=\"") ++ value ++ "\">" ++ content ++
        ("</" ++ name ++ ">") := by
  simp [element, attributesText, String.append_assoc]

theorem abbr_eq (title short : String) :
    abbr title short = "<abbr title=\"" ++ title ++ "\">" ++ short ++ "</abbr>" :=
  element_of_field "abbr" "title" title short

theorem link_eq (href content : String) :
    link href content = "<a href=\"" ++ href ++ "\">" ++ content ++ "</a>" :=
  element_of_field "a" "href" href content

theorem span_eq (className content : String) :
    span className content = "<span class=\"" ++ className ++ "\">" ++ content ++ "</span>" :=
  element_of_field "span" "class" className content

end Markup

/-! ### Problems and content of a structured variable -/

namespace Reference

variable (r : Reference) (record : Record)

theorem lacksAbbr_iff :
    r.lacksAbbr record = true ↔
      ("abbr" ∈ r.modifiers ∨ "-" ∈ r.modifiers) ∧ record.abbr? = none := by
  unfold lacksAbbr
  rw [Bool.and_eq_true, has_abbr_iff, Option.isNone_iff_eq_none]

theorem lacksUrl_iff :
    r.lacksUrl record = true ↔
      ("link" ∈ r.modifiers ∨ "#" ∈ r.modifiers) ∧ record.url? = none := by
  unfold lacksUrl
  rw [Bool.and_eq_true, has_link_iff, Option.isNone_iff_eq_none]

theorem problems_structured :
    r.problems (some (.structured record)) =
      (if ("abbr" ∈ r.modifiers ∨ "-" ∈ r.modifiers) ∧ record.abbr? = none then
        [.missingAbbreviation r.key] else []) ++
      (if ("link" ∈ r.modifiers ∨ "#" ∈ r.modifiers) ∧ record.url? = none then
        [.missingUrl r.key] else []) := by
  unfold problems
  simp only [lacksAbbr_iff, lacksUrl_iff]

theorem labelText_eq :
    r.labelText record =
      match record.abbr? with
      | some short =>
        if "abbr" ∈ r.modifiers ∨ "-" ∈ r.modifiers then
          "<abbr title=\"" ++ record.label ++ "\">" ++ short ++ "</abbr>"
        else record.label
      | none => record.label := by
  unfold labelText
  simp only [← has_abbr_iff]
  cases record.abbr? with
  | none => cases r.has .abbr <;> rfl
  | some short =>
    cases r.has .abbr with
    | false => rfl
    | true => exact Markup.abbr_eq record.label short

theorem linkText_eq (content : String) :
    r.linkText record content =
      match record.url? with
      | some target =>
        if "link" ∈ r.modifiers ∨ "#" ∈ r.modifiers then
          "<a href=\"" ++ target ++ "\">" ++ content ++ "</a>"
        else content
      | none => content := by
  unfold linkText
  simp only [← has_link_iff]
  cases record.url? with
  | none => cases r.has .link <;> rfl
  | some target =>
    cases r.has .link with
    | false => rfl
    | true => exact Markup.link_eq target content

end Reference

namespace Context

theorem wrap_eq (ctx : Context) (content : String) :
    ctx.wrap content =
      match ctx.className with
      | some name => "<span class=\"" ++ name ++ "\">" ++ content ++ "</span>"
      | none => content := by
  unfold wrap
  cases ctx.className with
  | none => rfl
  | some name => exact Markup.span_eq name content

/-- Resolving raises the problems of a reference in order, up to the first that is fatal. When none is,
it shows nothing for an unknown key, the text of a simple variable, and of a structured one the label,
as a short form and in a link where these are asked for and present. -/
theorem resolve_by_kind (ctx : Context) (body : String) :
    let r := Reference.ofBody body
    let asksAbbr := "abbr" ∈ r.modifiers ∨ "-" ∈ r.modifiers
    let asksLink := "link" ∈ r.modifiers ∨ "#" ∈ r.modifiers
    let spanned (content : String) :=
      match ctx.className with
      | some name => "<span class=\"" ++ name ++ "\">" ++ content ++ "</span>"
      | none => content
    r.body = body ∧ r.BarFree ∧
    ∃ problems shown,
      ctx.resolve body = (ctx.policy.raiseAll problems).andThen (fun _ => .ok shown) ∧
      (ctx.resolve body).result =
        (match problems.find? ctx.policy.isFatal with
        | some e => .error e
        | none => .ok shown) ∧
      (ctx.resolve body).events =
        ctx.policy.warnings
          ((problems.takeWhile (!ctx.policy.isFatal ·)).filter ctx.policy.isReported) ∧
      match ctx.lexicon.get? r.key with
      | none => problems = [.unknownVariable r.key] ∧ shown = none
      | some (.simple text) =>
        problems = (if r.modifiers = [] then [] else [.unexpectedModifier r.key]) ∧
          shown = some (spanned text)
      | some (.structured record) =>
        let label :=
          match record.abbr? with
          | some short =>
            if asksAbbr then "<abbr title=\"" ++ record.label ++ "\">" ++ short ++ "</abbr>"
            else record.label
          | none => record.label
        let content :=
          match record.url? with
          | some target => if asksLink then "<a href=\"" ++ target ++ "\">" ++ label ++ "</a>" else label
          | none => label
        problems =
            (if asksAbbr ∧ record.abbr? = none then [.missingAbbreviation r.key] else []) ++
              (if asksLink ∧ record.url? = none then [.missingUrl r.key] else []) ∧
          shown = some (spanned content) := by
  intro r asksAbbr asksLink spanned
  have raised := ctx.resolve_eq body
  have outcome := raised
  rw [Policy.raiseAll_andThen] at outcome
  refine ⟨Reference.body_ofBody body, Reference.ofBody_barFree body, ctx.problems r,
    ctx.replacement r, raised, congrArg Run.result outcome, congrArg Run.events outcome, ?_⟩
  unfold problems replacement
  cases ctx.lexicon.get? r.key with
  | none => exact ⟨rfl, rfl⟩
  | some found =>
    cases found with
    | simple text =>
      refine ⟨?_, congrArg some (ctx.wrap_eq text)⟩
      unfold Reference.problems
      cases chain : r.modifiers with
      | nil => simp [Reference.hasModifiers, chain]
      | cons token rest => simp [Reference.hasModifiers, chain]
    | structured record =>
      refine ⟨r.problems_structured record, ?_⟩
      rw [Option.map_some, wrap_eq, Reference.shown, Reference.linkText_eq, Reference.labelText_eq]

end Context

/-! ### Chains of tokens that ask for the same -/

/-- Two chains that are empty together and ask for the same modifiers. -/
structure SameModifiers (a b : List String) : Prop where
  empty : a = [] ↔ b = []
  asked : ∀ modifier, Modifier.AskedBy a modifier ↔ Modifier.AskedBy b modifier

namespace SameModifiers

variable {a b before after : List String} {token other : String}

theorem of_families (empty : a = [] ↔ b = [])
    (abbr : "abbr" ∈ a ∨ "-" ∈ a ↔ "abbr" ∈ b ∨ "-" ∈ b)
    (link : "link" ∈ a ∨ "#" ∈ a ↔ "link" ∈ b ∨ "#" ∈ b) : SameModifiers a b := by
  refine ⟨empty, fun modifier => ?_⟩
  cases modifier with
  | abbr => rw [Modifier.askedBy_abbr_iff, Modifier.askedBy_abbr_iff, abbr]
  | link => rw [Modifier.askedBy_link_iff, Modifier.askedBy_link_iff, link]

/-- Neither order nor repetition counts. -/
theorem of_mem_iff (same : ∀ token, token ∈ a ↔ token ∈ b) : SameModifiers a b := by
  refine ⟨?_, fun modifier => ?_⟩
  · simp only [List.eq_nil_iff_forall_not_mem, same]
  · simp only [Modifier.AskedBy, same]

theorem replace (same : Modifier.ofToken? token = Modifier.ofToken? other) :
    SameModifiers (before ++ token :: after) (before ++ other :: after) := by
  refine ⟨by simp, fun modifier => ?_⟩
  rw [Modifier.askedBy_append, Modifier.askedBy_append, Modifier.askedBy_cons,
    Modifier.askedBy_cons, same]

theorem insert_unknown (some_token : before ++ after ≠ []) (unknown : Modifier.Unknown token) :
    SameModifiers (before ++ token :: after) (before ++ after) := by
  refine ⟨by simpa using some_token, fun modifier => ?_⟩
  rw [Modifier.askedBy_append, Modifier.askedBy_append, Modifier.askedBy_cons,
    Modifier.ofToken?_of_unknown unknown]
  simp

end SameModifiers

namespace Reference

variable {key : String} {a b : List String}

theorem has_congr (asked : ∀ modifier, Modifier.AskedBy a modifier ↔ Modifier.AskedBy b modifier)
    (modifier : Modifier) : (Reference.mk key a).has modifier = (Reference.mk key b).has modifier := by
  rw [Bool.eq_iff_iff, has_iff, has_iff]
  exact asked modifier

theorem hasModifiers_congr (empty : a = [] ↔ b = []) :
    (Reference.mk key a).hasModifiers = (Reference.mk key b).hasModifiers := by
  rw [Bool.eq_iff_iff, hasModifiers_iff, hasModifiers_iff]
  exact not_congr empty

section

variable (asked : ∀ modifier, Modifier.AskedBy a modifier ↔ Modifier.AskedBy b modifier)

include asked

theorem problems_structured_congr (record : Record) :
    (Reference.mk key a).problems (some (.structured record)) =
      (Reference.mk key b).problems (some (.structured record)) := by
  have abbr : (Reference.mk key a).has .abbr = (Reference.mk key b).has .abbr := has_congr asked .abbr
  have link : (Reference.mk key a).has .link = (Reference.mk key b).has .link := has_congr asked .link
  unfold problems lacksAbbr lacksUrl
  dsimp only
  rw [abbr, link]

theorem shown_congr (found : Variable) :
    (Reference.mk key a).shown found = (Reference.mk key b).shown found := by
  cases found with
  | simple text => rfl
  | structured record => simp only [shown, labelText, linkText, has_congr asked]

end

theorem problems_congr (same : SameModifiers a b) (found : Option Variable) :
    (Reference.mk key a).problems found = (Reference.mk key b).problems found := by
  match found with
  | none => rfl
  | some (.simple text) => simp only [problems, hasModifiers_congr same.empty]
  | some (.structured record) => exact problems_structured_congr same.asked record

end Reference

namespace Context

variable {ctx : Context} {key : String} {a b : List String}

/-- Resolving a body that is put together from a key and tokens. -/
theorem resolve_body {r : Reference} (free : r.BarFree) :
    ctx.resolve r.body =
      (ctx.policy.raiseAll (ctx.problems r)).andThen fun _ => .ok (ctx.replacement r) := by
  rw [resolve_eq, Reference.ofBody_body free]

theorem resolve_congr (free : (Reference.mk key a).BarFree) (free' : (Reference.mk key b).BarFree)
    (same : SameModifiers a b) :
    ctx.resolve (Reference.mk key a).body = ctx.resolve (Reference.mk key b).body := by
  rw [resolve_body free, resolve_body free']
  simp only [problems, replacement, Reference.problems_congr same, Reference.shown_congr same.asked]

theorem resolve_structured_congr {record : Record}
    (found : ctx.lexicon.get? key = some (.structured record))
    (free : (Reference.mk key a).BarFree) (free' : (Reference.mk key b).BarFree)
    (asked : ∀ modifier, Modifier.AskedBy a modifier ↔ Modifier.AskedBy b modifier) :
    ctx.resolve (Reference.mk key a).body = ctx.resolve (Reference.mk key b).body := by
  rw [resolve_body free, resolve_body free']
  simp only [problems, replacement, found, Reference.problems_structured_congr asked,
    Reference.shown_congr asked]

/-- Of the tokens after a key it counts whether there are any, and which modifiers they ask for. So
neither their order nor repetitions nor other names of a modifier nor unknown tokens are seen; the first
unknown token is seen on a simple variable alone. -/
theorem resolve_of_same_modifiers (ctx : Context) (key : String) :
    let resolve (tokens : List String) := ctx.resolve (Reference.mk key tokens).body
    let free (tokens : List String) := (Reference.mk key tokens).BarFree
    (∀ a b, free a → free b → (a = [] ↔ b = []) →
      ("abbr" ∈ a ∨ "-" ∈ a ↔ "abbr" ∈ b ∨ "-" ∈ b) →
      ("link" ∈ a ∨ "#" ∈ a ↔ "link" ∈ b ∨ "#" ∈ b) → resolve a = resolve b) ∧
    (∀ a b, free a → a.Perm b → resolve a = resolve b) ∧
    (∀ before token after, free (before ++ after) → token ∈ before ++ after →
      resolve (before ++ token :: after) = resolve (before ++ after)) ∧
    (∀ before token other after, free (before ++ token :: after) → free (before ++ other :: after) →
      Modifier.ofToken? token = Modifier.ofToken? other →
        resolve (before ++ token :: after) = resolve (before ++ other :: after)) ∧
    (∀ before token after, free (before ++ token :: after) → before ++ after ≠ [] →
      Modifier.Unknown token → resolve (before ++ token :: after) = resolve (before ++ after)) ∧
    ∀ record tokens, ctx.lexicon.get? key = some (.structured record) → free tokens →
      (∀ token ∈ tokens, Modifier.Unknown token) → resolve tokens = resolve [] := by
  intro resolve free
  have fewer : ∀ {a b : List String}, free a → (∀ token ∈ b, token ∈ a) → free b := by
    intro a b all part
    obtain ⟨own, tokens⟩ := List.forall_mem_cons.1 all
    exact List.forall_mem_cons.2 ⟨own, fun token member => tokens token (part token member)⟩
  refine ⟨?_, ?_, ?_, ?_, ?_, ?_⟩
  · intro a b free_a free_b empty abbr link
    exact resolve_congr free_a free_b (.of_families empty abbr link)
  · intro a b free_a perm
    have free_b := fewer free_a fun token member => perm.mem_iff.2 member
    exact resolve_congr free_a free_b (.of_mem_iff fun _ => perm.mem_iff)
  · intro before token after free_short there
    have same : ∀ x, x ∈ before ++ token :: after ↔ x ∈ before ++ after := by
      intro x
      grind
    have free_long := fewer free_short fun x member => (same x).1 member
    exact resolve_congr free_long free_short (.of_mem_iff same)
  · intro before token other after free_token free_other same
    exact resolve_congr free_token free_other (.replace same)
  · intro before token after free_long some_token unknown
    have free_short : free (before ++ after) := by
      apply fewer free_long
      intro x member
      grind
    exact resolve_congr free_long free_short (.insert_unknown some_token unknown)
  · intro record tokens found free_tokens unknown
    have none_asked : ∀ modifier, Modifier.AskedBy tokens modifier ↔ Modifier.AskedBy [] modifier := by
      intro modifier
      refine iff_of_false ?_ nofun
      rintro ⟨token, member, asks⟩
      rw [Modifier.ofToken?_of_unknown (unknown token member)] at asks
      cases asks
    exact resolve_structured_congr found free_tokens (fewer free_tokens nofun) none_asked

private def agency : Record :=
  ⟨[("label", "World Health Organization"), ("url", "https://www.who.int")]⟩

private def agencyContext : Context :=
  ⟨⟨[("who", .structured agency)]⟩, ⟨.warn, false, .recorder 1⟩, some "var"⟩

private def manyTokens : Reference :=
  ⟨"who", ["LINK", "-", "", "#", "abbr"]⟩

private def fewTokens : Reference :=
  ⟨"who", ["abbr", "link"]⟩

private def unknownTokens : Reference :=
  ⟨"who", ["LINK", ""]⟩

/-- A short form is asked for under two names, and there is none; other tokens are empty or in capitals. -/
theorem resolve_of_same_modifiers_agency :
    manyTokens.BarFree ∧ fewTokens.BarFree ∧
      (manyTokens.modifiers = [] ↔ fewTokens.modifiers = []) ∧
      ("abbr" ∈ manyTokens.modifiers ∨ "-" ∈ manyTokens.modifiers ↔
        "abbr" ∈ fewTokens.modifiers ∨ "-" ∈ fewTokens.modifiers) ∧
      ("link" ∈ manyTokens.modifiers ∨ "#" ∈ manyTokens.modifiers ↔
        "link" ∈ fewTokens.modifiers ∨ "#" ∈ fewTokens.modifiers) ∧
      agencyContext.resolve "who|LINK|-||#|abbr" = agencyContext.resolve "who|abbr|link" ∧
      (agencyContext.resolve "who|abbr|link").result = .ok (some ("<span class=\"var\">" ++
        "<a href=\"https://www.who.int\">World Health Organization</a></span>")) ∧
      (agencyContext.resolve "who|abbr|link").events =
        [.warning (.recorder 1) (.missingAbbreviation "who")] ∧
      agencyContext.lexicon.get? "who" = some (.structured agency) ∧
      (∀ token ∈ unknownTokens.modifiers, Modifier.Unknown token) ∧
      agencyContext.resolve "who|LINK|" = agencyContext.resolve "who" := by
  have free_many : manyTokens.BarFree := by
    simp [Reference.BarFree, Reference.separator, manyTokens]
  have free_few : fewTokens.BarFree := by
    simp [Reference.BarFree, Reference.separator, fewTokens]
  have empty : manyTokens.modifiers = [] ↔ fewTokens.modifiers = [] := by
    decide
  have abbr : "abbr" ∈ manyTokens.modifiers ∨ "-" ∈ manyTokens.modifiers ↔
      "abbr" ∈ fewTokens.modifiers ∨ "-" ∈ fewTokens.modifiers := by
    decide
  have link : "link" ∈ manyTokens.modifiers ∨ "#" ∈ manyTokens.modifiers ↔
      "link" ∈ fewTokens.modifiers ∨ "#" ∈ fewTokens.modifiers := by
    decide
  have many : manyTokens.body = "who|LINK|-||#|abbr" := by
    decide
  have few : fewTokens.body = "who|abbr|link" := by
    decide
  have same : agencyContext.resolve manyTokens.body = agencyContext.resolve fewTokens.body :=
    (agencyContext.resolve_of_same_modifiers "who").1 manyTokens.modifiers fewTokens.modifiers
      free_many free_few empty abbr link
  rw [many, few] at same
  have free_unknown : unknownTokens.BarFree := by
    simp [Reference.BarFree, Reference.separator, unknownTokens]
  have unknown : ∀ token ∈ unknownTokens.modifiers, Modifier.Unknown token := by
    simp [Modifier.Unknown, unknownTokens]
  have spelled : unknownTokens.body = "who|LINK|" := by
    decide
  have key : (Reference.mk "who" []).body = "who" := by
    decide
  have nothing : agencyContext.resolve unknownTokens.body =
      agencyContext.resolve (Reference.mk "who" []).body :=
    (agencyContext.resolve_of_same_modifiers "who").2.2.2.2.2 agency unknownTokens.modifiers rfl
      free_unknown unknown
  rw [spelled, key] at nothing
  exact ⟨free_many, free_few, empty, abbr, link, same, rfl, rfl, rfl, unknown, nothing⟩

end Context

end InlineVariables
