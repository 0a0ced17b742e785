import InlineVariables.Context
import InlineVariables.Markup
import InlineVariables.Reference

/-!
Resolution of references: the text that a reference stands for in a context. The short form is chosen
before the link is put around it, so the nesting does not depend on the order of the modifiers.
-/

namespace InlineVariables.Context

/-- The text of a simple variable. It takes no modifiers, and asking for one is raised. -/
def simpleContent (ctx : Context) (r : Reference) (text : String) : Run ReferenceError String := do
  if r.hasModifiers then ctx.policy.raise (.unexpectedModifier r.key)
  return text

/-- The label, or the short form when it is asked for and there is one. -/
def labelContent (ctx : Context) (r : Reference) (record : Record) : Run ReferenceError String :=
  if r.has .abbr then
    match record.abbr? with
    | some short => return Markup.abbr record.label short
    | none => do
      ctx.policy.raise (.missingAbbreviation r.key)
      return record.label
  else return record.label

/-- Puts a link around the content when it is asked for and there is a target. -/
def linkContent (ctx : Context) (r : Reference) (record : Record) (content : String) :
    Run ReferenceError String :=
  if r.has .link then
    match record.url? with
    | some target => return Markup.link target content
    | none => do
      ctx.policy.raise (.missingUrl r.key)
      return content
  else return content

/-- The text of a variable under the modifiers of a reference. -/
def content (ctx : Context) (r : Reference) : Variable → Run ReferenceError String
  | .simple text => ctx.simpleContent r text
  | .structured record => do
    let label ← ctx.labelContent r record
    ctx.linkContent r record label

def wrap (ctx : Context) (replacement : String) : String :=
  match ctx.className with
  | some name => Markup.span name replacement
  | none => replacement

/-- The replacement of a reference, given by its body; nothing for an unknown key. -/
def resolve (ctx : Context) (body : String) : Run ReferenceError (Option String) :=
  let r := Reference.ofBody body
  match ctx.lexicon.get? r.key with
  | none => do
    ctx.policy.raise (.unknownVariable r.key)
    return none
  | some found => do
    let replacement ← ctx.content r found
    return some (ctx.wrap replacement)

end InlineVariables.Context
