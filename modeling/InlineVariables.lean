import InlineVariables.Error
import InlineVariables.Inline.Command
import InlineVariables.Proofs.Inline.Rounds
import InlineVariables.Proofs.Inline.VariableRule
import InlineVariables.Proofs.Inline.SingleCall
import InlineVariables.Proofs.Inline.Conservation
import InlineVariables.Proofs.Inline.Segments
import InlineVariables.Proofs.Reference
import InlineVariables.Proofs.Resolution
import InlineVariables.Proofs.Modifiers
import InlineVariables.Proofs.Inline.Expansion
import InlineVariables.Proofs.Inline.Severity
import InlineVariables.Proofs.Inline.Shadowing
import InlineVariables.Proofs.Inline.Concatenation
import InlineVariables.Proofs.Inline.NamedKeys
import InlineVariables.Proofs.Toml.UniqueKeys
import InlineVariables.Proofs.Toml.Restoration
import InlineVariables.Proofs.Toml.Merge
import InlineVariables.Proofs.Toml.EveryKey
import InlineVariables.Proofs.Toml.Reordering
import InlineVariables.Proofs.Toml.Leaves
import InlineVariables.Proofs.Options.Loading
import InlineVariables.Proofs.Options.Decoding
import InlineVariables.Proofs.Options.Override
import InlineVariables.Proofs.Options.Permutation
import InlineVariables.Proofs.Options.EnvironmentData
import InlineVariables.Proofs.Lexicon
import InlineVariables.Proofs.Inline.Registrations
import InlineVariables.Proofs.Options.Document
import InlineVariables.Proofs.Options.DirectReading
import InlineVariables.Proofs.Toml.LookUp
import InlineVariables.Proofs.Toml.Layers
import InlineVariables.Proofs.Lexicon.Handler
import InlineVariables.Proofs.Options.Sources
import InlineVariables.Proofs.Lexicon.Permutation
import InlineVariables.Proofs.Text.Cutting
import InlineVariables.Proofs.Options.EnvironmentNames
import InlineVariables.Proofs.Options.Acceptance
import InlineVariables.Proofs.Options.EnvironmentClassName
import InlineVariables.Proofs.Toml.StringForms
import InlineVariables.Proofs.Toml.NumberForms
import InlineVariables.Proofs.Toml.ValueForms
import InlineVariables.Proofs.Record.Composition
import InlineVariables.Proofs.Record.ReadBack
