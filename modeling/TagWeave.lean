import TagWeave.Data.Writer
import TagWeave.Main
import TagWeave.Proofs.Dictionary
import TagWeave.Proofs.Text.Runs
import TagWeave.Proofs.Text.Words
import TagWeave.Proofs.Text.Slice
import TagWeave.Proofs.Text.Boundary
import TagWeave.Proofs.Text.AsciiCase
import TagWeave.Proofs.Text.Lowercase
import TagWeave.Proofs.Text.FinalSigma
import TagWeave.Proofs.Number.Digits
import TagWeave.Proofs.Number.Decimal
import TagWeave.Proofs.Field.DurationText
import TagWeave.Proofs.Field.DurationWords
import TagWeave.Proofs.Field.DurationFraction
import TagWeave.Proofs.Markup.Name
import TagWeave.Proofs.Markup.TagForm
import TagWeave.Proofs.Markup.TagReading
import TagWeave.Proofs.Markup.BrokenTags
import TagWeave.Proofs.Markup.Tiling
import TagWeave.Proofs.Markup.ScanAppend
import TagWeave.Proofs.Markup.Continuations
import TagWeave.Proofs.Markup.ErrorSpans
import TagWeave.Proofs.Markup.WrittenAttributes
import TagWeave.Proofs.Markup.AttributeGrammar
import TagWeave.Proofs.Markup.AttributeText
import TagWeave.Proofs.Markup.AttributeEdits
import TagWeave.Proofs.Markup.TagBody
import TagWeave.Proofs.Markup.Classes
import TagWeave.Proofs.Markup.ClassEdits
import TagWeave.Proofs.Markup.ClassToggle
import TagWeave.Proofs.Component.Fields
import TagWeave.Proofs.Component.Element
import TagWeave.Proofs.Component.Merging
import TagWeave.Proofs.Component.Precedence
import TagWeave.Proofs.Component.ClassAttribute
import TagWeave.Proofs.Component.DeclaredFields
import TagWeave.Proofs.Registry.Lookup
import TagWeave.Proofs.Registry.Registration
import TagWeave.Proofs.Registry.Counters
import TagWeave.Proofs.Registry.History
import TagWeave.Proofs.Registry.FirstRegistrations
import TagWeave.Proofs.Registry.GeneratedIds
import TagWeave.Proofs.Registry.ReservedNames
import TagWeave.Proofs.Composition.Binding
import TagWeave.Proofs.Composition.Expansion
import TagWeave.Proofs.Composition.Steps
import TagWeave.Proofs.Composition.Filling
import TagWeave.Proofs.Composition.Runs
import TagWeave.Proofs.Composition.Output
import TagWeave.Proofs.Composition.Append
import TagWeave.Proofs.Composition.Reached
import TagWeave.Proofs.Composition.DocumentOrder
import TagWeave.Proofs.Composition.Requests
import TagWeave.Proofs.Composition.Handles
import TagWeave.Proofs.Composition.Depth
import TagWeave.Proofs.Composition.EntryPoints
import TagWeave.Proofs.Composition.Courses
import TagWeave.Proofs.Composition.Limits
import TagWeave.Proofs.Composition.Strictness
import TagWeave.Proofs.Composition.Nesting
import TagWeave.Proofs.Composition.Cycles
import TagWeave.Proofs.Composition.Executions
import TagWeave.Proofs.Composition.Styles
import TagWeave.Proofs.Composition.SingleTag
import TagWeave.Proofs.Composition.SyntaxErrors
import TagWeave.Proofs.Settings.Containers
