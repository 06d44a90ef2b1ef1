import ContentFilters.Config.Fault
import ContentFilters.Config.Settings
import ContentFilters.Filter.Action
import ContentFilters.Filter.Basic
import ContentFilters.Filter.Descriptor
import ContentFilters.Filter.Error
import ContentFilters.Filter.Info
import ContentFilters.Filter.Kind
import ContentFilters.Filter.Params
import ContentFilters.Html.Clean
import ContentFilters.Html.Document.Scan
import ContentFilters.Html.Document.StartTag
import ContentFilters.Html.Document.Token
import ContentFilters.Html.Document.Tree
import ContentFilters.Html.Document.Write
import ContentFilters.Html.Escape
import ContentFilters.Html.Fragment.Adoption
import ContentFilters.Html.Fragment.Build
import ContentFilters.Html.Fragment.Link
import ContentFilters.Html.Fragment.Scan
import ContentFilters.Html.Fragment.Token
import ContentFilters.Html.Fragment.Tree
import ContentFilters.Html.Fragment.Write
import ContentFilters.Html.NamedReferences
import ContentFilters.Html.Policy
import ContentFilters.Html.Reference
import ContentFilters.Journal.Hierarchy
import ContentFilters.Journal.Level
import ContentFilters.Link.Address
import ContentFilters.Markdown.Abbreviation
import ContentFilters.Markdown.Annotation
import ContentFilters.Markdown.AttributeList
import ContentFilters.Markdown.Block.Basic
import ContentFilters.Markdown.Block.Declaration
import ContentFilters.Markdown.Block.Definition
import ContentFilters.Markdown.Block.Document
import ContentFilters.Markdown.Block.Heading
import ContentFilters.Markdown.Block.List
import ContentFilters.Markdown.Block.Nested
import ContentFilters.Markdown.Block.Table
import ContentFilters.Markdown.Element
import ContentFilters.Markdown.Escape
import ContentFilters.Markdown.Feature
import ContentFilters.Markdown.Fence
import ContentFilters.Markdown.Footnote
import ContentFilters.Markdown.Inline.Basic
import ContentFilters.Markdown.Inline.Emphasis
import ContentFilters.Markdown.Inline.Line
import ContentFilters.Markdown.Inline.Link
import ContentFilters.Markdown.Layout
import ContentFilters.Markdown.Mark
import ContentFilters.Markdown.Notes
import ContentFilters.Markdown.RawHtml.Extract
import ContentFilters.Markdown.RawHtml.Nest
import ContentFilters.Markdown.RawHtml.Tag
import ContentFilters.Markdown.Render
import ContentFilters.Markdown.Source
import ContentFilters.Markdown.Write
import ContentFilters.Proofs.Registry.History
import ContentFilters.Proofs.Registry.Views
import ContentFilters.Proofs.Tag.Expansion
import ContentFilters.Proofs.Tag.Reading
import ContentFilters.Proofs.Tag.Search
import ContentFilters.Proofs.Text.Cutting
import ContentFilters.Registry.Basic
import ContentFilters.Registry.Pipeline
import ContentFilters.Scripted
import ContentFilters.Standard.Admonition
import ContentFilters.Standard.Cleaning
import ContentFilters.Standard.CodeBlock
import ContentFilters.Standard.Library
import ContentFilters.Standard.Markup
import ContentFilters.Standard.OffsiteLinks
import ContentFilters.Standard.Tools
import ContentFilters.Tag.Attributes
import ContentFilters.Tag.Expansion
import ContentFilters.Tag.Scanner
import ContentFilters.Tag.Walk
import ContentFilters.Text.Basic
import ContentFilters.Text.CaseTable
import ContentFilters.Text.Lines
import ContentFilters.Text.LowerCase
import ContentFilters.Text.Pattern
import ContentFilters.Text.PrintTable
import ContentFilters.Text.Quoted
import ContentFilters.Text.Word
import ContentFilters.Text.WordTable
import ContentFilters.Value.Basic
import ContentFilters.Value.Binary64
import ContentFilters.Value.Display
import ContentFilters.Value.Printer
import ContentFilters.Value.Reader
import ContentFilters.Proofs.Filter.Expansion
import ContentFilters.Proofs.Tag.WrittenAttributes
import ContentFilters.Proofs.Tag.Document
import ContentFilters.Proofs.Filter.Pass
import ContentFilters.Proofs.Registry.Stage
import ContentFilters.Proofs.Tag.AttributeValues
import ContentFilters.Proofs.Registry.FlatChain
import ContentFilters.Proofs.Tag.Untouched
import ContentFilters.Proofs.Standard.CodeBlock
import ContentFilters.Proofs.Standard.ProtectedCode
import ContentFilters.Proofs.Journal.Requests
import ContentFilters.Proofs.Filter.Spelling
import ContentFilters.Proofs.Filter.StoredParams
import ContentFilters.Proofs.Registry.Addressing
import ContentFilters.Proofs.Filter.Sequential
import ContentFilters.Proofs.Standard.Registered
import ContentFilters.Proofs.Standard.Admonition
import ContentFilters.Proofs.Standard.Success
import ContentFilters.Proofs.Standard.Indifference
import ContentFilters.Proofs.Text.Pieces
import ContentFilters.Proofs.Html.Escaped
import ContentFilters.Proofs.Html.Tags
import ContentFilters.Proofs.Standard.CodeLines
import ContentFilters.Proofs.Standard.FixedMarkup
import ContentFilters.Proofs.Filter.CopiedTags
import ContentFilters.Proofs.Filter.Locality
import ContentFilters.Proofs.Html.Elements
import ContentFilters.Proofs.Html.Attributes
import ContentFilters.Proofs.Standard.OffsiteLinks
import ContentFilters.Proofs.Html.StartTags
import ContentFilters.Proofs.Html.Writing
import ContentFilters.Proofs.Standard.OverlookedLinks
import ContentFilters.Proofs.Registry.Identity
import ContentFilters.Proofs.Text.LowerCase
import ContentFilters.Proofs.Filter.NormalForm
import ContentFilters.Proofs.Tag.Succession
import ContentFilters.Proofs.Journal.Delivery
import ContentFilters.Proofs.Tag.PairScan
