import PageCheck.Browser.Command
import PageCheck.Browser.Http
import PageCheck.Browser.Script
import PageCheck.Browser.Scripted
import PageCheck.Browser.WebDriver
import PageCheck.Check
import PageCheck.CommandLine.Arguments
import PageCheck.CommandLine.Conduct
import PageCheck.CommandLine.Invocation
import PageCheck.Config
import PageCheck.Console
import PageCheck.Context
import PageCheck.Cookie
import PageCheck.Decimal.Double
import PageCheck.Decimal.Reading
import PageCheck.Decimal.Shortest
import PageCheck.Error
import PageCheck.Expression.Path
import PageCheck.Expression.Resolver
import PageCheck.Files
import PageCheck.Handlers
import PageCheck.Json.Decode
import PageCheck.Json.Draft
import PageCheck.Json.Value
import PageCheck.Json.Writer
import PageCheck.Locations
import PageCheck.Locator
import PageCheck.Main
import PageCheck.Options
import PageCheck.Pass
import PageCheck.Pattern.Basic
import PageCheck.Pattern.CharSet
import PageCheck.Pattern.Compile
import PageCheck.Pattern.Fault
import PageCheck.Pattern.Matcher
import PageCheck.Pattern.Outline
import PageCheck.Pattern.Parser
import PageCheck.Pattern.Property
import PageCheck.Pattern.Size
import PageCheck.Pattern.Spelling
import PageCheck.Pattern.Syntax
import PageCheck.Plan
import PageCheck.Registry
import PageCheck.Report.Basic
import PageCheck.Report.Filter
import PageCheck.Report.Summary
import PageCheck.Run
import PageCheck.Step.Actions
import PageCheck.Step.Basic
import PageCheck.Step.Capture
import PageCheck.Step.Waiting
import PageCheck.Store
import PageCheck.Toml.Document
import PageCheck.Toml.Number
import PageCheck.Toml.Text
import PageCheck.Toml.Value
import PageCheck.Unicode.Age
import PageCheck.Unicode.Casing
import PageCheck.Unicode.Category
import PageCheck.Unicode.CodePoints
import PageCheck.Unicode.Letters
import PageCheck.Unicode.Normalization
import PageCheck.Unicode.Property
import PageCheck.Unicode.Prose
import PageCheck.Unicode.Script
import PageCheck.Unicode.Segmentation
import PageCheck.Unicode.Sequences
import PageCheck.Unicode.Shaping
import PageCheck.Url.Basic
import PageCheck.Url.Component
import PageCheck.Url.Domain
import PageCheck.Url.Host
import PageCheck.Url.Mapping
import PageCheck.Url.Percent
import PageCheck.Url.Punycode
import PageCheck.Validation.Basic
import PageCheck.Validation.Comparison
import PageCheck.Validation.Url
import PageCheck.Validation.XPath
import PageCheck.ValidationFile
import PageCheck.Vocabulary
import PageCheck.Proofs.Browser.Morphism
import PageCheck.Proofs.Browser.Record
import PageCheck.Proofs.Run.Sessions
import PageCheck.Proofs.Run.Containment
import PageCheck.Proofs.Pass.History
import PageCheck.Proofs.Pass.Conclusion
import PageCheck.Proofs.Pass.Reports
import PageCheck.Proofs.Pass.Suppression
import PageCheck.Proofs.Json.Members
import PageCheck.Proofs.Store.Merge
import PageCheck.Proofs.Run.Definitions
import PageCheck.Proofs.Json.Reading
import PageCheck.Proofs.Json.Parsing
import PageCheck.Proofs.Json.Records
import PageCheck.Proofs.Json.Portable
import PageCheck.Proofs.Report.Encoding
import PageCheck.Proofs.Report.Decoding
import PageCheck.Proofs.Report.RoundTrip
import PageCheck.Proofs.Store.Placement
import PageCheck.Proofs.Run.Result
import PageCheck.Proofs.Expression.PathText
import PageCheck.Proofs.Expression.Lookup
import PageCheck.Proofs.Expression.Chain
import PageCheck.Proofs.Plan.Faults
import PageCheck.Proofs.Step.Resolution
import PageCheck.Proofs.Pass.Captures
import PageCheck.Proofs.Run.Visits
import PageCheck.Proofs.Run.Independence
import PageCheck.Proofs.Run.Groups
import PageCheck.Proofs.Json.Texts
import PageCheck.Proofs.Step.Leftovers
import PageCheck.Proofs.Run.Starts
import PageCheck.Proofs.Registry.Further
import PageCheck.Proofs.Pass.Turns
import PageCheck.Proofs.Run.Frame
import PageCheck.Proofs.Json.Grammar
import PageCheck.Proofs.Json.Documents
import PageCheck.Proofs.CommandLine.Agreement
import PageCheck.Proofs.Fallible
import PageCheck.Proofs.Json.Legible
import PageCheck.Proofs.Json.Drafts
import PageCheck.Proofs.File.Contents
import PageCheck.Proofs.File.RoundTrip
import PageCheck.Proofs.Expression.Rendering
import PageCheck.Proofs.Store.Refusal
import PageCheck.Proofs.File.Keys
import PageCheck.Proofs.Run.Events
import PageCheck.Proofs.Step.Endings
import PageCheck.Proofs.Store.Paths
import PageCheck.Proofs.Pattern.Anchoring
import PageCheck.Proofs.Step.Polling
import PageCheck.Proofs.CommandLine.Readings
import PageCheck.Proofs.CommandLine.Summaries
import PageCheck.Proofs.Pass.Validations
import PageCheck.Proofs.Store.Recall
import PageCheck.Proofs.Validation.Negation
import PageCheck.Proofs.Browser.Operations
import PageCheck.Proofs.Browser.Trail
import PageCheck.Proofs.Browser.Reloads
import PageCheck.Proofs.Browser.Selectors
import PageCheck.Proofs.Url.Percent
import PageCheck.Proofs.Url.Paths
import PageCheck.Proofs.Url.Below
import PageCheck.Proofs.Url.Endings
import PageCheck.Proofs.Browser.Requests
import PageCheck.Proofs.Browser.Cookies
import PageCheck.Proofs.Browser.Endpoints
import PageCheck.Proofs.Expression.Leaves
import PageCheck.Proofs.Expression.Positions
