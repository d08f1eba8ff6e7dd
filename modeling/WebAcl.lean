import WebAcl.Cli.Console
import WebAcl.Cli.Run
import WebAcl.Cli.Switches
import WebAcl.Compile.Basic
import WebAcl.Compile.Order
import WebAcl.Compile.Session
import WebAcl.Config.Basic
import WebAcl.Config.Issue
import WebAcl.Config.Lax
import WebAcl.Config.Plain
import WebAcl.Config.Sample
import WebAcl.Config.Source
import WebAcl.Feature.AddressList
import WebAcl.Feature.CustomRules
import WebAcl.Feature.ManagedGroups
import WebAcl.Feature.Mode
import WebAcl.Feature.PatternList
import WebAcl.Feature.RateLimit
import WebAcl.Files.Host
import WebAcl.Files.Path
import WebAcl.Files.Tree
import WebAcl.Hcl.Basic
import WebAcl.Hcl.OfValue
import WebAcl.Hcl.Quoted
import WebAcl.Json.Printer
import WebAcl.Log
import WebAcl.Log.Field
import WebAcl.Log.Journal
import WebAcl.Log.Layout
import WebAcl.Machine
import WebAcl.Main
import WebAcl.Managed.Group
import WebAcl.Managed.Registry
import WebAcl.Network.Cidr
import WebAcl.Number.Binary64
import WebAcl.Number.Literal
import WebAcl.Number.Notation
import WebAcl.Number.Shortest
import WebAcl.Policy.Basic
import WebAcl.Policy.Choice
import WebAcl.Policy.Rule
import WebAcl.Policy.Statement
import WebAcl.Priority.Allocator
import WebAcl.Priority.Band
import WebAcl.Problem
import WebAcl.Proofs.Acceptance
import WebAcl.Proofs.AddressBlocks
import WebAcl.Proofs.AddressForms
import WebAcl.Proofs.Addresses
import WebAcl.Proofs.Allocation
import WebAcl.Proofs.AllocatorRuns
import WebAcl.Proofs.Arrangement
import WebAcl.Proofs.BackingSets
import WebAcl.Proofs.Bands
import WebAcl.Proofs.BlockBodies
import WebAcl.Proofs.BuiltIn
import WebAcl.Proofs.Complaints
import WebAcl.Proofs.Containment
import WebAcl.Proofs.DashedNames
import WebAcl.Proofs.DecimalText
import WebAcl.Proofs.Decoding
import WebAcl.Proofs.Deployment
import WebAcl.Proofs.DocumentFaults
import WebAcl.Proofs.EmittedStatements
import WebAcl.Proofs.EnvironmentSettings
import WebAcl.Proofs.EqualScalars
import WebAcl.Proofs.EqualStatements
import WebAcl.Proofs.EscapedText
import WebAcl.Proofs.ExactAcceptance
import WebAcl.Proofs.Failures
import WebAcl.Proofs.FeatureIndependence
import WebAcl.Proofs.FeatureRules
import WebAcl.Proofs.Features
import WebAcl.Proofs.FrozenCopies
import WebAcl.Proofs.FrozenRules
import WebAcl.Proofs.GenericPath
import WebAcl.Proofs.HclAcceptance
import WebAcl.Proofs.HclParts
import WebAcl.Proofs.HclReader
import WebAcl.Proofs.HclText
import WebAcl.Proofs.HclTokens
import WebAcl.Proofs.HclWords
import WebAcl.Proofs.IndentedLines
import WebAcl.Proofs.IndentedText
import WebAcl.Proofs.Inspection
import WebAcl.Proofs.JsonFiles
import WebAcl.Proofs.JsonNodes
import WebAcl.Proofs.JsonNumbers
import WebAcl.Proofs.JsonScalars
import WebAcl.Proofs.JsonSources
import WebAcl.Proofs.JsonText
import WebAcl.Proofs.JsonTokens
import WebAcl.Proofs.LexicalFaults
import WebAcl.Proofs.LineBreaks
import WebAcl.Proofs.Listings
import WebAcl.Proofs.Literals
import WebAcl.Proofs.LoadFailures
import WebAcl.Proofs.LoadedValues
import WebAcl.Proofs.LogDestination
import WebAcl.Proofs.LowerCase
import WebAcl.Proofs.MadeRules
import WebAcl.Proofs.MadeStatements
import WebAcl.Proofs.ModeFlip
import WebAcl.Proofs.NameChars
import WebAcl.Proofs.NearestSource
import WebAcl.Proofs.Nesting
import WebAcl.Proofs.NodeFaults
import WebAcl.Proofs.NumberText
import WebAcl.Proofs.OrderIndependence
import WebAcl.Proofs.OrdinaryDepth
import WebAcl.Proofs.Outcome
import WebAcl.Proofs.Parts
import WebAcl.Proofs.PlainData
import WebAcl.Proofs.PolicyInvariants
import WebAcl.Proofs.PolicyParts
import WebAcl.Proofs.QuotedText
import WebAcl.Proofs.ReferenceClosure
import WebAcl.Proofs.ReferencePlaces
import WebAcl.Proofs.RefusedRules
import WebAcl.Proofs.RegisteredGroups
import WebAcl.Proofs.RegistryExtension
import WebAcl.Proofs.RegistryRuns
import WebAcl.Proofs.Reports
import WebAcl.Proofs.Rereading
import WebAcl.Proofs.ResourceLabels
import WebAcl.Proofs.RoundTrip
import WebAcl.Proofs.RuleBlocks
import WebAcl.Proofs.RuleClaims
import WebAcl.Proofs.Scanning
import WebAcl.Proofs.Session
import WebAcl.Proofs.Shape
import WebAcl.Proofs.SnakeCase
import WebAcl.Proofs.StatementContents
import WebAcl.Proofs.Substitution
import WebAcl.Proofs.SwitchedGroups
import WebAcl.Proofs.TemplateReferences
import WebAcl.Proofs.TerraformBlocks
import WebAcl.Proofs.Toggles
import WebAcl.Proofs.Tokenizing
import WebAcl.Proofs.UnbrokenText
import WebAcl.Proofs.Validated
import WebAcl.Proofs.WordForms
import WebAcl.Regex.Cursor
import WebAcl.Regex.Escape
import WebAcl.Regex.Flags
import WebAcl.Regex.Group
import WebAcl.Regex.Node
import WebAcl.Regex.Parser
import WebAcl.Regex.Reader
import WebAcl.Regex.Repeat
import WebAcl.Render.Basic
import WebAcl.Render.Document
import WebAcl.Render.Template
import WebAcl.Terraform.Basic
import WebAcl.Terraform.Rule
import WebAcl.Text.Base64
import WebAcl.Text.Blank
import WebAcl.Text.CaseTable
import WebAcl.Text.CharacterName
import WebAcl.Text.CharacterName.Alias
import WebAcl.Text.CharacterName.Alphabets
import WebAcl.Text.CharacterName.Ancient
import WebAcl.Text.CharacterName.Basic
import WebAcl.Text.CharacterName.Composed
import WebAcl.Text.CharacterName.Pictures
import WebAcl.Text.CharacterName.Syllables
import WebAcl.Text.CharacterName.Symbols
import WebAcl.Text.Digit
import WebAcl.Text.Identifier
import WebAcl.Text.Interval
import WebAcl.Text.LetterCase
import WebAcl.Text.Lines
import WebAcl.Text.Naming
import WebAcl.Text.Printable
import WebAcl.Text.Quoted
import WebAcl.Text.Surrogate
import WebAcl.Text.Utf8
import WebAcl.Text.WordPart
import WebAcl.Value.Access
import WebAcl.Value.Basic
import WebAcl.Value.Calendar
import WebAcl.Value.Extent
import WebAcl.Value.Frozen
import WebAcl.Value.Slot
import WebAcl.Value.Text
import WebAcl.Yaml.Cursor
import WebAcl.Yaml.Document
import WebAcl.Yaml.Flow
import WebAcl.Yaml.Lexeme
import WebAcl.Yaml.Node
import WebAcl.Yaml.Pen
import WebAcl.Yaml.Scalar
import WebAcl.Yaml.ScalarText
import WebAcl.Yaml.Source
import WebAcl.Yaml.Tag
import WebAcl.Yaml.Token
