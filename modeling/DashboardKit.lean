import DashboardKit.Artifact
import DashboardKit.Calendar
import DashboardKit.CommandLine.Help
import DashboardKit.CommandLine.Options
import DashboardKit.CommandLine.Reach
import DashboardKit.CommandLine.Run
import DashboardKit.Component.Catalog
import DashboardKit.Component.Choice
import DashboardKit.Component.Config
import DashboardKit.Component.Context
import DashboardKit.Component.Layout
import DashboardKit.Component.Loader
import DashboardKit.Console.Color
import DashboardKit.Console.Emoji
import DashboardKit.Console.EmojiTable
import DashboardKit.Console.Markup
import DashboardKit.Console.Style
import DashboardKit.Decimal.FloatText
import DashboardKit.Failure
import DashboardKit.Failure.Cause
import DashboardKit.FileTree.Basic
import DashboardKit.Generation.Generator
import DashboardKit.Generation.Guide
import DashboardKit.Json.Reader
import DashboardKit.Json.Writer
import DashboardKit.Main
import DashboardKit.Manifest.Reconciler
import DashboardKit.Manifest.Requirement
import DashboardKit.Prompt
import DashboardKit.Proofs.FileTree.Descent
import DashboardKit.Proofs.FileTree.Growth
import DashboardKit.Proofs.Path.Joining
import DashboardKit.Proofs.Session.Frame
import DashboardKit.Proofs.Session.Outcome
import DashboardKit.Proofs.Session.Files
import DashboardKit.Proofs.Template.Cut
import DashboardKit.Session
import DashboardKit.Settings
import DashboardKit.Template.Packaged
import DashboardKit.Template.Placeholder
import DashboardKit.Template.Store
import DashboardKit.Text.Case
import DashboardKit.Text.Classes
import DashboardKit.Text.Lines
import DashboardKit.Text.Quoted
import DashboardKit.Text.Search
import DashboardKit.Text.Utf8
import DashboardKit.Topic
import DashboardKit.Validation
import DashboardKit.Value.Shown
import DashboardKit.Yaml.Node.Parser
import DashboardKit.Yaml.Reader
import DashboardKit.Yaml.Token.Lexer
import DashboardKit.Yaml.Token.Scalars
import DashboardKit.Proofs.Template.Loading
import DashboardKit.Proofs.Component.Accepted
import DashboardKit.Proofs.Component.Places
import DashboardKit.Proofs.Generation.Artifacts
import DashboardKit.Proofs.Generation.Sequence
import DashboardKit.Proofs.Manifest.Frame
import DashboardKit.Proofs.Manifest.Effects
import DashboardKit.Proofs.Generation.Reports
import DashboardKit.Proofs.Text.Whole
import DashboardKit.Proofs.Value.Parts
import DashboardKit.Proofs.Json.Writable
import DashboardKit.Proofs.Component.Usable
import DashboardKit.Proofs.Console.Markup
import DashboardKit.Proofs.Json.Reading
import DashboardKit.Proofs.FileTree.Rewriting
import DashboardKit.Proofs.Manifest.Merging
import DashboardKit.Proofs.Manifest.Troubles
import DashboardKit.Proofs.Generation.Completion
import DashboardKit.Proofs.Component.Endpoint
import DashboardKit.Proofs.Component.Sound
import DashboardKit.Proofs.Json.Numbers
import DashboardKit.Proofs.Json.Texts
import DashboardKit.Proofs.Text.Encoding
import DashboardKit.Proofs.Json.RoundTrip
import DashboardKit.Proofs.Session.Rereading
import DashboardKit.Proofs.Manifest.Settling
import DashboardKit.Proofs.Generation.History
import DashboardKit.Proofs.Session.Saving
import DashboardKit.Proofs.Generation.Containment
import DashboardKit.Proofs.Manifest.Failing
import DashboardKit.Proofs.Generation.Aborted
import DashboardKit.Proofs.Generation.Fetching
import DashboardKit.Proofs.Template.Dependence
import DashboardKit.Proofs.Component.Extras
import DashboardKit.Proofs.Component.Normal
import DashboardKit.Proofs.Session.Overwriting
import DashboardKit.Proofs.Manifest.Resting
import DashboardKit.Proofs.Generation.Remaking
import DashboardKit.Proofs.Generation.Repeating
import DashboardKit.Proofs.Generation.Collisions
import DashboardKit.Proofs.Generation.Guidance
import DashboardKit.Proofs.Text.Beginnings
import DashboardKit.Proofs.Session.Remembering
import DashboardKit.Proofs.Manifest.Rewritten
import DashboardKit.Proofs.Generation.Warnings
import DashboardKit.Proofs.Generation.Truth
import DashboardKit.Proofs.Generation.Reusing
import DashboardKit.Proofs.Text.Splicing
import DashboardKit.Proofs.Manifest.Ordering
import DashboardKit.Proofs.Manifest.Versions
import DashboardKit.Proofs.Manifest.Additions
import DashboardKit.Proofs.Json.Written
import DashboardKit.Proofs.Component.Embedded
import DashboardKit.Proofs.Generation.Failing
import DashboardKit.Proofs.Session.Asking
import DashboardKit.Proofs.CommandLine.Stages
import DashboardKit.Proofs.CommandLine.Refused
import DashboardKit.Proofs.Component.Respelling
import DashboardKit.Proofs.Component.Outcomes
import DashboardKit.Proofs.Generation.Locations
import DashboardKit.Proofs.Session.Building
import DashboardKit.Proofs.Artifact.Writing
import DashboardKit.Proofs.Artifact.InOrder
import DashboardKit.Proofs.Text.Order
import DashboardKit.Proofs.FileTree.Listing
import DashboardKit.Proofs.Template.Listing
import DashboardKit.Proofs.Text.LowerCase
import DashboardKit.Proofs.Path.Naming
import DashboardKit.Proofs.Component.Answers
import DashboardKit.Proofs.Path.Display
import DashboardKit.Proofs.Template.Joints
import DashboardKit.Proofs.Generation.Delimiters
import DashboardKit.Proofs.Session.Answering
import DashboardKit.Proofs.Session.Selecting
import DashboardKit.Proofs.CommandLine.Status
