import GapAudit.Main
import GapAudit.Proofs.Engine.Aggregation
import GapAudit.Proofs.Engine.Schedule
import GapAudit.Proofs.Engine.Registry
import GapAudit.Proofs.Score.Mean
import GapAudit.Proofs.Engine.Order
import GapAudit.Proofs.Report.Groups
import GapAudit.Proofs.Decimal.DataText
import GapAudit.Proofs.Decimal.Finite
import GapAudit.Proofs.Decimal.Order
import GapAudit.Proofs.Config.Validation
import GapAudit.Proofs.Json.Number
import GapAudit.Proofs.Json.NumberText
import GapAudit.Proofs.Json.Quoted
import GapAudit.Proofs.Json.Legible
import GapAudit.Proofs.Json.RoundTrip
import GapAudit.Proofs.Json.Lossless
import GapAudit.Proofs.Report.Forms
import GapAudit.Proofs.Report.Lossless
import GapAudit.Proofs.FileTree.Shape
import GapAudit.Proofs.Project.Exclusion
import GapAudit.Proofs.Path.Components
import GapAudit.Proofs.Path.Order
import GapAudit.Proofs.Path.Lexical
import GapAudit.Proofs.Walk.Distinct
import GapAudit.Proofs.Walk.Exact
import GapAudit.Proofs.FileTree.Lookup
import GapAudit.Proofs.Project.GapIds
import GapAudit.Proofs.Text.Scan
import GapAudit.Proofs.Text.Bytes
import GapAudit.Proofs.Text.Word
import GapAudit.Proofs.Text.Identifier
import GapAudit.Proofs.Source.Placed
import GapAudit.Proofs.Source.Body
import GapAudit.Proofs.Features.TypeIndex
import GapAudit.Proofs.Modules.Comments
import GapAudit.Proofs.Dependencies.Imports
import GapAudit.Proofs.Dependencies.Runtime
import GapAudit.Proofs.Components.Missing
import GapAudit.Proofs.Components.Unused
import GapAudit.Proofs.Quality.Accessibility
import GapAudit.Proofs.CommandLine.Verdict
import GapAudit.Proofs.Score.Exact
import GapAudit.Proofs.Score.WorkEstimate
import GapAudit.Proofs.Structure.FullScore
import GapAudit.Proofs.Quality.Naming
import GapAudit.Proofs.Dependencies.Comparison
import GapAudit.Proofs.Quality.Deductions
import GapAudit.Proofs.Walk.Files
import GapAudit.Proofs.FileTree.Growth
import GapAudit.Proofs.Features.Completion
import GapAudit.Proofs.Quality.Coverage
import GapAudit.Proofs.Features.Orphans
import GapAudit.Proofs.Accessibility
import GapAudit.Proofs.Components.Completeness
import GapAudit.Proofs.Text.Lines
import GapAudit.Proofs.Typecheck.Forms
import GapAudit.Proofs.Typecheck.Output
import GapAudit.Proofs.Engine.Advice
import GapAudit.Proofs.Modules.Lines
import GapAudit.Proofs.Source.Outline
import GapAudit.Proofs.Source.ImportText
import GapAudit.Proofs.Source.Ranges
import GapAudit.Proofs.Source.MarkupText
import GapAudit.Proofs.CommandLine.Selection
import GapAudit.Proofs.CommandLine.Init
import GapAudit.Proofs.Structure.Routes
import GapAudit.Proofs.Report.Summary
import GapAudit.Proofs.Text.Runs
import GapAudit.Proofs.Modules.Packages
import GapAudit.Proofs.Path.Detours
import GapAudit.Proofs.FileTree.Addition
import GapAudit.Proofs.Structure.Services
import GapAudit.Proofs.Source.Traversal
import GapAudit.Proofs.Structure.Hyphenation
