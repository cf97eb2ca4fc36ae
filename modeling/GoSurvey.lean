import GoSurvey.CommandLine.Run
import GoSurvey.Config.Json
import GoSurvey.Json.Parser
import GoSurvey.Main
import GoSurvey.Proofs.Survey.Merge
import GoSurvey.Text.Identifier
import GoSurvey.Proofs.Facts
import GoSurvey.Proofs.TypeText.Interleaving
import GoSurvey.Proofs.Survey.Files
import GoSurvey.Proofs.Survey.Outcomes
import GoSurvey.Proofs.Survey.SyntaxErrors
import GoSurvey.Proofs.Fingerprint.Readable
import GoSurvey.Proofs.Survey.Repetition
import GoSurvey.Proofs.Survey.Records
import GoSurvey.Proofs.Survey.Methods
import GoSurvey.Proofs.Survey.Measured
import GoSurvey.Proofs.Report.Json
import GoSurvey.Proofs.Fingerprint.Lexemes
import GoSurvey.Proofs.Metric.Uncommented
import GoSurvey.Proofs.Facts.Comments
import GoSurvey.Proofs.Graph.OutOfRange
import GoSurvey.Proofs.FirstSeen
import GoSurvey.Proofs.Graph.Arena
import GoSurvey.Proofs.Fingerprint.Holes
import GoSurvey.Proofs.TypeText.Stored
import GoSurvey.Proofs.Survey.Implements
import GoSurvey.Proofs.Facts.References
import GoSurvey.Proofs.Facts.Dependencies
import GoSurvey.Proofs.Go.Triples
import GoSurvey.Proofs.Go.Conformance
import GoSurvey.Proofs.Go.Conformance.Expressions
import GoSurvey.Proofs.Go.Conformance.Declarations
import GoSurvey.Proofs.Go.Conformance.Statements
import GoSurvey.Proofs.Go.Conformance.File
import GoSurvey.Proofs.Facts.Globals
import GoSurvey.Proofs.Facts.Order
import GoSurvey.Proofs.Path
import GoSurvey.Proofs.Report.Summary
import GoSurvey.Proofs.Survey.Collected
import GoSurvey.Proofs.Path.Relative
import GoSurvey.Proofs.Survey.Reported
import GoSurvey.Proofs.Decimal.Bounds
import GoSurvey.Proofs.Decimal.Order
import GoSurvey.Proofs.Metric.Maintainability
import GoSurvey.Proofs.Report.Penalties
import GoSurvey.Proofs.Go.Conformance.Lowering
import GoSurvey.Proofs.Survey.Bodies
