import MessageExpr.Main
import MessageExpr.Value.Equality
import MessageExpr.Proofs.Expression.Reading
import MessageExpr.Proofs.Expression.Conservation
import MessageExpr.Proofs.Expression.Rescanning
import MessageExpr.Proofs.Evaluation.Unfolding
import MessageExpr.Proofs.Expression.Lexeme
import MessageExpr.Proofs.Expression.Tree
import MessageExpr.Proofs.Evaluation.Structural
import MessageExpr.Proofs.Message.Tables
import MessageExpr.Proofs.Run.Mediation
import MessageExpr.Proofs.Evaluation.Mediation
import MessageExpr.Proofs.Message.Soundness
import MessageExpr.Proofs.Run.SendSafety
import MessageExpr.Proofs.Evaluation.Safety
import MessageExpr.Proofs.Run.Dispatch
import MessageExpr.Proofs.Run.TypeSoundness
import MessageExpr.Proofs.Evaluation.Reachable
import MessageExpr.Proofs.Expression.Seam
import MessageExpr.Proofs.Evaluation.Naming
import MessageExpr.Proofs.Expression.Places
import MessageExpr.Proofs.Expression.Regions
import MessageExpr.Proofs.Run.Shallow
import MessageExpr.Proofs.Run.CutOff
import MessageExpr.Proofs.Evaluation.Limit
import MessageExpr.Proofs.Evaluation.Lookups
import MessageExpr.Proofs.Expression.Balance
import MessageExpr.Proofs.Run.Responding
import MessageExpr.Proofs.Evaluation.Aliases
import MessageExpr.Proofs.Evaluation.Readings
import MessageExpr.Proofs.Number.Decimal
import MessageExpr.Proofs.Value.Literal
import MessageExpr.Proofs.Text.Basic
import MessageExpr.Proofs.Value.Display
import MessageExpr.Proofs.CommandLine.Target
import MessageExpr.Proofs.Toml.Strings
import MessageExpr.Proofs.Toml.Lines
import MessageExpr.Proofs.Configuration
import MessageExpr.Proofs.Text.Splitting
import MessageExpr.Proofs.Calendar.DateText
import MessageExpr.Proofs.Calendar.Intervals
import MessageExpr.Proofs.Registry
import MessageExpr.Proofs.Message.Conversions
import MessageExpr.Proofs.Run.MappingLaws
import MessageExpr.Proofs.Value.Equality
import MessageExpr.Proofs.CommandLine.Objects
