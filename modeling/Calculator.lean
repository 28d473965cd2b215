import Calculator.Csv.Reader
import Calculator.Expression.Evaluate
import Calculator.History.Basic
import Calculator.Operation.Catalogue
import Calculator.Command.Standard
import Calculator.Settings.Config
import Calculator.Settings.EnvFile
import Calculator.Log.Filter
import Calculator.Session
import Calculator.Conversation
import Calculator.Program
import Calculator.Main
import Calculator.Text.CharSet
import Calculator.Text.Pattern.Basic
import Calculator.Text.Pattern.Bracket
import Calculator.Text.Pattern.Reader
import Calculator.Proofs.Csv.ReadBack
import Calculator.Proofs.Text.Words
import Calculator.Proofs.Operation.Values
import Calculator.Proofs.Files.Replacing
import Calculator.Proofs.Files.Folders
import Calculator.Proofs.Files.Siblings
import Calculator.Proofs.Command.Running
import Calculator.Proofs.Command.Effects
import Calculator.Proofs.Command.Calculating
import Calculator.Proofs.History.Persistence
import Calculator.Proofs.History.Saving
import Calculator.Proofs.Session.Lines
import Calculator.Proofs.Session.Routes
import Calculator.Proofs.Session.Recording
import Calculator.Proofs.Session.Replay
import Calculator.Proofs.Expression.Brackets
import Calculator.Proofs.Expression.Groups
import Calculator.Proofs.Number.Nearest
import Calculator.Proofs.Number.Shortest
import Calculator.Proofs.Number.Literal
import Calculator.Proofs.Number.Negation
import Calculator.Proofs.Number.ReadBack
import Calculator.Proofs.Number.Neutral
import Calculator.Proofs.Expression.Terms
import Calculator.Proofs.Expression.Chains
import Calculator.Proofs.Session.Restart
import Calculator.Proofs.Expression.Operands
import Calculator.Proofs.Expression.Matching
import Calculator.Proofs.Expression.Acceptance
import Calculator.Proofs.Operation.Joined
import Calculator.Proofs.Command.Course
import Calculator.Proofs.Command.Counting
import Calculator.Proofs.Command.Policies
import Calculator.Proofs.Text.LetterCase
import Calculator.Proofs.Session.Spacing
import Calculator.Proofs.History.Columns
import Calculator.Proofs.Session.Conversation
import Calculator.Proofs.Text.Letters
import Calculator.Proofs.Session.FirstWord
import Calculator.Proofs.Session.ExpressionCommand
import Calculator.Proofs.History.Searching
import Calculator.Proofs.Number.Whole
import Calculator.Proofs.History.Listing
import Calculator.Proofs.Text.ByteOrder
import Calculator.Proofs.History.Summarising
import Calculator.Proofs.Time.Dates
import Calculator.Proofs.Time.Stamps
import Calculator.Proofs.History.Times
import Calculator.Proofs.Number.TotalOrder
import Calculator.Proofs.Operation.Middle
import Calculator.Proofs.Operation.Outcomes
import Calculator.Proofs.Expression.Refusals
import Calculator.Proofs.Session.HistoryVerbs
import Calculator.Proofs.Command.Binding
import Calculator.Proofs.Csv.Lines
import Calculator.Proofs.History.RaggedRows
import Calculator.Proofs.Operation.Feedback
import Calculator.Proofs.Expression.Nesting
