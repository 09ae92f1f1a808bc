import ErrorReport.Config.Basic
import ErrorReport.Error
import ErrorReport.Failure.Basic
import ErrorReport.Failure.Message
import ErrorReport.Failure.Record
import ErrorReport.Heuristic
import ErrorReport.Inspection.Config
import ErrorReport.Inspection.Failure
import ErrorReport.Json.Lexeme
import ErrorReport.Json.Number
import ErrorReport.Json.Record
import ErrorReport.Json.Value
import ErrorReport.Location.Basic
import ErrorReport.Location.Frame
import ErrorReport.Node.Render
import ErrorReport.Node.Tag
import ErrorReport.Path.Basic
import ErrorReport.Project
import ErrorReport.Proofs.Acceptance
import ErrorReport.Proofs.Aim
import ErrorReport.Proofs.Arity
import ErrorReport.Proofs.Block
import ErrorReport.Proofs.Bounds
import ErrorReport.Proofs.Closed
import ErrorReport.Proofs.Components
import ErrorReport.Proofs.Display
import ErrorReport.Proofs.Excerpt
import ErrorReport.Proofs.Explain
import ErrorReport.Proofs.Faded
import ErrorReport.Proofs.Found
import ErrorReport.Proofs.Frame
import ErrorReport.Proofs.Gutter
import ErrorReport.Proofs.Header
import ErrorReport.Proofs.Highlight
import ErrorReport.Proofs.Indentation
import ErrorReport.Proofs.Layout
import ErrorReport.Proofs.Leak
import ErrorReport.Proofs.Lexical
import ErrorReport.Proofs.Lines
import ErrorReport.Proofs.Locality
import ErrorReport.Proofs.MethodName
import ErrorReport.Proofs.Nesting
import ErrorReport.Proofs.Occurrence
import ErrorReport.Proofs.Origin
import ErrorReport.Proofs.Path
import ErrorReport.Proofs.Placeholder
import ErrorReport.Proofs.PlainText
import ErrorReport.Proofs.Pointing
import ErrorReport.Proofs.Reading
import ErrorReport.Proofs.Request
import ErrorReport.Proofs.Resolution
import ErrorReport.Proofs.Rows
import ErrorReport.Proofs.Selection
import ErrorReport.Proofs.Shows
import ErrorReport.Proofs.Stretches
import ErrorReport.Proofs.Tagged
import ErrorReport.Proofs.Text
import ErrorReport.Proofs.Themes
import ErrorReport.Proofs.Tree
import ErrorReport.Proofs.Visible
import ErrorReport.Proofs.Wording
import ErrorReport.Source.Lexeme
import ErrorReport.Terminal.Sgr
import ErrorReport.Terminal.Style
import ErrorReport.Terminal.Theme
import ErrorReport.Text.Basic
import ErrorReport.Text.Class
import ErrorReport.Text.Cut
import ErrorReport.Text.Quoted
import ErrorReport.Window.Basic
import ErrorReport.Window.Render
