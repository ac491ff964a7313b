import PageSketch.Double.Decimal
import PageSketch.Json.Printer
import PageSketch.Json.Reader
import PageSketch.Source.Line
import PageSketch.Detection
import PageSketch.Extraction.Kinds
import PageSketch.Program.Scan
import PageSketch.Template.Registry
import PageSketch.Page.Basic
import PageSketch.Workspace.Store
import PageSketch.Command.Invocation
import PageSketch.Main
import PageSketch.Proofs.Source.Numbering
import PageSketch.Proofs.Source.LineKind
import PageSketch.Proofs.Program.Reading
import PageSketch.Proofs.Program.Components
import PageSketch.Proofs.Program.Findings
import PageSketch.Proofs.Program.Joining
import PageSketch.Proofs.Program.Fallback
import PageSketch.Proofs.Page.Escaping
import PageSketch.Proofs.Command.Keeping
import PageSketch.Proofs.Component.Json
import PageSketch.Proofs.Extraction.Shape
import PageSketch.Proofs.Program.Layout
import PageSketch.Proofs.Program.Rereading
import PageSketch.Proofs.Program.WellFormed
import PageSketch.Proofs.Command.Failing
import PageSketch.Proofs.Program.Opaque
import PageSketch.Proofs.Detection.Lines
import PageSketch.Proofs.Text.Words
import PageSketch.Proofs.Text.Digit
import PageSketch.Proofs.Pattern.Reading
import PageSketch.Proofs.Pattern.Grammar
import PageSketch.Proofs.Pattern.Numbers
import PageSketch.Proofs.Pattern.Words
import PageSketch.Proofs.Extraction.Fields
import PageSketch.Proofs.Extraction.Notes
import PageSketch.Proofs.Extraction.Quoting
import PageSketch.Proofs.Extraction.Parts
import PageSketch.Proofs.Extraction.Sections
import PageSketch.Proofs.Extraction.Pricing
import PageSketch.Proofs.Extraction.Testimonials
import PageSketch.Proofs.Extraction.Attribution
import PageSketch.Proofs.Extraction.Footer
import PageSketch.Proofs.Extraction.FormParts
import PageSketch.Proofs.Extraction.Numbers
import PageSketch.Proofs.Extraction.Lists
import PageSketch.Proofs.Extraction.Anchors
import PageSketch.Proofs.Extraction.Mentions
import PageSketch.Proofs.Extraction.Roles
import PageSketch.Proofs.Extraction.Table
import PageSketch.Proofs.Component.Store
import PageSketch.Proofs.Page.Requests
import PageSketch.Proofs.Page.Table
import PageSketch.Proofs.Page.Widgets
