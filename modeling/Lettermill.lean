import Lettermill.Compiler.Report
import Lettermill.Main
import Lettermill.Mapping.Describe
import Lettermill.Proofs.Markup.Piece
import Lettermill.Proofs.Markup.Nesting
import Lettermill.Proofs.Markup.Reading
import Lettermill.Proofs.Transform.Emission
import Lettermill.Proofs.Transform.Fragment
import Lettermill.Proofs.Dict
import Lettermill.Proofs.Style.Names
import Lettermill.Proofs.Document.Outside
import Lettermill.Proofs.Document.Root
import Lettermill.Proofs.Converter.Draft
import Lettermill.Proofs.Converter.PassThrough
import Lettermill.Proofs.Converter.VisibleText
import Lettermill.Proofs.Document.Printer
import Lettermill.Proofs.Converter.SingleMail
import Lettermill.Proofs.Style.Blocks
import Lettermill.Proofs.Transform.Advice
import Lettermill.Proofs.Converter.Warnings
import Lettermill.Proofs.Mapping.Registration
import Lettermill.Proofs.Converter.Outcome
import Lettermill.Proofs.Mapping.History
import Lettermill.Proofs.Transform.Component
import Lettermill.Proofs.Transform.Reliance
import Lettermill.Proofs.Converter.Reliance
import Lettermill.Proofs.Converter.Silence
import Lettermill.Proofs.Converter.RawText
import Lettermill.Proofs.Text.Run
import Lettermill.Proofs.Html.Expansion
import Lettermill.Proofs.Html.Wrappers
import Lettermill.Proofs.Style.Tokens
import Lettermill.Proofs.Transform.Layering
import Lettermill.Proofs.Style.Agreement
import Lettermill.Proofs.Style.Comments
import Lettermill.Proofs.Style.Selectors
import Lettermill.Proofs.Document.Kept
import Lettermill.Proofs.Document.Conservation
import Lettermill.Proofs.Converter.Wrapping
import Lettermill.Proofs.Transform.Verbatim
import Lettermill.Proofs.Compiler.Report
import Lettermill.Proofs.Style.Inline
import Lettermill.Proofs.Markup.Outermost
import Lettermill.Proofs.Transform.Repair
import Lettermill.Proofs.Document.Rewriting
import Lettermill.Proofs.Transform.Unstyled
import Lettermill.Proofs.Converter.Unstyled
import Lettermill.Proofs.Document.Order
import Lettermill.Proofs.Converter.Titles
