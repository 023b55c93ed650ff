import TaggedPage.Builder
import TaggedPage.Files.Tree
import TaggedPage.Json.Values
import TaggedPage.Main
import TaggedPage.Surroundings
import TaggedPage.Proofs.Markup.Grammar
import TaggedPage.Proofs.Markup.Scan
import TaggedPage.Proofs.Markup.Stretches
import TaggedPage.Proofs.Number.Comparison
import TaggedPage.Proofs.Pdf.Table
import TaggedPage.Proofs.Pdf.Run
import TaggedPage.Proofs.Pdf.Elision
import TaggedPage.Proofs.Number.Rounding
import TaggedPage.Proofs.Number.Unpacked
import TaggedPage.Proofs.Font.Measure
import TaggedPage.Proofs.Layout.Amounts
import TaggedPage.Proofs.Layout.Finite
import TaggedPage.Proofs.Pdf.Fonts
import TaggedPage.Proofs.Pdf.Graph
import TaggedPage.Proofs.Pdf.Widths
import TaggedPage.Proofs.Config.Keys
import TaggedPage.Proofs.Config.Precedence
import TaggedPage.Proofs.Pipeline.Calls
import TaggedPage.Proofs.Pipeline.Normalized
import TaggedPage.Proofs.Layout.Lines
import TaggedPage.Proofs.Layout.Pass
import TaggedPage.Proofs.Pipeline.Build
import TaggedPage.Proofs.Command.Written
import TaggedPage.Proofs.Markup.Cut
import TaggedPage.Proofs.Markup.LastTag
import TaggedPage.Proofs.Pipeline.LineEnds
import TaggedPage.Proofs.Markup.Halves
import TaggedPage.Proofs.Number.ExactSum
import TaggedPage.Proofs.Layout.Halves
import TaggedPage.Proofs.Markup.PlainText
import TaggedPage.Proofs.Color
import TaggedPage.Proofs.Font.Units
import TaggedPage.Proofs.Text.Decoded
import TaggedPage.Proofs.Pdf.Tokens
import TaggedPage.Proofs.Pdf.Lasting
import TaggedPage.Proofs.Pdf.Registered
import TaggedPage.Proofs.Pdf.Offsets
import TaggedPage.Proofs.Font.Requests
import TaggedPage.Proofs.Font.Readable
import TaggedPage.Proofs.Font.Selected
import TaggedPage.Proofs.Config.Accepted
import TaggedPage.Proofs.Json.Stored
import TaggedPage.Proofs.Files.Directory
import TaggedPage.Proofs.Files.FileName
import TaggedPage.Proofs.Files.Overwritten
import TaggedPage.Proofs.Pipeline.Origins
