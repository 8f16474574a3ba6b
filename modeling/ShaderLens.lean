import ShaderLens.Main
import ShaderLens.Source.Directory
import ShaderLens.Proofs.Line.Joining
import ShaderLens.Proofs.Line.Expansion
import ShaderLens.Proofs.Line.Finished
import ShaderLens.Proofs.Line.CarriageReturn
import ShaderLens.Proofs.Token.Boundary
import ShaderLens.Proofs.Token.Continuation
import ShaderLens.Proofs.Token.Form
import ShaderLens.Proofs.Token.Layout
import ShaderLens.Proofs.Token.Lookahead
import ShaderLens.Proofs.Token.Numeral
import ShaderLens.Proofs.Token.Partition
import ShaderLens.Proofs.Token.Reach
import ShaderLens.Proofs.Token.Rule
import ShaderLens.Proofs.Token.LineFeed
import ShaderLens.Proofs.Token.CarriageReturn
import ShaderLens.Proofs.Token.Walk
import ShaderLens.Proofs.Token.Listing
import ShaderLens.Proofs.Text.Unquoting
import ShaderLens.Proofs.Text.Trimming
import ShaderLens.Proofs.Markup.Document
import ShaderLens.Proofs.Markup.Plain
import ShaderLens.Proofs.Markup.Reading
import ShaderLens.Proofs.Markup.Rendering
import ShaderLens.Proofs.Viewer.Drawing
import ShaderLens.Proofs.Viewer.Motion
import ShaderLens.Proofs.Viewer.Scroll
import ShaderLens.Proofs.Viewer.Distance
import ShaderLens.Proofs.Viewer.Row
import ShaderLens.Proofs.Viewer.Runs
import ShaderLens.Proofs.Viewer.Window
import ShaderLens.Proofs.Viewer.Grid
import ShaderLens.Proofs.Viewer.Isolation
import ShaderLens.Proofs.Invocation.Printing
import ShaderLens.Proofs.Invocation.Reporting
import ShaderLens.Proofs.Token.Resumption
import ShaderLens.Proofs.Invocation.Blocks
import ShaderLens.Proofs.Invocation.Decision
import ShaderLens.Proofs.Line.Alignment
import ShaderLens.Proofs.Token.Adjacency
import ShaderLens.Proofs.Token.Extent
import ShaderLens.Proofs.Source.Loading
import ShaderLens.Proofs.Source.Naming
