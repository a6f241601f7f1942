import Flowchart.Cli.Input
import Flowchart.Cli.Messages
import Flowchart.Cli.Options
import Flowchart.Cli.Run
import Flowchart.Diagram.Basic
import Flowchart.Diagram.Build
import Flowchart.Diagram.Direction
import Flowchart.Diagram.Shape
import Flowchart.Json
import Flowchart.Layout.Grid
import Flowchart.Layout.Settings
import Flowchart.Layout.Topology
import Flowchart.Main
import Flowchart.Syntax.Header
import Flowchart.Syntax.Lexeme
import Flowchart.Syntax.Link
import Flowchart.Syntax.Mask
import Flowchart.Syntax.Scan
import Flowchart.Syntax.Search
import Flowchart.Syntax.Statement
import Flowchart.Text.Alphanumeric
import Flowchart.Text.Basic
import Flowchart.Text.Integer
import Flowchart.Text.Printable
import Flowchart.Text.Quote
import Flowchart.Text.Similarity
import Flowchart.Text.Space
import Flowchart.Text.Utf8
import Flowchart.Proofs.Grid
import Flowchart.Proofs.Layering
import Flowchart.Proofs.Pieces
import Flowchart.Proofs.Tokens
import Flowchart.Proofs.Links
import Flowchart.Proofs.Reading
import Flowchart.Proofs.Cutting
import Flowchart.Proofs.Labels
import Flowchart.Proofs.Ends
import Flowchart.Proofs.LabelledEdges
import Flowchart.Proofs.Events
import Flowchart.Proofs.Regions
import Flowchart.Proofs.LayoutInputs
import Flowchart.Proofs.NodeText
import Flowchart.Proofs.Separators
import Flowchart.Proofs.Adjacency
import Flowchart.Proofs.GraphLibrary
import Flowchart.Proofs.EdgeChoice
import Flowchart.Proofs.Header
import Flowchart.Proofs.Directions
import Flowchart.Proofs.RegionBoxes
import Flowchart.Proofs.Masking
