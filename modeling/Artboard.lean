import Artboard.Main
import Artboard.Proofs.Export.Pipeline
import Artboard.Proofs.Export.Residue
import Artboard.Proofs.Page.Containment
import Artboard.Proofs.Page.Effective
import Artboard.Proofs.Page.FontLinks
import Artboard.Proofs.Page.Hidden
import Artboard.Proofs.Page.Images
import Artboard.Proofs.Page.Offset
import Artboard.Proofs.Page.StyleSheet
import Artboard.Proofs.Page.Unresolved
import Artboard.Proofs.Style.Fill
import Artboard.Proofs.Style.Order
import Artboard.Proofs.Url.Encoding
import Artboard.Proofs.Wire.Edits
import Artboard.Proofs.Wire.RoundTrip
import Artboard.Proofs.Url.Segments
import Artboard.Proofs.Url.Parser
import Artboard.Proofs.Service.Address
import Artboard.Proofs.Json.Alike
import Artboard.Proofs.Json.Pairs
import Artboard.Proofs.Service.Classification
import Artboard.Proofs.Export.FileKey
import Artboard.Proofs.Export.Requested
import Artboard.Proofs.Style.Validity
import Artboard.Proofs.Design.Cut
import Artboard.Proofs.Markup.Escape
import Artboard.Proofs.Markup.Inference
