import Stencil.Definition.Load
import Stencil.Reader
import Stencil.Record
import Stencil.Yaml
import Stencil.Proofs.Occurrence
import Stencil.Proofs.Occurrence.Exhaustive
import Stencil.Proofs.Text
import Stencil.Proofs.Value
import Stencil.Proofs.Template.Winners
import Stencil.Proofs.Template.Layout
import Stencil.Proofs.Template.Segmentation
import Stencil.Proofs.Template.Resolution
import Stencil.Proofs.Template.Scanner
import Stencil.Proofs.Template.Unreferenced
import Stencil.Proofs.Template.Concatenation
import Stencil.Proofs.Template.Replacement
import Stencil.Proofs.Template.Lockstep
import Stencil.Proofs.Template.Gathering
import Stencil.Proofs.Template.RoundTrip
import Stencil.Proofs.Template.Failure
import Stencil.Proofs.Template.Deviation
import Stencil.Proofs.Template.Repetition
import Stencil.Proofs.Template.Reorder
import Stencil.Proofs.ReadError
import Stencil.Proofs.Regex.Reading
import Stencil.Proofs.Regex.Lengths
import Stencil.Proofs.Alignment
import Stencil.Proofs.Alignment.Margins
import Stencil.Proofs.Alignment.Configured
import Stencil.Proofs.Numeral
import Stencil.Proofs.Numeral.Canonical
import Stencil.Proofs.Binary64
import Stencil.Proofs.Format.Configured
import Stencil.Proofs.Format.Accepted
import Stencil.Proofs.Format.Text
import Stencil.Proofs.Format.Pattern
import Stencil.Proofs.Format.Integer
import Stencil.Proofs.Format.Delimited
import Stencil.Proofs.Format.Real
import Stencil.Proofs.Format.Captured
import Stencil.Proofs.Format.Padded
import Stencil.Proofs.Form.RoundTrip
import Stencil.Proofs.Form.Failure
import Stencil.Proofs.Form.Rewriting
import Stencil.Proofs.Format.PaddedInteger
import Stencil.Proofs.Regex.Carrying
import Stencil.Proofs.Regex.Embedding
import Stencil.Proofs.Regex.Enclosed
import Stencil.Proofs.Definition.Configured
import Stencil.Proofs.Object
import Stencil.Proofs.Definition.Building
import Stencil.Proofs.Yaml
import Stencil.Proofs.Definition.Limits
import Stencil.Proofs.Definition.Loading
