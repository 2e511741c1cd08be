import Stencil.Digest.Xxh64
import Stencil.Generator.Recipe
import Stencil.Pipeline.Defaults
import Stencil.Pipeline.Workspace
import Stencil.Proofs.Bindings.Contents
import Stencil.Proofs.Pattern.Name
import Stencil.Proofs.Pattern.Styles
import Stencil.Proofs.Artifact.Equality
import Stencil.Proofs.Pattern.Scan
import Stencil.Proofs.Pipeline.History
import Stencil.Proofs.Pipeline.Incremental
import Stencil.Proofs.Pipeline.Failure
import Stencil.Proofs.Pipeline.Freshness
import Stencil.Proofs.Pattern.Pieces
import Stencil.Proofs.Candidate.Outline
import Stencil.Proofs.Generator.Extraction
import Stencil.Proofs.Generator.Texts
import Stencil.Proofs.Generator.Capture
import Stencil.Proofs.Candidate.FileStem
import Stencil.Proofs.Pipeline.FileNames
import Stencil.Proofs.Pipeline.Accounting
import Stencil.Proofs.Pattern.Template
import Stencil.Proofs.Generator.Holes
import Stencil.Proofs.Generator.Contents
import Stencil.Proofs.Pattern.ScanMemo
import Stencil.Proofs.Pipeline.Warnings
import Stencil.Proofs.Pipeline.Coverage
import Stencil.Proofs.Generator.Hygiene
import Stencil.Proofs.Digest.Mix
import Stencil.Proofs.Options.Fingerprint
import Stencil.Proofs.Pipeline.Flush
import Stencil.Proofs.Generator.Formats
import Stencil.Proofs.Pipeline.Journal
import Stencil.Proofs.Pipeline.Observers
import Stencil.Proofs.Pipeline.Reordering
import Stencil.Proofs.Repeated
import Stencil.Proofs.Generator.Decision
import Stencil.Proofs.Pattern.Reader
import Stencil.Proofs.Pattern.Concatenation
import Stencil.Proofs.Pattern.Refilling
import Stencil.Proofs.Generator.Restyling
import Stencil.Proofs.Pipeline.Conflicts
import Stencil.Proofs.Memo.Calls
import Stencil.Proofs.Pattern.Requests
import Stencil.Proofs.Pipeline.OpenHoles
import Stencil.Proofs.Artifact.Fingerprint
import Stencil.Proofs.Artifact.Wording
import Stencil.Proofs.Pattern.Inert
import Stencil.Proofs.Bindings.Writes
import Stencil.Proofs.Bindings.Pairs
import Stencil.Proofs.Pipeline.Log
import Stencil.Proofs.Candidate.Signature
import Stencil.Proofs.Pattern.Recognition
