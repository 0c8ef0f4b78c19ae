import Signpost.Options.Wire
import Signpost.Proofs.Captures
import Signpost.Proofs.Dispatch
import Signpost.Router.Script
import Signpost.Proofs.Grammar
import Signpost.Proofs.Compiling
import Signpost.Proofs.Scopes
import Signpost.Proofs.Flattening
import Signpost.Proofs.FixedHost
import Signpost.Proofs.Equality
import Signpost.Proofs.Failure
import Signpost.Proofs.Parameters
import Signpost.Proofs.Isolation
import Signpost.Proofs.Locality
import Signpost.Proofs.Brackets
import Signpost.Proofs.Moves
import Signpost.Proofs.Enclosure
import Signpost.Proofs.Chains
import Signpost.Proofs.Spelling
import Signpost.Proofs.Diagnosis
import Signpost.Proofs.Relevance
import Signpost.Proofs.Atomicity
import Signpost.Proofs.Caching
import Signpost.Proofs.Joining
import Signpost.Proofs.Suffix
import Signpost.Proofs.CommandLine
import Signpost.Proofs.Methods
import Signpost.Proofs.Segments
import Signpost.Proofs.FormText
import Signpost.Proofs.Wildcards
import Signpost.Proofs.HostNames
import Signpost.Proofs.Drafts
import Signpost.Proofs.TypeCodes
import Signpost.Proofs.WireForm
