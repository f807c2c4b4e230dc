import Salutation.Main
import Salutation.Program
import Salutation.Session
import Salutation.Terminal.Conversation
import Salutation.Proofs.Session.Conservation
import Salutation.Proofs.Session.Framing
import Salutation.Proofs.Session.Traffic
import Salutation.Proofs.Terminal.Naming
import Salutation.Proofs.Terminal.Outcome
import Salutation.Proofs.Text.Decoding
import Salutation.Proofs.Session.Truncation
import Salutation.Proofs.Session.Retrial
import Salutation.Proofs.Text.Ascii
import Salutation.Proofs.Session.Transcript
import Salutation.Proofs.Program.Capture
import Salutation.Proofs.Program.Refinement
import Salutation.Proofs.Terminal.Damage
import Salutation.Proofs.Session.Recovery
import Salutation.Proofs.Program.Filters
import Salutation.Proofs.Program.LogLines
import Salutation.Proofs.Terminal.Endings
import Salutation.Proofs.Session.Anonymous
import Salutation.Proofs.Session.Pacing
import Salutation.Proofs.Log.Decision
import Salutation.Proofs.Log.Spelling
import Salutation.Proofs.Program.Decisions
import Salutation.Proofs.Log.Library
import Salutation.Proofs.Log.Filter
