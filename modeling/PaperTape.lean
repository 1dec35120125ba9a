import PaperTape.Main
import PaperTape.Proofs.Opening
import PaperTape.Proofs.Reachable
import PaperTape.Proofs.Reencoding
import PaperTape.Proofs.Codec
import PaperTape.Proofs.Preparing
import PaperTape.Proofs.Nesting
import PaperTape.Proofs.Failing
import PaperTape.Proofs.Damage
import PaperTape.Proofs.Truncation
import PaperTape.Proofs.Concatenation
import PaperTape.Proofs.Repetition
import PaperTape.Proofs.Listings
import PaperTape.Proofs.Framing
import PaperTape.Proofs.Skipping
import PaperTape.Proofs.Assembling
import PaperTape.Proofs.Marking
import PaperTape.Proofs.Continuing
import PaperTape.Proofs.Showing
import PaperTape.Proofs.Configuring
import PaperTape.Proofs.Chunking
import PaperTape.Proofs.Stripping
