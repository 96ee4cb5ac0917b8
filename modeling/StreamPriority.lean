import StreamPriority.Journal.Meter
import StreamPriority.Relay.Session
import StreamPriority.Proofs.Coherence
import StreamPriority.Proofs.Told
import StreamPriority.Proofs.Isolation
import StreamPriority.Proofs.Transparency
import StreamPriority.Proofs.Forgery
import StreamPriority.Proofs.Screening
import StreamPriority.Proofs.Lifetime
import StreamPriority.Proofs.Parking
import StreamPriority.Proofs.Announcement
import StreamPriority.Proofs.Atomicity
import StreamPriority.Proofs.Provenance
import StreamPriority.Proofs.Frames
import StreamPriority.Proofs.Surfacing
import StreamPriority.Proofs.TreeChange
import StreamPriority.Proofs.Superseding
import StreamPriority.Proofs.Freezing
import StreamPriority.Proofs.Buffering
import StreamPriority.Proofs.Bookkeeping
import StreamPriority.Proofs.Multimap
import StreamPriority.Proofs.Opening
import StreamPriority.Proofs.Legibility
import StreamPriority.Proofs.Readout
