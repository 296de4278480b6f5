import OffloadVolume.Main
import OffloadVolume.Rehearsal.Host
import OffloadVolume.Rehearsal.Plane
import OffloadVolume.Proofs.Exclusivity
import OffloadVolume.Proofs.Reclamation
import OffloadVolume.Proofs.Transaction
import OffloadVolume.Proofs.Compensation
import OffloadVolume.Proofs.Stages
import OffloadVolume.Proofs.Inventory
import OffloadVolume.Proofs.Restoration
import OffloadVolume.Proofs.Attachment
import OffloadVolume.Proofs.Registry
import OffloadVolume.Proofs.Conservation
import OffloadVolume.Proofs.Orphans
import OffloadVolume.Proofs.Teardown
import OffloadVolume.Proofs.Detachment
import OffloadVolume.Proofs.Handback
import OffloadVolume.Proofs.Deletion
import OffloadVolume.Proofs.Resumption
import OffloadVolume.Proofs.Retention
import OffloadVolume.Proofs.Withdrawal
import OffloadVolume.Proofs.Validation
import OffloadVolume.Proofs.RoundTrip
import OffloadVolume.Proofs.Connection
import OffloadVolume.Proofs.WellFormed
import OffloadVolume.Proofs.Journal
import OffloadVolume.Proofs.Linking
import OffloadVolume.Proofs.Directory
import OffloadVolume.Proofs.Recognition
import OffloadVolume.Proofs.Concatenation
import OffloadVolume.Proofs.Framing
import OffloadVolume.Proofs.Interleaving
import OffloadVolume.Proofs.Separation
import OffloadVolume.Proofs.Allocation
import OffloadVolume.Proofs.Addresses
import OffloadVolume.Proofs.Timeline
import OffloadVolume.Proofs.LocalConnections
import OffloadVolume.Proofs.Waiting
import OffloadVolume.Proofs.Numbering
import OffloadVolume.Proofs.Lookup
import OffloadVolume.Proofs.Departure
import OffloadVolume.Proofs.Layering
import OffloadVolume.Proofs.Options
import OffloadVolume.Proofs.Spelling
