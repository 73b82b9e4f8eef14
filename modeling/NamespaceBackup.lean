import NamespaceBackup.Controller.Schedule
import NamespaceBackup.Definition.Basic
import NamespaceBackup.Main
import NamespaceBackup.Proofs.Activity
import NamespaceBackup.Proofs.Conversation
import NamespaceBackup.Rehearsal.Basic
import NamespaceBackup.Rehearsal.Server
import NamespaceBackup.Proofs.Conditions
import NamespaceBackup.Proofs.Membership
import NamespaceBackup.Proofs.Questions
import NamespaceBackup.Proofs.Ledger
import NamespaceBackup.Proofs.Capture
import NamespaceBackup.Proofs.Clearing
import NamespaceBackup.Proofs.PassInvariant
import NamespaceBackup.Proofs.Progress
import NamespaceBackup.Proofs.Quorum
import NamespaceBackup.Proofs.Reload
import NamespaceBackup.Proofs.Restoring
import NamespaceBackup.Proofs.RoundTrip
import NamespaceBackup.Proofs.Shutdown
import NamespaceBackup.Proofs.Failures
import NamespaceBackup.Proofs.Labels
import NamespaceBackup.Proofs.Lagging
import NamespaceBackup.Proofs.Missing
import NamespaceBackup.Proofs.Recording
import NamespaceBackup.Proofs.Rejoining
import NamespaceBackup.Proofs.Restorable
import NamespaceBackup.Proofs.Saving
import NamespaceBackup.Proofs.SoleBundle
import NamespaceBackup.Proofs.Versions
import NamespaceBackup.Proofs.Visiting
import NamespaceBackup.Proofs.Journals
import NamespaceBackup.Proofs.Grounds
import NamespaceBackup.Proofs.Vouching
import NamespaceBackup.Proofs.Record
import NamespaceBackup.Proofs.Targets
import NamespaceBackup.Proofs.Frames
import NamespaceBackup.Proofs.Trouble
import NamespaceBackup.Proofs.Quiesced
import NamespaceBackup.Proofs.Gates
import NamespaceBackup.Proofs.Obliging
import NamespaceBackup.Proofs.Stages
import NamespaceBackup.Proofs.Phases
import NamespaceBackup.Proofs.Completion
import NamespaceBackup.Proofs.Courses
import NamespaceBackup.Proofs.Copies
import NamespaceBackup.Proofs.Swapping
import NamespaceBackup.Proofs.Aftermath
import NamespaceBackup.Proofs.Deletions
import NamespaceBackup.Proofs.Waiting
import NamespaceBackup.Proofs.Permits
import NamespaceBackup.Proofs.Ownership
import NamespaceBackup.Proofs.Bookkeeping
import NamespaceBackup.Proofs.Sweeping
import NamespaceBackup.Proofs.Cleaning
import NamespaceBackup.Proofs.ByteOrder
import NamespaceBackup.Proofs.Reports
import NamespaceBackup.Proofs.FreshLoad
import NamespaceBackup.Proofs.Converging
import NamespaceBackup.Proofs.Keys
import NamespaceBackup.Proofs.Footprint
import NamespaceBackup.Proofs.History
import NamespaceBackup.Proofs.Namesakes
import NamespaceBackup.Proofs.Independence
import NamespaceBackup.Proofs.Reordering
import NamespaceBackup.Proofs.Power
import NamespaceBackup.Proofs.Contention
import NamespaceBackup.Proofs.Storage
