import PinLedger.Main
import PinLedger.Proofs.Outcome
import PinLedger.Proofs.LockFile.Table
import PinLedger.Proofs.LockFile.Resolution
import PinLedger.Proofs.LockFile.Opening
import PinLedger.Proofs.Manifest.Shape
import PinLedger.Proofs.Manifest.Declared
import PinLedger.Proofs.Listing.Reached
import PinLedger.Proofs.Listing.Steps
import PinLedger.Proofs.Listing.Usage
import PinLedger.Proofs.Listing.Explicit
import PinLedger.Proofs.History
import PinLedger.Proofs.LockFile.Respelled
import PinLedger.Proofs.WheelIndex.Lookup
import PinLedger.Proofs.WheelIndex.Snapshot
import PinLedger.Proofs.Listing.WheelCache
import PinLedger.Proofs.Workspace.Snapshot
import PinLedger.Proofs.Listing.Filtered
import PinLedger.Proofs.Manifest.Required
import PinLedger.Proofs.Command.Printing
import PinLedger.Proofs.Workspace.Location
import PinLedger.Proofs.Manifest.Flavours
import PinLedger.Proofs.Json.Packages
import PinLedger.Proofs.Spelling.Listing
import PinLedger.Proofs.LockFile.Archive
import PinLedger.Proofs.Listing.Invariants
import PinLedger.Proofs.Files.DirectorySize
import PinLedger.Proofs.Table.NaturalWidth
import PinLedger.Proofs.Listing.Order
import PinLedger.Proofs.WheelIndex.Answers
import PinLedger.Proofs.Listing.Unmeasured
import PinLedger.Proofs.Manifest.Platforms
import PinLedger.Proofs.Workspace.BestPlatform
import PinLedger.Proofs.Table.Markup
import PinLedger.Proofs.Listing.Sizes
import PinLedger.Proofs.Command.Environment
