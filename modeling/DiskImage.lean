import DiskImage.Main
import DiskImage.Medium.Scripted
import DiskImage.Proofs.BlockCache.Representation
import DiskImage.Proofs.BlockCache.Snapshot
import DiskImage.Proofs.CommandLine.ByteLiteral
import DiskImage.Proofs.CommandLine.Listing
import DiskImage.Proofs.CommandLine.Sources
import DiskImage.Proofs.CommandLine.Span
import DiskImage.Proofs.Completions
import DiskImage.Proofs.Config.ByKey
import DiskImage.Proofs.FileImage.Accounting
import DiskImage.Proofs.NoPanic
import DiskImage.Proofs.Persistence
import DiskImage.Proofs.Reissue
import DiskImage.Proofs.Medium.Scripted
import DiskImage.Proofs.Medium.ScriptedTransfer
import DiskImage.Proofs.BlockCache.Atomicity
import DiskImage.Proofs.FileImage.Reordering
import DiskImage.Proofs.Geometry.Requests
import DiskImage.Proofs.Opening.Verdict
import DiskImage.Proofs.Tracker
import DiskImage.Proofs.Blocks
import DiskImage.Proofs.Segment.Layout
