import HeaderRelay.Anchor
import HeaderRelay.Assembly
import HeaderRelay.BlockStore
import HeaderRelay.BlockStore.Growth
import HeaderRelay.Borsh
import HeaderRelay.Bytes
import HeaderRelay.CommandLine.Arguments
import HeaderRelay.CommandLine.Program
import HeaderRelay.CommandLine.Report
import HeaderRelay.CommandLine.Word
import HeaderRelay.Config
import HeaderRelay.Config.Environment
import HeaderRelay.Config.File
import HeaderRelay.Entries
import HeaderRelay.EpochRelay
import HeaderRelay.EpochRelay.Run
import HeaderRelay.Error
import HeaderRelay.Hash
import HeaderRelay.Header
import HeaderRelay.Header.Chain
import HeaderRelay.Header.Encoding
import HeaderRelay.Header.Node
import HeaderRelay.Height
import HeaderRelay.Hex
import HeaderRelay.Hex.Input
import HeaderRelay.Json.Literal
import HeaderRelay.Json.Printer
import HeaderRelay.Json.Token
import HeaderRelay.Json.Value
import HeaderRelay.Main
import HeaderRelay.Merkle
import HeaderRelay.Network
import HeaderRelay.Proof
import HeaderRelay.Proof.Encoding
import HeaderRelay.Proof.Verification
import HeaderRelay.Proofs.Accumulation
import HeaderRelay.Proofs.Assembly.Growth
import HeaderRelay.Proofs.Assembly.Verification
import HeaderRelay.Proofs.BlockStore.Index
import HeaderRelay.Proofs.BlockStore.Puts
import HeaderRelay.Proofs.Checks
import HeaderRelay.Proofs.Config.Environment
import HeaderRelay.Proofs.Decrease
import HeaderRelay.Proofs.Easing
import HeaderRelay.Proofs.Encoding
import HeaderRelay.Proofs.Encoding.Exactness
import HeaderRelay.Proofs.Encoding.Structured
import HeaderRelay.Proofs.EpochRelay.Audit
import HeaderRelay.Proofs.EpochRelay.Chains
import HeaderRelay.Proofs.EpochRelay.Numbers
import HeaderRelay.Proofs.EpochRelay.Operations
import HeaderRelay.Proofs.EpochRelay.Outsiders
import HeaderRelay.Proofs.EpochRelay.Persistence
import HeaderRelay.Proofs.EpochRelay.Range
import HeaderRelay.Proofs.EpochRelay.Records
import HeaderRelay.Proofs.EpochRelay.Replay
import HeaderRelay.Proofs.EpochRelay.Retarget
import HeaderRelay.Proofs.EpochRelay.Selection
import HeaderRelay.Proofs.EpochRelay.Verification
import HeaderRelay.Proofs.Header.Chain
import HeaderRelay.Proofs.Header.Faults
import HeaderRelay.Proofs.Header.Verdict
import HeaderRelay.Proofs.Height
import HeaderRelay.Proofs.Hex.Input
import HeaderRelay.Proofs.Merkle.Binding
import HeaderRelay.Proofs.Merkle.Copies
import HeaderRelay.Proofs.Merkle.Inclusion
import HeaderRelay.Proofs.Merkle.Tree
import HeaderRelay.Proofs.Provider.Backoff
import HeaderRelay.Proofs.Provider.Retry
import HeaderRelay.Proofs.Rejection
import HeaderRelay.Proofs.Runs
import HeaderRelay.Proofs.Target
import HeaderRelay.Proofs.Verification
import HeaderRelay.Proofs.WindowRelay.Acceptance
import HeaderRelay.Proofs.WindowRelay.BestChain
import HeaderRelay.Proofs.WindowRelay.Capacity
import HeaderRelay.Proofs.WindowRelay.Completeness
import HeaderRelay.Proofs.WindowRelay.Epochs
import HeaderRelay.Proofs.WindowRelay.Extension
import HeaderRelay.Proofs.WindowRelay.Finality
import HeaderRelay.Proofs.WindowRelay.Operations
import HeaderRelay.Proofs.WindowRelay.Refinement
import HeaderRelay.Proofs.WindowRelay.Ring
import HeaderRelay.Proofs.WindowRelay.Validation
import HeaderRelay.Proofs.WindowRelay.Verification
import HeaderRelay.Proofs.WindowRelay.Work
import HeaderRelay.Provider
import HeaderRelay.Provider.Backoff
import HeaderRelay.Provider.Retry
import HeaderRelay.Provider.Script
import HeaderRelay.Sha256
import HeaderRelay.Target
import HeaderRelay.Text.Blank
import HeaderRelay.Text.Listing
import HeaderRelay.Text.Lowercase
import HeaderRelay.Text.Number
import HeaderRelay.Text.Quotation
import HeaderRelay.Text.Unprintable
import HeaderRelay.Toml.Document
import HeaderRelay.Toml.Moment
import HeaderRelay.Toml.Number
import HeaderRelay.Toml.Quotation
import HeaderRelay.Toml.Reader
import HeaderRelay.Toml.Table
import HeaderRelay.Toml.Value
import HeaderRelay.Transaction
import HeaderRelay.WindowRelay
import HeaderRelay.WindowRelay.Ring
import HeaderRelay.WindowRelay.Run
