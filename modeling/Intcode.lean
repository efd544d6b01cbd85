import Intcode.Program
import Intcode.Memory
import Intcode.Instruction.Word
import Intcode.Machine.Run
import Intcode.Transcript
import Intcode.Conversation
import Intcode.Console.Script
import Intcode.Console.Terminal
import Intcode.FileSystem.Tree
import Intcode.Cache
import Intcode.CommandLine.World
import Intcode.CommandLine.Exit
import Intcode.Main
import Intcode.Proofs.Memory.Contents
import Intcode.Proofs.Instruction.Decoding
import Intcode.Proofs.Machine.Progress
import Intcode.Proofs.Machine.Trade
import Intcode.Proofs.Machine.Effects
import Intcode.Proofs.Machine.Residue
import Intcode.Proofs.Channel.Ledger
import Intcode.Proofs.History.Calls
import Intcode.Proofs.History.Lifecycle
import Intcode.Proofs.History.Suspension
import Intcode.Proofs.History.Accounts
import Intcode.Proofs.Machine.Chunks
import Intcode.Proofs.Ideal.Machine
import Intcode.Proofs.Ideal.Simulation
import Intcode.Proofs.Conversation.Batch
import Intcode.Proofs.Instruction.Encoding
import Intcode.Proofs.Text.Trimming
import Intcode.Proofs.Text.Numerals
import Intcode.Proofs.Program.Grammar
import Intcode.Proofs.Channel.Outward
import Intcode.Proofs.Machine.Inside
import Intcode.Proofs.History.Passages
import Intcode.Proofs.History.Unwinding
import Intcode.Proofs.History.Reload
import Intcode.Proofs.History.Observers
import Intcode.Proofs.Program.Rendering
import Intcode.Proofs.Host.Actions
import Intcode.Proofs.FileSystem.Joining
import Intcode.Proofs.FileSystem.Walking
import Intcode.Proofs.FileSystem.Growing
import Intcode.Proofs.Cache.LastWrite
import Intcode.Proofs.CommandLine.Stored
import Intcode.Proofs.CommandLine.Reports
import Intcode.Proofs.Memory.Layout
import Intcode.Proofs.Console.Observed
import Intcode.Proofs.Instruction.Defects
import Intcode.Proofs.Program.Concatenation
import Intcode.Proofs.Conversation.Dialogue
import Intcode.Proofs.Conversation.Showing
import Intcode.Proofs.Console.Lines
import Intcode.Proofs.Transcript.Weaving
import Intcode.Proofs.Transcript.Lines
import Intcode.Proofs.Machine.Stepping
import Intcode.Proofs.Text.Segments
import Intcode.Proofs.Host.Encoding
import Intcode.Proofs.History.Echo
import Intcode.Proofs.Transcript.Shout
import Intcode.Proofs.Channel.Record
import Intcode.Proofs.Text.Quoting
import Intcode.Proofs.Fault.Reading
import Intcode.Proofs.Memory.Checked
import Intcode.Proofs.History.Addresses
