import WordMachine.Assembly
import WordMachine.Config
import WordMachine.Debugger.Basic
import WordMachine.Debugger.Screen
import WordMachine.Demo
import WordMachine.Exchange
import WordMachine.Files
import WordMachine.Image
import WordMachine.Image.File
import WordMachine.Instruction
import WordMachine.Instruction.Reader
import WordMachine.Json.Basic
import WordMachine.Json.Reader
import WordMachine.Json.Shape
import WordMachine.Listing
import WordMachine.Machine.Basic
import WordMachine.Machine.Fault
import WordMachine.Machine.Run
import WordMachine.Machine.Snapshot
import WordMachine.Machine.Step
import WordMachine.Main
import WordMachine.Memory
import WordMachine.Readout
import WordMachine.Register
import WordMachine.Register.Bank
import WordMachine.Session
import WordMachine.Shell.Arguments
import WordMachine.Shell.Commands
import WordMachine.Shell.Run
import WordMachine.Shell.SelfTest
import WordMachine.Text.Case
import WordMachine.Text.Column
import WordMachine.Text.Hex
import WordMachine.Text.Printable
import WordMachine.Text.Quoted
import WordMachine.Text.Split
import WordMachine.Trace.Event
import WordMachine.Trace.Log
import WordMachine.Word
import WordMachine.Proofs.Assembly
import WordMachine.Proofs.Debugger.Listing
import WordMachine.Proofs.Debugger.Reset
import WordMachine.Proofs.Debugger.Run
import WordMachine.Proofs.Debugger.Scroll
import WordMachine.Proofs.Demo
import WordMachine.Proofs.Drivers
import WordMachine.Proofs.Image.Grammar
import WordMachine.Proofs.Image.Lines
import WordMachine.Proofs.Image.RoundTrip
import WordMachine.Proofs.Instruction.Encoding
import WordMachine.Proofs.Instruction.Text
import WordMachine.Proofs.Json
import WordMachine.Proofs.Listing.Execution
import WordMachine.Proofs.Listing.Image
import WordMachine.Proofs.Listing.Sweep
import WordMachine.Proofs.Machine.Drive
import WordMachine.Proofs.Machine.Effect
import WordMachine.Proofs.Machine.Fetch
import WordMachine.Proofs.Machine.Frame
import WordMachine.Proofs.Machine.Precise
import WordMachine.Proofs.Machine.PushPop
import WordMachine.Proofs.Machine.Reference
import WordMachine.Proofs.Machine.Relaxed
import WordMachine.Proofs.Machine.Stack
import WordMachine.Proofs.Machine.StackPointer
import WordMachine.Proofs.Machine.Step
import WordMachine.Proofs.Machine.Straight
import WordMachine.Proofs.Machine.Trajectory
import WordMachine.Proofs.Memory
import WordMachine.Proofs.Memory.Bounds
import WordMachine.Proofs.Memory.Bytes
import WordMachine.Proofs.Memory.Load
import WordMachine.Proofs.Memory.Size
import WordMachine.Proofs.Register.Bank
import WordMachine.Proofs.Register.Name
import WordMachine.Proofs.Session.Failure
import WordMachine.Proofs.Shell.Budget
import WordMachine.Proofs.Shell.Run
import WordMachine.Proofs.Text.Hex
import WordMachine.Proofs.Text.Split
import WordMachine.Proofs.Trace.Journal
import WordMachine.Proofs.Trace.Log
