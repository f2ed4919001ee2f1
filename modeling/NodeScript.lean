import NodeScript.Main
import NodeScript.Shell.Completion
import NodeScript.Proofs.Script.Streaming
import NodeScript.Proofs.Interpreter.Chronicle
import NodeScript.Proofs.Interpreter.Meaning
import NodeScript.Proofs.Interpreter.Faults
import NodeScript.Proofs.Interpreter.Output
import NodeScript.Proofs.Shell.Printing
import NodeScript.Proofs.Interpreter.OutputLines
import NodeScript.Proofs.Interpreter.Statistics
import NodeScript.Proofs.Interpreter.Starts
import NodeScript.Proofs.Interpreter.Padding
import NodeScript.Proofs.Interpreter.Exports
import NodeScript.Proofs.Interpreter.Compression
import NodeScript.Proofs.Interpreter.Accounts
import NodeScript.Proofs.Script.RuleOrder
import NodeScript.Proofs.Script.Renderings
import NodeScript.Proofs.Shell.Completion
import NodeScript.Proofs.Invocation.RoundTrip
import NodeScript.Proofs.Invocation.Batch
import NodeScript.Proofs.Invocation.Source
import NodeScript.Proofs.Script.Places
import NodeScript.Proofs.Script.Marks
import NodeScript.Proofs.Settings.Precedence
