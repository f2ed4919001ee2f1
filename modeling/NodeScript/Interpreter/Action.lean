/-
  What each kind of command does.

  An action takes the raw text of a command. It either succeeds, or fails and
  leaves the simulation as it was: arguments are extracted and files written
  before anything in it is changed.
-/
import NodeScript.Interpreter.Basic
import NodeScript.Script.Argument

namespace NodeScript

/-- What a command does to an interpreter, given its text, and why it failed if
it did. -/
abbrev Action (σ : Type) := Interpreter σ → Bytes → Interpreter σ × Option Failure

namespace Action

variable {σ : Type} [Host σ]

/-- The outcome of a command that lacks what its kind needs: nothing happens. -/
def malformed (i : Interpreter σ) : Interpreter σ × Option Failure := (i, some .malformed)

/-- The outcome of a command that only changes the simulation. -/
def change (i : Interpreter σ) (f : Simulation → Simulation) :
    Interpreter σ × Option Failure :=
  (i.update f, none)

/-- The outcome of a command that writes a file: it adds a line to the output
log once the file is written. -/
def confirm (written : Interpreter σ × Option WriteFailure) (line : Bytes) :
    Interpreter σ × Option Failure :=
  match written with
  | (i, none) => (i.update (·.append line), none)
  | (i, some failure) => (i, some (.write failure))

/-! ### Nodes -/

/-- `node[N]` starts the node with the number `N`, unless the number is too
large for 64 bits. -/
def start : Action σ := fun i text =>
  match Pattern.nodeId.find? text with
  | none => malformed i
  | some digits =>
    let id := Bytes.digitsValue digits
    if id ≤ Bytes.maxInt64 then
      change i (fun s =>
        (s.start id).append (utf8 "Engine started for node " ++ Bytes.ofNat id ++ utf8 "."))
    else malformed i

/-- `node [*]`, with the space, stops every known node. -/
def stop : Action σ := fun i text =>
  if Bytes.containsWord (utf8 "node [*]") text then
    change i (fun s => s.stopAll.append (utf8 "All nodes stopped."))
  else malformed i

/-- `Node[*]`, without a space, lists every known node. Anything else is
answered, not refused. -/
def stat : Action σ := fun i text =>
  if Bytes.containsWord (utf8 "Node[*]") text then
    change i (fun s => s.appendAll (utf8 "Node statistics:" :: s.nodes.records))
  else change i ((·.append (utf8 "Invalid Stat command.")))

/-! ### The node API -/

/-- `NodeAPI = "V"` sets the reference of the node API to `V`. -/
def setApi : Action σ := fun i text =>
  match Pattern.nodeApi.find? text with
  | none => malformed i
  | some api =>
    change i (fun s => (s.setApi api).append (utf8 "NodeAPI set to " ++ api ++ utf8 "."))

/-- Connects the nodes if the reference of the node API is set. -/
def connect : Action σ := fun i _ =>
  change i (fun s => s.append (
    if s.api.isEmpty then utf8 "NodeAPI is not set. Unable to connect."
    else utf8 "Connecting nodes with API: " ++ s.api ++ utf8 "."))

/-! ### Files -/

/-- Writes one line for each known node to the sink, in the stead of what it
held. -/
def log : Action σ := fun i _ =>
  confirm (i.write i.sink (Bytes.lines i.simulation.nodes.records))
    (utf8 "Node statistics logged to " ++ i.sink ++ utf8 ".")

/-- `out => "P"` writes the output log to the file `P`. -/
def exportOutput : Action σ := fun i text =>
  match Pattern.exportPath.find? text with
  | none => malformed i
  | some path =>
    confirm (i.save path) (utf8 "Output exported to " ++ path ++ utf8 ".")

/-! ### The output log -/

/-- Trims every line of the output log. -/
def compress : Action σ := fun i _ =>
  change i (fun s => s.compress.append (utf8 "Output data compressed."))

/-- Creates a module that stands alone. -/
def standalone : Action σ := fun i _ =>
  change i ((·.append (utf8 "Standalone module created. Cannot connect to others.")))

/-- `send(A)` sends the argument `A`, spaces and all. -/
def send : Action σ := fun i text =>
  match Pattern.sendArgument.find? text with
  | none => malformed i
  | some argument => change i ((·.append (utf8 "Sent argument: " ++ argument)))

/-- The action of each kind of command that has one. -/
def ofKind? : Kind → Option (Action σ)
  | .unrecognized => none
  | .start => some start
  | .stop => some stop
  | .setApi => some setApi
  | .connect => some connect
  | .stat => some stat
  | .log => some log
  | .exportOutput => some exportOutput
  | .compress => some compress
  | .standalone => some standalone
  | .send => some send

end Action

end NodeScript
