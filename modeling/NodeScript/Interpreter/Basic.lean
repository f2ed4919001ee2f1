/-
  The interpreter's state.
-/
import NodeScript.Interpreter.Host
import NodeScript.Diagnostics.Problem
import NodeScript.Simulation.State

namespace NodeScript

/-- A simulation in its surroundings. -/
structure Interpreter (σ : Type) where
  host : σ
  /-- The name of the file that the log command writes. -/
  sink : Bytes
  simulation : Simulation

namespace Interpreter

variable {σ : Type} [Host σ]

/-- The sink's name unless another is asked for. -/
def defaultSink : Bytes := utf8 "log.txt"

/-- An interpreter with a new simulation. An empty name for the sink asks for
the default. -/
def new (host : σ) (id sink : Bytes) : Interpreter σ where
  host := host
  sink := if sink.isEmpty then defaultSink else sink
  simulation := { id }

/-- Changes the simulation only. -/
def update (i : Interpreter σ) (f : Simulation → Simulation) : Interpreter σ :=
  { i with simulation := f i.simulation }

/-- Writes a file. -/
def write (i : Interpreter σ) (name content : Bytes) :
    Interpreter σ × Option WriteFailure :=
  let (host, refusal) := Host.write i.host name content
  ({ i with host }, refusal.map (⟨name, ·⟩))

/-- Writes the output log to a file, with newlines between its lines and none at
the end. -/
def save (i : Interpreter σ) (path : Bytes) : Interpreter σ × Option WriteFailure :=
  i.write path (Bytes.join [newline] i.simulation.output)

/-- An event of this simulation. -/
def event (i : Interpreter σ) (level : Level) (fields : List (Bytes × Bytes))
    (message : Bytes) : Event where
  level := level
  fields := (utf8 "session", i.simulation.id) :: fields
  message := message

/-- Reports an event of this simulation. -/
def report (i : Interpreter σ) (level : Level) (fields : List (Bytes × Bytes))
    (message : Bytes) : Interpreter σ :=
  { i with host := Host.report i.host (i.event level fields message) }

/-- Prints a text. -/
def print (i : Interpreter σ) (text : Bytes) : Interpreter σ :=
  { i with host := Host.print i.host text }

end Interpreter

end NodeScript
