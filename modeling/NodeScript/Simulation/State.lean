/-
  The state of a simulation: its identity, the known nodes, the reference of the
  node API, and the output log.
-/
import NodeScript.Simulation.Node
import NodeScript.Text.Blank

namespace NodeScript

/-- An identity made of sixteen random bytes, written as a version 4 UUID: the
seventh byte starts with the digit 4, and the ninth with one of 8, 9, a and b. -/
def identity (random : Bytes) : Bytes :=
  let byte (k : Nat) : Nat :=
    let b := (random.getD k 0).toNat
    if k = 6 then 0x40 + b % 16 else if k = 8 then 0x80 + b % 64 else b
  let group (start count : Nat) : Bytes :=
    ((List.range count).map fun k => Bytes.hex 2 (byte (start + k))).flatten
  Bytes.join [hyphen] [group 0 4, group 4 2, group 6 2, group 8 2, group 10 6]

/-- All that commands read and change, files apart. An empty `api` is as good as
none. -/
structure Simulation where
  /-- Identifies the simulation in diagnostics. -/
  id : Bytes
  nodes : NodeTable := .empty
  api : Bytes := []
  /-- The output log, oldest line first. -/
  output : List Bytes := []

namespace Simulation

/-- Adds a line to the output log. -/
def append (s : Simulation) (line : Bytes) : Simulation :=
  { s with output := s.output ++ [line] }

/-- Adds lines to the output log. -/
def appendAll (s : Simulation) (lines : List Bytes) : Simulation :=
  { s with output := s.output ++ lines }

/-- Empties the output log. -/
def clear (s : Simulation) : Simulation := { s with output := [] }

/-- Trims every line of the output log. -/
def compress (s : Simulation) : Simulation := { s with output := s.output.map trim }

/-- Forgets nodes, API and output log, but not the identity. -/
def reset (s : Simulation) : Simulation := { id := s.id }

/-- Sets the reference of the node API. -/
def setApi (s : Simulation) (api : Bytes) : Simulation := { s with api }

/-- Starts a node. -/
def start (s : Simulation) (id : Int) : Simulation := { s with nodes := s.nodes.start id }

/-- Stops every known node. -/
def stopAll (s : Simulation) : Simulation := { s with nodes := s.nodes.stopAll }

end Simulation

end NodeScript
