/-
  Journals: which events are written, and in which form.
-/
import NodeScript.Diagnostics.Event

namespace NodeScript

/-- The form in which a journal writes its events. -/
inductive Format where
  | json
  | console
  deriving DecidableEq

/-- The settings of a journal: the least level it writes, the form, and the time
that is put on every event, if any. -/
structure Journal where
  threshold : Level
  format : Format := .json
  time : Option Bytes := none
  deriving DecidableEq

namespace Journal

/-- A journal that writes no event of a named level. -/
def silent : Journal := { threshold := .disabled }

/-- Whether a journal writes the events of a level. Nothing is finer than a
trace, and an event can be disabled by its own level. -/
def admits (j : Journal) (l : Level) : Bool :=
  j.threshold.value ≤ l.value && Level.trace.value ≤ l.value && l != .disabled

/-- What a journal writes for an event: one line, or nothing. -/
def entry (j : Journal) (e : Event) : Bytes :=
  if j.admits e.level then
    match j.format with
    | .json => e.json j.time
    | .console => e.console j.time
  else []

end Journal

end NodeScript
