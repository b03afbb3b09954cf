import CookedMode.Fault

/-!
# Signal listeners

A listener is told of each signal that is dispatched.  A single listener has a
name and reacts to a signal by actions on the discipline that told it, in order.
Listeners compose: a group tells its members in order.
-/

namespace CookedMode

mutual

/-- Something that can be asked of a line discipline. -/
inductive Action where
  /-- Bytes arrive from the master side. -/
  | input (data : List UInt8)
  /-- The application writes bytes toward the master side. -/
  | output (data : List UInt8)
  /-- The application flushes what it wrote. -/
  | flushOutput
  /-- Announce a signal and tell the listener. -/
  | raise (signal : Signal)
  /-- Tell the listener of a signal. -/
  | dispatch (signal : Signal)
  /-- Replace the attributes. -/
  | setAttributes (attributes : Attributes)
  /-- Set or clear one flag. -/
  | setFlag (flag : Flag) (value : Bool)
  /-- Bind a control character, or unbind it. -/
  | bind (control : ControlChar) (value : Option Int)
  /-- Register another listener, or none. -/
  | listen (listener : Option Listener)
  /-- Close the channel to the application. -/
  | close
  /-- Fail. -/
  | fail (fault : Fault)

/-- Whoever is told of signals. -/
inductive Listener where
  /-- One listener and its reaction to each signal. -/
  | leaf (name : String) (reaction : Signal → List Action)
  /-- Several listeners, told in order. -/
  | group (members : List Listener)

end

/-- The number of bytes an action brings. -/
def Action.size : Action → Nat
  | .input data => data.length
  | .output data => data.length
  | _ => 0

instance : Inhabited Listener := ⟨.group []⟩

/-- A listener that only takes note of signals. -/
def Listener.recorder (name : String) : Listener :=
  .leaf name fun _ => []

end CookedMode
