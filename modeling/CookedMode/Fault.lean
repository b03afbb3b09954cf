import CookedMode.Attributes
import CookedMode.Dimensions
import CookedMode.Text.Quoted

/-!
# Faults of a call on a terminal

A fault is the reason why a call ends early.  The wording of every fault is in
one function.
-/

namespace CookedMode

/-- The kinds of names a caller can get wrong. -/
inductive NameKind where
  | signal
  | inputFlag
  | outputFlag
  | localFlag
  | controlChar
  | searchMatch
  | searchDirection
  deriving DecidableEq, Repr

/-- What a name was expected to be. -/
def NameKind.expected : NameKind → String
  | signal => "Signal"
  | inputFlag => "InputFlag"
  | outputFlag => "OutputFlag"
  | localFlag => "LocalFlag"
  | controlChar => "ControlChar"
  | searchMatch => "SearchMatch"
  | searchDirection => "SearchDirection"

/-- A name that denotes nothing of the expected kind. -/
structure UnknownName where
  kind : NameKind
  name : String
  deriving DecidableEq, Repr

/-- The report of an unknown name. -/
def UnknownName.message (unknown : UnknownName) : String :=
  Text.quoted unknown.name ++ " is not a valid " ++ unknown.kind.expected

/-- Why a call on a terminal failed. -/
inductive Fault where
  /-- The master side takes no more output. -/
  | sinkClosed
  /-- The master side could not be flushed. -/
  | flushFailed
  /-- The channel to the application is closed. -/
  | channelClosed
  /-- A listener failed. -/
  | listenerFailed (text : String)
  /-- A control character was to be bound to something that is not a byte. -/
  | unbindable (refusal : Unbindable)
  /-- A name denotes nothing. -/
  | unknownName (unknown : UnknownName)
  /-- Fewer bytes are held than were announced. -/
  | exhausted
  /-- Lines arrive in an encoding that does not exist. -/
  | unknownEncoding (name : String)
  /-- The terminal was to get an impossible size. -/
  | dimensions (error : Dimensions.Error)
  /-- Listeners raise signals without end. -/
  | endless
  deriving DecidableEq, Repr

/-- The report of a fault. -/
def Fault.message : Fault → String
  | sinkClosed => "master sink closed"
  | flushFailed => "master flush failed"
  | channelClosed => "slave channel is closed"
  | listenerFailed text => text
  | unbindable refusal => refusal.message
  | unknownName unknown => unknown.message
  | exhausted => "pop from an empty deque"
  | unknownEncoding name => "unknown encoding: " ++ name
  | dimensions error => error.message
  | endless => "maximum recursion depth exceeded"

end CookedMode
