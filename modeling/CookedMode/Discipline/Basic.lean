import CookedMode.Listener
import CookedMode.Discipline.Sides

/-!
# The line discipline

A discipline stands between the master side, where a user types, and the
application side.  Each call on it is a list of tasks.  A task either takes effect
at once or stands for a few smaller tasks that are done in its place, so a call
can be watched, and suspended, between any two of its effects.

A typed byte stands for the tasks that its value and the attributes of that moment
determine; the attributes may change before the next byte.  A call that feeds
bytes ends by publishing what it delivered.  That task survives a fault: a fault
drops every other task that is left.
-/

namespace CookedMode

namespace Attributes

/-- What becomes of a byte on its way to the application: at most one change,
or nothing if the byte is dropped. -/
def accept? (attributes : Attributes) (byte : UInt8) : Option UInt8 :=
  if byte = cr then
    if attributes.igncr then none
    else if attributes.icrnl then some lf
    else some cr
  else if byte = lf ∧ attributes.inlcr then some cr
  else some byte

/-- What is written to the master side for a byte of output. -/
def expand (attributes : Attributes) (byte : UInt8) : List UInt8 :=
  if byte = lf ∧ attributes.opost ∧ attributes.onlcr then [cr, lf] else [byte]

/-- The control character a typed byte acts as, provided signals are on. -/
def acting? (attributes : Attributes) (byte : UInt8) : Option ControlChar :=
  if attributes.isig then
    ControlChar.all.find? fun control => attributes.control control = some byte
  else none

/-- The caret form of a control byte: a caret and the byte with bit six flipped.
Other bytes have none. -/
def caret? (byte : UInt8) : Option (List UInt8) :=
  if 0 < byte ∧ byte < 32 then some [0x5E, byte + 0x40]
  else if byte = del then some [0x5E, 0x3F]
  else none

/-- What announces a signal on the master side. -/
def announcement? (attributes : Attributes) (signal : Signal) : Option (List UInt8) :=
  (ControlChar.announcing? signal).bind fun control =>
    (attributes.control control).bind caret?

end Attributes

/-- Something a call on a discipline still has to do. -/
inductive Task where
  /-- Process one typed byte. -/
  | type (byte : UInt8)
  /-- Write to the sink, in one call. -/
  | write (bytes : List UInt8)
  /-- Flush the sink. -/
  | flush
  /-- Deliver a byte to the outlet. -/
  | deliver (byte : UInt8)
  /-- Publish what was delivered, whatever happened before. -/
  | publish
  /-- Tell the registered listener of a signal. -/
  | notify (signal : Signal)
  /-- Tell a listener of a signal. -/
  | tell (listener : Listener) (signal : Signal)
  /-- Perform an action. -/
  | perform (action : Action)

namespace Task

/-- Whether a task is done even after a fault. -/
def survives : Task → Bool
  | publish => true
  | _ => false

/-- The number of bytes a task is about. -/
def size : Task → Nat
  | perform action => action.size
  | _ => 1

/-- The tasks that announce a signal. -/
def announce (attributes : Attributes) (signal : Signal) : List Task :=
  match attributes.announcement? signal with
  | some bytes => [write bytes, flush]
  | none => []

/-- The tasks that echo and deliver a typed byte which raises no signal. -/
def accept (attributes : Attributes) (byte : UInt8) : List Task :=
  match attributes.accept? byte with
  | none => []
  | some byte =>
    (if attributes.echo then [write (attributes.expand byte), flush] else []) ++
      [deliver byte]

/-- The tasks a typed byte stands for. -/
def ofByte (attributes : Attributes) (byte : UInt8) : List Task :=
  match attributes.acting? byte with
  | none => accept attributes byte
  | some control =>
    announce attributes control.signal ++ [notify control.signal] ++
      (if control.discards then [] else accept attributes byte)

/-- The tasks of a call that feeds bytes. -/
def feed (data : List UInt8) : List Task :=
  data.map type ++ [publish]

/-- The tasks of a call that writes output: one write for each byte. -/
def emit (attributes : Attributes) (data : List UInt8) : List Task :=
  data.map fun byte => write (attributes.expand byte)

end Task

/-- Something that others can observe. -/
inductive Event where
  /-- A write reached the sink. -/
  | wrote (bytes : List UInt8)
  /-- The sink was flushed. -/
  | flushed
  /-- The outlet accepted a byte. -/
  | delivered (byte : UInt8)
  /-- The outlet published its bytes. -/
  | published
  /-- The outlet was closed. -/
  | closed
  /-- A listener was told of a signal. -/
  | told (listener : String) (signal : Signal)
  deriving DecidableEq, Repr

/-- The bytes that the sink was given in the course of some events. -/
def Event.masterBytes (events : List Event) : List UInt8 :=
  events.flatMap fun event =>
    match event with
    | wrote bytes => bytes
    | _ => []

/-- A line discipline between its two sides, with what was observed of it. -/
structure Discipline (outlet : Type) where
  attributes : Attributes := {}
  listener : Option Listener := none
  sink : Sink := {}
  outlet : outlet
  trace : Array Event := #[]

/-- The outcome of doing one task. -/
inductive Step (outlet : Type) where
  /-- The task is done, and these tasks take its place. -/
  | next (after : Discipline outlet) (tasks : List Task)
  /-- The task cannot be done yet. -/
  | wait (after : Discipline outlet)
  /-- The task failed. -/
  | fail (fault : Fault)

namespace Discipline

variable {outlet : Type}

/-- Take note of an event. -/
def log (line : Discipline outlet) (event : Event) : Discipline outlet :=
  { line with trace := line.trace.push event }

/-- Begin an action. -/
def begin [Outlet outlet] (line : Discipline outlet) : Action → Step outlet
  | .input data => .next line (Task.feed data)
  | .output data => .next line (Task.emit line.attributes data)
  | .flushOutput => .next line [.flush]
  | .raise signal =>
    .next line (Task.announce line.attributes signal ++ [.notify signal])
  | .dispatch signal => .next line [.notify signal]
  | .setAttributes attributes => .next { line with attributes } []
  | .setFlag flag value =>
    .next { line with attributes := line.attributes.setFlag flag value } []
  | .bind control value =>
    match line.attributes.bind? control value with
    | .ok attributes => .next { line with attributes } []
    | .error unbindable => .fail (.unbindable unbindable)
  | .listen listener => .next { line with listener } []
  | .close => .next ({ line with outlet := Outlet.close line.outlet }.log .closed) []
  | .fail fault => .fail fault

/-- Do one task. -/
def step [Outlet outlet] (line : Discipline outlet) : Task → Step outlet
  | .type byte => .next line (Task.ofByte line.attributes byte)
  | .write bytes =>
    match line.sink.write? with
    | some sink => .next ({ line with sink }.log (.wrote bytes)) []
    | none => .fail .sinkClosed
  | .flush =>
    match line.sink.flush? with
    | some sink => .next ({ line with sink }.log .flushed) []
    | none => .fail .flushFailed
  | .deliver byte =>
    match Outlet.offer line.outlet byte with
    | .taken after => .next ({ line with outlet := after }.log (.delivered byte)) []
    | .refused => .fail .channelClosed
    | .full after => .wait { line with outlet := after }
  | .publish => .next ({ line with outlet := Outlet.publish line.outlet }.log .published) []
  | .notify signal =>
    match line.listener with
    | none => .next line []
    | some listener => .next line [.tell listener signal]
  | .tell (.leaf name reaction) signal =>
    .next (line.log (.told name signal)) ((reaction signal).map .perform)
  | .tell (.group members) signal => .next line (members.map fun member => .tell member signal)
  | .perform action => line.begin action

end Discipline

/-- A call under way: the tasks that are left, and the fault it met. -/
structure Call where
  tasks : List Task
  fault : Option Fault := none

namespace Call

/-- The call that performs an action. -/
def ofAction (action : Action) : Call where
  tasks := [.perform action]

/-- The number of bytes a call is about. -/
def size (call : Call) : Nat :=
  call.tasks.foldr (fun task count => task.size + count) 0

/-- A fault leaves only the tasks that are done whatever happens. -/
def interrupt (rest : List Task) (fault : Fault) : Call where
  tasks := rest.filter Task.survives
  fault := some fault

end Call

/-- How a call moves on. -/
inductive Progress (outlet : Type) where
  /-- Nothing is left to do. -/
  | finished
  /-- One task was done. -/
  | moved (line : Discipline outlet) (call : Call)
  /-- The next task has to wait. -/
  | waits (line : Discipline outlet)

namespace Discipline

variable {outlet : Type} [Outlet outlet]

/-- Do the next task of a call. -/
def advance (line : Discipline outlet) (call : Call) : Progress outlet :=
  match call.tasks with
  | [] => .finished
  | task :: rest =>
    match line.step task with
    | .next after tasks => .moved after { call with tasks := tasks ++ rest }
    | .wait after => .waits after
    | .fail fault => .moved line (.interrupt rest fault)

/-- Do tasks of a call until it finishes, waits or has used up its moves. -/
def run : Nat → Discipline outlet → Call → Discipline outlet × Call
  | 0, line, call => (line, call)
  | moves + 1, line, call =>
    match line.advance call with
    | .finished => (line, call)
    | .moved after call => run moves after call
    | .waits after => (after, call)

/-- How many moves a call on some bytes may take.  Only listeners that raise
signals without end take more. -/
def moves (size : Nat) : Nat := (size + 1) * 65536

/-- Perform an action on a discipline whose outlet never has its writer wait.  The
fault of an action that does not end says so. -/
def perform (line : Discipline outlet) (action : Action) : Discipline outlet × Option Fault :=
  let call := Call.ofAction action
  let (line, call) := line.run (moves call.size) call
  (line, if call.tasks.isEmpty then call.fault else some .endless)

end Discipline

end CookedMode
