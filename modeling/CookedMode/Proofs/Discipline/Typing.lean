import CookedMode.Proofs.Discipline.Completion
import CookedMode.Proofs.Discipline.Transcript

/-!
# What typing writes down

Feeding bytes to an unhindered discipline completes, writes down exactly the transcript of
the bytes, and then publishes once.  The proof follows the tasks: each kind of task yields
its events, whatever was written down before, and tasks in a row yield their events in a
row.
-/

namespace CookedMode

namespace Discipline

/-- The setting of a discipline. -/
def setting {outlet : Type} (line : Discipline outlet) : Setting where
  attributes := line.attributes
  listener := line.listener

/-- The unhindered discipline of a setting, with what was observed of it. -/
def free (setting : Setting) (trace : List Event) : Discipline Tape where
  attributes := setting.attributes
  listener := setting.listener
  outlet := {}
  trace := trace.toArray

theorem unhindered_eq_free {outlet : Type} (line : Discipline outlet) :
    line.unhindered = free line.setting line.trace.toList := by
  simp [unhindered, free, setting]

/-- Whatever was observed before, tasks that nothing hinders are all done, write down
some events, and leave the discipline in another setting. -/
def Yields (setting : Setting) (tasks : List Task) (events : List Event)
    (after : Setting) : Prop :=
  ∀ trace, ∃ moves, Completes (free setting trace) tasks moves (free after (trace ++ events))

namespace Yields

variable {setting middle after : Setting} {tasks rest : List Task}
variable {first second : List Event}

theorem nil : Yields setting [] [] setting := by
  intro trace
  exact ⟨0, by simpa using Completes.done (free setting trace)⟩

theorem append (left : Yields setting tasks first middle)
    (right : Yields middle rest second after) :
    Yields setting (tasks ++ rest) (first ++ second) after := by
  intro trace
  obtain ⟨moves, leftDone⟩ := left trace
  obtain ⟨more, rightDone⟩ := right (trace ++ first)
  exact ⟨moves + more, by simpa using leftDone.append rightDone⟩

theorem cons {task : Task} (left : Yields setting [task] first middle)
    (right : Yields middle rest second after) :
    Yields setting (task :: rest) (first ++ second) after :=
  left.append right

theorem of_tasks {task : Task}
    (stepEq : ∀ trace, (free setting trace).step task = .next (free setting trace) tasks)
    (done : Yields setting tasks first after) : Yields setting [task] first after := by
  intro trace
  obtain ⟨moves, completes⟩ := done trace
  exact ⟨moves + 1, .task (stepEq trace) (by simpa using completes)⟩

theorem of_step {task : Task}
    (stepEq : ∀ trace, (free setting trace).step task = .next (free after (trace ++ first)) []) :
    Yields setting [task] first after := by
  intro trace
  exact ⟨1, .one (stepEq trace)⟩

theorem write (bytes : List UInt8) : Yields setting [.write bytes] [.wrote bytes] setting :=
  of_step fun trace => by simp [step, free, log]

theorem flush : Yields setting [.flush] [.flushed] setting :=
  of_step fun trace => by simp [step, free, log]

theorem deliver (byte : UInt8) : Yields setting [.deliver byte] [.delivered byte] setting :=
  of_step fun trace => by simp [step, free, log, Outlet.offer, Allowance.spend?]

theorem publish : Yields setting [.publish] [.published] setting :=
  of_step fun trace => by simp [step, free, log, Outlet.publish]

end Yields

theorem step_adjustment {action : Action} (adjusts : action.IsAdjustment) (setting : Setting)
    (trace : List Event) :
    (free setting trace).step (.perform action) =
      .next (free (setting.change action) trace) [] := by
  cases action with
  | setAttributes attributes | setFlag flag value | listen listener => rfl
  | bind control value =>
      cases value with
      | none => rfl
      | some value =>
          have byte := adjusts value rfl
          simp [step, begin, Setting.change, free, Attributes.bind?, Attributes.byte?, byte]
  | _ => exact adjusts.elim

namespace Yields

theorem adjustments {actions : List Action} (setting : Setting)
    (adjusts : ∀ action ∈ actions, action.IsAdjustment) :
    Yields setting (actions.map .perform) [] (actions.foldl Setting.change setting) := by
  induction actions generalizing setting with
  | nil => exact nil
  | cons action actions ih =>
      have first : Yields setting [.perform action] [] (setting.change action) :=
        of_step fun trace => by
          rw [List.append_nil]
          exact step_adjustment (adjusts action (by simp)) setting trace
      exact first.cons (ih _ fun other member => adjusts other (by simp [member]))

theorem members {listeners : List Listener} (signal : Signal) (setting : Setting)
    (each : ∀ listener ∈ listeners, ∀ setting, Yields setting [.tell listener signal]
      (listener.heard signal) ((listener.reactions signal).foldl Setting.change setting)) :
    Yields setting (listeners.map fun listener => .tell listener signal)
      (Listener.heard (.group listeners) signal)
      ((Listener.reactions (.group listeners) signal).foldl Setting.change setting) := by
  induction listeners generalizing setting with
  | nil => exact nil
  | cons listener listeners ih =>
      have first := each listener (by simp) setting
      have others := ih ((listener.reactions signal).foldl Setting.change setting)
        fun other member => each other (by simp [member])
      simpa using first.cons others

/-- A listener that only adjusts is heard once at each leaf, and its reactions take
effect in order. -/
theorem tell {listener : Listener} (adjusts : listener.OnlyAdjusts) (signal : Signal)
    (setting : Setting) :
    Yields setting [.tell listener signal] (listener.heard signal)
      ((listener.reactions signal).foldl Setting.change setting) := by
  induction adjusts generalizing setting with
  | @leaf name reaction adjusts _ _ =>
      intro trace
      have stepEq : (free setting trace).step (.tell (.leaf name reaction) signal) =
          .next (free setting (trace ++ [.told name signal]))
            ((reaction signal).map .perform) := by
        simp [step, free, log]
      obtain ⟨moves, done⟩ :=
        adjustments setting (adjusts signal) (trace ++ [.told name signal])
      exact ⟨moves + 1, .task stepEq (by simpa using done)⟩
  | group _ ih =>
      exact of_tasks (fun _ => rfl)
        (members signal setting fun member isMember => ih member isMember)

/-- A discipline that notifies tells the listener of its setting. -/
theorem notify {setting : Setting} (signal : Signal)
    (harmless : setting.Harmless) :
    Yields setting [.notify signal] (Transcript.heard setting signal)
      (Transcript.told setting signal) := by
  cases listenerEq : setting.listener with
  | none =>
      simp only [Transcript.heard, Transcript.told, listenerEq]
      refine of_tasks (fun trace => ?_) nil
      simp [step, free, listenerEq]
  | some listener =>
      simp only [Transcript.heard, Transcript.told, listenerEq]
      refine of_tasks (fun trace => ?_) (tell (harmless listener listenerEq) signal setting)
      simp [step, free, listenerEq]

end Yields

theorem acting?_eq_control? (attributes : Attributes) (byte : UInt8) :
    attributes.acting? byte = Transcript.control? attributes byte := by
  by_cases isig : attributes.isig
  · simp only [Attributes.acting?, Transcript.control?, isig, ControlChar.all, List.find?,
      Attributes.control]
    grind
  · simp [Attributes.acting?, Transcript.control?, isig]

theorem control_of_control? {attributes : Attributes} {byte : UInt8} {control : ControlChar}
    (acts : Transcript.control? attributes byte = some control) :
    attributes.control control = some byte := by
  unfold Transcript.control? at acts
  grind [Attributes.control]

theorem accept?_eq_translate? (attributes : Attributes) (byte : UInt8) :
    attributes.accept? byte = Transcript.translate? attributes byte := by
  unfold Attributes.accept? Transcript.translate? cr lf
  grind

theorem caret_xor {byte : UInt8} (isControl : byte < 32) : byte ^^^ 0x40 = byte + 0x40 := by
  have every : ∀ code : Fin 32,
      UInt8.ofNat code.val ^^^ 0x40 = UInt8.ofNat code.val + 0x40 := by decide
  simpa using every ⟨byte.toNat, UInt8.lt_iff_toNat_lt.mp isControl⟩

namespace Yields

theorem caret (setting : Setting) (byte : UInt8) :
    Yields setting
      (match Attributes.caret? byte with
        | some bytes => [.write bytes, .flush]
        | none => [])
      (Transcript.caret byte) setting := by
  by_cases isControl : 0 < byte ∧ byte < 32
  · have inRange : 1 ≤ byte ∧ byte ≤ 31 := by grind
    simp only [Attributes.caret?, Transcript.caret, isControl, inRange, caret_xor]
    exact (write _).cons flush
  · have outOfRange : ¬(1 ≤ byte ∧ byte ≤ 31) := by grind
    by_cases isDelete : byte = 127
    · subst isDelete
      exact (write _).cons flush
    · simp only [Attributes.caret?, Transcript.caret, isControl, outOfRange, isDelete, del]
      exact nil

/-- A byte is echoed as the attributes of its turn say, whatever they are by now. -/
theorem echo (setting : Setting) (attributes : Attributes) (byte : UInt8) :
    Yields setting
      (if attributes.echo then [.write (attributes.expand byte), .flush] else [])
      (Transcript.echo attributes byte) setting := by
  by_cases echoes : attributes.echo
  · by_cases expands : byte = 0x0A ∧ attributes.opost ∧ attributes.onlcr
    · simp only [Transcript.echo, Attributes.expand, echoes, expands, lf, cr, and_self,
        not_true_eq_false, if_true, if_false]
      exact (write _).cons flush
    · simp only [Transcript.echo, Attributes.expand, echoes, expands, lf,
        not_true_eq_false, if_true, if_false]
      exact (write _).cons flush
  · simp only [Transcript.echo, echoes, not_false_eq_true, if_true, Bool.false_eq_true, if_false]
    exact nil

/-- A byte is passed on as the attributes of its turn say, whatever they are by now. -/
theorem accept (setting : Setting) (attributes : Attributes) (byte : UInt8) :
    Yields setting (Task.accept attributes byte) (Transcript.passage attributes byte)
      setting := by
  simp only [Task.accept, Transcript.passage, accept?_eq_translate?]
  cases Transcript.translate? attributes byte with
  | none => exact nil
  | some byte => exact (echo setting attributes byte).append (deliver byte)

/-- A control byte is announced in caret form, and the listener is told of its signal. -/
theorem announce {setting : Setting} {byte : UInt8} {control : ControlChar}
    (acts : Transcript.control? setting.attributes byte = some control)
    (announced : ControlChar.announcing? control.signal = some control) :
    Yields setting (Task.announce setting.attributes control.signal) (Transcript.caret byte)
      setting := by
  have bound := control_of_control? acts
  simp only [Task.announce, Attributes.announcement?, announced, Option.bind_some, bound]
  exact caret setting byte

/-- The tasks of a typed byte yield its block. -/
theorem ofByte (setting : Setting) (byte : UInt8)
    (harmless : setting.Harmless) :
    Yields setting (Task.ofByte setting.attributes byte) (Transcript.block setting byte)
      (Transcript.next setting byte) := by
  simp only [Task.ofByte, acting?_eq_control?, Transcript.block, Transcript.next]
  cases acts : Transcript.control? setting.attributes byte with
  | none => exact accept setting setting.attributes byte
  | some control =>
      have hears := notify control.signal harmless
      cases control with
      | status => exact hears.cons (accept _ setting.attributes byte)
      | intr | quit | susp =>
          have announces := announce acts rfl
          simpa [ControlChar.discards, ControlChar.signal] using announces.append hears

/-- Typed bytes yield their transcript. -/
theorem types (setting : Setting) (data : List UInt8)
    (harmless : setting.Harmless) :
    Yields setting (data.map .type) (Transcript.events setting data)
      (Transcript.final setting data) := by
  induction data generalizing setting with
  | nil => exact nil
  | cons byte data ih =>
      have first : Yields setting [.type byte] _ _ :=
        of_tasks (fun _ => rfl) (ofByte setting byte harmless)
      exact first.cons (ih _ (harmless.next byte))

theorem input (setting : Setting) (data : List UInt8)
    (harmless : setting.Harmless) :
    Yields setting [.perform (.input data)] (Transcript.events setting data ++ [.published])
      (Transcript.final setting data) :=
  of_tasks (fun _ => rfl) ((types setting data harmless).append publish)

/-- Calls that feed bytes, one after the other, while nothing changes the setting. -/
theorem inputs {setting : Setting} (constant : setting.Constant) (chunks : List (List UInt8)) :
    Yields setting ((chunks.map .input).map .perform) (Transcript.fed setting chunks)
      setting := by
  induction chunks with
  | nil => exact nil
  | cons chunk chunks ih =>
      have first := input setting chunk constant.harmless
      rw [Transcript.events_of_constant constant, Transcript.final_of_constant constant] at first
      exact first.cons ih

theorem close (setting : Setting) :
    Yields setting [.perform .close] [.closed] setting :=
  of_step fun trace => by simp [step, begin, free, log, Outlet.close]

end Yields

/-- Feeding bytes to a discipline whose sink and outlet take everything, and whose listener
at most adjusts it, comes to an end without a fault.  What it writes down is one block for
each byte, under the attributes in force when the byte's turn comes, and one publication at
the end. -/
theorem run_input_eq_transcript (line : Discipline Tape) (data : List UInt8)
    (sink : line.sink = {}) (outlet : line.outlet = {}) (harmless : line.setting.Harmless) :
    let last := Transcript.final line.setting data
    let after : Discipline Tape :=
      { line with
        attributes := last.attributes
        listener := last.listener
        trace := line.trace ++
          (Transcript.events line.setting data ++ [Event.published]).toArray }
    (∃ moves, ∀ most, moves ≤ most →
      line.run most (.ofAction (.input data)) = (after, { tasks := [] })) ∧
    ((line.perform (.input data)).2 ≠ some .endless →
      line.perform (.input data) = (after, none)) := by
  intro last after
  obtain ⟨moves, completes⟩ := Yields.input line.setting data harmless line.trace.toList
  have startEq : free line.setting line.trace.toList = line := by
    obtain ⟨_, _, _, _, _⟩ := line
    simp only at sink outlet
    simp [free, setting, sink, outlet]
  have afterEq : free last (line.trace.toList ++
      (Transcript.events line.setting data ++ [.published])) = after := by
    simp [free, after, sink, outlet]
  rw [startEq, afterEq] at completes
  exact ⟨⟨moves, fun most enough => completes.run_eq enough⟩, completes.perform_eq⟩

/-- A status query that is bound to the carriage return, and a listener that switches all
processing off when it hears of one: the byte itself is still echoed and delivered as a
line feed, and the next one is delivered as it is. -/
theorem run_input_eq_transcript_status :
    let line : Discipline Tape :=
      { attributes := { Attributes.cooked with status := some 0x0D }
        listener := some (.leaf "status" fun _ => [.setAttributes {}])
        outlet := {} }
    line.sink = {} ∧ line.outlet = {} ∧ line.setting.Harmless ∧
      ∃ moves, ∀ most, moves ≤ most →
        (line.run most (.ofAction (.input [0x0D, 0x0D]))).1.trace =
          #[.told "status" .info, .wrote [0x0D, 0x0A], .flushed, .delivered 0x0A,
            .delivered 0x0D, .published] := by
  intro line
  have harmless : line.setting.Harmless := by
    intro listener registered
    cases registered
    refine .leaf (fun signal action member => ?_) (fun signal listener member => ?_)
    · cases List.mem_singleton.mp member
      exact trivial
    · cases List.mem_singleton.mp member
  obtain ⟨⟨moves, ends⟩, -⟩ := run_input_eq_transcript line [0x0D, 0x0D] rfl rfl harmless
  exact ⟨rfl, rfl, harmless, moves, fun most enough => by rw [ends most enough]; rfl⟩

end Discipline

end CookedMode
