import CookedMode.Proofs.Channel.Soundness
import CookedMode.Proofs.Discipline.Completion
import CookedMode.Proofs.Discipline.Transcript

/-!
# Deliveries to a channel

A step of a discipline keeps its channel sound, and the channel gains exactly the bytes
that the step has written down as delivered.
-/

namespace CookedMode

namespace Event

/-- The bytes that the outlet accepted in the course of some events. -/
def deliveredBytes (events : List Event) : List UInt8 :=
  events.filterMap fun event =>
    match event with
    | delivered byte => some byte
    | _ => none

@[simp] theorem deliveredBytes_nil : deliveredBytes [] = [] := rfl

@[simp] theorem deliveredBytes_append (first second : List Event) :
    deliveredBytes (first ++ second) = deliveredBytes first ++ deliveredBytes second :=
  List.filterMap_append

@[simp] theorem deliveredBytes_delivered (byte : UInt8) :
    deliveredBytes [.delivered byte] = [byte] := rfl

@[simp] theorem deliveredBytes_published : deliveredBytes [.published] = [] := rfl

@[simp] theorem deliveredBytes_closed : deliveredBytes [.closed] = [] := rfl

theorem deliveredBytes_eq_nil {events : List Event}
    (inner : ∀ event ∈ events, event.ofOutlet = false) : deliveredBytes events = [] := by
  apply List.filterMap_eq_nil_iff.mpr
  intro event member
  have outside := inner event member
  cases event with
  | delivered byte => cases outside
  | _ => rfl

end Event

namespace Transcript

theorem deliveredBytes_heard (setting : Setting) (signal : Signal) :
    Event.deliveredBytes (heard setting signal) = [] := by
  apply Event.deliveredBytes_eq_nil
  intro event member
  unfold heard at member
  split at member
  · cases member
  · simp only [Listener.heard, List.mem_map] at member
    obtain ⟨_, _, rfl⟩ := member
    rfl

theorem deliveredBytes_echo (attributes : Attributes) (byte : UInt8) :
    Event.deliveredBytes (echo attributes byte) = [] := by
  unfold echo
  split
  · rfl
  · split <;> rfl

end Transcript

namespace Discipline

variable {line after : Discipline Channel} {task : Task}

theorem Effect.sound (effect : Effect line after task) (sound : line.outlet.Sound) :
    after.outlet.Sound := by
  cases effect with
  | aside _ outletEq => rw [outletEq]; exact sound
  | delivers offerEq => exact sound.offer_taken offerEq
  | publishes outletEq => rw [outletEq]; exact sound.publish
  | closes outletEq => rw [outletEq]; exact sound.close

/-- What a step writes down tells what it has done to the channel. -/
theorem Effect.events (effect : Effect line after task) :
    ∃ events, after.trace.toList = line.trace.toList ++ events ∧
      after.outlet.buffer = line.outlet.buffer ++ Event.deliveredBytes events ∧
      (after.outlet.closed = true ↔ line.outlet.closed = true ∨ .closed ∈ events) := by
  cases effect with
  | aside events outletEq traceEq inner =>
      have isOpen : .closed ∉ events := fun member => by cases inner _ member
      refine ⟨events, traceEq, ?_, ?_⟩
      · rw [outletEq, Event.deliveredBytes_eq_nil inner, List.append_nil]
      · simp [outletEq, isOpen]
  | delivers offerEq traceEq =>
      obtain ⟨-, -, outletEq⟩ := Channel.eq_of_offer_taken offerEq
      refine ⟨_, traceEq, ?_, ?_⟩
      · rw [outletEq, Event.deliveredBytes_delivered]
      · simp [outletEq]
  | publishes outletEq traceEq =>
      refine ⟨_, traceEq, ?_, ?_⟩
      · simp [outletEq, Outlet.publish]
      · simp [outletEq, Outlet.publish]
  | closes outletEq traceEq =>
      refine ⟨_, traceEq, ?_, ?_⟩
      · simp [outletEq, Outlet.close]
      · simp [outletEq, Outlet.close]

/-- Everything is announced while a publication is the last that happened. -/
def Announced (line : Discipline Channel) : Prop :=
  line.trace.toList.getLast? = some .published →
    line.outlet.published = line.outlet.buffer.length

theorem Effect.announced (effect : Effect line after task) (announced : line.Announced) :
    after.Announced := by
  intro last
  cases effect with
  | aside events outletEq traceEq inner =>
      rw [traceEq, List.getLast?_append] at last
      cases lastEq : events.getLast? with
      | none => rw [outletEq]; exact announced (by simpa [lastEq] using last)
      | some event =>
          have isPublished : event = .published := by simpa [lastEq] using last
          subst isPublished
          cases inner _ (List.mem_of_getLast? lastEq)
  | delivers _ traceEq => rw [traceEq, List.getLast?_concat] at last; cases last
  | publishes outletEq => rw [outletEq]; rfl
  | closes _ traceEq => rw [traceEq, List.getLast?_concat] at last; cases last

/-- A delivery that goes on has found room. -/
theorem taken_of_step {byte : UInt8} {tasks : List Task}
    (stepEq : line.step (.deliver byte) = .next after tasks) :
    Outlet.offer line.outlet byte = .taken after.outlet := by
  simp only [step] at stepEq
  split at stepEq <;> cases stepEq
  case h_1 held offerEq => exact offerEq

/-- A delivery fails only on a closed channel. -/
theorem closed_of_step {byte : UInt8} {fault : Fault}
    (stepEq : line.step (.deliver byte) = .fail fault) : line.outlet.closed = true := by
  have received := line.outlet.received_offer byte
  simp only [step] at stepEq
  split at stepEq <;> cases stepEq
  case h_2 offerEq =>
    rw [show line.outlet.offer byte = .refused from offerEq] at received
    cases received with
    | refused closed => exact closed

/-- Only a delivery waits, and it does so at a full channel, which has published by then. -/
theorem step_wait {waiting : Discipline Channel} (stepEq : line.step task = .wait waiting) :
    ∃ byte, task = .deliver byte ∧ line.outlet.closed = false ∧
      line.outlet.capacity ≤ line.outlet.buffer.length ∧
      waiting = { line with outlet := { line.outlet.publish with writerWaits := true } } := by
  cases task with
  | deliver byte =>
      simp only [step] at stepEq
      split at stepEq <;> cases stepEq
      case h_3 held offerEq =>
        obtain ⟨isOpen, full, rfl⟩ := Channel.eq_of_offer_full offerEq
        exact ⟨byte, rfl, isOpen, full, rfl⟩
  | write bytes | flush | notify signal =>
      simp only [step] at stepEq
      split at stepEq <;> cases stepEq
  | tell listener signal => cases listener <;> cases stepEq
  | perform action =>
      cases action with
      | bind control value =>
          simp only [step, begin] at stepEq
          split at stepEq <;> cases stepEq
      | _ => cases stepEq
  | _ => cases stepEq

end Discipline

end CookedMode
