import CookedMode.Proofs.Discipline.Splitting

/-!
# Dispatching to composed listeners

Listeners are composed into a tree.  To dispatch a signal is to call the leaves of the tree
from left to right, however they are nested, until one of them raises a fault.  Whoever is
registered in the meantime is told of the next signal, and not of this one.
-/

namespace CookedMode

namespace Discipline

variable {outlet : Type} [Outlet outlet]

/-- The tasks of a call come to an end: they are done one after the other, unless one of them
fails and only those that survive its fault follow. -/
inductive Unfolds (after : Discipline outlet) (fault : Option Fault) :
    Discipline outlet → List Task → Prop where
  | done (noFault : fault = none) : Unfolds after fault after []
  | next {line middle : Discipline outlet} {task : Task} {tasks rest : List Task}
      (stepEq : line.step task = .next middle tasks)
      (later : Unfolds after fault middle (tasks ++ rest)) : Unfolds after fault line (task :: rest)
  | fails {line : Discipline outlet} {task : Task} {rest : List Task} {cause : Fault}
      (stepEq : line.step task = .fail cause)
      (dropped : line.Finishes (.interrupt rest cause) after fault) :
      Unfolds after fault line (task :: rest)

section

variable {line middle after : Discipline outlet} {tasks rest : List Task}
variable {fault : Option Fault}

theorem finishes_iff_unfolds :
    line.Finishes { tasks } after fault ↔ Unfolds after fault line tasks := by
  constructor
  · rintro ⟨moves, ran⟩
    induction moves generalizing line tasks with
    | zero =>
        cases ran
        exact .done rfl
    | succ moves ih =>
        cases tasks with
        | nil =>
            cases ran
            exact .done rfl
        | cons task rest =>
            simp only [run, advance] at ran
            cases stepEq : line.step task with
            | next middle tasks =>
                rw [stepEq] at ran
                exact .next stepEq (ih ran)
            | wait reached =>
                rw [stepEq] at ran
                cases ran
            | fail cause =>
                rw [stepEq] at ran
                exact .fails stepEq ⟨moves, ran⟩
  · intro unfolds
    induction unfolds with
    | done noFault => exact finishes_nil_iff.mpr ⟨rfl, noFault⟩
    | next stepEq _ ih => exact (finishes_cons_iff stepEq).mpr ih
    | fails stepEq dropped =>
        obtain ⟨moves, ran⟩ := dropped
        exact ⟨moves + 1, by simp only [run, advance, stepEq, ran]⟩

theorem interrupt_append (quiet : rest.filter Task.survives = []) (cause : Fault) :
    Call.interrupt (tasks ++ rest) cause = .interrupt tasks cause := by
  rw [Call.interrupt, Call.interrupt, List.filter_append, quiet, List.append_nil]

/-- Of tasks in a row, the first ones come to an end before the others begin, unless a fault of
the first ones drops the others. -/
theorem Unfolds.of_append (quiet : rest.filter Task.survives = [])
    (unfolds : Unfolds after fault line (tasks ++ rest)) :
    (∃ middle, Unfolds middle none line tasks ∧ Unfolds after fault middle rest) ∨
      ∃ cause, fault = some cause ∧ Unfolds after fault line tasks := by
  generalize allEq : tasks ++ rest = all at unfolds
  induction unfolds generalizing tasks with
  | done noFault =>
      obtain ⟨rfl, rfl⟩ := List.append_eq_nil_iff.mp allEq
      exact .inl ⟨after, .done rfl, .done noFault⟩
  | @next line middle task new left stepEq later ih =>
      cases tasks with
      | nil =>
          cases allEq
          exact .inl ⟨line, .done rfl, .next stepEq later⟩
      | cons first tasks =>
          cases allEq
          rcases ih (List.append_assoc new tasks rest) with
            ⟨reached, ends, others⟩ | ⟨cause, isFault, ends⟩
          · exact .inl ⟨reached, .next stepEq ends, others⟩
          · exact .inr ⟨cause, isFault, .next stepEq ends⟩
  | @fails line task left cause stepEq dropped =>
      cases tasks with
      | nil =>
          cases allEq
          exact .inl ⟨line, .done rfl, .fails stepEq dropped⟩
      | cons first tasks =>
          rw [List.cons_append, List.cons_eq_cons] at allEq
          obtain ⟨rfl, rfl⟩ := allEq
          rw [interrupt_append quiet] at dropped
          obtain ⟨reason, isFault⟩ := Option.isSome_iff_exists.mp (dropped.isSome_fault rfl)
          exact .inr ⟨reason, isFault, .fails stepEq dropped⟩

theorem Unfolds.append (first : Unfolds middle none line tasks)
    (second : Unfolds after fault middle rest) : Unfolds after fault line (tasks ++ rest) := by
  induction first with
  | done => exact second
  | next stepEq _ ih =>
      rw [List.append_assoc] at ih
      exact .next stepEq ih
  | fails stepEq dropped => cases dropped.isSome_fault rfl

theorem Unfolds.append_of_isSome (quiet : rest.filter Task.survives = [])
    (faulty : fault.isSome) (first : Unfolds after fault line tasks) :
    Unfolds after fault line (tasks ++ rest) := by
  induction first with
  | done noFault =>
      rw [noFault] at faulty
      cases faulty
  | next stepEq _ ih =>
      rw [List.append_assoc] at ih
      exact .next stepEq ih
  | fails stepEq dropped =>
      rw [← interrupt_append quiet] at dropped
      exact .fails stepEq dropped

/-- Tasks in a row come to an end when the first ones do and then the others, or when the first
ones come to an end with a fault. -/
theorem finishes_append_iff (quiet : rest.filter Task.survives = []) :
    line.Finishes { tasks := tasks ++ rest } after fault ↔
      (∃ middle, line.Finishes { tasks } middle none ∧
        middle.Finishes { tasks := rest } after fault) ∨
      ∃ cause, fault = some cause ∧ line.Finishes { tasks } after fault := by
  simp only [finishes_iff_unfolds]
  constructor
  · exact Unfolds.of_append quiet
  · rintro (⟨middle, first, second⟩ | ⟨cause, isFault, first⟩)
    · exact first.append second
    · exact first.append_of_isSome quiet (Option.isSome_iff_exists.mpr ⟨cause, isFault⟩)

end

/-- Leaves are called from left to right, each of them once.  The first one that raises a fault
is the last one that is called, and its fault is that of all.  A leaf that is called does what
its reaction asks for, as a call of its own. -/
inductive Broadcast (signal : Signal) :
    Discipline outlet → List (String × (Signal → List Action)) →
      Discipline outlet → Option Fault → Prop where
  | done (line : Discipline outlet) : Broadcast signal line [] line none
  | calls {line middle after : Discipline outlet} {name : String}
      {reaction : Signal → List Action} {rest : List (String × (Signal → List Action))}
      {fault : Option Fault}
      (called : (line.log (.told name signal)).Finishes
        { tasks := (reaction signal).map .perform } middle none)
      (later : Broadcast signal middle rest after fault) :
      Broadcast signal line ((name, reaction) :: rest) after fault
  | raises {line after : Discipline outlet} {name : String}
      {reaction : Signal → List Action} {rest : List (String × (Signal → List Action))}
      {cause : Fault}
      (called : (line.log (.told name signal)).Finishes
        { tasks := (reaction signal).map .perform } after (some cause)) :
      Broadcast signal line ((name, reaction) :: rest) after (some cause)

section

variable {signal : Signal} {line middle after : Discipline outlet} {fault : Option Fault}
variable {first second : List (String × (Signal → List Action))}

theorem broadcast_nil_iff :
    Broadcast signal line [] after fault ↔ after = line ∧ fault = none := by
  constructor
  · intro broadcast
    cases broadcast
    exact ⟨rfl, rfl⟩
  · rintro ⟨rfl, rfl⟩
    exact .done after

theorem broadcast_singleton_iff {name : String} {reaction : Signal → List Action} :
    Broadcast signal line [(name, reaction)] after fault ↔
      (line.log (.told name signal)).Finishes { tasks := (reaction signal).map .perform } after
        fault := by
  constructor
  · intro broadcast
    cases broadcast with
    | calls called later =>
        cases later
        exact called
    | raises called => exact called
  · intro called
    cases fault with
    | none => exact .calls called (.done after)
    | some cause => exact .raises called

/-- Leaves are called after others only if none of those raises. -/
theorem broadcast_append_iff :
    Broadcast signal line (first ++ second) after fault ↔
      (∃ middle, Broadcast signal line first middle none ∧
        Broadcast signal middle second after fault) ∨
      ∃ cause, fault = some cause ∧ Broadcast signal line first after fault := by
  induction first generalizing line with
  | nil =>
      constructor
      · intro broadcast
        exact .inl ⟨line, .done line, broadcast⟩
      · rintro (⟨middle, before, later⟩ | ⟨cause, rfl, before⟩)
        · cases before
          exact later
        · cases before
  | cons leaf first ih =>
      constructor
      · intro broadcast
        cases broadcast with
        | calls called later =>
            rcases ih.mp later with ⟨middle, before, behind⟩ | ⟨cause, isFault, before⟩
            · exact .inl ⟨middle, .calls called before, behind⟩
            · exact .inr ⟨cause, isFault, .calls called before⟩
        | raises called => exact .inr ⟨_, rfl, .raises called⟩
      · rintro (⟨middle, before, behind⟩ | ⟨cause, rfl, before⟩)
        · cases before with
          | calls called later => exact .calls called (ih.mpr (.inl ⟨middle, later, behind⟩))
        · cases before with
          | calls called later => exact .calls called (ih.mpr (.inr ⟨cause, rfl, later⟩))
          | raises called => exact .raises called

end

theorem filter_survives_tell (members : List Listener) (signal : Signal) :
    (members.map fun member => Task.tell member signal).filter Task.survives = [] := by
  simp [List.filter_eq_nil_iff, Task.survives]

mutual

theorem finishes_tell_iff (signal : Signal) (listener : Listener) (line after : Discipline outlet)
    (fault : Option Fault) :
    line.Finishes { tasks := [.tell listener signal] } after fault ↔
      Broadcast signal line listener.leaves after fault := by
  match listener with
  | .leaf name reaction =>
      have stepEq : line.step (.tell (.leaf name reaction) signal) =
          .next (line.log (.told name signal)) ((reaction signal).map .perform) := rfl
      rw [finishes_cons_iff stepEq, List.append_nil]
      exact broadcast_singleton_iff.symm
  | .group members =>
      have stepEq : line.step (.tell (.group members) signal) =
          .next line (members.map fun member => .tell member signal) := rfl
      rw [finishes_cons_iff stepEq, List.append_nil]
      exact finishes_tells_iff signal members line after fault

theorem finishes_tells_iff (signal : Signal) (members : List Listener)
    (line after : Discipline outlet) (fault : Option Fault) :
    line.Finishes { tasks := members.map fun member => .tell member signal } after fault ↔
      Broadcast signal line (Listener.leavesOf members) after fault := by
  match members with
  | [] => exact finishes_nil_iff.trans broadcast_nil_iff.symm
  | member :: rest =>
      have row : (member :: rest).map (fun member => Task.tell member signal) =
          [.tell member signal] ++ rest.map fun member => .tell member signal := rfl
      rw [row, finishes_append_iff (filter_survives_tell rest signal), Listener.leavesOf,
        broadcast_append_iff]
      simp only [finishes_tell_iff signal member, finishes_tells_iff signal rest]

end

end Discipline

/-- The listener that a task registers, if that is what it does. -/
def Task.registration? : Task → Option (Option Listener)
  | perform (.listen listener) => some listener
  | _ => none

namespace Discipline

variable {outlet : Type} [Outlet outlet]

/-- The listeners that are registered in the course of a run, in order. -/
def registrations : Nat → Discipline outlet → Call → List (Option Listener)
  | 0, _, _ => []
  | moves + 1, line, call =>
    match line.advance call with
    | .moved after next =>
      (call.tasks.head?.bind Task.registration?).toList ++ registrations moves after next
    | .finished | .waits _ => []

/-- The leaves of whoever is registered. -/
def registeredLeaves (listener : Option Listener) : List (String × (Signal → List Action)) :=
  listener.elim [] Listener.leaves

section

variable {line after : Discipline outlet} {task : Task} {call next : Call}

theorem listener_of_step {tasks : List Task} (stepEq : line.step task = .next after tasks) :
    after.listener = task.registration?.getD line.listener := by
  cases task with
  | write bytes | flush | deliver byte =>
      simp only [step] at stepEq
      split at stepEq <;> cases stepEq
      rfl
  | notify signal =>
      simp only [step] at stepEq
      split at stepEq <;> cases stepEq <;> rfl
  | tell listener signal => cases listener <;> cases stepEq <;> rfl
  | perform action =>
      cases action with
      | bind control value =>
          simp only [step, begin] at stepEq
          split at stepEq <;> cases stepEq
          rfl
      | fail fault => cases stepEq
      | _ => cases stepEq; rfl
  | _ => cases stepEq; rfl

theorem registration?_of_fail {fault : Fault} (stepEq : line.step task = .fail fault) :
    task.registration? = none := by
  unfold Task.registration?
  split
  · cases stepEq
  · rfl

theorem listener_of_advance (moved : line.advance call = .moved after next) :
    after.listener = (call.tasks.head?.bind Task.registration?).getD line.listener := by
  rw [advance] at moved
  split at moved
  · cases moved
  · case h_2 task rest tasksEq =>
      rw [tasksEq, List.head?_cons, Option.bind_some]
      split at moved
      · case h_1 stepEq =>
          cases moved
          exact listener_of_step stepEq
      · cases moved
      · case h_3 fault stepEq =>
          cases moved
          rw [registration?_of_fail stepEq]
          rfl

theorem listener_of_run {moves : Nat} {final : Call} (ran : line.run moves call = (after, final))
    (finished : final.tasks = []) :
    after.listener = (line.registrations moves call).getLast?.getD line.listener := by
  induction moves generalizing line call with
  | zero =>
      cases ran
      rfl
  | succ moves ih =>
      rw [run] at ran
      rw [registrations]
      split at ran
      · case h_1 advanceEq =>
          cases ran
          rw [advanceEq]
          rfl
      · case h_2 middle next advanceEq =>
          rw [advanceEq, ih ran, listener_of_advance advanceEq, List.getLast?_append]
          cases (registrations moves middle next).getLast? <;>
            cases call.tasks.head?.bind Task.registration? <;> rfl
      · case h_3 reached advanceEq =>
          cases ran
          rw [advance, finished] at advanceEq
          cases advanceEq

end

/-! ## Dispatching -/

/-- To dispatch a signal is to call the leaves of whoever is registered. -/
theorem finishes_dispatch_iff (signal : Signal) (line after : Discipline outlet)
    (fault : Option Fault) :
    line.Finishes (.ofAction (.dispatch signal)) after fault ↔
      Broadcast signal line (registeredLeaves line.listener) after fault := by
  have beginEq : line.step (.perform (.dispatch signal)) = .next line [.notify signal] := rfl
  rw [Call.ofAction, finishes_cons_iff beginEq, List.append_nil]
  cases listenerEq : line.listener with
  | none =>
      have stepEq : line.step (.notify signal) = .next line [] := by
        simp only [step, listenerEq]
      rw [finishes_cons_iff stepEq]
      exact finishes_nil_iff.trans broadcast_nil_iff.symm
  | some listener =>
      have stepEq : line.step (.notify signal) = .next line [.tell listener signal] := by
        simp only [step, listenerEq]
      rw [finishes_cons_iff stepEq]
      exact finishes_tell_iff signal listener line after fault

/-- However listeners are composed, to dispatch a signal is to call their leaves from left to
right, each once, up to the first one that raises a fault: one comes to an end exactly as the
other does, in the same state and with the same fault or none.  The leaves are those of the
listener that was registered when the signal was dispatched, whatever they register themselves;
the next signal goes to the leaves of the listener that was registered last. -/
theorem dispatch_broadcasts (line : Discipline outlet) (signal : Signal) :
    (∀ after fault, line.Finishes (.ofAction (.dispatch signal)) after fault ↔
      Broadcast signal line (registeredLeaves line.listener) after fault) ∧
    ∀ moves after fault,
      line.run moves (.ofAction (.dispatch signal)) = (after, { tasks := [], fault }) →
      let registered := line.registrations moves (.ofAction (.dispatch signal))
      ∀ next final cause, after.Finishes (.ofAction (.dispatch next)) final cause ↔
        Broadcast next after (registeredLeaves (registered.getLast?.getD line.listener)) final
          cause := by
  refine ⟨finishes_dispatch_iff signal line, fun moves after fault ran => ?_⟩
  intro registered next final cause
  rw [← listener_of_run ran rfl]
  exact finishes_dispatch_iff next after final cause

/-- In a tree with an empty group, the first leaf makes way for another listener and the third
one fails.  The first three leaves are told of the interrupt nevertheless and the fourth is not;
the next signal goes to the other listener. -/
theorem dispatch_broadcasts_replaced :
    let other : Listener := .recorder "other"
    let failing : Listener := .leaf "third" fun _ => [.fail (.listenerFailed "boom")]
    let tree : Listener :=
      .group [.group [], .leaf "first" fun _ => [.listen (some other)],
        .group [.recorder "second", .group [failing]], .recorder "fourth"]
    let line : Discipline Tape := { listener := some tree, outlet := {} }
    let called : List Event := [.told "first" .int, .told "second" .int, .told "third" .int]
    ∃ after final, Broadcast .int line tree.leaves after (some (.listenerFailed "boom")) ∧
      after.trace.toList = called ∧ Broadcast .info after other.leaves final none ∧
      final.trace.toList = called ++ [.told "other" .info] := by
  intro other failing tree line called
  obtain ⟨broadcasts, goesOn⟩ := dispatch_broadcasts line .int
  let after := (line.run 64 (.ofAction (.dispatch .int))).1
  let final := (after.run 64 (.ofAction (.dispatch .info))).1
  have first : line.Finishes (.ofAction (.dispatch .int)) after
      (some (.listenerFailed "boom")) := finishes_of_run rfl
  have second : after.Finishes (.ofAction (.dispatch .info)) final none := finishes_of_run rfl
  have next := (goesOn 64 _ _ rfl .info _ _).mp second
  exact ⟨_, _, (broadcasts _ _).mp first, rfl, next, rfl⟩

end Discipline

end CookedMode
