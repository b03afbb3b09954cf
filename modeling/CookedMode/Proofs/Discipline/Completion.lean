import CookedMode.Discipline.Basic

/-!
# Calls that complete

A call completes if each of its tasks, and each task that takes the place of one, is
done at once.  Completion counts the moves, so it needs no bound on them, and `run`
agrees with it as soon as it may make that many.  A call finishes if it comes to an end,
with or without a fault, and it does so in one way only.

A discipline without anything in its way is the same discipline with a sink that takes
every call and an outlet that takes every byte.  Whatever a discipline does, the
unhindered one does as well; so what a completed call has done can be read off the
unhindered discipline, whatever the outlet had its writer wait for.
-/

namespace CookedMode

/-- Whether an event is one of the outlet. -/
def Event.ofOutlet : Event → Bool
  | .delivered _ | .published | .closed => true
  | _ => false

namespace Discipline

variable {outlet : Type} [Outlet outlet]

/-- All tasks are done, in a number of moves, without a fault and without a wait. -/
inductive Completes : Discipline outlet → List Task → Nat → Discipline outlet → Prop where
  | done (line : Discipline outlet) : Completes line [] 0 line
  | task {line middle final : Discipline outlet} {task : Task} {tasks rest : List Task}
      {moves : Nat} : line.step task = .next middle tasks →
      Completes middle (tasks ++ rest) moves final →
      Completes line (task :: rest) (moves + 1) final

namespace Completes

variable {line middle final : Discipline outlet} {task : Task} {tasks rest : List Task}
variable {moves more : Nat}

theorem one (stepEq : line.step task = .next final []) : Completes line [task] 1 final :=
  .task stepEq (.done final)

theorem append (first : Completes line tasks moves middle)
    (second : Completes middle rest more final) :
    Completes line (tasks ++ rest) (moves + more) final := by
  induction first with
  | done line => simpa using second
  | @task line next middle task new left moves stepEq _ ih =>
      have tail := ih second
      rw [List.append_assoc] at tail
      rw [Nat.add_right_comm]
      exact .task stepEq tail

theorem head (completes : Completes line (task :: rest) moves final) :
    ∃ middle tasks left, line.step task = .next middle tasks ∧
      Completes middle (tasks ++ rest) left final ∧ moves = left + 1 := by
  cases completes with
  | task stepEq tail => exact ⟨_, _, _, stepEq, tail, rfl⟩

theorem of_nil (completes : Completes line [] moves final) : final = line ∧ moves = 0 := by
  cases completes
  exact ⟨rfl, rfl⟩

/-- Running a call that completes, for as many moves as that takes or more, ends where
it completes. -/
theorem run_eq (completes : Completes line tasks moves final) {most : Nat}
    (enough : moves ≤ most) : line.run most { tasks } = (final, { tasks := [] }) := by
  induction completes generalizing most with
  | done line => cases most <;> simp [run, advance]
  | @task line middle final task new rest moves stepEq _ ih =>
      cases most with
      | zero => omega
      | succ most =>
          simp only [run, advance, stepEq]
          exact ih (by omega)

end Completes

/-- More moves make no difference to a call that has finished. -/
theorem run_of_finished {line after : Discipline outlet} {call final : Call} {moves most : Nat}
    (ran : line.run moves call = (after, final)) (finished : final.tasks = [])
    (enough : moves ≤ most) : line.run most call = (after, final) := by
  induction moves generalizing line call most with
  | zero =>
      cases ran
      cases most <;> simp [run, advance, finished]
  | succ moves ih =>
      obtain ⟨more, rfl⟩ := Nat.exists_eq_add_of_le' (Nat.one_le_of_lt enough)
      rw [run] at ran ⊢
      split at ran
      · exact ran
      · exact ih ran (Nat.le_of_succ_le_succ enough)
      · exact ran

theorem perform_of_run {line reached : Discipline outlet} {action : Action} {call : Call}
    (ran : line.run (Discipline.moves (Call.ofAction action).size) (.ofAction action) =
      (reached, call)) :
    line.perform action = (reached, if call.tasks.isEmpty then call.fault else some .endless) := by
  rw [perform, ran]

/-- A call comes to an end, in some state and perhaps with a fault. -/
def Finishes (line : Discipline outlet) (call : Call) (after : Discipline outlet)
    (fault : Option Fault) : Prop :=
  ∃ moves, line.run moves call = (after, { tasks := [], fault })

/-- A call that finishes does so in one way only. -/
theorem Finishes.unique {line after other : Discipline outlet} {call : Call}
    {fault cause : Option Fault} (finishes : line.Finishes call after fault)
    (again : line.Finishes call other cause) : after = other ∧ fault = cause := by
  obtain ⟨moves, ran⟩ := finishes
  obtain ⟨more, ranAgain⟩ := again
  have longer := run_of_finished ran rfl (Nat.le_max_left moves more)
  rw [run_of_finished ranAgain rfl (Nat.le_max_right moves more)] at longer
  cases longer
  exact ⟨rfl, rfl⟩

theorem finishes_of_run {line : Discipline outlet} {call : Call} {most : Nat}
    (finished : (line.run most call).2.tasks = []) :
    line.Finishes call (line.run most call).1 (line.run most call).2.fault := by
  refine ⟨most, Prod.ext rfl ?_⟩
  rw [← finished]

theorem finishes_of_perform {line : Discipline outlet} {action : Action}
    (ends : (line.perform action).2 ≠ some .endless) :
    line.Finishes (.ofAction action) (line.perform action).1 (line.perform action).2 := by
  rcases ran : line.run (Discipline.moves (Call.ofAction action).size) (.ofAction action)
    with ⟨reached, left, fault⟩
  rw [perform_of_run ran] at ends ⊢
  cases left with
  | nil => exact ⟨_, ran⟩
  | cons task rest => exact absurd rfl ends

/-- How an action finishes is what comes of performing it, unless the number of moves it is
given does not suffice. -/
theorem finishes_iff_perform {line after : Discipline outlet} {action : Action}
    {fault : Option Fault} (ends : (line.perform action).2 ≠ some .endless) :
    line.Finishes (.ofAction action) after fault ↔ line.perform action = (after, fault) := by
  constructor
  · intro finishes
    obtain ⟨afterEq, faultEq⟩ := (finishes_of_perform ends).unique finishes
    exact Prod.ext afterEq faultEq
  · intro performEq
    have finishes := finishes_of_perform ends
    rwa [performEq] at finishes

theorem perform_eq_of_run {line after : Discipline outlet} {action : Action}
    {fault : Option Fault} {moves : Nat}
    (runs : ∀ most, moves ≤ most →
      line.run most (.ofAction action) = (after, { tasks := [], fault }))
    (ends : (line.perform action).2 ≠ some .endless) : line.perform action = (after, fault) :=
  (finishes_iff_perform ends).mp ⟨moves, runs moves (Nat.le_refl moves)⟩

theorem Completes.perform_eq {line final : Discipline outlet} {action : Action} {moves : Nat}
    (completes : Completes line [.perform action] moves final)
    (ends : (line.perform action).2 ≠ some .endless) : line.perform action = (final, none) :=
  perform_eq_of_run (fun _ enough => completes.run_eq enough) ends

/-- What a step that goes on has done to the outlet, and what it has written down. -/
inductive Effect (line after : Discipline outlet) : Task → Prop where
  /-- The outlet is as before. -/
  | aside {task : Task} (events : List Event)
      (outletEq : after.outlet = line.outlet)
      (traceEq : after.trace.toList = line.trace.toList ++ events)
      (inner : ∀ event ∈ events, event.ofOutlet = false) : Effect line after task
  /-- The outlet has accepted a byte. -/
  | delivers {byte : UInt8}
      (offerEq : Outlet.offer line.outlet byte = .taken after.outlet)
      (traceEq : after.trace.toList = line.trace.toList ++ [.delivered byte]) :
      Effect line after (.deliver byte)
  /-- The outlet has published what it holds. -/
  | publishes (outletEq : after.outlet = Outlet.publish line.outlet)
      (traceEq : after.trace.toList = line.trace.toList ++ [.published]) :
      Effect line after .publish
  /-- The outlet is closed. -/
  | closes (outletEq : after.outlet = Outlet.close line.outlet)
      (traceEq : after.trace.toList = line.trace.toList ++ [.closed]) :
      Effect line after (.perform .close)

/-- Every step that goes on has one of these effects. -/
theorem step_effect {line after : Discipline outlet} {task : Task} {tasks : List Task}
    (stepEq : line.step task = .next after tasks) : Effect line after task := by
  cases task with
  | type byte => cases stepEq; exact .aside [] rfl (by simp) (by simp)
  | write bytes =>
      simp only [step] at stepEq
      split at stepEq <;> cases stepEq
      exact .aside [.wrote bytes] rfl (by simp [log]) (List.forall_mem_singleton.mpr rfl)
  | flush =>
      simp only [step] at stepEq
      split at stepEq <;> cases stepEq
      exact .aside [.flushed] rfl (by simp [log]) (List.forall_mem_singleton.mpr rfl)
  | deliver byte =>
      simp only [step] at stepEq
      split at stepEq <;> cases stepEq
      case h_1 outlet offerEq => exact .delivers offerEq (by simp [log])
  | publish => cases stepEq; exact .publishes rfl (by simp [log])
  | notify signal =>
      simp only [step] at stepEq
      split at stepEq <;> cases stepEq <;> exact .aside [] rfl (by simp) (by simp)
  | tell listener signal =>
      cases listener with
      | leaf name reaction =>
          cases stepEq
          exact .aside [.told name signal] rfl (by simp [log]) (List.forall_mem_singleton.mpr rfl)
      | group members => cases stepEq; exact .aside [] rfl (by simp) (by simp)
  | perform action =>
      cases action with
      | close => cases stepEq; exact .closes rfl (by simp [log])
      | bind control value =>
          simp only [step, begin] at stepEq
          split at stepEq <;> cases stepEq
          exact .aside [] rfl (by simp) (by simp)
      | fail fault => cases stepEq
      | _ => cases stepEq; exact .aside [] rfl (by simp) (by simp)

theorem step_trace {line after : Discipline outlet} {task : Task} {tasks : List Task}
    (stepEq : line.step task = .next after tasks) :
    ∃ events, after.trace.toList = line.trace.toList ++ events := by
  cases step_effect stepEq with
  | aside events _ traceEq _ => exact ⟨events, traceEq⟩
  | delivers _ traceEq | publishes _ traceEq | closes _ traceEq => exact ⟨_, traceEq⟩

theorem Completes.trace {line final : Discipline outlet} {tasks : List Task} {moves : Nat}
    (completes : Completes line tasks moves final) :
    ∃ events, final.trace.toList = line.trace.toList ++ events := by
  induction completes with
  | done line => exact ⟨[], by simp⟩
  | task stepEq _ ih =>
      obtain ⟨first, firstEq⟩ := step_trace stepEq
      obtain ⟨second, secondEq⟩ := ih
      exact ⟨first ++ second, by rw [secondEq, firstEq, List.append_assoc]⟩

/-- The same discipline with nothing in its way. -/
def unhindered (line : Discipline outlet) : Discipline Tape :=
  { attributes := line.attributes, listener := line.listener, outlet := {}, trace := line.trace }

/-- What the unhindered discipline does, the discipline does too, unless its outlet does
not take the byte that is to be delivered. -/
theorem step_of_unhindered {line : Discipline outlet} {task : Task} {tasks : List Task}
    {reached : Discipline Tape} (sink : line.sink = {})
    (stepEq : line.unhindered.step task = .next reached tasks) :
    (∃ after, line.step task = .next after tasks ∧ after.unhindered = reached ∧
      after.sink = {}) ∨
    ∃ byte, task = .deliver byte ∧ ∀ after, Outlet.offer line.outlet byte ≠ .taken after := by
  obtain ⟨attributes, listener, _, held, trace⟩ := line
  subst sink
  cases task with
  | deliver byte =>
      cases offerEq : Outlet.offer held byte with
      | taken after =>
          cases stepEq
          exact .inl ⟨_, by simp only [step, offerEq]; rfl, rfl, rfl⟩
      | refused => exact .inr ⟨byte, rfl, by simp [offerEq]⟩
      | full after => exact .inr ⟨byte, rfl, by simp [offerEq]⟩
  | notify signal =>
      left
      cases listener <;> cases stepEq <;> exact ⟨_, rfl, rfl, rfl⟩
  | tell listener signal =>
      left
      cases listener <;> cases stepEq <;> exact ⟨_, rfl, rfl, rfl⟩
  | perform action =>
      left
      cases action with
      | bind control value =>
          simp only [step, begin, unhindered] at stepEq ⊢
          cases boundEq : attributes.bind? control value with
          | ok bound =>
              rw [boundEq] at stepEq
              cases stepEq
              exact ⟨_, rfl, rfl, rfl⟩
          | error refusal => simp [boundEq] at stepEq
      | fail fault => cases stepEq
      | _ => cases stepEq; exact ⟨_, rfl, rfl, rfl⟩
  | _ => cases stepEq; exact .inl ⟨_, rfl, rfl, rfl⟩

end Discipline

end CookedMode
