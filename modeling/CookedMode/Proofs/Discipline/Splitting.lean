import CookedMode.Proofs.Discipline.Failure

/-!
# Input in parts

To feed bytes in two calls is to feed them in one, but for the publication at the end of the
first call.  Whatever a listener does when it is told of a signal, be it to feed more bytes,
it does within the turn of a byte.  So the tasks of the first part come to an end before those
of the second part begin, and the two ways part only in what they write down.  Nothing that a
discipline does depends on what it has written down.
-/

namespace CookedMode

namespace Discipline

variable {outlet : Type}

/-- The discipline if other events had been written down before. -/
def preceded (line : Discipline outlet) (past : List Event) : Discipline outlet :=
  { line with trace := past.toArray ++ line.trace }

/-- The discipline with nothing written down. -/
def unwritten (line : Discipline outlet) : Discipline outlet :=
  { line with trace := #[] }

@[simp] theorem toList_trace_preceded (line : Discipline outlet) (past : List Event) :
    (line.preceded past).trace.toList = past ++ line.trace.toList := by
  simp [preceded]

theorem preceded_unwritten (line : Discipline outlet) :
    line.unwritten.preceded line.trace.toList = line := by
  simp [preceded, unwritten]

theorem log_preceded (line : Discipline outlet) (past : List Event) (event : Event) :
    (line.preceded past).log event = (line.log event).preceded past := by
  simp [log, preceded]

end Discipline

/-- What becomes of a task if other events had been written down before. -/
def Step.preceded {outlet : Type} (past : List Event) : Step outlet → Step outlet
  | .next after tasks => .next (after.preceded past) tasks
  | .wait after => .wait (after.preceded past)
  | .fail fault => .fail fault

namespace Discipline

variable {outlet : Type} [Outlet outlet]

/-- What was written down before makes no difference to a task. -/
theorem step_preceded (line : Discipline outlet) (past : List Event) (task : Task) :
    (line.preceded past).step task = (line.step task).preceded past := by
  cases task with
  | write bytes =>
      have sinkEq : (line.preceded past).sink = line.sink := rfl
      simp only [step, sinkEq]
      cases line.sink.write? with
      | none => rfl
      | some sink => exact congrArg (Step.next · []) (log_preceded { line with sink } past _)
  | flush =>
      have sinkEq : (line.preceded past).sink = line.sink := rfl
      simp only [step, sinkEq]
      cases line.sink.flush? with
      | none => rfl
      | some sink => exact congrArg (Step.next · []) (log_preceded { line with sink } past _)
  | deliver byte =>
      have outletEq : (line.preceded past).outlet = line.outlet := rfl
      simp only [step, outletEq]
      cases Outlet.offer line.outlet byte with
      | taken after =>
          exact congrArg (Step.next · []) (log_preceded { line with outlet := after } past _)
      | refused | full after => rfl
  | publish =>
      let after := { line with outlet := Outlet.publish line.outlet }
      exact congrArg (Step.next · []) (log_preceded after past _)
  | notify signal =>
      have listenerEq : (line.preceded past).listener = line.listener := rfl
      simp only [step, listenerEq]
      cases line.listener <;> rfl
  | tell listener signal =>
      cases listener with
      | leaf name reaction => exact congrArg (Step.next · _) (log_preceded line past _)
      | group members => rfl
  | perform action =>
      cases action with
      | close =>
          let after := { line with outlet := Outlet.close line.outlet }
          exact congrArg (Step.next · []) (log_preceded after past _)
      | bind control value =>
          have attributesEq : (line.preceded past).attributes = line.attributes := rfl
          simp only [step, begin, attributesEq]
          cases line.attributes.bind? control value <;> rfl
      | _ => rfl
  | _ => rfl

theorem run_preceded (line : Discipline outlet) (past : List Event) (call : Call) (most : Nat) :
    (line.preceded past).run most call =
      ((line.run most call).1.preceded past, (line.run most call).2) := by
  induction most generalizing line call with
  | zero => rfl
  | succ most ih =>
      simp only [run, advance]
      cases call.tasks with
      | nil => rfl
      | cons task rest =>
          simp only [step_preceded]
          cases line.step task with
          | next after tasks => exact ih after _
          | wait after => rfl
          | fail fault => exact ih line _

section

variable {line middle after : Discipline outlet} {call next : Call} {fault : Option Fault}
variable {tasks rest : List Task}

/-- If some moves lead from one call to another, the two finish alike. -/
theorem finishes_iff_of_run {made : Nat}
    (runEq : ∀ more, line.run (made + more) call = middle.run more next) :
    line.Finishes call after fault ↔ middle.Finishes next after fault := by
  constructor
  · intro finishes
    obtain ⟨moves, ran⟩ := finishes
    exact ⟨moves, (runEq moves).symm.trans (run_of_finished ran rfl (Nat.le_add_left _ _))⟩
  · intro finishes
    obtain ⟨moves, ran⟩ := finishes
    exact ⟨made + moves, (runEq moves).trans ran⟩

theorem finishes_nil_iff {old : Option Fault} :
    line.Finishes { tasks := [], fault := old } after fault ↔ after = line ∧ fault = old := by
  constructor
  · intro finishes
    obtain ⟨moves, ran⟩ := finishes
    cases moves <;> cases ran <;> exact ⟨rfl, rfl⟩
  · rintro ⟨rfl, rfl⟩
    exact ⟨0, rfl⟩

theorem finishes_cons_iff {task : Task} {tasks rest : List Task} {old : Option Fault}
    (stepEq : line.step task = .next middle tasks) :
    line.Finishes { tasks := task :: rest, fault := old } after fault ↔
      middle.Finishes { tasks := tasks ++ rest, fault := old } after fault := by
  have moved (more : Nat) : line.run (1 + more) { tasks := task :: rest, fault := old } =
      middle.run more { tasks := tasks ++ rest, fault := old } := by
    simp only [Nat.add_comm 1 more, run, advance, stepEq]
  exact finishes_iff_of_run moved

theorem Completes.finishes_iff {made : Nat} (completes : Completes line tasks made middle) :
    line.Finishes { tasks := tasks ++ rest } after fault ↔
      middle.Finishes { tasks := rest } after fault := by
  induction completes with
  | done => exact Iff.rfl
  | task stepEq _ ih =>
      rw [List.cons_append, finishes_cons_iff stepEq, ← List.append_assoc]
      exact ih

theorem isSome_fault_of_advance (moved : line.advance call = .moved middle next)
    (faulty : call.fault.isSome) : next.fault.isSome := by
  rw [advance] at moved
  split at moved
  · cases moved
  · split at moved <;> cases moved
    · exact faulty
    · rfl

/-- A fault is not forgotten. -/
theorem Finishes.isSome_fault (finishes : line.Finishes call after fault)
    (faulty : call.fault.isSome) : fault.isSome := by
  obtain ⟨moves, ran⟩ := finishes
  induction moves generalizing line call with
  | zero =>
      cases ran
      exact faulty
  | succ moves ih =>
      rw [run] at ran
      cases advanceEq : line.advance call with
      | finished =>
          rw [advanceEq] at ran
          cases ran
          exact faulty
      | moved middle next =>
          rw [advanceEq] at ran
          exact ih (isSome_fault_of_advance advanceEq faulty) ran
      | waits reached =>
          rw [advanceEq] at ran
          cases ran
          exact faulty

theorem finishes_preceded_iff {past : List Event} :
    (line.preceded past).Finishes call after fault ↔
      ∃ reached, line.Finishes call reached fault ∧ after = reached.preceded past := by
  constructor
  · intro finishes
    obtain ⟨moves, ran⟩ := finishes
    rw [run_preceded] at ran
    obtain ⟨reachedEq, callEq⟩ := Prod.mk.inj ran
    exact ⟨_, ⟨moves, Prod.ext rfl callEq⟩, reachedEq.symm⟩
  · rintro ⟨reached, ⟨moves, ran⟩, rfl⟩
    exact ⟨moves, by rw [run_preceded, ran]⟩

end

/-! ## Input in two parts -/

section

variable {line after : Discipline Tape} {tasks rest : List Task} {fault : Option Fault}

theorem finishes_publish_iff :
    line.Finishes { tasks := [.publish] } after fault ↔
      after = line.log .published ∧ fault = none := by
  have stepEq : line.step .publish = .next (line.log .published) [] := rfl
  rw [finishes_cons_iff stepEq]
  exact finishes_nil_iff

theorem finishes_input_iff {data : List UInt8} :
    line.Finishes (.ofAction (.input data)) after fault ↔
      line.Finishes { tasks := data.map .type ++ [.publish] } after fault := by
  have stepEq : line.step (.perform (.input data)) = .next line (Task.feed data) := rfl
  rw [Call.ofAction, finishes_cons_iff stepEq, List.append_nil]
  rfl

/-- Once a task fails, only those that survive it are left. -/
theorem Fails.finishes_iff {failed : Discipline Tape} {left : List Task} {made : Nat}
    {cause : Fault} (fails : Fails line tasks made failed left cause) :
    line.Finishes { tasks := tasks ++ rest } after fault ↔
      failed.Finishes (.interrupt (left ++ rest) cause) after fault :=
  finishes_iff_of_run (fails.append rest).run_eq

/-- The first tasks of a call that finishes are done, or one of them fails. -/
theorem Finishes.completes_or_fails
    (finishes : line.Finishes { tasks := tasks ++ rest } after fault) :
    (∃ made middle, Completes line tasks made middle) ∨
      ∃ made failed left cause, Fails line tasks made failed left cause := by
  obtain ⟨moves, ran⟩ := finishes
  induction moves generalizing line tasks with
  | zero =>
      cases tasks with
      | nil => exact .inl ⟨0, line, .done line⟩
      | cons task tasks => cases ran
  | succ moves ih =>
      cases tasks with
      | nil => exact .inl ⟨0, line, .done line⟩
      | cons task tasks =>
          simp only [run, advance, List.cons_append] at ran
          cases stepEq : line.step task with
          | next middle new =>
              simp only [stepEq, ← List.append_assoc] at ran
              rcases ih ran with ⟨made, reached, completes⟩ | ⟨made, failed, left, cause, fails⟩
              · exact .inl ⟨made + 1, reached, .task stepEq completes⟩
              · exact .inr ⟨made + 1, failed, left, cause, .later stepEq fails⟩
          | wait reached =>
              simp only [stepEq] at ran
              cases ran
          | fail cause => exact .inr ⟨1, line, tasks, cause, .here stepEq⟩

end

/-- Where two calls end and where one call in their stead ends.  The two have written down one
publication more, after the events of the first, and differ in nothing else. -/
structure Parted (line whole after : Discipline Tape) (first second : List Event) : Prop where
  wholeEq : whole.trace.toList = line.trace.toList ++ (first ++ second)
  afterEq : after.trace.toList = line.trace.toList ++ (first ++ .published :: second)
  same : after = { whole with trace := after.trace }

section

variable {line typed middle whole after : Discipline Tape} {front back : List UInt8}
variable {first second : List Event} {fault : Option Fault} {cause : Fault}

theorem finishes_input_of_completes {made : Nat}
    (completes : Completes line (front.map .type) made typed) :
    line.Finishes (.ofAction (.input front)) after fault ↔
      after = typed.log .published ∧ fault = none :=
  finishes_input_iff.trans (completes.finishes_iff.trans finishes_publish_iff)

theorem finishes_input_append_of_completes {made : Nat}
    (completes : Completes line (front.map .type) made typed) :
    line.Finishes (.ofAction (.input (front ++ back))) after fault ↔
      typed.Finishes (.ofAction (.input back)) after fault := by
  rw [finishes_input_iff, finishes_input_iff, List.map_append, List.append_assoc]
  exact completes.finishes_iff

theorem finishes_input_append_of_fails {failed : Discipline Tape} {left : List Task} {made : Nat}
    (fails : Fails line (front.map .type) made failed left cause) :
    line.Finishes (.ofAction (.input (front ++ back))) after fault ↔
      failed.Finishes (.interrupt (left ++ [.publish]) cause) after fault := by
  have dropped : (back.map Task.type).filter Task.survives = [] := by
    simp [List.filter_eq_nil_iff, Task.survives]
  rw [finishes_input_iff, List.map_append, List.append_assoc, fails.finishes_iff]
  simp only [Call.interrupt, List.filter_append, dropped, List.nil_append]

/-- Bytes that are fed without a fault have been typed, and the publication is the last thing
written down. -/
theorem Finishes.completes (finishes : line.Finishes (.ofAction (.input front)) middle none) :
    ∃ made typed first, Completes line (front.map .type) made typed ∧
      typed.trace.toList = line.trace.toList ++ first ∧ middle = typed.log .published := by
  rcases (finishes_input_iff.mp finishes).completes_or_fails with
    ⟨made, typed, completes⟩ | ⟨made, failed, left, cause, fails⟩
  · obtain ⟨first, firstEq⟩ := completes.trace
    exact ⟨made, typed, first, completes, firstEq,
      ((finishes_input_of_completes completes).mp finishes).1⟩
  · have interrupted := fails.finishes_iff.mp (finishes_input_iff.mp finishes)
    cases interrupted.isSome_fault rfl

theorem Finishes.fails (finishes : line.Finishes (.ofAction (.input front)) after (some cause)) :
    ∃ made failed left reason, Fails line (front.map .type) made failed left reason := by
  rcases (finishes_input_iff.mp finishes).completes_or_fails with
    ⟨made, typed, completes⟩ | fails
  · cases ((finishes_input_of_completes completes).mp finishes).2
  · exact fails

theorem log_published_eq_preceded (typed : Discipline Tape) :
    typed.log .published = typed.unwritten.preceded (typed.trace.toList ++ [.published]) := by
  simp [log, preceded, unwritten, ← Array.toList_push]

theorem parted_preceded {reached : Discipline Tape} {past : List Event}
    (pastEq : past = line.trace.toList ++ first) :
    Parted line (reached.preceded past) (reached.preceded (past ++ [.published])) first
      reached.trace.toList where
  wholeEq := by simp [pastEq]
  afterEq := by simp [pastEq]
  same := rfl

/-- Had nothing been published in between, the second call would have ended alike. -/
theorem Finishes.without_publication (typedEq : typed.trace.toList = line.trace.toList ++ first)
    {call : Call} (finishes : (typed.log .published).Finishes call after fault) :
    ∃ whole second, typed.Finishes call whole fault ∧ Parted line whole after first second := by
  rw [log_published_eq_preceded, finishes_preceded_iff] at finishes
  obtain ⟨reached, reaches, rfl⟩ := finishes
  have unpublished : (typed.unwritten.preceded typed.trace.toList).Finishes call
      (reached.preceded typed.trace.toList) fault := finishes_preceded_iff.mpr ⟨_, reaches, rfl⟩
  rw [preceded_unwritten] at unpublished
  exact ⟨_, _, unpublished, parted_preceded typedEq⟩

theorem Finishes.with_publication (typedEq : typed.trace.toList = line.trace.toList ++ first)
    {call : Call} (finishes : typed.Finishes call whole fault) :
    ∃ after second, (typed.log .published).Finishes call after fault ∧
      Parted line whole after first second := by
  rw [← preceded_unwritten typed, finishes_preceded_iff] at finishes
  obtain ⟨reached, reaches, rfl⟩ := finishes
  refine ⟨reached.preceded (typed.trace.toList ++ [.published]), _, ?_, parted_preceded typedEq⟩
  rw [log_published_eq_preceded]
  exact finishes_preceded_iff.mpr ⟨_, reaches, rfl⟩

/-- To feed bytes in two calls is to feed them in one, but for the publication in between.
If the first call ends without a fault, the second one ends if and only if the one call in
their stead does, with the same fault or none, and in the same state; only the events of
the first call and those that follow are parted by the publication.  If the first call ends with
a fault, the one call ends with it in the very same state, so nothing comes of the bytes that
remain. -/
theorem input_append (line : Discipline Tape) (front back : List UInt8) :
    (∀ middle, line.Finishes (.ofAction (.input front)) middle none →
      ∃ first, middle.trace.toList = line.trace.toList ++ (first ++ [.published]) ∧
        (∀ whole fault, line.Finishes (.ofAction (.input (front ++ back))) whole fault →
          ∃ after second, middle.Finishes (.ofAction (.input back)) after fault ∧
            Parted line whole after first second) ∧
        ∀ after fault, middle.Finishes (.ofAction (.input back)) after fault →
          ∃ whole second, line.Finishes (.ofAction (.input (front ++ back))) whole fault ∧
            Parted line whole after first second) ∧
    ∀ after cause, line.Finishes (.ofAction (.input front)) after (some cause) →
      line.Finishes (.ofAction (.input (front ++ back))) after (some cause) := by
  constructor
  · intro middle finishes
    obtain ⟨made, typed, first, completes, typedEq, rfl⟩ := finishes.completes
    refine ⟨first, by simp [log, typedEq], fun whole fault ends => ?_, fun after fault ends => ?_⟩
    · rw [finishes_input_append_of_completes completes] at ends
      exact ends.with_publication typedEq
    · obtain ⟨whole, second, ends, parted⟩ := ends.without_publication typedEq
      rw [← finishes_input_append_of_completes completes] at ends
      exact ⟨whole, second, ends, parted⟩
  · intro after cause finishes
    obtain ⟨made, failed, left, reason, fails⟩ := finishes.fails
    rw [finishes_input_append_of_fails fails]
    exact fails.finishes_iff.mp (finishes_input_iff.mp finishes)

/-- The first call ends with an interrupt, upon which the listener feeds a letter of its own,
turns echo off and makes way for a listener that fails.  The second call meets that one, and
so does the one call in their stead.  Nothing comes of a letter after that. -/
theorem input_append_reentrant :
    let failing : Listener := .leaf "failing" fun _ => [.fail (.listenerFailed "boom")]
    let editor : Listener := .leaf "editor" fun _ =>
      [.input [0x62], .setFlag (.ofLocal .echo) false, .listen (some failing)]
    let line : Discipline Tape :=
      { attributes := .cooked, listener := some editor, outlet := {} }
    let first : List Event :=
      [.wrote [0x61], .flushed, .delivered 0x61, .wrote [0x5E, 0x43], .flushed,
        .told "editor" .int, .wrote [0x62], .flushed, .delivered 0x62, .published]
    let second : List Event :=
      [.delivered 0x63, .wrote [0x5E, 0x43], .flushed, .told "failing" .int, .published]
    let boom : Option Fault := some (.listenerFailed "boom")
    ∃ middle whole after,
      line.Finishes (.ofAction (.input [0x61, 0x03])) middle none ∧
      middle.Finishes (.ofAction (.input [0x63, 0x03])) after boom ∧
      line.Finishes (.ofAction (.input [0x61, 0x03, 0x63, 0x03])) whole boom ∧
      line.Finishes (.ofAction (.input [0x61, 0x03, 0x63, 0x03, 0x64])) whole boom ∧
      Parted line whole after first second := by
  intro failing editor line first second boom
  let whole := (line.run 64 (.ofAction (.input [0x61, 0x03, 0x63, 0x03]))).1
  have frontEnds : line.Finishes (.ofAction (.input [0x61, 0x03]))
      (line.run 64 (.ofAction (.input [0x61, 0x03]))).1 none := finishes_of_run rfl
  have wholeEnds : line.Finishes (.ofAction (.input [0x61, 0x03, 0x63, 0x03])) whole boom :=
    finishes_of_run rfl
  obtain ⟨events, eventsEq, splits, -⟩ :=
    (input_append line [0x61, 0x03] [0x63, 0x03]).1 _ frontEnds
  obtain ⟨after, others, backEnds, parted⟩ := splits whole boom wholeEnds
  have cut := (input_append line [0x61, 0x03, 0x63, 0x03] [0x64]).2 whole _ wholeEnds
  have firstEq : events = first := List.append_cancel_right eventsEq.symm
  subst firstEq
  have secondEq : others = second := List.append_cancel_left parted.wholeEq.symm
  subst secondEq
  exact ⟨_, whole, after, frontEnds, backEnds, wholeEnds, cut, parted⟩

end

end Discipline

end CookedMode
