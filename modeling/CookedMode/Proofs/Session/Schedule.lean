import CookedMode.Proofs.Discipline.Typing
import CookedMode.Proofs.Session.Feeding

/-!
# Every schedule ends alike

A feeder types bytes in calls of any sizes and then closes the channel, while a reader reads
lines until there are none.  Whatever the capacity of the channel and the order of the
moves, they never wait for each other, they come to an end, and what they leave behind is
determined by the bytes alone.
-/

namespace CookedMode

namespace Event

/-- The signals that listeners were told of in the course of some events. -/
def signals (events : List Event) : List Signal :=
  events.filterMap fun event =>
    match event with
    | told _ signal => some signal
    | _ => none

@[simp] theorem signals_append (first second : List Event) :
    signals (first ++ second) = signals first ++ signals second :=
  List.filterMap_append

@[simp] theorem masterBytes_append (first second : List Event) :
    masterBytes (first ++ second) = masterBytes first ++ masterBytes second :=
  List.flatMap_append

end Event

namespace Feeding

variable {session : Session} {after : Feeding} {count : Nat}

theorem Opening.flows_fed (opening : Opening session) (constant : session.line.setting.Constant)
    (chunks : List (List UInt8)) :
    ∃ left, Flows (Transcript.fed session.line.setting chunks) session.history left
      (Transcript.fed session.line.setting chunks) [] ⟨session, chunks.map .input⟩ := by
  obtain ⟨left, completes⟩ := Discipline.Yields.inputs constant chunks []
  rw [show Discipline.free session.line.setting [] = session.line.unhindered by
    rw [Discipline.unhindered_eq_free, opening.trace]] at completes
  have flows := opening.flows completes
  exact ⟨left, by simpa [Discipline.free] using flows⟩

theorem Opening.flows_closing (opening : Opening session)
    (constant : session.line.setting.Constant) (chunks : List (List UInt8)) :
    ∃ left,
      let total := Transcript.fed session.line.setting chunks ++ [.closed]
      Flows total session.history left total [] ⟨session, chunks.map .input ++ [.close]⟩ := by
  have yields := (Discipline.Yields.inputs constant chunks).append
    (Discipline.Yields.close session.line.setting)
  rw [← List.map_singleton, ← List.map_append] at yields
  obtain ⟨left, completes⟩ := yields []
  rw [show Discipline.free session.line.setting [] = session.line.unhindered by
    rw [Discipline.unhindered_eq_free, opening.trace]] at completes
  have flows := opening.flows completes
  exact ⟨left, by simpa [Discipline.free] using flows⟩

/-- What is left when both sides have come to their ends. -/
theorem Flows.finished {total future : List Event} {before : History} {left : Nat}
    {lines : List (List UInt8)} {feeding : Feeding}
    (flows : Flows total before left future lines feeding) (finished : feeding.Finished) :
    let texts := (rawLines (Event.deliveredBytes total)).map lineText
    feeding.session.line.trace.toList = total ∧
      feeding.session.linesRead = texts.map some ++ [none] ∧
      feeding.session.history = before.pushAll (nonblank texts) := by
  intro texts
  obtain ⟨traceEq, -⟩ := flows.trace_eq finished.writer finished.agenda
  have drained := (flows.reads.ending finished.ended).2.1
  have heldEq : feeding.session.held = [] := by rw [Session.held, finished.reader]
  have all : rawLines (Event.deliveredBytes total) = lines := by
    rw [flows.reads.data, heldEq, drained]
    exact List.append_nil lines
  refine ⟨traceEq, ?_, ?_⟩
  · rw [flows.reads.read, finished.ended, if_pos rfl]
    simp [texts, all]
  · rw [flows.reads.history]
    simp only [texts, all]

/-- A feeder types bytes, cut into calls in any way, and closes the channel, and a reader
reads lines until there are none.  Every run is finite and never gets stuck before both
are done; then the reader was given the lines of what the bytes deliver, the history holds
those that are not blank, and the master side has seen what the bytes alone make it see. -/
theorem schedule_independent (session : Session) (chunks : List (List UInt8))
    (opening : Opening session) (constant : session.line.setting.Constant) :
    let start : Feeding := ⟨session, chunks.map .input ++ [.close]⟩
    let events := chunks.flatten.flatMap (Transcript.block session.line.setting)
    let texts := (rawLines (Event.deliveredBytes events)).map lineText
    (∃ bound, ∀ count after, Run start count after → count ≤ bound) ∧
    ∀ count after, Run start count after →
      (after.Stuck → after.Finished) ∧
      (after.Finished →
        after.session.linesRead = texts.map some ++ [none] ∧
        after.session.history = session.history.pushAll (nonblank texts) ∧
        Event.masterBytes after.session.line.trace.toList = Event.masterBytes events ∧
        after.session.signals = Event.signals events) := by
  intro start events texts
  let total := Transcript.fed session.line.setting chunks ++ [Event.closed]
  have last : .closed ∉ total.dropLast := by
    simpa [total] using Transcript.closed_not_mem_fed session.line.setting chunks
  obtain ⟨left, flows⟩ := opening.flows_closing constant chunks
  have deliveredEq : Event.deliveredBytes total = Event.deliveredBytes events := by
    rw [Event.deliveredBytes_append, Event.deliveredBytes_closed, List.append_nil]
    exact Transcript.view_fed _ Event.deliveredBytes_append rfl _ _
  have masterEq : Event.masterBytes total = Event.masterBytes events := by
    rw [Event.masterBytes_append, Transcript.view_fed _ Event.masterBytes_append rfl]
    exact List.append_nil _
  have signalsEq : Event.signals total = Event.signals events := by
    rw [Event.signals_append, Transcript.view_fed _ Event.signals_append rfl]
    exact List.append_nil _
  refine ⟨flows.finite last, fun count after run => ⟨?_, ?_⟩⟩
  · intro stuck
    obtain ⟨_, _, _, reached, -⟩ := flows.run last run
    obtain ⟨idle, done, reader⟩ := reached.stuck stuck
    have closed : after.session.channel.closed = true := by
      rw [reached.closed, (reached.trace_eq idle done).1]
      simp
    rcases reader with ⟨none, ended⟩ | ⟨isOpen, -⟩
    · exact ⟨idle, done, none, ended⟩
    · rw [closed] at isOpen
      cases isOpen
  · intro finished
    obtain ⟨_, _, _, reached, -⟩ := flows.run last run
    obtain ⟨traceEq, linesEq, historyEq⟩ := reached.finished finished
    rw [deliveredEq] at linesEq historyEq
    refine ⟨linesEq, historyEq, ?_, ?_⟩
    · rw [traceEq, masterEq]
    · change Event.signals after.session.line.trace.toList = _
      rw [traceEq, signalsEq]

/-- A letter and a carriage return, typed in two calls in cooked mode, with room for a single
byte: the line feed waits for the reader, which is given one line whatever the schedule. -/
theorem schedule_independent_letter :
    let line : Discipline Channel :=
      { attributes := .cooked
        listener := some (.recorder "signals")
        outlet := { capacity := 1, capacity_pos := by decide } }
    let session : Session := { line, history := { maxSize := 1, maxSize_pos := by decide } }
    Opening session ∧ session.line.setting.Constant ∧
      ∀ count after, Run ⟨session, [.input [0x61], .input [0x0D], .close]⟩ count after →
        after.Stuck → after.session.linesRead = [some "a", none] := by
  intro line session
  have opening : Opening session := ⟨rfl, rfl, ⟨1, rfl⟩, rfl, rfl, rfl, rfl⟩
  have constant : session.line.setting.Constant := by
    intro listener registered
    cases registered
    exact .leaf fun _ => rfl
  refine ⟨opening, constant, fun count after run stuck => ?_⟩
  obtain ⟨-, every⟩ := schedule_independent session [[0x61], [0x0D]] opening constant
  obtain ⟨finishes, leaves⟩ := every count after run
  have stripped : stripLineEnds [0x61, lf] = [0x61] := by decide
  have text : lineText [0x61, lf] = "a" := by
    rw [lineText, stripped, Utf8.decode, Utf8.pieces]
    simp [Utf8.lead?, Utf8.tail, Utf8.pieces, Utf8.Piece.shown]
  have linesRead := (leaves (finishes stuck)).1
  change after.session.linesRead = ([[0x61, lf]].map lineText).map some ++ [none] at linesRead
  rw [linesRead, List.map_singleton, text]
  rfl

end Feeding

end CookedMode
