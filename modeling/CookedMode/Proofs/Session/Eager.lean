import CookedMode.Proofs.Session.Use
import Mathlib.Data.Multiset.AddSub
import Mathlib.Logic.Relation

/-!
# Sessions without publication

What a reader can see differs between schedules, and so does who waits.  An outline forgets
both, and the order in which calls have finished.  On outlines the two sides act as if every
byte were announced at once; then they do not get in each other's way, so their acts commute.

A reader of lines takes single bytes, which are the same whatever the writer adds behind
them.  How many bytes another reader is given depends on what the channel holds by then; it
takes part only when the writer has nothing more to add.
-/

namespace CookedMode

namespace Channel

/-- The channel when a number of its bytes have been taken, everything else is announced, and
nobody waits. -/
def without (channel : Channel) (count : Nat) : Channel :=
  { channel with buffer := channel.buffer.drop count }.publish

end Channel

namespace Discipline

/-- The discipline when a number of bytes have been taken from its channel. -/
def without (line : Discipline Channel) (count : Nat) : Discipline Channel :=
  { line with outlet := line.outlet.without count }

variable {line after : Discipline Channel} {task : Task} {tasks : List Task} {count : Nat}

/-- A step that goes on does so when bytes have been taken first, and comes to the same. -/
theorem step_without (stepEq : line.step task = .next after tasks)
    (enough : count ≤ line.outlet.buffer.length) :
    ∃ reached, (line.without count).step task = .next reached tasks ∧
      reached.without 0 = after.without count := by
  cases task with
  | deliver byte =>
      simp only [step] at stepEq
      split at stepEq <;> cases stepEq
      case h_1 held offerEq =>
        obtain ⟨isOpen, room, rfl⟩ := Channel.eq_of_offer_taken offerEq
        have early : line.outlet.buffer.length - count < line.outlet.capacity := by omega
        have offerEarly : Outlet.offer (line.without count).outlet byte =
            .taken { line.outlet.without count with
              buffer := line.outlet.buffer.drop count ++ [byte] } := by
          simp [Outlet.offer, Channel.offer, without, Channel.without, Channel.publish,
            Channel.notify, isOpen, early]
        refine ⟨_, by simp only [step, offerEarly]; rfl, ?_⟩
        simp [without, Channel.without, Channel.publish, Channel.notify, log,
          List.drop_append_of_le_length enough]
  | write bytes | flush =>
      simp only [step] at stepEq
      split at stepEq <;> cases stepEq
      case h_1 sink sinkEq => exact ⟨_, by simp only [step, without, sinkEq]; rfl, rfl⟩
  | notify signal =>
      obtain ⟨attributes, listener, sink, held, trace⟩ := line
      cases listener <;> cases stepEq <;> exact ⟨_, rfl, rfl⟩
  | tell listener signal => cases listener <;> cases stepEq <;> exact ⟨_, rfl, rfl⟩
  | perform action =>
      cases action with
      | bind control value =>
          simp only [step, begin] at stepEq
          split at stepEq <;> cases stepEq
          case h_1 attributes boundEq =>
            exact ⟨_, by simp only [step, begin, without, boundEq]; rfl, rfl⟩
      | fail fault => cases stepEq
      | _ => cases stepEq; exact ⟨_, rfl, rfl⟩
  | _ => cases stepEq; exact ⟨_, rfl, rfl⟩

theorem fail_without {fault : Fault} (stepEq : line.step task = .fail fault) (count : Nat) :
    (line.without count).step task = .fail fault := by
  cases task with
  | deliver byte =>
      have closed := closed_of_step stepEq
      simp only [step] at stepEq
      split at stepEq <;> cases stepEq
      have offerEarly : Outlet.offer (line.without count).outlet byte = .refused := by
        simp [Outlet.offer, Channel.offer, without, Channel.without, Channel.publish,
          Channel.notify, closed]
      simp only [step, offerEarly]
  | write bytes | flush =>
      simp only [step] at stepEq
      split at stepEq <;> cases stepEq
      case h_2 sinkEq => simp only [step, without, sinkEq]
  | notify signal =>
      simp only [step] at stepEq
      split at stepEq <;> cases stepEq
  | tell listener signal => cases listener <;> cases stepEq
  | perform action =>
      cases action with
      | bind control value =>
          simp only [step, begin] at stepEq
          split at stepEq <;> cases stepEq
          case h_2 unbindable boundEq => simp only [step, begin, without, boundEq]
      | fail => cases stepEq; rfl
      | _ => cases stepEq
  | _ => cases stepEq

end Discipline

namespace Session

/-- What a writer can do unless it waits: it ends with a result, does a task, or meets a
fault. -/
inductive Works (line : Discipline Channel) (writer : Writer) :
    Discipline Channel → Option Writer → List (Nat × Except Fault Answer) → Prop where
  | finished (ended : writer.call.tasks = []) :
      Works line writer line none
        [(writer.number,
          match writer.call.fault with
          | none => .ok .nothing
          | some fault => .error fault)]
  | done {task : Task} {rest tasks : List Task} {after : Discipline Channel}
      (tasksEq : writer.call.tasks = task :: rest) (stepEq : line.step task = .next after tasks) :
      Works line writer after
        (some ⟨writer.number, { writer.call with tasks := tasks ++ rest }⟩) []
  | failed {task : Task} {rest : List Task} {fault : Fault}
      (tasksEq : writer.call.tasks = task :: rest) (stepEq : line.step task = .fail fault) :
      Works line writer line (some ⟨writer.number, .interrupt rest fault⟩) []

/-- How many bytes a reader can take where every byte is announced. -/
inductive Draws (channel : Channel) (reader : Reader) : Nat → Prop where
  | ended (closed : channel.closed = true) (drained : channel.buffer = []) :
      Draws channel reader 0
  | some (size : Nat) (portionEq : Reader.portion reader = size)
      (something : channel.buffer ≠ []) : Draws channel reader (min size channel.buffer.length)

/-- The writer adds nothing more to the channel. -/
def Still (session : Session) : Prop :=
  session.channel.closed = true ∨ session.pending = [] ∨
    ∃ byte rest, session.pending = .deliver byte :: rest ∧
      session.channel.capacity ≤ session.channel.buffer.length

variable {session : Session} {line after other : Discipline Channel} {writer : Writer}
variable {left someone : Option Writer} {added others : List (Nat × Except Fault Answer)}
variable {channel : Channel} {reader : Reader} {count number : Nat}

theorem Works.unique (works : Works line writer after left added)
    (also : Works line writer other someone others) :
    after = other ∧ left = someone ∧ added = others := by
  cases works with
  | finished ended =>
      cases also with
      | finished => exact ⟨rfl, rfl, rfl⟩
      | done tasksEq | failed tasksEq => cases ended.symm.trans tasksEq
  | done tasksEq stepEq =>
      cases also with
      | finished ended => cases ended.symm.trans tasksEq
      | done alsoTasks alsoStep =>
          cases tasksEq.symm.trans alsoTasks
          cases stepEq.symm.trans alsoStep
          exact ⟨rfl, rfl, rfl⟩
      | failed alsoTasks alsoStep =>
          cases tasksEq.symm.trans alsoTasks
          cases stepEq.symm.trans alsoStep
  | failed tasksEq stepEq =>
      cases also with
      | finished ended => cases ended.symm.trans tasksEq
      | done alsoTasks alsoStep =>
          cases tasksEq.symm.trans alsoTasks
          cases stepEq.symm.trans alsoStep
      | failed alsoTasks alsoStep =>
          cases tasksEq.symm.trans alsoTasks
          cases stepEq.symm.trans alsoStep
          exact ⟨rfl, rfl, rfl⟩

theorem Draws.unique (draws : Draws channel reader count) (also : Draws channel reader number) :
    count = number := by
  cases draws with
  | ended closed drained =>
      cases also with
      | ended => rfl
      | some _ _ something => exact absurd drained something
  | some size portionEq something =>
      cases also with
      | ended _ drained => exact absurd drained something
      | some other otherEq =>
          obtain rfl : size = other := Int.ofNat.inj (portionEq.symm.trans otherEq)
          rfl

theorem Draws.le_length (draws : Draws channel reader count) :
    count ≤ channel.buffer.length := by
  cases draws with
  | ended => exact Nat.zero_le _
  | some => exact Nat.min_le_right _ _

theorem Draws.without (draws : Draws channel reader count) :
    Draws (channel.without 0) reader count := by
  cases draws with
  | ended closed drained => exact .ended closed drained
  | some size portionEq something => exact .some size portionEq something

/-! ## The two sides do not interfere -/

theorem Works.without (works : Works line writer after left added)
    (enough : count ≤ line.outlet.buffer.length) :
    ∃ reached, Works (line.without count) writer reached left added ∧
      reached.without 0 = after.without count := by
  cases works with
  | finished ended => exact ⟨_, .finished ended, rfl⟩
  | done tasksEq stepEq =>
      obtain ⟨reached, earlyEq, same⟩ := Discipline.step_without stepEq enough
      exact ⟨reached, .done tasksEq earlyEq, same⟩
  | failed tasksEq stepEq =>
      exact ⟨_, .failed tasksEq (Discipline.fail_without stepEq count), rfl⟩

theorem Works.grows (works : Works line writer after left added) :
    ∃ bytes, after.outlet.buffer = line.outlet.buffer ++ bytes ∧
      (line.outlet.closed = true → after.outlet.closed = true ∧ bytes = []) := by
  cases works with
  | finished | failed => exact ⟨[], (List.append_nil _).symm, fun closed => ⟨closed, rfl⟩⟩
  | done tasksEq stepEq =>
      have effect := Discipline.step_effect stepEq
      cases effect with
      | aside _ outletEq =>
          rw [outletEq]
          exact ⟨[], (List.append_nil _).symm, fun closed => ⟨closed, rfl⟩⟩
      | delivers offerEq =>
          obtain ⟨isOpen, -, outletEq⟩ := Channel.eq_of_offer_taken offerEq
          rw [outletEq]
          refine ⟨_, rfl, fun closed => ?_⟩
          rw [isOpen] at closed
          cases closed
      | publishes outletEq =>
          rw [outletEq]
          exact ⟨[], (List.append_nil _).symm, fun closed => ⟨closed, rfl⟩⟩
      | closes outletEq =>
          rw [outletEq]
          exact ⟨[], (List.append_nil _).symm, fun closed => ⟨rfl, rfl⟩⟩

theorem Works.still (works : Works session.line writer line left added)
    (under : session.writer = some writer) (still : session.Still) :
    line.outlet.buffer = session.channel.buffer ∧
      Still { session with line, writer := left } := by
  have whenClosed (closed : session.channel.closed = true) :
      line.outlet.buffer = session.channel.buffer ∧
        Still { session with line, writer := left } := by
    obtain ⟨bytes, bufferEq, final⟩ := works.grows
    obtain ⟨stillClosed, rfl⟩ := final closed
    rw [List.append_nil] at bufferEq
    exact ⟨bufferEq, .inl stillClosed⟩
  have pendingEq : session.pending = writer.call.tasks := by rw [pending, under]
  rcases still with closed | ended | ⟨byte, rest, headEq, full⟩
  · exact whenClosed closed
  · rw [pendingEq] at ended
    cases works with
    | finished => exact ⟨rfl, .inr (.inl rfl)⟩
    | done tasksEq | failed tasksEq => cases ended.symm.trans tasksEq
  · rw [pendingEq] at headEq
    cases works with
    | finished ended => cases headEq.symm.trans ended
    | done tasksEq stepEq =>
        cases headEq.symm.trans tasksEq
        obtain ⟨-, room, -⟩ := Channel.eq_of_offer_taken (Discipline.taken_of_step stepEq)
        exact absurd room (Nat.not_lt.mpr full)
    | failed tasksEq stepEq =>
        cases headEq.symm.trans tasksEq
        exact whenClosed (Discipline.closed_of_step stepEq)

theorem Draws.later {bytes : List UInt8} {later : Channel} (draws : Draws channel reader count)
    (bufferEq : later.buffer = channel.buffer ++ bytes)
    (final : channel.closed = true → later.closed = true ∧ bytes = [])
    (still : ∀ size, reader.request = .bytes size → bytes = []) :
    Draws later reader count ∧ later.buffer.take count = channel.buffer.take count := by
  refine ⟨?_, by rw [bufferEq, List.take_append_of_le_length draws.le_length]⟩
  cases draws with
  | ended closed drained =>
      obtain ⟨stillClosed, rfl⟩ := final closed
      exact .ended stillClosed (by rw [bufferEq, drained]; rfl)
  | some size portionEq something =>
      have more : later.buffer ≠ [] := by
        rw [bufferEq]
        exact List.append_ne_nil_of_left_ne_nil something _
      have countEq : min size channel.buffer.length = min size later.buffer.length := by
        cases requestEq : reader.request with
        | bytes asked =>
            rw [bufferEq, still asked requestEq, List.append_nil]
        | rawLine | line =>
            have single : size = 1 := by
              simp only [Reader.portion, requestEq] at portionEq
              omega
            have before := List.length_pos_iff.mpr something
            have after := List.length_pos_iff.mpr more
            omega
      rw [countEq]
      exact .some size portionEq more

/-- A session with everything announced, nobody waiting and no results, and the results apart,
in no order. -/
structure Outline where
  session : Session
  results : Multiset (Nat × Except Fault Answer)

/-- What remains of a session when the order of its results, what is announced and who waits
are forgotten. -/
def outline (session : Session) : Outline where
  session := { session with line := session.line.without 0, results := [] }
  results := session.results

/-- What a writer makes of an outline. -/
def Outline.written (outline : Outline) (line : Discipline Channel) (left : Option Writer)
    (added : List (Nat × Except Fault Answer)) : Outline where
  session := { outline.session with line := line.without 0, writer := left }
  results := outline.results + added

/-- What a reader makes of an outline when it takes a number of bytes. -/
def Outline.drawn (outline : Outline) (reader : Reader) (count : Nat) : Outline :=
  let received := outline.session.receive reader (outline.session.channel.buffer.take count)
  { session := { received with line := outline.session.line.without count, results := [] }
    results := outline.results + received.results }

/-- What one of the two sides makes of an outline. -/
inductive Act (outline : Outline) : Outline → Prop where
  | writer {writer : Writer} {line : Discipline Channel} {left : Option Writer}
      {added : List (Nat × Except Fault Answer)} (under : outline.session.writer = some writer)
      (works : Works outline.session.line writer line left added) :
      Act outline (outline.written line left added)
  | reader {reader : Reader} {count : Nat} (under : outline.session.reader = some reader)
      (draws : Draws outline.session.channel reader count)
      (still : ∀ size, reader.request = .bytes size → outline.session.Still) :
      Act outline (outline.drawn reader count)

variable {outline first second : Outline}

/-- A reader makes the same of an outline before and after the writer. -/
theorem Outline.written_drawn (session : Session)
    (results : Multiset (Nat × Except Fault Answer)) (reader : Reader)
    {reached : Discipline Channel} (lineEq : reached.without 0 = line.without count)
    (takenEq : line.outlet.buffer.take count = session.channel.buffer.take count) :
    (Outline.drawn ⟨session, results⟩ reader count).written reached left added =
      (Outline.written ⟨session, results⟩ line left added).drawn reader count := by
  obtain ⟨someone, history, notices, more, frame, -⟩ :=
    session.receive_frame reader (session.channel.buffer.take count)
  have first : session.receive reader (session.channel.buffer.take count) =
      { session with
        history, notices
        reader := someone
        results := session.results ++ more } := frame _ _ _
  let written := Outline.written ⟨session, results⟩ line left added
  have second : written.session.receive reader (written.session.channel.buffer.take count) =
      { written.session with
        history, notices
        reader := someone
        results := session.results ++ more } := by
    change Session.receive _ reader (line.outlet.buffer.take count) = _
    rw [takenEq]
    exact frame _ _ _
  change _ = written.drawn reader count
  simp only [Outline.drawn, first, second]
  simp only [Outline.written, lineEq]
  have sumEq (some other : Multiset (Nat × Except Fault Answer)) :
      results + some + other = results + other + some := by
    rw [Multiset.add_assoc, Multiset.add_comm some, ← Multiset.add_assoc]
  rw [sumEq]
  rfl

/-- Acts of the two sides commute. -/
theorem Act.commute {results : Multiset (Nat × Except Fault Answer)}
    (isWriter : session.writer = some writer) (works : Works session.line writer line left added)
    (isReader : session.reader = some reader) (draws : Draws session.channel reader count)
    (still : ∀ size, reader.request = .bytes size → session.Still) :
    ∃ both, Act (Outline.written ⟨session, results⟩ line left added) both ∧
      Act (Outline.drawn ⟨session, results⟩ reader count) both := by
  -- the reader takes the same bytes after the writer
  obtain ⟨bytes, bufferEq, final⟩ := works.grows
  have adds : ∀ size, reader.request = .bytes size → bytes = [] := by
    intro size requestEq
    have same := (works.still isWriter (still size requestEq)).1
    rw [bufferEq] at same
    exact List.append_right_eq_self.mp same
  obtain ⟨drawsLater, takenEq⟩ : Draws (line.without 0).outlet reader count ∧
    _ = session.channel.buffer.take count := draws.later bufferEq final adds
  refine ⟨_, .reader isReader drawsLater fun size requestEq =>
    (works.still isWriter (still size requestEq)).2, ?_⟩
  -- and the writer does the same after the reader
  obtain ⟨reached, worksEarly, lineEq⟩ := works.without draws.le_length
  rw [← Outline.written_drawn session results reader lineEq takenEq]
  have under : (Outline.drawn ⟨session, results⟩ reader count).session.writer = some writer := by
    obtain ⟨_, _, _, _, frame, -⟩ :=
      session.receive_frame reader (session.channel.buffer.take count)
    have received := congrArg Session.writer (frame session.line session.writer session.results)
    exact received.trans isWriter
  exact .writer under worksEarly

/-- Two acts on an outline lead to the same one, or can be joined by one more act each. -/
theorem Act.diamond (toFirst : Act outline first) (toSecond : Act outline second) :
    first = second ∨ ∃ both, Act first both ∧ Act second both := by
  obtain ⟨session, results⟩ := outline
  cases toFirst with
  | writer isWriter works =>
      cases toSecond with
      | writer alsoWriter also =>
          cases isWriter.symm.trans alsoWriter
          obtain ⟨rfl, rfl, rfl⟩ := works.unique also
          exact .inl rfl
      | reader isReader draws still =>
          exact .inr (Act.commute isWriter works isReader draws still)
  | reader isReader draws still =>
      cases toSecond with
      | writer isWriter works =>
          obtain ⟨both, fromWriter, fromReader⟩ :=
            Act.commute isWriter works isReader draws still
          exact .inr ⟨both, fromReader, fromWriter⟩
      | reader alsoReader also =>
          cases isReader.symm.trans alsoReader
          rw [draws.unique also]
          exact .inl rfl

theorem Act.confluent (toFirst : Relation.ReflTransGen Act outline first)
    (toSecond : Relation.ReflTransGen Act outline second) :
    Relation.Join (Relation.ReflTransGen Act) first second := by
  refine Relation.church_rosser (fun _ first second one other => ?_) toFirst toSecond
  rcases one.diamond other with rfl | ⟨both, fromFirst, fromSecond⟩
  · exact ⟨first, .refl, .refl⟩
  · exact ⟨both, .single fromFirst, .single fromSecond⟩

/-- At most one outline on which neither side can act is reached. -/
theorem Act.final_unique (toFirst : Relation.ReflTransGen Act outline first)
    (toSecond : Relation.ReflTransGen Act outline second) (firstEnds : ∀ next, ¬Act first next)
    (secondEnds : ∀ next, ¬Act second next) : first = second := by
  obtain ⟨both, fromFirst, fromSecond⟩ := Act.confluent toFirst toSecond
  rw [Relation.reflTransGen_iff_eq firstEnds] at fromFirst
  rw [Relation.reflTransGen_iff_eq secondEnds] at fromSecond
  exact fromFirst.symm.trans fromSecond

end Session

end CookedMode
