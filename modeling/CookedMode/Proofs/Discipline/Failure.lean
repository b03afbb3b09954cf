import CookedMode.Proofs.Channel.Delivery
import CookedMode.Proofs.Discipline.Typing

/-!
# Calls that meet a fault

A sink that takes only so many writes and flushes, and an outlet that takes only so many
bytes, refuse every call of the kind after that.  A discipline does what the unhindered one
does until a call on one of its sides is refused; then it drops all tasks but the publication
at the end.  So what is observed of a call that feeds bytes is cut exactly at the first
refused call, and the byte whose turn it was is not delivered.
-/

namespace CookedMode

namespace Allowance

/-- Whether a call succeeds after a number of others of its kind. -/
def covers : Allowance → Nat → Bool
  | none, _ => true
  | some calls, made => decide (made < calls)

theorem covers_of_spend? {allowance left : Allowance} (spent : allowance.spend? = some left) :
    allowance.covers 0 = true ∧ ∀ made, left.covers made = allowance.covers (made + 1) := by
  cases allowance with
  | none =>
      cases spent
      exact ⟨rfl, fun _ => rfl⟩
  | some calls =>
      cases calls with
      | zero => cases spent
      | succ calls =>
          cases spent
          exact ⟨by simp [covers], fun made => by simp [covers]⟩

theorem covers_of_spend?_eq_none {allowance : Allowance} (spent : allowance.spend? = none) :
    allowance.covers 0 = false := by
  cases allowance with
  | none => cases spent
  | some calls =>
      cases calls with
      | zero => rfl
      | succ calls => cases spent

end Allowance

namespace Event

/-- Whether an event is a write to the sink. -/
def isWrite : Event → Bool
  | wrote _ => true
  | _ => false

/-- Whether an event is a flush of the sink. -/
def isFlush : Event → Bool
  | flushed => true
  | _ => false

/-- Whether an event is a delivery to the outlet. -/
def isDelivery : Event → Bool
  | delivered _ => true
  | _ => false

end Event

/-- The calls before the first one that is refused, and the fault that comes of it.  Whether a
call is refused depends on those that were made before. -/
def untilRefused (refusal? : List Event → Event → Option Fault) (made : List Event) :
    List Event → List Event × Option Fault
  | [] => (made, none)
  | call :: rest =>
    match refusal? made call with
    | some fault => (made, some fault)
    | none => untilRefused refusal? (made ++ [call]) rest

/-- No call before the first refused one is refused, and these are all calls unless there is a
refused one. -/
theorem of_untilRefused (refusal? : List Event → Event → Option Fault) (past calls : List Event) :
    ∃ made, (untilRefused refusal? past calls).1 = past ++ made ∧
      (∀ first call rest, made = first ++ call :: rest → refusal? (past ++ first) call = none) ∧
      ((untilRefused refusal? past calls).2 = none → made = calls) ∧
      ∀ fault, (untilRefused refusal? past calls).2 = some fault →
        ∃ call rest, calls = made ++ call :: rest ∧ refusal? (past ++ made) call = some fault := by
  induction calls generalizing past with
  | nil => exact ⟨[], by simp [untilRefused]⟩
  | cons call calls ih =>
      rw [untilRefused]
      cases refused : refusal? past call with
      | some fault =>
          refine ⟨[], by simp, by simp, by simp, fun other same => ⟨call, calls, rfl, ?_⟩⟩
          cases same
          rw [List.append_nil, refused]
      | none =>
          obtain ⟨made, madeEq, accepted, all, cut⟩ := ih (past ++ [call])
          refine ⟨call :: made, by simpa using madeEq, ?_, fun none => by rw [all none], ?_⟩
          · intro first other rest split
            cases first with
            | nil =>
                obtain ⟨rfl, -⟩ := List.cons_eq_cons.mp split
                rw [List.append_nil, refused]
            | cons _ first =>
                obtain ⟨rfl, splitRest⟩ := List.cons_eq_cons.mp split
                have passed := accepted first other rest splitRest
                rwa [List.append_assoc] at passed
          · intro fault isFault
            obtain ⟨other, rest, callsEq, refused⟩ := cut fault isFault
            rw [List.append_assoc] at refused
            exact ⟨other, rest, by rw [callsEq, List.cons_append], refused⟩

namespace Discipline

/-- The fault of a call after others that were made, if a side refuses it. -/
def refusal? (line : Discipline Tape) (made : List Event) : Event → Option Fault
  | .wrote _ =>
    if line.sink.writes.covers (made.countP Event.isWrite) then none else some .sinkClosed
  | .flushed =>
    if line.sink.flushes.covers (made.countP Event.isFlush) then none else some .flushFailed
  | .delivered _ =>
    if line.outlet.room.covers (made.countP Event.isDelivery) then none else some .channelClosed
  | _ => none

/-- A discipline after some calls refuses what it would have refused after them, and has
written them down. -/
structure Made (start : Discipline Tape) (made : List Event) (line : Discipline Tape) : Prop where
  refusal : ∀ later call, line.refusal? later call = start.refusal? (made ++ later) call
  trace : line.trace.toList = start.trace.toList ++ made

theorem Made.refl (line : Discipline Tape) : Made line [] line where
  refusal _ _ := rfl
  trace := by simp

theorem Made.trans {start middle line : Discipline Tape} {first second : List Event}
    (before : Made start first middle) (after : Made middle second line) :
    Made start (first ++ second) line where
  refusal later call := by
    rw [after.refusal, before.refusal, List.append_assoc]
  trace := by rw [after.trace, before.trace, List.append_assoc]

theorem made_of_covers {line after : Discipline Tape} {call : Event}
    (writes : ∀ made, after.sink.writes.covers made =
      line.sink.writes.covers (made + if call.isWrite then 1 else 0))
    (flushes : ∀ made, after.sink.flushes.covers made =
      line.sink.flushes.covers (made + if call.isFlush then 1 else 0))
    (room : ∀ made, after.outlet.room.covers made =
      line.outlet.room.covers (made + if call.isDelivery then 1 else 0))
    (traceEq : after.trace = line.trace.push call) : Made line [call] after where
  refusal later other := by
    cases other with
    | wrote bytes => simp only [refusal?, writes, List.singleton_append, List.countP_cons]
    | flushed => simp only [refusal?, flushes, List.singleton_append, List.countP_cons]
    | delivered byte => simp only [refusal?, room, List.singleton_append, List.countP_cons]
    | published | closed | told => rfl
  trace := by rw [traceEq, Array.toList_push]

/-- What becomes of a task that the unhindered discipline does. -/
inductive Hindered (line reached : Discipline Tape) (task : Task) (tasks : List Task) : Prop
  /-- It is done without a call. -/
  | aside {after : Discipline Tape} (stepEq : line.step task = .next after tasks)
      (same : after.unhindered = reached) (made : Made line [] after)
  /-- It is done by a call. -/
  | makes {after : Discipline Tape} {call : Event} (stepEq : line.step task = .next after tasks)
      (same : after.unhindered = reached) (accepted : line.refusal? [] call = none)
      (made : Made line [call] after)
  /-- It fails, since its call is refused. -/
  | fails {call : Event} {fault : Fault} (stepEq : line.step task = .fail fault)
      (traceEq : reached.trace.toList = line.trace.toList ++ [call])
      (refused : line.refusal? [] call = some fault)

variable {line reached : Discipline Tape} {task : Task} {tasks : List Task}

theorem hindered_of_spend {call : Event} {fault : Fault} (allowance : Allowance)
    (refusalEq : line.refusal? [] call = if allowance.covers 0 then none else some fault)
    (makes : ∀ left, allowance.spend? = some left →
      (∀ made, left.covers made = allowance.covers (made + 1)) →
      ∃ after, line.step task = .next after tasks ∧ after.unhindered = reached ∧
        Made line [call] after)
    (fails : allowance.spend? = none → line.step task = .fail fault)
    (traceEq : reached.trace = line.trace.push call) : Hindered line reached task tasks := by
  cases spent : allowance.spend? with
  | some left =>
      obtain ⟨covered, counts⟩ := Allowance.covers_of_spend? spent
      obtain ⟨after, stepEq, same, made⟩ := makes left spent counts
      exact .makes stepEq same (by rw [refusalEq, if_pos covered]) made
  | none =>
      have refused := Allowance.covers_of_spend?_eq_none spent
      exact .fails (fails spent) (by rw [traceEq, Array.toList_push])
        (by rw [refusalEq, refused]; rfl)

theorem hindered_write {bytes : List UInt8}
    (stepEq : line.unhindered.step (.write bytes) = .next reached tasks) :
    Hindered line reached (.write bytes) tasks := by
  cases stepEq
  refine hindered_of_spend line.sink.writes rfl (fun left spent counts => ?_) (fun spent => ?_) rfl
  · have writeEq : line.step (.write bytes) =
        .next ({ line with sink := { line.sink with writes := left } }.log (.wrote bytes)) [] := by
      simp only [step, Sink.write?, spent, Option.map_some]
    exact ⟨_, writeEq, rfl, made_of_covers counts (fun _ => rfl) (fun _ => rfl) rfl⟩
  · simp only [step, Sink.write?, spent, Option.map_none]

theorem hindered_flush (stepEq : line.unhindered.step .flush = .next reached tasks) :
    Hindered line reached .flush tasks := by
  cases stepEq
  refine hindered_of_spend line.sink.flushes rfl (fun left spent counts => ?_) (fun spent => ?_) rfl
  · have flushEq : line.step .flush =
        .next ({ line with sink := { line.sink with flushes := left } }.log .flushed) [] := by
      simp only [step, Sink.flush?, spent, Option.map_some]
    exact ⟨_, flushEq, rfl, made_of_covers (fun _ => rfl) counts (fun _ => rfl) rfl⟩
  · simp only [step, Sink.flush?, spent, Option.map_none]

theorem hindered_deliver {byte : UInt8}
    (stepEq : line.unhindered.step (.deliver byte) = .next reached tasks) :
    Hindered line reached (.deliver byte) tasks := by
  cases stepEq
  refine hindered_of_spend line.outlet.room rfl (fun left spent counts => ?_) (fun spent => ?_) rfl
  · have offerEq : line.step (.deliver byte) =
        .next ({ line with outlet := Tape.mk left }.log (.delivered byte)) [] := by
      simp only [step, Outlet.offer, spent]
    exact ⟨_, offerEq, rfl, made_of_covers (fun _ => rfl) (fun _ => rfl) counts rfl⟩
  · simp only [step, Outlet.offer, spent]

/-- What the unhindered discipline does, the discipline does too, unless the call that it
takes is refused. -/
theorem hindered_of_step (stepEq : line.unhindered.step task = .next reached tasks) :
    Hindered line reached task tasks := by
  have unlimited {call : Event} (after : Discipline Tape) (writes : call.isWrite = false)
      (flushes : call.isFlush = false) (deliveries : call.isDelivery = false)
      (sink : after.sink = line.sink) (outlet : after.outlet = line.outlet)
      (traceEq : after.trace = line.trace.push call) : Made line [call] after :=
    made_of_covers (by simp [writes, sink]) (by simp [flushes, sink])
      (by simp [deliveries, outlet]) traceEq
  cases task with
  | type byte => cases stepEq; exact .aside rfl rfl (.refl line)
  | write bytes => exact hindered_write stepEq
  | flush => exact hindered_flush stepEq
  | deliver byte => exact hindered_deliver stepEq
  | publish => cases stepEq; exact .makes rfl rfl rfl (unlimited _ rfl rfl rfl rfl rfl rfl)
  | notify signal =>
      obtain ⟨attributes, listener, sink, outlet, trace⟩ := line
      cases listener <;> cases stepEq <;> exact .aside rfl rfl (.refl _)
  | tell listener signal =>
      cases listener with
      | leaf name reaction =>
          cases stepEq
          exact .makes rfl rfl rfl (unlimited _ rfl rfl rfl rfl rfl rfl)
      | group members => cases stepEq; exact .aside rfl rfl (.refl line)
  | perform action =>
      cases action with
      | close => cases stepEq; exact .makes rfl rfl rfl (unlimited _ rfl rfl rfl rfl rfl rfl)
      | bind control value =>
          simp only [step, begin, unhindered] at stepEq
          split at stepEq <;> cases stepEq
          case h_1 attributes boundEq =>
            have boundTo : line.step (.perform (.bind control value)) =
                .next { line with attributes } [] := by
              simp only [step, begin, boundEq]
            exact .aside boundTo rfl ⟨fun _ _ => rfl, by simp⟩
      | fail fault => cases stepEq
      | _ => cases stepEq; exact .aside rfl rfl ⟨fun _ _ => rfl, by simp⟩

/-- One of some tasks fails in a number of moves, when the others are left. -/
inductive Fails : Discipline Tape → List Task → Nat → Discipline Tape → List Task → Fault → Prop
  | here {line : Discipline Tape} {task : Task} {rest : List Task} {fault : Fault} :
      line.step task = .fail fault → Fails line (task :: rest) 1 line rest fault
  | later {line middle failed : Discipline Tape} {task : Task} {tasks rest left : List Task}
      {moves : Nat} {fault : Fault} : line.step task = .next middle tasks →
      Fails middle (tasks ++ rest) moves failed left fault →
      Fails line (task :: rest) (moves + 1) failed left fault

namespace Fails

variable {line failed : Discipline Tape} {tasks left : List Task} {moves : Nat} {fault : Fault}

theorem append (fails : Fails line tasks moves failed left fault) (more : List Task) :
    Fails line (tasks ++ more) moves failed (left ++ more) fault := by
  induction fails with
  | here stepEq => exact .here stepEq
  | later stepEq _ ih =>
      rw [List.append_assoc] at ih
      exact .later stepEq ih

theorem run_eq (fails : Fails line tasks moves failed left fault) (more : Nat) :
    line.run (moves + more) { tasks } = failed.run more (.interrupt left fault) := by
  induction fails with
  | here stepEq =>
      rw [Nat.add_comm]
      simp only [run, advance, stepEq]
  | later stepEq _ ih =>
      rw [Nat.add_right_comm]
      simp only [run, advance, stepEq]
      exact ih

end Fails

theorem Completes.published_of_publish {line final : Discipline Tape} {tasks : List Task}
    {moves : Nat} {events : List Event} (completes : Completes line tasks moves final)
    (traceEq : final.trace.toList = line.trace.toList ++ events) (publishes : .publish ∈ tasks) :
    .published ∈ events := by
  induction completes generalizing events with
  | done => cases publishes
  | @task line middle final task tasks rest moves stepEq tail ih =>
      obtain ⟨later, laterEq⟩ := tail.trace
      rcases List.mem_cons.mp publishes with rfl | inRest
      · cases stepEq
        rw [laterEq] at traceEq
        have eventsEq : .published :: later = events := by simpa [log] using traceEq
        rw [← eventsEq]
        exact List.mem_cons_self
      · obtain ⟨first, firstEq⟩ := step_trace stepEq
        have eventsEq : first ++ later = events := by
          rw [laterEq, firstEq, List.append_assoc] at traceEq
          exact List.append_cancel_left traceEq
        rw [← eventsEq]
        exact List.mem_append_right first (ih laterEq (List.mem_append_right tasks inRest))

/-- How tasks end that the unhindered discipline does with some calls: with the calls before
the first refused one, and with its fault. -/
inductive Outcome (start line : Discipline Tape) (tasks : List Task) (calls : List Event) :
    List Event × Option Fault → Prop
  | completes {after : Discipline Tape} {moves : Nat} {past : List Event}
      (completes : Completes line tasks moves after) (made : Made start past after) :
      Outcome start line tasks calls (past, none)
  | fails {failed : Discipline Tape} {left : List Task} {moves : Nat} {past : List Event}
      {fault : Fault} (fails : Fails line tasks moves failed left fault)
      (made : Made start past failed) (publishes : .publish ∈ left → .published ∈ calls) :
      Outcome start line tasks calls (past, some fault)

theorem Outcome.later {start line after : Discipline Tape} {task : Task} {tasks rest : List Task}
    {calls others : List Event} {result : List Event × Option Fault}
    (outcome : Outcome start after (tasks ++ rest) others result)
    (stepEq : line.step task = .next after tasks) (within : others ⊆ calls) :
    Outcome start line (task :: rest) calls result := by
  cases outcome with
  | completes completes made => exact .completes (.task stepEq completes) made
  | fails fails made publishes =>
      exact .fails (.later stepEq fails) made fun member => within (publishes member)

/-- Tasks are done as far as their calls are not refused. -/
theorem Completes.outcome {free final start line : Discipline Tape} {tasks : List Task}
    {moves : Nat} {past calls : List Event} (completes : Completes free tasks moves final)
    (traceEq : final.trace.toList = free.trace.toList ++ calls)
    (same : line.unhindered = free) (made : Made start past line) :
    Outcome start line tasks calls (untilRefused start.refusal? past calls) := by
  -- along the unhindered run, the discipline has made the calls in `past` and is in step with it
  induction completes generalizing line past calls with
  | done free =>
      have none : calls = [] := by simpa using traceEq
      rw [none]
      exact .completes (.done line) made
  | @task free middle final task tasks rest moves stepEq tail ih =>
      subst same
      obtain ⟨later, laterEq⟩ := tail.trace
      cases hindered_of_step stepEq with
      | @aside after stepEq same aside =>
          have middleEq : middle.trace.toList = line.unhindered.trace.toList := by
            rw [← same]
            exact aside.trace.trans (List.append_nil _)
          have made := made.trans aside
          rw [middleEq] at ih
          rw [List.append_nil] at made
          exact (ih traceEq same made).later stepEq (List.Subset.refl calls)
      | @makes after call stepEq same accepted makes =>
          have middleEq : middle.trace.toList = line.unhindered.trace.toList ++ [call] := by
            rw [← same]
            exact makes.trace
          have callsEq : calls = call :: later := by
            rw [laterEq, middleEq, List.append_assoc] at traceEq
            exact (List.append_cancel_left traceEq).symm
          have accepted : start.refusal? past call = none := by
            rw [← accepted, made.refusal, List.append_nil]
          rw [callsEq, untilRefused, accepted]
          exact (ih laterEq same (made.trans makes)).later stepEq (List.subset_cons_self call later)
      | @fails call fault stepEq middleEq refused =>
          have callsEq : calls = call :: later := by
            rw [laterEq, middleEq, List.append_assoc] at traceEq
            exact (List.append_cancel_left traceEq).symm
          have refused : start.refusal? past call = some fault := by
            rw [← refused, made.refusal, List.append_nil]
          rw [callsEq, untilRefused, refused]
          refine .fails (.here stepEq) made fun publishes => ?_
          have inTail := List.mem_append_right tasks publishes
          exact List.mem_cons_of_mem call (tail.published_of_publish laterEq inTail)

end Discipline

namespace Transcript

/-- A transcript is cut in the block of a byte, after the blocks of all bytes before. -/
theorem exists_block {setting : Setting} {data : List UInt8} {past rest : List Event}
    {call : Event} (eventsEq : events setting data = past ++ call :: rest) :
    ∃ before byte behind part left, data = before ++ byte :: behind ∧
      past = events setting before ++ part ∧
      block (final setting before) byte = part ++ call :: left := by
  induction data generalizing setting past with
  | nil => simp [events] at eventsEq
  | cons byte data ih =>
      have onward {others : List Event}
          (later : others ++ call :: rest = events (next setting byte) data)
          (pastEq : past = block setting byte ++ others) :
          ∃ before first behind part left, byte :: data = before ++ first :: behind ∧
            past = events setting before ++ part ∧
            block (final setting before) first = part ++ call :: left := by
        obtain ⟨before, first, behind, part, left, rfl, rfl, blockEq⟩ := ih later.symm
        refine ⟨byte :: before, first, behind, part, left, rfl, ?_, blockEq⟩
        rw [pastEq, events, List.append_assoc]
      rw [events] at eventsEq
      rcases List.append_eq_append_iff.mp eventsEq with
        ⟨others, pastEq, later⟩ | ⟨left, blockEq, later⟩
      · exact onward later.symm pastEq
      · cases left with
        | nil =>
            rw [List.append_nil] at blockEq
            exact onward later (by rw [blockEq, List.append_nil])
        | cons first left =>
            rw [List.cons_append, List.cons_eq_cons] at later
            obtain ⟨rfl, -⟩ := later
            exact ⟨[], byte, data, past, left, rfl, rfl, blockEq⟩

theorem deliveredBytes_caret (byte : UInt8) : Event.deliveredBytes (caret byte) = [] := by
  unfold caret
  split <;> rfl

/-- At most the last event of a block is a delivery. -/
theorem exists_inner (setting : Setting) (byte : UInt8) :
    ∃ inner last, block setting byte = inner ++ last ∧ last.length ≤ 1 ∧
      Event.deliveredBytes inner = [] := by
  have passing (first : List Event) (quiet : Event.deliveredBytes first = []) :
      ∃ inner last, first ++ passage setting.attributes byte = inner ++ last ∧ last.length ≤ 1 ∧
        Event.deliveredBytes inner = [] := by
    unfold passage
    split
    · exact ⟨first, [], rfl, Nat.zero_le 1, quiet⟩
    · case h_2 byte _ =>
        refine ⟨first ++ echo setting.attributes byte, [.delivered byte], ?_, Nat.le_refl 1, ?_⟩
        · rw [List.append_assoc]
        · rw [Event.deliveredBytes_append, quiet, deliveredBytes_echo, List.append_nil]
  have signaled (signal : Signal) :
      ∃ inner last, caret byte ++ heard setting signal = inner ++ last ∧ last.length ≤ 1 ∧
        Event.deliveredBytes inner = [] := by
    refine ⟨_, [], (List.append_nil _).symm, Nat.zero_le 1, ?_⟩
    rw [Event.deliveredBytes_append, deliveredBytes_caret, deliveredBytes_heard, List.append_nil]
  unfold block
  split
  · exact passing [] rfl
  · exact signaled .int
  · exact signaled .quit
  · exact signaled .susp
  · exact passing (heard setting .info) (deliveredBytes_heard setting .info)

theorem deliveredBytes_of_block {setting : Setting} {byte : UInt8} {part left : List Event}
    {call : Event} (blockEq : block setting byte = part ++ call :: left) :
    Event.deliveredBytes part = [] := by
  obtain ⟨inner, last, innerEq, short, quiet⟩ := exists_inner setting byte
  have shorter : part.length ≤ inner.length := by
    have lengths := congrArg List.length (blockEq.symm.trans innerEq)
    simp only [List.length_append, List.length_cons] at lengths
    omega
  have within : part <+: inner :=
    List.prefix_of_prefix_length_le ⟨_, blockEq.symm⟩ ⟨_, innerEq.symm⟩ shorter
  obtain ⟨others, rfl⟩ := within
  rw [Event.deliveredBytes_append] at quiet
  exact (List.append_eq_nil_iff.mp quiet).1

end Transcript

/-! ## Feeding bytes -/

namespace Discipline

/-- An action comes to an end, with some events written down and maybe a fault. -/
def Ends (line : Discipline Tape) (action : Action) (events : List Event)
    (fault : Option Fault) : Prop :=
  ∃ after moves, after.trace.toList = line.trace.toList ++ events ∧
    ∀ most, moves ≤ most → line.run most (.ofAction action) = (after, { tasks := [], fault })

variable {line : Discipline Tape}

/-- Bytes are typed as far as no call is refused, and what was delivered is published. -/
theorem Outcome.ends {data : List UInt8} {calls : List Event}
    {result : List Event × Option Fault}
    (outcome : Outcome line line (data.map .type) calls result)
    (unpublished : .published ∉ calls) :
    line.Ends (.input data) (result.1 ++ [.published]) result.2 := by
  have publishes (reached : Discipline Tape) :
      reached.step .publish = .next (reached.log .published) [] := rfl
  cases outcome with
  | @completes after moves past completes made =>
      have all : Completes line [.perform (.input data)] (moves + 1 + 1)
          (after.log .published) := by
        refine .task rfl ?_
        rw [List.append_nil]
        exact completes.append (.one (publishes after))
      refine ⟨after.log .published, moves + 1 + 1, ?_, fun most enough => all.run_eq enough⟩
      rw [log, Array.toList_push, made.trace, List.append_assoc]
  | @fails failed left moves past fault fails made publishesLeft =>
      -- a publication left by the bytes would be among the calls, which has none
      have dropped : (left ++ [Task.publish]).filter Task.survives = [.publish] := by
        have none : left.filter Task.survives = [] := by
          rw [List.filter_eq_nil_iff]
          intro task member survives
          cases task with
          | publish => exact unpublished (publishesLeft member)
          | _ => cases survives
        rw [List.filter_append, none]
        rfl
      have fails : Fails line [.perform (.input data)] (moves + 1) failed (left ++ [.publish])
          fault := by
        refine .later rfl ?_
        rw [List.append_nil]
        exact fails.append [.publish]
      refine ⟨failed.log .published, moves + 1 + 1, ?_, fun most enough => ?_⟩
      · rw [log, Array.toList_push, made.trace, List.append_assoc]
      · obtain ⟨more, rfl⟩ := Nat.exists_eq_add_of_le enough
        rw [Nat.add_assoc, Call.ofAction, fails.run_eq, Call.interrupt, dropped, Nat.add_comm]
        simp only [run, advance, publishes, List.append_nil]
        cases more <;> rfl

theorem Ends.perform {action : Action} {events : List Event} {fault : Option Fault}
    (ends : line.Ends action events fault) (finishes : (line.perform action).2 ≠ some .endless) :
    ∃ after, line.perform action = (after, fault) ∧
      after.trace.toList = line.trace.toList ++ events := by
  obtain ⟨after, moves, traceEq, runs⟩ := ends
  exact ⟨after, perform_eq_of_run runs finishes, traceEq⟩

/-- Feeding bytes makes exactly the calls that it would make if nothing failed, up to the first
one that a side refuses; then it publishes once, and its fault is that of the refused call.
Without a refused call it makes them all.  If one is refused, the bytes before the one whose
turn it was are dealt with, that byte is not delivered, and nothing comes of the bytes after
it. -/
theorem run_input_until_refused (line : Discipline Tape) (data : List UInt8)
    (harmless : line.setting.Harmless) :
    let calls := Transcript.events line.setting data
    let made := (untilRefused line.refusal? [] calls).1
    let fault := (untilRefused line.refusal? [] calls).2
    line.unhindered.Ends (.input data) (calls ++ [.published]) none ∧
    line.Ends (.input data) (made ++ [.published]) fault ∧
    ((line.perform (.input data)).2 ≠ some .endless →
      ∃ after, line.perform (.input data) = (after, fault) ∧
        after.trace.toList = line.trace.toList ++ (made ++ [.published])) ∧
    (∀ first call rest, made = first ++ call :: rest → line.refusal? first call = none) ∧
    (fault = none → made = calls) ∧
    ∀ cause, fault = some cause → ∃ before byte behind part call left,
      data = before ++ byte :: behind ∧
      made = Transcript.events line.setting before ++ part ∧
      Transcript.block (Transcript.final line.setting before) byte = part ++ call :: left ∧
      line.refusal? made call = some cause ∧
      Event.deliveredBytes made =
        Event.deliveredBytes (Transcript.events line.setting before) := by
  intro calls made fault
  obtain ⟨moves, completes⟩ := Yields.types line.setting data harmless line.trace.toList
  have traceEq : (free (Transcript.final line.setting data)
      (line.trace.toList ++ calls)).trace.toList =
        (free line.setting line.trace.toList).trace.toList ++ calls := rfl
  have unpublished := Transcript.published_not_mem_events line.setting data
  have outcome := completes.outcome traceEq (unhindered_eq_free line) (.refl line)
  have ends : line.Ends (.input data) (made ++ [.published]) fault := outcome.ends unpublished
  have unhindered : line.unhindered.Ends (.input data) (calls ++ [.published]) none := by
    rw [unhindered_eq_free]
    exact (Outcome.completes completes ⟨fun _ _ => rfl, traceEq⟩).ends unpublished
  obtain ⟨past, madeEq, accepted, all, cut⟩ := of_untilRefused line.refusal? [] calls
  obtain rfl : made = past := madeEq
  refine ⟨unhindered, ends, ends.perform, accepted, all, fun cause isCause => ?_⟩
  obtain ⟨call, rest, callsEq, refused⟩ := cut cause isCause
  obtain ⟨before, byte, behind, part, left, dataEq, partEq, blockEq⟩ :=
    Transcript.exists_block callsEq
  refine ⟨before, byte, behind, part, call, left, dataEq, partEq, blockEq, refused, ?_⟩
  rw [partEq, Event.deliveredBytes_append, Transcript.deliveredBytes_of_block blockEq,
    List.append_nil]

/-- The second flush of the sink fails, which is that of the announcement: the listener is not
told of the signal, and what was typed after it is neither echoed nor delivered. -/
theorem run_input_until_refused_flush :
    let line : Discipline Tape :=
      { attributes := .cooked
        listener := some (.recorder "app")
        sink := { flushes := some 1 }
        outlet := {} }
    line.setting.Harmless ∧
      line.Ends (.input [0x61, 0x03, 0x62])
        [.wrote [0x61], .flushed, .delivered 0x61, .wrote [0x5E, 0x43], .published]
        (some .flushFailed) := by
  intro line
  have harmless : line.setting.Harmless := by
    intro listener registered
    cases registered
    exact .leaf (by simp) (by simp)
  obtain ⟨-, ends, -⟩ := run_input_until_refused line [0x61, 0x03, 0x62] harmless
  exact ⟨harmless, ends⟩

end Discipline

end CookedMode
