import CookedMode.Proofs.Session.Calm

/-!
# Every schedule settles alike

A script of uses is played on a terminal: after each of them, the calls under way move on in
any order until the session is settled.  Such a session rests.  Whatever is asked of it leaves
it calm, so from there on its runs are made of acts on the outline, which commute, and they
all end in the same outline; that determines where the session rests the next time.
-/

namespace CookedMode

namespace Session

variable {session busy middle after other : Session} {count : Nat}
variable {use : Use} {script : List Use}

theorem Rests.silent {reader : Reader} (rests : session.Rests)
    (under : session.reader = some reader) : session.channel.published = 0 :=
  (rests.orderly.sound.reader (rests.settled.reader (by rw [under]; rfl))).2

/-- Whatever is asked of a session at rest leaves it calm. -/
theorem Rests.begun (rests : session.Rests) (begun : Begun session after) : after.Calm := by
  have calm := rests.calm
  cases begun with
  | feeds number data idle =>
      exact
        { constant := calm.constant
          tidy := .begins data
          parked := fun waits => by
            have isSome := rests.orderly.writer waits
            rw [idle] at isSome
            cases isSome
          still := fun reader _ under _ announced =>
            absurd (rests.silent under) (Nat.ne_of_gt announced) }
  | aside number result beside =>
      have outletEq := beside.outlet
      exact
        { constant := fun listener registered =>
            calm.constant listener (beside.listener.symm.trans registered)
          tidy := calm.tidy
          parked := by rw [channel, outletEq]; exact calm.parked
          still := fun reader size under requestEq announced => by
            rw [channel, outletEq] at announced
            exact absurd (rests.silent under) (Nat.ne_of_gt announced) }
  | closes number =>
      exact
        { constant := calm.constant
          tidy := calm.tidy
          parked := fun waits => by cases waits
          still := fun _ _ _ _ _ => ⟨rfl, .inl rfl⟩ }
  | reads number idle proper =>
      have still : session.Still := by
        cases under : session.writer with
        | none => exact .inr (.inl (by rw [pending, under]))
        | some writer =>
            have waits := rests.settled.writer (by rw [under]; rfl)
            obtain ⟨byte, rest, headEq⟩ := calm.parked waits
            exact .inr (.inr ⟨byte, rest, headEq, (rests.orderly.sound.writer waits).2.2⟩)
      exact
        { constant := calm.constant
          tidy := calm.tidy
          parked := calm.parked
          still := fun _ _ _ _ _ =>
            ⟨rests.orderly.announced rests.settled.writer, still⟩ }

theorem start_frame (session : Session) (number : Nat) (call : Call) :
    ∃ added, ∀ results, ({ session with results } : Session).start number call =
      { session.start number call with results := results ++ added } := by
  rcases runEq : session.line.run (Discipline.moves call.size) call with ⟨line, left⟩
  have frame (results : List (Nat × Except Fault Answer)) :=
    @start_eq_of_run { session with results } call left line number runEq
  simp only [start_eq_of_run number runEq, frame]
  cases left.tasks.isEmpty with
  | true => exact ⟨_, fun results => rfl⟩
  | false =>
      cases line.outlet.writerWaits && session.writer.isNone with
      | true => exact ⟨[], fun results => by simp only [List.append_nil]; rfl⟩
      | false => exact ⟨_, fun results => rfl⟩

theorem use?_frame (session : Session) (use : Use) :
    ∃ added, ∀ results, ({ session with results } : Session).use? use =
      (session.use? use).map fun begun => { begun with results := results ++ added } := by
  cases use with
  | input number data =>
      refine ⟨[], fun results => ?_⟩
      simp only [use?]
      split
      · simp
      · rfl
  | output number data | setAttributes number attributes | close number =>
      obtain ⟨added, frame⟩ := session.start_frame number (.ofAction _)
      exact ⟨added, fun results => congrArg some (frame results)⟩
  | read number request =>
      refine ⟨[], fun results => ?_⟩
      simp only [use?]
      split
      · simp [read]
      · rfl

theorem Alike.outline_of_use? {also : Session} (alike : Alike session other)
    (useEq : session.use? use = some busy) (alsoEq : other.use? use = some also) :
    busy.outline = also.outline := by
  obtain ⟨added, frame⟩ := session.use?_frame use
  have first : some busy = some { busy with results := session.results ++ added } := by
    have busyEq := frame session.results
    rwa [useEq] at busyEq
  have second : some also = some { busy with results := other.results ++ added } := by
    have alsoBusy := frame other.results
    rwa [← alike.same, alsoEq, useEq] at alsoBusy
  have resultsEq := congrArg Session.results (Option.some.inj first)
  rw [Option.some.inj second]
  simp only [outline, Outline.mk.injEq, true_and, Multiset.coe_eq_coe]
  rw [resultsEq]
  exact alike.results.symm.append_right added

theorem Moves.trans {number : Nat} (first : Moves session count middle)
    (second : Moves middle number after) : Moves session (count + number) after := by
  induction second with
  | start => exact first
  | move _ side moveEq ih => exact .move ih side moveEq

/-- A session settles by moves of its sides. -/
theorem moves_settleWithin (most : Nat) (turn : Side) (session : Session) :
    ∃ count, Moves session count (settleWithin most turn session) := by
  induction most generalizing turn session with
  | zero => exact ⟨0, .start⟩
  | succ most ih =>
      rw [settleWithin]
      split
      case h_1 middle moveEq =>
        obtain ⟨count, moves⟩ := ih turn middle
        exact ⟨_, (Moves.start.move turn moveEq).trans moves⟩
      case h_2 =>
        split
        case h_1 middle moveEq =>
          obtain ⟨count, moves⟩ := ih turn.other middle
          exact ⟨_, (Moves.start.move turn.other moveEq).trans moves⟩
        case h_2 => exact ⟨0, .start⟩

theorem moves_settle (session : Session) : ∃ count, Moves session count session.settle :=
  moves_settleWithin session.moves .reader session

theorem awake_of_advance {line reached : Discipline Channel} {call next : Call}
    (advanceEq : line.advance call = .moved reached next)
    (awake : line.outlet.writerWaits = false) : reached.outlet.writerWaits = false := by
  unfold Discipline.advance at advanceEq
  split at advanceEq
  case h_1 => cases advanceEq
  case h_2 task rest tasksEq =>
    cases stepEq : line.step task with
    | next after tasks =>
        rw [stepEq] at advanceEq
        cases advanceEq
        have wasWaiting := (waits_of_effect (Discipline.step_effect stepEq)).1
        exact Bool.eq_false_iff.mpr fun waits => by cases awake.symm.trans (wasWaiting waits)
    | wait after =>
        rw [stepEq] at advanceEq
        cases advanceEq
    | fail fault =>
        rw [stepEq] at advanceEq
        cases advanceEq
        exact awake

/-- A call moves on as its writer does while the reader stands by. -/
theorem moves_run {number : Nat} (most : Nat) {session : Session} {call : Call}
    (under : session.writer = some ⟨number, call⟩)
    (awake : session.channel.writerWaits = false) :
    ∃ count,
      Moves session count
        { session with
          line := (session.line.run most call).1
          writer := some ⟨number, (session.line.run most call).2⟩ } ∧
      ((session.line.run most call).2.tasks = [] →
        (session.line.run most call).1.outlet.writerWaits = false) := by
  have stays : session = { session with writer := some ⟨number, call⟩ } := by rw [← under]
  induction most generalizing session call with
  | zero => exact ⟨0, by rw [Discipline.run, ← stays]; exact .start, fun _ => awake⟩
  | succ most ih =>
      simp only [Discipline.run]
      cases advanceEq : session.line.advance call with
      | finished => exact ⟨0, by rw [← stays]; exact .start, fun _ => awake⟩
      | moved line next =>
          have moveEq : session.move? .writer =
              some { session with line, writer := some ⟨number, next⟩ } := by
            simp [move?, moveWriter?, under, awake, advanceEq]
          obtain ⟨count, moves, ended⟩ := @ih
            { session with line, writer := some ⟨number, next⟩ } next rfl
            (awake_of_advance advanceEq awake) rfl
          exact ⟨_, (Moves.start.move .writer moveEq).trans moves, ended⟩
      | waits line =>
          have moveEq : session.move? .writer =
              some { session with line, writer := some ⟨number, call⟩ } := by
            simp [move?, moveWriter?, under, awake, advanceEq]
          refine ⟨1, Moves.start.move .writer moveEq, fun nothing => ?_⟩
          have nothing : call.tasks = [] := nothing
          simp [Discipline.advance, nothing] at advanceEq

theorem moves_act_input (number : Nat) (data : List UInt8) (idle : session.writer = none)
    (awake : session.channel.writerWaits = false)
    (ends : (session.act number (.input data)).results ≠
      session.results ++ [(number, .error .endless)]) :
    ∃ count, Moves { session with writer := some ⟨number, .ofAction (.input data)⟩ } count
      (session.act number (.input data)) := by
  let call := Call.ofAction (.input data)
  let begun : Session := { session with writer := some ⟨number, call⟩ }
  have under : begun.writer = some ⟨number, call⟩ := rfl
  obtain ⟨count, moves, ended⟩ := moves_run (Discipline.moves call.size) under awake
  rcases runEq : session.line.run (Discipline.moves call.size) call with ⟨line, left⟩
  rw [show begun.line.run (Discipline.moves call.size) call = (line, left) from runEq]
    at moves ended
  rw [act, start_eq_of_run number runEq] at ends ⊢
  simp only [idle, Option.isNone_none, Bool.and_true] at ends ⊢
  cases tasksEq : left.tasks with
  | nil =>
      -- the writer has nothing left to do and ends
      have moveEq : move? { begun with line, writer := some ⟨number, left⟩ } .writer =
          some (finishWriter { begun with line, writer := some ⟨number, left⟩ } number
            left.fault) := by
        have awake : line.outlet.writerWaits = false := ended tasksEq
        simp [move?, moveWriter?, channel, awake, Discipline.advance, tasksEq]
      exact ⟨count + 1, .move moves .writer moveEq⟩
  | cons task rest =>
      cases waits : line.outlet.writerWaits with
      | true => exact ⟨count, moves⟩
      | false =>
          simp only [tasksEq, waits] at ends
          exact absurd rfl ends

/-! ## Scripts -/

/-- Some uses are made of a session one after the other.  In between, the calls under way move
on in any order until the session is settled. -/
inductive Plays : Session → List Use → Session → Prop where
  | done (session : Session) : Plays session [] session
  | use {session busy middle after : Session} {use : Use} {script : List Use} {count : Nat}
      (useEq : session.use? use = some busy) (moves : Moves busy count middle)
      (settled : middle.Settled) (later : Plays middle script after) :
      Plays session (use :: script) after

theorem Plays.concat (plays : Plays session script middle) (useEq : middle.use? use = some busy)
    (moves : Moves busy count after) (settled : after.Settled) :
    Plays session (script ++ [use]) after := by
  induction plays with
  | done => exact .use useEq moves settled (.done after)
  | use firstEq firstMoves firstSettled _ ih =>
      exact .use firstEq firstMoves firstSettled (ih useEq)

theorem Calm.moves (calm : busy.Calm) (orderly : busy.Orderly) (moves : Moves busy count after) :
    after.Calm ∧ Relation.ReflTransGen Act busy.outline after.outline := by
  induction moves with
  | start => exact ⟨calm, .refl⟩
  | move earlier side moveEq ih =>
      obtain ⟨calm, acts⟩ := ih
      have orderly := orderly.moves earlier
      have act := calm.outline_of_move orderly moveEq
      exact ⟨calm.move orderly moveEq, acts.trans act.to_reflTransGen⟩

theorem Rests.settles (rests : session.Rests) (useEq : session.use? use = some busy)
    (moves : Moves busy count after) (settled : after.Settled) :
    after.Rests ∧ Relation.ReflTransGen Act busy.outline after.outline := by
  have begun := begun_of_use? useEq
  have orderly := rests.orderly.begun begun
  obtain ⟨calm, acts⟩ := (rests.begun begun).moves orderly moves
  exact ⟨⟨orderly.moves moves, calm, settled⟩, acts⟩

/-- Every schedule of a script leaves the same session, but for the order of its results. -/
theorem Rests.plays {session other : Session} {script : List Use} {after : Session}
    (rests : session.Rests) (also : other.Rests) (outlineEq : session.outline = other.outline)
    (plays : Plays session script after) {later : Session} (alsoPlays : Plays other script later) :
    after.Rests ∧ later.Rests ∧ after.outline = later.outline := by
  induction plays generalizing other with
  | done => cases alsoPlays; exact ⟨rests, also, outlineEq⟩
  | use useEq moves settled _ ih =>
      cases alsoPlays with
      | use alsoEq alsoMoves alsoSettled alsoLater =>
          obtain ⟨middleRests, acts⟩ := rests.settles useEq moves settled
          obtain ⟨alsoRests, alsoActs⟩ := also.settles alsoEq alsoMoves alsoSettled
          rw [← (rests.alike also outlineEq).outline_of_use? useEq alsoEq] at alsoActs
          have sameEq := Act.final_unique acts alsoActs middleRests.final alsoRests.final
          exact ih middleRests alsoRests sameEq alsoLater

theorem Unused.rests {capacity : Int} (unused : session.Unused capacity)
    (constant : session.line.setting.Constant) : session.Rests where
  orderly := unused.orderly
  calm :=
    { constant := constant
      tidy := by rw [pending, unused.writer]; exact .none
      parked := fun waits => by
        cases (Channel.awake_of_of? unused.channel).1.symm.trans waits
      still := fun reader size under => by cases unused.reader.symm.trans under }
  settled :=
    { writer := fun isWriter => by rw [unused.writer] at isWriter; cases isWriter
      reader := fun isReader => by rw [unused.reader] at isReader; cases isReader }

theorem Rests.concat_act (rests : middle.Rests) (plays : Plays session script middle)
    {number : Nat} {data : List UInt8} (idle : middle.writer = none)
    (ends : (middle.act number (.input data)).results ≠
      middle.results ++ [(number, .error .endless)])
    (settled : (middle.act number (.input data)).settle.Settled) :
    Plays session (script ++ [.input number data]) (middle.act number (.input data)).settle := by
  have awake : middle.channel.writerWaits = false := by
    cases waits : middle.channel.writerWaits with
    | false => rfl
    | true =>
        have isSome := rests.orderly.writer waits
        rw [idle] at isSome
        cases isSome
  have useEq : middle.use? (.input number data) =
      some { middle with writer := some ⟨number, .ofAction (.input data)⟩ } := by
    simp only [use?, idle]
    rfl
  obtain ⟨_, runs⟩ := moves_act_input number data idle awake ends
  obtain ⟨_, settles⟩ := moves_settle (middle.act number (.input data))
  exact plays.concat useEq (runs.trans settles) settled

/-- A script is played on a terminal whose listeners only take note of signals, whatever its
capacity, attributes and sink.  After each use, the calls under way make only finitely many
moves, and can go on until the session is settled.  A call that feeds bytes at once, as far as
that goes, before both sides take turns is one of the schedules.  Whatever the order of all
the moves was, they leave the same session, but for the order in which calls have finished. -/
theorem settles_alike {capacity : Int} (unused : session.Unused capacity)
    (constant : session.line.setting.Constant) (plays : Plays session script middle) :
    (∀ use busy, middle.use? use = some busy →
      (∃ bound, ∀ count after, Moves busy count after → count ≤ bound) ∧
      ∃ count after, Moves busy count after ∧ after.Settled) ∧
    (∀ number data, middle.writer = none →
      (middle.act number (.input data)).results ≠
        middle.results ++ [(number, .error .endless)] →
      (middle.act number (.input data)).settle.Settled →
      Plays session (script ++ [.input number data]) (middle.act number (.input data)).settle) ∧
    ∀ other, Plays session script other → Alike middle other := by
  have rests := unused.rests constant
  have middleRests := (rests.plays rests rfl plays plays).1
  refine ⟨fun use busy useEq => ?_, fun number data idle ends settled => ?_,
    fun other alsoPlays => ?_⟩
  · have begun := begun_of_use? useEq
    have orderly := middleRests.orderly.begun begun
    have calm := middleRests.begun begun
    obtain ⟨left, limited⟩ := exists_limited calm.tidy calm.constant
    obtain ⟨bound, finite⟩ := limited.finite orderly
    exact ⟨⟨bound, finite⟩, exists_settled finite⟩
  · exact middleRests.concat_act plays idle ends settled
  · obtain ⟨-, otherRests, sameEq⟩ := rests.plays rests rfl plays alsoPlays
    exact middleRests.alike otherRests sameEq

/-- With room for a single byte, a line of two has its feeder wait for the reader, which the
full channel wakes; from there on they race.  Here the feeder comes to its end first, but
whoever does, the reader is given the whole line and nothing is left in the channel. -/
theorem settles_alike_race :
    let line : Discipline Channel :=
      { listener := some (.recorder "signals")
        outlet := { capacity := 1, capacity_pos := by decide } }
    let session : Session := { line, history := { maxSize := 1, maxSize_pos := by decide } }
    let script : List Use := [.read 1 .rawLine, .input 2 [0x61, 0x0A]]
    let after : Session :=
      { session with
        line := { line with trace := #[.delivered 0x61, .delivered 0x0A, .published] }
        results := [(2, .ok .nothing), (1, .ok (.bytes [0x61, 0x0A]))] }
    session.Unused 1 ∧ session.line.setting.Constant ∧ Plays session script after ∧
      ∀ other, Plays session script other → Alike after other := by
  intro line session script after
  have unused : session.Unused 1 := ⟨rfl, rfl, rfl, rfl⟩
  have constant : session.line.setting.Constant := by
    intro listener registered
    cases registered
    exact .leaf fun _ => rfl
  let parked : Session :=
    { session with
      line := { line with outlet := { line.outlet with readerWaits := true } }
      reader := some { number := 1, request := .rawLine } }
  let feeding : Session := { parked with writer := some ⟨2, .ofAction (.input [0x61, 0x0A])⟩ }
  let full : Session :=
    { parked with
      line :=
        { line with
          outlet := { line.outlet with buffer := [0x61], published := 1, writerWaits := true }
          trace := #[.delivered 0x61] }
      writer := some ⟨2, { tasks := [.deliver 0x0A, .publish] }⟩ }
  have parksEq : settleWithin 1 .reader (session.read 1 .rawLine) = parked := rfl
  have fillsEq : settleWithin 5 .writer feeding = full := rfl
  have racesEq : settleWithin 6 .reader full = after := rfl
  have plays : Plays session script after := by
    obtain ⟨_, parks⟩ := moves_settleWithin 1 .reader (session.read 1 .rawLine)
    obtain ⟨_, fills⟩ := moves_settleWithin 5 .writer feeding
    obtain ⟨_, races⟩ := moves_settleWithin 6 .reader full
    rw [parksEq] at parks
    rw [fillsEq] at fills
    rw [racesEq] at races
    have parkedSettled : parked.Settled := ⟨Bool.noConfusion, fun _ => rfl⟩
    have afterSettled : after.Settled := ⟨Bool.noConfusion, Bool.noConfusion⟩
    exact .use rfl parks parkedSettled (.use rfl (fills.trans races) afterSettled (.done after))
  exact ⟨unused, constant, plays, (settles_alike unused constant plays).2.2⟩

end Session

end CookedMode
