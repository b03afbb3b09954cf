import CookedMode.Proofs.Discipline.Typing
import CookedMode.Proofs.Session.Use

/-!
# Every run comes to an end

Between two uses of a terminal the calls under way move on, in any order.  While listeners
only take note of signals, a call that feeds bytes has a bounded number of steps left.  Each
step, and each byte that can be read, pays for the other side, which it may wake; so every
run is finite, and it can only end where the session is settled.
-/

namespace CookedMode

/-- A task of a call that feeds bytes, other than the publication at its end. -/
def Task.IsPlain : Task → Prop
  | .type _ | .write _ | .flush | .deliver _ | .notify _ => True
  | .tell listener _ => listener.OnlyRecords
  | .publish | .perform _ => False

/-- Plain tasks, and a publication after them. -/
inductive Publishes : List Task → Prop where
  | last : Publishes [.publish]
  | plain {task : Task} {rest : List Task} (plain : task.IsPlain) (later : Publishes rest) :
      Publishes (task :: rest)

/-- What a call that feeds bytes can have left to do. -/
inductive Tidy : List Task → Prop where
  /-- The call has ended, or there is none. -/
  | none : Tidy []
  /-- The call is still to begin. -/
  | begins (data : List UInt8) : Tidy [.perform (.input data)]
  /-- The call is under way. -/
  | publishes {tasks : List Task} (publishes : Publishes tasks) : Tidy tasks

theorem Publishes.after {tasks rest : List Task} (plain : ∀ task ∈ tasks, task.IsPlain)
    (later : Publishes rest) : Publishes (tasks ++ rest) := by
  induction tasks with
  | nil => exact later
  | cons task tasks ih =>
      exact .plain (plain task List.mem_cons_self)
        (ih fun other member => plain other (List.mem_cons_of_mem _ member))

theorem Publishes.survivors {tasks : List Task} (publishes : Publishes tasks) :
    tasks.filter Task.survives = [.publish] := by
  induction publishes with
  | last => rfl
  | @plain task rest plain later ih =>
      cases task with
      | publish => exact plain.elim
      | _ => exact ih

theorem Tidy.interrupt {task : Task} {rest : List Task} (tidy : Tidy (task :: rest)) :
    Tidy (rest.filter Task.survives) := by
  cases tidy with
  | begins data => exact .none
  | publishes publishes =>
      cases publishes with
      | last => exact .none
      | plain plain later =>
          rw [later.survivors]
          exact .publishes .last

namespace Task

theorem isPlain_of_mem_announce {attributes : Attributes} {signal : Signal} {task : Task}
    (member : task ∈ announce attributes signal) : task.IsPlain := by
  unfold announce at member
  split at member
  · simp only [List.mem_cons, List.not_mem_nil, or_false] at member
    rcases member with rfl | rfl <;> exact trivial
  · cases member

theorem isPlain_of_mem_accept {attributes : Attributes} {byte : UInt8} {task : Task}
    (member : task ∈ accept attributes byte) : task.IsPlain := by
  unfold accept at member
  split at member
  · cases member
  · rcases List.mem_append.mp member with echoes | delivers
    · split at echoes
      · simp only [List.mem_cons, List.not_mem_nil, or_false] at echoes
        rcases echoes with rfl | rfl <;> exact trivial
      · cases echoes
    · obtain rfl := List.mem_singleton.mp delivers
      exact trivial

theorem isPlain_of_mem_ofByte {attributes : Attributes} {byte : UInt8} {task : Task}
    (member : task ∈ ofByte attributes byte) : task.IsPlain := by
  unfold ofByte at member
  split at member
  · exact isPlain_of_mem_accept member
  · simp only [List.mem_append, List.mem_singleton] at member
    rcases member with (announces | rfl) | accepts
    · exact isPlain_of_mem_announce announces
    · exact trivial
    · split at accepts
      · cases accepts
      · exact isPlain_of_mem_accept accepts

end Task

namespace Discipline

variable {line after : Discipline Channel} {task : Task} {rest tasks : List Task}

/-- A plain task leaves the setting as it is, and only plain ones take its place. -/
theorem step_of_isPlain (plain : task.IsPlain) (constant : line.setting.Constant)
    (stepEq : line.step task = .next after tasks) :
    after.setting = line.setting ∧ ∀ task ∈ tasks, task.IsPlain := by
  cases task with
  | type byte =>
      cases stepEq
      exact ⟨rfl, fun _ => Task.isPlain_of_mem_ofByte⟩
  | write bytes | flush | deliver byte =>
      simp only [step] at stepEq
      split at stepEq <;> cases stepEq
      exact ⟨rfl, fun _ member => by cases member⟩
  | notify signal =>
      simp only [step] at stepEq
      split at stepEq <;> cases stepEq
      case h_1 => exact ⟨rfl, fun _ member => by cases member⟩
      case h_2 listener registered =>
        refine ⟨rfl, fun task member => ?_⟩
        obtain rfl := List.mem_singleton.mp member
        exact constant listener registered
  | tell listener signal =>
      cases plain with
      | leaf silent =>
          cases stepEq
          refine ⟨rfl, fun task member => ?_⟩
          rw [silent] at member
          cases member
      | group each =>
          cases stepEq
          refine ⟨rfl, fun task member => ?_⟩
          obtain ⟨listener, isMember, rfl⟩ := List.mem_map.mp member
          exact each listener isMember
  | publish | perform action => exact plain.elim

theorem step_of_tidy (tidy : Tidy (task :: rest)) (constant : line.setting.Constant)
    (stepEq : line.step task = .next after tasks) :
    after.setting = line.setting ∧ Tidy (tasks ++ rest) := by
  cases tidy with
  | begins data =>
      cases stepEq
      have typed : ∀ task ∈ data.map Task.type, task.IsPlain := by
        intro task member
        obtain ⟨byte, -, rfl⟩ := List.mem_map.mp member
        exact trivial
      rw [List.append_nil]
      exact ⟨rfl, .publishes (.after typed .last)⟩
  | publishes publishes =>
      cases publishes with
      | last =>
          cases stepEq
          exact ⟨rfl, .none⟩
      | plain plain later =>
          obtain ⟨settingEq, others⟩ := step_of_isPlain plain constant stepEq
          exact ⟨settingEq, .publishes (.after others later)⟩

end Discipline

namespace Discipline

theorem Completes.length_le {outlet : Type} [Outlet outlet] {line final : Discipline outlet}
    {tasks : List Task} {moves : Nat} (completes : Completes line tasks moves final) :
    tasks.length ≤ moves := by
  induction completes with
  | done => exact Nat.le_refl _
  | task _ _ ih =>
      rw [List.length_append] at ih
      rw [List.length_cons]
      omega

/-- Publications complete. -/
theorem completes_survivors (line : Discipline Tape) (tasks : List Task) :
    ∃ final, Completes line (tasks.filter Task.survives)
      (tasks.filter Task.survives).length final := by
  induction tasks generalizing line with
  | nil => exact ⟨line, .done line⟩
  | cons task tasks ih =>
      cases task with
      | publish =>
          obtain ⟨final, completes⟩ := ih ({ line with outlet := line.outlet }.log .published)
          exact ⟨final, .task rfl completes⟩
      | _ => exact ih line

/-- What a discipline does, the unhindered one does as well. -/
theorem unhindered_step {line after : Discipline Channel} {task : Task} {tasks : List Task}
    (stepEq : line.step task = .next after tasks) :
    line.unhindered.step task = .next after.unhindered tasks := by
  obtain ⟨attributes, listener, sink, held, trace⟩ := line
  cases task with
  | write bytes | flush | deliver byte =>
      simp only [step] at stepEq
      split at stepEq <;> cases stepEq
      rfl
  | notify signal => cases listener <;> cases stepEq <;> rfl
  | tell listener signal => cases listener <;> cases stepEq <;> rfl
  | perform action =>
      cases action with
      | bind control value =>
          simp only [step, begin, unhindered] at stepEq ⊢
          cases boundEq : attributes.bind? control value with
          | ok bound =>
              rw [boundEq] at stepEq
              cases stepEq
              rfl
          | error refusal => simp [boundEq] at stepEq
      | fail fault => cases stepEq
      | _ => cases stepEq; rfl
  | _ => cases stepEq; rfl

namespace Yields

variable {setting : Setting}

/-- A plain task completes and leaves the setting as it is. -/
theorem of_isPlain {task : Task} (plain : task.IsPlain) (constant : setting.Constant) :
    ∃ events, Yields setting [task] events setting := by
  cases task with
  | type byte =>
      have types := Yields.types setting [byte] constant.harmless
      rw [Transcript.final_of_constant constant] at types
      exact ⟨_, types⟩
  | write bytes => exact ⟨_, write bytes⟩
  | flush => exact ⟨_, flush⟩
  | deliver byte => exact ⟨_, deliver byte⟩
  | notify signal =>
      have toldEq : Transcript.told setting signal = setting := by
        unfold Transcript.told
        split
        · rfl
        · case h_2 listener registered =>
            rw [(constant listener registered).reactions_eq_nil]
            rfl
      have notifies := notify signal constant.harmless
      rw [toldEq] at notifies
      exact ⟨_, notifies⟩
  | tell listener signal =>
      have tells := tell (Listener.OnlyRecords.onlyAdjusts plain) signal setting
      rw [Listener.OnlyRecords.reactions_eq_nil plain] at tells
      exact ⟨_, tells⟩
  | publish | perform action => exact plain.elim

/-- A call that feeds bytes completes, whatever it has left to do. -/
theorem of_tidy {tasks : List Task} (tidy : Tidy tasks) (constant : setting.Constant) :
    ∃ events after, Yields setting tasks events after := by
  cases tidy with
  | none => exact ⟨_, _, nil⟩
  | begins data => exact ⟨_, _, input setting data constant.harmless⟩
  | publishes publishes =>
      induction publishes with
      | last => exact ⟨_, _, publish⟩
      | plain plain later ih =>
          obtain ⟨first, yields⟩ := of_isPlain plain constant
          obtain ⟨events, after, others⟩ := ih
          exact ⟨_, _, yields.cons others⟩

end Yields

end Discipline

namespace Session

variable {session start middle after : Session} {left count : Nat} {side : Side}

/-- The call that feeds bytes has a number of steps left if nothing hinders it. -/
def Limited (left : Nat) (session : Session) : Prop :=
  ∃ final, Discipline.Completes session.line.unhindered session.pending left final

/-- What a writer can do without a step: wait, or end. -/
def writerCost (session : Session) : Nat :=
  if session.writer.isSome then if session.channel.writerWaits then 0 else 2 else 0

/-- What a reader can do without a byte: wait, or end. -/
def readerCost (session : Session) : Nat :=
  if session.reader.isSome then if session.channel.readerWaits then 2 else 3 else 0

/-- A bound on the moves to come.  Each step of the writer, and each byte that can be taken,
pays for the other side, which it may wake. -/
def cost (left : Nat) (session : Session) : Nat :=
  4 * left + 3 * session.channel.buffer.length + session.writerCost + session.readerCost

theorem exists_limited (tidy : Tidy session.pending) (constant : session.line.setting.Constant) :
    ∃ left, Limited left session := by
  obtain ⟨events, setting, yields⟩ := Discipline.Yields.of_tidy tidy constant
  obtain ⟨left, completes⟩ := yields session.line.trace.toList
  rw [← Discipline.unhindered_eq_free] at completes
  exact ⟨left, _, completes⟩

theorem writerCost_le (session : Session) : session.writerCost ≤ 2 := by
  unfold writerCost
  split
  · split <;> omega
  · exact Nat.zero_le _

theorem writerCost_eq {writer : Writer} (under : session.writer = some writer)
    (awake : session.channel.writerWaits = false) : session.writerCost = 2 := by
  simp only [writerCost, under, awake, Option.isSome_some, if_true, Bool.false_eq_true, if_false]

theorem readerCost_le (session : Session) : session.readerCost ≤ 3 := by
  unfold readerCost
  split
  · split <;> omega
  · exact Nat.zero_le _

theorem readerCost_eq {reader : Reader} (under : session.reader = some reader)
    (awake : session.channel.readerWaits = false) : session.readerCost = 3 := by
  simp only [readerCost, under, awake, Option.isSome_some, if_true, Bool.false_eq_true, if_false]

theorem readerCost_le_succ (reader : after.reader = session.reader) :
    after.readerCost ≤ session.readerCost + 1 := by
  unfold readerCost
  rw [reader]
  split
  · split <;> split <;> omega
  · exact Nat.zero_le _

/-- A step pays for the byte that it may add, or for the reader that it may wake. -/
theorem cost_lt_of_effect {task : Task} (effect : Discipline.Effect session.line after.line task)
    (busy : session.writerCost = 2) (reader : after.reader = session.reader) :
    cost left after < cost (left + 1) session := by
  have writerLe := writerCost_le after
  have readerLe := readerCost_le_succ reader
  have otherwise (bufferEq : after.channel.buffer = session.channel.buffer) :
      cost left after < cost (left + 1) session := by
    simp only [cost, busy, bufferEq]
    omega
  cases effect with
  | aside _ outletEq | publishes outletEq | closes outletEq =>
      exact otherwise (by rw [channel, outletEq]; rfl)
  | delivers offerEq =>
      obtain ⟨-, -, outletEq⟩ := Channel.eq_of_offer_taken offerEq
      have lengthEq : after.channel.buffer.length = session.channel.buffer.length + 1 := by
        rw [channel, outletEq]
        exact List.length_append
      have readerEq : after.readerCost = session.readerCost := by
        simp only [readerCost, reader, channel, outletEq]
        rfl
      simp only [cost, busy, lengthEq, readerEq]
      omega

theorem cost_lt_of_writerCost {fewer : Nat} (channelEq : after.channel = session.channel)
    (reader : after.reader = session.reader)
    (price : 4 * fewer + after.writerCost < 4 * left + session.writerCost) :
    cost fewer after < cost left session := by
  have readerEq : after.readerCost = session.readerCost := by
    simp only [readerCost, reader, channelEq]
  simp only [cost, channelEq, readerEq]
  omega

theorem cost_lt_of_waits (bufferEq : after.channel.buffer = session.channel.buffer)
    (reader : after.reader = session.reader) (busy : session.writerCost = 2)
    (waiting : after.writerCost = 0) : cost left after < cost left session := by
  have readerLe := readerCost_le_succ reader
  simp only [cost, bufferEq, busy, waiting]
  omega

/-- A move of the writer costs a step, or what it can do without one. -/
theorem Limited.moveWriter (limited : Limited left session)
    (moves : session.moveWriter? = some after) :
    ∃ fewer, Limited fewer after ∧ cost fewer after < cost left session := by
  obtain ⟨writer, under, awake, move⟩ := writerMove_of_moveWriter? moves
  obtain ⟨final, completes⟩ := limited
  rw [show session.pending = writer.call.tasks by rw [pending, under]] at completes
  have busy := writerCost_eq under awake
  cases move with
  | finished ended =>
      rw [ended] at completes
      refine ⟨left, ⟨final, completes⟩, cost_lt_of_writerCost rfl rfl ?_⟩
      have idle : (session.finishWriter writer.number writer.call.fault).writerCost = 0 := rfl
      omega
  | done tasksEq stepEq =>
      rw [tasksEq] at completes
      obtain ⟨reached, new, fewer, freeEq, later, rfl⟩ := completes.head
      rw [Discipline.unhindered_step stepEq] at freeEq
      cases freeEq
      exact ⟨fewer, ⟨final, later⟩, cost_lt_of_effect (Discipline.step_effect stepEq) busy rfl⟩
  | @failed task rest fault tasksEq stepEq =>
      -- each publication that survives the fault is one step
      obtain ⟨last, survivors⟩ := Discipline.completes_survivors session.line.unhindered rest
      refine ⟨_, ⟨last, survivors⟩, cost_lt_of_writerCost rfl rfl ?_⟩
      rw [tasksEq] at completes
      have lengthLe := completes.length_le
      have filterLe := List.length_filter_le Task.survives rest
      have writerLe :=
        writerCost_le { session with writer := some ⟨writer.number, .interrupt rest fault⟩ }
      rw [List.length_cons] at lengthLe
      omega
  | waits tasksEq stepEq =>
      obtain ⟨byte, -, -, -, rfl⟩ := Discipline.step_wait stepEq
      exact ⟨left, ⟨final, completes⟩, cost_lt_of_waits rfl rfl busy rfl⟩

/-- A reader that is served pays for the writer that it may wake: by a byte, or by its end. -/
theorem cost_lt_of_bytes {bytes : List UInt8}
    (bufferEq : session.channel.buffer = bytes ++ after.channel.buffer)
    (busy : session.readerCost = 3) (served : after.readerCost = 0 ∨ bytes ≠ []) :
    cost left after < cost left session := by
  have writerLe := writerCost_le after
  have readerLe := readerCost_le after
  have lengthEq := congrArg List.length bufferEq
  rw [List.length_append] at lengthEq
  simp only [cost, busy, lengthEq]
  rcases served with ended | something
  · omega
  · have := List.length_pos_iff.mpr something
    omega

/-- A move of the reader costs a byte, or what it can do without one. -/
theorem Limited.moveReader (limited : Limited left session) (orderly : session.Orderly)
    (moves : session.moveReader? = some after) :
    Limited left after ∧ cost left after < cost left session := by
  obtain ⟨reader, size, under, -, portionEq, awake, move⟩ := orderly.readerMove moves
  have busy := readerCost_eq under awake
  cases move with
  | waits served =>
      cases served with
      | waits isOpen silent =>
          let next := session.withChannel { session.channel with readerWaits := true }
          have waiting : next.readerCost = 2 := by
            simp only [next, readerCost, withChannel, channel, under, Option.isSome_some, if_true]
          have priced : cost left next =
              4 * left + 3 * session.channel.buffer.length + session.writerCost + 2 := by
            rw [cost, waiting]
            rfl
          refine ⟨limited, ?_⟩
          change cost left next < _
          rw [priced, cost, busy]
          omega
  | @receives channel bytes served =>
      obtain ⟨other, history, notices, added, receiveEq, otherEq⟩ :=
        session.received_eq channel reader bytes
      rw [receiveEq]
      refine ⟨limited, cost_lt_of_bytes served.buffer_eq busy ?_⟩
      cases other with
      | none => exact .inl rfl
      | some other => exact .inr (otherEq other rfl).2.2

/-! ## Runs -/

/-- A number of moves of the two sides, in any order. -/
inductive Moves (start : Session) : Nat → Session → Prop where
  | start : Moves start 0 start
  | move {count : Nat} {middle after : Session} (moves : Moves start count middle) (side : Side)
      (moveEq : middle.move? side = some after) : Moves start (count + 1) after

theorem Limited.move (limited : Limited left session) (orderly : session.Orderly)
    (moves : session.move? side = some after) :
    ∃ fewer, Limited fewer after ∧ cost fewer after < cost left session := by
  cases side with
  | writer => exact limited.moveWriter moves
  | reader => exact ⟨left, limited.moveReader orderly moves⟩

theorem Orderly.moves (orderly : start.Orderly) (moves : Moves start count after) :
    after.Orderly := by
  induction moves with
  | start => exact orderly
  | move _ side moveEq ih => exact ih.move moveEq

theorem Limited.moves (limited : Limited left start) (orderly : start.Orderly)
    (moves : Moves start count after) :
    ∃ fewer, Limited fewer after ∧ count + cost fewer after ≤ cost left start := by
  induction moves with
  | start => exact ⟨left, limited, Nat.le_of_eq (Nat.zero_add _)⟩
  | move earlier side moveEq ih =>
      obtain ⟨some, reached, paid⟩ := ih
      obtain ⟨fewer, next, costs⟩ := reached.move (orderly.moves earlier) moveEq
      exact ⟨fewer, next, by omega⟩

/-- Since every move costs something, every run is finite. -/
theorem Limited.finite (limited : Limited left start) (orderly : start.Orderly) :
    ∃ bound, ∀ count after, Moves start count after → count ≤ bound := by
  refine ⟨cost left start, fun count after moves => ?_⟩
  obtain ⟨_, _, paid⟩ := limited.moves orderly moves
  exact Nat.le_trans (Nat.le_add_right _ _) paid

theorem exists_settled {bound : Nat}
    (finite : ∀ count after, Moves start count after → count ≤ bound) :
    ∃ count after, Moves start count after ∧ after.Settled := by
  suffices goesOn : ∀ count, (∃ count after, Moves start count after ∧ after.Settled) ∨
      ∃ after, Moves start count after by
    refine (goesOn (bound + 1)).resolve_right fun ⟨after, moves⟩ => ?_
    exact Nat.not_succ_le_self bound (finite _ after moves)
  intro count
  induction count with
  | zero => exact .inr ⟨start, .start⟩
  | succ count ih =>
      rcases ih with settles | ⟨middle, moves⟩
      · exact .inl settles
      · by_cases stuck : ∀ side, middle.move? side = none
        · exact .inl ⟨count, middle, moves, settled_iff.mpr stuck⟩
        · rw [Classical.not_forall] at stuck
          obtain ⟨side, moving⟩ := stuck
          obtain ⟨after, moveEq⟩ := Option.ne_none_iff_exists'.mp moving
          exact .inr ⟨after, .move moves side moveEq⟩

end Session

end CookedMode
