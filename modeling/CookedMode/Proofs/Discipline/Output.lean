import CookedMode.Proofs.Discipline.Completion

/-!
# Output

An application puts out bytes one at a time, and each of them becomes one write to the sink.
Where line feeds are written after a carriage return, that return is the only one that was
added.  So what was put out can be read back from the stream that was written, whatever
returns and line feeds it is made of.  A sink that takes only so many writes cuts the output
exactly there.
-/

namespace CookedMode

/-- The bytes without the carriage return right before each line feed. -/
def dropReturns : List UInt8 → List UInt8
  | [] => []
  | byte :: rest =>
    if byte = 0x0D ∧ rest.head? = some 0x0A then dropReturns rest else byte :: dropReturns rest

namespace Attributes

variable (attributes : Attributes)

/-- The writes that come of some bytes of output, one for each. -/
def writes (data : List UInt8) : List (List UInt8) :=
  data.map fun byte =>
    if byte = 0x0A ∧ attributes.opost ∧ attributes.onlcr then [0x0D, 0x0A] else [byte]

/-- The stream of bytes that is written for some bytes of output. -/
def stream (data : List UInt8) : List UInt8 :=
  (attributes.writes data).flatten

@[simp] theorem length_writes (data : List UInt8) :
    (attributes.writes data).length = data.length := by
  simp [writes]

@[simp] theorem writes_append (data more : List UInt8) :
    attributes.writes (data ++ more) = attributes.writes data ++ attributes.writes more :=
  List.map_append

theorem take_writes (count : Nat) (data : List UInt8) :
    (attributes.writes data).take count = attributes.writes (data.take count) :=
  List.map_take.symm

theorem emit_eq_map_writes (data : List UInt8) :
    Task.emit attributes data = (attributes.writes data).map .write := by
  rw [Task.emit, writes, List.map_map]
  rfl

variable {attributes}

/-- Unless returns are added, the bytes are written as they are. -/
theorem stream_eq_self (plain : ¬(attributes.opost = true ∧ attributes.onlcr = true))
    (data : List UInt8) : attributes.stream data = data := by
  induction data with
  | nil => rfl
  | cons byte data ih =>
      have same : ¬(byte = 0x0A ∧ attributes.opost = true ∧ attributes.onlcr = true) :=
        fun adds => plain adds.2
      simp only [stream, writes, List.map_cons, same, if_false] at ih ⊢
      exact congrArg (byte :: ·) ih

section

variable (opost : attributes.opost = true) (onlcr : attributes.onlcr = true)

include opost onlcr

theorem stream_cons_lf (data : List UInt8) :
    attributes.stream (0x0A :: data) = 0x0D :: 0x0A :: attributes.stream data := by
  simp [stream, writes, opost, onlcr]

omit opost onlcr in
theorem stream_cons {byte : UInt8} (other : byte ≠ 0x0A) (data : List UInt8) :
    attributes.stream (byte :: data) = byte :: attributes.stream data := by
  simp [stream, writes, other]

/-- A stream with added returns does not begin with a line feed. -/
theorem head?_stream (data : List UInt8) : (attributes.stream data).head? ≠ some 0x0A := by
  cases data with
  | nil => simp [stream, writes]
  | cons byte data =>
      by_cases isLf : byte = 0x0A
      · rw [isLf, stream_cons_lf opost onlcr]
        simp
      · rw [stream_cons isLf]
        simpa using isLf

/-- Each return that was added stands right before a line feed, and no other one does. -/
theorem dropReturns_stream (data : List UInt8) :
    dropReturns (attributes.stream data) = data := by
  induction data with
  | nil => rfl
  | cons byte data ih =>
      by_cases isLf : byte = 0x0A
      · have added : (0x0D : UInt8) = 0x0D ∧
            (0x0A :: attributes.stream data).head? = some 0x0A := ⟨rfl, rfl⟩
        have kept : ¬((0x0A : UInt8) = 0x0D ∧
            (attributes.stream data).head? = some 0x0A) := fun isReturn => by cases isReturn.1
        rw [isLf, stream_cons_lf opost onlcr, dropReturns, if_pos added, dropReturns, if_neg kept,
          ih]
      · have kept : ¬(byte = 0x0D ∧ (attributes.stream data).head? = some 0x0A) :=
          fun isReturn => head?_stream opost onlcr data isReturn.2
        rw [stream_cons isLf, dropReturns, if_neg kept, ih]

end

/-- Whatever the attributes, different bytes are written as different streams. -/
theorem stream_injective (attributes : Attributes) : Function.Injective attributes.stream := by
  by_cases adds : attributes.opost = true ∧ attributes.onlcr = true
  · exact Function.LeftInverse.injective (dropReturns_stream adds.1 adds.2)
  · intro data other same
    rwa [stream_eq_self adds, stream_eq_self adds] at same

end Attributes

namespace Allowance

/-- How many of some calls in a row succeed. -/
def among (allowance : Allowance) (calls : Nat) : Nat :=
  match allowance with
  | none => calls
  | some most => min most calls

/-- What is left of an allowance after some calls that succeed. -/
def less (allowance : Allowance) (made : Nat) : Allowance :=
  allowance.map (· - made)

variable {allowance left : Allowance}

theorem among_le (allowance : Allowance) (calls : Nat) : allowance.among calls ≤ calls := by
  cases allowance with
  | none => exact Nat.le_refl calls
  | some most => exact Nat.min_le_right most calls

@[simp] theorem less_zero (allowance : Allowance) : allowance.less 0 = allowance := by
  cases allowance <;> rfl

theorem less_less (allowance : Allowance) (first second : Nat) :
    (allowance.less first).less second = allowance.less (first + second) := by
  cases allowance with
  | none => rfl
  | some most => exact congrArg some (Nat.sub_sub most first second)

theorem among_of_spend? (spent : allowance.spend? = some left) (calls : Nat) :
    allowance.among (calls + 1) = left.among calls + 1 := by
  cases allowance with
  | none => cases spent; rfl
  | some most =>
      cases most with
      | zero => cases spent
      | succ most => cases spent; exact Nat.add_min_add_right most calls 1

theorem less_of_spend? (spent : allowance.spend? = some left) (made : Nat) :
    allowance.less (made + 1) = left.less made := by
  cases allowance with
  | none => cases spent; rfl
  | some most =>
      cases most with
      | zero => cases spent
      | succ most => cases spent; exact congrArg some (Nat.add_sub_add_right most 1 made)

theorem among_of_spend?_eq_none (spent : allowance.spend? = none) (calls : Nat) :
    allowance.among calls = 0 := by
  cases allowance with
  | none => cases spent
  | some most =>
      cases most with
      | zero => exact Nat.zero_min calls
      | succ most => cases spent

theorem among_add {calls : Nat} (all : allowance.among calls = calls) (more : Nat) :
    allowance.among (calls + more) = calls + (allowance.less calls).among more := by
  cases allowance with
  | none => rfl
  | some most =>
      simp only [among, less, Option.map_some] at all ⊢
      omega

theorem among_add_of_lt {calls : Nat} (cut : allowance.among calls < calls) (more : Nat) :
    allowance.among (calls + more) = allowance.among calls := by
  cases allowance with
  | none => exact absurd cut (Nat.lt_irrefl calls)
  | some most =>
      simp only [among] at cut ⊢
      omega

end Allowance

namespace Discipline

variable {outlet : Type}

/-- The discipline once its sink has taken some writes. -/
def wrote (line : Discipline outlet) (writes : List (List UInt8)) : Discipline outlet :=
  { line with
    sink := { line.sink with writes := line.sink.writes.less writes.length }
    trace := line.trace ++ (writes.map Event.wrote).toArray }

@[simp] theorem wrote_nil (line : Discipline outlet) : line.wrote [] = line := by
  simp [wrote]

theorem wrote_wrote (line : Discipline outlet) (first second : List (List UInt8)) :
    (line.wrote first).wrote second = line.wrote (first ++ second) := by
  simp [wrote, Allowance.less_less]

theorem masterBytes_wrote (line : Discipline outlet) (writes : List (List UInt8)) :
    Event.masterBytes (line.wrote writes).trace.toList =
      Event.masterBytes line.trace.toList ++ writes.flatten := by
  simp only [wrote, Event.masterBytes, Array.toList_append, List.flatMap_append, List.flatMap_map,
    List.flatMap_id']

variable [Outlet outlet]

/-- Writes are done in order until one fails, and the others are dropped then. -/
theorem run_writes (line : Discipline outlet) (writes : List (List UInt8)) {most : Nat}
    (enough : writes.length ≤ most) :
    line.run most { tasks := writes.map .write } =
      (line.wrote (writes.take (line.sink.writes.among writes.length)),
        { tasks := []
          fault :=
            if line.sink.writes.among writes.length < writes.length then some .sinkClosed
            else none }) := by
  induction writes generalizing line most with
  | nil =>
      have nothing := Nat.le_zero.mp (line.sink.writes.among_le 0)
      cases most <;> simp [run, advance, nothing]
  | cons bytes writes ih =>
      obtain ⟨most, rfl⟩ := Nat.exists_eq_add_of_le' (Nat.one_le_of_lt enough)
      cases spent : line.sink.writes.spend? with
      | none =>
          have stepEq : line.step (.write bytes) = .fail .sinkClosed := by
            simp only [step, Sink.write?, spent, Option.map_none]
          have dropped : (writes.map Task.write).filter Task.survives = [] := by
            simp [List.filter_eq_nil_iff, Task.survives]
          have cut := Allowance.among_of_spend?_eq_none spent (bytes :: writes).length
          have some : 0 < (bytes :: writes).length := Nat.succ_pos writes.length
          rw [cut, if_pos some, List.take_zero, wrote_nil, List.map_cons]
          simp only [run, advance, stepEq, Call.interrupt, dropped]
          cases most <;> rfl
      | some left =>
          have stepEq : line.step (.write bytes) = .next (line.wrote [bytes]) [] := by
            have one : line.sink.writes.less 1 = left := by
              rw [Allowance.less_of_spend? spent 0, Allowance.less_zero]
            simp [step, Sink.write?, spent, log, wrote, one]
          have leftEq : (line.wrote [bytes]).sink.writes = left := by
            simp only [wrote, List.length_singleton, Allowance.less_of_spend? spent 0,
              Allowance.less_zero]
          have rest := ih (line.wrote [bytes]) (Nat.le_of_succ_le_succ enough)
          rw [leftEq] at rest
          rw [List.length_cons, Allowance.among_of_spend? spent, List.take_succ_cons,
            List.map_cons]
          simp only [run, advance, stepEq, List.nil_append, rest, wrote_wrote,
            List.singleton_append, Nat.add_lt_add_iff_right]

/-- Output comes to an end, well or not, as far as the sink takes its writes. -/
theorem run_output (line : Discipline outlet) (data : List UInt8) {most : Nat}
    (enough : data.length < most) :
    line.run most (.ofAction (.output data)) =
      (line.wrote (line.attributes.writes (data.take (line.sink.writes.among data.length))),
        { tasks := []
          fault :=
            if line.sink.writes.among data.length < data.length then some .sinkClosed
            else none }) := by
  obtain ⟨most, rfl⟩ := Nat.exists_eq_add_of_le' (Nat.one_le_of_lt enough)
  have writesFit : (line.attributes.writes data).length ≤ most := by
    rw [Attributes.length_writes]
    exact Nat.le_of_lt_succ enough
  have written := run_writes line _ writesFit
  rw [Attributes.length_writes, Attributes.take_writes] at written
  simp only [run, advance, Call.ofAction, step, begin, Attributes.emit_eq_map_writes,
    List.append_nil]
  exact written

theorem length_lt_moves (data : List UInt8) :
    data.length < moves (Call.ofAction (.output data)).size := by
  have sizeEq : (Call.ofAction (.output data)).size = data.length := rfl
  rw [moves, sizeEq]
  omega

theorem perform_output (line : Discipline outlet) (data : List UInt8) :
    line.perform (.output data) =
      (line.wrote (line.attributes.writes (data.take (line.sink.writes.among data.length))),
        if line.sink.writes.among data.length < data.length then some .sinkClosed else none) :=
  perform_of_run (run_output line data (length_lt_moves data))

/-- To put out more bytes is to put them out after the others, unless those have failed. -/
theorem perform_output_append (line : Discipline outlet) (data more : List UInt8) :
    line.perform (.output (data ++ more)) =
      match line.perform (.output data) with
      | (after, none) => after.perform (.output more)
      | (after, some fault) => (after, some fault) := by
  have short := line.sink.writes.among_le data.length
  rw [perform_output line (data ++ more), perform_output line data, List.length_append]
  rcases Nat.lt_or_eq_of_le short with cut | all
  · rw [if_pos cut, Allowance.among_add_of_lt cut, if_pos (Nat.lt_add_right _ cut),
      List.take_append_of_le_length short]
  · rw [if_neg (Nat.not_lt.mpr (Nat.le_of_eq all.symm)), Allowance.among_add all, all,
      List.take_length, List.take_length_add_append, Attributes.writes_append]
    simp only [perform_output, wrote_wrote, Nat.add_lt_add_iff_left]
    simp only [wrote, Attributes.length_writes]

/-- Output loses nothing and fails at a clean cut.  Each byte is one write, in order, and
nothing else happens.  If the sink fails at one of the writes, it holds exactly what was
written for the bytes before, and its failure is that of the output.  Different bytes are
written as different streams; where returns are added, dropping the one right before each line
feed gives the bytes back.  To put out some bytes and then others is to put out all of them. -/
theorem output_loses_nothing (line : Discipline outlet) (data : List UInt8) :
    let taken := line.sink.writes.among data.length
    let after := (line.perform (.output data)).1
    let fault := (line.perform (.output data)).2
    after = line.wrote (line.attributes.writes (data.take taken)) ∧
    fault = (if taken < data.length then some .sinkClosed else none) ∧
    Event.masterBytes after.trace.toList =
      Event.masterBytes line.trace.toList ++ line.attributes.stream (data.take taken) ∧
    Function.Injective line.attributes.stream ∧
    (line.attributes.opost = true → line.attributes.onlcr = true →
      dropReturns (line.attributes.stream data) = data) ∧
    ∀ more, line.perform (.output (data ++ more)) =
      match fault with
      | none => after.perform (.output more)
      | some cause => (after, some cause) := by
  intro taken after fault
  have performEq := line.perform_output data
  have afterEq : after = line.wrote (line.attributes.writes (data.take taken)) :=
    congrArg Prod.fst performEq
  have faultEq : fault = if taken < data.length then some .sinkClosed else none :=
    congrArg Prod.snd performEq
  refine ⟨afterEq, faultEq, ?_, line.attributes.stream_injective,
    fun opost onlcr => Attributes.dropReturns_stream opost onlcr data, fun more => ?_⟩
  · rw [afterEq]
    exact line.masterBytes_wrote _
  · rw [perform_output_append]
    rcases pairEq : line.perform (.output data) with ⟨reached, cause⟩
    have reachedEq : after = reached := congrArg Prod.fst pairEq
    have causeEq : fault = cause := congrArg Prod.snd pairEq
    rw [reachedEq, causeEq]
    cases cause <;> rfl

/-- A return, a line feed and a letter for a sink that takes two writes: it holds the return of
the application and the line feed with the return that was added, and the letter is lost. -/
theorem output_loses_nothing_cut :
    let line : Discipline Tape :=
      { attributes := .cooked, sink := { writes := some 2 }, outlet := {} }
    line.attributes.opost = true ∧ line.attributes.onlcr = true ∧
      (line.perform (.output [0x0D, 0x0A, 0x61])).1.trace =
        #[.wrote [0x0D], .wrote [0x0D, 0x0A]] ∧
      (line.perform (.output [0x0D, 0x0A, 0x61])).2 = some .sinkClosed ∧
      dropReturns [0x0D, 0x0D, 0x0A, 0x61] = [0x0D, 0x0A, 0x61] := by
  intro line
  obtain ⟨afterEq, faultEq, -, -, recovers, -⟩ := output_loses_nothing line [0x0D, 0x0A, 0x61]
  exact ⟨rfl, rfl, by rw [afterEq]; rfl, faultEq, recovers rfl rfl⟩

end Discipline

end CookedMode
