import CookedMode.Proofs.Discipline.Failure
import CookedMode.Proofs.Discipline.Output

/-!
# Echo and output

A typed byte is echoed on one path, and a byte of the application is written on another.
Both expand a byte in the same way: what typing writes to the sink, but for the indicators
of signals, is what the application would write if it put out the bytes that typing delivers
to it.  Each of these bytes is echoed and flushed before it is delivered, and a byte that is
dropped is not echoed.  Without echo only the indicators are written.
-/

namespace CookedMode

namespace Event

/-- Whether an event is a write of a caret and one more byte, which indicates a signal. -/
def isIndicator : Event → Bool
  | wrote [first, _] => first == 0x5E
  | _ => false

/-- The bytes that the sink was given in the course of some events, but for indicators. -/
def dataBytes (events : List Event) : List UInt8 :=
  masterBytes (events.filter fun event => !event.isIndicator)

@[simp] theorem dataBytes_append (first second : List Event) :
    dataBytes (first ++ second) = dataBytes first ++ dataBytes second := by
  rw [dataBytes, List.filter_append, masterBytes, List.flatMap_append]
  rfl

theorem dataBytes_wrote {bytes : List UInt8} (isData : isIndicator (.wrote bytes) = false)
    (rest : List Event) : dataBytes (.wrote bytes :: rest) = bytes ++ dataBytes rest := by
  rw [dataBytes, List.filter_cons_of_pos (by simp [isData])]
  rfl

/-- Where a delivery comes after events without any, it comes in what follows them. -/
theorem exists_past (quiet : List Event) {rest first later : List Event} {byte : UInt8}
    (undelivered : .delivered byte ∉ quiet)
    (eventsEq : quiet ++ rest = first ++ .delivered byte :: later) :
    ∃ past, first = quiet ++ past ∧ rest = past ++ .delivered byte :: later := by
  rcases List.append_eq_append_iff.mp eventsEq with found | ⟨left, quietEq, laterEq⟩
  · exact found
  · cases left with
    | nil => exact ⟨[], by simpa using quietEq.symm, laterEq.symm⟩
    | cons event left =>
        obtain ⟨rfl, -⟩ := List.cons_eq_cons.mp laterEq
        exact absurd (by simp [quietEq]) undelivered

end Event

/-- Whether typing a byte has nothing pass on: it acts as a control character that discards
it, or it is a carriage return that is ignored. -/
def Attributes.Discards (attributes : Attributes) (byte : UInt8) : Prop :=
  (∃ control, attributes.acting? byte = some control ∧ control.discards = true) ∨
    (byte = cr ∧ attributes.igncr = true)

theorem Attributes.isIndicator_expand (attributes : Attributes) (byte : UInt8) :
    Event.isIndicator (.wrote (attributes.expand byte)) = false := by
  unfold expand
  split <;> rfl

namespace Transcript

theorem echo_eq (attributes : Attributes) (byte : UInt8) :
    echo attributes byte =
      if attributes.echo then [.wrote (attributes.expand byte), .flushed] else [] := by
  unfold echo Attributes.expand cr lf
  grind

/-- Events in which indicators and notes of signals stand between bytes that are echoed, if
the attributes say so, and then delivered. -/
inductive Typed (attributes : Attributes) : List Event → Prop
  | nil : Typed attributes []
  | indicates (byte : UInt8) {rest : List Event} (typed : Typed attributes rest) :
      Typed attributes (.wrote [0x5E, byte] :: .flushed :: rest)
  | tells (name : String) (signal : Signal) {rest : List Event}
      (typed : Typed attributes rest) : Typed attributes (.told name signal :: rest)
  | passes (byte : UInt8) {rest : List Event} (typed : Typed attributes rest) :
      Typed attributes (echo attributes byte ++ .delivered byte :: rest)

namespace Typed

variable {attributes : Attributes} {first second events : List Event}

theorem append (typed : Typed attributes first) (later : Typed attributes second) :
    Typed attributes (first ++ second) := by
  induction typed with
  | nil => exact later
  | indicates byte _ ih => exact ih.indicates byte
  | tells name signal _ ih => exact ih.tells name signal
  | passes byte _ ih =>
      rw [List.append_assoc]
      exact ih.passes byte

theorem caret (attributes : Attributes) (byte : UInt8) :
    Typed attributes (caret byte) := by
  unfold Transcript.caret
  split
  · exact Typed.nil.indicates _
  · exact .nil

theorem heard (attributes : Attributes) (setting : Setting) (signal : Signal) :
    Typed attributes (heard setting signal) := by
  unfold Transcript.heard
  split
  · exact .nil
  · case h_2 listener _ =>
      unfold Listener.heard
      induction listener.leaves with
      | nil => exact .nil
      | cons leaf leaves ih => exact ih.tells leaf.1 signal

theorem passage (attributes : Attributes) (byte : UInt8) :
    Typed attributes (passage attributes byte) := by
  unfold Transcript.passage
  split
  · exact .nil
  · exact Typed.nil.passes _

theorem block (setting : Setting) (byte : UInt8) :
    Typed setting.attributes (block setting byte) := by
  have indicated (signal : Signal) :
      Typed setting.attributes (Transcript.caret byte ++ Transcript.heard setting signal) :=
    (caret setting.attributes byte).append (heard setting.attributes setting signal)
  unfold Transcript.block
  split
  · exact passage setting.attributes byte
  · exact indicated .int
  · exact indicated .quit
  · exact indicated .susp
  · exact (heard setting.attributes setting .info).append (passage setting.attributes byte)

theorem blocks (setting : Setting) (data : List UInt8) :
    Typed setting.attributes (data.flatMap (Transcript.block setting)) := by
  induction data with
  | nil => exact .nil
  | cons byte data ih => exact (block setting byte).append ih

/-- With echo, the bytes that are delivered are written as output would be. -/
theorem dataBytes_eq (typed : Typed attributes events) (echoes : attributes.echo = true) :
    Event.dataBytes events = (Event.deliveredBytes events).flatMap attributes.expand := by
  induction typed with
  | nil => rfl
  | indicates byte _ ih => exact ih
  | tells name signal _ ih => exact ih
  | @passes byte rest _ ih =>
      have echoed : Event.dataBytes (echo attributes byte) = attributes.expand byte := by
        rw [echo_eq, if_pos echoes, Event.dataBytes_wrote (attributes.isIndicator_expand byte)]
        exact List.append_nil _
      rw [Event.dataBytes_append, echoed, Event.deliveredBytes_append, deliveredBytes_echo]
      exact congrArg (attributes.expand byte ++ ·) ih

/-- With echo, a byte is echoed and flushed right before it is delivered. -/
theorem echoed_of_delivered (typed : Typed attributes events) (echoes : attributes.echo = true)
    {byte : UInt8} {rest : List Event} (eventsEq : events = first ++ .delivered byte :: rest) :
    ∃ earlier, first = earlier ++ [.wrote (attributes.expand byte), .flushed] := by
  have onward {past : List Event} (quiet : List Event)
      (ih : ∃ earlier, past = earlier ++ [.wrote (attributes.expand byte), .flushed]) :
      ∃ earlier, quiet ++ past = earlier ++ [.wrote (attributes.expand byte), .flushed] := by
    obtain ⟨earlier, rfl⟩ := ih
    exact ⟨quiet ++ earlier, by rw [List.append_assoc]⟩
  induction typed generalizing first with
  | nil => simp at eventsEq
  | @indicates other others _ ih =>
      obtain ⟨past, rfl, othersEq⟩ :=
        Event.exists_past [.wrote [0x5E, other], .flushed] (by simp) eventsEq
      exact onward _ (ih othersEq)
  | @tells name signal others _ ih =>
      obtain ⟨past, rfl, othersEq⟩ :=
        Event.exists_past [.told name signal] (by simp) eventsEq
      exact onward _ (ih othersEq)
  | @passes other others _ ih =>
      have undelivered : .delivered byte ∉ echo attributes other := by simp [echo_eq, echoes]
      obtain ⟨past, rfl, othersEq⟩ := Event.exists_past _ undelivered eventsEq
      cases past with
      | nil =>
          obtain ⟨same, -⟩ := List.cons_eq_cons.mp othersEq
          cases same
          exact ⟨[], by simp [echo_eq, echoes]⟩
      | cons event past =>
          obtain ⟨-, othersEq⟩ := List.cons_eq_cons.mp othersEq
          exact onward _ (onward [event] (ih othersEq))

/-- Without echo, only indicators are written. -/
theorem isIndicator_of_wrote (typed : Typed attributes events) (silent : attributes.echo = false)
    {bytes : List UInt8} (wrote : .wrote bytes ∈ events) :
    Event.isIndicator (.wrote bytes) = true := by
  induction typed with
  | nil => cases wrote
  | indicates byte _ ih =>
      rcases List.mem_cons.mp wrote with same | later
      · cases same
        rfl
      · exact ih (by simpa using later)
  | tells name signal _ ih => exact ih (by simpa using wrote)
  | passes byte _ ih => exact ih (by simpa [echo_eq, silent] using wrote)

end Typed

theorem dataBytes_caret (byte : UInt8) : Event.dataBytes (caret byte) = [] := by
  unfold caret
  split <;> rfl

theorem dataBytes_heard (setting : Setting) (signal : Signal) :
    Event.dataBytes (heard setting signal) = [] := by
  unfold heard
  split
  · rfl
  · case h_2 listener _ =>
      unfold Listener.heard
      induction listener.leaves with
      | nil => rfl
      | cons leaf leaves ih => exact ih

theorem passage_of_igncr {attributes : Attributes} (igncr : attributes.igncr = true) :
    passage attributes cr = [] := by
  simp [passage, translate?, igncr, cr]

/-- A byte that is dropped is neither echoed as data nor delivered. -/
theorem block_of_discards {setting : Setting} {byte : UInt8}
    (discards : setting.attributes.Discards byte) :
    Event.dataBytes (block setting byte) = [] ∧
      Event.deliveredBytes (block setting byte) = [] := by
  have indicated (signal : Signal) :
      Event.dataBytes (caret byte ++ heard setting signal) = [] ∧
        Event.deliveredBytes (caret byte ++ heard setting signal) = [] := by
    simp [dataBytes_caret, dataBytes_heard, deliveredBytes_caret, deliveredBytes_heard]
  unfold block
  rw [Attributes.Discards, Discipline.acting?_eq_control?] at discards
  cases acts : control? setting.attributes byte with
  | none =>
      rcases discards with ⟨control, acting, -⟩ | ⟨rfl, igncr⟩
      · cases acts.symm.trans acting
      · rw [passage_of_igncr igncr]
        exact ⟨rfl, rfl⟩
  | some control =>
      cases control with
      | intr => exact indicated .int
      | quit => exact indicated .quit
      | susp => exact indicated .susp
      | status =>
          rcases discards with ⟨other, acting, discarding⟩ | ⟨rfl, igncr⟩
          · cases acts.symm.trans acting
            cases discarding
          · simp only [passage_of_igncr igncr, List.append_nil]
            exact ⟨dataBytes_heard setting .info, deliveredBytes_heard setting .info⟩

/-- Nothing comes after a delivery in the block of a byte. -/
theorem eq_nil_of_block {setting : Setting} {byte given : UInt8} {part left : List Event}
    (blockEq : block setting byte = part ++ .delivered given :: left) : left = [] := by
  cases left with
  | nil => rfl
  | cons event left =>
      have longer : block setting byte = (part ++ [.delivered given]) ++ event :: left := by
        rw [blockEq, List.append_assoc]
        rfl
      have quiet := deliveredBytes_of_block longer
      simp at quiet

end Transcript

/-! ## Typing and output -/

namespace Discipline

variable {line : Discipline Tape}

/-- Where the sink takes everything, only a delivery is refused, and only by an outlet that
does not take everything. -/
theorem exists_delivered_of_refused {made : List Event} {call : Event} {fault : Fault}
    (sink : line.sink = {}) (refused : line.refusal? made call = some fault) :
    ∃ byte, call = .delivered byte ∧ fault = .channelClosed ∧ line.outlet ≠ {} := by
  cases call with
  | wrote bytes => simp [refusal?, sink, Allowance.covers] at refused
  | flushed => simp [refusal?, sink, Allowance.covers] at refused
  | delivered byte =>
      simp only [refusal?] at refused
      split at refused <;> cases refused
      case delivered.isFalse.refl uncovered =>
        refine ⟨byte, rfl, rfl, fun outlet => uncovered ?_⟩
        rw [outlet]
        rfl
  | published | closed | told => cases refused

theorem ends_input (line : Discipline Tape) (data : List UInt8)
    (harmless : line.setting.Harmless) :
    line.Ends (.input data)
      ((untilRefused line.refusal? [] (Transcript.events line.setting data)).1 ++ [.published])
      (untilRefused line.refusal? [] (Transcript.events line.setting data)).2 := by
  obtain ⟨moves, completes⟩ := Yields.types line.setting data harmless line.trace.toList
  have outcome := completes.outcome rfl (unhindered_eq_free line) (.refl line)
  exact outcome.ends (Transcript.published_not_mem_events line.setting data)

theorem ends_output (line : Discipline Tape) (data : List UInt8) (sink : line.sink = {}) :
    line.Ends (.output data)
      (data.map fun byte => .wrote (line.attributes.expand byte)) none := by
  have all : line.sink.writes.among data.length = data.length := by
    rw [sink]
    rfl
  refine ⟨line.wrote (line.attributes.writes data), data.length + 1, ?_, fun most enough => ?_⟩
  · simp only [wrote, Attributes.writes, Array.toList_append, List.map_map]
    rfl
  · rw [run_output line data enough, all, List.take_length, if_neg (Nat.lt_irrefl _)]

/-- How feeding bytes ends where the sink takes everything: with all calls made, or with the
fault of a delivery that the outlet refuses, which would have been the next call. -/
inductive Ending (line : Discipline Tape) (data : List UInt8) (calls : List Event) :
    List Event → Option Fault → Prop
  | all (callsEq : calls = data.flatMap (Transcript.block line.setting)) :
      Ending line data calls calls none
  | refused {made : List Event} (consumed : List UInt8) (byte : UInt8)
      (within : consumed <+: data) (hinders : line.outlet ≠ {})
      (callsEq : calls = consumed.flatMap (Transcript.block line.setting))
      (madeEq : calls = made ++ [.delivered byte]) :
      Ending line data calls made (some .channelClosed)

namespace Ending

variable {data : List UInt8} {calls made : List Event} {fault : Option Fault}

theorem typed (ending : Ending line data calls made fault) :
    Transcript.Typed line.attributes calls := by
  cases ending with
  | all callsEq => rw [callsEq]; exact .blocks line.setting data
  | refused consumed _ _ _ callsEq => rw [callsEq]; exact .blocks line.setting consumed

theorem dataBytes_made (ending : Ending line data calls made fault) :
    Event.dataBytes made = Event.dataBytes calls := by
  cases ending with
  | all => rfl
  | refused _ byte _ _ _ madeEq =>
      rw [madeEq, Event.dataBytes_append]
      exact (List.append_nil _).symm

theorem made_subset (ending : Ending line data calls made fault) : made ⊆ calls := by
  cases ending with
  | all => exact List.Subset.refl _
  | refused _ _ _ _ _ madeEq => rw [madeEq]; exact List.subset_append_left _ _

end Ending

/-- Where the sink takes everything, feeding bytes ends in one of two ways. -/
theorem exists_ending (line : Discipline Tape) (data : List UInt8) (sink : line.sink = {})
    (constant : line.setting.Constant) :
    ∃ calls made fault, line.Ends (.input data) (made ++ [.published]) fault ∧
      Ending line data calls made fault := by
  have ends := line.ends_input data constant.harmless
  obtain ⟨made, madeEq, -, all, cut⟩ :=
    of_untilRefused line.refusal? [] (Transcript.events line.setting data)
  rw [madeEq, List.nil_append] at ends
  cases faultEq : (untilRefused line.refusal? [] (Transcript.events line.setting data)).2 with
  | none =>
      rw [faultEq] at ends
      refine ⟨made, made, none, ends, .all ?_⟩
      rw [all faultEq, Transcript.events_of_constant constant]
  | some cause =>
      rw [faultEq] at ends
      obtain ⟨call, rest, callsEq, isRefused⟩ := cut cause faultEq
      obtain ⟨byte, rfl, rfl, hinders⟩ := exists_delivered_of_refused sink isRefused
      obtain ⟨before, typed, behind, part, left, rfl, rfl, blockEq⟩ :=
        Transcript.exists_block callsEq
      rw [Transcript.events_of_constant constant] at ends
      rw [Transcript.final_of_constant constant] at blockEq
      obtain rfl := Transcript.eq_nil_of_block blockEq
      refine ⟨_, _, _, ends, .refused (before ++ [typed]) byte ?_ hinders rfl ?_⟩
      · exact ⟨behind, by rw [List.append_assoc]; rfl⟩
      · rw [List.flatMap_append, List.flatMap_singleton, blockEq, List.append_assoc]

/-- With echo, what typing writes is what output would write for the bytes that it delivers,
and each of these is echoed and flushed before. -/
structure Echoed (line : Discipline Tape) (calls made : List Event) : Prop where
  agrees : ∃ writes, line.Ends (.output (Event.deliveredBytes calls)) writes none ∧
    Event.dataBytes made = Event.masterBytes writes
  before : ∀ first byte rest, calls = first ++ .delivered byte :: rest →
    ∃ earlier, first = earlier ++ [.wrote (line.attributes.expand byte), .flushed]

theorem Ending.echoed {data : List UInt8} {calls made : List Event} {fault : Option Fault}
    (ending : Ending line data calls made fault) (sink : line.sink = {})
    (echoes : line.attributes.echo = true) : Echoed line calls made where
  agrees := by
    refine ⟨_, ends_output line _ sink, ?_⟩
    rw [ending.dataBytes_made, ending.typed.dataBytes_eq echoes, Event.masterBytes,
      List.flatMap_map]
  before _ _ _ callsEq := ending.typed.echoed_of_delivered echoes callsEq

/-- Echo agrees with output.  Typing under constant attributes, on a sink that takes
everything, comes to an end with all its calls made, but for a delivery that the outlet
refuses.  With echo, what it writes, but for indicators, is what output would write for the
bytes that it delivers, and each of these is echoed and flushed before it is delivered.
Without echo it writes indicators only.  A byte that is dropped is neither echoed as data nor
delivered. -/
theorem echo_agrees_with_output (line : Discipline Tape) (data : List UInt8)
    (sink : line.sink = {}) (constant : line.setting.Constant) :
    ∃ calls made fault, line.Ends (.input data) (made ++ [.published]) fault ∧
      Ending line data calls made fault ∧
      (line.attributes.echo = true → Echoed line calls made) ∧
      (line.attributes.echo = false →
        ∀ bytes, .wrote bytes ∈ made → Event.isIndicator (.wrote bytes) = true) ∧
      ∀ byte, line.attributes.Discards byte →
        Event.dataBytes (Transcript.block line.setting byte) = [] ∧
          Event.deliveredBytes (Transcript.block line.setting byte) = [] := by
  obtain ⟨calls, made, fault, ends, ending⟩ := line.exists_ending data sink constant
  refine ⟨calls, made, fault, ends, ending, ending.echoed sink, fun silent bytes wrote => ?_,
    fun byte => @Transcript.block_of_discards line.setting byte⟩
  exact ending.typed.isIndicator_of_wrote silent (ending.made_subset wrote)

/-- A letter, an interrupt, a carriage return and a status query, on a terminal that turns
carriage returns into line feeds and these into both: the interrupt is indicated and dropped,
and of the rest the application would have put out the same bytes. -/
theorem echo_agrees_with_output_cooked :
    let line : Discipline Tape :=
      { attributes := .cooked, listener := some (.recorder "app"), outlet := {} }
    line.sink = {} ∧ line.setting.Constant ∧
      ∃ made, line.Ends (.input [0x61, 0x03, 0x0D, 0x14]) (made ++ [.published]) none ∧
        Event.masterBytes made = [0x61, 0x5E, 0x43, 0x0D, 0x0A, 0x14] ∧
        ∃ writes, line.Ends (.output [0x61, 0x0A, 0x14]) writes none ∧
          Event.masterBytes writes = Event.dataBytes made := by
  intro line
  have constant : line.setting.Constant := by
    intro listener registered
    cases registered
    exact .leaf fun _ => rfl
  obtain ⟨calls, made, fault, ends, ending, echoed, -⟩ :=
    echo_agrees_with_output line [0x61, 0x03, 0x0D, 0x14] rfl constant
  obtain ⟨writes, puts, agrees⟩ := (echoed rfl).agrees
  cases ending with
  | all callsEq =>
      subst callsEq
      exact ⟨rfl, constant, _, ends, rfl, writes, puts, agrees.symm⟩
  | refused _ _ _ hinders => exact absurd rfl hinders

end Discipline

end CookedMode
