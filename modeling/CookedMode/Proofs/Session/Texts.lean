import CookedMode.Proofs.Session.Schedule
import CookedMode.Proofs.Text.Utf8

/-!
# Typed texts

In cooked mode, a text that is typed as its bytes and a carriage return is read as that
text, unless it holds a line end or a byte that raises a signal in its place.
-/

namespace CookedMode

/-- The bytes that in cooked mode end a line or are discarded for a signal. -/
def reservedBytes : List UInt8 := [0x0D, 0x0A, 0x03, 0x1A, 0x1C]

/-- A text that can be typed as it is. -/
def Typable (text : String) : Prop :=
  ∀ byte ∈ Utf8.encode text, byte ∉ reservedBytes

instance : DecidablePred Typable :=
  fun text => List.decidableBAll (· ∉ reservedBytes) (Utf8.encode text)

/-- The bytes that are typed for some texts. -/
def typed (texts : List String) : List UInt8 :=
  texts.flatMap fun text => Utf8.encode text ++ [0x0D]

/-- The bytes of the line that is delivered for a text. -/
def delivered (text : String) : List UInt8 :=
  Utf8.encode text ++ [0x0A]

namespace Transcript

theorem deliveredBytes_block {setting : Setting} (cooked : setting.attributes = .cooked)
    {byte : UInt8} (free : byte ∉ reservedBytes) :
    Event.deliveredBytes (block setting byte) = [byte] := by
  simp only [reservedBytes, List.mem_cons, List.not_mem_nil, or_false, not_or] at free
  obtain ⟨notCr, notLf, notIntr, notSusp, notQuit⟩ := free
  have passage : Event.deliveredBytes (passage .cooked byte) = [byte] := by
    simp [passage, translate?, notCr, notLf, deliveredBytes_echo]
  have control : control? .cooked byte = none ∨ control? .cooked byte = some .status := by
    simp only [control?, Attributes.cooked, Attributes.cookedControl]
    grind
  unfold block
  rw [cooked]
  rcases control with eq | eq <;> simp [eq, passage, deliveredBytes_heard]

theorem deliveredBytes_block_cr {setting : Setting} (cooked : setting.attributes = .cooked) :
    Event.deliveredBytes (block setting 0x0D) = [0x0A] := by
  unfold block
  rw [cooked]
  rfl

theorem deliveredBytes_flatMap_block {setting : Setting} (cooked : setting.attributes = .cooked)
    {data : List UInt8} (free : ∀ byte ∈ data, byte ∉ reservedBytes) :
    Event.deliveredBytes (data.flatMap (block setting)) = data := by
  induction data with
  | nil => rfl
  | cons byte data ih =>
      rw [List.flatMap_cons, Event.deliveredBytes_append,
        deliveredBytes_block cooked (free byte (by simp)),
        ih fun other member => free other (by simp [member])]
      rfl

/-- Typed texts deliver their lines. -/
theorem deliveredBytes_typed {setting : Setting} (cooked : setting.attributes = .cooked)
    {texts : List String} (typable : ∀ text ∈ texts, Typable text) :
    Event.deliveredBytes ((typed texts).flatMap (block setting)) = texts.flatMap delivered := by
  induction texts with
  | nil => rfl
  | cons text texts ih =>
      have first := deliveredBytes_flatMap_block cooked (typable text (by simp))
      have others := ih fun other member => typable other (by simp [member])
      rw [typed, List.flatMap_cons, List.flatMap_append, List.flatMap_append,
        Event.deliveredBytes_append, Event.deliveredBytes_append, first, List.flatMap_singleton,
        deliveredBytes_block_cr cooked]
      exact congrArg _ others

end Transcript

theorem lf_not_mem_encode {text : String} (typable : Typable text) : lf ∉ Utf8.encode text :=
  fun member => typable lf member (by decide)

theorem rawLines_delivered {texts : List String} (typable : ∀ text ∈ texts, Typable text) :
    rawLines (texts.flatMap delivered) = texts.map delivered := by
  induction texts with
  | nil => rfl
  | cons text texts ih =>
      have whole := lf_not_mem_encode (typable text (by simp))
      rw [List.flatMap_cons, delivered, List.append_assoc]
      change rawLines (Utf8.encode text ++ lf :: texts.flatMap delivered) = _
      rw [rawLines_line whole, ih fun other member => typable other (by simp [member])]
      rfl

/-- The line of a text is read as the text. -/
theorem lineText_delivered {text : String} (typable : Typable text) :
    lineText (delivered text) = text := by
  have stripped : stripLineEnds (delivered text) = Utf8.encode text := by
    have kept : (Utf8.encode text).reverse.dropWhile (fun byte => byte == cr || byte == lf) =
        (Utf8.encode text).reverse := by
      cases bytesEq : (Utf8.encode text).reverse with
      | nil => rfl
      | cons byte bytes =>
          have member : byte ∈ Utf8.encode text := by
            rw [← List.mem_reverse, bytesEq]
            exact List.mem_cons_self
          have free := typable byte member
          apply List.dropWhile_cons_of_neg
          simp only [reservedBytes, List.mem_cons, List.not_mem_nil, or_false, not_or] at free
          simp [cr, lf, free]
    rw [stripLineEnds, delivered, List.reverse_append]
    change (List.dropWhile _ (lf :: (Utf8.encode text).reverse)).reverse = _
    rw [List.dropWhile_cons_of_pos (by decide), kept, List.reverse_reverse]
  rw [lineText, stripped, Utf8.decode_encode]

theorem map_lineText_delivered {texts : List String} (typable : ∀ text ∈ texts, Typable text) :
    (texts.map delivered).map lineText = texts := by
  rw [List.map_map]
  exact (List.map_congr_left fun text member => lineText_delivered (typable text member)).trans
    (List.map_id _)

namespace Feeding

variable {total future : List Event} {before : History} {left : Nat}
variable {lines : List (List UInt8)} {feeding : Feeding}

theorem Flows.goesOn (flows : Flows total before left future lines feeding)
    (isOpen : .closed ∉ total) : feeding.session.ended = false := by
  cases ended : feeding.session.ended with
  | false => rfl
  | true =>
      have closed := flows.closed.mp (flows.reads.ending ended).2.2
      rw [flows.trace] at isOpen
      exact absurd (List.mem_append_left _ closed) isOpen

theorem Flows.linesRead_eq (flows : Flows total before left future lines feeding)
    (isOpen : .closed ∉ total) :
    feeding.session.linesRead = (lines.map lineText).map some ∧
      lines <+: rawLines (Event.deliveredBytes total) := by
  have read := flows.reads.read
  rw [flows.goesOn isOpen] at read
  refine ⟨by simpa [Function.comp_def] using read, ?_⟩
  rw [flows.reads.data]
  exact List.prefix_append _ _

/-- When neither side can move, and a publication was the last that happened, the reader was
given all lines, except for one that has no end yet. -/
theorem Flows.stuck_of_published (flows : Flows total before left future lines feeding)
    (isOpen : .closed ∉ total) (last : total.getLast? = some .published)
    (stuck : feeding.Stuck) :
    lf ∉ feeding.session.held ∧
      rawLines (Event.deliveredBytes total) = lines ++ rawLines feeding.session.held := by
  obtain ⟨idle, done, reader⟩ := flows.stuck stuck
  obtain ⟨traceEq, futureEq⟩ := flows.trace_eq idle done
  have silent : feeding.session.channel.published = 0 := by
    rcases reader with ⟨-, ended⟩ | ⟨-, silent⟩
    · rw [flows.goesOn isOpen] at ended
      cases ended
    · exact silent
  have everything := flows.announced (traceEq ▸ last)
  have drained : feeding.session.channel.buffer = [] := by
    apply List.length_eq_zero_iff.mp
    exact everything.symm.trans silent
  have restEq : rest future feeding.session = [] := by
    rw [rest, drained, futureEq]
    rfl
  have data := flows.reads.data
  rw [restEq, List.append_nil] at data
  exact ⟨flows.reads.whole, data⟩

/-- When neither side can move, and every line that is delivered has its end, the reader was
given all of them. -/
theorem Flows.lines_eq_of_stuck (flows : Flows total before left future lines feeding)
    (isOpen : .closed ∉ total)
    (published : ∀ event, total.getLast? = some event → event = .published)
    (ends : ∀ line ∈ rawLines (Event.deliveredBytes total), lf ∈ line) (stuck : feeding.Stuck) :
    lines = rawLines (Event.deliveredBytes total) := by
  cases lastEq : total.getLast? with
  | none =>
      have first := (flows.linesRead_eq isOpen).2
      rw [List.getLast?_eq_none_iff.mp lastEq] at first ⊢
      exact List.prefix_nil.mp first
  | some event =>
      obtain rfl := published event lastEq
      obtain ⟨whole, dataEq⟩ := flows.stuck_of_published isOpen lastEq stuck
      rw [rawLines_of_not_mem whole] at dataEq
      split at dataEq
      case isTrue => rw [dataEq, List.append_nil]
      case isFalse =>
        -- what is held would be a line that is delivered without its end
        exact absurd (ends feeding.session.held (by simp [dataEq])) whole

/-- Whoever types texts in cooked mode, cut into calls in any way, is read as these texts:
what was read at any time are the first of them, every run is finite, all of them are read
when neither side can move, and then the history was given those that are not blank. -/
structure ReadsTexts (session : Session) (agenda : List Action) (texts : List String) :
    Prop where
  finite : ∃ bound, ∀ count after, Run ⟨session, agenda⟩ count after → count ≤ bound
  inOrder : ∀ count after, Run ⟨session, agenda⟩ count after →
    after.session.linesRead <+: texts.map some
  all : ∀ count after, Run ⟨session, agenda⟩ count after → after.Stuck →
    after.session.linesRead = texts.map some
  history : ∀ count after, Run ⟨session, agenda⟩ count after →
    after.session.linesRead = texts.map some →
    after.session.history = session.history.pushAll (nonblank texts)

theorem Opening.readsTexts {session : Session} (opening : Opening session)
    (constant : session.line.setting.Constant) (cooked : session.line.attributes = .cooked)
    {texts : List String} (typable : ∀ text ∈ texts, Typable text)
    {chunks : List (List UInt8)} (chunksEq : chunks.flatten = typed texts) :
    ReadsTexts session (chunks.map .input) texts := by
  let total := Transcript.fed session.line.setting chunks
  obtain ⟨left, flows⟩ := opening.flows_fed constant chunks
  have isOpen : .closed ∉ total := Transcript.closed_not_mem_fed _ _
  have last : .closed ∉ total.dropLast := fun member =>
    isOpen ((List.dropLast_sublist total).subset member)
  have linesEq : rawLines (Event.deliveredBytes total) = texts.map delivered := by
    rw [Transcript.view_fed _ Event.deliveredBytes_append rfl, chunksEq,
      Transcript.deliveredBytes_typed cooked typable, rawLines_delivered typable]
  have inOrder (count : Nat) (after : Feeding)
      (run : Run ⟨session, chunks.map .input⟩ count after) :
      ∃ lines, after.session.linesRead = (lines.map lineText).map some ∧
        lines <+: texts.map delivered ∧
        after.session.history = session.history.pushAll (nonblank (lines.map lineText)) := by
    obtain ⟨_, _, lines, reached, -⟩ := flows.run last run
    obtain ⟨readEq, first⟩ := reached.linesRead_eq isOpen
    exact ⟨lines, readEq, linesEq ▸ first, reached.reads.history⟩
  refine ⟨flows.finite last, ?_, ?_, ?_⟩
  · intro count after run
    obtain ⟨lines, readEq, first, -⟩ := inOrder count after run
    rw [readEq, ← map_lineText_delivered typable]
    exact (first.map lineText).map some
  · intro count after run stuck
    obtain ⟨_, _, lines, reached, -⟩ := flows.run last run
    have readEq := (reached.linesRead_eq isOpen).1
    have ends : ∀ line ∈ rawLines (Event.deliveredBytes total), lf ∈ line := by
      intro line member
      rw [linesEq] at member
      obtain ⟨text, -, rfl⟩ := List.mem_map.mp member
      exact List.mem_append_right _ List.mem_cons_self
    have all := reached.lines_eq_of_stuck isOpen (fun _ => Transcript.eq_published_of_fed) ends
      stuck
    rw [linesEq] at all
    rw [readEq, all, map_lineText_delivered typable]
  · intro count after run readAll
    obtain ⟨lines, readEq, first, historyEq⟩ := inOrder count after run
    have all : lines.map lineText = texts := by
      rw [readEq] at readAll
      exact (List.map_inj_right fun _ _ => Option.some.inj).mp readAll
    rw [historyEq, all]

end Feeding

end CookedMode
