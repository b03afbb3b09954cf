import CookedMode.History.Escape
import Mathlib.Data.List.Basic
import Mathlib.Data.Set.Operations

/-!
# Lines made of pieces

A line that can be read is made of pieces, each of which stands for one character: a backslash
with a code stands for the character of the code, and any other character for itself.  No piece
begins like another one, so a line is cut into pieces in one way only.  Reading accepts the lines
that are made of pieces to their end, and blames the backslash at which the pieces of any other
line stop.

Of the pieces that stand for a character, writing takes the one that holds no line end.  So it
leads one-to-one to the lines without line ends that can be read.
-/

namespace CookedMode.Escape

/-- A text without line ends. -/
def OneLine (text : List Char) : Prop :=
  '\n' ∉ text ∧ '\r' ∉ text

instance (text : List Char) : Decidable (OneLine text) :=
  inferInstanceAs (Decidable ('\n' ∉ text ∧ '\r' ∉ text))

theorem oneLine_flatMap_iff {α : Type} {parts : List α} {text : α → List Char} :
    OneLine (parts.flatMap text) ↔ ∀ part ∈ parts, OneLine (text part) := by
  simp only [OneLine, List.mem_flatMap, not_exists, not_and]
  constructor
  · rintro ⟨noLf, noCr⟩ part member
    exact ⟨noLf part member, noCr part member⟩
  · intro each
    exact ⟨fun part member => (each part member).1, fun part member => (each part member).2⟩

/-- A piece of a line, which stands for one character. -/
inductive Piece where
  /-- A character that stands for itself. -/
  | plain (char : Char) (notBackslash : char ≠ '\\')
  | backslash
  | lineFeed
  | carriageReturn
  deriving DecidableEq, Repr

namespace Piece

/-- The characters that a piece is made of. -/
def text : Piece → List Char
  | .plain char _ => [char]
  | .backslash => ['\\', '\\']
  | .lineFeed => ['\\', 'n']
  | .carriageReturn => ['\\', 'r']

/-- The character that a piece stands for. -/
def char : Piece → Char
  | .plain char _ => char
  | .backslash => '\\'
  | .lineFeed => '\n'
  | .carriageReturn => '\r'

/-- The piece that is written for a character. -/
def ofChar (char : Char) : Piece :=
  if isBackslash : char = '\\' then .backslash
  else if char = '\n' then .lineFeed
  else if char = '\r' then .carriageReturn
  else .plain char isBackslash

theorem length_text_pos (piece : Piece) : 0 < piece.text.length := by
  cases piece <;> simp [text]

theorem eq_of_text_append {piece other : Piece} {rest others : List Char}
    (same : piece.text ++ rest = other.text ++ others) : piece = other ∧ rest = others := by
  cases piece <;> cases other <;> grind [text]

@[simp] theorem text_ofChar (char : Char) : (ofChar char).text = escapeChar char := by
  unfold ofChar escapeChar
  split_ifs <;> rfl

@[simp] theorem char_ofChar (char : Char) : (ofChar char).char = char := by
  unfold ofChar
  split_ifs with isBackslash isLf isCr
  · exact isBackslash.symm
  · exact isLf.symm
  · exact isCr.symm
  · rfl

/-- A line end has a second piece, which is the line end itself.  Any other piece is the one that
is written. -/
theorem ofChar_char {piece : Piece} (oneLine : OneLine piece.text) :
    ofChar piece.char = piece := by
  cases piece with
  | plain char notBackslash =>
      have notLf : char ≠ '\n' := by
        rintro rfl
        exact oneLine.1 (by simp [text])
      have notCr : char ≠ '\r' := by
        rintro rfl
        exact oneLine.2 (by simp [text])
      simp [ofChar, Piece.char, notBackslash, notLf, notCr]
  | backslash | lineFeed | carriageReturn => rfl

end Piece

/-- A backslash with these characters behind it begins no piece: it ends the line, or the next
character is no code. -/
def Stray : List Char → Prop
  | [] => True
  | code :: _ => code ≠ '\\' ∧ code ≠ 'n' ∧ code ≠ 'r'

instance : (behind : List Char) → Decidable (Stray behind)
  | [] => inferInstanceAs (Decidable True)
  | code :: _ => inferInstanceAs (Decidable (code ≠ '\\' ∧ code ≠ 'n' ∧ code ≠ 'r'))

/-- The pieces that a line begins with stop at a stray backslash. -/
structure Faulty (line : List Char) (pieces : List Piece) (behind : List Char) : Prop where
  line_eq : line = pieces.flatMap Piece.text ++ '\\' :: behind
  stray : Stray behind

theorem Stray.text_append_ne {behind : List Char} (stray : Stray behind) (piece : Piece)
    (rest : List Char) : piece.text ++ rest ≠ '\\' :: behind := by
  intro same
  cases piece with
  | plain char notBackslash => exact notBackslash (List.cons.inj same).1
  | backslash | lineFeed | carriageReturn =>
      cases same
      simp [Stray] at stray

/-- Any other backslash begins one. -/
theorem exists_of_not_stray {rest : List Char} (notStray : ¬Stray rest) :
    ∃ (piece : Piece) (others : List Char), '\\' :: rest = piece.text ++ others := by
  cases rest with
  | nil => exact absurd trivial notStray
  | cons code rest =>
      have known : code = '\\' ∨ code = 'n' ∨ code = 'r' := by
        rw [Stray] at notStray
        tauto
      rcases known with rfl | rfl | rfl
      · exact ⟨.backslash, rest, rfl⟩
      · exact ⟨.lineFeed, rest, rfl⟩
      · exact ⟨.carriageReturn, rest, rfl⟩

/-- A line that is not empty begins with a piece or with a stray backslash. -/
theorem exists_piece_or_stray (char : Char) (rest : List Char) :
    (∃ (piece : Piece) (others : List Char), char :: rest = piece.text ++ others) ∨
      char = '\\' ∧ Stray rest := by
  by_cases isBackslash : char = '\\'
  case neg => exact .inl ⟨.plain char isBackslash, rest, rfl⟩
  case pos =>
    subst isBackslash
    by_cases stray : Stray rest
    case pos => exact .inr ⟨rfl, stray⟩
    case neg => exact .inl (exists_of_not_stray stray)

/-- Every line is made of pieces, to its end or up to a stray backslash. -/
theorem exists_pieces (line : List Char) :
    ∃ pieces : List Piece,
      line = pieces.flatMap Piece.text ∨ ∃ behind, Faulty line pieces behind := by
  match line with
  | [] => exact ⟨[], .inl rfl⟩
  | char :: rest =>
      rcases exists_piece_or_stray char rest with ⟨piece, others, lineEq⟩ | ⟨rfl, stray⟩
      case inr => exact ⟨[], .inr ⟨rest, rfl, stray⟩⟩
      case inl =>
        -- A piece is never empty, so what comes after it is shorter than the line.
        have shorter : others.length < (char :: rest).length := by
          rw [lineEq, List.length_append]
          exact Nat.lt_add_of_pos_left piece.length_text_pos
        obtain ⟨pieces, whole | ⟨behind, faulty⟩⟩ := exists_pieces others
        · exact ⟨piece :: pieces, .inl (by rw [lineEq, whole, List.flatMap_cons])⟩
        · refine ⟨piece :: pieces, .inr ⟨behind, ?_, faulty.stray⟩⟩
          rw [lineEq, faulty.line_eq, List.flatMap_cons, List.append_assoc]
termination_by line.length
decreasing_by exact shorter

/-- No pieces that a faulty line begins with go past its fault. -/
theorem Faulty.stops {line : List Char} {pieces others : List Piece}
    {behind rest : List Char} (faulty : Faulty line pieces behind)
    (begins : others.flatMap Piece.text ++ rest = line) : others <+: pieces := by
  obtain ⟨rfl, stray⟩ := faulty
  induction others generalizing pieces with
  | nil => exact List.nil_prefix
  | cons other others ih =>
      rw [List.flatMap_cons, List.append_assoc] at begins
      cases pieces with
      | nil =>
          -- Here the next piece would have to begin with the stray backslash.
          exact absurd begins (stray.text_append_ne other _)
      | cons piece pieces =>
          rw [List.flatMap_cons, List.append_assoc] at begins
          obtain ⟨rfl, beginsRest⟩ := Piece.eq_of_text_append begins
          exact (List.prefix_cons_inj other).mpr (ih beginsRest)

/-! ## Reading -/

/-- The report of a stray backslash shows it with the character after it. -/
theorem Error.message_head? (behind : List Char) :
    (Error.mk behind.head?).message =
      "invalid escape sequence: " ++ String.ofList ('\\' :: behind.take 1) := by
  have begins : "invalid escape sequence: \\" =
      "invalid escape sequence: " ++ String.ofList ['\\'] := by decide
  have shown : String.ofList ('\\' :: behind.take 1) =
      String.ofList ['\\'] ++ String.ofList behind.head?.toList := by
    rw [← String.ofList_append]
    cases behind <;> rfl
  calc (Error.mk behind.head?).message
      = "invalid escape sequence: " ++ String.ofList ['\\'] ++ String.ofList behind.head?.toList :=
        congrArg (· ++ String.ofList behind.head?.toList) begins
    _ = _ := by rw [String.append_assoc, shown]

theorem unescapeChars?_text_append (piece : Piece) (rest : List Char) :
    unescapeChars? (piece.text ++ rest) = (unescapeChars? rest).map (piece.char :: ·) := by
  cases piece with
  | plain char notBackslash =>
      rw [Piece.text, List.singleton_append, unescapeChars?.eq_def]
      simp only [if_pos notBackslash, Piece.char]
      cases unescapeChars? rest <;> rfl
  | backslash | lineFeed | carriageReturn =>
      simp only [Piece.text, List.cons_append, List.nil_append, unescapeChars?]
      cases unescapeChars? rest <;> rfl

/-- Pieces are read one after the other, and then comes the rest of the line. -/
theorem unescapeChars?_flatMap_append (pieces : List Piece) (rest : List Char) :
    unescapeChars? (pieces.flatMap Piece.text ++ rest) =
      (unescapeChars? rest).map (pieces.map Piece.char ++ ·) := by
  induction pieces with
  | nil =>
      rw [List.flatMap_nil, List.nil_append]
      cases unescapeChars? rest <;> rfl
  | cons piece pieces ih =>
      rw [List.flatMap_cons, List.append_assoc, unescapeChars?_text_append, ih]
      cases unescapeChars? rest <;> rfl

theorem unescapeChars?_flatMap (pieces : List Piece) :
    unescapeChars? (pieces.flatMap Piece.text) = .ok (pieces.map Piece.char) := by
  have whole := unescapeChars?_flatMap_append pieces []
  rw [List.append_nil] at whole
  rw [whole]
  simp [unescapeChars?, Except.map]

theorem Stray.unescapeChars?_eq {behind : List Char} (stray : Stray behind) :
    unescapeChars? ('\\' :: behind) = .error ⟨behind.head?⟩ := by
  cases behind with
  | nil => rfl
  | cons code rest =>
      obtain ⟨notBackslash, notLf, notCr⟩ := stray
      have none : meaning? code = none := by simp [meaning?, notBackslash, notLf, notCr]
      simp [unescapeChars?, none]

theorem Faulty.unescapeChars?_eq {line : List Char} {pieces : List Piece} {behind : List Char}
    (faulty : Faulty line pieces behind) : unescapeChars? line = .error ⟨behind.head?⟩ := by
  rw [faulty.line_eq, unescapeChars?_flatMap_append, faulty.stray.unescapeChars?_eq]
  rfl

theorem unescapeChars?_eq_ok_iff {line entry : List Char} :
    unescapeChars? line = .ok entry ↔
      ∃ pieces : List Piece, line = pieces.flatMap Piece.text ∧ entry = pieces.map Piece.char := by
  constructor
  · intro readEq
    obtain ⟨pieces, rfl | ⟨behind, faulty⟩⟩ := exists_pieces line
    · rw [unescapeChars?_flatMap] at readEq
      exact ⟨pieces, rfl, (Except.ok.inj readEq).symm⟩
    · rw [faulty.unescapeChars?_eq] at readEq
      cases readEq
  · rintro ⟨pieces, rfl, rfl⟩
    exact unescapeChars?_flatMap pieces

theorem unescapeChars?_eq_error_iff {line : List Char} {error : Error} :
    unescapeChars? line = .error error ↔
      ∃ pieces behind, Faulty line pieces behind ∧ error = ⟨behind.head?⟩ := by
  constructor
  · intro readEq
    obtain ⟨pieces, rfl | ⟨behind, faulty⟩⟩ := exists_pieces line
    · rw [unescapeChars?_flatMap] at readEq
      cases readEq
    · rw [faulty.unescapeChars?_eq] at readEq
      exact ⟨pieces, behind, faulty, (Except.error.inj readEq).symm⟩
  · rintro ⟨pieces, behind, faulty, rfl⟩
    exact faulty.unescapeChars?_eq

theorem unescape?_eq_ok_iff {line entry : String} :
    unescape? line = .ok entry ↔ unescapeChars? line.toList = .ok entry.toList := by
  unfold unescape?
  cases unescapeChars? line.toList with
  | error error => simp
  | ok read => simp [← String.toList_inj]

theorem unescape?_eq_error_iff {line : String} {error : Error} :
    unescape? line = .error error ↔ unescapeChars? line.toList = .error error := by
  unfold unescape?
  cases unescapeChars? line.toList <;> simp

/-- A text can be read if and only if it is made of pieces: of characters other than a backslash
and of backslashes with one of three codes.  If it cannot be read, pieces lead up to a backslash
that ends the text or has no code after it, and the error names this backslash and the character
after it.  It is the first one of this kind, because no pieces that the text begins with go past
it. -/
theorem unescape?_reads_pieces (line : String) :
    ((∃ entry, unescape? line = .ok entry) ↔
      ∃ pieces : List Piece, line.toList = pieces.flatMap Piece.text) ∧
    (∀ error, unescape? line = .error error ↔
      ∃ pieces behind, Faulty line.toList pieces behind ∧ error = ⟨behind.head?⟩) ∧
    ∀ pieces behind, Faulty line.toList pieces behind →
      (Error.mk behind.head?).message =
        "invalid escape sequence: " ++ String.ofList ('\\' :: behind.take 1) ∧
      ∀ others : List Piece, others.flatMap Piece.text <+: line.toList → others <+: pieces := by
  refine ⟨⟨?_, ?_⟩, ?_, ?_⟩
  · rintro ⟨entry, readEq⟩
    obtain ⟨pieces, lineEq, -⟩ := unescapeChars?_eq_ok_iff.mp (unescape?_eq_ok_iff.mp readEq)
    exact ⟨pieces, lineEq⟩
  · rintro ⟨pieces, lineEq⟩
    refine ⟨String.ofList (pieces.map Piece.char), unescape?_eq_ok_iff.mpr ?_⟩
    rw [lineEq, unescapeChars?_flatMap, String.toList_ofList]
  · intro error
    rw [unescape?_eq_error_iff, unescapeChars?_eq_error_iff]
  · intro pieces behind faulty
    refine ⟨Error.message_head? behind, ?_⟩
    rintro others ⟨rest, begins⟩
    exact faulty.stops begins

/-- An escaped backslash stands before the stray one, and one that ends the line after it.  Reading
blames the third of the four backslashes. -/
theorem unescape?_reads_pieces_third_backslash :
    let line := "a\\\\\\x\\"
    let pieces : List Piece := [.plain 'a' (by decide), .backslash]
    Faulty line.toList pieces ['x', '\\'] ∧ unescape? line = .error ⟨some 'x'⟩ ∧
      (Error.mk (some 'x')).message = "invalid escape sequence: \\x" ∧
      ∀ others : List Piece, others.flatMap Piece.text <+: line.toList → others <+: pieces := by
  intro line pieces
  obtain ⟨-, blames, names⟩ := unescape?_reads_pieces line
  have faulty : Faulty line.toList pieces ['x', '\\'] := ⟨by decide +kernel, by decide⟩
  obtain ⟨message, first⟩ := names pieces ['x', '\\'] faulty
  exact ⟨faulty, (blames ⟨some 'x'⟩).mpr ⟨pieces, _, faulty, rfl⟩, message, first⟩

theorem oneLine_escapeChar (char : Char) : OneLine (escapeChar char) := by
  unfold escapeChar
  split_ifs with isBackslash isLf isCr
  case neg => exact ⟨by simpa using Ne.symm isLf, by simpa using Ne.symm isCr⟩
  all_goals decide

theorem oneLine_escapeChars (entry : List Char) : OneLine (escapeChars entry) :=
  oneLine_flatMap_iff.mpr fun char _ => oneLine_escapeChar char

theorem escapeChars_eq (entry : List Char) :
    escapeChars entry = (entry.map Piece.ofChar).flatMap Piece.text := by
  simp [escapeChars, List.flatMap_map]

theorem escapeChars_map_char {pieces : List Piece}
    (oneLine : OneLine (pieces.flatMap Piece.text)) :
    escapeChars (pieces.map Piece.char) = pieces.flatMap Piece.text := by
  have each : ∀ piece ∈ pieces, (Piece.ofChar ∘ Piece.char) piece = piece := fun piece member =>
    Piece.ofChar_char (oneLine_flatMap_iff.mp oneLine piece member)
  rw [escapeChars_eq, List.map_map, List.map_congr_left each, List.map_id']

theorem unescapeChars?_escapeChars (entry : List Char) :
    unescapeChars? (escapeChars entry) = .ok entry := by
  rw [escapeChars_eq, unescapeChars?_flatMap, List.map_map]
  simp [Function.comp_def]

theorem unescapeChars?_eq_ok_iff_of_oneLine {line entry : List Char} (oneLine : OneLine line) :
    unescapeChars? line = .ok entry ↔ escapeChars entry = line := by
  constructor
  · intro readEq
    obtain ⟨pieces, rfl, rfl⟩ := unescapeChars?_eq_ok_iff.mp readEq
    exact escapeChars_map_char oneLine
  · rintro rfl
    exact unescapeChars?_escapeChars entry

@[simp] theorem toList_escape (entry : String) : (escape entry).toList = escapeChars entry.toList :=
  String.toList_ofList

@[simp] theorem unescape?_escape (entry : String) : unescape? (escape entry) = .ok entry := by
  rw [unescape?_eq_ok_iff, toList_escape, unescapeChars?_escapeChars]

/-- A written entry holds no line end.  Of all texts without line ends, one is read as an entry if
and only if it is the written form of the entry.  So different entries are written differently,
each is read back, and the texts without line ends that can be read are the written ones. -/
theorem escape_bijective :
    (∀ entry, OneLine (escape entry).toList) ∧
    (∀ entry line, OneLine line.toList →
      (unescape? line = .ok entry ↔ escape entry = line)) ∧
    Function.Injective escape ∧
    (∀ entry, unescape? (escape entry) = .ok entry) ∧
    Set.range escape = {line | OneLine line.toList ∧ ∃ entry, unescape? line = .ok entry} := by
  have written (entry : String) : OneLine (escape entry).toList := by
    rw [toList_escape]
    exact oneLine_escapeChars entry.toList
  have readIff (entry line : String) (oneLine : OneLine line.toList) :
      unescape? line = .ok entry ↔ escape entry = line := by
    rw [unescape?_eq_ok_iff, unescapeChars?_eq_ok_iff_of_oneLine oneLine, ← toList_escape,
      String.toList_inj]
  refine ⟨written, readIff, ?_, unescape?_escape, ?_⟩
  · intro entry other same
    have readBack := unescape?_escape entry
    rw [same, unescape?_escape] at readBack
    exact (Except.ok.inj readBack).symm
  · ext line
    constructor
    · rintro ⟨entry, rfl⟩
      exact ⟨written entry, entry, unescape?_escape entry⟩
    · rintro ⟨oneLine, entry, readEq⟩
      exact ⟨entry, (readIff entry line oneLine).mp readEq⟩

/-- A backslash before an n, and a line feed.  The runs of backslashes that are written for them
differ. -/
theorem escape_bijective_backslash_before_n :
    OneLine "\\\\n\\n".toList ∧ unescape? "\\\\n\\n" = .ok "\\n\n" ∧
      escape "\\n\n" = "\\\\n\\n" := by
  obtain ⟨-, readIff, -⟩ := escape_bijective
  have oneLine : OneLine "\\\\n\\n".toList := by decide
  have written : escape "\\n\n" = "\\\\n\\n" := by decide
  exact ⟨oneLine, (readIff _ _ oneLine).mpr written, written⟩

end CookedMode.Escape
