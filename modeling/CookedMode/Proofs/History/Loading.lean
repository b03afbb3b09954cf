import CookedMode.Proofs.History.Content
import CookedMode.Proofs.History.Log
import CookedMode.Proofs.History.Saving
import CookedMode.Proofs.Text.WellFormed

/-!
# Loading whatever a file holds

Loading a file never fails on account of its bytes.  They are cut into lines before they are
decoded, so a line that is no text, or holds a faulty escape, spoils none of the others: it is
reported under its number, and every other line gives its entry.
-/

namespace CookedMode

theorem cutAt_eq_splitOnP {α : Type} (isCut : α → Bool) (items : List α) :
    cutAt isCut items = items.splitOnP isCut := by
  induction items with
  | nil => rfl
  | cons item rest ih =>
      rw [cutAt, List.splitOnP_cons_eq_if_modifyHead, ih]
      split
      case isTrue => rfl
      case isFalse =>
        split
        case h_1 none => exact absurd none (List.splitOnP_ne_nil isCut rest)
        case h_2 first others eq => rw [eq, List.modifyHead_cons]

namespace Store

theorem lines_eq_splitOn (bytes : List UInt8) :
    lines bytes =
      if (bytes.splitOn 0x0A).getLast? = some [] then (bytes.splitOn 0x0A).dropLast
      else bytes.splitOn 0x0A := by
  rw [lines, cutAt_eq_splitOnP]
  rfl

theorem lines_append_cons (front back : List UInt8) :
    lines (front ++ 0x0A :: back) = cutAt (· == 0x0A) front ++ lines back := by
  have cuts : cutAt (· == 0x0A) (front ++ 0x0A :: back) =
      cutAt (· == 0x0A) front ++ cutAt (· == 0x0A) back := cutAt_append_cons rfl front back
  have nonempty := cutAt_ne_nil (· == 0x0A) back
  simp only [lines, cuts, List.getLast?_append_of_ne_nil _ nonempty,
    List.dropLast_append_of_ne_nil nonempty]
  split <;> rfl

theorem cutAt_of_not_mem {line : List UInt8} (whole : 0x0A ∉ line) :
    cutAt (· == 0x0A) line = [line] := by
  apply cutAt_of_whole
  intro byte member
  rw [beq_eq_false_iff_ne]
  rintro rfl
  exact whole member

theorem exists_lines_before {front : List UInt8}
    (begins : front = [] ∨ front.getLast? = some 0x0A) :
    ∃ before, ∀ rest, lines (front ++ rest) = before ++ lines rest := by
  rcases begins with rfl | lineFeed
  · exact ⟨[], fun rest => rfl⟩
  · obtain ⟨above, rfl⟩ := List.getLast?_eq_some_iff.mp lineFeed
    refine ⟨cutAt (· == 0x0A) above, fun rest => ?_⟩
    rw [List.append_assoc, List.singleton_append, lines_append_cons]

/-- Bytes that begin with a line feed, or are none, leave the line before them as it is.  An
empty line that nothing follows is none. -/
theorem exists_lines_behind {back : List UInt8} (ends : back = [] ∨ back.head? = some 0x0A) :
    ∃ behind, ∀ line, 0x0A ∉ line →
      lines (line ++ back) = line :: behind ∨ lines (line ++ back) = behind := by
  rcases ends with rfl | lineFeed
  · refine ⟨[], fun line whole => ?_⟩
    simp only [List.append_nil, lines, cutAt_of_not_mem whole]
    split
    · exact .inr rfl
    · exact .inl rfl
  · obtain ⟨below, rfl⟩ := List.head?_eq_some_iff.mp lineFeed
    refine ⟨lines below, fun line whole => .inl ?_⟩
    rw [lines_append_cons, cutAt_of_not_mem whole, List.singleton_append]

/-- A line holds an entry: its bytes are the UTF-8 form of a text, and the text is the written
form of the entry. -/
def Bears (line : List UInt8) (entry : String) : Prop :=
  ∃ text, line = Utf8.encode text ∧ Escape.unescape? text = .ok entry

theorem readLine?_eq_ok_iff {line : List UInt8} {entry : String} :
    readLine? line = .ok entry ↔ Bears line entry := by
  unfold readLine? Bears
  constructor
  · intro readEq
    split at readEq
    case h_1 => cases readEq
    case h_2 text decoded =>
      split at readEq <;> cases readEq
      case h_1 unescaped => exact ⟨text, Utf8.decode?_eq_ok_iff.mp decoded, unescaped⟩
  · rintro ⟨text, rfl, unescaped⟩
    rw [Utf8.decode?_encode]
    simp only [unescaped]

/-- Numbered lines are gone through in order.  One that holds an entry gives it, and one that
holds none is reported with its number. -/
inductive Sifted (path : String) : Nat → List (List UInt8) → List String → List Notice → Prop where
  | done {number : Nat} : Sifted path number [] [] []
  | kept {number : Nat} {line : List UInt8} {rest : List (List UInt8)} {entry : String}
      {entries : List String} {reports : List Notice} (bears : Bears line entry)
      (sifted : Sifted path (number + 1) rest entries reports) :
      Sifted path number (line :: rest) (entry :: entries) reports
  | reported {number : Nat} {line : List UInt8} {rest : List (List UInt8)} {fault : LineFault}
      {entries : List String} {reports : List Notice} (bearsNone : ∀ entry, ¬Bears line entry)
      (faulty : readLine? line = .error fault)
      (sifted : Sifted path (number + 1) rest entries reports) :
      Sifted path number (line :: rest) entries
        (.lineSkipped path number fault :: reports)

theorem sifted_readable (path : String) (number : Nat) (lines : List (List UInt8)) :
    Sifted path number lines (readable lines) (skipped path number lines) := by
  induction lines generalizing number with
  | nil => exact .done
  | cons line rest ih =>
      rw [readable, List.filterMap_cons, ← readable, skipped]
      cases readEq : readLine? line with
      | ok entry => exact .kept (readLine?_eq_ok_iff.mp readEq) (ih (number + 1))
      | error fault =>
          refine .reported (fun entry bears => ?_) readEq (ih (number + 1))
          rw [readLine?_eq_ok_iff.mpr bears] at readEq
          cases readEq

theorem readable_append (front back : List (List UInt8)) :
    readable (front ++ back) = readable front ++ readable back :=
  List.filterMap_append

theorem exists_readable_singleton (line : List UInt8) :
    ∃ found : Option String, (∀ entry, found = some entry → Bears line entry) ∧
      readable [line] = found.toList := by
  cases readEq : readLine? line with
  | ok entry =>
      refine ⟨some entry, fun other same => ?_, by simp [readable, readEq, Except.toOption]⟩
      cases same
      exact readLine?_eq_ok_iff.mp readEq
  | error fault => exact ⟨none, by simp, by simp [readable, readEq, Except.toOption]⟩

/-- A line gives one entry at most, and the others give theirs whatever it holds. -/
theorem exists_readable_around {front back : List UInt8}
    (begins : front = [] ∨ front.getLast? = some 0x0A)
    (ends : back = [] ∨ back.head? = some 0x0A) :
    ∃ before behind, ∀ line, 0x0A ∉ line →
      ∃ found : Option String, (∀ entry, found = some entry → Bears line entry) ∧
        readable (lines (front ++ line ++ back)) = before ++ found.toList ++ behind := by
  obtain ⟨before, beforeEq⟩ := exists_lines_before begins
  obtain ⟨behind, behindEq⟩ := exists_lines_behind ends
  refine ⟨readable before, readable behind, fun line whole => ?_⟩
  rw [List.append_assoc, beforeEq, readable_append]
  rcases behindEq line whole with linesEq | linesEq
  · obtain ⟨found, bears, readableEq⟩ := exists_readable_singleton line
    refine ⟨found, bears, ?_⟩
    rw [linesEq, ← List.singleton_append, readable_append, readableEq, List.append_assoc]
  · refine ⟨none, by simp, ?_⟩
    rw [linesEq, Option.toList_none, List.append_nil]

/-- A regular file that can be read can be loaded, whatever bytes it holds.  They are cut at
each line feed, without the empty piece that a final one leaves.  Loading gives the newest of
the entries that the lines hold, and reports the lines that hold none, each with its number,
and then how many they are if there are any.  What a line is made of concerns its own entry
alone: other bytes in its place change, add or remove at most that one. -/
theorem load_sifts_lines (store : Store) (files : FileSystem) (bytes : List UInt8)
    (positive : 0 < store.maxSize) (readEq : files.read store.path = .ok bytes) :
    let path := store.path.toString
    let pieces := bytes.splitOn 0x0A
    lines bytes = (if pieces.getLast? = some [] then pieces.dropLast else pieces) ∧
    (∃ entries reported, Sifted path 1 (lines bytes) entries reported ∧
      store.load files = .ok (entries.rtake store.maxSize.toNat,
        reported ++
          if reported = [] then [] else [.linesSkipped path reported.length])) ∧
    ∀ front back : List UInt8, (front = [] ∨ front.getLast? = some 0x0A) →
      (back = [] ∨ back.head? = some 0x0A) →
      ∃ before behind, ∀ line, 0x0A ∉ line →
        ∃ (found : Option String) (reported : List Notice),
          (∀ entry, found = some entry → Bears line entry) ∧
          Sifted path 1 (lines (front ++ line ++ back)) (before ++ found.toList ++ behind)
            reported := by
  intro path pieces
  refine ⟨lines_eq_splitOn bytes, ⟨_, _, sifted_readable path 1 (lines bytes), ?_⟩, ?_⟩
  · rw [load_eq_of_read readEq, newest_eq_rtake positive, reports]
    simp only [List.isEmpty_iff]
    split
    case isTrue none => rw [none, List.append_nil]
    case isFalse => rfl
  · intro front back begins ends
    obtain ⟨before, behind, around⟩ := exists_readable_around begins ends
    refine ⟨before, behind, fun line whole => ?_⟩
    obtain ⟨found, bears, readableEq⟩ := around line whole
    have sifted := sifted_readable path 1 (lines (front ++ line ++ back))
    rw [readableEq] at sifted
    exact ⟨found, _, bears, sifted⟩

/-- Of five lines, one is no text, one holds a faulty escape, one is empty, and the last one has
no line feed.  The store holds the last two of the three entries. -/
theorem load_sifts_lines_faulty :
    let store : Store := ⟨⟨"/", ["h"]⟩, 2⟩
    let bytes : List UInt8 := [0x61, 0x0A, 0xFF, 0x0A, 0x5C, 0x78, 0x0A, 0x0A, 0x62]
    let files : FileSystem := { nodes := [(["h"], .file ⟨bytes, 0o600⟩)] }
    0 < store.maxSize ∧ files.read store.path = .ok bytes ∧
      lines bytes = [[0x61], [0xFF], [0x5C, 0x78], [], [0x62]] ∧
      ∃ entries reported, Sifted "/h" 1 (lines bytes) entries reported ∧
        entries.rtake 2 = ["", "b"] ∧
        reported ++ (if reported = [] then [] else [.linesSkipped "/h" reported.length]) =
          [.lineSkipped "/h" 2 (.undecodable ⟨0xFF, 0, 1, .start⟩),
            .lineSkipped "/h" 3 (.badEscape (some 'x')), .linesSkipped "/h" 2] := by
  intro store bytes files
  have readEq : files.read store.path = .ok bytes := rfl
  obtain ⟨-, ⟨entries, reported, sifted, loadEq⟩, -⟩ :=
    load_sifts_lines store files bytes (by decide) readEq
  have loaded : store.load files = .ok (["", "b"],
      [.lineSkipped "/h" 2 (.undecodable ⟨0xFF, 0, 1, .start⟩),
        .lineSkipped "/h" 3 (.badEscape (some 'x')), .linesSkipped "/h" 2]) := by
    decide +kernel
  have same := Except.ok.inj (loadEq.symm.trans loaded)
  exact ⟨by decide, readEq, by decide, entries, reported, sifted, congrArg Prod.fst same,
    congrArg Prod.snd same⟩

end Store

end CookedMode
