import CookedMode.History.Store
import CookedMode.Proofs.History.Escape
import CookedMode.Proofs.Text.Utf8

/-!
# The content of history files

An escaped entry holds no line end and can be read back, so the lines of a file with some
entries are those entries again, whatever characters they are made of.
-/

namespace CookedMode

/-- What comes before a cut and what comes after it are cut separately. -/
theorem cutAt_append_cons {α : Type} {isCut : α → Bool} {cut : α} (isCutCut : isCut cut = true)
    (front back : List α) :
    cutAt isCut (front ++ cut :: back) = cutAt isCut front ++ cutAt isCut back := by
  induction front with
  | nil => simp [cutAt, isCutCut]
  | cons item front ih =>
      rw [List.cons_append, cutAt, cutAt, ih]
      split
      case isTrue => rfl
      case isFalse =>
        obtain ⟨first, others, eq⟩ := List.exists_cons_of_ne_nil (cutAt_ne_nil isCut front)
        simp only [eq, List.cons_append]

theorem cutAt_of_whole {α : Type} {isCut : α → Bool} {piece : List α}
    (whole : ∀ item ∈ piece, isCut item = false) : cutAt isCut piece = [piece] := by
  induction piece with
  | nil => rfl
  | cons item piece ih =>
      have first := whole item (by simp)
      have others := ih fun other member => whole other (by simp [member])
      simp [cutAt, first, others]

namespace Store

@[simp] theorem readLine?_encode (entry : String) :
    readLine? (Utf8.encode (Escape.escape entry)) = .ok entry := by
  simp [readLine?]

theorem isCut_encode {entry : String} {byte : UInt8}
    (member : byte ∈ Utf8.encode (Escape.escape entry)) : (byte == 0x0A) = false := by
  apply beq_eq_false_iff_ne.mpr
  rintro rfl
  have lineFeed := Utf8.mem_of_mem_encode 0x0A (by decide) member
  rw [Escape.toList_escape] at lineFeed
  exact (Escape.oneLine_escapeChars entry.toList).1 lineFeed

/-- The lines of a file with some entries. -/
theorem lines_content (entries : List String) :
    lines (content entries) = entries.map fun entry => Utf8.encode (Escape.escape entry) := by
  have cuts : cutAt (· == 0x0A) (content entries) =
      (entries.map fun entry => Utf8.encode (Escape.escape entry)) ++ [[]] := by
    induction entries with
    | nil => simp [content, cutAt]
    | cons entry entries ih =>
        have contentEq : content (entry :: entries) =
            Utf8.encode (Escape.escape entry) ++ 0x0A :: content entries := by
          simp [content]
        rw [contentEq, cutAt_append_cons rfl, cutAt_of_whole fun _ => isCut_encode, ih]
        rfl
  rw [lines, cuts]
  simp

@[simp] theorem readable_content (entries : List String) :
    readable (lines (content entries)) = entries := by
  rw [lines_content, readable, List.filterMap_map]
  have each : ((fun line => (readLine? line).toOption) ∘
      fun entry => Utf8.encode (Escape.escape entry)) = some := by
    funext entry
    simp
    rfl
  rw [each, List.filterMap_some]

end Store

end CookedMode
