import CookedMode.File.System

/-!
# Operations on files

What is at a location after something was put at one, and what an operation leaves as it
was: no directory goes away, so every path that could be resolved leads to the same place.
-/

namespace CookedMode.FileSystem

variable {files after : FileSystem}

/-- The locations that are never missing. -/
def isFixed (files : FileSystem) (location : Location) : Bool :=
  location.isPrefixOf files.home || location.isPrefixOf files.current

theorem node?_of_isFixed {location : Location} (fixed : files.isFixed location = true) :
    files.node? location = some .directory :=
  if_pos fixed

theorem node?_of_not_isFixed {location : Location} (free : files.isFixed location = false) :
    files.node? location = files.nodes.lookup location :=
  if_neg (by rw [show (_ || _) = files.isFixed location from rfl, free]; exact Bool.false_ne_true)

theorem lookup_replace {nodes : List (Location × Node)} (location other : Location)
    (node : Node) :
    (nodes.map fun (place, old) =>
        if place == location then (place, node) else (place, old)).lookup other =
      if other = location then (nodes.lookup other).map fun _ => node else nodes.lookup other := by
  induction nodes with
  | nil => simp
  | cons entry nodes ih =>
      obtain ⟨place, old⟩ := entry
      rw [List.map_cons]
      by_cases here : other = place
      · subst here
        by_cases same : other = location <;> simp [same]
      · have there : (other == place) = false := beq_eq_false_iff_ne.mpr here
        simp only
        split <;> simp only [List.lookup_cons, there] <;> exact ih

theorem isSome_lookup (nodes : List (Location × Node)) (location : Location) :
    (nodes.lookup location).isSome = nodes.any (·.1 == location) := by
  induction nodes with
  | nil => rfl
  | cons entry nodes ih =>
      obtain ⟨place, old⟩ := entry
      rw [List.lookup_cons, List.any_cons, ← ih]
      by_cases here : place = location
      · simp [here]
      · simp [here, beq_eq_false_iff_ne.mpr (Ne.symm here)]

theorem lookup_put (location other : Location) (node : Node) :
    (files.put location node).nodes.lookup other =
      if other = location then some node else files.nodes.lookup other := by
  have present := isSome_lookup files.nodes location
  unfold put
  simp only
  split
  case isTrue found =>
    rw [lookup_replace]
    split
    case isTrue here =>
      rw [found, Option.isSome_iff_exists] at present
      obtain ⟨old, oldEq⟩ := present
      rw [here, oldEq]
      rfl
    case isFalse => rfl
  case isFalse missing =>
    rw [List.lookup_append]
    split
    case isTrue here =>
      rw [Bool.not_eq_true] at missing
      rw [missing, Option.isSome_eq_false_iff, Option.isNone_iff_eq_none] at present
      rw [here, present]
      simp
    case isFalse elsewhere =>
      simp [List.lookup_cons, beq_eq_false_iff_ne.mpr elsewhere]

/-- Something that was put at a location is there, unless the location is a fixed one. -/
theorem node?_put_self {location : Location} (free : files.isFixed location = false)
    (node : Node) : (files.put location node).node? location = some node := by
  have stillFree : (files.put location node).isFixed location = false := free
  rw [node?_of_not_isFixed stillFree, lookup_put, if_pos rfl]

theorem node?_put_of_ne {location other : Location} (elsewhere : other ≠ location)
    (node : Node) : (files.put location node).node? other = files.node? other := by
  cases fixed : files.isFixed other with
  | true =>
      have stillFixed : (files.put location node).isFixed other = true := fixed
      rw [node?_of_isFixed fixed, node?_of_isFixed stillFixed]
  | false =>
      have stillFree : (files.put location node).isFixed other = false := fixed
      rw [node?_of_not_isFixed fixed, node?_of_not_isFixed stillFree, lookup_put,
        if_neg elsewhere]

/-- No directory goes away, and the home and the current directory stay where they are. -/
structure Keeps (files after : FileSystem) : Prop where
  home : after.homePath = files.homePath
  current : after.current = files.current
  directory : ∀ location, files.node? location = some .directory →
    after.node? location = some .directory

theorem Keeps.refl (files : FileSystem) : Keeps files files where
  home := rfl
  current := rfl
  directory _ isDirectory := isDirectory

theorem Keeps.trans {middle : FileSystem} (first : Keeps files middle)
    (second : Keeps middle after) : Keeps files after where
  home := second.home.trans first.home
  current := second.current.trans first.current
  directory location isDirectory := second.directory location (first.directory location isDirectory)

/-- Something may be put where no directory is. -/
theorem keeps_put {location : Location} (vacant : files.node? location ≠ some .directory)
    (node : Node) : Keeps files (files.put location node) where
  home := rfl
  current := rfl
  directory other isDirectory := by
    have elsewhere : other ≠ location := by
      rintro rfl
      exact vacant isDirectory
    rw [node?_put_of_ne elsewhere, isDirectory]

theorem isFixed_of_vacant {location : Location}
    (vacant : files.node? location ≠ some .directory) : files.isFixed location = false := by
  cases fixed : files.isFixed location with
  | true => exact absurd (node?_of_isFixed fixed) vacant
  | false => rfl

/-- A path that can be followed leads to the same place as long as directories are kept. -/
theorem Keeps.follow (keeps : Keeps files after) {here found : Location} {names : List String}
    (followEq : files.follow here names = .ok found) : after.follow here names = .ok found := by
  induction names generalizing here with
  | nil => exact followEq
  | cons name names ih =>
      rw [FileSystem.follow] at followEq ⊢
      by_cases isDirectory : files.node? here = some .directory
      · rw [if_neg (by simp [isDirectory])] at followEq
        rw [if_neg (by simp [keeps.directory here isDirectory])]
        split at followEq
        case isTrue => cases followEq
        case isFalse short =>
          rw [if_neg short]
          exact ih followEq
      · rw [if_pos isDirectory] at followEq
        cases followEq

theorem resolve_eq_ok {path : Path} {location : Location} :
    files.resolve path = .ok location ↔
      path.names.any (·.toList.contains (Char.ofNat 0)) = false ∧
        path.toString.utf8ByteSize ≤ longestPath ∧
        files.follow (if path.root.isEmpty then files.current else []) path.names =
          .ok location := by
  unfold resolve
  cases path.names.any (·.toList.contains (Char.ofNat 0)) with
  | true => simp
  | false =>
      simp only [Bool.false_eq_true, if_false, true_and]
      split
      case isTrue long => simp [Nat.not_le.mpr long]
      case isFalse short =>
        cases files.follow (if path.root.isEmpty then files.current else []) path.names <;>
          simp [Nat.not_lt.mp short]

theorem Keeps.resolve (keeps : Keeps files after) {path : Path} {location : Location}
    (resolveEq : files.resolve path = .ok location) : after.resolve path = .ok location := by
  rw [resolve_eq_ok] at resolveEq ⊢
  rw [keeps.current]
  exact ⟨resolveEq.1, resolveEq.2.1, keeps.follow resolveEq.2.2⟩

theorem file?_eq_some_iff {location : Location} {file : File} :
    files.file? location = some file ↔ files.node? location = some (.file file) := by
  unfold file?
  split
  case h_1 node => simp [node]
  case h_2 other => exact ⟨nofun, fun node => absurd node (other file)⟩

theorem file?_put_of_ne {location other : Location} (elsewhere : other ≠ location)
    (node : Node) : (files.put location node).file? other = files.file? other := by
  rw [file?, node?_put_of_ne elsewhere, file?]

/-- The regular files are as they were, whatever directories were made. -/
structure Untouched (files after : FileSystem) : Prop where
  keeps : Keeps files after
  file : ∀ location, after.file? location = files.file? location

theorem Untouched.refl (files : FileSystem) : Untouched files files where
  keeps := .refl files
  file _ := rfl

theorem Untouched.trans {middle : FileSystem} (first : Untouched files middle)
    (second : Untouched middle after) : Untouched files after where
  keeps := first.keeps.trans second.keeps
  file location := (second.file location).trans (first.file location)

/-- A directory is made where nothing is, and so in the place of no regular file. -/
theorem untouched_makeDirectory {path : Path}
    (made : files.makeDirectory path = .ok after) : Untouched files after := by
  unfold makeDirectory at made
  split at made
  case h_1 => cases made
  case h_2 location _ =>
    split at made
    case h_1 => cases made
    case h_2 missing =>
      cases made
      have vacant : files.node? location ≠ some .directory := by simp [missing]
      refine ⟨keeps_put vacant _, fun other => ?_⟩
      by_cases here : other = location
      · subst here
        rw [file?, node?_put_self (isFixed_of_vacant vacant), file?, missing]
      · exact file?_put_of_ne here _

/-- A certain regular file is at a location, and all the others are as they were. -/
structure Replaced (files after : FileSystem) (location : Location) (file : File) : Prop where
  keeps : Keeps files after
  here : after.file? location = some file
  elsewhere : ∀ other, other ≠ location → after.file? other = files.file? other

theorem replaced_put {location : Location} (vacant : files.node? location ≠ some .directory)
    (file : File) : Replaced files (files.put location (.file file)) location file where
  keeps := keeps_put vacant _
  here := file?_eq_some_iff.mpr (node?_put_self (isFixed_of_vacant vacant) _)
  elsewhere _ elsewhere := file?_put_of_ne elsewhere _

theorem Untouched.replaced {middle : FileSystem} {location : Location} {file : File}
    (untouched : Untouched files middle) (replaced : Replaced middle after location file) :
    Replaced files after location file where
  keeps := untouched.keeps.trans replaced.keeps
  here := replaced.here
  elsewhere other elsewhere :=
    (replaced.elsewhere other elsewhere).trans (untouched.file other)

namespace Replaced

variable {location : Location} {file : File}

theorem put (replaced : Replaced files after location file) (new : File) :
    Replaced files (after.put location (.file new)) location new := by
  have vacant : after.node? location ≠ some .directory := by
    simp [file?_eq_some_iff.mp replaced.here]
  have again := replaced_put vacant new
  exact ⟨replaced.keeps.trans again.keeps, again.here, fun other elsewhere =>
    (again.elsewhere other elsewhere).trans (replaced.elsewhere other elsewhere)⟩

theorem changeMode (replaced : Replaced files after location file) (mode : Mode) :
    Replaced files (after.changeMode location mode) location { file with mode } := by
  simp only [FileSystem.changeMode, replaced.here]
  exact replaced.put _

theorem write (replaced : Replaced files after location file) (bytes : List UInt8) :
    Replaced files (after.write location bytes) location
      { file with bytes := file.bytes ++ bytes } := by
  simp only [FileSystem.write, replaced.here]
  exact replaced.put _

end Replaced

/-- No bit of a new file is outside the mode it was asked for. -/
theorem testBit_of_unmasked {mode : Mode} {bit : Nat}
    (isSet : (files.unmasked mode).testBit bit = true) : mode.testBit bit = true := by
  rw [unmasked, Nat.testBit_and, Bool.and_eq_true] at isSet
  exact isSet.1

/-- An open file is empty.  It has the mode it had, or a part of the mode it was asked for. -/
theorem replaced_create {path : Path} {mode : Mode} {location : Location}
    (created : files.create path mode = .ok (location, after)) :
    files.resolve path = .ok location ∧ ∃ old, files.Replaced after location ⟨[], old⟩ ∧
      (files.file? location = none → old = files.unmasked mode) := by
  unfold create at created
  split at created
  case h_1 => cases created
  case h_2 resolveEq =>
    split at created
    case h_1 => cases created
    case h_2 file node =>
      cases created
      refine ⟨resolveEq, file.mode, replaced_put (by simp [node]) _, fun missing => ?_⟩
      rw [file?_eq_some_iff.mpr node] at missing
      cases missing
    case h_3 node =>
      cases created
      exact ⟨resolveEq, files.unmasked mode, replaced_put (by simp [node]) _, fun _ => rfl⟩

end CookedMode.FileSystem
