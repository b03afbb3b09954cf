import CookedMode.Config.Loading
import CookedMode.Proofs.Config.Checks

/-!
# How loading a configuration ends

Whatever loads the documents, what is at the path of a configuration is either loaded, and then
sound, or it has problems that can be told, or it never came to be a document.
-/

namespace CookedMode.Config

variable {ε δ : Type} {loader : Loader ε δ} {files : FileSystem} {path : Path}

/-- What is at a path never comes to be a document: it cannot be looked up or read, or the loader
fails with it. -/
inductive Unloadable (loader : Loader ε δ) (files : FileSystem) (path : Path) :
    LoadError ε → Prop where
  | lost {error : FileError} (lookup : files.exists? path = .error error) :
    Unloadable loader files path (.file error)
  | unread {error : FileError} (found : files.exists? path = .ok true)
    (readEq : files.read path = .error error) : Unloadable loader files path (.file error)
  | unreadable {bytes : List UInt8} {unreadable : Unreadable ε}
    (found : files.exists? path = .ok true) (readEq : files.read path = .ok bytes)
    (fails : loader bytes = .error unreadable) :
    Unloadable loader files path unreadable.loadError

variable [Readable δ]

theorem Unloadable.load_eq {error : LoadError ε} (unloadable : Unloadable loader files path error) :
    loadWith loader files path = .error error := by
  cases unloadable with
  | lost lookup => simp only [loadWith, lookup]
  | unread found readEq => simp only [loadWith, found, readEq]
  | unreadable found readEq fails => simp only [loadWith, found, readEq, fails]

/-- What a document says is sound, or it has problems. -/
theorem ofDocument_cases (ε : Type) (document : δ) :
    (∃ config, (ofDocument document : Except (LoadError ε) Config) = .ok config ∧ config.Sound) ∨
      ∃ problems, (ofDocument document : Except (LoadError ε) Config) =
        .error (.invalid problems) := by
  unfold ofDocument
  split
  case isTrue => exact .inl ⟨{}, rfl, sound_history, sound_terminal⟩
  case isFalse =>
    cases valueEq : ofValue document with
    | valid config => exact .inl ⟨config, rfl, (ofValue_eq_valid_iff.mp valueEq).2⟩
    | invalid problems => exact .inr ⟨problems, rfl⟩

theorem load_cases (loader : Loader ε δ) (files : FileSystem) (path : Path) :
    (∃ config, loadWith loader files path = .ok config ∧ config.Sound) ∨
      (∃ problems, loadWith loader files path = .error (.invalid problems)) ∨
      ∃ error, loadWith loader files path = .error error ∧
        Unloadable loader files path error := by
  cases lookup : files.exists? path with
  | error error =>
    have unloadable : Unloadable loader files path _ := .lost lookup
    exact .inr (.inr ⟨_, unloadable.load_eq, unloadable⟩)
  | ok found =>
    cases found with
    | false => exact .inl ⟨{}, by simp only [loadWith, lookup], sound_history, sound_terminal⟩
    | true =>
      cases readEq : files.read path with
      | error error =>
        have unloadable : Unloadable loader files path _ := .unread lookup readEq
        exact .inr (.inr ⟨_, unloadable.load_eq, unloadable⟩)
      | ok bytes =>
        cases loadEq : loader bytes with
        | error unreadable =>
          have unloadable := Unloadable.unreadable lookup readEq loadEq
          exact .inr (.inr ⟨_, unloadable.load_eq, unloadable⟩)
        | ok document =>
          simp only [loadWith, lookup, readEq, loadEq]
          exact (ofDocument_cases ε document).imp_right .inl

end CookedMode.Config
