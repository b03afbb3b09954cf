import CookedMode.Config.Kinds
import CookedMode.Config.Validation
import CookedMode.File.System
import CookedMode.Yaml.Document

/-!
# Loading a configuration

A configuration is read from a document.  What makes documents of the bytes of a file is given: it
may fail for reasons of its own.  A missing file and a document without content both stand for the
configuration that nothing is said about.
-/

namespace CookedMode.Config

/-- Why no document comes of some bytes. -/
inductive Unreadable (ε : Type) where
  /-- They are no text. -/
  | undecodable (error : Utf8.Error)
  /-- What loads documents fails. -/
  | document (error : ε)

/-- What loads documents, each from the bytes of a file. -/
abbrev Loader (ε δ : Type) := List UInt8 → Except (Unreadable ε) δ

/-- Why a configuration cannot be loaded. -/
inductive LoadError (ε : Type := Yaml.Error) where
  | file (error : FileError)
  | undecodable (error : Utf8.Error)
  | document (error : ε)
  | invalid (problems : List Problem)
  deriving Repr

/-- A configuration cannot be loaded if there is no document. -/
def Unreadable.loadError {ε : Type} : Unreadable ε → LoadError ε
  | undecodable error => .undecodable error
  | document error => .document error

/-- The path of the configuration unless said otherwise. -/
def standardPath : String := "termline.yaml"

section

variable {ε δ : Type} [Readable δ]

/-- The configuration of a document, which may be without content. -/
def ofDocument (document : δ) : Except (LoadError ε) Config :=
  if Readable.isEmpty document then .ok {}
  else
    match ofValue document with
    | .valid config => .ok config
    | .invalid problems => .error (.invalid problems)

/-- The configuration at a path, with some loader of documents. -/
def loadWith (loader : Loader ε δ) (files : FileSystem) (path : Path) :
    Except (LoadError ε) Config :=
  match files.exists? path with
  | .error error => .error (.file error)
  | .ok false => .ok {}
  | .ok true =>
    match files.read path with
    | .error error => .error (.file error)
    | .ok bytes =>
      match loader bytes with
      | .error unreadable => .error unreadable.loadError
      | .ok document => ofDocument document

end

/-! ## YAML -/

/-- The text of a document.  Bytes that begin a character at its end are looked at
again on their own, and their positions are counted from there. -/
def decodeDocument (bytes : List UInt8) : Except Utf8.Error String :=
  (Utf8.decode? bytes).mapError fun error =>
    if error.flaw = .truncated then { error with position := 0 } else error

/-- The loader of YAML documents that hold no collection inside itself, and none too deep inside
others. -/
def yaml : Loader Yaml.Error Value := fun bytes =>
  match decodeDocument bytes with
  | .error error => .error (.undecodable error)
  | .ok text => (Yaml.load text).mapError .document

/-- The configuration at a path. -/
def load (files : FileSystem) (path : Path) : Except LoadError Config :=
  loadWith yaml files path

end CookedMode.Config
