/-
Schedule files.

A file holds a document as JSON text in UTF-8, with line ends of any kind.
-/
import ZonePlan.Document.Build
import ZonePlan.Text.LineEnds

namespace ZonePlan

/-- What is found at the place of a schedule file. -/
inductive FileContent where
  | absent
  | directory
  | bytes (bytes : List Nat)
deriving DecidableEq

/-- A file of the given text. -/
def FileContent.ofText (t : Text) : Except Failure FileContent :=
  ((Text.Utf8.encode t).mapError .notEncodable).map .bytes

namespace Document

/-- The bytes of a file. -/
def fileBytes (path : String) : FileContent → Except Failure (List Nat)
  | .absent => .error (.unreadableFile path .absent)
  | .directory => .error (.unreadableFile path .isDirectory)
  | .bytes bytes => .ok bytes

/-- The value that a file holds as JSON text. -/
def fileValue (path : String) (bytes : List Nat) : Except Failure Json.Value := do
  let chars ← (Text.Utf8.decode bytes).mapError .notUtf8
  let chars := Text.unifyLineEnds chars
  match Json.read .lenient chars with
  | .ok v => return v
  | .error ⟨.longNumber digits, _⟩ => throw (.numberTooLong digits)
  | .error ⟨.nestedTooDeep container, _⟩ => throw (.nestedTooDeep container)
  | .error fault => throw (.notJson path (fault.locate chars))

/-- The schedule that a file holds. -/
def load (resolve : String → Option Zone) (path : String) (content : FileContent) :
    Logged Schedule := do
  let bytes ← Logged.ofExcept (fileBytes path content)
  let v ← Logged.ofExcept (fileValue path bytes)
  let s ← scheduleOf resolve v
  Logged.note (.fileLoaded s.size path)
  return s

end Document
end ZonePlan
