import CsvQuery.Text.Utf8

/-!
# Files as a program finds them

What is at a path is either some bytes or a reason why they cannot be had.

* `AccessFailure`: such a reason, with the wording of the operating system.
* `Files`: the bytes at every path, at one moment.
* `Files.text`: the text at a path.
-/

namespace CsvQuery

/-- Why a file cannot be read or written. -/
inductive AccessFailure
  /-- Nothing is there. -/
  | missing
  /-- A folder is there. -/
  | isFolder
  /-- Something that is no folder is where a folder should be made. -/
  | occupied
  /-- A step of the path leads through something that is no folder. -/
  | notFolder
  /-- The bytes are not the UTF-8 form of a text. -/
  | notText
  /-- A reason that has no case of its own, in words. -/
  | other (reason : String)
  deriving DecidableEq, Repr

/-- The reason in words. -/
def AccessFailure.message : AccessFailure → String
  | missing => "No such file or directory (os error 2)"
  | isFolder => "Is a directory (os error 21)"
  | occupied => "File exists (os error 17)"
  | notFolder => "Not a directory (os error 20)"
  | notText => "stream did not contain valid UTF-8"
  | other reason => reason

/-- The bytes at every path. -/
abbrev Files := String → Except AccessFailure ByteArray

/-- The text that some bytes stand for. -/
def decodeText (bytes : ByteArray) : Except AccessFailure String :=
  match Utf8.decode? bytes.data.toList with
  | some s => .ok (String.ofList s)
  | none => .error .notText

/-- The text at a path. -/
def Files.text (files : Files) (path : String) : Except AccessFailure String :=
  files path >>= decodeText

end CsvQuery
