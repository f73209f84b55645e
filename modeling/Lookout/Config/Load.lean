import Lookout.Config.Check
import Lookout.Config.Repair
import Lookout.Toml.Reader

set_option autoImplicit false

/-! # Loading a configuration

From the text of a file to a configuration that can be used: it is read, repaired and
checked. Loading fails if the file cannot be read, if its text is not TOML of the right
shape, or if the repaired configuration has problems.
-/

namespace Lookout.Config

/-- Why the contents of a file are not to be had. -/
inductive FileError
  | notFound | isDirectory | notDirectory | nameTooLong | nulInName | notText
  deriving Repr, DecidableEq

/-- The wording of a file error. -/
def FileError.text : FileError → String
  | notFound => "No such file or directory (os error 2)"
  | isDirectory => "Is a directory (os error 21)"
  | notDirectory => "Not a directory (os error 20)"
  | nameTooLong => "File name too long (os error 36)"
  | nulInName => "file name contained an unexpected NUL byte"
  | notText => "stream did not contain valid UTF-8"

/-- The text that describes a file error. -/
def FileError.describe : FileError → String
  | notFound => "Os \x7b code: 2, kind: NotFound, message: \"No such file or directory\" \x7d"
  | isDirectory => "Os \x7b code: 21, kind: IsADirectory, message: \"Is a directory\" \x7d"
  | notDirectory =>
    "Os \x7b code: 20, kind: NotADirectory, message: \"Not a directory\" \x7d"
  | nameTooLong =>
    "Os \x7b code: 36, kind: InvalidFilename, message: \"File name too long\" \x7d"
  | nulInName =>
    "Error \x7b kind: InvalidInput, message: \"file name contained an unexpected NUL byte\" \x7d"
  | notText =>
    "Error \x7b kind: InvalidData, message: \"stream did not contain valid UTF-8\" \x7d"

/-- Why a configuration cannot be loaded. -/
inductive LoadError
  | unreadable (path : String) (error : FileError)
  | malformed
  | invalid (problems : List Problem)
  deriving Repr, DecidableEq

/-- The wording of a load error; of a malformed text only that it is. -/
def LoadError.text : LoadError → String
  | unreadable path e => "failed to read " ++ path ++ ": " ++ e.text
  | malformed => "parse error"
  | invalid problems => "validation failed: " ++ ", ".intercalate (problems.map Problem.text)

/-- The text that describes a load error; of a malformed text only that it is. -/
def LoadError.describe : LoadError → String
  | unreadable path e =>
    "Io \x7b path: " ++ Text.quoted path ++ ", source: " ++ e.describe ++ " \x7d"
  | malformed => "Parse"
  | invalid problems => "Validation(" ++ Text.bracketed (problems.map Problem.describe) ++ ")"

/-- A configuration from the text of a file, with what was corrected. -/
def parse (text : String) : Except LoadError (Config × List Correction) :=
  match (Toml.read? text).bind fun t => ofNode? (.table (Node.ofTomlEntries t)) with
  | none => .error .malformed
  | some c =>
    let (repaired, corrections) := c.repair
    match repaired.problems with
    | [] => .ok (repaired, corrections)
    | problems => .error (.invalid problems)

/-- A configuration from the bytes of a file, or from the reason why there are none. -/
def load (path : String) (contents : Except FileError ByteArray) :
    Except LoadError (Config × List Correction) :=
  match contents with
  | .error e => .error (.unreadable path e)
  | .ok bytes =>
    match String.fromUTF8? bytes with
    | none => .error (.unreadable path .notText)
    | some text => parse text

end Lookout.Config
