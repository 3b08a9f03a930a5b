import ClassList.Json.Reader
import ClassList.Options

/-! Options from a file that holds one JSON object. -/

namespace ClassList

inductive FileContent where
  | missing
  | directory
  | octets (bytes : ByteArray)

namespace Options

/-- The value in a file. That the whole file is UTF-8 is checked before any of it is read as JSON. -/
def fileValue (path : Text) : FileContent → Except ConfigError Value
  | .missing => .error (.fileNotFound path)
  | .directory => .error (.fileNotReadable path)
  | .octets bytes =>
    match String.fromUTF8? bytes with
    | none => .error (.fileNotUtf8 path)
    | some s =>
      match Json.read? s.toList with
      | none => .error (.fileNotJson path)
      | some v => .ok v

def ofFile (path : Text) (content : FileContent) : Job Options := do
  let raw ← Job.ofExcept (Failure.ofConfig (fileValue path content))
  report [.fileLoaded path]
  read raw

end Options

end ClassList
