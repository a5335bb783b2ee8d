import DesignTokens.CommandLine.Run
import Std.Time.DateTime.Timestamp

/-!
# The program

The outer layer of the command line: files of the disk, fresh ids and the time.
-/

namespace DesignTokens

/-- The cause of a failed access to the disk. -/
def FileError.ofDisk : IO.Error → FileError
  | .noFileOrDirectory .. => .notFound
  | .alreadyExists .. => .alreadyExists
  | e => .other (toString e)

/-- Runs an access to the disk. -/
def onDisk {α : Type} (action : IO α) : IO (Except FileError α) := do
  try
    return .ok (← action)
  catch e => return .error (.ofDisk e)

instance : MonadFiles IO where
  readText path := do
    match ← onDisk (IO.FS.readBinFile path) with
    | .error e => return .error e
    | .ok content =>
      match String.fromUTF8? content with
      | some text => return .ok text
      | none => return .error .notText
  writeText path text := onDisk (IO.FS.writeFile path text)
  makeFolder path := onDisk (IO.FS.createDir path)
  isFolder path := do
    match ← onDisk (IO.FS.createDir (path ++ "/.")) with
    | .error .alreadyExists => return true
    | _ => return false

/-- Two hexadecimal digits of a byte. -/
def byteText (b : UInt8) : String :=
  String.ofList [Json.hexDigit (b.toNat / 16), Json.hexDigit (b.toNat % 16)]

/-- A stamp with a random id and the time. -/
def freshStamp : IO Stamp := do
  let bytes ← IO.getRandomBytes 16
  let now ← Std.Time.Timestamp.now
  return ⟨String.join (bytes.toList.map byteText), Int64.ofInt now.toMillisecondsSinceUnixEpoch.val⟩

end DesignTokens

/-- Carries out the command line. -/
def main (arguments : List String) : IO UInt32 := do
  let stamp ← DesignTokens.freshStamp
  let outcome ← DesignTokens.runArguments stamp arguments
  IO.print outcome.result
  IO.eprint outcome.note
  return outcome.code
