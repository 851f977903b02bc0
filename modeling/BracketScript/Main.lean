import BracketScript.CommandLine.Invocation

/-! The program itself. -/

namespace BracketScript.CommandLine

/-- Why an access failed, in the words of the system. -/
def reason : IO.Error → String
  | .noFileOrDirectory .. => "No such file or directory (os error 2)"
  | .permissionDenied .. => "Permission denied (os error 13)"
  | .inappropriateType _ 21 _ => "Is a directory (os error 21)"
  | .inappropriateType .. => "Not a directory (os error 20)"
  | e => toString e

def textOf (bytes : ByteArray) : Except String String :=
  match String.fromUTF8? bytes with
  | some text => .ok text
  | none => .error "stream did not contain valid UTF-8"

def readBytes (access : IO ByteArray) : IO (Except String String) :=
  try return textOf (← access) catch e => return .error (reason e)

partial def readToEnd (stream : IO.FS.Stream) (bytes : ByteArray) : IO ByteArray := do
  let more ← stream.read 65536
  if more.isEmpty then return bytes
  readToEnd stream (bytes ++ more)

/-- Something has this name, be it readable or not. -/
def fileExists (path : String) : IO Bool :=
  try
    discard (IO.FS.readBinFile path)
    return true
  catch
    | .noFileOrDirectory .. => return false
    | .inappropriateType _ code _ => return code == 21
    | _ => return true

def system : Surroundings IO where
  fileText path := readBytes (IO.FS.readBinFile path)
  fileExists := fileExists
  inputText := do readBytes (readToEnd (← IO.getStdin) .empty)
  home := IO.getEnv "HOME"

end BracketScript.CommandLine

def main (args : List String) : IO UInt32 := do
  let report ← BracketScript.CommandLine.run BracketScript.CommandLine.system args
  IO.print report.output
  IO.eprint report.complaints
  return report.exitCode
