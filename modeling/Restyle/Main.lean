import Restyle.CommandLine

set_option autoImplicit false

/-! # The program -/

namespace Restyle.Main

/-- Whether the system reports the error `number`. Some calls report it with the opposite sign. -/
def reports (code number : UInt32) : Bool := code == number || code == 0 - number

/-- The fault that the system reports. -/
def faultOf : IO.Error → FileFault
  | .noFileOrDirectory .. => .notFound
  | .inappropriateType _ code details =>
    if reports code 20 then .notDirectory
    else if reports code 21 then .isDirectory
    else .described details
  | .invalidArgument _ code details =>
    if reports code 36 then .nameTooLong else .described details
  | .permissionDenied .. => .described "Permission denied (os error 13)"
  | e => .described (toString e)

/-- Access to the files of the system. -/
def access : FileAccess IO where
  readText path := do
    try return FileSystem.decodeText (← IO.FS.readBinFile path)
    catch e => return .error (faultOf e)
  readStdin := do
    try return FileSystem.decodeText (← (← IO.getStdin).readBinToEnd)
    catch e => return .error (faultOf e)
  writeText path text := do
    try
      IO.FS.writeBinFile path text.toUTF8
      return .ok ()
    catch e => return .error (faultOf e)

end Restyle.Main

/-- Convert a stylesheet as the command line asks for. -/
def main (arguments : List String) : IO UInt32 := do
  let result ← Restyle.CommandLine.run Restyle.Main.access arguments
  if result.code == 2 then
    if let .text _ := result.reply then
      IO.eprintln "error: the arguments cannot be accepted; try --help"
  let stdout ← IO.getStdout
  stdout.putStr result.reply.printed
  stdout.flush
  return UInt32.ofNat result.code
