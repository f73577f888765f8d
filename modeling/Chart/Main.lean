import Chart.Command.Program
import Chart.Document.Reader

/-!
# Main — the program

`Program.run` on the real files and with the real clock: it reads the configuration files, plans the command
line, reads or writes **the one file that the command names**, and its outcome is printed here.
-/

namespace Chart.Main

/-- Whether an error has a number; some calls give it with a minus sign. -/
def hasNumber (code number : UInt32) : Bool := code == number || code == 0 - number

/-- The fault that has a number; one without a constructor of its own keeps the words of the system. -/
def faultOfNumber (code : UInt32) (details : String) : FileFault :=
  if hasNumber code 20 then .notADirectory
  else if hasNumber code 21 then .isADirectory
  else if hasNumber code 36 then .nameTooLong
  else
    let number := if code < 0x80000000 then code else 0 - code
    .refused ("[Errno ".toList ++ Text.ofNat number.toNat ++ "] ".toList ++ details.toList)

/-- The fault that an error of the operating system is, if it is about the path of a file. -/
def faultOf? : IO.Error → Option FileFault
  | .noFileOrDirectory .. => some .notFound
  | .inappropriateType _ code details | .invalidArgument _ code details
  | .resourceExhausted _ code details | .permissionDenied _ code details =>
    some (faultOfNumber code details)
  | .otherError code details => some (faultOfNumber code details)
  | _ => none

/-- Runs an action on a file; errors that are no faults of a path stay errors. -/
def onFile {α : Type} (action : IO α) : IO (Except FileFault α) := do
  try
    return .ok (← action)
  catch e =>
    match faultOf? e with
    | some f => return .error f
    | none => throw e

/-- The bytes of a configuration file, if there is one. -/
def configFile? (path : String) : IO (Option ByteArray) := do
  match ← onFile (IO.FS.readBinFile path) with
  | .ok data => return some data
  | .error (.refused reason) => throw (IO.userError (String.ofList reason))
  | .error _ => return none

/-- The configuration files of the working and the home directory. -/
def configFiles : IO ConfigFiles := do
  let name := String.ofList ConfigFiles.fileName
  let home ← match ← IO.getEnv "HOME" with
    | some directory => configFile? (directory ++ "/" ++ name)
    | none => pure none
  return ⟨← configFile? name, home⟩

/-- The text at a path. -/
def readText (path : Text) : IO ReadResult := do
  if '\x00' ∈ path then return .nullCharacter
  match ← onFile (IO.FS.readBinFile (String.ofList (Path.normalised path))) with
  | .error f => return .fault f
  | .ok data =>
    match Text.ofFile? data with
    | some t => return .text t
    | none => return .notUtf8

/-- Writes bytes to the file at a path. -/
def write (path : Text) (data : ByteArray) : IO (Except FileFault Unit) :=
  onFile (IO.FS.writeBinFile (String.ofList path) data)

/-- The seconds on the clock. -/
def seconds : IO Rat := do
  return (← IO.monoNanosNow : Nat) / (1000000000 : Rat)

/-- **The system that the process runs on.** -/
def system : System IO where
  configFiles := configFiles
  readText := readText
  write := write
  now := seconds

/-- What is shown of a failure. -/
def shown (f : Failure) : String :=
  String.ofList (f.message?.getD "cyk: the command could not be completed".toList)

end Chart.Main

/-- **The program.**  A failure that no command reports is shown and ends the program with code 1. -/
def main (arguments : List String) : IO UInt32 := do
  let o ← Chart.Program.run Chart.Main.system Chart.Document.read (arguments.map String.toList)
  (← IO.getStdout).putStr (String.ofList o.stdout)
  (← IO.getStderr).putStr (String.ofList o.stderr)
  match o.ending with
  | .exit code => return code.toUInt32
  | .failure f =>
    (← IO.getStderr).putStrLn (Chart.Main.shown f)
    return 1
