import SchemaPages.CommandLine.Basic

/-!
# The program

`main` carries out a call on the real host: its files, its standard input and its clock. There is
no client for servers here, so every message to a server fails like a lost connection.
-/

namespace SchemaPages.Program

open Files (Cause Kind Location Path)
open Host (Action Note Reply Request)

/-- Why an operation on files failed. -/
def causeOf (error : IO.Error) : Cause :=
  match error with
  | .alreadyExists .. => .exists
  | .inappropriateType .. => .isDirectory
  | _ => .missing

/-- Makes a failure of an operation its outcome. -/
def attempt {α : Type} (operation : IO α) : IO (Except Cause α) := do
  match ← operation.toBaseIO with
  | .ok value => return .ok value
  | .error error => return .error (causeOf error)

/-- The segments of the working directory. -/
def workingLocation : IO Location := do
  return (Path.ofString (← IO.currentDir).toString).segments

/-- Reads the rest of a stream. -/
partial def readAll (stream : IO.FS.Stream) (found : ByteArray) : IO ByteArray := do
  let more ← stream.read 65536
  if more.isEmpty then return found else readAll stream (found ++ more)

/-- What is at a path. -/
def kindAt (path : Path) : IO (Except Cause Kind) := do
  let file := (← IO.currentDir) / path.text
  if ← file.isDir then return .ok .directory
  else if ← file.pathExists then return .ok .file
  else return .error .missing

/-- Writes a file as a whole. -/
def writeFile (path : Path) (content : Text.Bytes) : IO Unit :=
  IO.FS.writeBinFile path.text ⟨content.toArray⟩

/-- Makes a directory and what is missing above it. -/
def makeDirectories (path : Path) : IO (Except Files.Failure Unit) := do
  return (← attempt (IO.FS.createDirAll path.text)).mapError fun cause => ⟨cause, path.text⟩

/-- Answers a request; notes are collected. -/
def answer {α : Type} (notes : IO.Ref (List Note)) : Request α → IO α
  | .workingDirectory => workingLocation
  | .status path => kindAt path
  | .read path => attempt do return (← IO.FS.readBinFile path.text).toList
  | .write path content => attempt (writeFile path content)
  | .makeDirectories path => makeDirectories path
  | .input => do return (← readAll (← IO.getStdin) ByteArray.empty).toList
  | .send _ => return .lost "no client for servers"
  | .pause seconds => IO.sleep (seconds * 1000).toUInt32
  | .note note => notes.modify (note :: ·)

/-- Carries out an action. -/
def perform {α : Type} (notes : IO.Ref (List Note)) : Action α → IO α
  | .done value => return value
  | .ask request next => do perform notes (next (← answer notes request))

end SchemaPages.Program

open SchemaPages in
/-- Carries out a call. -/
def main (arguments : List String) : IO UInt32 := do
  let notes ← IO.mkRef []
  let report ← Program.perform notes (CommandLine.perform arguments)
  IO.print report.stdout
  IO.eprint (report.errorText (← notes.get).reverse)
  match report.exit with
  | .ok code => return code.toUInt32
  | .error cause =>
    IO.eprintln cause.message
    return 1
