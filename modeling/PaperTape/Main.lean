import PaperTape.Assembly.Command
import PaperTape.Listing.Command

namespace PaperTape

open FileSystem

def observe (files : FileSystem) (path : String) : IO FileSystem := do
  match files.resolve path with
  | .error _ => return files
  | .ok place =>
    if (files.find? place).isSome then return files
    try
      return files.put place (.file (← IO.FS.readBinFile path).toList)
    catch
      | .inappropriateType _ 21 _ => return files.put place .directory
      | _ => return files

def pathsTo (path : String) : List String :=
  let parts := path.splitOn "/"
  ((List.range parts.length).map fun count => "/".intercalate (parts.take (count + 1))).filter (!·.isEmpty)

def observeAll (paths : List String) : IO FileSystem := do
  let working := names ((← IO.getEnv "PWD").getD "").toList
  (paths.flatMap pathsTo).foldlM observe (standard working)

def printErrors (lines : List String) : IO Unit := lines.forM fun line => IO.eprintln line

def list (arguments : List String) : IO UInt32 := do
  let listing := Listing.run (← observeAll arguments) arguments
  IO.print listing.text
  printErrors listing.errors
  return UInt32.ofNat listing.exit

def assemble (arguments : List String) : IO UInt32 := do
  let (paths, output) :=
    match Assembly.Request.ofArguments {} arguments with
    | .assemble taken => (taken.files ++ taken.config.toList ++ taken.output.toList, taken.output)
    | _ => ([], none)
  let outcome := Assembly.run (← observeAll paths) (← IO.getEnv "TAPE_LOG") arguments
  (← IO.getStdout).write (ByteArray.mk outcome.output.toArray)
  printErrors outcome.errors
  if outcome.exit == 0 then
    if let some path := output then
      if let some bytes := outcome.files.contents? path then
        IO.FS.writeBinFile path (ByteArray.mk bytes.toArray)
  return UInt32.ofNat outcome.exit

end PaperTape

def main : List String → IO UInt32
  | "list" :: arguments => PaperTape.list arguments
  | "assemble" :: arguments => PaperTape.assemble arguments
  | _ => do
    IO.eprintln "usage: papertape list|assemble [ARGUMENTS]"
    return 2
