import PaperTape.FileSystem
import PaperTape.Object.File

namespace PaperTape.ObjectFile

def readPath (files : FileSystem) (path : String) : Except TapeError ObjectFile × List Event :=
  match files.openEntry path with
  | .error cause => (.error (.couldNotOpen cause.text), [])
  | .ok entry =>
    let reading := Reading.ofReader entry.reader
    let result :=
      match reading.failure with
      | some error => .error error
      | none => .ok { named path with blocks := reading.blocks }
    (result, readJournal path reading)

end PaperTape.ObjectFile
