import SphereCloud.App

/-!
The program itself. The settings lie in the working directory and the log goes to standard error.
There is no window system here: the session is that of a window that is closed before its first
frame.
-/

namespace SphereCloud.App

/-- What lies at a path. What is there but cannot be read counts as a directory. -/
def readState (path : String) : IO FileState := do
  try
    return .file (← IO.FS.readBinFile path)
  catch
    | .noFileOrDirectory .. => return .absent
    | _ => return .directory

def writeState (path : String) (before after : FileState) : IO Unit :=
  match before, after with
  | .file old, .file new => unless old.data == new.data do IO.FS.writeBinFile path new
  | _, .file new => IO.FS.writeBinFile path new
  | _, _ => return

end SphereCloud.App

open SphereCloud

def main : IO UInt32 := do
  let file ← App.readState App.settingsPath
  let entropy := Key.ofBytes (← IO.getRandomBytes 32)
  let outcome := App.run file entropy ⟨true, []⟩
  App.writeState App.settingsPath file outcome.file
  let filter := (← IO.getEnv App.logVariable).getD App.defaultFilter
  for line in outcome.log do
    if App.isShown filter line then IO.eprintln line.render
  match outcome.result with
  | .ok () => return 0
  | .error fault =>
    IO.eprintln ("Error: " ++ fault.message)
    return 1
