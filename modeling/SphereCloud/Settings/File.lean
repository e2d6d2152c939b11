import SphereCloud.Settings.Basic
import SphereCloud.Settings.Reader
import SphereCloud.Log

/-!
Settings kept in a file. What lies at the path of the file is a value, and saving gives the value
that lies there afterwards.
-/

namespace SphereCloud

inductive FileState where
  | absent
  | directory
  | file (bytes : ByteArray)

inductive FileFault where
  | absent
  | directory
  | notUtf8
  deriving DecidableEq, Repr

def FileFault.message : FileFault → String
  | .absent => "No such file or directory (os error 2)"
  | .directory => "Is a directory (os error 21)"
  | .notUtf8 => "stream did not contain valid UTF-8"

def FileState.text : FileState → Except FileFault String
  | .absent => .error .absent
  | .directory => .error .directory
  | .file bytes =>
    match String.fromUTF8? bytes with
    | some text => .ok text
    | none => .error .notUtf8

def FileState.put (state : FileState) (text : String) : Except FileFault FileState :=
  match state with
  | .directory => .error .directory
  | _ => .ok (.file text.toUTF8)

namespace Settings

inductive LoadFault where
  | unreadable (fault : FileFault)
  | malformed (fault : RecordText.Fault)
  deriving DecidableEq, Repr

def LoadFault.message : LoadFault → String
  | .unreadable fault => fault.message
  | .malformed fault => fault.message

def load (state : FileState) : Except LoadFault Settings :=
  match state.text with
  | .error fault => .error (.unreadable fault)
  | .ok text =>
    match read text.toList with
    | .error fault => .error (.malformed fault)
    | .ok settings => .ok settings

def save (c : Settings) (state : FileState) : Except FileFault FileState :=
  state.put (String.ofList c.written)

/-- Writes settings to a file; if that fails the file is as before and the failure is logged. -/
def saveOrLog (c : Settings) (path : String) (state : FileState) : Logged FileState :=
  match c.save state with
  | .ok saved => pure saved
  | .error fault => do
    log .error ("Failed to save " ++ Text.quoted path ++ ": " ++ fault.message)
    pure state

/-- The settings in a file. If they cannot be loaded that is logged, and the defaults take their
place, also in the file. -/
def loadOrDefault (path : String) (state : FileState) : Logged (Settings × FileState) :=
  match load state with
  | .ok settings => pure (settings, state)
  | .error fault => do
    log .warn ("Failed to load " ++ Text.quoted path ++ ": " ++ fault.message)
    let saved ← (default : Settings).saveOrLog path state
    pure (default, saved)

end Settings

end SphereCloud
