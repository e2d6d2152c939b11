import SphereCloud.Cloud.Production
import SphereCloud.Settings.File
import SphereCloud.View.Session

/-!
The whole program: settings from a file, the clouds they ask for, and a viewer of them.
-/

namespace SphereCloud.App

def settingsPath : String := "sphere_sampling.ron"

/-- The variable of the environment that a filter of the log is taken from. -/
def logVariable : String := "RUST_LOG"

def defaultFilter : String := "warn,sphere_sampling=info"

/-- Whether a filter shows a line of this program. A line counts as logged under the name of the
program, so that a directive about one part of it is not about the line. -/
def isShown (filter : String) (line : LogLine) : Bool :=
  line.level.passes filter "sphere_sampling".toList

theorem isShown_default {line : LogLine} :
    isShown defaultFilter line = true ↔ line.level ≠ .debug := by
  rw [isShown]
  cases line.level <;> decide

inductive Fault where
  | sampling (fault : SampleFault Float)
  | session (fault : SessionFault)
  deriving DecidableEq

def Fault.message : Fault → String
  | .sampling fault => fault.message
  | .session fault => fault.message

/-- What can be seen of a run from outside. -/
structure Outcome where
  session : Session
  file : FileState
  log : List LogLine
  result : Except Fault Unit

def prepare (file : FileState) (entropy : Key) :
    Logged (FileState × Viewer × Except (SampleFault Float) Unit) := do
  let (settings, file) ← Settings.loadOrDefault settingsPath file
  if settings.uniformSeed.isNone then
    log .info "No uniform seed configured, random samples will differ between runs"
  let (viewer, result) ← settings.produce entropy Viewer.initial
  return (file, viewer, result)

private def noSession : Session := ⟨none, none, [], [], [], .ok ()⟩

def run (file : FileState) (entropy : Key) (script : Script) : Outcome :=
  let prepared := prepare file entropy
  let (file, viewer, result) := prepared.value
  match result with
  | .error fault => ⟨noSession, file, prepared.lines, .error (.sampling fault)⟩
  | .ok () =>
    let session := viewer.run script
    ⟨session, file, prepared.lines ++ session.log,
      match session.result with
      | .ok () => .ok ()
      | .error fault => .error (.session fault)⟩

end SphereCloud.App
