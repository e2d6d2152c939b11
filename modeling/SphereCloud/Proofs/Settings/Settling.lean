import SphereCloud.App
import SphereCloud.Proofs.Settings.RoundTrip

/-!
Loading with the defaults to fall back on: what it gives, leaves and logs in every state of the
file, and that nothing is left to do when it is done again.
-/

namespace SphereCloud

namespace Settings

variable {path : String} {state : FileState}

def loadWarning (path : String) (fault : LoadFault) : LogLine :=
  ⟨.warn, "Failed to load " ++ Text.quoted path ++ ": " ++ fault.message⟩

def saveError (path : String) (fault : FileFault) : LogLine :=
  ⟨.error, "Failed to save " ++ Text.quoted path ++ ": " ++ fault.message⟩

theorem loadOrDefault_of_ok {c : Settings} (h : load state = .ok c) :
    loadOrDefault path state = ⟨(c, state), []⟩ := by
  rw [loadOrDefault, h]
  rfl

theorem loadOrDefault_of_error {fault : LoadFault} (h : load state = .error fault)
    (hstate : state ≠ .directory) :
    loadOrDefault path state = ⟨(default, saved default), [loadWarning path fault]⟩ := by
  rw [loadOrDefault, h, saveOrLog, save_eq_saved default hstate]
  rfl

theorem loadOrDefault_directory :
    loadOrDefault path .directory = ⟨(default, .directory),
      [loadWarning path (.unreadable .directory), saveError path .directory]⟩ := rfl

/-- Where the defaults can be saved, the file afterwards has the settings that were given. -/
theorem load_loadOrDefault (h : state ≠ .directory) :
    load (loadOrDefault path state).value.2 = .ok (loadOrDefault path state).value.1 := by
  cases hload : load state with
  | ok c =>
    rw [loadOrDefault_of_ok hload]
    exact hload
  | error fault =>
    rw [loadOrDefault_of_error hload h]
    exact load_saved default

theorem loadOrDefault_again (h : state ≠ .directory) :
    loadOrDefault path (loadOrDefault path state).value.2 =
      ⟨(loadOrDefault path state).value, []⟩ :=
  loadOrDefault_of_ok (load_loadOrDefault h)

end Settings

namespace App

theorem value_prepare_file (file : FileState) (entropy : Key) :
    (prepare file entropy).value.1 = (Settings.loadOrDefault settingsPath file).value.2 := by
  rw [prepare, Logged.value_bind]
  dsimp only
  split <;> rfl

/-- However the rest of a run goes, the file is as loading left it. -/
theorem file_run (file : FileState) (entropy : Key) (script : Script) :
    (run file entropy script).file = (Settings.loadOrDefault settingsPath file).value.2 := by
  rw [← value_prepare_file file entropy, run]
  dsimp only
  split <;> rfl

/-- A second run finds the file as it needs it. -/
theorem file_run_run (file : FileState) (entropy later : Key) (script next : Script) :
    (run (run file entropy script).file later next).file = (run file entropy script).file := by
  by_cases h : file = .directory
  · subst h
    rw [file_run _ later next, file_run]
    rfl
  · rw [file_run _ later next, file_run, Settings.loadOrDefault_again h]

/-- Loading gives what is in the file and leaves it, or gives the defaults with a warning and saves
them where that can be done. In both cases nothing is left for another call, or for another run. -/
theorem settings_settle (path : String) (state : FileState) :
    (∀ c, Settings.load state = .ok c →
      Settings.loadOrDefault path state = ⟨(c, state), []⟩) ∧
    (∀ fault, Settings.load state = .error fault → state ≠ .directory →
      ∃ bytes, Settings.loadOrDefault path state =
          ⟨(default, .file bytes), [Settings.loadWarning path fault]⟩ ∧
        Settings.load (.file bytes) = .ok default) ∧
    (state = .directory →
      ∃ fault, Settings.load state = .error fault ∧ Settings.loadOrDefault path state =
        ⟨(default, state), [Settings.loadWarning path fault, Settings.saveError path .directory]⟩) ∧
    (state ≠ .directory →
      Settings.loadOrDefault path (Settings.loadOrDefault path state).value.2 =
        ⟨(Settings.loadOrDefault path state).value, []⟩) ∧
    ∀ entropy script later next,
      (run (run state entropy script).file later next).file = (run state entropy script).file := by
  refine ⟨fun c => Settings.loadOrDefault_of_ok, fun fault hload hstate => ?_, ?_,
    Settings.loadOrDefault_again, fun entropy script later next => ?_⟩
  · exact ⟨_, Settings.loadOrDefault_of_error hload hstate, Settings.load_saved default⟩
  · rintro rfl
    exact ⟨.unreadable .directory, rfl, Settings.loadOrDefault_directory⟩
  · exact file_run_run state entropy later script next

end App

end SphereCloud
