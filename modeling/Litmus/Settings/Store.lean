import Litmus.Error
import Litmus.Settings.Decoding
import Litmus.Text.Quoted

/-!
The settings in force. They can be read again from the same sources; if that fails, the settings
in force stay.
-/
namespace Litmus

/-- What settings are read from. -/
structure Sources where
  /-- The path of the settings file, if one is named. -/
  path : Option String
  /-- The text of the file, if it exists. -/
  file : Option String
  environment : List (String × String)

namespace Sources

/-- False if a file is named that does not exist. -/
def fileFound (s : Sources) : Bool := s.path.isNone || s.file.isSome

/-- The settings that the sources give now; a file that is not named is not read. -/
def load (s : Sources) : Except Fault (Except StressError Settings) :=
  (Settings.load (if s.path.isSome then s.file else none) s.environment).map fun loaded =>
    loaded.mapError fun e => .config e.message

def renderPath (s : Sources) : String :=
  match s.path with
  | none => "None"
  | some p => "Some(" ++ Text.quoted p ++ ")"

/-- The line that says that a named file is missing. -/
def missingLog (s : Sources) : Log :=
  if s.fileFound then []
  else [.of .settings .warn
    s!"CONFIG: {s.renderPath} not found. Using defaults and environment."]

/-- The lines that report the settings in force. -/
def effectiveLog (s : Sources) (current : Settings) : Log :=
  s.missingLog ++
    [.of .settings .info
      (s!"CONFIG: Loaded (file: {s.renderPath}). run = {current.run.render}, " ++
        s!"scheduler = {current.scheduler.render}")]

/-- Reads the sources again: the settings in force from now on, and the outcome. -/
def reload (s : Sources) (current : Settings) :
    Settings × Except Fault (Except StressError Settings) :=
  match s.load with
  | .ok (.ok fresh) => (fresh, .ok (.ok fresh))
  | kept => (current, kept)

def reloadLog (s : Sources) : Except StressError Settings → Log
  | .ok _ => s.missingLog ++ [.of .settings .info "CONFIG: Reloaded."]
  | .error e =>
      [.of .settings .warn
        s!"CONFIG: Reload failed ({e.message}). Keeping previous configuration."]

end Sources
end Litmus
