import LintServer.Config.File
import LintServer.Config.Settings

/-!
# Loading the rule settings

The settings in force are the built-in ones with up to three layers laid over them in turn: the
user's settings for every project, those of the project, and those of the editor. A layer that
cannot be read adds nothing but its error to the result, and does not keep the others from being
laid on.
-/

namespace LintServer.Config

/-! ## Layers -/

/-- What one place of settings comes to. -/
inductive Layer where
  | absent
  | file (path : Path) (rules : Rules)
  | unnamed (rules : Rules)
  | failed (error : Error)

/-- The layer of a file that may not be there. -/
def Layer.ofFile : Except Error (Option (Path × Rules)) → Layer
  | .error e => .failed e
  | .ok none => .absent
  | .ok (some (path, rules)) => .file path rules

/-- The outcome of a load: the settings, the files that they come from, and what went wrong. -/
structure Load where
  rules : Rules := .builtin
  sources : List Path := []
  failures : List Error := []

/-- The outcome with one more layer. -/
def Load.add (load : Load) : Layer → Load
  | .absent => load
  | .file path rules =>
    { load with rules := load.rules.overlay rules, sources := load.sources ++ [path] }
  | .unnamed rules => { load with rules := load.rules.overlay rules }
  | .failed e => { load with failures := load.failures ++ [e] }

/-! ## Loaders -/

/-- Where settings are to be looked for. The editor's settings are a value that may be no
settings. -/
structure Loader where
  globalDirectory : Option Path := none
  root : Option Path := none
  settings : Option Json := none

namespace Loader

/-- The user's settings for every project. -/
def globalLayer (loader : Loader) (files : FileSystem) : Layer :=
  match loader.globalDirectory.bind (fileIn? files) with
  | none => .absent
  | some path => .ofFile ((Rules.read files path).map fun rules => some (path, rules))

/-- The settings of the project. That there is no project is an error. -/
def projectLayer (loader : Loader) (files : FileSystem) : Layer :=
  match loader.root with
  | none => .failed .missingRoot
  | some root => .ofFile (discover files root)

/-- The settings of the editor. -/
def editorLayer (loader : Loader) : Layer :=
  match loader.settings with
  | none => .absent
  | some value =>
    match EditorSettings.ofJson value with
    | .error e => .failed (.settings e)
    | .ok settings => settings.rules?.elim .absent .unnamed

/-- The layers, from the lowest up. -/
def layers (loader : Loader) (files : FileSystem) : List Layer :=
  [loader.globalLayer files, loader.projectLayer files, loader.editorLayer]

def load (loader : Loader) (files : FileSystem) : Load :=
  (loader.layers files).foldl Load.add {}

/-- Every path that a load may ask the file system about. -/
def candidates (loader : Loader) : List Path :=
  let directories := loader.globalDirectory.toList ++ loader.root.elim [] Path.ancestors
  directories.flatMap fun directory => fileNames.map directory.join

end Loader

end LintServer.Config
