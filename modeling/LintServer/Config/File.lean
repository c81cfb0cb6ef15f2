import LintServer.Config.Rules
import LintServer.Error
import LintServer.Yaml.Document

/-!
# Configuration files

A configuration file holds rule settings as YAML or JSON, as the extension of its name says. A
file that holds a null, or as YAML nothing at all, has no settings; one that holds anything but a
mapping is refused.

A directory is configured by the first file in it that has one of three names. A project is
configured by the nearest configured directory on the way from its root upwards; nothing further
up is looked at, and a broken file there is an error rather than a reason to look on.
-/

namespace LintServer

/-! ## What a file says -/

namespace Rules

/-- The notation of a configuration file. -/
inductive Notation where
  | json
  | yaml
  deriving Repr, DecidableEq

/-- The notation of a file by the extension of its name: YAML for `yaml` and `yml`, JSON for
everything else. -/
def Notation.ofPath (path : Path) : Notation :=
  match path.extension? with
  | none => .json
  | some extension =>
    if extension = Text.bytesOf "yaml" ∨ extension = Text.bytesOf "yml" then .yaml else .json

/-- The value that a text denotes. -/
def Notation.value (as : Notation) (text : String) : Except Malformed Json :=
  match as with
  | .yaml =>
    match Yaml.parse? text with
    | some value => .ok value
    | none => .error .yaml
  | .json => (Json.parse text).mapError .json

/-- Settings from a value: a mapping, or nothing. -/
def ofValue : Json → Except Malformed Rules
  | .obj fields => .ok (ofFields fields)
  | .null => .ok empty
  | value => .error (.notAMapping value.kind)

/-- The settings in the file at `path`. -/
def read (files : FileSystem) (path : Path) : Except Error Rules := do
  let text ← (files.read path).mapError (.unreadable path)
  ((Notation.ofPath path).value text >>= ofValue).mapError (.malformed path)

end Rules

/-! ## Which file counts -/

namespace Config

/-- The names of configuration files, those that are preferred first. -/
def fileNames : List Path :=
  [".markdownlint.json", ".markdownlint.yaml", ".markdownlint.yml"].map Path.ofString

/-- The configuration file of a directory. -/
def fileIn? (files : FileSystem) (directory : Path) : Option Path :=
  (fileNames.map directory.join).find? files.isFile

/-- The configuration file of the nearest configured directory from `root` upwards. -/
def nearest? (files : FileSystem) (root : Path) : Option Path :=
  root.ancestors.findSome? (fileIn? files)

/-- The nearest configuration file with its settings. -/
def discover (files : FileSystem) (root : Path) : Except Error (Option (Path × Rules)) :=
  match nearest? files root with
  | none => .ok none
  | some path => (Rules.read files path).map fun rules => some (path, rules)

/-- The directory of the settings that hold for every project: below the base directory for
configuration if that is an absolute path, else below the home directory. -/
def globalDirectory (base : Option Path) (home : Path) : Path :=
  let above := (base.filter Path.isAbsolute).getD (home.join (.ofString ".config"))
  above.join (.ofString "mkdlint-lsp")

end Config

end LintServer
