import LintServer.Config.Loader
import LintServer.Proofs.Config.Overlay

/-!
# What a load comes to

A load goes over its layers one by one and gathers three things on the way.
They do not mix: the settings are those of the layers that have any, laid
over each other, the sources are the paths of the layers that have one, and
the failures are the errors of the layers that failed, all in the order of
the layers and for any list of them (`Load.foldl_add`).

Each of the three places of settings is read on its own and comes to an
error, to something or to nothing (`globalFile`, `projectFile`,
`editorRules`). `load_overlays` puts both together.
-/

namespace LintServer.Config

/-! ## Laying on layers -/

namespace Layer

def rules : Layer → List Rules
  | .file _ rules => [rules]
  | .unnamed rules => [rules]
  | _ => []

def sources : Layer → List Path
  | .file path _ => [path]
  | _ => []

def failures : Layer → List Error
  | .failed e => [e]
  | _ => []

end Layer

theorem Load.foldl_add (load : Load) (layers : List Layer) :
    layers.foldl Load.add load =
      { rules := (layers.flatMap Layer.rules).foldl Rules.overlay load.rules
        sources := load.sources ++ layers.flatMap Layer.sources
        failures := load.failures ++ layers.flatMap Layer.failures } := by
  induction layers generalizing load with
  | nil => simp
  | cons layer layers ih =>
      rw [List.foldl_cons, ih]
      cases layer <;> simp [Load.add, Layer.rules, Layer.sources, Layer.failures]

/-! ## Reading the places of settings -/

/-- What was found, if the reading did not fail. -/
def found {α : Type} : Except Error (Option α) → List α
  | .ok a => a.toList
  | .error _ => []

def failedWith {α : Type} : Except Error (Option α) → List Error
  | .ok _ => []
  | .error e => [e]

namespace Loader

def globalFile (loader : Loader) (files : FileSystem) : Except Error (Option (Path × Rules)) :=
  match loader.globalDirectory.bind (fileIn? files) with
  | none => .ok none
  | some path => (Rules.read files path).map fun rules => some (path, rules)

/-- The configuration file of the project. There has to be a project. -/
def projectFile (loader : Loader) (files : FileSystem) : Except Error (Option (Path × Rules)) :=
  match loader.root with
  | none => .error .missingRoot
  | some root => discover files root

def editorRules (loader : Loader) : Except Error (Option Rules) :=
  match loader.settings with
  | none => .ok none
  | some value => ((EditorSettings.ofJson value).mapError .settings).map EditorSettings.rules?

variable (loader : Loader) (files : FileSystem)

theorem globalLayer_eq : loader.globalLayer files = .ofFile (loader.globalFile files) := by
  unfold globalLayer globalFile
  cases loader.globalDirectory.bind (fileIn? files) <;> rfl

theorem projectLayer_eq : loader.projectLayer files = .ofFile (loader.projectFile files) := by
  unfold projectLayer projectFile
  cases loader.root <;> rfl

end Loader

/-- What the layer of a reading adds is what the reading found and what it
failed with. -/
theorem Layer.ofFile_adds (read : Except Error (Option (Path × Rules))) :
    (ofFile read).rules = (found read).map (·.2)
      ∧ (ofFile read).sources = (found read).map (·.1)
      ∧ (ofFile read).failures = failedWith read := by
  rcases read with e | _ | ⟨path, rules⟩ <;> exact ⟨rfl, rfl, rfl⟩

theorem Loader.editorLayer_adds (loader : Loader) :
    loader.editorLayer.rules = found loader.editorRules
      ∧ loader.editorLayer.sources = []
      ∧ loader.editorLayer.failures = failedWith loader.editorRules := by
  unfold editorLayer editorRules
  cases loader.settings with
  | none => exact ⟨rfl, rfl, rfl⟩
  | some value =>
      dsimp only
      cases EditorSettings.ofJson value with
      | error e => exact ⟨rfl, rfl, rfl⟩
      | ok settings =>
          obtain ⟨⟨config⟩⟩ := settings
          cases config with
          | none => exact ⟨rfl, rfl, rfl⟩
          | some rules => exact ⟨rfl, rfl, rfl⟩

/-! ## The load -/

def Load.SameSettings (load other : Load) : Prop :=
  load.rules = other.rules ∧ load.sources = other.sources

namespace Loader

def filesRead (loader : Loader) (files : FileSystem) : List (Path × Rules) :=
  found (loader.globalFile files) ++ found (loader.projectFile files)

def rulesRead (loader : Loader) (files : FileSystem) : List Rules :=
  (loader.filesRead files).map (·.2) ++ found loader.editorRules

variable (loader : Loader) (files : FileSystem)

theorem load_eq :
    loader.load files =
      { rules := (loader.rulesRead files).foldl Rules.overlay .builtin
        sources := (loader.filesRead files).map (·.1)
        failures := failedWith (loader.globalFile files) ++ failedWith (loader.projectFile files)
          ++ failedWith loader.editorRules } := by
  rw [load, Load.foldl_add, layers, globalLayer_eq, projectLayer_eq]
  simp [Layer.ofFile_adds, editorLayer_adds, rulesRead, filesRead]

variable {loader files}

/-- Loads agree where nothing else is found. -/
theorem sameSettings_of_found {other : Loader}
    (hglobal : found (loader.globalFile files) = found (other.globalFile files))
    (hproject : found (loader.projectFile files) = found (other.projectFile files))
    (heditor : found loader.editorRules = found other.editorRules) :
    (loader.load files).SameSettings (other.load files) := by
  simp only [Load.SameSettings, load_eq, rulesRead, filesRead, hglobal, hproject, heditor,
    and_self]

end Loader

/-- **A load lays the settings that could be read over the built-in ones,**
in order, whatever the files hold and wherever settings are looked for. It
names the files that it took settings from, and the errors of the places
that could not be read, in the same order. No rule that is set below or in
any of the layers is missing at the end. A place that cannot be read is, but
for its error, as good as one that is not looked at. -/
theorem load_overlays (loader : Loader) (files : FileSystem) :
    (loader.load files).rules = (loader.rulesRead files).foldl Rules.overlay .builtin
      ∧ (loader.load files).sources = (loader.filesRead files).map (·.1)
      ∧ (loader.load files).failures = failedWith (loader.globalFile files)
          ++ failedWith (loader.projectFile files) ++ failedWith loader.editorRules
      ∧ (∀ key, ((loader.load files).rules.get? key).isSome ↔
          ∃ rules ∈ .builtin :: loader.rulesRead files, (rules.get? key).isSome)
      ∧ (∀ e, loader.globalFile files = .error e →
          (loader.load files).SameSettings ({ loader with globalDirectory := none }.load files))
      ∧ (∀ e, loader.projectFile files = .error e →
          (loader.load files).SameSettings ({ loader with root := none }.load files))
      ∧ (∀ e, loader.editorRules = .error e →
          (loader.load files).SameSettings ({ loader with settings := none }.load files)) := by
  refine ⟨?_, ?_, ?_, ?_, ?_, ?_, ?_⟩
  · rw [Loader.load_eq]
  · rw [Loader.load_eq]
  · rw [Loader.load_eq]
  · intro key
    rw [Loader.load_eq]
    exact Rules.isSome_get?_foldl_overlay .builtin (loader.rulesRead files) key
  · intro e he
    refine Loader.sameSettings_of_found ?_ rfl rfl
    rw [he]
    rfl
  · intro e he
    refine Loader.sameSettings_of_found rfl ?_ rfl
    rw [he]
    rfl
  · intro e he
    refine Loader.sameSettings_of_found rfl rfl ?_
    rw [he]
    rfl

end LintServer.Config
