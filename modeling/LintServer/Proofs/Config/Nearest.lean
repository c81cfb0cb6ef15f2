import LintServer.Config.File
import LintServer.Files.Tree
import LintServer.Proofs.Files.Ancestors

/-!
# The nearest configuration file

The search for the settings of a project goes up from its root, directory by
directory, and within a directory from the preferred name down. It stops at
the first candidate that is a file (`Config.NearestFile`). Which file that is
depends on what is a file up to there, and on nothing else; the outcome is
what reading it comes to, good or bad (`Config.NearestFile.discover_eq`). So
another state of the disk that agrees so far has the same outcome, whatever
lies further up.
-/

namespace LintServer

theorem FileTree.isFile_toFileSystem_iff {tree : FileTree} {cwd : List Name} {path : Path} :
    (tree.toFileSystem cwd).isFile path = true ↔
      ∃ contents, tree.resolve cwd path = .ok (.file contents) := by
  unfold toFileSystem
  dsimp only
  split
  · next contents h => exact ⟨fun _ => ⟨contents, h⟩, fun _ => rfl⟩
  · next hnone =>
      constructor
      · intro h
        cases h
      · rintro ⟨contents, h⟩
        exact absurd h (hnone contents)

theorem Rules.read_congr {files other : FileSystem} {path : Path}
    (h : other.read path = files.read path) : Rules.read other path = Rules.read files path := by
  rw [read, read, h]

namespace Config

/-! ## What is found -/

/-- The first candidate on the way up that is a file: the directories below
it have none, and neither has its own under a name that is preferred. -/
structure NearestFile (files : FileSystem) (root : Path) where
  below : List Path
  directory : Path
  above : List Path
  preferred : List Path
  name : Path
  others : List Path
  ancestors_eq : root.ancestors = below ++ directory :: above
  names_eq : fileNames = preferred ++ name :: others
  isFile : files.isFile (directory.join name) = true
  none_below : ∀ d ∈ below, ∀ n ∈ fileNames, files.isFile (d.join n) = false
  none_preferred : ∀ n ∈ preferred, files.isFile (directory.join n) = false

namespace NearestFile

variable {files : FileSystem} {root : Path}

def path (found : NearestFile files root) : Path := found.directory.join found.name

def passed (found : NearestFile files root) : List Path :=
  found.below.flatMap (fun d => fileNames.map d.join) ++ found.preferred.map found.directory.join

/-- Another state of the disk with the same nearest file. -/
def transfer (found : NearestFile files root) {other : FileSystem}
    (hpassed : ∀ p ∈ found.passed, other.isFile p = false)
    (hfile : other.isFile found.path = true) : NearestFile other root where
  below := found.below
  directory := found.directory
  above := found.above
  preferred := found.preferred
  name := found.name
  others := found.others
  ancestors_eq := found.ancestors_eq
  names_eq := found.names_eq
  isFile := hfile
  none_below d hd _ hn := hpassed _ (List.mem_append_left _
    (List.mem_flatMap.mpr ⟨d, hd, List.mem_map_of_mem hn⟩))
  none_preferred _ hn := hpassed _ (List.mem_append_right _ (List.mem_map_of_mem hn))

end NearestFile

variable {files : FileSystem} {root directory : Path}

theorem fileIn?_eq_none_iff :
    fileIn? files directory = none ↔ ∀ n ∈ fileNames, files.isFile (directory.join n) = false := by
  rw [fileIn?, List.find?_eq_none]
  simp

theorem nearest?_eq_none_iff : nearest? files root = none ↔
    ∀ d ∈ root.ancestors, ∀ n ∈ fileNames, files.isFile (d.join n) = false := by
  rw [nearest?, List.findSome?_eq_none_iff]
  simp only [fileIn?_eq_none_iff]

theorem NearestFile.nearest?_eq (found : NearestFile files root) :
    nearest? files root = some found.path := by
  have hdirectory : fileIn? files found.directory = some found.path := by
    rw [fileIn?, found.names_eq, List.map_append, List.map_cons]
    refine List.find?_eq_some_iff_append.mpr ⟨found.isFile, _, _, rfl, fun p hp => ?_⟩
    obtain ⟨n, hn, rfl⟩ := List.mem_map.mp hp
    simp [found.none_preferred n hn]
  rw [nearest?, List.findSome?_eq_some_iff]
  exact ⟨found.below, found.directory, found.above, found.ancestors_eq, hdirectory,
    fun d hd => fileIn?_eq_none_iff.mpr (found.none_below d hd)⟩

theorem exists_nearestFile {path : Path} (h : nearest? files root = some path) :
    Nonempty (NearestFile files root) := by
  rw [nearest?, List.findSome?_eq_some_iff] at h
  obtain ⟨below, directory, above, hancestors, hfile, hbelow⟩ := h
  obtain ⟨hisFile, front, back, hsplit, hfront⟩ := List.find?_eq_some_iff_append.mp hfile
  obtain ⟨preferred, rest, hnames, rfl, hrest⟩ := List.map_eq_append_iff.mp hsplit
  obtain ⟨name, others, rfl, rfl, -⟩ := List.map_eq_cons_iff.mp hrest
  exact ⟨{
    below, directory, above, preferred, name, others
    ancestors_eq := hancestors
    names_eq := hnames
    isFile := hisFile
    none_below := fun d hd => fileIn?_eq_none_iff.mp (hbelow d hd)
    none_preferred := fun n hn => by simpa using hfront _ (List.mem_map_of_mem hn) }⟩

/-! ## What is read -/

/-- The outcome is what reading the nearest file comes to. -/
theorem NearestFile.discover_eq (found : NearestFile files root) :
    discover files root =
      (Rules.read files found.path).map fun rules => some (found.path, rules) := by
  rw [discover, found.nearest?_eq]

theorem discover_eq_ok_none_iff :
    discover files root = .ok none ↔ nearest? files root = none := by
  rw [discover]
  cases nearest? files root with
  | none => simp
  | some path =>
      dsimp only
      cases Rules.read files path <;> simp [Except.map]

/-- **The settings of a project are those of the nearest configuration
file.** The search goes up from the root and takes one step for each
component of the path, however that is written. It finds nothing just where
no candidate on the whole way is a file, which a directory is not. Else the
outcome is that of reading the nearest file, an error if that is one, and
nothing that lies behind it makes a difference, nor what any other file
holds. -/
theorem discover_takes_nearest (files : FileSystem) (root : Path) :
    (∀ i, root.ancestors[i]? = root.up? i)
      ∧ root.ancestors.length = root.components.length + 1
      ∧ (∀ i d, root.ancestors[i]? = some d →
          d.components = root.components.take (root.components.length - i))
      ∧ (discover files root = .ok none ↔
          ∀ d ∈ root.ancestors, ∀ n ∈ fileNames, files.isFile (d.join n) = false)
      ∧ (∀ (tree : FileTree) (cwd : List Name), discover (tree.toFileSystem cwd) root = .ok none ↔
          ∀ d ∈ root.ancestors, ∀ n ∈ fileNames, ∀ contents,
            tree.resolve cwd (d.join n) ≠ .ok (.file contents))
      ∧ (discover files root = .ok none ∨ Nonempty (NearestFile files root))
      ∧ ∀ found : NearestFile files root,
          discover files root =
              (Rules.read files found.path).map (fun rules => some (found.path, rules))
            ∧ ∀ other : FileSystem, (∀ p ∈ found.passed, other.isFile p = false) →
                other.isFile found.path = true → other.read found.path = files.read found.path →
                discover other root = discover files root := by
  refine ⟨root.getElem?_ancestors, root.length_ancestors,
    fun i d => Path.components_of_mem_ancestors, ?_, ?_, ?_, fun found => ⟨found.discover_eq, ?_⟩⟩
  · rw [discover_eq_ok_none_iff, nearest?_eq_none_iff]
  · intro tree cwd
    rw [discover_eq_ok_none_iff, nearest?_eq_none_iff]
    simp only [← Bool.not_eq_true, FileTree.isFile_toFileSystem_iff, not_exists]
  · cases h : nearest? files root with
    | none => exact .inl (discover_eq_ok_none_iff.mpr h)
    | some path => exact .inr (exists_nearestFile h)
  · intro other hpassed hfile hread
    have hother := (found.transfer hpassed hfile).discover_eq
    rw [hother, found.discover_eq]
    exact congrArg (Except.map _) (Rules.read_congr hread)

/-- A good file at the top, and a directory `a` below it with a directory
under the preferred name, a broken file and a good one. -/
def brokenProject : FileTree :=
  .directory [
    (Text.bytesOf ".markdownlint.json", .file (Text.bytesOf "{}")),
    (Text.bytesOf "a", .directory [
      (Text.bytesOf ".markdownlint.json", .empty),
      (Text.bytesOf ".markdownlint.yaml", .file (Text.bytesOf "MD013: [")),
      (Text.bytesOf ".markdownlint.yml", .file (Text.bytesOf "MD013: true"))])]

def brokenFile : NearestFile (brokenProject.toFileSystem []) (.ofString "/a//./b/") where
  below := [.ofString "/a//./b/"]
  directory := .ofString "/a"
  above := [.ofString "/"]
  preferred := [.ofString ".markdownlint.json"]
  name := .ofString ".markdownlint.yaml"
  others := [.ofString ".markdownlint.yml"]
  ancestors_eq := by
    rw [Path.ancestors_of_some (q := .ofString "/a") (by decide +kernel),
      Path.ancestors_of_some (q := .ofString "/") (by decide +kernel),
      Path.ancestors_of_none (by decide +kernel)]
    rfl
  names_eq := rfl
  isFile := by decide +kernel
  none_below := by decide +kernel
  none_preferred := by decide +kernel

theorem discover_takes_nearest_of_broken :
    nearest? (brokenProject.toFileSystem []) (.ofString "/a//./b/") =
        some (.ofString "/a/.markdownlint.yaml")
      ∧ (discover (brokenProject.toFileSystem []) (.ofString "/a//./b/")).toOption = none := by
  have hpath : brokenFile.path = .ofString "/a/.markdownlint.yaml" := by decide +kernel
  have hread : (Rules.read (brokenProject.toFileSystem []) brokenFile.path).toOption = none := by
    decide +kernel
  obtain ⟨-, -, -, -, -, -, hnearest⟩ :=
    discover_takes_nearest (brokenProject.toFileSystem []) (.ofString "/a//./b/")
  refine ⟨hpath ▸ brokenFile.nearest?_eq, ?_⟩
  rw [(hnearest brokenFile).1]
  cases h : Rules.read (brokenProject.toFileSystem []) brokenFile.path with
  | error _ => rfl
  | ok _ =>
      rw [h] at hread
      cases hread

end Config

end LintServer
