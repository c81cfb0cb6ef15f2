import LintServer.Files.FileSystem

/-!
# File trees

A file tree holds the directories and files below the root. A path is followed one segment at a
time from the root or, if it is relative, from the working directory; `..` leads to the parent of
the directory reached so far, and a segment can only be followed in a directory.
-/

namespace LintServer

inductive FileTree where
  | file (contents : List UInt8)
  | directory (entries : List (Name × FileTree))
  deriving Repr, Inhabited

namespace FileTree

def empty : FileTree := .directory []

def entries : FileTree → List (Name × FileTree)
  | .file _ => []
  | .directory entries => entries

/-- The entries with `name` set. -/
def setEntry (name : Name) (node : FileTree) :
    List (Name × FileTree) → List (Name × FileTree)
  | [] => [(name, node)]
  | (n, old) :: rest => if n = name then (n, node) :: rest else (n, old) :: setEntry name node rest

/-- The tree with `node` at a path of names; directories on the way are made. -/
def insert (node : FileTree) : List Name → FileTree → FileTree
  | [], _ => node
  | name :: names, tree =>
    let old := (tree.entries.lookup name).getD empty
    .directory (setEntry name (insert node names old) tree.entries)

/-- The tree with a directory at a path of names, unless something is there already. -/
def insertDirectory : List Name → FileTree → FileTree
  | [], tree => tree
  | name :: names, tree =>
    let old := (tree.entries.lookup name).getD empty
    .directory (setEntry name (insertDirectory names old) tree.entries)

/-! ## Following a path -/

/-- What one segment leads to, from a node and the directories above it. -/
def follow (segment : Name) (here : FileTree) (above : List FileTree) :
    Except ReadFailure (FileTree × List FileTree) :=
  match here with
  | .file _ => .error .notADirectory
  | .directory entries =>
    if Path.isBlank segment then .ok (here, above)
    else if segment = [Path.dot, Path.dot] then
      match above with
      | [] => .ok (here, [])
      | up :: rest => .ok (up, rest)
    else if 255 < segment.length then .error .nameTooLong
    else
      match entries.lookup segment with
      | none => .error .notFound
      | some node => .ok (node, here :: above)

def walk : List Name → FileTree → List FileTree → Except ReadFailure (FileTree × List FileTree)
  | [], here, above => .ok (here, above)
  | segment :: segments, here, above => do
    let (here, above) ← follow segment here above
    walk segments here above

/-- The node a path leads to, with `cwd` as the working directory. -/
def resolve (root : FileTree) (cwd : List Name) (path : Path) :
    Except ReadFailure FileTree := do
  if path.bytes.contains 0 then throw .nulInName
  if path.bytes = [] then throw .notFound
  if 4096 ≤ path.bytes.length then throw .nameTooLong
  let segments := Text.pieces Path.slash path.bytes
  let (node, _) ← walk (if path.isAbsolute then segments else cwd ++ segments) root []
  return node

/-- The tree as a file system. -/
def toFileSystem (root : FileTree) (cwd : List Name) : FileSystem where
  isFile path :=
    match root.resolve cwd path with
    | .ok (.file _) => true
    | _ => false
  read path :=
    match root.resolve cwd path with
    | .error failure => .error failure
    | .ok (.directory _) => .error .isADirectory
    | .ok (.file contents) =>
      match Text.textOf? contents with
      | some text => .ok text
      | none => .error .notUtf8

end FileTree

end LintServer
