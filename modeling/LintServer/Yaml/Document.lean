import LintServer.Yaml.Scalar

/-!
# YAML documents

The value of a document in terms of JSON. An alias has the value of the node that it stands for;
how deep nodes nest, aliases followed, and how often aliases are followed are both limited, so a
document that contains itself has no value.
-/

namespace LintServer.Yaml

namespace Node

/-! ## Anchored nodes -/

mutual

/-- The anchored nodes in a node by their numbers, in the order in which they begin. -/
def anchored : Node → List (Nat × Node)
  | .alias _ => []
  | .scalar anchor value => (anchor.map fun n => (n, Node.scalar anchor value)).toList
  | .sequence anchor tag items =>
    (anchor.map fun n => (n, Node.sequence anchor tag items)).toList ++ anchoredItems items
  | .mapping anchor tag entries =>
    (anchor.map fun n => (n, Node.mapping anchor tag entries)).toList ++ anchoredEntries entries

def anchoredItems : List Node → List (Nat × Node)
  | [] => []
  | item :: items => item.anchored ++ anchoredItems items

def anchoredEntries : List (Node × Node) → List (Nat × Node)
  | [] => []
  | (key, value) :: entries => key.anchored ++ value.anchored ++ anchoredEntries entries

end

/-! ## Size -/

mutual

/-- How many marks a node is written with: one for a scalar or an alias, and one for each end of a
collection. -/
def size : Node → Nat
  | .alias _ => 1
  | .scalar .. => 1
  | .sequence _ _ items => 2 + itemsSize items
  | .mapping _ _ entries => 2 + entriesSize entries

def itemsSize : List Node → Nat
  | [] => 0
  | item :: items => item.size + itemsSize items

def entriesSize : List (Node × Node) → Nat
  | [] => 0
  | (key, value) :: entries => key.size + value.size + entriesSize entries

end

/-! ## Values -/

/-- A computation that may follow so many more aliases. -/
abbrev Following (α : Type) := StateT Nat Option α

/-- The node itself, or the one that an alias stands for. Of anchors with one number, the last to
begin counts. -/
def followed (anchors : List (Nat × Node)) (node : Node) : Following Node := do
  match node with
  | .alias number =>
    match ← get, anchors.reverse.lookup number with
    | left + 1, some target =>
      set left
      return target
    | _, _ => fun _ => none
  | _ => return node

/-- The text of a key, which is a scalar as it is written. -/
def keyText (anchors : List (Nat × Node)) (node : Node) : Following String := do
  match ← followed anchors node with
  | .scalar _ s => return s.text
  | _ => fun _ => none

/-- The value of a node in which collections nest at most `depth` deep. -/
def value (anchors : List (Nat × Node)) (depth : Nat) (node : Node) : Following Json := do
  match ← followed anchors node with
  | .scalar _ s => fun left => s.toJson?.map (·, left)
  | .sequence _ tag items =>
    match depth with
    | 0 => fun _ => none
    | depth + 1 =>
      if Scalar.isLocal tag then (fun _ => none : Following Unit)
      return .arr (← items.mapM (value anchors depth))
  | .mapping _ tag entries =>
    match depth with
    | 0 => fun _ => none
    | depth + 1 =>
      if Scalar.isLocal tag then (fun _ => none : Following Unit)
      return .obj (← entries.mapM fun entry => do
        let key ← keyText anchors entry.1
        return (key, ← value anchors depth entry.2))
  | .alias _ => fun _ => none

/-- How deep collections may nest. -/
def maxDepth : Nat := 128

/-- The value of a document: at most a hundred aliases are followed for each of its marks. -/
def toJson? (root : Node) : Option Json :=
  ((root.value root.anchored maxDepth).run (100 * root.size)).map Prod.fst

end Node

/-- The value of the only document of a stream. A stream without one is null. -/
def parse? (text : String) : Option Json := do
  match ← Node.ofStream? text with
  | none => return .null
  | some root => root.toJson?

end LintServer.Yaml
