import LintServer.Text.Lines
import LintServer.Text.Utf8

/-!
# Paths

A path is a list of bytes, cut into segments at `/`. Operations are lexical: empty segments and
`.` do not count, and are dropped where a path is cut short, while `..` counts like a name. Taking
the parent makes a path shorter (`length_parent?`), so a path has finitely many ancestors.
-/

namespace LintServer

structure Path where
  bytes : List UInt8
  deriving Repr, DecidableEq

/-- A file or directory name. -/
abbrev Name := List UInt8

namespace Path

def slash : UInt8 := 0x2F

def dot : UInt8 := 0x2E

def ofString (s : String) : Path := ⟨Text.bytesOf s⟩

/-- The path as text, if its bytes are UTF-8. -/
def toString? (p : Path) : Option String := Text.textOf? p.bytes

/-- The path as a message shows it. -/
def display (p : Path) : String := Text.textOfLossy p.bytes

def isAbsolute (p : Path) : Bool := p.bytes.head? == some slash

/-! ## Segments -/

/-- The start of a path that is no segment, a leading `/` or `.`, and what follows it. -/
def anchor : List UInt8 → List UInt8 × List UInt8
  | [] => ([], [])
  | [b] => if b = slash ∨ b = dot then ([b], []) else ([], [b])
  | b :: c :: rest =>
    if b = slash then ([b], c :: rest)
    else if b = dot ∧ c = slash then ([b], c :: rest)
    else ([], b :: c :: rest)

/-- Segments that do not count. -/
def isBlank (segment : Name) : Bool := segment == [] || segment == [dot]

/-- The segments up to the last that counts. -/
def segments (p : Path) : List Name :=
  Text.dropEndWhile isBlank (Text.pieces slash (anchor p.bytes).2)

/-- The path without its last segment. The root and the empty path have no parent; the parent of
`.` is the empty path. -/
def parent? (p : Path) : Option Path :=
  if p.segments = [] then if (anchor p.bytes).1 = [dot] then some ⟨[]⟩ else none
  else
    some ⟨(anchor p.bytes).1 ++ [slash].intercalate (Text.dropEndWhile isBlank p.segments.dropLast)⟩

/-- The path with a relative path after it. -/
def join (p : Path) (name : Path) : Path :=
  if name.isAbsolute then name
  else if p.bytes = [] ∨ p.bytes.getLast? = some slash then ⟨p.bytes ++ name.bytes⟩
  else ⟨p.bytes ++ slash :: name.bytes⟩

/-- The last segment, unless that is `..`. -/
def fileName? (p : Path) : Option Name :=
  p.segments.getLast?.filter fun name => name != [dot, dot]

/-- What follows the last dot of the file name; a dot that begins the name does not count. -/
def extension? (p : Path) : Option Name :=
  match p.fileName? with
  | none => none
  | some name =>
    let after := name.reverse.takeWhile (· != dot)
    if after.length + 1 < name.length then some after.reverse else none

/-! ## Ancestors -/

theorem length_intercalate_add_le {α : Type} (sep last : List α) (front back : List (List α)) :
    (sep.intercalate front).length + last.length ≤
      (sep.intercalate (front ++ last :: back)).length := by
  induction front with
  | nil => cases back <;> simp [List.intercalate_cons_cons]
  | cons p front ih =>
      cases front with
      | nil =>
          simp only [List.cons_append, List.nil_append, List.intercalate_cons_cons,
            List.intercalate_singleton, List.intercalate_nil, List.length_append,
            List.length_nil] at ih ⊢
          omega
      | cons q front =>
          simp only [List.cons_append, List.intercalate_cons_cons, List.length_append] at ih ⊢
          omega

theorem length_intercalate_le {α : Type} (sep : List α) {front ps : List (List α)}
    (h : front <+: ps) : (sep.intercalate front).length ≤ (sep.intercalate ps).length := by
  obtain ⟨back, rfl⟩ := h
  cases back with
  | nil => simp
  | cons last back => exact Nat.le_of_add_right_le (length_intercalate_add_le sep last front back)

theorem anchor_append (bs : List UInt8) : (anchor bs).1 ++ (anchor bs).2 = bs := by
  unfold anchor
  split
  · rfl
  · split <;> rfl
  · split
    · rfl
    · split <;> rfl

/-- The last segment counts. -/
theorem isBlank_of_getLast? {p : Path} {segment : Name} (h : p.segments.getLast? = some segment) :
    isBlank segment = false := by
  have hcounts := List.head?_dropWhile_not isBlank (Text.pieces slash (anchor p.bytes).2).reverse
  rw [segments, Text.dropEndWhile, List.getLast?_reverse] at h
  rwa [h] at hcounts

/-- A parent is shorter. -/
theorem length_parent? {p q : Path} (h : p.parent? = some q) :
    q.bytes.length < p.bytes.length := by
  have happend := congrArg List.length (anchor_append p.bytes)
  rw [List.length_append] at happend
  unfold parent? at h
  split at h
  · split at h
    · next hdot =>
        cases h
        rw [hdot] at happend
        simp only [List.length_cons, List.length_nil] at happend ⊢
        omega
    · cases h
  · next hne =>
      cases h
      have hlast : 0 < (p.segments.getLast hne).length := by
        refine List.length_pos_iff.mpr fun hnil => ?_
        have hcounts := isBlank_of_getLast? (List.getLast?_eq_some_getLast hne)
        simp [isBlank, hnil] at hcounts
      have hfront (l : List Name) : Text.dropEndWhile isBlank l <+: l := by
        rw [Text.dropEndWhile, ← List.reverse_suffix, List.reverse_reverse]
        exact List.dropWhile_suffix isBlank
      have hparent := length_intercalate_le [slash] (hfront p.segments.dropLast)
      have hshorter := length_intercalate_add_le [slash] (p.segments.getLast hne)
        p.segments.dropLast []
      rw [List.dropLast_concat_getLast] at hshorter
      have hsegments : ([slash].intercalate p.segments).length ≤ (anchor p.bytes).2.length := by
        have hle := length_intercalate_le [slash] (hfront (Text.pieces slash (anchor p.bytes).2))
        rwa [Text.pieces, List.intercalate_splitOn] at hle
      rw [List.length_append]
      omega

/-- A path, its parent, the parent of that, and so on. -/
def ancestors (p : Path) : List Path :=
  match h : p.parent? with
  | none => [p]
  | some q =>
    have := length_parent? h
    p :: ancestors q
termination_by p.bytes.length

end Path

end LintServer
