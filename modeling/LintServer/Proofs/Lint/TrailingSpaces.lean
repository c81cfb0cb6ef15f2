import LintServer.Lint.Engine.TrailingSpaces
import LintServer.Proofs.Lint.BatchOrder
import LintServer.Proofs.Lint.Splice
import LintServer.Proofs.Text.ClosedLines
import Mathlib.Data.List.DropRight

/-!
# The spaces at the end of a line

A line is what is in front of its last spaces (`Engine.stripped`), and these
spaces. The engine `Engine.tidying` reports them, with a fix that deletes
them. The fix becomes a patch that counts the bytes it deletes in 32 bits, so
what it does to the line is to delete the spaces up to that count
(`Engine.splice?_tidyFix`); deleting some and then some more is deleting them
at once (`Engine.dropSpaces_dropSpaces`).
-/

namespace LintServer

open Text (LineEnding byteLength closed Clean)

/-- The greatest number of bytes that a patch can delete. -/
def Fix.maxCount : Nat := 0x7fffffff

namespace Engine

/-! ## The spaces at the end of a line -/

section

variable {line : List Char}

def stripped (line : List Char) : List Char := line.rdropWhile (· == ' ')

/-- The line without the last spaces at its end, `count` of them at most. -/
def dropSpaces (count : Nat) (line : List Char) : List Char :=
  line.rdrop (min count (trailingSpaces line))

theorem stripped_append (line : List Char) :
    stripped line ++ List.replicate (trailingSpaces line) ' ' = line := by
  have hlength : (line.rtakeWhile (· == ' ')).length = trailingSpaces line := List.length_reverse
  have hspaces : line.rtakeWhile (· == ' ') = List.replicate (trailingSpaces line) ' ' := by
    refine List.eq_replicate_iff.mpr ⟨hlength, fun c hc => ?_⟩
    exact beq_iff_eq.mp (List.mem_rtakeWhile_imp (p := (· == ' ')) hc)
  rw [← hspaces]
  exact List.rdropWhile_append_rtakeWhile

/-- The spaces, in front of a number of them and behind it. -/
theorem stripped_append_append (count : Nat) (line : List Char) :
    stripped line ++ List.replicate (min (trailingSpaces line) count) ' ' ++
      List.replicate (trailingSpaces line - count) ' ' = line := by
  have hcount : min (trailingSpaces line) count + (trailingSpaces line - count) =
      trailingSpaces line := by omega
  rw [List.append_assoc, List.replicate_append_replicate, hcount, stripped_append]

theorem trailingSpaces_append (kept : List Char) (count : Nat) :
    trailingSpaces (kept ++ List.replicate count ' ') = count + trailingSpaces kept := by
  have hspaces : ∀ c ∈ List.replicate count ' ', (c == ' ') = true :=
    fun c hc => beq_iff_eq.mpr (List.eq_of_mem_replicate hc)
  rw [trailingSpaces, List.reverse_append, List.reverse_replicate,
    List.takeWhile_append_of_pos hspaces, List.length_append, List.length_replicate]
  rfl

theorem trailingSpaces_stripped (line : List Char) : trailingSpaces (stripped line) = 0 := by
  have hcount := trailingSpaces_append (stripped line) (trailingSpaces line)
  rw [stripped_append] at hcount
  omega

theorem stripped_spaces (count : Nat) : stripped (List.replicate count ' ') = [] := by
  simp [stripped, List.rdropWhile]

theorem trailingSpaces_spaces (count : Nat) :
    trailingSpaces (List.replicate count ' ') = count :=
  trailingSpaces_append [] count

theorem clean_spaces (count : Nat) : Clean [List.replicate count ' '] := by
  simp [Clean, List.mem_replicate]

theorem rdrop_append_spaces (kept : List Char) (count spaces : Nat) :
    (kept ++ List.replicate spaces ' ').rdrop (min count spaces) =
      kept ++ List.replicate (spaces - count) ' ' := by
  rw [List.rdrop, List.take_append, List.take_of_length_le, List.take_replicate,
    List.length_append, List.length_replicate]
  · congr 2
    omega
  · rw [List.length_append, List.length_replicate]
    omega

theorem dropSpaces_eq (count : Nat) (line : List Char) :
    dropSpaces count line =
      stripped line ++ List.replicate (trailingSpaces line - count) ' ' := by
  rw [← rdrop_append_spaces, stripped_append]
  rfl

theorem dropSpaces_eq_stripped_iff {count : Nat} :
    dropSpaces count line = stripped line ↔ trailingSpaces line ≤ count := by
  simp [dropSpaces_eq, Nat.sub_eq_zero_iff_le]

theorem take_eq_stripped (line : List Char) :
    line.take (line.length - trailingSpaces line) = stripped line := by
  rw [← dropSpaces_eq_stripped_iff.mpr (Nat.le_refl (trailingSpaces line)), dropSpaces,
    Nat.min_self]
  rfl

theorem trailingSpaces_dropSpaces (count : Nat) (line : List Char) :
    trailingSpaces (dropSpaces count line) = trailingSpaces line - count := by
  rw [dropSpaces_eq, trailingSpaces_append, trailingSpaces_stripped, Nat.add_zero]

theorem stripped_dropSpaces (count : Nat) (line : List Char) :
    stripped (dropSpaces count line) = stripped line := by
  have hparts := stripped_append (dropSpaces count line)
  rw [trailingSpaces_dropSpaces] at hparts
  exact List.append_cancel_right (hparts.trans (dropSpaces_eq count line))

theorem dropSpaces_dropSpaces (m n : Nat) (line : List Char) :
    dropSpaces n (dropSpaces m line) = dropSpaces (m + n) line := by
  rw [dropSpaces_eq, stripped_dropSpaces, trailingSpaces_dropSpaces, Nat.sub_sub, dropSpaces_eq]

theorem stripped_isPrefix (line : List Char) : stripped line <+: line := List.rdropWhile_prefix _ _

theorem dropSpaces_isPrefix (count : Nat) (line : List Char) : dropSpaces count line <+: line :=
  List.take_prefix ..

theorem dropSpaces_eq_self {count : Nat} (h : min count (trailingSpaces line) = 0) :
    dropSpaces count line = line := by
  rw [dropSpaces, h, List.rdrop_zero]

theorem map_dropSpaces_eq_self {lines : List (List Char)} {count : Nat}
    (h : ∀ line ∈ lines, min count (trailingSpaces line) = 0) :
    lines.map (dropSpaces count) = lines :=
  (List.map_congr_left fun line hline => dropSpaces_eq_self (h line hline)).trans
    (List.map_id' lines)

end

/-! ## Functions of the lines -/

section

variable {α β : Type} {lines : List (List Char)}

theorem overLines_map (f : Nat → List Char → List α) (g : List Char → List Char) (number : Nat)
    (lines : List (List Char)) :
    overLines f number (lines.map g) = overLines (fun number line => f number (g line)) number
      lines := by
  induction lines generalizing number with
  | nil => rfl
  | cons line lines ih => rw [List.map_cons, overLines, overLines, ih]

theorem filterMap_overLines (f : Nat → List Char → List α) (g : α → Option β) (number : Nat)
    (lines : List (List Char)) :
    (overLines f number lines).filterMap g =
      overLines (fun number line => (f number line).filterMap g) number lines := by
  induction lines generalizing number with
  | nil => rfl
  | cons line lines ih => rw [overLines, overLines, List.filterMap_append, ih]

/-- A line for which there is nothing may stand behind the others. -/
theorem overLines_concat {f : Nat → List Char → List α} {last : List Char}
    (h : ∀ number, f number last = []) (number : Nat) (lines : List (List Char)) :
    overLines f number (lines ++ [last]) = overLines f number lines := by
  induction lines generalizing number with
  | nil => simp [overLines, h]
  | cons line lines ih => rw [List.cons_append, overLines, overLines, ih]

theorem overLines_eq_nil_iff {f : Nat → List Char → List α} {P : List Char → Prop}
    (h : ∀ number line, f number line = [] ↔ P line) (number : Nat) :
    overLines f number lines = [] ↔ ∀ line ∈ lines, P line := by
  induction lines generalizing number with
  | nil => simp [overLines]
  | cons line lines ih => rw [overLines, List.append_eq_nil_iff, h, ih, List.forall_mem_cons]

end

/-! ## The engine -/

/-- The trailing-space engine that counts in bytes, and for which a `'\r'` in
front of a newline is no part of the line. -/
def tidying : Engine :=
  steady fun _ text _ =>
    .found (overLines
      (fun number line => (trailingViolation? byteLength number (Text.dropReturn line)).toList) 1
      (Text.pieces '\n' text.toList))

def tidyFix (line : List Char) : Fix where
  column := some (UInt64.ofNat (byteLength (stripped line) + 1))
  deleteCount := some (Int64.ofNat (trailingSpaces line))

theorem trailingViolation?_eq_none_iff {number : Nat} {line : List Char} :
    trailingViolation? byteLength number line = none ↔ trailingSpaces line = 0 := by
  unfold trailingViolation?
  dsimp only
  split <;> simp [*]

def tidyJobs (number : Nat) (line : List Char) : List Batch.Job :=
  if trailingSpaces line = 0 then [] else [⟨UInt64.ofNat number, (tidyFix line).toPatch⟩]

theorem tidyJobs_eq_nil_iff (number : Nat) (line : List Char) :
    tidyJobs number line = [] ↔ trailingSpaces line = 0 := by
  simp [tidyJobs]

theorem filterMap_trailingViolation? (number : Nat) (line : List Char) :
    (trailingViolation? byteLength number line).toList.filterMap
      (fun v => Batch.job? (Repair.finding v)) = tidyJobs number line := by
  unfold trailingViolation? tidyJobs
  dsimp only
  split
  · rfl
  · rw [take_eq_stripped]
    rfl

/-! ## One line -/

/-- Lines without endings, not too many and not too long for the numbers of a
fix. -/
structure Tidyable (lines : List (List Char)) : Prop where
  clean : Clean lines
  count : 1 + lines.length < UInt64.size
  bytes : ∀ line ∈ lines, byteLength line < 0x8000000000000000

theorem Tidyable.of_byteLength {ending : LineEnding} {lines : List (List Char)}
    (hclean : Clean lines) (h : byteLength (closed ending lines) < 0x8000000000000000) :
    Tidyable lines where
  clean := hclean
  count := by
    have hlength := Text.length_le_byteLength_closed ending lines
    rw [UInt64.size]
    omega
  bytes _ hline := Nat.lt_of_le_of_lt (Text.byteLength_le_of_mem ending hline) h

/-- Lines that lose something at their ends stay such lines. -/
theorem Tidyable.map {lines : List (List Char)} {f : List Char → List Char} (h : Tidyable lines)
    (hf : ∀ line, f line <+: line) : Tidyable (lines.map f) where
  clean := List.forall_mem_map.mpr fun line hline =>
    ⟨fun hc => (h.clean line hline).1 ((hf line).mem hc),
      fun hc => (h.clean line hline).2 ((hf line).mem hc)⟩
  count := by rw [List.length_map]; exact h.count
  bytes := List.forall_mem_map.mpr fun line hline => by
    obtain ⟨rest, hrest⟩ := hf line
    have hbytes := h.bytes line hline
    rw [← hrest, Text.byteLength_append] at hbytes
    omega

theorem byteLength_spaces (count : Nat) : byteLength (List.replicate count ' ') = count := by
  induction count with
  | zero => rfl
  | succ count ih =>
      rw [List.replicate_succ, byteLength, ih]
      exact Nat.add_comm 1 count

theorem byteLength_eq_stripped (line : List Char) :
    byteLength line = byteLength (stripped line) + trailingSpaces line := by
  rw [← byteLength_spaces (trailingSpaces line), ← Text.byteLength_append, stripped_append]

section

variable {line : List Char} (h : byteLength line < 0x8000000000000000)

include h

theorem toInt_trailingSpaces : (Int64.ofNat (trailingSpaces line)).toInt = trailingSpaces line := by
  have hlength := byteLength_eq_stripped line
  exact Int64.toInt_ofNat_of_lt (by omega)

theorem deletesLine_tidyFix : (tidyFix line).toPatch.deletesLine = false := by
  rw [Fix.deletesLine_toPatch]
  refine Fix.deletesLine_eq_false ?_
  rintro _ ⟨⟩
  rw [Int64.le_iff_toInt_le, toInt_trailingSpaces h]
  exact Int.natCast_nonneg _

theorem offset_tidyFix : (tidyFix line).toPatch.offset = byteLength (stripped line) := by
  have hlength := byteLength_eq_stripped line
  have hcolumn : byteLength (stripped line) + 1 < UInt64.size := by
    rw [UInt64.size]
    omega
  exact congrArg (· - 1) (UInt64.toNat_ofNat_of_lt' hcolumn)

theorem deleteLength_tidyFix :
    (tidyFix line).toPatch.deleteLength = min (trailingSpaces line) Fix.maxCount := by
  rw [Fix.deleteLength_toPatch, tidyFix, Option.getD_some, toInt_trailingSpaces h]
  rfl

/-- The patch of a line deletes spaces of it, as many as it can count. -/
theorem splice?_tidyFix (ending : LineEnding) :
    (tidyFix line).toPatch.splice? ending line = some (dropSpaces Fix.maxCount line) := by
  have hparts := stripped_append_append Fix.maxCount line
  have hstop : byteLength (stripped line ++
        List.replicate (min (trailingSpaces line) Fix.maxCount) ' ') =
      (tidyFix line).toPatch.stop line := by
    rw [Patch.stop, offset_tidyFix h, deleteLength_tidyFix h, byteLength_eq_stripped line,
      Text.byteLength_append, byteLength_spaces]
    omega
  have hsplice := Patch.splice?_parts ending (offset_tidyFix h).symm
    (hstop.trans (congrArg (tidyFix line).toPatch.stop hparts.symm))
  rw [hparts] at hsplice
  rw [hsplice, dropSpaces_eq]
  simp [tidyFix, Fix.toPatch, Patch.insertion, Text.replaceNewlines]

end

end Engine

end LintServer
