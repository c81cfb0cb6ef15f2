import LintServer.Proofs.Lint.Passes
import LintServer.Proofs.Lint.TrailingSpaces
import Mathlib.Data.List.Nodup

/-!
# Tidying a document

The engine `Engine.tidying` has the spaces at the end of each line deleted.
All lines of a document are repaired in one batch. Its patches are for
different lines, so each finds its line as the engine saw it: the batch goes
from the last line to the first, and what it has done by then is behind the
lines that are still to come (`Batch.foldlM_tidyJobs`).

One pass deletes `Fix.maxCount` spaces of a line at most
(`Repair.text_document`), and the repair loop ten times as many. Lines with no
more spaces than that lose all of them (`fixUntilStable_tidies`).
-/

namespace LintServer

open Text (LineEnding byteLength closed Clean)

/-! ## The batch -/

namespace Batch

open Engine

/-- Jobs that are for later and later lines are done in reverse. -/
theorem inOrder_of_ascending {jobs : List Job} (h : jobs.Pairwise fun a b => a.line < b.line) :
    inOrder jobs = jobs.reverse := by
  have hnodup : (jobs.map Job.line).Nodup :=
    List.pairwise_map.mpr (h.imp fun hlt => UInt64.ne_of_lt hlt)
  have hsorted : (inOrder jobs).Pairwise fun a b => a.before b :=
    List.pairwise_mergeSort Job.before_trans Job.before_total jobs
  have hreverse : jobs.reverse.Pairwise fun a b => a.before b :=
    List.pairwise_reverse.mpr (h.imp fun hlt => Job.before_iff.mpr (.inl hlt))
  refine List.Perm.eq_of_pairwise (fun a b ha hb hab hba => ?_) hsorted hreverse
    ((List.mergeSort_perm jobs _).trans (List.reverse_perm jobs).symm)
  refine List.inj_on_of_nodup_map hnodup (List.mem_mergeSort.mp ha) (List.mem_reverse.mp hb) ?_
  exact (Job.tied_iff.mp (Bool.and_eq_true_iff.mpr ⟨hab, hba⟩)).1

theorem le_line_of_mem {number : Nat} {lines : List (List Char)} {job : Job}
    (hcount : number + lines.length ≤ UInt64.size) (h : job ∈ overLines tidyJobs number lines) :
    number ≤ job.line.toNat := by
  induction lines generalizing number with
  | nil => cases h
  | cons line lines ih =>
      rw [List.length_cons] at hcount
      rcases List.mem_append.mp h with h | h
      · obtain ⟨-, h⟩ := List.mem_ite_nil_left.mp h
        rw [List.mem_singleton.mp h, UInt64.toNat_ofNat_of_lt' (by omega)]
      · exact Nat.le_of_succ_le (ih (by omega) h)

theorem ascending_tidyJobs {number : Nat} {lines : List (List Char)}
    (hcount : number + lines.length ≤ UInt64.size) :
    (overLines tidyJobs number lines).Pairwise fun a b => a.line < b.line := by
  induction lines generalizing number with
  | nil => exact List.Pairwise.nil
  | cons line lines ih =>
      rw [List.length_cons] at hcount
      refine List.pairwise_append.mpr ⟨?_, ih (by omega), fun a ha b hb => ?_⟩
      · unfold tidyJobs
        split <;> simp
      · obtain ⟨-, ha⟩ := List.mem_ite_nil_left.mp ha
        rw [List.mem_singleton.mp ha, UInt64.lt_iff_toNat_lt, UInt64.toNat_ofNat_of_lt' (by omega)]
        exact le_line_of_mem (by omega) hb

variable {lines : List (List Char)}

def Slot.ofLine (line : List Char) : Slot := { text := line }

theorem runJob?_tidyFix (ending : LineEnding) {slots : List Slot} {index : Nat}
    {line : List Char} (hslot : slots[index]? = some (.ofLine line))
    (hindex : index + 1 < UInt64.size) (hline : byteLength line < 0x8000000000000000) :
    runJob? ending slots ⟨UInt64.ofNat (index + 1), (tidyFix line).toPatch⟩ =
      some (slots.set index (.ofLine (dropSpaces Fix.maxCount line))) := by
  simp only [runJob?, UInt64.toNat_ofNat_of_lt' hindex, Nat.add_sub_cancel, hslot,
    Slot.patched?, deletesLine_tidyFix hline, Slot.ofLine, splice?_tidyFix hline ending]
  rfl

/-- The batch goes from the last line to the first, and the lines in front of
it are as they were. -/
theorem foldlM_tidyJobs (ending : LineEnding) (front : List Slot)
    (hcount : front.length + lines.length < UInt64.size)
    (hbytes : ∀ line ∈ lines, byteLength line < 0x8000000000000000) :
    (overLines tidyJobs (front.length + 1) lines).reverse.foldlM (runJob? ending)
        (front ++ lines.map .ofLine) =
      some (front ++ (lines.map (dropSpaces Fix.maxCount)).map .ofLine) := by
  induction lines generalizing front with
  | nil => rfl
  | cons line lines ih =>
      obtain ⟨hline, hlines⟩ := List.forall_mem_cons.mp hbytes
      rw [List.length_cons] at hcount
      have hrest := ih (front ++ [.ofLine line]) (by simp; omega) hlines
      rw [List.length_append, List.length_singleton, List.append_assoc, List.append_assoc] at hrest
      rw [overLines, List.reverse_append, List.foldlM_append, List.map_cons,
        ← List.singleton_append, hrest]
      unfold tidyJobs
      split
      · next hzero =>
          rw [List.map_cons, List.map_cons, dropSpaces_eq_self (by rw [hzero, Nat.min_zero])]
          rfl
      · have hslot : (front ++ ([.ofLine line] ++
            (lines.map (dropSpaces Fix.maxCount)).map Slot.ofLine))[front.length]? =
              some (.ofLine line) := by simp
        have hjob := runJob?_tidyFix ending hslot (by omega) hline
        rw [List.reverse_singleton, Option.bind_eq_bind, Option.bind_some, List.foldlM_cons, hjob]
        simp

/-! ## Documents -/

theorem splitLines_closed (ending : LineEnding) (h : Clean lines) (hne : lines ≠ []) :
    splitLines ending (closed ending lines) = (lines, true) := by
  have hlength := List.length_pos_iff.mpr hne
  rw [splitLines, Text.pieces_closed h, if_pos]
  · rw [List.dropLast_concat]
  · exact ⟨by rw [List.length_append]; exact Nat.lt_add_of_pos_left hlength,
      List.getLast?_concat⟩

theorem texts_map_ofLine (lines : List (List Char)) :
    ((lines.map Slot.ofLine).filter fun slot => !slot.removed).map Slot.text = lines := by
  induction lines with
  | nil => rfl
  | cons line lines ih => exact congrArg (line :: ·) ih

theorem runJobs?_of_foldlM {ending : LineEnding} {text : List Char} {jobs : List Job}
    {repaired : List (List Char)} {terminated : Bool} (hending : LineEnding.ofText text = ending)
    (hsplit : splitLines ending text = (lines, terminated))
    (hfold : jobs.foldlM (runJob? ending) (lines.map .ofLine) = some (repaired.map .ofLine)) :
    runJobs? text jobs = some (joinLines ending terminated repaired) := by
  have hslots : (fun line => ({ text := line } : Slot)) = Slot.ofLine := rfl
  simp only [runJobs?, hending, hsplit, hslots, hfold, Option.bind_eq_bind, Option.bind_some,
    texts_map_ofLine, Option.pure_def]

theorem runJobs?_closed (ending : LineEnding) (h : Tidyable lines) (hne : lines ≠ []) :
    runJobs? (closed ending lines) (overLines tidyJobs 1 lines).reverse =
      some (closed ending (lines.map (dropSpaces Fix.maxCount))) := by
  have hcount : ([] : List Slot).length + lines.length < UInt64.size :=
    Nat.lt_of_le_of_lt (Nat.add_le_add_right (Nat.zero_le 1) _) h.count
  have hne' : lines.map (dropSpaces Fix.maxCount) ≠ [] := by simpa using hne
  have hjoin := joinLines_eq ending true hne'
  rw [if_pos rfl, Text.intercalate_closed] at hjoin
  rw [← hjoin]
  exact runJobs?_of_foldlM (Text.ofText_closed h.clean hne) (splitLines_closed ending h.clean hne)
    (foldlM_tidyJobs ending [] hcount h.bytes)

end Batch

/-! ## Passes -/

open Engine

section

variable {ending : LineEnding} {lines : List (List Char)} {name : String} {rules : Rules}

def Engine.tidyViolations (lines : List (List Char)) : List Violation :=
  overLines (fun number line => (trailingViolation? byteLength number line).toList) 1 lines

theorem jobs_tidyViolations (lines : List (List Char)) :
    Batch.jobs ((tidyViolations lines).map Repair.finding) = overLines tidyJobs 1 lines := by
  rw [Batch.jobs_eq_filterMap, List.filterMap_map, tidyViolations, filterMap_overLines]
  exact congrArg (overLines · 1 lines) (funext₂ filterMap_trailingViolation?)

/-- All violations of a document are repaired in one batch. -/
theorem Repair.text_document (ending : LineEnding) (h : Tidyable lines) :
    Repair.text (Text.document ending lines) (tidyViolations lines) =
      Text.document ending (lines.map (dropSpaces Fix.maxCount)) := by
  rw [Repair.text_eq_run, Repair.run, Batch.applied?, jobs_tidyViolations,
    Batch.inOrder_of_ascending (Batch.ascending_tidyJobs (Nat.le_of_lt h.count))]
  by_cases hnone : overLines tidyJobs 1 lines = []
  · have hzero := (overLines_eq_nil_iff tidyJobs_eq_nil_iff 1).mp hnone
    rw [hnone, map_dropSpaces_eq_self fun line hline => by rw [hzero line hline, Nat.min_zero]]
    rfl
  · have hne : lines ≠ [] := by
      rintro rfl
      exact hnone rfl
    rw [if_neg (by simpa using hnone), Text.document, String.toList_ofList,
      Batch.runJobs?_closed ending h hne]
    rfl

/-- The engine finds the lines as they were put together. -/
theorem lint_document (h : Clean lines) (call : Nat) :
    tidying.lint call name (Text.document ending lines) rules = .found (tidyViolations lines) := by
  have hlines := overLines_map
    (fun number line => (trailingViolation? byteLength number line).toList) Text.dropReturn 1
    (Text.pieces '\n' (closed ending lines))
  rw [Text.map_dropReturn_pieces_closed h, overLines_concat fun _ => rfl] at hlines
  rw [tidyViolations, hlines, ← String.toList_ofList (l := closed ending lines)]
  rfl

theorem pass?_document (h : Tidyable lines) :
    tidying.pass? name rules (Text.document ending lines) =
      some (Text.document ending (lines.map (dropSpaces Fix.maxCount))) := by
  have hviolations : tidying.violations 0 name (Text.document ending lines) rules =
      .ok (tidyViolations lines) := by
    rw [violations, lint_document h.clean]
  rw [pass?_of_ok hviolations]
  exact congrArg some (Repair.text_document ending h)

theorem orbit?_document (h : Tidyable lines) (passes : Nat) :
    tidying.orbit? name rules passes (Text.document ending lines) =
      some (Text.document ending (lines.map (dropSpaces (passes * Fix.maxCount)))) := by
  induction passes generalizing lines with
  | zero =>
      rw [map_dropSpaces_eq_self fun line _ => by rw [Nat.zero_mul, Nat.zero_min]]
      rfl
  | succ passes ih =>
      rw [orbit?, pass?_document h, Option.bind_some, ih (h.map (dropSpaces_isPrefix _)),
        List.map_map]
      refine congrArg (fun f => some (Text.document ending (lines.map f))) (funext fun line => ?_)
      rw [Function.comp_apply, dropSpaces_dropSpaces, Nat.succ_mul, Nat.add_comm]

theorem fixUntilStable_document (h : Tidyable lines) (call : Nat) :
    (tidying.fixUntilStable name rules call (Text.document ending lines)).1 =
      .ok (Text.document ending (lines.map (dropSpaces (maxPasses * Fix.maxCount)))) :=
  (fixUntilStable_eq_ok_iff fun _ _ _ _ => rfl).mpr (orbit?_document h maxPasses)

theorem fixUntilStable_document_of_tidy (h : Tidyable lines)
    (hnone : ∀ line ∈ lines, trailingSpaces line = 0) (call : Nat) :
    (tidying.fixUntilStable name rules call (Text.document ending lines)).1 =
      .ok (Text.document ending lines) := by
  rw [fixUntilStable_document h,
    map_dropSpaces_eq_self fun line hline => by rw [hnone line hline, Nat.min_zero]]

theorem tidyViolations_eq_nil_iff : tidyViolations lines = [] ↔
    ∀ line ∈ lines, trailingSpaces line = 0 := by
  refine overLines_eq_nil_iff (fun number line => ?_) 1
  rw [Option.toList_eq_nil_iff, trailingViolation?_eq_none_iff]

end

/-- **Repairing until nothing changes takes the spaces off the ends of the
lines,** and does nothing else: the lines stay as many, and keep what is in
front of the spaces and what ends them. The outcome is repaired itself, so
nothing is found in it, and a text in which nothing is found is the outcome of
its own repair. One pass can count 2³¹ − 1 spaces of a line and there are ten
passes, which decides for which lines they are enough; no text has 2⁶³
bytes. -/
theorem fixUntilStable_tidies (ending : LineEnding) {lines : List (List Char)}
    (hclean : Clean lines) (hsize : byteLength (closed ending lines) < 0x8000000000000000)
    (name : String) (rules : Rules) (call : Nat) :
    let fixAll text := (Engine.tidying.fixUntilStable name rules call text).1
    let text := Text.document ending lines
    let tidied := Text.document ending (lines.map stripped)
    (fixAll text = .ok tidied ↔ ∀ line ∈ lines, trailingSpaces line ≤ 10 * 0x7fffffff)
      ∧ fixAll text = .ok (Text.document ending (lines.map (dropSpaces (10 * 0x7fffffff))))
      ∧ tidying.lint call name tidied rules = .found []
      ∧ fixAll tidied = .ok tidied
      ∧ (tidying.lint call name text rules = .found [] → fixAll text = .ok text) := by
  intro fixAll text tidied
  have hlines := Tidyable.of_byteLength hclean hsize
  have htidied : Tidyable (lines.map stripped) := hlines.map stripped_isPrefix
  have hnone : ∀ line ∈ lines.map stripped, trailingSpaces line = 0 :=
    List.forall_mem_map.mpr fun line _ => trailingSpaces_stripped line
  have htext : fixAll text =
      .ok (Text.document ending (lines.map (dropSpaces (10 * 0x7fffffff)))) :=
    fixUntilStable_document hlines call
  refine ⟨?_, htext, ?_, fixUntilStable_document_of_tidy htidied hnone call, fun hfound => ?_⟩
  · have hdropped := hlines.map (dropSpaces_isPrefix (10 * 0x7fffffff))
    rw [htext, Except.ok.injEq, Text.document_inj hdropped.clean htidied.clean, List.map_inj_left]
    exact forall₂_congr fun line _ => dropSpaces_eq_stripped_iff
  · rw [lint_document htidied.clean, tidyViolations_eq_nil_iff.mpr hnone]
  · rw [lint_document hclean, LintOutcome.found.injEq, tidyViolations_eq_nil_iff] at hfound
    exact fixUntilStable_document_of_tidy hlines hfound call

theorem fixUntilStable_tidies_of_accented :
    (Engine.tidying.fixUntilStable "note.md" .builtin 0 "été  \r\n\r\n   \r\n a b \r\n").1 =
        .ok "été\r\n\r\n\r\n a b\r\n"
      ∧ Engine.tidying.lint 0 "note.md" "été\r\n\r\n\r\n a b\r\n" .builtin = .found [] := by
  have hclean : Clean ["été  ".toList, [], "   ".toList, " a b ".toList] := by decide
  have hsize : byteLength (closed .crlf ["été  ".toList, [], "   ".toList, " a b ".toList]) <
      0x8000000000000000 := by decide +kernel
  obtain ⟨htidy, -, hfound, -⟩ := fixUntilStable_tidies .crlf hclean hsize "note.md" .builtin 0
  exact ⟨htidy.mpr (by decide +kernel), hfound⟩

/-- A line of spaces keeps those that the passes have not come to. -/
theorem fixUntilStable_spaces (ending : LineEnding) (count : Nat)
    (hsize : byteLength (closed ending [List.replicate count ' ']) < 0x8000000000000000)
    (name : String) (rules : Rules) (call : Nat) :
    (Engine.tidying.fixUntilStable name rules call
        (Text.document ending [List.replicate count ' '])).1 =
      .ok (Text.document ending [List.replicate (count - maxPasses * Fix.maxCount) ' ']) := by
  have hlines := Tidyable.of_byteLength (clean_spaces _) hsize
  rw [fixUntilStable_document hlines, List.map_singleton, dropSpaces_eq, stripped_spaces,
    trailingSpaces_spaces, List.nil_append]

/-- Ten passes are not enough for one space more than they can count. It is
left over, and a second repair takes it away. -/
theorem fixUntilStable_leaves_space :
    let fixAll text := (Engine.tidying.fixUntilStable "note.md" .builtin 0 text).1
    fixAll (Text.document .lf [List.replicate (10 * 0x7fffffff + 1) ' ']) = .ok " \n"
      ∧ fixAll " \n" = .ok "\n"
      ∧ ¬ ∀ (ending : LineEnding) (lines : List (List Char)), Clean lines →
          byteLength (closed ending lines) < 0x8000000000000000 →
          fixAll (Text.document ending lines) =
            .ok (Text.document ending (lines.map stripped)) := by
  intro fixAll
  have hsize : byteLength (closed .lf [List.replicate (10 * 0x7fffffff + 1) ' ']) <
      0x8000000000000000 := by
    rw [closed, List.flatMap_singleton, Text.byteLength_append, byteLength_spaces]
    decide
  have hover : fixAll (Text.document .lf [List.replicate (10 * 0x7fffffff + 1) ' ']) =
      .ok " \n" :=
    fixUntilStable_spaces .lf (10 * 0x7fffffff + 1) hsize "note.md" .builtin 0
  have hsecond : fixAll " \n" = .ok "\n" :=
    fixUntilStable_spaces .lf 1 (by decide) "note.md" .builtin 0
  refine ⟨hover, hsecond, fun h => ?_⟩
  have hclaim := h .lf _ (clean_spaces _) hsize
  rw [hover, List.map_singleton, stripped_spaces, Except.ok.injEq] at hclaim
  exact absurd hclaim (by decide)

end LintServer
