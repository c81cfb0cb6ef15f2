import LintServer.Lint.Repair
import LintServer.Proofs.Text.Columns
import LintServer.Proofs.Text.Endings

/-!
# One fix alone

A single fix takes two ways through the batch repair. The repair of a
document changes the line that the fix is for and joins the lines again
(`Batch.runJobs?_singleton`). For a quick fix the line is a document of its
own, with one line and without an ending, so `"\n"` is inserted as it is and
replaced afterwards.

Both ways come to the same line, `Repair.rewritten`. The offsets are the
same in both, since the line is; a fix that inserts no `'\r'` has its
newlines replaced in both (`Patch.splice?_eq_map`); and a fix that would cut
a character changes nothing in either.
-/

namespace LintServer

open Text (LineEnding EndsAlike replaceNewlines closedLineCount)
open Text.LineEnding (ofText)

/-! ## Newlines replaced -/

namespace Text

theorem replaceNewlines_append (ending a b : List Char) :
    replaceNewlines ending (a ++ b) = replaceNewlines ending a ++ replaceNewlines ending b := by
  simp [replaceNewlines]

theorem replaceNewlines_of_not_mem (ending : List Char) {text : List Char} (h : '\n' ∉ text) :
    replaceNewlines ending text = text := by
  induction text with
  | nil => rfl
  | cons c cs ih =>
      rw [List.mem_cons, not_or] at h
      have hcs := ih h.2
      rw [replaceNewlines] at hcs
      rw [replaceNewlines, List.flatMap_cons, if_neg (Ne.symm h.1), hcs]
      rfl

theorem replaceNewlines_newline (text : List Char) : replaceNewlines ['\n'] text = text := by
  induction text with
  | nil => rfl
  | cons c cs ih =>
      rw [replaceNewlines] at ih
      rw [replaceNewlines, List.flatMap_cons, ih]
      split
      · next h => rw [h]; rfl
      · rfl

end Text

/-! ## A patch on a line -/

namespace Patch

variable {patch : Patch} {line rest : List Char} {c : Char}

theorem mem_of_mem_deleteFrom? (h : patch.deleteFrom? line = some rest) (hc : c ∈ rest) :
    c ∈ line := by
  unfold deleteFrom? at h
  dsimp only at h
  split at h
  · cases h
    exact hc
  · obtain ⟨⟨before, x⟩, hbefore, h⟩ := Option.bind_eq_some_iff.mp h
    obtain ⟨⟨y, after⟩, hafter, h⟩ := Option.bind_eq_some_iff.mp h
    cases h
    rcases List.mem_append.mp hc with hc | hc
    · rw [← (Text.cutBytes?_eq_some_iff.mp hbefore).1]
      exact List.mem_append_left x hc
    · rw [← (Text.cutBytes?_eq_some_iff.mp hafter).1]
      exact List.mem_append_right y hc

/-- Newlines alone are inserted as line endings. -/
theorem insertion_eq (ending : LineEnding) {text : List Char} (h : '\r' ∉ text) :
    insertion ending text = replaceNewlines ending.chars (insertion .lf text) := by
  have hlf : insertion .lf text = text := by simp [insertion]
  rw [hlf]
  cases ending with
  | lf => rw [hlf, LineEnding.chars, Text.replaceNewlines_newline]
  | crlf =>
      have hcrlf : LineEnding.hasCrlf text = false :=
        Bool.eq_false_iff.mpr fun hcrlf => h (Text.return_mem_of_hasCrlf hcrlf)
      simp [insertion, hcrlf]

/-- A patch does to a line what it does with `"\n"` for an ending, but for
the newlines that it inserts. -/
theorem splice?_eq_map (ending : LineEnding) (hline : '\n' ∉ line)
    (hinsert : ∀ text, patch.insertText = some text → '\r' ∉ text.toList) :
    patch.splice? ending line = (patch.splice? .lf line).map (replaceNewlines ending.chars) := by
  unfold splice?
  cases hdelete : patch.deleteFrom? line with
  | none => rfl
  | some rest =>
      have hrest : '\n' ∉ rest := fun h => hline (mem_of_mem_deleteFrom? hdelete h)
      simp only [Option.bind_eq_bind, Option.bind_some]
      cases htext : patch.insertText with
      | none =>
          simp [Text.replaceNewlines_of_not_mem ending.chars hrest]
      | some text =>
          cases hcut : Text.cutBytes? (min patch.offset (Text.byteLength rest)) rest with
          | none => rfl
          | some cut =>
              obtain ⟨before, after⟩ := cut
              rw [← (Text.cutBytes?_eq_some_iff.mp hcut).1, List.mem_append, not_or] at hrest
              simp only [Option.bind_some, Option.pure_def, Option.map_some,
                Text.replaceNewlines_append, insertion_eq ending (hinsert text htext),
                Text.replaceNewlines_of_not_mem ending.chars hrest.1,
                Text.replaceNewlines_of_not_mem ending.chars hrest.2]

end Patch

/-! ## A batch of one -/

namespace Batch

theorem joinLines_eq (ending : LineEnding) (terminated : Bool) {lines : List (List Char)}
    (h : lines ≠ []) : joinLines ending terminated lines =
      ending.chars.intercalate (lines ++ if terminated then [[]] else []) := by
  cases lines with
  | nil => exact absurd rfl h
  | cons p ps =>
      cases terminated with
      | false => simp [joinLines]
      | true => simp [joinLines, Text.intercalate_cons]

/-- The lines are the pieces, but for an empty one behind the last
ending. -/
theorem splitLines_append (ending : LineEnding) (text : List Char) :
    (splitLines ending text).1 ++ (if (splitLines ending text).2 then [[]] else []) =
      ending.pieces text := by
  unfold splitLines
  dsimp only
  split
  · next h =>
      obtain ⟨start, hstart⟩ := List.getLast?_eq_some_iff.mp h.2
      simp [hstart]
  · exact List.append_nil _

theorem closedLineCount_le_splitLines {text : List Char} (h : EndsAlike text) :
    closedLineCount text ≤ (splitLines (ofText text) text).1.length := by
  have hcount := h.count_newline
  unfold splitLines closedLineCount
  dsimp only
  by_cases hlast : 1 < ((ofText text).pieces text).length ∧
      ((ofText text).pieces text).getLast? = some []
  · rw [if_pos hlast, if_pos (EndsAlike.getLast?_of_empty hlast.1 hlast.2), List.length_dropLast]
    omega
  · rw [if_neg hlast, ← hcount]
    exact Nat.add_le_add_left (by split <;> omega) _

/-- A number that counts a line is the number of a piece that the repair
takes for a line. -/
theorem exists_line {text : List Char} (h : EndsAlike text) {i : Nat}
    (hi : i < closedLineCount text) :
    i < (splitLines (ofText text) text).1.length
      ∧ ∃ line, ((ofText text).pieces text)[i]? = some line := by
  have hlt := Nat.lt_of_lt_of_le hi (closedLineCount_le_splitLines h)
  refine ⟨hlt, _, List.getElem?_eq_getElem ?_⟩
  rw [← splitLines_append, List.length_append]
  exact Nat.lt_add_right _ hlt

/-- While no line is removed, the texts of the lines stay in place. -/
theorem texts_set {lines : List (List Char)} {slot : Slot} (h : slot.removed = false) (i : Nat) :
    (((lines.map fun line => ({ text := line } : Slot)).set i slot).filter
      fun slot => !slot.removed).map Slot.text = lines.set i slot.text := by
  have hkept : ∀ s ∈ (lines.map fun line => ({ text := line } : Slot)).set i slot,
      (!s.removed) = true := by
    intro s hs
    rcases List.mem_or_eq_of_mem_set hs with hs | rfl
    · obtain ⟨line, -, rfl⟩ := List.mem_map.mp hs
      rfl
    · rw [h]
      rfl
  rw [List.filter_eq_self.mpr hkept, List.map_set, List.map_map]
  exact congrArg (List.set · i slot.text) (List.map_id lines)

variable {text line : List Char} {job : Job}

/-- A job that keeps its line rewrites that line and no other. -/
theorem runJobs?_singleton (hkeeps : job.patch.deletesLine = false)
    (hindex : job.line.toNat - 1 < (splitLines (ofText text) text).1.length)
    (hline : ((ofText text).pieces text)[job.line.toNat - 1]? = some line) :
    runJobs? text [job] = (job.patch.splice? (ofText text) line).map fun body =>
      (ofText text).chars.intercalate
        (((ofText text).pieces text).set (job.line.toNat - 1) body) := by
  have hpieces := splitLines_append (ofText text) text
  cases hsplit : splitLines (ofText text) text with
  | mk lines terminated =>
      rw [hsplit] at hindex hpieces
      dsimp only at hindex hpieces
      rw [← hpieces, List.getElem?_append_left hindex] at hline
      have hjob : runJob? (ofText text) (lines.map fun line => { text := line }) job =
          (job.patch.splice? (ofText text) line).map fun body =>
            (lines.map fun line => { text := line }).set (job.line.toNat - 1)
              { text := body, broken := job.patch.addsLines } := by
        simp only [runJob?, List.getElem?_map, hline, Option.map_some, Slot.patched?, hkeeps]
        cases job.patch.splice? (ofText text) line <;> rfl
      rw [← hpieces]
      simp only [runJobs?, hsplit, List.foldlM_cons, List.foldlM_nil, hjob]
      cases job.patch.splice? (ofText text) line with
      | none => rfl
      | some body =>
          have hne : lines.set (job.line.toNat - 1) body ≠ [] := by
            rw [← List.length_pos_iff, List.length_set]
            omega
          simp only [Option.map_some, Option.bind_eq_bind, Option.bind_some, Option.pure_def,
            List.set_append_left _ _ hindex]
          rw [texts_set, joinLines_eq _ _ hne]
          rfl

end Batch

/-! ## The two ways -/

/-- A fix that keeps its line and inserts no `'\r'`. -/
structure Fix.IsPlain (fix : Fix) : Prop where
  count : ∀ count, fix.deleteCount = some count → 0 ≤ count
  insert : ∀ text, fix.insertText = some text → '\r' ∉ text.toList

namespace Fix

variable {fix : Fix}

theorem toInt_clampCount (count : Int64) :
    (clampCount count).toInt = max (-0x80000000) (min count.toInt 0x7fffffff) :=
  Int32.toInt_ofInt_of_le (by omega) (by omega)

theorem deletesLine_eq_false (hcount : ∀ count, fix.deleteCount = some count → 0 ≤ count) :
    fix.deletesLine = false := by
  unfold deletesLine
  cases h : fix.deleteCount with
  | none => rfl
  | some count =>
      refine beq_eq_false_iff_ne.mpr fun heq => ?_
      cases heq
      exact absurd (hcount _ h) (by decide)

/-- A count is moved to minus one only if it was minus one. -/
theorem deletesLine_toPatch (fix : Fix) : fix.toPatch.deletesLine = fix.deletesLine := by
  unfold Patch.deletesLine deletesLine toPatch
  cases fix.deleteCount with
  | none => rfl
  | some count =>
      have hclamped := toInt_clampCount count
      have hword : (-1 : Int32).toInt = -1 := rfl
      have hcount : (-1 : Int64).toInt = -1 := rfl
      rw [Bool.eq_iff_iff]
      simp only [Option.map_some, Option.some_beq_some, beq_iff_eq]
      rw [← Int32.toInt_inj, ← Int64.toInt_inj]
      omega

end Fix

namespace Repair

/-- A line after a fix, or as it was if the fix would cut a character. -/
def rewritten (ending : LineEnding) (fix : Fix) (line : List Char) : List Char :=
  (fix.toPatch.splice? ending line).getD line

theorem rewritten_eq_replaceNewlines (ending : LineEnding) {fix : Fix} (hfix : fix.IsPlain)
    {line : List Char} (hline : '\n' ∉ line) :
    rewritten ending fix line = replaceNewlines ending.chars (rewritten .lf fix line) := by
  unfold rewritten
  rw [Patch.splice?_eq_map ending hline hfix.insert]
  cases fix.toPatch.splice? .lf line with
  | none => exact (Text.replaceNewlines_of_not_mem ending.chars hline).symm
  | some body => rfl

/-- A run for one finding. A patch that would cut a character leaves the
line as it was, and so the text. -/
theorem run_singleton {text : String} {finding : Finding} {patch : Patch}
    (hpatch : finding.patch = some patch) (hkeeps : patch.deletesLine = false) {i : Nat}
    (hi : (patch.line.getD finding.line).toNat - 1 = i)
    (hindex : i < (Batch.splitLines (ofText text.toList) text.toList).1.length)
    {line : List Char} (hline : ((ofText text.toList).pieces text.toList)[i]? = some line) :
    run text [finding] = String.ofList ((ofText text.toList).chars.intercalate
      (((ofText text.toList).pieces text.toList).set i
        ((patch.splice? (ofText text.toList) line).getD line))) := by
  subst hi
  have hjobs : Batch.jobs [finding] = [⟨patch.line.getD finding.line, patch⟩] := by
    simp [Batch.jobs, hpatch]
  have horder : Batch.inOrder [⟨patch.line.getD finding.line, patch⟩] =
      [⟨patch.line.getD finding.line, patch⟩] := List.mergeSort_singleton _
  simp only [run, Batch.applied?, hjobs, horder, List.isEmpty_cons, Bool.false_eq_true, if_false]
  rw [Batch.runJobs?_singleton hkeeps hindex hline]
  cases patch.splice? (ofText text.toList) line with
  | some body => rfl
  | none =>
      obtain ⟨hlt, rfl⟩ := List.getElem?_eq_some_iff.mp hline
      rw [Option.getD_none, List.set_getElem_self, LineEnding.intercalate_pieces,
        String.ofList_toList]
      rfl

/-- The way of a quick fix: the line is a document of its own. -/
theorem line_of_keeps (ending : String) {fix : Fix} (hkeeps : fix.deletesLine = false)
    {line : String} (hnewline : '\n' ∉ line.toList) (hreturn : '\r' ∉ line.toList) :
    Repair.line line fix ending =
      some (String.ofList (replaceNewlines ending.toList (rewritten .lf fix line.toList))) := by
  have hlf : ofText line.toList = .lf := if_neg fun h => hreturn (Text.return_mem_of_hasCrlf h)
  have hpieces : (ofText line.toList).pieces line.toList = [line.toList] := by
    rw [hlf]
    exact List.splitOn_eq_singleton hnewline
  have hindex : 0 < (Batch.splitLines (ofText line.toList) line.toList).1.length := by
    simp [Batch.splitLines, hpieces]
  let patch : Patch := { fix.toPatch with line := some 1 }
  have hpatch : patch.deletesLine = false := (Fix.deletesLine_toPatch fix).trans hkeeps
  have hpiece : ((ofText line.toList).pieces line.toList)[0]? = some line.toList := by
    rw [hpieces]
    rfl
  have hrun : run line [{ line := 1, patch := some patch }] =
      String.ofList (rewritten .lf fix line.toList) := by
    rw [run_singleton (i := 0) rfl hpatch rfl hindex hpiece, hpieces, hlf, List.set_cons_zero,
      List.intercalate_singleton]
    rfl
  rw [Repair.line, if_neg (by simp [hkeeps])]
  dsimp only
  rw [hrun, String.toList_ofList]
  by_cases hending : ending = "\n"
  · rw [if_pos hending, hending]
    exact congrArg (some ∘ String.ofList) (Text.replaceNewlines_newline _).symm
  · rw [if_neg hending]

theorem line_eq_replaceNewlines (ending : String) {fix : Fix}
    (hcount : ∀ count, fix.deleteCount = some count → 0 ≤ count) {line : String}
    (hnewline : '\n' ∉ line.toList) (hreturn : '\r' ∉ line.toList) :
    Repair.line line fix ending =
      some (String.ofList (replaceNewlines ending.toList (rewritten .lf fix line.toList))) :=
  line_of_keeps ending (Fix.deletesLine_eq_false hcount) hnewline hreturn

/-- A plain fix comes to the same as on a line with its ending. -/
theorem line_eq (ending : LineEnding) {fix : Fix} (hfix : fix.IsPlain) {line : String}
    (hnewline : '\n' ∉ line.toList) (hreturn : '\r' ∉ line.toList) :
    Repair.line line fix ending.toString =
      some (String.ofList (rewritten ending fix line.toList)) := by
  rw [line_eq_replaceNewlines _ hfix.count hnewline hreturn,
    rewritten_eq_replaceNewlines ending hfix hnewline, LineEnding.toString, String.toList_ofList]

/-- The way of a batch. -/
theorem text_eq {content : String} {v : Violation} {fix : Fix} (hv : v.fix = some fix)
    (hfix : fix.IsPlain) {number : UInt64} (hnumber : v.fixLine? = some number) {i : Nat}
    (hi : i = number.toNat - 1)
    (hindex : i < (Batch.splitLines (ofText content.toList) content.toList).1.length)
    {line : List Char}
    (hline : ((ofText content.toList).pieces content.toList)[i]? = some line) :
    Repair.text content [v] = String.ofList ((ofText content.toList).chars.intercalate
      (((ofText content.toList).pieces content.toList).set i
        (rewritten (ofText content.toList) fix line))) := by
  have hpatch : (finding v).patch = some fix.toPatch := by rw [finding, hv]; rfl
  have hplace : (fix.toPatch.line.getD (finding v).line).toNat - 1 = i := by
    rw [Violation.fixLine?, hv] at hnumber
    cases hnumber
    exact hi.symm
  rw [Repair.text]
  simp only [List.filter_cons, hv, Option.isSome_some, if_true, List.filter_nil,
    List.isEmpty_cons, Bool.false_eq_true, if_false, List.map_cons, List.map_nil]
  have hkeeps : fix.toPatch.deletesLine = false :=
    (Fix.deletesLine_toPatch fix).trans (Fix.deletesLine_eq_false hfix.count)
  exact run_singleton hpatch hkeeps hplace hindex hline

end Repair

end LintServer
