import LintServer.Markdown.Engine
import Mathlib.Data.List.Basic

/-!
# Batches in the order of lines

A rule library answers its findings in any order, and repairs a document by
them in one batch. The server keeps them as violations, in the order of their
lines, and makes findings of them again for the repair. On the way they lose
all but their places and patches, and a delete count takes 64 bits and then
32 again; nothing of that shows (`Batch.jobs_finding_toViolations`).

What may show is the order. A batch has an order of its own, from the end of
the document to its start, and the sort into that order is stable: only the
order of patches for one place, line and column, is left of the order in
which they came. If findings with different patches for one place come in the
order of their lines (`Batch.TiesInOrder`), the server's sort leaves that
order alone, and the batch does the same to a text as the batch of the
original list (`repair_text_toViolations`). A patch may be for another
line than its finding, so there are lists that are not like that
(`repair_text_toViolations_ne`); the Markdown rules make none
(`Markdown.repair_findings`).
-/

namespace LintServer

/-! ## Stable sorting -/

namespace Stable

variable {α β : Type} {le : α → α → Bool}

def tied (le : α → α → Bool) (a b : α) : Bool := le a b && le b a

variable (htrans : ∀ a b c, le a b → le b c → le a c) (htotal : ∀ a b, le a b || le b a)

include htrans htotal in
/-- What a list has to say is not changed by sorting, if only elements that
are in order already have different things to say. -/
theorem filterMap_mergeSort {f : α → Option β} {l : List α}
    (h : l.Pairwise fun a b => ∀ x ∈ f a, ∀ y ∈ f b, le a b ∨ x = y) :
    (l.mergeSort le).filterMap f = l.filterMap f := by
  induction l with
  | nil => simp
  | cons a l ih =>
      obtain ⟨hhead, htail⟩ := List.pairwise_cons.mp h
      obtain ⟨front, back, hsort, hrest, hfront⟩ := List.mergeSort_cons htrans htotal a l
      rw [hsort, List.filterMap_append, List.filterMap_cons, List.filterMap_cons, ← ih htail,
        hrest, List.filterMap_append]
      cases hx : f a with
      | none => rfl
      | some x =>
          have hsame : ∀ y ∈ front.filterMap f, y = x := by
            intro y hy
            obtain ⟨b, hb, hyb⟩ := List.mem_filterMap.mp hy
            have hmem : b ∈ l := by
              rw [← (List.mergeSort_perm l le).mem_iff, hrest]
              exact List.mem_append_left _ hb
            rcases hhead b hmem x hx y hyb with hle | heq
            · have hnot := hfront b hb
              rw [hle] at hnot
              cases hnot
            · exact heq.symm
          rw [List.eq_replicate_of_mem hsame]
          rw [List.append_cons, ← List.replicate_succ', List.replicate_succ, List.cons_append]

include htrans htotal in
theorem filter_tied_mergeSort (k : α) (l : List α) :
    (l.mergeSort le).filter (tied le k) = l.filter (tied le k) := by
  have htied : ∀ a b, ∀ x ∈ Option.guard (tied le k) a, ∀ y ∈ Option.guard (tied le k) b,
      le a b ∨ x = y := by
    intro a b x hx y hy
    obtain ⟨rfl, hka⟩ := Option.guard_eq_some_iff.mp hx
    obtain ⟨rfl, hkb⟩ := Option.guard_eq_some_iff.mp hy
    rw [tied, Bool.and_eq_true] at hka hkb
    exact .inl (htrans _ _ _ hka.2 hkb.1)
  rw [← List.filterMap_eq_filter]
  exact filterMap_mergeSort htrans htotal (List.pairwise_of_forall htied)

include htotal in
theorem le_self (a : α) : le a a := by
  have h := htotal a a
  rwa [Bool.or_self] at h

include htotal in
theorem tied_self (a : α) : tied le a a := by
  rw [tied, le_self htotal]
  rfl

include htotal in
theorem mem_of_filter_tied {l₁ l₂ : List α}
    (h : ∀ k, l₁.filter (tied le k) = l₂.filter (tied le k)) {a : α} (ha : a ∈ l₁) : a ∈ l₂ := by
  have hin : a ∈ l₂.filter (tied le a) :=
    h a ▸ List.mem_filter.mpr ⟨ha, tied_self htotal a⟩
  exact (List.mem_filter.mp hin).1

include htotal in
theorem le_of_mem_sorted {a b : α} {l : List α} (h : (a :: l).Pairwise fun a b => le a b)
    (hb : b ∈ a :: l) : le a b := by
  rcases List.mem_cons.mp hb with rfl | hb
  · exact le_self htotal b
  · exact List.rel_of_pairwise_cons h hb

include htotal in
/-- A sorted list is known by what it has of each place in the order. -/
theorem eq_of_filter_tied {l₁ l₂ : List α} (h₁ : l₁.Pairwise fun a b => le a b)
    (h₂ : l₂.Pairwise fun a b => le a b)
    (h : ∀ k, l₁.filter (tied le k) = l₂.filter (tied le k)) : l₁ = l₂ := by
  induction l₁ generalizing l₂ with
  | nil =>
      refine (List.eq_nil_iff_forall_not_mem.mpr fun a ha => ?_).symm
      cases mem_of_filter_tied htotal (fun k => (h k).symm) ha
  | cons a l₁ ih =>
      have ha : a ∈ l₂ := mem_of_filter_tied htotal h (List.mem_cons_self ..)
      cases l₂ with
      | nil => cases ha
      | cons b l₂ =>
          have hb : b ∈ a :: l₁ :=
            mem_of_filter_tied htotal (fun k => (h k).symm) (List.mem_cons_self ..)
          have hab : tied le a b := by
            rw [tied, le_of_mem_sorted htotal h₁ hb, le_of_mem_sorted htotal h₂ ha]
            rfl
          have hheads := h a
          rw [List.filter_cons_of_pos (tied_self htotal a), List.filter_cons_of_pos hab] at hheads
          obtain rfl : a = b := (List.cons.inj hheads).1
          rw [ih h₁.of_cons h₂.of_cons fun k => ?_]
          have hk := h k
          rw [List.filter_cons, List.filter_cons] at hk
          split at hk
          · exact (List.cons.inj hk).2
          · exact hk

include htrans htotal in
theorem mergeSort_eq_of_filter_tied {l₁ l₂ : List α}
    (h : ∀ k, l₁.filter (tied le k) = l₂.filter (tied le k)) :
    l₁.mergeSort le = l₂.mergeSort le := by
  refine eq_of_filter_tied htotal (List.pairwise_mergeSort htrans htotal l₁)
    (List.pairwise_mergeSort htrans htotal l₂) fun k => ?_
  rw [filter_tied_mergeSort htrans htotal, filter_tied_mergeSort htrans htotal, h]

end Stable

/-! ## The jobs of a batch -/

namespace Batch

theorem Job.before_iff {a b : Job} :
    a.before b ↔ b.line < a.line ∨ a.line = b.line ∧ b.column ≤ a.column := by
  simp [Job.before]

theorem Job.before_trans (a b c : Job) (hab : a.before b) (hbc : b.before c) : a.before c := by
  rw [before_iff, UInt64.lt_iff_toNat_lt, UInt64.le_iff_toNat_le, ← UInt64.toNat_inj] at *
  omega

theorem Job.before_total (a b : Job) : a.before b || b.before a := by
  rw [Bool.or_eq_true, before_iff, before_iff, UInt64.lt_iff_toNat_lt, UInt64.lt_iff_toNat_lt,
    UInt64.le_iff_toNat_le, UInt64.le_iff_toNat_le, ← UInt64.toNat_inj, ← UInt64.toNat_inj]
  omega

theorem Job.tied_iff {a b : Job} :
    Stable.tied Job.before a b ↔ a.line = b.line ∧ a.column = b.column := by
  rw [Stable.tied, Bool.and_eq_true, before_iff, before_iff, UInt64.lt_iff_toNat_lt,
    UInt64.lt_iff_toNat_lt, UInt64.le_iff_toNat_le, UInt64.le_iff_toNat_le, ← UInt64.toNat_inj,
    ← UInt64.toNat_inj, ← UInt64.toNat_inj]
  omega

def job? (finding : Finding) : Option Job :=
  finding.patch.map fun patch => ⟨patch.line.getD finding.line, patch⟩

theorem jobs_eq_filterMap (findings : List Finding) : jobs findings = findings.filterMap job? :=
  rfl

/-- Findings with different patches for one place come in the order of their
lines. -/
def TiesInOrder (findings : List Finding) : Prop :=
  findings.Pairwise fun a b => ∀ j ∈ job? a, ∀ k ∈ job? b,
    j.line = k.line → j.column = k.column → a.line ≤ b.line ∨ j = k

/-- The findings in the order of their lines; those of one line keep theirs. -/
def byLine (findings : List Finding) : List Finding :=
  findings.mergeSort fun a b => a.line ≤ b.line

theorem byLine_trans (a b c : Finding) (hab : decide (a.line ≤ b.line))
    (hbc : decide (b.line ≤ c.line)) : decide (a.line ≤ c.line) :=
  decide_eq_true (UInt64.le_trans (of_decide_eq_true hab) (of_decide_eq_true hbc))

theorem byLine_total (a b : Finding) : decide (a.line ≤ b.line) || decide (b.line ≤ a.line) := by
  rw [Bool.or_eq_true, decide_eq_true_eq, decide_eq_true_eq]
  exact UInt64.le_total a.line b.line

theorem inOrder_jobs_byLine {findings : List Finding} (h : TiesInOrder findings) :
    inOrder (jobs (byLine findings)) = inOrder (jobs findings) := by
  refine Stable.mergeSort_eq_of_filter_tied Job.before_trans Job.before_total fun k => ?_
  rw [jobs_eq_filterMap, jobs_eq_filterMap, List.filter_filterMap, List.filter_filterMap]
  refine Stable.filterMap_mergeSort byLine_trans byLine_total (List.Pairwise.imp ?_ h)
  intro a b hties x hx y hy
  obtain ⟨hja, hka⟩ := Option.mem_filter_iff.mp hx
  obtain ⟨hjb, hkb⟩ := Option.mem_filter_iff.mp hy
  obtain ⟨hlinea, hcolumna⟩ := Job.tied_iff.mp hka
  obtain ⟨hlineb, hcolumnb⟩ := Job.tied_iff.mp hkb
  rw [decide_eq_true_eq]
  exact hties x hja y hjb (hlinea.symm.trans hlineb) (hcolumna.symm.trans hcolumnb)

/-- A batch knows its findings only as jobs in order. -/
theorem applied?_congr (text : String) {findings findings' : List Finding}
    (h : inOrder (jobs findings) = inOrder (jobs findings')) :
    applied? text findings = applied? text findings' := by
  have hlength : (jobs findings).length = (jobs findings').length := by
    have hlength := congrArg List.length h
    rwa [inOrder, inOrder, List.length_mergeSort, List.length_mergeSort] at hlength
  have hempty : (jobs findings).isEmpty = (jobs findings').isEmpty := by
    rw [Bool.eq_iff_iff, List.isEmpty_iff_length_eq_zero, List.isEmpty_iff_length_eq_zero, hlength]
  simp only [applied?, hempty, h]

theorem applied?_of_pairwise {text : String} {findings : List Finding}
    (h : (jobs findings).Pairwise fun a b => a.before b) :
    applied? text findings =
      if (jobs findings).isEmpty then some text
      else (runJobs? text.toList (jobs findings)).map String.ofList := by
  rw [applied?, inOrder, List.mergeSort_of_pairwise h]

end Batch

/-! ## Findings as violations -/

/-- A delete count fits where it came from. -/
theorem Fix.clampCount_toInt64 (n : Int32) : clampCount n.toInt64 = n := by
  have hlow := Int32.le_toInt n
  have hhigh := Int32.toInt_lt n
  have hin : max (-0x80000000) (min n.toInt 0x7fffffff) = n.toInt := by omega
  rw [clampCount, Int32.toInt_toInt64, hin, Int32.ofInt_toInt]

theorem Patch.toPatch_toFix (patch : Patch) : patch.toFix.toPatch = patch := by
  have hcount : (patch.deleteCount.map Int32.toInt64).map Fix.clampCount = patch.deleteCount := by
    rw [Option.map_map]
    exact (Option.map_congr fun n _ => Fix.clampCount_toInt64 n).trans Option.map_id_apply
  rw [toFix, Fix.toPatch, hcount]

theorem Batch.job?_finding_toViolation (finding : Finding) :
    job? (Repair.finding finding.toViolation) = job? finding := by
  simp only [job?, Repair.finding, Finding.toViolation, Option.map_map]
  refine Option.map_congr fun patch _ => ?_
  simp only [Function.comp_apply, Patch.toPatch_toFix]

theorem Markdown.toViolations_eq_map (findings : List Finding) :
    toViolations findings = (Batch.byLine findings).map Finding.toViolation :=
  (List.map_mergeSort (f := Finding.toViolation) fun _ _ _ _ => rfl).symm

/-- The violations of findings ask for the same jobs. -/
theorem Batch.jobs_finding_toViolations (findings : List Finding) :
    jobs ((Markdown.toViolations findings).map Repair.finding) = jobs (byLine findings) := by
  rw [jobs_eq_filterMap, jobs_eq_filterMap, Markdown.toViolations_eq_map, List.map_map,
    List.filterMap_map]
  exact List.filterMap_congr fun finding _ => job?_finding_toViolation finding

/-- Violations without a fix have no part in a repair. -/
theorem Repair.text_eq_run (content : String) (vs : List Violation) :
    text content vs = run content (vs.map finding) := by
  have hjobs : Batch.jobs ((vs.filter fun v => v.fix.isSome).map finding) =
      Batch.jobs (vs.map finding) := by
    rw [Batch.jobs_eq_filterMap, Batch.jobs_eq_filterMap, List.filterMap_map, List.filterMap_map,
      List.filterMap_filter]
    refine List.filterMap_congr fun v _ => ?_
    cases hfix : v.fix with
    | none => simp [Batch.job?, finding, hfix]
    | some fix => simp
  have hrun : run content ((vs.filter fun v => v.fix.isSome).map finding) =
      run content (vs.map finding) := by
    rw [run, run, Batch.applied?_congr content (congrArg Batch.inOrder hjobs)]
  rw [← hrun, text]
  split
  · next hempty =>
      rw [List.isEmpty_iff.mp hempty]
      rfl
  · rfl

/-- The server's repair is the batch repair in the order of lines. -/
theorem Repair.text_toViolations (content : String) (findings : List Finding) :
    text content (Markdown.toViolations findings) =
      (Batch.applied? content (Batch.byLine findings)).getD content := by
  rw [text_eq_run, run, Batch.applied?_congr content
    (congrArg Batch.inOrder (Batch.jobs_finding_toViolations findings))]

theorem Repair.text_toViolations_of_tiesInOrder (content : String) {findings : List Finding}
    (h : Batch.TiesInOrder findings) :
    text content (Markdown.toViolations findings) =
      (Batch.applied? content findings).getD content := by
  rw [text_toViolations, Batch.applied?_congr content (Batch.inOrder_jobs_byLine h)]

/-! ## The Markdown rules -/

/-- A finding with a patch for its own line, if it has one. -/
def Finding.IsOwn (finding : Finding) : Prop :=
  ∀ patch ∈ finding.patch, patch.line.getD finding.line = finding.line

theorem Batch.tiesInOrder_of_isOwn {findings : List Finding}
    (h : ∀ finding ∈ findings, finding.IsOwn) : TiesInOrder findings := by
  refine List.Pairwise.imp_of_mem ?_ (List.pairwise_of_forall fun _ _ => trivial)
  intro a b ha hb _ j hj k hk hline _
  obtain ⟨p, hp, rfl⟩ := Option.map_eq_some_iff.mp hj
  obtain ⟨q, hq, rfl⟩ := Option.map_eq_some_iff.mp hk
  refine .inl (UInt64.le_of_eq ?_)
  rw [← h a ha p hp, ← h b hb q hq]
  exact hline

namespace Markdown

variable {finding : Finding}

theorem isOwn_of_mem_trailingSpaces (number : Nat) (line : List Char)
    (h : finding ∈ trailingSpaces number line) : finding.IsOwn := by
  dsimp only [trailingSpaces] at h
  obtain ⟨-, rfl⟩ := List.mem_ite_nil_right.mp h |>.imp_right List.mem_singleton.mp
  rintro _ ⟨⟩
  rfl

theorem isOwn_of_mem_hardTabs (number : Nat) (line : List Char)
    (h : finding ∈ hardTabs number line) : finding.IsOwn := by
  obtain ⟨column, -, rfl⟩ := List.mem_map.mp h
  rintro _ ⟨⟩
  rfl

theorem isOwn_of_mem_missingSpace (number : Nat) (line : List Char)
    (h : finding ∈ missingSpace number line) : finding.IsOwn := by
  dsimp only [missingSpace] at h
  obtain ⟨-, rfl⟩ := List.mem_ite_nil_right.mp h |>.imp_right List.mem_singleton.mp
  rintro _ ⟨⟩
  rfl

theorem isOwn_of_mem_eachLine {f : Nat → List Char → List Finding}
    (hf : ∀ number line, finding ∈ f number line → finding.IsOwn) {lines : List NumberedLine}
    (h : finding ∈ eachLine f lines) : finding.IsOwn := by
  obtain ⟨⟨number, line⟩, -, hline⟩ := List.mem_flatMap.mp h
  exact hf number line hline

theorem isOwn_of_mem_blankRun {first count : Nat} (h : finding ∈ blankRun first count) :
    finding.IsOwn := by
  obtain ⟨-, rfl⟩ := List.mem_ite_nil_left.mp h |>.imp_right List.mem_singleton.mp
  rintro _ ⟨⟩
  rfl

theorem isOwn_of_mem_blankRuns {run next : Nat} {lines : List NumberedLine}
    (h : finding ∈ blankRuns run lines next) : finding.IsOwn := by
  induction lines generalizing run next with
  | nil => exact isOwn_of_mem_blankRun h
  | cons line lines ih =>
      rw [blankRuns] at h
      split at h
      · exact ih h
      · rcases List.mem_append.mp h with h | h
        · exact isOwn_of_mem_blankRun h
        · exact ih h

theorem isOwn_of_mem_missingNewline {lines : List NumberedLine}
    (h : finding ∈ missingNewline lines) : finding.IsOwn := by
  unfold missingNewline at h
  split at h
  · cases h
  · obtain ⟨-, rfl⟩ := List.mem_ite_nil_left.mp h |>.imp_right List.mem_singleton.mp
    rintro _ ⟨⟩
    rfl

theorem isOwn_of_mem_findings {isOn : String → Bool} {text : String}
    (h : finding ∈ findings isOn text) : finding.IsOwn := by
  obtain ⟨rule, hrule, hfinding⟩ := List.mem_flatMap.mp h
  have hmem : rule ∈ rules := (List.mem_filter.mp hrule).1
  simp only [rules, List.mem_cons, List.not_mem_nil, or_false] at hmem
  rcases hmem with rfl | rfl | rfl | rfl | rfl
  · exact isOwn_of_mem_eachLine isOwn_of_mem_trailingSpaces hfinding
  · exact isOwn_of_mem_eachLine isOwn_of_mem_hardTabs hfinding
  · exact isOwn_of_mem_blankRuns hfinding
  · exact isOwn_of_mem_eachLine isOwn_of_mem_missingSpace hfinding
  · exact isOwn_of_mem_missingNewline hfinding

/-- The repair of what the Markdown engine finds is the batch repair of what
its rules find, in the order of the rules. -/
theorem repair_findings (isOn : String → Bool) (text : String) :
    Repair.text text (toViolations (findings isOn text)) =
      (Batch.applied? text (findings isOn text)).getD text :=
  Repair.text_toViolations_of_tiesInOrder text
    (Batch.tiesInOrder_of_isOwn fun _ h => isOwn_of_mem_findings h)

end Markdown

/-! ## The repair of findings -/

/-- **What the server's repair is to the batch.** A document repaired by the
violations of findings is the document that the batch repair makes with the
findings in the order of their lines, or stays as it is where that would cut
a character. If findings with different patches for one place come in that
order already, the batch makes the same of the findings as they come. -/
theorem repair_text_toViolations (text : String) (findings : List Finding) :
    Repair.text text (Markdown.toViolations findings) =
        (Batch.applied? text (Batch.byLine findings)).getD text
      ∧ (Batch.TiesInOrder findings →
          Repair.text text (Markdown.toViolations findings) =
            (Batch.applied? text findings).getD text) :=
  ⟨Repair.text_toViolations text findings, Repair.text_toViolations_of_tiesInOrder text⟩

def scatteredFindings : List Finding :=
  [{ line := 3, patch := some { insertText := some "C" } },
    { line := 1, patch := some { insertText := some "A" } },
    { line := 2, patch := some { line := some 1, insertText := some "B" } }]

theorem repair_text_toViolations_scattered :
    Repair.text "x\ny\nz\n" (Markdown.toViolations scatteredFindings) = "BAx\ny\nCz\n" := by
  have hties : Batch.TiesInOrder scatteredFindings := by
    simp [Batch.TiesInOrder, scatteredFindings, Batch.job?, Batch.Job.column]
  have hbatch : Batch.applied? "x\ny\nz\n" scatteredFindings = some "BAx\ny\nCz\n" := by
    rw [Batch.applied?_of_pairwise (by decide)]
    decide +kernel
  rw [(repair_text_toViolations _ _).2 hties, hbatch]
  rfl

/-- Two findings for the start of the first line, the later line first. -/
def crossingFindings : List Finding :=
  [{ line := 5, patch := some { line := some 1, insertText := some "A" } },
    { line := 2, patch := some { line := some 1, insertText := some "B" } }]

/-- Findings for one place that come out of order: the sort turns them
around, and the repair shows it. -/
theorem repair_text_toViolations_ne :
    Repair.text "x\n" (Markdown.toViolations crossingFindings) = "ABx\n"
      ∧ Batch.applied? "x\n" crossingFindings = some "BAx\n"
      ∧ ¬ ∀ text findings, Repair.text text (Markdown.toViolations findings) =
          (Batch.applied? text findings).getD text := by
  have hsort : Batch.byLine crossingFindings = crossingFindings.reverse := by
    simp [Batch.byLine, crossingFindings, List.mergeSort]
  have hserver : Repair.text "x\n" (Markdown.toViolations crossingFindings) = "ABx\n" := by
    rw [Repair.text_toViolations, hsort, Batch.applied?_of_pairwise (by decide)]
    decide +kernel
  have hbatch : Batch.applied? "x\n" crossingFindings = some "BAx\n" := by
    rw [Batch.applied?_of_pairwise (by decide)]
    decide +kernel
  refine ⟨hserver, hbatch, fun h => ?_⟩
  have heq := h "x\n" crossingFindings
  rw [hserver, hbatch] at heq
  exact absurd heq (by decide)

end LintServer
