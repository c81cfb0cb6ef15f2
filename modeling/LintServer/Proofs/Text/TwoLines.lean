import LintServer.Proofs.Text.Endings
import Mathlib.Data.List.Basic

/-!
# Two lines of one text

Around two of its lines a text is cut into the earlier line, the later line,
and what is before, between and behind them (`LineCut.exists_between`). To put
another body in the place of one leaves the parts around the other where they
are, so the other line is found under its number as before
(`LineCut.exists_pair`). Whichever of the two is changed first, and also where
both are changed at once, the same text comes out
(`LineCut.appliedAtOnce?_pair`).

The ending of the document is found by a search of the whole text for a
`"\r\n"`. A body without a newline has no part in one, and the `'\r'` that may
follow the body is left where it is, so the search has the same outcome
(`LineCut.ofText_withBody`).
-/

namespace LintServer.Text

open LineEnding (ofText hasCrlf)

/-! ## Where a `"\r\n"` may be -/

theorem newline_mem_of_hasCrlf {text : List Char} (h : hasCrlf text) : '\n' ∈ text := by
  fun_induction hasCrlf text with
  | case1 => simp
  | case2 c cs _ ih => exact List.mem_cons_of_mem c (ih h)
  | case3 => cases h

/-- No `"\r\n"` is cut in two, unless the cut is right behind a `'\r'` and in
front of a `'\n'`. -/
theorem hasCrlf_append {a b : List Char} (h : a.getLast? ≠ some '\r' ∨ b.head? ≠ some '\n') :
    hasCrlf (a ++ b) = (hasCrlf a || hasCrlf b) := by
  fun_induction hasCrlf a with
  | case1 cs => rfl
  | case2 c cs hne ih =>
      cases cs with
      | nil =>
          rw [List.singleton_append, hasCrlf, hasCrlf, Bool.false_or]
          rintro rest ⟨⟩ rfl
          simp at h
      | cons d ds =>
          rw [List.getLast?_cons_cons] at h
          rw [← ih h, List.cons_append, List.cons_append, hasCrlf]
          rintro rest rfl hrest
          obtain ⟨rfl, -⟩ := List.cons.inj hrest
          exact hne ds rfl rfl
  | case3 => rfl

theorem mergeSort_swap {α : Type} {le : α → α → Bool} {a b : α} (h : le b a = false) :
    [b, a].mergeSort le = [a, b] := by
  simp [List.mergeSort, List.MergeSort.Internal.splitInTwo, h]

namespace LineCut

variable {text : List Char} {i j : Nat}

theorem hasCrlf_around (cut : LineCut text i) {body : List Char} (hnewline : '\n' ∉ body)
    (hbody : cut.mark = ['\r'] ∨ body.getLast? ≠ some '\r') :
    hasCrlf (cut.withBody body) = (hasCrlf cut.before || hasCrlf (cut.mark ++ cut.after)) := by
  have hinside : hasCrlf body = false :=
    Bool.eq_false_iff.mpr fun h => hnewline (newline_mem_of_hasCrlf h)
  have hseam : body.getLast? ≠ some '\r' ∨ (cut.mark ++ cut.after).head? ≠ some '\n' := by
    rcases hbody with hmark | hlast
    · exact Or.inr (by simp [hmark])
    · exact Or.inl hlast
  rw [withBody, hasCrlf_append (.inl cut.endsLine_before.getLast?_ne_return), List.append_assoc,
    hasCrlf_append hseam, hinside, Bool.false_or]

/-- Another body without a line break leaves the document its ending. -/
theorem ofText_withBody (cut : LineCut text i) {body : List Char} (hnewline : '\n' ∉ body)
    (hreturn : '\r' ∉ body) : ofText (cut.withBody body) = ofText text := by
  have hnew := cut.hasCrlf_around hnewline
    (.inr fun hlast => hreturn (List.mem_of_getLast? hlast))
  have hold := cut.hasCrlf_around cut.newline_not_mem (cut.mark_eq.imp_right And.right)
  rw [withBody, ← cut.text_eq] at hold
  rw [ofText, ofText, hnew, hold]

/-! ## The earlier and the later line -/

/-- What stands between two lines. It begins and ends with a newline. -/
structure Between (a : LineCut text i) (b : LineCut text j) (between : List Char) : Prop where
  before_eq : b.before = a.before ++ (a.body ++ a.mark) ++ between
  after_eq : a.after = between ++ (b.body ++ b.mark ++ b.after)
  head?_eq : between.head? = some '\n'
  getLast?_eq : between.getLast? = some '\n'

theorem count_line (cut : LineCut text i) :
    (cut.before ++ (cut.body ++ cut.mark)).count '\n' = i := by
  rw [List.count_append, cut.count_before, List.count_eq_zero.mpr cut.newline_not_mem_line]
  rfl

/-- Something stands between two lines: the later one has a newline more in
front of it, and cannot begin before the earlier one has ended. -/
theorem exists_between (a : LineCut text i) (b : LineCut text j) (hij : i < j) :
    ∃ between, a.Between b between := by
  have htext : a.before ++ (a.body ++ a.mark) ++ a.after =
      b.before ++ (b.body ++ b.mark ++ b.after) := by
    rw [List.append_assoc, ← a.text_eq, ← b.text_eq]
  have hcount := a.count_line
  rcases List.append_eq_append_iff.mp htext with ⟨between, hbefore, hafter⟩ | ⟨d, hline, -⟩
  · have hbetween : between ≠ [] := by
      rintro rfl
      have hsame := b.count_before
      rw [hbefore, List.append_nil, hcount] at hsame
      exact Nat.ne_of_lt hij hsame
    refine ⟨between, hbefore, hafter, ?_, ?_⟩
    · rcases a.after_eq with hnil | hhead
      · exact absurd (List.append_eq_nil_iff.mp (hafter ▸ hnil)).1 hbetween
      · rwa [hafter, List.head?_append_of_ne_nil between hbetween] at hhead
    · rcases b.endsLine_before with hnil | hlast
      · exact absurd (List.append_eq_nil_iff.mp (hbefore ▸ hnil)).2 hbetween
      · rwa [hbefore, List.getLast?_append_of_ne_nil _ hbetween] at hlast
  · rw [hline, List.count_append, b.count_before] at hcount
    omega

def withBodies (a : LineCut text i) (b : LineCut text j) (bodyA bodyB : List Char) : List Char :=
  a.before ++ bodyA ++ b.before.drop (a.before ++ a.body).length
    ++ (bodyB ++ b.mark ++ b.after)

namespace Between

variable {a : LineCut text i} {b : LineCut text j} {between : List Char}

theorem ne_nil (h : a.Between b between) : between ≠ [] := by
  rintro rfl
  cases h.head?_eq

theorem withBodies_eq (h : a.Between b between) (bodyA bodyB : List Char) :
    a.withBodies b bodyA bodyB =
      a.before ++ (bodyA ++ a.mark ++ (between ++ (bodyB ++ b.mark ++ b.after))) := by
  have hdrop : b.before.drop (a.before ++ a.body).length = a.mark ++ between := by
    rw [h.before_eq, ← List.append_assoc, List.append_assoc, List.drop_left]
  rw [withBodies, hdrop]
  simp only [List.append_assoc]

/-- The later line, if the earlier one has another body. -/
def later (h : a.Between b between) {bodyA : List Char} (hA : '\n' ∉ bodyA) :
    LineCut (a.withBody bodyA) j where
  before := a.before ++ (bodyA ++ a.mark) ++ between
  body := b.body
  mark := b.mark
  after := b.after
  text_eq := by
    rw [withBody, h.after_eq]
    simp only [List.append_assoc]
  count_before := by
    have hmark : '\n' ∉ a.mark :=
      fun hn => a.newline_not_mem_line (List.mem_append_right a.body hn)
    have hline : (bodyA ++ a.mark).count '\n' = (a.body ++ a.mark).count '\n' := by
      rw [List.count_eq_zero.mpr a.newline_not_mem_line, List.count_append,
        List.count_eq_zero.mpr hA, List.count_eq_zero.mpr hmark]
    rw [List.count_append, List.count_append, hline, ← List.count_append, ← List.count_append,
      ← h.before_eq, b.count_before]
  endsLine_before := Or.inr (by rw [List.getLast?_append_of_ne_nil _ h.ne_nil, h.getLast?_eq])
  newline_not_mem := b.newline_not_mem
  mark_eq := b.mark_eq
  after_eq := b.after_eq

/-- The earlier line, if the later one has another body. -/
def earlier (h : a.Between b between) (bodyB : List Char) : LineCut (b.withBody bodyB) i where
  before := a.before
  body := a.body
  mark := a.mark
  after := between ++ (bodyB ++ b.mark ++ b.after)
  text_eq := by
    rw [withBody, h.before_eq]
    simp only [List.append_assoc]
  count_before := a.count_before
  endsLine_before := a.endsLine_before
  newline_not_mem := a.newline_not_mem
  mark_eq := a.mark_eq
  after_eq := Or.inr (by rw [List.head?_append_of_ne_nil _ h.ne_nil, h.head?_eq])

theorem withBody_later (h : a.Between b between) {bodyA : List Char} (hA : '\n' ∉ bodyA)
    (bodyB : List Char) : (h.later hA).withBody bodyB = a.withBodies b bodyA bodyB := by
  rw [h.withBodies_eq, withBody]
  simp only [later, List.append_assoc]

theorem withBody_earlier (h : a.Between b between) (bodyA bodyB : List Char) :
    (h.earlier bodyB).withBody bodyA = a.withBodies b bodyA bodyB :=
  (h.withBodies_eq bodyA bodyB).symm

end Between

/-- With another body on one of two lines, the other line is where it was. -/
theorem exists_pair (a : LineCut text i) (b : LineCut text j) (hij : i < j)
    {bodyA : List Char} (hA : '\n' ∉ bodyA) (bodyB : List Char) :
    (∃ cut : LineCut (a.withBody bodyA) j,
        cut.body = b.body ∧ cut.withBody bodyB = a.withBodies b bodyA bodyB)
      ∧ ∃ cut : LineCut (b.withBody bodyB) i,
        cut.body = a.body ∧ cut.withBody bodyA = a.withBodies b bodyA bodyB := by
  obtain ⟨between, h⟩ := a.exists_between b hij
  exact ⟨⟨h.later hA, rfl, h.withBody_later hA bodyB⟩,
    h.earlier bodyB, rfl, h.withBody_earlier bodyA bodyB⟩

/-! ## Both at once -/

/-- In the order of their ranges, the edits of two lines give both lines their
new bodies. -/
theorem appliedFrom?_pair {content lineA lineB : String} {i j : UInt32}
    (a : LineCut content.toList i.toNat) (b : LineCut content.toList j.toNat)
    (hij : i.toNat < j.toNat) (hA : lineA.toList = a.body) (hB : lineB.toList = b.body)
    (hunitsA : unitLength a.body < UInt32.size) (hunitsB : unitLength b.body < UInt32.size)
    (newA newB : String) :
    TextEdit.appliedFrom? content.toList 0 [⟨.ofLine i lineA, newA⟩, ⟨.ofLine j lineB, newB⟩] =
      some (a.withBodies b newA.toList newB.toList) := by
  have hapart : (a.before ++ a.body).length ≤ b.before.length := by
    obtain ⟨between, hbetween⟩ := a.exists_between b hij
    simp only [hbetween.before_eq, List.length_append]
    omega
  have htext : content.toList = b.before ++ b.body ++ (b.mark ++ b.after) := by
    simpa only [List.append_assoc] using b.text_eq
  have hafter : content.toList.drop (b.before ++ b.body).length = b.mark ++ b.after :=
    (congrArg (List.drop _) htext).trans List.drop_left
  have hordered {cut : List Char} (body : List Char) : cut.length ≤ (cut ++ body).length := by
    rw [List.length_append]
    exact Nat.le_add_right _ _
  simp only [TextEdit.appliedFrom?, a.cut?_start, b.cut?_start, a.cut?_stop hA hunitsA,
    b.cut?_stop hB hunitsB, Option.bind_eq_bind, Option.bind_some, Nat.zero_le, hordered, hapart,
    hafter, true_and, if_true, Option.pure_def, List.drop_zero, withBodies, List.append_assoc]

/-- Two edits made at once may come in either order. -/
theorem appliedAtOnce?_pair {content lineA lineB : String} {i j : UInt32}
    (a : LineCut content.toList i.toNat) (b : LineCut content.toList j.toNat)
    (hij : i.toNat < j.toNat) (hA : lineA.toList = a.body) (hB : lineB.toList = b.body)
    (hunitsA : unitLength a.body < UInt32.size) (hunitsB : unitLength b.body < UInt32.size)
    (newA newB : String) :
    let editA : TextEdit := ⟨.ofLine i lineA, newA⟩
    let editB : TextEdit := ⟨.ofLine j lineB, newB⟩
    let result := String.ofList (a.withBodies b newA.toList newB.toList)
    TextEdit.appliedAtOnce? [editA, editB] content = some result
      ∧ TextEdit.appliedAtOnce? [editB, editA] content = some result := by
  intro editA editB result
  have hlt : i < j := UInt32.lt_iff_toNat_lt.mpr hij
  have hbefore : editA.range.start ≤ editB.range.start := Or.inl hlt
  have hbehind : ¬ editB.range.start ≤ editA.range.start := by
    rintro (h | ⟨h, -⟩)
    · exact absurd hlt (UInt32.lt_asymm h)
    · exact UInt32.ne_of_lt hlt h.symm
  have hpair : TextEdit.appliedFrom? content.toList 0 [editA, editB] = some _ :=
    appliedFrom?_pair a b hij hA hB hunitsA hunitsB newA newB
  constructor
  · have hsorted : [editA, editB].Pairwise fun a b => decide (a.range.start ≤ b.range.start) := by
      simpa using hbefore
    rw [TextEdit.appliedAtOnce?, List.mergeSort_of_pairwise hsorted, hpair, Option.map_some]
  · rw [TextEdit.appliedAtOnce?, mergeSort_swap (decide_eq_false hbehind), hpair, Option.map_some]

end LineCut

end LintServer.Text
