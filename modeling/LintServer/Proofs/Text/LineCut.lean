import LintServer.Proofs.Text.Columns
import LintServer.Protocol.TextEdit

/-!
# A text cut around one of its lines

Lines are what stands between newlines, numbered from zero. A `LineCut` is
a text in four parts, around the body of one line: everything before the
line, the body, the `'\r'` that may end the line, and everything from its
newline on. A text has at most one cut at a line (`LineCut.unique`), and it
has one just if it has the line (`LineCut.ofPiece`).

The two columns that matter lie at the ends of the body: position `(i, 0)`
cuts the text in front of it and `(i, units of the body)` behind it
(`LineCut.cutAt?_start`, `LineCut.cutAt?_stop`). Hence an edit of just that
range puts another body in place and touches nothing else
(`LineCut.applied?_ofLine`).
-/

namespace LintServer.Text

/-! ## Pieces and what stands around them -/

section

variable {α : Type}

theorem intercalate_cons (between p : List α) (ps : List (List α)) :
    between.intercalate (p :: ps) = p ++ ps.flatMap (between ++ ·) := by
  induction ps generalizing p with
  | nil => simp
  | cons q qs ih => simp [List.intercalate_cons_cons, ih]

/-- Joined pieces, seen from one of them. -/
theorem intercalate_eq_around (between : List α) {ps : List (List α)} {i : Nat} {p : List α}
    (h : ps[i]? = some p) :
    between.intercalate ps =
      (ps.take i).flatMap (· ++ between) ++ p ++ (ps.drop (i + 1)).flatMap (between ++ ·) := by
  induction ps generalizing i with
  | nil => simp at h
  | cons q qs ih =>
      cases i with
      | zero =>
          cases h
          simp [intercalate_cons]
      | succ i =>
          cases qs with
          | nil => simp at h
          | cons r rs =>
              simp [List.intercalate_cons_cons, ih (i := i) (by simpa using h)]

variable [BEq α] [LawfulBEq α] {c sep : α}

theorem sep_not_mem_of_mem_pieces {l p : List α} (h : p ∈ pieces sep l) : sep ∉ p := by
  induction l generalizing p with
  | nil =>
      rw [pieces, List.splitOn_nil, List.mem_singleton] at h
      simp [h]
  | cons a l ih =>
      rw [pieces, List.splitOn_cons_eq_if_modifyHead] at h
      split at h
      · rcases List.mem_cons.mp h with rfl | h
        · exact List.not_mem_nil
        · exact ih h
      · next ha =>
          obtain ⟨q, qs, hps⟩ := List.exists_cons_of_ne_nil (List.splitOn_ne_nil sep l)
          rw [hps, List.modifyHead_cons] at h
          rcases List.mem_cons.mp h with rfl | h
          · have hq : sep ∉ q := ih (by simp [hps])
            have hne : sep ≠ a := fun heq => ha (beq_iff_eq.mpr heq.symm)
            simp [hne, hq]
          · exact ih (by simp [hps, h])

theorem count_intercalate {between : List α} (hsep : between.count c = 1) {ps : List (List α)}
    (hne : ps ≠ []) (h : ∀ p ∈ ps, c ∉ p) :
    (between.intercalate ps).count c + 1 = ps.length := by
  induction ps with
  | nil => exact absurd rfl hne
  | cons p ps ih =>
      obtain ⟨hp, hps⟩ := List.forall_mem_cons.mp h
      have hzero : p.count c = 0 := List.count_eq_zero.mpr hp
      cases ps with
      | nil => rw [List.intercalate_singleton, hzero, List.length_singleton]
      | cons q qs =>
          rw [List.intercalate_cons_cons, List.count_append, List.count_append, hzero, hsep,
            Nat.zero_add, Nat.add_comm 1, ih (List.cons_ne_nil q qs) hps]
          rfl

/-- There is one piece more than there are separators. -/
theorem length_pieces (sep : α) (l : List α) : (pieces sep l).length = l.count sep + 1 := by
  have hsep : [sep].count sep = 1 := by simp
  have hcount := count_intercalate hsep (List.splitOn_ne_nil sep l) fun _ =>
    sep_not_mem_of_mem_pieces
  rw [List.intercalate_splitOn] at hcount
  exact hcount.symm

theorem count_flatMap_append {between : List α} (hsep : between.count c = 1)
    {ps : List (List α)} (h : ∀ p ∈ ps, c ∉ p) :
    (ps.flatMap (· ++ between)).count c = ps.length := by
  induction ps with
  | nil => rfl
  | cons p ps ih =>
      have hp : p.count c = 0 := List.count_eq_zero.mpr (h p (List.mem_cons_self ..))
      have hps := ih fun q hq => h q (List.mem_cons_of_mem _ hq)
      simp only [List.flatMap_cons, List.count_append, hsep, hp, hps, List.length_cons]
      omega

end

/-- There are as many lines to look up as an editor counts. -/
theorem isSome_lineAt?_iff {content : String} {index : Nat} :
    (lineAt? content index).isSome ↔ index < lineCount content := by
  rw [lineAt?, Option.isSome_map, lineCount]
  simp

/-! ## Cutting at a line and column -/

/-- A text that ends where a line begins. -/
def EndsLine (before : List Char) : Prop := before = [] ∨ before.getLast? = some '\n'

theorem EndsLine.tail {c : Char} {cs : List Char} (h : EndsLine (c :: cs)) : EndsLine cs := by
  cases cs with
  | nil => exact Or.inl rfl
  | cons d ds => exact Or.inr (by simpa [EndsLine, List.getLast?_cons_cons] using h)

theorem EndsLine.getLast?_ne_return {before : List Char} (h : EndsLine before) :
    before.getLast? ≠ some '\r' := by
  rcases h with h | h <;> simp [h]

theorem EndsLine.count_pos {c : Char} {cs : List Char} (h : EndsLine (c :: cs)) :
    0 < (c :: cs).count '\n' := by
  rw [List.count_pos_iff]
  rcases h with h | h
  · cases h
  · exact List.mem_of_getLast? h

theorem cutUnits?_append {line : List Char} (h : '\n' ∉ line) (rest : List Char) :
    cutUnits? (unitLength line) (line ++ rest) = some (line, rest) := by
  induction line with
  | nil => cases rest <;> simp [unitLength, cutUnits?]
  | cons c cs ih =>
      have hc : c ≠ '\n' := fun hc => h (by simp [hc])
      have hcs : '\n' ∉ cs := fun hcs => h (by simp [hcs])
      have hpos := unitWidth_pos c
      rw [List.cons_append, unitLength, cutUnits?, if_neg (by omega), if_neg hc,
        if_pos (by omega), Nat.add_sub_cancel_left, ih hcs]
      rfl

/-- Where whole lines stand in front, a line is counted from behind them. -/
theorem cutAt?_append {before : List Char} (h : EndsLine before) (column : Nat)
    (rest : List Char) :
    cutAt? (before.count '\n') column (before ++ rest) =
      (cutUnits? column rest).map fun (a, b) => (before ++ a, b) := by
  induction before with
  | nil => cases rest <;> simp [cutAt?, cutUnits?]
  | cons c cs ih =>
      have hpos := h.count_pos
      have hnext : (if c = '\n' then (c :: cs).count '\n' - 1 else (c :: cs).count '\n')
          = cs.count '\n' := by
        by_cases hc : c = '\n' <;> simp [hc]
      rw [List.cons_append, cutAt?, if_neg (by omega), hnext, ih h.tail, Option.map_map]
      rfl

/-! ## Line cuts -/

/-- A text in four parts around the body of the line with a number. -/
structure LineCut (text : List Char) (index : Nat) where
  before : List Char
  body : List Char
  /-- The `'\r'` that may end the line. -/
  mark : List Char
  after : List Char
  text_eq : text = before ++ (body ++ mark ++ after)
  count_before : before.count '\n' = index
  endsLine_before : EndsLine before
  newline_not_mem : '\n' ∉ body
  mark_eq : mark = ['\r'] ∨ mark = [] ∧ body.getLast? ≠ some '\r'
  after_eq : after = [] ∨ after.head? = some '\n'

namespace LineCut

variable {text : List Char} {index : Nat}

def withBody (cut : LineCut text index) (body : List Char) : List Char :=
  cut.before ++ (body ++ cut.mark ++ cut.after)

theorem newline_not_mem_line (cut : LineCut text index) : '\n' ∉ cut.body ++ cut.mark := by
  intro h
  rcases List.mem_append.mp h with h | h
  · exact cut.newline_not_mem h
  · rcases cut.mark_eq with hm | ⟨hm, -⟩ <;> simp [hm] at h

theorem dropReturn_line (cut : LineCut text index) :
    dropReturn (cut.body ++ cut.mark) = cut.body := by
  rcases cut.mark_eq with hm | ⟨hm, hbody⟩
  · simp [dropReturn, hm]
  · simp [dropReturn, hm, hbody]

/-! ### There is at most one -/

/-- Of two ways to cut a text behind as many whole lines, neither is
further. -/
theorem before_unique {a b r t : List Char} (ha : EndsLine a) (hb : EndsLine b)
    (hcount : a.count '\n' = b.count '\n') (h : a ++ r = b ++ t) : a = b := by
  have hbetween {x y : List Char} (hy : EndsLine (x ++ y))
      (hc : x.count '\n' = (x ++ y).count '\n') : y = [] := by
    refine Classical.byContradiction fun hne => ?_
    rcases hy with hy | hy
    · exact hne (List.append_eq_nil_iff.mp hy).2
    · rw [List.getLast?_append, List.getLast?_eq_some_getLast hne, Option.some_or] at hy
      have hmem : '\n' ∈ y := Option.some.inj hy ▸ List.getLast_mem hne
      have hpos := List.count_pos_iff.mpr hmem
      rw [List.count_append] at hc
      omega
  rcases List.append_eq_append_iff.mp h with ⟨d, rfl, -⟩ | ⟨d, rfl, -⟩
  · rw [hbetween hb hcount, List.append_nil]
  · rw [hbetween ha hcount.symm, List.append_nil]

theorem takeWhile_line {line after : List Char} (hline : '\n' ∉ line)
    (hafter : after = [] ∨ after.head? = some '\n') :
    (line ++ after).takeWhile (· ≠ '\n') = line := by
  have hall : ∀ c ∈ line, decide (c ≠ '\n') = true := by
    intro c hc
    have hne : c ≠ '\n' := fun hn => hline (hn ▸ hc)
    simpa using hne
  rw [List.takeWhile_append_of_pos hall]
  rcases hafter with rfl | hafter
  · simp
  · cases after with
    | nil => simp
    | cons c cs =>
        cases hafter
        simp

theorem unique (a b : LineCut text index) : a = b := by
  have htext : a.before ++ (a.body ++ a.mark ++ a.after)
      = b.before ++ (b.body ++ b.mark ++ b.after) := a.text_eq.symm.trans b.text_eq
  have hbefore : a.before = b.before :=
    before_unique a.endsLine_before b.endsLine_before
      (a.count_before.trans b.count_before.symm) htext
  have hrest : a.body ++ a.mark ++ a.after = b.body ++ b.mark ++ b.after := by
    rw [hbefore] at htext
    exact List.append_cancel_left htext
  have hline : a.body ++ a.mark = b.body ++ b.mark := by
    rw [← takeWhile_line a.newline_not_mem_line a.after_eq, hrest,
      takeWhile_line b.newline_not_mem_line b.after_eq]
  have hafter : a.after = b.after := by
    rw [hline] at hrest
    exact List.append_cancel_left hrest
  have hbody : a.body = b.body := by
    rw [← a.dropReturn_line, hline, b.dropReturn_line]
  have hmark : a.mark = b.mark := by
    rw [hbody] at hline
    exact List.append_cancel_left hline
  cases a
  cases b
  simp_all

/-! ### There is one if there is such a line -/

theorem endsLine_flatMap {sep : List Char} (hsep : sep.getLast? = some '\n')
    (ps : List (List Char)) : EndsLine (ps.flatMap (· ++ sep)) := by
  induction ps with
  | nil => exact Or.inl rfl
  | cons p ps ih =>
      right
      rw [List.flatMap_cons, List.getLast?_append]
      rcases ih with h | h
      · simp [h, hsep]
      · simp [h]

theorem dropReturn_append (line : List Char) :
    dropReturn line ++ (if line.getLast? = some '\r' then ['\r'] else []) = line := by
  unfold dropReturn
  split
  · next h =>
      obtain ⟨start, rfl⟩ := List.getLast?_eq_some_iff.mp h
      simp
  · exact List.append_nil line

def ofPiece {line : List Char} (h : (pieces '\n' text)[index]? = some line) :
    LineCut text index where
  before := ((pieces '\n' text).take index).flatMap (· ++ ['\n'])
  body := dropReturn line
  mark := if line.getLast? = some '\r' then ['\r'] else []
  after := ((pieces '\n' text).drop (index + 1)).flatMap ('\n' :: ·)
  text_eq := by
    have haround := intercalate_eq_around ['\n'] h
    rw [pieces, List.intercalate_splitOn, List.append_assoc] at haround
    rw [dropReturn_append]
    exact haround
  count_before := by
    have hlt := (List.getElem?_eq_some_iff.mp h).1
    rw [count_flatMap_append rfl, List.length_take, Nat.min_eq_left (Nat.le_of_lt hlt)]
    exact fun p hp => sep_not_mem_of_mem_pieces (List.mem_of_mem_take hp)
  endsLine_before := endsLine_flatMap rfl _
  newline_not_mem hn := by
    refine sep_not_mem_of_mem_pieces (List.mem_of_getElem? h) ?_
    rw [← dropReturn_append line]
    exact List.mem_append_left _ hn
  mark_eq := by
    by_cases hr : line.getLast? = some '\r'
    · exact Or.inl (if_pos hr)
    · exact Or.inr ⟨if_neg hr, by rwa [dropReturn, if_neg hr]⟩
  after_eq := by
    cases (pieces '\n' text).drop (index + 1) with
    | nil => exact Or.inl rfl
    | cons p ps => exact Or.inr rfl

/-- A line that can be looked up is the body of a cut. -/
theorem exists_of_lineAt? {content line : String} (h : lineAt? content index = some line) :
    ∃ cut : LineCut content.toList index, line.toList = cut.body := by
  obtain ⟨piece, hpiece, rfl⟩ := Option.map_eq_some_iff.mp h
  exact ⟨ofPiece hpiece, String.toList_ofList⟩

theorem head?_pieces {line after : List Char} (hline : '\n' ∉ line)
    (hafter : after = [] ∨ after.head? = some '\n') :
    (pieces '\n' (line ++ after)).head? = some line := by
  rcases hafter with rfl | hafter
  · rw [List.append_nil, pieces, List.splitOn_eq_singleton hline, List.head?_cons]
  · obtain ⟨rest, rfl⟩ := List.head?_eq_some_iff.mp hafter
    rw [pieces, List.splitOn_append_cons_self_of_not_mem hline, List.head?_cons]

theorem head?_drop_pieces {before : List Char} (h : EndsLine before) (rest : List Char) :
    (pieces '\n' (before ++ rest))[before.count '\n']? = (pieces '\n' rest).head? := by
  induction before with
  | nil => rw [List.nil_append, List.count_nil, List.head?_eq_getElem?]
  | cons c cs ih =>
      rw [List.cons_append, pieces, List.splitOn_cons_eq_if_modifyHead]
      by_cases hc : c = '\n'
      · rw [if_pos (beq_iff_eq.mpr hc), hc, List.count_cons_self, List.getElem?_cons_succ,
          ih h.tail]
      · have hpos := Nat.ne_of_gt h.count_pos
        rw [List.count_cons_of_ne hc] at hpos ⊢
        rw [if_neg (mt beq_iff_eq.mp hc), List.getElem?_modifyHead, if_neg hpos, ih h.tail]

/-- The line of a cut is the piece with its number. -/
theorem getElem?_pieces (cut : LineCut text index) :
    (pieces '\n' text)[index]? = some (cut.body ++ cut.mark) := by
  have hpiece := head?_drop_pieces cut.endsLine_before (cut.body ++ cut.mark ++ cut.after)
  rw [cut.count_before, ← cut.text_eq] at hpiece
  rw [hpiece, head?_pieces cut.newline_not_mem_line cut.after_eq]

/-! ### Editing the line -/

theorem cutAt?_start (cut : LineCut text index) :
    cutAt? index 0 text = some (cut.before, cut.body ++ cut.mark ++ cut.after) := by
  have hcut := cutAt?_append cut.endsLine_before 0 (cut.body ++ cut.mark ++ cut.after)
  rw [cut.count_before, ← cut.text_eq] at hcut
  rw [hcut]
  cases cut.body ++ cut.mark ++ cut.after <;> simp [cutUnits?]

theorem cutAt?_stop (cut : LineCut text index) :
    cutAt? index (unitLength cut.body) text =
      some (cut.before ++ cut.body, cut.mark ++ cut.after) := by
  have htext : text = cut.before ++ (cut.body ++ (cut.mark ++ cut.after)) := by
    rw [← List.append_assoc cut.body]
    exact cut.text_eq
  have hcut := cutAt?_append cut.endsLine_before (unitLength cut.body)
    (cut.body ++ (cut.mark ++ cut.after))
  rw [cutUnits?_append cut.newline_not_mem, cut.count_before, ← htext] at hcut
  exact hcut

end LineCut

/-! ## Texts whose places have positions -/

/-- Every place in the text has a position: neither the number of a line
nor a column is too great for one. -/
structure Addressable (content : String) : Prop where
  lines : lineCount content < UInt32.size
  units : ∀ line ∈ pieces '\n' content.toList, unitLength line < UInt32.size

theorem Addressable.units_lt {content : String} {index : Nat} (h : Addressable content)
    (cut : LineCut content.toList index) : unitLength cut.body < UInt32.size := by
  have hpiece := h.units _ (List.mem_of_getElem? cut.getElem?_pieces)
  rw [unitLength_append] at hpiece
  exact Nat.lt_of_le_of_lt (Nat.le_add_right _ _) hpiece

namespace LineCut

variable {content line : String} {index : UInt32}

/-- The range of a line begins in front of its body. -/
theorem cut?_start (cut : LineCut content.toList index.toNat) (line : String) :
    (Range.ofLine index line).start.cut? content.toList =
      some (cut.before, cut.body ++ cut.mark ++ cut.after) :=
  cut.cutAt?_start

/-- The range of a line ends behind its body, if the length of the body is not
cut. -/
theorem cut?_stop (cut : LineCut content.toList index.toNat) (hline : line.toList = cut.body)
    (hunits : unitLength cut.body < UInt32.size) :
    (Range.ofLine index line).stop.cut? content.toList =
      some (cut.before ++ cut.body, cut.mark ++ cut.after) := by
  have hlength : (Text.units line).toNat = unitLength cut.body := by
    rw [toNat_units, hline, Nat.mod_eq_of_lt hunits]
  rw [Position.cut?, Range.ofLine, hlength]
  exact cut.cutAt?_stop

/-- An edit of just the body of a line puts another body in its place, if
the length of the body is not cut. -/
theorem applied?_of_units_lt (cut : LineCut content.toList index.toNat)
    (hline : line.toList = cut.body) (hunits : unitLength cut.body < UInt32.size)
    (newText : String) :
    (TextEdit.mk (.ofLine index line) newText).applied? content =
      some (String.ofList (cut.withBody newText.toList)) := by
  simp [TextEdit.applied?, cut.cut?_start, cut.cut?_stop hline hunits, withBody]

end LineCut

theorem LineCut.applied?_ofLine {content line : String} {index : UInt32}
    (h : Addressable content) (cut : LineCut content.toList index.toNat)
    (hline : line.toList = cut.body) (newText : String) :
    (TextEdit.mk (.ofLine index line) newText).applied? content =
      some (String.ofList (cut.withBody newText.toList)) :=
  cut.applied?_of_units_lt hline (h.units_lt cut) newText

end LintServer.Text
