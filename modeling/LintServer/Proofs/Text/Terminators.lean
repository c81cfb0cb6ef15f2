import LintServer.Proofs.Text.LineCut

/-!
# Lines that end as the protocol has it

The protocol ends a line at a `'\n'`, at a `"\r\n"` and at a `'\r'` alone. Who
counts newlines only counts the first two, so the two counts of a text differ
just by the `'\r'` that stand alone (`count_newline_lt_terminators_iff`).

The place behind the last character is found by the count of newlines and the
length of what follows the last of them. As the protocol reads it, that place
is the end of the text if no `'\r'` stands alone (`cutAtClamped_atEnd`);
otherwise there are more lines than newlines, so the place is on a line before
the last, and a part of the text is behind it (`cutAtClamped_ne_nil`).
-/

namespace LintServer.Text

/-- There is a `'\r'` that no `'\n'` follows. -/
def HasLoneReturn (text : List Char) : Prop :=
  ∃ before after, text = before ++ '\r' :: after ∧ after.head? ≠ some '\n'

/-- How many lines of a text are ended, as the protocol reads it. -/
def terminators : List Char → Nat
  | [] => 0
  | '\r' :: '\n' :: cs => terminators cs + 1
  | c :: cs => if c = '\n' ∨ c = '\r' then terminators cs + 1 else terminators cs

/-! ## A `'\r'` alone -/

theorem HasLoneReturn.append {text : List Char} (h : HasLoneReturn text) (front : List Char) :
    HasLoneReturn (front ++ text) := by
  obtain ⟨before, after, rfl, hafter⟩ := h
  exact ⟨front ++ before, after, (List.append_assoc ..).symm, hafter⟩

theorem HasLoneReturn.append_of_endsLine {text : List Char} (h : HasLoneReturn text)
    (hends : EndsLine text) (rest : List Char) : HasLoneReturn (text ++ rest) := by
  obtain ⟨before, after, rfl, hafter⟩ := h
  cases after with
  | nil => simp [EndsLine] at hends
  | cons c cs => exact ⟨before, c :: cs ++ rest, List.append_assoc .., hafter⟩

theorem hasLoneReturn_cons_return {cs : List Char} (h : ∀ rest, cs ≠ '\n' :: rest) :
    HasLoneReturn ('\r' :: cs) := by
  refine ⟨[], cs, rfl, fun hhead => ?_⟩
  obtain ⟨rest, rfl⟩ := List.head?_eq_some_iff.mp hhead
  exact h rest rfl

theorem hasLoneReturn_of_mem {line : List Char} (hreturn : '\r' ∈ line) (hnewline : '\n' ∉ line) :
    HasLoneReturn line := by
  obtain ⟨before, after, rfl⟩ := List.append_of_mem hreturn
  refine (hasLoneReturn_cons_return fun rest hafter => hnewline ?_).append before
  simp [hafter]

theorem hasLoneReturn_cons_of_ne {c : Char} (hc : c ≠ '\r') {cs : List Char} :
    HasLoneReturn (c :: cs) ↔ HasLoneReturn cs := by
  refine ⟨?_, fun h => h.append [c]⟩
  rintro ⟨before, after, htext, hafter⟩
  cases before with
  | nil => exact absurd (List.cons.inj htext).1 hc
  | cons b before => exact ⟨before, after, (List.cons.inj htext).2, hafter⟩

theorem hasLoneReturn_crlf {cs : List Char} :
    HasLoneReturn ('\r' :: '\n' :: cs) ↔ HasLoneReturn cs := by
  refine ⟨?_, fun h => h.append ['\r', '\n']⟩
  rintro ⟨before, after, htext, hafter⟩
  cases before with
  | nil =>
      obtain ⟨-, rfl⟩ := List.cons.inj htext
      exact absurd rfl hafter
  | cons b before =>
      have hrest : HasLoneReturn ('\n' :: cs) := ⟨before, after, (List.cons.inj htext).2, hafter⟩
      exact (hasLoneReturn_cons_of_ne (by decide)).mp hrest

theorem count_newline_le_terminators (text : List Char) : text.count '\n' ≤ terminators text := by
  fun_induction terminators text with
  | case1 => exact Nat.le_refl 0
  | case2 cs ih => simpa using ih
  | case3 c cs _ h ih =>
      rw [List.count_cons]
      split <;> omega
  | case4 c cs _ h ih =>
      rw [List.count_cons_of_ne fun hc => h (.inl hc)]
      exact ih

theorem count_newline_lt_terminators_iff {text : List Char} :
    text.count '\n' < terminators text ↔ HasLoneReturn text := by
  fun_induction terminators text with
  | case1 => simp [HasLoneReturn]
  | case2 cs ih => simpa [hasLoneReturn_crlf] using ih
  | case3 c cs hnot h ih =>
      rcases h with rfl | rfl
      · simpa [hasLoneReturn_cons_of_ne] using ih
      · have hle := count_newline_le_terminators cs
        have hlone := hasLoneReturn_cons_return fun rest => hnot rest rfl
        rw [List.count_cons_of_ne (by decide)]
        exact ⟨fun _ => hlone, fun _ => Nat.lt_succ_of_le hle⟩
  | case4 c cs _ h ih =>
      obtain ⟨hnewline, hreturn⟩ := not_or.mp h
      rw [List.count_cons_of_ne hnewline, hasLoneReturn_cons_of_ne hreturn]
      exact ih

instance (text : List Char) : Decidable (HasLoneReturn text) :=
  decidable_of_iff (text.count '\n' < terminators text) count_newline_lt_terminators_iff

/-! ## Before the last line -/

theorem terminators_cons {c : Char} {cs : List Char}
    (h : ∀ rest, c = '\r' → cs = '\n' :: rest → False) :
    terminators (c :: cs) =
      if c = '\n' ∨ c = '\r' then terminators cs + 1 else terminators cs := by
  rw [terminators]
  exact h

/-- A column is cut off at the end of its line, so nothing in front of it ends
a line. -/
theorem terminators_of_cutUnitsClamped {units : Nat} {text : List Char}
    (h : (cutUnitsClamped units text).2 = []) : terminators text = 0 := by
  fun_induction cutUnitsClamped units text with
  | case1 => rfl
  | case2 => cases h
  | case3 units c cs hstay before after hcut ih =>
      obtain ⟨hnewline, hreturn, -⟩ : c ≠ '\n' ∧ c ≠ '\r' ∧ _ := by
        simpa only [not_or] using hstay
      rw [terminators_cons fun _ hc _ => hreturn hc, if_neg (not_or.mpr ⟨hnewline, hreturn⟩)]
      exact ih (by rw [hcut]; exact h)

/-- Behind a place on a line that is ended something is left. -/
theorem cutAtClamped_ne_nil {line : Nat} {text : List Char} (h : line < terminators text)
    (column : Nat) : (cutAtClamped line column text).2 ≠ [] := by
  fun_induction cutAtClamped line column text with
  | case1 => exact fun hnil => absurd (terminators_of_cutUnitsClamped hnil) (Nat.ne_of_gt h)
  | case2 => exact absurd h (Nat.not_lt_zero _)
  | case3 line column cs before after hcut ih =>
      rw [hcut] at ih
      exact ih (Nat.lt_of_succ_lt_succ h)
  | case4 line column c cs hnot before after hcut ih =>
      rw [hcut] at ih
      rw [terminators_cons hnot] at h
      refine ih ?_
      split at h
      · next hends =>
          rw [if_pos hends]
          exact Nat.lt_of_succ_lt_succ h
      · next hends =>
          rw [if_neg hends]
          exact h

/-! ## The place behind the last character -/

theorem cutUnitsClamped_unitLength {line : List Char} (hnewline : '\n' ∉ line)
    (hreturn : '\r' ∉ line) : cutUnitsClamped (unitLength line) line = (line, []) := by
  induction line with
  | nil => rfl
  | cons c cs ih =>
      obtain ⟨hn, hns⟩ := not_or.mp (mt List.mem_cons.mpr hnewline)
      obtain ⟨hr, hrs⟩ := not_or.mp (mt List.mem_cons.mpr hreturn)
      have hstay : ¬ (c = '\n' ∨ c = '\r' ∨ unitLength (c :: cs) < unitWidth c) := by
        rw [unitLength]
        exact not_or.mpr ⟨Ne.symm hn, not_or.mpr ⟨Ne.symm hr, by omega⟩⟩
      rw [cutUnitsClamped, if_neg hstay, unitLength, Nat.add_sub_cancel_left, ih hns hrs]

theorem cutAtClamped_cons_of_ne {c : Char} (hc : c ≠ '\r') (line column : Nat)
    (cs : List Char) :
    cutAtClamped (line + 1) column (c :: cs) =
      (c :: (cutAtClamped (if c = '\n' then line else line + 1) column cs).1,
        (cutAtClamped (if c = '\n' then line else line + 1) column cs).2) := by
  rw [cutAtClamped]
  · simp only [hc, or_false]
  · exact fun _ h _ => hc h

/-- Where whole lines stand in front and no `'\r'` stands alone, a line is
counted from behind them. -/
theorem cutAtClamped_append {before : List Char} (hends : EndsLine before)
    (hlone : ¬ HasLoneReturn before) (column : Nat) (rest : List Char) :
    cutAtClamped (before.count '\n') column (before ++ rest) =
      (before ++ (cutUnitsClamped column rest).1, (cutUnitsClamped column rest).2) := by
  fun_induction terminators before with
  | case1 => rw [List.count_nil, cutAtClamped, List.nil_append, List.nil_append]
  | case2 cs ih =>
      have hcount : ('\r' :: '\n' :: cs).count '\n' = cs.count '\n' + 1 := by simp
      rw [hcount, List.cons_append, List.cons_append, cutAtClamped,
        ih hends.tail.tail (mt hasLoneReturn_crlf.mpr hlone)]
      rfl
  | case3 c cs hnot h ih =>
      rcases h with rfl | rfl
      · have hrest := ih hends.tail (mt (hasLoneReturn_cons_of_ne (by decide)).mpr hlone)
        rw [List.count_cons_self, List.cons_append, cutAtClamped_cons_of_ne (by decide), if_pos rfl,
          hrest]
        rfl
      · exact absurd (hasLoneReturn_cons_return fun cs => hnot cs rfl) hlone
  | case4 c cs hnot h ih =>
      obtain ⟨hnewline, hreturn⟩ := not_or.mp h
      have hrest := ih hends.tail (mt (hasLoneReturn_cons_of_ne hreturn).mpr hlone)
      obtain ⟨line, hline⟩ := Nat.exists_eq_add_of_lt hends.count_pos
      rw [Nat.zero_add] at hline
      rw [List.count_cons_of_ne hnewline] at hline ⊢
      rw [hline] at hrest ⊢
      rw [List.cons_append, cutAtClamped_cons_of_ne hreturn, if_neg hnewline, hrest]
      rfl

theorem cutUnitsClamped_append_eq (units : Nat) (text : List Char) :
    (cutUnitsClamped units text).1 ++ (cutUnitsClamped units text).2 = text := by
  fun_induction cutUnitsClamped units text with
  | case1 => rfl
  | case2 => rfl
  | case3 units c cs _ before after hcut ih =>
      rw [hcut] at ih
      exact congrArg (c :: ·) ih

/-- What is in front of a place and what is behind it are the text. -/
theorem cutAtClamped_append_eq (line column : Nat) (text : List Char) :
    (cutAtClamped line column text).1 ++ (cutAtClamped line column text).2 = text := by
  fun_induction cutAtClamped line column text with
  | case1 column cs => exact cutUnitsClamped_append_eq column cs
  | case2 => rfl
  | case3 line column cs before after hcut ih =>
      rw [hcut] at ih
      exact congrArg (['\r', '\n'] ++ ·) ih
  | case4 line column c cs hnot before after hcut ih =>
      rw [hcut] at ih
      exact congrArg (c :: ·) ih

theorem lineCount_pos (content : String) : 0 < lineCount content :=
  List.length_pos_iff.mpr (List.splitOn_ne_nil '\n' content.toList)

theorem getElem?_lastLine (content : String) :
    (pieces '\n' content.toList)[lineCount content - 1]? = some (lastLine content).toList := by
  rw [lastLine, String.toList_ofList, lineCount, ← List.getLast?_eq_getElem?,
    List.getLast?_eq_some_getLast (List.splitOn_ne_nil _ _), Option.getD_some]

/-- The last line, and what stands before it. -/
theorem exists_eq_append_lastLine (content : String) :
    ∃ before, content.toList = before ++ (lastLine content).toList ∧ EndsLine before
      ∧ before.count '\n' = lineCount content - 1 ∧ '\n' ∉ (lastLine content).toList := by
  have hpos := lineCount_pos content
  have hlast := getElem?_lastLine content
  let cut := LineCut.ofPiece hlast
  have hline : cut.body ++ cut.mark = (lastLine content).toList :=
    Option.some.inj (cut.getElem?_pieces.symm.trans hlast)
  have hafter : cut.after = [] := by
    have hdrop : (pieces '\n' content.toList).drop (lineCount content - 1 + 1) = [] := by
      rw [Nat.sub_add_cancel hpos]
      exact List.drop_length
    exact congrArg (List.flatMap ('\n' :: ·)) hdrop
  have htext := cut.text_eq
  rw [hafter, List.append_nil, hline] at htext
  exact ⟨cut.before, htext, cut.endsLine_before, cut.count_before,
    sep_not_mem_of_mem_pieces (List.mem_of_getElem? hlast)⟩

/-- The place behind the last character, as the protocol reads it. -/
theorem cutAtClamped_atEnd {content : String} (h : ¬ HasLoneReturn content.toList) :
    cutAtClamped (lineCount content - 1) (unitLength (lastLine content).toList) content.toList =
      (content.toList, []) := by
  obtain ⟨before, htext, hends, hcount, hnewline⟩ := exists_eq_append_lastLine content
  rw [htext] at h ⊢
  have hbefore : ¬ HasLoneReturn before := fun hlone => h (hlone.append_of_endsLine hends _)
  have hreturn : '\r' ∉ (lastLine content).toList := fun hmem =>
    h ((hasLoneReturn_of_mem hmem hnewline).append before)
  rw [← hcount, cutAtClamped_append hends hbefore, cutUnitsClamped_unitLength hnewline hreturn]

end LintServer.Text
