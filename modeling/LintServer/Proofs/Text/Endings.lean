import LintServer.Proofs.Text.LineCut

/-!
# Texts whose lines end alike

An editor finds the lines of a text between newlines, and leaves out the
`'\r'` that may end a line. The batch repair finds them between line
endings, which are the same throughout a text. Where all lines of a text end
alike (`EndsAlike`) the two find the same lines: what stands between two
endings has no part of an ending in it (`EndsAlike.clean`), so it is the
body of a `LineCut`, and another text in its place makes the same text for
both (`EndsAlike.exists_cut`).

They part only behind the last ending of a text. There an editor still sees
a line, and the repair does not; `closedLineCount` counts as the repair
does.
-/

namespace LintServer.Text

open LineEnding (ofText hasCrlf crlfPieces)

/-- Whether each `'\n'` and each `'\r'` is part of a `"\r\n"`. -/
def onlyCrlf : List Char → Bool
  | [] => true
  | '\r' :: '\n' :: cs => onlyCrlf cs
  | c :: cs => c ≠ '\r' && c ≠ '\n' && onlyCrlf cs

/-- All lines end in `"\n"`, and there is no `'\r'`, or all lines end in
`"\r\n"`, and there is no other `'\r'`. -/
def EndsAlike (text : List Char) : Prop := '\r' ∉ text ∨ onlyCrlf text

instance (text : List Char) : Decidable (EndsAlike text) :=
  inferInstanceAs (Decidable ('\r' ∉ text ∨ onlyCrlf text))

/-- How many lines a text has, if the place behind a final newline is
none. -/
def closedLineCount (text : List Char) : Nat :=
  text.count '\n' + if text.getLast? = some '\n' then 0 else 1

/-- Fewer than 2³² lines, and fewer than 2³² units in each. -/
structure FitsWords (content : String) : Prop where
  lines : closedLineCount content.toList < UInt32.size
  units : ∀ line ∈ pieces '\n' content.toList, unitLength (dropReturn line) < UInt32.size

/-! ## Pieces -/

theorem mem_intercalate {α : Type} {sep : List α} {ps : List (List α)} {p : List α} {c : α}
    (hp : p ∈ ps) (hc : c ∈ p) : c ∈ sep.intercalate ps := by
  obtain ⟨i, hi⟩ := List.mem_iff_getElem?.mp hp
  rw [intercalate_eq_around sep hi]
  simp [hc]

theorem crlfPieces_ne_nil (text : List Char) : crlfPieces text ≠ [] := by
  fun_induction crlfPieces text with
  | case1 => exact List.cons_ne_nil _ _
  | case2 => exact List.cons_ne_nil _ _
  | case3 c cs _ ih => exact mt List.modifyHead_eq_nil_iff.mp ih

theorem intercalate_crlfPieces (text : List Char) :
    ['\r', '\n'].intercalate (crlfPieces text) = text := by
  fun_induction crlfPieces text with
  | case1 => rfl
  | case2 cs ih =>
      rw [List.intercalate_cons_of_ne_nil (crlfPieces_ne_nil cs), ih]
      rfl
  | case3 c cs _ ih =>
      obtain ⟨p, ps, hps⟩ := List.exists_cons_of_ne_nil (crlfPieces_ne_nil cs)
      rw [hps] at ih ⊢
      rw [List.modifyHead_cons, List.intercalate_cons_cons_left, ih]

namespace LineEnding

theorem pieces_ne_nil (ending : LineEnding) (text : List Char) : ending.pieces text ≠ [] := by
  cases ending with
  | lf => exact List.splitOn_ne_nil '\n' text
  | crlf => exact crlfPieces_ne_nil text

theorem intercalate_pieces (ending : LineEnding) (text : List Char) :
    ending.chars.intercalate (ending.pieces text) = text := by
  cases ending with
  | lf => exact List.intercalate_splitOn '\n'
  | crlf => exact intercalate_crlfPieces text

theorem count_chars (ending : LineEnding) : ending.chars.count '\n' = 1 := by
  cases ending <;> rfl

theorem getLast?_chars (ending : LineEnding) : ending.chars.getLast? = some '\n' := by
  cases ending <;> rfl

end LineEnding

/-! ## Lines that end alike -/

theorem return_mem_of_hasCrlf {text : List Char} (h : hasCrlf text) : '\r' ∈ text := by
  fun_induction hasCrlf text with
  | case1 => simp
  | case2 c cs _ ih => exact List.mem_cons_of_mem c (ih h)
  | case3 => cases h

theorem hasCrlf_of_onlyCrlf {text : List Char} (h : onlyCrlf text) (hmem : '\r' ∈ text) :
    hasCrlf text := by
  fun_induction onlyCrlf text with
  | case1 => cases hmem
  | case2 cs _ => rfl
  | case3 c cs hne ih =>
      simp only [Bool.and_eq_true, decide_eq_true_eq] at h
      obtain ⟨⟨hc, -⟩, hcs⟩ := h
      rw [hasCrlf]
      · exact ih hcs ((List.mem_cons.mp hmem).resolve_left (Ne.symm hc))
      · exact hne

theorem clean_crlfPieces {text : List Char} (h : onlyCrlf text) :
    ∀ line ∈ crlfPieces text, '\n' ∉ line ∧ '\r' ∉ line := by
  fun_induction onlyCrlf text with
  | case1 => simp [crlfPieces]
  | case2 cs ih => simpa [crlfPieces] using ih h
  | case3 c cs hne ih =>
      simp only [Bool.and_eq_true, decide_eq_true_eq] at h
      obtain ⟨⟨hr, hn⟩, hcs⟩ := h
      rw [crlfPieces]
      · obtain ⟨p, ps, hps⟩ := List.exists_cons_of_ne_nil (crlfPieces_ne_nil cs)
        have hp := ih hcs
        rw [hps, List.forall_mem_cons] at hp
        rw [hps, List.modifyHead_cons, List.forall_mem_cons]
        exact ⟨by simp [Ne.symm hr, Ne.symm hn, hp.1], hp.2⟩
      · exact hne

namespace EndsAlike

variable {text line : List Char} {i : Nat}

/-- No part of an ending is left in a line. -/
theorem clean (h : EndsAlike text) :
    ∀ line ∈ (ofText text).pieces text, '\n' ∉ line ∧ '\r' ∉ line := by
  by_cases hmem : '\r' ∈ text
  · have hcrlf := h.resolve_left (not_not_intro hmem)
    rw [ofText, if_pos (hasCrlf_of_onlyCrlf hcrlf hmem)]
    exact clean_crlfPieces hcrlf
  · rw [ofText, if_neg fun hcrlf => hmem (return_mem_of_hasCrlf hcrlf)]
    refine fun line hline => ⟨sep_not_mem_of_mem_pieces hline, fun hr => hmem ?_⟩
    have htext : ['\n'].intercalate (pieces '\n' text) = text := List.intercalate_splitOn '\n'
    rw [← htext]
    exact mem_intercalate hline hr

/-- The text, seen from one of its lines. -/
theorem eq_around (hline : ((ofText text).pieces text)[i]? = some line) :
    text = (((ofText text).pieces text).take i).flatMap (· ++ (ofText text).chars) ++ line
      ++ (((ofText text).pieces text).drop (i + 1)).flatMap ((ofText text).chars ++ ·) := by
  rw [← intercalate_eq_around (ofText text).chars hline, LineEnding.intercalate_pieces]

theorem count_before (h : EndsAlike text) (hi : i ≤ ((ofText text).pieces text).length) :
    ((((ofText text).pieces text).take i).flatMap (· ++ (ofText text).chars)).count '\n' = i := by
  rw [count_flatMap_append (LineEnding.count_chars _), List.length_take, Nat.min_eq_left hi]
  exact fun p hp => (h.clean p (List.mem_of_mem_take hp)).1

/-- What follows a line is an ending, of which the `'\r'` belongs to the
line, or nothing. -/
theorem exists_mark (ending : LineEnding) (lines : List (List Char)) :
    ∃ mark after, lines.flatMap (ending.chars ++ ·) = mark ++ after
      ∧ (mark = ['\r'] ∨ mark = []) ∧ (after = [] ∨ after.head? = some '\n') := by
  cases lines with
  | nil => exact ⟨[], [], rfl, Or.inr rfl, Or.inl rfl⟩
  | cons q qs =>
      cases ending with
      | lf => exact ⟨[], _, rfl, Or.inr rfl, Or.inr rfl⟩
      | crlf =>
          exact ⟨['\r'], '\n' :: (q ++ qs.flatMap (LineEnding.crlf.chars ++ ·)), rfl, Or.inl rfl,
            Or.inr rfl⟩

/-- The cut around a line between endings, by what follows the line. -/
def cut (h : EndsAlike text) (hline : ((ofText text).pieces text)[i]? = some line)
    {mark after : List Char}
    (hrest : (((ofText text).pieces text).drop (i + 1)).flatMap ((ofText text).chars ++ ·) =
      mark ++ after)
    (hmark : mark = ['\r'] ∨ mark = []) (hafter : after = [] ∨ after.head? = some '\n') :
    LineCut text i where
  before := (((ofText text).pieces text).take i).flatMap (· ++ (ofText text).chars)
  body := line
  mark := mark
  after := after
  text_eq := by
    rw [List.append_assoc line, ← hrest, ← List.append_assoc]
    exact eq_around hline
  count_before := h.count_before (Nat.le_of_lt (List.getElem?_eq_some_iff.mp hline).1)
  endsLine_before := LineCut.endsLine_flatMap (LineEnding.getLast?_chars _) _
  newline_not_mem := (h.clean line (List.mem_of_getElem? hline)).1
  mark_eq := hmark.imp_right fun hnil => ⟨hnil, fun hlast =>
    (h.clean line (List.mem_of_getElem? hline)).2 (List.mem_of_getLast? hlast)⟩
  after_eq := hafter

/-- A line between endings is the body of a cut, and to put another text in
its place is to put it between the endings. -/
theorem exists_cut (h : EndsAlike text)
    (hline : ((ofText text).pieces text)[i]? = some line) :
    ∃ cut : LineCut text i, cut.body = line ∧ ∀ body, cut.withBody body =
      (ofText text).chars.intercalate (((ofText text).pieces text).set i body) := by
  obtain ⟨mark, after, hrest, hmark, hafter⟩ :=
    exists_mark (ofText text) (((ofText text).pieces text).drop (i + 1))
  refine ⟨h.cut hline hrest hmark hafter, rfl, fun body => ?_⟩
  have hset : (((ofText text).pieces text).set i body)[i]? = some body :=
    List.getElem?_set_self (List.getElem?_eq_some_iff.mp hline).1
  rw [intercalate_eq_around (ofText text).chars hset, List.take_set_of_le (Nat.le_refl i),
    List.drop_set_of_lt (Nat.lt_succ_self i), hrest]
  simp [cut, LineCut.withBody]

/-! ## Counting lines -/

theorem count_newline (h : EndsAlike text) :
    text.count '\n' + 1 = ((ofText text).pieces text).length := by
  have hcount := count_intercalate (LineEnding.count_chars (ofText text))
    ((ofText text).pieces_ne_nil text) fun line hline => (h.clean line hline).1
  rwa [LineEnding.intercalate_pieces] at hcount

/-- An empty piece behind an ending is where the text has ended. -/
theorem getLast?_of_empty (hmore : 1 < ((ofText text).pieces text).length)
    (hlast : ((ofText text).pieces text).getLast? = some []) : text.getLast? = some '\n' := by
  rw [List.getLast?_eq_getElem?] at hlast
  have haround := eq_around hlast
  rw [Nat.sub_add_cancel (by omega), List.drop_length, List.flatMap_nil, List.append_nil,
    List.append_nil] at haround
  have hends : EndsLine text := by
    rw [haround]
    exact LineCut.endsLine_flatMap (LineEnding.getLast?_chars _) _
  refine hends.resolve_left fun hnil => ?_
  rw [hnil] at hmore
  exact absurd hmore (by decide)

end EndsAlike

end LintServer.Text
