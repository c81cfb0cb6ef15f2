import LintServer.Proofs.Text.TwoLines

/-!
# Documents made of closed lines

A document whose every line is closed by the same ending (`closed`). The
lines are any text without `'\n'` and `'\r'` (`Clean`), and both ways to take
the document apart give them back: the batch cuts at the ending
(`pieces_closed`), an engine at the newlines, and leaves out the `'\r'` in
front of them (`map_dropReturn_pieces_closed`). Either comes upon one more,
empty, piece at the end.
-/

namespace LintServer.Text

open LineEnding (ofText hasCrlf)

/-- The lines, with an ending behind each of them. -/
def closed (ending : LineEnding) (lines : List (List Char)) : List Char :=
  lines.flatMap (· ++ ending.chars)

/-- The text of lines that all end alike. -/
def document (ending : LineEnding) (lines : List (List Char)) : String :=
  String.ofList (closed ending lines)

/-- No line has a part of an ending in it. -/
def Clean (lines : List (List Char)) : Prop := ∀ line ∈ lines, '\n' ∉ line ∧ '\r' ∉ line

instance (lines : List (List Char)) : Decidable (Clean lines) :=
  inferInstanceAs (Decidable (∀ line ∈ lines, '\n' ∉ line ∧ '\r' ∉ line))

variable {ending : LineEnding} {line : List Char} {lines : List (List Char)}

theorem closed_cons (ending : LineEnding) (line : List Char) (lines : List (List Char)) :
    closed ending (line :: lines) = line ++ ending.chars ++ closed ending lines :=
  List.flatMap_cons

theorem clean_cons : Clean (line :: lines) ↔ ('\n' ∉ line ∧ '\r' ∉ line) ∧ Clean lines :=
  List.forall_mem_cons

/-! ## Taking the lines apart -/

theorem intercalate_closed (ending : LineEnding) (lines : List (List Char)) :
    ending.chars.intercalate (lines ++ [[]]) = closed ending lines := by
  have hlast : (lines ++ [[]])[lines.length]? = some [] := List.getElem?_concat_length
  rw [intercalate_eq_around ending.chars hlast, List.take_left, List.drop_of_length_le (by simp)]
  simp [closed]

theorem crlfPieces_append_crlf (h : '\r' ∉ line) (rest : List Char) :
    LineEnding.crlfPieces (line ++ '\r' :: '\n' :: rest) = line :: LineEnding.crlfPieces rest := by
  induction line with
  | nil => rfl
  | cons c cs ih =>
      rw [List.mem_cons, not_or] at h
      rw [List.cons_append, LineEnding.crlfPieces, ih h.2, List.modifyHead_cons]
      exact fun _ hc _ => h.1 hc.symm

theorem pieces_closed (h : Clean lines) :
    ending.pieces (closed ending lines) = lines ++ [[]] := by
  induction lines with
  | nil => cases ending <;> rfl
  | cons line lines ih =>
      obtain ⟨⟨hnewline, hreturn⟩, hlines⟩ := clean_cons.mp h
      rw [closed_cons, List.append_assoc]
      cases ending with
      | lf =>
          exact (List.splitOn_append_cons_self_of_not_mem hnewline _).trans
            (congrArg (line :: ·) (ih hlines))
      | crlf => exact (crlfPieces_append_crlf hreturn _).trans (congrArg (line :: ·) (ih hlines))

/-- What of an ending is in front of its newline. -/
def LineEnding.mark : LineEnding → List Char
  | .lf => []
  | .crlf => ['\r']

theorem LineEnding.chars_eq_mark (ending : LineEnding) : ending.chars = ending.mark ++ ['\n'] := by
  cases ending <;> rfl

theorem dropReturn_append_mark (h : '\r' ∉ line) : dropReturn (line ++ ending.mark) = line := by
  cases ending with
  | lf =>
      rw [LineEnding.mark, List.append_nil, dropReturn, if_neg]
      exact fun hlast => h (List.mem_of_getLast? hlast)
  | crlf => simp [LineEnding.mark, dropReturn]

/-- Cut at the newlines, the lines are the same. -/
theorem map_dropReturn_pieces_closed (h : Clean lines) :
    (pieces '\n' (closed ending lines)).map dropReturn = lines ++ [[]] := by
  induction lines with
  | nil => rfl
  | cons line lines ih =>
      obtain ⟨⟨hnewline, hreturn⟩, hlines⟩ := clean_cons.mp h
      have hmark : '\n' ∉ line ++ ending.mark := by
        cases ending <;> simp [LineEnding.mark, hnewline]
      have hparts : closed ending (line :: lines) =
          line ++ ending.mark ++ '\n' :: closed ending lines := by
        rw [closed_cons, LineEnding.chars_eq_mark]
        simp
      rw [hparts, pieces, List.splitOn_append_cons_self_of_not_mem hmark, List.map_cons,
        dropReturn_append_mark hreturn, ih hlines, List.cons_append]

theorem document_inj {lines' : List (List Char)} (h : Clean lines) (h' : Clean lines') :
    document ending lines = document ending lines' ↔ lines = lines' := by
  refine ⟨fun heq => ?_, congrArg (document ending)⟩
  have hpieces := congrArg ending.pieces (String.ofList_inj.mp heq)
  rw [pieces_closed h, pieces_closed h'] at hpieces
  exact List.append_cancel_right hpieces

/-! ## The ending and the size -/

theorem return_not_mem_closed_lf (h : Clean lines) : '\r' ∉ closed .lf lines := by
  intro hmem
  obtain ⟨line, hline, hmem⟩ := List.mem_flatMap.mp hmem
  rcases List.mem_append.mp hmem with hmem | hmem
  · exact (h line hline).2 hmem
  · cases List.mem_singleton.mp hmem

/-- A line is enough to tell the ending. -/
theorem ofText_closed (h : Clean lines) (hne : lines ≠ []) :
    ofText (closed ending lines) = ending := by
  cases ending with
  | lf =>
      rw [ofText, if_neg]
      exact fun hcrlf => return_not_mem_closed_lf h (return_mem_of_hasCrlf hcrlf)
  | crlf =>
      obtain ⟨line, lines, rfl⟩ := List.exists_cons_of_ne_nil hne
      have hhead : (LineEnding.chars .crlf ++ closed .crlf lines).head? ≠ some '\n' := by
        simp [LineEnding.chars]
      rw [ofText, if_pos]
      rw [closed_cons, List.append_assoc, hasCrlf_append (.inr hhead), Bool.or_eq_true]
      exact .inr rfl

theorem byteLength_closed_cons (ending : LineEnding) (line : List Char)
    (lines : List (List Char)) :
    byteLength line + 1 + byteLength (closed ending lines) ≤
      byteLength (closed ending (line :: lines)) := by
  have hending : 1 ≤ byteLength ending.chars := by cases ending <;> decide
  rw [closed_cons, byteLength_append, byteLength_append]
  omega

theorem length_le_byteLength_closed (ending : LineEnding) (lines : List (List Char)) :
    lines.length ≤ byteLength (closed ending lines) := by
  induction lines with
  | nil => exact Nat.zero_le _
  | cons line lines ih =>
      have hcons := byteLength_closed_cons ending line lines
      rw [List.length_cons]
      omega

theorem byteLength_le_of_mem (ending : LineEnding) (h : line ∈ lines) :
    byteLength line ≤ byteLength (closed ending lines) := by
  induction lines with
  | nil => cases h
  | cons other lines ih =>
      have hcons := byteLength_closed_cons ending other lines
      rcases List.mem_cons.mp h with rfl | h
      · omega
      · have := ih h
        omega

end LintServer.Text
