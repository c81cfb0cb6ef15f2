import LintServer.Proofs.Server.QuickFixBatch

/-!
# A quick fix keeps the line endings uniform

A fix inserts bare newlines, and they become the ending of the document. Where
all terminators of the document are of one kind, they are so after the edit
(`quickFix_keeps_endings`).

What carries this is that a text without a `'\r'`, its newlines replaced by an
ending, has only that ending in it (`Text.hasOnly_replaceNewlines`), and that a
text is put together from such texts as long as no `"\r\n"` is made or broken
at a seam (`Text.hasOnly_append`). The seams are in front of the body of a line
and behind it: before the body there is a newline or nothing, and the body does
not end in a `'\r'`.

Nothing here depends on the length of the line. If the line is so long that its
length is cut to 32 bits, the edit replaces a part of the body only, and what
is left of the body has no terminator in it
(`Text.LineCut.exists_rest_of_applied?`).
-/

namespace LintServer

open Text.LineEnding (ofText)

namespace Text

/-! ## Texts with one ending -/

/-- The text has terminators of one kind only, and no `'\r'` besides. -/
def HasOnly : LineEnding → List Char → Prop
  | .lf, text => '\r' ∉ text
  | .crlf, text => onlyCrlf text

theorem onlyCrlf_append {a b : List Char} (h : a.getLast? ≠ some '\r') :
    onlyCrlf (a ++ b) = (onlyCrlf a && onlyCrlf b) := by
  fun_induction onlyCrlf a with
  | case1 => rfl
  | case2 cs ih =>
      refine ih fun hlast => h ?_
      cases cs with
      | nil => cases hlast
      | cons c cs => simpa only [List.getLast?_cons_cons] using hlast
  | case3 c cs hne ih =>
      cases cs with
      | nil =>
          have hc : c ≠ '\r' := by simpa using h
          rw [List.singleton_append, onlyCrlf, onlyCrlf, Bool.and_true]
          exact fun _ hr _ => hc hr
      | cons d ds =>
          rw [List.getLast?_cons_cons] at h
          rw [List.cons_append, List.cons_append, onlyCrlf, ← List.cons_append, ih h,
            Bool.and_assoc, Bool.and_assoc, Bool.and_assoc]
          rintro rest rfl hrest
          obtain ⟨rfl, -⟩ := List.cons.inj hrest
          exact hne ds rfl rfl

theorem hasOnly_append {ending : LineEnding} {a b : List Char} (h : a.getLast? ≠ some '\r') :
    HasOnly ending (a ++ b) ↔ HasOnly ending a ∧ HasOnly ending b := by
  cases ending with
  | lf => simp [HasOnly]
  | crlf => simp [HasOnly, onlyCrlf_append h]

theorem replaceNewlines_cons (ending : List Char) (c : Char) (text : List Char) :
    replaceNewlines ending (c :: text) =
      (if c = '\n' then ending else [c]) ++ replaceNewlines ending text := rfl

theorem getLast?_replaced (ending : LineEnding) {c : Char} (hc : c ≠ '\r') :
    (if c = '\n' then ending.chars else [c]).getLast? ≠ some '\r' := by
  split
  · rw [LineEnding.getLast?_chars]
    decide
  · simpa using hc

theorem getLast?_replaceNewlines (ending : LineEnding) {text : List Char} (h : '\r' ∉ text) :
    (replaceNewlines ending.chars text).getLast? ≠ some '\r' := by
  induction text with
  | nil => simp [replaceNewlines]
  | cons c cs ih =>
      obtain ⟨hc, hcs⟩ := not_or.mp (mt List.mem_cons.mpr h)
      rw [replaceNewlines_cons, List.getLast?_append]
      cases hlast : (replaceNewlines ending.chars cs).getLast? with
      | none => exact getLast?_replaced ending (Ne.symm hc)
      | some x =>
          rw [hlast] at ih
          exact ih hcs

/-- The newlines of a text without a `'\r'` become terminators of one kind. -/
theorem hasOnly_replaceNewlines (ending : LineEnding) {text : List Char} (h : '\r' ∉ text) :
    HasOnly ending (replaceNewlines ending.chars text) := by
  induction text with
  | nil => cases ending <;> simp [HasOnly, replaceNewlines, onlyCrlf]
  | cons c cs ih =>
      obtain ⟨hc, hcs⟩ := not_or.mp (mt List.mem_cons.mpr h)
      rw [replaceNewlines_cons, hasOnly_append (getLast?_replaced ending (Ne.symm hc))]
      refine ⟨?_, ih hcs⟩
      split
      · cases ending <;> simp [HasOnly, LineEnding.chars, onlyCrlf]
      · next hn => cases ending <;> simp [HasOnly, onlyCrlf, Ne.symm hc, hc, hn]

theorem return_mem_of_onlyCrlf {text : List Char} (h : onlyCrlf text) (hmem : '\n' ∈ text) :
    '\r' ∈ text := by
  fun_induction onlyCrlf text with
  | case1 => cases hmem
  | case2 cs ih => exact List.mem_cons_self
  | case3 c cs hne ih =>
      simp only [Bool.and_eq_true, decide_eq_true_eq] at h
      obtain ⟨⟨-, hc⟩, hcs⟩ := h
      exact List.mem_cons_of_mem c (ih hcs ((List.mem_cons.mp hmem).resolve_left (Ne.symm hc)))

theorem EndsAlike.hasOnly {text : List Char} (h : EndsAlike text) :
    HasOnly (ofText text) text := by
  by_cases hmem : '\r' ∈ text
  · have hcrlf := h.resolve_left (not_not_intro hmem)
    rw [ofText, if_pos (hasCrlf_of_onlyCrlf hcrlf hmem)]
    exact hcrlf
  · rw [ofText, if_neg fun hcrlf => hmem (return_mem_of_hasCrlf hcrlf)]
    exact hmem

/-- Where lines end alike, the body of a line has no part of a terminator in
it. -/
theorem EndsAlike.return_not_mem_body {text : List Char} (h : EndsAlike text) {index : Nat}
    (cut : LineCut text index) : '\r' ∉ cut.body := by
  have hlt : index < ((ofText text).pieces text).length := by
    have hprefix : cut.before <+: text := ⟨_, cut.text_eq.symm⟩
    have hle : cut.before.count '\n' ≤ text.count '\n' := hprefix.sublist.count_le '\n'
    rw [← h.count_newline, ← cut.count_before]
    exact Nat.lt_succ_of_le hle
  obtain ⟨same, hbody, -⟩ := h.exists_cut (List.getElem?_eq_getElem hlt)
  rw [cut.unique same, hbody]
  exact (h.clean _ (List.getElem_mem hlt)).2

/-- A body made of a text without a `'\r'` keeps the terminators as they are. -/
theorem EndsAlike.hasOnly_withBody {text : List Char} (h : EndsAlike text) {index : Nat}
    (cut : LineCut text index) {body : List Char} (hbody : '\r' ∉ body) :
    HasOnly (ofText text)
      (cut.withBody (replaceNewlines (ofText text).chars body)) := by
  have hbefore := cut.endsLine_before.getLast?_ne_return
  have hold : cut.body.getLast? ≠ some '\r' :=
    fun hlast => h.return_not_mem_body cut (List.mem_of_getLast? hlast)
  have hparts : HasOnly (ofText text)
      (cut.before ++ (cut.body ++ (cut.mark ++ cut.after))) := by
    rw [← List.append_assoc cut.body, ← cut.text_eq]
    exact h.hasOnly
  rw [hasOnly_append hbefore, hasOnly_append hold] at hparts
  obtain ⟨hfront, -, hback⟩ := hparts
  rw [LineCut.withBody, List.append_assoc, hasOnly_append hbefore,
    hasOnly_append (getLast?_replaceNewlines _ hbody)]
  exact ⟨hfront, hasOnly_replaceNewlines _ hbody, hback⟩

/-! ## An edit of a part of a line -/

theorem cutUnits?_append_of_le {line : List Char} {count : Nat} (h : count ≤ unitLength line)
    (rest : List Char) :
    cutUnits? count (line ++ rest) =
      (cutUnits? count line).map fun (before, after) => (before, after ++ rest) := by
  induction line generalizing count with
  | nil =>
      obtain rfl : count = 0 := Nat.le_zero.mp h
      cases rest <;> simp [cutUnits?]
  | cons c cs ih =>
      rw [List.cons_append, cutUnits?, cutUnits?]
      split
      · rfl
      · split
        · rfl
        · split
          · next hwidth =>
              rw [unitLength] at h
              rw [ih (by omega), Option.map_map, Option.map_map]
              rfl
          · rfl

theorem cutUnits?_append_eq {text before after : List Char} {count : Nat}
    (h : cutUnits? count text = some (before, after)) : before ++ after = text := by
  induction text generalizing count before with
  | nil =>
      rw [cutUnits?] at h
      split at h <;> cases h
      rfl
  | cons c cs ih =>
      rw [cutUnits?] at h
      split at h
      · cases h
        rfl
      · split at h
        · cases h
        · split at h
          · obtain ⟨⟨front, back⟩, hcut, heq⟩ := Option.map_eq_some_iff.mp h
            cases heq
            rw [List.cons_append, ih hcut]
          · cases h

theorem LineCut.cutAt?_of_le {text : List Char} {index column : Nat} (cut : LineCut text index)
    (h : column ≤ unitLength cut.body) :
    cutAt? index column text =
      (cutUnits? column cut.body).map fun (a, b) =>
        (cut.before ++ a, b ++ (cut.mark ++ cut.after)) := by
  have htext : text = cut.before ++ (cut.body ++ (cut.mark ++ cut.after)) := by
    rw [← List.append_assoc cut.body]
    exact cut.text_eq
  have hcut := cutAt?_append cut.endsLine_before column (cut.body ++ (cut.mark ++ cut.after))
  rw [cutUnits?_append_of_le h, cut.count_before, ← htext, Option.map_map] at hcut
  exact hcut

/-- An edit of the range of a line puts a text in the place of the body, or in
that of a part of it if the length of the body is cut. -/
theorem LineCut.exists_rest_of_applied? {content line newText result : String} {index : UInt32}
    (cut : LineCut content.toList index.toNat) (hline : line.toList = cut.body)
    (h : (TextEdit.mk (.ofLine index line) newText).applied? content = some result) :
    ∃ rest, rest <:+ cut.body
      ∧ result = String.ofList (cut.withBody (newText.toList ++ rest)) := by
  have hle : (units line).toNat ≤ unitLength cut.body := by
    rw [toNat_units, hline]
    exact Nat.mod_le _ _
  have hstop : (Range.ofLine index line).stop.cut? content.toList =
      (cutUnits? (units line).toNat cut.body).map _ := cut.cutAt?_of_le hle
  rw [TextEdit.applied?, cut.cut?_start, hstop] at h
  cases hparts : cutUnits? (units line).toNat cut.body with
  | none =>
      rw [hparts] at h
      cases h
  | some parts =>
      obtain ⟨replaced, rest⟩ := parts
      rw [hparts] at h
      refine ⟨rest, ⟨replaced, cutUnits?_append_eq hparts⟩, ?_⟩
      rw [← Option.some.inj h]
      simp [withBody]

end Text

/-! ## What is put in the place of a line -/

theorem Patch.mem_of_mem_splice? {patch : Patch} {line body : List Char} {c : Char}
    (h : patch.splice? .lf line = some body) (hc : c ∈ body) :
    c ∈ line ∨ ∃ text, patch.insertText = some text ∧ c ∈ text.toList := by
  obtain ⟨rest, hrest, h⟩ := Option.bind_eq_some_iff.mp h
  cases htext : patch.insertText with
  | none =>
      rw [htext] at h
      cases h
      exact .inl (mem_of_mem_deleteFrom? hrest hc)
  | some text =>
      rw [htext] at h
      obtain ⟨⟨before, after⟩, hcut, h⟩ := Option.bind_eq_some_iff.mp h
      cases h
      obtain ⟨happend, -⟩ := Text.cutBytes?_eq_some_iff.mp hcut
      have hkept : c ∈ before ++ after → c ∈ line := fun hmem =>
        mem_of_mem_deleteFrom? hrest (happend ▸ hmem)
      rcases List.mem_append.mp hc with hc | hc
      · rcases List.mem_append.mp hc with hc | hc
        · exact .inl (hkept (List.mem_append_left after hc))
        · exact .inr ⟨text, rfl, by simpa [insertion] using hc⟩
      · exact .inl (hkept (List.mem_append_right before hc))

theorem Repair.return_not_mem_rewritten {fix : Fix} {line : List Char} (hline : '\r' ∉ line)
    (hinsert : ∀ text, fix.insertText = some text → '\r' ∉ text.toList) :
    '\r' ∉ rewritten .lf fix line := by
  intro hmem
  unfold rewritten at hmem
  cases hsplice : fix.toPatch.splice? .lf line with
  | none =>
      rw [hsplice] at hmem
      exact hline hmem
  | some body =>
      rw [hsplice] at hmem
      rcases Patch.mem_of_mem_splice? hsplice hmem with h | ⟨text, htext, h⟩
      · exact hline h
      · exact hinsert text htext h

/-- **A quick fix keeps the line endings uniform.** Let the lines of a document
end alike. Take a quick fix for a fix that does not delete its line and inserts
no `'\r'`. If the line is not too long to be counted, the edit can be made. In
the document that it makes, there is no `'\r'` if there was none, and every
`'\n'` and every `'\r'` is part of a `"\r\n"` if that was so and there was a
terminator. -/
theorem quickFix_keeps_endings {engine : Engine} (hengine : engine.fixLine = Repair.line)
    {uri : Uri} {content : String} {context : List Diagnostic} {d : Diagnostic} {fix : Fix}
    {action : CodeAction} (hends : Text.EndsAlike content.toList) (hfix : d.fix? = some fix)
    (hkeeps : fix.deletesLine = false)
    (hinsert : ∀ text, fix.insertText = some text → '\r' ∉ text.toList)
    (haction : CodeAction.quickFix? engine uri content context d = some action) :
    ∃ edit, action.edit = ⟨uri, [edit]⟩
      ∧ (Text.FitsWords content → ∃ result, edit.applied? content = some result)
      ∧ ∀ result, edit.applied? content = some result →
          ('\r' ∉ content.toList → '\r' ∉ result.toList)
            ∧ (Text.onlyCrlf content.toList → '\n' ∈ content.toList →
                Text.onlyCrlf result.toList) := by
  obtain ⟨fix', edit, hfix', hedit, heq⟩ := CodeAction.exists_edit_of_quickFix? haction
  obtain rfl : fix = fix' := Option.some.inj (hfix.symm.trans hfix')
  obtain ⟨line, hline, hnew⟩ := Diagnostic.exists_line_of_edit? hedit
  obtain ⟨cut, hbody⟩ := Text.LineCut.exists_of_lineAt? hline
  have hnewline : '\n' ∉ line.toList := hbody ▸ cut.newline_not_mem
  have hreturn : '\r' ∉ line.toList := hbody ▸ hends.return_not_mem_body cut
  have hfixed := Repair.line_of_keeps (ofText content.toList).toString hkeeps hnewline hreturn
  rw [← hengine] at hfixed
  obtain rfl := hnew _ hfixed
  refine ⟨_, heq, fun hfits => ⟨_, cut.applied?_of_units_lt hbody (hfits.units_lt cut) _⟩, ?_⟩
  intro result hresult
  obtain ⟨rest, hrest, rfl⟩ := cut.exists_rest_of_applied? hbody hresult
  have hrestnewline : '\n' ∉ rest := fun h => cut.newline_not_mem (hrest.subset h)
  have hrestreturn : '\r' ∉ rest := fun h => hends.return_not_mem_body cut (hrest.subset h)
  have hinserted : '\r' ∉ Repair.rewritten .lf fix line.toList ++ rest := fun h =>
    (List.mem_append.mp h).elim (Repair.return_not_mem_rewritten hreturn hinsert) hrestreturn
  have hendings := hends.hasOnly_withBody cut hinserted
  rw [Text.replaceNewlines_append, Text.replaceNewlines_of_not_mem _ hrestnewline] at hendings
  rw [String.toList_ofList, String.toList_ofList, Text.LineEnding.toString, String.toList_ofList]
  constructor
  · intro hnone
    have hlf : ofText content.toList = .lf :=
      if_neg fun hcrlf => hnone (Text.return_mem_of_hasCrlf hcrlf)
    rw [hlf] at hendings ⊢
    exact hendings
  · intro honly hmem
    have hcrlf : ofText content.toList = .crlf :=
      if_pos (Text.hasCrlf_of_onlyCrlf honly (Text.return_mem_of_onlyCrlf honly hmem))
    rw [hcrlf] at hendings ⊢
    exact hendings

def halvingFix : Fix where
  line := some 2
  column := some 4
  deleteCount := some (-7)
  insertText := some "\n\n"

theorem quickFix_keeps_endings_of_halved :
    let note := "a\r\nbcde\r\n"
    ∃ action edit result,
      CodeAction.quickFix? .trailing noteUri note []
          (.ofViolation note { line := 1, fix := some halvingFix }) = some action
        ∧ action.edit = ⟨noteUri, [edit]⟩
        ∧ edit.applied? note = some result ∧ Text.onlyCrlf result.toList := by
  intro note
  let d := Diagnostic.ofViolation note { line := 1, fix := some halvingFix }
  have hfound : (CodeAction.quickFix? .trailing noteUri note [] d).isSome := by decide +kernel
  obtain ⟨action, haction⟩ := Option.isSome_iff_exists.mp hfound
  have hends : Text.EndsAlike note.toList := by decide +kernel
  have hfix : d.fix? = some halvingFix := Diagnostic.fix?_ofViolation ..
  have hinsert : ∀ text, halvingFix.insertText = some text → '\r' ∉ text.toList := by
    rintro _ ⟨⟩
    decide
  obtain ⟨edit, hedit, happlies, hkept⟩ :=
    quickFix_keeps_endings rfl hends hfix (by decide) hinsert haction
  obtain ⟨result, hresult⟩ := happlies ⟨by decide +kernel, by decide +kernel⟩
  exact ⟨action, edit, result, haction, hedit, hresult,
    (hkept result hresult).2 (by decide +kernel) (by decide +kernel)⟩

end LintServer
