import LintServer.Lint.Engine.TrailingSpaces
import LintServer.Proofs.Server.Run

/-!
# Fixing everything, twice

The fix of a document as a whole is what the passes of lint and repair come
to, unless that is the document as it is (`Session.fixAllEdit_result`). Where
they settle, they come to the text that they settle at, and from there to the
same text again: once the editor has sent the fixed text back, there is
nothing left to fix (`fixAll_idempotent`).

In between the server may answer any number of queries. They change neither
the settings nor the documents (`Session.Agrees.after_query`), and that is
all that fixing looks at besides the engine.
-/

namespace LintServer

/-! ## Replacing a text -/

namespace TextEdit

theorem replacing?_self (text : String) : replacing? text text = none := if_pos rfl

theorem eq_of_replacing?_none {content fixed : String} (h : replacing? content fixed = none) :
    fixed = content := by
  unfold replacing? at h
  split at h
  · assumption
  · cases h

theorem newText_of_replacing? {content fixed : String} {edit : TextEdit}
    (h : replacing? content fixed = some edit) : edit.newText = fixed := by
  unfold replacing? at h
  split at h
  · cases h
  · cases h
    rfl

end TextEdit

namespace Session

variable {env : Environment} {s : Session} {uri : Uri} {document : Document}

/-! ## A change -/

/-- After a change that is handled, the settings are the same and the
document has the new text. -/
theorem step_changed (hsteady : env.engine.IsSteady) {m : Message} {version : Int32}
    {texts : List String} {text : String} (htask : s.task m = .event (.changed uri version texts))
    (htexts : texts.getLast? = some text) (hopen : s.documents.get? uri = some document) :
    (s.step env m).session.rules = s.rules
      ∧ (s.step env m).session.documents.get? uri = some (document.revise text version) := by
  have hrefresh := agrees_refresh hsteady
    { s with documents := s.documents.modify uri (·.revise text version) } uri
  rw [(step_event htask).2]
  simp only [onEvent, htexts]
  refine ⟨hrefresh.rules, ?_⟩
  rw [hrefresh.documents, Store.get?_modify, if_pos rfl, hopen, Option.map_some]

/-! ## The edit -/

/-- The edit leads to the text that the passes come to. -/
theorem fixAllEdit_result (hsteady : env.engine.IsSteady)
    (hopen : s.documents.get? uri = some document) (hmarkdown : document.isMarkdown) :
    (s.fixAllEdit env uri).result =
      (env.engine.orbit? uri.text s.rules Engine.maxPasses document.text).bind
        (TextEdit.replacing? document.text) := by
  rw [← Engine.toOption_fixPasses hsteady Engine.maxPasses s.lintCalls]
  simp only [fixAllEdit, hopen, if_pos hmarkdown, Engine.fixUntilStable]
  cases env.engine.fixPasses uri.text s.rules Engine.maxPasses s.lintCalls document.text with
  | mk fixed calls => cases fixed <;> rfl

/-- There is no edit for a document that is not Markdown, or not open. -/
theorem fixAllEdit_result_eq_none (h : ∀ d, s.documents.get? uri = some d → d.isMarkdown = false) :
    (s.fixAllEdit env uri).result = none := by
  unfold fixAllEdit
  cases hopen : s.documents.get? uri with
  | none => rfl
  | some document => simp [h document hopen]

/-- The edit depends on the document, the settings and the engine alone. -/
theorem fixAllEdit_result_congr (hsteady : env.engine.IsSteady) {env' : Environment}
    (hengine : env'.engine = env.engine) {t : Session} (hrules : t.rules = s.rules)
    (hdocument : t.documents.get? uri = s.documents.get? uri) :
    (t.fixAllEdit env' uri).result = (s.fixAllEdit env uri).result := by
  by_cases h : ∃ document, s.documents.get? uri = some document ∧ document.isMarkdown = true
  · obtain ⟨document, hopen, hmarkdown⟩ := h
    rw [fixAllEdit_result hsteady hopen hmarkdown,
      fixAllEdit_result (hengine ▸ hsteady) (hdocument.trans hopen) hmarkdown, hengine, hrules]
  · have hnone : ∀ d, s.documents.get? uri = some d → d.isMarkdown = false := fun d hd =>
      Bool.eq_false_iff.mpr fun hmarkdown => h ⟨d, hd, hmarkdown⟩
    rw [fixAllEdit_result_eq_none hnone,
      fixAllEdit_result_eq_none fun d hd => hnone d (hdocument ▸ hd)]

/-- Where the passes settle, the edit leads to the text that they settle
at. -/
theorem fixAllEdit_of_settlesAt (hsteady : env.engine.IsSteady) {settled : String}
    (hopen : s.documents.get? uri = some document) (hmarkdown : document.isMarkdown)
    (h : env.engine.SettlesAt uri.text s.rules 10 document.text settled) :
    (s.fixAllEdit env uri).result = TextEdit.replacing? document.text settled := by
  rw [fixAllEdit_result hsteady hopen hmarkdown, Engine.maxPasses,
    Engine.orbit?_of_settlesAt h, Option.bind_some]

/-! ## The command -/

/-- Without an edit the command asks the editor for nothing. -/
theorem applyEdit_not_mem_step (hnone : (s.fixAllEdit env uri).result = none) {m : Message}
    (hm : m.call = .query (.ok (.fixAll (some uri)))) (number : Nat) (edit : WorkspaceEdit) :
    .applyEdit number edit ∉ (s.step env m).sent := by
  rcases task_of_query (s := s) hm with htask | ⟨id, htask⟩
  · rw [(step_idle env htask).sent]
    exact List.not_mem_nil
  · obtain ⟨calls, logs, found, hedit, hlogs⟩ := fixAllEdit_eq env s uri
    rw [hedit] at hnone
    obtain rfl : found = none := hnone
    rw [(step_query htask).2]
    simp only [onQuery, fixAll, hedit]
    intro hmem
    obtain ⟨level, text, hlog⟩ := hlogs _ hmem
    cases hlog

end Session

open Session in
/-- **Fixing everything is idempotent** where the passes of lint and repair
settle within ten. Let a later session still have the settings and the
documents, as it does after the edit is computed. When it handles a change
to the text of the edit, there is no edit any more, and the command asks the
editor for none. If there is no edit to begin with, one more pass leaves
the document as it is. -/
theorem fixAll_idempotent {env : Environment} (hsteady : env.engine.IsSteady) {s : Session}
    {uri : Uri} {document : Document} (hopen : s.documents.get? uri = some document)
    (hmarkdown : document.isMarkdown) {settled : String}
    (hsettles : env.engine.SettlesAt uri.text s.rules 10 document.text settled) :
    s.Agrees (s.fixAllEdit env uri).session
      ∧ (∀ edit, (s.fixAllEdit env uri).result = some edit →
          ∀ later, s.Agrees later → ∀ (d : Delivery) (version : Int32) (texts : List String),
            d.env.engine = env.engine → later.task d.message = .event (.changed uri version texts) →
            texts.getLast? = some edit.newText →
          ∀ again : Environment, again.engine = env.engine →
            ((later.step d.env d.message).session.fixAllEdit again uri).result = none
              ∧ ∀ m, m.call = .query (.ok (.fixAll (some uri))) → ∀ number e,
                .applyEdit number e ∉ ((later.step d.env d.message).session.step again m).sent)
      ∧ ((s.fixAllEdit env uri).result = none →
          env.engine.pass? uri.text s.rules document.text = some document.text) := by
  have hresult := fixAllEdit_of_settlesAt hsteady hopen hmarkdown hsettles
  obtain ⟨-, -, -, hfixed⟩ := hsettles
  refine ⟨agrees_fixAllEdit env s uri, ?_, ?_⟩
  · intro edit hedit later hlater d version texts hengine htask htexts again hagain
    obtain rfl : edit.newText = settled := TextEdit.newText_of_replacing? (hresult ▸ hedit)
    have hopen' : later.documents.get? uri = some document := by rw [hlater.documents, hopen]
    have hsteady' : d.env.engine.IsSteady := hengine ▸ hsteady
    obtain ⟨hrules, hdocument⟩ := step_changed hsteady' htask htexts hopen'
    have hnone : ((later.step d.env d.message).session.fixAllEdit again uri).result = none := by
      rw [fixAllEdit_of_settlesAt (hagain ▸ hsteady) hdocument hmarkdown
        (Engine.settlesAt_of_fixed (by rw [hagain, hrules, hlater.rules]; exact hfixed) 10)]
      exact TextEdit.replacing?_self edit.newText
    exact ⟨hnone, fun m hm number e => applyEdit_not_mem_step hnone hm number e⟩
  · intro hnone
    obtain rfl : settled = document.text := TextEdit.eq_of_replacing?_none (hresult ▸ hnone)
    exact hfixed

def untidySession : Session :=
  Session.after {} <| deliver (.bare .trailing) <| Message.greetings {} ++
    [.notify (.opened noteUri ⟨"markdown", "a  \nb", 1⟩)]

theorem fixAll_idempotent_of_untidy :
    (∃ edit, (untidySession.fixAllEdit (.bare .trailing) noteUri).result = some edit
        ∧ edit.newText = "a\nb")
      ∧ ∀ number edit, .applyEdit number edit ∉
          ((untidySession.after (deliver (.bare .trailing)
              [.ask 1 (.fixAll (some noteUri)), .notify (.changed noteUri 2 ["a\nb"])])).step
            (.bare .trailing) (.ask 2 (.fixAll (some noteUri)))).sent := by
  let later := (untidySession.step (.bare .trailing) (.ask 1 (.fixAll (some noteUri)))).session
  have hopen : untidySession.documents.get? noteUri = some ⟨"markdown", "a  \nb", 1⟩ := by
    decide +kernel
  have hsettles : Engine.trailing.SettlesAt noteUri.text untidySession.rules 10 "a  \nb"
      "a\nb" := ⟨1, by decide, by decide +kernel, by decide +kernel⟩
  have hresult : (untidySession.fixAllEdit (.bare .trailing) noteUri).result
      = some ⟨.full "a  \nb", "a\nb"⟩ := by decide +kernel
  have hrunning : untidySession.phase = .running := by decide +kernel
  have htask : untidySession.task (.ask 1 (.fixAll (some noteUri)))
      = .query (.number 1) (.fixAll (some noteUri)) := by
    simp [Session.task, hrunning, Message.ask]
  have hlater : later.phase = .running := by decide +kernel
  have hagrees : untidySession.Agrees later :=
    Session.Agrees.after_query ⟨rfl, rfl⟩ htask
  have hsteady : (Environment.bare .trailing).engine.IsSteady := fun _ _ _ _ => rfl
  obtain ⟨-, hedit, -⟩ := fixAll_idempotent hsteady hopen rfl hsettles
  have hagain := hedit _ hresult later hagrees
    ⟨.bare .trailing, .notify (.changed noteUri 2 ["a\nb"])⟩ 2 ["a\nb"] rfl
    (by simp [Session.task, hlater, Message.notify]) rfl (.bare .trailing) rfl
  exact ⟨⟨_, hresult, rfl⟩, fun number edit => hagain.2 _ rfl number edit⟩

end LintServer
