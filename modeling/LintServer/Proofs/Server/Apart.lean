import LintServer.Proofs.Server.FixAll
import LintServer.Proofs.Server.SideBySide

/-!
# Documents do not interfere

What the server does about one document does not depend on the messages
about the others. Leave out of a run every message that is about another
document: what is kept, held and published for the document is the same, the
fix of it as a whole is the same, and the messages that stay are answered as
before (`documents_apart`).

The work is done in `Session.alike_run`, with one URI watched. Here remains
that the answer to a query about the watched document is the same in alike
sessions (`Session.step_result_alike`).
-/

namespace LintServer

namespace Session

variable {watched : Uri → Bool} {s t : Session} {d e : Delivery}

theorem actions_result_alike (hsteady : d.env.engine.IsSteady)
    (hengine : e.env.engine = d.env.engine) (h : s.Alike watched t) {query : ActionQuery}
    (hquery : watched query.uri = true) :
    (t.actions e.env query).result = (s.actions d.env query).result := by
  have hdocument := h.document query.uri hquery
  rw [actions_result, actions_result, hdocument, hengine,
    fixAllEdit_result_congr hsteady hengine h.rules hdocument]

theorem step_result_alike (hsteady : d.env.engine.IsSteady)
    (hengine : e.env.engine = d.env.engine) (hde : d.Resembles e) (h : s.Alike watched t)
    (hm : d.message.concerns watched = true) :
    (t.step e.env e.message).result = (s.step d.env d.message).result := by
  refine view_step_alike id hde h hm fun number query hquery => ?_
  simp only [onQuery, actions_result_alike hsteady hengine h hquery]

end Session

/-- **Documents do not interfere.** Take any messages, and of them those
that are not about another document than the one at `uri`. The files may
change from message to message, but each message meets the same in both
runs; the editor may reply to edits as it likes, and not the same in both.
Then the runs end with the same document, the same diagnostics held and the
same edit that fixes the document as a whole; they publish the same about
it, in the same order, and the messages that stay have the same answers, the
queries for code actions among them. -/
theorem documents_apart {engine : Engine} (hsteady : engine.IsSteady) {ds es : List Delivery}
    (hds : ∀ d ∈ ds, d.env.engine = engine) (hes : ∀ e ∈ es, e.env.engine = engine) (uri : Uri)
    (hkept : List.Forall₂ Delivery.Resembles (ds.filter (·.message.concerns (· == uri))) es) :
    (Session.after {} es).documents.get? uri = (Session.after {} ds).documents.get? uri
      ∧ (Session.after {} es).held uri = (Session.after {} ds).held uri
      ∧ (∀ env env', env.engine = engine → env'.engine = engine →
          ((Session.after {} es).fixAllEdit env' uri).result =
            ((Session.after {} ds).fixAllEdit env uri).result)
      ∧ (Session.sentIn {} es).filter (·.publishes (· == uri)) =
          (Session.sentIn {} ds).filter (·.publishes (· == uri))
      ∧ (Session.run {} es).2.map (·.2) = Session.answersTo (·.concerns (· == uri)) {} ds := by
  obtain ⟨hafter, hsent, hanswers⟩ := Session.alike_run id hsteady hsteady (fun _ _ _ => rfl)
    (fun s t d e h hde hd he hm =>
      Session.step_result_alike (by rwa [hd]) (he.trans hd.symm) hde h hm)
    hds hes hkept (.refl (· == uri) {})
  have hdocument := hafter.document uri (beq_self_eq_true uri)
  refine ⟨hdocument, hafter.held uri (beq_self_eq_true uri), ?_, hsent, ?_⟩
  · intro env env' henv henv'
    exact Session.fixAllEdit_result_congr (by rwa [henv]) (henv'.trans henv.symm) hafter.rules
      hdocument
  · rw [List.map_id] at hanswers
    exact hanswers

def otherUri : Uri := { noteUri with path := "/other.md" }

def twoNotes : List Message :=
  Message.greetings {} ++
    [.notify (.opened noteUri ⟨"markdown", "a ", 1⟩),
      .notify (.opened otherUri ⟨"markdown", "b  ", 1⟩), .ask 1 (.fixAll (some otherUri)),
      .notify (.changed noteUri 2 ["a  "]), .notify (.closed otherUri),
      .ask 2 (.fixAll (some noteUri)), .ask 3 (.actions ⟨noteUri, [], some ["source"]⟩)]

def refusingEditor : Environment :=
  { Environment.bare .trailing with reply := fun _ => .rejected "read-only" }

theorem documents_apart_of_two :
    let ds := deliver (.bare .trailing) twoNotes
    let es := deliver refusingEditor (twoNotes.filter (·.concerns (· == noteUri)))
    (Session.after {} es).documents.get? noteUri = (Session.after {} ds).documents.get? noteUri
      ∧ (Session.after {} es).held noteUri = (Session.after {} ds).held noteUri
      ∧ ((Session.after {} es).fixAllEdit refusingEditor noteUri).result =
          ((Session.after {} ds).fixAllEdit (.bare .trailing) noteUri).result
      ∧ (Session.sentIn {} es).filter (·.publishes (· == noteUri)) =
          (Session.sentIn {} ds).filter (·.publishes (· == noteUri))
      ∧ (Session.run {} es).2.map (·.2) = Session.answersTo (·.concerns (· == noteUri)) {} ds
      ∧ es.length = 6 ∧ ds.length = 9 := by
  intro ds es
  have hds : ∀ d ∈ ds, d.env.engine = .trailing := fun _ h => engine_of_mem_deliver h
  have hes : ∀ e ∈ es, e.env.engine = .trailing := fun _ h => engine_of_mem_deliver h
  have hkept : List.Forall₂ Delivery.Resembles
      (ds.filter (·.message.concerns (· == noteUri))) es :=
    resembles_deliver (.bare .trailing) refusingEditor rfl rfl (·.concerns (· == noteUri)) twoNotes
  obtain ⟨hdocument, hheld, hedit, hsent, hanswers⟩ :=
    documents_apart (fun _ _ _ _ => rfl) hds hes noteUri hkept
  exact ⟨hdocument, hheld, hedit _ _ rfl rfl, hsent, hanswers, by decide +kernel, rfl⟩

end LintServer
