import LintServer.Uri.Basic

/-!
# Stores and the documents in them

A store holds at most one value for every URI. What is held for a URI after a change follows from
`Store.get?_insert` and `Store.get?_erase`: a change for one URI touches no other.

One store holds the documents that an editor has open, as it last sent them. Only Markdown
documents are linted.
-/

namespace LintServer

structure Store (α : Type) where
  entries : List (Uri × α) := []
  deriving Repr

namespace Store

variable {α : Type}

/-- The value held for a URI. -/
def get? (store : Store α) (uri : Uri) : Option α := store.entries.lookup uri

def erase (store : Store α) (uri : Uri) : Store α :=
  ⟨store.entries.filter (·.1 != uri)⟩

/-- Holds a value for a URI in place of what was held for it. -/
def insert (store : Store α) (uri : Uri) (value : α) : Store α :=
  ⟨(uri, value) :: (store.erase uri).entries⟩

/-- Changes the value held for a URI, if there is one. -/
def modify (store : Store α) (uri : Uri) (change : α → α) : Store α :=
  match store.get? uri with
  | none => store
  | some value => store.insert uri (change value)

theorem lookup_filter_ne (entries : List (Uri × α)) (u v : Uri) :
    (entries.filter (·.1 != u)).lookup v = if v = u then none else entries.lookup v := by
  induction entries with
  | nil => simp
  | cons entry entries ih =>
      obtain ⟨w, a⟩ := entry
      by_cases hw : w = u
      · subst hw
        simp only [List.filter_cons, bne_self_eq_false, Bool.false_eq_true, if_false, ih]
        split
        · rfl
        · next h => rw [List.lookup_cons, beq_false_of_ne h]
      · have : (w != u) = true := by simpa using hw
        simp only [List.filter_cons, this, if_true, List.lookup_cons, ih]
        by_cases hv : v = w
        · subst hv
          simp [hw]
        · rw [beq_false_of_ne hv]

theorem get?_erase (store : Store α) (u v : Uri) :
    (store.erase u).get? v = if v = u then none else store.get? v :=
  lookup_filter_ne _ _ _

theorem get?_insert (store : Store α) (u v : Uri) (value : α) :
    (store.insert u value).get? v = if v = u then some value else store.get? v := by
  rw [get?, insert, List.lookup_cons]
  by_cases h : v = u
  · simp [h]
  · rw [beq_false_of_ne h, if_neg h]
    exact (get?_erase store u v).trans (if_neg h)

theorem get?_modify (store : Store α) (u v : Uri) (change : α → α) :
    (store.modify u change).get? v = if v = u then (store.get? v).map change else store.get? v := by
  unfold modify
  split
  · next h => by_cases hv : v = u <;> simp [hv, h]
  · next value h => by_cases hv : v = u <;> simp [get?_insert, hv, h]

end Store

/-! ## Documents -/

structure Document where
  language : String
  text : String
  version : Int32
  deriving Repr, DecidableEq

namespace Document

def isMarkdown (document : Document) : Bool := document.language == "markdown"

/-- The document after a change of its whole text. -/
def revise (document : Document) (text : String) (version : Int32) : Document :=
  { document with text := text, version := version }

end Document

end LintServer
