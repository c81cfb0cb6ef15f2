import Mathlib.Data.List.Basic
import LintServer.Proofs.Server.QuickFix

/-!
# The title of a quick fix

The message of a violation begins with the names of its rule, and a colon and
a space stand behind them. The title of a quick fix is cut out of the message
again, at the first colon with a space behind it. It is the names just if none
of them has such a pair in it (`quickFix_title_names_rule`).

What stands around the names does not move the cut. The slash between two
names is neither of the two characters, so no pair is made where they meet
(`Text.hasSeparator_intercalate`). A last name that ends in a colon has another
colon behind it, not a space, so the first pair is the one that was written
there (`Diagnostic.beforeSeparator_append`). In the other direction, what is cut
out never has a pair in it (`Diagnostic.not_hasSeparator_beforeSeparator`).
-/

namespace LintServer

namespace Text

/-! ## Texts with a separator in them -/

/-- There is a colon with a space behind it. -/
def HasSeparator (text : List Char) : Prop := [':', ' '] <:+: text

instance (text : List Char) : Decidable (HasSeparator text) :=
  inferInstanceAs (Decidable ([':', ' '] <:+: text))

variable {text a b : List Char}

theorem not_hasSeparator_nil : ¬ HasSeparator [] := by decide

theorem hasSeparator_cons {c : Char} :
    HasSeparator (c :: text) ↔ (c = ':' ∧ [' '] <+: text) ∨ HasSeparator text := by
  rw [HasSeparator, List.infix_cons_iff, List.cons_prefix_cons, eq_comm, HasSeparator]

/-- A character that is not of the separator keeps what is on both sides of it
apart. -/
theorem hasSeparator_append_cons {c : Char} (hcolon : c ≠ ':') (hspace : c ≠ ' ') :
    HasSeparator (a ++ c :: b) ↔ HasSeparator a ∨ HasSeparator b := by
  induction a with
  | nil => simp [hasSeparator_cons, hcolon, not_hasSeparator_nil]
  | cons x a ih =>
      have hhead : [' '] <+: a ++ c :: b ↔ [' '] <+: a := by
        cases a <;> simp [hspace.symm]
      rw [List.cons_append, hasSeparator_cons, hhead, ih, hasSeparator_cons, or_assoc]

theorem hasSeparator_intercalate (texts : List (List Char)) :
    HasSeparator (['/'].intercalate texts) ↔ ∃ text ∈ texts, HasSeparator text := by
  induction texts with
  | nil => simp [not_hasSeparator_nil]
  | cons text texts ih =>
      cases texts with
      | nil => simp
      | cons next texts =>
          rw [List.intercalate_cons_cons, List.append_assoc, List.singleton_append,
            hasSeparator_append_cons (by decide) (by decide), ih]
          exact (List.exists_mem_cons_iff ..).symm

end Text

/-! ## What stands in front of the first one -/

namespace Diagnostic

open ruleTitle (beforeSeparator)
open Text (HasSeparator)

theorem beforeSeparator_isPrefix (text : List Char) : beforeSeparator text <+: text := by
  fun_induction beforeSeparator text with
  | case1 => exact List.prefix_rfl
  | case2 => exact List.prefix_rfl
  | case3 => exact List.nil_prefix
  | case4 c x rest _ ih => exact List.cons_prefix_cons.mpr ⟨rfl, ih⟩

theorem not_hasSeparator_beforeSeparator (text : List Char) :
    ¬ HasSeparator (beforeSeparator text) := by
  fun_induction beforeSeparator text with
  | case1 => exact Text.not_hasSeparator_nil
  | case2 c => simp [Text.hasSeparator_cons, Text.not_hasSeparator_nil]
  | case3 => exact Text.not_hasSeparator_nil
  | case4 c x rest hpair ih =>
      rw [Text.hasSeparator_cons]
      rintro (⟨hc, hspace⟩ | hrest)
      · have hx : [' '] <+: x :: rest := hspace.trans (beforeSeparator_isPrefix _)
        exact hpair ⟨hc, (List.cons_prefix_cons.mp hx).1.symm⟩
      · exact ih hrest

theorem beforeSeparator_append {front : List Char} (h : ¬ HasSeparator front)
    (rest : List Char) : beforeSeparator (front ++ ':' :: ' ' :: rest) = front := by
  fun_induction beforeSeparator front with
  | case1 => rfl
  | case2 c => simp [beforeSeparator]
  | case3 c x front hpair => simp [Text.hasSeparator_cons, hpair] at h
  | case4 c x front hpair ih =>
      rw [Text.hasSeparator_cons, not_or] at h
      rw [List.cons_append, List.cons_append, beforeSeparator, if_neg hpair]
      exact congrArg (c :: ·) (ih h.2)

theorem beforeSeparator_append_eq_iff {front : List Char} (rest : List Char) :
    beforeSeparator (front ++ ':' :: ' ' :: rest) = front ↔ ¬ HasSeparator front :=
  ⟨fun h => h ▸ not_hasSeparator_beforeSeparator _, fun h => beforeSeparator_append h rest⟩

end Diagnostic

/-! ## The message -/

namespace Violation

theorem toList_message (v : Violation) :
    v.message.toList =
      v.joinedNames.toList ++ ':' :: ' ' :: (v.description ++ v.detailSuffix).toList := by
  simp [message]

theorem hasSeparator_joinedNames (v : Violation) :
    Text.HasSeparator v.joinedNames.toList ↔ ∃ name ∈ v.names, Text.HasSeparator name.toList := by
  have hslash : "/".toList = ['/'] := rfl
  rw [joinedNames, String.toList_intercalate, hslash, Text.hasSeparator_intercalate]
  simp

end Violation

theorem CodeAction.title_of_quickFix? {engine : Engine} {uri : Uri} {content : String}
    {context : List Diagnostic} {d : Diagnostic} {action : CodeAction}
    (h : quickFix? engine uri content context d = some action) : action.title = d.ruleTitle := by
  obtain ⟨fix, -, h⟩ := Option.bind_eq_some_iff.mp h
  obtain ⟨edit, -, h⟩ := Option.bind_eq_some_iff.mp h
  cases h
  rfl

/-- **The title of a quick fix is the names of the rule.** Take a diagnostic
with the message of a violation, whatever is wrong and in whatever detail. What
is cut out of the message is the names, with slashes between them, if and only
if no name has a colon with a space behind it. Any quick fix for the diagnostic
has that for its title. -/
theorem quickFix_title_names_rule {v : Violation} {d : Diagnostic} (hd : d.message = v.message) :
    (d.ruleTitle = "/".intercalate v.names ↔ ∀ name ∈ v.names, ¬ Text.HasSeparator name.toList)
      ∧ ∀ engine uri content context action,
          CodeAction.quickFix? engine uri content context d = some action →
            action.title = d.ruleTitle := by
  refine ⟨?_, fun _ _ _ _ _ haction => CodeAction.title_of_quickFix? haction⟩
  calc d.ruleTitle = v.joinedNames
    _ ↔ Diagnostic.ruleTitle.beforeSeparator v.message.toList = v.joinedNames.toList := by
        rw [Diagnostic.ruleTitle, hd, ← String.toList_inj, String.toList_ofList]
    _ ↔ ¬ Text.HasSeparator v.joinedNames.toList := by
        rw [v.toList_message, Diagnostic.beforeSeparator_append_eq_iff]
    _ ↔ ∀ name ∈ v.names, ¬ Text.HasSeparator name.toList := by
        rw [v.hasSeparator_joinedNames]
        simp

/-- A rule with names that nearly have a separator, at every place where two
parts of the message meet, and with more separators behind the names. -/
def seamViolation : Violation where
  line := 1
  names := [":", " b", "a:"]
  description := " x: y [z]"
  detail := some "u: v"
  fix := some { insertText := some "-" }

theorem quickFix_title_names_rule_of_seam :
    let d := Diagnostic.ofViolation "c" seamViolation
    d.message = ":/ b/a::  x: y [z] [u: v]"
      ∧ ∃ action ∈ CodeAction.quickFixes .trailing noteUri "c" [d], action.title = ":/ b/a:" := by
  intro d
  obtain ⟨hnames, htitle⟩ := quickFix_title_names_rule (v := seamViolation) (d := d) rfl
  have hfound : (CodeAction.quickFix? .trailing noteUri "c" [d] d).isSome := by decide +kernel
  obtain ⟨action, haction⟩ := Option.isSome_iff_exists.mp hfound
  refine ⟨by decide +kernel, action,
    CodeAction.mem_quickFixes (List.mem_singleton_self d) haction, ?_⟩
  exact (htitle _ _ _ _ _ haction).trans ((hnames.mpr (by decide +kernel)).trans rfl)

end LintServer
