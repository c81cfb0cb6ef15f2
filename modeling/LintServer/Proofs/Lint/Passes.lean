import LintServer.Lint.Engine

/-!
# Passes of lint and repair

A pass lints a text and repairs it by what was found (`Engine.pass?`). The
repair loop makes passes until one changes nothing; what it comes to is the
text after as many passes as it has time for
(`Engine.toOption_fixPasses`), since passes behind one that changes nothing
change nothing either.

What is known of the passes is then known of the loop. Where they settle in
time, it ends with the text that they settle at
(`Engine.orbit?_of_settlesAt`); the last pass of the loop is followed by no
check, but settling is a fact about the passes and not about the loop. Where
one of them cannot lint, the loop ends with an error, and nowhere else
(`Engine.orbit?_eq_none_iff`).
-/

namespace LintServer.Engine

theorem IsSteady.violations_eq {engine : Engine} (h : engine.IsSteady) (call : Nat)
    (name text : String) (rules : Rules) :
    engine.violations call name text rules = engine.violations 0 name text rules := by
  unfold violations
  rw [h call name text rules]

/-! ## Passes -/

section

variable (engine : Engine) (name : String) (rules : Rules)

/-- The text after one pass, if it can be linted. -/
def pass? (text : String) : Option String :=
  (engine.violations 0 name text rules).toOption.map (engine.fixText text)

/-- The text after a number of passes, if each of them can lint. -/
def orbit? : Nat → String → Option String
  | 0, text => some text
  | n + 1, text => (engine.pass? name rules text).bind (orbit? n)

/-- Whether the passes from `text` on come to rest at `settled`, after at
most `passes` of them. -/
def SettlesAt (passes : Nat) (text settled : String) : Prop :=
  ∃ n ≤ passes, engine.orbit? name rules n text = some settled
    ∧ engine.pass? name rules settled = some settled

/-- Whether one of the first `passes` passes from `text` on comes upon a
text that cannot be linted. -/
def FailsWithin (passes : Nat) (text : String) : Prop :=
  ∃ n < passes, ∃ bad error, engine.orbit? name rules n text = some bad
    ∧ engine.violations 0 name bad rules = .error error

end

variable {engine : Engine} {name : String} {rules : Rules}

theorem orbit?_of_fixed {text : String} (h : engine.pass? name rules text = some text) (n : Nat) :
    engine.orbit? name rules n text = some text := by
  induction n with
  | zero => rfl
  | succ n ih => rw [orbit?, h, Option.bind_some, ih]

theorem settlesAt_of_fixed {text : String} (h : engine.pass? name rules text = some text)
    (passes : Nat) : engine.SettlesAt name rules passes text text :=
  ⟨0, Nat.zero_le passes, rfl, h⟩

theorem pass?_of_ok {text : String} {vs : List Violation}
    (h : engine.violations 0 name text rules = .ok vs) :
    engine.pass? name rules text = some (engine.fixText text vs) := by
  rw [pass?, h]
  rfl

theorem pass?_of_error {text : String} {error : Error}
    (h : engine.violations 0 name text rules = .error error) :
    engine.pass? name rules text = none := by
  rw [pass?, h]
  rfl

theorem orbit?_add (m n : Nat) (text : String) :
    engine.orbit? name rules (m + n) text =
      (engine.orbit? name rules m text).bind (engine.orbit? name rules n) := by
  induction m generalizing text with
  | zero => rw [Nat.zero_add, orbit?, Option.bind_some]
  | succ m ih =>
      rw [Nat.succ_add, orbit?, orbit?]
      cases engine.pass? name rules text with
      | none => rfl
      | some next => exact ih next

/-- The passes come to no text just where one of them cannot lint. -/
theorem orbit?_eq_none_iff {passes : Nat} {text : String} :
    engine.orbit? name rules passes text = none ↔ engine.FailsWithin name rules passes text := by
  constructor
  · intro h
    induction passes generalizing text with
    | zero => cases h
    | succ passes ih =>
        cases hv : engine.violations 0 name text rules with
        | error error => exact ⟨0, Nat.succ_pos passes, text, error, rfl, hv⟩
        | ok vs =>
            have hpass := pass?_of_ok hv
            rw [orbit?, hpass, Option.bind_some] at h
            obtain ⟨n, hn, bad, error, horbit, hbad⟩ := ih h
            refine ⟨n + 1, Nat.succ_lt_succ hn, bad, error, ?_, hbad⟩
            rw [orbit?, hpass, Option.bind_some, horbit]
  · rintro ⟨n, hn, bad, error, horbit, hbad⟩
    obtain ⟨k, rfl⟩ := Nat.exists_eq_add_of_lt hn
    rw [Nat.add_assoc, orbit?_add, horbit, Option.bind_some, orbit?, pass?_of_error hbad]
    rfl

theorem orbit?_of_settlesAt {passes : Nat} {text settled : String}
    (h : engine.SettlesAt name rules passes text settled) :
    engine.orbit? name rules passes text = some settled := by
  obtain ⟨n, hn, horbit, hfixed⟩ := h
  obtain ⟨k, rfl⟩ := Nat.exists_eq_add_of_le hn
  rw [orbit?_add, horbit, Option.bind_some, orbit?_of_fixed hfixed]

/-! ## The loop -/

/-- **The loop comes to the text that all of its passes come to.** Where it
stops early, one more pass would leave the text as it is, and so would all
others. -/
theorem toOption_fixPasses (hsteady : engine.IsSteady) (passes call : Nat) (text : String) :
    (engine.fixPasses name rules passes call text).1.toOption =
      engine.orbit? name rules passes text := by
  induction passes generalizing call text with
  | zero => rfl
  | succ passes ih =>
      rw [fixPasses, hsteady.violations_eq, orbit?]
      cases hv : engine.violations 0 name text rules with
      | error error =>
          rw [pass?_of_error hv]
          rfl
      | ok vs =>
          have hpass := pass?_of_ok hv
          rw [hpass, Option.bind_some]
          dsimp only
          split
          · next heq =>
              rw [heq] at hpass ⊢
              exact (orbit?_of_fixed hpass passes).symm
          · exact ih (call + 1) _

theorem fixUntilStable_eq_ok_iff (hsteady : engine.IsSteady) {call : Nat} {text fixed : String} :
    (engine.fixUntilStable name rules call text).1 = .ok fixed ↔
      engine.orbit? name rules maxPasses text = some fixed := by
  rw [← toOption_fixPasses hsteady maxPasses call, fixUntilStable]
  cases (engine.fixPasses name rules maxPasses call text).1 <;> simp [Except.toOption]

end LintServer.Engine
