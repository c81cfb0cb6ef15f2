import LintServer.Proofs.Lint.Passes

/-!
# How the repair loop ends

The loop makes passes that change the text (`Engine.Moves`) until it ends in
one of three ways: a pass changes nothing, there are no passes left, or the
text cannot be linted (`Engine.Ends`). All three are said of the texts
t₀, t₁, … that the passes come to, and not of the loop: only one of them can
be the case, and the loop ends that way (`Engine.fixPasses_eq_iff`).

What carries the induction is that a loop that moves on is a loop with one
pass less, from the next text (`Engine.ends_succ_iff`). A text that settles
on the very last pass is not checked again, so it ends as one whose passes
are spent, with the same text.

The lint calls are counted on the way. Those that are made are the next ones
in number, and no other one has a part in the outcome
(`Engine.fixPasses_congr`).
-/

namespace LintServer.Engine

section

variable (engine : Engine) (name : String) (rules : Rules)

/-- `n` passes lead from `text` to `reached`, and each of them changes the
text. -/
structure Moves (n : Nat) (text reached : String) : Prop where
  arrives : engine.orbit? name rules n text = some reached
  changes : ∀ m < n, engine.orbit? name rules (m + 1) text ≠ engine.orbit? name rules m text

/-- What at most `passes` passes from `text` on end with, and after how many
lint calls. -/
inductive Ends (passes : Nat) (text : String) : Except Error String → Nat → Prop
  /-- A pass changes nothing. -/
  | settled {n : Nat} {reached : String} : n < passes → engine.Moves name rules n text reached →
      engine.pass? name rules reached = some reached → Ends passes text (.ok reached) (n + 1)
  /-- All passes are made, and each changes the text. -/
  | spent {reached : String} : engine.Moves name rules passes text reached →
      Ends passes text (.ok reached) passes
  /-- A text cannot be linted. -/
  | failed {n : Nat} {bad : String} {error : Error} : n < passes →
      engine.Moves name rules n text bad → engine.violations 0 name bad rules = .error error →
      Ends passes text (.error error) (n + 1)

end

variable {engine : Engine} {name : String} {rules : Rules}

/-! ## One pass at a time -/

theorem moves_zero_iff {text reached : String} :
    engine.Moves name rules 0 text reached ↔ text = reached := by
  constructor
  · intro h
    exact Option.some.inj h.arrives
  · rintro rfl
    exact ⟨rfl, fun m hm => absurd hm (Nat.not_lt_zero m)⟩

theorem orbit?_succ_of_pass {text next : String} (h : engine.pass? name rules text = some next)
    (n : Nat) : engine.orbit? name rules (n + 1) text = engine.orbit? name rules n next := by
  rw [orbit?, h, Option.bind_some]

theorem moves_succ_iff {n : Nat} {text reached : String} :
    engine.Moves name rules (n + 1) text reached ↔
      ∃ next, engine.pass? name rules text = some next ∧ next ≠ text
        ∧ engine.Moves name rules n next reached := by
  constructor
  · rintro ⟨harrives, hchanges⟩
    rw [orbit?] at harrives
    obtain ⟨next, hpass, harrives⟩ := Option.bind_eq_some_iff.mp harrives
    refine ⟨next, hpass, ?_, harrives, fun m hm => ?_⟩
    · have hfirst := hchanges 0 (Nat.succ_pos n)
      rw [orbit?_succ_of_pass hpass] at hfirst
      exact fun heq => hfirst (congrArg some heq)
    · have hlater := hchanges (m + 1) (Nat.succ_lt_succ hm)
      rwa [orbit?_succ_of_pass hpass, orbit?_succ_of_pass hpass] at hlater
  · rintro ⟨next, hpass, hne, harrives, hchanges⟩
    refine ⟨(orbit?_succ_of_pass hpass n).trans harrives, fun m hm => ?_⟩
    rw [orbit?_succ_of_pass hpass]
    cases m with
    | zero => exact fun heq => hne (Option.some.inj heq)
    | succ m =>
        rw [orbit?_succ_of_pass hpass]
        exact hchanges m (Nat.lt_of_succ_lt_succ hm)

theorem ends_zero_iff {text : String} {outcome : Except Error String} {calls : Nat} :
    engine.Ends name rules 0 text outcome calls ↔ outcome = .ok text ∧ calls = 0 := by
  constructor
  · intro h
    cases h with
    | settled hn => exact absurd hn (Nat.not_lt_zero _)
    | spent hmoves => exact ⟨congrArg _ (moves_zero_iff.mp hmoves).symm, rfl⟩
    | failed hn => exact absurd hn (Nat.not_lt_zero _)
  · rintro ⟨rfl, rfl⟩
    exact .spent (moves_zero_iff.mpr rfl)

/-- A loop ends with its first pass, or as the loop with one pass less does
from the next text. -/
theorem ends_succ_iff {passes : Nat} {text : String} {outcome : Except Error String}
    {calls : Nat} :
    engine.Ends name rules (passes + 1) text outcome calls ↔
      (∃ error, engine.violations 0 name text rules = .error error
          ∧ outcome = .error error ∧ calls = 1)
        ∨ (engine.pass? name rules text = some text ∧ outcome = .ok text ∧ calls = 1)
        ∨ ∃ next rest, engine.pass? name rules text = some next ∧ next ≠ text
            ∧ engine.Ends name rules passes next outcome rest ∧ calls = rest + 1 := by
  constructor
  · intro h
    cases h with
    | @settled n reached hn hmoves hfixed =>
        cases n with
        | zero =>
            obtain rfl := moves_zero_iff.mp hmoves
            exact .inr (.inl ⟨hfixed, rfl, rfl⟩)
        | succ n =>
            obtain ⟨next, hpass, hne, hmoves⟩ := moves_succ_iff.mp hmoves
            exact .inr (.inr ⟨next, n + 1, hpass, hne,
              .settled (Nat.lt_of_succ_lt_succ hn) hmoves hfixed, rfl⟩)
    | spent hmoves =>
        obtain ⟨next, hpass, hne, hmoves⟩ := moves_succ_iff.mp hmoves
        exact .inr (.inr ⟨next, passes, hpass, hne, .spent hmoves, rfl⟩)
    | @failed n bad error hn hmoves hbad =>
        cases n with
        | zero =>
            obtain rfl := moves_zero_iff.mp hmoves
            exact .inl ⟨error, hbad, rfl, rfl⟩
        | succ n =>
            obtain ⟨next, hpass, hne, hmoves⟩ := moves_succ_iff.mp hmoves
            exact .inr (.inr ⟨next, n + 1, hpass, hne,
              .failed (Nat.lt_of_succ_lt_succ hn) hmoves hbad, rfl⟩)
  · rintro (⟨error, hbad, rfl, rfl⟩ | ⟨hfixed, rfl, rfl⟩ | ⟨next, rest, hpass, hne, h, rfl⟩)
    · exact .failed (Nat.succ_pos passes) (moves_zero_iff.mpr rfl) hbad
    · exact .settled (Nat.succ_pos passes) (moves_zero_iff.mpr rfl) hfixed
    · cases h with
      | settled hn hmoves hfixed =>
          exact .settled (Nat.succ_lt_succ hn) (moves_succ_iff.mpr ⟨next, hpass, hne, hmoves⟩)
            hfixed
      | spent hmoves => exact .spent (moves_succ_iff.mpr ⟨next, hpass, hne, hmoves⟩)
      | failed hn hmoves hbad =>
          exact .failed (Nat.succ_lt_succ hn) (moves_succ_iff.mpr ⟨next, hpass, hne, hmoves⟩)
            hbad

/-! ## The loop -/

/-- The loop ends as its passes say. -/
theorem fixPasses_eq_iff (hsteady : engine.IsSteady) {passes call : Nat} {text : String}
    {outcome : Except Error String} {total : Nat} :
    engine.fixPasses name rules passes call text = (outcome, total) ↔
      ∃ calls, total = call + calls ∧ engine.Ends name rules passes text outcome calls := by
  induction passes generalizing call text with
  | zero =>
      rw [fixPasses, Prod.mk.injEq]
      simp only [ends_zero_iff]
      constructor
      · rintro ⟨rfl, rfl⟩
        exact ⟨0, rfl, rfl, rfl⟩
      · rintro ⟨calls, rfl, rfl, rfl⟩
        exact ⟨rfl, rfl⟩
  | succ passes ih =>
      rw [fixPasses, hsteady.violations_eq]
      simp only [ends_succ_iff]
      cases hv : engine.violations 0 name text rules with
      | error error => simp [pass?_of_error hv, eq_comm, and_comm]
      | ok vs =>
          rw [pass?_of_ok hv]
          by_cases hfixed : engine.fixText text vs = text
          · simp [hfixed, eq_comm, and_comm]
          · dsimp only
            rw [if_neg hfixed, ih]
            constructor
            · rintro ⟨calls, rfl, h⟩
              exact ⟨calls + 1, by omega, .inr (.inr ⟨_, calls, rfl, hfixed, h, rfl⟩)⟩
            · rintro ⟨calls, rfl, ⟨_, hbad, -⟩ | ⟨heq, -⟩ | ⟨next, rest, hnext, -, h, rfl⟩⟩
              · cases hbad
              · exact absurd (Option.some.inj heq) hfixed
              · cases hnext
                exact ⟨rest, by omega, h⟩

theorem Ends.calls_le {passes : Nat} {text : String} {outcome : Except Error String} {calls : Nat}
    (h : engine.Ends name rules passes text outcome calls) : calls ≤ passes := by
  cases h with
  | settled hn => exact hn
  | spent => exact Nat.le_refl passes
  | failed hn => exact hn

/-- Whatever a lint call fails with is reported as an error of the engine. -/
theorem exists_reason_of_violations_eq_error {call : Nat} {text : String} {error : Error}
    (h : engine.violations call name text rules = .error error) :
    ∃ reason, error = .engine reason := by
  unfold violations at h
  split at h
  · cases h
  · next failure _ =>
      cases h
      unfold errorOf
      split
      · exact ⟨_, rfl⟩
      · exact ⟨_, rfl⟩
  · cases h
    exact ⟨_, rfl⟩

theorem Ends.exists_reason {passes : Nat} {text : String} {error : Error} {calls : Nat}
    (h : engine.Ends name rules passes text (.error error) calls) :
    ∃ reason, error = .engine reason := by
  cases h with
  | failed _ _ hbad => exact exists_reason_of_violations_eq_error hbad

theorem le_fixPasses (passes call : Nat) (text : String) :
    call ≤ (engine.fixPasses name rules passes call text).2 := by
  fun_induction fixPasses engine name rules passes call text with
  | case1 call text => exact Nat.le_refl call
  | case2 passes call text error hv => exact Nat.le_succ call
  | case3 passes call text vs hv => exact Nat.le_succ call
  | case4 passes call text vs hv next hmoves ih => exact Nat.le_of_succ_le ih

theorem violations_congr {other : Engine} {call : Nat} (h : other.lint call = engine.lint call)
    (text : String) :
    other.violations call name text rules = engine.violations call name text rules := by
  rw [violations, violations, h]

/-- The loop hears of the lint calls that it makes, and of no others. -/
theorem fixPasses_congr {other : Engine} (hfix : other.fixText = engine.fixText)
    {passes call : Nat} {text : String}
    (hlint : ∀ i, call ≤ i → i < (engine.fixPasses name rules passes call text).2 →
      other.lint i = engine.lint i) :
    other.fixPasses name rules passes call text = engine.fixPasses name rules passes call text := by
  fun_induction fixPasses engine name rules passes call text with
  | case1 call text => rfl
  | case2 passes call text error hv =>
      have hcall := hlint call (Nat.le_refl call) (Nat.lt_succ_self call)
      rw [fixPasses, violations_congr hcall, hv]
  | case3 passes call text vs hv next hfixed =>
      have hcall := hlint call (Nat.le_refl call) (Nat.lt_succ_self call)
      rw [fixPasses, violations_congr hcall, hv]
      dsimp only
      rw [hfix, if_pos hfixed]
  | case4 passes call text vs hv next hmoves ih =>
      have hcall := hlint call (Nat.le_refl call) (le_fixPasses passes (call + 1) next)
      rw [fixPasses, violations_congr hcall, hv]
      dsimp only
      rw [hfix, if_neg hmoves]
      exact ih fun i hi => hlint i (Nat.le_of_succ_le hi)

end LintServer.Engine

namespace LintServer

open Engine in
/-- **Repairing until nothing changes is the iteration of one pass,** ten
times at most. For an engine that always answers alike it ends in one of
three ways, which the texts that the passes come to decide. -/
theorem fixUntilStable_iterates {engine : Engine} (hsteady : engine.IsSteady) (name : String)
    (rules : Rules) (call : Nat) (text : String) :
    (∀ outcome calls,
        engine.fixUntilStable name rules call text = (outcome, call + calls) ↔
          engine.Ends name rules 10 text outcome calls)
      ∧ ∃ outcome calls, engine.Ends name rules 10 text outcome calls ∧ calls ≤ 10
          ∧ (∀ error, outcome = .error error → ∃ reason, error = .engine reason)
          ∧ ∀ other : Engine, other.fixText = engine.fixText →
              (∀ i, call ≤ i → i < call + calls → other.lint i = engine.lint i) →
              other.fixUntilStable name rules call text = (outcome, call + calls) := by
  have hends : ∀ outcome total, engine.fixUntilStable name rules call text = (outcome, total) ↔
      ∃ calls, total = call + calls ∧ engine.Ends name rules 10 text outcome calls :=
    fun _ _ => fixPasses_eq_iff hsteady
  refine ⟨fun outcome calls => ?_, ?_⟩
  · rw [hends]
    constructor
    · rintro ⟨calls', htotal, h⟩
      rwa [Nat.add_left_cancel htotal]
    · exact fun h => ⟨calls, rfl, h⟩
  · obtain ⟨calls, htotal, h⟩ := (hends _ _).mp rfl
    refine ⟨_, calls, h, h.calls_le, fun error herror => (herror ▸ h).exists_reason, ?_⟩
    intro other hfix hlint
    rw [← htotal] at hlint
    rw [← htotal]
    exact fixPasses_congr hfix hlint

/-- An engine that puts a mark in front of the text and crashes on three
marks. -/
def Engine.threeMarks : Engine :=
  steady fun _ text _ =>
    if text = "!!!" then .crashed none
    else .found [{ line := 1, fix := some { insertText := some "!" } }]

theorem fixUntilStable_iterates_of_threeMarks :
    Engine.threeMarks.fixUntilStable "note.md" .builtin 0 "" =
      (.error (.engine "engine panicked"), 4) := by
  have hmoves : Engine.threeMarks.Moves "note.md" .builtin 3 "" "!!!" :=
    ⟨by decide +kernel, by decide +kernel⟩
  have hends : Engine.threeMarks.Ends "note.md" .builtin 10 "" (.error (.engine "engine panicked"))
      4 := .failed (by decide) hmoves rfl
  have hsteady : Engine.threeMarks.IsSteady := fun _ _ _ _ => rfl
  exact ((fixUntilStable_iterates hsteady "note.md" .builtin 0 "").1 _ 4).mpr hends

/-- A text that never settles is left after ten passes. -/
example :
    (Engine.threeMarks.fixUntilStable "note.md" .builtin 0 "####").1.toOption =
      some "!!!!!!!!!!####" := by
  decide +kernel

end LintServer
