import LintServer.Proofs.Server.SpanRange

/-!
# Whether a range is in order

The range of a violation is on one line whatever the violation says, and the
columns of its ends keep the order of the offsets as long as they fit into 32
bits. Past the end of a line they need not: there the bytes past the end are
cut to 32 bits, and only then added to the length of the line, with a sum that
stops at the greatest word. So a stop just past a multiple of 2³² bytes is
shown at the end of the line, however far the start is past it
(`Text.WrapsPast`). In lines of fewer than 2³² units that is the only way in
which a range falls out of order (`Text.unitColumn_le_iff`).
-/

namespace LintServer

namespace Text

/-- Both offsets are past the end of the line, and in 32 bits the second is
less far past it than the first, and not so far that its column would be the
greatest word. -/
structure WrapsPast (line : String) (a b : Nat) : Prop where
  past : byteLength line.toList ≤ a
  wraps : (b - byteLength line.toList) % UInt32.size < (a - byteLength line.toList) % UInt32.size
  below : (units line).toNat + (b - byteLength line.toList) % UInt32.size < UInt32.size - 1

theorem unitColumn_le_of_fits {line : String} {a b column : Nat} (hle : a ≤ b)
    (h : IsColumn line.toList b column) (hfits : column < UInt32.size) :
    unitColumn line a ≤ unitColumn line b := by
  obtain ⟨start, -, hstart⟩ := exists_isColumn line.toList a
  have hmono : start ≤ column := hstart.mono h hle
  rw [UInt32.le_iff_toNat_le, toNat_unitColumn h hfits,
    toNat_unitColumn hstart (Nat.lt_of_le_of_lt hmono hfits)]
  exact hmono

/-- From inside the line on, the columns are in order: however the stop wraps,
it is shown at the end of the line or behind it. -/
theorem unitColumn_le_of_inside {line : String} {a b : Nat}
    (hunits : unitLength line.toList < UInt32.size) (hle : a ≤ b)
    (hinside : a < byteLength line.toList) : unitColumn line a ≤ unitColumn line b := by
  rcases Nat.lt_or_ge b (byteLength line.toList) with hlt | hge
  · obtain ⟨column, hcolumn, hb⟩ := exists_isColumn line.toList b
    obtain ⟨q, hq, rfl⟩ := hb.inside hlt
    exact unitColumn_le_of_fits hle hb (Nat.lt_of_le_of_lt (unitLength_mono hq.isPrefix) hunits)
  · obtain ⟨p, hp, hstart⟩ := toNat_unitColumn_inside hinside
    have hprefix : unitLength p ≤ unitLength line.toList := unitLength_mono hp.isPrefix
    rw [UInt32.le_iff_toNat_le, hstart, toNat_unitColumn_past hge, toNat_units,
      Nat.mod_eq_of_lt hunits, Nat.mod_eq_of_lt (Nat.lt_of_le_of_lt hprefix hunits)]
    omega

theorem unitColumn_le_iff_of_past {line : String} {a b : Nat} (hle : a ≤ b)
    (hpast : byteLength line.toList ≤ a) :
    unitColumn line a ≤ unitColumn line b ↔ ¬ WrapsPast line a b := by
  have hwrap : WrapsPast line a b ↔
      (b - byteLength line.toList) % UInt32.size < (a - byteLength line.toList) % UInt32.size
        ∧ (units line).toNat + (b - byteLength line.toList) % UInt32.size < UInt32.size - 1 :=
    ⟨fun h => ⟨h.wraps, h.below⟩, fun h => ⟨hpast, h.1, h.2⟩⟩
  rw [UInt32.le_iff_toNat_le, toNat_unitColumn_past hpast,
    toNat_unitColumn_past (Nat.le_trans hpast hle), hwrap]
  omega

theorem unitColumn_le_iff {line : String} {a b : Nat}
    (hunits : unitLength line.toList < UInt32.size) (hle : a ≤ b) :
    unitColumn line a ≤ unitColumn line b ↔ ¬ WrapsPast line a b := by
  rcases Nat.lt_or_ge a (byteLength line.toList) with hinside | hpast
  · exact ⟨fun _ h => absurd h.past (Nat.not_le_of_lt hinside),
      fun _ => unitColumn_le_of_inside hunits hle hinside⟩
  · exact unitColumn_le_iff_of_past hle hpast

theorem le_addClamped (a b : UInt32) : a ≤ addClamped a b := by
  rw [UInt32.le_iff_toNat_le, toNat_addClamped]
  have hword : a.toNat < UInt32.size := a.toNat_lt
  omega

end Text

namespace Violation

variable {v : Violation} {content : String}

theorem range_on_line (v : Violation) (content : String) :
    (v.range content).start.line = (v.range content).stop.line := by
  unfold range
  split <;> rfl

/-- Without a span or a line, nothing is cut. -/
theorem range_in_order_of_none (h : v.span = none ∨ Text.lineAt? content v.lineIndex = none) :
    (v.range content).start.character ≤ (v.range content).stop.character := by
  unfold range
  split
  · next hspan hline => simp [hspan, hline] at h
  · exact Text.le_addClamped _ _
  · exact UInt32.le_refl 0

end Violation

/-- **The range of a diagnostic is on one line, and in order** but for a span
that starts past the end of its line and whose columns wrap there. In a line of
2³² units or more the order is sure only where the column of the stop fits. -/
theorem range_in_order (content : String) (v : Violation) :
    let range := (Diagnostic.ofViolation content v).range
    range.start.line = range.stop.line
      ∧ (v.span = none ∨ Text.lineAt? content v.lineIndex = none →
          range.start.character ≤ range.stop.character)
      ∧ ∀ span line, v.span = some span → Text.lineAt? content v.lineIndex = some line →
          (Text.unitLength line.toList < UInt32.size →
            (range.start.character ≤ range.stop.character
              ↔ ¬ Text.WrapsPast line span.startOffset span.stopOffset))
          ∧ ∀ column, Text.IsColumn line.toList span.stopOffset column → column < UInt32.size →
              range.start.character ≤ range.stop.character := by
  refine ⟨v.range_on_line content, Violation.range_in_order_of_none, ?_⟩
  intro span line hspan hline
  rw [Diagnostic.ofViolation, Violation.range_of_span hspan hline]
  exact ⟨fun hunits => Text.unitColumn_le_iff hunits span.startOffset_le_stopOffset,
    fun column => Text.unitColumn_le_of_fits span.startOffset_le_stopOffset⟩

def overlongViolation : Violation where
  line := 2
  span := some ⟨3, 4294967300⟩

theorem range_in_order_of_overlong :
    let range := (Diagnostic.ofViolation "x\na😀" overlongViolation).range
    range = ⟨⟨1, 1⟩, ⟨1, 4⟩⟩ ∧ range.start.character ≤ range.stop.character := by
  have hline : Text.lineAt? "x\na😀" overlongViolation.lineIndex = some "a😀" := by decide +kernel
  obtain ⟨-, -, hspan⟩ := range_in_order "x\na😀" overlongViolation
  obtain ⟨horder, -⟩ := hspan ⟨3, 4294967300⟩ "a😀" rfl hline
  refine ⟨by decide +kernel, (horder (by decide +kernel)).mpr fun hwraps => ?_⟩
  exact absurd hwraps.past (by decide +kernel)

/-- A span of one byte, 2³² bytes into an empty line. -/
def farViolation : Violation where
  line := 1
  span := some ⟨4294967296, 1⟩

theorem range_falls_of_far :
    let range := (Diagnostic.ofViolation "" farViolation).range
    ¬ range.start.character ≤ range.stop.character := by
  decide +kernel

end LintServer
