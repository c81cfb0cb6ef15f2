import LintServer.Config.Rules

/-!
# Laying settings over settings

What a merge leaves under a key depends only on what both sides have there
(`Json.lookup_mergeFields`), since every key of the upper side is merged
once. So a layer takes no key away from the settings below it
(`Rules.isSome_get?_overlay`), and neither do several
(`Rules.isSome_get?_foldl_overlay`).
-/

namespace LintServer

namespace Json

theorem lookup_eq_none_of_lt {fields : Fields} {key : String}
    (h : ∀ field ∈ fields, key < field.1) : fields.lookup key = none := by
  refine List.lookup_eq_none_iff.mpr fun field hm => ?_
  have hlt := h field hm
  refine bne_iff_ne.mpr fun heq => ?_
  rw [heq] at hlt
  exact String.lt_irrefl _ hlt

/-- The value under a key after a merge. -/
theorem lookup_mergeFields {upper : List (String × Json)} (hs : SortedFields upper)
    (base : Fields) (key : String) :
    (mergeFields upper base).lookup key =
      match upper.lookup key, base.lookup key with
      | none, old => old
      | some value, none => some value
      | some value, some old => some (mergeOver value old) := by
  induction upper generalizing base with
  | nil => rfl
  | cons field rest ih =>
      obtain ⟨k, v⟩ := field
      obtain ⟨hlt, -, hrest⟩ := hs
      have hnone : rest.lookup k = none := lookup_eq_none_of_lt hlt
      rw [mergeFields]
      by_cases hkey : key = k
      · subst hkey
        rw [List.lookup_cons_self]
        cases hbase : base.lookup key with
        | none => simp [ih hrest, hnone, Fields.lookup_insert_self]
        | some old => simp [ih hrest, hnone, Fields.lookup_insert_self]
      · rw [List.lookup_cons, beq_false_of_ne hkey]
        cases base.lookup k with
        | none => simp [ih hrest, Fields.lookup_insert_of_ne hkey]
        | some old => simp [ih hrest, Fields.lookup_insert_of_ne hkey]

end Json

namespace Rules

theorem get?_overlay (base upper : Rules) (key : String) :
    (base.overlay upper).get? key =
      match upper.get? key, base.get? key with
      | none, old => old
      | some value, none => some value
      | some value, some old => some (Json.mergeOver value old) :=
  Json.lookup_mergeFields upper.sorted base.fields key

theorem isSome_get?_overlay (base upper : Rules) (key : String) :
    ((base.overlay upper).get? key).isSome ↔ (base.get? key).isSome ∨ (upper.get? key).isSome := by
  rw [get?_overlay]
  cases upper.get? key <;> cases base.get? key <;> simp

theorem isSome_get?_foldl_overlay (base : Rules) (layers : List Rules) (key : String) :
    ((layers.foldl overlay base).get? key).isSome
      ↔ ∃ rules ∈ base :: layers, (rules.get? key).isSome := by
  induction layers generalizing base with
  | nil => simp
  | cons upper layers ih =>
      rw [List.foldl_cons, ih]
      simp [isSome_get?_overlay, or_assoc]

end Rules

end LintServer
