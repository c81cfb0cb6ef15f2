import LintServer.Proofs.Config.Overlay

/-!
# Settings along a key path

Settings are nested, and a layer may speak of a path of keys in three ways:
it has a value there, it has something on the way that is no object, so that
nothing can be there (`Json.CutsOff`), or it says nothing. What a merge leaves
at a path depends on that and on what was at the same path below
(`Rules.Leaves`). What the layer below has on the way does not matter: an
object of the upper layer takes the place of anything else, and below anything
else there is nothing.

So a layer that does not touch a path changes nothing there, and of several
layers the last that does decides (`overlay_along_path`).
-/

namespace LintServer

namespace Json

/-- There is something on the way of the path that is no object. -/
def CutsOff (v : Json) (path : List String) : Prop :=
  ∃ front back w, path = front ++ back ∧ back ≠ [] ∧ v.at? front = some w ∧ w.kind ≠ .obj

/-! ## One key at a time -/

theorem at?_cons (fields : Fields) (key : String) (path : List String) :
    (Json.obj fields).at? (key :: path) = (fields.lookup key).bind (at? path) := rfl

theorem at?_cons_of_kind_ne {v : Json} (h : v.kind ≠ .obj) (key : String) (path : List String) :
    v.at? (key :: path) = none := by
  cases v with
  | obj fields => exact absurd rfl h
  | null | bool | num | str | arr => rfl

theorem not_cutsOff_nil (v : Json) : ¬ v.CutsOff [] := by
  rintro ⟨front, back, w, hpath, hback, -, -⟩
  exact hback (List.append_eq_nil_iff.mp hpath.symm).2

theorem cutsOff_of_kind_ne {v : Json} (h : v.kind ≠ .obj) (key : String) (path : List String) :
    v.CutsOff (key :: path) :=
  ⟨[], key :: path, v, rfl, List.cons_ne_nil key path, rfl, h⟩

theorem cutsOff_cons {fields : Fields} {key : String} {path : List String} :
    (Json.obj fields).CutsOff (key :: path) ↔
      ∃ v, fields.lookup key = some v ∧ v.CutsOff path := by
  constructor
  · rintro ⟨front, back, w, hpath, hback, hat, hkind⟩
    cases front with
    | nil =>
        cases hat
        exact absurd rfl hkind
    | cons k front =>
        obtain ⟨rfl, rfl⟩ := List.cons.inj hpath
        obtain ⟨v, hv, hw⟩ := Option.bind_eq_some_iff.mp (at?_cons fields key front ▸ hat)
        exact ⟨v, hv, front, back, w, rfl, hback, hw, hkind⟩
  · rintro ⟨v, hv, front, back, w, rfl, hback, hat, hkind⟩
    refine ⟨key :: front, back, w, rfl, hback, ?_, hkind⟩
    rw [at?_cons, hv]
    exact hat

theorem at?_eq_none_of_cutsOff {v : Json} {path : List String} (h : v.CutsOff path) :
    v.at? path = none := by
  induction path generalizing v with
  | nil => exact absurd h (not_cutsOff_nil v)
  | cons key path ih =>
      by_cases hkind : v.kind = .obj
      · cases v with
        | obj fields =>
            obtain ⟨w, hw, hcut⟩ := cutsOff_cons.mp h
            rw [at?_cons, hw, Option.bind_some, ih hcut]
        | null | bool | num | str | arr => cases hkind
      · exact at?_cons_of_kind_ne hkind key path

theorem sorted_at? {v w : Json} {path : List String} (hs : v.Sorted) (h : v.at? path = some w) :
    w.Sorted := by
  induction path generalizing v with
  | nil =>
      cases h
      exact hs
  | cons key path ih =>
      cases v with
      | obj fields =>
          obtain ⟨u, hu, hw⟩ := Option.bind_eq_some_iff.mp (at?_cons fields key path ▸ h)
          exact ih (sorted_of_lookup hs hu) hw
      | null | bool | num | str | arr => cases h

/-! ## One value over another -/

theorem mergeOver_of_kind_ne {upper base : Json} (h : ¬ (upper.kind = .obj ∧ base.kind = .obj)) :
    mergeOver upper base = upper := by
  cases upper with
  | obj u =>
      cases base with
      | obj b => exact absurd ⟨rfl, rfl⟩ h
      | null | bool | num | str | arr => simp [mergeOver]
  | null | bool | num | str | arr => simp [mergeOver]

/-- What is at a path after a merge, by what was there on both sides, if
nothing above is in the way. -/
theorem at?_mergeOver {upper : Json} (hs : upper.Sorted) (base : Json) {path : List String}
    (hcut : ¬ upper.CutsOff path) :
    (mergeOver upper base).at? path =
      match upper.at? path, base.at? path with
      | none, old => old
      | some v, none => some v
      | some v, some old => some (mergeOver v old) := by
  induction path generalizing upper base with
  | nil => rfl
  | cons key path ih =>
      cases upper with
      | obj u =>
          cases base with
          | obj b =>
              rw [mergeOver, at?_cons, at?_cons, at?_cons, lookup_mergeFields hs]
              cases hu : u.lookup key with
              | none => rfl
              | some v =>
                  have hv : ¬ v.CutsOff path := fun h => hcut (cutsOff_cons.mpr ⟨v, hu, h⟩)
                  cases b.lookup key with
                  | none => cases h : v.at? path <;> simp [h]
                  | some old => exact ih (sorted_of_lookup hs hu) old hv
          | null | bool | num | str | arr =>
              rw [mergeOver_of_kind_ne (fun h => by cases h.2), at?_cons]
              cases (u.lookup key).bind (at? path) <;> rfl
      | null | bool | num | str | arr =>
          exact absurd (cutsOff_of_kind_ne (by simp [kind]) key path) hcut

/-- Below something that is no object nothing is left. -/
theorem at?_mergeOver_of_cutsOff {upper : Json} (hs : upper.Sorted) (base : Json)
    {path : List String} (hcut : upper.CutsOff path) :
    (mergeOver upper base).at? path = none := by
  induction path generalizing upper base with
  | nil => exact absurd hcut (not_cutsOff_nil upper)
  | cons key path ih =>
      by_cases hboth : upper.kind = .obj ∧ base.kind = .obj
      · cases upper with
        | obj u =>
            cases base with
            | obj b =>
                obtain ⟨v, hv, hcut⟩ := cutsOff_cons.mp hcut
                rw [mergeOver, at?_cons, lookup_mergeFields hs, hv]
                cases b.lookup key with
                | none => exact at?_eq_none_of_cutsOff hcut
                | some old => exact ih (sorted_of_lookup hs hv) old hcut
            | null | bool | num | str | arr => cases hboth.2
        | null | bool | num | str | arr => cases hboth.1
      · rw [mergeOver_of_kind_ne hboth, at?_eq_none_of_cutsOff hcut]

end Json

namespace Rules

/-! ## One layer over another -/

/-- The layer has a value at the path, or something on the way that is no
object. -/
def Touches (layer : Rules) (path : List String) : Prop :=
  layer.toJson.CutsOff path ∨ (layer.at? path).isSome

/-- What a layer leaves at a path where there was `old` below it. -/
inductive Leaves (upper : Rules) (path : List String) (old : Option Json) : Option Json → Prop
  /-- Something on the way is no object: nothing. -/
  | cut : upper.toJson.CutsOff path → Leaves upper path old none
  /-- A value, not both it and the one below an object: that value. -/
  | set {v : Json} : ¬ upper.toJson.CutsOff path → upper.at? path = some v →
      ¬ (v.kind = .obj ∧ ∃ w, old = some w ∧ w.kind = .obj) → Leaves upper path old (some v)
  /-- An object where there is one below: the one laid over the other. -/
  | merged {inner below : Rules} : ¬ upper.toJson.CutsOff path →
      upper.at? path = some inner.toJson → old = some below.toJson →
      Leaves upper path old (some (below.overlay inner).toJson)
  /-- Nothing: what was there. -/
  | kept : ¬ upper.toJson.CutsOff path → upper.at? path = none → Leaves upper path old old

theorem sorted_toJson (rules : Rules) : rules.toJson.Sorted := rules.sorted

theorem exists_toJson_eq {v : Json} (hs : v.Sorted) (h : v.kind = .obj) :
    ∃ rules : Rules, rules.toJson = v := by
  cases v with
  | obj fields => exact ⟨⟨fields, hs⟩, rfl⟩
  | null | bool | num | str | arr => cases h

theorem kind_toJson (rules : Rules) : rules.toJson.kind = .obj := rfl

theorem toJson_overlay (base upper : Rules) :
    (base.overlay upper).toJson = Json.mergeOver upper.toJson base.toJson := by
  rw [toJson, overlay, toJson, toJson, Json.mergeOver]

theorem leaves_overlay (base upper : Rules) (path : List String) :
    upper.Leaves path (base.at? path) ((base.overlay upper).at? path) := by
  rw [at?, at?, toJson_overlay]
  by_cases hcut : upper.toJson.CutsOff path
  · rw [Json.at?_mergeOver_of_cutsOff upper.sorted_toJson _ hcut]
    exact .cut hcut
  · rw [Json.at?_mergeOver upper.sorted_toJson _ hcut]
    cases hv : upper.toJson.at? path with
    | none => exact .kept hcut hv
    | some v =>
        cases hold : base.toJson.at? path with
        | none => exact .set hcut hv (by simp)
        | some old =>
            by_cases hboth : v.kind = .obj ∧ old.kind = .obj
            · obtain ⟨inner, rfl⟩ :=
                exists_toJson_eq (Json.sorted_at? upper.sorted_toJson hv) hboth.1
              obtain ⟨below, rfl⟩ :=
                exists_toJson_eq (Json.sorted_at? base.sorted_toJson hold) hboth.2
              dsimp only
              rw [← toJson_overlay]
              exact .merged hcut hv rfl
            · dsimp only
              rw [Json.mergeOver_of_kind_ne hboth]
              exact .set hcut hv (by simpa using hboth)

/-- The four cases leave one outcome. -/
theorem Leaves.unique {upper : Rules} {path : List String} {old new new' : Option Json}
    (h : upper.Leaves path old new) (h' : upper.Leaves path old new') : new = new' := by
  cases h with
  | cut hcut =>
      cases h' with
      | cut => rfl
      | set hcut' | merged hcut' | kept hcut' => exact absurd hcut hcut'
  | set hcut hv hflat =>
      cases h' with
      | cut hcut' => exact absurd hcut' hcut
      | set _ hv' => exact hv.symm.trans hv'
      | @merged inner below _ hv' hold =>
          obtain rfl := Option.some.inj (hv.symm.trans hv')
          exact absurd ⟨inner.kind_toJson, below.toJson, hold, below.kind_toJson⟩ hflat
      | kept _ hnone => simp [hv] at hnone
  | @merged inner below hcut hv hold =>
      cases h' with
      | cut hcut' => exact absurd hcut' hcut
      | set _ hv' hflat =>
          obtain rfl := Option.some.inj (hv.symm.trans hv')
          exact absurd ⟨inner.kind_toJson, below.toJson, hold, below.kind_toJson⟩ hflat
      | merged _ hv' hold' =>
          rw [toJson_overlay, toJson_overlay, Option.some.inj (hv.symm.trans hv'),
            Option.some.inj (hold.symm.trans hold')]
      | kept _ hnone => simp [hv] at hnone
  | kept hcut hnone =>
      cases h' with
      | cut hcut' => exact absurd hcut' hcut
      | set _ hv | merged _ hv => simp [hv] at hnone
      | kept => rfl

/-! ## Several layers -/

theorem at?_overlay_of_not_touches {upper : Rules} {path : List String}
    (h : ¬ upper.Touches path) (base : Rules) :
    (base.overlay upper).at? path = base.at? path := by
  obtain ⟨hcut, hnone⟩ := not_or.mp h
  exact (leaves_overlay base upper path).unique
    (.kept hcut (Option.not_isSome_iff_eq_none.mp hnone))

theorem at?_foldl_overlay_of_not_touches {layers : List Rules} {path : List String}
    (h : ∀ layer ∈ layers, ¬ layer.Touches path) (base : Rules) :
    (layers.foldl overlay base).at? path = base.at? path := by
  induction layers generalizing base with
  | nil => rfl
  | cons upper layers ih =>
      obtain ⟨hupper, hlayers⟩ := List.forall_mem_cons.mp h
      rw [List.foldl_cons, ih hlayers, at?_overlay_of_not_touches hupper]

/-- A layer that touches a path, and none after it does. -/
theorem exists_last_touching {layers : List Rules} {path : List String}
    (h : ¬ ∀ layer ∈ layers, ¬ layer.Touches path) :
    ∃ earlier upper later, layers = earlier ++ upper :: later ∧ upper.Touches path
      ∧ ∀ layer ∈ later, ¬ layer.Touches path := by
  induction layers with
  | nil => simp at h
  | cons upper layers ih =>
      by_cases hlayers : ∀ layer ∈ layers, ¬ layer.Touches path
      · have hupper : upper.Touches path := by
          refine Classical.byContradiction fun hupper => h ?_
          exact List.forall_mem_cons.mpr ⟨hupper, hlayers⟩
        exact ⟨[], upper, layers, rfl, hupper, hlayers⟩
      · obtain ⟨earlier, last, later, rfl, hlast, hlater⟩ := ih hlayers
        exact ⟨upper :: earlier, last, later, rfl, hlast, hlater⟩

end Rules

open Rules in
/-- **The settings along a key path.** A layer leaves at a path what it has
there, laid over an object below if both are objects, and what was there if it
says nothing of the path; behind something that is no object it leaves nothing.
Of several layers the last that touches the path decides, and if none does,
the base has the say. -/
theorem overlay_along_path (base : Rules) (path : List String) :
    (∀ (upper : Rules) (new : Option Json),
        upper.Leaves path (base.at? path) new ↔ (base.overlay upper).at? path = new)
      ∧ ∀ layers : List Rules,
          ((∀ layer ∈ layers, ¬ layer.Touches path)
              ∧ (layers.foldl overlay base).at? path = base.at? path)
            ∨ ∃ earlier upper later, layers = earlier ++ upper :: later ∧ upper.Touches path
                ∧ (∀ layer ∈ later, ¬ layer.Touches path)
                ∧ upper.Leaves path ((earlier.foldl overlay base).at? path)
                    ((layers.foldl overlay base).at? path) := by
  refine ⟨fun upper new => ⟨(leaves_overlay base upper path).unique, ?_⟩, fun layers => ?_⟩
  · rintro rfl
    exact leaves_overlay base upper path
  by_cases hnone : ∀ layer ∈ layers, ¬ layer.Touches path
  · exact .inl ⟨hnone, at?_foldl_overlay_of_not_touches hnone base⟩
  · obtain ⟨earlier, upper, later, rfl, hupper, hlater⟩ := exists_last_touching hnone
    refine .inr ⟨earlier, upper, later, rfl, hupper, hlater, ?_⟩
    rw [List.foldl_append, List.foldl_cons, at?_foldl_overlay_of_not_touches hlater]
    exact leaves_overlay (earlier.foldl overlay base) upper path

/-- What a layer has cut off does not come back with the next object. -/
example :
    let user := Rules.ofFields [("MD013", .obj [("line_length", .ofNat 100)])]
    let project := Rules.ofFields [("MD013", .bool false)]
    let editor := Rules.ofFields [("MD013", .obj [("tables", .bool true)])]
    ([user, project, editor].foldl Rules.overlay .builtin).at? ["MD013"] =
      some (.obj [("tables", .bool true)]) := by
  decide +kernel

end LintServer
