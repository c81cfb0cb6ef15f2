import LintServer.Proofs.Config.KeyPaths

/-!
# Laws of layers

Settings are determined by what they show along every key path: the value
there, or that there is an object (`Json.eq_of_shown`). What a layer shows is
simple to say: behind something that is no object nothing, else what the
layer itself shows, else what was shown below it (`Rules.shown_overlay`). So
an equation between layers is checked one path at a time, and the nesting of
the settings has no part in it.

A layer laid on twice is as good as once, and layers that set different rules
may change places. Three layers may be joined in either order unless the
middle one has cut something off that the upper one makes room for again:
joined with the upper one first, the middle one loses what it has cut off
with, and what the lower one has below it shows through
(`Rules.overlay_assoc_iff`).
-/

namespace LintServer

namespace Json

/-! ## Values and what they show -/

theorem le_of_lookup_cons {key k : String} {v w : Json} {fields : Fields}
    (hs : SortedFields ((k, v) :: fields)) (h : List.lookup key ((k, v) :: fields) = some w) :
    k ≤ key := by
  refine String.not_lt.mp fun hlt => ?_
  obtain ⟨hk, -, -⟩ := hs
  have hnone : List.lookup key ((k, v) :: fields) = none := by
    refine lookup_eq_none_of_lt fun field hm => ?_
    rcases List.mem_cons.mp hm with rfl | hm
    · exact hlt
    · exact String.lt_trans hlt (hk field hm)
  rw [hnone] at h
  cases h

/-- Fields in key order are determined by look-up. -/
theorem eq_of_lookup_eq {f g : Fields} (hf : SortedFields f) (hg : SortedFields g)
    (h : ∀ key, f.lookup key = g.lookup key) : f = g := by
  induction f generalizing g with
  | nil =>
      cases g with
      | nil => rfl
      | cons field g =>
          have hfield := h field.1
          rw [List.lookup_cons_self] at hfield
          cases hfield
  | cons field f ih =>
      obtain ⟨k, v⟩ := field
      have hv := h k
      rw [List.lookup_cons_self] at hv
      cases g with
      | nil => cases hv
      | cons field g =>
          obtain ⟨l, w⟩ := field
          have hw := h l
          rw [List.lookup_cons_self] at hw
          obtain rfl : k = l :=
            String.le_antisymm (le_of_lookup_cons hf hw) (le_of_lookup_cons hg hv.symm)
          obtain rfl : v = w := by simpa using hv
          obtain ⟨hk, -, hf⟩ := hf
          obtain ⟨hl, -, hg⟩ := hg
          rw [ih hf hg fun key => ?_]
          by_cases hkey : key = k
          · rw [hkey, lookup_eq_none_of_lt hk, lookup_eq_none_of_lt hl]
          · have hrest := h key
            rwa [List.lookup_cons, List.lookup_cons, beq_false_of_ne hkey] at hrest

/-- A value, or that it is an object. -/
def outline : Json → Json
  | .obj _ => .obj []
  | v => v

theorem outline_of_kind_ne {v : Json} (h : v.kind ≠ .obj) : v.outline = v := by
  cases v with
  | obj fields => exact absurd rfl h
  | null | bool | num | str | arr => rfl

@[simp] theorem kind_outline (v : Json) : v.outline.kind = v.kind := by
  cases v <;> rfl

theorem outline_mergeOver (upper base : Json) :
    (mergeOver upper base).outline = upper.outline := by
  cases upper with
  | obj u => cases base <;> simp [mergeOver, outline]
  | null | bool | num | str | arr => simp [mergeOver]

/-- What a value shows at a path of keys. -/
def shown (v : Json) (path : List String) : Option Json := (v.at? path).map outline

theorem shown_cons (fields : Fields) (key : String) (path : List String) :
    (Json.obj fields).shown (key :: path) =
      (fields.lookup key).bind fun v => v.shown path := by
  rw [shown, at?_cons, Option.map_bind]
  rfl

theorem sizeOf_lt_of_lookup {fields : Fields} {key : String} {v : Json}
    (h : fields.lookup key = some v) : sizeOf v < sizeOf fields := by
  induction fields with
  | nil => cases h
  | cons field rest ih =>
      obtain ⟨k, w⟩ := field
      simp only [List.cons.sizeOf_spec, Prod.mk.sizeOf_spec]
      rw [List.lookup_cons] at h
      split at h
      · cases h
        omega
      · have hlt := ih h
        omega

/-- Induction along the keys of nested objects. -/
theorem lookup_induction {motive : Json → Prop} (flat : ∀ v, v.kind ≠ .obj → motive v)
    (obj : ∀ fields, (∀ key v, fields.lookup key = some v → motive v) → motive (.obj fields)) :
    ∀ v, motive v
  | .obj fields => obj fields fun _ v h =>
      have := sizeOf_lt_of_lookup h
      lookup_induction flat obj v
  | .null => flat _ Kind.noConfusion
  | .bool _ => flat _ Kind.noConfusion
  | .num _ => flat _ Kind.noConfusion
  | .str _ => flat _ Kind.noConfusion
  | .arr _ => flat _ Kind.noConfusion

theorem kind_eq_of_shown {v w : Json} (h : v.shown [] = w.shown []) : v.kind = w.kind := by
  have houtline : v.outline = w.outline := Option.some.inj h
  rw [← kind_outline, houtline, kind_outline]

/-- **Values that show the same along every path are the same.** -/
theorem eq_of_shown {v w : Json} (hv : v.Sorted) (hw : w.Sorted)
    (h : ∀ path, v.shown path = w.shown path) : v = w := by
  have hkind := kind_eq_of_shown (h [])
  induction v using lookup_induction generalizing w with
  | flat v hflat =>
      have houtline : v.outline = w.outline := Option.some.inj (h [])
      rw [← outline_of_kind_ne hflat, houtline, outline_of_kind_ne (hkind ▸ hflat)]
  | obj f ih =>
      cases w with
      | obj g =>
          refine congrArg Json.obj (eq_of_lookup_eq hv hw fun key => ?_)
          have hkey : ∀ path, (f.lookup key).bind (shown · path) =
              (g.lookup key).bind (shown · path) := fun path => by
            rw [← shown_cons, ← shown_cons, h]
          cases hf : f.lookup key with
          | none =>
              cases hg : g.lookup key with
              | none => rfl
              | some w => simpa [hf, hg, shown, at?] using hkey []
          | some v =>
              cases hg : g.lookup key with
              | none => simpa [hf, hg, shown, at?] using hkey []
              | some w =>
                  rw [hf, hg] at hkey
                  have hvw := ih key v hf (sorted_of_lookup hv hf) (sorted_of_lookup hw hg) hkey
                  rw [hvw (kind_eq_of_shown (hkey []))]
      | null | bool | num | str | arr => cases hkind

theorem at?_append (v : Json) (front back : List String) :
    v.at? (front ++ back) = (v.at? front).bind (at? back) := by
  induction front generalizing v with
  | nil => rfl
  | cons key front ih =>
      cases v with
      | obj fields =>
          rw [List.cons_append, at?_cons, at?_cons, Option.bind_assoc]
          exact Option.bind_congr fun v _ => ih v
      | null | bool | num | str | arr => rfl

/-- What has something further down is an object. -/
theorem exists_of_isSome_at?_append {v : Json} {front back : List String} (hback : back ≠ [])
    (h : (v.at? (front ++ back)).isSome) : ∃ w, v.at? front = some w ∧ w.kind = .obj := by
  rw [at?_append] at h
  cases hw : v.at? front with
  | none => simp [hw] at h
  | some w =>
      refine ⟨w, rfl, Classical.byContradiction fun hkind => ?_⟩
      obtain ⟨key, back, rfl⟩ := List.exists_cons_of_ne_nil hback
      simp [hw, at?_cons_of_kind_ne hkind] at h

end Json

namespace Rules

/-! ## Layers and what they show -/

theorem ext_of_shown {a b : Rules} (h : ∀ path, a.toJson.shown path = b.toJson.shown path) :
    a = b := by
  have hjson := Json.eq_of_shown a.sorted_toJson b.sorted_toJson h
  cases a
  cases b
  cases hjson
  rfl

def HasObject (layer : Rules) (path : List String) : Prop :=
  ∃ v, layer.at? path = some v ∧ v.kind = .obj

/-- The layer has a value at the path that is no object. -/
def HasFlat (layer : Rules) (path : List String) : Prop :=
  ∃ v, layer.at? path = some v ∧ v.kind ≠ .obj

variable {a b c base upper : Rules} {front back path : List String}

theorem HasFlat.cutsOff (h : upper.HasFlat front) (hback : back ≠ []) :
    upper.toJson.CutsOff (front ++ back) := by
  obtain ⟨v, hv, hkind⟩ := h
  exact ⟨front, back, v, rfl, hback, hv, hkind⟩

theorem HasFlat.not_cutsOff (h : upper.HasFlat path) : ¬ upper.toJson.CutsOff path := by
  intro hcut
  obtain ⟨v, hv, -⟩ := h
  rw [at?, Json.at?_eq_none_of_cutsOff hcut] at hv
  cases hv

/-- Behind a value that is no object there is nothing. -/
theorem HasFlat.eq_nil_of_append (h : upper.HasFlat front) (h' : upper.HasFlat (front ++ back)) :
    back = [] := by
  obtain ⟨v, hv, hkind⟩ := h
  obtain ⟨w, hw, -⟩ := h'
  refine Classical.byContradiction fun hback => ?_
  obtain ⟨v', hv', hkind'⟩ := Json.exists_of_isSome_at?_append hback (Option.isSome_of_eq_some hw)
  obtain rfl := Option.some.inj (hv.symm.trans hv')
  exact hkind hkind'

theorem HasFlat.unique {front' back' : List String} (h : upper.HasFlat front)
    (h' : upper.HasFlat front') (heq : front ++ back = front' ++ back') : front = front' := by
  rcases List.append_eq_append_iff.mp heq with ⟨rest, rfl, -⟩ | ⟨rest, rfl, -⟩
  · rw [h.eq_nil_of_append h', List.append_nil]
  · rw [h'.eq_nil_of_append h, List.append_nil]

/-- A layer that touches a path and lets it go on has an object there. -/
theorem Touches.hasObject (h : upper.Touches front) (hback : back ≠ [])
    (hcut : ¬ upper.toJson.CutsOff (front ++ back)) : upper.HasObject front := by
  rcases h with ⟨first, rest, v, rfl, hrest, hv, hkind⟩ | hsome
  · refine absurd ?_ hcut
    rw [List.append_assoc]
    exact HasFlat.cutsOff ⟨v, hv, hkind⟩ (List.append_ne_nil_of_left_ne_nil hrest back)
  · obtain ⟨v, hv⟩ := Option.isSome_iff_exists.mp hsome
    refine ⟨v, hv, Classical.byContradiction fun hkind => hcut ?_⟩
    exact HasFlat.cutsOff ⟨v, hv, hkind⟩ hback

/-! ### One layer over another -/

theorem shown_overlay_of_cutsOff (hcut : upper.toJson.CutsOff path) :
    (base.overlay upper).toJson.shown path = none := by
  rw [toJson_overlay, Json.shown, Json.at?_mergeOver_of_cutsOff upper.sorted_toJson _ hcut]
  rfl

/-- Unless the upper layer cuts the path off, it shows what it has there, and
else what was there. -/
theorem shown_overlay (hcut : ¬ upper.toJson.CutsOff path) :
    (base.overlay upper).toJson.shown path =
      (upper.toJson.shown path).or (base.toJson.shown path) := by
  rw [toJson_overlay, Json.shown, Json.at?_mergeOver upper.sorted_toJson _ hcut, Json.shown,
    Json.shown]
  cases upper.toJson.at? path with
  | none => cases base.toJson.at? path <;> rfl
  | some v =>
      cases base.toJson.at? path with
      | none => rfl
      | some old => exact congrArg some (Json.outline_mergeOver v old)

/-- A path is cut off by the upper layer, or by the lower one at a place of
which the upper one says nothing. -/
theorem cutsOff_overlay : (base.overlay upper).toJson.CutsOff path ↔
    upper.toJson.CutsOff path ∨ ∃ front back, path = front ++ back ∧ back ≠ []
      ∧ base.HasFlat front ∧ ¬ upper.Touches front := by
  constructor
  · rintro ⟨front, back, w, rfl, hback, hw, hkind⟩
    have hleaves : upper.Leaves front (base.at? front) (some w) :=
      hw ▸ leaves_overlay base upper front
    generalize hold : base.at? front = old at hleaves
    cases hleaves with
    | set _ hv => exact .inl (HasFlat.cutsOff ⟨w, hv, hkind⟩ hback)
    | @merged inner below => exact absurd (below.overlay inner).kind_toJson hkind
    | kept hcut hnone =>
        have hnot : ¬ upper.Touches front :=
          not_or.mpr ⟨hcut, Option.not_isSome_iff_eq_none.mpr hnone⟩
        exact .inr ⟨front, back, rfl, hback, ⟨w, hold, hkind⟩, hnot⟩
  · rintro (⟨front, back, w, rfl, hback, hw, hkind⟩ | ⟨front, back, rfl, hback, hflat, hnot⟩)
    · have hflat : upper.HasFlat front := ⟨w, hw, hkind⟩
      refine HasFlat.cutsOff ⟨w, ?_, hkind⟩ hback
      exact (leaves_overlay base upper front).unique
        (.set hflat.not_cutsOff hw fun h => hkind h.1)
    · obtain ⟨w, hw, hkind⟩ := hflat
      exact HasFlat.cutsOff ⟨w, (at?_overlay_of_not_touches hnot base).trans hw, hkind⟩ hback

theorem shown_eq_none_iff : upper.toJson.shown path = none ↔ upper.at? path = none :=
  Option.map_eq_none_iff

theorem shown_eq_none_of_cutsOff (h : upper.toJson.CutsOff path) :
    upper.toJson.shown path = none :=
  shown_eq_none_iff.mpr (Json.at?_eq_none_of_cutsOff h)

theorem shown_eq_none_of_not_touches (h : ¬ upper.Touches path) :
    upper.toJson.shown path = none :=
  shown_eq_none_iff.mpr (Option.not_isSome_iff_eq_none.mp (not_or.mp h).2)

theorem shown_overlay_of_not_touches (h : ¬ upper.Touches path) (base : Rules) :
    (base.overlay upper).toJson.shown path = base.toJson.shown path := by
  rw [shown_overlay (not_or.mp h).1, shown_eq_none_of_not_touches h, Option.none_or]

theorem shown_overlay_congr {base' : Rules}
    (h : base.toJson.shown path = base'.toJson.shown path) :
    (base.overlay upper).toJson.shown path = (base'.overlay upper).toJson.shown path := by
  by_cases hcut : upper.toJson.CutsOff path
  · rw [shown_overlay_of_cutsOff hcut, shown_overlay_of_cutsOff hcut]
  · rw [shown_overlay hcut, shown_overlay hcut, h]

theorem not_touches_of_get?_eq_none {key : String} (h : upper.get? key = none)
    (path : List String) : ¬ upper.Touches (key :: path) := by
  have hlookup : upper.fields.lookup key = none := h
  refine not_or.mpr ⟨fun hcut => ?_, ?_⟩
  · obtain ⟨v, hv, -⟩ := Json.cutsOff_cons.mp hcut
    rw [hlookup] at hv
    cases hv
  · rw [at?, toJson, Json.at?_cons, hlookup]
    exact Bool.false_ne_true

/-! ## The laws -/

theorem overlay_overlay_self (a b : Rules) : (a.overlay b).overlay b = a.overlay b := by
  refine ext_of_shown fun path => ?_
  by_cases hcut : b.toJson.CutsOff path
  · rw [shown_overlay_of_cutsOff hcut, shown_overlay_of_cutsOff hcut]
  · rw [shown_overlay hcut, shown_overlay hcut, ← Option.or_assoc, Option.or_self]

theorem overlay_right_comm (a : Rules) (h : ∀ key, b.get? key = none ∨ c.get? key = none) :
    (a.overlay b).overlay c = (a.overlay c).overlay b := by
  refine ext_of_shown fun path => ?_
  cases path with
  | nil => rfl
  | cons key path =>
      rcases h key with hkey | hkey
      · have hb := not_touches_of_get?_eq_none hkey path
        rw [shown_overlay_of_not_touches hb (a.overlay c)]
        exact shown_overlay_congr (shown_overlay_of_not_touches hb a)
      · have hc := not_touches_of_get?_eq_none hkey path
        rw [shown_overlay_of_not_touches hc]
        exact shown_overlay_congr (shown_overlay_of_not_touches hc a).symm

/-! ### Three layers -/

/-- What the upper layer makes room for is not cut off by the two joined. -/
theorem HasFlat.not_cutsOff_overlay (hb : b.HasFlat front) (hc : c.HasObject front)
    (hccut : ¬ c.toJson.CutsOff (front ++ back)) :
    ¬ (b.overlay c).toJson.CutsOff (front ++ back) := by
  intro hjoined
  obtain ⟨front', back', heq, -, hb', hnot⟩ := (cutsOff_overlay.mp hjoined).resolve_left hccut
  obtain rfl := hb.unique hb' heq
  obtain ⟨v, hv, -⟩ := hc
  exact hnot (.inr (Option.isSome_of_eq_some hv))

/-- If the two joined cut a path off and the upper layer does not, the lower
one does where the upper one has nothing. -/
theorem cutsOff_of_cutsOff_overlay (hjoined : (b.overlay c).toJson.CutsOff path)
    (hccut : ¬ c.toJson.CutsOff path) : b.toJson.CutsOff path ∧ c.at? path = none := by
  obtain ⟨front, back, rfl, hback, hb, hnot⟩ := (cutsOff_overlay.mp hjoined).resolve_left hccut
  refine ⟨hb.cutsOff hback, Option.not_isSome_iff_eq_none.mp fun hsome => hnot (.inr ?_)⟩
  obtain ⟨v, hv, -⟩ := Json.exists_of_isSome_at?_append hback hsome
  exact Option.isSome_of_eq_some hv

/-- If the lower layer cuts a path off and the two joined do not, the upper
one has made room. -/
theorem exists_room_of_not_cutsOff_overlay (hbcut : b.toJson.CutsOff path)
    (hjoined : ¬ (b.overlay c).toJson.CutsOff path) :
    ∃ front back, path = front ++ back ∧ back ≠ [] ∧ b.HasFlat front ∧ c.HasObject front := by
  obtain ⟨front, back, v, rfl, hback, hv, hkind⟩ := hbcut
  have hb : b.HasFlat front := ⟨v, hv, hkind⟩
  have htouches : c.Touches front := Classical.byContradiction fun hnot =>
    hjoined (cutsOff_overlay.mpr (.inr ⟨front, back, rfl, hback, hb, hnot⟩))
  have hccut : ¬ c.toJson.CutsOff (front ++ back) := fun hccut =>
    hjoined (cutsOff_overlay.mpr (.inl hccut))
  exact ⟨front, back, rfl, hback, hb, htouches.hasObject hback hccut⟩

/-- **When three layers may be joined in either order.** Joined with the
upper layer, which has an object there, the middle one does not cut off what
the lower one has. -/
theorem overlay_assoc_iff (a b c : Rules) :
    (a.overlay b).overlay c = a.overlay (b.overlay c) ↔
      ∀ front back, back ≠ [] → b.HasFlat front → c.HasObject front →
        (a.at? (front ++ back)).isSome → c.Touches (front ++ back) := by
  constructor
  · intro heq front back hback hb hroom ha
    refine Classical.byContradiction fun hc => ?_
    have hbcut := hb.cutsOff hback
    have hjoined := hb.not_cutsOff_overlay hroom (not_or.mp hc).1
    have hshown : a.toJson.shown (front ++ back) = none := by
      calc a.toJson.shown (front ++ back)
          = (a.overlay (b.overlay c)).toJson.shown (front ++ back) := by
            rw [shown_overlay hjoined, shown_overlay_of_not_touches hc,
              shown_eq_none_of_cutsOff hbcut, Option.none_or]
        _ = ((a.overlay b).overlay c).toJson.shown (front ++ back) := by rw [heq]
        _ = none := by
            rw [shown_overlay_of_not_touches hc, shown_overlay_of_cutsOff hbcut]
    rw [shown_eq_none_iff.mp hshown] at ha
    cases ha
  · intro h
    refine ext_of_shown fun path => ?_
    by_cases hccut : c.toJson.CutsOff path
    · rw [shown_overlay_of_cutsOff hccut,
        shown_overlay_of_cutsOff (cutsOff_overlay.mpr (.inl hccut))]
    rw [shown_overlay hccut]
    by_cases hjoined : (b.overlay c).toJson.CutsOff path
    · obtain ⟨hbcut, hnone⟩ := cutsOff_of_cutsOff_overlay hjoined hccut
      rw [shown_overlay_of_cutsOff hjoined, shown_eq_none_iff.mpr hnone,
        shown_overlay_of_cutsOff hbcut, Option.none_or]
    rw [shown_overlay hjoined, shown_overlay hccut, Option.or_assoc]
    by_cases hbcut : b.toJson.CutsOff path
    · obtain ⟨front, back, rfl, hback, hb, hroom⟩ :=
        exists_room_of_not_cutsOff_overlay hbcut hjoined
      rw [shown_overlay_of_cutsOff hbcut, shown_eq_none_of_cutsOff hbcut, Option.none_or]
      cases hc : c.toJson.shown (front ++ back) with
      | some v => rfl
      | none =>
          symm
          refine shown_eq_none_iff.mpr (Option.not_isSome_iff_eq_none.mp fun ha => ?_)
          rcases h front back hback hb hroom ha with hcut | hsome
          · exact hccut hcut
          · rw [shown_eq_none_iff.mp hc] at hsome
            cases hsome
    · rw [shown_overlay hbcut]

end Rules

/-- **The algebra of layers.** A layer laid on twice is as good as once.
Layers without a rule in common may change places. Three layers may be joined
in either order if nowhere the middle one has a value that is no object
between two objects. -/
theorem overlay_laws (a b c : Rules) :
    (a.overlay b).overlay b = a.overlay b
      ∧ ((∀ key, b.get? key = none ∨ c.get? key = none) →
          (a.overlay b).overlay c = (a.overlay c).overlay b)
      ∧ ((¬ ∃ path, a.HasObject path ∧ b.HasFlat path ∧ c.HasObject path) →
          (a.overlay b).overlay c = a.overlay (b.overlay c)) := by
  refine ⟨Rules.overlay_overlay_self a b, Rules.overlay_right_comm a, fun hside => ?_⟩
  refine (Rules.overlay_assoc_iff a b c).mpr fun front back hback hb hc ha => ?_
  exact absurd ⟨front, Json.exists_of_isSome_at?_append hback ha, hb, hc⟩ hside

def Rules.option (rule name : String) (value : Json) : Rules :=
  ofFields [(rule, .obj [(name, value)])]

theorem Json.at?_cons_of_ne {key k : String} (h : key ≠ k) (v : Json) (path : List String) :
    (Json.obj [(k, v)]).at? (key :: path) = none := by
  rw [at?_cons, List.lookup_cons, beq_false_of_ne h]
  rfl

theorem overlay_laws_of_options :
    let wide := Rules.option "MD013" "line_length" (.ofNat 120)
    let noTables := Rules.option "MD013" "tables" (.bool false)
    let narrow := Rules.option "MD013" "line_length" (.ofNat 80)
    let lists := Rules.option "MD007" "indent" (.ofNat 4)
    (∀ key, noTables.get? key = none ∨ lists.get? key = none)
      ∧ (wide.overlay noTables).overlay lists = (wide.overlay lists).overlay noTables
      ∧ (¬ ∃ path, wide.HasObject path ∧ noTables.HasFlat path ∧ narrow.HasObject path)
      ∧ (wide.overlay noTables).overlay narrow = wide.overlay (noTables.overlay narrow) := by
  intro wide noTables narrow lists
  have hkeys : ∀ key, noTables.get? key = none ∨ lists.get? key = none := by
    intro key
    by_cases hkey : key = "MD013"
    · subst hkey
      exact .inr (by decide)
    · refine .inl (List.lookup_eq_none_iff.mpr fun field hm => ?_)
      obtain rfl := List.mem_singleton.mp hm
      exact bne_iff_ne.mpr hkey
  have hside : ¬ ∃ path, wide.HasObject path ∧ noTables.HasFlat path ∧ narrow.HasObject path := by
    rintro ⟨path, -, ⟨v, hv, hflat⟩, ⟨w, hw, -⟩⟩
    rcases path with _ | ⟨key, path⟩
    · cases hv
      exact hflat rfl
    by_cases hkey : key = "MD013"
    · subst hkey
      rcases path with _ | ⟨name, path⟩
      · cases hv
        exact hflat rfl
      · by_cases hname : name = "tables"
        · subst hname
          cases hw
        · cases (Json.at?_cons_of_ne hname _ path).symm.trans hv
    · cases (Json.at?_cons_of_ne hkey _ path).symm.trans hv
  exact ⟨hkeys, (overlay_laws wide noTables lists).2.1 hkeys, hside,
    (overlay_laws wide noTables narrow).2.2 hside⟩

/-- A rule that is switched off in between makes the order count. -/
example :
    let user := Rules.option "MD013" "tables" (.bool true)
    let project := Rules.ofFields [("MD013", .bool false)]
    let editor := Rules.option "MD013" "line_length" (.ofNat 80)
    (user.overlay project).overlay editor ≠ user.overlay (project.overlay editor) := by
  decide +kernel

end LintServer
