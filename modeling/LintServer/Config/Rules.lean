import LintServer.Json.Basic

/-!
# Rule settings

Rule settings map rule names to JSON values. They come in layers: `Rules.overlay` lays one layer
over another, key by key where both hold objects and by replacement everywhere else. The fields
are kept in key order, which `Rules.overlay` preserves (`Json.sortedFields_mergeFields`), so equal
settings are equal values.
-/

namespace LintServer

/-! ## Laying one value over another -/

namespace Json

mutual

/-- A value laid over `base`: two objects are merged, anything else replaces what was there. -/
def mergeOver : (upper : Json) → (base : Json) → Json
  | .obj upper, .obj base => .obj (mergeFields upper base)
  | .obj upper, _ => .obj upper
  | .null, _ => .null
  | .bool b, _ => .bool b
  | .num n, _ => .num n
  | .str s, _ => .str s
  | .arr items, _ => .arr items

/-- Each field in turn laid over the field of `base` with its key, or added. -/
def mergeFields : (upper : List (String × Json)) → (base : Fields) → Fields
  | [], base => base
  | (key, value) :: rest, base =>
    match base.lookup key with
    | some old => mergeFields rest (Fields.insert key (mergeOver value old) base)
    | none => mergeFields rest (Fields.insert key value base)

end

theorem sorted_of_lookup {fields : Fields} {key : String} {value : Json}
    (hs : SortedFields fields) (h : fields.lookup key = some value) : value.Sorted := by
  induction fields with
  | nil => simp at h
  | cons field rest ih =>
      obtain ⟨k, v⟩ := field
      obtain ⟨-, hv, hrest⟩ := hs
      rw [List.lookup_cons] at h
      split at h
      · cases h
        exact hv
      · exact ih hrest h

mutual

theorem sorted_mergeOver {upper base : Json} (ho : upper.Sorted) (hb : base.Sorted) :
    (mergeOver upper base).Sorted :=
  match upper, base, ho, hb with
  | .obj upper, .obj base, ho, hb => by
      rw [mergeOver]
      exact @sortedFields_mergeFields upper _ ho hb
  | .obj _, .null, ho, _ | .obj _, .bool _, ho, _ | .obj _, .num _, ho, _
  | .obj _, .str _, ho, _ | .obj _, .arr _, ho, _ => by
      rw [mergeOver]
      · exact ho
      all_goals simp
  | .null, _, _, _ | .bool _, _, _, _ | .num _, _, _, _ | .str _, _, _, _ => by
      rw [mergeOver]
      trivial
  | .arr _, _, ho, _ => by
      rw [mergeOver]
      exact ho

theorem sortedFields_mergeFields {upper : List (String × Json)} {base : Fields}
    (ho : SortedFields upper) (hb : SortedFields base) : SortedFields (mergeFields upper base) :=
  match upper, ho with
  | [], _ => by
      rw [mergeFields]
      exact hb
  | (key, value) :: rest, ho => by
      rw [mergeFields]
      obtain ⟨-, hv, hrest⟩ := ho
      split
      · next old hold =>
          exact @sortedFields_mergeFields rest _ hrest
            (sortedFields_insert (sorted_mergeOver hv (sorted_of_lookup hb hold)) hb)
      · exact @sortedFields_mergeFields rest _ hrest (sortedFields_insert hv hb)

end

/-! ## Values at a key path -/

/-- The value that a path of keys leads to through nested objects. -/
def at? : List String → Json → Option Json
  | [], v => some v
  | key :: path, .obj fields => (fields.lookup key).bind (at? path)
  | _ :: _, _ => none

end Json

/-! ## Settings -/

/-- Rule settings by rule name. -/
structure Rules where
  fields : Fields
  sorted : Json.SortedFields fields
  deriving DecidableEq

namespace Rules

/-- Settings from fields in any order; of fields with one key, the last counts. -/
def ofFields (fields : Fields) : Rules where
  fields := Json.normalFields fields
  sorted := Json.sortedFields_normalFields fields

def empty : Rules := ofFields []

def toJson (rules : Rules) : Json := .obj rules.fields

def get? (rules : Rules) (rule : String) : Option Json := rules.fields.lookup rule

/-- The value at a path of keys. -/
def at? (rules : Rules) (path : List String) : Option Json := rules.toJson.at? path

/-- The settings of `base` with the layer `upper` laid over them. -/
def overlay (base upper : Rules) : Rules where
  fields := Json.mergeFields upper.fields base.fields
  sorted := Json.sortedFields_mergeFields upper.sorted base.sorted

/-- The settings below all layers: every rule is on but the one about line length, which is noise
while prose is being edited. -/
def builtin : Rules := ofFields [("default", .bool true), ("MD013", .bool false)]

end Rules

end LintServer
