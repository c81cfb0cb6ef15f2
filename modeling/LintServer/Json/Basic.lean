import LintServer.Decimal.Binary64

/-!
# JSON values

A JSON value is a tree whose objects are lists of fields. Readers keep the fields as they stand
in the text; `Json.normal` then puts them in key order and keeps the last of each key, so that two
values with the same content are equal. `Json.Sorted` says that a value has that form, and
`Fields.insert` keeps it.
-/

namespace LintServer

/-! ## Values -/

/-- A JSON number: an integer, or a number written with a fraction or an exponent, or too great
for a 64-bit integer. -/
inductive Number where
  | int (value : Int)
  | float (value : Binary64)
  deriving Repr, DecidableEq

inductive Json where
  | null
  | bool (value : Bool)
  | num (value : Number)
  | str (value : String)
  | arr (items : List Json)
  | obj (fields : List (String × Json))
  deriving Repr, Inhabited

/-- The fields of an object. -/
abbrev Fields := List (String × Json)

namespace Json

/-- The kinds of value a message can name. -/
inductive Kind where
  | null
  | bool
  | num
  | str
  | arr
  | obj
  deriving Repr, DecidableEq

def kind : Json → Kind
  | .null => .null
  | .bool _ => .bool
  | .num _ => .num
  | .str _ => .str
  | .arr _ => .arr
  | .obj _ => .obj

def ofNat (n : Nat) : Json := .num (.int n)

def ofInt (i : Int) : Json := .num (.int i)

/-- An optional field: present with a value, or left out. -/
def field? (key : String) (value : Option Json) : Fields :=
  match value with
  | some v => [(key, v)]
  | none => []

/-! ## Equality -/

mutual

def decEq : (a b : Json) → Decidable (a = b)
  | .null, .null => isTrue rfl
  | .bool a, .bool b =>
    if h : a = b then isTrue (by rw [h]) else isFalse (by intro e; cases e; exact h rfl)
  | .num a, .num b =>
    if h : a = b then isTrue (by rw [h]) else isFalse (by intro e; cases e; exact h rfl)
  | .str a, .str b =>
    if h : a = b then isTrue (by rw [h]) else isFalse (by intro e; cases e; exact h rfl)
  | .arr a, .arr b =>
    match decEqItems a b with
    | isTrue h => isTrue (by rw [h])
    | isFalse h => isFalse (by intro e; cases e; exact h rfl)
  | .obj a, .obj b =>
    match decEqFields a b with
    | isTrue h => isTrue (by rw [h])
    | isFalse h => isFalse (by intro e; cases e; exact h rfl)
  | .null, .bool _ | .null, .num _ | .null, .str _ | .null, .arr _ | .null, .obj _
  | .bool _, .null | .bool _, .num _ | .bool _, .str _ | .bool _, .arr _ | .bool _, .obj _
  | .num _, .null | .num _, .bool _ | .num _, .str _ | .num _, .arr _ | .num _, .obj _
  | .str _, .null | .str _, .bool _ | .str _, .num _ | .str _, .arr _ | .str _, .obj _
  | .arr _, .null | .arr _, .bool _ | .arr _, .num _ | .arr _, .str _ | .arr _, .obj _
  | .obj _, .null | .obj _, .bool _ | .obj _, .num _ | .obj _, .str _ | .obj _, .arr _ =>
    isFalse (by intro e; cases e)

def decEqItems : (a b : List Json) → Decidable (a = b)
  | [], [] => isTrue rfl
  | [], _ :: _ => isFalse (by intro e; cases e)
  | _ :: _, [] => isFalse (by intro e; cases e)
  | x :: xs, y :: ys =>
    match decEq x y, decEqItems xs ys with
    | isTrue h, isTrue t => isTrue (by rw [h, t])
    | isFalse h, _ => isFalse (by intro e; cases e; exact h rfl)
    | _, isFalse t => isFalse (by intro e; cases e; exact t rfl)

def decEqFields : (a b : List (String × Json)) → Decidable (a = b)
  | [], [] => isTrue rfl
  | [], _ :: _ => isFalse (by intro e; cases e)
  | _ :: _, [] => isFalse (by intro e; cases e)
  | (j, x) :: xs, (k, y) :: ys =>
    if hk : j = k then
      match decEq x y, decEqFields xs ys with
      | isTrue h, isTrue t => isTrue (by rw [hk, h, t])
      | isFalse h, _ => isFalse (by intro e; cases e; exact h rfl)
      | _, isFalse t => isFalse (by intro e; cases e; exact t rfl)
    else isFalse (by intro e; cases e; exact hk rfl)

end

instance : DecidableEq Json := decEq

end Json

/-! ## Fields in key order -/

namespace Fields

/-- The fields with `key` set to `value`, in key order if they were. -/
def insert (key : String) (value : Json) : Fields → Fields
  | [] => [(key, value)]
  | (k, v) :: rest =>
    if key = k then (key, value) :: rest
    else if key < k then (key, value) :: (k, v) :: rest
    else (k, v) :: insert key value rest

/-- Whether a key is set. -/
def has (key : String) (fields : Fields) : Bool :=
  (fields.lookup key).isSome

/-- The fields with `key` set to `value`, unless it is set already. -/
def insertNew (key : String) (value : Json) (fields : Fields) : Fields :=
  if has key fields then fields else insert key value fields

theorem lookup_insert_self (key : String) (value : Json) (fields : Fields) :
    (insert key value fields).lookup key = some value := by
  induction fields with
  | nil => simp [insert]
  | cons field rest ih =>
      obtain ⟨k, v⟩ := field
      unfold insert
      split
      · simp
      · next h =>
          split
          · simp
          · simp [List.lookup_cons, beq_eq_false_iff_ne.mpr h, ih]

theorem lookup_insert_of_ne {key other : String} (h : other ≠ key) (value : Json)
    (fields : Fields) : (insert key value fields).lookup other = fields.lookup other := by
  induction fields with
  | nil => simp [insert, List.lookup_cons, beq_eq_false_iff_ne.mpr h]
  | cons field rest ih =>
      obtain ⟨k, v⟩ := field
      unfold insert
      split
      · next hk => simp [List.lookup_cons, beq_eq_false_iff_ne.mpr h, ← hk]
      · split
        · simp [List.lookup_cons, beq_eq_false_iff_ne.mpr h]
        · simp only [List.lookup_cons, ih]

end Fields

namespace Json

mutual

/-- Every object in a value has its fields in key order, each key once. -/
def Sorted : Json → Prop
  | .arr items => SortedItems items
  | .obj fields => SortedFields fields
  | _ => True

def SortedItems : List Json → Prop
  | [] => True
  | v :: vs => v.Sorted ∧ SortedItems vs

def SortedFields : List (String × Json) → Prop
  | [] => True
  | (k, v) :: rest => (∀ field ∈ rest, k < field.1) ∧ v.Sorted ∧ SortedFields rest

end

mutual

/-- The fields of every object in key order; of fields with one key, the last. -/
def normal : Json → Json
  | .null => .null
  | .bool b => .bool b
  | .num n => .num n
  | .str s => .str s
  | .arr items => .arr (normalItems items)
  | .obj fields => .obj (normalFields fields)

def normalItems : List Json → List Json
  | [] => []
  | v :: vs => v.normal :: normalItems vs

def normalFields : List (String × Json) → List (String × Json)
  | [] => []
  | (k, v) :: rest =>
    Fields.insertNew k v.normal (normalFields rest)

end

theorem mem_insert {key : String} {value : Json} {fields : Fields} {field : String × Json}
    (h : field ∈ Fields.insert key value fields) : field = (key, value) ∨ field ∈ fields := by
  induction fields with
  | nil => simpa [Fields.insert] using h
  | cons head rest ih =>
      obtain ⟨k, v⟩ := head
      unfold Fields.insert at h
      split at h
      · rcases List.mem_cons.mp h with h | h
        · exact .inl h
        · exact .inr (List.mem_cons_of_mem _ h)
      · split at h
        · rcases List.mem_cons.mp h with h | h
          · exact .inl h
          · exact .inr h
        · rcases List.mem_cons.mp h with h | h
          · exact .inr (h ▸ List.mem_cons_self)
          · rcases ih h with h | h
            · exact .inl h
            · exact .inr (List.mem_cons_of_mem _ h)

theorem sortedFields_insert {key : String} {value : Json} {fields : Fields}
    (hv : value.Sorted) (hf : SortedFields fields) :
    SortedFields (Fields.insert key value fields) := by
  induction fields with
  | nil => exact ⟨by simp, hv, trivial⟩
  | cons head rest ih =>
      obtain ⟨k, v⟩ := head
      obtain ⟨hlt, hsorted, hrest⟩ := hf
      unfold Fields.insert
      split
      · next h => exact ⟨fun field hm => h ▸ hlt field hm, hv, hrest⟩
      · next hne =>
          split
          · next h =>
              refine ⟨fun field hm => ?_, hv, hlt, hsorted, hrest⟩
              rcases List.mem_cons.mp hm with hm | hm
              · exact hm ▸ h
              · exact String.lt_trans h (hlt field hm)
          · next h =>
              refine ⟨fun field hm => ?_, hsorted, ih hrest⟩
              rcases mem_insert hm with hm | hm
              · subst hm
                by_cases hlt' : k < key
                · exact hlt'
                · exact absurd (String.le_antisymm (String.not_lt.mp hlt') (String.not_lt.mp h)) hne
              · exact hlt field hm

mutual

theorem sorted_normal (v : Json) : v.normal.Sorted :=
  match v with
  | .null | .bool _ | .num _ | .str _ => trivial
  | .arr items => sortedItems_normalItems items
  | .obj fields => sortedFields_normalFields fields

theorem sortedItems_normalItems (items : List Json) : SortedItems (normalItems items) :=
  match items with
  | [] => trivial
  | v :: vs => ⟨sorted_normal v, sortedItems_normalItems vs⟩

theorem sortedFields_normalFields (fields : List (String × Json)) :
    SortedFields (normalFields fields) :=
  match fields with
  | [] => trivial
  | (k, v) :: rest => by
      unfold normalFields Fields.insertNew
      split
      · exact sortedFields_normalFields rest
      · exact sortedFields_insert (sorted_normal v) (sortedFields_normalFields rest)

end

end Json

end LintServer
