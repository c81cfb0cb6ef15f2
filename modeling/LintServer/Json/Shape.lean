import LintServer.Json.Decode

/-!
# Shapes of JSON values

The messages of a protocol are JSON values of known shapes. `Shape.conform` checks a value against
a shape and gives it in one form: a record, which may be written as an object or as an array of its
fields in their order, becomes an object with all fields of its shape, and an absent field becomes
null. What is wrong with a value is reported once. Of several wrong fields the first counts, in the
order of keys in an object and in the order of the shape in an array; an object that lacks a field
is refused only if the fields it has are right.
-/

namespace LintServer

open Json (DecodeError)

/-- What a value has to look like. -/
inductive Shape where
  /-- A value that a check accepts. -/
  | scalar (check : Json → Except DecodeError Unit)
  /-- A value or null. An object may leave out such a field. -/
  | optional (shape : Shape)
  /-- A value. An object and an array may leave out such a field. -/
  | omittable (shape : Shape)
  | list (item : Shape)
  /-- An object with any keys but some, which do not count. -/
  | map (other : List String) (value : Shape)
  | record (name : String) (fields : List (String × Shape))
  /-- A record that also has the fields of other records. It has to be an object. -/
  | joined (name : String) (fields : List (String × Shape)) (parts : List Shape)
  /-- A value of the first of several shapes that it has. -/
  | oneOf (name : String) (shapes : List Shape)

namespace Shape

/-! ## Scalars -/

/-- A value that can be decoded. -/
def ofDecoder {α : Type} (decode : Json → Except DecodeError α) : Shape :=
  .scalar fun v => (decode v).map fun _ => ()

def any : Shape := .ofDecoder fun v => .ok v

def bool : Shape := .ofDecoder Json.toBool

def text : Shape := .ofDecoder Json.toStr

def uint32 : Shape := .ofDecoder Json.toUInt32

def int32 : Shape := .ofDecoder Json.toInt32

def number : Shape := .scalar fun v =>
  match v with
  | .num _ => .ok ()
  | v => .error (.wrongType v "f32")

/-- What a message says about a word that is none of `words`. -/
def unknownWord (words : List String) (word : String) : String :=
  let quoted := words.map fun w => "\x60" ++ w ++ "\x60"
  let expected :=
    match quoted with
    | [w] => w
    | [v, w] => v ++ " or " ++ w
    | ws => "one of " ++ ", ".intercalate ws
  "unknown variant \x60" ++ word ++ "\x60, expected " ++ expected

/-- One of some words, which may also be the only key of an object in which it has no value. -/
def word (words : List String) : Shape := .scalar fun v =>
  let check (word : String) : Except DecodeError Unit :=
    if words.contains word then .ok () else .error (.described (unknownWord words word))
  match v with
  | .str w => check w
  | .obj [(w, value)] => do
    check w
    match value with
    | .null => .ok ()
    | value => .error (.wrongType value "unit")
  | .obj _ => .error (.described "invalid value: map, expected map with a single key")
  | v => .error (.wrongType v "string or map")

/-! ## Fields of a record -/

/-- A field as it is given: what it conforms to, or what is wrong with it, unless it is absent. -/
abbrev Given := Option (Except DecodeError Json)

/-- Whether an object may leave out a field of this shape. -/
def mayLack : Shape → Bool
  | .optional _ | .omittable _ => true
  | _ => false

/-- Whether an array may leave out a field of this shape. -/
def mayOmit : Shape → Bool
  | .omittable _ => true
  | _ => false

def ofGiven (fields : List (String × Shape)) (given : List Given) : Fields :=
  (fields.zip given).map fun ((key, _), field) =>
    match field with
    | some (.ok v) => (key, v)
    | _ => (key, .null)

/-- The fields of an object: first those that it has have to be right, and then none may be
missing. -/
def named (fields : List (String × Shape)) (given : List Given) (keys : List String) :
    Except DecodeError Fields :=
  let fieldOf (key : String) : Given :=
    (((fields.map Prod.fst).zip given).lookup key).join
  let fault? (key : String) : Option DecodeError :=
    match fieldOf key with
    | some (.error e) => some e
    | _ => none
  let missing? (field : String × Shape) : Option DecodeError :=
    if (fieldOf field.1).isNone && !field.2.mayLack then some (.missingField field.1) else none
  match (keys.findSome? fault?).or (fields.findSome? missing?) with
  | some e => .error e
  | none => .ok (ofGiven fields given)

/-- The fields of an array, up to the first that is wrong or missing. -/
def placedFault? (name : String) (count : Nat) :
    (place : Nat) → List ((String × Shape) × Given) → Option DecodeError
  | _, [] => none
  | _, (_, some (.error e)) :: _ => some e
  | place, (_, some (.ok _)) :: rest => placedFault? name count (place + 1) rest
  | place, ((_, shape), none) :: rest =>
    if shape.mayOmit then placedFault? name count (place + 1) rest
    else
      let elements := if count = 1 then "1 element" else s!"{count} elements"
      some (.tooFewItems place s!"struct {name} with {elements}")

/-- What is wrong with an array that has more items than the record has fields. Where a record is
part of another one, the message tells how many it has. -/
def excess (isPart : Bool) (items fields : Nat) : DecodeError :=
  if isPart then
    let elements := if fields = 1 then "1 element" else s!"{fields} elements"
    .tooFewItems items s!"{elements} in sequence"
  else .tooManyItems items

def placed (isPart : Bool) (name : String) (fields : List (String × Shape)) (given : List Given)
    (items : Nat) : Except DecodeError Fields :=
  match placedFault? name fields.length 0 (fields.zip given) with
  | some e => .error e
  | none =>
    if fields.length < items then .error (excess isPart items fields.length)
    else .ok (ofGiven fields given)

/-! ## Values -/

mutual

/-- A value in the form of its shape, or what is wrong with it. -/
def read (isPart : Bool) : Shape → Json → Except DecodeError Json
  | .scalar check, v => (check v).map fun () => v
  | .optional shape, v => if v = .null then .ok v else read isPart shape v
  | .omittable shape, v => read isPart shape v
  | .list item, v => do return .arr (← (← v.toItems).mapM (read isPart item))
  | .map other value, v => do
    let fields := (← v.toFields).filter fun (key, _) => !other.contains key
    return .obj (← fields.mapM fun (key, v) => do return (key, ← read isPart value v))
  | .record name fields, v =>
    match v with
    | .obj values =>
      let given := readFields isPart fields (fields.map fun (key, _) => values.lookup key)
      (named fields given (values.map Prod.fst)).map .obj
    | .arr items =>
      let given := readFields isPart fields ((List.range fields.length).map (items[·]?))
      (placed isPart name fields given items.length).map .obj
    | v => .error (.wrongType v s!"struct {name}")
  | .joined name fields parts, v =>
    match v with
    | .obj values => do
      let given := readFields isPart fields (fields.map fun (key, _) => values.lookup key)
      let own ← named fields given (values.map Prod.fst)
      return .obj (own ++ (← readParts parts v))
    | v => .error (.wrongType v s!"struct {name}")
  | .oneOf name shapes, v =>
    match readFirst shapes v with
    | some v => .ok v
    | none => .error (.described s!"data did not match any variant of untagged enum {name}")

def readFields (isPart : Bool) : List (String × Shape) → List (Option Json) → List Given
  | (_, shape) :: fields, value :: values =>
    value.map (read isPart shape) :: readFields isPart fields values
  | _, _ => []

/-- The fields of records that are parts of one object. -/
def readParts : List Shape → Json → Except DecodeError Fields
  | [], _ => .ok []
  | part :: parts, v => do
    let fields ← (← read true part v).toFields
    return fields ++ (← readParts parts v)

def readFirst : List Shape → Json → Option Json
  | [], _ => none
  | shape :: shapes, v =>
    match read true shape v with
    | .ok v => some v
    | .error _ => readFirst shapes v

end

/-- A value in the form of its shape, or what is wrong with it. -/
def conform (shape : Shape) (v : Json) : Except DecodeError Json := shape.read false v

/-- Decodes a value once it has the form of its shape. -/
def decode {α : Type} (shape : Shape) (ofConformed : Json → Except DecodeError α) (v : Json) :
    Except DecodeError α := do
  ofConformed (← shape.conform v)

end Shape

end LintServer
