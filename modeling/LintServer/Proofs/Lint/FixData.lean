import LintServer.Server.Report

/-!
# Fixes as data

A fix travels through the editor as the data of a diagnostic. There is one
way to write it, which leaves out absent fields, and there are many that are
read (`Fix.IsForm`): an object by the names of the fields, with any other
keys beside them, or an array by their places, which may end early, and in
both a null for an absent field. Reading accepts these and nothing else
(`Fix.ofJson_eq_ok_iff`), and what is written is one of them, so the fix of a
diagnostic is the fix of the violation that it shows
(`Diagnostic.fix?_ofViolation`).

All of this is settled value by value. A decoder that reads the encodings
and nothing else (`Json.IsCodec`) reads an optional field just where it is
encoded, null or not there (`Json.Stands`), be it found by name or by place.
-/

namespace LintServer

namespace Json

/-! ## Results -/

theorem bind_eq_ok_iff {ε α β : Type} {x : Except ε α} {f : α → Except ε β} {b : β} :
    (x >>= f) = .ok b ↔ ∃ a, x = .ok a ∧ f a = .ok b := by
  cases x <;> simp [bind, Except.bind]

theorem map_eq_ok_iff {ε α β : Type} {x : Except ε α} {f : α → β} {b : β} :
    x.map f = .ok b ↔ ∃ a, x = .ok a ∧ f a = b := by
  cases x <;> simp [Except.map]

/-! ## Decoders of values -/

/-- Whether a decoder reads the encodings and nothing else. -/
structure IsCodec {α : Type} (decode : Json → Except DecodeError α) (encode : α → Json) :
    Prop where
  decode_eq_ok_iff : ∀ v a, decode v = .ok a ↔ v = encode a
  encode_ne_null : ∀ a, encode a ≠ .null

theorem toIntIn_eq_ok_iff {low high : Int} {expected : String} {v : Json} {i : Int} :
    toIntIn low high expected v = .ok i ↔ v = .ofInt i ∧ low ≤ i ∧ i < high := by
  unfold toIntIn
  split
  · next j =>
      split
      · next hj =>
          simp only [Except.ok.injEq, ofInt, num.injEq, Number.int.injEq]
          constructor
          · rintro rfl
            exact ⟨rfl, hj⟩
          · exact fun h => h.1
      · next hj =>
          constructor
          · nofun
          · rintro ⟨hv, hi⟩
            cases hv
            exact absurd hi hj
  · next hv =>
      constructor
      · nofun
      · rintro ⟨rfl, -⟩
        exact absurd rfl (hv i)

theorem isCodec_toUInt64 : IsCodec toUInt64 fun n => .ofNat n.toNat where
  decode_eq_ok_iff v n := by
    simp only [toUInt64, map_eq_ok_iff, toIntIn_eq_ok_iff]
    constructor
    · rintro ⟨i, ⟨rfl, hlow, hhigh⟩, rfl⟩
      have hi : (i.toNat : Int) = i := Int.toNat_of_nonneg hlow
      have hlt : i.toNat < UInt64.size := by
        have hsize : UInt64.size = 0x10000000000000000 := rfl
        omega
      rw [UInt64.toNat_ofNat_of_lt' hlt, ofNat, ofInt, hi]
    · rintro rfl
      have hlt := n.toNat_lt
      exact ⟨n.toNat, ⟨rfl, by omega, by omega⟩, by simp⟩
  encode_ne_null _ := nofun

theorem isCodec_toInt64 : IsCodec toInt64 fun n => .ofInt n.toInt where
  decode_eq_ok_iff v n := by
    simp only [toInt64, map_eq_ok_iff, toIntIn_eq_ok_iff]
    constructor
    · rintro ⟨i, ⟨rfl, hlow, hhigh⟩, rfl⟩
      rw [Int64.toInt_ofInt_of_le hlow hhigh]
    · rintro rfl
      exact ⟨n.toInt, ⟨rfl, n.le_toInt, n.toInt_lt⟩, Int64.ofInt_toInt n⟩
  encode_ne_null _ := nofun

theorem isCodec_toStr : IsCodec toStr .str where
  decode_eq_ok_iff v s := by cases v <;> simp [toStr]
  encode_ne_null _ := nofun

/-! ## Optional fields -/

/-- Whether `written` stands for an optional value: it is the encoding, or
for no value a null or nothing. -/
def Stands {α : Type} (encode : α → Json) (value : Option α) (written : Option Json) : Prop :=
  match value with
  | some a => written = some (encode a)
  | none => written = none ∨ written = some .null

theorem stands_map {α : Type} (encode : α → Json) (value : Option α) :
    Stands encode value (value.map encode) := by
  cases value with
  | none => exact Or.inl rfl
  | some a => rfl

section

variable {α : Type} {decode : Json → Except DecodeError α} {encode : α → Json}
  {value : Option α}

theorem IsCodec.optional_eq_ok_iff (h : IsCodec decode encode) {v : Json} :
    optional decode v = .ok value ↔ Stands encode value (some v) := by
  unfold optional
  split
  · cases value with
    | none => simp [Stands]
    | some a => simpa [Stands] using (h.encode_ne_null a).symm
  · next hnull =>
      rw [map_eq_ok_iff]
      cases value with
      | none => simpa [Stands] using hnull
      | some a => simp [Stands, h.decode_eq_ok_iff]

theorem IsCodec.field_eq_ok_iff (h : IsCodec decode encode) {fields : Fields} {key : String} :
    field fields key decode = .ok value ↔ Stands encode value (fields.lookup key) := by
  unfold field
  cases fields.lookup key with
  | none => cases value <;> simp [Stands]
  | some v => exact h.optional_eq_ok_iff

theorem IsCodec.item_eq_ok_iff (h : IsCodec decode encode) {items : List Json} {place : Nat} :
    item items place decode = .ok value ↔ Stands encode value items[place]? := by
  unfold item
  cases items[place]? with
  | none => cases value <;> simp [Stands]
  | some v => exact h.optional_eq_ok_iff

end

theorem atMost_eq_ok_iff {count : Nat} {items : List Json} {u : Unit} :
    atMost count items = .ok u ↔ items.length ≤ count := by
  unfold atMost
  split
  · next h => simpa using h
  · next h => simpa using h

theorem lookup_field? (key other : String) (value : Option Json) :
    (field? key value).lookup other = if other = key then value else none := by
  cases value with
  | none => simp [field?]
  | some v =>
      by_cases h : other = key
      · simp [field?, h]
      · simp [field?, h, List.lookup_cons, beq_false_of_ne h]

theorem lookup_append {fields rest : Fields} {key : String} :
    (fields ++ rest).lookup key = (fields.lookup key).or (rest.lookup key) := by
  induction fields with
  | nil => rfl
  | cons field fields ih =>
      rw [List.cons_append, List.lookup_cons, List.lookup_cons, ih]
      split <;> rfl

end Json

/-! ## Fixes -/

namespace Fix

open Json

/-- What stands for each of the fields of a fix. -/
structure IsWritten (fix : Fix) (line column deleteCount insertText : Option Json) : Prop where
  line : Stands (fun n => .ofNat n.toNat) fix.line line
  column : Stands (fun n => .ofNat n.toNat) fix.column column
  deleteCount : Stands (fun n => .ofInt n.toInt) fix.deleteCount deleteCount
  insertText : Stands .str fix.insertText insertText

/-- The values that a fix can be read from: an object, by the names of the
fields, and an array, by their places. -/
def IsForm (fix : Fix) : Json → Prop
  | .obj fields =>
    fix.IsWritten (fields.lookup "lineNumber") (fields.lookup "editColumn")
      (fields.lookup "deleteCount") (fields.lookup "insertText")
  | .arr items => items.length ≤ 4 ∧ fix.IsWritten items[0]? items[1]? items[2]? items[3]?
  | _ => False

theorem ofFields_eq_ok_iff {fields : Fields} {fix : Fix} :
    ofFields fields = .ok fix ↔ fix.IsForm (.obj fields) := by
  simp only [ofFields, bind_eq_ok_iff, isCodec_toInt64.field_eq_ok_iff,
    isCodec_toUInt64.field_eq_ok_iff, isCodec_toStr.field_eq_ok_iff]
  constructor
  · rintro ⟨deleteCount, hdelete, column, hcolumn, insertText, hinsert, line, hline, heq⟩
    cases heq
    exact ⟨hline, hcolumn, hdelete, hinsert⟩
  · rintro ⟨hline, hcolumn, hdelete, hinsert⟩
    exact ⟨_, hdelete, _, hcolumn, _, hinsert, _, hline, rfl⟩

theorem ofItems_eq_ok_iff {items : List Json} {fix : Fix} :
    ofItems items = .ok fix ↔ fix.IsForm (.arr items) := by
  simp only [ofItems, bind_eq_ok_iff, isCodec_toInt64.item_eq_ok_iff,
    isCodec_toUInt64.item_eq_ok_iff, isCodec_toStr.item_eq_ok_iff, atMost_eq_ok_iff]
  constructor
  · rintro ⟨line, hline, column, hcolumn, deleteCount, hdelete, insertText, hinsert, _, hlength,
      heq⟩
    cases heq
    exact ⟨hlength, hline, hcolumn, hdelete, hinsert⟩
  · rintro ⟨hlength, hline, hcolumn, hdelete, hinsert⟩
    exact ⟨_, hline, _, hcolumn, _, hdelete, _, hinsert, (), hlength, rfl⟩

/-- Reading accepts the forms of a fix and nothing else. -/
theorem ofJson_eq_ok_iff {v : Json} {fix : Fix} : ofJson v = .ok fix ↔ fix.IsForm v := by
  cases v with
  | obj fields => exact ofFields_eq_ok_iff
  | arr items => exact ofItems_eq_ok_iff
  | _ => exact ⟨nofun, nofun⟩

theorem isForm_toJson (fix : Fix) : fix.IsForm fix.toJson := by
  refine ⟨?_, ?_, ?_, ?_⟩ <;> simp [toFields, lookup_append, lookup_field?, stands_map]

theorem ofJson_toJson (fix : Fix) : ofJson fix.toJson = .ok fix :=
  ofJson_eq_ok_iff.mpr fix.isForm_toJson

end Fix

/-! ## Diagnostics -/

namespace Diagnostic

theorem fixOfData_dataOf (fix : Fix) : fixOfData (dataOf fix) = .ok fix :=
  Fix.ofJson_toJson fix

/-- A diagnostic carries the fix of the violation that it shows. -/
theorem fix?_ofViolation (content : String) (v : Violation) :
    (ofViolation content v).fix? = v.fix := by
  rw [fix?, if_pos (show (ofViolation content v).source = some ownSource from rfl)]
  show (v.fix.map dataOf).bind (fun data => (fixOfData data).toOption) = v.fix
  cases hfix : v.fix with
  | none => rfl
  | some fix =>
      show (fixOfData (dataOf fix)).toOption = some fix
      rw [fixOfData_dataOf]
      rfl

end Diagnostic

/-- **A fix survives the editor.** The fix of a diagnostic is the fix of the
violation that it shows, none and a fix without fields among them. What is
read as a fix is its forms and nothing else, and a fix that was read, written
and read again is the same fix. -/
theorem fix_survives_editor :
    (∀ (content : String) (v : Violation), (Diagnostic.ofViolation content v).fix? = v.fix)
      ∧ (∀ (v : Json) (fix : Fix), Fix.ofJson v = .ok fix ↔ fix.IsForm v)
      ∧ ∀ v : Json, (Fix.ofJson v).bind (fun fix => Fix.ofJson fix.toJson) = Fix.ofJson v := by
  refine ⟨Diagnostic.fix?_ofViolation, fun _ _ => Fix.ofJson_eq_ok_iff, fun v => ?_⟩
  cases hread : Fix.ofJson v with
  | error e => rfl
  | ok fix => exact fix.ofJson_toJson

end LintServer
