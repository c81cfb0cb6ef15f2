import LintServer.Text.Units

/-!
# Columns of a byte offset

A line is a text in two encodings, and an offset in its bytes has a column in
its UTF-16 units. For an offset within the line that is the length of the
whole characters that stand before it, at most that many bytes
(`LongestWithin`); past the end each byte is a column (`IsColumn`). The
column is found by stepping back to a boundary of characters, and the scan
meets one before it leaves the line (`isBoundary_floorBoundary`). It is shown
as it is if it fits into 32 bits (`toNat_unitColumn`).

Characters are not cut that way: a column is never between the halves of a
surrogate pair (`IsColumn.not_splitsPair`), columns keep the order of the
offsets (`IsColumn.mono`), and what is between two boundaries is one piece of
the text in both encodings (`IsColumn.exists_part`).
-/

namespace LintServer.Text

/-! ## Two encodings -/

def utf8 (text : List Char) : List UInt8 := text.flatMap String.utf8EncodeChar

/-- The UTF-16 units of a character: itself, or the two halves of a surrogate
pair. -/
def charUnits (c : Char) : List UInt16 :=
  if c.toNat < 0x10000 then [UInt16.ofNat c.toNat]
  else
    [UInt16.ofNat (0xD800 + (c.toNat - 0x10000) / 0x400),
      UInt16.ofNat (0xDC00 + (c.toNat - 0x10000) % 0x400)]

def utf16 (text : List Char) : List UInt16 := text.flatMap charUnits

@[simp] theorem utf8_cons (c : Char) (cs : List Char) :
    utf8 (c :: cs) = String.utf8EncodeChar c ++ utf8 cs :=
  List.flatMap_cons

@[simp] theorem utf16_cons (c : Char) (cs : List Char) :
    utf16 (c :: cs) = charUnits c ++ utf16 cs :=
  List.flatMap_cons

@[simp] theorem utf8_append (a b : List Char) : utf8 (a ++ b) = utf8 a ++ utf8 b :=
  List.flatMap_append

@[simp] theorem utf16_append (a b : List Char) : utf16 (a ++ b) = utf16 a ++ utf16 b :=
  List.flatMap_append

theorem length_utf8 (text : List Char) : (utf8 text).length = byteLength text := by
  induction text with
  | nil => rfl
  | cons c cs ih =>
      rw [utf8_cons, List.length_append, ih, String.length_utf8EncodeChar, byteLength]

theorem length_charUnits (c : Char) : (charUnits c).length = unitWidth c := by
  unfold charUnits unitWidth
  split <;> rfl

theorem length_utf16 (text : List Char) : (utf16 text).length = unitLength text := by
  induction text with
  | nil => rfl
  | cons c cs ih => rw [utf16_cons, List.length_append, ih, length_charUnits, unitLength]

theorem byteLength_append (a b : List Char) :
    byteLength (a ++ b) = byteLength a + byteLength b := by
  rw [← length_utf8, utf8_append, List.length_append, length_utf8, length_utf8]

theorem unitLength_append (a b : List Char) :
    unitLength (a ++ b) = unitLength a + unitLength b := by
  rw [← length_utf16, utf16_append, List.length_append, length_utf16, length_utf16]

theorem unitWidth_pos (c : Char) : 0 < unitWidth c := by
  unfold unitWidth
  split <;> omega

theorem unitWidth_le_utf8Size (c : Char) : unitWidth c ≤ c.utf8Size := by
  have hpos := c.utf8Size_pos
  unfold unitWidth
  split
  · exact hpos
  · next hlarge =>
      have hsize : c.utf8Size = 4 := by
        rw [Char.utf8Size_eq_four_iff, UInt32.lt_iff_toNat_lt]
        exact Nat.not_lt.mp hlarge
      omega

theorem unitLength_le_byteLength (text : List Char) : unitLength text ≤ byteLength text := by
  induction text with
  | nil => exact Nat.le_refl 0
  | cons c cs ih => exact Nat.add_le_add (unitWidth_le_utf8Size c) ih

/-! ## Prefixes -/

theorem eq_of_prefix_of_byteLength_le {p q : List Char} (h : p <+: q)
    (hle : byteLength q ≤ byteLength p) : p = q := by
  obtain ⟨rest, rfl⟩ := h
  cases rest with
  | nil => exact (List.append_nil p).symm
  | cons c cs =>
      have hpos := c.utf8Size_pos
      rw [byteLength_append, byteLength] at hle
      omega

theorem eq_nil_of_byteLength_eq_zero {text : List Char} (h : byteLength text = 0) : text = [] :=
  (eq_of_prefix_of_byteLength_le List.nil_prefix (Nat.le_of_eq h)).symm

theorem unitLength_mono {p q : List Char} (h : p <+: q) : unitLength p ≤ unitLength q := by
  obtain ⟨rest, rfl⟩ := h
  rw [unitLength_append]
  exact Nat.le_add_right _ _

/-- Of two prefixes of one text the one with fewer bytes is a prefix of the
other. -/
theorem prefix_of_byteLength_le {p q text : List Char} (hp : p <+: text) (hq : q <+: text)
    (hle : byteLength p ≤ byteLength q) : p <+: q := by
  rcases List.prefix_or_prefix_of_prefix hp hq with h | h
  · exact h
  · obtain rfl := eq_of_prefix_of_byteLength_le h hle
    exact List.prefix_refl q

/-! ## Boundaries -/

theorem cutBytes?_append (before after : List Char) :
    cutBytes? (byteLength before) (before ++ after) = some (before, after) := by
  induction before with
  | nil => cases after <;> rfl
  | cons c cs ih =>
      have hpos := c.utf8Size_pos
      rw [List.cons_append, byteLength, cutBytes?, if_neg (by omega), if_pos (by omega),
        Nat.add_sub_cancel_left, ih]
      rfl

theorem append_of_cutBytes? {offset : Nat} {text before after : List Char}
    (h : cutBytes? offset text = some (before, after)) :
    before ++ after = text ∧ byteLength before = offset := by
  fun_induction cutBytes? offset text generalizing before with
  | case1 =>
      cases h
      exact ⟨rfl, rfl⟩
  | case2 => cases h
  | case3 =>
      cases h
      exact ⟨rfl, rfl⟩
  | case4 offset c cs _ hle ih =>
      obtain ⟨⟨front, back⟩, hcut, heq⟩ := Option.map_eq_some_iff.mp h
      cases heq
      obtain ⟨rfl, hbytes⟩ := ih hcut
      rw [byteLength, hbytes]
      exact ⟨rfl, Nat.add_sub_cancel' hle⟩
  | case5 => cases h

theorem cutBytes?_eq_some_iff {offset : Nat} {text before after : List Char} :
    cutBytes? offset text = some (before, after) ↔
      before ++ after = text ∧ byteLength before = offset := by
  refine ⟨append_of_cutBytes?, ?_⟩
  rintro ⟨rfl, rfl⟩
  exact cutBytes?_append before after

theorem isBoundary_iff {text : List Char} {offset : Nat} :
    isBoundary text offset ↔ ∃ before, before <+: text ∧ byteLength before = offset := by
  rw [isBoundary, Option.isSome_iff_exists]
  constructor
  · rintro ⟨⟨before, after⟩, hcut⟩
    obtain ⟨happend, hbytes⟩ := cutBytes?_eq_some_iff.mp hcut
    exact ⟨before, ⟨after, happend⟩, hbytes⟩
  · rintro ⟨before, ⟨after, happend⟩, hbytes⟩
    exact ⟨(before, after), cutBytes?_eq_some_iff.mpr ⟨happend, hbytes⟩⟩

theorem le_byteLength_of_isBoundary {text : List Char} {offset : Nat}
    (h : isBoundary text offset) : offset ≤ byteLength text := by
  obtain ⟨before, ⟨after, rfl⟩, rfl⟩ := isBoundary_iff.mp h
  rw [byteLength_append]
  exact Nat.le_add_right _ _

/-- Two boundaries cut a text into three parts. -/
theorem exists_parts {text : List Char} {start stop : Nat} (hle : start ≤ stop)
    (hstart : isBoundary text start) (hstop : isBoundary text stop) :
    ∃ before part after, text = before ++ part ++ after
      ∧ byteLength before = start ∧ byteLength (before ++ part) = stop := by
  obtain ⟨before, hbefore, rfl⟩ := isBoundary_iff.mp hstart
  obtain ⟨front, hfront, rfl⟩ := isBoundary_iff.mp hstop
  obtain ⟨part, rfl⟩ := prefix_of_byteLength_le hbefore hfront hle
  obtain ⟨after, rfl⟩ := hfront
  exact ⟨before, part, after, rfl, rfl, rfl⟩

theorem floorBoundary_le (text : List Char) (offset : Nat) :
    floorBoundary text offset ≤ offset := by
  induction offset with
  | zero => exact Nat.le_refl 0
  | succ offset ih =>
      rw [floorBoundary]
      split
      · exact Nat.le_refl _
      · exact Nat.le_succ_of_le ih

/-- The scan stops at a boundary: at the start of the text at the latest. -/
theorem isBoundary_floorBoundary (text : List Char) (offset : Nat) :
    isBoundary text (floorBoundary text offset) := by
  induction offset with
  | zero => exact isBoundary_iff.mpr ⟨[], List.nil_prefix, rfl⟩
  | succ offset ih =>
      rw [floorBoundary]
      split
      · next h => exact h
      · exact ih

/-- The scan passes no boundary. -/
theorem le_floorBoundary {text : List Char} {k offset : Nat} (hk : isBoundary text k)
    (hle : k ≤ offset) : k ≤ floorBoundary text offset := by
  induction offset with
  | zero => exact hle
  | succ offset ih =>
      rw [floorBoundary]
      split
      · exact hle
      · next hnot =>
          rcases Nat.lt_or_eq_of_le hle with hlt | rfl
          · exact ih (Nat.le_of_lt_succ hlt)
          · exact absurd hk hnot

/-! ## Columns -/

/-- The longest prefix of whole characters that takes at most `offset` bytes. -/
structure LongestWithin (text : List Char) (offset : Nat) (p : List Char) : Prop where
  isPrefix : p <+: text
  within : byteLength p ≤ offset
  longest : ∀ q, q <+: text → byteLength q ≤ offset → q <+: p

/-- The column of a byte offset: the length of what is before it, or the
length of the text and the bytes past its end. -/
structure IsColumn (text : List Char) (offset column : Nat) : Prop where
  inside : offset < byteLength text →
    ∃ p, LongestWithin text offset p ∧ column = unitLength p
  outside : byteLength text ≤ offset →
    column = unitLength text + (offset - byteLength text)

theorem longestWithin_floorBoundary {text before : List Char} {offset : Nat}
    (hbefore : before <+: text) (hbytes : byteLength before = floorBoundary text offset) :
    LongestWithin text offset before where
  isPrefix := hbefore
  within := hbytes ▸ floorBoundary_le text offset
  longest q hq hwithin := by
    have hfloor := le_floorBoundary (isBoundary_iff.mpr ⟨q, hq, rfl⟩) hwithin
    exact prefix_of_byteLength_le hq hbefore (hbytes ▸ hfloor)

theorem LongestWithin.isColumn {text p : List Char} {offset : Nat}
    (h : LongestWithin text offset p) (hlt : offset < byteLength text) :
    IsColumn text offset (unitLength p) where
  inside _ := ⟨p, h, rfl⟩
  outside hge := absurd hlt (Nat.not_lt_of_le hge)

/-- A column is at most the offset that it belongs to. -/
theorem exists_isColumn (text : List Char) (offset : Nat) :
    ∃ column ≤ offset, IsColumn text offset column := by
  rcases Nat.lt_or_ge offset (byteLength text) with hlt | hge
  · obtain ⟨before, hbefore, hbytes⟩ := isBoundary_iff.mp (isBoundary_floorBoundary text offset)
    have hlongest := longestWithin_floorBoundary hbefore hbytes
    exact ⟨unitLength before, Nat.le_trans (unitLength_le_byteLength before) hlongest.within,
      hlongest.isColumn hlt⟩
  · have hunits := unitLength_le_byteLength text
    exact ⟨unitLength text + (offset - byteLength text), by omega,
      fun hlt => absurd hlt (Nat.not_lt_of_le hge), fun _ => rfl⟩

/-! ## Surrogate pairs -/

def IsHighSurrogate (unit : UInt16) : Prop := 0xD800 ≤ unit ∧ unit < 0xDC00

def IsLowSurrogate (unit : UInt16) : Prop := 0xDC00 ≤ unit ∧ unit < 0xE000

/-- Whether a column is between the halves of a surrogate pair. -/
def SplitsPair (units : List UInt16) (column : Nat) : Prop :=
  0 < column ∧ (∃ high, units[column - 1]? = some high ∧ IsHighSurrogate high)
    ∧ ∃ low, units[column]? = some low ∧ IsLowSurrogate low

/-- No character begins with the second half of a pair. -/
theorem not_isLowSurrogate_of_charUnits {c : Char} {unit : UInt16} {rest : List UInt16}
    (h : charUnits c = unit :: rest) : ¬ IsLowSurrogate unit := by
  have hvalid : c.toNat < 0xD800 ∨ 0xDFFF < c.toNat ∧ c.toNat < 0x110000 := c.valid
  rw [IsLowSurrogate, UInt16.le_iff_toNat_le, UInt16.lt_iff_toNat_lt]
  unfold charUnits at h
  split at h
  · next hsmall =>
      obtain ⟨rfl, -⟩ := List.cons.inj h
      rw [UInt16.toNat_ofNat_of_lt' hsmall]
      rintro ⟨hlow, hhigh⟩
      rcases hvalid with hbelow | ⟨habove, -⟩
      · exact absurd hbelow (Nat.not_lt_of_le (Nat.le_trans (by decide) hlow))
      · exact absurd hhigh (Nat.not_lt_of_le habove)
  · next hlarge =>
      obtain ⟨rfl, -⟩ := List.cons.inj h
      have hhigh : 0xD800 + (c.toNat - 0x10000) / 0x400 < 0xDC00 := by omega
      rw [UInt16.toNat_ofNat_of_lt' (Nat.lt_trans hhigh (by decide))]
      exact fun hlow => absurd hhigh (Nat.not_lt_of_le hlow.1)

theorem not_isLowSurrogate_of_head? {text : List Char} {unit : UInt16}
    (h : (utf16 text).head? = some unit) : ¬ IsLowSurrogate unit := by
  cases text with
  | nil => cases h
  | cons c cs =>
      cases hunits : charUnits c with
      | nil =>
          have hwidth := length_charUnits c
          rw [hunits] at hwidth
          exact absurd hwidth (Nat.ne_of_lt (unitWidth_pos c))
      | cons first rest =>
          rw [utf16_cons, hunits] at h
          cases h
          exact not_isLowSurrogate_of_charUnits hunits

/-! ## What a column keeps -/

namespace IsColumn

variable {text : List Char} {a b column u w : Nat}

/-- What stands before the column: whole characters of the text, or all of it
and then more. -/
theorem exists_prefix (h : IsColumn text a column) :
    ∃ p, p <+: text ∧ unitLength p ≤ column ∧ (unitLength p = column ∨ p = text) := by
  rcases Nat.lt_or_ge a (byteLength text) with hlt | hge
  · obtain ⟨p, hp, hcolumn⟩ := h.inside hlt
    exact ⟨p, hp.isPrefix, Nat.le_of_eq hcolumn.symm, .inl hcolumn.symm⟩
  · exact ⟨text, List.prefix_refl text, by rw [h.outside hge]; exact Nat.le_add_right _ _, .inr rfl⟩

theorem mono (ha : IsColumn text a u) (hb : IsColumn text b w) (hle : a ≤ b) : u ≤ w := by
  rcases Nat.lt_or_ge a (byteLength text) with halt | hage
  · obtain ⟨p, hp, rfl⟩ := ha.inside halt
    rcases Nat.lt_or_ge b (byteLength text) with hblt | hbge
    · obtain ⟨q, hq, rfl⟩ := hb.inside hblt
      exact unitLength_mono (hq.longest p hp.isPrefix (Nat.le_trans hp.within hle))
    · rw [hb.outside hbge]
      exact Nat.le_trans (unitLength_mono hp.isPrefix) (Nat.le_add_right _ _)
  · rw [ha.outside hage, hb.outside (Nat.le_trans hage hle)]
    omega

theorem unique (hu : IsColumn text a u) (hw : IsColumn text a w) : u = w :=
  Nat.le_antisymm (hu.mono hw (Nat.le_refl a)) (hw.mono hu (Nat.le_refl a))

/-- At a boundary the column is the length of the text before it. -/
theorem eq_unitLength {before : List Char} (h : IsColumn text a column) (hbefore : before <+: text)
    (hbytes : byteLength before = a) : column = unitLength before := by
  subst hbytes
  rcases Nat.lt_or_ge (byteLength before) (byteLength text) with hlt | hge
  · obtain ⟨p, hp, rfl⟩ := h.inside hlt
    rw [eq_of_prefix_of_byteLength_le (hp.longest before hbefore (Nat.le_refl _)) hp.within]
  · rw [h.outside hge, eq_of_prefix_of_byteLength_le hbefore hge, Nat.sub_self, Nat.add_zero]

theorem not_splitsPair (h : IsColumn text a column) : ¬ SplitsPair (utf16 text) column := by
  rintro ⟨-, -, low, hlow, hhalf⟩
  obtain ⟨p, ⟨after, rfl⟩, hle, hcolumn⟩ := h.exists_prefix
  rw [← length_utf16] at hle hcolumn
  rw [utf16_append, List.getElem?_append_right hle] at hlow
  rcases hcolumn with rfl | hall
  · rw [Nat.sub_self, ← List.head?_eq_getElem?] at hlow
    exact not_isLowSurrogate_of_head? hlow hhalf
  · obtain rfl := List.append_right_eq_self.mp hall.symm
    cases hlow

/-- Between two boundaries there is one piece of the text, in its bytes and
in its units. -/
theorem exists_part (ha : IsColumn text a u) (hb : IsColumn text b w) (hle : a ≤ b)
    (hcuta : isBoundary text a) (hcutb : isBoundary text b) :
    ∃ part, (utf8 text).extract a b = utf8 part ∧ (utf16 text).extract u w = utf16 part := by
  obtain ⟨before, part, after, rfl, rfl, rfl⟩ := exists_parts hle hcuta hcutb
  have hbefore : before <+: before ++ part ++ after := ⟨part ++ after, (List.append_assoc ..).symm⟩
  rw [ha.eq_unitLength hbefore rfl, hb.eq_unitLength ⟨after, rfl⟩ rfl]
  refine ⟨part, ?_, ?_⟩
  · rw [← length_utf8, ← length_utf8]
    simp
  · rw [← length_utf16, ← length_utf16]
    simp

end IsColumn

/-! ## The column that is shown -/

theorem toNat_addClamped (a b : UInt32) :
    (addClamped a b).toNat = min (a.toNat + b.toNat) (UInt32.size - 1) := by
  unfold addClamped
  split
  · next hfits =>
      rw [UInt32.toNat_add, Nat.mod_eq_of_lt hfits]
      omega
  · next hover =>
      rw [UInt32.toNat_ofNat_of_lt' (by decide)]
      omega

theorem toNat_units (text : String) :
    (units text).toNat = unitLength text.toList % UInt32.size :=
  UInt32.toNat_ofNat'

/-- The column that is shown for an offset past the end: the bytes past the
end are counted in 32 bits, and so is the sum, but not in the same way. -/
theorem toNat_unitColumn_past {line : String} {offset : Nat}
    (h : byteLength line.toList ≤ offset) :
    (unitColumn line offset).toNat =
      min ((units line).toNat + (offset - byteLength line.toList) % UInt32.size)
        (UInt32.size - 1) := by
  rw [unitColumn, if_pos h, toNat_addClamped, UInt32.toNat_ofNat']

theorem toNat_unitColumn_inside {line : String} {offset : Nat}
    (h : offset < byteLength line.toList) :
    ∃ p, LongestWithin line.toList offset p
      ∧ (unitColumn line offset).toNat = unitLength p % UInt32.size := by
  obtain ⟨before, ⟨after, happend⟩, hbytes⟩ :=
    isBoundary_iff.mp (isBoundary_floorBoundary line.toList offset)
  refine ⟨before, longestWithin_floorBoundary ⟨after, happend⟩ hbytes, ?_⟩
  rw [unitColumn, if_neg (Nat.not_le_of_lt h), cutBytes?_eq_some_iff.mpr ⟨happend, hbytes⟩]
  exact UInt32.toNat_ofNat'

/-- A column that fits into 32 bits is shown as it is. -/
theorem toNat_unitColumn {line : String} {offset column : Nat}
    (h : IsColumn line.toList offset column) (hfits : column < UInt32.size) :
    (unitColumn line offset).toNat = column := by
  rcases Nat.lt_or_ge offset (byteLength line.toList) with hlt | hge
  · obtain ⟨p, hp, hshown⟩ := toNat_unitColumn_inside hlt
    rw [hshown, (hp.isColumn hlt).unique h, Nat.mod_eq_of_lt hfits]
  · have hcolumn := h.outside hge
    have hunits : unitLength line.toList % UInt32.size = unitLength line.toList :=
      Nat.mod_eq_of_lt (by omega)
    have hrest : (offset - byteLength line.toList) % UInt32.size =
        offset - byteLength line.toList := Nat.mod_eq_of_lt (by omega)
    rw [toNat_unitColumn_past hge, toNat_units, hunits, hrest, ← hcolumn]
    omega

theorem isColumn_unitColumn (line : String) {offset : Nat} (h : offset < UInt32.size) :
    IsColumn line.toList offset (unitColumn line offset).toNat := by
  obtain ⟨column, hle, hcolumn⟩ := exists_isColumn line.toList offset
  rw [toNat_unitColumn hcolumn (Nat.lt_of_le_of_lt hle h)]
  exact hcolumn

end LintServer.Text
