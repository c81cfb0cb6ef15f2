import LintServer.Files.Path
import LintServer.Proofs.Text.LineCut
import Mathlib.Data.List.DropRight

/-!
# The ancestors of a path

What a path means is the list of its components: the segments between its
slashes, but for the empty ones and for `.`, which counts at the very start
only (`Path.components`). The parent of a path is the path without its last
component, however the path is written (`Path.components_parent?`), and a
path without components has none. So the way up from a path has one step for
each component (`Path.length_ancestors`).
-/

namespace LintServer.Path

/-! ## Components -/

/-- The segments that count: `.` counts at the start of a path only, and an
empty segment nowhere. -/
def components (p : Path) : List Name :=
  ((Text.pieces slash p.bytes).take 1).filter (· == [dot]) ++
    (Text.pieces slash p.bytes).filter (!isBlank ·)

theorem filter_dropEndWhile {α : Type} (p : α → Bool) (l : List α) :
    (Text.dropEndWhile p l).filter (!p ·) = l.filter (!p ·) := by
  have hend : (l.rtakeWhile p).filter (!p ·) = [] := by
    refine List.filter_eq_nil_iff.mpr fun a ha => ?_
    simp [List.mem_rtakeWhile_imp ha]
  calc (l.rdropWhile p).filter (!p ·)
      = (l.rdropWhile p ++ l.rtakeWhile p).filter (!p ·) := by
        rw [List.filter_append, hend, List.append_nil]
    _ = l.filter (!p ·) := by rw [List.rdropWhile_append_rtakeWhile]

/-- The three ways in which a path can begin. -/
theorem anchor_cases (bs : List UInt8) :
    (∃ rest, bs = slash :: rest ∧ anchor bs = ([slash], rest))
      ∨ (∃ rest, bs = dot :: rest ∧ anchor bs = ([dot], rest)
          ∧ (Text.pieces slash rest).head? = some [])
      ∨ (anchor bs = ([], bs) ∧ (Text.pieces slash bs).head? ≠ some [dot]) := by
  match bs with
  | [] => exact .inr (.inr ⟨rfl, by decide⟩)
  | [b] =>
      by_cases hslash : b = slash
      · exact .inl ⟨[], by rw [hslash], by simp [anchor, hslash]⟩
      · by_cases hdot : b = dot
        · exact .inr (.inl ⟨[], by rw [hdot], by simp [anchor, hdot], rfl⟩)
        · refine .inr (.inr ⟨by simp [anchor, hslash, hdot], ?_⟩)
          simp [List.splitOn_cons_eq_if_modifyHead, hslash, hdot]
  | b :: c :: rest =>
      by_cases hslash : b = slash
      · exact .inl ⟨c :: rest, by rw [hslash], by simp [anchor, hslash]⟩
      · by_cases hdot : b = dot ∧ c = slash
        · exact .inr (.inl ⟨c :: rest, by rw [hdot.1], by simp [anchor, hdot],
            by simp [List.splitOn_cons_eq_if_modifyHead, hdot.2]⟩)
        · refine .inr (.inr ⟨by simp [anchor, hslash, hdot], fun hhead => ?_⟩)
          by_cases hc : c = slash
          · have hb : b = dot := by
              simpa [List.splitOn_cons_eq_if_modifyHead, hslash, hc] using hhead
            exact hdot ⟨hb, hc⟩
          · simp [List.splitOn_cons_eq_if_modifyHead, hslash, hc] at hhead

/-- A path that keeps its anchor and the first of its segments. -/
theorem components_of_isPrefix {bs : List UInt8} {front : List Name}
    (h : front <+: Text.pieces slash (anchor bs).2) :
    components ⟨(anchor bs).1 ++ [slash].intercalate front⟩ =
      (if (anchor bs).1 = [dot] then [[dot]] else []) ++ front.filter (!isBlank ·) := by
  have hfree : ∀ segment ∈ front, slash ∉ segment := fun segment hs =>
    Text.sep_not_mem_of_mem_pieces (h.subset hs)
  cases front with
  | nil =>
      rcases anchor_cases bs with ⟨rest, -, hanchor⟩ | ⟨rest, -, hanchor, -⟩ | ⟨hanchor, -⟩
      · rw [hanchor]; rfl
      · rw [hanchor]; rfl
      · rw [hanchor]; rfl
  | cons first front =>
      have hpieces := List.splitOn_intercalate slash hfree (List.cons_ne_nil first front)
      have hfirst : (Text.pieces slash (anchor bs).2).head? = some first := by
        obtain ⟨back, hback⟩ := h
        rw [← hback]
        rfl
      rcases anchor_cases bs with ⟨rest, -, hanchor⟩ | ⟨rest, -, hanchor, hempty⟩ | ⟨hanchor, hdot⟩
      · rw [hanchor, components, List.singleton_append, Text.pieces,
          List.splitOn_cons_eq_if_modifyHead, if_pos BEq.rfl, hpieces]
        simp [isBlank, slash, dot]
      · rw [hanchor] at hfirst ⊢
        obtain rfl : [] = first := Option.some.inj (hempty.symm.trans hfirst)
        rw [components, List.singleton_append, Text.pieces,
          List.splitOn_cons_eq_if_modifyHead, if_neg (by decide), hpieces]
        simp [isBlank]
      · rw [hanchor] at hfirst ⊢
        rw [components, List.nil_append, Text.pieces, hpieces]
        have hne : first ≠ [dot] := fun heq => hdot (heq ▸ hfirst)
        simp [hne]

/-- The components, seen from the anchor. -/
theorem components_eq (p : Path) :
    p.components =
      (if (anchor p.bytes).1 = [dot] then [[dot]] else []) ++ p.segments.filter (!isBlank ·) := by
  have happend := components_of_isPrefix (List.prefix_refl (Text.pieces slash (anchor p.bytes).2))
  rw [List.intercalate_splitOn, anchor_append] at happend
  rw [happend, segments, filter_dropEndWhile]

/-- **The parent of a path is the path without its last component.** -/
theorem components_parent? {p q : Path} (h : p.parent? = some q) :
    q.components = p.components.dropLast ∧ p.components ≠ [] := by
  rw [components_eq p]
  unfold parent? at h
  split at h
  · next hnone =>
      split at h
      · next hdot =>
          cases h
          rw [hdot, hnone]
          exact ⟨rfl, List.cons_ne_nil _ _⟩
      · cases h
  · next hne =>
      cases h
      have hprefix : Text.dropEndWhile isBlank p.segments.dropLast <+:
          Text.pieces slash (anchor p.bytes).2 :=
        (List.rdropWhile_prefix _ _).trans
          ((List.dropLast_prefix _).trans (List.rdropWhile_prefix _ _))
      obtain ⟨front, last, hlast⟩ := List.eq_nil_or_concat p.segments |>.resolve_left hne
      have hcounts : isBlank last = false :=
        isBlank_of_getLast? (by rw [hlast, List.concat_eq_append, List.getLast?_concat])
      rw [components_of_isPrefix hprefix, filter_dropEndWhile, hlast]
      simp [hcounts]

theorem components_eq_nil_of_parent? {p : Path} (h : p.parent? = none) : p.components = [] := by
  unfold parent? at h
  split at h
  · next hnone =>
      split at h
      · cases h
      · next hdot => rw [components_eq, if_neg hdot, hnone]; rfl
  · cases h

/-! ## The way up -/

def up? : Nat → Path → Option Path
  | 0, p => some p
  | n + 1, p => p.parent?.bind (up? n)

theorem ancestors_of_none {p : Path} (h : p.parent? = none) : p.ancestors = [p] := by
  rw [ancestors]
  split
  · rfl
  · next hq => rw [h] at hq; cases hq

theorem ancestors_of_some {p q : Path} (h : p.parent? = some q) :
    p.ancestors = p :: q.ancestors := by
  rw [ancestors]
  split
  · next hq => rw [h] at hq; cases hq
  · next hq => rw [h] at hq; cases hq; rfl

/-- Induction on the way up. -/
theorem ancestors_induction {motive : Path → Prop}
    (top : ∀ p : Path, p.parent? = none → motive p)
    (step : ∀ p q : Path, p.parent? = some q → motive q → motive p) (p : Path) : motive p := by
  cases h : p.parent? with
  | none => exact top p h
  | some q =>
      have hlt := length_parent? h
      exact step p q h (ancestors_induction top step q)
termination_by p.bytes.length

theorem getElem?_ancestors (p : Path) (i : Nat) : p.ancestors[i]? = p.up? i := by
  induction p using ancestors_induction generalizing i with
  | top p h => cases i <;> simp [ancestors_of_none h, up?, h]
  | step p q h ih => cases i <;> simp [ancestors_of_some h, up?, h, ih]

theorem length_ancestors (p : Path) : p.ancestors.length = p.components.length + 1 := by
  induction p using ancestors_induction with
  | top p h => rw [ancestors_of_none h, components_eq_nil_of_parent? h]; rfl
  | step p q h ih =>
      obtain ⟨hcomponents, hne⟩ := components_parent? h
      have hpos := List.length_pos_iff.mpr hne
      rw [ancestors_of_some h, List.length_cons, ih, hcomponents, List.length_dropLast]
      omega

theorem components_of_mem_ancestors {p q : Path} {i : Nat} (h : p.ancestors[i]? = some q) :
    q.components = p.components.take (p.components.length - i) := by
  induction p using ancestors_induction generalizing i with
  | top p hp =>
      rw [ancestors_of_none hp, List.getElem?_singleton] at h
      split at h
      · next hi => cases h; rw [hi, Nat.sub_zero, List.take_length]
      · cases h
  | step p above hp ih =>
      rw [ancestors_of_some hp] at h
      cases i with
      | zero => cases h; rw [Nat.sub_zero, List.take_length]
      | succ i =>
          rw [List.getElem?_cons_succ] at h
          rw [ih h, (components_parent? hp).1, List.length_dropLast, List.dropLast_eq_take,
            List.take_take]
          congr 1
          omega

end LintServer.Path
