import Mathlib.Data.List.Chain
import Mathlib.Data.List.TakeWhile
import Mathlib.Tactic
import ProgramOutline.Unicode.CharSet

/-!
# Sets of characters as sets

A set is kept as ranges that ascend with a gap between any two. Every operation keeps this order,
and with it membership is what the name of the operation says.

Results:
* `inRanges_iff`: the search for a range stops early but misses none.
* `contains_ofList`, `contains_union`: members of a list and of a union; `Ascending.ofList`,
  `Ascending.union`: their order.
* `not_contains_of_disjoint`: sets that are disjoint have no character in common.
-/

namespace ProgramOutline.CharSet

/-- One of the ranges holds `n`. -/
def Covers (ranges : List (Nat × Nat)) (n : Nat) : Prop := ∃ r ∈ ranges, r.1 ≤ n ∧ n ≤ r.2

/-- Ranges in the order of their starts. -/
structure Ordered (ranges : List (Nat × Nat)) : Prop where
  proper : ∀ r ∈ ranges, r.1 ≤ r.2
  starts : ranges.Pairwise (fun r s => r.1 ≤ s.1)

/-- Ascending ranges with a gap between any two. -/
structure Spaced (ranges : List (Nat × Nat)) : Prop where
  proper : ∀ r ∈ ranges, r.1 ≤ r.2
  apart : ranges.Pairwise (fun r s => r.2 + 1 < s.1)

/-- The set is kept in order. -/
def Ascending (s : CharSet) : Prop := Spaced s.ranges

theorem covers_cons {r : Nat × Nat} {ranges : List (Nat × Nat)} {n : Nat} :
    Covers (r :: ranges) n ↔ (r.1 ≤ n ∧ n ≤ r.2) ∨ Covers ranges n := by
  simp [Covers]

theorem ordered_cons {r : Nat × Nat} {ranges : List (Nat × Nat)} :
    Ordered (r :: ranges) ↔ r.1 ≤ r.2 ∧ (∀ s ∈ ranges, r.1 ≤ s.1) ∧ Ordered ranges := by
  constructor
  · rintro ⟨hproper, hstarts⟩
    obtain ⟨hfirst, hrest⟩ := List.pairwise_cons.mp hstarts
    exact ⟨hproper r (by simp), hfirst, fun s hs => hproper s (by simp [hs]), hrest⟩
  · rintro ⟨hr, hfirst, hrest⟩
    exact ⟨List.forall_mem_cons.mpr ⟨hr, hrest.proper⟩,
      List.pairwise_cons.mpr ⟨hfirst, hrest.starts⟩⟩

theorem spaced_cons {r : Nat × Nat} {ranges : List (Nat × Nat)} :
    Spaced (r :: ranges) ↔ r.1 ≤ r.2 ∧ (∀ s ∈ ranges, r.2 + 1 < s.1) ∧ Spaced ranges := by
  constructor
  · rintro ⟨hproper, hapart⟩
    obtain ⟨hfirst, hrest⟩ := List.pairwise_cons.mp hapart
    exact ⟨hproper r (by simp), hfirst, fun s hs => hproper s (by simp [hs]), hrest⟩
  · rintro ⟨hr, hfirst, hrest⟩
    exact ⟨List.forall_mem_cons.mpr ⟨hr, hrest.proper⟩,
      List.pairwise_cons.mpr ⟨hfirst, hrest.apart⟩⟩

theorem spaced_nil : Spaced [] := ⟨by simp, .nil⟩

theorem Spaced.ordered {ranges : List (Nat × Nat)} (h : Spaced ranges) : Ordered ranges := by
  refine ⟨h.proper, h.apart.imp_of_mem (fun {r s} hr _ hrs => ?_)⟩
  have := h.proper r hr
  omega

/-- It is enough that each range is apart from the next one. -/
theorem spaced_of_isChain {ranges : List (Nat × Nat)} (hproper : ∀ r ∈ ranges, r.1 ≤ r.2)
    (h : ranges.IsChain (fun r s => r.2 + 1 < s.1)) : Spaced ranges := by
  induction ranges with
  | nil => exact spaced_nil
  | cons r ranges ih =>
    obtain ⟨hr, hproper⟩ := List.forall_mem_cons.mp hproper
    obtain ⟨hfirst, hchain⟩ := List.isChain_cons.mp h
    have hrest := ih hproper hchain
    refine spaced_cons.mpr ⟨hr, fun s hs => ?_, hrest⟩
    cases ranges with
    | nil => cases hs
    | cons s' rest =>
      have hle : s'.1 ≤ s.1 := by
        rcases List.mem_cons.mp hs with rfl | hs
        · exact le_rfl
        · exact (ordered_cons.mp hrest.ordered).2.1 s hs
      exact (hfirst s' rfl).trans_le hle

/-! ## Membership -/

theorem inRanges_iff {ranges : List (Nat × Nat)} (h : Ordered ranges) (n : Nat) :
    inRanges n ranges = true ↔ Covers ranges n := by
  induction ranges with
  | nil => simp [inRanges, Covers]
  | cons r ranges ih =>
    obtain ⟨lo, hi⟩ := r
    obtain ⟨-, hfirst, hrest⟩ := ordered_cons.mp h
    rw [inRanges, covers_cons]
    split_ifs with hbelow hin
    · have hnone : ¬ Covers ranges n := by
        rintro ⟨s, hs, hlo, -⟩
        have := hfirst s hs
        dsimp only at this
        omega
      simp only [hnone, or_false, false_iff]
      omega
    · simp only [true_iff]
      exact Or.inl ⟨by omega, hin⟩
    · rw [ih hrest]
      constructor
      · exact Or.inr
      · rintro (⟨-, hhi⟩ | hcovers)
        · exact absurd hhi hin
        · exact hcovers

theorem Ascending.contains_iff {s : CharSet} (h : s.Ascending) (c : Char) :
    s.contains c = true ↔ Covers s.ranges c.toNat :=
  inRanges_iff h.ordered c.toNat

/-! ## Characters one by one -/

theorem ascending_single (c : Char) : (single c).Ascending :=
  spaced_cons.mpr ⟨le_rfl, by simp, spaced_nil⟩

theorem contains_single (k c : Char) : (single k).contains c = decide (c = k) := by
  rw [Bool.eq_iff_iff, (ascending_single k).contains_iff, single, range, covers_cons,
    decide_eq_true_eq, Char.ext_iff, ← UInt32.toNat_inj]
  simp only [Covers, List.not_mem_nil, false_and, exists_false, or_false]
  show k.toNat ≤ c.toNat ∧ c.toNat ≤ k.toNat ↔ c.toNat = k.toNat
  omega

theorem insertRange_cons (lo hi a b : Nat) (rest : List (Nat × Nat)) :
    insertRange lo hi ((a, b) :: rest) =
      if hi + 1 < a then (lo, hi) :: (a, b) :: rest
      else if b + 1 < lo then (a, b) :: insertRange lo hi rest
      else insertRange (min lo a) (max hi b) rest := rfl

theorem insertRange_starts {m lo hi : Nat} (hlo : m < lo) {ranges : List (Nat × Nat)}
    (h : ∀ r ∈ ranges, m < r.1) : ∀ r ∈ insertRange lo hi ranges, m < r.1 := by
  induction ranges generalizing lo hi with
  | nil => simpa [insertRange] using hlo
  | cons s ranges ih =>
    obtain ⟨a, b⟩ := s
    obtain ⟨ha, hrest⟩ := List.forall_mem_cons.mp h
    rw [insertRange_cons]
    split_ifs
    · exact List.forall_mem_cons.mpr ⟨hlo, h⟩
    · exact List.forall_mem_cons.mpr ⟨ha, ih hlo hrest⟩
    · exact ih (lt_min hlo ha) hrest

theorem spaced_insertRange {lo hi : Nat} (hle : lo ≤ hi) {ranges : List (Nat × Nat)}
    (h : Spaced ranges) : Spaced (insertRange lo hi ranges) := by
  induction ranges generalizing lo hi with
  | nil => exact spaced_cons.mpr ⟨hle, by simp, h⟩
  | cons s ranges ih =>
    obtain ⟨a, b⟩ := s
    obtain ⟨hab, hfirst, hrest⟩ := spaced_cons.mp h
    dsimp only at hab hfirst
    rw [insertRange_cons]
    split_ifs with hbefore hafter
    · refine spaced_cons.mpr ⟨hle, List.forall_mem_cons.mpr ⟨hbefore, fun s hs => ?_⟩, h⟩
      have := hfirst s hs
      dsimp only
      omega
    · exact spaced_cons.mpr ⟨hab, insertRange_starts hafter hfirst, ih hle hrest⟩
    · exact ih (by omega) hrest

theorem covers_insertRange {lo hi : Nat} (hle : lo ≤ hi) {ranges : List (Nat × Nat)}
    (h : Spaced ranges) (n : Nat) :
    Covers (insertRange lo hi ranges) n ↔ (lo ≤ n ∧ n ≤ hi) ∨ Covers ranges n := by
  induction ranges generalizing lo hi with
  | nil => exact covers_cons
  | cons s ranges ih =>
    obtain ⟨a, b⟩ := s
    obtain ⟨hab, -, hrest⟩ := spaced_cons.mp h
    dsimp only at hab
    rw [insertRange_cons]
    split_ifs with hbefore hafter
    · rw [covers_cons]
    · rw [covers_cons, covers_cons, ih hle hrest]
      tauto
    · -- the ranges touch, so together they are the range from the first start to the last end
      rw [ih (by omega) hrest, covers_cons, ← or_assoc]
      refine or_congr_left ?_
      dsimp only
      omega

theorem foldl_insert (chars : List Char) {ranges : List (Nat × Nat)} (h : Spaced ranges) :
    Spaced (chars.foldl (fun ranges c => insertRange c.toNat c.toNat ranges) ranges) ∧
      ∀ n, Covers (chars.foldl (fun ranges c => insertRange c.toNat c.toNat ranges) ranges) n ↔
        (∃ c ∈ chars, c.toNat = n) ∨ Covers ranges n := by
  induction chars generalizing ranges with
  | nil => exact ⟨h, by simp⟩
  | cons c chars ih =>
    obtain ⟨hspaced, hcovers⟩ := ih (spaced_insertRange (le_refl c.toNat) h)
    refine ⟨hspaced, fun n => ?_⟩
    rw [List.foldl_cons, hcovers, covers_insertRange (le_refl c.toNat) h, ← le_antisymm_iff]
    simp only [List.mem_cons, exists_eq_or_imp]
    rw [or_left_comm, or_assoc]

theorem Ascending.ofList (chars : List Char) : (ofList chars).Ascending :=
  (foldl_insert chars spaced_nil).1

theorem contains_ofList (chars : List Char) (c : Char) :
    (ofList chars).contains c = decide (c ∈ chars) := by
  rw [Bool.eq_iff_iff, (Ascending.ofList chars).contains_iff, CharSet.ofList,
    (foldl_insert chars spaced_nil).2, decide_eq_true_eq]
  constructor
  · rintro (⟨d, hd, hcode⟩ | ⟨r, hr, -⟩)
    · obtain rfl : d = c := Char.toNat_inj.mp hcode
      exact hd
    · cases hr
  · exact fun hc => Or.inl ⟨c, hc, rfl⟩

/-! ## Unions -/

theorem weave_cons (r s : Nat × Nat) (next : List (Nat × Nat) → List (Nat × Nat))
    (rest : List (Nat × Nat)) :
    weave r next (s :: rest) =
      if s.1 < r.1 then s :: weave r next rest else r :: next (s :: rest) := rfl

theorem mem_weave {r x : Nat × Nat} {rest : List (Nat × Nat)}
    {next : List (Nat × Nat) → List (Nat × Nat)}
    (hnext : ∀ ranges, x ∈ next ranges ↔ x ∈ rest ∨ x ∈ ranges) (ranges : List (Nat × Nat)) :
    x ∈ weave r next ranges ↔ x ∈ r :: rest ∨ x ∈ ranges := by
  induction ranges with
  | nil => simp [weave, hnext]
  | cons s ranges ih =>
    rw [weave_cons]
    split_ifs
    · rw [List.mem_cons, ih]
      simp only [List.mem_cons]
      tauto
    · simp only [List.mem_cons, hnext]
      tauto

theorem mem_interleave (a b : List (Nat × Nat)) (x : Nat × Nat) :
    x ∈ interleave a b ↔ x ∈ a ∨ x ∈ b := by
  induction a generalizing b with
  | nil => simp [interleave]
  | cons r rest ih => exact mem_weave ih b

theorem ordered_weave {r : Nat × Nat} {rest : List (Nat × Nat)}
    {next : List (Nat × Nat) → List (Nat × Nat)} (hr : Ordered (r :: rest))
    (hmem : ∀ x ranges, x ∈ next ranges ↔ x ∈ rest ∨ x ∈ ranges)
    (hordered : ∀ ranges, Ordered ranges → Ordered (next ranges)) {ranges : List (Nat × Nat)}
    (h : Ordered ranges) : Ordered (weave r next ranges) := by
  obtain ⟨hproper, hfirst, -⟩ := ordered_cons.mp hr
  induction ranges with
  | nil =>
    refine ordered_cons.mpr ⟨hproper, fun x hx => ?_, hordered [] h⟩
    rcases (hmem x []).mp hx with hx | hx
    · exact hfirst x hx
    · cases hx
  | cons s ranges ih =>
    obtain ⟨hs, hafter, hrest⟩ := ordered_cons.mp h
    rw [weave_cons]
    split_ifs with hlt
    · refine ordered_cons.mpr ⟨hs, fun x hx => ?_, ih hrest⟩
      rcases (mem_weave (hmem x) ranges).mp hx with hx | hx
      · rcases List.mem_cons.mp hx with rfl | hx
        · exact hlt.le
        · exact hlt.le.trans (hfirst x hx)
      · exact hafter x hx
    · refine ordered_cons.mpr ⟨hproper, fun x hx => ?_, hordered _ h⟩
      rcases (hmem x (s :: ranges)).mp hx with hx | hx
      · exact hfirst x hx
      · rcases List.mem_cons.mp hx with rfl | hx
        · exact not_lt.mp hlt
        · exact (not_lt.mp hlt).trans (hafter x hx)

theorem ordered_interleave {a b : List (Nat × Nat)} (ha : Ordered a) (hb : Ordered b) :
    Ordered (interleave a b) := by
  induction a generalizing b with
  | nil => exact hb
  | cons r rest ih =>
    exact ordered_weave ha (fun x ranges => mem_interleave rest ranges x)
      (fun ranges hranges => ih (ordered_cons.mp ha).2.2 hranges) hb

/-- The order after a range has been merged with the one before it. -/
theorem Ordered.merged {lo hi a b : Nat} {ranges : List (Nat × Nat)}
    (h : Ordered ((lo, hi) :: (a, b) :: ranges)) : Ordered ((lo, max hi b) :: ranges) := by
  obtain ⟨hle, hfirst, hrest⟩ := ordered_cons.mp h
  exact ordered_cons.mpr ⟨le_max_of_le_left hle, fun s hs => hfirst s (by simp [hs]),
    (ordered_cons.mp hrest).2.2⟩

theorem fuse_cons (lo hi a b : Nat) (rest : List (Nat × Nat)) :
    fuse lo hi ((a, b) :: rest) =
      if a ≤ hi + 1 then fuse lo (max hi b) rest else (lo, hi) :: fuse a b rest := rfl

theorem fuse_starts {lo hi : Nat} {ranges : List (Nat × Nat)} (h : Ordered ((lo, hi) :: ranges)) :
    ∀ r ∈ fuse lo hi ranges, lo ≤ r.1 := by
  induction ranges generalizing lo hi with
  | nil => simp [fuse]
  | cons s ranges ih =>
    obtain ⟨a, b⟩ := s
    obtain ⟨-, hfirst, hrest⟩ := ordered_cons.mp h
    rw [fuse_cons]
    split_ifs
    · exact ih h.merged
    · exact List.forall_mem_cons.mpr
        ⟨le_rfl, fun r hr => (hfirst (a, b) (by simp)).trans (ih hrest r hr)⟩

theorem spaced_fuse {lo hi : Nat} {ranges : List (Nat × Nat)} (h : Ordered ((lo, hi) :: ranges)) :
    Spaced (fuse lo hi ranges) := by
  induction ranges generalizing lo hi with
  | nil => exact spaced_cons.mpr ⟨(ordered_cons.mp h).1, by simp, spaced_nil⟩
  | cons s ranges ih =>
    obtain ⟨a, b⟩ := s
    obtain ⟨hle, -, hrest⟩ := ordered_cons.mp h
    rw [fuse_cons]
    split_ifs with htouch
    · exact ih h.merged
    · exact spaced_cons.mpr
        ⟨hle, fun r hr => (not_le.mp htouch).trans_le (fuse_starts hrest r hr), ih hrest⟩

theorem covers_fuse {lo hi : Nat} {ranges : List (Nat × Nat)} (h : Ordered ((lo, hi) :: ranges))
    (n : Nat) : Covers (fuse lo hi ranges) n ↔ Covers ((lo, hi) :: ranges) n := by
  induction ranges generalizing lo hi with
  | nil => rfl
  | cons s ranges ih =>
    obtain ⟨a, b⟩ := s
    obtain ⟨hle, hfirst, hrest⟩ := ordered_cons.mp h
    have hstart : lo ≤ a := hfirst (a, b) (by simp)
    have hab : a ≤ b := (ordered_cons.mp hrest).1
    rw [fuse_cons]
    split_ifs with htouch
    · rw [ih h.merged, covers_cons, covers_cons, covers_cons, ← or_assoc]
      refine or_congr_left ?_
      dsimp only at hle ⊢
      omega
    · rw [covers_cons, ih hrest, ← covers_cons]

theorem spaced_fuseAll {ranges : List (Nat × Nat)} (h : Ordered ranges) :
    Spaced (fuseAll ranges) := by
  cases ranges with
  | nil => exact spaced_nil
  | cons r ranges => exact spaced_fuse h

theorem covers_fuseAll {ranges : List (Nat × Nat)} (h : Ordered ranges) (n : Nat) :
    Covers (fuseAll ranges) n ↔ Covers ranges n := by
  cases ranges with
  | nil => rfl
  | cons r ranges => exact covers_fuse h n

theorem Ascending.union {s t : CharSet} (hs : s.Ascending) (ht : t.Ascending) :
    (s.union t).Ascending :=
  spaced_fuseAll (ordered_interleave hs.ordered ht.ordered)

theorem contains_union {s t : CharSet} (hs : s.Ascending) (ht : t.Ascending) (c : Char) :
    (s.union t).contains c = (s.contains c || t.contains c) := by
  have hordered := ordered_interleave hs.ordered ht.ordered
  rw [Bool.eq_iff_iff, (hs.union ht).contains_iff, Bool.or_eq_true, hs.contains_iff,
    ht.contains_iff, CharSet.union, covers_fuseAll hordered]
  simp only [Covers, mem_interleave, or_and_right, exists_or]

/-! ## Disjoint sets -/

/-- Ranges that end before `lo` cover no number from `lo` on. -/
theorem covers_dropWhile {ranges : List (Nat × Nat)} {lo n : Nat} (hlo : lo ≤ n)
    (h : Covers ranges n) : Covers (ranges.dropWhile (fun r => r.2 < lo)) n := by
  obtain ⟨s, hs, hsn⟩ := h
  rw [← List.takeWhile_append_dropWhile (p := fun r : Nat × Nat => decide (r.2 < lo))
    (l := ranges)] at hs
  rcases List.mem_append.mp hs with hs | hs
  · have := List.mem_takeWhile_imp hs
    simp only [decide_eq_true_eq] at this
    omega
  · exact ⟨s, hs, hsn⟩

/-- If two lists of ranges have no common parts, no number is in a range of both. -/
theorem not_covers_of_overlaps {a b : List (Nat × Nat)} (ha : Ordered a) (hb : Ordered b)
    (h : overlaps a b = []) {n : Nat} (hn : Covers a n) : ¬ Covers b n := by
  induction a generalizing b with
  | nil =>
    obtain ⟨r, hr, -⟩ := hn
    cases hr
  | cons r rest ih =>
    obtain ⟨lo, hi⟩ := r
    obtain ⟨-, hfirst, hrest⟩ := ordered_cons.mp ha
    rw [overlaps] at h
    obtain ⟨hhere, hlater⟩ := List.append_eq_nil_iff.mp h
    have hsuffix := List.dropWhile_suffix (fun r : Nat × Nat => decide (r.2 < lo)) (l := b)
    have hdropped : Ordered (b.dropWhile (fun r => r.2 < lo)) :=
      ⟨fun s hs => hb.proper s (hsuffix.mem hs), hb.starts.sublist hsuffix.sublist⟩
    -- the ranges that are dropped end before `lo`, and `n` is not before it
    have hlo : lo ≤ n := by
      obtain ⟨s, hs, hsn, -⟩ := hn
      rcases List.mem_cons.mp hs with rfl | hs
      · exact hsn
      · exact (hfirst s hs).trans hsn
    intro hbn
    rcases covers_cons.mp hn with ⟨-, hhi⟩ | hn
    · have hafter : ∀ s ∈ b.dropWhile (fun r => r.2 < lo), hi < s.1 := by
        cases hdrop : b.dropWhile (fun r => r.2 < lo) with
        | nil => simp
        | cons s others =>
          rw [hdrop] at hhere hdropped
          have hs : hi < s.1 := by
            by_contra hle
            simp [not_lt.mp hle] at hhere
          exact List.forall_mem_cons.mpr
            ⟨hs, fun t ht => hs.trans_le ((ordered_cons.mp hdropped).2.1 t ht)⟩
      obtain ⟨s, hs, hsn, -⟩ := covers_dropWhile hlo hbn
      have := hafter s hs
      dsimp only at hhi
      omega
    · exact ih hrest hdropped hlater hn (covers_dropWhile hlo hbn)

theorem not_contains_of_disjoint {s t : CharSet} (hs : s.Ascending) (ht : t.Ascending)
    (h : s.disjoint t = true) {c : Char} (hc : s.contains c = true) : t.contains c = false := by
  rw [disjoint, inter, List.isEmpty_iff] at h
  rw [Bool.eq_false_iff, Ne, ht.contains_iff]
  exact not_covers_of_overlaps hs.ordered ht.ordered h ((hs.contains_iff c).mp hc)

end ProgramOutline.CharSet
