import ProgramOutline.Proofs.Grammar.Reading
import ProgramOutline.Proofs.Regex.Cursor
import ProgramOutline.Proofs.Regex.Ways

/-!
# Trees that read words, runs and signs

Each reader has its tree. A tree of this kind has at most one way to match, and that way moves the
position over what the reader takes.

Results:
* `ways_wordThen`, `ways_word`, `ways_words`: a word before another tree, a word, and a choice of
  words of which no two can stand in one place.
* `ways_whole_zero`, `ways_whole_one`: runs of characters.
* `ways_sign`: a single character.
* `ways_cat`, `ways_group`: such trees in sequence and as groups.
-/

namespace ProgramOutline.Grammar

open Regex Unicode

/-- The progress after a part of the text has been taken. -/
def moved (p : Progress) (found : List Char × List Char) : Progress :=
  ⟨p.cursor.move found.1 found.2, p.groups⟩

@[simp]
theorem moved_cursor (p : Progress) (found : List Char × List Char) :
    (moved p found).cursor = p.cursor.move found.1 found.2 := rfl

@[simp]
theorem moved_groups (p : Progress) (found : List Char × List Char) :
    (moved p found).groups = p.groups := rfl

/-! ## Words -/

/-- The set of a letter in any case. -/
def letter (k : Char) : CharSet := (CharSet.single k).caseClosure

/-- The letters of a word in any case, then `tail`. -/
def wordThen (word : List Char) (tail : Tree) : Tree :=
  word.foldr (fun k t => .cat (.set (letter k)) t) tail

/-- The letters of a word in any case. -/
def wordTree : List Char → Tree
  | [] => .empty
  | [k] => .set (letter k)
  | k :: l :: word => .cat (.set (letter k)) (wordTree (l :: word))

/-- One of several words. -/
def wordsTree : List (List Char) → Tree
  | [] => .empty
  | [word] => wordTree word
  | word :: w :: words => .alt none (wordTree word) (wordsTree (w :: words))

theorem ways_letter {k : Char} (hk : IsLetter k) (p : Progress) :
    (Tree.set (letter k)).ways p =
      match p.cursor.rest with
      | [] => []
      | c :: rest => if sameCase k c then [moved p ([c], rest)] else [] := by
  obtain ⟨⟨before, text, offset⟩, groups⟩ := p
  cases text with
  | nil => rfl
  | cons c rest =>
    rw [Tree.ways_set, Cursor.step?_cons, letter, contains_caseClosure_single hk]
    dsimp only
    split <;> rfl

theorem ways_wordThen {word : List Char} (hword : ∀ k ∈ word, IsLetter k) (tail : Tree)
    (p : Progress) :
    (wordThen word tail).ways p =
      (word? word p.cursor.rest).toList.flatMap (fun found => tail.ways (moved p found)) := by
  induction word generalizing p with
  | nil => simp [wordThen, word?, moved]
  | cons k word ih =>
    rw [wordThen, List.foldr_cons, Tree.ways_cat, ways_letter (hword k (by simp)), ← wordThen]
    cases hrest : p.cursor.rest with
    | nil => rfl
    | cons c rest =>
      rw [word?_cons]
      dsimp only
      split
      · rw [List.flatMap_singleton, ih (fun k hk => hword k (by simp [hk]))]
        simp only [moved_cursor, Cursor.move_rest]
        cases word? word rest with
        | none => rfl
        | some found => simp [moved]
      · rfl

theorem ways_word {word : List Char} (hword : ∀ k ∈ word, IsLetter k) (p : Progress) :
    (wordTree word).ways p = ((word? word p.cursor.rest).map (moved p)).toList := by
  induction word generalizing p with
  | nil => simp [wordTree, word?, moved, Tree.ways_empty]
  | cons k word ih =>
    cases word with
    | nil =>
      rw [wordTree, ways_letter (hword k (by simp))]
      cases hrest : p.cursor.rest with
      | nil => rfl
      | cons c rest =>
        simp only [word?_cons]
        split <;> rfl
    | cons l word =>
      rw [wordTree, Tree.ways_cat, ways_letter (hword k (by simp))]
      cases hrest : p.cursor.rest with
      | nil => rfl
      | cons c rest =>
        by_cases hc : sameCase k c = true
        · rw [word?_cons]
          simp only [hc, if_true, List.flatMap_singleton]
          rw [ih (fun k hk => hword k (by simp [hk]))]
          simp only [moved_cursor, Cursor.move_rest]
          cases word? (l :: word) rest with
          | none => rfl
          | some found => simp [moved]
        · simp [hc, word?_cons]

/-- Of words that exclude each other at most one can be read, so the order of the choices does not
    matter. -/
theorem ways_words {words : List (List Char)} (hne : words ≠ [])
    (hletters : ∀ word ∈ words, ∀ k ∈ word, IsLetter k) (hclash : words.Pairwise Clash)
    (p : Progress) :
    (wordsTree words).ways p = ((oneOf? words p.cursor.rest).map (moved p)).toList := by
  induction words with
  | nil => exact absurd rfl hne
  | cons word words ih =>
    obtain ⟨hfirst, hclash⟩ := List.pairwise_cons.mp hclash
    have hword := ways_word (hletters word (by simp)) p
    rw [oneOf?_cons]
    cases words with
    | nil =>
      rw [wordsTree, hword]
      cases word? word p.cursor.rest <;> rfl
    | cons w words =>
      rw [wordsTree, Tree.ways_alt, hword,
        ih (by simp) (fun w hw => hletters w (by simp [hw])) hclash]
      cases hfound : word? word p.cursor.rest with
      | none => rfl
      | some found =>
        rw [oneOf?_of_clash hfirst hfound]
        rfl

/-! ## Runs and signs -/

theorem ways_whole_zero (chars : CharSet) (p : Progress) :
    (Tree.whole chars 0).ways p =
      [moved p
        (p.cursor.rest.takeWhile chars.contains, p.cursor.rest.dropWhile chars.contains)] := by
  rw [Tree.ways_whole, Cursor.skip?, Option.map_some, Option.toList_some, Cursor.skipAll_eq]
  rfl

theorem ways_whole_one (chars : CharSet) (p : Progress) :
    (Tree.whole chars 1).ways p = ((run? chars.contains p.cursor.rest).map (moved p)).toList := by
  obtain ⟨⟨before, text, offset⟩, groups⟩ := p
  rw [Tree.ways_whole]
  cases text with
  | nil => rfl
  | cons c rest =>
    simp only [Cursor.skip?, Cursor.step?_cons]
    split
    · rename_i hc
      simp [run?, hc, Cursor.skipAll_eq, moved, Cursor.move, List.getLast?_cons, Nat.add_assoc]
    · rename_i hc
      simp [run?, hc]

theorem ways_sign (sign : Char) (p : Progress) :
    (Tree.literal [sign]).ways p =
      ((sign? sign p.cursor.rest).map (fun rest => moved p ([sign], rest))).toList := by
  rw [Tree.ways_literal, Cursor.follow?_single]
  cases p.cursor.rest with
  | nil => rfl
  | cons c rest =>
    by_cases h : sign = c
    · subst h
      simp [sign?, moved]
    · simp [sign?, h, Ne.symm h]

/-! ## Sequences -/

/-- The progress after a part of the text has been taken as a group. -/
def captured (index : Nat) (p : Progress) (found : List Char × List Char) : Progress :=
  ⟨p.cursor.move found.1 found.2,
    (index, ⟨p.cursor.offset, p.cursor.offset + Text.byteLength found.1⟩) :: p.groups⟩

@[simp]
theorem captured_cursor (index : Nat) (p : Progress) (found : List Char × List Char) :
    (captured index p found).cursor = p.cursor.move found.1 found.2 := rfl

theorem ways_group {body : Tree} {p : Progress} {read : Option (List Char × List Char)}
    (h : body.ways p = (read.map (moved p)).toList) (index : Nat) :
    (Tree.group index body).ways p = (read.map (captured index p)).toList := by
  rw [Tree.ways_group, h]
  cases read <;> rfl

theorem ways_cat {first : Tree} {p : Progress} {read : Option (List Char × List Char)}
    {after : List Char × List Char → Progress} (h : first.ways p = (read.map after).toList)
    (second : Tree) :
    (Tree.cat first second).ways p = read.elim [] (fun found => second.ways (after found)) := by
  rw [Tree.ways_cat, h]
  cases read with
  | none => rfl
  | some found => exact List.flatMap_singleton ..

theorem ways_span_cat (chars : CharSet) (second : Tree) (p : Progress) :
    (Tree.cat (.whole chars 0) second).ways p =
      second.ways (moved p
        (p.cursor.rest.takeWhile chars.contains, p.cursor.rest.dropWhile chars.contains)) := by
  rw [Tree.ways_cat, ways_whole_zero, List.flatMap_singleton]

theorem ways_group_span_cat (index : Nat) (chars : CharSet) (second : Tree) (p : Progress) :
    (Tree.cat (.group index (.whole chars 0)) second).ways p =
      second.ways (captured index p
        (p.cursor.rest.takeWhile chars.contains, p.cursor.rest.dropWhile chars.contains)) := by
  rw [Tree.ways_cat, Tree.ways_group, ways_whole_zero, List.map_singleton, List.flatMap_singleton]
  rfl

theorem ways_sign_cat (sign : Char) (second : Tree) (p : Progress) :
    (Tree.cat (.literal [sign]) second).ways p =
      (sign? sign p.cursor.rest).elim [] (fun rest => second.ways (moved p ([sign], rest))) := by
  rw [Tree.ways_cat, ways_sign]
  cases sign? sign p.cursor.rest with
  | none => rfl
  | some rest => exact List.flatMap_singleton ..

/-! ## Sets of the default rules -/

/-- The set of spaces and tabs. -/
def gapSet : CharSet := ⟨[(9, 9), (32, 32)]⟩

/-- The set of all characters but the sign. -/
def allBut (sign : Nat) : CharSet := ⟨[(0, sign - 1), (sign + 1, CharSet.lastCode)]⟩

theorem contains_word : word.contains = isWord := rfl

theorem contains_gapSet : gapSet.contains = isGap := by
  funext c
  have hspace : c = ' ' ↔ c.toNat = 32 := by
    rw [← Char.toNat_inj]
    rfl
  have htab : c = '\t' ↔ c.toNat = 9 := by
    rw [← Char.toNat_inj]
    rfl
  rw [Bool.eq_iff_iff, isGap, Bool.or_eq_true, beq_iff_eq, beq_iff_eq, hspace, htab]
  simp only [CharSet.contains, gapSet, CharSet.inRanges]
  split_ifs <;> simp <;> omega

theorem contains_allBut {sign : Char} (hpos : 0 < sign.toNat) :
    (allBut sign.toNat).contains = (fun c => c != sign) := by
  funext c
  have hlast : c.toNat ≤ CharSet.lastCode := by
    have hvalid : c.val.toNat.isValidChar := c.valid
    have htoNat : c.val.toNat = c.toNat := rfl
    rw [htoNat, Nat.isValidChar] at hvalid
    rw [CharSet.lastCode]
    omega
  rw [Bool.eq_iff_iff, bne_iff_ne, ne_eq, ← Char.toNat_inj]
  simp only [CharSet.contains, allBut, CharSet.inRanges]
  split_ifs <;> simp <;> omega

end ProgramOutline.Grammar
