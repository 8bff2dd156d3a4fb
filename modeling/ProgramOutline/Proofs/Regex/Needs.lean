import Mathlib.Data.List.Forall2
import ProgramOutline.Proofs.Regex.Reach

/-!
# The characters that a match needs

A match of a pattern holds a character of each set that the pattern needs, in this order. The end of
the text in which such characters follow one another is as short as can be if each of them is taken
as late as possible. So no match starts after `lastStart?`.

Results:
* `exists_lastStart`: where the needed characters follow, the last start is not passed.
* `takes_of_compile?`: every way through the tree of a pattern passes the characters it needs.
* `Tree.occur_of_matchAt`: they follow where a match starts.
-/

namespace ProgramOutline.Regex

/-! ## Characters of sets -/

/-- Does the text hold a character of each set, in this order? -/
def Occur (needs : List CharSet) (text : List Char) : Prop :=
  List.SublistForall₂ (fun chars c => CharSet.contains chars c = true) needs text

theorem Occur.append {a b : List CharSet} {s t : List Char} (h : Occur a s) (h' : Occur b t) :
    Occur (a ++ b) (s ++ t) := by
  induction h with
  | nil =>
    rename_i s
    induction s with
    | nil => exact h'
    | cons c s ih => exact .cons_right ih
  | cons hc _ ih => exact .cons hc ih
  | cons_right _ ih => exact .cons_right ih

theorem Occur.append_right {needs : List CharSet} {s : List Char} (h : Occur needs s)
    (t : List Char) : Occur needs (s ++ t) :=
  List.append_nil needs ▸ h.append .nil

theorem unmet_cons (sets : List CharSet) (c : Char) (rest : List Char) :
    unmet sets (c :: rest) =
      match unmet sets rest with
      | ([], length) => ([], length)
      | (set :: others, length) =>
        (if set.contains c then others else set :: others, length + c.utf8Size) := rfl

/-- Of the sets that are left to find, each character finds the first one or none. -/
theorem unmet_cons_suffix (sets : List CharSet) (c : Char) (rest : List Char) :
    (unmet sets (c :: rest)).1 <:+ (unmet sets rest).1 := by
  rw [unmet_cons]
  rcases unmet sets rest with ⟨_ | ⟨first, others⟩, length⟩
  · exact List.suffix_refl _
  · dsimp only
    split
    · exact List.suffix_cons first others
    · exact List.suffix_refl _

/-- Sets of which the text holds a character each are found. -/
theorem unmet_suffix {met : List CharSet} {text : List Char} (h : Occur met text)
    (left : List CharSet) : (unmet (met.reverse ++ left) text).1 <:+ left := by
  induction text generalizing met left with
  | nil =>
    cases h
    exact List.suffix_refl left
  | cons c rest ih =>
    cases h with
    | nil => exact (unmet_cons_suffix _ c rest).trans (ih .nil left)
    | cons_right h => exact (unmet_cons_suffix _ c rest).trans (ih h left)
    | cons hc h =>
      rename_i first met
      rw [List.reverse_cons, List.append_assoc, List.singleton_append]
      rcases List.suffix_cons_iff.mp (ih h (first :: left)) with hall | hsome
      · -- all others are found in the text that follows, and here is the character of this one
        rw [unmet_cons]
        rcases hrest : unmet (met.reverse ++ first :: left) rest with ⟨sets, length⟩
        rw [hrest] at hall
        obtain rfl := hall
        dsimp only
        rw [if_pos hc]
      · exact (unmet_cons_suffix _ c rest).trans hsome

theorem unmet_append {sets : List CharSet} {rest : List Char} (h : (unmet sets rest).1 = [])
    (before : List Char) : unmet sets (before ++ rest) = unmet sets rest := by
  induction before with
  | nil => rfl
  | cons c before ih =>
    rw [List.cons_append, unmet_cons, ih]
    rcases hrest : unmet sets rest with ⟨_ | ⟨first, others⟩, length⟩
    · rfl
    · rw [hrest] at h
      cases h

theorem unmet_le (sets : List CharSet) (text : List Char) :
    (unmet sets text).2 ≤ Text.byteLength text := by
  induction text with
  | nil => exact le_rfl
  | cons c rest ih =>
    rw [unmet_cons, Text.byteLength_cons]
    rcases hrest : unmet sets rest with ⟨_ | ⟨first, others⟩, length⟩ <;>
      · rw [hrest] at ih
        dsimp only at ih ⊢
        omega

/-- Where the needed characters follow, the last start is not passed. -/
theorem exists_lastStart {needs : List CharSet} {rest : List Char} (h : Occur needs rest)
    (before : List Char) :
    ∃ last, lastStart? needs (before ++ rest) = some last ∧ Text.byteLength before ≤ last := by
  have hmet : (unmet needs.reverse rest).1 = [] :=
    List.suffix_nil.mp (List.append_nil needs.reverse ▸ unmet_suffix h [])
  have hle := unmet_le needs.reverse rest
  have hwhole := unmet_append hmet before
  rcases hrest : unmet needs.reverse rest with ⟨sets, length⟩
  rw [hrest] at hmet hle hwhole
  dsimp only at hmet hle
  subst hmet
  refine ⟨Text.byteLength (before ++ rest) - length, ?_, ?_⟩
  · rw [lastStart?, hwhole]
  · rw [Text.byteLength_append]
    omega

/-- The last `b` stands at the end, and no `a` comes later than the one before it. -/
example : lastStart? [.single 'a', .single 'b'] "abab".toList = some 2 := by decide +kernel

/-! ## Ways through a tree -/

/-- `b` is ahead of `a` in the same text, and a character of each set lies in between. -/
def Cursor.Passes (needs : List CharSet) (a b : Cursor) : Prop :=
  ∃ taken rest, a.rest = taken ++ rest ∧ b = a.move taken rest ∧ Occur needs taken

namespace Cursor.Passes

variable {needs : List CharSet} {a b c : Cursor}

theorem of_leads (h : a.Leads b) : a.Passes [] b := by
  obtain ⟨taken, rest, hrest, hmove⟩ := h
  exact ⟨taken, rest, hrest, hmove, .nil⟩

theorem trans {needs' : List CharSet} (h : a.Passes needs b) (h' : b.Passes needs' c) :
    a.Passes (needs ++ needs') c := by
  obtain ⟨taken, rest, ha, rfl, hoccur⟩ := h
  obtain ⟨taken', rest', hb, rfl, hoccur'⟩ := h'
  refine ⟨taken ++ taken', rest', ?_, Cursor.move_move .., hoccur.append hoccur'⟩
  rw [ha, List.append_assoc, ← hb, Cursor.move_rest]

theorem trans_leads (h : a.Passes needs b) (h' : b.Leads c) : a.Passes needs c :=
  List.append_nil needs ▸ h.trans (of_leads h')

/-- The needed characters follow the position. -/
theorem occur (h : a.Passes needs b) : Occur needs a.rest := by
  obtain ⟨taken, rest, ha, -, hoccur⟩ := h
  exact ha ▸ hoccur.append_right rest

theorem of_past {chars : CharSet} {d : Char} {rest : List Char} (h : a.rest = d :: rest)
    (hd : chars.contains d = true) : a.Passes [chars] (a.past d rest) :=
  ⟨[d], rest, h, rfl, .cons hd .nil⟩

theorem of_step? {chars : CharSet} (h : a.step? chars = some b) : a.Passes [chars] b := by
  unfold Cursor.step? at h
  split at h
  · cases h
  · rename_i d rest hrest
    split at h
    · rename_i hd
      cases h
      exact of_past hrest hd
    · cases h

theorem of_follow? {text : List Char} (h : a.follow? text = some b) :
    a.Passes (text.map .single) b := by
  induction text generalizing a with
  | nil =>
    cases h
    exact of_leads (.refl _)
  | cons d text ih =>
    unfold Cursor.follow? at h
    split at h
    · cases h
    · rename_i e rest hrest
      split at h
      · rename_i hd
        subst hd
        have hself : (CharSet.single d).contains d = true := by
          simp [CharSet.single, CharSet.range, CharSet.contains, CharSet.inRanges]
        exact (of_past hrest hself).trans (ih h)
      · cases h

/-- A repetition of characters that starts takes one of them. -/
theorem of_skip? {chars : CharSet} {least : Nat} (hleast : least ≠ 0)
    (h : a.skip? chars least = some b) : a.Passes [chars] b := by
  obtain ⟨count, rfl⟩ := Nat.exists_eq_succ_of_ne_zero hleast
  obtain ⟨mid, hmid, h⟩ := Option.bind_eq_some_iff.mp h
  exact (of_step? hmid).trans_leads (Cursor.leads_of_skip? h)

end Cursor.Passes

/-- Whatever holds of all outcomes behind a character of each set holds of the outcome of the action
    that goes on with them. -/
def Takes (needs : List CharSet) (action : Continuation → Continuation) : Prop :=
  ∀ (P : Progress → Prop) (k : Continuation) (p : Progress) (tried : Tried),
    (∀ q tried, p.cursor.Passes needs q.cursor → (k q tried).Holds P) → (action k p tried).Holds P

theorem Forward.takes {action : Continuation → Continuation} (h : Forward action) :
    Takes [] action :=
  fun P k p tried hk => h P k p tried (fun q tried hq => hk q tried (.of_leads hq.1))

/-- Every tree goes forward. -/
theorem Tree.takes_nothing (t : Tree) (size shift : Nat) : Takes [] (t.run size shift) :=
  (t.run_forward size shift).takes

theorem Takes.comp {needs needs' : List CharSet} {a b : Continuation → Continuation}
    (ha : Takes needs a) (hb : Takes needs' b) : Takes (needs ++ needs') (fun k => a (b k)) := by
  intro P k p tried hk
  refine ha P (b k) p tried (fun q tried hq => ?_)
  exact hb P k q tried (fun r tried hr => hk r tried (hq.trans hr))

theorem Takes.comp_forward {needs : List CharSet} {a b : Continuation → Continuation}
    (ha : Takes needs a) (hb : Forward b) : Takes needs (fun k => a (b k)) :=
  List.append_nil needs ▸ ha.comp hb.takes

/-- Turns of a part that must be taken once take what the part takes. -/
theorem takes_takeTurns {part : Part} {needs : List CharSet} (h : ∀ shift, Takes needs (part shift))
    (hforward : ∀ shift, Forward (part shift)) (size mark stride : Nat) {least : Nat}
    (hleast : least ≠ 0) (most : Option Nat) (greedy consuming : Bool) (shift : Nat) :
    Takes needs (takeTurns part size mark stride least most greedy consuming shift) := by
  obtain ⟨count, rfl⟩ := Nat.exists_eq_succ_of_ne_zero hleast
  have hexactly := forward_exactly hforward stride count (shift + stride)
  cases most with
  | some most =>
    have hmost := forward_atMost hforward stride greedy (most - (count + 1)) (shift + mark)
      (shift + (count + 1) * stride)
    exact (h shift).comp_forward (hexactly.comp hmost)
  | none =>
    have hmore := forward_turns (hforward (shift + count * stride)) (shift + mark) greedy (size + 1)
    intro P k p tried hk
    rw [takeTurns, if_neg (by simp)]
    exact (h shift).comp_forward (hexactly.comp hmore) P k p tried hk

namespace Expr

/-- An expression that matches one character needs that character. -/
theorem needs_of_charSet? {e : Expr} {chars : CharSet} (h : e.charSet? = some chars) :
    e.needs = [chars] := by
  unfold charSet? at h
  split at h
  · cases h
    rfl
  · cases h
    rfl
  · cases h

/-- Every way through a numbered tree passes the characters that are needed. -/
theorem takes_number (e : Expr) (next size shift : Nat) :
    Takes e.needs ((e.number next).1.run size shift) := by
  induction e generalizing next shift with
  | empty => exact Tree.takes_nothing _ size shift
  | literal text =>
    intro P k p tried hk
    rw [number, Tree.run]
    split
    · exact hk _ _ (.of_follow? ‹_›)
    · trivial
  | set narrow chars =>
    intro P k p tried hk
    rw [number, Tree.run]
    split
    · exact hk _ _ (.of_step? ‹_›)
    · trivial
  | look condition => exact Tree.takes_nothing _ size shift
  | group index body ih =>
    intro P k p tried hk
    exact ih next shift P _ p tried (fun q tried hq => hk _ tried hq)
  | cat first second ihf ihs => exact (ihf next shift).comp (ihs _ shift)
  | alt first second _ _ => exact Tree.takes_nothing _ size shift
  | rep least most greedy body ih =>
    rw [needs]
    split
    · exact Tree.takes_nothing _ size shift
    · rename_i hleast
      rw [number]
      split
      · rename_i chars hchars
        rw [needs_of_charSet? hchars]
        intro P k p tried hk
        refine holds_many (fun cur hcur following tried hfollowing => hk _ tried ?_)
        exact (Cursor.Passes.of_skip? hleast hcur).trans_leads hfollowing
      · dsimp only
        rw [if_neg (by simp [hleast])]
        exact takes_takeTurns (ih next) (Tree.run_forward size _) size _ _ hleast most greedy _
          shift

end Expr

/-! ## Patterns -/

/-- Every way through the tree of a pattern passes the characters that the pattern needs. -/
theorem takes_of_compile? {source : String} {pattern : Pattern}
    (h : compile? source = some pattern) (size shift : Nat) :
    Takes pattern.needs (pattern.tree.run size shift) := by
  obtain ⟨e, -, h⟩ := Option.bind_eq_some_iff.mp h
  dsimp only at h
  split at h
  · obtain rfl := Option.some.inj h
    dsimp only
    split
    · exact Tree.takes_nothing _ size shift
    · rename_i hstraight
      rw [Expr.tree, if_neg hstraight]
      exact e.takes_number 0 size shift
  · cases h

/-- A match starts where the characters follow that the tree takes. -/
theorem Tree.occur_of_matchAt {t : Tree} {needs : List CharSet} {size : Nat}
    (h : Takes needs (t.run size 0)) {tried tried' : Tried} {cur : Cursor} {m : Match}
    (hm : t.matchAt size tried cur = (some m, tried')) : Occur needs cur.rest := by
  have hrun := h (fun q => cur.Passes needs q.cursor) .found ⟨cur, []⟩ tried (fun q _ hq => hq)
  unfold matchAt at hm
  split at hm
  · rename_i q tried'' hq
    rw [hq] at hrun
    exact Cursor.Passes.occur hrun
  · cases (Prod.mk.inj hm).1

end ProgramOutline.Regex
