import Mathlib.Tactic
import ProgramOutline.Regex.Pattern

/-!
# The marks of a tree

Every marked choice of a numbered tree has marks of its own. The marks of a part lie in a range, and
the ranges of the parts of a tree do not overlap; neither do those of the copies of a repeated body,
which are moved on by the stride.

Results:
* `Tree.Marked`: the marks of a tree lie in a range, and no two choices share one.
* `Expr.marked_number`: numbering gives such a tree.
* `marked_of_compile?`: the tree of a pattern is one.
-/

namespace ProgramOutline.Regex

/-- The marks of the tree, and those of the copies of its repeated parts, lie in the range from `lo`
    to `hi`, and no two choices share one. -/
inductive Tree.Marked : Tree → Nat → Nat → Prop
  | empty {lo hi : Nat} (h : lo ≤ hi) : Marked empty lo hi
  | literal {text : List Char} {lo hi : Nat} (h : lo ≤ hi) : Marked (literal text) lo hi
  | set {chars : CharSet} {lo hi : Nat} (h : lo ≤ hi) : Marked (set chars) lo hi
  | look {condition : Look} {lo hi : Nat} (h : lo ≤ hi) : Marked (look condition) lo hi
  | group {index lo hi : Nat} {body : Tree} (h : Marked body lo hi) :
    Marked (group index body) lo hi
  | cat {first second : Tree} {lo mid hi : Nat} (hfirst : Marked first lo mid)
    (hsecond : Marked second mid hi) : Marked (cat first second) lo hi
  | alt {first second : Tree} {lo mid hi : Nat} (hfirst : Marked first lo mid)
    (hsecond : Marked second mid hi) : Marked (alt none first second) lo hi
  | choice {mark : Nat} {first second : Tree} {lo mid hi : Nat} (hfirst : Marked first lo mid)
    (hsecond : Marked second mid mark) (h : mark < hi) :
    Marked (alt (some mark) first second) lo hi
  | whole {chars : CharSet} {least lo hi : Nat} (h : lo ≤ hi) : Marked (whole chars least) lo hi
  | chars {chars : CharSet} {least : Nat} {most : Option Nat} {greedy : Bool} {lo hi : Nat}
    (h : lo ≤ hi) : Marked (many none chars least most greedy) lo hi
  | many {mark : Nat} {chars : CharSet} {least : Nat} {most : Option Nat} {greedy : Bool}
    {lo hi : Nat} (hlo : lo ≤ mark) (hhi : mark + 2 ≤ hi) :
    Marked (many (some mark) chars least most greedy) lo hi
  | rep {mark stride least : Nat} {most : Option Nat} {greedy consuming : Bool} {body : Tree}
    {lo hi : Nat} (hbody : Marked body lo (lo + stride))
    (hlo : lo + Expr.copies least most * stride ≤ mark)
    (hhi : mark + Expr.choices least most ≤ hi) :
    Marked (rep mark stride least most greedy consuming body) lo hi

namespace Tree.Marked

theorem le {t : Tree} {lo hi : Nat} (h : t.Marked lo hi) : lo ≤ hi := by
  induction h with
  | empty h | literal h | set h | look h | whole h | chars h => exact h
  | group _ ih => exact ih
  | cat _ _ ihf ihs => exact ihf.trans ihs
  | alt _ _ ihf ihs => exact ihf.trans ihs
  | choice _ _ h ihf ihs => exact (ihf.trans ihs).trans h.le
  | many hlo hhi => omega
  | rep _ hlo hhi => omega

theorem mono {t : Tree} {lo hi hi' : Nat} (h : t.Marked lo hi) (hle : hi ≤ hi') :
    t.Marked lo hi' := by
  induction h with
  | empty h => exact .empty (h.trans hle)
  | literal h => exact .literal (h.trans hle)
  | set h => exact .set (h.trans hle)
  | look h => exact .look (h.trans hle)
  | group _ ih => exact .group (ih hle)
  | cat hfirst _ _ ih => exact .cat hfirst (ih hle)
  | alt hfirst _ _ ih => exact .alt hfirst (ih hle)
  | choice hfirst hsecond h => exact .choice hfirst hsecond (h.trans_le hle)
  | whole h => exact .whole (h.trans hle)
  | chars h => exact .chars (h.trans hle)
  | many hlo hhi => exact .many hlo (hhi.trans hle)
  | rep hbody hlo hhi => exact .rep hbody hlo (hhi.trans hle)

/-- A tree without its outermost mark uses marks of the same range. -/
theorem dropMark {t : Tree} {lo hi : Nat} (h : t.Marked lo hi) : t.dropMark.Marked lo hi := by
  unfold Tree.dropMark
  split
  · cases h with
    | alt hfirst hsecond => exact .alt hfirst hsecond
    | choice hfirst hsecond h => exact .alt hfirst (hsecond.mono h.le)
  · exact h

theorem optional {t : Tree} {mark lo : Nat} (h : t.Marked lo mark) (greedy : Bool) :
    (Tree.optional (some mark) greedy t).Marked lo (mark + 1) := by
  unfold Tree.optional
  split
  · exact .choice h (.empty le_rfl) (Nat.lt_succ_self mark)
  · exact .choice (.empty le_rfl) h (Nat.lt_succ_self mark)

end Tree.Marked

namespace Expr

/-- A tree that is numbered from `next` on has its marks between that and the next free mark. -/
theorem marked_number (e : Expr) (next : Nat) :
    (e.number next).1.Marked next (e.number next).2 := by
  induction e generalizing next with
  | empty => exact .empty le_rfl
  | literal text => exact .literal le_rfl
  | set narrow chars => exact .set le_rfl
  | look condition => exact .look le_rfl
  | group index body ih => exact .group (ih next)
  | cat first second ihf ihs => exact .cat (ihf next) (ihs _)
  | alt first second ihf ihs => exact .choice (ihf next) (ihs _).dropMark (Nat.lt_succ_self _)
  | rep least most greedy body ih =>
    have hbody := ih next
    rw [number]
    split
    · exact .many le_rfl le_rfl
    · dsimp only
      split
      · exact hbody.optional greedy
      · refine .rep ?_ le_rfl le_rfl
        rwa [Nat.add_sub_cancel' hbody.le]

/-- A plain tree has no marks, provided every repetition in it is settled. -/
theorem marked_plainTree (e : Expr) {following : Unit → Option Following}
    (h : e.settled following = true) (next : Nat) :
    (e.plainTree following).Marked next next := by
  induction e generalizing following with
  | empty => exact .empty le_rfl
  | literal text => exact .literal le_rfl
  | set narrow chars => exact .set le_rfl
  | look condition => exact .look le_rfl
  | group index body ih => exact .group (ih h)
  | cat first second ihf ihs =>
    obtain ⟨hfirst, hsecond⟩ := Bool.and_eq_true_iff.mp h
    exact .cat (ihf hfirst) (ihs hsecond)
  | alt first second ihf ihs =>
    obtain ⟨hfirst, hsecond⟩ := Bool.and_eq_true_iff.mp h
    exact .alt (ihf hfirst) (ihs hsecond)
  | rep least most greedy body ih =>
    rw [settled] at h
    rw [plainTree]
    cases hset : body.charSet? with
    | some chars =>
      rw [hset] at h
      dsimp only at h ⊢
      rw [if_pos h]
      exact .whole le_rfl
    | none =>
      rw [hset] at h
      obtain ⟨hoption, hbody⟩ := Bool.and_eq_true_iff.mp h
      dsimp only
      rw [if_pos hoption, Tree.optional]
      split
      · exact .alt (ih hbody) (.empty le_rfl)
      · exact .alt (.empty le_rfl) (ih hbody)

theorem exists_marked_tree (e : Expr) : ∃ hi, e.tree.Marked 0 hi := by
  unfold tree
  split
  · rename_i h
    rw [straight, Bool.and_eq_true] at h
    exact ⟨0, e.marked_plainTree h.2 0⟩
  · exact ⟨_, e.marked_number 0⟩

end Expr

/-- No two choices of a pattern share a mark. -/
theorem marked_of_compile? {source : String} {pattern : Pattern}
    (h : compile? source = some pattern) : ∃ hi, pattern.tree.Marked 0 hi := by
  obtain ⟨e, -, h⟩ := Option.bind_eq_some_iff.mp h
  dsimp only at h
  split at h
  · obtain rfl := Option.some.inj h
    exact e.exists_marked_tree
  · cases h

/-- A pattern with two repetitions. -/
example : (compile? "(?:a|b)*c*").isSome = true := by decide +kernel

end ProgramOutline.Regex
