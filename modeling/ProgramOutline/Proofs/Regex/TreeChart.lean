import ProgramOutline.Proofs.Regex.Chart
import ProgramOutline.Proofs.Regex.Marks

/-!
# The chart of a tree

Copies of a repeated part have marks of their own, so their charts are put together like those of
other parts. Turns of one copy come back to the same choice; since they start at different offsets,
the bound on their number is never met. So every tree whose choices have marks of their own has a
chart.

Results:
* `charted_turns`: turns that come back to the same choice.
* `charted_exactly`, `charted_atMost`: copies of a part.
* `Tree.charted`: a tree whose choices have marks of their own.
-/

namespace ProgramOutline.Regex

variable {text : List Char}

/-! ## Turns -/

/-- The number of offsets at which a choice has not been tried. -/
def Tried.free (t : Tried) (size mark : Nat) : Nat :=
  ((Finset.range size).filter (fun offset => t.has mark offset = false)).card

theorem Tried.free_le (t : Tried) (size mark : Nat) : t.free size mark ≤ size := by
  have hle := Finset.card_filter_le (Finset.range size) (fun offset => t.has mark offset = false)
  rwa [Finset.card_range] at hle

theorem Tried.Extends.free_le {t t' : Tried} (h : t.Extends t') (size mark : Nat) :
    t'.free size mark ≤ t.free size mark := by
  refine Finset.card_le_card fun offset hmem => ?_
  simp only [Finset.mem_filter, Finset.mem_range] at hmem ⊢
  refine ⟨hmem.1, Bool.eq_false_iff.mpr fun hhas => ?_⟩
  have hlater := Tried.choice_mem_seen.mp (h.seen (Tried.choice_mem_seen.mpr hhas))
  rw [hmem.2] at hlater
  cases hlater

theorem Tried.free_add_lt {t : Tried} {size mark offset : Nat} (hoffset : offset < size)
    (hhas : t.has mark offset = false) : (t.add mark offset).free size mark < t.free size mark := by
  refine Finset.card_lt_card (Finset.ssubset_iff_of_subset ?_ |>.mpr ⟨offset, ?_, ?_⟩)
  · intro other hmem
    simp only [Finset.mem_filter, Finset.mem_range, Tried.has_add, Bool.or_eq_false_iff] at hmem ⊢
    exact ⟨hmem.1, hmem.2.1⟩
  · simp [hoffset, hhas]
  · simp [Tried.has_add]

/-- An action that is never ready. -/
theorem explores_unready {chart : Chart} {ready : Tried → Prop} {offset : Nat} {goals : Set Goal}
    (h : ∀ t, ¬ready t) : Explores text chart ready offset .failed goals where
  grows t := .refl t
  silent _ _ _ t := ⟨t, rfl, Set.subset_union_left⟩
  blind _ _ _ _ _ _ h := .failed h
  failed t _ hready := absurd hready (h t)
  found t _ _ hready := absurd hready (h t)

section Turns

variable {marks : Set Nat} {last : Continuation → Continuation} {mark : Nat}

/-- Turns of a part that come back to one choice, and a first turn that leads there. They start at
    different offsets, so their bound is not met. -/
theorem charted_turns (h : Charted text marks last) (hmark : mark ∉ marks) (greedy : Bool) :
    ∀ after, Ahead after → ∃ (goals : Cursor → Set Goal) (own : Chart),
      Ahead goals ∧ (∀ mark, Ahead (own mark)) ∧
        ∀ chart : Chart, (∀ m ∈ insert mark marks, chart m = own m) →
          ∀ ready, Rising ready → ∀ k, Follows text chart ready k after →
            Follows text chart ready (turns last mark greedy k (offsetBound text + 1))
                (fun cur => {.choice mark cur.offset}) ∧
              Follows text chart ready (last (turns last mark greedy k (offsetBound text + 1)))
                goals := by
  intro after hafter
  have hback : Ahead (fun cur => {.choice mark cur.offset}) := by
    intro cur mark' offset hmem
    cases hmem
    exact le_rfl
  obtain ⟨goals, own, hgoals, hown, hlast⟩ := h _ hback
  have hleads : Ahead (fun cur => goals cur ∪ after cur) := by
    intro cur mark' offset hmem
    exact hmem.elim (hgoals cur mark' offset) (hafter cur mark' offset)
  refine ⟨goals, .glue {mark} (fun _ cur => goals cur ∪ after cur) own, hgoals,
    Chart.ahead_glue (fun _ => hleads) hown, fun chart hchart ready hrising k hk => ?_⟩
  obtain ⟨hhere, hbody⟩ := Chart.of_glue (Set.disjoint_singleton_left.mpr hmark) hchart
  -- as long as the choice is free at fewer offsets than turns are left, no turn is missing
  have hturns : ∀ bound, Follows text chart
      (fun t => ready t ∧ t.free (offsetBound text) mark < bound)
      (turns last mark greedy k bound) (fun cur => {.choice mark cur.offset}) := by
    intro bound
    induction bound with
    | zero => exact fun p _ => explores_unready fun t ht => absurd ht.2 (Nat.not_lt_zero _)
    | succ bound ih =>
      intro p hp
      have hrising' : Rising fun t => ready t ∧ t.free (offsetBound text) mark < bound :=
        fun t t' hextends ht => ⟨hrising t t' hextends ht.1,
          (hextends.free_le _ _).trans_lt ht.2⟩
      have henter := hlast chart hbody _ hrising' _ ih p hp
      have hpass := (hk p hp).of_ready
        fun t (ht : ready t ∧ t.free (offsetBound text) mark < bound) => ht.1
      have hturn := henter.choose hrising' hpass greedy
      rw [← congrFun (hhere mark rfl) p.cursor] at hturn
      refine Explores.once hp hturn fun t ht hhas => ⟨hrising _ _ (t.extends_add _ _) ht.1, ?_⟩
      have hfree := Tried.free_add_lt hp.offset_lt hhas
      have hbound := ht.2
      omega
  have hready : ∀ t, ready t → ready t ∧
      t.free (offsetBound text) mark < offsetBound text + 1 :=
    fun t ht => ⟨ht, Nat.lt_succ_of_le (t.free_le _ _)⟩
  have hall : Follows text chart ready (turns last mark greedy k (offsetBound text + 1))
      (fun cur => {.choice mark cur.offset}) := fun p hp => (hturns _ p hp).of_ready hready
  exact ⟨hall, hlast chart hbody ready hrising _ hall⟩

theorem Charted.turns (h : Charted text marks last) (hmark : mark ∉ marks) (greedy : Bool) :
    Charted text (insert mark marks)
      (fun k => Regex.turns last mark greedy k (offsetBound text + 1)) := by
  intro after hafter
  obtain ⟨goals, own, hgoals, hown, hturns⟩ := charted_turns h hmark greedy after hafter
  refine ⟨fun cur => {.choice mark cur.offset}, own, ?_, hown,
    fun chart hchart ready hrising k hk => (hturns chart hchart ready hrising k hk).1⟩
  intro cur mark' offset hmem
  cases hmem
  exact le_rfl

/-- One turn and then more of them. -/
theorem Charted.firstTurn (h : Charted text marks last) (hmark : mark ∉ marks) (greedy : Bool) :
    Charted text (insert mark marks)
      (fun k => last (Regex.turns last mark greedy k (offsetBound text + 1))) := by
  intro after hafter
  obtain ⟨goals, own, hgoals, hown, hturns⟩ := charted_turns h hmark greedy after hafter
  exact ⟨goals, own, hgoals, hown,
    fun chart hchart ready hrising k hk => (hturns chart hchart ready hrising k hk).2⟩

end Turns

/-! ## Copies -/

section Copies

variable {part : Part} {lo stride : Nat}

/-- The marks of the first copy and those of the others. -/
theorem marks_succ (lo stride count shift : Nat) :
    Set.Ico (shift + lo) (shift + lo + (count + 1) * stride) =
      Set.Ico (shift + lo) (shift + lo + stride) ∪
        Set.Ico (shift + stride + lo) (shift + stride + lo + count * stride) := by
  ext mark
  simp only [Set.mem_Ico, Set.mem_union, Nat.succ_mul]
  omega

theorem marks_apart (lo stride count shift : Nat) :
    Disjoint (Set.Ico (shift + lo) (shift + lo + stride))
      (Set.Ico (shift + stride + lo) (shift + stride + lo + count * stride)) := by
  rw [Set.disjoint_left]
  simp only [Set.mem_Ico]
  omega

theorem exactly_succ (k : Continuation) (count shift : Nat) :
    exactly part stride k (count + 1) shift =
      exactly part stride (part (shift + count * stride) k) count shift := by
  induction count generalizing shift with
  | zero => simp [exactly]
  | succ count ih =>
    rw [exactly, ih, exactly, Nat.succ_mul, Nat.add_right_comm, Nat.add_assoc]

variable (h : ∀ shift, Charted text (Set.Ico (shift + lo) (shift + lo + stride)) (part shift))
include h

/-- Copies of a part, each with marks of its own. -/
theorem charted_exactly {marks : Set Nat} {rest : Continuation → Continuation}
    (hrest : Charted text marks rest) (count shift : Nat)
    (hapart : Disjoint (Set.Ico (shift + lo) (shift + lo + count * stride)) marks) :
    Charted text (Set.Ico (shift + lo) (shift + lo + count * stride) ∪ marks)
      (fun k => exactly part stride (rest k) count shift) := by
  induction count generalizing shift with
  | zero => exact hrest.mono Set.subset_union_right
  | succ count ih =>
    rw [marks_succ, Set.disjoint_union_left] at hapart
    rw [marks_succ, Set.union_assoc]
    exact (h shift).comp (ih (shift + stride) hapart.2)
      (Set.disjoint_union_right.mpr ⟨marks_apart lo stride count shift, hapart.1⟩)

/-- At most a number of copies, each of them a marked choice. -/
theorem charted_atMost (greedy : Bool) (count mark shift : Nat)
    (hapart : shift + lo + count * stride ≤ mark) :
    Charted text (Set.Ico (shift + lo) (shift + lo + count * stride) ∪ Set.Ico mark (mark + count))
      (fun k => atMost part stride greedy k count mark shift) := by
  induction count generalizing mark shift with
  | zero => exact Charted.id.mono (Set.empty_subset _)
  | succ count ih =>
    rw [Nat.succ_mul] at hapart
    have hrest := ih (mark + 1) (shift + stride) (by omega)
    have hboth := (h shift).comp hrest (by
      rw [Set.disjoint_left]
      simp only [Set.mem_Ico, Set.mem_union]
      omega)
    have hchoice := hboth.choose .id (Set.disjoint_empty _) greedy
    rw [Set.union_empty] at hchoice
    refine (hchoice.once ?_).mono fun other hother => ?_
    · simp only [Set.mem_Ico, Set.mem_union]
      omega
    · simp only [Set.mem_Ico, Set.mem_union, Set.mem_insert_iff, Nat.succ_mul] at hother ⊢
      omega

end Copies

/-! ## Repetitions -/

section TakeTurns

variable {part : Part} {lo stride mark : Nat}
  (h : ∀ shift, Charted text (Set.Ico (shift + lo) (shift + lo + stride)) (part shift))
include h

theorem charted_takeTurns_limited (least most : Nat) (greedy consuming : Bool) (shift : Nat)
    (hmark : lo + Expr.copies least (some most) * stride ≤ mark) :
    Charted text (Set.Ico (shift + lo) (shift + (mark + Expr.choices least (some most))))
      (takeTurns part (offsetBound text) mark stride least (some most) greedy consuming shift) := by
  have hcopies : least * stride + (most - least) * stride ≤
      Expr.copies least (some most) * stride := by
    rw [← Nat.add_mul]
    refine Nat.mul_le_mul_right stride ?_
    simp only [Expr.copies, Option.getD_some]
    omega
  have hmost := charted_atMost h greedy (most - least) (shift + mark) (shift + least * stride)
    (by omega)
  refine (charted_exactly h hmost least shift ?_).mono fun other hother => ?_
  · rw [Set.disjoint_left]
    simp only [Set.mem_Ico, Set.mem_union]
    omega
  · simp only [Set.mem_Ico, Set.mem_union, Expr.choices] at hother ⊢
    omega

theorem charted_takeTurns_unlimited (least : Nat) (greedy consuming : Bool) (shift : Nat)
    (hmark : lo + Expr.copies least none * stride ≤ mark) :
    Charted text (Set.Ico (shift + lo) (shift + (mark + Expr.choices least none)))
      (takeTurns part (offsetBound text) mark stride least none greedy consuming shift) := by
  -- the turns come back to the last copy, which has marks of its own
  have hcopies : (least - 1) * stride + stride ≤ Expr.copies least none * stride := by
    rw [← Nat.succ_mul]
    refine Nat.mul_le_mul_right stride ?_
    simp only [Expr.copies, Option.getD_none]
    omega
  have hlast := h (shift + (least - 1) * stride)
  have houtside : shift + mark ∉ Set.Ico (shift + (least - 1) * stride + lo)
      (shift + (least - 1) * stride + lo + stride) := by
    simp only [Set.mem_Ico]
    omega
  have hfirst := hlast.firstTurn houtside greedy
  unfold takeTurns
  dsimp only
  split
  · have hchoice := hfirst.choose .id (Set.disjoint_empty _) greedy
    rw [Set.union_empty] at hchoice
    refine (hchoice.once ?_).mono fun other hother => ?_
    · simp only [Set.mem_insert_iff, Set.mem_Ico]
      omega
    · simp only [Set.mem_Ico, Set.mem_insert_iff, Expr.choices] at hother ⊢
      omega
  · cases least with
    | zero =>
      refine (hlast.turns houtside greedy).mono fun other hother => ?_
      simp only [Set.mem_Ico, Set.mem_insert_iff, Expr.choices] at hother ⊢
      omega
    | succ count =>
      simp only [exactly_succ]
      simp only [Nat.add_sub_cancel] at hcopies hfirst ⊢
      refine (charted_exactly h hfirst count shift ?_).mono fun other hother => ?_
      · rw [Set.disjoint_left]
        simp only [Set.mem_Ico, Set.mem_insert_iff]
        omega
      · simp only [Set.mem_Ico, Set.mem_union, Set.mem_insert_iff, Expr.choices] at hother ⊢
        omega

end TakeTurns

/-! ## Kinds of trees -/

section Kinds

variable (text : List Char) (chars : CharSet) (least shift : Nat)

theorem charted_look (condition : Look) :
    Charted text ∅ ((Tree.look condition).run (offsetBound text) shift) := by
  let stay (cur : Cursor) := if condition.holds cur.before cur.after then some cur else none
  have hstay : ∀ cur next, stay cur = some next → cur.Leads next := by
    intro cur next hnext
    obtain ⟨-, rfl⟩ := Option.ite_some_none_eq_some.mp hnext
    exact .refl cur
  refine (Charted.jump stay hstay).congr fun _ _ p _ => ?_
  funext t
  simp only [stay, Tree.run]
  split
  · rfl
  · rfl

theorem charted_whole :
    Charted text ∅ ((Tree.whole chars least).run (offsetBound text) shift) := by
  let take (cur : Cursor) := (cur.skip? chars least).map fun cur =>
    Cursor.skipAll chars cur.before cur.offset cur.rest
  have htake : ∀ cur next, take cur = some next → cur.Leads next := by
    intro cur next hnext
    obtain ⟨mid, hmid, rfl⟩ := Option.map_eq_some_iff.mp hnext
    exact (Cursor.leads_of_skip? hmid).trans (Cursor.leads_skipAll chars mid)
  refine (Charted.jump take htake).congr fun _ _ p _ => ?_
  funext t
  simp only [take, Tree.run]
  cases p.cursor.skip? chars least with
  | none => rfl
  | some cur => rfl

/-- A part after the characters that must be there. -/
theorem charted_afterSkip {marks : Set Nat} {part : Continuation → Continuation}
    (h : Charted text marks part) :
    Charted text marks (fun k p t =>
      match p.cursor.skip? chars least with
      | some cur => part k ⟨cur, p.groups⟩ t
      | none => .failed t) := by
  rw [← Set.empty_union marks]
  exact (Charted.jump (·.skip? chars least) fun _ _ => Cursor.leads_of_skip?).comp h
    (Set.empty_disjoint marks)

variable (most : Option Nat) (greedy : Bool)

theorem charted_chars :
    Charted text ∅ ((Tree.many none chars least most greedy).run (offsetBound text) shift) := by
  refine (charted_afterSkip text chars least
    (Charted.walk chars greedy (most.map (· - least)))).congr fun _ _ p _ => ?_
  funext t
  simp only [Tree.run]
  cases p.cursor.skip? chars least with
  | none => rfl
  | some cur => rfl

theorem run_many (size mark : Nat) (k : Continuation) (p : Progress) (t : Tried) :
    (Tree.many (some mark) chars least most greedy).run size shift k p t =
      match p.cursor.skip? chars least with
      | some cur =>
        let take := takeMarked chars (shift + mark) greedy (most.map (· - least)) k ⟨cur, p.groups⟩
        if most.isSome then once (shift + mark + 1) cur.offset take t else take t
      | none => .failed t := by
  simp only [Tree.run]
  cases p.cursor.skip? chars least with
  | none => rfl
  | some cur => rfl

theorem charted_many (mark : Nat) :
    Charted text (Set.Ico (shift + mark) (shift + mark + 2))
      ((Tree.many (some mark) chars least most greedy).run (offsetBound text) shift) := by
  cases most with
  | none =>
    have hpart := charted_afterSkip text chars least
      (charted_takeMarked_unlimited chars (shift + mark) greedy)
    refine (hpart.mono ?_).congr fun _ _ p _ => funext fun t => run_many ..
    rw [Set.singleton_subset_iff, Set.mem_Ico]
    omega
  | some most =>
    have houtside : shift + mark + 1 ∉ ({shift + mark} : Set Nat) := by simp
    have hpart := charted_afterSkip text chars least
      ((charted_takeMarked_limited chars (shift + mark) greedy (most - least)).once houtside)
    refine (hpart.mono fun other hother => ?_).congr fun _ _ p _ => funext fun t => run_many ..
    simp only [Set.mem_insert_iff, Set.mem_singleton_iff, Set.mem_Ico] at hother ⊢
    omega

end Kinds

/-! ## Trees -/

/-- What a part in a group passes on differs in the groups only, which lead nowhere else. -/
theorem Charted.group {marks : Set Nat} {part : Continuation → Continuation}
    (h : Charted text marks part) (index : Nat) :
    Charted text marks (fun k p => part (fun q =>
      k ⟨q.cursor, (index, ⟨p.cursor.offset, q.cursor.offset⟩) :: q.groups⟩) p) := by
  intro after hafter
  obtain ⟨goals, own, hgoals, hown, hpart⟩ := h after hafter
  refine ⟨goals, own, hgoals, hown, fun chart hchart ready hrising k hk p hp => ?_⟩
  have hk' : Follows text chart ready (fun q =>
      k ⟨q.cursor, (index, ⟨p.cursor.offset, q.cursor.offset⟩) :: q.groups⟩) after :=
    fun q hq => hk ⟨q.cursor, (index, ⟨p.cursor.offset, q.cursor.offset⟩) :: q.groups⟩ hq
  exact hpart chart hchart ready hrising _ hk' p hp

theorem marks_cat {lo mid hi : Nat} (hlo : lo ≤ mid) (hhi : mid ≤ hi) (shift : Nat) :
    Set.Ico (shift + lo) (shift + mid) ∪ Set.Ico (shift + mid) (shift + hi) =
      Set.Ico (shift + lo) (shift + hi) :=
  Set.Ico_union_Ico_eq_Ico (Nat.add_le_add_left hlo shift) (Nat.add_le_add_left hhi shift)

theorem marks_cat_apart (lo mid hi shift : Nat) :
    Disjoint (Set.Ico (shift + lo) (shift + mid)) (Set.Ico (shift + mid) (shift + hi)) :=
  Set.Ico_disjoint_Ico_same

/-- A tree whose choices have marks of their own has a chart. -/
theorem Tree.charted {t : Tree} {lo hi : Nat} (h : t.Marked lo hi) (shift : Nat) :
    Charted text (Set.Ico (shift + lo) (shift + hi)) (t.run (offsetBound text) shift) := by
  induction h generalizing shift with
  | empty => exact Charted.id.mono (Set.empty_subset _)
  | @literal literal =>
    exact (Charted.jump (·.follow? literal) fun _ _ => Cursor.leads_of_follow?).mono
      (Set.empty_subset _)
  | @set chars =>
    exact (Charted.jump (·.step? chars) fun _ _ => Cursor.leads_of_step?).mono
      (Set.empty_subset _)
  | look => exact (charted_look text shift _).mono (Set.empty_subset _)
  | @group index _ _ _ _ ih => exact (ih shift).group index
  | cat hfirst hsecond ihf ihs =>
    rw [← marks_cat hfirst.le hsecond.le]
    exact (ihf shift).comp (ihs shift) (marks_cat_apart ..)
  | alt hfirst hsecond ihf ihs =>
    rw [← marks_cat hfirst.le hsecond.le]
    exact (ihf shift).choose (ihs shift) (marks_cat_apart ..) true
  | @choice mark first second lo mid hi hfirst hsecond h ihf ihs =>
    have hchoice := (ihf shift).choose (ihs shift) (marks_cat_apart ..) true
    rw [marks_cat hfirst.le hsecond.le] at hchoice
    have hle := hfirst.le.trans hsecond.le
    have houtside : shift + mark ∉ Set.Ico (shift + lo) (shift + mark) := by simp
    refine (hchoice.once houtside).mono fun other hother => ?_
    simp only [Set.mem_insert_iff, Set.mem_Ico] at hother ⊢
    omega
  | whole => exact (charted_whole text _ _ shift).mono (Set.empty_subset _)
  | chars => exact (charted_chars text _ _ shift _ _).mono (Set.empty_subset _)
  | many hlo hhi =>
    refine (charted_many text _ _ shift _ _ _).mono
      (Set.Ico_subset_Ico (Nat.add_le_add_left hlo shift) ?_)
    omega
  | @rep mark stride least most greedy consuming body lo hi hbody hlo hhi ih =>
    have hpart : ∀ shift, Charted text (Set.Ico (shift + lo) (shift + lo + stride))
        (body.run (offsetBound text) shift) := fun shift => by
      rw [Nat.add_assoc]
      exact ih shift
    have hwithin : Set.Ico (shift + lo) (shift + (mark + Expr.choices least most)) ⊆
        Set.Ico (shift + lo) (shift + hi) :=
      Set.Ico_subset_Ico_right (Nat.add_le_add_left hhi shift)
    cases most with
    | some most =>
      exact (charted_takeTurns_limited hpart least most greedy consuming shift hlo).mono hwithin
    | none =>
      exact (charted_takeTurns_unlimited hpart least greedy consuming shift hlo).mono hwithin

end ProgramOutline.Regex
