import ProgramOutline.Proofs.Regex.Cursor
import ProgramOutline.Regex.Pattern

/-!
# Searching goes forward

Whatever the tree and whatever has been tried, a search passes on positions ahead of where it
started and adds groups that lie in between. So every match is a stretch of the text, its groups are
stretches of it, and the next match does not start before it ends.

Results:
* `Tree.run_forward`: a property of all outcomes ahead is a property of the outcome of a tree, for
  each kind of tree.
* `Pattern.mem_findAll`: each match of a pattern is a stretch of the text that holds its groups.
* `Pattern.pairwise_findAll`: the matches of a pattern follow one another.
-/

namespace ProgramOutline.Regex

/-! ## Progress ahead -/

/-- `q` is ahead of `p` in the same text, and the groups it adds lie between the two. -/
def Progress.Leads (p q : Progress) : Prop :=
  p.cursor.Leads q.cursor ∧
    ∀ g ∈ q.groups, g ∈ p.groups ∨
      ∃ a b : Cursor, p.cursor.Leads a ∧ a.Leads b ∧ b.Leads q.cursor ∧ g.2 = ⟨a.offset, b.offset⟩

theorem Progress.Leads.of_cursor {p : Progress} {cur : Cursor} (h : p.cursor.Leads cur) :
    p.Leads ⟨cur, p.groups⟩ := ⟨h, fun _ hg => .inl hg⟩

theorem Progress.Leads.refl (p : Progress) : p.Leads p := .of_cursor (.refl p.cursor)

theorem Progress.Leads.trans {p q r : Progress} (hpq : p.Leads q) (hqr : q.Leads r) :
    p.Leads r := by
  refine ⟨hpq.1.trans hqr.1, fun g hg => ?_⟩
  rcases hqr.2 g hg with hg | ⟨a, b, ha, hab, hb, hspan⟩
  · rcases hpq.2 g hg with hg | ⟨a, b, ha, hab, hb, hspan⟩
    · exact .inl hg
    · exact .inr ⟨a, b, ha, hab, hb.trans hqr.1, hspan⟩
  · exact .inr ⟨a, b, hpq.1.trans ha, hab, hb, hspan⟩

theorem Progress.Leads.group {p q : Progress} (h : p.Leads q) (index : Nat) :
    p.Leads ⟨q.cursor, (index, ⟨p.cursor.offset, q.cursor.offset⟩) :: q.groups⟩ := by
  refine ⟨h.1, fun g hg => ?_⟩
  rcases List.mem_cons.mp hg with rfl | hg
  · exact .inr ⟨p.cursor, q.cursor, .refl _, h.1, .refl _, rfl⟩
  · exact h.2 g hg

/-! ## Properties of outcomes -/

/-- A match, if there is one, satisfies `P`. -/
def Outcome.Holds (P : Progress → Prop) : Outcome → Prop
  | found result _ => P result
  | failed _ => True

/-- Whatever holds of all outcomes from further ahead holds of the outcome of the action that goes
    on with them. -/
def Forward (action : Continuation → Continuation) : Prop :=
  ∀ (P : Progress → Prop) (k : Continuation) (p : Progress) (tried : Tried),
    (∀ q tried, p.Leads q → (k q tried).Holds P) → (action k p tried).Holds P

variable {P : Progress → Prop}

theorem Outcome.Holds.orElse {first : Outcome} {second : Tried → Outcome} (h : first.Holds P)
    (h' : ∀ tried, (second tried).Holds P) : (first.orElse second).Holds P := by
  cases first with
  | found result tried => exact h
  | failed tried => exact h' tried

theorem holds_once {mark offset : Nat} {action : Tried → Outcome} {tried : Tried}
    (h : ∀ tried, (action tried).Holds P) : (once mark offset action tried).Holds P := by
  unfold once
  split
  · trivial
  · exact h _

theorem holds_choose {greedy : Bool} {enter pass : Tried → Outcome} {tried : Tried}
    (he : ∀ tried, (enter tried).Holds P) (hp : ∀ tried, (pass tried).Holds P) :
    (choose greedy enter pass tried).Holds P := by
  unfold choose
  split
  · exact (he tried).orElse hp
  · exact (hp tried).orElse he

theorem Forward.id : Forward (fun k => k) := fun _ _ p tried hk => hk p tried (.refl p)

theorem Forward.comp {a b : Continuation → Continuation} (ha : Forward a) (hb : Forward b) :
    Forward (fun k => a (b k)) := by
  intro P k p tried hk
  refine ha P (b k) p tried (fun q tried hq => ?_)
  exact hb P k q tried (fun r tried hr => hk r tried (hq.trans hr))

/-! ## Repetitions -/

theorem holds_takeChars {chars : CharSet} {known : Nat → Tried → Bool}
    {leave : Cursor → Tried → Outcome} {greedy : Bool} (cur : Cursor)
    (h : ∀ next tried, cur.Leads next → (leave next tried).Holds P) (most : Option Nat)
    (tried : Tried) :
    (takeChars chars known leave greedy most cur.before cur.offset cur.rest tried).Holds P := by
  obtain ⟨before, rest, offset⟩ := cur
  induction rest generalizing before offset most tried with
  | nil =>
    simp only [takeChars]
    split
    · trivial
    · exact h _ _ (.refl _)
  | cons c rest ih =>
    have hmore : ∀ tried, (takeChars chars known leave greedy (most.map (· - 1)) (some c)
        (offset + c.utf8Size) rest tried).Holds P := fun tried =>
      ih _ tried (some c) (offset + c.utf8Size) (fun next tried hn =>
        h next tried ((Cursor.leads_past rfl).trans hn))
    have hhere : ∀ tried, (leave ⟨before, c :: rest, offset⟩ tried).Holds P := fun tried =>
      h _ tried (.refl _)
    simp only [takeChars]
    split
    · split
      · split
        · exact hmore tried
        · trivial
      · split
        · exact (hmore tried).orElse hhere
        · exact (hhere tried).orElse hmore
    · split
      · trivial
      · exact hhere tried

/-- A repetition of characters is left ahead of the characters that must be there. -/
theorem holds_many {size shift : Nat} {mark : Option Nat} {chars : CharSet} {least : Nat}
    {most : Option Nat} {greedy : Bool} {k : Continuation} {p : Progress} {tried : Tried}
    (h : ∀ cur, p.cursor.skip? chars least = some cur →
      ∀ next tried, cur.Leads next → (k ⟨next, p.groups⟩ tried).Holds P) :
    ((Tree.many mark chars least most greedy).run size shift k p tried).Holds P := by
  simp only [Tree.run]
  split
  · trivial
  · rename_i cur hcur
    have hleave := h cur hcur
    cases mark with
    | none => exact holds_takeChars cur hleave _ tried
    | some mark =>
      have honce : ∀ next tried, cur.Leads next →
          (once (shift + mark) next.offset (k ⟨next, p.groups⟩) tried).Holds P :=
        fun next tried hnext => holds_once (fun tried => hleave next tried hnext)
      dsimp only
      split
      · exact holds_once (fun tried => holds_takeChars cur honce _ tried)
      · exact holds_takeChars cur honce _ tried

theorem forward_exactly {part : Part} (h : ∀ shift, Forward (part shift)) (stride count : Nat)
    (shift : Nat) : Forward (fun k => exactly part stride k count shift) := by
  induction count generalizing shift with
  | zero => exact .id
  | succ count ih => exact (h shift).comp (ih _)

theorem forward_atMost {part : Part} (h : ∀ shift, Forward (part shift)) (stride : Nat)
    (greedy : Bool) (count mark shift : Nat) :
    Forward (fun k => atMost part stride greedy k count mark shift) := by
  induction count generalizing mark shift with
  | zero => exact .id
  | succ count ih =>
    intro P k p tried hk
    refine holds_once (fun tried => holds_choose (fun tried => ?_) (fun tried => ?_))
    · exact (h shift).comp (ih _ _) P k p tried hk
    · exact hk p tried (.refl _)

theorem forward_turns {part : Continuation → Continuation} (h : Forward part) (mark : Nat)
    (greedy : Bool) (bound : Nat) : Forward (fun k => turns part mark greedy k bound) := by
  induction bound with
  | zero => exact fun _ _ _ _ _ => trivial
  | succ bound ih =>
    intro P k p tried hk
    refine holds_once (fun tried => holds_choose (fun tried => ?_) (fun tried => ?_))
    · exact h.comp ih P k p tried hk
    · exact hk p tried (.refl _)

theorem forward_takeTurns {part : Part} (h : ∀ shift, Forward (part shift))
    (size mark stride least : Nat) (most : Option Nat) (greedy consuming : Bool) (shift : Nat) :
    Forward (takeTurns part size mark stride least most greedy consuming shift) := by
  intro P k p tried hk
  cases most with
  | some most =>
    have hmost := forward_atMost h stride greedy (most - least) (shift + mark)
      (shift + least * stride)
    exact (forward_exactly h stride least shift).comp hmost P k p tried hk
  | none =>
    have hmore := forward_turns (h (shift + (least - 1) * stride)) (shift + mark) greedy (size + 1)
    simp only [takeTurns]
    split
    · refine holds_once (fun tried => holds_choose (fun tried => ?_) (fun tried => ?_))
      · exact (h _).comp hmore P k p tried hk
      · exact hk p tried (.refl _)
    · exact (forward_exactly h stride least shift).comp hmore P k p tried hk

/-! ## Trees -/

/-- Every tree goes forward, marked or not. -/
theorem Tree.run_forward (size : Nat) (t : Tree) (shift : Nat) : Forward (t.run size shift) := by
  induction t generalizing shift with
  | empty => exact .id
  | literal text =>
    intro P k p tried hk
    simp only [Tree.run]
    split
    · exact hk _ _ (.of_cursor (Cursor.leads_of_follow? ‹_›))
    · trivial
  | set chars =>
    intro P k p tried hk
    simp only [Tree.run]
    split
    · exact hk _ _ (.of_cursor (Cursor.leads_of_step? ‹_›))
    · trivial
  | look condition =>
    intro P k p tried hk
    simp only [Tree.run]
    split
    · exact hk p tried (.refl _)
    · trivial
  | group index body ih =>
    intro P k p tried hk
    exact ih shift P _ p tried (fun q tried hq => hk _ tried (hq.group index))
  | cat first second ihf ihs => exact (ihf shift).comp (ihs shift)
  | alt mark first second ihf ihs =>
    intro P k p tried hk
    cases mark with
    | none => exact (ihf shift P k p tried hk).orElse (fun tried => ihs shift P k p tried hk)
    | some mark =>
      refine holds_once (fun tried => ?_)
      exact (ihf shift P k p tried hk).orElse (fun tried => ihs shift P k p tried hk)
  | whole chars least =>
    intro P k p tried hk
    simp only [Tree.run]
    split
    · trivial
    · rename_i cur hcur
      have hall := (Cursor.leads_of_skip? hcur).trans (Cursor.leads_skipAll chars cur)
      exact hk _ _ (.of_cursor hall)
  | many mark chars least most greedy =>
    intro P k p tried hk
    refine holds_many (fun cur hcur next tried hnext => hk _ tried ?_)
    exact .of_cursor ((Cursor.leads_of_skip? hcur).trans hnext)
  | rep mark stride least most greedy consuming body ih =>
    exact forward_takeTurns ih size mark stride least most greedy consuming shift

/-! ## Matches -/

/-- The span is a stretch of the text that starts at `offset`. -/
def Span.Lies (span : Span) (offset : Nat) (text : List Char) : Prop :=
  ∃ before taken after, text = before ++ taken ++ after ∧
    span.start = offset + Text.byteLength before ∧
    span.stop = span.start + Text.byteLength taken

/-- The match is a stretch of the text that starts at `offset`, and its groups are stretches of
    that. -/
def Match.Lies (m : Match) (offset : Nat) (text : List Char) : Prop :=
  ∃ before taken after, text = before ++ taken ++ after ∧
    m.span.start = offset + Text.byteLength before ∧
    m.span.stop = m.span.start + Text.byteLength taken ∧
    ∀ g ∈ m.groups, g.2.Lies m.span.start taken

theorem Match.Lies.cons {m : Match} {offset : Nat} {c : Char} {rest : List Char}
    (h : m.Lies (offset + c.utf8Size) rest) : m.Lies offset (c :: rest) := by
  obtain ⟨before, taken, after, rfl, hstart, hstop, hgroups⟩ := h
  refine ⟨c :: before, taken, after, by simp, ?_, hstop, hgroups⟩
  rw [hstart, Text.byteLength_cons]
  omega

theorem Match.Lies.le {m : Match} {offset : Nat} {text : List Char} (h : m.Lies offset text) :
    offset ≤ m.span.start := by
  obtain ⟨before, -, -, -, hstart, -⟩ := h
  omega

/-- Two positions ahead of one another enclose a stretch of the text between two others. -/
theorem Cursor.Leads.lies {cur a b next : Cursor} {taken rest : List Char}
    (hrest : cur.rest = taken ++ rest) (hnext : next = cur.move taken rest) (ha : cur.Leads a)
    (hab : a.Leads b) (hb : b.Leads next) : Span.Lies ⟨a.offset, b.offset⟩ cur.offset taken := by
  obtain ⟨first, restA, hfirst, rfl⟩ := ha
  obtain ⟨second, restB, hsecond, rfl⟩ := hab
  obtain ⟨third, restC, hthird, rfl⟩ := hb
  rw [Cursor.move_rest] at hsecond hthird
  have hends : rest = restC := (congrArg Cursor.rest hnext).symm
  have htaken : taken = first ++ second ++ third := by
    have hwhole : taken ++ rest = first ++ second ++ third ++ rest := by
      rw [← hrest, hfirst, hsecond, hthird, hends]
      simp
    exact List.append_cancel_right hwhole
  exact ⟨first, second, third, htaken, rfl, rfl⟩

theorem Tree.lies_of_matchAt {t : Tree} {size : Nat} {tried tried' : Tried} {cur : Cursor}
    {m : Match} (h : t.matchAt size tried cur = (some m, tried')) : m.Lies cur.offset cur.rest := by
  have hrun := t.run_forward size 0 (fun q => Progress.Leads ⟨cur, []⟩ q) .found ⟨cur, []⟩ tried
    (fun q _ hq => hq)
  unfold matchAt at h
  split at h
  · rename_i q tried hq
    rw [hq] at hrun
    obtain ⟨⟨taken, rest, hrest, hmove⟩, hgroups⟩ := hrun
    obtain rfl := Option.some.inj (Prod.mk.inj h).1
    refine ⟨[], taken, rest, by simpa using hrest, rfl, by simp [hmove], fun g hg => ?_⟩
    rcases hgroups g hg with hg | ⟨a, b, ha, hab, hb, hspan⟩
    · cases hg
    · rw [hspan]
      exact Cursor.Leads.lies hrest hmove ha hab hb
  · cases h

theorem Tree.lies_of_matchFrom {t : Tree} {size : Nat} {window : Window} {tried tried' : Tried}
    {cur : Cursor} {m : Match} (h : t.matchFrom size window tried cur = (some m, tried')) :
    m.Lies cur.offset cur.rest := by
  unfold matchFrom at h
  split at h
  · cases h
  · exact lies_of_matchAt h

theorem Tree.first_le_of_matchFrom {t : Tree} {size : Nat} {window : Window} {tried tried' : Tried}
    {cur : Cursor} {m : Match} (h : t.matchFrom size window tried cur = (some m, tried')) :
    window.first ≤ m.span.start := by
  have hlies := (lies_of_matchFrom h).le
  unfold matchFrom at h
  split at h
  · cases h
  · rename_i hwindow
    simp only [Bool.or_eq_true, decide_eq_true_eq] at hwindow
    omega

theorem Tree.mem_matchesAlong {t : Tree} {size : Nat} {m : Match} (text : List Char) :
    ∀ {window : Window} {last : Option Nat} {tried : Tried} {before : Option Char} {offset : Nat},
      m ∈ t.matchesAlong size window last tried before offset text →
        m.Lies offset text ∧ window.first ≤ m.span.start := by
  induction text with
  | nil =>
    intro window last tried before offset hm
    simp only [matchesAlong] at hm
    split at hm
    · rename_i found tried' hfound
      split at hm
      · cases hm
      · obtain rfl := List.mem_singleton.mp hm
        exact ⟨lies_of_matchFrom hfound, first_le_of_matchFrom hfound⟩
    · cases hm
  | cons c rest ih =>
    intro window last tried before offset hm
    simp only [matchesAlong] at hm
    split at hm
    · rename_i found tried' hfound
      split at hm
      · exact (ih hm).imp .cons id
      · rcases List.mem_cons.mp hm with rfl | hm
        · exact ⟨lies_of_matchFrom hfound, first_le_of_matchFrom hfound⟩
        · -- the window now starts where the match found here ends
          obtain ⟨hlies, hstop⟩ := ih hm
          have hfirst := first_le_of_matchFrom hfound
          obtain ⟨-, taken, -, -, -, hspan, -⟩ := lies_of_matchFrom hfound
          dsimp only at hstop
          exact ⟨hlies.cons, by omega⟩
    · exact (ih hm).imp .cons id

/-- Each match of a pattern is a stretch of the text that holds its groups. -/
theorem Pattern.mem_findAll {pattern : Pattern} {text : List Char} {m : Match}
    (h : m ∈ pattern.findAll text) : m.Lies 0 text := by
  unfold findAll at h
  split at h
  · cases h
  · exact (Tree.mem_matchesAlong text h).1

/-! ## Successive matches -/

theorem Tree.pairwise_matchesAlong {t : Tree} {size : Nat} (text : List Char) :
    ∀ {window : Window} {last : Option Nat} {tried : Tried} {before : Option Char} {offset : Nat},
      (t.matchesAlong size window last tried before offset text).Pairwise
        (fun a b => a.span.stop ≤ b.span.start) := by
  induction text with
  | nil =>
    intro window last tried before offset
    simp only [matchesAlong]
    split
    · split
      · exact .nil
      · exact List.pairwise_singleton ..
    · exact .nil
  | cons c rest ih =>
    intro window last tried before offset
    simp only [matchesAlong]
    split
    · split
      · exact ih
      · exact List.pairwise_cons.mpr ⟨fun m hm => (mem_matchesAlong rest hm).2, ih⟩
    · exact ih

/-- Each match ends before the next one starts. -/
theorem Pattern.pairwise_findAll (pattern : Pattern) (text : List Char) :
    (pattern.findAll text).Pairwise (fun a b => a.span.stop ≤ b.span.start) := by
  unfold findAll
  split
  · exact .nil
  · exact Tree.pairwise_matchesAlong text

end ProgramOutline.Regex
