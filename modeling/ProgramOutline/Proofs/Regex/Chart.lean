import Mathlib
import ProgramOutline.Proofs.Regex.Exploration
import ProgramOutline.Proofs.Regex.Ways

/-!
# Charts of parts

What a marked choice leads to is fixed by its mark and the position, as long as no two choices share
a mark and everything after a choice is the same whenever it is met. Then a part of a search has a
chart, and running it explores that chart. The chart of a part is found from the goals of what comes
after it; the charts of parts with different marks are put together.

Results:
* `Charted.comp`, `Charted.choose`, `Charted.once`: parts put together.
* `Charted.jump`, `Charted.walk`: steps and walks without a mark.
* `charted_takeMarked_limited`, `charted_takeMarked_unlimited`: walks that may be left once at each
  position.
-/

namespace ProgramOutline.Regex

variable {text : List Char}

/-! ## Parts -/

/-- Do the goals lie at the position or later? -/
def Ahead (goals : Cursor → Set Goal) : Prop :=
  ∀ cur mark offset, .choice mark offset ∈ goals cur → cur.offset ≤ offset

/-- Does a continuation explore these goals from every position? -/
def Follows (text : List Char) (chart : Chart) (ready : Tried → Prop) (k : Continuation)
    (goals : Cursor → Set Goal) : Prop :=
  ∀ p : Progress, p.cursor.In text →
    Explores text chart ready p.cursor.offset (k p) (goals p.cursor)

/-- Have the choices with these marks a chart, whatever the goals after the part are? -/
def Charted (text : List Char) (marks : Set Nat) (part : Continuation → Continuation) : Prop :=
  ∀ after, Ahead after → ∃ (goals : Cursor → Set Goal) (own : Chart),
    Ahead goals ∧ (∀ mark, Ahead (own mark)) ∧
      ∀ chart : Chart, (∀ mark ∈ marks, chart mark = own mark) →
        ∀ ready, Rising ready → ∀ k, Follows text chart ready k after →
          Follows text chart ready (part k) goals

open Classical in
/-- The one chart for some marks, the other one for the rest. -/
noncomputable def Chart.glue (marks : Set Nat) (a b : Chart) : Chart :=
  fun mark => if mark ∈ marks then a mark else b mark

theorem Chart.ahead_glue {marks : Set Nat} {a b : Chart} (ha : ∀ mark, Ahead (a mark))
    (hb : ∀ mark, Ahead (b mark)) (mark : Nat) : Ahead (glue marks a b mark) := by
  unfold glue
  split
  · exact ha mark
  · exact hb mark

/-- A chart that agrees with two glued ones agrees with each of them on its marks. -/
theorem Chart.of_glue {marks marks' : Set Nat} {a b chart : Chart} (hapart : Disjoint marks marks')
    (h : ∀ mark ∈ marks ∪ marks', chart mark = glue marks a b mark) :
    (∀ mark ∈ marks, chart mark = a mark) ∧ ∀ mark ∈ marks', chart mark = b mark := by
  constructor
  · intro mark hmark
    rw [h mark (.inl hmark), glue, if_pos hmark]
  · intro mark hmark
    rw [h mark (.inr hmark), glue, if_neg (Set.disjoint_right.mp hapart hmark)]

namespace Charted

variable {marks marks' : Set Nat} {part part' : Continuation → Continuation}

theorem mono (h : Charted text marks part) (hsub : marks ⊆ marks') : Charted text marks' part := by
  intro after hafter
  obtain ⟨goals, own, hgoals, hown, hpart⟩ := h after hafter
  exact ⟨goals, own, hgoals, hown, fun chart hchart =>
    hpart chart fun mark hmark => hchart mark (hsub hmark)⟩

/-- Nothing. -/
theorem id : Charted text ∅ (fun k => k) := fun after hafter =>
  ⟨after, fun _ _ => ∅, hafter, fun _ _ _ _ h => absurd h (Set.notMem_empty _),
    fun _ _ _ _ _ hk => hk⟩

/-- One part after another. -/
theorem comp (h : Charted text marks part) (h' : Charted text marks' part')
    (hapart : Disjoint marks marks') : Charted text (marks ∪ marks') (fun k => part (part' k)) := by
  intro after hafter
  obtain ⟨goals', own', hgoals', hown', hpart'⟩ := h' after hafter
  obtain ⟨goals, own, hgoals, hown, hpart⟩ := h goals' hgoals'
  refine ⟨goals, .glue marks own own', hgoals, Chart.ahead_glue hown hown', ?_⟩
  intro chart hchart ready hrising k hk
  obtain ⟨hfirst, hsecond⟩ := Chart.of_glue hapart hchart
  exact hpart chart hfirst ready hrising _ (hpart' chart hsecond ready hrising k hk)

/-- A choice between two parts. -/
theorem choose (h : Charted text marks part) (h' : Charted text marks' part')
    (hapart : Disjoint marks marks') (greedy : Bool) :
    Charted text (marks ∪ marks') (fun k p => Regex.choose greedy (part k p) (part' k p)) := by
  intro after hafter
  obtain ⟨goals, own, hgoals, hown, hpart⟩ := h after hafter
  obtain ⟨goals', own', hgoals', hown', hpart'⟩ := h' after hafter
  refine ⟨fun cur => goals cur ∪ goals' cur, .glue marks own own', ?_,
    Chart.ahead_glue hown hown', ?_⟩
  · intro cur mark offset hmem
    exact hmem.elim (hgoals cur mark offset) (hgoals' cur mark offset)
  · intro chart hchart ready hrising k hk p hp
    obtain ⟨hfirst, hsecond⟩ := Chart.of_glue hapart hchart
    exact (hpart chart hfirst ready hrising k hk p hp).choose hrising
      (hpart' chart hsecond ready hrising k hk p hp) greedy

/-- A part as a marked choice. -/
theorem once (h : Charted text marks part) {mark : Nat} (hmark : mark ∉ marks) :
    Charted text (insert mark marks)
      (fun k p => Regex.once mark p.cursor.offset (part k p)) := by
  intro after hafter
  obtain ⟨goals, own, hgoals, hown, hpart⟩ := h after hafter
  refine ⟨fun cur => {.choice mark cur.offset}, .glue {mark} (fun _ => goals) own, ?_,
    Chart.ahead_glue (fun _ => hgoals) hown, ?_⟩
  · intro cur mark' offset hmem
    cases hmem
    exact le_rfl
  · intro chart hchart ready hrising k hk p hp
    have hapart : Disjoint {mark} marks := Set.disjoint_singleton_left.mpr hmark
    obtain ⟨hfirst, hsecond⟩ := Chart.of_glue hapart hchart
    refine Explores.once hp ?_ fun t ht _ => hrising _ _ (t.extends_add mark p.cursor.offset) ht
    rw [hfirst mark rfl]
    exact hpart chart hsecond ready hrising k hk p hp

/-- A step ahead, or none. -/
theorem jump (next? : Cursor → Option Cursor)
    (hnext : ∀ cur next, next? cur = some next → cur.Leads next) :
    Charted text ∅ (fun k p t =>
      match next? p.cursor with
      | some cur => k ⟨cur, p.groups⟩ t
      | none => .failed t) := by
  intro after hafter
  refine ⟨fun cur => (next? cur).elim ∅ after, fun _ _ => ∅, ?_,
    fun _ _ _ _ h => absurd h (Set.notMem_empty _), ?_⟩
  · intro cur mark offset hmem
    dsimp only at hmem
    cases hcur : next? cur with
    | none =>
      rw [hcur] at hmem
      cases hmem
    | some next =>
      rw [hcur] at hmem
      exact (hnext cur next hcur).offset_le.trans (hafter next mark offset hmem)
  · intro chart _ ready _ k hk p hp
    dsimp only
    cases hcur : next? p.cursor with
    | none => exact explores_fail
    | some next =>
      have hleads := hnext p.cursor next hcur
      exact (hk ⟨next, p.groups⟩ (Cursor.Leads.trans hp hleads)).of_le hleads.offset_le

end Charted

/-! ## Repeated characters -/

theorem Cursor.leads_of_mem_stops {chars : CharSet} {greedy : Bool} {most : Option Nat}
    {before : Option Char} {offset : Nat} {rest : List Char} {next : Cursor}
    (h : next ∈ stops chars greedy most before offset rest) :
    (⟨before, rest, offset⟩ : Cursor).Leads next := by
  induction rest generalizing most before offset with
  | nil =>
    obtain rfl := List.mem_singleton.mp h
    exact .refl _
  | cons c rest ih =>
    have hmore : ∀ most, next ∈ stops chars greedy most (some c) (offset + c.utf8Size) rest →
        (⟨before, c :: rest, offset⟩ : Cursor).Leads next :=
      fun most hnext => (leads_past rfl).trans (ih hnext)
    rw [stops] at h
    dsimp only at h
    split at h
    · split at h
      · rcases List.mem_append.mp h with h | h
        · exact hmore _ h
        · obtain rfl := List.mem_singleton.mp h
          exact .refl _
      · rcases List.mem_cons.mp h with rfl | h
        · exact .refl _
        · exact hmore _ h
    · obtain rfl := List.mem_singleton.mp h
      exact .refl _

/-- Trying positions in turn explores the goals after each of them. -/
theorem explores_tryAll {chart : Chart} {ready : Tried → Prop} {offset : Nat} {k : Continuation}
    {after : Cursor → Set Goal} (hrising : Rising ready) {ps : List Progress}
    (h : ∀ p ∈ ps, Explores text chart ready offset (k p) (after p.cursor)) :
    Explores text chart ready offset (tryAll k ps) {goal | ∃ p ∈ ps, goal ∈ after p.cursor} := by
  induction ps with
  | nil => simpa [tryAll] using explores_fail
  | cons p ps ih =>
    obtain ⟨hp, hps⟩ := List.forall_mem_cons.mp h
    have hgoals : {goal | ∃ q ∈ p :: ps, goal ∈ after q.cursor} =
        after p.cursor ∪ {goal | ∃ q ∈ ps, goal ∈ after q.cursor} := by
      ext goal
      simp
    rw [hgoals]
    exact hp.orElse hrising (ih hps)

namespace Charted

variable {marks : Set Nat} {part part' : Continuation → Continuation}

/-- Parts that do the same before everything that can come after them. -/
theorem congr (h : Charted text marks part)
    (heq : ∀ {chart ready k after}, Rising ready → Follows text chart ready k after →
      ∀ p : Progress, p.cursor.In text → part' k p = part k p) : Charted text marks part' := by
  intro after hafter
  obtain ⟨goals, own, hgoals, hown, hpart⟩ := h after hafter
  refine ⟨goals, own, hgoals, hown, fun chart hchart ready hrising k hk p hp => ?_⟩
  rw [heq hrising hk p hp]
  exact hpart chart hchart ready hrising k hk p hp

/-- Characters are taken, and any position between may be the last one. -/
theorem walk (chars : CharSet) (greedy : Bool) (most : Option Nat) :
    Charted text ∅ (fun k p =>
      takeChars chars (fun _ _ => false) (fun cur => k ⟨cur, p.groups⟩) greedy most p.cursor.before
        p.cursor.offset p.cursor.rest) := by
  intro after hafter
  let stops (cur : Cursor) := Cursor.stops chars greedy most cur.before cur.offset cur.rest
  refine ⟨fun cur => {goal | ∃ next ∈ stops cur, goal ∈ after next}, fun _ _ => ∅, ?_,
    fun _ _ _ _ h => absurd h (Set.notMem_empty _), ?_⟩
  · rintro cur mark offset ⟨next, hnext, hmem⟩
    exact (Cursor.leads_of_mem_stops hnext).offset_le.trans (hafter next mark offset hmem)
  · intro chart _ ready hrising k hk p hp
    have hstops : ∀ q ∈ (stops p.cursor).map (⟨·, p.groups⟩ : Cursor → Progress),
        Explores text chart ready p.cursor.offset (k q) (after q.cursor) := by
      intro q hq
      obtain ⟨next, hnext, rfl⟩ := List.mem_map.mp hq
      have hleads := Cursor.leads_of_mem_stops hnext
      exact (hk ⟨next, p.groups⟩ (Cursor.Leads.trans hp hleads)).of_le hleads.offset_le
    have htry := explores_tryAll hrising hstops
    rw [← funext (takeChars_eq_tryAll chars k p.groups greedy most p.cursor.before p.cursor.offset
      p.cursor.rest)] at htry
    simpa [stops] using htry

end Charted

/-! ## Repeated characters with a mark -/

/-- The walk over characters whose last position is a marked choice, so that it passes over
    positions that were left before. -/
def takeMarked (chars : CharSet) (mark : Nat) (greedy : Bool) (most : Option Nat)
    (k : Continuation) (p : Progress) : Tried → Outcome :=
  takeChars chars (fun offset tried => tried.has mark offset)
    (fun cur => once mark cur.offset (k ⟨cur, p.groups⟩)) greedy most p.cursor.before
    p.cursor.offset p.cursor.rest

section Many

variable {chars : CharSet} {greedy : Bool} {mark : Nat} {k : Continuation}
  {groups : List (Nat × Span)}

theorem grows_takeChars {leave : Cursor → Tried → Outcome} (rest : List Char) :
    ∀ {most : Option Nat} {before : Option Char} {offset : Nat},
      (∀ next : Cursor, Cursor.Leads ⟨before, rest, offset⟩ next → Grows (leave next)) →
      Grows (takeChars chars (fun _ _ => false) leave greedy most before offset rest) := by
  induction rest with
  | nil => exact fun h => h _ (.refl _)
  | cons c rest ih =>
    intro most before offset h t
    have hhere := h _ (.refl _)
    have hmore : Grows (takeChars chars (fun _ _ => false) leave greedy (most.map (· - 1)) (some c)
        (offset + c.utf8Size) rest) :=
      ih fun next hnext => h next ((Cursor.leads_past rfl).trans hnext)
    rw [takeChars]
    simp only [Bool.false_eq_true, if_false]
    split
    · split
      · exact hmore.orElse hhere t
      · exact hhere.orElse hmore t
    · exact hhere t

theorem once_of_has {offset : Nat} {leave : Tried → Outcome} {t : Tried}
    (h : t.has mark offset = true) : once mark offset leave t = .failed t := if_pos h

/-- A choice that has been tried does not count as a way to leave. -/
theorem choose_once_of_has {offset : Nat} {more leave : Tried → Outcome} {t : Tried}
    (hmore : Grows more) (h : t.has mark offset = true) :
    choose greedy more (once mark offset leave) t = more t := by
  cases greedy with
  | true =>
    have hgrows := hmore t
    rw [choose, if_pos rfl]
    cases houtcome : more t with
    | found result t' => rfl
    | failed t' =>
      rw [houtcome] at hgrows
      exact once_of_has (Tried.choice_mem_seen.mp (hgrows.seen (Tried.choice_mem_seen.mpr h)))
  | false =>
    rw [choose, if_neg Bool.false_ne_true, once_of_has h]
    rfl

/-- With a limit, passing over a position is the same as failing to leave there. -/
theorem takeMarked_limited (rest : List Char) :
    ∀ (n : Nat) (before : Option Char) (offset : Nat) (t : Tried),
      (∀ next : Cursor, Cursor.Leads ⟨before, rest, offset⟩ next → Grows (k ⟨next, groups⟩)) →
      takeMarked chars mark greedy (some n) k ⟨⟨before, rest, offset⟩, groups⟩ t =
        takeChars chars (fun _ _ => false) (fun cur => once mark cur.offset (k ⟨cur, groups⟩))
          greedy (some n) before offset rest t := by
  induction rest with
  | nil =>
    intro n before offset t _
    simp only [takeMarked, takeChars, Bool.false_eq_true, if_false, once]
    split
    · rfl
    · rfl
  | cons c rest ih =>
    intro n before offset t hgrows
    have hlater : ∀ next : Cursor, Cursor.Leads ⟨some c, rest, offset + c.utf8Size⟩ next →
        Grows (k ⟨next, groups⟩) :=
      fun next hnext => hgrows next ((Cursor.leads_past rfl).trans hnext)
    have hmore := funext fun t => ih (n - 1) (some c) (offset + c.utf8Size) t hlater
    have hgrowing : Grows (takeChars chars (fun _ _ => false)
        (fun cur => once mark cur.offset (k ⟨cur, groups⟩)) greedy (some (n - 1)) (some c)
        (offset + c.utf8Size) rest) :=
      grows_takeChars rest fun next hnext => (hlater next hnext).once mark next.offset
    unfold takeMarked at hmore ⊢
    rw [takeChars, takeChars]
    dsimp only [Option.map_some] at hmore ⊢
    rw [hmore]
    generalize takeChars chars (fun _ _ => false) _ greedy _ (some c) _ rest = more at *
    generalize k ⟨⟨before, c :: rest, offset⟩, groups⟩ = leave at *
    simp only [Bool.false_eq_true, if_false, Option.isSome_some, if_true]
    by_cases hhas : t.has mark offset = true
    · simp only [if_pos hhas]
      split
      · exact (choose_once_of_has hgrowing hhas).symm
      · exact (once_of_has hhas).symm
    · simp only [if_neg hhas]

/-- Characters are taken up to a limit, and each position may be left once. -/
theorem charted_takeMarked_limited (chars : CharSet) (mark : Nat) (greedy : Bool) (n : Nat) :
    Charted text {mark} (takeMarked chars mark greedy (some n)) := by
  have hleave : Charted text {mark} (fun k p => once mark p.cursor.offset (k p)) := by
    simpa using Charted.once .id (Set.notMem_empty mark)
  have hwalk := (Charted.walk chars greedy (some n)).comp hleave (Set.empty_disjoint _)
  refine (hwalk.mono (by simp)).congr fun {chart ready k after} _ hk p hp => ?_
  funext t
  exact takeMarked_limited p.cursor.rest n p.cursor.before p.cursor.offset t
    fun next hnext => (hk ⟨next, p.groups⟩ (Cursor.Leads.trans hp hnext)).grows

/-- Without a limit the walk is held at each position: it goes on from there or is left. -/
theorem takeMarked_cons (before : Option Char) (offset : Nat) (c : Char) (rest : List Char) :
    takeMarked chars mark greedy none k ⟨⟨before, c :: rest, offset⟩, groups⟩ =
      if chars.contains c then
        hold mark offset greedy
          (takeMarked chars mark greedy none k
            ⟨⟨some c, rest, offset + c.utf8Size⟩, groups⟩)
          (k ⟨⟨before, c :: rest, offset⟩, groups⟩)
      else hold mark offset true .failed (k ⟨⟨before, c :: rest, offset⟩, groups⟩) := by
  funext t
  simp only [takeMarked]
  rw [takeChars]
  dsimp only [Option.map_none]
  by_cases hc : chars.contains c = true
  · simp only [hc]
    rfl
  · simp only [hc]
    rfl

/-- The goals of an unlimited walk that is left at a position. -/
def unlimitedGoals (chars : CharSet) (mark : Nat) (after : Cursor → Set Goal) (cur : Cursor) :
    Set Goal :=
  (cur.step? chars).elim ∅ (fun next => {.choice mark next.offset}) ∪ after cur

theorem explores_takeMarked {chart : Chart} {ready : Tried → Prop} {after : Cursor → Set Goal}
    (hrising : Rising ready) (hk : Follows text chart ready k after)
    (hchart : chart mark = unlimitedGoals chars mark after) (rest : List Char) :
    ∀ (before : Option Char) (offset : Nat), Cursor.In text ⟨before, rest, offset⟩ →
      Explores text chart ready offset
        (takeMarked chars mark greedy none k ⟨⟨before, rest, offset⟩, groups⟩)
        {.choice mark offset} := by
  induction rest with
  | nil =>
    intro before offset hin
    have hleads : chart mark ⟨before, [], offset⟩ = ∅ ∪ after ⟨before, [], offset⟩ := by
      rw [hchart]
      rfl
    exact Explores.hold hin hrising explores_fail (hk ⟨_, groups⟩ hin) hleads true
  | cons c rest ih =>
    intro before offset hin
    have hstep : Cursor.Leads ⟨before, c :: rest, offset⟩ ⟨some c, rest, offset + c.utf8Size⟩ :=
      Cursor.leads_past rfl
    have hmore := (ih _ _ (hin.trans hstep)).of_le hstep.offset_le
    have hleave := hk ⟨⟨before, c :: rest, offset⟩, groups⟩ hin
    rw [takeMarked_cons]
    split
    · rename_i hc
      refine Explores.hold hin hrising hmore hleave ?_ greedy
      simp [hchart, unlimitedGoals, Cursor.step?, hc, Cursor.past]
    · rename_i hc
      refine Explores.hold hin hrising explores_fail hleave ?_ true
      simp [hchart, unlimitedGoals, Cursor.step?, hc]

/-- Characters are taken without a limit. -/
theorem charted_takeMarked_unlimited (chars : CharSet) (mark : Nat) (greedy : Bool) :
    Charted text {mark} (takeMarked chars mark greedy none) := by
  intro after hafter
  refine ⟨fun cur => {.choice mark cur.offset}, fun _ => unlimitedGoals chars mark after, ?_,
    fun _ => ?_, ?_⟩
  · intro cur mark' offset hmem
    cases hmem
    exact le_rfl
  · rintro cur mark' offset (hmem | hmem)
    · cases hstep : cur.step? chars with
      | none =>
        rw [hstep] at hmem
        cases hmem
      | some next =>
        rw [hstep] at hmem
        cases hmem
        exact (Cursor.leads_of_step? hstep).offset_le
    · exact hafter cur mark' offset hmem
  · intro chart hchart ready hrising k hk p hp
    exact explores_takeMarked hrising hk (hchart mark rfl) p.cursor.rest _ _ hp

end Many

end ProgramOutline.Regex
