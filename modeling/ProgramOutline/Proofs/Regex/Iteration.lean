import ProgramOutline.Proofs.Regex.Memory
import ProgramOutline.Proofs.Regex.Needs
import ProgramOutline.Proofs.Regex.Succession

/-!
# One match after another

With a search for the first match from a position on, successive matches are found in two ways. A
loop goes on at the end of each match, or one character later if the match is empty. An iteration
always goes on at the end; if the next match is empty and touches the one before it, it is dropped
and looked for again from one byte later.

Both choose from the matches at all positions of a text, and so do the walks that find them in one
pass. Loop and iteration agree but for empty matches.

Results:
* `Tree.lt_resumeAt`: the loop moves on at every turn.
* `Pattern.matchesHere_of_window?`: a window shuts out no match.
* `Tree.findFrom_eq`, `Tree.loop_eq`, `Tree.iterate_eq`: searching, the loop and the iteration as
  choices from the matches at all positions.
* `Pattern.declarations_eq_loop`: one walk over the text finds what the loop finds.
* `Pattern.findAll_eq_iterate`: the other one finds what the iteration finds.
* `Tree.filterMap_loop`: where empty matches do not count, loop and iteration are the same.
-/

namespace ProgramOutline.Regex

variable {t : Tree} {text : List Char} {chart : Chart}

/-! ## Loop and iteration -/

theorem Tree.first_le_of_findAlong {size : Nat} {window : Window} {tried : Tried}
    {before : Option Char} {offset : Nat} {rest : List Char} {m : Match}
    (h : t.findAlong size window tried before offset rest = some m) :
    window.first ≤ m.span.start := by
  induction rest generalizing before offset tried with
  | nil => exact first_le_of_matchFrom (Prod.ext h rfl)
  | cons c rest ih =>
    rw [findAlong] at h
    split at h
    · rename_i found tried' hfound
      obtain rfl := Option.some.inj h
      exact first_le_of_matchFrom hfound
    · exact ih h

theorem Tree.le_of_findFrom {position : Nat} {m : Match} (h : t.findFrom text position = some m) :
    position ≤ m.span.start := first_le_of_findAlong h

/-- The search goes on behind the start of a match. -/
theorem Match.Lies.lt_resumeAt {m : Match} (h : m.Lies 0 text) :
    m.span.start < resumeAt text m := by
  unfold resumeAt
  split
  · assumption
  · obtain ⟨before, taken, after, htext, hstart, hstop⟩ := h.span
    split
    · rw [htext]
      simp only [Text.byteLength_append]
      omega
    · rename_i c rest hrest
      have hsize := c.utf8Size_pos
      omega

/-- The loop moves on at every turn. -/
theorem Tree.lt_resumeAt {position : Nat} {m : Match} (h : t.findFrom text position = some m) :
    position < resumeAt text m :=
  (le_of_findFrom h).trans_lt (lies_of_findFrom h).lt_resumeAt

theorem Match.Lies.stop_le {m : Match} (h : m.Lies 0 text) :
    m.span.stop ≤ Text.byteLength text := by
  obtain ⟨before, taken, after, rfl, hstart, hstop⟩ := h.span
  simp only [Text.byteLength_append]
  omega

/-- The matches that a loop finds. It looks for the first match from `position` on, and goes on
    where that match sends it, until nothing is found or the text ends. -/
def Tree.loop (t : Tree) (text : List Char) (position : Nat) : List Match :=
  if position ≤ Text.byteLength text then
    match _h : t.findFrom text position with
    | none => []
    | some m => m :: t.loop text (resumeAt text m)
  else []
termination_by Text.byteLength text + 1 - position
decreasing_by
  have hlt := lt_resumeAt _h
  omega

/-- The matches of an iteration. It looks for the first match from `position` on, and goes on where
    that match ends. A match that is empty and ends at `last`, where the match before it ended, is
    dropped, and the search starts again one byte later. -/
def Tree.iterate (t : Tree) (text : List Char) (position : Nat) (last : Option Nat) : List Match :=
  match h : t.findFrom text position with
  | none => []
  | some m =>
    if m.isEmpty && last == some m.span.stop then t.iterate text (position + 1) last
    else m :: t.iterate text m.span.stop (some m.span.stop)
termination_by 2 * (Text.byteLength text + 1 - position) + (if last = some position then 0 else 1)
decreasing_by
  · have hfirst := le_of_findFrom h
    have horder := (lies_of_findFrom h).start_le_stop
    have hstop := (lies_of_findFrom h).stop_le
    split <;> omega
  · rename_i hkept
    have hfirst := le_of_findFrom h
    have horder := (lies_of_findFrom h).start_le_stop
    have hstop := (lies_of_findFrom h).stop_le
    simp only [if_true]
    -- a match that ends where the search for it starts is empty, so no match ended there before
    by_cases hplace : m.span.stop = position
    · rw [if_neg]
      · omega
      · rintro rfl
        simp [Match.isEmpty, hplace] at hkept
        omega
    · omega

/-! ## All positions -/

/-- The matches at all positions of a text. -/
def Tree.everyMatch (t : Tree) (text : List Char) : List Match :=
  t.matchesHere text (offsetBound text) none 0 text

theorem Tree.lies_of_mem_upTo {last : Nat} {cur : Cursor} {m : Match}
    (h : m ∈ t.upTo text last cur) : m.Lies cur.offset cur.rest := by
  unfold upTo at h
  split at h
  · exact lies_of_matchAt (Prod.ext (Option.mem_toList.mp h) rfl)
  · cases h

theorem Tree.lies_of_mem_matchesHere {last : Nat} {m : Match} {rest : List Char} :
    ∀ {before : Option Char} {offset : Nat},
      m ∈ t.matchesHere text last before offset rest → m.Lies offset rest := by
  induction rest with
  | nil => exact lies_of_mem_upTo
  | cons c rest ih =>
    intro before offset h
    rw [matchesHere] at h
    rcases List.mem_append.mp h with h | h
    · exact lies_of_mem_upTo h
    · exact (ih h).cons

theorem Tree.lies_of_mem_everyMatch {m : Match} (h : m ∈ t.everyMatch text) : m.Lies 0 text :=
  lies_of_mem_matchesHere h

theorem Tree.pairwise_matchesHere (last : Nat) (rest : List Char) :
    ∀ (before : Option Char) (offset : Nat),
      (t.matchesHere text last before offset rest).Pairwise
        (fun a b => a.span.start < b.span.start) := by
  have hhere : ∀ cur, (t.upTo text last cur).Pairwise
      (fun a b => a.span.start < b.span.start) := by
    intro cur
    unfold upTo
    split
    · cases t.matchHere? text cur with
      | none => exact .nil
      | some m => exact List.pairwise_singleton ..
    · exact .nil
  induction rest with
  | nil => exact fun before offset => hhere _
  | cons c rest ih =>
    intro before offset
    rw [matchesHere]
    refine List.pairwise_append.mpr ⟨hhere _, ih _ _, fun a ha b hb => ?_⟩
    have hle := (lies_of_mem_matchesHere hb).le
    have hsize := c.utf8Size_pos
    rw [start_of_mem_upTo ha]
    dsimp only
    omega

/-- The matches at all positions are in order. -/
theorem Tree.pairwise_everyMatch (t : Tree) (text : List Char) :
    (t.everyMatch text).Pairwise (fun a b => a.span.start < b.span.start) :=
  pairwise_matchesHere ..

theorem Tree.matchesHere_congr {last last' : Nat}
    (h : ∀ cur, cur.In text → t.upTo text last cur = t.upTo text last' cur) (rest : List Char) :
    ∀ {before : Option Char} {offset : Nat}, Cursor.In text ⟨before, rest, offset⟩ →
      t.matchesHere text last before offset rest = t.matchesHere text last' before offset rest := by
  induction rest with
  | nil => exact h _
  | cons c rest ih =>
    intro before offset hin
    rw [matchesHere, matchesHere, h _ hin, ih (hin.trans (Cursor.leads_past rfl))]

theorem Tree.matchesHere_eq_nil {last : Nat}
    (h : ∀ cur, cur.In text → t.upTo text last cur = []) (rest : List Char) :
    ∀ {before : Option Char} {offset : Nat}, Cursor.In text ⟨before, rest, offset⟩ →
      t.matchesHere text last before offset rest = [] := by
  induction rest with
  | nil => exact h _
  | cons c rest ih =>
    intro before offset hin
    rw [matchesHere, h _ hin, ih (hin.trans (Cursor.leads_past rfl)), List.append_nil]

/-! ## The last start -/

section Needs

variable {source : String} {pattern : Pattern} (h : compile? source = some pattern)
include h

/-- No match starts after the last start, and without one there is no match. -/
theorem Pattern.exists_lastStart {last : Nat} {cur : Cursor} (hcur : cur.In text) {m : Match}
    (hm : m ∈ pattern.tree.upTo text last cur) :
    ∃ last, lastStart? pattern.needs text = some last ∧ cur.offset ≤ last := by
  unfold Tree.upTo at hm
  split at hm
  · have hoccur := Tree.occur_of_matchAt (takes_of_compile? h _ 0)
      (Prod.ext (Option.mem_toList.mp hm) rfl)
    obtain ⟨before, rest, htext, rfl⟩ := hcur
    obtain ⟨last, hlast, hle⟩ := Regex.exists_lastStart hoccur before
    dsimp only at htext
    rw [Cursor.move_rest, ← htext] at hlast
    exact ⟨last, hlast, by simpa using hle⟩
  · cases hm

/-- A window shuts out no match. -/
theorem Pattern.matchesHere_of_window? {start : Nat} {window : Window}
    (hwindow : pattern.window? text start = some window) :
    window.first = start ∧
      pattern.tree.matchesHere text window.last none 0 text = pattern.tree.everyMatch text := by
  unfold window? at hwindow
  split at hwindow
  · obtain rfl := Option.some.inj hwindow
    exact ⟨rfl, rfl⟩
  · obtain ⟨last, hlast, rfl⟩ := Option.map_eq_some_iff.mp hwindow
    refine ⟨rfl, Tree.matchesHere_congr (fun cur hcur => ?_) text (.refl _)⟩
    have hbound := hcur.offset_lt.le
    have hnone : ¬cur.offset ≤ last → pattern.tree.upTo text (offsetBound text) cur = [] := by
      intro hbehind
      refine List.eq_nil_iff_forall_not_mem.mpr (fun m hm => ?_)
      obtain ⟨last', hlast', hle⟩ := exists_lastStart h hcur hm
      obtain rfl := Option.some.inj (hlast.symm.trans hlast')
      exact hbehind hle
    by_cases hle : cur.offset ≤ last
    · rw [Tree.upTo, Tree.upTo, if_pos hle, if_pos hbound]
    · rw [hnone hle, Tree.upTo, if_neg hle]

/-- Without a window there is no match. -/
theorem Pattern.everyMatch_of_noWindow {start : Nat} (hwindow : pattern.window? text start = none) :
    pattern.tree.everyMatch text = [] := by
  unfold window? at hwindow
  split at hwindow
  · cases hwindow
  · refine Tree.matchesHere_eq_nil (fun cur hcur => ?_) text (.refl _)
    refine List.eq_nil_iff_forall_not_mem.mpr (fun m hm => ?_)
    obtain ⟨last, hlast, -⟩ := exists_lastStart h hcur hm
    rw [hlast] at hwindow
    cases hwindow

theorem Pattern.declarations_eq_pickFrom (text : List Char) (start : Nat) :
    pattern.declarations text start = pickFrom start (pattern.tree.everyMatch text) := by
  obtain ⟨chart, hexplored⟩ := exists_explored h text
  unfold declarations
  split
  · rename_i hwindow
    rw [everyMatch_of_noWindow h hwindow]
    rfl
  · rename_i window hwindow
    obtain ⟨rfl, hevery⟩ := matchesHere_of_window? h hwindow
    rw [← hevery]
    exact Tree.declarationsAlong_eq hexplored text (.refl _)
      ⟨0, .inl (Nat.zero_le _), settled_start _⟩

theorem Pattern.findAll_eq_pickApart (text : List Char) :
    pattern.findAll text = pickApart 0 none (pattern.tree.everyMatch text) := by
  obtain ⟨chart, hexplored⟩ := exists_explored h text
  unfold findAll
  split
  · rename_i hwindow
    rw [everyMatch_of_noWindow h hwindow]
    rfl
  · rename_i window hwindow
    obtain ⟨hfirst, hevery⟩ := matchesHere_of_window? h hwindow
    obtain ⟨first, last⟩ := window
    obtain rfl : first = 0 := hfirst
    rw [← hevery]
    exact Tree.matchesAlong_eq hexplored text (.refl _)
      ⟨0, .inl (Nat.zero_le _), settled_start _⟩

end Needs

/-! ## Choices from ordered matches -/

theorem pickFrom_congr {a b : Nat} {found : List Match}
    (h : ∀ m ∈ found, m.span.start < a ↔ m.span.start < b) :
    pickFrom a found = pickFrom b found := by
  induction found with
  | nil => rfl
  | cons m rest ih =>
    obtain ⟨hm, hrest⟩ := List.forall_mem_cons.mp h
    simp only [pickFrom, hm, ih hrest]

theorem pickApart_congr {a b : Nat} {last : Option Nat} {found : List Match}
    (h : ∀ m ∈ found, m.span.start < a ↔ m.span.start < b) :
    pickApart a last found = pickApart b last found := by
  induction found with
  | nil => rfl
  | cons m rest ih =>
    obtain ⟨hm, hrest⟩ := List.forall_mem_cons.mp h
    simp only [pickApart, hm, ih hrest]

theorem pickFrom_eq_nil {first : Nat} {found : List Match}
    (h : ∀ m ∈ found, m.span.start < first) : pickFrom first found = [] := by
  rw [← List.append_nil found, pickFrom_append h, pickFrom]

theorem pickApart_eq_nil {first : Nat} {last : Option Nat} {found : List Match}
    (h : ∀ m ∈ found, m.span.start < first) : pickApart first last found = [] := by
  rw [← List.append_nil found, pickApart_append h, pickApart]

/-- Where empty matches do not count, it makes no difference which of them are left out. -/
theorem filterMap_pick {α : Type} (f : Match → Option α) {found : List Match}
    (hsorted : found.Pairwise (fun a b => a.span.start < b.span.start))
    (hempty : ∀ m ∈ found, m.isEmpty = true → f m = none) (first : Nat) (last : Option Nat) :
    (pickFrom first found).filterMap f = (pickApart first last found).filterMap f := by
  induction found generalizing first last with
  | nil => rfl
  | cons m rest ih =>
    obtain ⟨hlater, hsorted⟩ := List.pairwise_cons.mp hsorted
    obtain ⟨hm, hempty⟩ := List.forall_mem_cons.mp hempty
    rw [pickFrom, pickApart]
    split
    · exact ih hsorted hempty first last
    · rename_i hfirst
      split
      · rename_i hdropped
        obtain ⟨hisEmpty, -⟩ := Bool.and_eq_true_iff.mp hdropped
        have hspan : m.span.start = m.span.stop := by simpa [Match.isEmpty] using hisEmpty
        -- all matches that are left start later
        have hsame : ∀ m' ∈ rest, m'.span.start < m.span.stop ↔ m'.span.start < first := by
          intro m' hm'
          have hlt := hlater m' hm'
          omega
        rw [List.filterMap_cons_none (hm hisEmpty), pickFrom_congr hsame]
        exact ih hsorted hempty first last
      · rw [List.filterMap_cons, List.filterMap_cons, ih hsorted hempty]

/-! ## Searches as choices -/

/-- The loop goes on where the match ends, as far as the matches that start later are concerned. -/
theorem lt_resumeAt_iff {m m' : Match} (h : m.Lies 0 text) (h' : m'.Lies 0 text)
    (hlater : m.span.start < m'.span.start) :
    m'.span.start < resumeAt text m ↔ m'.span.start < m.span.stop := by
  unfold resumeAt
  split
  · exact Iff.rfl
  · obtain ⟨before, taken, after, htext, hstart, hstop⟩ := h.span
    obtain ⟨before', taken', after', htext', hstart', -⟩ := h'.span
    have hend : m.span.stop = Text.byteLength before := by omega
    have hlt : Text.byteLength before < Text.byteLength before' := by omega
    rw [List.append_assoc] at htext htext'
    -- there is a character between the two
    obtain ⟨between, rfl⟩ : before <+: before' := by
      rcases List.append_eq_append_iff.mp (htext.symm.trans htext') with
        ⟨between, hbetween, -⟩ | ⟨between, hbetween, -⟩
      · exact ⟨between, hbetween.symm⟩
      · rw [hbetween, Text.byteLength_append] at hlt
        omega
    cases between with
    | nil => simp at hlt
    | cons c between =>
      rw [htext', List.append_assoc, hend, Text.dropBytes_byteLength]
      simp only [List.cons_append, hstart', Text.byteLength_append, Text.byteLength_cons]
      omega

section Explored

variable (ht : t.Explored text chart)
include ht

/-- The first match from a position on is the first one of all that starts there or later. -/
theorem Tree.findFrom_eq (position : Nat) :
    t.findFrom text position = (t.everyMatch text).find? (position ≤ ·.span.start) :=
  findAlong_eq ht text (.refl _) ⟨0, .inl (Nat.zero_le _), settled_start _⟩

theorem Tree.lt_of_findFrom_none {position : Nat} (h : t.findFrom text position = none) :
    ∀ m ∈ t.everyMatch text, m.span.start < position := by
  rw [findFrom_eq ht] at h
  intro m hm
  simpa using List.find?_eq_none.mp h m hm

/-- The matches before and after the one that is found. -/
theorem Tree.split_of_findFrom {position : Nat} {m : Match}
    (h : t.findFrom text position = some m) :
    ∃ skipped rest, t.everyMatch text = skipped ++ m :: rest ∧
      (∀ m' ∈ skipped, m'.span.start < position) ∧
      ∀ m' ∈ rest, m.span.start < m'.span.start ∧ m'.Lies 0 text := by
  rw [findFrom_eq ht] at h
  obtain ⟨-, skipped, rest, hevery, hskipped⟩ := List.find?_eq_some_iff_append.mp h
  refine ⟨skipped, rest, hevery, fun m' hm' => by simpa using hskipped m' hm', fun m' hm' => ?_⟩
  have hsorted := t.pairwise_everyMatch text
  rw [hevery] at hsorted
  have hmem : m' ∈ t.everyMatch text :=
    hevery ▸ List.mem_append_right _ (List.mem_cons_of_mem _ hm')
  exact ⟨(List.pairwise_cons.mp (List.pairwise_append.mp hsorted).2.1).1 m' hm',
    lies_of_mem_everyMatch hmem⟩

/-- The loop chooses the matches that start where it goes on or later. -/
theorem Tree.loop_eq (position : Nat) :
    t.loop text position = pickFrom position (t.everyMatch text) := by
  fun_induction t.loop text position with
  | case1 position _ h => exact (pickFrom_eq_nil (lt_of_findFrom_none ht h)).symm
  | case2 position _ m h ih =>
    have hlies := lies_of_findFrom h
    have hfirst := le_of_findFrom h
    obtain ⟨skipped, rest, hevery, hskipped, hrest⟩ := split_of_findFrom ht h
    have hbefore : ∀ m' ∈ skipped ++ [m], m'.span.start < resumeAt text m := by
      have hresume := lt_resumeAt h
      refine List.forall_mem_append.mpr ⟨fun m' hm' => (hskipped m' hm').trans hresume, ?_⟩
      exact List.forall_mem_singleton.mpr hlies.lt_resumeAt
    rw [ih, hevery, pickFrom_append hskipped, pickFrom, if_neg hfirst.not_gt,
      List.append_cons, pickFrom_append hbefore]
    congr 1
    exact pickFrom_congr fun m' hm' => lt_resumeAt_iff hlies (hrest m' hm').2 (hrest m' hm').1
  | case3 position hend =>
    refine (pickFrom_eq_nil fun m hm => ?_).symm
    have hlies := lies_of_mem_everyMatch hm
    have horder := hlies.start_le_stop
    have hstop := hlies.stop_le
    omega

/-- The iteration chooses the matches that start where it goes on or later and do not touch. -/
theorem Tree.iterate_eq (position : Nat) (last : Option Nat) :
    t.iterate text position last = pickApart position last (t.everyMatch text) := by
  fun_induction t.iterate text position last with
  | case1 position last h => exact (pickApart_eq_nil (lt_of_findFrom_none ht h)).symm
  | case2 position last m h hdropped ih =>
    have hfirst := le_of_findFrom h
    obtain ⟨skipped, rest, hevery, hskipped, hrest⟩ := split_of_findFrom ht h
    rw [ih, hevery, pickApart_append hskipped,
      pickApart_append fun m' hm' => (hskipped m' hm').trans (Nat.lt_succ_self _)]
    simp only [pickApart, if_pos hdropped, if_neg hfirst.not_gt, ite_self]
    refine pickApart_congr fun m' hm' => ?_
    have hlater := (hrest m' hm').1
    omega
  | case3 position last m h hkept ih =>
    have hlies := lies_of_findFrom h
    have hfirst := le_of_findFrom h
    have horder := hlies.start_le_stop
    obtain ⟨skipped, rest, hevery, hskipped, hrest⟩ := split_of_findFrom ht h
    have hbefore : ∀ m' ∈ skipped, m'.span.start < m.span.stop := fun m' hm' =>
      (hskipped m' hm').trans_le (hfirst.trans horder)
    -- the match itself starts before its end, or it is empty and touches its end
    have hpast : pickApart m.span.stop (some m.span.stop) (m :: rest) =
        pickApart m.span.stop (some m.span.stop) rest := by
      rw [pickApart]
      split
      · rfl
      · rw [if_pos]
        simp only [Match.isEmpty, beq_self_eq_true, Bool.and_true, beq_iff_eq]
        omega
    rw [ih, hevery, pickApart_append hskipped, pickApart_append hbefore, hpast, pickApart,
      if_neg hfirst.not_gt, if_neg hkept]

/-- Where empty matches do not count, loop and iteration are the same. -/
theorem Tree.filterMap_loop {α : Type} (f : Match → Option α)
    (hempty : ∀ m : Match, m.Lies 0 text → m.isEmpty = true → f m = none) (position : Nat)
    (last : Option Nat) :
    (t.loop text position).filterMap f = (t.iterate text position last).filterMap f := by
  rw [loop_eq ht, iterate_eq ht]
  exact filterMap_pick f (t.pairwise_everyMatch text)
    (fun m hm => hempty m (lies_of_mem_everyMatch hm)) position last

end Explored

/-! ## Patterns -/

section Pattern

variable {source : String} {pattern : Pattern} (h : compile? source = some pattern)
include h

/-- One walk over the text finds the matches of the loop. -/
theorem Pattern.declarations_eq_loop (text : List Char) (start : Nat) :
    pattern.declarations text start = pattern.tree.loop text start := by
  obtain ⟨chart, hexplored⟩ := exists_explored h text
  rw [declarations_eq_pickFrom h, Tree.loop_eq hexplored]

/-- One walk over the text finds the matches of the iteration. -/
theorem Pattern.findAll_eq_iterate (text : List Char) :
    pattern.findAll text = pattern.tree.iterate text 0 none := by
  obtain ⟨chart, hexplored⟩ := exists_explored h text
  rw [findAll_eq_pickApart h, Tree.iterate_eq hexplored]

end Pattern

end ProgramOutline.Regex
