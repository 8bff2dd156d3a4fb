import ProgramOutline.Body
import ProgramOutline.Proofs.Regex.TreeChart

/-!
# Remembering changes no answer

What a search remembers of the searches before it are choices from which no match can be reached. So
the match that is found at a position is the same as without any memory, and looking for all matches
in one walk finds at each position what a search from there alone would find.

Results:
* `Settled`: what is remembered from a position on leads to nothing that is not remembered.
* `Tree.matchAt_settled`: such a memory changes no match, and stays like this.
* `Tree.findAlong_eq`, `Tree.matchesAlong_eq`, `Tree.declarationsAlong_eq`: the walks over a text as
  choices from the matches at all positions.
-/

namespace ProgramOutline.Regex

variable {text : List Char} {chart : Chart} {t : Tree} {start : Nat} {tried : Tried} {cur : Cursor}

/-! ## Memories -/

/-- Is the search with a tree charted? -/
structure Tree.Explored (t : Tree) (text : List Char) (chart : Chart) : Prop where
  ahead : ∀ mark, Ahead (chart mark)
  explores : ∃ goals : Cursor → Set Goal, ∀ p : Progress, p.cursor.In text →
    Explores text chart (fun _ => True) p.cursor.offset
      (t.run (offsetBound text) 0 .found p) (goals p.cursor)

/-- The search with the tree of a pattern is charted. -/
theorem exists_explored {source : String} {pattern : Pattern}
    (h : compile? source = some pattern) (text : List Char) :
    ∃ chart, pattern.tree.Explored text chart := by
  obtain ⟨hi, hmarked⟩ := marked_of_compile? h
  have hcharted : Charted text _ (pattern.tree.run (offsetBound text) 0) := Tree.charted hmarked 0
  obtain ⟨goals, own, -, hown, hrun⟩ :=
    hcharted (fun _ => {.done}) (fun _ _ _ hmem => by cases hmem)
  exact ⟨own, hown, goals, hrun own (fun _ _ => rfl) _ (fun _ _ _ h => h) _
    fun p _ => explores_found le_rfl⟩

/-- Does what is remembered from `start` on lead to nothing that is not remembered? -/
structure Settled (text : List Char) (chart : Chart) (start : Nat) (tried : Tried) : Prop where
  base_le : tried.base ≤ start
  leads : ∀ mark cur, cur.In text → start ≤ cur.offset → .choice mark cur.offset ∈ tried.seen →
    chart mark cur ⊆ tried.seen

theorem settled_start (size : Nat) : Settled text chart start (.start size) where
  base_le := Nat.zero_le _
  leads mark cur _ _ h := by simp [Tried.has_start] at h

/-- What is remembered from `start` on. -/
def Tried.seenFrom (tried : Tried) (start : Nat) : Set Goal :=
  {goal | goal ∈ tried.seen ∧ ∃ mark offset, goal = .choice mark offset ∧ start ≤ offset}

theorem Settled.closed (h : Settled text chart start tried) (hahead : ∀ mark, Ahead (chart mark)) :
    Closed text chart (tried.seenFrom start) where
  noMatch := fun hmem => Tried.done_notMem_seen hmem.1
  leads := by
    rintro mark cur hcur ⟨hmem, mark', offset, heq, hstart⟩ goal hgoal
    obtain ⟨rfl, rfl⟩ := Goal.choice.inj heq
    obtain ⟨mark', offset', rfl, hhas⟩ := h.leads mark cur hcur hstart hmem hgoal
    have hle := hahead mark cur mark' offset' hgoal
    exact ⟨Tried.choice_mem_seen.mpr hhas, mark', offset', rfl, hstart.trans hle⟩

/-- Dead choices apart, nothing is remembered from `start` on. -/
theorem agree_start (tried : Tried) (start size : Nat) :
    Agree (tried.seenFrom start) start tried (.start size) := by
  intro mark offset hstart hdead
  rw [Tried.has_start, Bool.eq_false_iff]
  exact fun hhas => hdead ⟨Tried.choice_mem_seen.mpr hhas, mark, offset, rfl, hstart⟩

/-- What a search has settled is settled together with what was settled before. -/
theorem Settled.extend (h : Settled text chart start tried) {tried' : Tried} {start' : Nat}
    (hle : start ≤ start') (hextends : tried.Extends tried')
    (hsettles : Settles text chart start' tried tried') : Settled text chart start' tried' where
  base_le := by
    rw [hextends.base]
    exact h.base_le.trans hle
  leads mark cur hcur hstart hmem := by
    by_cases hbefore : .choice mark cur.offset ∈ tried.seen
    · exact (h.leads mark cur hcur (hle.trans hstart) hbefore).trans hextends.seen
    · exact hsettles mark cur hcur hstart hmem hbefore

/-- Where a match ends all is forgotten, and behind its end nothing is left to do. -/
theorem Settled.restart {stop : Nat} (h : Settled text chart (stop + 1) tried)
    (hbase : tried.base ≤ stop) (hahead : ∀ mark, Ahead (chart mark)) :
    Settled text chart stop (tried.restart stop) where
  base_le := le_rfl
  leads mark cur hcur hstart hmem goal hgoal := by
    rw [Tried.choice_mem_seen] at hmem
    by_cases hoffset : cur.offset = stop
    · rw [hoffset, Tried.has_restart_self] at hmem
      cases hmem
    · rw [Tried.has_restart_of_ne hoffset (by omega), ← Tried.choice_mem_seen] at hmem
      obtain ⟨mark', offset', rfl, hhas⟩ := h.leads mark cur hcur (by omega) hmem hgoal
      have hle := hahead mark cur mark' offset' hgoal
      rw [Tried.choice_mem_seen, Tried.has_restart_of_ne (by omega) (by omega)]
      exact hhas

/-! ## One position -/

/-- The match that starts at a position, found without a memory. -/
def Tree.matchHere? (t : Tree) (text : List Char) (cur : Cursor) : Option Match :=
  (t.matchAt (offsetBound text) (.start (offsetBound text)) cur).1

section Settled

variable (ht : t.Explored text chart) (hcur : cur.In text) (h : Settled text chart start tried)
  (hstart : start ≤ cur.offset)
include ht hcur h hstart

/-- A memory that is settled changes no match. -/
theorem Tree.matchAt_eq_here :
    (t.matchAt (offsetBound text) tried cur).1 = t.matchHere? text cur := by
  obtain ⟨goals, hgoals⟩ := ht.explores
  have halike := (hgoals ⟨cur, []⟩ hcur).blind _ start (h.closed ht.ahead) hstart tried _
    (agree_start tried start (offsetBound text))
  unfold matchHere? matchAt
  generalize t.run (offsetBound text) 0 .found ⟨cur, []⟩ tried = outcome at halike ⊢
  generalize t.run (offsetBound text) 0 .found ⟨cur, []⟩ (.start (offsetBound text)) = fresh
    at halike ⊢
  cases halike with
  | found _ => rfl
  | failed _ => rfl

/-- The memory for the search behind a match is settled. -/
theorem Tree.settled_of_match {m : Match} {tried' : Tried}
    (hm : t.matchAt (offsetBound text) tried cur = (some m, tried')) :
    Settled text chart m.span.stop (tried'.restart m.span.stop) := by
  obtain ⟨goals, hgoals⟩ := ht.explores
  have hexplores := hgoals ⟨cur, []⟩ hcur
  unfold matchAt at hm
  split at hm
  · rename_i result tried'' hrun
    obtain ⟨hresult, rfl⟩ := Prod.mk.inj hm
    obtain rfl := Option.some.inj hresult
    obtain ⟨hle, hsettles⟩ := hexplores.found tried result tried'' trivial hrun
    have hgrows := hexplores.grows.of_found hrun
    have hend : start ≤ result.cursor.offset := hstart.trans hle
    refine Settled.restart (h.extend (hend.trans (Nat.le_succ _)) hgrows hsettles) ?_ ht.ahead
    rw [hgrows.base]
    exact h.base_le.trans hend
  · cases (Prod.mk.inj hm).1

omit hstart in
/-- The memory of a search that fails is settled. -/
theorem Tree.settled_of_noMatch {tried' : Tried}
    (hm : t.matchAt (offsetBound text) tried cur = (none, tried')) :
    Settled text chart start tried' := by
  obtain ⟨goals, hgoals⟩ := ht.explores
  have hexplores := hgoals ⟨cur, []⟩ hcur
  unfold matchAt at hm
  split at hm
  · cases (Prod.mk.inj hm).1
  · rename_i tried'' hrun
    obtain ⟨-, rfl⟩ := Prod.mk.inj hm
    obtain ⟨-, hsettles⟩ := hexplores.failed tried tried'' trivial hrun
    exact h.extend le_rfl (hexplores.grows.of_failed hrun) (hsettles.mono (Nat.zero_le _))

end Settled

/-! ## Windows -/

/-- The match that starts at a position, if that is not behind `last`. -/
def Tree.upTo (t : Tree) (text : List Char) (last : Nat) (cur : Cursor) : List Match :=
  if cur.offset ≤ last then (t.matchHere? text cur).toList else []

theorem Tree.start_of_mem_upTo {last : Nat} {m : Match} (h : m ∈ t.upTo text last cur) :
    m.span.start = cur.offset := by
  unfold upTo at h
  split at h
  · unfold matchHere? matchAt at h
    split at h
    · obtain rfl := List.mem_singleton.mp h
      rfl
    · cases h
  · cases h

/-- Is the memory settled from the window or from the position on? -/
def Ready (text : List Char) (chart : Chart) (first offset : Nat) (tried : Tried) : Prop :=
  ∃ start, (start ≤ first ∨ start ≤ offset) ∧ Settled text chart start tried

theorem Ready.of_le {first offset offset' : Nat} (h : Ready text chart first offset tried)
    (hle : offset ≤ offset') : Ready text chart first offset' tried := by
  obtain ⟨start, hstart, hsettled⟩ := h
  exact ⟨start, hstart.imp id hle.trans', hsettled⟩

section Ready

variable {window : Window} {tried' : Tried} (ht : t.Explored text chart) (hcur : cur.In text)
  (h : Ready text chart window.first cur.offset tried)
include ht hcur h

/-- What is found at a position of the window. -/
theorem Tree.matchFrom_some {m : Match}
    (hm : t.matchFrom (offsetBound text) window tried cur = (some m, tried')) :
    t.upTo text window.last cur = [m] ∧ window.first ≤ m.span.start ∧
      Settled text chart m.span.stop (tried'.restart m.span.stop) := by
  obtain ⟨start, hstart, hsettled⟩ := h
  unfold matchFrom at hm
  split at hm
  · cases (Prod.mk.inj hm).1
  · rename_i hinside
    simp only [Bool.or_eq_true, decide_eq_true_eq, not_or, Nat.not_lt] at hinside
    have hle : start ≤ cur.offset := hstart.elim (·.trans hinside.1) id
    have hupTo : t.upTo text window.last cur = [m] := by
      rw [upTo, if_pos hinside.2, ← matchAt_eq_here ht hcur hsettled hle, hm]
      rfl
    refine ⟨hupTo, ?_, settled_of_match ht hcur hsettled hle hm⟩
    rw [start_of_mem_upTo (hupTo ▸ List.mem_singleton_self m)]
    exact hinside.1

/-- If nothing is found at a position, a match there lies before the window. -/
theorem Tree.matchFrom_none
    (hm : t.matchFrom (offsetBound text) window tried cur = (none, tried')) :
    (∀ m ∈ t.upTo text window.last cur, m.span.start < window.first) ∧
      Ready text chart window.first cur.offset tried' := by
  obtain ⟨start, hstart, hsettled⟩ := h
  unfold matchFrom at hm
  split at hm
  · rename_i houtside
    obtain ⟨-, rfl⟩ := Prod.mk.inj hm
    simp only [Bool.or_eq_true, decide_eq_true_eq] at houtside
    refine ⟨fun m hmem => ?_, start, hstart, hsettled⟩
    have hplace := start_of_mem_upTo hmem
    unfold upTo at hmem
    split at hmem
    · omega
    · cases hmem
  · rename_i hinside
    simp only [Bool.or_eq_true, decide_eq_true_eq, not_or, Nat.not_lt] at hinside
    have hle : start ≤ cur.offset := hstart.elim (·.trans hinside.1) id
    refine ⟨fun m hmem => ?_, start, hstart, settled_of_noMatch ht hcur hsettled hm⟩
    rw [upTo, if_pos hinside.2, ← matchAt_eq_here ht hcur hsettled hle, hm] at hmem
    cases hmem

end Ready

/-! ## Walks -/

/-- The matches that start at positions up to `last`, one search for each of them. -/
def Tree.matchesHere (t : Tree) (text : List Char) (last : Nat) (before : Option Char)
    (offset : Nat) : List Char → List Match
  | [] => t.upTo text last ⟨before, [], offset⟩
  | c :: rest =>
    t.upTo text last ⟨before, c :: rest, offset⟩ ++
      matchesHere t text last (some c) (offset + c.utf8Size) rest

/-- Of matches in order, those that start where the one before them ends or later. -/
def pickFrom (first : Nat) : List Match → List Match
  | [] => []
  | m :: rest =>
    if m.span.start < first then pickFrom first rest else m :: pickFrom m.span.stop rest

/-- The same, but without empty matches where the match before them ends. -/
def pickApart (first : Nat) (last : Option Nat) : List Match → List Match
  | [] => []
  | m :: rest =>
    if m.span.start < first then pickApart first last rest
    else if m.isEmpty && last == some m.span.stop then pickApart first last rest
    else m :: pickApart m.span.stop (some m.span.stop) rest

theorem pickFrom_append {first : Nat} {skipped rest : List Match}
    (h : ∀ m ∈ skipped, m.span.start < first) :
    pickFrom first (skipped ++ rest) = pickFrom first rest := by
  induction skipped with
  | nil => rfl
  | cons m skipped ih =>
    obtain ⟨hm, hskipped⟩ := List.forall_mem_cons.mp h
    rw [List.cons_append, pickFrom, if_pos hm, ih hskipped]

theorem pickApart_append {first : Nat} {last : Option Nat} {skipped rest : List Match}
    (h : ∀ m ∈ skipped, m.span.start < first) :
    pickApart first last (skipped ++ rest) = pickApart first last rest := by
  induction skipped with
  | nil => rfl
  | cons m skipped ih =>
    obtain ⟨hm, hskipped⟩ := List.forall_mem_cons.mp h
    rw [List.cons_append, pickApart, if_pos hm, ih hskipped]

theorem find?_append_of_lt {first : Nat} {skipped rest : List Match}
    (h : ∀ m ∈ skipped, m.span.start < first) :
    (skipped ++ rest).find? (first ≤ ·.span.start) = rest.find? (first ≤ ·.span.start) := by
  have hnone : skipped.find? (first ≤ ·.span.start) = none :=
    List.find?_eq_none.mpr fun m hm => by simpa using h m hm
  rw [List.find?_append, hnone, Option.none_or]

section Walks

variable (ht : t.Explored text chart) (rest : List Char)
include ht

/-- The first match in a window. -/
theorem Tree.findAlong_eq :
    ∀ {window : Window} {tried : Tried} {before : Option Char} {offset : Nat},
      Cursor.In text ⟨before, rest, offset⟩ → Ready text chart window.first offset tried →
        t.findAlong (offsetBound text) window tried before offset rest =
          (t.matchesHere text window.last before offset rest).find?
            (window.first ≤ ·.span.start) := by
  induction rest with
  | nil =>
    intro window tried before offset hin hready
    rw [findAlong, matchesHere]
    rcases hm : t.matchFrom (offsetBound text) window tried ⟨before, [], offset⟩ with
      ⟨_ | m, tried'⟩
    · obtain ⟨hbefore, -⟩ := matchFrom_none ht hin hready hm
      rw [← List.append_nil (t.upTo text window.last _), find?_append_of_lt hbefore]
      rfl
    · obtain ⟨hhere, hfirst, -⟩ := matchFrom_some ht hin hready hm
      rw [hhere, List.find?_cons_of_pos (by simpa using hfirst)]
  | cons c rest ih =>
    intro window tried before offset hin hready
    have hstep : Cursor.Leads ⟨before, c :: rest, offset⟩ ⟨some c, rest, offset + c.utf8Size⟩ :=
      Cursor.leads_past rfl
    rw [findAlong, matchesHere]
    split
    · rename_i m tried' hm
      obtain ⟨hhere, hfirst, -⟩ := matchFrom_some ht hin hready hm
      rw [hhere, List.singleton_append, List.find?_cons_of_pos (by simpa using hfirst)]
    · rename_i tried' hm
      obtain ⟨hbefore, hready'⟩ := matchFrom_none ht hin hready hm
      rw [find?_append_of_lt hbefore]
      exact ih (hin.trans hstep) (hready'.of_le hstep.offset_le)

/-- The matches for variables. -/
theorem Tree.declarationsAlong_eq :
    ∀ {window : Window} {tried : Tried} {before : Option Char} {offset : Nat},
      Cursor.In text ⟨before, rest, offset⟩ → Ready text chart window.first offset tried →
        t.declarationsAlong (offsetBound text) window tried before offset rest =
          pickFrom window.first (t.matchesHere text window.last before offset rest) := by
  induction rest with
  | nil =>
    intro window tried before offset hin hready
    rw [declarationsAlong, matchesHere]
    rcases hm : t.matchFrom (offsetBound text) window tried ⟨before, [], offset⟩ with
      ⟨_ | m, tried'⟩
    · obtain ⟨hbefore, -⟩ := matchFrom_none ht hin hready hm
      rw [← List.append_nil (t.upTo text window.last _), pickFrom_append hbefore]
      rfl
    · obtain ⟨hhere, hfirst, -⟩ := matchFrom_some ht hin hready hm
      rw [hhere, pickFrom, if_neg hfirst.not_gt]
      rfl
  | cons c rest ih =>
    intro window tried before offset hin hready
    have hstep : Cursor.Leads ⟨before, c :: rest, offset⟩ ⟨some c, rest, offset + c.utf8Size⟩ :=
      Cursor.leads_past rfl
    rw [declarationsAlong, matchesHere]
    split
    · rename_i m tried' hm
      obtain ⟨hhere, hfirst, hsettled⟩ := matchFrom_some ht hin hready hm
      rw [hhere, List.singleton_append, pickFrom, if_neg hfirst.not_gt]
      congr 1
      exact ih (hin.trans hstep) ⟨m.span.stop, .inl le_rfl, hsettled⟩
    · rename_i tried' hm
      obtain ⟨hbefore, hready'⟩ := matchFrom_none ht hin hready hm
      rw [pickFrom_append hbefore]
      exact ih (hin.trans hstep) (hready'.of_le hstep.offset_le)

/-- All matches that do not touch. -/
theorem Tree.matchesAlong_eq :
    ∀ {window : Window} {last : Option Nat} {tried : Tried} {before : Option Char} {offset : Nat},
      Cursor.In text ⟨before, rest, offset⟩ → Ready text chart window.first offset tried →
        t.matchesAlong (offsetBound text) window last tried before offset rest =
          pickApart window.first last (t.matchesHere text window.last before offset rest) := by
  induction rest with
  | nil =>
    intro window last tried before offset hin hready
    rw [matchesAlong, matchesHere]
    split
    · rename_i m tried' hm
      obtain ⟨hhere, hfirst, -⟩ := matchFrom_some ht hin hready hm
      rw [hhere, pickApart, if_neg hfirst.not_gt]
      rfl
    · rename_i tried' hm
      obtain ⟨hbefore, -⟩ := matchFrom_none ht hin hready hm
      rw [← List.append_nil (t.upTo text window.last _), pickApart_append hbefore]
      rfl
  | cons c rest ih =>
    intro window last tried before offset hin hready
    have hstep : Cursor.Leads ⟨before, c :: rest, offset⟩ ⟨some c, rest, offset + c.utf8Size⟩ :=
      Cursor.leads_past rfl
    rw [matchesAlong, matchesHere]
    dsimp only
    split
    · rename_i m tried' hm
      obtain ⟨hhere, hfirst, hsettled⟩ := matchFrom_some ht hin hready hm
      rw [hhere, List.singleton_append, pickApart, if_neg hfirst.not_gt]
      split
      · rename_i hempty
        -- the match that is left out ends where it starts
        have hplace : m.span.start = offset :=
          start_of_mem_upTo (hhere ▸ List.mem_singleton_self m)
        have hstop : m.span.start = m.span.stop := by
          simpa [Match.isEmpty] using (Bool.and_eq_true_iff.mp hempty).1
        exact ih (hin.trans hstep) ⟨m.span.stop, .inr (by omega), hsettled⟩
      · congr 1
        exact ih (hin.trans hstep) ⟨m.span.stop, .inl le_rfl, hsettled⟩
    · rename_i tried' hm
      obtain ⟨hbefore, hready'⟩ := matchFrom_none ht hin hready hm
      rw [pickApart_append hbefore]
      exact ih (hin.trans hstep) (hready'.of_le hstep.offset_le)

end Walks

end ProgramOutline.Regex
