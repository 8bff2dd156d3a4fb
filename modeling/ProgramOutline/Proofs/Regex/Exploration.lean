import ProgramOutline.Proofs.Regex.Cursor
import ProgramOutline.Proofs.Regex.Tried
import ProgramOutline.Proofs.Text.Offset
import ProgramOutline.Regex.Search

/-!
# What a search explores

A search goes from one marked choice to the next. Where a choice leads depends on its mark and on
the position, not on the groups passed on the way, so the choices at the positions of a text form a
graph, the chart, and a search walks through it depth first. What has been tried is the set of
nodes that the walk has seen.

Nodes from which no match can be reached are dead. `Explores` says of an action where it can get to
and what it does with its memory: it cannot tell two memories apart that differ in dead nodes only,
and when it fails, or once it has found a match, the nodes behind which nothing is left to do are
dead. Each way of putting actions together keeps this.

Results:
* `Explores.orElse`, `Explores.once`: alternatives and marked choices.
* `Explores.hold`: a choice that is marked when it is left.
-/

namespace ProgramOutline.Regex

/-! ## Positions in a text -/

/-- Is this a position in the text? -/
def Cursor.In (text : List Char) (cur : Cursor) : Prop := (⟨none, text, 0⟩ : Cursor).Leads cur

theorem Cursor.Leads.offset_le {a b : Cursor} (h : a.Leads b) : a.offset ≤ b.offset := by
  obtain ⟨taken, rest, -, rfl⟩ := h
  exact Nat.le_add_right ..

/-- There is one position at each offset. -/
theorem Cursor.In.eq_of_offset {text : List Char} {a b : Cursor} (ha : a.In text) (hb : b.In text)
    (h : a.offset = b.offset) : a = b := by
  obtain ⟨taken, rest, htext, rfl⟩ := ha
  obtain ⟨taken', rest', htext', rfl⟩ := hb
  simp only [Cursor.move_offset, Nat.zero_add] at h
  obtain ⟨rfl, rfl⟩ := Text.cut_at_offset (htext.symm.trans htext') h
  rfl

theorem Cursor.In.offset_lt {text : List Char} {cur : Cursor} (h : cur.In text) :
    cur.offset < offsetBound text := by
  obtain ⟨taken, rest, htext, rfl⟩ := h
  dsimp only at htext
  rw [htext, offsetBound, Text.byteLength_append, Cursor.move_offset]
  dsimp only
  omega

/-! ## Goals -/

/-- Where a search can get to next. -/
inductive Goal where
  /-- A marked choice at an offset. -/
  | choice (mark offset : Nat)
  /-- A match. -/
  | done

/-- Where each marked choice leads from each position. -/
abbrev Chart := Nat → Cursor → Set Goal

/-- The choices that have been tried. -/
def Tried.seen (t : Tried) : Set Goal :=
  {goal | ∃ mark offset, goal = .choice mark offset ∧ t.has mark offset = true}

@[simp]
theorem Tried.choice_mem_seen {t : Tried} {mark offset : Nat} :
    .choice mark offset ∈ t.seen ↔ t.has mark offset = true := by
  constructor
  · rintro ⟨_, _, h, hhas⟩
    cases h
    exact hhas
  · exact fun h => ⟨mark, offset, rfl, h⟩

@[simp]
theorem Tried.done_notMem_seen {t : Tried} : .done ∉ t.seen := by
  rintro ⟨_, _, h, -⟩
  cases h

theorem Tried.seen_add (t : Tried) (mark offset : Nat) :
    (t.add mark offset).seen = insert (.choice mark offset) t.seen := by
  ext goal
  cases goal with
  | done => simp
  | choice mark' offset' =>
    simp only [choice_mem_seen, has_add, Bool.or_eq_true, decide_eq_true_eq, Set.mem_insert_iff,
      Goal.choice.injEq]
    rw [or_comm, eq_comm (a := mark), eq_comm (a := offset)]

/-- More has been tried in the search for the same match. -/
structure Tried.Extends (t t' : Tried) : Prop where
  base : t'.base = t.base
  seen : t.seen ⊆ t'.seen

theorem Tried.Extends.refl (t : Tried) : t.Extends t := ⟨rfl, subset_rfl⟩

theorem Tried.Extends.trans {a b c : Tried} (hab : a.Extends b) (hbc : b.Extends c) : a.Extends c :=
  ⟨hbc.base.trans hab.base, hab.seen.trans hbc.seen⟩

theorem Tried.extends_add (t : Tried) (mark offset : Nat) : t.Extends (t.add mark offset) :=
  ⟨base_add .., by simp [seen_add]⟩

/-- Can a condition on what has been tried only become true? -/
def Rising (ready : Tried → Prop) : Prop := ∀ t t' : Tried, t.Extends t' → ready t → ready t'

/-! ## Dead choices -/

section Chart

variable (text : List Char) (chart : Chart)

/-- Do these choices lead to nothing but one another? -/
structure Closed (dead : Set Goal) : Prop where
  noMatch : .done ∉ dead
  leads : ∀ mark cur, cur.In text → .choice mark cur.offset ∈ dead → chart mark cur ⊆ dead

/-- Do the choices at `start` or later that have been tried since lead to nothing but what has been
    tried? -/
def Settles (start : Nat) (t t' : Tried) : Prop :=
  ∀ mark cur, cur.In text → start ≤ cur.offset → .choice mark cur.offset ∈ t'.seen →
    .choice mark cur.offset ∉ t.seen → chart mark cur ⊆ t'.seen

end Chart

/-- Has the same been tried from `start` on, dead choices apart? -/
def Agree (dead : Set Goal) (start : Nat) (t u : Tried) : Prop :=
  ∀ mark offset, start ≤ offset → .choice mark offset ∉ dead →
    t.has mark offset = u.has mark offset

/-- What has been tried at the end. -/
def Outcome.tried : Outcome → Tried
  | found _ tried => tried
  | failed tried => tried

/-- Are both a failure or both the same match, with the same tried but for dead choices? -/
inductive Outcome.Alike (dead : Set Goal) (start : Nat) : Outcome → Outcome → Prop
  | found {result : Progress} {t u : Tried} (h : Agree dead start t u) :
    Alike dead start (found result t) (found result u)
  | failed {t u : Tried} (h : Agree dead start t u) : Alike dead start (failed t) (failed u)

variable {text : List Char} {chart : Chart}

theorem Settles.mono {start start' : Nat} {t t' : Tried} (h : Settles text chart start t t')
    (hle : start ≤ start') : Settles text chart start' t t' :=
  fun mark cur hcur hstart => h mark cur hcur (hle.trans hstart)

/-- What is settled in two steps is settled in one. -/
theorem Settles.trans {start : Nat} {a b c : Tried} (hab : Settles text chart start a b)
    (hbc : Settles text chart start b c) (hextends : b.Extends c) :
    Settles text chart start a c := by
  intro mark cur hcur hstart hmem hnot
  by_cases hb : .choice mark cur.offset ∈ b.seen
  · exact (hab mark cur hcur hstart hb hnot).trans hextends.seen
  · exact hbc mark cur hcur hstart hmem hb

theorem Settles.refl (start : Nat) (t : Tried) : Settles text chart start t t :=
  fun _ _ _ _ hmem hnot => absurd hmem hnot

/-- A choice is settled once all that it leads to has been tried. -/
theorem settles_add {start mark : Nat} {cur : Cursor} (hcur : cur.In text) {t t' : Tried}
    (h : Settles text chart start (t.add mark cur.offset) t')
    (hleads : start ≤ cur.offset → chart mark cur ⊆ t'.seen) : Settles text chart start t t' := by
  intro mark' cur' hcur' hstart hmem hnot
  by_cases hsame : mark' = mark ∧ cur'.offset = cur.offset
  · obtain ⟨rfl, hoffset⟩ := hsame
    obtain rfl := hcur'.eq_of_offset hcur hoffset
    exact hleads hstart
  · refine h mark' cur' hcur' hstart hmem ?_
    rw [Tried.seen_add, Set.mem_insert_iff, not_or, Goal.choice.injEq]
    exact ⟨hsame, hnot⟩

variable {dead : Set Goal} {start : Nat}

theorem Agree.refl (t : Tried) : Agree dead start t t := fun _ _ _ _ => rfl

theorem Agree.add {t u : Tried} (h : Agree dead start t u) (mark offset : Nat) :
    Agree dead start (t.add mark offset) (u.add mark offset) := by
  intro mark' offset' hstart hdead
  rw [Tried.has_add, Tried.has_add, h mark' offset' hstart hdead]

/-- Only dead choices have been tried since. -/
theorem Agree.of_dead {t t' : Tried} (h : Tried.Extends t t') (hdead : t'.seen ⊆ t.seen ∪ dead) :
    Agree dead start t t' := by
  intro mark offset _ hnot
  rw [Bool.eq_iff_iff, ← Tried.choice_mem_seen, ← Tried.choice_mem_seen]
  exact ⟨fun hmem => h.seen hmem, fun hmem => (hdead hmem).resolve_right hnot⟩

theorem Agree.symm {t u : Tried} (h : Agree dead start t u) : Agree dead start u t :=
  fun mark offset hstart hdead => (h mark offset hstart hdead).symm

theorem Agree.trans {t u v : Tried} (h : Agree dead start t u) (h' : Agree dead start u v) :
    Agree dead start t v :=
  fun mark offset hstart hdead => (h mark offset hstart hdead).trans (h' mark offset hstart hdead)

/-! ## Memory -/

/-- Does an action only add to its memory? -/
def Grows (action : Tried → Outcome) : Prop := ∀ t : Tried, t.Extends (action t).tried

/-- Does an action fail whatever has been tried, and try dead choices only? -/
def Silent (dead : Set Goal) (action : Tried → Outcome) : Prop :=
  ∀ t, ∃ t', action t = .failed t' ∧ t'.seen ⊆ t.seen ∪ dead

/-- Do dead choices not matter to an action? -/
def Blind (dead : Set Goal) (start : Nat) (action : Tried → Outcome) : Prop :=
  ∀ t u, Agree dead start t u → (action t).Alike dead start (action u)

variable {action other : Tried → Outcome} {mark offset : Nat}

theorem Grows.of_failed {t t' : Tried} (h : Grows action) (hfailed : action t = .failed t') :
    t.Extends t' := by
  have hgrows := h t
  rwa [hfailed] at hgrows

theorem Grows.of_found {t t' : Tried} {result : Progress} (h : Grows action)
    (hfound : action t = .found result t') : t.Extends t' := by
  have hgrows := h t
  rwa [hfound] at hgrows

theorem Grows.orElse (h : Grows action) (h' : Grows other) :
    Grows (fun t => (action t).orElse other) := by
  intro t
  have hgrows := h t
  dsimp only
  generalize action t = first at hgrows ⊢
  cases first with
  | found result t₁ => exact hgrows
  | failed t₁ => exact hgrows.trans (h' t₁)

theorem Grows.choose (h : Grows action) (h' : Grows other) (greedy : Bool) :
    Grows (choose greedy action other) := by
  cases greedy with
  | true => exact h.orElse h'
  | false => exact h'.orElse h

theorem Grows.once (h : Grows action) (mark offset : Nat) : Grows (once mark offset action) := by
  intro t
  unfold Regex.once
  split
  · exact .refl t
  · exact (t.extends_add mark offset).trans (h _)

theorem Silent.orElse (h : Silent dead action) (h' : Silent dead other) :
    Silent dead (fun t => (action t).orElse other) := by
  intro t
  obtain ⟨t₁, ht, hseen⟩ := h t
  obtain ⟨t', ht', hseen'⟩ := h' t₁
  refine ⟨t', ?_, hseen'.trans (Set.union_subset hseen Set.subset_union_right)⟩
  dsimp only
  rw [ht]
  exact ht'

theorem Silent.choose (h : Silent dead action) (h' : Silent dead other) (greedy : Bool) :
    Silent dead (choose greedy action other) := by
  cases greedy with
  | true => exact h.orElse h'
  | false => exact h'.orElse h

theorem Silent.once (h : Silent dead action) (hdead : .choice mark offset ∈ dead) :
    Silent dead (once mark offset action) := by
  intro t
  unfold Regex.once
  split
  · exact ⟨t, rfl, Set.subset_union_left⟩
  · obtain ⟨t', ht, hseen⟩ := h (t.add mark offset)
    refine ⟨t', ht, hseen.trans (Set.union_subset ?_ Set.subset_union_right)⟩
    rw [Tried.seen_add]
    exact Set.insert_subset (.inr hdead) Set.subset_union_left

/-- Two runs that try dead choices only are alike. -/
theorem Silent.blind (h : Silent dead action) (hgrows : Grows action) (start : Nat) :
    Blind dead start action := by
  intro t u hagree
  obtain ⟨t', ht, hseen⟩ := h t
  obtain ⟨u', hu, hseen'⟩ := h u
  have hbefore : Agree dead start t t' := .of_dead (hgrows.of_failed ht) hseen
  have hafter : Agree dead start u u' := .of_dead (hgrows.of_failed hu) hseen'
  rw [ht, hu]
  exact .failed ((hbefore.symm.trans hagree).trans hafter)

theorem Blind.orElse (h : Blind dead start action) (h' : Blind dead start other) :
    Blind dead start (fun t => (action t).orElse other) := by
  intro t u hagree
  have halike := h t u hagree
  dsimp only
  generalize action t = first at halike ⊢
  generalize action u = second at halike ⊢
  cases halike with
  | found hagree' => exact .found hagree'
  | failed hagree' => exact h' _ _ hagree'

theorem Blind.choose (h : Blind dead start action) (h' : Blind dead start other) (greedy : Bool) :
    Blind dead start (choose greedy action other) := by
  cases greedy with
  | true => exact h.orElse h'
  | false => exact h'.orElse h

/-- Whether a choice that is not dead has been tried is the same in both runs. -/
theorem Blind.once (h : Blind dead start action) (hdead : .choice mark offset ∉ dead)
    (hstart : start ≤ offset) : Blind dead start (once mark offset action) := by
  intro t u hagree
  unfold Regex.once
  rw [hagree mark offset hstart hdead]
  split
  · exact .failed hagree
  · exact h _ _ (hagree.add mark offset)

/-! ## Exploring -/

/-- What an action at an offset does with its memory, if its next goals are these. The condition
    `ready` is one under which no bound on its turns is met. -/
structure Explores (text : List Char) (chart : Chart) (ready : Tried → Prop) (offset : Nat)
    (action : Tried → Outcome) (goals : Set Goal) : Prop where
  grows : Grows action
  silent : ∀ dead, Closed text chart dead → goals ⊆ dead → Silent dead action
  blind : ∀ dead start, Closed text chart dead → start ≤ offset → Blind dead start action
  /-- It fails only when everything in reach has been tried. -/
  failed : ∀ t t', ready t → action t = .failed t' →
    goals ⊆ t'.seen ∧ Settles text chart 0 t t'
  /-- When it finds a match, everything in reach behind the end of that has been tried. -/
  found : ∀ t result t', ready t → action t = .found result t' →
    offset ≤ result.cursor.offset ∧ Settles text chart (result.cursor.offset + 1) t t'

variable {ready : Tried → Prop} {goals goals' : Set Goal}

theorem Explores.of_le {offset' : Nat} (h : Explores text chart ready offset action goals)
    (hle : offset' ≤ offset) : Explores text chart ready offset' action goals where
  grows := h.grows
  silent := h.silent
  blind dead start hclosed hstart := h.blind dead start hclosed (hstart.trans hle)
  failed := h.failed
  found t result t' hready hfound := (h.found t result t' hready hfound).imp hle.trans id

theorem Explores.of_ready {ready' : Tried → Prop}
    (h : Explores text chart ready offset action goals) (hready : ∀ t, ready' t → ready t) :
    Explores text chart ready' offset action goals where
  grows := h.grows
  silent := h.silent
  blind := h.blind
  failed t t' ht := h.failed t t' (hready t ht)
  found t result t' ht := h.found t result t' (hready t ht)

/-- Nothing is left to do. -/
theorem explores_fail : Explores text chart ready offset .failed ∅ where
  grows t := .refl t
  silent _ _ _ t := ⟨t, rfl, Set.subset_union_left⟩
  blind _ _ _ _ _ _ h := .failed h
  failed t t' _ h := by
    cases h
    exact ⟨Set.empty_subset _, .refl 0 t⟩
  found _ _ _ _ h := by cases h

/-- A match has been found. -/
theorem explores_found {p : Progress} (h : offset ≤ p.cursor.offset) :
    Explores text chart ready offset (.found p) {.done} where
  grows t := .refl t
  silent dead hclosed hgoals := absurd (hgoals rfl) hclosed.noMatch
  blind _ _ _ _ _ _ h := .found h
  failed _ _ _ h := by cases h
  found t result t' _ hfound := by
    cases hfound
    exact ⟨h, .refl _ t⟩

/-! ## Alternatives -/

theorem Outcome.orElse_eq_failed {first : Outcome} {second : Tried → Outcome} {t' : Tried}
    (h : first.orElse second = failed t') : ∃ t, first = failed t ∧ second t = failed t' := by
  cases first with
  | found result t => cases h
  | failed t => exact ⟨t, rfl, h⟩

theorem Outcome.orElse_eq_found {first : Outcome} {second : Tried → Outcome} {result : Progress}
    {t' : Tried} (h : first.orElse second = found result t') :
    first = found result t' ∨ ∃ t, first = failed t ∧ second t = found result t' := by
  cases first with
  | found result t => exact .inl h
  | failed t => exact .inr ⟨t, rfl, h⟩

theorem Explores.orElse (hrising : Rising ready)
    (h : Explores text chart ready offset action goals)
    (h' : Explores text chart ready offset other goals') :
    Explores text chart ready offset (fun t => (action t).orElse other) (goals ∪ goals') where
  grows := h.grows.orElse h'.grows
  silent dead hclosed hgoals :=
    (h.silent dead hclosed (Set.subset_union_left.trans hgoals)).orElse
      (h'.silent dead hclosed (Set.subset_union_right.trans hgoals))
  blind dead start hclosed hstart :=
    (h.blind dead start hclosed hstart).orElse (h'.blind dead start hclosed hstart)
  failed t t' hready hfailed := by
    obtain ⟨t₁, ht, ht'⟩ := Outcome.orElse_eq_failed hfailed
    have hready₁ := hrising t t₁ (h.grows.of_failed ht) hready
    have hextends := h'.grows.of_failed ht'
    obtain ⟨hgoals, hsettles⟩ := h.failed t t₁ hready ht
    obtain ⟨hgoals', hsettles'⟩ := h'.failed t₁ t' hready₁ ht'
    exact ⟨Set.union_subset (hgoals.trans hextends.seen) hgoals', hsettles.trans hsettles' hextends⟩
  found t result t' hready hfound := by
    rcases Outcome.orElse_eq_found hfound with ht | ⟨t₁, ht, ht'⟩
    · exact h.found t result t' hready ht
    · have hready₁ := hrising t t₁ (h.grows.of_failed ht) hready
      obtain ⟨-, hsettles⟩ := h.failed t t₁ hready ht
      obtain ⟨hle, hsettles'⟩ := h'.found t₁ result t' hready₁ ht'
      exact ⟨hle, (hsettles.mono (Nat.zero_le _)).trans hsettles' (h'.grows.of_found ht')⟩

theorem Explores.choose (hrising : Rising ready)
    (h : Explores text chart ready offset action goals)
    (h' : Explores text chart ready offset other goals') (greedy : Bool) :
    Explores text chart ready offset (choose greedy action other) (goals ∪ goals') := by
  cases greedy with
  | true => exact h.orElse hrising h'
  | false =>
    rw [Set.union_comm]
    exact h'.orElse hrising h

/-! ## Marked choices -/

theorem once_eq_failed {t t' : Tried} (h : once mark offset action t = .failed t') :
    t' = t ∧ t.has mark offset = true ∨
      t.has mark offset = false ∧ action (t.add mark offset) = .failed t' := by
  unfold once at h
  split at h
  · rename_i hhas
    cases h
    exact .inl ⟨rfl, hhas⟩
  · rename_i hhas
    exact .inr ⟨Bool.eq_false_iff.mpr hhas, h⟩

theorem once_eq_found {result : Progress} {t t' : Tried}
    (h : once mark offset action t = .found result t') :
    t.has mark offset = false ∧ action (t.add mark offset) = .found result t' := by
  unfold once at h
  split at h
  · cases h
  · rename_i hhas
    exact ⟨Bool.eq_false_iff.mpr hhas, h⟩

variable {cur : Cursor}

/-- A marked choice, whose action has the goals that the chart gives it. -/
theorem Explores.once {ready' : Tried → Prop} (hcur : cur.In text)
    (h : Explores text chart ready' cur.offset action (chart mark cur))
    (hready : ∀ t, ready t → t.has mark cur.offset = false → ready' (t.add mark cur.offset)) :
    Explores text chart ready cur.offset (once mark cur.offset action)
      {.choice mark cur.offset} := by
  have hsilent : ∀ dead, Closed text chart dead → .choice mark cur.offset ∈ dead →
      Silent dead (Regex.once mark cur.offset action) := fun dead hclosed hdead =>
    (h.silent dead hclosed (hclosed.leads mark cur hcur hdead)).once hdead
  refine ⟨h.grows.once mark cur.offset,
    fun dead hclosed hgoals => hsilent dead hclosed (hgoals rfl),
    fun dead start hclosed hstart => ?_, fun t t' ht hfailed => ?_,
    fun t result t' ht hfound => ?_⟩
  · by_cases hdead : .choice mark cur.offset ∈ dead
    · exact (hsilent dead hclosed hdead).blind (h.grows.once mark cur.offset) start
    · exact (h.blind dead start hclosed hstart).once hdead hstart
  · rcases once_eq_failed hfailed with ⟨rfl, hhas⟩ | ⟨hhas, hfailed⟩
    · exact ⟨by simpa using hhas, .refl 0 t'⟩
    · obtain ⟨hleads, hsettles⟩ := h.failed _ t' (hready t ht hhas) hfailed
      refine ⟨?_, settles_add hcur hsettles fun _ => hleads⟩
      rw [Set.singleton_subset_iff]
      exact (h.grows.of_failed hfailed).seen (by simp [Tried.seen_add])
  · obtain ⟨hhas, hfound⟩ := once_eq_found hfound
    obtain ⟨hle, hsettles⟩ := h.found _ result t' (hready t ht hhas) hfound
    exact ⟨hle, settles_add hcur hsettles fun hlater => absurd hle (by omega)⟩

/-! ## Choices that are marked when they are left -/

/-- A choice between going on and leaving that is marked only when it is left. -/
def hold (mark offset : Nat) (greedy : Bool) (more leave : Tried → Outcome) (tried : Tried) :
    Outcome :=
  if tried.has mark offset then .failed tried
  else choose greedy more (once mark offset leave) tried

section Hold

variable {more leave : Tried → Outcome}

theorem Grows.hold (h : Grows more) (h' : Grows leave) (mark offset : Nat) (greedy : Bool) :
    Grows (hold mark offset greedy more leave) := by
  intro t
  unfold Regex.hold
  split
  · exact .refl t
  · exact h.choose (h'.once mark offset) greedy t

theorem Silent.hold (h : Silent dead more) (h' : Silent dead leave)
    (hdead : .choice mark offset ∈ dead) (greedy : Bool) :
    Silent dead (hold mark offset greedy more leave) := by
  intro t
  unfold Regex.hold
  split
  · exact ⟨t, rfl, Set.subset_union_left⟩
  · exact h.choose (h'.once hdead) greedy t

theorem Blind.hold (h : Blind dead start more) (h' : Blind dead start leave)
    (hdead : .choice mark offset ∉ dead) (hstart : start ≤ offset) (greedy : Bool) :
    Blind dead start (hold mark offset greedy more leave) := by
  intro t u hagree
  unfold Regex.hold
  rw [hagree mark offset hstart hdead]
  split
  · exact .failed hagree
  · exact h.choose (h'.once hdead hstart) greedy t u hagree

theorem hold_failed (hcur : cur.In text) (hrising : Rising ready)
    (h : Explores text chart ready cur.offset more goals)
    (h' : Explores text chart ready cur.offset leave goals')
    (hchart : chart mark cur = goals ∪ goals') {greedy : Bool} {t t' : Tried} (ht : ready t)
    (hfailed : hold mark cur.offset greedy more leave t = .failed t') :
    .choice mark cur.offset ∈ t'.seen ∧ Settles text chart 0 t t' := by
  unfold hold at hfailed
  split at hfailed
  · rename_i hhas
    cases hfailed
    exact ⟨by simpa using hhas, .refl 0 t⟩
  · rename_i hhas
    cases greedy with
    | true =>
      obtain ⟨t₁, hmore, hleave⟩ := Outcome.orElse_eq_failed hfailed
      obtain ⟨hgoals, hsettles⟩ := h.failed t t₁ ht hmore
      rcases once_eq_failed hleave with ⟨rfl, hhas⟩ | ⟨-, hleave⟩
      · exact ⟨by simpa using hhas, hsettles⟩
      · have hextends := h'.grows.of_failed hleave
        have hready := hrising _ _ (h.grows.of_failed hmore) ht
        obtain ⟨hgoals', hsettles'⟩ :=
          h'.failed _ t' (hrising _ _ (t₁.extends_add mark cur.offset) hready) hleave
        have hall := (t₁.extends_add mark cur.offset).trans hextends
        refine ⟨hextends.seen (by simp [Tried.seen_add]),
          hsettles.trans (settles_add hcur hsettles' fun _ => ?_) hall⟩
        rw [hchart]
        exact Set.union_subset (hgoals.trans hall.seen) hgoals'
    | false =>
      obtain ⟨t₁, hleave, hmore⟩ := Outcome.orElse_eq_failed hfailed
      rcases once_eq_failed hleave with ⟨-, htried⟩ | ⟨-, hleave⟩
      · exact absurd htried hhas
      · have hready := hrising _ _ (t.extends_add mark cur.offset) ht
        have hextends := h.grows.of_failed hmore
        obtain ⟨hgoals', hsettles'⟩ := h'.failed _ t₁ hready hleave
        obtain ⟨hgoals, hsettles⟩ :=
          h.failed t₁ t' (hrising _ _ (h'.grows.of_failed hleave) hready) hmore
        have hall := (h'.grows.of_failed hleave).trans hextends
        refine ⟨hall.seen (by simp [Tried.seen_add]),
          settles_add hcur (hsettles'.trans hsettles hextends) fun _ => ?_⟩
        rw [hchart]
        exact Set.union_subset hgoals (hgoals'.trans hextends.seen)

theorem hold_found (hcur : cur.In text) (hrising : Rising ready)
    (h : Explores text chart ready cur.offset more goals)
    (h' : Explores text chart ready cur.offset leave goals') {greedy : Bool} {t t' : Tried}
    {result : Progress} (ht : ready t)
    (hfound : hold mark cur.offset greedy more leave t = .found result t') :
    cur.offset ≤ result.cursor.offset ∧
      Settles text chart (result.cursor.offset + 1) t t' := by
  have hadd : ready (t.add mark cur.offset) := hrising _ _ (t.extends_add mark cur.offset) ht
  unfold hold at hfound
  split at hfound
  · cases hfound
  · cases greedy with
    | true =>
      rcases Outcome.orElse_eq_found hfound with hmore | ⟨t₁, hmore, hleave⟩
      · exact h.found t result t' ht hmore
      · obtain ⟨-, hleave⟩ := once_eq_found hleave
        have hready := hrising _ _ (h.grows.of_failed hmore) ht
        have hadd := hrising _ _ (t₁.extends_add mark cur.offset) hready
        have hextends := (t₁.extends_add mark cur.offset).trans (h'.grows.of_found hleave)
        obtain ⟨-, hsettles⟩ := h.failed t t₁ ht hmore
        obtain ⟨hle, hsettles'⟩ := h'.found _ result t' hadd hleave
        exact ⟨hle, (hsettles.mono (Nat.zero_le _)).trans
          (settles_add hcur hsettles' fun hlater => absurd hle (by omega)) hextends⟩
    | false =>
      rcases Outcome.orElse_eq_found hfound with hleave | ⟨t₁, hleave, hmore⟩
      · obtain ⟨-, hleave⟩ := once_eq_found hleave
        obtain ⟨hle, hsettles⟩ := h'.found _ result t' hadd hleave
        exact ⟨hle, settles_add hcur hsettles fun hlater => absurd hle (by omega)⟩
      · rcases once_eq_failed hleave with ⟨rfl, -⟩ | ⟨-, hleave⟩
        · exact h.found t₁ result t' ht hmore
        · have hready := hrising _ _ (h'.grows.of_failed hleave) hadd
          obtain ⟨-, hsettles⟩ := h'.failed _ t₁ hadd hleave
          obtain ⟨hle, hsettles'⟩ := h.found t₁ result t' hready hmore
          have hboth := (hsettles.mono (Nat.zero_le _)).trans hsettles' (h.grows.of_found hmore)
          exact ⟨hle, settles_add hcur hboth fun hlater => absurd hle (by omega)⟩

theorem Explores.hold (hcur : cur.In text) (hrising : Rising ready)
    (h : Explores text chart ready cur.offset more goals)
    (h' : Explores text chart ready cur.offset leave goals')
    (hchart : chart mark cur = goals ∪ goals') (greedy : Bool) :
    Explores text chart ready cur.offset (hold mark cur.offset greedy more leave)
      {.choice mark cur.offset} := by
  have hgrows := h.grows.hold h'.grows mark cur.offset greedy
  have hsilent : ∀ dead, Closed text chart dead → .choice mark cur.offset ∈ dead →
      Silent dead (Regex.hold mark cur.offset greedy more leave) := by
    intro dead hclosed hdead
    have hleads := hclosed.leads mark cur hcur hdead
    rw [hchart, Set.union_subset_iff] at hleads
    exact (h.silent dead hclosed hleads.1).hold (h'.silent dead hclosed hleads.2) hdead greedy
  refine ⟨hgrows, fun dead hclosed hgoals => hsilent dead hclosed (hgoals rfl),
    fun dead start hclosed hstart => ?_, fun t t' ht hfailed => ?_,
    fun t result t' ht hfound => hold_found hcur hrising h h' ht hfound⟩
  · by_cases hdead : .choice mark cur.offset ∈ dead
    · exact (hsilent dead hclosed hdead).blind hgrows start
    · exact (h.blind dead start hclosed hstart).hold (h'.blind dead start hclosed hstart) hdead
        hstart greedy
  · obtain ⟨hmem, hsettles⟩ := hold_failed hcur hrising h h' hchart ht hfailed
    exact ⟨Set.singleton_subset_iff.mpr hmem, hsettles⟩

end Hold

end ProgramOutline.Regex
