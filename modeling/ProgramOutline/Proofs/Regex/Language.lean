import ProgramOutline.Proofs.Regex.Stretch
import ProgramOutline.Proofs.Unicode.CharSets

/-!
# What an expression matches

`Expr.Matches` says which stretches of a text an expression can match, whatever it prefers. A plain
tree takes characters all at once where what follows cannot go on with one of them, so it does not
try all of these stretches; but it misses none after which the search could go on
(`exists_way`).

Results:
* `matches_rep_chars`, `matches_concat`, `matches_ofSet`: what repeated characters match, and that
  the constructors of expressions keep the meaning of their parts.
* `heralds_starts`: what is known of the text that is to follow is true of it.
* `matches_of_way`, `exists_way`: the ways of the plain tree of a simple expression are matches, and
  there is one wherever there is a match.
* `findFrom_plain`: the search finds the leftmost position at which there is a match.
-/

namespace ProgramOutline.Regex

namespace Expr

/-- A number of turns of a step from one position to another. -/
def Turns (step : Cursor → Cursor → Prop) : Nat → Cursor → Cursor → Prop
  | 0, a, b => b = a
  | count + 1, a, b => ∃ mid, step a mid ∧ Turns step count mid b

/-- The expression can match the text between two positions. -/
def Matches : Expr → Cursor → Cursor → Prop
  | empty, a, b => b = a
  | literal text, a, b => a.follow? text = some b
  | set _ chars, a, b => a.step? chars = some b
  | look condition, a, b => condition.holds a.before a.after = true ∧ b = a
  | group _ body, a, b => body.Matches a b
  | rep least most _ body, a, b =>
    ∃ count, least ≤ count ∧ (∀ limit ∈ most, count ≤ limit) ∧ Turns body.Matches count a b
  | cat first second, a, b => ∃ mid, first.Matches a mid ∧ second.Matches mid b
  | alt first second, a, b => first.Matches a b ∨ second.Matches a b

variable {e : Expr} {a b : Cursor} {chars : CharSet}

theorem turns_succ {step : Cursor → Cursor → Prop} {count : Nat} :
    Turns step (count + 1) a b ↔ ∃ mid, step a mid ∧ Turns step count mid b := Iff.rfl

theorem matches_empty : empty.Matches a b ↔ b = a := Iff.rfl

theorem matches_literal {text : List Char} :
    (literal text).Matches a b ↔ a.follow? text = some b := Iff.rfl

theorem matches_rep {least : Nat} {most : Option Nat} {greedy : Bool} :
    (rep least most greedy e).Matches a b ↔
      ∃ count, least ≤ count ∧ (∀ limit ∈ most, count ≤ limit) ∧ Turns e.Matches count a b :=
  Iff.rfl

theorem matches_cat {first second : Expr} :
    (cat first second).Matches a b ↔ ∃ mid, first.Matches a mid ∧ second.Matches mid b := Iff.rfl

theorem matches_alt {first second : Expr} :
    (alt first second).Matches a b ↔ first.Matches a b ∨ second.Matches a b := Iff.rfl

/-! ## Characters -/

theorem matches_of_charSet? (h : e.charSet? = some chars) :
    e.Matches a b ↔ a.step? chars = some b := by
  unfold charSet? at h
  split at h
  · cases h
    simp [matches_literal, Cursor.follow?_eq_some_iff, Cursor.step?_eq_some_iff,
      CharSet.contains_single]
  · cases h
    rfl
  · cases h

theorem turns_chars (h : e.charSet? = some chars) {count : Nat} :
    Turns e.Matches count a b ↔ a.Spans chars count b := by
  induction count generalizing a with
  | zero => exact Cursor.spans_zero.symm
  | succ count ih => simp only [turns_succ, Cursor.spans_succ, matches_of_charSet? h, ih]

theorem matches_rep_chars (h : e.charSet? = some chars) {least : Nat} {most : Option Nat}
    {greedy : Bool} :
    (rep least most greedy e).Matches a b ↔
      ∃ count, least ≤ count ∧ (∀ limit ∈ most, count ≤ limit) ∧ a.Spans chars count b := by
  simp only [matches_rep, turns_chars h]

theorem matches_option {greedy : Bool} :
    (rep 0 (some 1) greedy e).Matches a b ↔ b = a ∨ e.Matches a b := by
  simp only [matches_rep, Option.mem_def, Option.some_inj, forall_eq']
  constructor
  · rintro ⟨count, -, hle, hturns⟩
    match count with
    | 0 => exact Or.inl hturns
    | 1 =>
      obtain ⟨mid, hmid, rfl⟩ := hturns
      exact Or.inr hmid
  · rintro (rfl | h)
    · exact ⟨0, le_rfl, by omega, rfl⟩
    · exact ⟨1, by omega, le_rfl, b, h, rfl⟩

/-- A set that is written as a literal still matches its characters. -/
theorem matches_ofSet {k : Char} (hk : chars.contains k = true) {narrow : Bool} :
    (ofSet narrow chars).Matches a b ↔ a.step? chars = some b := by
  obtain ⟨ranges⟩ := chars
  unfold ofSet
  split
  · rename_i hranges
    cases hranges
    rfl
  · rename_i lo hi hranges
    cases hranges
    split_ifs with hsame
    · subst hsame
      have hcode : k.toNat = lo := by
        simp only [CharSet.contains, CharSet.inRanges] at hk
        split_ifs at hk
        omega
      have hsingle : CharSet.single (Char.ofNat lo) = ⟨[(lo, lo)]⟩ := by
        rw [← hcode, Char.ofNat_toNat]
        rfl
      rw [← hsingle]
      exact matches_of_charSet? rfl
    · rfl
  · rfl

/-! ## Sequences -/

/-- The expressions match one after another. -/
def InTurn : List Expr → Cursor → Cursor → Prop
  | [], a, b => b = a
  | e :: rest, a, b => ∃ mid, e.Matches a mid ∧ InTurn rest mid b

theorem inTurn_nil : InTurn [] a b ↔ b = a := Iff.rfl

theorem inTurn_cons {rest : List Expr} :
    InTurn (e :: rest) a b ↔ ∃ mid, e.Matches a mid ∧ InTurn rest mid b := Iff.rfl

theorem inTurn_singleton : InTurn [e] a b ↔ e.Matches a b := by
  simp [inTurn_cons, inTurn_nil]

theorem inTurn_append {first second : List Expr} :
    InTurn (first ++ second) a b ↔ ∃ mid, InTurn first a mid ∧ InTurn second mid b := by
  induction first generalizing a with
  | nil => simp [inTurn_nil]
  | cons e first ih =>
    simp only [List.cons_append, inTurn_cons, ih]
    constructor
    · rintro ⟨next, he, mid, hfirst, hsecond⟩
      exact ⟨mid, ⟨next, he, hfirst⟩, hsecond⟩
    · rintro ⟨mid, ⟨next, he, hfirst⟩, hsecond⟩
      exact ⟨next, he, mid, hfirst, hsecond⟩

theorem inTurn_items : InTurn e.items a b ↔ e.Matches a b := by
  induction e generalizing a b with
  | cat first second ihf ihs => simp only [items, inTurn_append, ihf, ihs, matches_cat]
  | empty => rfl
  | _ => exact inTurn_singleton

theorem matches_ofItems {parts : List Expr} : (ofItems parts).Matches a b ↔ InTurn parts a b := by
  induction parts generalizing a with
  | nil => rfl
  | cons e parts ih =>
    cases parts with
    | nil => exact inTurn_singleton.symm
    | cons e' parts => simp only [ofItems, matches_cat, ih, inTurn_cons]

theorem inTurn_joinLiteral {rest : List Expr} :
    InTurn (joinLiteral e rest) a b ↔ InTurn (e :: rest) a b := by
  unfold joinLiteral
  split
  · simp only [inTurn_cons, matches_literal, Cursor.follow?_eq_some_iff, Cursor.crosses_append]
    constructor
    · rintro ⟨mid, ⟨between, hfirst, hsecond⟩, hrest⟩
      exact ⟨between, hfirst, mid, hsecond, hrest⟩
    · rintro ⟨between, hfirst, mid, hsecond, hrest⟩
      exact ⟨mid, ⟨between, hfirst, hsecond⟩, hrest⟩
  · rfl

/-- A sequence matches its parts one after another. -/
theorem matches_concat {parts : List Expr} : (concat parts).Matches a b ↔ InTurn parts a b := by
  have hjoined : ∀ {items : List Expr} {a b : Cursor},
      InTurn (items.foldr joinLiteral []) a b ↔ InTurn items a b := by
    intro items
    induction items with
    | nil => exact Iff.rfl
    | cons e items ih =>
      simp only [List.foldr_cons, inTurn_joinLiteral, inTurn_cons, ih, implies_true]
  rw [concat, matches_ofItems, hjoined]
  induction parts generalizing a with
  | nil => rfl
  | cons e parts ih => simp only [List.flatMap_cons, inTurn_append, inTurn_items, ih, inTurn_cons]

/-! ## Simple expressions -/

/-- Only single characters are repeated, apart from options, and no literal is empty. -/
def Simple : Expr → Prop
  | empty | look _ => True
  | literal text => text ≠ []
  | set _ chars => chars.Ascending
  | group _ body => body.Simple
  | cat first second | alt first second => first.Simple ∧ second.Simple
  | rep least most _ body => body.Simple ∧
    ((body.charSet?.isSome ∧ ∀ limit ∈ most, least ≤ limit) ∨ (least = 0 ∧ most = some 1))

theorem simple_bounds {least : Nat} {most : Option Nat} {greedy : Bool}
    (h : (rep least most greedy e).Simple) : ∀ limit ∈ most, least ≤ limit := by
  rcases h.2 with ⟨-, hbounds⟩ | ⟨rfl, -⟩
  · exact hbounds
  · exact fun _ _ => Nat.zero_le _

theorem simple_items (h : e.Simple) : ∀ part ∈ e.items, part.Simple := by
  induction e with
  | cat first second ihf ihs =>
    intro part hpart
    rcases List.mem_append.mp hpart with hpart | hpart
    · exact ihf h.1 part hpart
    · exact ihs h.2 part hpart
  | empty => simp [items]
  | _ => simpa [items] using h

theorem simple_ofItems {parts : List Expr} (h : ∀ part ∈ parts, part.Simple) :
    (ofItems parts).Simple := by
  induction parts with
  | nil => trivial
  | cons e parts ih =>
    obtain ⟨he, hparts⟩ := List.forall_mem_cons.mp h
    cases parts with
    | nil => exact he
    | cons e' parts => exact ⟨he, ih hparts⟩

theorem simple_joinLiteral {rest : List Expr} (he : e.Simple) (h : ∀ part ∈ rest, part.Simple) :
    ∀ part ∈ joinLiteral e rest, part.Simple := by
  unfold joinLiteral
  split
  · refine List.forall_mem_cons.mpr ⟨?_, (List.forall_mem_cons.mp h).2⟩
    exact List.append_ne_nil_of_left_ne_nil he _
  · exact List.forall_mem_cons.mpr ⟨he, h⟩

theorem simple_foldr {parts : List Expr} (h : ∀ part ∈ parts, part.Simple) :
    ∀ part ∈ parts.foldr joinLiteral [], part.Simple := by
  induction parts with
  | nil => simp
  | cons e rest ih =>
    obtain ⟨he, hrest⟩ := List.forall_mem_cons.mp h
    exact simple_joinLiteral he (ih hrest)

theorem simple_concat {parts : List Expr} (h : ∀ part ∈ parts, part.Simple) :
    (concat parts).Simple := by
  have hitems : ∀ part ∈ parts.flatMap items, part.Simple := by
    intro part hpart
    obtain ⟨e, he, hpart⟩ := List.mem_flatMap.mp hpart
    exact simple_items (h e he) part hpart
  exact simple_ofItems (simple_foldr hitems)

theorem simple_ofSet (h : chars.Ascending) {narrow : Bool} : (ofSet narrow chars).Simple := by
  unfold ofSet
  split
  · exact CharSet.spaced_nil
  · split_ifs
    · exact List.cons_ne_nil _ _
    · exact h
  · exact h

theorem plainTree_rep (following : Unit → Option Following) (least : Nat) (most : Option Nat)
    (greedy : Bool) (body : Expr) :
    (rep least most greedy body).plainTree following =
      match body.charSet? with
      | some chars =>
        if most.isNone && (following ()).any (fun f => f.settles chars greedy) then
          .whole chars least
        else .many none chars least most greedy
      | none =>
        if least = 0 && most = some 1 then .optional none greedy (body.plainTree following)
        else ((rep least most greedy body).number 0).1 := rfl

theorem plainTree_chars {following : Unit → Option Following} {least : Nat} {most : Option Nat}
    {greedy : Bool} (h : e.charSet? = some chars) :
    (rep least most greedy e).plainTree following =
      if most.isNone && (following ()).any (fun f => f.settles chars greedy) then
        .whole chars least
      else .many none chars least most greedy := by
  rw [plainTree_rep, h]

theorem plainTree_option {following : Unit → Option Following} {greedy : Bool}
    (h : e.charSet? = none) :
    (rep 0 (some 1) greedy e).plainTree following =
      .optional none greedy (e.plainTree following) := by
  rw [plainTree_rep, h]
  rfl

theorem isPlain_plainTree (h : e.Simple) (following : Unit → Option Following) :
    (e.plainTree following).isPlain = true := by
  induction e generalizing following with
  | empty | literal | set | look => rfl
  | group index body ih => exact ih h following
  | cat first second ihf ihs =>
    exact Bool.and_eq_true_iff.mpr ⟨ihf h.1 (fun _ => second.starts following), ihs h.2 following⟩
  | alt first second ihf ihs =>
    exact Bool.and_eq_true_iff.mpr ⟨ihf h.1 following, ihs h.2 following⟩
  | rep least most greedy body ih =>
    cases hchars : body.charSet? with
    | some chars =>
      rw [plainTree_chars hchars]
      split_ifs <;> rfl
    | none =>
      obtain ⟨rfl, rfl⟩ := h.2.resolve_left (by simp [hchars])
      rw [plainTree_option hchars]
      cases greedy <;> simp [Tree.optional, Tree.isPlain, ih h.1]

/-! ## What is known of the rest -/

/-- What is known of the text that follows is true wherever the search can go on: it begins with one
    of the characters or, if it may be empty, the search can go on anywhere. -/
def Heralds (known : Option Following) (goal : Cursor → Prop) : Prop :=
  ∀ f ∈ known, f.chars.Ascending ∧
    (f.mayEnd = true → ∀ cur, goal cur) ∧
    (f.mayEnd = false → ∀ cur, goal cur → ∃ c ∈ cur.after, f.chars.contains c = true)

theorem Heralds.congr {known : Option Following} {goal goal' : Cursor → Prop}
    (h : Heralds known goal) (hgoal : ∀ cur, goal' cur ↔ goal cur) : Heralds known goal' := by
  obtain rfl : goal' = goal := funext fun cur => propext (hgoal cur)
  exact h

theorem heralds_chars {chars : CharSet} (h : chars.Ascending) {goal : Cursor → Prop}
    (hgoal : ∀ cur, goal cur → ∃ c ∈ cur.after, chars.contains c = true) :
    Heralds (some ⟨chars, false⟩) goal := by
  rintro f ⟨⟩
  exact ⟨h, nofun, fun _ => hgoal⟩

theorem heralds_either {known known' : Option Following} {goal goal' : Cursor → Prop}
    (h : Heralds known goal) (h' : Heralds known' goal') :
    Heralds (do return (← known).either (← known')) (fun cur => goal cur ∨ goal' cur) := by
  intro f hf
  cases known with
  | none => cases hf
  | some f₁ =>
    cases known' with
    | none => cases hf
    | some f₂ =>
      cases hf
      obtain ⟨hsorted, hall, hsome⟩ := h f₁ rfl
      obtain ⟨hsorted', hall', hsome'⟩ := h' f₂ rfl
      refine ⟨hsorted.union hsorted', ?_, ?_⟩
      · intro hend cur
        rcases Bool.or_eq_true_iff.mp hend with hend | hend
        · exact Or.inl (hall hend cur)
        · exact Or.inr (hall' hend cur)
      · intro hend cur hcur
        obtain ⟨hend, hend'⟩ := Bool.or_eq_false_iff.mp hend
        simp only [Following.either, CharSet.contains_union hsorted hsorted', Bool.or_eq_true]
        rcases hcur with hcur | hcur
        · obtain ⟨c, hc, hin⟩ := hsome hend cur hcur
          exact ⟨c, hc, Or.inl hin⟩
        · obtain ⟨c, hc, hin⟩ := hsome' hend' cur hcur
          exact ⟨c, hc, Or.inr hin⟩

theorem after_of_step? (h : a.step? chars = some b) : ∃ c ∈ a.after, chars.contains c = true := by
  obtain ⟨c, hc, rest, hrest, -⟩ := Cursor.step?_eq_some_iff.mp h
  exact ⟨c, by simp [Cursor.after, hrest], hc⟩

theorem after_of_follow? {c : Char} {text : List Char} (h : a.follow? (c :: text) = some b) :
    a.after = some c := by
  obtain ⟨rest, hrest, -⟩ := Cursor.follow?_eq_some_iff.mp h
  simp [Cursor.after, hrest]

theorem ascending_of_charSet? (h : e.Simple) (hchars : e.charSet? = some chars) :
    chars.Ascending := by
  unfold charSet? at hchars
  split at hchars
  · cases hchars
    exact CharSet.ascending_single _
  · cases hchars
    exact h
  · cases hchars

theorem starts_of_charSet? (h : e.charSet? = some chars) (following : Unit → Option Following) :
    e.starts following = some ⟨chars, false⟩ := by
  unfold charSet? at h
  split at h
  · cases h
    rfl
  · cases h
    rfl
  · cases h

/-- What is known before repeated characters. -/
theorem heralds_repeated (h : e.Simple) (hchars : e.charSet? = some chars)
    {following : Unit → Option Following} {goal : Cursor → Prop}
    (hgoal : Heralds (following ()) goal) {least : Nat} {most : Option Nat} {greedy : Bool} :
    Heralds ((rep least most greedy e).starts following)
      (fun cur => ∃ b, (rep least most greedy e).Matches cur b ∧ goal b) := by
  have hsorted := ascending_of_charSet? h hchars
  rw [starts]
  simp only [matches_rep_chars hchars, starts_of_charSet? hchars]
  -- either a character comes first, or nothing is repeated
  have hfirst : ∀ cur : Cursor, (∃ b count, 0 < count ∧ least ≤ count ∧
      (∀ limit ∈ most, count ≤ limit) ∧ cur.Spans chars count b ∧ goal b) →
      ∃ c ∈ cur.after, chars.contains c = true := by
    rintro cur ⟨b, count, hpos, -, -, hspans, -⟩
    obtain ⟨count, rfl⟩ := Nat.exists_eq_add_one_of_ne_zero hpos.ne'
    obtain ⟨mid, hmid, -⟩ := Cursor.spans_succ.mp hspans
    exact after_of_step? hmid
  split_ifs with hleast
  · subst hleast
    refine (heralds_either (heralds_chars hsorted hfirst) hgoal).congr (fun cur => ?_)
    constructor
    · rintro ⟨b, ⟨count, hle, hmost, hspans⟩, hb⟩
      rcases Nat.eq_zero_or_pos count with rfl | hpos
      · exact Or.inr (Cursor.spans_zero.mp hspans ▸ hb)
      · exact Or.inl ⟨b, count, hpos, hle, hmost, hspans, hb⟩
    · rintro (⟨b, count, -, hle, hmost, hspans, hb⟩ | hcur)
      · exact ⟨b, ⟨count, hle, hmost, hspans⟩, hb⟩
      · exact ⟨cur, ⟨0, le_rfl, by simp, Cursor.spans_zero.mpr rfl⟩, hcur⟩
  · refine heralds_chars hsorted ?_
    rintro cur ⟨b, ⟨count, hle, hmost, hspans⟩, hb⟩
    exact hfirst cur ⟨b, count, by omega, hle, hmost, hspans, hb⟩

/-- What is known before an option. -/
theorem heralds_option {following : Unit → Option Following} {goal : Cursor → Prop}
    (hbody : Heralds (e.starts following) (fun cur => ∃ b, e.Matches cur b ∧ goal b))
    (hgoal : Heralds (following ()) goal) {greedy : Bool} :
    Heralds ((rep 0 (some 1) greedy e).starts following)
      (fun cur => ∃ b, (rep 0 (some 1) greedy e).Matches cur b ∧ goal b) := by
  rw [starts, if_pos rfl]
  refine (heralds_either hbody hgoal).congr (fun cur => ?_)
  simp only [matches_option]
  constructor
  · rintro ⟨b, rfl | hmatch, hb⟩
    · exact Or.inr hb
    · exact Or.inl ⟨b, hmatch, hb⟩
  · rintro (⟨b, hmatch, hb⟩ | hcur)
    · exact ⟨b, Or.inr hmatch, hb⟩
    · exact ⟨cur, Or.inl rfl, hcur⟩

/-- What is known before an expression, if what is known after it is true. -/
theorem heralds_starts (h : e.Simple) {following : Unit → Option Following}
    {goal : Cursor → Prop} (hgoal : Heralds (following ()) goal) :
    Heralds (e.starts following) (fun cur => ∃ b, e.Matches cur b ∧ goal b) := by
  induction e generalizing following goal with
  | empty => exact hgoal.congr (by simp [matches_empty])
  | literal text =>
    refine heralds_chars (.ofList _) ?_
    rintro cur ⟨b, hb, -⟩
    cases text with
    | nil => exact absurd rfl h
    | cons c text => exact ⟨c, after_of_follow? hb, by simp [CharSet.contains_ofList]⟩
  | set narrow chars =>
    refine heralds_chars h ?_
    rintro cur ⟨b, hb, -⟩
    exact after_of_step? hb
  | look condition =>
    intro f hf
    obtain ⟨hf, hend⟩ := Option.filter_eq_some_iff.mp hf
    obtain ⟨hsorted, -, hsome⟩ := hgoal f hf
    have hend : f.mayEnd = false := by simpa using hend
    refine ⟨hsorted, fun h => absurd h (by simp [hend]), fun _ cur => ?_⟩
    rintro ⟨b, ⟨-, rfl⟩, hb⟩
    exact hsome hend _ hb
  | group index body ih => exact ih h hgoal
  | cat first second ihf ihs =>
    refine (ihf h.1 (ihs h.2 hgoal)).congr (fun cur => ?_)
    simp only [matches_cat]
    constructor
    · rintro ⟨b, ⟨mid, hfirst, hsecond⟩, hb⟩
      exact ⟨mid, hfirst, b, hsecond, hb⟩
    · rintro ⟨mid, hfirst, b, hsecond, hb⟩
      exact ⟨b, ⟨mid, hfirst, hsecond⟩, hb⟩
  | alt first second ihf ihs =>
    refine (heralds_either (ihf h.1 hgoal) (ihs h.2 hgoal)).congr (fun cur => ?_)
    simp only [matches_alt, or_and_right, exists_or]
  | rep least most greedy body ih =>
    cases hchars : body.charSet? with
    | some chars => exact heralds_repeated h.1 hchars hgoal
    | none =>
      obtain ⟨rfl, rfl⟩ := h.2.resolve_left (by simp [hchars])
      exact heralds_option (ih h.1 hgoal) hgoal

/-! ## Ways of a plain tree -/

theorem ways_option (t : Tree) (greedy : Bool) (p q : Progress) :
    q ∈ (Tree.optional none greedy t).ways p ↔ q = p ∨ q ∈ t.ways p := by
  cases greedy <;> simp [Tree.optional, Tree.ways_alt, Tree.ways_empty, or_comm]

/-- Every way of a tree for repeated characters is a match. -/
theorem matches_of_way_repeated (hchars : e.charSet? = some chars) {least : Nat}
    {most : Option Nat} {greedy : Bool}
    (hbounds : ∀ limit ∈ most, least ≤ limit) {following : Unit → Option Following}
    {p q : Progress} (hq : q ∈ ((rep least most greedy e).plainTree following).ways p) :
    (rep least most greedy e).Matches p.cursor q.cursor := by
  rw [matches_rep_chars hchars]
  rw [plainTree_chars hchars] at hq
  split_ifs at hq with hwhole
  · obtain ⟨hmost, -⟩ := Bool.and_eq_true_iff.mp hwhole
    obtain rfl := Option.isNone_iff_eq_none.mp hmost
    obtain ⟨cur, hskip, rfl⟩ := Option.map_eq_some_iff.mp (Option.mem_toList.mp hq)
    have hspans := Cursor.spans_add.mpr
      ⟨cur, Cursor.skip?_eq_some_iff.mp hskip, Cursor.spans_skipAll cur chars⟩
    exact ⟨_, Nat.le_add_right _ _, by simp, hspans⟩
  · obtain ⟨cur, hskip, hq⟩ := List.mem_flatMap.mp hq
    obtain ⟨cur', hcur', rfl⟩ := List.mem_map.mp hq
    obtain ⟨count, hcount, hspans⟩ := Cursor.mem_stops.mp hcur'
    have hskip := Cursor.skip?_eq_some_iff.mp (Option.mem_toList.mp hskip)
    refine ⟨_, Nat.le_add_right _ _, fun limit hlimit => ?_,
      Cursor.spans_add.mpr ⟨cur, hskip, hspans⟩⟩
    have hle := hbounds limit hlimit
    have := hcount (limit - least) (Option.mem_map_of_mem (· - least) hlimit)
    omega

/-- Every way of the tree is a match. -/
theorem matches_of_way (h : e.Simple) {following : Unit → Option Following} {p q : Progress}
    (hq : q ∈ (e.plainTree following).ways p) : e.Matches p.cursor q.cursor := by
  induction e generalizing following p q with
  | empty =>
    obtain rfl := List.mem_singleton.mp hq
    rfl
  | literal text =>
    obtain ⟨cur, hcur, rfl⟩ := Option.map_eq_some_iff.mp (Option.mem_toList.mp hq)
    exact hcur
  | set narrow chars =>
    obtain ⟨cur, hcur, rfl⟩ := Option.map_eq_some_iff.mp (Option.mem_toList.mp hq)
    exact hcur
  | look condition =>
    have hq : q ∈ if condition.holds p.cursor.before p.cursor.after then [p] else [] := hq
    split_ifs at hq with hholds
    · obtain rfl := List.mem_singleton.mp hq
      exact ⟨hholds, rfl⟩
    · cases hq
  | group index body ih =>
    obtain ⟨r, hr, rfl⟩ := List.mem_map.mp hq
    have hbody : body.Matches p.cursor r.cursor := ih h hr
    exact hbody
  | cat first second ihf ihs =>
    obtain ⟨r, hr, hq⟩ := List.mem_flatMap.mp hq
    exact ⟨r.cursor, ihf h.1 hr, ihs h.2 hq⟩
  | alt first second ihf ihs =>
    rcases List.mem_append.mp hq with hq | hq
    · exact Or.inl (ihf h.1 hq)
    · exact Or.inr (ihs h.2 hq)
  | rep least most greedy body ih =>
    cases hchars : body.charSet? with
    | some chars => exact matches_of_way_repeated hchars (simple_bounds h) hq
    | none =>
      obtain ⟨rfl, rfl⟩ := h.2.resolve_left (by simp [hchars])
      rw [plainTree_option hchars, ways_option] at hq
      rw [matches_option]
      rcases hq with rfl | hq
      · exact Or.inl rfl
      · exact Or.inr (ih h.1 hq)

/-- If what follows settles a repetition, the search can go on after the last character of the set,
    provided it can go on after some of them. -/
theorem goal_skipAll {known : Option Following} {goal : Cursor → Prop} (hgoal : Heralds known goal)
    (hchars : chars.Ascending) {greedy : Bool}
    (hsettled : known.any (fun f => f.settles chars greedy) = true) {count : Nat}
    (hspans : a.Spans chars count b) (hb : goal b) :
    goal (Cursor.skipAll chars a.before a.offset a.rest) := by
  obtain ⟨f, rfl⟩ : ∃ f, known = some f := by
    cases known with
    | none => cases hsettled
    | some f => exact ⟨f, rfl⟩
  obtain ⟨hsorted, hall, hsome⟩ := hgoal f rfl
  obtain ⟨hdisjoint, -⟩ := Bool.and_eq_true_iff.mp hsettled
  cases hend : f.mayEnd with
  | true => exact hall hend _
  | false =>
    obtain ⟨c, hc, hin⟩ := hsome hend b hb
    have hnot : chars.contains c = false := by
      by_contra hcontains
      have := CharSet.not_contains_of_disjoint hchars hsorted hdisjoint (by simpa using hcontains)
      rw [hin] at this
      cases this
    rwa [← hspans.eq_skipAll (fun d hd => Option.mem_unique hc hd ▸ hnot)]

/-- A tree for repeated characters has a way to where the search can go on: the end of the match or,
    if all characters of the set are taken at once, the end of these. -/
theorem exists_way_repeated (h : e.Simple) (hchars : e.charSet? = some chars) {least : Nat}
    {most : Option Nat} {greedy : Bool} {following : Unit → Option Following}
    {goal : Cursor → Prop} (hgoal : Heralds (following ()) goal) {p : Progress}
    (hmatch : (rep least most greedy e).Matches p.cursor b) (hb : goal b) :
    ∃ q ∈ ((rep least most greedy e).plainTree following).ways p, goal q.cursor := by
  obtain ⟨count, hleast, hmost, hspans⟩ := (matches_rep_chars hchars).mp hmatch
  obtain ⟨more, rfl⟩ := Nat.exists_eq_add_of_le hleast
  obtain ⟨mid, hskip, hmore⟩ := Cursor.spans_add.mp hspans
  have hskip := Cursor.skip?_eq_some_iff.mpr hskip
  rw [plainTree_chars hchars]
  split_ifs with hwhole
  · obtain ⟨-, hsettled⟩ := Bool.and_eq_true_iff.mp hwhole
    refine ⟨⟨Cursor.skipAll chars mid.before mid.offset mid.rest, p.groups⟩,
      by simp [Tree.ways_whole, hskip], ?_⟩
    exact goal_skipAll hgoal (ascending_of_charSet? h hchars) hsettled hmore hb
  · have hstop : b ∈ Cursor.stops chars greedy (most.map (· - least)) mid.before mid.offset
        mid.rest := by
      refine Cursor.mem_stops.mpr ⟨more, fun limit hlimit => ?_, hmore⟩
      obtain ⟨bound, hbound, rfl⟩ := Option.map_eq_some_iff.mp hlimit
      have := hmost bound hbound
      omega
    exact ⟨⟨b, p.groups⟩, by simpa [Tree.ways_many, hskip] using hstop, hb⟩

/-- Where there is a match after which the search can go on, the tree has a way to such a match. -/
theorem exists_way (h : e.Simple) (following : Unit → Option Following) {goal : Cursor → Prop}
    (hgoal : Heralds (following ()) goal) {p : Progress} (hmatch : e.Matches p.cursor b)
    (hb : goal b) : ∃ q ∈ (e.plainTree following).ways p, goal q.cursor := by
  induction e generalizing following goal p b with
  | empty =>
    obtain rfl := hmatch
    exact ⟨p, List.mem_singleton_self p, hb⟩
  | literal text =>
    have hfollow : p.cursor.follow? text = some b := hmatch
    exact ⟨⟨b, p.groups⟩, by simp [plainTree, Tree.ways_literal, hfollow], hb⟩
  | set narrow chars =>
    have hstep : p.cursor.step? chars = some b := hmatch
    exact ⟨⟨b, p.groups⟩, by simp [plainTree, Tree.ways_set, hstep], hb⟩
  | look condition =>
    obtain ⟨hholds, rfl⟩ := hmatch
    exact ⟨p, by simp [plainTree, Tree.ways_look, hholds], hb⟩
  | group index body ih =>
    obtain ⟨q, hq, hgoal⟩ := ih h following hgoal hmatch hb
    exact ⟨_, List.mem_map.mpr ⟨q, hq, rfl⟩, hgoal⟩
  | cat first second ihf ihs =>
    obtain ⟨mid, hfirst, hsecond⟩ := hmatch
    obtain ⟨r, hr, b', hsecond, hb⟩ := ihf h.1 (fun _ => second.starts following)
      (heralds_starts h.2 hgoal) hfirst ⟨b, hsecond, hb⟩
    obtain ⟨q, hq, hb⟩ := ihs h.2 following hgoal hsecond hb
    exact ⟨q, List.mem_flatMap.mpr ⟨r, hr, hq⟩, hb⟩
  | alt first second ihf ihs =>
    rcases hmatch with hmatch | hmatch
    · obtain ⟨q, hq, hb⟩ := ihf h.1 following hgoal hmatch hb
      exact ⟨q, List.mem_append_left _ hq, hb⟩
    · obtain ⟨q, hq, hb⟩ := ihs h.2 following hgoal hmatch hb
      exact ⟨q, List.mem_append_right _ hq, hb⟩
  | rep least most greedy body ih =>
    cases hchars : body.charSet? with
    | some chars => exact exists_way_repeated h.1 hchars hgoal hmatch hb
    | none =>
      obtain ⟨rfl, rfl⟩ := h.2.resolve_left (by simp [hchars])
      simp only [plainTree_option hchars, ways_option]
      rcases matches_option.mp hmatch with rfl | hmatch
      · exact ⟨p, Or.inl rfl, hb⟩
      · obtain ⟨q, hq, hb⟩ := ih h.1 following hgoal hmatch hb
        exact ⟨q, Or.inr hq, hb⟩

theorem heralds_nothing : Heralds (some .nothing) (fun _ => True) := by
  rintro f ⟨⟩
  exact ⟨CharSet.spaced_nil, fun _ _ => trivial, nofun⟩

theorem first?_eq_none (h : e.Simple) {cur : Cursor} (hnone : e.plain.first? cur = none)
    (b : Cursor) : ¬ e.Matches cur b := by
  intro hb
  obtain ⟨q, hq, -⟩ :=
    exists_way h (fun _ => some .nothing) heralds_nothing (p := ⟨cur, []⟩) hb trivial
  rw [Tree.first?, Option.map_eq_none_iff, List.head?_eq_none_iff] at hnone
  rw [← plain, hnone] at hq
  cases hq

theorem matches_of_first? (h : e.Simple) {cur : Cursor} {m : Match}
    (hm : e.plain.first? cur = some m) :
    ∃ b, e.Matches cur b ∧ m.span = ⟨cur.offset, b.offset⟩ := by
  obtain ⟨q, hq, rfl⟩ := Option.map_eq_some_iff.mp hm
  exact ⟨q.cursor, matches_of_way h (List.mem_of_head? hq), rfl⟩

end Expr

/-! ## The leftmost match -/

/-- The position between two pieces of a text. -/
def Cursor.between (before rest : List Char) : Cursor :=
  ⟨before.getLast?, rest, Text.byteLength before⟩

/-- The result at the first position of `rest`, which follows `before`, at which there is one. -/
def FirstAlong (search : Cursor → Option Match) (before rest : List Char) : Option Match → Prop
  | none => ∀ s u, rest = s ++ u → search (.between (before ++ s) u) = none
  | some m => ∃ s u, rest = s ++ u ∧ search (.between (before ++ s) u) = some m ∧
      ∀ s' u', rest = s' ++ u' → s'.length < s.length → search (.between (before ++ s') u') = none

section FirstAlong

variable {search : Cursor → Option Match} {before rest : List Char}

theorem firstAlong_here {m : Match} (h : search (.between before rest) = some m) :
    FirstAlong search before rest (some m) :=
  ⟨[], rest, rfl, by rwa [List.append_nil], fun _ _ _ hlt => absurd hlt (Nat.not_lt_zero _)⟩

theorem firstAlong_nil (h : search (.between before []) = none) :
    FirstAlong search before [] none := by
  intro s u hsplit
  obtain ⟨rfl, rfl⟩ := List.append_eq_nil_iff.mp hsplit.symm
  rwa [List.append_nil]

theorem firstAlong_cons {c : Char} {found : Option Match}
    (hnone : search (.between before (c :: rest)) = none)
    (h : FirstAlong search (before ++ [c]) rest found) :
    FirstAlong search before (c :: rest) found := by
  have hearlier : ∀ s u, c :: rest = s ++ u →
      (s = [] ∧ search (.between (before ++ s) u) = none) ∨
        ∃ t, s = c :: t ∧ rest = t ++ u ∧ before ++ s = before ++ [c] ++ t := by
    intro s u hsplit
    cases s with
    | nil =>
      obtain rfl : c :: rest = u := hsplit
      exact Or.inl ⟨rfl, by rwa [List.append_nil]⟩
    | cons d t =>
      obtain ⟨rfl, hrest⟩ := List.cons.inj hsplit
      exact Or.inr ⟨t, rfl, hrest, by simp⟩
  cases found with
  | none =>
    intro s u hsplit
    rcases hearlier s u hsplit with ⟨-, hs⟩ | ⟨t, -, hrest, heq⟩
    · exact hs
    · rw [heq]
      exact h t u hrest
  | some m =>
    obtain ⟨s, u, hrest, hm, hbefore⟩ := h
    refine ⟨c :: s, u, by rw [hrest, List.cons_append], by simpa using hm, ?_⟩
    intro s' u' hsplit hlt
    rcases hearlier s' u' hsplit with ⟨-, hs⟩ | ⟨t, rfl, hrest', heq⟩
    · exact hs
    · rw [heq]
      exact hbefore t u' hrest' (by simpa using hlt)

end FirstAlong

/-- A plain tree is tried at each position in turn until it matches. -/
theorem Tree.findAlong_of_plain {t : Tree} (ht : t.isPlain) {size last : Nat} {tried : Tried}
    (before rest : List Char) (hlast : Text.byteLength (before ++ rest) ≤ last) :
    FirstAlong t.first? before rest
      (t.findAlong size ⟨0, last⟩ tried before.getLast? (Text.byteLength before) rest) := by
  induction rest generalizing before tried with
  | nil =>
    have hhere : t.matchFrom size ⟨0, last⟩ tried (.between before []) =
        (t.first? (.between before []), tried) := by
      rw [matchFrom_of_plain ht, if_pos ⟨Nat.zero_le _, by simpa [Cursor.between] using hlast⟩]
    rw [findAlong]
    unfold Cursor.between at hhere
    rw [hhere]
    cases hfirst : t.first? (.between before []) with
    | none => exact hfirst ▸ firstAlong_nil hfirst
    | some m => exact hfirst ▸ firstAlong_here hfirst
  | cons c rest ih =>
    have hle : Text.byteLength before ≤ last := by
      rw [Text.byteLength_append] at hlast
      omega
    have hhere : t.matchFrom size ⟨0, last⟩ tried (.between before (c :: rest)) =
        (t.first? (.between before (c :: rest)), tried) := by
      rw [matchFrom_of_plain ht, if_pos ⟨Nat.zero_le _, hle⟩]
    unfold Cursor.between at hhere
    rw [findAlong, hhere]
    cases hfirst : t.first? (.between before (c :: rest)) with
    | none =>
      unfold Cursor.between at hfirst
      have hrest := @ih tried (before ++ [c]) (by simpa using hlast)
      rw [List.getLast?_concat, Text.byteLength_append] at hrest
      rw [hfirst]
      exact firstAlong_cons hfirst hrest
    | some m =>
      unfold Cursor.between at hfirst
      rw [hfirst]
      exact firstAlong_here hfirst

namespace Expr

variable {e : Expr}

/-- The search for a simple expression finds a match at the leftmost position where there is one,
    and none only if there is none anywhere. -/
theorem findFrom_plain (h : e.Simple) (text : List Char) :
    (e.plain.findFrom text 0 = none →
      ∀ before rest b, text = before ++ rest → ¬ e.Matches (.between before rest) b) ∧
    ∀ m, e.plain.findFrom text 0 = some m →
      ∃ before rest b, text = before ++ rest ∧ e.Matches (.between before rest) b ∧
        m.span = ⟨Text.byteLength before, b.offset⟩ ∧
        ∀ before' rest' b', text = before' ++ rest' → e.Matches (.between before' rest') b' →
          before.length ≤ before'.length := by
  have hfirst : FirstAlong e.plain.first? [] text (e.plain.findFrom text 0) :=
    Tree.findAlong_of_plain (isPlain_plainTree h _) [] text (Nat.le_succ _)
  constructor
  · intro hnone before rest b htext
    rw [hnone] at hfirst
    exact first?_eq_none h (hfirst before rest htext) b
  · intro m hm
    rw [hm] at hfirst
    obtain ⟨before, rest, htext, hbefore, hearlier⟩ := hfirst
    obtain ⟨b, hb, hspan⟩ := matches_of_first? h hbefore
    refine ⟨before, rest, b, htext, hb, hspan, fun before' rest' b' htext' hb' => ?_⟩
    by_contra hlt
    exact first?_eq_none h (hearlier before' rest' htext' (by omega)) b' hb'

end Expr

end ProgramOutline.Regex
