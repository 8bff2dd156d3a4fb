import Mathlib.Tactic

/-!
# Cutting a text at marked lines

A stream of texts with a mark on a line of its own before each but the first can be cut into these
texts again if each of them ends its last line and none of them holds a line like the mark.

Results:
* `rows_append`, `rows_line`: the lines of texts that end their last line.
* `length_rows`, `lineTexts_lines`: how many they are, and what stands in them.
* `cut_stream`: when cutting gives the texts of a stream.
* `cut_eq_self`: a text in which no line starts with a dash is left whole.
* `cut_stream_eq_self`: nothing is cut in a stream of texts that do not end their last line.
-/

namespace ProgramOutline.Text

/-! ## Lines -/

/-- The lines of a text with the line feeds that end them; the last line may be without. -/
def rows : List Char → List (List Char)
  | [] => []
  | c :: rest =>
    if c = '\n' then [c] :: rows rest
    else match rows rest with
      | [] => [[c]]
      | line :: later => (c :: line) :: later

/-- The text ends its last line, if it has one. -/
def Terminated (text : List Char) : Prop := text = [] ∨ text.getLast? = some '\n'

theorem rows_cons (c : Char) (rest : List Char) :
    rows (c :: rest) =
      if c = '\n' then [c] :: rows rest
      else match rows rest with
        | [] => [[c]]
        | line :: later => (c :: line) :: later := rfl

theorem flatten_rows (text : List Char) : (rows text).flatten = text := by
  induction text with
  | nil => rfl
  | cons c rest ih =>
    rw [rows_cons]
    split
    · rw [List.flatten_cons, ih, List.singleton_append]
    · cases hlines : rows rest with
      | nil =>
        rw [hlines] at ih
        rw [← ih]
        rfl
      | cons line later =>
        rw [hlines, List.flatten_cons] at ih
        dsimp only
        rw [List.flatten_cons, List.cons_append, ih]

theorem rows_ne_nil (c : Char) (rest : List Char) : rows (c :: rest) ≠ [] := by
  intro hnil
  have hflat := flatten_rows (c :: rest)
  rw [hnil] at hflat
  cases hflat

/-- A line that is ended is one of the lines, whatever comes after it. -/
theorem rows_line {line : List Char} (h : '\n' ∉ line) (rest : List Char) :
    rows (line ++ '\n' :: rest) = (line ++ ['\n']) :: rows rest := by
  induction line with
  | nil => rw [List.nil_append, rows_cons, if_pos rfl, List.nil_append]
  | cons c line ih =>
    rw [List.mem_cons, not_or] at h
    rw [List.cons_append, rows_cons, if_neg (Ne.symm h.1), ih h.2]
    rfl

theorem rows_append {a : List Char} (h : Terminated a) (b : List Char) :
    rows (a ++ b) = rows a ++ rows b := by
  induction a with
  | nil => rfl
  | cons c a ih =>
    rw [List.cons_append, rows_cons, rows_cons]
    have hlast : (c :: a).getLast? = some '\n' := h.resolve_left (List.cons_ne_nil c a)
    cases a with
    | nil =>
      have hc : c = '\n' := Option.some.inj hlast
      rw [if_pos hc, if_pos hc]
      rfl
    | cons d a =>
      rw [List.getLast?_cons_cons] at hlast
      rw [ih (.inr hlast)]
      split
      · rfl
      · obtain ⟨line, later, hcons⟩ := List.exists_cons_of_ne_nil (rows_ne_nil d a)
        rw [hcons]
        rfl

theorem terminated_line (line : List Char) : Terminated (line ++ ['\n']) :=
  .inr List.getLast?_concat

theorem Terminated.append {a b : List Char} (ha : Terminated a) (hb : Terminated b) :
    Terminated (a ++ b) := by
  rcases hb with rfl | hb
  · rwa [List.append_nil]
  · exact .inr (by rw [List.getLast?_append, hb, Option.some_or])

theorem terminated_flatten {texts : List (List Char)} (h : ∀ text ∈ texts, Terminated text) :
    Terminated texts.flatten := by
  induction texts with
  | nil => exact .inl rfl
  | cons text texts ih =>
    obtain ⟨htext, htexts⟩ := List.forall_mem_cons.mp h
    exact htext.append (ih htexts)

theorem rows_flatten {texts : List (List Char)} (h : ∀ text ∈ texts, Terminated text) :
    rows texts.flatten = texts.flatMap rows := by
  induction texts with
  | nil => rfl
  | cons text texts ih =>
    obtain ⟨htext, htexts⟩ := List.forall_mem_cons.mp h
    rw [List.flatten_cons, rows_append htext, ih htexts, List.flatMap_cons]

/-- The lines of a text without the line feeds that end them. -/
def lineTexts (text : List Char) : List (List Char) :=
  (rows text).map (fun row => row.takeWhile (· != '\n'))

theorem length_rows {text : List Char} (h : Terminated text) :
    (rows text).length = text.count '\n' := by
  induction text with
  | nil => rfl
  | cons c rest ih =>
    have hlast : (c :: rest).getLast? = some '\n' := h.resolve_left (List.cons_ne_nil c rest)
    cases rest with
    | nil =>
      obtain rfl : c = '\n' := Option.some.inj hlast
      rfl
    | cons d rest =>
      rw [List.getLast?_cons_cons] at hlast
      rw [rows_cons, List.count_cons, ← ih (.inr hlast)]
      split
      · rename_i hc
        simp [hc]
      · rename_i hc
        obtain ⟨line, later, hcons⟩ := List.exists_cons_of_ne_nil (rows_ne_nil d rest)
        simp [hcons, hc]

theorem rows_lines {lines : List (List Char)} (h : ∀ line ∈ lines, '\n' ∉ line) :
    rows (lines.map (· ++ ['\n'])).flatten = lines.map (· ++ ['\n']) := by
  induction lines with
  | nil => rfl
  | cons line lines ih =>
    obtain ⟨hline, hlines⟩ := List.forall_mem_cons.mp h
    rw [List.map_cons, List.flatten_cons, List.append_assoc, List.singleton_append,
      rows_line hline, ih hlines]

theorem lineTexts_lines {lines : List (List Char)} (h : ∀ line ∈ lines, '\n' ∉ line) :
    lineTexts (lines.map (· ++ ['\n'])).flatten = lines := by
  rw [lineTexts, rows_lines h, List.map_map]
  refine (List.map_congr_left fun line hline => ?_).trans (List.map_id lines)
  have hall : ∀ c ∈ line, (c != '\n') = true := by
    intro c hc
    rw [bne_iff_ne]
    rintro rfl
    exact h line hline hc
  rw [Function.comp_apply, List.takeWhile_append_of_pos hall]
  exact List.append_nil line

/-! ## Cutting -/

/-- The line that marks a cut. -/
def mark : List Char := ['-', '-', '-']

/-- Does the line consist of the mark, with a line feed or at the end of the text? -/
def isMark (line : List Char) : Bool := line == mark ++ ['\n'] || line == mark

/-- The parts of a text between the marked lines. -/
def cut (text : List Char) : List (List Char) := ((rows text).splitOnP isMark).map List.flatten

/-- Is no line of the text like the mark? -/
def Unmarked (text : List Char) : Prop := ∀ line ∈ rows text, isMark line = false

instance (text : List Char) : Decidable (Unmarked text) :=
  inferInstanceAs (Decidable (∀ line ∈ rows text, isMark line = false))

theorem unmarked_line {line : List Char} (hline : '\n' ∉ line) (hmark : line ≠ mark) :
    Unmarked (line ++ ['\n']) := by
  intro other hother
  have hlines : rows (line ++ ['\n']) = [line ++ ['\n']] := rows_line hline []
  rw [hlines, List.mem_singleton] at hother
  have hne : line ++ ['\n'] ≠ mark := by
    intro h
    have hmem : '\n' ∈ mark := h ▸ List.mem_append_right line (List.mem_singleton_self '\n')
    exact absurd hmem (by decide)
  rw [hother, isMark, Bool.or_eq_false_iff, beq_eq_false_iff_ne, beq_eq_false_iff_ne]
  exact ⟨fun h => hmark (List.append_cancel_right h), hne⟩

theorem unmarked_flatten {texts : List (List Char)} (h : ∀ text ∈ texts, Terminated text) :
    Unmarked texts.flatten ↔ ∀ text ∈ texts, Unmarked text := by
  simp only [Unmarked, rows_flatten h, List.mem_flatMap]
  exact ⟨fun hall text htext line hline => hall line ⟨text, htext, hline⟩,
    fun hall line ⟨text, htext, hline⟩ => hall text htext line hline⟩

/-- A text and more of them, each after a marked line. -/
def stream (first : List Char) (later : List (List Char)) : List Char :=
  first ++ later.flatMap (fun text => mark ++ '\n' :: text)

theorem length_splitOnP {α : Type} (p : α → Bool) (items : List α) :
    (items.splitOnP p).length = items.countP p + 1 := by
  induction items with
  | nil => rfl
  | cons item items ih =>
    rw [List.splitOnP_cons_eq_if_modifyHead]
    split
    · rename_i h
      rw [List.length_cons, ih, List.countP_cons_of_pos h]
    · rename_i h
      rw [List.length_modifyHead, ih, List.countP_cons_of_neg h]

theorem length_cut (text : List Char) : (cut text).length = (rows text).countP isMark + 1 := by
  rw [cut, List.length_map, length_splitOnP]

theorem cut_of_unmarked {text : List Char} (h : Unmarked text) : cut text = [text] := by
  rw [cut, List.splitOnP_eq_singleton h, List.map_singleton, flatten_rows]

/-- A marked line is a cut, whatever stands before and after it. -/
theorem cut_append_mark {a : List Char} (h : Terminated a) (b : List Char) :
    cut (a ++ (mark ++ '\n' :: b)) = cut a ++ cut b := by
  have hmark : '\n' ∉ mark := by decide
  rw [cut, rows_append h, rows_line hmark, List.splitOnP_append_cons _ _ (by decide),
    List.map_append]
  rfl

theorem cut_stream_eq_flatMap {first : List Char} {later : List (List Char)}
    (h : ∀ text ∈ first :: later, Terminated text) :
    cut (stream first later) = (first :: later).flatMap cut := by
  induction later generalizing first with
  | nil => simp [stream]
  | cons text later ih =>
    have hrest := ih (fun other hother => h other (List.mem_cons_of_mem first hother))
    have hsplit : stream first (text :: later) = first ++ (mark ++ '\n' :: stream text later) := by
      simp [stream]
    rw [hsplit, cut_append_mark (h first (by simp)), hrest, ← List.flatMap_cons]

/-- Cutting a stream gives its texts if and only if none of them has a line like the mark. -/
theorem cut_stream {first : List Char} {later : List (List Char)}
    (hterminated : ∀ text ∈ first :: later, Terminated text) :
    cut (stream first later) = first :: later ↔ ∀ text ∈ first :: later, Unmarked text := by
  rw [cut_stream_eq_flatMap hterminated]
  constructor
  · -- every text is cut into one part at least, so none is cut into more
    intro hcut
    have hlength := congrArg List.length hcut
    simp only [List.length_flatMap, length_cut, List.sum_map_add, List.map_const',
      List.sum_replicate, smul_eq_mul, mul_one] at hlength
    have hzero : ((first :: later).map (fun text => (rows text).countP isMark)).sum = 0 := by
      omega
    intro text htext line hline
    have hcount : (rows text).countP isMark = 0 :=
      List.sum_eq_zero_iff.mp hzero _ (List.mem_map.mpr ⟨text, htext, rfl⟩)
    simpa using List.countP_eq_zero.mp hcount line hline
  · intro hunmarked
    have hcuts : ∀ text ∈ first :: later, cut text = [text] :=
      fun text htext => cut_of_unmarked (hunmarked text htext)
    rw [List.flatMap_congr hcuts]
    simp

/-! ## Texts without dashes at line starts -/

/-- After a line feed comes no dash. -/
def NoDash (c d : Char) : Prop := c = '\n' → d ≠ '-'

theorem head?_rows (text : List Char) :
    (rows text).head?.bind List.head? = text.head? := by
  cases text with
  | nil => rfl
  | cons c rest =>
    rw [rows_cons]
    split
    · rfl
    · cases rows rest <;> rfl

theorem not_dash_of_mem_tail {text : List Char} (h : text.IsChain NoDash) :
    ∀ line ∈ (rows text).tail, line.head? ≠ some '-' := by
  induction text with
  | nil => exact fun line hline => absurd hline List.not_mem_nil
  | cons c rest ih =>
    obtain ⟨hnext, hrest⟩ := List.isChain_cons.mp h
    have hfirst := head?_rows rest
    rw [rows_cons]
    split
    · rename_i hc
      intro line hline
      cases hlines : rows rest with
      | nil => simp [hlines] at hline
      | cons first later =>
        rw [hlines] at hfirst
        have ih' := ih hrest
        rw [hlines] at ih'
        rw [List.tail_cons, hlines] at hline
        rcases List.mem_cons.mp hline with rfl | hline
        · intro hdash
          exact hnext '-' (hfirst ▸ hdash) hc rfl
        · exact ih' line hline
    · cases hlines : rows rest with
      | nil => exact fun line hline => absurd hline List.not_mem_nil
      | cons first later =>
        have ih' := ih hrest
        rw [hlines] at ih'
        exact ih'

/-- Even if a dash follows the text, no line feed of it has a dash after it. -/
def Unbroken (text : List Char) : Prop := (text ++ ['-']).IsChain NoDash

/-- The text starts with something else than a dash. -/
def Opens (text : List Char) : Prop := ∃ c rest, text = c :: rest ∧ c ≠ '-'

namespace Unbroken

variable {a b : List Char}

theorem isChain (h : Unbroken a) : a.IsChain NoDash := (List.isChain_append.mp h).1

theorem append (ha : Unbroken a) (hb : Unbroken b) : Unbroken (a ++ b) := by
  obtain ⟨hchain, -, hlast⟩ := List.isChain_append.mp ha
  rw [Unbroken, List.append_assoc]
  refine List.isChain_append.mpr ⟨hchain, hb, ?_⟩
  -- the last character of `a` is no line feed, since a dash may follow it
  intro c hc d _ hfeed
  exact absurd rfl (hlast c hc '-' rfl hfeed)

theorem cons {c : Char} (hc : c ≠ '\n') (ha : Unbroken a) : Unbroken (c :: a) :=
  List.isChain_cons.mpr ⟨fun _ _ hfeed => absurd hfeed hc, ha⟩

theorem feed (ha : Unbroken a) (hopens : Opens a) : Unbroken ('\n' :: a) := by
  obtain ⟨c, rest, rfl, hc⟩ := hopens
  refine List.isChain_cons.mpr ⟨?_, ha⟩
  intro d hd _
  obtain rfl : c = d := by simpa using hd
  exact hc

theorem of_not_mem (h : '\n' ∉ a) : Unbroken a := by
  induction a with
  | nil => exact List.isChain_singleton '-'
  | cons c a ih =>
    rw [List.mem_cons, not_or] at h
    exact cons (Ne.symm h.1) (ih h.2)

end Unbroken

/-- A text in which no line starts with a dash is left whole. -/
theorem cut_eq_self {text : List Char} (h : Unbroken text) (hopens : Opens text) :
    cut text = [text] := by
  have hdash : ∀ line ∈ rows text, line.head? ≠ some '-' := by
    obtain ⟨c, rest, hcons, hc⟩ := hopens
    have hfirst := head?_rows text
    have htail := not_dash_of_mem_tail h.isChain
    cases hlines : rows text with
    | nil => exact fun line hline => absurd hline List.not_mem_nil
    | cons first later =>
      rw [hlines] at hfirst htail
      refine List.forall_mem_cons.mpr ⟨?_, htail⟩
      intro hdash
      have hhead : text.head? = some '-' := hfirst ▸ hdash
      rw [hcons] at hhead
      exact hc (Option.some.inj hhead)
  refine cut_of_unmarked (fun line hline => ?_)
  by_contra hmarked
  have hmark : line = mark ++ ['\n'] ∨ line = mark := by
    simpa [isMark, or_iff_not_imp_left] using hmarked
  rcases hmark with rfl | rfl
  · exact hdash _ hline rfl
  · exact hdash _ hline rfl

/-- Nothing is cut in a stream of texts that do not end their last line. -/
theorem cut_stream_eq_self {first : List Char} {later : List (List Char)}
    (h : ∀ text ∈ first :: later, Unbroken text ∧ Opens text) :
    cut (stream first later) = [stream first later] := by
  obtain ⟨⟨hfirst, c, rest, hcons, hc⟩, hlater⟩ := List.forall_mem_cons.mp h
  have hmark : Unbroken mark := .of_not_mem (by decide)
  have hparts : Unbroken (later.flatMap (fun text => mark ++ '\n' :: text)) := by
    clear h
    induction later with
    | nil => exact .of_not_mem List.not_mem_nil
    | cons text later ih =>
      obtain ⟨⟨htext, hopens⟩, hothers⟩ := List.forall_mem_cons.mp hlater
      exact (hmark.append (htext.feed hopens)).append (ih hothers)
  exact cut_eq_self (hfirst.append hparts) ⟨c, _, by rw [stream, hcons, List.cons_append], hc⟩

end ProgramOutline.Text
