import ProgramOutline.Parameters
import ProgramOutline.Proofs.Text.Pieces
import ProgramOutline.Proofs.Text.Trim

/-!
# What a parameter list says

The parameters in a list are those of its parts, put together at any of its commas. Blanks and
semicolons at the ends of a list, and together with further commas also beside the commas in it, are
fillers: they are no parameters, and no parameter is another one for them.

Results:
* `tokens_append`: the texts of the parameters in two lists with a comma between them.
* `tokens_filler_append`, `tokens_append_filler`: fillers at the ends of a list.
* `parse_parts`: lists with commas between them, and lists with fillers in them.
-/

namespace ProgramOutline.Parameters

/-- Only characters of no account. -/
def Noise (text : List Char) : Prop := ∀ c ∈ text, isNoise c = true

/-- Only commas and characters of no account. -/
def Filler (text : List Char) : Prop := ∀ c ∈ text, c = ',' ∨ isNoise c = true

instance (text : List Char) : Decidable (Noise text) :=
  decidable_of_iff (text.all isNoise = true) List.all_eq_true

instance (text : List Char) : Decidable (Filler text) :=
  decidable_of_iff (text.all (fun c => c == ',' || isNoise c) = true) (by simp [Filler])

/-- The second list is the first one with fillers at its ends and beside its commas. -/
inductive Filled : List Char → List Char → Prop
  | refl (list : List Char) : Filled list list
  | ends {list filled before after : List Char} (h : Filled list filled) (hbefore : Filler before)
      (hafter : Filler after) : Filled list (before ++ filled ++ after)
  | comma {list a b before after : List Char} (h : Filled list (a ++ ',' :: b))
      (hbefore : Filler before) (hafter : Filler after) :
      Filled list (a ++ before ++ ',' :: (after ++ b))

/-! ## Lists with commas between them -/

theorem tokens_append (a b : List Char) : tokens (a ++ ',' :: b) = tokens a ++ tokens b := by
  rw [tokens, Text.splitOn_append, List.map_append, List.filter_append]
  rfl

/-- A list without a comma has at most one parameter. -/
theorem tokens_of_notMem {list : List Char} (h : ',' ∉ list) :
    tokens list = [Text.stripWhile isNoise list].filter (fun token => !token.isEmpty) := by
  rw [tokens, Text.splitOn_of_notMem ',' h, List.map_singleton]

/-! ## Noise and fillers -/

theorem Noise.comma_notMem {noise : List Char} (h : Noise noise) : ',' ∉ noise := by
  intro hmem
  exact absurd (h ',' hmem) (by decide)

theorem Noise.filler {noise : List Char} (h : Noise noise) : Filler noise :=
  fun c hc => .inr (h c hc)

theorem Filler.noise {filler : List Char} (h : Filler filler) (hcomma : ',' ∉ filler) :
    Noise filler := by
  intro c hc
  refine (h c hc).resolve_left ?_
  rintro rfl
  exact hcomma hc

theorem Filler.parts {a b : List Char} (h : Filler (a ++ ',' :: b)) : Filler a ∧ Filler b :=
  ⟨fun c hc => h c (List.mem_append_left _ hc),
    fun c hc => h c (List.mem_append_right a (List.mem_cons_of_mem _ hc))⟩

/-- Only the first parameter of a list can have noise in front of the list at its start. -/
theorem tokens_noise_append {noise : List Char} (h : Noise noise) (list : List Char) :
    tokens (noise ++ list) = tokens list := by
  have hsingle : ∀ piece, ',' ∉ piece → tokens (noise ++ piece) = tokens piece := by
    intro piece hpiece
    have hcomma : ',' ∉ noise ++ piece := by
      rw [List.mem_append, not_or]
      exact ⟨h.comma_notMem, hpiece⟩
    rw [tokens_of_notMem hcomma, Text.stripWhile_append_left h, tokens_of_notMem hpiece]
  cases list using Text.pieces_induction ',' with
  | piece list hlist => exact hsingle list hlist
  | next first rest hfirst _ =>
    rw [← List.append_assoc, tokens_append, hsingle first hfirst, tokens_append]

/-- Only the last parameter of a list can have noise behind the list at its end. -/
theorem tokens_append_noise {noise : List Char} (h : Noise noise) (list : List Char) :
    tokens (list ++ noise) = tokens list := by
  induction list using Text.pieces_induction ',' with
  | piece list hlist =>
    have hcomma : ',' ∉ list ++ noise := by
      rw [List.mem_append, not_or]
      exact ⟨hlist, h.comma_notMem⟩
    rw [tokens_of_notMem hcomma, Text.stripWhile_append_right h, tokens_of_notMem hlist]
  | next first rest _ ih =>
    rw [List.append_assoc, List.cons_append, tokens_append, ih, tokens_append]

theorem tokens_of_noise {noise : List Char} (h : Noise noise) : tokens noise = [] := by
  have hempty := tokens_append_noise h []
  rwa [List.nil_append] at hempty

theorem tokens_filler_append {filler : List Char} (h : Filler filler) (list : List Char) :
    tokens (filler ++ list) = tokens list := by
  induction filler using Text.pieces_induction ',' with
  | piece noise hcomma => exact tokens_noise_append (h.noise hcomma) list
  | next noise rest hcomma ih =>
    obtain ⟨hnoise, hrest⟩ := h.parts
    rw [List.append_assoc, List.cons_append, tokens_append,
      tokens_of_noise (hnoise.noise hcomma), List.nil_append, ih hrest]

theorem tokens_append_filler {filler : List Char} (h : Filler filler) (list : List Char) :
    tokens (list ++ filler) = tokens list := by
  cases filler using Text.pieces_induction ',' with
  | piece noise hcomma => exact tokens_append_noise (h.noise hcomma) list
  | next noise rest hcomma _ =>
    obtain ⟨hnoise, hrest⟩ := h.parts
    have hnothing : tokens rest = [] := by
      rw [← List.append_nil rest, tokens_filler_append hrest]
      rfl
    rw [← List.append_assoc, tokens_append, tokens_append_noise (hnoise.noise hcomma), hnothing,
      List.append_nil]

theorem Filled.tokens_eq {list filled : List Char} (h : Filled list filled) :
    tokens filled = tokens list := by
  induction h with
  | refl => rfl
  | ends _ hbefore hafter ih => rw [tokens_append_filler hafter, tokens_filler_append hbefore, ih]
  | comma _ hbefore hafter ih =>
    rw [tokens_append, tokens_append_filler hbefore, tokens_filler_append hafter, ← tokens_append,
      ih]

/-! ## Parameters -/

theorem parse_of_tokens (options : TypingOptions) {a b : List Char} (h : tokens a = tokens b) :
    parse options a = parse options b := by
  rw [parse, parse, h]

/-- **A parameter list is its parts.** Two lists with a comma between them have the parameters of
    the first and then those of the second. Blanks and semicolons at either end of a list make no
    difference, nor do they and commas at its ends and beside the commas in it, in however many
    places: no parameter is added, lost, moved or typed otherwise. -/
theorem parse_parts (options : TypingOptions) :
    (∀ a b, parse options (a ++ ',' :: b) = parse options a ++ parse options b) ∧
      (∀ before list after, Noise before → Noise after →
        parse options (before ++ list ++ after) = parse options list) ∧
      ∀ list filled, Filled list filled → parse options filled = parse options list := by
  refine ⟨fun a b => ?_, fun before list after hbefore hafter => ?_, fun list filled h => ?_⟩
  · rw [parse, tokens_append, List.map_append, parse, parse]
  · refine parse_of_tokens options ?_
    rw [tokens_append_noise hafter, tokens_noise_append hbefore]
  · exact parse_of_tokens options h.tokens_eq

/-- A list of two parameters. -/
def twoParameters : List Char := "nA".toList ++ ',' :: "oB as Customer".toList

/-- The list over two lines, with commas to spare. -/
def sparseParameters : List Char :=
  " , ".toList ++ ("nA".toList ++ " ;\n ".toList ++ ',' :: (" ;,".toList ++
    "oB as Customer".toList)) ++ ";".toList

theorem parse_parts_sparse :
    Noise " ".toList ∧ Noise " ;\n".toList ∧ Filled twoParameters sparseParameters ∧
      parse {} twoParameters =
        [⟨"nA", some .numeric⟩, ⟨"oB", some (.named "Customer")⟩] ∧
      parse {} twoParameters = parse {} "nA".toList ++ parse {} "oB as Customer".toList ∧
      parse {} (" ".toList ++ twoParameters ++ " ;\n".toList) = parse {} twoParameters ∧
      parse {} sparseParameters = parse {} twoParameters := by
  have hbefore : Noise " ".toList := by decide
  have hafter : Noise " ;\n".toList := by decide
  have hfilled : Filled twoParameters sparseParameters :=
    .ends (.comma (.refl twoParameters) (by decide) (by decide)) (by decide) (by decide)
  obtain ⟨happend, hnoise, hsame⟩ := parse_parts {}
  exact ⟨hbefore, hafter, hfilled, by decide, happend _ _, hnoise _ _ _ hbefore hafter,
    hsame _ _ hfilled⟩

end ProgramOutline.Parameters
