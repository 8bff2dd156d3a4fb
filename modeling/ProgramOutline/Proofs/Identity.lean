import ProgramOutline.Extract
import ProgramOutline.Proofs.HeaderOrder
import ProgramOutline.Proofs.Text.Digits
import ProgramOutline.Proofs.Text.Lines
import ProgramOutline.Proofs.Text.Utf8

/-!
# Order and identity of the functions of a text

The functions of a text stand in groups, one for each rule, and in each group in the order of the
text. The identity of a function is the digest of its rule, name and place; the text that is
digested determines the three, although a name may hold colons and digits itself.

Results:
* `identityText_inj`: the rule, the name and the place from the text that is digested.
* `run_eq_groups`: the functions of a text group by group.
* `group_inOrder`: the functions of a group stand at headers that follow one another.
* `run_ordered`: order and identity for all rules and options.
-/

namespace ProgramOutline

/-! ## The text that is digested -/

/-- What stands before the first separator and what after it. -/
theorem append_cons_inj {sep : Char} {a a' b b' : List Char} (ha : sep ∉ a) (ha' : sep ∉ a')
    (h : a ++ sep :: b = a' ++ sep :: b') : a = a' ∧ b = b' := by
  induction a generalizing a' with
  | nil =>
    cases a' with
    | nil => exact ⟨rfl, (List.cons.inj h).2⟩
    | cons c a' => exact absurd (by simp [(List.cons.inj h).1]) ha'
  | cons c a ih =>
    cases a' with
    | nil => exact absurd (by simp [(List.cons.inj h).1]) ha
    | cons c' a' =>
      obtain ⟨rfl, htail⟩ := List.cons.inj h
      have ha := mt (List.mem_cons_of_mem c) ha
      obtain ⟨rfl, rfl⟩ := ih ha (mt (List.mem_cons_of_mem c) ha') htail
      exact ⟨rfl, rfl⟩

/-- What stands before the last separator and what after it. -/
theorem append_cons_inj_last {sep : Char} {a a' b b' : List Char} (hb : sep ∉ b) (hb' : sep ∉ b')
    (h : a ++ sep :: b = a' ++ sep :: b') : a = a' ∧ b = b' := by
  have hreverse : b.reverse ++ sep :: a.reverse = b'.reverse ++ sep :: a'.reverse := by
    simpa using congrArg List.reverse h
  obtain ⟨hb, ha⟩ := append_cons_inj (by simpa using hb) (by simpa using hb') hreverse
  exact ⟨List.reverse_inj.mp ha, List.reverse_inj.mp hb⟩

theorem FunctionRule.colon_not_mem_key (rule : FunctionRule) : ':' ∉ rule.key.toList := by
  cases rule <;> decide

theorem FunctionRule.key_inj {a b : FunctionRule} (h : a.key.toList = b.key.toList) : a = b := by
  revert h
  cases a <;> cases b <;> decide

theorem colon_not_mem_decimal (n : Nat) : ':' ∉ Text.decimal n := by
  intro h
  exact absurd (Text.isDigit_of_mem_decimal h) (by decide)

/-- The digested text as rule, name and place: keys hold no colon, and neither do digits. -/
theorem identityText_inj {rule rule' : FunctionRule} {name name' : String} {offset offset' : Nat}
    (h : identityText rule name offset = identityText rule' name' offset') :
    rule = rule' ∧ name = name' ∧ offset = offset' := by
  have htext : rule.key.toList ++ ':' :: (name.toList ++ ':' :: Text.decimal offset) =
      rule'.key.toList ++ ':' :: (name'.toList ++ ':' :: Text.decimal offset') := by
    simpa [identityText] using congrArg String.toList h
  obtain ⟨hkey, hrest⟩ :=
    append_cons_inj rule.colon_not_mem_key rule'.colon_not_mem_key htext
  obtain ⟨hname, hoffset⟩ :=
    append_cons_inj_last (colon_not_mem_decimal _) (colon_not_mem_decimal _) hrest
  exact ⟨FunctionRule.key_inj hkey, String.toList_inj.mp hname, Text.decimal_inj hoffset⟩

/-- Two byte strings that have one digest. -/
def Digest.Collision (a b : List UInt8) : Prop := a ≠ b ∧ md5 a = md5 b

/-- Different texts have one digest only if their bytes collide. -/
theorem Digest.collision_of_md5Hex {a b : String} (hne : a ≠ b) (h : md5Hex a = md5Hex b) :
    Collision a.toUTF8.toList b.toUTF8.toList := by
  refine ⟨mt Text.toUTF8_toList_inj hne, ?_⟩
  exact Text.flatMap_hexDigits_inj (.inl rfl) (String.ofList_injective h)

/-! ## Groups -/

namespace Extractor

/-- The headers that a rule finds; none if there is no such rule. -/
def headersOf (rules : Rules) (text : List Char) (rule : FunctionRule) : List Header :=
  match rules.get (.function rule) with
  | none => []
  | some pattern => scanHeaders pattern text

theorem headers_eq_flatMap (rules : Rules) (text : List Char) :
    headers rules text =
      FunctionRule.all.flatMap (fun rule =>
        (headersOf rules text rule).map (fun header => (rule, header))) := by
  unfold headers Rules.functionRules
  induction FunctionRule.all with
  | nil => rfl
  | cons rule rest ih =>
    rw [List.filterMap_cons, List.flatMap_cons, ← ih, headersOf]
    cases rules.get (.function rule) with
    | none => rfl
    | some pattern => rfl

/-- The function of a header. -/
def symbolAt (extractor : Extractor) (text : List Char) (rule : FunctionRule) (header : Header) :
    FunctionSymbol where
  id := identity rule header.name header.offset
  kind := .function
  name := header.name
  qualifier := header.qualifier
  rule := rule
  parameters := Parameters.parse extractor.options header.parameters.toList
  vars := variablesOf extractor.rules text (declarations (headers extractor.rules text)) header
  line := (LineIndex.ofText text).lineOf header.offset
  offset := header.offset

/-- The functions that a rule finds. -/
def group (extractor : Extractor) (text : List Char) (rule : FunctionRule) : List FunctionSymbol :=
  (extractor.run text).filter (fun symbol => symbol.rule = rule)

theorem run_eq_flatMap (extractor : Extractor) (text : List Char) :
    extractor.run text =
      FunctionRule.all.flatMap (fun rule =>
        (headersOf extractor.rules text rule).map (extractor.symbolAt text rule)) := by
  have hrun : extractor.run text = (headers extractor.rules text).map
      (fun found => extractor.symbolAt text found.1 found.2) := rfl
  rw [hrun, headers_eq_flatMap, List.map_flatMap]
  simp only [List.map_map, Function.comp_def]

theorem group_eq_map (extractor : Extractor) (text : List Char) (rule : FunctionRule) :
    extractor.group text rule =
      (headersOf extractor.rules text rule).map (extractor.symbolAt text rule) := by
  have hfilter : ∀ other, ((headersOf extractor.rules text other).map
      (extractor.symbolAt text other)).filter (fun symbol => symbol.rule = rule) =
        if other = rule then
          (headersOf extractor.rules text other).map (extractor.symbolAt text other)
        else [] := by
    intro other
    split
    · rename_i h
      simp [List.filter_eq_self, symbolAt, h]
    · rename_i h
      simp [List.filter_eq_nil_iff, symbolAt, h]
  rw [group, run_eq_flatMap, List.filter_flatMap]
  simp only [hfilter]
  cases rule <;> simp [FunctionRule.all]

/-- The functions of a text, group by group in the order of the rules. -/
theorem run_eq_groups (extractor : Extractor) (text : List Char) :
    extractor.run text =
      extractor.group text .generic ++ extractor.group text .static ++
        extractor.group text .user := by
  rw [group_eq_map, group_eq_map, group_eq_map, run_eq_flatMap]
  simp [FunctionRule.all]

end Extractor

/-! ## Order -/

/-- The functions stand at the headers one by one; the headers are not empty and do not overlap, and
    both places and lines go up. -/
structure InOrder (headers : List Header) (symbols : List FunctionSymbol) : Prop where
  places : List.Forall₂ (fun header symbol =>
    symbol.offset = header.offset ∧ symbol.name = header.name) headers symbols
  nonempty : ∀ header ∈ headers, header.offset < header.stop
  apart : headers.Pairwise (fun a b => a.stop ≤ b.offset)
  offsets : symbols.Pairwise (fun a b => a.offset < b.offset)
  lines : symbols.Pairwise (fun a b => a.line ≤ b.line)

theorem Text.breaksBefore_lt_lineCount (n : Nat) (text : List Char) :
    breaksBefore n text < (LineIndex.ofText text).lineCount := by
  have hle := List.countP_le_length (p := (· ≤ 0 + n)) (l := lineStarts 0 text)
  rw [breaksBefore_eq_countP 0]
  simp only [LineIndex.lineCount, LineIndex.ofText, List.size_toArray, List.length_cons]
  omega

/-- Line numbers that fit a word go up with the offset. -/
theorem LineIndex.lineOf_mono {text : List Char} (hlines : (ofText text).lineCount < 2 ^ 32)
    {a b : Nat} (h : a ≤ b) : (ofText text).lineOf a ≤ (ofText text).lineOf b := by
  have hmono := Text.breaksBefore_mono h text
  have hlast := Text.breaksBefore_lt_lineCount b text
  rw [lineOf_ofText, lineOf_ofText, UInt32.le_iff_toNat_le, Text.lineOf, Text.lineOf,
    UInt32.toNat_ofNat_of_lt' (show _ < 2 ^ 32 by omega),
    UInt32.toNat_ofNat_of_lt' (show _ < 2 ^ 32 by omega)]
  omega

namespace Extractor

theorem headersOf_lt_stop {rules : Rules} {text : List Char} {rule : FunctionRule} {header : Header}
    (h : header ∈ headersOf rules text rule) : header.offset < header.stop := by
  unfold headersOf at h
  split at h
  · cases h
  · exact header_lt_stop h

theorem pairwise_headersOf (rules : Rules) (text : List Char) (rule : FunctionRule) :
    (headersOf rules text rule).Pairwise (fun a b => a.stop ≤ b.offset) := by
  unfold headersOf
  split
  · exact .nil
  · exact pairwise_scanHeaders _ text

/-- The functions of a group stand at the headers of its rule, in the order of the text. -/
theorem group_inOrder (extractor : Extractor) {text : List Char}
    (hlines : (LineIndex.ofText text).lineCount < 2 ^ 32) (rule : FunctionRule) :
    InOrder (headersOf extractor.rules text rule) (extractor.group text rule) := by
  have hbefore : (headersOf extractor.rules text rule).Pairwise
      (fun a b => a.offset < b.offset) := by
    refine (pairwise_headersOf extractor.rules text rule).imp_of_mem ?_
    intro a b ha _ hle
    exact Nat.lt_of_lt_of_le (headersOf_lt_stop ha) hle
  rw [group_eq_map]
  refine ⟨?_, fun _ => headersOf_lt_stop, pairwise_headersOf .., ?_, ?_⟩
  · rw [List.forall₂_map_right_iff, List.forall₂_same]
    exact fun _ _ => ⟨rfl, rfl⟩
  · exact List.pairwise_map.mpr hbefore
  · exact List.pairwise_map.mpr (hbefore.imp (fun hlt => LineIndex.lineOf_mono hlines hlt.le))

/-- No two functions have both the rule and the place in common. -/
theorem pairwise_run (extractor : Extractor) {text : List Char}
    (hlines : (LineIndex.ofText text).lineCount < 2 ^ 32) :
    (extractor.run text).Pairwise (fun a b => a.rule ≠ b.rule ∨ a.offset ≠ b.offset) := by
  have hgroup : ∀ rule, (extractor.group text rule).Pairwise
      (fun a b => a.rule ≠ b.rule ∨ a.offset ≠ b.offset) := fun rule =>
    (extractor.group_inOrder hlines rule).offsets.imp (fun hlt => .inr hlt.ne)
  have hrule : ∀ {rule symbol}, symbol ∈ extractor.group text rule → symbol.rule = rule :=
    fun h => by simpa using (List.mem_filter.mp h).2
  rw [run_eq_groups]
  refine List.pairwise_append.mpr ⟨List.pairwise_append.mpr ⟨hgroup _, hgroup _, ?_⟩, hgroup _, ?_⟩
  · intro a ha b hb
    simp [hrule ha, hrule hb]
  · intro a ha b hb
    rcases List.mem_append.mp ha with ha | ha
    · simp [hrule ha, hrule hb]
    · simp [hrule ha, hrule hb]

end Extractor

/-- The text whose digest is the identity of a function. -/
def FunctionSymbol.identityText (symbol : FunctionSymbol) : String :=
  ProgramOutline.identityText symbol.rule symbol.name symbol.offset

/-- **Order and identity.** For every text with fewer than `2 ^ 32` lines, all rules and all options
    the functions are those of the generic, the static and the user rule in this order; an absent
    rule contributes none. Within a group the headers are not empty and do not overlap, the places
    go up and the lines do not go down. The identity of a function is the digest of a text that
    determines its rule, name and place, and these texts are different for any two functions of a
    text, so that their identities agree only if the digest collides on them. -/
theorem run_ordered (extractor : Extractor) (text : List Char)
    (hlines : (LineIndex.ofText text).lineCount < 2 ^ 32) :
    extractor.run text =
        extractor.group text .generic ++ extractor.group text .static ++
          extractor.group text .user ∧
      (∀ rule, extractor.rules.get (.function rule) = none → extractor.group text rule = []) ∧
      (∀ rule, InOrder (Extractor.headersOf extractor.rules text rule)
        (extractor.group text rule)) ∧
      (∀ symbol ∈ extractor.run text, symbol.id = Digest.md5Hex symbol.identityText) ∧
      (extractor.run text).Pairwise (fun a b =>
        a.identityText ≠ b.identityText ∧
          (a.id = b.id →
            Digest.Collision a.identityText.toUTF8.toList b.identityText.toUTF8.toList)) ∧
      Function.Injective (fun (source : FunctionRule × String × Nat) =>
        identityText source.1 source.2.1 source.2.2) := by
  have hid : ∀ symbol ∈ extractor.run text, symbol.id = Digest.md5Hex symbol.identityText := by
    intro symbol hsymbol
    obtain ⟨found, -, rfl⟩ := List.mem_map.mp hsymbol
    rfl
  refine ⟨extractor.run_eq_groups text, ?_, extractor.group_inOrder hlines, hid, ?_, ?_⟩
  · intro rule habsent
    rw [Extractor.group_eq_map, Extractor.headersOf, habsent]
    rfl
  · refine (extractor.pairwise_run hlines).imp_of_mem ?_
    intro a b ha hb hapart
    have hne : a.identityText ≠ b.identityText := by
      intro h
      obtain ⟨hrule, -, hoffset⟩ := identityText_inj h
      rcases hapart with hapart | hapart
      · exact hapart hrule
      · exact hapart hoffset
    refine ⟨hne, fun hsame => Digest.collision_of_md5Hex hne ?_⟩
    rw [← hid a ha, ← hid b hb, hsame]
  · rintro ⟨rule, name, offset⟩ ⟨rule', name', offset'⟩ h
    obtain ⟨rfl, rfl, rfl⟩ := identityText_inj h
    rfl

/-- Two functions on two lines, which two rules find. -/
def foundTwice : List Char := "Function A()\nStatic Function B()".toList

theorem run_ordered_foundTwice :
    (LineIndex.ofText foundTwice).lineCount < 2 ^ 32 ∧
      (Extractor.run ⟨Rules.compile { static := some defaultFunctionRule }, {}⟩ foundTwice).Pairwise
        (fun a b => a.identityText ≠ b.identityText) := by
  have hlines : (LineIndex.ofText foundTwice).lineCount < 2 ^ 32 := by decide
  obtain ⟨-, -, -, -, hidentity, -⟩ :=
    run_ordered ⟨Rules.compile { static := some defaultFunctionRule }, {}⟩ foundTwice hlines
  exact ⟨hlines, hidentity.imp And.left⟩

end ProgramOutline
