import Mathlib.Data.List.DropRight
import ProgramOutline.Json.Reader
import ProgramOutline.Proofs.Json.Layout

/-!
# Written JSON is read back

`Spells d text` says that a value is read from a text whatever follows, with a turn for each
character. A value spelled by its tokens is spelled with blanks between the tokens too, so both
ways of writing are read by the same argument.

Results:
* `readText_quote`, `number?_integer`: texts and numbers.
* `SpellsItems.lay`, `SpellsEntries.lay`: lists and tables in any layout.
* `parse?_compact`, `parse?_pretty`: a value that JSON can hold is read back.
-/

namespace ProgramOutline.Json

/-! ## Blanks -/

/-- Only blanks. -/
def Blank (gap : List Char) : Prop := ∀ c ∈ gap, isBlank c = true

theorem blank_nil : Blank [] := List.forall_mem_nil _

theorem blank_newLine (level : Nat) : Blank (newLine level) := by
  refine List.forall_mem_cons.mpr ⟨rfl, fun c hc => ?_⟩
  rw [List.eq_of_mem_replicate hc]
  rfl

theorem skipBlanks_append {gap : List Char} (h : Blank gap) (text : List Char) :
    skipBlanks (gap ++ text) = skipBlanks text := List.dropWhile_append_of_pos h

theorem skipBlanks_cons {c : Char} (h : isBlank c = false) (text : List Char) :
    skipBlanks (c :: text) = c :: text :=
  List.dropWhile_cons_of_neg (Bool.not_eq_true _ ▸ h)

theorem skipBlanks_skipBlanks (text : List Char) :
    skipBlanks (skipBlanks text) = skipBlanks text := List.dropWhile_idempotent isBlank text

theorem readValue_skipBlanks (fuel : Nat) (text : List Char) :
    readValue fuel (skipBlanks text) = readValue fuel text := by
  cases fuel with
  | zero => rfl
  | succ fuel => rw [readValue, readValue, skipBlanks_skipBlanks]

theorem readItems_skipBlanks (fuel : Nat) (read : List Data) (text : List Char) :
    readItems fuel read (skipBlanks text) = readItems fuel read text := by
  cases fuel with
  | zero => rfl
  | succ fuel => rw [readItems, readItems, readValue_skipBlanks]

theorem readEntries_skipBlanks (fuel : Nat) (read : List (String × Data)) (text : List Char) :
    readEntries fuel read (skipBlanks text) = readEntries fuel read text := by
  cases fuel with
  | zero => rfl
  | succ fuel => rw [readEntries, readEntries, skipBlanks_skipBlanks]

/-! ## Texts -/

theorem fourHex?_append {digits : List Char} (h : digits.length = 4) (rest : List Char) :
    fourHex? (digits ++ rest) = (Text.hexNumber? digits).map (fun n => (n, rest)) := by
  match digits, h with
  | [_, _, _, _], _ => rfl

/-- The escape of a control character. -/
theorem unicodeEscape?_control {c : Char} (h : c.toNat < 32) (rest : List Char) :
    unicodeEscape? (Text.hexDigits 'a' 4 c.toNat ++ rest) = some (c, rest) := by
  have hread : Text.hexNumber? (Text.hexDigits 'a' 4 c.toNat) = some c.toNat :=
    Text.hexNumber?_hexDigits (.inl rfl) (by decide) (by omega)
  have hhigh : ¬ (0xD800 ≤ c.toNat ∧ c.toNat < 0xDC00) := by omega
  have hlow : ¬ (0xDC00 ≤ c.toNat ∧ c.toNat < 0xE000) := by omega
  rw [unicodeEscape?, fourHex?_append (Text.length_hexDigits 'a' 4 c.toNat), hread, Option.map_some,
    Option.bind_eq_bind, Option.bind_some]
  simp only [if_neg hhigh, if_neg hlow, Char.ofNat_toNat]
  rfl

theorem readText_escapeChar (fuel : Nat) (read : List Char) (c : Char) (rest : List Char) :
    readText (fuel + 1) read (escapeChar c ++ rest) = readText fuel (c :: read) rest := by
  unfold escapeChar
  split
  case h_8 =>
    rename_i hquote hback _ _ _ _ _
    split
    · rename_i hcontrol
      simp only [List.cons_append, List.nil_append, readText, unicodeEscape?_control hcontrol]
    · rename_i hcontrol
      rw [List.singleton_append, readText]
      · rw [if_neg hcontrol]
      · exact hquote
      · exact fun _ hc _ => hback hc
      · exact fun _ _ hc _ => hback hc
  all_goals rfl

theorem length_le_escaped (text : List Char) : text.length ≤ (text.flatMap escapeChar).length := by
  have hone : ∀ c, 1 ≤ (escapeChar c).length := by
    intro c
    unfold escapeChar
    split
    case h_8 => split <;> simp
    all_goals simp
  induction text with
  | nil => exact Nat.le_refl 0
  | cons c text ih =>
    have := hone c
    rw [List.flatMap_cons, List.length_append, List.length_cons]
    omega

theorem readText_escaped (text : List Char) {fuel : Nat} (hfuel : text.length < fuel)
    (read rest : List Char) :
    readText fuel read (text.flatMap escapeChar ++ '"' :: rest) =
      some (String.ofList (read.reverse ++ text), rest) := by
  induction text generalizing fuel read with
  | nil =>
    obtain ⟨fuel, rfl⟩ := Nat.exists_eq_add_of_lt hfuel
    rw [List.append_nil]
    rfl
  | cons c text ih =>
    cases fuel with
    | zero => exact absurd hfuel (Nat.not_lt_zero _)
    | succ fuel =>
      rw [List.flatMap_cons, List.append_assoc, readText_escapeChar,
        ih (Nat.lt_of_succ_lt_succ hfuel), List.reverse_cons, List.append_assoc]
      rfl

/-- A quoted text after its opening quote. -/
theorem readText_quote (text : String) (rest : List Char) :
    readText ((text.toList.flatMap escapeChar ++ '"' :: rest).length + 1) []
        (text.toList.flatMap escapeChar ++ '"' :: rest) = some (text, rest) := by
  have hlength := length_le_escaped text.toList
  rw [readText_escaped text.toList (by rw [List.length_append]; omega)]
  simp

/-! ## Numbers -/

theorem isWhole_decimal (n : Nat) : isWhole (Text.decimal n) = true := by
  have hdigits : (Text.decimal n).all (fun c => '0' ≤ c && c ≤ '9') = true :=
    List.all_eq_true.mpr (fun c hc => Text.isDigit_of_mem_decimal hc)
  have hzero : ((Text.decimal n).length == 1 || (Text.decimal n).head? != some '0') = true := by
    rcases Nat.eq_zero_or_pos n with rfl | hpos
    · rfl
    · rw [Bool.or_eq_true, bne_iff_ne]
      exact .inr (Text.head?_decimal hpos)
  rw [isWhole, hdigits, hzero, Bool.and_true, Bool.and_true, Bool.not_eq_true',
    List.isEmpty_eq_false_iff]
  exact Text.decimal_ne_nil n

/-- Digits are a number without a fraction. -/
theorem takeWhile_decimal (n : Nat) :
    (Text.decimal n).takeWhile (fun c => '0' ≤ c && c ≤ '9') = Text.decimal n ∧
      (Text.decimal n).dropWhile (fun c => '0' ≤ c && c ≤ '9') = [] :=
  ⟨List.takeWhile_eq_self_iff.mpr (fun _ hc => Text.isDigit_of_mem_decimal hc),
    List.dropWhile_eq_nil_iff.mpr (fun _ hc => Text.isDigit_of_mem_decimal hc)⟩

theorem integer_ne_nil (n : Int) : integer n ≠ [] := by
  cases n with
  | ofNat n => exact Text.decimal_ne_nil n
  | negSucc n => exact List.cons_ne_nil _ _

theorem isNumberChar_of_mem_integer {n : Int} {c : Char} (h : c ∈ integer n) :
    isNumberChar c = true := by
  have hdecimal : ∀ n, c ∈ Text.decimal n → isNumberChar c = true := by
    intro n hc
    have hdigit : ('0' ≤ c && c ≤ '9') = true := Text.isDigit_of_mem_decimal hc
    simp only [isNumberChar, hdigit, Bool.true_or]
  cases n with
  | ofNat n => exact hdecimal n h
  | negSucc n =>
    rcases List.mem_cons.mp h with rfl | h
    · rfl
    · exact hdecimal (n + 1) h

theorem number?_integer (n : Int) : number? (integer n) = some (.int n) := by
  cases n with
  | ofNat n =>
    have hsign : ∀ rest, Text.decimal n ≠ '-' :: rest := by
      intro rest h
      have hmem : '-' ∈ Text.decimal n := h ▸ List.mem_cons_self
      exact absurd (Text.isDigit_of_mem_decimal hmem) (by decide)
    obtain ⟨hwhole, hafter⟩ := takeWhile_decimal n
    rw [integer, number?]
    · simp only [hwhole, hafter, isWhole_decimal, Text.decimalNumber?_decimal]
      rfl
    · exact hsign
  | negSucc n =>
    obtain ⟨hwhole, hafter⟩ := takeWhile_decimal (n + 1)
    simp only [integer, number?, hwhole, hafter, isWhole_decimal, Text.decimalNumber?_decimal]
    rfl

/-! ## Leading characters -/

theorem readValue_quote (fuel : Nat) (rest : List Char) :
    readValue (fuel + 1) ('"' :: rest) =
      match readText (rest.length + 1) [] rest with
      | some (value, rest) => some (.str value, rest)
      | none => none := rfl

theorem readValue_list (fuel : Nat) (rest : List Char) :
    readValue (fuel + 1) ('[' :: rest) =
      match skipBlanks rest with
      | ']' :: rest => some (.list [], rest)
      | rest => readItems fuel [] rest := rfl

theorem readValue_table (fuel : Nat) (rest : List Char) :
    readValue (fuel + 1) ('\x7b' :: rest) =
      match skipBlanks rest with
      | '\x7d' :: rest => some (.table [], rest)
      | rest => readEntries fuel [] rest := rfl

theorem readValue_bracket {fuel : Nat} {rest : List Char}
    (h : ∀ after, skipBlanks rest ≠ ']' :: after) :
    readValue (fuel + 1) ('[' :: rest) = readItems fuel [] rest := by
  rw [← readItems_skipBlanks, readValue_list]
  -- `h` rules out the branch that closes at once
  split
  · rename_i after hclose
    exact absurd hclose (h after)
  · rfl

theorem readValue_brace {fuel : Nat} {rest : List Char}
    (h : ∀ after, skipBlanks rest ≠ '\x7d' :: after) :
    readValue (fuel + 1) ('\x7b' :: rest) = readEntries fuel [] rest := by
  rw [← readEntries_skipBlanks, readValue_table]
  -- `h` rules out the branch that closes at once
  split
  · rename_i after hclose
    exact absurd hclose (h after)
  · rfl

/-- A number is read up to where no number can go on. -/
theorem readValue_number {fuel : Nat} {c : Char} {rest : List Char} (h : isNumberChar c = true) :
    readValue (fuel + 1) (c :: rest) =
      (number? ((c :: rest).takeWhile isNumberChar)).map
        (fun value => (value, (c :: rest).dropWhile isNumberChar)) := by
  have hskip : skipBlanks (c :: rest) = c :: rest := by
    refine skipBlanks_cons ?_ rest
    by_contra hblank
    simp only [isBlank, Bool.not_eq_false, Bool.or_eq_true, beq_iff_eq] at hblank
    rcases hblank with ((rfl | rfl) | rfl) | rfl <;> cases h
  rw [readValue, hskip]
  split
  case h_8 => cases number? ((c :: rest).takeWhile isNumberChar) <;> rfl
  all_goals
    rename_i hcons
    cases hcons
    try cases h

/-! ## Values -/

/-- The text does not go on with a number. -/
def Ends (rest : List Char) : Prop := ∀ c ∈ rest.head?, isNumberChar c = false

/-- The value is read from the text, whatever follows. -/
def Spells (d : Data) (text : List Char) : Prop :=
  ∀ fuel rest, text.length ≤ fuel → Ends rest → readValue fuel (text ++ rest) = some (d, rest)

/-- The items are read from the text, which goes up to the closing bracket. -/
def SpellsItems (items : List Data) (text : List Char) : Prop :=
  ∀ fuel read rest, text.length ≤ fuel →
    readItems fuel read (text ++ rest) = some (.list (read.reverse ++ items), rest)

/-- The entries are read from the text, which goes up to the closing brace. -/
def SpellsEntries (entries : List (String × Data)) (text : List Char) : Prop :=
  ∀ fuel read rest, text.length ≤ fuel → ((read ++ entries).map Prod.fst).Nodup →
    readEntries fuel read (text ++ rest) = some (.table (read ++ entries), rest)

theorem ends_gap {gap : List Char} (hgap : Blank gap) {c : Char} (hc : isNumberChar c = false)
    (rest : List Char) : Ends (gap ++ c :: rest) := by
  have hblank : ∀ b, isBlank b = true → isNumberChar b = false := by
    intro b hb
    simp only [isBlank, Bool.or_eq_true, beq_iff_eq] at hb
    rcases hb with ((rfl | rfl) | rfl) | rfl <;> rfl
  intro b hb
  cases gap with
  | nil =>
    obtain rfl : c = b := by simpa using hb
    exact hc
  | cons b' gap =>
    obtain rfl : b' = b := by simpa using hb
    exact hblank b' (hgap b' List.mem_cons_self)

theorem Ends.takeWhile {rest : List Char} (h : Ends rest) : rest.takeWhile isNumberChar = [] := by
  cases rest with
  | nil => rfl
  | cons c rest => exact List.takeWhile_cons_of_neg (by rw [h c rfl]; exact Bool.false_ne_true)

theorem Ends.dropWhile {rest : List Char} (h : Ends rest) :
    rest.dropWhile isNumberChar = rest := by
  cases rest with
  | nil => rfl
  | cons c rest => exact List.dropWhile_cons_of_neg (by rw [h c rfl]; exact Bool.false_ne_true)

namespace Spells

/-- A turn is left for the first character. -/
theorem of_cons {d : Data} {c : Char} {text : List Char}
    (h : ∀ fuel rest, text.length ≤ fuel → Ends rest →
      readValue (fuel + 1) (c :: (text ++ rest)) = some (d, rest)) : Spells d (c :: text) := by
  intro fuel rest hfuel hrest
  cases fuel with
  | zero => exact absurd hfuel (Nat.not_succ_le_zero _)
  | succ fuel => exact h fuel rest (Nat.le_of_succ_le_succ hfuel) hrest

theorem gap {d : Data} {gap text : List Char} (hgap : Blank gap) (h : Spells d text) :
    Spells d (gap ++ text) := by
  intro fuel rest hfuel hrest
  rw [List.length_append] at hfuel
  rw [List.append_assoc, ← readValue_skipBlanks, skipBlanks_append hgap, readValue_skipBlanks,
    h fuel rest (by omega) hrest]

theorem null : Spells .null "null".toList := of_cons (fun _ _ _ _ => rfl)

theorem bool (value : Bool) : Spells (.bool value) (scalar (.bool value)) := by
  cases value with
  | false => exact of_cons (fun _ _ _ _ => rfl)
  | true => exact of_cons (fun _ _ _ _ => rfl)

theorem str (value : String) : Spells (.str value) (quote value) := by
  refine of_cons (fun fuel rest _ _ => ?_)
  rw [List.append_assoc, List.singleton_append, readValue_quote, readText_quote]

theorem int (value : Int) : Spells (.int value) (integer value) := by
  have hchars : ∀ c ∈ integer value, isNumberChar c = true :=
    fun _ hc => isNumberChar_of_mem_integer hc
  have hread := number?_integer value
  obtain ⟨c, digits, hcons⟩ := List.exists_cons_of_ne_nil (integer_ne_nil value)
  rw [hcons] at hchars hread ⊢
  refine of_cons (fun fuel rest _ hrest => ?_)
  rw [readValue_number (hchars c List.mem_cons_self), ← List.cons_append,
    List.takeWhile_append_of_pos hchars, hrest.takeWhile, List.append_nil,
    List.dropWhile_append_of_pos hchars, hrest.dropWhile, hread]
  rfl

end Spells

/-! ## Lists and tables -/

/-- No value starts with a bracket that closes a list. -/
theorem readItems_close {text rest : List Char} (h : skipBlanks text = ']' :: rest) (fuel : Nat)
    (read : List Data) : readItems fuel read text = none := by
  have hvalue : ∀ fuel, readValue fuel text = none := by
    intro fuel
    rw [← readValue_skipBlanks, h]
    cases fuel <;> rfl
  cases fuel with
  | zero => rfl
  | succ fuel => rw [readItems, hvalue]

/-- No key starts with a brace that closes a table. -/
theorem readEntries_close {text rest : List Char} (h : skipBlanks text = '\x7d' :: rest)
    (fuel : Nat) (read : List (String × Data)) : readEntries fuel read text = none := by
  rw [← readEntries_skipBlanks, h]
  cases fuel <;> rfl

theorem Spells.list {items : List Data} {text : List Char} (h : SpellsItems items text) :
    Spells (.list items) ('[' :: text) := by
  refine Spells.of_cons (fun fuel rest hfuel _ => ?_)
  have hitems := h fuel [] rest hfuel
  rw [readValue_bracket, hitems]
  · rfl
  · intro after hclose
    rw [readItems_close hclose] at hitems
    cases hitems

theorem Spells.table {entries : List (String × Data)} {text : List Char}
    (hkeys : (entries.map Prod.fst).Nodup) (h : SpellsEntries entries text) :
    Spells (.table entries) ('\x7b' :: text) := by
  refine Spells.of_cons (fun fuel rest hfuel _ => ?_)
  have hentries := h fuel [] rest hfuel hkeys
  rw [readValue_brace, hentries]
  · rfl
  · intro after hclose
    rw [readEntries_close hclose] at hentries
    cases hentries

theorem Spells.list_nil : Spells (.list []) ['[', ']'] := Spells.of_cons (fun _ _ _ _ => rfl)

theorem Spells.table_nil : Spells (.table []) ['\x7b', '\x7d'] :=
  Spells.of_cons (fun _ _ _ _ => rfl)

/-- A key that is new is added at the end. -/
theorem put_of_nodup {read entries : List (String × Data)} {key : String} {value : Data}
    (h : ((read ++ (key, value) :: entries).map Prod.fst).Nodup) :
    Data.put key value read = read ++ [(key, value)] := by
  induction read with
  | nil => rfl
  | cons entry read ih =>
    obtain ⟨hnew, hread⟩ := List.nodup_cons.mp h
    have hne : entry.1 ≠ key := by
      rintro rfl
      exact hnew (by simp)
    rw [List.cons_append, Data.put, if_neg hne, ih hread]

section Layout

variable {before colon after : List Char}

/-- A value and the blanks before and after it, up to the next token. -/
theorem Spells.read {d : Data} {text : List Char} (h : Spells d text) (hbefore : Blank before)
    (hafter : Blank after) {c : Char} (hc : isNumberChar c = false) {fuel : Nat}
    (hfuel : text.length ≤ fuel) (rest : List Char) :
    readValue fuel (before ++ (text ++ (after ++ c :: rest))) = some (d, after ++ c :: rest) := by
  rw [← readValue_skipBlanks, skipBlanks_append hbefore, readValue_skipBlanks]
  exact h fuel _ hfuel (ends_gap hafter hc rest)

theorem SpellsItems.last {item : Data} {text : List Char} (hbefore : Blank before)
    (hafter : Blank after) (h : Spells item text) :
    SpellsItems [item] (before ++ text ++ after ++ [']']) := by
  intro fuel read rest hfuel
  simp only [List.length_append, List.length_singleton] at hfuel
  obtain ⟨fuel, rfl⟩ := Nat.exists_eq_add_of_lt (show 0 < fuel by omega)
  simp only [List.append_assoc, List.singleton_append]
  rw [Nat.zero_add, readItems, h.read hbefore hafter rfl (by omega)]
  simp only [skipBlanks_append hafter, skipBlanks_cons (show isBlank ']' = false from rfl),
    List.reverse_cons]

theorem SpellsItems.cons {item : Data} {items : List Data} {text more : List Char}
    (hbefore : Blank before) (h : Spells item text) (hitems : SpellsItems items more) :
    SpellsItems (item :: items) (before ++ text ++ ',' :: more) := by
  intro fuel read rest hfuel
  simp only [List.length_append, List.length_cons] at hfuel
  obtain ⟨fuel, rfl⟩ := Nat.exists_eq_add_of_lt (show 0 < fuel by omega)
  have hvalue := h.read hbefore blank_nil (c := ',') rfl (show text.length ≤ fuel by omega)
    (more ++ rest)
  rw [List.nil_append] at hvalue
  simp only [List.append_assoc, List.cons_append]
  rw [Nat.zero_add, readItems, hvalue]
  simp only [skipBlanks_cons (show isBlank ',' = false from rfl)]
  rw [hitems fuel (item :: read) rest (by omega), List.reverse_cons, List.append_assoc]
  rfl

/-- The items of a list in any layout. -/
theorem SpellsItems.lay {write : Data → List Char} {items : List Data} (hbefore : Blank before)
    (hafter : Blank after) (h : ∀ item ∈ items, Spells item (write item)) (hne : items ≠ []) :
    SpellsItems items (layItems before after write items) := by
  induction items with
  | nil => exact absurd rfl hne
  | cons item items ih =>
    obtain ⟨hitem, hitems⟩ := List.forall_mem_cons.mp h
    cases items with
    | nil => exact .last hbefore hafter hitem
    | cons next items => exact .cons hbefore hitem (ih hitems (List.cons_ne_nil next items))

/-- An entry with another one after it. -/
theorem readEntries_comma (hbefore : Blank before) {fuel : Nat} {value : Data}
    {text rest : List Char} (h : readValue fuel text = some (value, ',' :: rest))
    (read : List (String × Data)) (key : String) :
    readEntries (fuel + 1) read (before ++ (quote key ++ ':' :: text)) =
      readEntries fuel (Data.put key value read) rest := by
  rw [quote, List.cons_append, List.append_assoc, List.singleton_append, readEntries,
    skipBlanks_append hbefore, skipBlanks_cons rfl]
  simp only [readText_quote, h, skipBlanks_cons (show isBlank ':' = false from rfl),
    skipBlanks_cons (show isBlank ',' = false from rfl)]

/-- The last entry. -/
theorem readEntries_brace (hbefore : Blank before) (hafter : Blank after) {fuel : Nat}
    {value : Data} {text rest : List Char}
    (h : readValue fuel text = some (value, after ++ '\x7d' :: rest))
    (read : List (String × Data)) (key : String) :
    readEntries (fuel + 1) read (before ++ (quote key ++ ':' :: text)) =
      some (.table (Data.put key value read), rest) := by
  rw [quote, List.cons_append, List.append_assoc, List.singleton_append, readEntries,
    skipBlanks_append hbefore, skipBlanks_cons rfl]
  simp only [readText_quote, h, skipBlanks_cons (show isBlank ':' = false from rfl),
    skipBlanks_append hafter, skipBlanks_cons (show isBlank '\x7d' = false from rfl)]

theorem SpellsEntries.last {key : String} {value : Data} {text : List Char}
    (hbefore : Blank before) (hcolon : Blank colon) (hafter : Blank after)
    (h : Spells value text) :
    SpellsEntries [(key, value)]
      (before ++ quote key ++ ':' :: (colon ++ text ++ after ++ ['\x7d'])) := by
  intro fuel read rest hfuel hkeys
  simp only [List.length_append, List.length_cons, List.length_nil] at hfuel
  obtain ⟨fuel, rfl⟩ := Nat.exists_eq_add_of_lt (show 0 < fuel by omega)
  have hvalue := h.read hcolon hafter (c := '\x7d') rfl (show text.length ≤ fuel by omega) rest
  simp only [List.append_assoc, List.cons_append, List.nil_append]
  rw [Nat.zero_add, readEntries_brace hbefore hafter hvalue, put_of_nodup hkeys]

theorem SpellsEntries.cons {key : String} {value : Data} {entries : List (String × Data)}
    {text more : List Char} (hbefore : Blank before) (hcolon : Blank colon)
    (h : Spells value text) (hentries : SpellsEntries entries more) :
    SpellsEntries ((key, value) :: entries)
      (before ++ quote key ++ ':' :: (colon ++ text ++ ',' :: more)) := by
  intro fuel read rest hfuel hkeys
  simp only [List.length_append, List.length_cons] at hfuel
  obtain ⟨fuel, rfl⟩ := Nat.exists_eq_add_of_lt (show 0 < fuel by omega)
  have hvalue := h.read hcolon blank_nil (c := ',') rfl (show text.length ≤ fuel by omega)
    (more ++ rest)
  rw [List.nil_append] at hvalue
  simp only [List.append_assoc, List.cons_append]
  rw [Nat.zero_add, readEntries_comma hbefore hvalue, put_of_nodup hkeys]
  rw [List.append_cons read (key, value) entries] at hkeys ⊢
  exact hentries fuel _ rest (by omega) hkeys

/-- The entries of a table in any layout. -/
theorem SpellsEntries.lay {write : Data → List Char} {entries : List (String × Data)}
    (hbefore : Blank before) (hcolon : Blank colon) (hafter : Blank after)
    (h : ∀ entry ∈ entries, Spells entry.2 (write entry.2)) (hne : entries ≠ []) :
    SpellsEntries entries (layEntries before colon after write entries) := by
  induction entries with
  | nil => exact absurd rfl hne
  | cons entry entries ih =>
    obtain ⟨hentry, hentries⟩ := List.forall_mem_cons.mp h
    cases entries with
    | nil => exact .last hbefore hcolon hafter hentry
    | cons next entries =>
      exact .cons hbefore hcolon hentry (ih hentries (List.cons_ne_nil next entries))

end Layout

/-! ## Documents -/

theorem spells_compact {d : Data} (h : IsJson d) : Spells d (compact d) := by
  induction h with
  | null => exact .null
  | bool value => exact .bool value
  | int value => exact .int value
  | str value => exact .str value
  | list items _ ih =>
    rw [compact, compactItems_eq]
    cases items with
    | nil => exact .list_nil
    | cons item items => exact .list (.lay blank_nil blank_nil ih (List.cons_ne_nil item items))
  | table entries hkeys _ ih =>
    rw [compact, compactEntries_eq]
    cases entries with
    | nil => exact .table_nil
    | cons entry entries =>
      exact .table hkeys (.lay blank_nil blank_nil blank_nil ih (List.cons_ne_nil entry entries))

theorem spells_pretty {d : Data} (h : IsJson d) (level : Nat) : Spells d (pretty level d) := by
  have hblank : Blank [' '] := List.forall_mem_singleton.mpr rfl
  induction h generalizing level with
  | null => exact .null
  | bool value => exact .bool value
  | int value => exact .int value
  | str value => exact .str value
  | list items _ ih =>
    cases items with
    | nil => exact .list_nil
    | cons item items =>
      rw [pretty_list]
      exact .list (.lay (blank_newLine _) (blank_newLine _)
        (fun other hother => ih other hother (level + 1)) (List.cons_ne_nil item items))
  | table entries hkeys _ ih =>
    cases entries with
    | nil => exact .table_nil
    | cons entry entries =>
      rw [pretty_table]
      exact .table hkeys (.lay (blank_newLine _) hblank (blank_newLine _)
        (fun other hother => ih other hother (level + 1)) (List.cons_ne_nil entry entries))

theorem Spells.parse? {d : Data} {text : List Char} (h : Spells d text) :
    parse? text = some d := by
  have hread := h (text.length + 1) [] (Nat.le_succ _) (fun _ hc => nomatch hc)
  rw [List.append_nil] at hread
  rw [Json.parse?, hread]
  rfl

theorem parse?_compact {d : Data} (h : IsJson d) : parse? (compact d) = some d :=
  (spells_compact h).parse?

theorem parse?_pretty {d : Data} (h : IsJson d) : parse? (pretty 0 d) = some d :=
  (spells_pretty h 0).parse?

end ProgramOutline.Json
