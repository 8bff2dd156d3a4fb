import ProgramOutline.Proofs.Json.Value
import ProgramOutline.Proofs.Text.Digits
import ProgramOutline.Proofs.Text.Marks

/-!
# The layout of written JSON

The two ways of writing JSON differ only in the blanks between the tokens: `layItems` and
`layEntries` have these as parameters. All line feeds of a document are such blanks, since a text
writes its own line feeds as escapes.

Results:
* `compactItems_eq`, `prettyItems_eq`, `compactEntries_eq`, `prettyEntries_eq`: both ways of
  writing as layouts.
* `pretty_list`, `pretty_table`: lists and tables that are not empty.
* `unbroken_pretty`: after a line feed of a written value there is more, and no dash.
-/

namespace ProgramOutline.Json

open Text (Unbroken Opens)

/-! ## Layouts -/

/-- Items and the closing bracket, with blanks before each item and before the bracket. -/
def layItems (before after : List Char) (write : Data → List Char) : List Data → List Char
  | [] => after ++ [']']
  | [item] => before ++ write item ++ after ++ [']']
  | item :: rest => before ++ write item ++ ',' :: layItems before after write rest

/-- Entries and the closing brace, with blanks before each key, after each colon and before the
    brace. -/
def layEntries (before colon after : List Char) (write : Data → List Char) :
    List (String × Data) → List Char
  | [] => after ++ ['\x7d']
  | [(key, value)] => before ++ quote key ++ ':' :: (colon ++ write value ++ after ++ ['\x7d'])
  | (key, value) :: rest =>
    before ++ quote key ++ ':' :: (colon ++ write value ++ ',' ::
      layEntries before colon after write rest)

section Equations

variable (before colon after : List Char) (write : Data → List Char)

theorem layItems_singleton (item : Data) :
    layItems before after write [item] = before ++ write item ++ after ++ [']'] := rfl

theorem layItems_cons (item next : Data) (items : List Data) :
    layItems before after write (item :: next :: items) =
      before ++ write item ++ ',' :: layItems before after write (next :: items) := rfl

theorem layEntries_singleton (entry : String × Data) :
    layEntries before colon after write [entry] =
      before ++ quote entry.1 ++ ':' :: (colon ++ write entry.2 ++ after ++ ['\x7d']) := rfl

theorem layEntries_cons (entry next : String × Data) (entries : List (String × Data)) :
    layEntries before colon after write (entry :: next :: entries) =
      before ++ quote entry.1 ++ ':' :: (colon ++ write entry.2 ++ ',' ::
        layEntries before colon after write (next :: entries)) := rfl

end Equations

theorem compactItems_eq (items : List Data) : compactItems items = layItems [] [] compact items := by
  induction items with
  | nil => rfl
  | cons item items ih =>
    cases items with
    | nil => simp [compactItems, layItems_singleton]
    | cons next items => simp [compactItems, layItems_cons, ih]

theorem prettyItems_eq (level : Nat) (items : List Data) :
    prettyItems level items =
      layItems (newLine (level + 1)) (newLine level) (pretty (level + 1)) items := by
  induction items with
  | nil => rfl
  | cons item items ih =>
    cases items with
    | nil => rfl
    | cons next items =>
      rw [layItems_cons, ← ih]
      rfl

theorem compactEntries_eq (entries : List (String × Data)) :
    compactEntries entries = layEntries [] [] [] compact entries := by
  induction entries with
  | nil => rfl
  | cons entry entries ih =>
    cases entries with
    | nil => simp [compactEntries, layEntries_singleton]
    | cons next entries => simp [compactEntries, layEntries_cons, ih]

theorem prettyEntries_eq (level : Nat) (entries : List (String × Data)) :
    prettyEntries level entries =
      layEntries (newLine (level + 1)) [' '] (newLine level) (pretty (level + 1)) entries := by
  induction entries with
  | nil => rfl
  | cons entry entries ih =>
    cases entries with
    | nil => simp [prettyEntries, layEntries_singleton]
    | cons next entries => simp [prettyEntries, layEntries_cons, ih]

theorem pretty_list (level : Nat) (item : Data) (items : List Data) :
    pretty level (.list (item :: items)) =
      '[' :: layItems (newLine (level + 1)) (newLine level) (pretty (level + 1)) (item :: items) :=
  congrArg ('[' :: ·) (prettyItems_eq level (item :: items))

theorem pretty_table (level : Nat) (entry : String × Data) (entries : List (String × Data)) :
    pretty level (.table (entry :: entries)) =
      '\x7b' :: layEntries (newLine (level + 1)) [' '] (newLine level) (pretty (level + 1))
        (entry :: entries) :=
  congrArg ('\x7b' :: ·) (prettyEntries_eq level (entry :: entries))

/-! ## Line feeds -/

/-- A deeper line starts with blanks, so that anything may follow. -/
theorem unbroken_newLine_succ (level : Nat) : Unbroken (newLine (level + 1)) :=
  Unbroken.feed (.of_not_mem (by simp)) ⟨' ', List.replicate (2 * level + 1) ' ', rfl, by decide⟩

theorem unbroken_newLine (level : Nat) {text : List Char} (htext : Unbroken text)
    (hopens : Opens text) : Unbroken (newLine level ++ text) := by
  cases level with
  | zero => exact htext.feed hopens
  | succ level => exact (unbroken_newLine_succ level).append htext

/-! ## Tokens -/

theorem not_mem_escapeChar (c : Char) : '\n' ∉ escapeChar c := by
  unfold escapeChar
  split
  case h_8 =>
    rename_i hfeed _ _
    split
    · intro h
      rcases List.mem_append.mp h with h | h
      · exact absurd h (by decide)
      · exact absurd (Text.isSome_hexDigit?_of_mem (.inl rfl) h) (by decide)
    · simpa [eq_comm] using hfeed
  all_goals decide

theorem not_mem_quote (text : String) : '\n' ∉ quote text := by
  have hescaped : '\n' ∉ text.toList.flatMap escapeChar := by
    rw [List.mem_flatMap]
    rintro ⟨c, -, h⟩
    exact not_mem_escapeChar c h
  simp [quote, hescaped]

theorem not_mem_decimal (n : Nat) : '\n' ∉ Text.decimal n :=
  fun h => absurd (Text.isDigit_of_mem_decimal h) (by decide)

theorem not_mem_integer (n : Int) : '\n' ∉ integer n := by
  cases n with
  | ofNat n => exact not_mem_decimal n
  | negSucc n =>
    rw [integer, List.mem_cons, not_or]
    exact ⟨by decide, not_mem_decimal (n + 1)⟩

/-! ## Values -/

theorem unbroken_layItems {level : Nat} {write : Data → List Char} {items : List Data}
    (h : ∀ item ∈ items, Unbroken (write item)) :
    Unbroken (layItems (newLine (level + 1)) (newLine level) write items) := by
  have hclose : Unbroken (newLine level ++ [']']) :=
    unbroken_newLine level (.of_not_mem (by decide)) ⟨']', [], rfl, by decide⟩
  induction items with
  | nil => exact hclose
  | cons item items ih =>
    obtain ⟨hitem, hitems⟩ := List.forall_mem_cons.mp h
    have hstart : Unbroken (newLine (level + 1) ++ write item) :=
      (unbroken_newLine_succ level).append hitem
    cases items with
    | nil =>
      rw [layItems_singleton, List.append_assoc]
      exact hstart.append hclose
    | cons next items => exact hstart.append (.cons (by decide) (ih hitems))

theorem unbroken_layEntries {level : Nat} {write : Data → List Char}
    {entries : List (String × Data)} (h : ∀ entry ∈ entries, Unbroken (write entry.2)) :
    Unbroken (layEntries (newLine (level + 1)) [' '] (newLine level) write entries) := by
  have hclose : Unbroken (newLine level ++ ['\x7d']) :=
    unbroken_newLine level (.of_not_mem (by decide)) ⟨'\x7d', [], rfl, by decide⟩
  have hblank : Unbroken [' '] := .of_not_mem (by decide)
  induction entries with
  | nil => exact hclose
  | cons entry entries ih =>
    obtain ⟨hentry, hentries⟩ := List.forall_mem_cons.mp h
    have hkey : Unbroken (newLine (level + 1) ++ quote entry.1) :=
      (unbroken_newLine_succ level).append (.of_not_mem (not_mem_quote entry.1))
    have hvalue : Unbroken ([' '] ++ write entry.2) := hblank.append hentry
    cases entries with
    | nil =>
      rw [layEntries_singleton, List.append_assoc ([' '] ++ write entry.2)]
      exact hkey.append (.cons (by decide) (hvalue.append hclose))
    | cons next entries =>
      exact hkey.append (.cons (by decide) (hvalue.append (.cons (by decide) (ih hentries))))

theorem unbroken_pretty {d : Data} (h : IsJson d) (level : Nat) : Unbroken (pretty level d) := by
  induction h generalizing level with
  | null => exact .of_not_mem (show '\n' ∉ "null".toList by decide)
  | bool value =>
    cases value with
    | false => exact .of_not_mem (show '\n' ∉ "false".toList by decide)
    | true => exact .of_not_mem (show '\n' ∉ "true".toList by decide)
  | int value => exact .of_not_mem (not_mem_integer value)
  | str value => exact .of_not_mem (not_mem_quote value)
  | list items _ ih =>
    cases items with
    | nil => exact .of_not_mem (show '\n' ∉ "[]".toList by decide)
    | cons item items =>
      rw [pretty_list]
      exact .cons (by decide) (unbroken_layItems (fun other hother => ih other hother (level + 1)))
  | table entries _ _ ih =>
    cases entries with
    | nil => exact .of_not_mem (show '\n' ∉ ['\x7b', '\x7d'] by decide)
    | cons entry entries =>
      rw [pretty_table]
      exact .cons (by decide)
        (unbroken_layEntries (fun other hother => ih other hother (level + 1)))

/-- A list starts with its bracket. -/
theorem opens_pretty (level : Nat) (items : List Data) : Opens (pretty level (.list items)) := by
  cases items with
  | nil => exact ⟨'[', [']'], rfl, by decide⟩
  | cons item items => exact ⟨'[', _, rfl, by decide⟩

end ProgramOutline.Json
