import ProgramOutline.Config
import ProgramOutline.Proofs.Toml.Quoted

/-!
# Reading a document line by line

`Reads` says that the lines of a text take one document to another one. Lines follow one another, so
a document is read by reading its lines one at a time; the turns that the reader allows are never
too few, as each line takes at least one character.

Results:
* `Reads.blank`, `Reads.pair`, `Reads.header`: an empty line, a key with a value, a header.
* `Reads.section`: a header and the quoted texts below it.
* `parse?_of_reads`: a text that is read to its end is a document.
-/

namespace ProgramOutline.Toml

/-! ## Lines in sequence -/

/-- The text up to `rest` takes the document `doc` to `doc'`. -/
def Reads (doc : Document) (text : List Char) (doc' : Document) (rest : List Char) : Prop :=
  ∃ count, rest.length + count ≤ text.length ∧
    ∀ fuel, readLines (fuel + count) doc text = readLines fuel doc' rest

theorem Reads.trans {a b c : Document} {text mid rest : List Char} (h : Reads a text b mid)
    (h' : Reads b mid c rest) : Reads a text c rest := by
  obtain ⟨count, hle, hread⟩ := h
  obtain ⟨count', hle', hread'⟩ := h'
  refine ⟨count' + count, by omega, fun fuel => ?_⟩
  rw [← Nat.add_assoc, hread, hread']

theorem Reads.refl (doc : Document) (text : List Char) : Reads doc text doc text :=
  ⟨0, Nat.le_refl _, fun _ => rfl⟩

/-- An empty line. -/
theorem Reads.blank (doc : Document) (text : List Char) : Reads doc ('\n' :: text) doc text := by
  refine ⟨0, by simp, fun fuel => ?_⟩
  cases fuel with
  | zero => rfl
  | succ fuel => rfl

/-- Neither a blank nor the start of a comment or a line break. -/
def startsLine (c : Char) : Bool := !(c == ' ' || c == '\t' || c == '#' || c == '\n' || c == '\r')

theorem skipBlanks_of_startsLine {c : Char} (hc : startsLine c = true) (text : List Char) :
    skipBlanks (c :: text) = c :: text := by
  simp only [startsLine, Bool.not_eq_true', Bool.or_eq_false_iff] at hc
  exact List.dropWhile_cons_of_neg (by simp [hc])

theorem skipLines_of_startsLine {c : Char} (hc : startsLine c = true) (fuel : Nat)
    (text : List Char) : skipLines fuel (c :: text) = c :: text := by
  have hblanks := skipBlanks_of_startsLine hc text
  simp only [startsLine, Bool.not_eq_true', Bool.or_eq_false_iff, beq_eq_false_iff_ne] at hc
  have hcomment : skipComment (c :: text) = c :: text := by
    rw [skipComment, hblanks]
    split
    · simp_all
    · rfl
  cases fuel with
  | zero => rfl
  | succ fuel =>
    rw [skipLines, hcomment]
    split
    · simp_all
    · simp_all
    · rfl

/-- A line that is not empty, up to its end. -/
theorem Reads.line {doc doc' : Document} {c : Char} {line rest : List Char}
    (hc : startsLine c = true)
    (h : readLineOf doc (c :: (line ++ '\n' :: rest)) = some (doc', '\n' :: rest)) :
    Reads doc (c :: (line ++ '\n' :: rest)) doc' rest := by
  refine ⟨1, by simp only [List.length_cons, List.length_append]; omega, fun fuel => ?_⟩
  have hend : endLine? ('\n' :: rest) = some rest := rfl
  rw [readLines, skipLines_of_startsLine hc]
  dsimp only
  rw [h]
  dsimp only
  rw [hend]

theorem readLines_nil (fuel : Nat) (doc : Document) : readLines (fuel + 1) doc [] = some doc := rfl

/-- A text that is read to its end. -/
theorem parse?_of_reads {text : List Char} {doc : Document} (hmark : dropMark text = text)
    (h : Reads {} text doc []) : parse? text = some (.table (entriesData doc.root)) := by
  obtain ⟨count, hle, hread⟩ := h
  obtain ⟨fuel, hfuel⟩ : ∃ fuel, text.length + 1 = fuel + 1 + count :=
    ⟨text.length - count, by simp only [List.length_nil] at hle; omega⟩
  rw [parse?, hmark, hfuel, hread, readLines_nil, Option.map_some]

/-! ## Keys and values -/

/-- Can the key be written without quotes? -/
def IsBareKey (key : String) : Prop :=
  key.toList ≠ [] ∧ key.toList.all isBareKeyChar = true

instance (key : String) : Decidable (IsBareKey key) :=
  inferInstanceAs (Decidable (key.toList ≠ [] ∧ key.toList.all isBareKeyChar = true))

theorem IsBareKey.all {key : String} (h : IsBareKey key) :
    ∀ c ∈ key.toList, isBareKeyChar c = true :=
  List.all_eq_true.mp h.2

/-- A character of a key is none that has a meaning of its own. -/
theorem of_isBareKeyChar {c : Char} (h : isBareKeyChar c = true) :
    startsLine c = true ∧ c ≠ '"' ∧ c ≠ '\'' ∧ c ≠ '[' := by
  refine ⟨?_, ?_, ?_, ?_⟩
  · by_contra hc
    simp only [startsLine, Bool.not_eq_true', Bool.not_eq_false, Bool.or_eq_true,
      beq_iff_eq] at hc
    rcases hc with (((rfl | rfl) | rfl) | rfl) | rfl <;> exact absurd h (by decide)
  all_goals
    rintro rfl
    exact absurd h (by decide)

/-- A key as its first character and the others. -/
theorem IsBareKey.cons {key : String} (h : IsBareKey key) :
    ∃ c others, key.toList = c :: others ∧ isBareKeyChar c = true := by
  cases hkey : key.toList with
  | nil => exact absurd hkey h.1
  | cons c others => exact ⟨c, others, rfl, h.all c (by simp [hkey])⟩

theorem readKeyPart?_bare {key : String} (hkey : IsBareKey key) {c : Char} {tail : List Char}
    (hc : isBareKeyChar c = false) :
    readKeyPart? (key.toList ++ c :: tail) = some (key, c :: tail) := by
  have htake : (key.toList ++ c :: tail).takeWhile isBareKeyChar = key.toList := by
    rw [List.takeWhile_append_of_pos hkey.all, List.takeWhile_cons_of_neg (by simp [hc]),
      List.append_nil]
  have hdrop : (key.toList ++ c :: tail).dropWhile isBareKeyChar = c :: tail := by
    rw [List.dropWhile_append_of_pos hkey.all, List.dropWhile_cons_of_neg (by simp [hc])]
  obtain ⟨first, others, hcons, hfirst⟩ := hkey.cons
  obtain ⟨-, hquote, happostrophe, -⟩ := of_isBareKeyChar hfirst
  rw [hcons, List.cons_append] at htake hdrop ⊢
  rw [readKeyPart?]
  · rw [htake, hdrop, ← hcons, String.ofList_toList, if_neg (by simp [hcons])]
  · simp_all
  · simp_all

/-- A key of one part, up to what follows blanks after it. -/
theorem readKey?_bare {key : String} (hkey : IsBareKey key) {c : Char} {tail : List Char}
    (hc : isBareKeyChar c = false) (hdot : ∀ after, skipBlanks (c :: tail) ≠ '.' :: after) :
    readKey? (key.toList ++ c :: tail) = some ([], key, skipBlanks (c :: tail)) := by
  have hblanks : skipBlanks (key.toList ++ c :: tail) = key.toList ++ c :: tail := by
    obtain ⟨first, others, hcons, hfirst⟩ := hkey.cons
    rw [hcons, List.cons_append, skipBlanks_of_startsLine (of_isBareKeyChar hfirst).1]
  rw [readKey?, maxNesting, readKeyParts, hblanks, readKeyPart?_bare hkey hc]
  dsimp only
  split
  · rename_i after hafter
    exact absurd hafter (hdot after)
  · rfl

/-- A key with a value, which is added to the table opened last. -/
theorem readLineOf_pair {doc : Document} {key : String} {root : Entries} {value : Data}
    {text rest : List Char} (hkey : IsBareKey key) (hstart : skipBlanks text = text)
    (hvalue : ∀ fuel, readValue (fuel + 1) 0 text = some (value, rest))
    (hadd : addToOpen doc.opened [] key value doc.root = some root) :
    readLineOf doc (key.toList ++ ' ' :: '=' :: ' ' :: text) =
      some (⟨root, doc.opened⟩, rest) := by
  have hread : readKey? (key.toList ++ ' ' :: '=' :: ' ' :: text) =
      some ([], key, '=' :: ' ' :: text) :=
    readKey?_bare hkey (by decide) (fun after => by simp [skipBlanks])
  have hblanks : skipBlanks (' ' :: text) = text := hstart
  obtain ⟨first, others, hcons, hfirst⟩ := hkey.cons
  obtain ⟨-, -, -, hbracket⟩ := of_isBareKeyChar hfirst
  rw [hcons, List.cons_append] at hread ⊢
  rw [readLineOf]
  · simp only [hread, hblanks, hvalue, hadd, Option.map_some]
  · simp_all
  · simp_all

/-- The header of a table, which is opened. -/
theorem readLineOf_header {doc : Document} {key : String} {root : Entries} (hkey : IsBareKey key)
    (hopen : openTable [] key doc.root = some root) (rest : List Char) :
    readLineOf doc ('[' :: (key.toList ++ ']' :: rest)) = some (⟨root, [key]⟩, rest) := by
  have hread : readKey? (key.toList ++ ']' :: rest) = some ([], key, ']' :: rest) :=
    readKey?_bare hkey (by decide) (fun after => by simp [skipBlanks])
  have hheader : header? (key.toList ++ ']' :: rest) = some ([], key, rest) := by
    simp only [header?, hread]
  obtain ⟨first, others, hcons, hfirst⟩ := hkey.cons
  obtain ⟨-, -, -, hbracket⟩ := of_isBareKeyChar hfirst
  rw [hcons, List.cons_append] at hheader ⊢
  rw [readLineOf]
  · simp only [hheader, hopen, Option.map_some, List.nil_append]
  · simp_all

/-! ## Quoted values -/

theorem encode_eq_cons (text : List Char) :
    ∃ quote tail, encode text = quote :: tail ∧ (quote = '"' ∨ quote = '\'') := by
  unfold encode
  dsimp only
  split
  · exact ⟨_, _, rfl, .inl rfl⟩
  · exact ⟨_, _, rfl, .inr rfl⟩
  · exact ⟨_, _, rfl, .inl rfl⟩
  · exact ⟨_, _, rfl, .inr rfl⟩

theorem readValue_encode (fuel depth : Nat) (text rest : List Char) :
    readValue (fuel + 1) depth (encode text ++ '\n' :: rest) =
      some (.str (String.ofList text), '\n' :: rest) := by
  have hread := readQuoted?_encode text rest
  obtain ⟨quote, tail, hcons, rfl | rfl⟩ := encode_eq_cons text
  all_goals
    rw [hcons, List.cons_append] at hread ⊢
    simp only [readValue, hread, Option.map_some]

theorem skipBlanks_encode (text rest : List Char) :
    skipBlanks (encode text ++ rest) = encode text ++ rest := by
  obtain ⟨quote, tail, hcons, rfl | rfl⟩ := encode_eq_cons text
  all_goals
    rw [hcons, List.cons_append]
    exact skipBlanks_of_startsLine (by decide) _

/-! ## Entries -/

theorem Entries.get?_cons (key : String) (entry : String × Item) (rest : Entries) :
    Entries.get? key (entry :: rest) =
      if entry.1 = key then some entry.2 else Entries.get? key rest := rfl

theorem Entries.get?_append_of_none {key : String} {entries : Entries}
    (h : Entries.get? key entries = none) (others : Entries) :
    Entries.get? key (entries ++ others) = Entries.get? key others := by
  induction entries with
  | nil => rfl
  | cons entry rest ih =>
    rw [List.cons_append, Entries.get?_cons] at *
    split at h
    · cases h
    · rename_i hne
      rw [if_neg hne, ih h]

theorem Entries.put_append_of_none {key : String} {entries : Entries}
    (h : Entries.get? key entries = none) (item : Item) (others : Entries) :
    Entries.put key item (entries ++ others) = entries ++ Entries.put key item others := by
  induction entries with
  | nil => rfl
  | cons entry rest ih =>
    rw [Entries.get?_cons] at h
    rw [List.cons_append, Entries.put]
    split at h
    · cases h
    · rename_i hne
      rw [if_neg hne, ih h, List.cons_append]

theorem addNew_of_none {key : String} {item : Item} {entries : Entries}
    (h : Entries.get? key entries = none) :
    addNew key item entries = some (entries ++ [(key, item)]) := by
  have hput := Entries.put_append_of_none h item []
  rw [List.append_nil] at hput
  rw [addNew, h, hput]
  rfl

theorem openTable_new {key : String} {root : Entries} (h : Entries.get? key root = none) :
    openTable [] key root = some (root ++ [(key, .table .header [])]) := by
  have hput := Entries.put_append_of_none h (.table .header []) []
  rw [List.append_nil] at hput
  simp only [openTable, alterAt, h, hput, Entries.put]

theorem addToOpen_within {others entries : Entries} {name key : String} {value : Data}
    (hname : Entries.get? name others = none) (hkey : Entries.get? key entries = none) :
    addToOpen [name] [] key value (others ++ [(name, .table .header entries)]) =
      some (others ++ [(name, .table .header (entries ++ [(key, .value value)]))]) := by
  simp [addToOpen, alterAt, addValue, addNew_of_none hkey, Entries.get?_append_of_none hname,
    Entries.put_append_of_none hname, Entries.get?, Entries.put]

/-- The entries of quoted texts. -/
def textEntries (pairs : List (String × String)) : Entries :=
  pairs.map (fun (key, text) => (key, .value (.str text)))

theorem get?_textEntries {key : String} {pairs : List (String × String)}
    (h : key ∉ pairs.map Prod.fst) : Entries.get? key (textEntries pairs) = none := by
  induction pairs with
  | nil => rfl
  | cons pair pairs ih =>
    simp only [List.map_cons, List.mem_cons, not_or] at h
    rw [textEntries, List.map_cons, Entries.get?_cons, if_neg (Ne.symm h.1)]
    exact ih h.2

/-! ## Sections -/

/-- A key with a value. -/
theorem Reads.pair {doc : Document} {key : String} {root : Entries} {value : Data}
    {text rest : List Char} (hkey : IsBareKey key)
    (hstart : skipBlanks (text ++ '\n' :: rest) = text ++ '\n' :: rest)
    (hvalue : ∀ fuel, readValue (fuel + 1) 0 (text ++ '\n' :: rest) = some (value, '\n' :: rest))
    (hadd : addToOpen doc.opened [] key value doc.root = some root) :
    Reads doc (key.toList ++ ' ' :: '=' :: ' ' :: (text ++ '\n' :: rest))
      ⟨root, doc.opened⟩ rest := by
  have hline := readLineOf_pair hkey hstart hvalue hadd
  obtain ⟨first, others, hcons, hfirst⟩ := hkey.cons
  have hsplit : key.toList ++ ' ' :: '=' :: ' ' :: (text ++ '\n' :: rest) =
      first :: ((others ++ ' ' :: '=' :: ' ' :: text) ++ '\n' :: rest) := by
    simp [hcons]
  rw [hsplit] at hline ⊢
  exact .line (of_isBareKeyChar hfirst).1 hline

/-- The header of a new table. -/
theorem Reads.header {doc : Document} {name : String} (hbare : IsBareKey name)
    (hname : Entries.get? name doc.root = none) (rest : List Char) :
    Reads doc ('[' :: (name.toList ++ ']' :: '\n' :: rest))
      ⟨doc.root ++ [(name, .table .header [])], [name]⟩ rest := by
  have hline := readLineOf_header hbare (openTable_new hname) ('\n' :: rest)
  have hsplit : name.toList ++ ']' :: '\n' :: rest = (name.toList ++ [']']) ++ '\n' :: rest := by
    simp
  rw [hsplit] at hline ⊢
  exact .line (by decide) hline

/-- A document in whose last table there are quoted texts. -/
def Document.inTable (others : Entries) (name : String) (pairs : List (String × String)) :
    Document :=
  ⟨others ++ [(name, .table .header (textEntries pairs))], [name]⟩

/-- The lines of quoted texts below a header add them to its table. -/
theorem Reads.pairs {others : Entries} {name : String} (hname : Entries.get? name others = none)
    (read pairs : List (String × String)) (hkeys : ∀ pair ∈ pairs, IsBareKey pair.1)
    (hnodup : ((read ++ pairs).map Prod.fst).Nodup) (rest : List Char) :
    Reads (.inTable others name read)
      (pairs.flatMap (fun (key, text) => Config.tomlLine key text) ++ rest)
      (.inTable others name (read ++ pairs)) rest := by
  induction pairs generalizing read with
  | nil =>
    rw [List.append_nil]
    exact .refl _ _
  | cons pair pairs ih =>
    obtain ⟨key, text⟩ := pair
    have hnew : key ∉ read.map Prod.fst := by
      rw [List.map_append, List.nodup_append] at hnodup
      intro hmem
      exact hnodup.2.2 key hmem key (by simp) rfl
    have hassoc : read ++ (key, text) :: pairs = (read ++ [(key, text)]) ++ pairs := by simp
    have hrest := ih (read ++ [(key, text)]) (fun p hp => hkeys p (List.mem_cons_of_mem _ hp))
      (by rw [← hassoc]; exact hnodup)
    have hline : ∀ tail, Reads (.inTable others name read)
        (key.toList ++ ' ' :: '=' :: ' ' :: (encode text.toList ++ '\n' :: tail))
        (.inTable others name (read ++ [(key, text)])) tail := by
      intro tail
      refine .pair (hkeys _ List.mem_cons_self) (skipBlanks_encode ..)
        (fun fuel => readValue_encode fuel 0 ..) ?_
      dsimp only [Document.inTable]
      rw [addToOpen_within hname (get?_textEntries hnew), String.ofList_toList]
      simp [textEntries]
    rw [hassoc]
    refine .trans ?_ hrest
    simpa [Config.tomlLine] using hline _

/-- A header and the quoted texts below it. -/
theorem Reads.section {doc : Document} {name : String} {pairs : List (String × String)}
    (hbare : IsBareKey name) (hname : Entries.get? name doc.root = none)
    (hkeys : ∀ pair ∈ pairs, IsBareKey pair.1) (hnodup : (pairs.map Prod.fst).Nodup)
    (rest : List Char) :
    Reads doc
      ('[' :: (name.toList ++ ']' :: '\n' ::
        (pairs.flatMap (fun (key, text) => Config.tomlLine key text) ++ rest)))
      (.inTable doc.root name pairs) rest :=
  (Reads.header hbare hname _).trans (Reads.pairs hname [] pairs hkeys hnodup rest)

/-- Texts as the values of keys. -/
def textData (pairs : List (String × String)) : List (String × Data) :=
  pairs.map (fun (key, text) => (key, .str text))

theorem entriesData_textEntries (pairs : List (String × String)) :
    entriesData (textEntries pairs) = textData pairs := by
  induction pairs with
  | nil => rfl
  | cons pair pairs ih =>
    rw [textData, List.map_cons, ← textData, ← ih]
    rfl

end ProgramOutline.Toml
