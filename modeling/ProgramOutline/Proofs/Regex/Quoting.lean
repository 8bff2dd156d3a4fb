import Mathlib.Tactic
import ProgramOutline.Body
import ProgramOutline.Regex.Pattern

/-!
# Names in patterns

The header of a named function is looked for with a pattern into which the name is put, with a
backslash before each character that means something in the notation. Read as a pattern, each
character of the name gives itself in either case.

Results:
* `readAll_quote`: reading a quoted text adds its characters.
* `parse?_headerSource`: the pattern for the header of a named function is read as `headerOf`.
-/

namespace ProgramOutline.Regex

/-- Has the character a meaning in the notation? -/
def isMeta (c : Char) : Bool :=
  ['\\', '.', '+', '*', '?', '(', ')', '|', '[', ']', '\x7b', '\x7d', '^', '$', '#', '&', '-',
    '~'].contains c

/-- A character as it is written to stand for itself. -/
def quoteChar (c : Char) : List Char := if isMeta c then ['\\', c] else [c]

/-- A text as it is written to stand for itself. -/
def quote (text : List Char) : List Char := text.flatMap quoteChar

/-- What comes before the name in the pattern for a header. -/
def beforeName : List Char := "(?:\\b\\w+[ \\t]+)?\\bFunction[ \\t]+".toList

/-- What comes after the name in the pattern for a header. -/
def afterName : List Char := "[ \\t]*\\([^)]*\\)".toList

/-- The pattern for the header of the function with the given name. -/
def headerSource (name : List Char) : List Char := beforeName ++ quote name ++ afterName

/-! ## Quoted characters -/

/-- The flags under which the pattern for a header is read. -/
def eitherCase : Flags := { ignoreCase := true }

/-- The reading of a pattern without open groups, with the given parts, last one first. -/
def readingOf (parts : List Piece) : Reading := { level := { flags := eitherCase, parts } }

/-- The characters of a text as parts, last one first. -/
def letterPieces (text : List Char) : List Piece := ((anyCase text).map (⟨·, 0, false⟩)).reverse

theorem readAll_step {fuel : Nat} {parts parts' : List Piece} {c : Char} {text rest : List Char}
    (h : step? (readingOf parts) c text = some (readingOf parts', rest)) :
    readAll (fuel + 1) (readingOf parts) (c :: text) = readAll fuel (readingOf parts') rest := by
  have hskip : (readingOf parts).level.flags.skip (c :: text) = c :: text := rfl
  rw [readAll, hskip]
  dsimp only
  rw [h]

theorem step?_meta {c : Char} (h : isMeta c = true) (parts : List Piece) (rest : List Char) :
    step? (readingOf parts) '\\' (c :: rest) =
      some (readingOf (letterPieces [c] ++ parts), rest) := by
  simp only [isMeta, List.contains_eq_mem, decide_eq_true_eq, List.mem_cons, List.not_mem_nil,
    or_false] at h
  rcases h with rfl | rfl | rfl | rfl | rfl | rfl | rfl | rfl | rfl | rfl | rfl | rfl | rfl | rfl |
    rfl | rfl | rfl | rfl <;> rfl

theorem step?_plain {c : Char} (h : isMeta c = false) (parts : List Piece) (rest : List Char) :
    step? (readingOf parts) c rest = some (readingOf (letterPieces [c] ++ parts), rest) := by
  unfold step?
  split
  all_goals first | (exact absurd h (by decide)) | rfl

theorem readAll_quoteChar (c : Char) (fuel : Nat) (parts : List Piece) (rest : List Char) :
    readAll (fuel + 1) (readingOf parts) (quoteChar c ++ rest) =
      readAll fuel (readingOf (letterPieces [c] ++ parts)) rest := by
  unfold quoteChar
  split_ifs with hmeta
  · exact readAll_step (step?_meta hmeta parts rest)
  · exact readAll_step (step?_plain (by simpa using hmeta) parts rest)

theorem letterPieces_cons (c : Char) (text : List Char) :
    letterPieces (c :: text) = letterPieces text ++ letterPieces [c] := by
  simp [letterPieces, anyCase]

/-- Reading a quoted text adds its characters to the parts. -/
theorem readAll_quote (text : List Char) (fuel : Nat) (parts : List Piece) (rest : List Char) :
    readAll (fuel + text.length) (readingOf parts) (quote text ++ rest) =
      readAll fuel (readingOf (letterPieces text ++ parts)) rest := by
  induction text generalizing parts with
  | nil => rfl
  | cons c text ih =>
    rw [quote, List.flatMap_cons, ← quote, List.append_assoc, List.length_cons, ← Nat.add_assoc,
      readAll_quoteChar, ih, letterPieces_cons c text, List.append_assoc]

theorem length_le_quote (text : List Char) : text.length ≤ (quote text).length := by
  induction text with
  | nil => exact Nat.le_refl _
  | cons c text ih =>
    have hc : 1 ≤ (quoteChar c).length := by
      unfold quoteChar
      split_ifs <;> simp
    rw [quote, List.flatMap_cons, ← quote, List.length_append, List.length_cons]
    omega

/-! ## The pattern for a header -/

/-- A word boundary. -/
def boundary : Expr := .look (.word .boundary false)

/-- One or more blanks. -/
def blanks : Expr := .rep 1 none true spaceOrTab

/-- A word and blanks, or nothing. -/
def leadingWord : Expr :=
  .repetition 0 (some 1) true
    (.concat [boundary, .rep 1 none true (.set false Unicode.word), blanks])

/-- The parts before the blanks and the name, last one first. -/
def partsBefore : List Piece :=
  letterPieces "Function".toList ++ [⟨boundary, 0, false⟩, ⟨leadingWord, 6, false⟩]

/-- The parts after the name, last one first. -/
def partsAfter : List Piece :=
  [⟨.literal [')'], 0, false⟩, ⟨.rep 0 none true (allBut ')'), 2, false⟩,
    ⟨.literal ['('], 0, false⟩, ⟨.rep 0 none true spaceOrTab, 3, false⟩]

theorem readAll_beforeName (fuel : Nat) (rest : List Char) :
    readAll (fuel + 18) (readingOf []) (beforeName ++ rest) =
      readAll fuel (readingOf (⟨spaceOrTab, 2, false⟩ :: partsBefore)) ('+' :: rest) := by
  rfl

theorem readAll_afterName (fuel : Nat) (parts : List Piece) :
    readAll (fuel + 7) (readingOf parts) afterName = some (readingOf (partsAfter ++ parts)) := by
  rfl

/-- The blanks before the name are repeated as often as possible: no question mark follows that is
    not quoted. -/
theorem step?_plus (name : List Char) (parts : List Piece) :
    step? (readingOf (⟨spaceOrTab, 2, false⟩ :: parts)) '+' (quote name ++ afterName) =
      some (readingOf (⟨blanks, 3, false⟩ :: parts), quote name ++ afterName) := by
  have hmark : lazyMark (quote name ++ afterName) = (true, quote name ++ afterName) := by
    cases name with
    | nil => rfl
    | cons c name =>
      rw [quote, List.flatMap_cons, quoteChar]
      split_ifs with hmeta
      · rfl
      · unfold lazyMark
        split
        · rename_i heq
          obtain ⟨rfl, -⟩ := List.cons.inj heq
          exact absurd (by decide) hmeta
        · rfl
  show repetition? _ 1 none _ = _
  rw [repetition?, hmark]
  rfl

/-- The parts of the pattern for a header, last one first. -/
def headerParts (name : List Char) : List Piece :=
  partsAfter ++ (letterPieces name ++ ⟨blanks, 3, false⟩ :: partsBefore)

theorem readAll_headerSource (name : List Char) :
    readAll ((headerSource name).length + 1) (readingOf []) (headerSource name) =
      some (readingOf (headerParts name)) := by
  have hbefore : beforeName.length = 32 := by decide
  have hafter : afterName.length = 15 := by decide
  obtain ⟨fuel, hfuel⟩ : ∃ fuel, (headerSource name).length + 1 =
      fuel + 7 + name.length + 1 + 18 := by
    have := length_le_quote name
    refine ⟨(quote name).length - name.length + 22, ?_⟩
    rw [headerSource, List.length_append, List.length_append]
    omega
  rw [hfuel, headerSource, List.append_assoc, readAll_beforeName,
    readAll_step (step?_plus name _), readAll_quote, readAll_afterName]
  rfl

theorem reverse_headerParts (name : List Char) :
    (headerParts name).reverse = ⟨leadingWord, 6, false⟩ :: ⟨boundary, 0, false⟩ ::
      (((letterPieces "Function".toList).reverse ++ [⟨blanks, 3, false⟩] ++
        (letterPieces name).reverse) ++ partsAfter.reverse) := by
  simp [headerParts, partsBefore]

theorem depth_headerParts (name : List Char) : ∀ p ∈ headerParts name, p.depth ≤ 6 := by
  have hletters : ∀ text, ∀ p ∈ letterPieces text, p.depth ≤ 6 := by
    intro text p hp
    obtain ⟨e, -, rfl⟩ := List.mem_map.mp (List.mem_reverse.mp hp)
    exact Nat.zero_le _
  intro p hp
  simp only [headerParts, partsBefore, partsAfter, List.mem_append, List.mem_cons,
    List.not_mem_nil, or_false] at hp
  rcases hp with (rfl | rfl | rfl | rfl) | hp | rfl | hp | rfl | rfl
  all_goals first | exact hletters _ p hp | simp

theorem foldl_depth_le {bound : Nat} (pieces : List Piece) (h : ∀ p ∈ pieces, p.depth ≤ bound)
    {d : Nat} (hd : d ≤ bound) : pieces.foldl (fun d p => max d p.depth) d ≤ bound := by
  induction pieces generalizing d with
  | nil => exact hd
  | cons p pieces ih =>
    obtain ⟨hp, hpieces⟩ := List.forall_mem_cons.mp h
    exact ih hpieces (max_le hd hp)

theorem exprs_headerParts (name : List Char) :
    (headerParts name).reverse.map Piece.expr =
      [leadingWord, boundary] ++ anyCase "Function".toList ++ [blanks] ++ anyCase name ++
        [.rep 0 none true spaceOrTab, .literal ['('], .rep 0 none true (allBut ')'),
          .literal [')']] := by
  have hletters : ∀ text, (letterPieces text).reverse.map Piece.expr = anyCase text := by
    intro text
    simp [letterPieces, Function.comp_def]
  simp only [reverse_headerParts, List.map_cons, List.map_append, hletters,
    List.append_assoc, List.cons_append, List.nil_append]
  rfl

/-- The parts of the pattern for a header as one. -/
theorem piece_headerParts (name : List Char) :
    ∃ depth ≤ 7, (readingOf (headerParts name)).level.piece = ⟨headerOf name, depth, false⟩ := by
  have hdepth : (headerParts name).reverse.foldl (fun d p => max d p.depth) 0 ≤ 6 :=
    foldl_depth_le _ (fun p hp => depth_headerParts name p (List.mem_reverse.mp hp)) (by omega)
  have hjoin : Piece.join .concat (headerParts name).reverse =
      ⟨.concat ((headerParts name).reverse.map Piece.expr),
        (headerParts name).reverse.foldl (fun d p => max d p.depth) 0 + 1, false⟩ := by
    rw [reverse_headerParts]
    rfl
  refine ⟨_, Nat.succ_le_succ hdepth, ?_⟩
  show Piece.join .concat (headerParts name).reverse = _
  rw [hjoin, exprs_headerParts]
  rfl

/-- The pattern for the header of a named function, read again, is the expression that is searched
    for: each character of the name stands for itself in either case. -/
theorem parse?_headerSource (name : List Char) :
    parse? { ignoreCase := true } (headerSource name) = some (headerOf name) := by
  obtain ⟨depth, hdepth, hpiece⟩ := piece_headerParts name
  have hmax : depth ≤ maxDepth := hdepth.trans (by decide)
  show (readAll ((headerSource name).length + 1) (readingOf []) (headerSource name)).bind _ = _
  rw [readAll_headerSource, Option.bind_some, hpiece]
  simp [readingOf, hmax]

end ProgramOutline.Regex
