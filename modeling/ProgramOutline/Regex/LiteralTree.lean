import ProgramOutline.Regex.Program

/-!
# Trees of literals

An alternation of literals alone is matched by a tree of their bytes. Words that begin alike share
the states for it, as long as the order of preference allows: a word that ends at a node divides
the words before it from those after it, and the edges of the node are shared only among the words
on one side.
-/

namespace ProgramOutline.Regex.Program

/-- The words of a node between those that end there. Words that end there before any other count
    once. -/
def sections (words : List (List Nat)) : List (List (List Nat)) :=
  let words := match words with
    | [] :: rest => [] :: rest.dropWhile List.isEmpty
    | words => words
  words.foldr (fun word acc => match word, acc with
    | [], acc => [] :: acc
    | word, first :: rest => (word :: first) :: rest
    | word, [] => [[word]]) [[]]

/-- The first bytes of the words of a section, without repetition. -/
def leads (words : List (List Nat)) : List Nat := (words.filterMap List.head?).eraseDups

/-- What follows the byte `lead` in those words that begin with it. -/
def tails (lead : Nat) (words : List (List Nat)) : List (List Nat) :=
  words.filterMap (fun
    | first :: rest => if first = lead then some rest else none
    | [] => none)

/-- The state of a section, which reads the first byte of its words. -/
def sectionExtent (words : List (List Nat)) : Extent :=
  match (leads words).length with
  | 0 => ⟨0, 0⟩
  | 1 => ⟨1, stateBytes⟩
  | count => ⟨1, stateBytes + edgeBytes * count⟩

/-- The states of a node at which the given words are left: a state for each section, and one that
    links to these and, after each word that ends here, to the end. A node where all words end
    needs none. No word is longer than `depth`. -/
def nodeExtent : Nat → List (List Nat) → Extent
  | 0, _ => ⟨0, 0⟩
  | depth + 1, words =>
    if words.all List.isEmpty then ⟨0, 0⟩
    else
      let parts := sections words
      let links := (parts.filter (fun part => !part.isEmpty)).length + (parts.length - 1)
      let own := parts.foldl (fun x part => x.add (sectionExtent part))
        ⟨1, stateBytes + linkBytes * links⟩
      parts.foldl (fun x part => (leads part).foldl
        (fun x lead => x.add (nodeExtent depth (tails lead part))) x) own

/-- The states of an alternation of words, the one in which they end included. -/
def wordsExtent (words : List (List Nat)) : Extent :=
  let depth := words.foldl (fun n word => max n word.length) 0
  (nodeExtent (depth + 1) words).add ⟨1, stateBytes⟩

end ProgramOutline.Regex.Program
