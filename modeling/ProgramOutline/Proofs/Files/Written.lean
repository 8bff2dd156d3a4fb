import Mathlib.Tactic
import ProgramOutline.Files.Tree

/-!
# A file that has been written can be read

Putting something at a place changes what stands there and nothing else. The place of a new file is
a name in a directory, and no directory is replaced by a file, so the way to it stays open.

Results:
* `nodeAt?_put_self`, `nodeAt?_put_of_ne`: what stands where after something has been put.
* `enter?_put`: a step along a path can still be made after a file has been put.
* `place?_of_write?`, `read?_of_write?`: a path leads to the file that was written there.
-/

namespace ProgramOutline.Files.Tree

variable {tree tree' : Tree} {place other : List String}

/-! ## Putting something at a place -/

theorem nodeAt?_of_not_isAbove (h : isAbove place = false) :
    tree.nodeAt? place = (tree.nodes.find? (fun entry => entry.1 == place)).map (·.2) := by
  rw [nodeAt?, h]
  rfl

theorem find?_map_put (nodes : List (List String × Node)) (node : Node) :
    (nodes.map (fun entry => if entry.1 == place then (place, node) else entry)).find?
        (fun entry => entry.1 == other) =
      (nodes.find? (fun entry => entry.1 == other)).map
        (fun entry => if entry.1 == place then (place, node) else entry) := by
  rw [List.find?_map]
  congr 2
  funext entry
  simp only [Function.comp_apply]
  split
  · rename_i h
    rw [beq_iff_eq.mp h]
  · rfl

theorem nodeAt?_put_self (h : isAbove place = false) (node : Node) :
    (tree.put place node).nodeAt? place = some node := by
  rw [nodeAt?_of_not_isAbove h, put]
  split
  · rename_i hthere
    obtain ⟨entry, hentry⟩ := Option.isSome_iff_exists.mp (List.find?_isSome.mpr
      (List.any_eq_true.mp hthere))
    rw [find?_map_put, hentry, Option.map_some, if_pos (List.find?_some hentry), Option.map_some]
  · rename_i hthere
    have hnone : tree.nodes.find? (fun entry => entry.1 == place) = none :=
      List.find?_eq_none.mpr (List.any_eq_false.mp (Bool.not_eq_true _ ▸ hthere))
    simp [List.find?_append, hnone]

theorem nodeAt?_put_of_ne (h : other ≠ place) (node : Node) :
    (tree.put place node).nodeAt? other = tree.nodeAt? other := by
  unfold nodeAt?
  split
  · rfl
  · rw [put]
    split
    · rw [find?_map_put]
      cases hentry : tree.nodes.find? (fun entry => entry.1 == other) with
      | none => rfl
      | some entry =>
        have hother : entry.1 = other := by simpa using List.find?_some hentry
        simp [hother, h]
    · simp [List.find?_append, Ne.symm h]

theorem pieces?_put (place : List String) (node : Node) (path : String) :
    (tree.put place node).pieces? path = tree.pieces? path := by
  have hroot : (tree.put place node).root = tree.root := by
    rw [put]
    split <;> rfl
  rw [pieces?, pieces?, hroot]

/-! ## Following a path after a file has been written -/

/-- A file that does not replace a directory closes no way. -/
theorem enter?_put (hplace : isAbove place = false) (hfree : tree.nodeAt? place ≠ some .directory)
    (bytes : List UInt8) {here next : List String} {piece : String}
    (h : tree.enter? here piece = some next) :
    (tree.put place (.file bytes)).enter? here piece = some next := by
  unfold enter? at *
  split at h
  · rename_i hopen
    obtain rfl := Option.some.inj h
    simp only [Bool.and_eq_true, decide_eq_true_eq] at hopen
    obtain ⟨hhere, hnext⟩ := hopen
    have hne : here ≠ place := by
      rintro rfl
      exact hfree hhere
    have hthere : ((tree.put place (.file bytes)).nodeAt? (further here piece)).isSome := by
      by_cases heq : further here piece = place
      · rw [heq, nodeAt?_put_self hplace]
        rfl
      · rw [nodeAt?_put_of_ne heq]
        exact hnext
    rw [if_pos]
    simp [nodeAt?_put_of_ne hne, hhere, hthere]
  · cases h

theorem foldlM_enter?_put (hplace : isAbove place = false)
    (hfree : tree.nodeAt? place ≠ some .directory) (bytes : List UInt8) {pieces : List String}
    {here next : List String} (h : pieces.foldlM tree.enter? here = some next) :
    pieces.foldlM (tree.put place (.file bytes)).enter? here = some next := by
  induction pieces generalizing here with
  | nil => exact h
  | cons piece pieces ih =>
    obtain ⟨mid, hmid, hrest⟩ := Option.bind_eq_some_iff.mp h
    exact Option.bind_eq_some_iff.mpr ⟨mid, enter?_put hplace hfree bytes hmid, ih hrest⟩

/-- The place of a new file: a name of its own in a directory. -/
theorem newPlace?_eq_some {path : String} (h : tree.newPlace? path = some place) :
    ∃ pieces name above, tree.pieces? path = some (pieces ++ [name]) ∧
      pieces.foldlM tree.enter? [] = some above ∧ tree.nodeAt? above = some .directory ∧
      place = above ++ [name] ∧ name ≠ "" ∧ name ≠ "." ∧ name ≠ ".." := by
  obtain ⟨pieces, hpieces, h⟩ := Option.bind_eq_some_iff.mp h
  split at h
  · cases h
  · rename_i name hname
    obtain ⟨start, rfl⟩ := List.getLast?_eq_some_iff.mp hname
    split at h
    · cases h
    · rename_i hproper
      obtain ⟨above, habove, h⟩ := Option.bind_eq_some_iff.mp h
      rw [List.dropLast_concat] at habove
      split at h
      · rename_i hdirectory
        simp only [Bool.or_eq_true, decide_eq_true_eq, not_or] at hproper
        obtain ⟨⟨⟨hempty, hhere⟩, hup⟩, -⟩ := hproper
        exact ⟨start, name, above, hpieces, habove, hdirectory, (Option.some.inj h).symm, hempty,
          hhere, hup⟩
      · cases h

theorem further_name {name : String} (hempty : name ≠ "") (hhere : name ≠ ".") (hup : name ≠ "..")
    (place : List String) : further place name = place ++ [name] := by
  unfold further
  split
  · exact absurd rfl hempty
  · exact absurd rfl hhere
  · exact absurd rfl hup
  · rfl

/-- The path leads to the place at which the file was put; the other places are as before. -/
theorem place?_of_write? {path : String} {bytes : List UInt8}
    (h : tree.write? path bytes = some tree') :
    ∃ place, tree'.place? path = some place ∧ tree'.nodeAt? place = some (.file bytes) ∧
      ∀ other, other ≠ place → tree'.nodeAt? other = tree.nodeAt? other := by
  obtain ⟨place, hplace, h⟩ := Option.bind_eq_some_iff.mp h
  split at h
  · cases h
  · rename_i hfree
    obtain rfl := Option.some.inj h
    obtain ⟨pieces, name, above, hpieces, habove, hdirectory, rfl, hempty, hhere, hup⟩ :=
      newPlace?_eq_some hplace
    have hinside : isAbove (above ++ [name]) = false := by
      simp [isAbove, hup]
    have hnode : (tree.put (above ++ [name]) (.file bytes)).nodeAt? (above ++ [name]) =
        some (.file bytes) := nodeAt?_put_self hinside _
    refine ⟨above ++ [name], ?_, hnode, fun other hother => nodeAt?_put_of_ne hother _⟩
    have hlast : (tree.put (above ++ [name]) (.file bytes)).enter? above name =
        some (above ++ [name]) := by
      have hne : above ≠ above ++ [name] := by simp
      rw [enter?, further_name hempty hhere hup, if_pos]
      simp [nodeAt?_put_of_ne hne, hdirectory, hnode]
    rw [place?, pieces?_put, hpieces, Option.bind_eq_bind, Option.bind_some, List.foldlM_append,
      foldlM_enter?_put hinside hfree bytes habove]
    simp [hlast]

/-- A file that has been written is there and has the bytes that were written. -/
theorem read?_of_write? {path : String} {bytes : List UInt8}
    (h : tree.write? path bytes = some tree') :
    tree'.pathExists path = true ∧ tree'.read? path = some bytes := by
  obtain ⟨place, hplace, hnode, -⟩ := place?_of_write? h
  constructor
  · rw [pathExists, hplace]
    rfl
  · simp [read?, hplace, hnode]

end ProgramOutline.Files.Tree
