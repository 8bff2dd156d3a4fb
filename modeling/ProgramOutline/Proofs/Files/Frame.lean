import ProgramOutline.Files.Config
import ProgramOutline.Proofs.Files.Written

/-!
# What a change of the files leaves alone

A directory is made only where nothing stands, so making directories touches no file. A write
touches the file at one place. Saving a configuration makes directories and then writes, so it
touches no file at all unless it gets to the write.

Results:
* `Files.Tree.sameFiles_makeParent`: making directories touches no file.
* `Files.Tree.saveConfig_ok_frame`: a configuration that is saved touches the file at one place.
* `Files.Tree.saveConfig_error_frame`: a configuration that cannot be saved touches none.
-/

namespace ProgramOutline.Files.Tree

variable {tree tree' : Tree} {place : List String}

/-- The bytes of the file that stands at a place. -/
def fileAt? (tree : Tree) (place : List String) : Option (List UInt8) :=
  match tree.nodeAt? place with
  | some (.file bytes) => some bytes
  | _ => none

/-- Do the same files stand at the same places? The directories may differ. -/
def SameFiles (a b : Tree) : Prop := ∀ place, a.fileAt? place = b.fileAt? place

theorem SameFiles.refl (tree : Tree) : SameFiles tree tree := fun _ => rfl

theorem SameFiles.trans {a b c : Tree} (hab : SameFiles a b) (hbc : SameFiles b c) :
    SameFiles a c := fun place => (hab place).trans (hbc place)

theorem fileAt?_congr (h : tree'.nodeAt? place = tree.nodeAt? place) :
    tree'.fileAt? place = tree.fileAt? place := by
  rw [fileAt?, fileAt?, h]

/-- The file that a path leads to is the one at its place. -/
theorem read?_eq (path : String) : tree.read? path = (tree.place? path).bind tree.fileAt? := by
  rw [read?]
  cases tree.place? path with
  | none => rfl
  | some place =>
    simp only [Option.bind_eq_bind, Option.bind_some, fileAt?]
    cases tree.nodeAt? place with
    | none => rfl
    | some node => cases node <;> rfl

/-! ## Making directories -/

/-- A directory that is put where nothing stands. -/
theorem sameFiles_put_directory (hfree : tree.nodeAt? place = none) :
    SameFiles (tree.put place .directory) tree := by
  intro other
  by_cases hother : other = place
  · subst hother
    have hinside : isAbove other = false := by
      by_contra habove
      rw [nodeAt?, if_pos (by simpa using habove)] at hfree
      cases hfree
    rw [fileAt?, fileAt?, nodeAt?_put_self hinside, hfree]
  · exact fileAt?_congr (nodeAt?_put_of_ne hother _)

/-- Where a step from a directory fails, nothing stands under the name of the step. -/
theorem nodeAt?_of_enter?_none {piece : String} (h : tree.enter? place piece = none)
    (hdirectory : tree.nodeAt? place = some .directory) (hup : piece ≠ "..") :
    tree.nodeAt? (place ++ [piece]) = none := by
  have hfree : tree.nodeAt? (further place piece) = none := by
    simpa [enter?, hdirectory] using h
  -- a piece that does not count leads back to the directory itself
  have hempty : piece ≠ "" := by
    rintro rfl
    exact absurd (hdirectory.symm.trans hfree) (by simp)
  have hhere : piece ≠ "." := by
    rintro rfl
    exact absurd (hdirectory.symm.trans hfree) (by simp)
  rwa [further_name hempty hhere hup] at hfree

theorem sameFiles_makeAlong (pieces : List String) (tree : Tree) (place : List String) :
    SameFiles (makeAlong pieces tree place).1 tree := by
  induction pieces generalizing tree place with
  | nil => exact .refl tree
  | cons piece rest ih =>
    rw [makeAlong]
    split
    · exact ih tree _
    · rename_i hnone
      split
      · exact .refl tree
      · rename_i hmakes
        simp only [ne_eq, decide_not, Bool.or_eq_true, Bool.not_eq_true', decide_eq_false_iff_not,
          decide_eq_true_eq, not_or, not_not] at hmakes
        obtain ⟨⟨hdirectory, hup⟩, -⟩ := hmakes
        exact (ih _ _).trans
          (sameFiles_put_directory (nodeAt?_of_enter?_none hnone hdirectory hup))

theorem sameFiles_makeDirectories (tree : Tree) (path : String) :
    SameFiles (tree.makeDirectories path).1 tree := by
  rw [makeDirectories]
  split
  · exact sameFiles_makeAlong _ tree []
  · exact .refl tree

/-- Making the directory that is to hold a path touches no file. -/
theorem sameFiles_makeParent (tree : Tree) (path : String) :
    SameFiles (tree.makeParent path).1 tree := by
  rw [makeParent]
  split
  · exact .refl tree
  · exact .refl tree
  · rename_i above _ _
    have hmade := sameFiles_makeDirectories tree above
    split
    all_goals
      rename_i heq
      rwa [heq] at hmade

/-! ## Saving a configuration -/

/-- A configuration that is saved stands at the place of its path; all other files are as before. -/
theorem saveConfig_ok_frame {path : String} {c : Config}
    (h : tree.saveConfig path c = (tree', .ok ())) :
    ∃ place, tree'.place? path = some place ∧
      tree'.fileAt? place = some (String.ofList c.toToml).toUTF8.toList ∧
      ∀ other, other ≠ place → tree'.fileAt? other = tree.fileAt? other := by
  have hmade := sameFiles_makeParent tree path
  unfold saveConfig at h
  split at h
  · cases h
  · rename_i made _ heq
    rw [heq] at hmade
    split at h
    · rename_i hwritten
      obtain rfl := (Prod.mk.inj h).1
      obtain ⟨place, hplace, hnode, hothers⟩ := place?_of_write? hwritten
      refine ⟨place, hplace, by rw [fileAt?, hnode], fun other hother => ?_⟩
      rw [fileAt?_congr (hothers other hother)]
      exact hmade other
    · cases h

/-- A configuration that cannot be saved leaves all files as they are. -/
theorem saveConfig_error_frame {path : String} {c : Config} {failure : Failure}
    (h : tree.saveConfig path c = (tree', .error failure)) : SameFiles tree' tree := by
  have hmade := sameFiles_makeParent tree path
  unfold saveConfig at h
  split at h
  · rename_i heq
    obtain rfl := (Prod.mk.inj h).1
    rwa [heq] at hmade
  · rename_i heq
    rw [heq] at hmade
    split at h
    · cases h
    · obtain rfl := (Prod.mk.inj h).1
      exact hmade

end ProgramOutline.Files.Tree
