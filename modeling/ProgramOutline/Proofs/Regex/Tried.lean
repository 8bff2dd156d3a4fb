import Mathlib.Tactic
import ProgramOutline.Regex.Tried

/-!
# What is remembered of a search

The memory of a search as a set: trying a choice adds it and nothing else, and going on behind a
match forgets what was tried at the position where the match ends.

Results:
* `has_add`: what has been tried once one more choice is tried.
* `has_restart_self`, `has_restart_of_ne`: what has been tried when the search for the next match
  starts.
* `has_start`: nothing has been tried at first.
-/

namespace ProgramOutline.Regex.Tried

/-! ## Bits of a byte -/

theorem testBit_shift (x : UInt8) {k : Nat} (hk : k < 8) :
    ((x >>> k.toUInt8) &&& 1 == 1) = x.toNat.testBit k := by
  have hmod : k.toUInt8.toNat % 8 = k := by
    simp
    omega
  rw [Nat.testBit_eq_decide_div_mod_eq, Bool.eq_iff_iff, beq_iff_eq, decide_eq_true_eq,
    ← UInt8.toNat_inj, UInt8.toNat_and, UInt8.toNat_shiftRight, hmod, UInt8.toNat_one,
    Nat.and_one_is_mod, Nat.shiftRight_eq_div_pow]

theorem testBit_or (x : UInt8) {j k : Nat} (hj : j < 8) (hk : k < 8) :
    (x ||| (1 <<< k.toUInt8)).toNat.testBit j = (x.toNat.testBit j || k = j) := by
  have hmod : k.toUInt8.toNat % 8 = k := by
    simp
    omega
  rw [UInt8.toNat_or, UInt8.toNat_shiftLeft, hmod, Nat.testBit_or, UInt8.toNat_one,
    Nat.testBit_mod_two_pow, Nat.one_shiftLeft, Nat.testBit_two_pow]
  simp [hj]

/-! ## Rows of bits -/

theorem bit_eq (row : ByteArray) (offset : Nat) :
    bit row offset = row.data[offset / 8]?.any (fun byte => byte.toNat.testBit (offset % 8)) := by
  unfold bit
  split
  · rename_i h
    rw [testBit_shift _ (Nat.mod_lt _ (by decide)), ByteArray.getElem_eq_getElem_data,
      Array.getElem?_eq_getElem h]
    rfl
  · rename_i h
    rw [Array.getElem?_eq_none (Nat.le_of_not_lt h)]
    rfl

theorem bit_widen (width : Nat) (row : ByteArray) (offset other : Nat) :
    bit (widen width row offset) other = bit row other := by
  rw [bit_eq, bit_eq]
  unfold widen
  split
  · rfl
  · rw [Array.getElem?_append]
    split
    · rfl
    · rename_i h
      -- behind the end of the old row there are zeros
      have hnone : row.data[other / 8]? = none := Array.getElem?_eq_none (Nat.le_of_not_lt h)
      rw [hnone, Array.getElem?_replicate]
      split
      · simp
      · rfl

theorem bit_setBit (width : Nat) (row : ByteArray) (offset other : Nat) :
    bit (setBit width row offset) other = (bit row other || offset = other) := by
  rw [← bit_widen width row offset other, bit_eq, bit_eq]
  have hsize : offset / 8 < (widen width row offset).data.size := lt_size_widen width row offset
  simp only [setBit, ByteArray.data_set, ByteArray.getElem_eq_getElem_data]
  by_cases hbyte : offset / 8 = other / 8
  · rw [hbyte] at hsize
    simp only [hbyte, Array.getElem?_set_self, Array.getElem?_eq_getElem hsize, Option.any_some]
    rw [testBit_or _ (Nat.mod_lt _ (by decide)) (Nat.mod_lt _ (by decide))]
    congr 2
    rw [eq_iff_iff]
    omega
  · have hne : offset ≠ other := fun h => hbyte (by rw [h])
    rw [Array.getElem?_set_ne _ hbyte]
    simp [hne]

/-! ## Choices -/

/-- Has a choice been tried, as the rows have it? -/
theorem has_of_ne {t : Tried} {mark offset : Nat} (h : offset ≠ t.base) :
    t.has mark offset = t.rows[mark]?.any (bit · offset) := by
  rw [has, if_neg h]
  cases t.rows[mark]? <;> rfl

theorem any_grow (rows : Array ByteArray) (mark other offset : Nat) :
    (grow rows mark)[other]?.any (bit · offset) = rows[other]?.any (bit · offset) := by
  unfold grow
  split
  · rfl
  · rw [Array.getElem?_append]
    split
    · rfl
    · rename_i h
      -- the rows that are added have no bits
      have hnone : rows[other]? = none := Array.getElem?_eq_none (Nat.le_of_not_lt h)
      rw [hnone, Array.getElem?_replicate]
      split
      · rfl
      · rfl

theorem lt_size_grow (rows : Array ByteArray) (mark : Nat) : mark < (grow rows mark).size := by
  unfold grow
  split
  · assumption
  · simp only [Array.size_append, Array.size_replicate]
    omega

/-- Trying a choice adds it to what has been tried. -/
theorem has_add (t : Tried) (mark offset mark' offset' : Nat) :
    (t.add mark offset).has mark' offset' =
      (t.has mark' offset' || (mark = mark' ∧ offset = offset')) := by
  unfold add
  split
  · rename_i hbase
    subst hbase
    by_cases hoffset : offset' = t.base
    · simp only [has, hoffset, if_true, Std.HashSet.contains_insert, and_true]
      rw [Bool.or_comm]
      rfl
    · have hne : t.base ≠ offset' := Ne.symm hoffset
      simp [has, hoffset, hne]
  · rename_i hbase
    by_cases hoffset : offset' = t.base
    · have hne : offset ≠ offset' := hoffset ▸ hbase
      simp [has, hoffset, hbase]
    · have hrows (rows : Array ByteArray) : ({ t with rows } : Tried).has mark' offset' =
          rows[mark']?.any (bit · offset') := has_of_ne hoffset
      rw [hrows, has_of_ne hoffset, Array.getElem?_modify]
      split
      · rename_i hmark
        subst hmark
        have hrow := any_grow t.rows mark mark offset'
        rw [Array.getElem?_eq_getElem (lt_size_grow t.rows mark), Option.any_some] at hrow
        rw [Array.getElem?_eq_getElem (lt_size_grow t.rows mark), Option.map_some, Option.any_some,
          bit_setBit, hrow]
        simp
      · rename_i hmark
        rw [any_grow]
        simp [hmark]

@[simp]
theorem base_add (t : Tried) (mark offset : Nat) : (t.add mark offset).base = t.base := by
  unfold add
  split <;> rfl

/-! ## The search for the next match -/

/-- What was tried at the end of a match is forgotten. -/
theorem has_restart_self (t : Tried) (mark base : Nat) :
    (t.restart base).has mark base = false := by
  simp [restart, has]

/-- What was tried elsewhere is remembered, unless the search for that match started there. -/
theorem has_restart_of_ne {t : Tried} {mark base offset : Nat} (h : offset ≠ base)
    (h' : offset ≠ t.base) : (t.restart base).has mark offset = t.has mark offset := by
  rw [has_of_ne h, has_of_ne h']
  rfl

theorem has_start (size mark offset : Nat) : (start size).has mark offset = false := by
  simp [start, has]

end ProgramOutline.Regex.Tried
