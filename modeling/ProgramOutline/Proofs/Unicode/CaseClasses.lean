import ProgramOutline.Proofs.Unicode.CharSets
import ProgramOutline.Proofs.Unicode.Letters

/-!
# Case classes of all characters

The table of runs sends each character that is not the first of its class there. No character is in
two runs and no first character is in any (`apart_caseRuns`), so the class of a character holds
exactly those that fold to the same first character. The table is checked on sets of bits, in one
pass over the runs.

Results:
* `firstCase_firstCase`: folding twice is folding once.
* `mem_caseClass_firstCase`: the members of a class are the characters that fold alike.
* `contains_caseClosure`: the set in which a literal character is looked for, whatever the
  character, is its case class.
-/

namespace ProgramOutline.Unicode

/-- The run sends `n` to the first character of its class. -/
def Holds (run : Nat × Nat × Nat × Nat) (n : Nat) : Prop :=
  run.1 ≤ n ∧ n ≤ run.2.1 ∧ (n - run.1) % run.2.2.1 = 0

/-! ## Runs as sets of bits -/

/-- The numbers `first`, `first + step` and so on, `count` of them, as the bits of a number. -/
def stepBits (first step : Nat) : Nat → Nat
  | 0 => 0
  | count + 1 => 1 <<< (first + step * count) ||| stepBits first step count

theorem testBit_stepBits {first step count i : Nat} (hi : i < count) :
    (stepBits first step count).testBit (first + step * i) = true := by
  induction count with
  | zero => cases hi
  | succ count ih =>
    rw [stepBits, Nat.testBit_or]
    rcases Nat.lt_succ_iff_lt_or_eq.mp hi with hlt | rfl
    · rw [ih hlt, Bool.or_true]
    · simp [Nat.testBit_shiftLeft]

/-- The numbers from `first` to `last` by steps. -/
def runBits (first last step : Nat) : Nat := stepBits first step ((last - first) / step + 1)

theorem testBit_runBits {first last step n : Nat} (hfirst : first ≤ n) (hlast : n ≤ last)
    (hstep : (n - first) % step = 0) : (runBits first last step).testBit n = true := by
  have hcount : (n - first) / step < (last - first) / step + 1 :=
    Nat.lt_succ_of_le (Nat.div_le_div_right (by omega))
  have hplace : first + step * ((n - first) / step) = n := by
    have := Nat.div_add_mod (n - first) step
    omega
  exact hplace ▸ testBit_stepBits hcount

/-- The first characters that the runs lead to. -/
def firstBits : List (Nat × Nat × Nat × Nat) → Nat
  | [] => 0
  | run :: runs =>
    runBits run.2.2.2 (run.2.2.2 + (run.2.1 - run.1)) run.2.2.1 ||| firstBits runs

theorem testBit_firstBits {runs : List (Nat × Nat × Nat × Nat)} {run : Nat × Nat × Nat × Nat}
    (hrun : run ∈ runs) {n : Nat} (hn : Holds run n) :
    (firstBits runs).testBit (run.2.2.2 + (n - run.1)) = true := by
  obtain ⟨hlo, hhi, hstep⟩ := hn
  induction runs with
  | nil => cases hrun
  | cons other runs ih =>
    rw [firstBits, Nat.testBit_or]
    rcases List.mem_cons.mp hrun with rfl | hrun
    · rw [testBit_runBits (by omega) (by omega) (by rwa [Nat.add_sub_cancel_left]), Bool.true_or]
    · rw [ih hrun, Bool.or_true]

/-- No character is in two of the runs, or in a run and among those seen before. -/
def apart (seen : Nat) : List (Nat × Nat × Nat × Nat) → Bool
  | [] => true
  | run :: runs =>
    Nat.beq (runBits run.1 run.2.1 run.2.2.1 &&& seen) 0 &&
      apart (runBits run.1 run.2.1 run.2.2.1 ||| seen) runs

theorem not_seen_of_apart {seen : Nat} {runs : List (Nat × Nat × Nat × Nat)}
    (h : apart seen runs = true) {run : Nat × Nat × Nat × Nat} (hrun : run ∈ runs) {n : Nat}
    (hn : Holds run n) : seen.testBit n = false := by
  induction runs generalizing seen with
  | nil => cases hrun
  | cons other runs ih =>
    obtain ⟨hother, hrest⟩ := Bool.and_eq_true_iff.mp h
    rcases List.mem_cons.mp hrun with rfl | hrun
    · have hbit := congrArg (Nat.testBit · n) (Nat.eq_of_beq_eq_true hother)
      rwa [Nat.testBit_and, testBit_runBits hn.1 hn.2.1 hn.2.2, Bool.true_and,
        Nat.zero_testBit] at hbit
    · have hbit := ih hrest hrun
      rw [Nat.testBit_or, Bool.or_eq_false_iff] at hbit
      exact hbit.2

/-- No character is in two runs, and no first character of a class is in any. -/
theorem apart_caseRuns : apart (firstBits caseRuns) caseRuns = true := by decide +kernel

/-- The runs and the first characters are clear of the surrogates. -/
theorem valid_caseRuns : ∀ run ∈ caseRuns, run.1 ≤ run.2.1 ∧
    (run.2.1 < 0xD800 ∨ 0xDFFF < run.1 ∧ run.2.1 < 0x110000) ∧
    (run.2.2.2 + (run.2.1 - run.1) < 0xD800 ∨
      0xDFFF < run.2.2.2 ∧ run.2.2.2 + (run.2.1 - run.1) < 0x110000) := by
  decide +kernel

/-! ## Folding -/

theorem not_holds_of_apart {seen : Nat} {runs before after : List (Nat × Nat × Nat × Nat)}
    {run : Nat × Nat × Nat × Nat} (h : apart seen runs = true)
    (hruns : runs = before ++ run :: after) {n : Nat} (hn : Holds run n) :
    ∀ other ∈ before, ¬ Holds other n := by
  induction before generalizing seen runs with
  | nil => simp
  | cons first before ih =>
    subst hruns
    obtain ⟨-, hrest⟩ := Bool.and_eq_true_iff.mp h
    refine List.forall_mem_cons.mpr ⟨fun ⟨hlo, hhi, hstep⟩ => ?_, ih hrest rfl⟩
    have hbit := not_seen_of_apart hrest (by simp) hn
    rw [Nat.testBit_or, testBit_runBits hlo hhi hstep] at hbit
    cases hbit

/-- The run sends `n` to the first character of its class, as a test. -/
def takes (n : Nat) (run : Nat × Nat × Nat × Nat) : Bool :=
  decide (run.1 ≤ n) && decide (n ≤ run.2.1) && (n - run.1) % run.2.2.1 == 0

theorem takes_iff (run : Nat × Nat × Nat × Nat) (n : Nat) : takes n run = true ↔ Holds run n := by
  simp [takes, Holds, and_assoc]

/-- The first run that takes a character is the one that counts. -/
theorem firstCase_eq (n : Nat) :
    firstCase n = (caseRuns.find? (takes n)).elim n (fun run => run.2.2.2 + (n - run.1)) := by
  unfold firstCase
  split
  · rename_i lo hi step target hfind
    have hfind : caseRuns.find? (takes n) = some (lo, hi, step, target) := hfind
    rw [hfind, Option.elim_some]
  · rename_i hfind
    have hfind : caseRuns.find? (takes n) = none := hfind
    rw [hfind, Option.elim_none]

theorem firstCase_of_holds {run : Nat × Nat × Nat × Nat} (hrun : run ∈ caseRuns) {n : Nat}
    (hn : Holds run n) : firstCase n = run.2.2.2 + (n - run.1) := by
  obtain ⟨before, after, hruns⟩ := List.append_of_mem hrun
  have hfind : caseRuns.find? (takes n) = some run := by
    rw [List.find?_eq_some_iff_append]
    refine ⟨(takes_iff run n).mpr hn, before, after, hruns, fun other hother => ?_⟩
    have hnot := not_holds_of_apart apart_caseRuns hruns hn other hother
    rw [Bool.not_eq_true', Bool.eq_false_iff]
    exact mt (takes_iff other n).mp hnot
  rw [firstCase_eq, hfind, Option.elim_some]

theorem firstCase_of_not_holds {n : Nat} (h : ∀ run ∈ caseRuns, ¬ Holds run n) :
    firstCase n = n := by
  have hfind : caseRuns.find? (takes n) = none := by
    rw [List.find?_eq_none]
    exact fun run hrun hn => h run hrun ((takes_iff run n).mp hn)
  rw [firstCase_eq, hfind, Option.elim_none]

/-- A character is the first one of its class or in a run. -/
theorem firstCase_cases (n : Nat) :
    firstCase n = n ∨
      ∃ run ∈ caseRuns, Holds run n ∧ firstCase n = run.2.2.2 + (n - run.1) := by
  by_cases h : ∃ run ∈ caseRuns, Holds run n
  · obtain ⟨run, hrun, hn⟩ := h
    exact Or.inr ⟨run, hrun, hn, firstCase_of_holds hrun hn⟩
  · exact Or.inl (firstCase_of_not_holds (fun run hrun hn => h ⟨run, hrun, hn⟩))

theorem firstCase_firstCase (n : Nat) : firstCase (firstCase n) = firstCase n := by
  rcases firstCase_cases n with h | ⟨run, hrun, hn, h⟩
  · rw [h, h]
  · refine firstCase_of_not_holds (fun other hother hholds => ?_)
    have hbit := not_seen_of_apart apart_caseRuns hother hholds
    rw [h, testBit_firstBits hrun hn] at hbit
    cases hbit

/-! ## Classes -/

theorem mem_caseClass {first n : Nat} :
    n ∈ caseClass first ↔ n = first ∨ ∃ run ∈ caseRuns,
      run.2.2.2 ≤ first ∧ Holds run n ∧ n = run.1 + (first - run.2.2.2) := by
  rw [caseClass, List.mem_cons, List.mem_filterMap]
  refine or_congr_right (exists_congr fun run => and_congr_right fun hrun => ?_)
  obtain ⟨lo, hi, step, target⟩ := run
  have hle : lo ≤ hi := (valid_caseRuns _ hrun).1
  simp only [Option.ite_none_right_eq_some, Bool.and_eq_true, decide_eq_true_eq, beq_iff_eq,
    Option.some_inj, Holds]
  constructor
  · rintro ⟨⟨⟨htarget, hwidth⟩, hstep⟩, rfl⟩
    exact ⟨htarget, ⟨by omega, by omega, by rwa [Nat.add_sub_cancel_left]⟩, rfl⟩
  · rintro ⟨htarget, ⟨-, hhi, hstep⟩, rfl⟩
    rw [Nat.add_sub_cancel_left] at hstep
    exact ⟨⟨⟨htarget, by omega⟩, hstep⟩, rfl⟩

/-- The members of a class are the characters that fold to its first one. -/
theorem mem_caseClass_firstCase (k n : Nat) :
    n ∈ caseClass (firstCase k) ↔ firstCase n = firstCase k := by
  rw [mem_caseClass]
  constructor
  · rintro (rfl | ⟨run, hrun, htarget, hn, heq⟩)
    · exact firstCase_firstCase k
    · rw [firstCase_of_holds hrun hn]
      omega
  · intro h
    rcases firstCase_cases n with hn | ⟨run, hrun, hn, heq⟩
    · exact Or.inl (hn.symm.trans h)
    · refine Or.inr ⟨run, hrun, by omega, hn, ?_⟩
      have := hn.1
      omega

/-- The long s is in the class of the letter. -/
example : caseClass 0x53 = [0x53, 0x73, 0x17F] := by decide +kernel

theorem isValidChar_of_ranges {n : Nat} (h : n < 0xD800 ∨ 0xDFFF < n ∧ n < 0x110000) :
    n.isValidChar := h

/-- All members of the class of a character are characters. -/
theorem isValidChar_of_mem_caseClass {k : Char} {n : Nat}
    (h : n ∈ caseClass (firstCase k.toNat)) : n.isValidChar := by
  rcases mem_caseClass.mp h with rfl | ⟨run, hrun, -, ⟨hlo, hhi, -⟩, -⟩
  · rcases firstCase_cases k.toNat with heq | ⟨run, hrun, ⟨hlo, hhi, -⟩, heq⟩
    · rw [heq]
      exact k.valid
    · obtain ⟨hle, -, htarget⟩ := valid_caseRuns run hrun
      exact isValidChar_of_ranges (by omega)
  · obtain ⟨-, hvalid, -⟩ := valid_caseRuns run hrun
    exact isValidChar_of_ranges (by omega)

/-! ## The set of a literal character -/

theorem firstCase_ascii {n : Nat} (hn : n < 128) (hletter : n < 97 ∨ 122 < n) :
    firstCase n = n := by
  rcases firstCase_cases n with h | ⟨run, hrun, ⟨hlo, hhi, -⟩, -⟩
  · exact h
  · rcases caseRuns_low run hrun (.inr (by omega)) with rfl | rfl | rfl <;>
      (dsimp only at hlo hhi; omega)

/-- An ASCII character that is no letter is alone in its class. -/
theorem sameCase_ascii {k c : Char} (hk : k.toNat < 128) (hletter : ¬ IsLetter k) :
    sameCase k c = decide (c = k) := by
  have hfirst : firstCase k.toNat = k.toNat := by
    refine firstCase_ascii hk ?_
    unfold IsLetter at hletter
    omega
  rw [Bool.eq_iff_iff, sameCase, hfirst, beq_iff_eq, decide_eq_true_eq]
  constructor
  · intro h
    rcases firstCase_cases c.toNat with hc | ⟨run, hrun, hholds, hc⟩
    · exact Char.toNat_inj.mp (hc.symm.trans h.symm)
    · -- only letters are first in a class with ASCII characters
      obtain ⟨hlo, hhi, -⟩ := hholds
      exfalso
      unfold IsLetter at hletter
      rcases caseRuns_low run hrun (by omega) with rfl | rfl | rfl <;> (dsimp only at *; omega)
  · rintro rfl
    exact hfirst.symm

/-- Beside the character itself, the variants that are listed for it are its class. -/
theorem mem_caseVariants {k : Char} (hk : ¬ IsLetter k) (c : Char) :
    c = k ∨ c ∈ caseVariants k ↔ sameCase k c = true := by
  by_cases hascii : k.toNat < 128
  · have hnot : ¬ ((('a' ≤ k && k ≤ 'z') || ('A' ≤ k && k ≤ 'Z')) = true) := by
      intro hletter
      refine hk ?_
      simp only [Bool.or_eq_true, Bool.and_eq_true, decide_eq_true_eq, Char.le_def,
        UInt32.le_iff_toNat_le] at hletter
      exact hletter.symm
    rw [caseVariants, if_pos hascii, if_neg hnot, List.mem_singleton, or_self,
      sameCase_ascii hascii hk, decide_eq_true_eq]
  · rw [caseVariants, if_neg hascii, List.mem_map, sameCase, beq_iff_eq]
    constructor
    · rintro (rfl | ⟨n, hn, rfl⟩)
      · rfl
      · have hcode : (Char.ofNat n).toNat = n := by
          rw [Char.ofNat, dif_pos (isValidChar_of_mem_caseClass hn)]
          rfl
        rw [hcode]
        exact ((mem_caseClass_firstCase k.toNat n).mp hn).symm
    · intro h
      exact Or.inr ⟨c.toNat, (mem_caseClass_firstCase k.toNat c.toNat).mpr h.symm,
        Char.ofNat_toNat c⟩

theorem caseClosure_single (k : Char) :
    (CharSet.single k).caseClosure = (CharSet.single k).union
      (.ofList ((caseVariants k).filter (fun c => !(CharSet.single k).contains c))) := by
  have hsize : (CharSet.single k).size = 1 := by
    simp [CharSet.size, CharSet.single, CharSet.range]
  have hchars : (CharSet.single k).chars = [k] := by
    simp [CharSet.chars, CharSet.single, CharSet.range]
  rw [CharSet.caseClosure, hsize, if_pos (by decide), hchars, List.flatMap_singleton]

theorem ascending_caseClosure (k : Char) : (CharSet.single k).caseClosure.Ascending := by
  rw [caseClosure_single]
  exact (CharSet.ascending_single k).union (.ofList _)

/-- The set of a literal character holds the characters that differ from it at most in case. -/
theorem contains_caseClosure (k c : Char) :
    (CharSet.single k).caseClosure.contains c = sameCase k c := by
  by_cases hk : IsLetter k
  · exact contains_caseClosure_single hk c
  · rw [caseClosure_single, CharSet.contains_union (CharSet.ascending_single k) (.ofList _),
      CharSet.contains_single, CharSet.contains_ofList, Bool.eq_iff_iff, ← mem_caseVariants hk]
    simp only [Bool.or_eq_true, decide_eq_true_eq, List.mem_filter, CharSet.contains_single,
      Bool.not_eq_true', decide_eq_false_iff_not]
    tauto

end ProgramOutline.Unicode
