import Mathlib.Tactic
import ProgramOutline.Ascending

/-!
# Looking up a bound among ascending numbers

`Ascending.ofList` sorts numbers and drops repetitions, `Ascending.rank` bisects the result.

Results:
* `pairwise_ofList`, `mem_ofList`: the array holds the listed numbers, strictly ascending.
* `lt_rank_iff`: in an ascending array, exactly the entries before the rank are at most the bound;
  `rank_eq_countP` counts them.
* `above?_ofList`: sorting, dropping repetitions and bisecting find the least listed number above
  the bound; `any_above?_ofList` compares it with a naive search over all of them.
-/

namespace ProgramOutline.Ascending

/-! ## Repetitions -/

theorem eraseReps_loop (a : Nat) (numbers acc : List Nat) :
    List.eraseRepsBy.loop (· == ·) a numbers acc =
      acc.reverse ++ List.eraseRepsBy.loop (· == ·) a numbers [] := by
  induction numbers generalizing a acc with
  | nil => simp [List.eraseRepsBy.loop]
  | cons b numbers ih =>
    rw [List.eraseRepsBy.loop, List.eraseRepsBy.loop]
    split
    · exact ih a acc
    · rw [ih b (a :: acc), ih b [a]]
      simp

theorem eraseReps_cons_cons (a b : Nat) (numbers : List Nat) :
    (a :: b :: numbers).eraseReps =
      if a = b then (b :: numbers).eraseReps else a :: (b :: numbers).eraseReps := by
  by_cases hab : a = b
  · subst hab
    simp [List.eraseReps, List.eraseRepsBy, List.eraseRepsBy.loop]
  · simp only [List.eraseReps, List.eraseRepsBy, List.eraseRepsBy.loop, beq_false_of_ne hab, hab,
      if_false]
    rw [eraseReps_loop b numbers [a]]
    rfl

theorem mem_eraseReps (n : Nat) (numbers : List Nat) : n ∈ numbers.eraseReps ↔ n ∈ numbers := by
  induction numbers with
  | nil => rfl
  | cons a numbers ih =>
    cases numbers with
    | nil => rfl
    | cons b numbers =>
      rw [eraseReps_cons_cons]
      split
      · rename_i hab
        rw [ih, hab]
        simp
      · rw [List.mem_cons, List.mem_cons (b := a), ih]

theorem pairwise_eraseReps (numbers : List Nat) (h : numbers.Pairwise (· ≤ ·)) :
    numbers.eraseReps.Pairwise (· < ·) := by
  induction numbers with
  | nil => exact List.Pairwise.nil
  | cons a numbers ih =>
    obtain ⟨ha, h⟩ := List.pairwise_cons.mp h
    cases numbers with
    | nil => exact List.pairwise_singleton _ _
    | cons b numbers =>
      rw [eraseReps_cons_cons]
      split
      · exact ih h
      · rename_i hab
        have hlt : a < b := by
          have := ha b (by simp)
          omega
        refine List.pairwise_cons.mpr ⟨fun n hn => ?_, ih h⟩
        rcases List.mem_cons.mp ((mem_eraseReps n _).mp hn) with rfl | hn
        · exact hlt
        · exact lt_of_lt_of_le hlt ((List.pairwise_cons.mp h).1 n hn)

theorem mem_ofList (n : Nat) (numbers : List Nat) : n ∈ ofList numbers ↔ n ∈ numbers := by
  simp [ofList, mem_eraseReps]

theorem pairwise_ofList (numbers : List Nat) : (ofList numbers).toList.Pairwise (· < ·) := by
  have hsorted : numbers.mergeSort.Pairwise (fun a b => decide (a ≤ b) = true) :=
    List.pairwise_mergeSort (fun a b c hab hbc => by simp at *; omega)
      (fun a b => by simp; omega) numbers
  exact pairwise_eraseReps _ (hsorted.imp (fun h => by simpa using h))

/-! ## Bisection -/

/-- The entries before `lo` are at most the bound and those from `hi` on exceed it: what bisection
    keeps while `lo` and `hi` close in on each other. -/
structure Brackets (numbers : Array Nat) (bound lo hi : Nat) : Prop where
  le : lo ≤ hi
  le_size : hi ≤ numbers.size
  below : ∀ i < lo, numbers.getD i 0 ≤ bound
  above : ∀ i, hi ≤ i → i < numbers.size → bound < numbers.getD i 0

theorem getD_lt_getD {numbers : Array Nat} (h : numbers.toList.Pairwise (· < ·)) {i j : Nat}
    (hij : i < j) (hj : j < numbers.size) : numbers.getD i 0 < numbers.getD j 0 := by
  have hi : i < numbers.size := by omega
  have := List.pairwise_iff_getElem.mp h i j (by simpa using hi) (by simpa using hj) hij
  rw [Array.getElem_toList, Array.getElem_toList] at this
  simpa [hi, hj] using this

theorem mem_iff_getD {numbers : Array Nat} {n : Nat} :
    n ∈ numbers ↔ ∃ i < numbers.size, numbers.getD i 0 = n := by
  rw [Array.mem_iff_getElem]
  constructor
  · rintro ⟨i, hi, rfl⟩
    exact ⟨i, hi, by simp [hi]⟩
  · rintro ⟨i, hi, rfl⟩
    exact ⟨i, hi, by simp [hi]⟩

theorem Brackets.bisect {numbers : Array Nat} (h : numbers.toList.Pairwise (· < ·))
    {bound lo hi : Nat} (hb : Brackets numbers bound lo hi) :
    Brackets numbers bound (bisect numbers bound lo hi) (bisect numbers bound lo hi) := by
  fun_induction Ascending.bisect numbers bound lo hi with
  | case1 lo hi hlt mid hmid ih =>
    refine ih ⟨by omega, hb.le_size, fun i hi' => ?_, hb.above⟩
    rcases Nat.lt_or_eq_of_le (Nat.le_of_lt_succ hi') with hi' | rfl
    · exact le_trans (getD_lt_getD h hi' (by have := hb.le_size; omega)).le hmid
    · exact hmid
  | case2 lo hi hlt mid hmid ih =>
    have hsize := hb.le_size
    refine ih ⟨by omega, by omega, hb.below, fun i hi' hisize => ?_⟩
    rcases Nat.lt_or_eq_of_le hi' with hi' | rfl
    · exact lt_trans (not_le.mp hmid) (getD_lt_getD h hi' hisize)
    · exact not_le.mp hmid
  | case3 lo hi hlt =>
    obtain rfl : lo = hi := by
      have := hb.le
      omega
    exact hb

theorem brackets_rank {numbers : Array Nat} (h : numbers.toList.Pairwise (· < ·)) (bound : Nat) :
    Brackets numbers bound (rank numbers bound) (rank numbers bound) := by
  have hb : Brackets numbers bound 0 numbers.size :=
    ⟨by omega, by omega, fun i hi => by omega, fun i h₁ h₂ => by omega⟩
  exact hb.bisect h

theorem lt_rank_iff {numbers : Array Nat} (h : numbers.toList.Pairwise (· < ·)) {bound i : Nat}
    (hi : i < numbers.size) : i < rank numbers bound ↔ numbers.getD i 0 ≤ bound := by
  have hr := brackets_rank h bound
  constructor
  · exact hr.below i
  · intro hle
    by_contra hlt
    have := hr.above i (not_lt.mp hlt) hi
    omega

/-- Bisection counts the entries that do not exceed the bound. -/
theorem rank_eq_countP {numbers : Array Nat} (h : numbers.toList.Pairwise (· < ·)) (bound : Nat) :
    rank numbers bound = numbers.toList.countP (· ≤ bound) := by
  have hr := brackets_rank h bound
  have hlength : rank numbers bound ≤ numbers.toList.length := by simpa using hr.le_size
  have hbelow : (numbers.toList.take (rank numbers bound)).countP (· ≤ bound) =
      rank numbers bound := by
    rw [List.countP_eq_length.mpr, List.length_take, Nat.min_eq_left hlength]
    intro n hn
    obtain ⟨i, hi, rfl⟩ := List.mem_take_iff_getElem.mp hn
    have hle := hr.below i (by omega)
    have hsize : i < numbers.size := by
      have := numbers.length_toList
      omega
    simpa [hsize] using hle
  have habove : (numbers.toList.drop (rank numbers bound)).countP (· ≤ bound) = 0 := by
    rw [List.countP_eq_zero]
    intro n hn
    obtain ⟨i, hi, rfl⟩ := List.mem_drop_iff_getElem.mp hn
    have hsize : rank numbers bound + i < numbers.size := by
      have := numbers.length_toList
      omega
    have hlt := hr.above (rank numbers bound + i) (by omega) hsize
    simp only [Array.getElem_toList, decide_eq_true_eq, not_le]
    simpa [hsize] using hlt
  calc rank numbers bound
      = (numbers.toList.take (rank numbers bound)).countP (· ≤ bound) +
          (numbers.toList.drop (rank numbers bound)).countP (· ≤ bound) := by
        rw [hbelow, habove, Nat.add_zero]
    _ = numbers.toList.countP (· ≤ bound) := by
        rw [← List.countP_append, List.take_append_drop]

theorem above?_eq_some_iff {numbers : Array Nat} {bound n : Nat} :
    above? numbers bound = some n ↔
      rank numbers bound < numbers.size ∧ numbers.getD (rank numbers bound) 0 = n := by
  rw [above?, Array.getElem?_eq_some_iff]
  constructor
  · rintro ⟨hlt, rfl⟩
    exact ⟨hlt, by simp [hlt]⟩
  · rintro ⟨hlt, rfl⟩
    exact ⟨hlt, by simp [hlt]⟩

/-- Sorting, dropping repetitions and bisecting find the least listed number above the bound. -/
theorem above?_ofList {numbers : List Nat} {bound n : Nat}
    (h : above? (ofList numbers) bound = some n) :
    (n ∈ numbers ∧ bound < n) ∧ ∀ m ∈ numbers, bound < m → n ≤ m := by
  have hsorted := pairwise_ofList numbers
  obtain ⟨hlt, rfl⟩ := above?_eq_some_iff.mp h
  refine ⟨⟨(mem_ofList _ _).mp (mem_iff_getD.mpr ⟨_, hlt, rfl⟩), ?_⟩, fun m hm hbm => ?_⟩
  · by_contra hle
    have := (lt_rank_iff hsorted hlt).mpr (not_lt.mp hle)
    omega
  · obtain ⟨i, hi, rfl⟩ := mem_iff_getD.mp ((mem_ofList m numbers).mpr hm)
    have hge : rank (ofList numbers) bound ≤ i := by
      by_contra hi'
      have := (lt_rank_iff hsorted hi).mp (not_le.mp hi')
      omega
    rcases Nat.lt_or_eq_of_le hge with hge | rfl
    · exact (getD_lt_getD hsorted hge hi).le
    · exact le_rfl

theorem above?_ofList_none {numbers : List Nat} {bound : Nat}
    (h : above? (ofList numbers) bound = none) : ∀ m ∈ numbers, m ≤ bound := by
  intro m hm
  obtain ⟨i, hi, rfl⟩ := mem_iff_getD.mp ((mem_ofList m numbers).mpr hm)
  have hsize : (ofList numbers).size ≤ rank (ofList numbers) bound :=
    Array.getElem?_eq_none_iff.mp h
  exact (lt_rank_iff (pairwise_ofList numbers) hi).mp (by omega)

/-- Some listed number lies above the bound and up to `limit` exactly if the one that is looked up
    does. -/
theorem any_above?_ofList (numbers : List Nat) (bound limit : Nat) :
    (above? (ofList numbers) bound).any (· ≤ limit) = true ↔
      ∃ n ∈ numbers, bound < n ∧ n ≤ limit := by
  cases h : above? (ofList numbers) bound with
  | none =>
    have hnone := above?_ofList_none h
    simp only [Option.any_none, Bool.false_eq_true, false_iff]
    rintro ⟨n, hn, hlt, -⟩
    have := hnone n hn
    omega
  | some n =>
    obtain ⟨⟨hn, hlt⟩, hleast⟩ := above?_ofList h
    simp only [Option.any_some, decide_eq_true_eq]
    constructor
    · exact fun hle => ⟨n, hn, hlt, hle⟩
    · rintro ⟨m, hm, hbm, hle⟩
      exact le_trans (hleast m hm hbm) hle

end ProgramOutline.Ascending
