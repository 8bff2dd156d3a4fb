import Mathlib.Tactic
import ProgramOutline.Text.Pieces

/-!
# Numbers and the digits they are written in

Results:
* `decimal_inj`: different numbers differ in decimal notation.
* `decimalNumber?_decimal`: a number in decimal notation is read back.
* `hexNumber?_hexDigits`: hexadecimal digits of either case are read back as the number they write.
* `flatMap_hexDigits_inj`: different bytes differ in hexadecimal notation.
-/

namespace ProgramOutline.Text

/-! ## Decimal notation -/

theorem decimal_inj {a b : Nat} (h : decimal a = decimal b) : a = b := by
  have hnumber := congrArg (Nat.ofDigitChars 10 · 0) h
  simpa only [decimal, Nat.ofDigitChars_toDigits (show 1 < 10 by decide) (Nat.le_refl 10)]
    using hnumber

theorem isDigit_of_mem_decimal {n : Nat} {c : Char} (h : c ∈ decimal n) : c.isDigit = true :=
  Nat.isDigit_of_mem_toDigits (by decide) (Nat.le_refl 10) h

theorem decimal_ne_nil (n : Nat) : decimal n ≠ [] := Nat.toDigits_ne_nil

/-- Only zero has a zero in front. -/
theorem head?_decimal {n : Nat} (h : 0 < n) : (decimal n).head? ≠ some '0' := by
  induction n using Nat.strong_induction_on with
  | h n ih =>
    rw [decimal, Nat.toDigits_eq_if (by decide)]
    split
    · simpa using Nat.ne_of_gt h
    · have hdiv : 0 < n / 10 := by omega
      rw [List.head?_append_of_ne_nil _ Nat.toDigits_ne_nil]
      exact ih (n / 10) (by omega) hdiv

theorem digit?_of_isDigit {c : Char} (h : c.isDigit = true) : digit? c = some (c.toNat - 48) := by
  rw [Char.isDigit, Bool.and_eq_true, decide_eq_true_iff, decide_eq_true_iff] at h
  exact if_pos h

/-- Reading digits after `total` goes on as digits do. -/
theorem foldlM_digit? {text : List Char} (h : ∀ c ∈ text, c.isDigit = true) (total : Nat) :
    text.foldlM (fun total c => (digit? c).map (10 * total + ·)) total =
      some (Nat.ofDigitChars 10 text total) := by
  induction text generalizing total with
  | nil => rfl
  | cons c text ih =>
    obtain ⟨hc, htext⟩ := List.forall_mem_cons.mp h
    rw [List.foldlM_cons, digit?_of_isDigit hc, Option.map_some, Option.bind_eq_bind,
      Option.bind_some, ih htext, Nat.ofDigitChars_cons]
    rfl

theorem decimalNumber?_decimal (n : Nat) : decimalNumber? (decimal n) = some n := by
  have hread := foldlM_digit? (fun c hc => isDigit_of_mem_decimal (n := n) hc) 0
  rw [decimal, Nat.ofDigitChars_toDigits (by decide) (Nat.le_refl 10)] at hread
  cases hdigits : decimal n with
  | nil => exact absurd hdigits (decimal_ne_nil n)
  | cons c rest =>
    rw [decimal] at hdigits
    rw [hdigits] at hread
    exact hread

/-! ## Hexadecimal notation -/

/-- The digit for ten is the letter A of either case. -/
def IsTen (letter : Char) : Prop := letter = 'a' ∨ letter = 'A'

variable {letter : Char}

theorem hexDigit?_digitChar (hletter : IsTen letter) {value : Nat} (h : value < 16) :
    hexDigit? (digitChar letter value) = some value := by
  rcases hletter with rfl | rfl
  · revert value
    decide
  · revert value
    decide

/-- Reading the digits after `total` shifts it by their number. -/
theorem foldlM_hexDigits (hletter : IsTen letter) (width value total : Nat) :
    (hexDigits letter width value).foldlM (fun total c => (hexDigit? c).map (16 * total + ·))
        total =
      some (16 ^ width * total + value % 16 ^ width) := by
  induction width generalizing value with
  | zero => simp [hexDigits, Nat.mod_one]
  | succ width ih =>
    have hdigit := hexDigit?_digitChar hletter (Nat.mod_lt value (show 0 < 16 by decide))
    have hvalue : 16 * (16 ^ width * total + value / 16 % 16 ^ width) + value % 16 =
        16 ^ (width + 1) * total + value % 16 ^ (width + 1) := by
      rw [pow_succ', Nat.mod_mul]
      ring
    rw [hexDigits, List.foldlM_append, ih, Option.bind_eq_bind, Option.bind_some,
      List.foldlM_cons, hdigit, Option.map_some, hvalue]
    rfl

theorem length_hexDigits (letter : Char) (width value : Nat) :
    (hexDigits letter width value).length = width := by
  induction width generalizing value with
  | zero => rfl
  | succ width ih => simp [hexDigits, ih]

theorem isSome_hexDigit?_of_mem (hletter : IsTen letter) {width value : Nat} {c : Char}
    (h : c ∈ hexDigits letter width value) : (hexDigit? c).isSome := by
  induction width generalizing value with
  | zero => exact absurd h List.not_mem_nil
  | succ width ih =>
    rcases List.mem_append.mp h with h | h
    · exact ih h
    · rw [List.mem_singleton.mp h,
        hexDigit?_digitChar hletter (Nat.mod_lt value (show 0 < 16 by decide))]
      rfl

/-- A number that has few enough digits is read back. -/
theorem hexNumber?_hexDigits (hletter : IsTen letter) {width value : Nat} (hwidth : 0 < width)
    (hvalue : value < 16 ^ width) : hexNumber? (hexDigits letter width value) = some value := by
  have hread := foldlM_hexDigits hletter width value 0
  rw [Nat.mod_eq_of_lt hvalue, Nat.mul_zero, Nat.zero_add] at hread
  cases hdigits : hexDigits letter width value with
  | nil =>
    have hlength := length_hexDigits letter width value
    rw [hdigits] at hlength
    exact absurd hlength.symm (Nat.ne_of_gt hwidth)
  | cons c rest =>
    rw [hdigits] at hread
    exact hread

theorem flatMap_hexDigits_inj (hletter : IsTen letter) {a b : List UInt8}
    (h : a.flatMap (fun byte => hexDigits letter 2 byte.toNat) =
      b.flatMap (fun byte => hexDigits letter 2 byte.toNat)) : a = b := by
  induction a generalizing b with
  | nil =>
    cases b with
    | nil => rfl
    | cons y b =>
      have hlength := congrArg List.length h
      simp [length_hexDigits] at hlength
      omega
  | cons x a ih =>
    cases b with
    | nil =>
      have hlength := congrArg List.length h
      simp [length_hexDigits] at hlength
    | cons y b =>
      rw [List.flatMap_cons, List.flatMap_cons] at h
      obtain ⟨hbyte, hrest⟩ := List.append_inj h (by rw [length_hexDigits, length_hexDigits])
      have hnumber := congrArg hexNumber? hbyte
      rw [hexNumber?_hexDigits hletter (by decide) x.toNat_lt,
        hexNumber?_hexDigits hletter (by decide) y.toNat_lt] at hnumber
      rw [UInt8.toNat_inj.mp (Option.some.inj hnumber), ih hrest]

end ProgramOutline.Text
