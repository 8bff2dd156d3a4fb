/-!
# Cutting text into pieces

Texts are lists of characters here. Splitting at a separator keeps empty pieces, so the pieces
joined by the separator are the text again (`intercalate_splitOn`); digits are read and written in
bases ten and sixteen.
-/

namespace ProgramOutline.Text

/-- The pieces of a text between the occurrences of `sep`, empty pieces included. -/
def splitOn (sep : Char) : List Char → List (List Char)
  | [] => [[]]
  | c :: rest =>
    if c = sep then [] :: splitOn sep rest
    else match splitOn sep rest with
      | [] => [[c]]
      | piece :: pieces => (c :: piece) :: pieces

@[simp]
theorem splitOn_nil (sep : Char) : splitOn sep [] = [[]] := rfl

theorem splitOn_cons (sep c : Char) (rest : List Char) :
    splitOn sep (c :: rest) =
      if c = sep then [] :: splitOn sep rest
      else match splitOn sep rest with
        | [] => [[c]]
        | piece :: pieces => (c :: piece) :: pieces := rfl

theorem splitOn_ne_nil (sep : Char) (text : List Char) : splitOn sep text ≠ [] := by
  cases text with
  | nil => simp
  | cons c rest =>
    rw [splitOn_cons]
    split
    · simp
    · split <;> simp

/-- Nothing is lost: the pieces with the separator between them are the text. -/
theorem intercalate_splitOn (sep : Char) (text : List Char) :
    List.intercalate [sep] (splitOn sep text) = text := by
  induction text with
  | nil => rfl
  | cons c rest ih =>
    rw [splitOn_cons]
    split
    · rename_i h
      subst h
      have hne := splitOn_ne_nil c rest
      cases hs : splitOn c rest with
      | nil => exact absurd hs hne
      | cons piece pieces =>
        rw [hs] at ih
        simp [List.intercalate] at ih ⊢
        exact ih
    · cases hs : splitOn sep rest with
      | nil => exact absurd hs (splitOn_ne_nil sep rest)
      | cons piece pieces =>
        rw [hs] at ih
        cases pieces with
        | nil => simpa [List.intercalate] using ih
        | cons second others => simpa [List.intercalate] using ih

/-! ## Digits -/

/-- The value of a decimal digit. -/
def digit? (c : Char) : Option Nat :=
  if '0' ≤ c ∧ c ≤ '9' then some (c.toNat - 48) else none

/-- The value of a hexadecimal digit of either case. -/
def hexDigit? (c : Char) : Option Nat :=
  if '0' ≤ c ∧ c ≤ '9' then some (c.toNat - 48)
  else if 'a' ≤ c ∧ c ≤ 'f' then some (c.toNat - 87)
  else if 'A' ≤ c ∧ c ≤ 'F' then some (c.toNat - 55)
  else none

/-- Reads a non-empty run of digits in the given base. -/
def number? (base : Nat) (digit? : Char → Option Nat) : List Char → Option Nat
  | [] => none
  | text => text.foldlM (fun total c => (digit? c).map (base * total + ·)) 0

/-- The number a run of hexadecimal digits stands for. -/
def hexNumber? : List Char → Option Nat := number? 16 hexDigit?

/-- The number a run of decimal digits stands for. -/
def decimalNumber? : List Char → Option Nat := number? 10 digit?

/-- The digit of a value below sixteen; `letter` is the digit for ten. -/
def digitChar (letter : Char) (value : Nat) : Char :=
  if value < 10 then Char.ofNat (48 + value) else Char.ofNat (letter.toNat + (value - 10))

/-- A number as `width` hexadecimal digits, the lowest last; `letter` is the digit for ten. -/
def hexDigits (letter : Char) : Nat → Nat → List Char
  | 0, _ => []
  | width + 1, value => hexDigits letter width (value / 16) ++ [digitChar letter (value % 16)]

/-- A natural number in decimal notation. -/
def decimal (n : Nat) : List Char := Nat.toDigits 10 n

end ProgramOutline.Text
