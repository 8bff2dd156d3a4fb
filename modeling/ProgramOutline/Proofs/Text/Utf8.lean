import Mathlib.Tactic
import ProgramOutline.Text.Decode

/-!
# The bytes of a text are decoded to the text

Each character is encoded by a first byte that says how many follow, and by following bytes of six
bits each. The decoder is followed through the bytes of one character, then through a text.

Results:
* `toList_toUTF8`: the bytes of a text are those of its characters in sequence.
* `decodeStrict?_toUTF8`: strict decoding gives the text back.
* `toUTF8_toList_inj`: different texts have different bytes.
-/

namespace ProgramOutline.Text

/-! ## Bytes -/

theorem byteArray_toList_loop (bytes : ByteArray) (i : Nat) (taken : List UInt8) :
    ByteArray.toList.loop bytes i taken = taken.reverse ++ bytes.data.toList.drop i := by
  fun_induction ByteArray.toList.loop bytes i taken with
  | case1 i taken h ih =>
    have hi : i < bytes.data.toList.length := h
    rw [ih, List.drop_eq_getElem_cons hi]
    simp [ByteArray.get!, h]
  | case2 i taken h =>
    have hi : bytes.data.toList.length ≤ i := Nat.le_of_not_lt h
    rw [List.drop_eq_nil_of_le hi, List.append_nil]

theorem byteArray_toList (bytes : ByteArray) : bytes.toList = bytes.data.toList :=
  byteArray_toList_loop bytes 0 []

theorem toList_toUTF8 (text : String) :
    text.toUTF8.toList = text.toList.flatMap String.utf8EncodeChar := by
  rw [String.toUTF8_eq_toByteArray, ← String.ofList_toList (s := text), String.toByteArray_ofList,
    byteArray_toList, String.toList_ofList]
  exact List.toList_data_toByteArray

/-! ## One character -/

theorem toNat_ofNat_byte {n : Nat} (h : n < 256) : (UInt8.ofNat n).toNat = n :=
  UInt8.toNat_ofNat_of_lt' h

/-- The range in which a following byte always lies. -/
theorem following_byte (n : Nat) :
    0x80 ≤ UInt8.ofNat (n % 64 + 128) ∧ UInt8.ofNat (n % 64 + 128) ≤ 0xBF := by
  simp only [UInt8.le_iff_toNat_le, toNat_ofNat_byte (show n % 64 + 128 < 256 by omega)]
  constructor
  · exact Nat.le_add_left ..
  · show n % 64 + 128 ≤ 191
    omega

/-- A byte that starts a character, or is one. -/
theorem decodeStrictFrom_first {b : UInt8} {chars : List Char} {pending : Pending}
    (h : firstByte b = (chars, pending)) (hproper : chars ≠ [replacement]) (rest : List UInt8) :
    decodeStrictFrom .none (b :: rest) = (decodeStrictFrom pending rest).map (chars ++ ·) := by
  have hchars : (firstByte b).1 = chars := congrArg Prod.fst h
  rw [← hchars] at hproper
  rw [← hchars, ← show (firstByte b).2 = pending from congrArg Prod.snd h]
  exact if_neg hproper

/-- A byte that goes on with a character. -/
theorem decodeStrictFrom_following {value more : Nat} {low high b : UInt8} (hlow : low ≤ b)
    (hhigh : b ≤ high) (rest : List UInt8) :
    decodeStrictFrom (.inside value more low high) (b :: rest) =
      (decodeStrictFrom (decodeStep (.inside value more low high) b).2 rest).map
        ((decodeStep (.inside value more low high) b).1 ++ ·) := if_pos ⟨hlow, hhigh⟩

theorem decodeStrictFrom_none {b : UInt8} {pending : Pending} (h : firstByte b = ([], pending))
    (rest : List UInt8) : decodeStrictFrom .none (b :: rest) = decodeStrictFrom pending rest := by
  rw [decodeStrictFrom_first h (List.cons_ne_nil _ _).symm]
  exact Option.map_id'

theorem decodeStrictFrom_inside {value more n : Nat} {low high : UInt8}
    (hlow : low ≤ .ofNat (n % 64 + 128)) (hhigh : .ofNat (n % 64 + 128) ≤ high)
    (rest : List UInt8) :
    decodeStrictFrom (.inside value (more + 2) low high) (.ofNat (n % 64 + 128) :: rest) =
      decodeStrictFrom (.inside (value * 64 + n % 64) (more + 1) 0x80 0xBF) rest := by
  have hbits : (n % 64 + 128) % 64 = n % 64 := by omega
  have hbyte : n % 64 + 128 < 256 := by omega
  rw [decodeStrictFrom_following hlow hhigh]
  simp only [decodeStep, hlow, hhigh, and_self, if_true, toNat_ofNat_byte hbyte, hbits,
    show ¬ more + 2 ≤ 1 by omega, if_false]
  simp

theorem decodeStrictFrom_last {value n : Nat} {low high : UInt8}
    (hlow : low ≤ .ofNat (n % 64 + 128)) (hhigh : .ofNat (n % 64 + 128) ≤ high)
    (rest : List UInt8) :
    decodeStrictFrom (.inside value 1 low high) (.ofNat (n % 64 + 128) :: rest) =
      (decodeStrictFrom .none rest).map (Char.ofNat (value * 64 + n % 64) :: ·) := by
  have hbits : (n % 64 + 128) % 64 = n % 64 := by omega
  have hbyte : n % 64 + 128 < 256 := by omega
  rw [decodeStrictFrom_following hlow hhigh]
  simp only [decodeStep, hlow, hhigh, and_self, if_true, toNat_ofNat_byte hbyte, hbits, Nat.le_refl]
  rfl

theorem firstByte_two {n : Nat} (hlow : 0x80 ≤ n) (hhigh : n < 0x800) :
    firstByte (.ofNat (n / 64 % 32 + 192)) = ([], .inside (n / 64) 1 0x80 0xBF) := by
  have hbyte : n / 64 % 32 + 192 < 256 := by omega
  have hbits : (n / 64 % 32 + 192) % 32 = n / 64 := by omega
  simp only [firstByte, UInt8.lt_iff_toNat_lt, toNat_ofNat_byte hbyte, UInt8.reduceToNat, hbits]
  rw [if_neg (by omega), if_neg (by omega), if_pos (by omega)]

/-- Of three bytes the second one is kept from spelling a smaller number or a surrogate. -/
theorem firstByte_three {n : Nat} (hlow : 0x800 ≤ n) (hhigh : n < 0x10000)
    (hvalid : n < 0xD800 ∨ 0xDFFF < n) :
    ∃ low high, firstByte (.ofNat (n / 4096 % 16 + 224)) = ([], .inside (n / 4096) 2 low high) ∧
      low ≤ .ofNat (n / 64 % 64 + 128) ∧ .ofNat (n / 64 % 64 + 128) ≤ high := by
  have hbyte : n / 4096 % 16 + 224 < 256 := by omega
  have hbits : (n / 4096 % 16 + 224) % 16 = n / 4096 := by omega
  have hnext : n / 64 % 64 + 128 < 256 := by omega
  simp only [firstByte, UInt8.lt_iff_toNat_lt, UInt8.le_iff_toNat_le, ← UInt8.toNat_inj,
    toNat_ofNat_byte hbyte, toNat_ofNat_byte hnext, UInt8.reduceToNat, hbits]
  rw [if_neg (by omega), if_neg (by omega), if_neg (by omega)]
  split_ifs with he0 hed hf0
  · rw [show n / 4096 = 0 by omega]
    refine ⟨_, _, rfl, ?_, ?_⟩ <;> simp only [UInt8.reduceToNat] <;> omega
  · rw [show n / 4096 = 13 by omega]
    refine ⟨_, _, rfl, ?_, ?_⟩ <;> simp only [UInt8.reduceToNat] <;> omega
  · refine ⟨_, _, rfl, ?_, ?_⟩ <;> simp only [UInt8.reduceToNat] <;> omega
  all_goals omega

/-- Of four bytes the second one is kept from spelling a smaller or a too large number. -/
theorem firstByte_four {n : Nat} (hlow : 0x10000 ≤ n) (hhigh : n < 0x110000) :
    ∃ low high, firstByte (.ofNat (n / 262144 % 8 + 240)) = ([], .inside (n / 262144) 3 low high) ∧
      low ≤ .ofNat (n / 4096 % 64 + 128) ∧ .ofNat (n / 4096 % 64 + 128) ≤ high := by
  have hbyte : n / 262144 % 8 + 240 < 256 := by omega
  have hbits : (n / 262144 % 8 + 240) % 8 = n / 262144 := by omega
  have hnext : n / 4096 % 64 + 128 < 256 := by omega
  simp only [firstByte, UInt8.lt_iff_toNat_lt, UInt8.le_iff_toNat_le, ← UInt8.toNat_inj,
    toNat_ofNat_byte hbyte, toNat_ofNat_byte hnext, UInt8.reduceToNat, hbits]
  rw [if_neg (by omega), if_neg (by omega), if_neg (by omega), if_neg (by omega),
    if_neg (by omega), if_neg (by omega)]
  split_ifs with hf0 hf3 hf4
  · rw [show n / 262144 = 0 by omega]
    refine ⟨_, _, rfl, ?_, ?_⟩ <;> simp only [UInt8.reduceToNat] <;> omega
  · refine ⟨_, _, rfl, ?_, ?_⟩ <;> simp only [UInt8.reduceToNat] <;> omega
  · rw [show n / 262144 = 4 by omega]
    refine ⟨_, _, rfl, ?_, ?_⟩ <;> simp only [UInt8.reduceToNat] <;> omega
  · omega

/-- The bytes of a character are decoded to it. -/
theorem decodeStrictFrom_utf8EncodeChar (c : Char) (rest : List UInt8) :
    decodeStrictFrom .none (String.utf8EncodeChar c ++ rest) =
      (decodeStrictFrom .none rest).map (c :: ·) := by
  have hvalid : c.toNat < 0xD800 ∨ 0xDFFF < c.toNat ∧ c.toNat < 0x110000 := c.valid
  have hchar : Char.ofNat c.toNat = c := Char.ofNat_toNat c
  simp only [String.utf8EncodeChar, show c.val.toNat = c.toNat from rfl]
  generalize hn : c.toNat = n at *
  -- one, two, three or four bytes
  split_ifs with h1 h2 h3
  · have hfirst : firstByte (.ofNat n) = ([c], .none) := by
      simp only [firstByte, UInt8.lt_iff_toNat_lt, toNat_ofNat_byte (show n < 256 by omega),
        UInt8.reduceToNat, hchar]
      rw [if_pos (by omega)]
    have hproper : [c] ≠ [replacement] := by
      rintro ⟨rfl⟩
      exact absurd (hn ▸ h1) (by decide)
    exact decodeStrictFrom_first hfirst hproper rest
  · obtain ⟨hl, hh⟩ := following_byte n
    rw [List.cons_append, List.cons_append, List.nil_append,
      decodeStrictFrom_none (firstByte_two (by omega) (by omega)), decodeStrictFrom_last hl hh,
      show n / 64 * 64 + n % 64 = n by omega, hchar]
  · obtain ⟨low, high, hfirst, hlow, hhigh⟩ :=
      firstByte_three (n := n) (by omega) (by omega) (by omega)
    obtain ⟨hl, hh⟩ := following_byte n
    simp only [List.cons_append, List.nil_append]
    rw [decodeStrictFrom_none hfirst, decodeStrictFrom_inside hlow hhigh,
      decodeStrictFrom_last hl hh, show (n / 4096 * 64 + n / 64 % 64) * 64 + n % 64 = n by omega,
      hchar]
  · obtain ⟨low, high, hfirst, hlow, hhigh⟩ := firstByte_four (n := n) (by omega) (by omega)
    obtain ⟨hl, hh⟩ := following_byte n
    obtain ⟨hl', hh'⟩ := following_byte (n / 64)
    simp only [List.cons_append, List.nil_append]
    rw [decodeStrictFrom_none hfirst, decodeStrictFrom_inside hlow hhigh,
      decodeStrictFrom_inside hl' hh', decodeStrictFrom_last hl hh,
      show ((n / 262144 * 64 + n / 4096 % 64) * 64 + n / 64 % 64) * 64 + n % 64 = n by omega, hchar]

/-! ## Whole texts -/

/-- The bytes of a text are decoded to it, whatever comes after them. -/
theorem decodeStrictFrom_flatMap_append (text : List Char) (rest : List UInt8) :
    decodeStrictFrom .none (text.flatMap String.utf8EncodeChar ++ rest) =
      (decodeStrictFrom .none rest).map (text ++ ·) := by
  induction text with
  | nil => simp
  | cons c text ih =>
    rw [List.flatMap_cons, List.append_assoc, decodeStrictFrom_utf8EncodeChar, ih, Option.map_map]
    rfl

theorem decodeStrictFrom_flatMap (text : List Char) :
    decodeStrictFrom .none (text.flatMap String.utf8EncodeChar) = some text := by
  rw [← List.append_nil (text.flatMap _), decodeStrictFrom_flatMap_append]
  exact congrArg some (List.append_nil text)

/-- Strict decoding of the bytes of a text gives the text. -/
theorem decodeStrict?_toUTF8 (text : String) :
    decodeStrict? text.toUTF8.toList = some text.toList := by
  rw [decodeStrict?, toList_toUTF8, decodeStrictFrom_flatMap]

theorem toUTF8_toList_inj {a b : String} (h : a.toUTF8.toList = b.toUTF8.toList) : a = b := by
  have hdecoded := congrArg decodeStrict? h
  rw [decodeStrict?_toUTF8, decodeStrict?_toUTF8] at hdecoded
  exact String.toList_inj.mp (Option.some.inj hdecoded)

end ProgramOutline.Text
