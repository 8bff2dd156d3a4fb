import Mathlib
import ProgramOutline.Proofs.Text.Bytes
import ProgramOutline.Proofs.Text.Marks

/-!
# Decoding keeps lines and ASCII text

A byte below 0x80 stands for itself wherever it occurs: it breaks off whatever character the bytes
before it have begun, and the decoder starts anew after it. No other byte has a part in an ASCII
character, since the numbers that several bytes can spell are beyond ASCII. So the lines of a file
are decoded one by one, however broken the UTF-8 in them is.

Results:
* `decodeStep_proper`: between two bytes the decoder can only be on its way to a character beyond
  ASCII.
* `decodeFrom_append`: an ASCII byte cuts the decoding in two.
* `splitOn_decodeLossy`: the pieces between ASCII bytes are decoded on their own.
* `decodeFrom_of_decodeStrictFrom`: what is well formed is decoded as by the strict decoder.
* `decodeSource_keeps`: what the decoding of a source file keeps.
-/

namespace ProgramOutline.Text

theorem decodeFrom_cons (pending : Pending) (b : UInt8) (bytes : List UInt8) :
    decodeFrom pending (b :: bytes) =
      (decodeStep pending b).1 ++ decodeFrom (decodeStep pending b).2 bytes := rfl

/-! ## Characters of several bytes -/

/-- The code of a character beyond ASCII. -/
def BeyondAscii (n : Nat) : Prop := 0x80 ≤ n ∧ n.isValidChar

/-- All that the bytes to come can spell are characters beyond ASCII. -/
def Pending.Proper : Pending → Prop
  | .none => True
  | .inside value more low high =>
    0 < more ∧ 0x80 ≤ low ∧ high ≤ 0xBF ∧ ∀ b, low ≤ b → b ≤ high → ∀ tail < 64 ^ (more - 1),
      BeyondAscii ((value * 64 + b.toNat % 64) * 64 ^ (more - 1) + tail)

theorem proper_none : Pending.none.Proper := trivial

theorem firstByte_proper (b : UInt8) : (firstByte b).2.Proper := by
  have hbyte := b.toNat_lt
  simp only [firstByte, UInt8.lt_iff_toNat_lt, ← UInt8.toNat_inj, UInt8.reduceToNat]
  -- one case for each range of first bytes
  split_ifs
  all_goals
    simp only [Pending.Proper, BeyondAscii, Nat.isValidChar, UInt8.le_iff_toNat_le,
      UInt8.reduceToNat, Nat.lt_add_one, Nat.reduceLT, Nat.reduceSub, Nat.reducePow, true_and]
  all_goals
    refine ⟨by omega, by omega, fun c hlow hhigh tail htail => ?_⟩
    omega

theorem decodeStep_proper {pending : Pending} (h : pending.Proper) (b : UInt8) :
    (decodeStep pending b).2.Proper := by
  cases pending with
  | none => exact firstByte_proper b
  | inside value more low high =>
    obtain ⟨hmore, hlow, hhigh, hspell⟩ := h
    rw [decodeStep]
    split_ifs with hb hlast
    · trivial
    · obtain ⟨n, rfl⟩ : ∃ n, more = n + 2 := ⟨more - 2, by omega⟩
      refine ⟨Nat.succ_pos n, by decide, by decide, fun c hc hc' tail htail => ?_⟩
      change tail < 64 ^ n at htail
      -- what is still to come is the end of what was to come before
      have hrest : c.toNat % 64 * 64 ^ n + tail < 64 ^ (n + 1) := by
        have hdigit : c.toNat % 64 + 1 ≤ 64 := Nat.mod_lt _ (by decide)
        calc c.toNat % 64 * 64 ^ n + tail < c.toNat % 64 * 64 ^ n + 64 ^ n :=
              Nat.add_lt_add_left htail _
          _ = (c.toNat % 64 + 1) * 64 ^ n := by ring
          _ ≤ 64 * 64 ^ n := Nat.mul_le_mul_right _ hdigit
          _ = 64 ^ (n + 1) := by ring
      have hsame : ((value * 64 + b.toNat % 64) * 64 + c.toNat % 64) * 64 ^ n + tail =
          (value * 64 + b.toNat % 64) * 64 ^ (n + 1) + (c.toNat % 64 * 64 ^ n + tail) := by ring
      change BeyondAscii (((value * 64 + b.toNat % 64) * 64 + c.toNat % 64) * 64 ^ n + tail)
      rw [hsame]
      exact hspell b hb.1 hb.2 _ hrest
    · exact firstByte_proper b

/-! ## ASCII bytes -/

theorem toNat_ascii {c : UInt8} (hc : c < 0x80) : (Char.ofNat c.toNat).toNat = c.toNat := by
  have hlt : c.toNat < 128 := UInt8.lt_iff_toNat_lt.mp hc
  rw [Char.toNat_ofNat, if_pos (.inl (by omega))]

theorem toNat_ascii_lt {c : UInt8} (hc : c < 0x80) : (Char.ofNat c.toNat).toNat < 0x80 := by
  rw [toNat_ascii hc]
  exact UInt8.lt_iff_toNat_lt.mp hc

theorem replacement_not_ascii : ¬ replacement.toNat < 0x80 := by decide

theorem firstByte_ascii {c : UInt8} (hc : c < 0x80) :
    firstByte c = ([Char.ofNat c.toNat], .none) := if_pos hc

/-- An ASCII byte breaks off a character that has begun, and stands for itself. -/
theorem decodeStep_ascii {pending : Pending} (h : pending.Proper) {c : UInt8} (hc : c < 0x80) :
    decodeStep pending c = (decodeEnd pending ++ [Char.ofNat c.toNat], .none) := by
  cases pending with
  | none => exact firstByte_ascii hc
  | inside value more low high =>
    obtain ⟨-, hlow, -, -⟩ := h
    have hout : ¬ (low ≤ c ∧ c ≤ high) := by
      rintro ⟨hle, -⟩
      exact UInt8.not_lt.mpr (UInt8.le_trans hlow hle) hc
    rw [decodeStep, if_neg hout, firstByte_ascii hc]
    rfl

/-- An ASCII byte cuts the decoding in two, whatever the decoder was on its way to. -/
theorem decodeFrom_append {pending : Pending} (h : pending.Proper) (a b : List UInt8) {c : UInt8}
    (hc : c < 0x80) :
    decodeFrom pending (a ++ c :: b) =
      decodeFrom pending a ++ Char.ofNat c.toNat :: decodeLossy b := by
  induction a generalizing pending with
  | nil =>
    rw [List.nil_append, decodeFrom_cons, decodeStep_ascii h hc, List.append_assoc]
    rfl
  | cons x a ih =>
    rw [List.cons_append, decodeFrom_cons, decodeFrom_cons, ih (decodeStep_proper h x),
      List.append_assoc]

/-! ## ASCII characters -/

theorem eq_of_mem_firstByte {b : UInt8} {x : Char} (hx : x ∈ (firstByte b).1)
    (hascii : x.toNat < 0x80) : x = Char.ofNat b.toNat ∧ b < 0x80 := by
  unfold firstByte at hx
  have hreplacement : x ≠ replacement := by
    rintro rfl
    exact replacement_not_ascii hascii
  split_ifs at hx with hb
  · exact ⟨List.mem_singleton.mp hx, hb⟩
  all_goals simp_all

/-- An ASCII character that a byte completes is that byte. -/
theorem eq_of_mem_decodeStep {pending : Pending} (h : pending.Proper) {b : UInt8} {x : Char}
    (hx : x ∈ (decodeStep pending b).1) (hascii : x.toNat < 0x80) :
    x = Char.ofNat b.toNat ∧ b < 0x80 := by
  cases pending with
  | none => exact eq_of_mem_firstByte hx hascii
  | inside value more low high =>
    obtain ⟨hmore, -, -, hspell⟩ := h
    rw [decodeStep] at hx
    split_ifs at hx with hb hlast
    · -- the last byte of a character, which is beyond ASCII
      obtain rfl : more = 1 := by omega
      obtain ⟨hbeyond, hvalid⟩ := hspell b hb.1 hb.2 0 (by decide)
      simp only [Nat.sub_self, Nat.pow_zero, Nat.mul_one, Nat.add_zero] at hbeyond hvalid
      rw [List.mem_singleton.mp hx, Char.toNat_ofNat, if_pos hvalid] at hascii
      omega
    · cases hx
    · rcases List.mem_cons.mp hx with rfl | hx
      · exact absurd hascii replacement_not_ascii
      · exact eq_of_mem_firstByte hx hascii

/-- An ASCII character of the decoded text is one of the bytes. -/
theorem mem_of_mem_decodeFrom {pending : Pending} (h : pending.Proper) {bytes : List UInt8}
    {c : UInt8} (hc : c < 0x80) (hx : Char.ofNat c.toNat ∈ decodeFrom pending bytes) :
    c ∈ bytes := by
  induction bytes generalizing pending with
  | nil =>
    cases pending with
    | none => cases hx
    | inside value more low high =>
      have hlt := toNat_ascii_lt hc
      rw [List.mem_singleton.mp hx] at hlt
      exact absurd hlt replacement_not_ascii
  | cons b bytes ih =>
    rw [decodeFrom_cons] at hx
    rcases List.mem_append.mp hx with hx | hx
    · obtain ⟨heq, hb⟩ := eq_of_mem_decodeStep h hx (toNat_ascii_lt hc)
      have hcode := congrArg Char.toNat heq
      rw [toNat_ascii hc, toNat_ascii hb] at hcode
      exact List.mem_cons.mpr (.inl (UInt8.toNat_inj.mp hcode))
    · exact List.mem_cons_of_mem b (ih (decodeStep_proper h b) hx)

/-! ## Pieces between ASCII bytes -/

section Pieces

variable {c : UInt8} (hc : c < 0x80)
include hc

theorem decodeLossy_append (a b : List UInt8) :
    decodeLossy (a ++ c :: b) = decodeLossy a ++ Char.ofNat c.toNat :: decodeLossy b :=
  decodeFrom_append proper_none a b hc

theorem notMem_decodeLossy {bytes : List UInt8} (h : c ∉ bytes) :
    Char.ofNat c.toNat ∉ decodeLossy bytes :=
  mt (mem_of_mem_decodeFrom proper_none hc) h

/-- The pieces of the decoded text are the pieces of the bytes, each decoded on its own. -/
theorem splitOn_decodeLossy (bytes : List UInt8) :
    (decodeLossy bytes).splitOn (Char.ofNat c.toNat) = (bytes.splitOn c).map decodeLossy := by
  induction hn : bytes.length using Nat.strong_induction_on generalizing bytes with
  | _ n ih =>
    by_cases hmem : c ∈ bytes
    · obtain ⟨a, b, rfl, ha⟩ := List.eq_append_cons_of_mem hmem
      have hlength : b.length < n := by
        rw [← hn, List.length_append, List.length_cons]
        omega
      rw [decodeLossy_append hc, List.splitOn_append_cons_self_of_not_mem ha,
        List.splitOn_append_cons_self_of_not_mem (notMem_decodeLossy hc ha), List.map_cons,
        ih b.length hlength b rfl]
    · rw [List.splitOn_eq_singleton (notMem_decodeLossy hc hmem), List.splitOn_eq_singleton hmem,
        List.map_singleton]

end Pieces

/-! ## Text that is well formed -/

/-- Where the strict decoder gives a text, nothing is replaced. -/
theorem decodeFrom_of_decodeStrictFrom {pending : Pending} {bytes : List UInt8} {text : List Char}
    (h : decodeStrictFrom pending bytes = some text) : decodeFrom pending bytes = text := by
  induction bytes generalizing pending text with
  | nil =>
    rw [decodeStrictFrom, Option.ite_none_right_eq_some] at h
    obtain ⟨rfl, htext⟩ := h
    exact Option.some.inj htext
  | cons b bytes ih =>
    rw [decodeFrom_cons]
    cases pending with
    | none =>
      simp only [decodeStrictFrom, Option.ite_none_left_eq_some, Option.map_eq_some_iff] at h
      obtain ⟨-, later, hlater, rfl⟩ := h
      rw [ih hlater]
    | inside value more low high =>
      simp only [decodeStrictFrom, Option.ite_none_right_eq_some, Option.map_eq_some_iff] at h
      obtain ⟨-, later, hlater, rfl⟩ := h
      rw [ih hlater]

theorem decodeLossy_flatMap (text : List Char) :
    decodeLossy (text.flatMap String.utf8EncodeChar) = text :=
  decodeFrom_of_decodeStrictFrom (decodeStrictFrom_flatMap text)

/-! ## The byte order mark -/

/-- The character that a file may start with to tell its encoding. -/
def byteOrderMark : Char := '\uFEFF'

theorem utf8EncodeChar_byteOrderMark :
    String.utf8EncodeChar byteOrderMark = [0xEF, 0xBB, 0xBF] := by decide

/-- Either the bytes start with a mark, which is dropped, or they are left as they are. -/
theorem dropMark_cases (bytes : List UInt8) :
    (∃ rest, bytes = String.utf8EncodeChar byteOrderMark ++ rest ∧ dropMark bytes = rest) ∨
      (∀ rest, bytes ≠ String.utf8EncodeChar byteOrderMark ++ rest) ∧ dropMark bytes = bytes := by
  rw [utf8EncodeChar_byteOrderMark, dropMark.eq_def]
  split
  · rename_i rest
    exact .inl ⟨rest, rfl, rfl⟩
  · rename_i hmark
    exact .inr ⟨hmark, rfl⟩

theorem dropMark_mark (rest : List UInt8) :
    dropMark (String.utf8EncodeChar byteOrderMark ++ rest) = rest := by
  rw [utf8EncodeChar_byteOrderMark]
  rfl

/-- No byte of a mark is an ASCII byte, so one that follows `a` is not in the mark of a file. -/
theorem dropMark_append {c : UInt8} (hc : c < 0x80) (a b : List UInt8) :
    dropMark (a ++ c :: b) = dropMark a ++ c :: b := by
  have hout : c ∉ String.utf8EncodeChar byteOrderMark := by
    intro hmem
    have hascii : c.toNat < 0x80 := UInt8.lt_iff_toNat_lt.mp hc
    have hcode : 0xFEFF = c.toNat := toNat_of_mem_utf8EncodeChar hmem hascii
    omega
  rcases dropMark_cases a with ⟨rest, rfl, hdrop⟩ | ⟨hmark, hdrop⟩
  · rw [hdrop, List.append_assoc, dropMark_mark]
  · rcases dropMark_cases (a ++ c :: b) with ⟨rest, hwhole, -⟩ | ⟨-, hkept⟩
    · rcases List.append_eq_append_iff.mp hwhole with ⟨x, hx, htail⟩ | ⟨x, rfl, -⟩
      · cases x with
        | nil => exact absurd (by rw [hx, List.append_nil, List.append_nil]) (hmark [])
        | cons d x =>
          obtain ⟨rfl, -⟩ := List.cons.inj htail
          exact absurd (by rw [hx]; simp) hout
      · exact absurd rfl (hmark x)
    · rw [hdrop, hkept]

theorem splitOn_dropMark {c : UInt8} (hc : c < 0x80) (bytes : List UInt8) :
    (dropMark bytes).splitOn c = (bytes.splitOn c).modifyHead dropMark := by
  have hkept : ∀ a : List UInt8, c ∉ a → c ∉ dropMark a := by
    intro a ha
    rcases dropMark_cases a with ⟨rest, rfl, hdrop⟩ | ⟨-, hdrop⟩
    · rw [hdrop]
      exact fun hmem => ha (List.mem_append_right _ hmem)
    · rwa [hdrop]
  by_cases hmem : c ∈ bytes
  · obtain ⟨a, b, rfl, ha⟩ := List.eq_append_cons_of_mem hmem
    rw [dropMark_append hc, List.splitOn_append_cons_self_of_not_mem ha,
      List.splitOn_append_cons_self_of_not_mem (hkept a ha), List.modifyHead_cons]
  · rw [List.splitOn_eq_singleton hmem, List.splitOn_eq_singleton (hkept bytes hmem),
      List.modifyHead_cons]

/-! ## Source files -/

section Source

variable {c : UInt8} (hc : c < 0x80)
include hc

theorem decodeSource_append (a b : List UInt8) :
    decodeSource (a ++ c :: b) = decodeSource a ++ Char.ofNat c.toNat :: decodeLossy b := by
  rw [decodeSource, dropMark_append hc, decodeLossy_append hc]
  rfl

theorem splitOn_decodeSource (bytes : List UInt8) :
    (decodeSource bytes).splitOn (Char.ofNat c.toNat) =
      ((bytes.splitOn c).modifyHead dropMark).map decodeLossy := by
  rw [decodeSource, splitOn_decodeLossy hc, splitOn_dropMark hc]

theorem count_decodeSource (bytes : List UInt8) :
    (decodeSource bytes).count (Char.ofNat c.toNat) = bytes.count c := by
  have hlength := congrArg List.length (splitOn_decodeSource hc bytes)
  rw [List.length_map, List.length_modifyHead, List.splitOn, List.splitOn, length_splitOnP,
    length_splitOnP] at hlength
  exact Nat.succ.inj hlength

end Source

/-- A text is decoded from its own bytes, less one mark at its start. -/
theorem decodeSource_toUTF8 (text : String) :
    decodeSource text.toUTF8.toList =
      if text.toList.head? = some byteOrderMark then text.toList.tail else text.toList := by
  rw [toList_toUTF8, decodeSource]
  split_ifs with hmark
  · obtain ⟨rest, hrest⟩ := List.head?_eq_some_iff.mp hmark
    rw [hrest, List.flatMap_cons, dropMark_mark, decodeLossy_flatMap, List.tail_cons]
  · rcases dropMark_cases (text.toList.flatMap String.utf8EncodeChar) with
      ⟨rest, hbytes, -⟩ | ⟨-, hkept⟩
    · -- a text whose bytes start with those of the mark starts with the mark
      have hdecoded := decodeStrictFrom_flatMap text.toList
      rw [hbytes, decodeStrictFrom_utf8EncodeChar, Option.map_eq_some_iff] at hdecoded
      obtain ⟨later, -, hlater⟩ := hdecoded
      exact absurd (by rw [← hlater]; rfl) hmark
    · rw [hkept, decodeLossy_flatMap]

/-- **Decoding keeps lines and ASCII text.** For every byte `c` below 0x80, whatever bytes stand
    before and after it:
    * `c` stands for itself; what is before it is decoded as if it were a whole file, and what is
      after it on its own;
    * the text holds as many of it as the file, and they divide the text into the decoded pieces of
      the file, the first of them without a mark; with a line feed for `c` these are the lines.

    A text is decoded from its own bytes, less one mark at its start. -/
theorem decodeSource_keeps {c : UInt8} (hc : c < 0x80) (a b bytes : List UInt8) (text : String) :
    decodeSource (a ++ c :: b) = decodeSource a ++ Char.ofNat c.toNat :: decodeLossy b ∧
    (decodeSource bytes).count (Char.ofNat c.toNat) = bytes.count c ∧
    (decodeSource bytes).splitOn (Char.ofNat c.toNat) =
      ((bytes.splitOn c).modifyHead dropMark).map decodeLossy ∧
    decodeSource text.toUTF8.toList =
      if text.toList.head? = some byteOrderMark then text.toList.tail else text.toList :=
  ⟨decodeSource_append hc a b, count_decodeSource hc bytes, splitOn_decodeSource hc bytes,
    decodeSource_toUTF8 text⟩

/-- Two lines after a mark, the first one with the start of a character at its end, the second one
    with a surrogate. -/
def brokenLines : List UInt8 := [0xEF, 0xBB, 0xBF, 0x41, 0xE2, 0x82, 0x0A, 0xED, 0xA0, 0x80]

theorem decodeSource_keeps_brokenLines :
    decodeSource brokenLines = "A\uFFFD\n\uFFFD\uFFFD\uFFFD".toList ∧
    (decodeSource brokenLines).count '\n' = 1 ∧
    (decodeSource brokenLines).splitOn '\n' =
      ["A\uFFFD".toList, "\uFFFD\uFFFD\uFFFD".toList] ∧
    decodeSource "\uFEFF\uFEFFA".toUTF8.toList = "\uFEFFA".toList := by
  obtain ⟨hcut, hcount, hlines, hmark⟩ := decodeSource_keeps (c := 0x0A) (by decide)
    [0xEF, 0xBB, 0xBF, 0x41, 0xE2, 0x82] [0xED, 0xA0, 0x80] brokenLines "\uFEFF\uFEFFA"
  exact ⟨hcut.trans (by decide), hcount, hlines.trans (by decide), hmark⟩

end ProgramOutline.Text
