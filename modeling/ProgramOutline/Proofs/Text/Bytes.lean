import ProgramOutline.Proofs.Text.Checked
import ProgramOutline.Proofs.Text.Utf8

/-!
# The bytes of a text

A text is searched for another one character by character, but the place that is found is a byte
offset. Here the search is compared with the bytes. The first byte of a character differs from all
bytes inside of a character, and the bytes of a character are not the start of those of another one,
so the bytes of one text stand among those of another only where its characters do.

Results:
* `toNat_of_mem_utf8EncodeChar`: a byte of ASCII is a character of its own.
* `isBoundary_of_firstByte`: the first byte of a character stands at a boundary.
* `bytes_prefix_iff`: a text starts with another one if its bytes do.
* `occursAt_iff`: bytes that spell a text are this text.
* `find?_eq_some_iff`: the search finds the first place among the bytes.
-/

namespace ProgramOutline.Text

/-! ## Bytes -/

/-- The bytes of a text in UTF-8. -/
def bytes (text : List Char) : List UInt8 := text.flatMap String.utf8EncodeChar

@[simp]
theorem bytes_nil : bytes [] = [] := rfl

theorem bytes_cons (c : Char) (rest : List Char) :
    bytes (c :: rest) = String.utf8EncodeChar c ++ bytes rest := rfl

@[simp]
theorem bytes_append (a b : List Char) : bytes (a ++ b) = bytes a ++ bytes b :=
  List.flatMap_append

@[simp]
theorem length_bytes (text : List Char) : (bytes text).length = byteLength text := by
  induction text with
  | nil => rfl
  | cons c rest ih =>
    rw [bytes_cons, List.length_append, String.length_utf8EncodeChar, ih, byteLength_cons]

theorem bytes_ne_nil {text : List Char} (h : text ≠ []) : bytes text ≠ [] := by
  intro hnil
  have hlength := length_bytes text
  rw [hnil, List.length_nil] at hlength
  exact h (byteLength_eq_zero.mp hlength.symm)

/-- A byte of ASCII is a character of its own. -/
theorem toNat_of_mem_utf8EncodeChar {c : Char} {b : UInt8} (h : b ∈ String.utf8EncodeChar c)
    (hb : b.toNat < 0x80) : c.toNat = b.toNat := by
  have hbound : c.toNat < 0x110000 := by
    have hvalid : c.toNat < 0xD800 ∨ 0xDFFF < c.toNat ∧ c.toNat < 0x110000 := c.valid
    omega
  simp only [String.utf8EncodeChar, show c.val.toNat = c.toNat from rfl] at h
  generalize c.toNat = n at h hbound
  -- one, two, three or four bytes
  split_ifs at h <;>
    simp only [List.mem_cons, List.not_mem_nil, or_false, ← UInt8.toNat_inj,
      UInt8.toNat_ofNat'] at h <;>
    omega

/-! ## First bytes -/

/-- The first byte of a character stands at a boundary: no byte inside of a character is one. -/
theorem isBoundary_of_firstByte {text : List Char} {n : Nat} {b : UInt8} {rest : List UInt8}
    (h : (bytes text).drop n = b :: rest) (hb : b.IsUTF8FirstByte) : isBoundary n text = true := by
  induction text generalizing n with
  | nil => simp at h
  | cons c text ih =>
    have hsize := String.length_utf8EncodeChar c
    by_cases hn : n < c.utf8Size
    · have hlt : n < (String.utf8EncodeChar c).length := by omega
      rw [bytes_cons, List.drop_append_of_le_length (by omega), List.drop_eq_getElem_cons hlt,
        List.cons_append] at h
      rw [← (List.cons.inj h).1, UInt8.isUTF8FirstByte_getElem_utf8EncodeChar] at hb
      rw [hb]
      exact isBoundary_zero _
    · obtain ⟨m, rfl⟩ := Nat.exists_eq_add_of_le (Nat.le_of_not_lt hn)
      rw [bytes_cons, ← hsize, List.drop_append, List.drop_eq_nil_of_le (by omega),
        List.nil_append, Nat.add_sub_cancel_left] at h
      rw [isBoundary_cons]
      exact ih h

theorem bytes_eq_cons {text : List Char} (h : text ≠ []) :
    ∃ b rest, bytes text = b :: rest ∧ b.IsUTF8FirstByte := by
  obtain ⟨c, text, rfl⟩ := List.exists_cons_of_ne_nil h
  have hlt : 0 < (String.utf8EncodeChar c).length :=
    List.length_pos_iff.mpr String.utf8EncodeChar_ne_nil
  refine ⟨(String.utf8EncodeChar c)[0], (String.utf8EncodeChar c).tail ++ bytes text, ?_,
    UInt8.isUTF8FirstByte_getElem_utf8EncodeChar.mpr rfl⟩
  rw [bytes_cons, ← List.cons_append, List.getElem_zero, List.cons_head_tail]

/-! ## One text in another -/

/-- A text starts with another one if its bytes do. -/
theorem bytes_prefix_iff {needle text : List Char} :
    bytes needle <+: bytes text ↔ needle <+: text := by
  constructor
  · rintro ⟨rest, h⟩
    have hdecoded := congrArg (decodeStrictFrom .none) h
    rw [bytes, decodeStrictFrom_flatMap_append, bytes, decodeStrictFrom_flatMap,
      Option.map_eq_some_iff] at hdecoded
    obtain ⟨after, -, htext⟩ := hdecoded
    exact ⟨after, htext⟩
  · rintro ⟨after, rfl⟩
    rw [bytes_append]
    exact List.prefix_append ..

/-- The bytes of `text` from offset `n` on start with those of `needle`. -/
def OccursAt (needle text : List Char) (n : Nat) : Prop := bytes needle <+: (bytes text).drop n

/-- Offset `n` is the first one at which the bytes of `needle` stand in `text`. -/
def FirstAt (needle text : List Char) (n : Nat) : Prop :=
  OccursAt needle text n ∧ ∀ m < n, ¬ OccursAt needle text m

/-- Bytes that spell a text are this text, with characters before and after it. -/
theorem occursAt_iff {needle text : List Char} (hneedle : needle ≠ []) {n : Nat} :
    OccursAt needle text n ↔
      ∃ before after, text = before ++ needle ++ after ∧ n = byteLength before := by
  constructor
  · intro h
    obtain ⟨b, more, hbytes, hb⟩ := bytes_eq_cons hneedle
    obtain ⟨rest, hrest⟩ := id h
    rw [hbytes, List.cons_append] at hrest
    obtain ⟨before, tail, rfl, rfl⟩ := isBoundary_iff.mp (isBoundary_of_firstByte hrest.symm hb)
    rw [OccursAt, bytes_append, ← length_bytes, List.drop_left, bytes_prefix_iff] at h
    obtain ⟨after, rfl⟩ := h
    exact ⟨before, after, (List.append_assoc ..).symm, rfl⟩
  · rintro ⟨before, after, rfl, rfl⟩
    rw [OccursAt, List.append_assoc, bytes_append, ← length_bytes, List.drop_left, bytes_append]
    exact List.prefix_append ..

theorem occursAt_zero {needle text : List Char} : OccursAt needle text 0 ↔ needle <+: text := by
  rw [OccursAt, List.drop_zero, bytes_prefix_iff]

theorem not_occursAt_nil {needle : List Char} (hneedle : needle ≠ []) (n : Nat) :
    ¬ OccursAt needle [] n := by
  rw [OccursAt, bytes_nil, List.drop_nil, List.prefix_nil]
  exact bytes_ne_nil hneedle

/-- After the first character the search goes on in the rest of the text. -/
theorem occursAt_cons {needle rest : List Char} (hneedle : needle ≠ []) {c : Char} {n : Nat} :
    OccursAt needle (c :: rest) n ↔
      n = 0 ∧ needle <+: c :: rest ∨ ∃ m, n = c.utf8Size + m ∧ OccursAt needle rest m := by
  constructor
  · intro h
    obtain ⟨before, after, htext, rfl⟩ := (occursAt_iff hneedle).mp h
    cases before with
    | nil => exact .inl ⟨rfl, occursAt_zero.mp h⟩
    | cons d before =>
      obtain ⟨rfl, rfl⟩ := List.cons.inj htext
      exact .inr ⟨byteLength before, rfl, (occursAt_iff hneedle).mpr ⟨before, after, rfl, rfl⟩⟩
  · rintro (⟨rfl, h⟩ | ⟨m, rfl, h⟩)
    · exact occursAt_zero.mpr h
    · obtain ⟨before, after, rfl, rfl⟩ := (occursAt_iff hneedle).mp h
      exact (occursAt_iff hneedle).mpr ⟨c :: before, after, rfl, rfl⟩

/-! ## The search -/

/-- The byte offset at which a text occurs first in another. -/
def find? (needle : List Char) : List Char → Option Nat
  | [] => if needle.isEmpty then some 0 else none
  | c :: rest =>
    if needle.isPrefixOf (c :: rest) then some 0
    else (find? needle rest).map (c.utf8Size + ·)

/-- The search finds the first place at which the bytes stand, between two characters or not. -/
theorem find?_eq_some_iff {needle text : List Char} (hneedle : needle ≠ []) {n : Nat} :
    find? needle text = some n ↔ FirstAt needle text n := by
  induction text generalizing n with
  | nil =>
    refine iff_of_false ?_ (fun h => not_occursAt_nil hneedle n h.1)
    simp [find?, hneedle]
  | cons c rest ih =>
    rw [find?]
    split_ifs with hstarts
    · have hzero : OccursAt needle (c :: rest) 0 := by
        rwa [occursAt_zero, ← List.isPrefixOf_iff_prefix]
      constructor
      · rintro ⟨⟩
        exact ⟨hzero, fun m hm => absurd hm (Nat.not_lt_zero m)⟩
      · intro hfirst
        have hn : n = 0 := by
          by_contra hne
          exact hfirst.2 0 (by omega) hzero
        rw [hn]
    · have hnot : ¬ needle <+: c :: rest := by rwa [← List.isPrefixOf_iff_prefix]
      have hcons : ∀ k, OccursAt needle (c :: rest) k ↔
          ∃ m, k = c.utf8Size + m ∧ OccursAt needle rest m := by
        intro k
        rw [occursAt_cons hneedle]
        exact or_iff_right (fun h => hnot h.2)
      rw [Option.map_eq_some_iff]
      constructor
      · rintro ⟨m, hm, rfl⟩
        obtain ⟨hfound, hearlier⟩ := ih.mp hm
        refine ⟨(hcons _).mpr ⟨m, rfl, hfound⟩, fun k hk hoccurs => ?_⟩
        obtain ⟨j, rfl, hj⟩ := (hcons k).mp hoccurs
        exact hearlier j (by omega) hj
      · rintro ⟨hfound, hearlier⟩
        obtain ⟨m, rfl, hm⟩ := (hcons n).mp hfound
        refine ⟨m, ih.mpr ⟨hm, fun j hj hoccurs => ?_⟩, rfl⟩
        exact hearlier (c.utf8Size + j) (by omega) ((hcons _).mpr ⟨j, rfl, hoccurs⟩)

end ProgramOutline.Text
