import Mathlib.Data.List.Basic
import Mathlib.Data.String.Basic
import Mathlib.Order.Defs.LinearOrder
import Mathlib.Tactic.SplitIfs
import DataMart.Proofs.Text.Letters

/-!
# Texts as bytes

A text is stored as the bytes of its characters, one to four for each.

* `bytes_lt_iff`: texts are in the order of their bytes.
* `standsAt_iff`: where the bytes of a text stand in those of another, its characters stand there:
  no such place lies inside a character.
-/

namespace DataMart.Text

/-! ## The bytes of a text -/

/-- The bytes of a text. -/
def bytes (s : String) : List UInt8 := s.toByteArray.data.toList

/-- The bytes of a text are those of its characters, one after the other. -/
theorem bytes_eq (s : String) : bytes s = s.toList.flatMap String.utf8EncodeChar := by
  rw [bytes, ← String.utf8Encode_toList, List.utf8Encode, List.toList_data_toByteArray]

/-- A text has as many bytes as its size says. -/
theorem length_bytes (s : String) : (bytes s).length = s.utf8ByteSize := by
  rw [← String.size_toByteArray]
  rfl

/-- A text has no fewer bytes than characters. -/
theorem length_le_utf8ByteSize (s : String) : s.toList.length ≤ s.utf8ByteSize := by
  rw [← length_bytes, bytes_eq, List.length_flatMap]
  induction s.toList with
  | nil => exact Nat.le_refl 0
  | cons c cs ih =>
      have hc := c.utf8Size_pos
      rw [List.length_cons, List.map_cons, List.sum_cons, String.length_utf8EncodeChar]
      omega

/-- Only the characters of ASCII have one byte. -/
theorem utf8Size_eq_one_iff (c : Char) : c.utf8Size = 1 ↔ c.toNat < 128 := by
  rw [Char.utf8Size_eq_one_iff, UInt32.le_iff_toNat_le]
  exact Nat.lt_succ_iff.symm

/-- A text has as many bytes as characters exactly if they are all of ASCII. -/
theorem utf8ByteSize_eq_length_iff (s : String) :
    s.utf8ByteSize = s.toList.length ↔ ∀ c ∈ s.toList, c.toNat < 128 := by
  have hle := length_le_utf8ByteSize
  obtain ⟨cs, rfl⟩ : ∃ cs, s = String.ofList cs := ⟨s.toList, String.ofList_toList.symm⟩
  induction cs with
  | nil => simp
  | cons c cs ih =>
      have hc := c.utf8Size_pos
      have hcs := hle (String.ofList cs)
      have hbytes : (String.ofList (c :: cs)).utf8ByteSize =
          c.utf8Size + (String.ofList cs).utf8ByteSize := by
        rw [← length_bytes, ← length_bytes, bytes_eq, bytes_eq, String.toList_ofList,
          String.toList_ofList, List.flatMap_cons, List.length_append,
          String.length_utf8EncodeChar]
      simp only [String.toList_ofList, List.length_cons, List.forall_mem_cons,
        ← utf8Size_eq_one_iff] at ih hcs ⊢
      rw [hbytes]
      constructor
      · intro h
        exact ⟨by omega, ih.1 (by omega)⟩
      · rintro ⟨hone, hall⟩
        have hsame := ih.2 hall
        omega

/-- The numbers of characters end at 0x10FFFF. -/
theorem val_toNat_lt (c : Char) : c.val.toNat < 1114112 := by
  have h := c.valid
  simp only [UInt32.isValidChar, Nat.isValidChar] at h
  omega

/-- The first byte in which two characters differ has them in their order: a longer one starts with
a greater byte, and of one length the bytes are digits. -/
theorem utf8EncodeChar_append_lt {c d : Char} (h : c < d) (x y : List UInt8) :
    String.utf8EncodeChar c ++ x < String.utf8EncodeChar d ++ y := by
  have hless : c.val.toNat < d.val.toNat := h
  have hmax := val_toNat_lt d
  unfold String.utf8EncodeChar
  dsimp only
  generalize c.val.toNat = m at *
  generalize d.val.toNat = n at *
  -- no byte overflows, and each digit is taken off the one before
  have htwo (k : Nat) : (k % 32 + 192) % 2 ^ 8 = k % 32 + 192 := by omega
  have hthree (k : Nat) : (k % 16 + 224) % 2 ^ 8 = k % 16 + 224 := by omega
  have hfour (k : Nat) : (k % 8 + 240) % 2 ^ 8 = k % 8 + 240 := by omega
  have hfurther (k : Nat) : (k % 64 + 128) % 2 ^ 8 = k % 64 + 128 := by omega
  have hsecond (k : Nat) : k / 4096 = k / 64 / 64 := by omega
  have hthird (k : Nat) : k / 262144 = k / 64 / 64 / 64 := by omega
  split_ifs <;> simp only [List.cons_append, List.nil_append, List.cons_lt_cons_iff,
    UInt8.lt_iff_toNat_lt, ← UInt8.toNat_inj, UInt8.toNat_ofNat', htwo, hthree, hfour, hfurther,
    hsecond, hthird] <;> omega

/-! ## Texts in order -/

/-- Smaller characters have smaller bytes. -/
theorem flatMap_utf8EncodeChar_lt {s t : List Char} (h : s < t) :
    s.flatMap String.utf8EncodeChar < t.flatMap String.utf8EncodeChar := by
  induction s generalizing t with
  | nil =>
      cases t with
      | nil => exact absurd h (List.not_lt_nil _)
      | cons d t =>
          have hsome : String.utf8EncodeChar d ≠ [] := by
            rw [ne_eq, ← List.length_eq_zero_iff, String.length_utf8EncodeChar]
            exact (Char.utf8Size_pos d).ne'
          obtain ⟨b, rest, hd⟩ := List.exists_cons_of_ne_nil hsome
          rw [List.flatMap_cons, hd]
          exact List.nil_lt_cons b _
  | cons c s ih =>
      cases t with
      | nil => exact absurd h (List.not_lt_nil _)
      | cons d t =>
          rw [List.flatMap_cons, List.flatMap_cons]
          rcases List.cons_lt_cons_iff.1 h with hlt | ⟨rfl, hrest⟩
          · exact utf8EncodeChar_append_lt hlt _ _
          · exact List.append_left_lt (ih hrest)

/-- **Texts are in the order of their bytes.** -/
theorem bytes_lt_iff (s t : String) : bytes s < bytes t ↔ s < t := by
  have hmono {s t : String} (h : s < t) : bytes s < bytes t := by
    rw [bytes_eq, bytes_eq]
    exact flatMap_utf8EncodeChar_lt (String.lt_iff.1 h)
  refine ⟨fun h => ?_, hmono⟩
  rcases lt_trichotomy s t with hlt | rfl | hgt
  · exact hlt
  · exact absurd h (List.lt_irrefl _)
  · exact absurd h (List.lt_asymm (hmono hgt))

/-! ## Texts inside of others -/

/-- Bytes that start like those of a character are those of it and more. -/
theorem utf8EncodeChar_append_inj {c d : Char} {x y : List UInt8}
    (h : String.utf8EncodeChar c ++ x = String.utf8EncodeChar d ++ y) : c = d ∧ x = y := by
  rcases lt_trichotomy c d with hlt | rfl | hgt
  · have hbytes := utf8EncodeChar_append_lt hlt x y
    rw [h] at hbytes
    exact absurd hbytes (List.lt_irrefl _)
  · exact ⟨rfl, List.append_cancel_left h⟩
  · have hbytes := utf8EncodeChar_append_lt hgt y x
    rw [h] at hbytes
    exact absurd hbytes (List.lt_irrefl _)

/-- A text starts with another exactly if its bytes start with those of the other. -/
theorem flatMap_utf8EncodeChar_prefix_iff {p s : List Char} :
    p.flatMap String.utf8EncodeChar <+: s.flatMap String.utf8EncodeChar ↔ p <+: s := by
  constructor
  · intro h
    induction p generalizing s with
    | nil => exact List.nil_prefix
    | cons c p ih =>
        obtain ⟨rest, hrest⟩ := h
        rw [List.flatMap_cons, List.append_assoc] at hrest
        cases s with
        | nil => exact absurd (List.append_eq_nil_iff.1 hrest).1 String.utf8EncodeChar_ne_nil
        | cons d s =>
            obtain ⟨rfl, hbytes⟩ := utf8EncodeChar_append_inj hrest
            exact List.cons_prefix_cons.2 ⟨rfl, ih ⟨rest, hbytes⟩⟩
  · rintro ⟨rest, rfl⟩
    rw [List.flatMap_append]
    exact List.prefix_append _ _

/-- The first byte of a character is no other's second, third or fourth. -/
theorem eq_zero_of_getElem?_utf8EncodeChar {b c : Char} {n : Nat}
    (hn : n < (String.utf8EncodeChar c).length)
    (h : (String.utf8EncodeChar c)[n]? = (String.utf8EncodeChar b)[0]?) : n = 0 := by
  have hb : 0 < (String.utf8EncodeChar b).length := by
    rw [String.length_utf8EncodeChar]
    exact b.utf8Size_pos
  rw [List.getElem?_eq_getElem hn, List.getElem?_eq_getElem hb] at h
  have hfirst : (String.utf8EncodeChar b)[0].IsUTF8FirstByte :=
    UInt8.isUTF8FirstByte_getElem_zero_utf8EncodeChar
  rw [← Option.some.inj h] at hfirst
  exact UInt8.isUTF8FirstByte_getElem_utf8EncodeChar.1 hfirst

/-- Where the bytes of a text stand in those of another, its characters do. -/
theorem exists_of_flatMap_utf8EncodeChar_prefix_drop {p s : List Char} (hp : p ≠ []) {n : Nat}
    (h : p.flatMap String.utf8EncodeChar <+: (s.flatMap String.utf8EncodeChar).drop n) :
    ∃ left right, s = left ++ (p ++ right) ∧
      (left.flatMap String.utf8EncodeChar).length = n := by
  obtain ⟨b, p, rfl⟩ := List.exists_cons_of_ne_nil hp
  induction s generalizing n with
  | nil =>
      rw [List.flatMap_nil, List.drop_nil, List.flatMap_cons, List.prefix_nil,
        List.append_eq_nil_iff] at h
      exact absurd h.1 String.utf8EncodeChar_ne_nil
  | cons c s ih =>
      have hbytes : (c :: s).flatMap String.utf8EncodeChar =
          String.utf8EncodeChar c ++ s.flatMap String.utf8EncodeChar := List.flatMap_cons
      by_cases hbehind : (String.utf8EncodeChar c).length ≤ n
      · rw [hbytes, List.drop_append, List.drop_eq_nil_of_le hbehind,
          List.nil_append] at h
        obtain ⟨left, right, rfl, hlen⟩ := ih h
        refine ⟨c :: left, right, rfl, ?_⟩
        rw [List.flatMap_cons, List.length_append, hlen]
        omega
      · have hwithin : n < (String.utf8EncodeChar c).length := Nat.lt_of_not_le hbehind
        have hbyte : (String.utf8EncodeChar c)[n]? = (String.utf8EncodeChar b)[0]? := by
          obtain ⟨rest, hrest⟩ := h
          have hfirst := congrArg (·[0]?) hrest
          simp only [List.flatMap_cons, List.append_assoc, List.getElem?_drop, Nat.add_zero] at hfirst
          rwa [List.getElem?_append_left hwithin, List.getElem?_append_left, eq_comm] at hfirst
          rw [String.length_utf8EncodeChar]
          exact b.utf8Size_pos
        obtain rfl := eq_zero_of_getElem?_utf8EncodeChar hwithin hbyte
        obtain ⟨right, hright⟩ := flatMap_utf8EncodeChar_prefix_iff.1 h
        exact ⟨[], right, hright.symm, rfl⟩

/-- A text stands in another, its first byte at place `n`. -/
def StandsAt (p s : String) (n : Nat) : Prop := bytes p <+: (bytes s).drop n

/-- **A text stands in another between two parts of it.** So the place of its first byte is that of
a character, and so is the place behind its last. -/
theorem standsAt_iff {p s : String} (hp : p ≠ "") {n : Nat} : StandsAt p s n ↔
    ∃ left right, s = left ++ (p ++ right) ∧ left.utf8ByteSize = n := by
  unfold StandsAt
  rw [bytes_eq, bytes_eq]
  constructor
  · intro h
    obtain ⟨left, right, hs, hlen⟩ := exists_of_flatMap_utf8EncodeChar_prefix_drop (by simpa) h
    refine ⟨.ofList left, .ofList right, ?_, ?_⟩
    · rw [← String.toList_inj]
      simpa using hs
    · rw [← length_bytes, bytes_eq, String.toList_ofList, hlen]
  · rintro ⟨left, right, rfl, rfl⟩
    rw [← length_bytes, bytes_eq, String.toList_append, String.toList_append, List.flatMap_append,
      List.flatMap_append, List.drop_left]
    exact List.prefix_append _ _

/-- The last place at which a text stands in another. -/
structure LastPlace (p s : String) (n : Nat) : Prop where
  stands : StandsAt p s n
  last : ∀ k, StandsAt p s k → k ≤ n

/-- Small letters take as many bytes as the letters they are made of. -/
theorem utf8ByteSize_fold (s : String) : (fold s).utf8ByteSize = s.utf8ByteSize := by
  rw [← length_bytes, ← length_bytes, bytes_eq, bytes_eq, toList_fold, List.flatMap_map,
    List.length_flatMap, List.length_flatMap]
  simp only [String.length_utf8EncodeChar, utf8Size_toLower]

/-- The start of a text has no more bytes than the text. -/
theorem utf8ByteSize_le_of_prefix {left s : List Char} (h : left <+: s) :
    (String.ofList left).utf8ByteSize ≤ (String.ofList s).utf8ByteSize := by
  obtain ⟨rest, rfl⟩ := h
  rw [String.ofList_append, String.utf8ByteSize_append]
  exact Nat.le_add_right _ _

end DataMart.Text
