/-!
# Joined texts

Lists of texts with a separator between neighbours, and letter case over ASCII: every comparison of
names and keywords that ignores case looks at the letters `A` to `Z` only.
-/

namespace DataMart.Text

/-- The texts in order with `sep` between neighbours. -/
def joinWith (sep : String) : List String → String
  | [] => ""
  | [a] => a
  | a :: b :: rest => a ++ sep ++ joinWith sep (b :: rest)

/-- A text with the ASCII capitals made small. -/
def fold (s : String) : String := String.ofList (s.toList.map Char.toLower)

/-- Whether two names are the same apart from the case of ASCII letters. -/
def sameName (a b : String) : Bool := fold a == fold b

/-- `n` copies of a text in a row. -/
def repeated (n : Nat) (s : String) : String := joinWith "" (List.replicate n s)

/-- A text filled with blanks at its end up to `width` characters. -/
def padTo (width : Nat) (s : String) : String :=
  String.ofList (s.toList ++ List.replicate (width - s.toList.length) ' ')

/-- A number in decimal, filled with zeros at its front up to `width` digits. -/
def zeroPadded (width n : Nat) : String :=
  let digits := Nat.toDigits 10 n
  String.ofList (List.replicate (width - digits.length) '0' ++ digits)

/-- Padding reaches the width asked for, or leaves a longer text as it is. -/
theorem length_padTo (width : Nat) (s : String) :
    (padTo width s).toList.length = max width s.toList.length := by
  simp only [padTo, String.toList_ofList, List.length_append, List.length_replicate]
  omega

/-- Being the same name is symmetric. -/
theorem sameName_comm (a b : String) : sameName a b = sameName b a := by
  simp [sameName, Bool.beq_comm]

/-- Two spellings of one name are the same as the same names. -/
theorem sameName_congr {a b : String} (h : sameName a b = true) (c : String) :
    sameName a c = sameName b c := by
  have hfold : fold a = fold b := by simpa [sameName] using h
  rw [sameName, sameName, hfold]

end DataMart.Text
