import DataMart.Proofs.Json.Entries
import DataMart.Proofs.Json.Parts

/-!
# Reading printed values

A value in text without blanks is read back (`gives_valueIn_chars`, `parse_compact`) if it is
`Faithful`: one that reading can give, without floating-point numbers, and no deeper than the reader
goes. There is one lemma for each first character that a value can have.

Objects that start with the mark of embedded texts are left out for a reason. Such an object is
printed as an object, but its text is read as the value that it embeds (`gives_valueIn_marked`).
-/

namespace DataMart.Json

variable {rest : List Char} {embedded : String → Option Json}

/-! ## The text of a value -/

/-- The characters of a value in text. -/
def chars (v : Json) : List Char := v.compact.toList

/-- The names of members with the texts of their values. -/
def charsOfMembers (ms : List (String × Json)) : List (String × List Char) :=
  ms.map fun m => (m.1, m.2.chars)

theorem toList_compactItems (vs : List Json) :
    (compactItems vs).toList = (vs.map chars).flatMap (',' :: ·) := by
  induction vs with
  | nil => rfl
  | cons v vs ih =>
      rw [compactItems, String.toList_append, String.toList_append, ih]
      rfl

theorem toList_compactMembers (ms : List (String × Json)) :
    (compactMembers ms).toList = (memberTexts (charsOfMembers ms)).flatMap (',' :: ·) := by
  induction ms with
  | nil => rfl
  | cons m ms ih =>
      rw [compactMembers]
      simp only [String.toList_append, ih]
      simp [charsOfMembers, memberTexts, memberText, chars]

theorem chars_list (vs : List Json) : chars (.list vs) = '[' :: (commas (vs.map chars) ++ [']']) := by
  cases vs with
  | nil => rfl
  | cons v vs =>
      rw [chars, compact]
      simp only [String.toList_append, toList_compactItems]
      simp [commas, chars]

theorem chars_object (ms : List (String × Json)) :
    chars (.object ms) = '\x7b' :: (commas (memberTexts (charsOfMembers ms)) ++ ['\x7d']) := by
  cases ms with
  | nil => rfl
  | cons m ms =>
      rw [chars, compact]
      simp only [String.toList_append, toList_compactMembers]
      simp [commas, charsOfMembers, memberTexts, memberText, chars]

theorem chars_nat (n : Nat) : chars (.number (.int n)) = Nat.toDigits 10 n := by
  show (toString n).toList = _
  rw [Nat.toString_eq_ofList_toDigits, String.toList_ofList]

theorem chars_negSucc (n : Nat) :
    chars (.number (.int (.negSucc n))) = '-' :: Nat.toDigits 10 (n + 1) := by
  show ("-" ++ toString (n + 1)).toList = _
  rw [String.toList_append, Nat.toString_eq_ofList_toDigits]
  simp

theorem not_isBlank_of_isDigit {c : Char} (hc : c.isDigit = true) : isBlank c = false := by
  refine Bool.eq_false_iff.2 fun hblank => ?_
  simp only [isBlank, Bool.or_eq_true, decide_eq_true_eq] at hblank
  rcases hblank with ((rfl | rfl) | rfl) | rfl <;> cases hc

theorem ne_of_isDigit {c d : Char} (hc : c.isDigit = true) (hd : d.isDigit = false) : c ≠ d := by
  rintro rfl
  cases hc.symm.trans hd

theorem toDigits_eq_cons (n : Nat) : ∃ c t, Nat.toDigits 10 n = c :: t ∧ c.isDigit = true := by
  cases h : Nat.toDigits 10 n with
  | nil => exact absurd h Nat.toDigits_ne_nil
  | cons c t =>
      have hc : c ∈ Nat.toDigits 10 n := h ▸ List.mem_cons_self ..
      exact ⟨c, t, rfl, Nat.isDigit_of_mem_toDigits (by decide) (by decide) hc⟩

/-- The text of a value starts with a character that no blank is and no list ends with. -/
theorem opens_chars {v : Json} (hv : v.isReal = false) : Opens v.chars := by
  cases v with
  | null => exact ⟨_, _, rfl, rfl, by decide⟩
  | bool b => cases b <;> exact ⟨_, _, rfl, rfl, by decide⟩
  | number n =>
      cases n with
      | real x => cases hv
      | int n =>
          cases n with
          | ofNat n =>
              obtain ⟨c, t, hdigits, hc⟩ := toDigits_eq_cons n
              exact ⟨c, t, (chars_nat n).trans hdigits, not_isBlank_of_isDigit hc,
                ne_of_isDigit hc rfl⟩
          | negSucc n => exact ⟨_, _, chars_negSucc n, rfl, by decide⟩
  | text s => exact ⟨_, _, toList_quoted s, rfl, by decide⟩
  | list vs => exact ⟨_, _, chars_list vs, rfl, by decide⟩
  | object ms => exact ⟨_, _, chars_object ms, rfl, by decide⟩

/-! ## Values by their first character -/

variable {depth : Nat} {t : List Char}

/-- A keyword stands for its value. -/
theorem gives_valueIn_keyword (c : Char) (word : List Char) {v : Json}
    (hv : (c, word, v) ∈ [('n', ['u', 'l', 'l'], Json.null), ('t', ['r', 'u', 'e'], .bool true),
      ('f', ['a', 'l', 's', 'e'], .bool false)]) (rest : List Char) :
    Gives (valueIn embedded depth (c :: (word ++ rest))) v rest := by
  simp only [List.mem_cons, Prod.mk.injEq, List.not_mem_nil, or_false] at hv
  rcases hv with ⟨rfl, rfl, rfl⟩ | ⟨rfl, rfl, rfl⟩ | ⟨rfl, rfl, rfl⟩
  all_goals
    unfold valueIn
    split
    · next h => cases (skipBlanks_cons rfl _).symm.trans h
    · next h =>
      cases (skipBlanks_cons rfl _).symm.trans h
      exact gives_keyword _ rest _ h

theorem gives_valueIn_minus {n : Number} (hn : Gives (readNumber true t) n rest) :
    Gives (valueIn embedded depth ('-' :: t)) (.number n) rest := by
  have hblank := skipBlanks_cons (c := '-') rfl t
  unfold valueIn
  split
  · next h => cases hblank.symm.trans h
  · next h =>
    cases hblank.symm.trans h
    exact (hn.mapValue _).afterFirst h

theorem gives_valueIn_digit {c : Char} (hc : c.isDigit = true) {n : Number}
    (hn : Gives (readNumber false (c :: t)) n rest) :
    Gives (valueIn embedded depth (c :: t)) (.number n) rest := by
  have hblank := skipBlanks_cons (not_isBlank_of_isDigit hc) t
  unfold valueIn
  split
  · next h => cases hblank.symm.trans h
  · next h =>
    cases hblank.symm.trans h
    rw [if_neg (ne_of_isDigit hc rfl), if_neg (ne_of_isDigit hc rfl),
      if_neg (ne_of_isDigit hc rfl), if_neg (ne_of_isDigit hc rfl), if_pos hc]
    rw [← hblank] at hn
    exact (hn.mapValue _).widen _

theorem gives_valueIn_text (v : String) (rest : List Char) :
    Gives (valueIn embedded depth ('"' :: (behindQuote v ++ rest))) (.text v) rest := by
  have hblank := skipBlanks_cons (c := '"') rfl (behindQuote v ++ rest)
  unfold valueIn
  split
  · next h => cases hblank.symm.trans h
  · next h =>
    cases hblank.symm.trans h
    exact ((gives_readName v rest).mapValue _).afterFirst h

theorem gives_valueIn_list {vs : List Json} {texts : List (List Char)} {depth : Nat}
    (hitems : ReadsItems (fun acc u => (valueIn embedded depth u).mapValue (· :: acc)) [] texts
      vs.reverse) (rest : List Char) :
    Gives (valueIn embedded (depth + 1) ('[' :: (commas texts ++ ']' :: rest))) (.list vs) rest := by
  have hblank := skipBlanks_cons (c := '[') rfl (commas texts ++ ']' :: rest)
  unfold valueIn
  split
  · next h => cases hblank.symm.trans h
  · next h =>
    cases hblank.symm.trans h
    have hlist := ((gives_items hitems rest).mapValue fun vs => Json.list vs.reverse).afterFirst h
    rwa [List.reverse_reverse] at hlist

/-! ### Objects -/

theorem behindMark?_closed (rest : List Char) : behindMark? ('\x7d' :: rest) = none := by
  obtain ⟨h, heq⟩ := nextMember_closed true rest
  rw [behindMark?, heq]

/-- The name of the first member decides. -/
theorem behindMark?_quote (name : String) (rest : List Char) :
    (name ≠ embedMark → behindMark? ('"' :: (behindQuote name ++ rest)) = none) ∧
      (name = embedMark → ∃ h, behindMark? ('"' :: (behindQuote name ++ rest)) = some ⟨rest, h⟩) := by
  obtain ⟨hnext, hentry⟩ := nextMember_first (behindQuote name ++ rest)
  obtain ⟨hrest, hname⟩ := gives_readName name rest
  refine ⟨fun hne => ?_, fun heq => ⟨Nat.lt_succ_of_lt hrest, ?_⟩⟩
  · simp only [behindMark?, hentry, hname, if_neg hne]
  · simp only [behindMark?, hentry, hname, if_pos heq]
    rfl

theorem behindMark?_members {ms : List (String × Json)} (hms : (object ms).isMarked = false)
    (rest : List Char) :
    behindMark? (commas (memberTexts (charsOfMembers ms)) ++ '\x7d' :: rest) = none := by
  cases ms with
  | nil => exact behindMark?_closed rest
  | cons m ms =>
      have hne : m.1 ≠ embedMark := by simpa [isMarked] using hms
      rw [charsOfMembers, List.map_cons, memberTexts, List.map_cons, commas, List.append_assoc,
        memberText_append]
      exact (behindMark?_quote m.1 _).1 hne

theorem gives_valueIn_object {ms : List (String × Json)} {texts : List Char} {depth : Nat}
    (hmark : behindMark? (texts ++ '\x7d' :: rest) = none)
    (hmembers : Gives (members (fun acc name => .ok fun u =>
      (valueIn embedded depth u).mapValue (insert name · acc)) [] (texts ++ '\x7d' :: rest)) ms rest) :
    Gives (valueIn embedded (depth + 1) ('\x7b' :: (texts ++ '\x7d' :: rest))) (.object ms) rest := by
  have hblank := skipBlanks_cons (c := '\x7b') rfl (texts ++ '\x7d' :: rest)
  unfold valueIn
  split
  · next h => cases hblank.symm.trans h
  · next h =>
    cases hblank.symm.trans h
    simp only [Char.reduceEq, Char.reduceIsDigit, Bool.false_eq_true, if_false, if_true, hmark]
    exact (hmembers.mapValue Json.object).afterFirst h

/-! ## Whole values -/

/-- A value that is read back from its text: it is one that reading can give, without
floating-point numbers and embedded texts, and no deeper than `depth`. -/
structure Faithful (depth : Nat) (v : Json) : Prop where
  wellFormed : v.WellFormed
  floatFree : v.FloatFree
  unmarked : v.Unmarked
  shallow : v.depth ≤ depth

theorem Faithful.item {depth : Nat} {vs : List Json} (h : Faithful (depth + 1) (.list vs)) {v : Json}
    (hv : v ∈ vs) : Faithful depth v where
  wellFormed := ((every_list vs).1 h.wellFormed).2 v hv
  floatFree := ((every_list vs).1 h.floatFree).2 v hv
  unmarked := ((every_list vs).1 h.unmarked).2 v hv
  shallow := Nat.le_trans (depth_le_of_mem hv) (Nat.le_of_succ_le_succ h.shallow)

theorem Faithful.member {depth : Nat} {ms : List (String × Json)}
    (h : Faithful (depth + 1) (.object ms)) {m : String × Json} (hm : m ∈ ms) :
    Faithful depth m.2 where
  wellFormed := ((every_object ms).1 h.wellFormed).2 m hm
  floatFree := ((every_object ms).1 h.floatFree).2 m hm
  unmarked := ((every_object ms).1 h.unmarked).2 m hm
  shallow := Nat.le_trans (depth_le_of_mem_members hm) (Nat.le_of_succ_le_succ h.shallow)

theorem gives_valueIn_int {n : Int} (hn : Proper (.number (.int n))) (hrest : Ends rest) :
    Gives (valueIn embedded depth (chars (.number (.int n)) ++ rest)) (.number (.int n)) rest := by
  cases n with
  | ofNat n =>
      obtain ⟨c, t, hdigits, hc⟩ := toDigits_eq_cons n
      have hread := gives_readNumber_nat (Int.ofNat_lt.1 hn.2) hrest
      rw [hdigits] at hread
      rw [show chars (.number (.int (.ofNat n))) = c :: t from (chars_nat n).trans hdigits]
      exact gives_valueIn_digit hc hread
  | negSucc n =>
      have hbound : n + 1 ≤ Word.signedEnd := by
        have := hn.1
        omega
      rw [chars_negSucc]
      exact gives_valueIn_minus (gives_readNumber_neg (Nat.succ_pos n) hbound hrest)

/-- **A value is read back from its text.** The recursion goes down with the depth that is left. -/
theorem gives_valueIn_chars {depth : Nat} {v : Json} (hv : Faithful depth v) {rest : List Char}
    (hrest : Ends rest) : Gives (valueIn embedded depth (v.chars ++ rest)) v rest := by
  cases v with
  | null => exact gives_valueIn_keyword 'n' ['u', 'l', 'l'] (by simp) rest
  | bool b =>
      cases b with
      | true => exact gives_valueIn_keyword 't' ['r', 'u', 'e'] (by simp) rest
      | false => exact gives_valueIn_keyword 'f' ['a', 'l', 's', 'e'] (by simp) rest
  | number n =>
      cases n with
      | int n => exact gives_valueIn_int hv.wellFormed.self hrest
      | real x => cases hv.floatFree.self
  | text s =>
      rw [show chars (.text s) = '"' :: behindQuote s from toList_quoted s]
      exact gives_valueIn_text s rest
  | list vs =>
      cases depth with
      | zero => exact absurd hv.shallow (Nat.not_succ_le_zero _)
      | succ depth =>
          have hitems : ReadsItems (fun acc u => (valueIn embedded depth u).mapValue (· :: acc)) []
              (vs.map chars) (vs.map id).reverse :=
            readsItems_push chars id fun w hw => ⟨opens_chars (hv.item hw).floatFree.self,
              fun acc rest hrest => (gives_valueIn_chars (hv.item hw) hrest).mapValue (· :: acc)⟩
          rw [List.map_id] at hitems
          rw [chars_list, List.cons_append, List.append_assoc]
          exact gives_valueIn_list hitems rest
  | object ms =>
      cases depth with
      | zero => exact absurd hv.shallow (Nat.not_succ_le_zero _)
      | succ depth =>
          have hmembers : ReadsMembers (fun acc name => .ok fun u =>
              (valueIn embedded depth u).mapValue (insert name · acc)) [] (charsOfMembers ms)
              (ms.foldl (fun acc m => insert m.1 m.2 acc) []) :=
            readsMembers_foldl _ Prod.fst (fun m => m.2.chars) (fun m hm acc => ⟨_, rfl,
              fun rest hrest => (gives_valueIn_chars (hv.member hm) hrest).mapValue
                (insert m.1 · acc)⟩) []
          have hsorted : Sorted ([] ++ ms) := hv.wellFormed.self
          rw [foldl_insert hsorted, List.nil_append] at hmembers
          rw [chars_object, List.cons_append, List.append_assoc]
          exact gives_valueIn_object (behindMark?_members hv.unmarked.self rest)
            (gives_members hmembers rest)
termination_by depth

/-- A text that holds a value and nothing else stands for it. -/
theorem parse_compact {v : Json} (hv : Faithful maxDepth v) : parse v.compact = .ok v := by
  rw [parse]
  refine readAll_of_gives ?_
  rw [← List.append_nil v.compact.toList]
  exact gives_valueIn_chars hv ends_nil

theorem gives_value_chars {v : Json} (hv : Faithful depth v) (hrest : Ends rest) :
    Gives (value depth (v.chars ++ rest)) v rest :=
  gives_valueIn_chars hv hrest

/-! ## Lists and counts -/

theorem gives_listOf {σ : Type} {step : Nat → σ → Reader σ} {start acc : σ} {texts : List (List Char)}
    (h : ReadsItems (step depth) start texts acc) (rest : List Char) :
    Gives (listOf (depth + 1) step start ('[' :: (commas texts ++ ']' :: rest))) acc rest := by
  have hblank := skipBlanks_cons (c := '[') rfl (commas texts ++ ']' :: rest)
  unfold listOf
  split
  · next h' =>
    cases hblank.symm.trans h'
    exact (gives_items h rest).afterFirst h'
  · next h' => exact absurd hblank (h' _)

theorem gives_string_chars (v : String) (rest : List Char) :
    Gives (string (chars (.text v) ++ rest)) v rest := by
  rw [show chars (.text v) = (quoted v).toList from rfl]
  exact gives_string v rest

theorem gives_strings (vs : List String) (rest : List Char) :
    Gives (strings (depth + 1) (chars (.list (vs.map .text)) ++ rest)) vs rest := by
  have hitems : ReadsItems (fun acc u => (string u).mapValue (· :: acc)) []
      (vs.map fun v => chars (.text v)) (vs.map id).reverse :=
    readsItems_push _ id fun v _ =>
      ⟨opens_chars rfl, fun acc rest _ => (gives_string_chars v rest).mapValue (· :: acc)⟩
  have hlist : Gives (listOf (depth + 1) (fun _ acc u => (string u).mapValue (· :: acc)) [] _)
      _ rest := gives_listOf hitems rest
  have hstrings := hlist.mapValue List.reverse
  rw [List.map_id, List.reverse_reverse] at hstrings
  rw [chars_list, List.map_map, List.cons_append, List.append_assoc]
  exact hstrings

theorem Gives.unsigned {s r : List Char} {res : Result Number s} {n : Nat}
    (h : Gives res (.int n) r) : Gives (unsigned res) (some n) r := by
  obtain ⟨hr, rfl⟩ := h
  refine ⟨hr, ?_⟩
  rw [Json.unsigned, if_pos (Int.natCast_nonneg n)]
  rfl

theorem gives_count? {limit : Option Nat} (hlimit : ∀ n ∈ limit, n < Word.unsignedEnd)
    (hrest : Ends rest) :
    Gives (count? (chars ((limit.map ofNat).getD .null) ++ rest)) limit rest := by
  cases limit with
  | none =>
      have hblank := skipBlanks_cons (c := 'n') rfl ('u' :: 'l' :: 'l' :: rest)
      show Gives (count? ('n' :: 'u' :: 'l' :: 'l' :: rest)) none rest
      unfold count?
      split
      · next h => cases hblank.symm.trans h
      · next h =>
        cases hblank.symm.trans h
        exact gives_keyword ['u', 'l', 'l'] rest none h
  | some n =>
      obtain ⟨c, t, hdigits, hc⟩ := toDigits_eq_cons n
      have hread := gives_readNumber_nat (hlimit n rfl) hrest
      have hblank := skipBlanks_cons (not_isBlank_of_isDigit hc) (t ++ rest)
      rw [hdigits, List.cons_append, ← hblank] at hread
      rw [show chars (((some n).map ofNat).getD .null) = c :: t from (chars_nat n).trans hdigits]
      unfold count?
      split
      · next h => cases hblank.symm.trans h
      · next h =>
        cases hblank.symm.trans h
        rw [if_neg (ne_of_isDigit hc rfl), if_neg (ne_of_isDigit hc rfl), if_pos hc]
        exact hread.unsigned.widen _

/-! ## Embedded texts -/

theorem gives_embeddedValue {inner : String} {v : Json} (hv : embedded inner = some v)
    (rest : List Char) :
    Gives (embeddedValue embedded (':' :: ((quoted inner).toList ++ '\x7d' :: rest))) v rest := by
  obtain ⟨hcolon, hreadColon⟩ := gives_readColon ((quoted inner).toList ++ '\x7d' :: rest)
  obtain ⟨hinner, hstring⟩ := gives_string inner ('\x7d' :: rest)
  refine ⟨by simp only [List.length_cons] at hinner hcolon ⊢; omega, ?_⟩
  simp only [embeddedValue, hreadColon, hstring, hv]
  rfl

/-- An object that holds a text under the mark alone is read as what this text stands for. -/
theorem gives_valueIn_marked {inner : String} {v : Json} (hv : embedded inner = some v)
    (rest : List Char) :
    Gives (valueIn embedded (depth + 1) (chars (.object [(embedMark, .text inner)]) ++ rest)) v
      rest := by
  have htext : chars (.object [(embedMark, .text inner)]) ++ rest =
      '\x7b' :: '"' :: (behindQuote embedMark ++ ':' :: ((quoted inner).toList ++ '\x7d' :: rest)) := by
    rw [chars_object]
    simp [commas, memberTexts, charsOfMembers, memberText, toList_quoted, chars, compact]
  have hblank := skipBlanks_cons (c := '\x7b') rfl
    ('"' :: (behindQuote embedMark ++ ':' :: ((quoted inner).toList ++ '\x7d' :: rest)))
  obtain ⟨hmark, hbehind⟩ := (behindMark?_quote embedMark
    (':' :: ((quoted inner).toList ++ '\x7d' :: rest))).2 rfl
  rw [htext]
  unfold valueIn
  split
  · next h => cases hblank.symm.trans h
  · next h =>
    cases hblank.symm.trans h
    simp only [Char.reduceEq, Char.reduceIsDigit, Bool.false_eq_true, if_false, if_true, hbehind]
    exact ((gives_embeddedValue hv rest).andThen hmark).afterFirst h

end DataMart.Json
