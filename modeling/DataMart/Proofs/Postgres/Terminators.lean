import DataMart.Postgres.Cursor
import DataMart.Proofs.Text.Trimming

/-!
# The end of a declared query

A query is declared without the blanks around it and the semicolons at its end. These are taken off in
three steps, blanks, semicolons and blanks again, and each step is made once. So a semicolon is left at
the end exactly if it is parted by blanks from further ones (`PartedEnd`): the further ones are taken
off, then the blanks, and nothing more.

* `exists_pieces`: a query is what is left of it, with the pieces around that the steps take off.
* `declared_end`: what is left of a query, and when a semicolon stands at its end.
-/

namespace DataMart.Postgres

open Text (isBlank trimChars dropEndWhile)

variable {s front kept gap marks back : List Char} {query : String}

theorem toList_stripTerminator (query : String) : (stripTerminator query).toList =
    dropEndWhile isBlank (dropEndWhile (· = ';') (trimChars query.toList)) := by
  rw [stripTerminator, String.toList_ofList]

/-! ## Pieces -/

/-- A text in the pieces into which it is taken apart: blanks, what is kept, blanks, semicolons and
blanks. Each piece behind what is kept is as long as it can be. -/
structure Pieces (s front kept gap marks back : List Char) : Prop where
  eq : s = front ++ (kept ++ (gap ++ (marks ++ back)))
  blankFront : ∀ c ∈ front, isBlank c = true
  blankGap : ∀ c ∈ gap, isBlank c = true
  semicolons : ∀ c ∈ marks, c = ';'
  blankBack : ∀ c ∈ back, isBlank c = true
  first : ∀ c ∈ kept.head?, isBlank c = false
  last : ∀ c ∈ kept.getLast?, isBlank c = false
  beforeMarks : ∀ c ∈ (kept ++ gap).getLast?, c ≠ ';'
  beforeBack : ∀ c ∈ (kept ++ (gap ++ marks)).getLast?, isBlank c = false

/-- A query is what is left of it, with the pieces around that are taken off. -/
theorem exists_pieces (query : String) :
    ∃ front gap marks back, Pieces query.toList front (stripTerminator query).toList gap marks back := by
  obtain ⟨front, back, hquery, hfront, hback⟩ := Text.exists_trimChars query.toList
  obtain ⟨marks, hmarks, hmark⟩ := Text.dropEndWhile_append (· = ';') (trimChars query.toList)
  obtain ⟨gap, hgap, hblank⟩ := Text.dropEndWhile_append isBlank
    (dropEndWhile (· = ';') (trimChars query.toList))
  rw [← toList_stripTerminator] at hgap
  have htrimmed : trimChars query.toList = (stripTerminator query).toList ++ (gap ++ marks) := by
    rw [← List.append_assoc, ← hgap, ← hmarks]
  refine ⟨front, gap, marks, back, ?_⟩
  constructor
  case eq => rw [hquery, htrimmed]; simp
  case blankFront => exact hfront
  case blankGap => exact hblank
  case semicolons => simpa using hmark
  case blankBack => exact hback
  case first =>
    intro c hc
    refine Text.not_isBlank_of_mem_head?_trimChars (s := query.toList) ?_
    rw [htrimmed, List.head?_append, Option.mem_def.1 hc, Option.some_or, Option.mem_def]
  case last =>
    rw [toList_stripTerminator]
    intro c hc
    exact Text.not_of_mem_getLast?_dropEndWhile hc
  case beforeMarks =>
    rw [← hgap]
    intro c hc
    simpa using Text.not_of_mem_getLast?_dropEndWhile hc
  case beforeBack =>
    rw [← htrimmed]
    intro c hc
    exact Text.not_isBlank_of_mem_getLast?_trimChars hc

/-! ## The last character -/

/-- The last semicolons of a text stand behind blanks, and these behind a further semicolon. -/
def PartedEnd (s : List Char) : Prop :=
  ∃ body gap marks back, s = body ++ ';' :: (gap ++ (marks ++ back)) ∧
    gap ≠ [] ∧ (∀ c ∈ gap, isBlank c = true) ∧ marks ≠ [] ∧ (∀ c ∈ marks, c = ';') ∧
    ∀ c ∈ back, isBlank c = true

/-- A semicolon that is kept at the end is parted from further ones. -/
theorem Pieces.partedEnd (h : Pieces s front kept gap marks back) (hkept : kept.getLast? = some ';') :
    PartedEnd s := by
  obtain ⟨body, rfl⟩ := List.getLast?_eq_some_iff.1 hkept
  have hgap : gap ≠ [] := by
    rintro rfl
    exact h.beforeMarks ';' (by simp) rfl
  have hmarks : marks ≠ [] := by
    rintro rfl
    obtain ⟨c, hc⟩ := Option.ne_none_iff_exists'.1 (mt List.getLast?_eq_none_iff.1 hgap)
    have hblank := h.blankGap c (List.mem_of_getLast? hc)
    have hlast := h.beforeBack c
    rw [List.append_nil, List.getLast?_append_of_ne_nil _ hgap] at hlast
    rw [hlast hc] at hblank
    cases hblank
  refine ⟨front ++ body, gap, marks, back, ?_, hgap, h.blankGap, hmarks, h.semicolons, h.blankBack⟩
  rw [h.eq]
  simp

/-- A semicolon that is parted from further ones is kept at the end: each of the three steps stops at
the piece behind which it takes something off. -/
theorem getLast?_of_partedEnd (h : PartedEnd query.toList) :
    (stripTerminator query).toList.getLast? = some ';' := by
  obtain ⟨body, gap, marks, back, hquery, hgap, hblank, hmarks, hmark, hback⟩ := h
  have hsemicolon : isBlank ';' = false := by decide
  have hmarksStay : ∀ c ∈ marks, isBlank c = false := fun c hc => by rw [hmark c hc, hsemicolon]
  have hgapStays : ∀ c ∈ gap, decide (c = ';') = false := by
    intro c hc
    rw [decide_eq_false_iff_not]
    rintro rfl
    rw [hblank _ hc] at hsemicolon
    cases hsemicolon
  have hfront : query.toList.dropWhile isBlank =
      body.dropWhile isBlank ++ ';' :: (gap ++ (marks ++ back)) := by
    rw [hquery, List.dropWhile_append]
    split_ifs with hempty
    · rw [List.isEmpty_iff.1 hempty, List.nil_append,
        List.dropWhile_cons_of_neg (by simp [hsemicolon])]
    · rfl
  have hblanksOff : trimChars query.toList = body.dropWhile isBlank ++ ([';'] ++ gap) ++ marks := by
    rw [trimChars, hfront, ← List.singleton_append, ← List.append_assoc [';'] gap,
      ← List.append_assoc, Text.dropEndWhile_append_append _ hmarks hmarksStay hback]
  have hmarksOff : dropEndWhile (· = ';') (trimChars query.toList) =
      body.dropWhile isBlank ++ ([';'] ++ gap) := by
    rw [hblanksOff, ← List.append_assoc, List.append_assoc _ gap marks,
      Text.dropEndWhile_append_append _ hgap hgapStays (by simpa using hmark), List.append_assoc]
  rw [toList_stripTerminator, hmarksOff,
    Text.dropEndWhile_append_append _ (by simp) (by simp [hsemicolon]) hblank, List.getLast?_concat]

theorem getLast?_stripTerminator_iff (query : String) :
    (stripTerminator query).toList.getLast? = some ';' ↔ PartedEnd query.toList := by
  obtain ⟨front, gap, marks, back, hpieces⟩ := exists_pieces query
  exact ⟨hpieces.partedEnd, getLast?_of_partedEnd⟩

/-- What is declared ends as what is left of the query does, if something is. -/
theorem getLast?_declareText_iff (query : String) :
    (declareText query).toList.getLast? = some ';' ↔ PartedEnd query.toList := by
  rw [← getLast?_stripTerminator_iff, declareText, String.toList_append, List.getLast?_append]
  cases hlast : (stripTerminator query).toList.getLast? with
  | none => simp [cursorName]
  | some c => simp

/-! ## Stripping again -/

/-- What is left of a query is left again unless a semicolon stands at its end. -/
theorem stripTerminator_stripTerminator_iff (query : String) :
    stripTerminator (stripTerminator query) = stripTerminator query ↔ ¬ PartedEnd query.toList := by
  obtain ⟨front, gap, marks, back, hpieces⟩ := exists_pieces query
  rw [← getLast?_stripTerminator_iff, ← String.toList_inj, toList_stripTerminator,
    Text.trimChars_eq_self hpieces.first hpieces.last]
  have hlast := hpieces.last
  generalize (stripTerminator query).toList = kept at hlast
  constructor
  · intro hsame hmark
    -- each step takes something off or nothing, so the semicolons would all have been kept
    have hle := (Text.dropEndWhile_prefix isBlank (dropEndWhile (· = ';') kept)).length_le
    rw [hsame] at hle
    have hkept := (Text.dropEndWhile_prefix (· = ';') kept).eq_of_length_le hle
    rw [← hkept] at hmark
    simpa using Text.not_of_mem_getLast?_dropEndWhile hmark
  · intro hmark
    have hkept : dropEndWhile (· = ';') kept = kept := by
      refine Text.dropEndWhile_eq_self fun c hc => ?_
      rw [decide_eq_false_iff_not]
      rintro rfl
      exact hmark hc
    rw [hkept, Text.dropEndWhile_eq_self hlast]

/-- **The end of a declared query.** What is left of a query is a part of it, taken out of blanks on
its front and of blanks and semicolons on its end, and it neither starts nor ends with a blank. A
semicolon stands at its end, and so at the end of what is declared, exactly if the last semicolons of
the query are parted by blanks from a further one; otherwise, and only then, stripping it again leaves
it as it is. -/
theorem declared_end (query : String) :
    (∃ front back, query.toList = front ++ ((stripTerminator query).toList ++ back) ∧
      (∀ c ∈ front, isBlank c = true) ∧ ∀ c ∈ back, isBlank c = true ∨ c = ';') ∧
    (∀ c ∈ (stripTerminator query).toList.head?, isBlank c = false) ∧
    (∀ c ∈ (stripTerminator query).toList.getLast?, isBlank c = false) ∧
    ((stripTerminator query).toList.getLast? = some ';' ↔ PartedEnd query.toList) ∧
    ((declareText query).toList.getLast? = some ';' ↔ PartedEnd query.toList) ∧
    (stripTerminator (stripTerminator query) = stripTerminator query ↔
      ¬ PartedEnd query.toList) := by
  obtain ⟨front, gap, marks, back, hpieces⟩ := exists_pieces query
  refine ⟨⟨front, gap ++ (marks ++ back), hpieces.eq, hpieces.blankFront, fun c hc => ?_⟩,
    hpieces.first, hpieces.last, getLast?_stripTerminator_iff query, getLast?_declareText_iff query,
    stripTerminator_stripTerminator_iff query⟩
  rcases List.mem_append.1 hc with hgap | hc
  · exact .inl (hpieces.blankGap c hgap)
  · rcases List.mem_append.1 hc with hmark | hback
    · exact .inr (hpieces.semicolons c hmark)
    · exact .inl (hpieces.blankBack c hback)

/-- Of two semicolons with a blank between them the first one is declared. -/
theorem first_semicolon_declared :
    stripTerminator "SELECT 1; ;" = "SELECT 1;" ∧
    declareText "SELECT 1; ;" = "DECLARE salesmart_extract NO SCROLL CURSOR FOR SELECT 1;" ∧
    stripTerminator (stripTerminator "SELECT 1; ;") ≠ stripTerminator "SELECT 1; ;" := by
  decide

end DataMart.Postgres
