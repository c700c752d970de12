import DataMart.Proofs.Query.Columns
import DataMart.Proofs.Store.Writing

/-!
# Declarations read back

The names of tables and columns come from outside and go into the text that creates a table. Read
with the engine's own reader of tokens, a quoted name ends where it was meant to end
(`readIdentifier_identifier`), whatever is in it; so the declared columns are read back
(`readColumnDefs_columnDefs`), and so is the whole text (`readCreate_createText`). Names do not break out
of their quotes: `names_stay_quoted`.
-/

namespace DataMart

open Text (Quoted.encode Quoted.enclose Quoted.identifier)

/-! ## One name -/

/-- The quoted name at the start of a text, and the text behind it. -/
def readIdentifier (s : String) : Option (String × String) :=
  match s.toList with
  | '"' :: rest =>
    (QueryToken.takeQuoted '"' rest).map fun (name, after) =>
      (String.ofList name, String.ofList after)
  | _ => none

/-- A quoted name is read back, and what follows it is left. -/
theorem readIdentifier_identifier (name t : String) (h : t.toList.head? ≠ some '"') :
    readIdentifier (Quoted.identifier name ++ t) = some (name, t) := by
  have hchars : (Quoted.identifier name ++ t).toList =
      '"' :: (Quoted.encode name.toList ++ '"' :: t.toList) := by
    simp [Quoted.identifier, Quoted.enclose]
  simp only [readIdentifier, hchars, QueryToken.takeQuoted_encode _ _ h, Option.map_some,
    String.ofList_toList]

/-- Different names are quoted differently. -/
theorem identifier_injective : Function.Injective Quoted.identifier := by
  intro a b hab
  have ha := readIdentifier_identifier a "" nofun
  rw [hab, readIdentifier_identifier b "" nofun] at ha
  cases ha
  rfl

/-! ## Tokens -/

namespace QueryToken

/-- A text has the given tokens. -/
def Scans (s : List Char) (ts : List QueryToken) : Prop := ∀ n, s.length ≤ n → scan n s = some ts

/-- Whether a character is neither blank nor the start of a quoted text or of a number. -/
def isPlain (c : Char) : Bool :=
  !Text.isBlank c && c ≠ '"' && c ≠ '\'' && !(c.isDigit || c = '.')

/-- Whether some characters are a bare word. -/
def isWord : List Char → Bool
  | [] => false
  | c :: rest => isPlain c && (c :: rest).all isNameChar

/-- A text whose first character cannot go on a word does not go on one. -/
theorem ends_cons {c : Char} (h : isNameChar c = false) (s : List Char) :
    ∀ d ∈ (c :: s).head?, isNameChar d = false := by
  intro d hd
  cases hd
  exact h

namespace Scans

variable {c : Char} {s : List Char} {ts : List QueryToken}

/-- The empty text has no tokens. -/
theorem nil : Scans [] [] := by
  intro n _
  cases n <;> rfl

/-- A text that is not empty takes a try at least. -/
theorem of_cons (h : ∀ n, s.length ≤ n → scan (n + 1) (c :: s) = some ts) : Scans (c :: s) ts := by
  intro n hn
  cases n with
  | zero => cases hn
  | succ n => exact h n (Nat.le_of_succ_le_succ hn)

/-- A blank is no token. -/
theorem blank (h : Scans s ts) (hc : Text.isBlank c = true) : Scans (c :: s) ts := by
  refine of_cons fun n hn => ?_
  rw [scan, if_pos hc]
  exact h n hn

/-- A quoted name is one token. -/
theorem quoted (h : Scans s ts) (name : String) (hs : s.head? ≠ some '"') :
    Scans ((Quoted.identifier name).toList ++ s) (.quoted name :: ts) := by
  have hchars : (Quoted.identifier name).toList ++ s =
      '"' :: (Quoted.encode name.toList ++ '"' :: s) := by
    simp [Quoted.identifier, Quoted.enclose]
  rw [hchars]
  refine of_cons fun n hn => ?_
  have hlength : s.length ≤ n := by
    simp only [List.length_append, List.length_cons] at hn
    omega
  have hblank : Text.isBlank '"' = false := by decide
  simp only [scan, hblank, takeQuoted_encode _ _ hs, h n hlength, Bool.false_eq_true, if_false,
    if_true, Option.map_some, String.ofList_toList]

/-- A bare word is one token, unless the word goes on behind it. -/
theorem word (h : Scans s ts) {w : String} (hw : isWord w.toList = true)
    (hs : ∀ d ∈ s.head?, isNameChar d = false) : Scans (w.toList ++ s) (.word w :: ts) := by
  obtain ⟨cs, rfl⟩ : ∃ cs, w = String.ofList cs := ⟨w.toList, String.ofList_toList.symm⟩
  rw [String.toList_ofList] at hw ⊢
  cases cs with
  | nil => cases hw
  | cons c cs =>
      simp only [isWord, isPlain, List.all_cons, Bool.and_eq_true, Bool.not_eq_true',
        decide_eq_true_eq] at hw
      obtain ⟨⟨⟨⟨hblank, hquote⟩, hmark⟩, hnumber⟩, hname, hall⟩ := hw
      rw [List.all_eq_true] at hall
      -- the word ends where `s` begins
      have htake : (cs ++ s).takeWhile isNameChar = cs := by
        rw [List.takeWhile_append_of_pos hall]
        cases s with
        | nil => exact List.append_nil cs
        | cons d s => rw [List.takeWhile_cons_of_neg (by simp [hs d rfl]), List.append_nil]
      have hdrop : (cs ++ s).dropWhile isNameChar = s := by
        rw [List.dropWhile_append_of_pos hall]
        cases s with
        | nil => rfl
        | cons d s => exact List.dropWhile_cons_of_neg (by simp [hs d rfl])
      refine of_cons fun n hn => ?_
      have hlength : s.length ≤ n := by
        rw [List.append_eq, List.length_append] at hn
        omega
      simp only [List.append_eq, scan, hblank, hquote, hmark, hnumber, hname, htake, hdrop,
        h n hlength, Bool.false_eq_true, if_false, if_true, Option.map_some]

/-- A character that is part of no longer token is one token. -/
theorem symbol (h : Scans s ts) (hc : isPlain c = true) (hname : isNameChar c = false) :
    Scans (c :: s) (.symbol c :: ts) := by
  simp only [isPlain, Bool.and_eq_true, Bool.not_eq_true', decide_eq_true_eq] at hc
  obtain ⟨⟨⟨hblank, hquote⟩, hmark⟩, hnumber⟩ := hc
  refine of_cons fun n hn => ?_
  simp only [scan, hblank, hquote, hmark, hnumber, hname, h n hn, Bool.false_eq_true, if_false,
    Option.map_some]

/-- What the engine's reader makes of such a text. -/
theorem tokens_eq {s : String} (h : Scans s.toList ts) : Expr.tokens s = .ok ts := by
  rw [Expr.tokens, h s.toList.length (Nat.le_refl _)]

end Scans

end QueryToken

open QueryToken (Scans isWord ends_cons)

/-! ## Lists of columns -/

/-- The columns declared at the start of some tokens, a comma between two of them, and the tokens
behind them. -/
def readDefinitions : List QueryToken → Option (List Column × List QueryToken)
  | .quoted name :: .word w :: .symbol ',' :: rest => do
    let type ← ColumnType.ofSqlName? w
    let (columns, after) ← readDefinitions rest
    return (⟨name, type⟩ :: columns, after)
  | .quoted name :: .word w :: rest => do
    let type ← ColumnType.ofSqlName? w
    return ([⟨name, type⟩], rest)
  | _ => none

/-- The columns that some tokens declare up to those at their end; there may be none. -/
def readUpTo (last ts : List QueryToken) : Option (List Column) :=
  if ts = last then some []
  else do
    let (columns, after) ← readDefinitions ts
    if after = last then some columns else none

/-- The columns that a text declares. -/
def readColumnDefs (s : String) : Option (List Column) :=
  match Expr.tokens s with
  | .ok ts => readUpTo [] ts
  | .error _ => none

/-- What a text creates: whether it is temporary, its name and its columns. -/
def readCreate (s : String) : Option (Bool × String × List Column) :=
  match Expr.tokens s with
  | .ok (.word "CREATE" :: .word "TEMP" :: .word "TABLE" :: .quoted table :: .symbol '(' :: ts) =>
    (readUpTo [.symbol ')'] ts).map fun columns => (true, table, columns)
  | .ok (.word "CREATE" :: .word "TABLE" :: .quoted table :: .symbol '(' :: ts) =>
    (readUpTo [.symbol ')'] ts).map fun columns => (false, table, columns)
  | _ => none

/-- The tokens of the columns of a table in the text that creates it. -/
def definitionTokens : List Column → List QueryToken
  | [] => []
  | [c] => [.quoted c.name, .word c.type.sqlName]
  | c :: d :: rest =>
    .quoted c.name :: .word c.type.sqlName :: .symbol ',' :: definitionTokens (d :: rest)

/-- The columns are read off these tokens, up to what follows them. -/
theorem readDefinitions_definitionTokens {columns : List Column} (hne : columns ≠ [])
    {ts : List QueryToken} (hts : ts.head? ≠ some (.symbol ',')) :
    readDefinitions (definitionTokens columns ++ ts) = some (columns, ts) := by
  fun_induction definitionTokens columns with
  | case1 => exact absurd rfl hne
  | case2 c =>
      rw [List.cons_append, List.cons_append, List.nil_append, readDefinitions,
        ColumnType.ofSqlName?_sqlName]
      · rfl
      · rintro rest rfl
        exact hts rfl
  | case3 c d rest ih =>
      rw [List.cons_append, List.cons_append, List.cons_append, readDefinitions,
        ColumnType.ofSqlName?_sqlName, ih (List.cons_ne_nil d rest)]
      rfl

/-- So are all of them, up to the given end. -/
theorem readUpTo_definitionTokens (columns : List Column) {last : List QueryToken}
    (hlast : last.head? ≠ some (.symbol ',')) :
    readUpTo last (definitionTokens columns ++ last) = some columns := by
  unfold readUpTo
  cases columns with
  | nil => exact if_pos rfl
  | cons c rest =>
      have hne : definitionTokens (c :: rest) ≠ [] := by cases rest <;> exact List.cons_ne_nil _ _
      rw [if_neg (by simpa using hne), readDefinitions_definitionTokens (List.cons_ne_nil c rest) hlast]
      exact if_pos rfl

/-- The declared types are bare words. -/
theorem isWord_sqlName (t : ColumnType) : isWord t.sqlName.toList = true := by
  cases t <;> decide +kernel

/-- One column of the text. -/
theorem scans_column {s : List Char} {ts : List QueryToken} (h : Scans s ts)
    (hs : ∀ d ∈ s.head?, QueryToken.isNameChar d = false) (c : Column) :
    Scans ((Quoted.identifier c.name ++ " " ++ c.type.sqlName).toList ++ s)
      (.quoted c.name :: .word c.type.sqlName :: ts) := by
  have hword := (h.word (isWord_sqlName c.type) hs).blank (c := ' ') (by decide)
  simpa using hword.quoted c.name (by simp)

/-- The text has these tokens. -/
theorem scans_columnDefs {s : List Char} {ts : List QueryToken} (h : Scans s ts)
    (hs : ∀ d ∈ s.head?, QueryToken.isNameChar d = false) (columns : List Column) :
    Scans ((columnDefs columns).toList ++ s) (definitionTokens columns ++ ts) := by
  fun_induction definitionTokens columns with
  | case1 => exact h
  | case2 c => exact scans_column h hs c
  | case3 c d rest ih =>
      have hcomma := (ih.blank (c := ' ') (by decide)).symbol (c := ',') (by decide) (by decide)
      have hfirst := scans_column hcomma (ends_cons (by decide) _) c
      simpa [columnDefs, Text.joinWith] using hfirst

/-- The declared columns are read back. -/
theorem readColumnDefs_columnDefs (columns : List Column) :
    readColumnDefs (columnDefs columns) = some columns := by
  have hscan := scans_columnDefs Scans.nil nofun columns
  rw [List.append_nil] at hscan
  rw [readColumnDefs, hscan.tokens_eq]
  exact readUpTo_definitionTokens columns nofun

/-- The tokens of a text that creates a table. -/
def createTokens (temporary : Bool) (table : String) (columns : List Column) : List QueryToken :=
  .word "CREATE" :: ((if temporary then [.word "TEMP"] else []) ++
    .word "TABLE" :: .quoted table :: .symbol '(' :: (definitionTokens columns ++ [.symbol ')']))

/-- The text has these tokens. -/
theorem scans_createText (temporary : Bool) (table : String) (columns : List Column) :
    Scans (createText temporary table columns).toList (createTokens temporary table columns) := by
  have hclose := Scans.nil.symbol (c := ')') (by decide) (by decide)
  have hcolumns := scans_columnDefs hclose (ends_cons (by decide) _) columns
  have hopen := (hcolumns.symbol (c := '(') (by decide) (by decide)).blank (c := ' ') (by decide)
  have hname := (hopen.quoted table (by simp)).blank (c := ' ') (by decide)
  -- the keywords stand before a blank each, from the last to the first
  have htable := hname.word (w := "TABLE") (by decide +kernel) (ends_cons (by decide) _)
  have hspaced := htable.blank (c := ' ') (by decide)
  cases temporary with
  | false =>
      have h := hspaced.word (w := "CREATE") (by decide +kernel) (ends_cons (by decide) _)
      simpa [createText, createTokens] using h
  | true =>
      have htemp := (hspaced.word (w := "TEMP") (by decide +kernel) (ends_cons (by decide) _)).blank
        (c := ' ') (by decide)
      have h := htemp.word (w := "CREATE") (by decide +kernel) (ends_cons (by decide) _)
      simpa [createText, createTokens] using h

/-- What a text creates is read back. -/
theorem readCreate_createText (temporary : Bool) (table : String) (columns : List Column) :
    readCreate (createText temporary table columns) = some (temporary, table, columns) := by
  have hcolumns : readUpTo [.symbol ')'] (definitionTokens columns ++ [.symbol ')']) =
      some columns := readUpTo_definitionTokens columns nofun
  unfold readCreate
  rw [(scans_createText temporary table columns).tokens_eq]
  cases temporary with
  | false => simp [createTokens, hcolumns]
  | true => simp [createTokens, hcolumns]

/-- The table that the engine makes has the name and the columns that its text says. -/
theorem newTable_as_written {columns : List Column} (h : columnsFault? columns = none)
    (table : String) :
    ∃ t, newTable table columns = .ok t ∧
      readCreate (createText false table columns) = some (false, t.name, columns) ∧
      Session.readColumns table t.columns = .ok columns := by
  obtain ⟨t, ht, hname, hcolumns, -⟩ := exists_newTable h table
  refine ⟨t, ht, by rw [hname, readCreate_createText], ?_⟩
  exact Session.readColumns_eq_ok table (Table.schema?_of_ofColumn hcolumns)

/-- Names do not break out of their quotes. A quoted name in front of a text that does not start
with a double quote is read as just that name, and the text is left; so different names are quoted
differently. The columns of a table are read back from the text that declares them, their names and
types in order, whatever the names are, and the table that the engine makes has just these. Two
texts that create tables are the same only if the tables are. -/
theorem names_stay_quoted :
    (∀ name t : String, t.toList.head? ≠ some '"' →
      readIdentifier (Quoted.identifier name ++ t) = some (name, t)) ∧
    Function.Injective Quoted.identifier ∧
    (∀ columns, readColumnDefs (columnDefs columns) = some columns) ∧
    Function.Injective columnDefs ∧
    (∀ table columns, columnsFault? columns = none → ∃ t, newTable table columns = .ok t ∧
      readCreate (createText false table columns) = some (false, t.name, columns) ∧
      Session.readColumns table t.columns = .ok columns) ∧
    ∀ temporary table columns temporary' table' columns',
      createText temporary table columns = createText temporary' table' columns' →
        temporary = temporary' ∧ table = table' ∧ columns = columns' := by
  refine ⟨readIdentifier_identifier, identifier_injective, readColumnDefs_columnDefs, ?_,
    fun table _ h => newTable_as_written h table, ?_⟩
  · intro a b hab
    have ha := readColumnDefs_columnDefs a
    rw [hab, readColumnDefs_columnDefs] at ha
    exact (Option.some.inj ha).symm
  · intro temporary table columns temporary' table' columns' hsame
    have h := readCreate_createText temporary table columns
    rw [hsame, readCreate_createText] at h
    cases h
    exact ⟨rfl, rfl, rfl⟩

/-- A name that looks like the end of a list of columns. -/
def awkwardColumn : Column := ⟨"a\" TEXT, \"b", .integer⟩

/-- It is still one column, and the table that it stands in can be made. -/
theorem awkwardColumn_stays_quoted :
    readIdentifier (Quoted.identifier awkwardColumn.name ++ " BIGINT)") =
      some (awkwardColumn.name, " BIGINT)") ∧
    readColumnDefs (columnDefs [awkwardColumn, ⟨"b", .text⟩]) =
      some [awkwardColumn, ⟨"b", .text⟩] ∧
    ∃ t, newTable "a" [awkwardColumn, ⟨"b", .text⟩] = .ok t ∧
      Session.readColumns "a" t.columns = .ok [awkwardColumn, ⟨"b", .text⟩] := by
  obtain ⟨hname, -, hcolumns, -, htable, -⟩ := names_stay_quoted
  obtain ⟨t, ht, -, hschema⟩ := htable "a" [awkwardColumn, ⟨"b", .text⟩] (by decide +kernel)
  exact ⟨hname _ _ (by decide +kernel), hcolumns _, t, ht, hschema⟩

end DataMart
