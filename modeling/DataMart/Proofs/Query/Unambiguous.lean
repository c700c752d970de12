import DataMart.Proofs.Query.Shape

/-!
# Reading a query off its text

A query whose names and expressions are words, that is, not empty and without blanks and commas, can
be read off its statement. The text is cut from the left: a word ends at a blank or a comma, and the
letter behind the next blank tells what follows it.

* `Legible` says of a way to write things that what was written can be told, in front of any text that
  may follow it. It passes from the members of a list to joined lists and clauses.
* `plain_eq_iff`: two queries of words have the same statement exactly if they are the same query,
  except that a text stands for a column or for an expression.
-/

namespace DataMart

open Statement (push bind join clause led)

namespace Statement

/-- The characters of the text of a statement. -/
def chars (s : Statement) : List Char := s.sql.toList

@[simp] theorem chars_empty : ({} : Statement).chars = [] := rfl

@[simp] theorem chars_push (text : String) : (push text).chars = text.toList := rfl

@[simp] theorem chars_bind (v : Value) : (bind v).chars = ['?'] := by
  simp [chars]

@[simp] theorem chars_append (a b : Statement) : (a ++ b).chars = a.chars ++ b.chars := by
  simp [chars, String.toList_append]

end Statement

/-! ## Words -/

/-- A text that is not empty and holds neither a blank nor a comma. -/
def IsWord (text : String) : Prop := text.toList ≠ [] ∧ ' ' ∉ text.toList ∧ ',' ∉ text.toList

instance (text : String) : Decidable (IsWord text) :=
  inferInstanceAs (Decidable (text.toList ≠ [] ∧ ' ' ∉ text.toList ∧ ',' ∉ text.toList))

/-- A text that starts with what ends a word. -/
def EndsWord (r : List Char) : Prop := ∃ c t, r = c :: t ∧ (c = ' ' ∨ c = ',')

/-- A text that starts with a blank and one of some letters. -/
def Opens (letters r : List Char) : Prop := ∃ c t, c ∈ letters ∧ r = ' ' :: c :: t

theorem Opens.endsWord {letters r : List Char} (h : Opens letters r) : EndsWord r := by
  obtain ⟨c, t, -, rfl⟩ := h
  exact ⟨' ', c :: t, rfl, .inl rfl⟩

theorem Opens.mono {letters letters' r : List Char} (h : Opens letters r)
    (hsub : letters ⊆ letters') : Opens letters' r := by
  obtain ⟨c, t, hc, rfl⟩ := h
  exact ⟨c, t, hsub hc, rfl⟩

theorem Opens.ne_comma {letters r : List Char} (h : Opens letters r) (x : List Char) :
    r ≠ ", ".toList ++ x := by
  obtain ⟨c, t, -, rfl⟩ := h
  simp

/-- A text does not start with a keyword that starts with another letter. -/
theorem Opens.ne_append {letters r word t : List Char} {k : Char} (h : Opens letters r)
    (hword : word = ' ' :: k :: t) (hk : k ∉ letters) (x : List Char) : r ≠ word ++ x := by
  obtain ⟨c, u, hc, rfl⟩ := h
  subst hword
  intro heq
  simp only [List.cons_append, List.cons.injEq] at heq
  exact hk (heq.2.1 ▸ hc)

/-- Two words with what follows them. -/
theorem append_inj_of_isWord {a b : String} (ha : IsWord a) (hb : IsWord b) {r r' : List Char}
    (hr : EndsWord r) (hr' : EndsWord r') (h : a.toList ++ r = b.toList ++ r') :
    a = b ∧ r = r' := by
  have hcut {w : List Char} {r : List Char} (hblank : ' ' ∉ w) (hcomma : ',' ∉ w)
      (hr : EndsWord r) : (w ++ r).takeWhile (fun c => c != ' ' && c != ',') = w := by
    obtain ⟨c, t, rfl, hc⟩ := hr
    have hw : ∀ d ∈ w, (d != ' ' && d != ',') = true := by
      intro d hd
      simp only [Bool.and_eq_true, bne_iff_ne]
      exact ⟨fun h => hblank (h ▸ hd), fun h => hcomma (h ▸ hd)⟩
    rw [List.takeWhile_append_of_pos hw]
    rcases hc with rfl | rfl <;> simp
  have hab : a.toList = b.toList := by
    rw [← hcut ha.2.1 ha.2.2 hr, h, hcut hb.2.1 hb.2.2 hr']
  rw [hab] at h
  exact ⟨String.toList_inj.1 hab, List.append_cancel_left h⟩

/-! ## Legible writing -/

/-- What was written by `g` can be told from the text, up to `view`, in front of any text that may
follow it. -/
def Legible {α β : Type} (g : α → Statement) (Good : α → Prop) (Next : List Char → Prop)
    (view : α → β) : Prop :=
  ∀ a b r r', Good a → Good b → Next r → Next r' → (g a).chars ++ r = (g b).chars ++ r' →
    view a = view b ∧ r = r'

/-- A separator goes on from a member of a list, and is not taken for what follows the list. -/
structure Separates (sep : String) (Next End : List Char → Prop) : Prop where
  goesOn : ∀ x, Next (sep.toList ++ x)
  ends : ∀ r, End r → Next r
  ne_append : ∀ r x, End r → r ≠ sep.toList ++ x

namespace Legible

variable {α β : Type} {g : α → Statement} {Good : α → Prop} {Next End : List Char → Prop}
  {view : α → β} {sep keyword : String}

/-- Behind a member stands a separator or what follows the list. -/
theorem next_led (hsep : Separates sep Next End) (as : List α) {r : List Char} (hr : End r) :
    Next ((Statement.led sep (as.map g)).chars ++ r) := by
  cases as with
  | nil => exact hsep.ends r hr
  | cons a as =>
      simp only [List.map_cons, Statement.led, Statement.chars_append, Statement.chars_push,
        List.append_assoc]
      exact hsep.goesOn _

/-- A list whose members each follow a separator. -/
theorem led (h : Legible g Good Next view) (hsep : Separates sep Next End) :
    Legible (fun as => Statement.led sep (as.map g)) (fun as => ∀ a ∈ as, Good a) End
      (List.map view) := by
  have hchars (a : α) (as : List α) (r : List Char) :
      (Statement.led sep ((a :: as).map g)).chars ++ r =
        sep.toList ++ ((g a).chars ++ ((Statement.led sep (as.map g)).chars ++ r)) := by
    simp only [List.map_cons, Statement.led, Statement.chars_append, Statement.chars_push,
      List.append_assoc]
  intro as
  induction as with
  | nil =>
      intro bs r r' _ _ hr _ heq
      cases bs with
      | nil => exact ⟨rfl, heq⟩
      | cons b bs => exact absurd (heq.trans (hchars b bs r')) (hsep.ne_append r _ hr)
  | cons a as ih =>
      intro bs r r' has hbs hr hr' heq
      cases bs with
      | nil => exact absurd (heq.symm.trans (hchars a as r)) (hsep.ne_append r' _ hr')
      | cons b bs =>
          rw [List.forall_mem_cons] at has hbs
          rw [hchars, hchars] at heq
          obtain ⟨hab, hrest⟩ := h a b _ _ has.1 hbs.1 (next_led hsep as hr) (next_led hsep bs hr')
            (List.append_cancel_left heq)
          obtain ⟨hrest, hr⟩ := ih bs r r' has.2 hbs.2 hr hr' hrest
          exact ⟨by rw [List.map_cons, List.map_cons, hab, hrest], hr⟩

/-- Joined lists that have members. -/
theorem join_cons (h : Legible g Good Next view) (hsep : Separates sep Next End) {a b : α}
    {as bs : List α} {r r' : List Char} (has : ∀ x ∈ a :: as, Good x)
    (hbs : ∀ x ∈ b :: bs, Good x) (hr : End r) (hr' : End r')
    (heq : (join sep ((a :: as).map g)).chars ++ r = (join sep ((b :: bs).map g)).chars ++ r') :
    (a :: as).map view = (b :: bs).map view ∧ r = r' := by
  rw [List.forall_mem_cons] at has hbs
  simp only [List.map_cons, Statement.join_cons, Statement.chars_append, List.append_assoc] at heq
  obtain ⟨hab, hrest⟩ :=
    h a b _ _ has.1 hbs.1 (next_led hsep as hr) (next_led hsep bs hr') heq
  obtain ⟨hrest, hr⟩ := h.led hsep as bs r r' has.2 hbs.2 hr hr' hrest
  exact ⟨by rw [List.map_cons, List.map_cons, hab, hrest], hr⟩

/-- A joined list, when no member can be taken for what follows the list. -/
theorem join (h : Legible g Good Next view) (hsep : Separates sep Next End)
    (hfirst : ∀ a r x, Good a → End r → r ≠ (g a).chars ++ x) :
    Legible (fun as => Statement.join sep (as.map g)) (fun as => ∀ a ∈ as, Good a) End
      (List.map view) := by
  have hchars (a : α) (as : List α) (r : List Char) :
      (Statement.join sep ((a :: as).map g)).chars ++ r =
        (g a).chars ++ ((Statement.led sep (as.map g)).chars ++ r) := by
    rw [List.map_cons, Statement.join_cons, Statement.chars_append, List.append_assoc]
  intro as bs r r' has hbs hr hr' heq
  cases as with
  | nil =>
      cases bs with
      | nil => exact ⟨rfl, heq⟩
      | cons b bs =>
          exact absurd (heq.trans (hchars b bs r')) (hfirst b r _ (hbs b List.mem_cons_self) hr)
  | cons a as =>
      cases bs with
      | nil =>
          exact absurd (heq.symm.trans (hchars a as r))
            (hfirst a r' _ (has a List.mem_cons_self) hr')
      | cons b bs => exact h.join_cons hsep has hbs hr hr' heq

/-- A clause, when its keyword cannot be taken for what follows the clause. -/
theorem clause (h : Legible g Good Next view) (hsep : Separates sep Next End)
    (hkeyword : ∀ r x, End r → r ≠ keyword.toList ++ x) :
    Legible (fun as => Statement.clause keyword sep (as.map g)) (fun as => ∀ a ∈ as, Good a) End
      (List.map view) := by
  have hchars (a : α) (as : List α) (r : List Char) :
      (Statement.clause keyword sep ((a :: as).map g)).chars ++ r =
        keyword.toList ++ ((Statement.join sep ((a :: as).map g)).chars ++ r) := by
    rw [Statement.clause_of_ne_nil _ _ (by simp), Statement.chars_append, Statement.chars_push,
      List.append_assoc]
  intro as bs r r' has hbs hr hr' heq
  cases as with
  | nil =>
      cases bs with
      | nil => exact ⟨rfl, heq⟩
      | cons b bs => exact absurd (heq.trans (hchars b bs r')) (hkeyword r _ hr)
  | cons a as =>
      cases bs with
      | nil => exact absurd (heq.symm.trans (hchars a as r)) (hkeyword r' _ hr')
      | cons b bs =>
          rw [hchars, hchars] at heq
          exact h.join_cons hsep has hbs hr hr' (List.append_cancel_left heq)

end Legible

/-! ## The parts of a query -/

/-- An entry of the SELECT list, an expression taken for a column. -/
def SelectItem.plain : SelectItem → SelectItem
  | .metric expr => .column expr
  | item => item

/-- A query, expressions taken for columns. -/
def Select.plain (q : Select) : Select := { q with items := q.items.map SelectItem.plain }

/-- What an entry of the SELECT list writes: one text, or an expression with its alias. -/
theorem SelectItem.written (item : SelectItem) :
    (∃ x, item.plain = .column x ∧ item.render.chars = x.toList ∧ item.identifiers = [x]) ∨
    ∃ x l, item.plain = .derived x l ∧
      item.render.chars = x.toList ++ (" AS ".toList ++ l.toList) ∧ item.identifiers = [x, l] := by
  cases item with
  | metric x => exact .inl ⟨x, rfl, rfl, rfl⟩
  | column x => exact .inl ⟨x, rfl, rfl, rfl⟩
  | derived x l => exact .inr ⟨x, l, rfl, by simp [render, String.toList_append], rfl⟩

/-! ## The parts can be told -/

theorem endsWord_blank (r : List Char) : EndsWord (' ' :: r) := ⟨' ', r, rfl, .inl rfl⟩

theorem endsWord_comma (r : List Char) : EndsWord (',' :: r) := ⟨',', r, rfl, .inr rfl⟩

/-- A word. -/
theorem legible_push : Legible push IsWord EndsWord id :=
  fun _ _ _ _ ha hb hr hr' h => append_inj_of_isWord ha hb hr hr' h

/-- What follows an entry of the SELECT list: a comma, or the table. -/
def EndsItem (r : List Char) : Prop := (∃ t, r = ',' :: t) ∨ Opens ['F'] r

theorem EndsItem.endsWord {r : List Char} (h : EndsItem r) : EndsWord r := by
  rcases h with ⟨t, rfl⟩ | h
  · exact endsWord_comma t
  · exact h.endsWord

/-- An alias does not start what follows an entry of the SELECT list. -/
theorem EndsItem.ne_alias {r : List Char} (h : EndsItem r) (x : List Char) :
    r ≠ " AS ".toList ++ x := by
  rcases h with ⟨t, rfl⟩ | h
  · simp
  · exact h.ne_append (k := 'A') (t := ['S', ' ']) (by decide) (by decide) x

/-- An entry of the SELECT list. -/
theorem legible_item : Legible SelectItem.render (fun item => ∀ x ∈ item.identifiers, IsWord x)
    EndsItem SelectItem.plain := by
  have hblank (x : List Char) : EndsWord (" AS ".toList ++ x) := endsWord_blank _
  intro a b r r' ha hb hr hr' h
  rcases a.written with ⟨x, hplain, hchars, hids⟩ | ⟨x, l, hplain, hchars, hids⟩ <;>
    rcases b.written with ⟨y, hplain', hchars', hids'⟩ | ⟨y, m, hplain', hchars', hids'⟩ <;>
    rw [hchars, hchars'] at h <;> rw [hids] at ha <;> rw [hids'] at hb <;>
    rw [hplain, hplain'] <;> simp only [List.forall_mem_cons, List.append_assoc] at ha hb h
  · obtain ⟨rfl, rfl⟩ := append_inj_of_isWord ha.1 hb.1 hr.endsWord hr'.endsWord h
    exact ⟨rfl, rfl⟩
  · obtain ⟨-, hrest⟩ := append_inj_of_isWord ha.1 hb.1 hr.endsWord (hblank _) h
    exact absurd hrest (hr.ne_alias _)
  · obtain ⟨-, hrest⟩ := append_inj_of_isWord ha.1 hb.1 (hblank _) hr'.endsWord h
    exact absurd hrest.symm (hr'.ne_alias _)
  · obtain ⟨rfl, hrest⟩ := append_inj_of_isWord ha.1 hb.1 (hblank _) (hblank _) h
    obtain ⟨rfl, rfl⟩ := append_inj_of_isWord ha.2.1 hb.2.1 hr.endsWord hr'.endsWord
      (List.append_cancel_left hrest)
    exact ⟨rfl, rfl⟩

/-- Which comparison it is shows in front of any blank. -/
theorem CompareOp.symbol_inj {a b : CompareOp} {r r' : List Char}
    (h : a.symbol.toList ++ ' ' :: r = b.symbol.toList ++ ' ' :: r') : a = b ∧ r = r' := by
  cases a <;> cases b <;> simp_all [symbol]

/-- Which direction it is shows at once. -/
theorem SortOrder.sql_inj {a b : SortOrder} {r r' : List Char}
    (h : a.sql.toList ++ r = b.sql.toList ++ r') : a = b ∧ r = r' := by
  cases a <;> cases b <;> simp_all [sql]

/-- A key of the ordering. -/
theorem legible_orderItem :
    Legible OrderItem.render (fun o => IsWord o.column) EndsWord id := by
  intro a b r r' ha hb hr hr' h
  have hchars (o : OrderItem) : o.render.chars = o.column.toList ++ ' ' :: o.order.sql.toList := by
    simp [OrderItem.render, String.toList_append]
  rw [hchars, hchars, List.append_assoc, List.append_assoc] at h
  obtain ⟨hcolumn, hrest⟩ := append_inj_of_isWord ha hb (endsWord_blank _) (endsWord_blank _) h
  obtain ⟨horder, rfl⟩ := SortOrder.sql_inj (List.cons.inj hrest).2
  refine ⟨?_, rfl⟩
  cases a
  cases b
  simp_all

/-- What follows a condition: a further one, or a later clause. -/
abbrev EndsCondition : List Char → Prop := Opens ['A', 'G', 'H', 'O', 'L']

/-- The placeholders of a list operand show how many values it has. -/
theorem legible_placeholders : Legible (fun vs => join ", " (List.map bind vs)) (fun _ => True)
    (fun r => ∃ t, r = ')' :: t) (List.map fun _ => Value.null) := by
  have hbind : Legible bind (fun _ => True) (fun _ => True) fun _ => Value.null := by
    intro a b r r' _ _ _ _ h
    exact ⟨rfl, by simpa using h⟩
  have hsep : Separates ", " (fun _ => True) fun r => ∃ t, r = ')' :: t :=
    ⟨fun _ => trivial, fun _ _ => trivial, by rintro _ x ⟨t, rfl⟩; simp⟩
  have hjoin := hbind.join hsep (by rintro v _ x - ⟨t, rfl⟩; simp)
  intro a b r r' _ _ hr hr' h
  exact hjoin a b r r' (fun _ _ => trivial) (fun _ _ => trivial) hr hr' h

/-- An operand, up to its values. -/
theorem legible_operand :
    Legible Operand.render (fun _ => True) EndsCondition Operand.blank := by
  have hmark {r : List Char} (hr : EndsCondition r) (x : List Char) : r ≠ ' ' :: '?' :: x :=
    hr.ne_append (k := '?') (t := []) rfl (by decide) x
  have hopen {r : List Char} (hr : EndsCondition r) (x : List Char) : r ≠ ' ' :: '(' :: x :=
    hr.ne_append (k := '(') (t := []) rfl (by decide) x
  have hparam (v : Value) (r : List Char) :
      (Operand.param v).render.chars ++ r = ' ' :: '?' :: r := by simp [Operand.render]
  have hlist (vs : List Value) (r : List Char) : (Operand.list vs).render.chars ++ r =
      ' ' :: '(' :: ((join ", " (vs.map bind)).chars ++ ')' :: r) := by simp [Operand.render]
  intro a b r r' _ _ hr hr' h
  cases a with
  | absent =>
      cases b with
      | absent => exact ⟨rfl, h⟩
      | param w => exact absurd (h.trans (hparam w r')) (hmark hr _)
      | list ws => exact absurd (h.trans (hlist ws r')) (hopen hr _)
  | param v =>
      cases b with
      | absent => exact absurd (h.symm.trans (hparam v r)) (hmark hr' _)
      | param w =>
          rw [hparam, hparam] at h
          simp only [List.cons.injEq, true_and] at h
          exact ⟨rfl, h⟩
      | list ws =>
          rw [hparam, hlist] at h
          simp at h
  | list vs =>
      cases b with
      | absent => exact absurd (h.symm.trans (hlist vs r)) (hopen hr' _)
      | param w =>
          rw [hlist, hparam] at h
          simp at h
      | list ws =>
          rw [hlist, hlist] at h
          simp only [List.cons.injEq, true_and] at h
          obtain ⟨hvalues, hrest⟩ :=
            legible_placeholders vs ws _ _ trivial trivial ⟨_, rfl⟩ ⟨_, rfl⟩ h
          exact ⟨congrArg Operand.list hvalues, (List.cons.inj hrest).2⟩

/-- A condition, up to its values. -/
theorem legible_condition :
    Legible Predicate.render (fun p => IsWord p.column) EndsCondition Predicate.blank := by
  have hblank (rhs : Operand) {r : List Char} (hr : EndsCondition r) :
      ∃ x, rhs.render.chars ++ r = ' ' :: x := by
    obtain ⟨c, t, -, rfl⟩ := hr
    cases rhs <;> exact ⟨_, by simp [Operand.render]; rfl⟩
  have hchars (p : Predicate) (r : List Char) : p.render.chars ++ r =
      p.column.toList ++ ' ' :: (p.op.symbol.toList ++ (p.operand.render.chars ++ r)) := by
    simp [Predicate.render, String.toList_append]
  intro a b r r' ha hb hr hr' h
  rw [hchars, hchars] at h
  obtain ⟨hcolumn, hrest⟩ := append_inj_of_isWord ha hb (endsWord_blank _) (endsWord_blank _) h
  obtain ⟨x, hx⟩ := hblank a.operand hr
  obtain ⟨x', hx'⟩ := hblank b.operand hr'
  have hsymbol := (List.cons.inj hrest).2
  rw [hx, hx'] at hsymbol
  obtain ⟨hop, hxx'⟩ := CompareOp.symbol_inj hsymbol
  rw [← hxx', ← hx] at hx'
  obtain ⟨hoperand, rfl⟩ := legible_operand _ _ _ _ trivial trivial hr hr' hx'.symm
  exact ⟨by rw [Predicate.blank, Predicate.blank, hcolumn, hop, hoperand], rfl⟩

/-! ## Values in their places -/

/-- An operand is known from its values and what is left without them. -/
theorem Operand.ext_blank {a b : Operand} (hblank : a.blank = b.blank)
    (hvalues : a.values = b.values) : a = b := by
  cases a <;> cases b <;> simp_all [blank, values]

/-- How many values an operand has shows without them. -/
@[simp] theorem Operand.length_values_blank (rhs : Operand) :
    rhs.blank.values.length = rhs.values.length := by
  cases rhs <;> simp [blank, values]

theorem length_values_congr {ps ps' : List Predicate}
    (h : ps.map Predicate.blank = ps'.map Predicate.blank) :
    (ps.flatMap fun p => p.operand.values).length =
      (ps'.flatMap fun p => p.operand.values).length := by
  have hlength (ps : List Predicate) : (ps.flatMap fun p => p.operand.values).length =
      ((ps.map Predicate.blank).flatMap fun p => p.operand.values).length := by
    simp [List.length_flatMap, Predicate.blank, Function.comp_def]
  rw [hlength, h, ← hlength]

/-- So are conditions in a row. -/
theorem conditions_ext {ps ps' : List Predicate}
    (hblank : ps.map Predicate.blank = ps'.map Predicate.blank)
    (hvalues : (ps.flatMap fun p => p.operand.values) = ps'.flatMap fun p => p.operand.values) :
    ps = ps' := by
  induction ps generalizing ps' with
  | nil =>
      cases ps' with
      | nil => rfl
      | cons p' ps' => cases hblank
  | cons p ps ih =>
      cases ps' with
      | nil => cases hblank
      | cons p' ps' =>
          obtain ⟨column, op, rhs⟩ := p
          obtain ⟨column', op', rhs'⟩ := p'
          obtain ⟨hp, hps⟩ := List.cons.inj hblank
          simp only [Predicate.blank, Predicate.mk.injEq] at hp
          obtain ⟨rfl, rfl, hrhs⟩ := hp
          have hlength : rhs.values.length = rhs'.values.length := by
            rw [← rhs.length_values_blank, hrhs, rhs'.length_values_blank]
          obtain ⟨hhead, htail⟩ := List.append_inj hvalues hlength
          rw [Operand.ext_blank hrhs hhead, ih hps htail]

/-! ## The query -/

/-- Every text that a query takes over is a word. -/
def Select.Worded (q : Select) : Prop := ∀ x ∈ q.identifiers, IsWord x

instance (q : Select) : Decidable q.Worded :=
  inferInstanceAs (Decidable (∀ x ∈ q.identifiers, IsWord x))

/-- A clause opens with its letter, or what follows it opens. -/
theorem opens_clause {keyword sep : String} {parts : List Statement} {k : Char}
    {t letters r : List Char} (hkeyword : keyword.toList = ' ' :: k :: t) (hr : Opens letters r) :
    Opens (k :: letters) ((clause keyword sep parts).chars ++ r) := by
  cases parts with
  | nil =>
      obtain ⟨c, u, hc, rfl⟩ := hr
      exact ⟨c, u, List.mem_cons_of_mem k hc, rfl⟩
  | cons a rest =>
      rw [Statement.clause_of_ne_nil _ _ (List.cons_ne_nil a rest), Statement.chars_append,
        Statement.chars_push, hkeyword]
      exact ⟨k, _, List.mem_cons_self, rfl⟩

namespace Select

variable (q : Select)

/-! ### The text behind each part -/

/-- What stands behind the conditions on groups. -/
def behindHaving : Statement :=
  clause " ORDER BY " ", " (q.orderBy.map OrderItem.render) ++ push (" LIMIT " ++ toString q.limit)

/-- What stands behind the grouping keys. -/
def behindKeys : Statement :=
  clause " HAVING " " AND " (q.having.map Predicate.render) ++ q.behindHaving

/-- What stands behind the conditions on rows. -/
def behindFilter : Statement := clause " GROUP BY " ", " (q.groupBy.map push) ++ q.behindKeys

/-- What stands behind the table. -/
def behindTable : Statement :=
  clause " WHERE " " AND " (q.filter.map Predicate.render) ++ q.behindFilter

theorem render_eq_behindTable : q.render =
    push "SELECT " ++ (join ", " (q.items.map SelectItem.render) ++
      (push (" FROM " ++ q.table) ++ q.behindTable)) := by
  simp only [render, behindTable, behindFilter, behindKeys, behindHaving, Statement.append_assoc]

theorem opens_limit : Opens ['L'] (push (" LIMIT " ++ toString q.limit)).chars :=
  ⟨'L', _, List.mem_cons_self, by rw [Statement.chars_push, String.toList_append]; rfl⟩

theorem opens_behindHaving : Opens ['O', 'L'] q.behindHaving.chars := by
  rw [behindHaving, Statement.chars_append]
  exact opens_clause (t := "RDER BY ".toList) rfl q.opens_limit

theorem opens_behindKeys : Opens ['H', 'O', 'L'] q.behindKeys.chars := by
  rw [behindKeys, Statement.chars_append]
  exact opens_clause (t := "AVING ".toList) rfl q.opens_behindHaving

theorem opens_behindFilter : Opens ['G', 'H', 'O', 'L'] q.behindFilter.chars := by
  rw [behindFilter, Statement.chars_append]
  exact opens_clause (t := "ROUP BY ".toList) rfl q.opens_behindKeys

theorem opens_behindTable : Opens ['W', 'G', 'H', 'O', 'L'] q.behindTable.chars := by
  rw [behindTable, Statement.chars_append]
  exact opens_clause (t := "HERE ".toList) rfl q.opens_behindFilter

/-! ### The parts in front of the text behind them -/

/-- The SELECT list, in front of the table. -/
theorem legible_items : Legible (fun items => join ", " (List.map SelectItem.render items))
    (fun items => ∀ item ∈ items, ∀ x ∈ item.identifiers, IsWord x) (Opens ['F'])
    (List.map SelectItem.plain) := by
  refine legible_item.join ⟨fun x => .inl ⟨_, rfl⟩, fun r => .inr, fun r x hr => hr.ne_comma x⟩ ?_
  rintro item _ x hitem ⟨c, t, -, rfl⟩ heq
  -- an entry starts with a word, and a word does not start with a blank
  have hword {w : String} (hw : IsWord w) (y : List Char) : ' ' :: c :: t ≠ w.toList ++ y := by
    cases hchars : w.toList with
    | nil => exact absurd hchars hw.1
    | cons d ds =>
        intro h
        have hd : ' ' ∈ w.toList := by rw [hchars, (List.cons.inj h).1]; exact List.mem_cons_self
        exact hw.2.1 hd
  rcases item.written with ⟨w, -, hchars, hids⟩ | ⟨w, l, -, hchars, hids⟩
  · rw [hchars] at heq
    exact hword (hitem w (by rw [hids]; exact List.mem_cons_self)) _ heq
  · rw [hchars, List.append_assoc] at heq
    exact hword (hitem w (by rw [hids]; exact List.mem_cons_self)) _ heq

/-- Conditions behind a keyword, in front of a later clause. -/
theorem legible_conditions {keyword : String} {k : Char} {t letters : List Char}
    (hkeyword : keyword.toList = ' ' :: k :: t) (hk : k ∉ letters)
    (hletters : letters ⊆ ['G', 'H', 'O', 'L']) :
    Legible (fun ps => clause keyword " AND " (List.map Predicate.render ps))
      (fun ps => ∀ p ∈ ps, IsWord p.column) (Opens letters) (List.map Predicate.blank) := by
  have hand : 'A' ∉ letters := fun h => absurd (hletters h) (by decide)
  have hsep : Separates " AND " EndsCondition (Opens letters) :=
    ⟨fun x => ⟨'A', _, List.mem_cons_self, rfl⟩,
      fun r hr => hr.mono (List.subset_cons_of_subset 'A' hletters),
      fun r x hr => hr.ne_append (t := "ND ".toList) rfl hand x⟩
  exact legible_condition.clause hsep fun r x hr => hr.ne_append hkeyword hk x

/-- Things behind a keyword that end as words do, in front of a later clause. -/
theorem legible_clause {α : Type} {g : α → Statement} {Good : α → Prop} {keyword : String}
    {k : Char} {t letters : List Char} (h : Legible g Good EndsWord id)
    (hkeyword : keyword.toList = ' ' :: k :: t) (hk : k ∉ letters) :
    Legible (fun as => clause keyword ", " (List.map g as)) (fun as => ∀ a ∈ as, Good a)
      (Opens letters) (List.map id) :=
  h.clause ⟨fun _ => endsWord_comma _, fun _ hr => hr.endsWord, fun _ x hr => hr.ne_comma x⟩
    fun _ x hr => hr.ne_append hkeyword hk x

/-- A number is known from its digits. -/
theorem eq_of_digits {m n : Nat} (h : (toString m).toList = (toString n).toList) : m = n := by
  rw [Nat.toString_eq_ofList_toDigits, Nat.toString_eq_ofList_toDigits, String.toList_ofList,
    String.toList_ofList] at h
  have hnumber := congrArg (fun ds => Nat.ofDigitChars 10 ds 0) h
  simpa only [Nat.ofDigitChars_ten_toDigits] using hnumber

/-- The texts of a query of words, part by part. -/
theorem worded_iff (q : Select) : q.Worded ↔
    (∀ item ∈ q.items, ∀ x ∈ item.identifiers, IsWord x) ∧ IsWord q.table ∧
      (∀ p ∈ q.filter, IsWord p.column) ∧ (∀ x ∈ q.groupBy, IsWord x) ∧
      (∀ p ∈ q.having, IsWord p.column) ∧ ∀ o ∈ q.orderBy, IsWord o.column := by
  simp only [Worded, identifiers, conditions, List.mem_append, List.mem_cons, List.mem_flatMap,
    List.mem_map, or_imp, forall_and, forall_eq, forall_exists_index, and_imp,
    forall_apply_eq_imp_iff₂]
  grind

/-- **Reading a query off its text.** The text of a query of words tells all of it but its values, an
expression taken for a column. -/
theorem plain_blank_of_chars {q q' : Select} (hq : q.Worded) (hq' : q'.Worded)
    (h : q.render.chars = q'.render.chars) : q.plain.blank = q'.plain.blank := by
  obtain ⟨hitems, htable, hfilter, hkeys, hhaving, horder⟩ := q.worded_iff.1 hq
  obtain ⟨hitems', htable', hfilter', hkeys', hhaving', horder'⟩ := q'.worded_iff.1 hq'
  have hfrom (q : Select) : (push (" FROM " ++ q.table) ++ q.behindTable).chars =
      " FROM ".toList ++ (q.table.toList ++ q.behindTable.chars) := by
    rw [Statement.chars_append, Statement.chars_push, String.toList_append, List.append_assoc]
  have hopens (x : List Char) : Opens ['F'] (" FROM ".toList ++ x) :=
    ⟨'F', _, List.mem_cons_self, rfl⟩
  simp only [render_eq_behindTable, Statement.chars_append (push "SELECT "),
    Statement.chars_append (join _ _), hfrom] at h
  obtain ⟨hitems, h⟩ := legible_items _ _ _ _ hitems hitems' (hopens _) (hopens _)
    (List.append_cancel_left h)
  obtain ⟨htable, h⟩ := append_inj_of_isWord htable htable' q.opens_behindTable.endsWord
    q'.opens_behindTable.endsWord (List.append_cancel_left h)
  simp only [behindTable, Statement.chars_append] at h
  obtain ⟨hfilter, h⟩ := legible_conditions (t := "HERE ".toList) rfl (by decide)
    (List.Subset.refl _) _ _ _ _ hfilter hfilter' q.opens_behindFilter q'.opens_behindFilter h
  simp only [behindFilter, Statement.chars_append] at h
  obtain ⟨hkeys, h⟩ := legible_clause legible_push (t := "ROUP BY ".toList) rfl (by decide)
    _ _ _ _ hkeys hkeys' q.opens_behindKeys q'.opens_behindKeys h
  simp only [behindKeys, Statement.chars_append] at h
  obtain ⟨hhaving, h⟩ := legible_conditions (t := "AVING ".toList) rfl (by decide) (by decide)
    _ _ _ _ hhaving hhaving' q.opens_behindHaving q'.opens_behindHaving h
  simp only [behindHaving, Statement.chars_append] at h
  obtain ⟨horder, h⟩ := legible_clause legible_orderItem (t := "RDER BY ".toList) rfl (by decide)
    _ _ _ _ horder horder' q.opens_limit q'.opens_limit h
  simp only [Statement.chars_push, String.toList_append] at h
  have hlimit := eq_of_digits (List.append_cancel_left h)
  rw [List.map_id, List.map_id] at hkeys horder
  simp only [blank, plain, hitems, htable, hfilter, hkeys, hhaving, horder, hlimit]

/-- An expression stands in the text as a column does. -/
theorem render_plain (q : Select) : q.plain.render = q.render := by
  have hitems : (q.items.map SelectItem.plain).map SelectItem.render =
      q.items.map SelectItem.render := by
    rw [List.map_map]
    refine List.map_congr_left fun item _ => ?_
    cases item <;> rfl
  simp only [render, plain, hitems]

/-- **Rendering is unambiguous.** Two queries of words have the same statement exactly if they are the
same but for what is an expression and what a column. -/
theorem render_eq_iff_plain_eq {q q' : Select} (hq : q.Worded) (hq' : q'.Worded) :
    q.render = q'.render ↔ q.plain = q'.plain := by
  constructor
  · intro h
    have hblank := plain_blank_of_chars hq hq' (congrArg Statement.chars h)
    have hvalues := congrArg Statement.params h
    simp only [params_render, conditions, List.flatMap_append] at hvalues
    simp only [blank, plain, Select.mk.injEq] at hblank
    obtain ⟨hitems, htable, hfilter, hkeys, hhaving, horder, hlimit⟩ := hblank
    obtain ⟨hfilterValues, hhavingValues⟩ :=
      List.append_inj hvalues (length_values_congr hfilter)
    simp only [plain, hitems, htable, conditions_ext hfilter hfilterValues, hkeys,
      conditions_ext hhaving hhavingValues, horder, hlimit]
  · intro h
    rw [← q.render_plain, h, q'.render_plain]

/-- The number of sales by month, of months with more than five; `total` stands for the number. -/
def monthsWith (total : SelectItem) : Select where
  items := [total, .derived "strftime(sale_date)" "mes_ano"]
  table := "fct_sales"
  filter := [⟨"AND", .isNull, .absent⟩, ⟨"?", .isIn, .list [.text "iFood", .text "Rappi"]⟩]
  groupBy := ["mes_ano"]
  having := [⟨"total", .gte, .param (.int 5)⟩]
  orderBy := [⟨"total", .desc⟩]
  limit := 10

/-- The query has one statement whether the number is an expression or a column, and is told from a
query that orders the other way. -/
theorem monthsWith_rendered :
    (monthsWith (.metric "total")).Worded ∧ (monthsWith (.column "total")).Worded ∧
    (monthsWith (.metric "total")).render = (monthsWith (.column "total")).render ∧
    (monthsWith (.metric "total")).render ≠
      { monthsWith (.column "total") with orderBy := [⟨"total", .asc⟩] }.render := by
  have hmetric : (monthsWith (.metric "total")).Worded := by decide
  have hcolumn : (monthsWith (.column "total")).Worded := by decide
  have hasc : { monthsWith (.column "total") with orderBy := [⟨"total", .asc⟩] }.Worded := hcolumn
  refine ⟨hmetric, hcolumn, (render_eq_iff_plain_eq hmetric hcolumn).2 rfl, ?_⟩
  intro h
  have horder := congrArg Select.orderBy ((render_eq_iff_plain_eq hmetric hasc).1 h)
  simp [plain, monthsWith] at horder

end Select

end DataMart
