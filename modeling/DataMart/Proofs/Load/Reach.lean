import DataMart.Proofs.Extract.Answers
import DataMart.Proofs.Load.Views

/-!
# The states that a connector comes to

What is asked of a connector need hold in the states only that it comes to from where it is
(`Connector.Reaches`). `Connector.reached` is the connector over just these states. It does what the
connector does (`run_forget`), and in it what holds in the states that are reached holds throughout
(`leavesMart_reached`, `answersByQuery_reached`).
-/

namespace DataMart

/-- A scene, without what is known of the state outside. -/
def Scene.forget {ω : Type} {P : ω → Prop} (s : Scene { o // P o }) : Scene ω :=
  ⟨s.outside.1, s.mart⟩

@[simp] theorem Scene.mart_forget {ω : Type} {P : ω → Prop} (s : Scene { o // P o }) :
    s.forget.mart = s.mart := rfl

namespace Connector

variable {ω : Type}

/-- The states that a connector can come to from `o`, whatever is asked of it and whatever it finds
in the mart. -/
inductive Reaches (c : Connector ω) (o : ω) : ω → Prop where
  | start : Reaches c o o
  | connect {o' : ω} (h : Reaches c o o') (query : String) : Reaches c o (c.connect query o').2
  | fetch {o' : ω} (h : Reaches c o o') (n : Nat) (m : Mart) :
      Reaches c o (c.source.fetch n ⟨o', m⟩).2.outside
  | close {o' : ω} (h : Reaches c o o') (m : Mart) :
      Reaches c o (c.source.close ⟨o', m⟩).2.outside

/-- In the states that come after `o`, the sources leave the mart alone. -/
structure LeavesMartFrom (c : Connector ω) (o : ω) : Prop where
  fetch : ∀ o', c.Reaches o o' → ∀ n m, (c.source.fetch n ⟨o', m⟩).2.mart = m
  close : ∀ o', c.Reaches o o' → ∀ m, (c.source.close ⟨o', m⟩).2.mart = m

/-- In the states that come after `o`, what a query is answered depends on the query alone. -/
structure AnswersByQueryFrom (c : Connector ω) (n : Nat) (o : ω)
    (opens : String → Except Fault Unit) (answers : String → Nat → Except Fault Batch) : Prop where
  opened : ∀ o', c.Reaches o o' → ∀ query, (c.connect query o').1 = opens query
  fetched : ∀ o', c.Reaches o o' → ∀ query, opens query = .ok () →
    c.Follows n (c.connect query o').2 (answers query)

/-- What holds in all states holds in those. -/
theorem LeavesMart.leavesMartFrom {c : Connector ω} (h : c.LeavesMart) (o : ω) :
    c.LeavesMartFrom o where
  fetch o' _ n m := h.fetch n ⟨o', m⟩
  close o' _ m := h.close ⟨o', m⟩

/-- What holds in all states holds in those. -/
theorem AnswersByQuery.answersByQueryFrom {c : Connector ω} {n : Nat}
    {opens : String → Except Fault Unit} {answers : String → Nat → Except Fault Batch}
    (h : c.AnswersByQuery n opens answers) (o : ω) : c.AnswersByQueryFrom n o opens answers where
  opened o' _ query := h.opened query o'
  fetched o' _ query hok := h.fetched query o' hok

/-- A connector over the states that it comes to from `o`. -/
def reached (c : Connector ω) (o : ω) : Connector { o' // c.Reaches o o' } where
  connect query s := ((c.connect query s.1).1, ⟨(c.connect query s.1).2, s.2.connect query⟩)
  source :=
    { fetch n s := ((c.source.fetch n s.forget).1,
        ⟨⟨_, s.outside.2.fetch n s.mart⟩, (c.source.fetch n s.forget).2.mart⟩)
      close s := ((c.source.close s.forget).1,
        ⟨⟨_, s.outside.2.close s.mart⟩, (c.source.close s.forget).2.mart⟩)
      left s := c.source.left s.forget
      left_fetch := fun hb hne => c.source.left_fetch hb hne }
  left_mart s m := c.left_mart s.forget m

/-- Apart from what is known of its states, it is the connector. -/
theorem views_reached (c : Connector ω) (o : ω) : Views Subtype.val (c.reached o) c where
  connect _ _ := rfl
  fetch _ _ := rfl
  close _ := rfl

variable {c : Connector ω} {o : ω}

/-- Over these states the sources leave the mart alone. -/
theorem leavesMart_reached (h : c.LeavesMartFrom o) : (c.reached o).LeavesMart where
  fetch n s := h.fetch s.outside.1 s.outside.2 n s.mart
  close s := h.close s.outside.1 s.outside.2 s.mart

/-- Over these states the answers are the same. -/
theorem answer_reached (n : Nat) (marts : Nat → Mart) (s : { o' // c.Reaches o o' }) (k : Nat) :
    ((c.reached o).outsideAfter n marts s k).1 = c.outsideAfter n marts s.1 k ∧
      (c.reached o).answer n marts s k = c.answer n marts s.1 k := by
  have houtside : ((c.reached o).outsideAfter n marts s k).1 = c.outsideAfter n marts s.1 k := by
    induction k with
    | zero => rfl
    | succ k ih =>
        rw [outsideAfter, outsideAfter, ← ih]
        rfl
  refine ⟨houtside, ?_⟩
  rw [answer, answer, ← houtside]
  rfl

/-- Over these states it answers by the query. -/
theorem answersByQuery_reached {n : Nat} {opens : String → Except Fault Unit}
    {answers : String → Nat → Except Fault Batch} (h : c.AnswersByQueryFrom n o opens answers) :
    (c.reached o).AnswersByQuery n opens answers where
  opened query s := h.opened s.1 s.2 query
  fetched query s hok marts k := by
    rw [(answer_reached n marts _ k).2]
    exact h.fetched s.1 s.2 query hok marts k

end Connector

namespace Pipeline

variable {ω : Type} {c : Connector ω} {o : ω}

/-- A run over these states is a run. -/
theorem run_forget (p : Pipeline) (specs : List TableSpec) (s : Scene { o' // c.Reaches o o' }) :
    p.run c specs s.forget = ((p.run (c.reached o) specs s).1,
      (p.run (c.reached o) specs s).2.forget) :=
  run_view (Connector.views_reached c o) p specs s

/-- What a run leaves outside is a state that the connector comes to. -/
theorem reaches_run (p : Pipeline) (c : Connector ω) (specs : List TableSpec) (s : Scene ω) :
    c.Reaches s.outside (p.run c specs s).2.outside := by
  let start : Scene { o' // c.Reaches s.outside o' } := ⟨⟨s.outside, .start⟩, s.mart⟩
  rw [show s = start.forget from rfl, run_forget]
  exact (p.run (c.reached s.outside) specs start).2.outside.2

end Pipeline

end DataMart
