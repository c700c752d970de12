import DataMart.CommandLine.Run
import DataMart.Proofs.Configuration

/-!
# Stages of a run

A command line that builds goes through stages: it is understood, a configuration is loaded, what the
arguments say overrules it, and the result is validated. With that the building is entered (`Enters`),
and its chunk size is one that the pipeline and its extractors take (`ofChunk_of_enters`).
Once a source is named and an old mart is out of the way, the pipeline is started (`Starts`), and the
run is what it gives (`run_of_starts`). Every other run ends early (`endsEarly_or_starts`), and leaves
the files as they were (`files_run_of_endsEarly`).
-/

namespace DataMart.CommandLine

variable {w : World} {args : List String} {c : Config} {fresh : Bool} {url : String} {files : Files}
  {said : List String}

/-- The building is entered with a usable configuration, after the arguments have overruled it. -/
inductive Enters (w : World) (args : List String) : Config → Bool → Prop
  | intro {i : Invocation} {fresh : Bool} {chunk : Option Nat} {layout : Option Layout}
      {loaded c : Config} (understood : Invocation.ofArguments w.environment args = .ok i)
      (builds : i.command = .etl fresh chunk layout)
      (found : Config.load w.files i.config w.standardConfig = .ok loaded)
      (valid : (loaded.setAll i.settings).validate = .ok c) : Enters w args c fresh

/-- The files on which the pipeline is started, and what was said about an old mart. -/
def cleared (files : Files) (c : Config) (fresh : Bool) : Except Failure (Files × List String) :=
  if fresh then removeOld files c.martPath else .ok (files, [])

/-- The pipeline is started, with a source and without an old mart that is to go. -/
inductive Starts (w : World) (args : List String) :
    Config → Bool → String → Files → List String → Prop
  | intro {c : Config} {fresh : Bool} {url : String} {files : Files} {said : List String}
      (entered : Enters w args c fresh) (named : c.databaseUrl = some url)
      (clear : cleared w.files c fresh = .ok (files, said)) : Starts w args c fresh url files said

/-- The run ends before a pipeline is started. -/
inductive EndsEarly (w : World) (args : List String) : Prop
  /-- The arguments are not understood, or ask for help only. -/
  | refused {r : Refusal} (refusal : Invocation.ofArguments w.environment args = .error r)
  /-- The configuration is missing or of no use. -/
  | unconfigured {i : Invocation} {p : Config.Problem}
      (understood : Invocation.ofArguments w.environment args = .ok i)
      (missing : Config.load w.files i.config w.standardConfig = .error p)
  /-- A query, a report or the catalog is asked for. -/
  | answers {i : Invocation} (understood : Invocation.ofArguments w.environment args = .ok i)
      (asks : ∀ fresh chunk layout, i.command ≠ .etl fresh chunk layout)
  /-- What the arguments make of the configuration is of no use. -/
  | useless {i : Invocation} {fresh : Bool} {chunk : Option Nat} {layout : Option Layout}
      {loaded : Config} {f : Fault}
      (understood : Invocation.ofArguments w.environment args = .ok i)
      (builds : i.command = .etl fresh chunk layout)
      (found : Config.load w.files i.config w.standardConfig = .ok loaded)
      (invalid : (loaded.setAll i.settings).validate = .error f)
  /-- No source is named. -/
  | sourceless {c : Config} {fresh : Bool} (entered : Enters w args c fresh)
      (unnamed : c.databaseUrl = none)
  /-- The old mart cannot be removed. -/
  | stuck {c : Config} {fresh : Bool} {f : Failure} (entered : Enters w args c fresh)
      (stays : cleared w.files c fresh = .error f)

/-! ## With what the building is entered -/

/-- The building is entered with a usable configuration only. -/
theorem usable_of_enters (h : Enters w args c fresh) : c.Usable := by
  obtain ⟨-, -, -, valid⟩ := h
  obtain ⟨rfl, husable⟩ := Config.validate_eq_ok_iff_usable.1 valid
  exact husable

/-- Its chunk size is one that the pipeline and its extractors take. -/
theorem ofChunk_of_enters (h : Enters w args c fresh) :
    ∃ p, Pipeline.ofChunk c.chunk = .ok p ∧ Extractor.ofChunk p.chunk = .ok p.extractor := by
  have hpos := (usable_of_enters h).chunk_pos
  exact ⟨⟨c.chunk, hpos⟩, dif_pos hpos, dif_pos hpos⟩

/-- The pipeline is started only where the building is entered. -/
theorem Starts.entered (h : Starts w args c fresh url files said) : Enters w args c fresh := by
  cases h with
  | intro entered _ _ => exact entered

/-! ## What a run gives -/

/-- What a run gives that enters the building. -/
theorem run_of_enters (h : Enters w args c fresh) : run w args = etl w c fresh := by
  obtain ⟨understood, builds, found, valid⟩ := h
  simp only [run, understood, follow, found, builds, valid]

/-- What a run gives that starts the pipeline. -/
theorem run_of_starts (h : Starts w args c fresh url files said) :
    run w args = load w c url files said := by
  obtain ⟨entered, named, clear⟩ := h
  rw [run_of_enters entered, etl, named]
  simp only
  rw [← cleared, clear]

/-- Answering a query leaves the files as they are. -/
theorem files_execute (files : Files) (martPath : String) (q : Select) (dryRun : Bool)
    (format : Format) : (execute files martPath q dryRun format).files = files := by
  unfold execute
  split
  · rfl
  · split <;> rfl

/-- A run that ends early leaves the files as they were. -/
theorem files_run_of_endsEarly (h : EndsEarly w args) : (run w args).files = w.files := by
  cases h with
  | refused refusal => simp only [run, refusal]
  | unconfigured understood missing => simp only [run, understood, follow, missing]
  | @answers i understood asks =>
      simp only [run, understood, follow]
      split
      · rfl
      · split
        · rename_i fresh chunk layout builds
          exact absurd builds (asks fresh chunk layout)
        · split
          · rfl
          · exact files_execute ..
        · split
          · rfl
          · exact files_execute ..
        · rfl
  | useless understood builds found invalid =>
      simp only [run, understood, follow, found, builds, invalid]
  | sourceless entered unnamed => rw [run_of_enters entered, etl, unnamed]
  | stuck entered stays =>
      rw [run_of_enters entered, etl]
      split
      · rfl
      · rw [← cleared, stays]

/-- Every run ends early or starts the pipeline. -/
theorem endsEarly_or_starts (w : World) (args : List String) :
    EndsEarly w args ∨ ∃ c fresh url files said, Starts w args c fresh url files said := by
  cases understood : Invocation.ofArguments w.environment args with
  | error r => exact .inl (.refused understood)
  | ok i =>
      cases found : Config.load w.files i.config w.standardConfig with
      | error p => exact .inl (.unconfigured understood found)
      | ok loaded =>
          cases builds : i.command with
          | query | report | reports =>
              exact .inl (.answers understood fun _ _ _ h => by rw [builds] at h; cases h)
          | etl fresh chunk layout =>
              cases valid : (loaded.setAll i.settings).validate with
              | error f => exact .inl (.useless understood builds found valid)
              | ok c =>
                  have entered : Enters w args c fresh := .intro understood builds found valid
                  cases named : c.databaseUrl with
                  | none => exact .inl (.sourceless entered named)
                  | some url =>
                      cases clear : cleared w.files c fresh with
                      | error f => exact .inl (.stuck entered clear)
                      | ok cleared => exact .inr ⟨c, fresh, url, _, _, .intro entered named clear⟩

end DataMart.CommandLine
