import DataMart.Config
import DataMart.Proofs.Steps

/-!
# Usable configurations

A configuration is `Usable` if its chunk size and its default limit are above zero. Validating accepts
just these (`validate_eq_ok_iff_usable`), and of several settings of one kind the last counts
(`chunk_setAll`, `defaultLimit_setAll`). So settings are refused exactly if what they set last, or the
default that they leave, is zero (`ofSettings_eq_error_iff`), and nothing else is given back, from a
program, a text or a file (`usable_of_ofSettings`, `usable_of_ofText`, `usable_of_load`).
-/

namespace DataMart

namespace Setting

/-- The chunk size that a setting sets. -/
def chunk? : Setting → Option Nat
  | .chunk rows => some rows
  | _ => none

/-- The default limit that a setting sets. -/
def defaultLimit? : Setting → Option Nat
  | .defaultLimit n => some n
  | _ => none

end Setting

namespace Config

variable {c d : Config} {ss : List Setting}

/-- The chunk size and the default limit are above zero. -/
structure Usable (c : Config) : Prop where
  chunk_pos : 0 < c.chunk
  defaultLimit_pos : 0 < c.defaultLimit

/-- The defaults can be used. -/
theorem usable_default : Usable {} := ⟨by decide, by decide⟩

/-- Validating accepts exactly the usable configurations, and leaves them as they are. -/
theorem validate_eq_ok_iff_usable : c.validate = .ok d ↔ c = d ∧ c.Usable := by
  rw [validate_eq_ok_iff]
  exact and_congr_right fun _ => ⟨fun ⟨hchunk, hlimit⟩ => ⟨hchunk, hlimit⟩, fun h => ⟨h.1, h.2⟩⟩

/-- Exactly a configuration with a zero is refused. -/
theorem validate_eq_error_iff :
    (∃ e, c.validate = .error e) ↔ c.chunk = 0 ∨ c.defaultLimit = 0 := by
  unfold validate
  split
  · simp_all
  · split <;> simp_all

/-! ## Settings in a row -/

/-- Of several settings of one kind the last counts; without any the value stays. -/
theorem get_setAll {get : Config → Nat} {says? : Setting → Option Nat}
    (h : ∀ c s, get (set c s) = (says? s).getD (get c)) (c : Config) (ss : List Setting) :
    get (c.setAll ss) = (ss.filterMap says?).getLastD (get c) := by
  induction ss generalizing c with
  | nil => rfl
  | cons s ss ih =>
      rw [setAll, List.foldl_cons, ← setAll, ih, h, List.filterMap_cons]
      cases says? s with
      | none => rfl
      | some n => rw [Option.getD_some, List.getLastD_cons]

/-- The chunk size after some settings. -/
theorem chunk_setAll (c : Config) (ss : List Setting) :
    (c.setAll ss).chunk = (ss.filterMap Setting.chunk?).getLastD c.chunk :=
  get_setAll (by rintro c (_ | _ | _ | _ | _ | _ | _ | _) <;> rfl) c ss

/-- The default limit after some settings. -/
theorem defaultLimit_setAll (c : Config) (ss : List Setting) :
    (c.setAll ss).defaultLimit = (ss.filterMap Setting.defaultLimit?).getLastD c.defaultLimit :=
  get_setAll (by rintro c (_ | _ | _ | _ | _ | _ | _ | _) <;> rfl) c ss

/-- Some settings set a chunk size or a default limit of zero, and none of that kind follows. -/
def LeavesZero (ss : List Setting) : Prop :=
  (ss.filterMap Setting.chunk?).getLastD Pipeline.defaultChunk = 0 ∨
    (ss.filterMap Setting.defaultLimit?).getLastD DataMart.defaultLimit = 0

/-- Settings are refused exactly if they leave a zero. -/
theorem ofSettings_eq_error_iff : (∃ e, ofSettings ss = .error e) ↔ LeavesZero ss := by
  rw [ofSettings, validate_eq_error_iff, chunk_setAll, defaultLimit_setAll, LeavesZero]

/-! ## What is given back -/

/-- Settings give usable configurations only. -/
theorem usable_of_ofSettings (h : ofSettings ss = .ok c) : c.Usable := by
  obtain ⟨rfl, husable⟩ := validate_eq_ok_iff_usable.1 h
  exact husable

/-- A text whose values are understood gives what its settings give. -/
theorem ofText_of_settings {text : String} (h : settings text = .ok ss) :
    ofText text = (ofSettings ss).mapError .fault := by
  rw [ofText, h]

/-- A text whose values are understood is refused exactly if they leave a zero. -/
theorem ofText_eq_error_iff {text : String} (h : settings text = .ok ss) :
    (∃ e, ofText text = .error e) ↔ LeavesZero ss := by
  rw [ofText_of_settings h, ← ofSettings_eq_error_iff]
  constructor
  · rintro ⟨e, he⟩
    obtain ⟨f, hf, -⟩ := mapError_eq_error_iff.1 he
    exact ⟨f, hf⟩
  · rintro ⟨f, hf⟩
    exact ⟨_, mapError_eq_error_iff.2 ⟨f, hf, rfl⟩⟩

/-- A text gives usable configurations only. -/
theorem usable_of_ofText {text : String} (h : ofText text = .ok c) : c.Usable := by
  cases hss : settings text with
  | error e =>
      rw [ofText, hss] at h
      cases h
  | ok ss =>
      rw [ofText_of_settings hss, mapError_eq_ok_iff] at h
      exact usable_of_ofSettings h

/-- A file gives usable configurations only. -/
theorem usable_of_ofFile {files : Files} {path : String} (h : ofFile files path = .ok c) :
    c.Usable := by
  unfold ofFile at h
  split at h
  · cases h
  · exact usable_of_ofText h

/-- Whichever file is looked at, and also if none is, the configuration can be used. -/
theorem usable_of_load {files : Files} {asked standard : Option String}
    (h : load files asked standard = .ok c) : c.Usable := by
  unfold load at h
  split at h
  · exact usable_of_ofFile h
  · split at h
    · exact usable_of_ofFile h
    · cases h
      exact usable_default
  · cases h
    exact usable_default

end Config

end DataMart
