import DataMart.Store.Files

/-!
# Files put and removed

What stands at a place after a file was put there or removed, and what opening and keeping a mart
come to. A mart that is opened for writing where no file stands is empty; what is kept of it is then
in the file at the place that its path spells (`martUnder_keep`). The engine gets wherever the system
gets (`reach_of_look`), so a reader that finds anything under the path opens that mart
(`openReader_of_martUnder`). The converse fails, and it is for the files that the engine opens and
the system does not find that `Sees` is asked for.
-/

namespace DataMart

namespace Files

variable {fs opened : Files} {path : String} {node : Node} {s : Session} {m : Mart}

/-! ## What stands at a place -/

/-- Putting a file moves no path. -/
@[simp]
theorem spelled_put (fs : Files) (p : String) (c : Content) (path : String) :
    (fs.put p c).spelled path = fs.spelled path := rfl

/-- Removing a file moves no path. -/
@[simp]
theorem spelled_remove (fs : Files) (p path : String) :
    (fs.remove p).spelled path = fs.spelled path := rfl

/-- A file that was put stands at the place that its path spells. -/
@[simp]
theorem node?_put (fs : Files) (path : String) (c : Content) :
    (fs.put path c).node? (fs.spelled path) = some (.file c) := by
  simp [node?, put]

/-- A place holds a file exactly if one stands there. -/
theorem holdsFile_iff {place : List String} :
    fs.holdsFile place = true ↔ ∃ c, fs.node? place = some (.file c) := by
  rw [holdsFile]
  split
  · rename_i c hnode
    exact ⟨fun _ => ⟨c, hnode⟩, fun _ => rfl⟩
  · rename_i hnode
    simpa using hnode

/-- A removed file is gone. -/
theorem holdsFile_remove (fs : Files) (path : String) :
    (fs.remove path).holdsFile (fs.spelled path) = false := by
  have hnone : (fs.remove path).entries.lookup (fs.spelled path) = none := by
    rw [List.lookup_eq_none_iff]
    intro e he
    have hne : e.1 ≠ fs.spelled path := by simpa [remove] using (List.mem_filter.1 he).2
    simpa using fun h => hne h.symm
  rw [Bool.eq_false_iff, Ne, holdsFile_iff]
  rintro ⟨c, hnode⟩
  simp only [node?, hnone] at hnode
  split at hnode <;> cases hnode

/-! ## The ways of the system and of the engine -/

/-- Where the system is not stopped, the engine is not. -/
theorem barred_eq_false {parts place : List String} (h : fs.obstacle? place parts = none) :
    fs.barred place parts = false := by
  induction parts generalizing place with
  | nil => rfl
  | cons part rest ih =>
      rw [obstacle?] at h
      split at h
      · rename_i hnode
        -- a directory holds no file, so that the engine may look for a name in it
        simp [barred, holdsFile, hnode, ih h]
      · cases h
      · cases h

/-- The system finds what is at the place that a path spells, if it is not stopped on the way. -/
theorem look_eq_ok_iff :
    fs.look path = .ok node ↔ path ≠ "" ∧ hasNul path = false ∧
      fs.obstacle? (fs.start path) (parts path) = none ∧
      fs.node? (fs.spelled path) = some node := by
  rw [look]
  by_cases hne : path = ""
  · simp [hne]
  · cases hnul : hasNul path with
    | true => simp [hne]
    | false =>
        cases hway : fs.obstacle? (fs.start path) (parts path) with
        | some e => simp [hne]
        | none => cases hnode : fs.node? (fs.spelled path) <;> simp [hne]

/-- The engine reaches what the system finds. -/
theorem reach_of_look (h : fs.look path = .ok node) : fs.reach path = .ok (some node) := by
  obtain ⟨-, -, hway, hnode⟩ := look_eq_ok_iff.1 h
  rw [reach, barred_eq_false hway, hnode]
  rfl

/-- Where the system is not stopped, it sees what the engine opens. -/
theorem sees_of_obstacle? (hne : path ≠ "") (hnul : hasNul path = false)
    (hway : fs.obstacle? (fs.start path) (parts path) = none) : fs.Sees path := by
  intro hfile
  obtain ⟨c, hnode⟩ := holdsFile_iff.1 hfile
  rw [pathExists, look_eq_ok_iff.2 ⟨hne, hnul, hway, hnode⟩]

/-! ## A slash behind a path -/

/-- Cutting gives at least one piece. -/
theorem pieces_ne_nil (cs : List Char) : pieces cs ≠ [] := by
  cases cs with
  | nil => nofun
  | cons c rest =>
      rw [pieces]
      split
      · nofun
      · split <;> nofun

/-- A slash behind some characters leaves an empty piece behind. -/
theorem pieces_append_slash (cs : List Char) : pieces (cs ++ ['/']) = pieces cs ++ [[]] := by
  induction cs with
  | nil => rfl
  | cons c rest ih =>
      rw [List.cons_append, pieces, pieces, ih]
      split
      · rfl
      · cases hpieces : pieces rest with
        | nil => exact absurd hpieces (pieces_ne_nil rest)
        | cons p ps => rfl

/-- A slash behind a path leaves an empty part behind. -/
theorem parts_append_slash (path : String) : parts (path ++ "/") = parts path ++ [""] := by
  have hslash : ("/" : String).toList = ['/'] := rfl
  rw [parts, String.toList_append, hslash, pieces_append_slash, List.map_append]
  rfl

/-- A path with a slash behind it starts where the path does. -/
theorem start_append_slash (hne : path ≠ "") (fs : Files) :
    fs.start (path ++ "/") = fs.start path := by
  have habsolute : isAbsolute (path ++ "/") = isAbsolute path := by
    rw [isAbsolute, isAbsolute, String.toList_append]
    cases hcs : path.toList with
    | nil => exact absurd (String.toList_eq_nil_iff.1 hcs) hne
    | cons c cs => rfl
  rw [start, start, habsolute]

/-- A slash behind a path changes nothing of the place that it spells. -/
theorem spelled_append_slash (hne : path ≠ "") (fs : Files) :
    fs.spelled (path ++ "/") = fs.spelled path := by
  rw [spelled, spelled, parts_append_slash, start_append_slash hne, List.foldl_append]
  rfl

/-- One part more is followed in a directory only. -/
theorem obstacle?_concat (fs : Files) (place : List String) (ps : List String) (part : String)
    (hno : ∀ node, fs.node? (ps.foldl next place) = some node → node ≠ .directory) :
    fs.obstacle? place (ps ++ [part]) ≠ none := by
  induction ps generalizing place with
  | nil =>
      rw [List.nil_append, obstacle?]
      split
      · rename_i hnode
        exact absurd rfl (hno _ hnode)
      · nofun
      · nofun
  | cons p rest ih =>
      rw [List.cons_append, obstacle?]
      split
      · exact ih (next place p) hno
      · nofun
      · nofun

/-- With a slash behind its path, the engine opens a file and the system does not find it. -/
theorem not_sees_append_slash (hne : path ≠ "") (hfile : fs.holdsFile (fs.spelled path) = true) :
    ¬ fs.Sees (path ++ "/") := by
  intro hsees
  have hexists := hsees (by rwa [spelled_append_slash hne])
  obtain ⟨c, hnode⟩ := holdsFile_iff.1 hfile
  have hway : fs.obstacle? (fs.start (path ++ "/")) (parts (path ++ "/")) ≠ none := by
    rw [parts_append_slash, start_append_slash hne]
    refine obstacle?_concat fs _ _ _ fun node h => ?_
    rw [← spelled, hnode] at h
    cases h
    nofun
  unfold pathExists at hexists
  split at hexists
  · rename_i node hlook
    exact hway (look_eq_ok_iff.1 hlook).2.2.1
  · cases hexists

/-! ## Marts -/

/-- A mart that is opened where no file stands is empty, and an empty file is there from then on. -/
theorem openWriter_of_no_file (hnames : namesFile path = true)
    (hno : fs.holdsFile (fs.spelled path) = false) (h : fs.openWriter path = .ok (s, opened)) :
    s = {} ∧ opened = fs.put path (.text "") := by
  unfold openWriter reach at h
  simp only [hnames, Bool.not_true, Bool.false_eq_true, if_false] at h
  cases hnul : hasNul path with
  | true => simp [hnul] at h
  | false =>
      cases hbarred : fs.barred (fs.start path) (parts path) with
      | true => simp [hnul, hbarred] at h
      | false =>
          simp only [hnul, hbarred, Bool.false_eq_true, if_false] at h
          cases hnode : fs.node? (fs.spelled path) with
          | some node =>
              cases node with
              | directory => simp [hnode] at h
              | file c => simp [holdsFile, hnode] at hno
          | none =>
              simp only [hnode] at h
              split at h <;> cases h
              exact ⟨rfl, rfl⟩

/-- A mart that was put is the one under its path. -/
theorem martUnder_put (fs : Files) (path : String) (c : Content) :
    (fs.put path c).martUnder path = c.mart? := by
  simp only [martUnder, spelled_put, node?_put]

/-- What is kept of a mart is under its path, unless another text stands there. -/
theorem martUnder_keep (hnames : namesFile path = true)
    (htext : ∀ t, fs.node? (fs.spelled path) = some (.file (.text t)) → t = "") (s : Session) :
    (fs.keep path s).martUnder path = some s.mart := by
  simp only [keep, hnames, Bool.not_true, Bool.false_eq_true, if_false]
  split
  · -- a mart without tables leaves the empty file as it is
    rename_i t hnode hempty
    obtain rfl := htext t hnode
    obtain ⟨⟨tables⟩⟩ := s
    cases hempty
    simp [martUnder, hnode, Content.mart?]
  · exact martUnder_put ..

/-- A reader that finds something under a path opens the mart that is kept there. -/
theorem openReader_of_martUnder (hnames : namesFile path = true)
    (hexists : fs.pathExists path = true) (h : fs.martUnder path = some m) :
    fs.openReader path = .ok (.ok m) := by
  cases hlook : fs.look path with
  | error e => simp [pathExists, hlook] at hexists
  | ok node =>
      have hreach := reach_of_look hlook
      simp only [martUnder, (look_eq_ok_iff.1 hlook).2.2.2] at h
      cases node with
      | directory => cases h
      | file c =>
          simp only at h
          simp [openReader, hexists, hnames, hreach, h]

end Files

end DataMart
