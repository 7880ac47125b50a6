import FeatureFixtures.Proofs.Files
import FeatureFixtures.Proofs.ToolsFolder
import FeatureFixtures.Worker.Launcher
/-!
# The programs of installed generators

The tools folder offers a generator wherever anything stands under the name of the worker program,
and the launcher starts only a file. So the launcher finds the program of the generator that was
taken unless a folder has that name; and such a folder is taken for the program of a generator that
hides all lower ones, those with a program included.
-/

namespace FeatureFixtures

namespace FileStore

variable {store : FileStore} {location : Location} {entry : Entry} {folder name path : Text}

theorem requireShortPath_eq_ok_iff : requireShortPath path = .ok () ↔
    '\x00' ∉ path ∧ path ≠ [] ∧ Text.byteCount path ≤ pathLimit := by
  unfold requireShortPath requirePath
  by_cases hnull : '\x00' ∈ path
  · simp [hnull, bind, Except.bind]
  · by_cases hnil : path = []
    · simp [hnil, bind, Except.bind]
    · by_cases hlong : pathLimit < Text.byteCount path
      · have hlimit : ¬ Text.byteCount path ≤ pathLimit := Nat.not_le.2 hlong
        simp [hnull, hnil, hlong, hlimit, bind, Except.bind]
      · have hlimit : Text.byteCount path ≤ pathLimit := Nat.not_lt.1 hlong
        simp [hnull, hnil, hlong, hlimit, bind, Except.bind]
        rfl

theorem requireShortPath_of_append {rest : Text} (hne : folder ≠ [])
    (h : requireShortPath (folder ++ rest) = .ok ()) : requireShortPath folder = .ok () := by
  rw [requireShortPath_eq_ok_iff] at h ⊢
  obtain ⟨hnull, -, hlimit⟩ := h
  rw [← Text.length_toBytes, Text.toBytes_append, List.length_append] at hlimit
  refine ⟨fun hmem => hnull (List.mem_append_left _ hmem), hne, ?_⟩
  rw [← Text.length_toBytes]
  omega

theorem steps_eq_parts (h : Text.endsWith path '/' = false) : steps path = Path.parts path := by
  unfold steps
  rw [h, if_neg (by decide), List.append_nil]

theorem parts_append_name (folder : Text) (hne : name ≠ []) (hslash : '/' ∉ name) :
    Path.parts (folder ++ '/' :: name) = Path.parts folder ++ [name] := by
  have hkept : (!name.isEmpty) = true := by simpa using hne
  unfold Path.parts
  rw [List.splitOn_append_cons_self, List.splitOn_eq_singleton hslash, List.filter_append,
    List.filter_singleton, hkept]
  rfl

theorem endsWith_append_of_notMem {c : Char} (before : Text) (hne : name ≠ []) (h : c ∉ name) :
    Text.endsWith (before ++ name) c = false := by
  unfold Text.endsWith
  rw [List.getLast?_append_of_ne_nil before hne, beq_eq_false_iff_ne]
  exact fun hlast => h (List.mem_of_getLast? hlast)

/-- What stands under a name in a folder is found only if the folder is. -/
theorem find_folder_of_find_name (hfolder : folder ≠ [])
    (hend : Text.endsWith folder '/' = false) (hname : name ≠ []) (hslash : '/' ∉ name)
    (h : store.find (folder ++ '/' :: name) = .ok (location, entry)) :
    ∃ above, store.find folder = .ok (above, .folder) := by
  obtain ⟨hshort, hwalk, -⟩ := find_eq_ok_iff.1 h
  have hstart : store.start (folder ++ '/' :: name) = store.start folder := by
    obtain ⟨c, rest, rfl⟩ := List.exists_cons_of_ne_nil hfolder
    by_cases hc : '/' = c <;> simp [start, Path.isAbsolute, Text.startsWith, Text.after?, hc]
  have hends : Text.endsWith (folder ++ '/' :: name) '/' = false := by
    have happend : folder ++ '/' :: name = (folder ++ ['/']) ++ name := by simp
    rw [happend]
    exact endsWith_append_of_notMem _ hname hslash
  rw [hstart, steps_eq_parts hends, parts_append_name folder hname hslash,
    walk_append_eq_ok_iff] at hwalk
  obtain ⟨above, habove, hlast⟩ := hwalk
  refine ⟨above, find_eq_ok_iff.2 ⟨requireShortPath_of_append hfolder hshort, ?_, ?_⟩⟩
  · rw [steps_eq_parts hend]
    exact habove
  · exact (walk_cons_eq_ok_iff.1 hlast).1

theorem exists_find_of_pathExists (h : store.pathExists path = true) :
    ∃ location entry, store.find path = .ok (location, entry) := by
  obtain ⟨⟨location, entry⟩, hfind⟩ := exists_eq_ok_of_isSome h
  exact ⟨location, entry, hfind⟩

theorem isFolder_of_pathExists (h : store.pathExists path = true)
    (hfile : store.isFile path = false) : store.isFolder path = true := by
  obtain ⟨location, entry, hfind⟩ := exists_find_of_pathExists h
  unfold isFile at hfile
  unfold isFolder
  rw [hfind] at hfile ⊢
  cases entry with
  | folder => rfl
  | file | worker | scriptReader => cases hfile

end FileStore

namespace Resolution

/-- A name that offers a version whose program is a file. -/
structure IsUsable (store : FileStore) (tools : Text) (names : List Text)
    (requirement : Version.Requirement) (name : Text) (version : Version) : Prop
    extends IsOffered store tools names requirement name version where
  program : store.isFile (Path.join (Path.join tools name) workerName) = true

variable {store : FileStore} {project : ProjectSettings} {tools : Text} {names : List Text}
  {requirement : Version.Requirement} {found : Installation}

theorem IsOffered.name_ne_nil {name : Text} {version : Version}
    (h : IsOffered store tools names requirement name version) : name ≠ [] := by
  rintro rfl
  cases h.parse

theorem IsOffered.slash_notMem {name : Text} {version : Version}
    (h : IsOffered store tools names requirement name version) : '/' ∉ name := by
  intro hmem
  rw [Version.eq_toText_of_parse h.parse] at hmem
  have hwell := Version.isWellFormed_of_parse h.parse
  rcases Version.isIdentifierListChar_of_mem_toText hwell '/' hmem with heq | hlist
  · exact absurd heq (by decide)
  · exact absurd hlist (by decide)

/-- The folder of a version is no file, and the program is a name in it. -/
theorem IsOffered.isFile_location {name : Text} {version : Version}
    (h : IsOffered store tools names requirement name version) :
    store.isFile (Path.join tools name) = false := by
  obtain ⟨before, hbefore⟩ : ∃ before, Path.join tools name = before ++ name := by
    unfold Path.join
    split
    · exact ⟨[], rfl⟩
    · split
      · exact ⟨tools, rfl⟩
      · exact ⟨tools ++ ['/'], by simp⟩
  have hne : Path.join tools name ≠ [] := by simp [hbefore, h.name_ne_nil]
  have hend : Text.endsWith (Path.join tools name) '/' = false := by
    rw [hbefore]
    exact FileStore.endsWith_append_of_notMem before h.name_ne_nil h.slash_notMem
  have hprogram : Path.join (Path.join tools name) workerName =
      Path.join tools name ++ '/' :: workerName := by
    have hrelative : Path.isAbsolute workerName = false := by decide
    have hempty : (Path.join tools name).isEmpty = false := by simpa using hne
    rw [Path.join, hrelative, hempty, hend]
    rfl
  obtain ⟨location, entry, hfind⟩ := FileStore.exists_find_of_pathExists h.present
  rw [hprogram] at hfind
  obtain ⟨above, hfolder⟩ :=
    FileStore.find_folder_of_find_name hne hend (by decide) (by decide) hfind
  unfold FileStore.isFile
  rw [hfolder]

theorem exists_highest_of_ofTools (h : ofTools store project = .resolved found) :
    ∃ requirement names, requirementOf project = .ok requirement ∧
      toolNames? store (Path.join project.folder toolsFolder) = some names ∧
      IsHighest (Path.join project.folder toolsFolder)
        (IsOffered store (Path.join project.folder toolsFolder) names requirement) found := by
  cases hrequirement : requirementOf project with
  | error reason =>
    rw [ofTools, hrequirement] at h
    cases h
  | ok requirement =>
    cases hnames : toolNames? store (Path.join project.folder toolsFolder) with
    | none =>
      simp only [ofTools, hrequirement, hnames] at h
      cases h
    | some names =>
      rw [ofTools_eq_ofListing hrequirement hnames] at h
      exact ⟨requirement, names, rfl, rfl, ofListing_eq_resolved_iff.1 h⟩

theorem IsHighest.isUsable_iff
    (h : IsHighest tools (IsOffered store tools names requirement) found) :
    IsHighest tools (IsUsable store tools names requirement) found ↔
      store.isFile (Path.join found.location workerName) = true := by
  obtain ⟨name, hoffered, hlocation, hhighest⟩ := h
  constructor
  · rintro ⟨other, husable, hplace, -⟩
    rw [hplace]
    exact husable.program
  · intro hfile
    rw [hlocation] at hfile
    refine ⟨name, ⟨hoffered, hfile⟩, hlocation, fun other version hother hne => ?_⟩
    exact hhighest other version hother.toIsOffered hne

end Resolution

namespace Worker

open Resolution

variable {store : FileStore} {project : ProjectSettings} {found : Installation} {path : Text}
  {environment : Environment}

/-- Whether the search path leads to files only. -/
def Environment.LeadsToFiles (environment : Environment) (store : FileStore) : Prop :=
  ∀ path, environment.searched? store = some path → store.isFile path = true

theorem Environment.isFile_of_program? (hfiles : environment.LeadsToFiles store)
    (h : environment.program? store = some path) : store.isFile path = true := by
  unfold program? at h
  rw [Option.orElse_eq_orElse, Option.orElse_eq_or, Option.or_eq_some_iff] at h
  rcases h with hnamed | ⟨-, hsearched⟩
  · exact (Option.filter_eq_some_iff.1 hnamed).2
  · exact hfiles path hsearched

/-- At a location that is no file, a program is one in the folder, or one from elsewhere. -/
theorem findProgramIn_eq_ok_iff {location : Text} (h : store.isFile location = false) :
    findProgramIn environment store location = .ok path ↔
      if store.isFile (Path.join location workerName) then path = Path.join location workerName
      else environment.program? store = some path := by
  unfold findProgramIn
  rw [h, if_neg Bool.false_ne_true]
  split
  · rw [Except.ok.injEq, eq_comm]
  · cases environment.program? store <;> simp

/-- **What the tools folder takes for installed is found by the launcher** exactly if the program of
the generator that was taken is a file. It is a folder otherwise, what is found is a program from
elsewhere or nothing, and lower versions with a program are passed over; with a file there, it is
the highest of those that have one. -/
theorem findProgramIn_of_ofTools (h : ofTools store project = .resolved found)
    (hfiles : environment.LeadsToFiles store) :
    let tools := Path.join project.folder toolsFolder
    let program := Path.join found.location workerName
    (findProgramIn environment store found.location = .ok program ↔ store.isFile program = true) ∧
    (store.isFile program = false → store.isFolder program = true ∧
      ∀ path, findProgramIn environment store found.location = .ok path ↔
        environment.program? store = some path) ∧
    ∃ requirement names, requirementOf project = .ok requirement ∧
      toolNames? store tools = some names ∧
      (IsHighest tools (IsUsable store tools names requirement) found ↔
        store.isFile program = true) := by
  intro tools program
  obtain ⟨requirement, names, hrequirement, hnames, hhighest⟩ := exists_highest_of_ofTools h
  obtain ⟨name, hoffered, hlocation, -⟩ := id hhighest
  have hfolder : store.isFile found.location = false := by
    rw [hlocation]
    exact hoffered.isFile_location
  have hpresent : store.pathExists program = true := by
    have hplace := hoffered.present
    rwa [← hlocation] at hplace
  refine ⟨?_, fun hfile => ⟨FileStore.isFolder_of_pathExists hpresent hfile, fun path => ?_⟩,
    requirement, names, hrequirement, hnames, hhighest.isUsable_iff⟩
  · rw [findProgramIn_eq_ok_iff hfolder]
    constructor
    · intro hfound
      by_contra hfile
      rw [if_neg hfile] at hfound
      exact hfile (Environment.isFile_of_program? hfiles hfound)
    · intro hfile
      rw [if_pos hfile]
  · rw [findProgramIn_eq_ok_iff hfolder, hfile, if_neg Bool.false_ne_true]

/-- A later version whose folder is empty hides nothing, and neither does a program elsewhere. -/
theorem findProgramIn_of_ofTools_lower :
    let folders : FileStore := (FileStore.makeFolders {} "/p/.spekgen/generators/2.0.0").2
    let store := ((folders.set ["p", ".spekgen", "generators", "1.0.0"] .folder).set
      ["p", ".spekgen", "generators", "1.0.0", workerName] .worker).set [workerName] .worker
    let environment : Environment := { searched? := fun _ => some "/spekgen-worker" }
    let project : ProjectSettings := { folder := "/p" }
    let found : Installation :=
      { version := ⟨1, 0, 0, [], []⟩, location := "/p/.spekgen/generators/1.0.0" }
    let generators := Path.join project.folder toolsFolder
    let program := Path.join found.location workerName
    ofTools store project = .resolved found ∧ environment.LeadsToFiles store ∧
    store.isFile program = true ∧ findProgramIn environment store found.location = .ok program ∧
    ∃ requirement names,
      IsHighest generators (IsUsable store generators names requirement) found := by
  intro folders store environment project found generators program
  have hfound : ofTools store project = .resolved found := by decide +kernel
  have hfiles : environment.LeadsToFiles store := by
    intro path hpath
    cases hpath
    decide +kernel
  have hfile : store.isFile program = true := by decide +kernel
  obtain ⟨hiff, -, requirement, names, -, -, hhighest⟩ := findProgramIn_of_ofTools hfound hfiles
  exact ⟨hfound, hfiles, hfile, hiff.2 hfile, requirement, names, hhighest.2 hfile⟩

/-- A folder under the name of the program of the later version, and a program of the lower one. -/
theorem findProgram_ne_of_folder :
    let folders : FileStore :=
      (FileStore.makeFolders {} "/p/.spekgen/generators/2.0.0/spekgen-worker").2
    let store := (folders.set ["p", ".spekgen", "generators", "1.0.0"] .folder).set
      ["p", ".spekgen", "generators", "1.0.0", workerName] .worker
    let later : Text := "/p/.spekgen/generators/2.0.0"
    let lower : Text := "/p/.spekgen/generators/1.0.0"
    ofTools store { folder := "/p" } =
      .resolved { version := ⟨2, 0, 0, [], []⟩, location := later } ∧
    findProgram store later ≠ .ok (Path.join later workerName) ∧
    findProgram store lower = .ok (Path.join lower workerName) := by
  intro folders store later lower
  have hfound : ofTools store { folder := "/p" } =
      .resolved { version := ⟨2, 0, 0, [], []⟩, location := later } := by decide +kernel
  have hfolder : store.isFile (Path.join later workerName) = false := by decide +kernel
  have hnone : store.isFile later = false := by decide +kernel
  have hlower : store.isFile lower = false := by decide +kernel
  have hprogram : store.isFile (Path.join lower workerName) = true := by decide +kernel
  refine ⟨hfound, ?_, ?_⟩
  · rw [Ne, findProgram, findProgramIn_eq_ok_iff hnone, hfolder, if_neg Bool.false_ne_true]
    exact nofun
  · rw [findProgram, findProgramIn_eq_ok_iff hlower, hprogram, if_pos rfl]

end Worker

end FeatureFixtures
