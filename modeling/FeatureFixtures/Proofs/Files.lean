import FeatureFixtures.FileStore
import FeatureFixtures.Proofs.Results
/-!
# Writing one file and finding others

A path denotes a location by its parts alone. Writing a file may make folders, but it leaves every
folder a folder and keeps whatever stands anywhere but at the location that its path denotes. So
every path that led to something else leads there still, and the path that was written leads to the
text that was written.
-/

namespace FeatureFixtures

namespace FileStore

variable {s t u : FileStore} {targets : List Location} {location : Location} {path text : Text}
  {entry : Entry}

/-- The place that one part of a path leads to. -/
def stepFrom (location : Location) (part : Text) : Location :=
  if part = ['.'] then location
  else if part = ['.', '.'] then location.dropLast
  else location ++ [part]

/-- The location that a path denotes, whether something stands there or not. -/
def locationOf (store : FileStore) (path : Text) : Location :=
  (steps path).foldl stepFrom (store.start path)

/-- A later state of a store, in which all is kept but what stood at some locations, which are not
those of folders. -/
structure Keeps (targets : List Location) (s t : FileStore) : Prop where
  current : t.current = s.current
  entry : ∀ location entry, location ∉ targets → s.entry? location = some entry →
    t.entry? location = some entry
  folder : ∀ location, s.entry? location = some .folder → t.entry? location = some .folder

theorem Keeps.refl (targets : List Location) (s : FileStore) : Keeps targets s s :=
  ⟨rfl, fun _ _ _ h => h, fun _ h => h⟩

theorem Keeps.trans {others : List Location} (hst : Keeps targets s t) (htu : Keeps others t u) :
    Keeps (targets ++ others) s u where
  current := htu.current.trans hst.current
  entry := fun location entry hmem h => by
    rw [List.mem_append, not_or] at hmem
    exact htu.entry location entry hmem.2 (hst.entry location entry hmem.1 h)
  folder := fun location h => htu.folder location (hst.folder location h)

theorem keeps_now (s : FileStore) (now : Nat) : Keeps [] s { s with now } :=
  ⟨rfl, fun _ _ _ h => h, fun _ h => h⟩

theorem Keeps.locationOf_eq (h : Keeps targets s t) (path : Text) :
    t.locationOf path = s.locationOf path := by
  unfold locationOf start
  rw [h.current]

/-! ### Following a path -/

theorem requireFolder_bind_eq_ok_iff {α : Type} {next : Unit → Except FileFault α} {a : α} :
    s.requireFolder location >>= next = .ok a ↔
      s.entry? location = some .folder ∧ next () = .ok a := by
  unfold requireFolder
  rw [bind_eq_ok_iff]
  constructor
  · rintro ⟨⟨⟩, hfolder, h⟩
    split at hfolder <;> simp_all
  · rintro ⟨hfolder, h⟩
    exact ⟨(), by rw [hfolder], h⟩

theorem placeIn_eq_ok_iff {folder : Location} {name : Text} :
    s.placeIn folder name = .ok location ↔
      s.entry? folder = some .folder ∧ requireShortName name = .ok () ∧
        folder ++ [name] = location := by
  unfold placeIn
  rw [requireFolder_bind_eq_ok_iff, bind_eq_ok_iff]
  constructor
  · rintro ⟨hfolder, ⟨⟩, hname, h⟩
    cases h
    exact ⟨hfolder, hname, rfl⟩
  · rintro ⟨hfolder, hname, rfl⟩
    exact ⟨hfolder, (), hname, rfl⟩

/-- One part of a path is followed from a folder, and a name has to be short enough. -/
theorem walk_cons_eq_ok_iff {start : Location} {part : Text} {rest : List Text} :
    s.walk start (part :: rest) = .ok location ↔
      s.entry? start = some .folder ∧
        (part ≠ ['.'] → part ≠ ['.', '.'] → requireShortName part = .ok ()) ∧
        s.walk (stepFrom start part) rest = .ok location := by
  rw [walk.eq_2]
  by_cases hdot : part = ['.']
  · rw [if_pos hdot, requireFolder_bind_eq_ok_iff]
    simp [hdot, stepFrom]
  · rw [if_neg hdot]
    by_cases hdots : part = ['.', '.']
    · rw [if_pos hdots, requireFolder_bind_eq_ok_iff]
      simp [hdots, stepFrom]
    · rw [if_neg hdots, bind_eq_ok_iff, stepFrom, if_neg hdot, if_neg hdots]
      simp only [placeIn_eq_ok_iff]
      constructor
      · rintro ⟨place, ⟨hfolder, hname, rfl⟩, hrest⟩
        exact ⟨hfolder, fun _ _ => hname, hrest⟩
      · rintro ⟨hfolder, hname, hrest⟩
        exact ⟨_, ⟨hfolder, hname hdot hdots, rfl⟩, hrest⟩

theorem walk_append_eq_ok_iff {start : Location} {parts others : List Text} :
    s.walk start (parts ++ others) = .ok location ↔
      ∃ middle, s.walk start parts = .ok middle ∧ s.walk middle others = .ok location := by
  induction parts generalizing start with
  | nil =>
    constructor
    · exact fun h => ⟨start, rfl, h⟩
    · rintro ⟨middle, hmiddle, h⟩
      cases hmiddle
      exact h
  | cons part rest ih =>
    simp only [List.cons_append, walk_cons_eq_ok_iff, ih]
    constructor
    · rintro ⟨hfolder, hname, middle, hmiddle, h⟩
      exact ⟨middle, ⟨hfolder, hname, hmiddle⟩, h⟩
    · rintro ⟨middle, ⟨hfolder, hname, hmiddle⟩, h⟩
      exact ⟨hfolder, hname, middle, hmiddle, h⟩

/-- Following a path visits folders only, so it goes the same way where they are folders still. -/
theorem walk_of_keeps (h : Keeps targets s t) {start : Location} {parts : List Text}
    (hwalk : s.walk start parts = .ok location) : t.walk start parts = .ok location := by
  induction parts generalizing start with
  | nil => exact hwalk
  | cons part rest ih =>
    obtain ⟨hfolder, hname, hrest⟩ := walk_cons_eq_ok_iff.1 hwalk
    exact walk_cons_eq_ok_iff.2 ⟨h.folder start hfolder, hname, ih hrest⟩

theorem eq_foldl_of_walk {start : Location} {parts : List Text}
    (hwalk : s.walk start parts = .ok location) : location = parts.foldl stepFrom start := by
  induction parts generalizing start with
  | nil =>
    cases hwalk
    rfl
  | cons part rest ih => exact ih (walk_cons_eq_ok_iff.1 hwalk).2.2

theorem find_eq_ok_iff : s.find path = .ok (location, entry) ↔
    requireShortPath path = .ok () ∧ s.walk (s.start path) (steps path) = .ok location ∧
      s.entry? location = some entry := by
  unfold find follow
  rw [bind_eq_ok_iff]
  constructor
  · rintro ⟨⟨⟩, hshort, h⟩
    obtain ⟨place, hwalk, h⟩ := bind_eq_ok_iff.1 h
    split at h
    · next found hfound =>
      cases h
      exact ⟨hshort, hwalk, hfound⟩
    · cases h
  · rintro ⟨hshort, hwalk, hfound⟩
    refine ⟨(), hshort, bind_eq_ok_iff.2 ⟨location, hwalk, ?_⟩⟩
    rw [hfound]
    rfl

theorem eq_locationOf_of_find (h : s.find path = .ok (location, entry)) :
    location = s.locationOf path :=
  eq_foldl_of_walk (find_eq_ok_iff.1 h).2.1

theorem find_of_keeps (h : Keeps targets s t) (hmem : s.locationOf path ∉ targets)
    (hfind : s.find path = .ok (location, entry)) : t.find path = .ok (location, entry) := by
  obtain ⟨hshort, hwalk, hentry⟩ := find_eq_ok_iff.1 hfind
  have hstart : t.start path = s.start path := by
    unfold start
    rw [h.current]
  rw [← eq_locationOf_of_find hfind] at hmem
  exact find_eq_ok_iff.2
    ⟨hshort, hstart ▸ walk_of_keeps h hwalk, h.entry location entry hmem hentry⟩

/-! ### Changing entries -/

theorem entry?_set {place : Location} (hplace : place ≠ []) (s : FileStore) (entry : Entry)
    (location : Location) :
    FileStore.entry? (s.set place entry) location =
      if location = place then some entry else s.entry? location := by
  unfold entry? set
  cases location with
  | nil => simp [Ne.symm hplace]
  | cons name rest => simp [Trie.find?_insert]

theorem keeps_set {place : Location} (hplace : place ≠ []) (entry : Entry)
    (hfolder : s.entry? place ≠ some .folder) : Keeps [place] s (s.set place entry) where
  current := rfl
  entry := fun location found hmem h => by
    rwa [entry?_set hplace, if_neg (mt List.mem_singleton.2 hmem)]
  folder := fun location h => by
    have hne : location ≠ place := fun heq => hfolder (heq ▸ h)
    rwa [entry?_set hplace, if_neg hne]

theorem keeps_set_of_none {place : Location} (hplace : place ≠ []) (entry : Entry)
    (hnone : s.entry? place = none) : Keeps [] s (s.set place entry) := by
  have hne : ∀ location found, s.entry? location = some found → location ≠ place := by
    rintro location found h rfl
    rw [hnone] at h
    cases h
  have hkeeps : Keeps [place] s (s.set place entry) := keeps_set hplace entry (by simp [hnone])
  exact ⟨rfl, fun location found _ h =>
    hkeeps.entry location found (mt List.mem_singleton.1 (hne location found h)) h, hkeeps.folder⟩

theorem keeps_makeAlong (s : FileStore) (folder : Location) (made : Bool) (names : List Text) :
    Keeps [] s (s.makeAlong folder made names).2 := by
  induction names generalizing s folder made with
  | nil => exact Keeps.refl [] s
  | cons name rest ih =>
    unfold makeAlong
    split
    · exact ih s folder.dropLast made
    · dsimp only
      split
      · exact Keeps.refl [] s
      · exact ih s (folder ++ [name]) made
      · exact Keeps.refl [] s
      · next hnone =>
        exact (keeps_set_of_none (by simp) .folder hnone).trans (ih _ (folder ++ [name]) true)

theorem keeps_makeFoldersFor (s : FileStore) (path : Text) :
    Keeps [] s (s.makeFoldersFor path).2 := by
  unfold makeFoldersFor makeFolders
  dsimp only
  split
  · exact Keeps.refl [] s
  · split
    · exact Keeps.refl [] s
    · exact keeps_makeAlong s _ false _

/-! ### Writing a file -/

/-- A file is written where its path leads to, and not over a folder. -/
theorem writableLocation_eq_ok (h : s.writableLocation path = .ok location) :
    requireShortPath path = .ok () ∧ s.walk (s.start path) (steps path) = .ok location ∧
      location ≠ [] ∧ s.entry? location ≠ some .folder := by
  unfold writableLocation at h
  obtain ⟨⟨⟩, hshort, h⟩ := bind_eq_ok_iff.1 h
  split at h
  · cases h
  next name hname =>
  obtain ⟨above, habove, h⟩ := bind_eq_ok_iff.1 h
  split at h
  · rw [requireFolder_bind_eq_ok_iff] at h
    cases h.2
  next hends =>
  obtain ⟨place, hplace, h⟩ := bind_eq_ok_iff.1 h
  obtain ⟨hfolder, hshortName, hsame⟩ := placeIn_eq_ok_iff.1 hplace
  have hlocation : place = location ∧ s.entry? place ≠ some .folder := by
    split at h <;> cases h
    · exact ⟨rfl, by simp_all⟩
    · exact ⟨rfl, by simp_all⟩
  obtain ⟨rfl, hentry⟩ := hlocation
  simp only [Bool.or_eq_true, decide_eq_true_eq, not_or] at hends
  obtain ⟨⟨hslash, hdot⟩, hdots⟩ := hends
  have hsteps : steps path = (Path.parts path).dropLast ++ [name] := by
    unfold steps
    rw [if_neg hslash, List.append_nil]
    exact (List.dropLast_append_getLast? name hname).symm
  refine ⟨hshort, ?_, by simp [← hsame], hentry⟩
  rw [hsteps, walk_append_eq_ok_iff]
  refine ⟨above, habove, walk_cons_eq_ok_iff.2 ⟨hfolder, fun _ _ => hshortName, ?_⟩⟩
  rw [stepFrom, if_neg hdot, if_neg hdots, hsame]
  rfl

theorem write_eq_ok {content : Bytes} (h : s.write path content = .ok t) :
    Keeps [s.locationOf path] s t ∧
      ∃ file, file.content = content ∧ t.find path = .ok (s.locationOf path, .file file) := by
  unfold write at h
  obtain ⟨location, hlocation, h⟩ := bind_eq_ok_iff.1 h
  cases h
  obtain ⟨hshort, hwalk, hne, hentry⟩ := writableLocation_eq_ok hlocation
  obtain rfl : location = s.locationOf path := eq_foldl_of_walk hwalk
  let file : File :=
    { content, modified := s.now, executable := s.isExecutable (s.locationOf path) }
  have hkeeps := keeps_set hne (.file file) hentry
  refine ⟨hkeeps, file, rfl, find_eq_ok_iff.2 ⟨hshort, walk_of_keeps hkeeps hwalk, ?_⟩⟩
  rw [entry?_set hne, if_pos rfl]

theorem read_eq_ok_iff : s.read path = .ok text ↔
    ∃ location file, s.find path = .ok (location, .file file) ∧
      Text.ofBytes? file.content = some text := by
  unfold read
  rw [bind_eq_ok_iff]
  constructor
  · rintro ⟨⟨location, entry⟩, hfind, h⟩
    cases entry with
    | folder | worker | scriptReader => cases h
    | file file =>
      dsimp only at h
      split at h
      · next found hfound =>
        cases h
        exact ⟨location, file, hfind, hfound⟩
      · cases h
  · rintro ⟨location, file, hfind, hcontent⟩
    refine ⟨(location, .file file), hfind, ?_⟩
    simp only [hcontent]
    rfl

/-- What was written is read again. -/
theorem read_of_writeText (h : s.writeText path text = (.ok (), t)) : t.read path = .ok text := by
  unfold writeText at h
  have hfolders := keeps_makeFoldersFor s path
  split at h
  · cases h
  · next made hmade =>
    rw [hmade] at hfolders
    split at h
    · next written hwrite =>
      cases h
      obtain ⟨-, file, hcontent, hfind⟩ := write_eq_ok hwrite
      refine read_eq_ok_iff.2 ⟨_, file, hfind, ?_⟩
      rw [hcontent, Text.ofBytes?_toBytes]
    · cases h

/-- **Writing a text** keeps everything but the file that its path denotes, if it fails, too. -/
theorem keeps_writeText (s : FileStore) (path text : Text) :
    Keeps [s.locationOf path] s (s.writeText path text).2 := by
  have hfolders := keeps_makeFoldersFor s path
  have hfailed {made : FileStore} (h : Keeps [] s made) : Keeps [s.locationOf path] s made :=
    h.trans (Keeps.refl _ made)
  unfold writeText
  split
  · next fault made hmade =>
    rw [hmade] at hfolders
    exact hfailed hfolders
  · next made hmade =>
    rw [hmade] at hfolders
    split
    · next written hwrite =>
      rw [← hfolders.locationOf_eq path]
      exact hfolders.trans (write_eq_ok hwrite).1
    · exact hfailed hfolders

/-! ### Reading other files -/

theorem read_of_keeps (h : Keeps targets s t) (hmem : s.locationOf path ∉ targets)
    (hread : s.read path = .ok text) : t.read path = .ok text := by
  obtain ⟨location, file, hfind, hcontent⟩ := read_eq_ok_iff.1 hread
  exact read_eq_ok_iff.2 ⟨location, file, find_of_keeps h hmem hfind, hcontent⟩

theorem pathExists_of_read (h : s.read path = .ok text) : s.pathExists path = true := by
  obtain ⟨location, file, hfind, -⟩ := read_eq_ok_iff.1 h
  unfold pathExists
  rw [hfind]
  rfl

theorem modified?_of_keeps (h : Keeps targets s t) (hmem : s.locationOf path ∉ targets)
    (hread : s.read path = .ok text) : t.modified? path = s.modified? path := by
  obtain ⟨location, file, hfind, -⟩ := read_eq_ok_iff.1 hread
  unfold modified?
  rw [hfind, find_of_keeps h hmem hfind]

end FileStore

end FeatureFixtures
