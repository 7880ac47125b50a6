import FeatureFixtures.Proofs.Identifiers
import FeatureFixtures.Proofs.LineEndings
import Mathlib.Data.List.Forall2
/-!
# Separators of paths

Slashes and backslashes both separate the parts of a path, and the parts that name something decide
what folder and what namespace a feature file has. The recorded path has the same names in the same
order, whatever separators they were written with, so the folder and the namespace are the same for
every style.
-/

namespace FeatureFixtures

namespace Text

theorem notMem_join {a separator : Char} (hne : a ≠ separator) {parts : List Text}
    (h : ∀ part ∈ parts, a ∉ part) : a ∉ join [separator] parts := by
  unfold join
  induction parts with
  | nil => simp
  | cons part rest ih =>
    rw [List.forall_mem_cons] at h
    cases rest with
    | nil => simpa using h.1
    | cons next others =>
      rw [List.intercalate_cons_cons, List.mem_append, List.mem_append, List.mem_singleton]
      rintro ((hpart | heq) | hrest)
      · exact h.1 hpart
      · exact hne heq
      · exact ih h.2 hrest

theorem join_cons_ne_nil {first : Text} (hne : first ≠ []) (separator : Text) (rest : List Text) :
    join separator (first :: rest) ≠ [] := by
  unfold join
  cases rest with
  | nil => simpa using hne
  | cons next others => simp [hne]

theorem flatMap_eq_self {parts : List Text} {f : Text → List Text}
    (h : ∀ part ∈ parts, f part = [part]) : parts.flatMap f = parts := by
  rw [List.flatMap_congr h, List.flatMap_singleton']

end Text

namespace Path

/-- A path of the same characters, but for separators that may be of the other style. -/
def Restyled (path other : Text) : Prop :=
  List.Forall₂ (fun c d => c = d ∨ isSeparator c = true ∧ isSeparator d = true) path other

/-- What stands between separators of either style. -/
def pieces (path : Text) : List Text :=
  path.splitOnP isSeparator

def isNamed (part : Text) : Bool :=
  !part.isEmpty && part != ['.']

/-- The pieces that are neither empty nor a dot. -/
def segments (path : Text) : List Text :=
  (pieces path).filter isNamed

/-- The segments of a path with single slashes between them. -/
def unified (path : Text) : Text :=
  Text.join ['/'] (segments path)

variable {path other part : Text}

/-! ### Taking paths apart -/

theorem isSeparator_eq_false_of_mem (h : part ∈ pieces path) :
    ∀ c ∈ part, isSeparator c = false := by
  intro c hc
  have hflat : c ∈ path.filter (!isSeparator ·) := by
    rw [← Identifier.flatten_splitOnP]
    exact List.mem_flatten.2 ⟨part, h, hc⟩
  simpa using (List.mem_filter.1 hflat).2

theorem notMem_of_mem_pieces (h : part ∈ pieces path) : '/' ∉ part ∧ '\\' ∉ part :=
  ⟨fun hmem => absurd (isSeparator_eq_false_of_mem h '/' hmem) (by decide),
    fun hmem => absurd (isSeparator_eq_false_of_mem h '\\' hmem) (by decide)⟩

theorem pieces_of_mem_pieces (h : part ∈ pieces path) : pieces part = [part] :=
  List.splitOnP_eq_singleton (isSeparator_eq_false_of_mem h)

theorem pieces_cons (c : Char) (rest : Text) : pieces (c :: rest) =
    if isSeparator c then [] :: pieces rest else (pieces rest).modifyHead (c :: ·) :=
  List.splitOnP_cons_eq_if_modifyHead c rest

theorem exists_pieces_eq_cons (path : Text) : ∃ first more, pieces path = first :: more :=
  List.exists_cons_of_ne_nil (List.splitOnP_ne_nil isSeparator path)

theorem pieces_append_cons (s t : Text) {c : Char} (hc : isSeparator c = true) :
    pieces (s ++ c :: t) = pieces s ++ pieces t :=
  List.splitOnP_append_cons s t hc

theorem pieces_join {separator : Char} (hseparator : isSeparator separator = true)
    {parts : List Text} (hne : parts ≠ []) :
    pieces (Text.join [separator] parts) = parts.flatMap pieces := by
  unfold Text.join
  induction parts with
  | nil => exact absurd rfl hne
  | cons part rest ih =>
    cases rest with
    | nil => simp
    | cons next others =>
      rw [List.intercalate_cons_cons, List.append_assoc, List.singleton_append,
        pieces_append_cons _ _ hseparator, ih (by simp), ← List.flatMap_cons]

theorem segments_join {separator : Char} (hseparator : isSeparator separator = true)
    (parts : List Text) : segments (Text.join [separator] parts) = parts.flatMap segments := by
  by_cases hne : parts = []
  · subst hne
    rfl
  · unfold segments
    rw [pieces_join hseparator hne, List.filter_flatMap]

/-- Between two backslashes, the separators are the slashes. -/
theorem pieces_of_notMem (h : '\\' ∉ path) : pieces path = path.splitOn '/' := by
  unfold pieces
  induction path with
  | nil => rfl
  | cons c rest ih =>
    rw [List.mem_cons, not_or] at h
    have hc : isSeparator c = (c == '/') := by
      simp [isSeparator, Ne.symm h.1]
    rw [List.splitOnP_cons_eq_if_modifyHead, List.splitOn_cons_eq_if_modifyHead, hc, ih h.2]

theorem pieces_of_mem_splitOn (h : part ∈ path.splitOn '\\') : pieces part = part.splitOn '/' :=
  pieces_of_notMem fun hmem => (Text.mem_and_ne_of_mem_splitOn h '\\' hmem).2 rfl

theorem pieces_eq_flatMap (path : Text) :
    pieces path = (path.splitOn '\\').flatMap fun part => part.splitOn '/' := by
  calc pieces path
      = pieces (Text.join ['\\'] (path.splitOn '\\')) := by
        rw [Text.join, List.intercalate_splitOn]
    _ = (path.splitOn '\\').flatMap pieces := pieces_join rfl (List.splitOn_ne_nil _ _)
    _ = (path.splitOn '\\').flatMap fun part => part.splitOn '/' :=
        List.flatMap_congr fun part hpart => pieces_of_mem_splitOn hpart

theorem segments_of_mem_segments (h : part ∈ segments path) : segments part = [part] := by
  obtain ⟨hpiece, hnamed⟩ := List.mem_filter.1 h
  unfold segments
  rw [pieces_of_mem_pieces hpiece, List.filter_singleton, hnamed]
  rfl

theorem segments_unified (path : Text) : segments (unified path) = segments path := by
  unfold unified
  rw [segments_join rfl]
  exact Text.flatMap_eq_self fun part hpart => segments_of_mem_segments hpart

/-! ### Paths of another style -/

theorem Restyled.pieces_eq (h : Restyled path other) : pieces other = pieces path := by
  induction h with
  | nil => rfl
  | @cons c d rest others hcd hrest ih =>
    rw [pieces_cons, pieces_cons, ih]
    rcases hcd with rfl | ⟨hc, hd⟩
    · rfl
    · rw [if_pos hc, if_pos hd]

theorem restyled_of_pieces_eq (h : pieces other = pieces path) : Restyled path other := by
  have hcons {c : Char} {rest : Text} : pieces (c :: rest) ≠ pieces [] := by
    obtain ⟨first, more, hmore⟩ := exists_pieces_eq_cons rest
    rw [pieces_cons, hmore]
    split <;> simp [pieces]
  induction path generalizing other with
  | nil =>
    cases other with
    | nil => exact .nil
    | cons d others => exact absurd h hcons
  | cons c rest ih =>
    cases other with
    | nil => exact absurd h.symm hcons
    | cons d others =>
      obtain ⟨first, more, hmore⟩ := exists_pieces_eq_cons rest
      obtain ⟨first', more', hmore'⟩ := exists_pieces_eq_cons others
      rw [pieces_cons, pieces_cons, hmore, hmore'] at h
      by_cases hc : isSeparator c = true <;> by_cases hd : isSeparator d = true <;>
        simp only [hc, hd, if_true, if_false, Bool.false_eq_true, List.modifyHead_cons,
          List.cons.injEq, true_and, reduceCtorEq, false_and] at h
      · exact .cons (.inr ⟨hc, hd⟩) (ih (by rw [hmore, hmore', h.1, h.2]))
      · exact .cons (.inl h.1.1.symm) (ih (by rw [hmore, hmore', h.1.2, h.2]))

theorem restyled_iff : Restyled path other ↔ pieces other = pieces path :=
  ⟨Restyled.pieces_eq, restyled_of_pieces_eq⟩

theorem Restyled.refl (path : Text) : Restyled path path :=
  restyled_iff.2 rfl

theorem Restyled.segments_eq (h : Restyled path other) : segments other = segments path := by
  unfold segments
  rw [h.pieces_eq]

theorem Restyled.unified_eq (h : Restyled path other) : unified other = unified path := by
  unfold unified
  rw [h.segments_eq]

theorem restyled_join (separator : Char) (hseparator : isSeparator separator = true) {path : Text}
    {parts : List Text} (h : parts.flatMap pieces = pieces path) :
    Restyled path (Text.join [separator] parts) := by
  have hne : parts ≠ [] := by
    rintro rfl
    exact List.splitOnP_ne_nil isSeparator path h.symm
  rw [restyled_iff, pieces_join hseparator hne, h]

theorem flatMap_pieces_pieces (path : Text) : (pieces path).flatMap pieces = pieces path :=
  Text.flatMap_eq_self fun _ hpart => pieces_of_mem_pieces hpart

/-! ### Recorded paths -/

theorem recorded_of_mem (h : '\\' ∈ path) :
    recorded path = Text.join ['/'] ((path.splitOn '\\').filter (!·.isEmpty)) :=
  if_pos h

theorem recorded_of_notMem (h : '\\' ∉ path) : recorded path = unified path := by
  have hnames : names path = segments path := by
    unfold names parts segments
    rw [pieces_of_notMem h, List.filter_filter]
    refine List.filter_congr fun part _ => ?_
    rw [isNamed, Bool.and_comm]
  have hkept : (segments path).filter (· != ['\\']) = segments path := by
    rw [List.filter_eq_self]
    intro part hpart
    rw [bne_iff_ne]
    rintro rfl
    exact (notMem_of_mem_pieces (List.mem_filter.1 hpart).1).2 List.mem_cons_self
  unfold recorded normalize unified
  rw [if_neg h, hnames, hkept]

theorem segments_recorded (path : Text) : segments (recorded path) = segments path := by
  by_cases h : '\\' ∈ path
  · have hempty (parts : List Text) :
        (parts.filter (!·.isEmpty)).flatMap segments = parts.flatMap segments := by
      induction parts with
      | nil => rfl
      | cons part rest ih =>
        by_cases hpart : part = []
        · subst hpart
          exact ih
        · simp [hpart, ih]
    calc segments (recorded path)
        = (path.splitOn '\\').flatMap segments := by
          rw [recorded_of_mem h, segments_join rfl, hempty]
      _ = segments (Text.join ['\\'] (path.splitOn '\\')) := (segments_join rfl _).symm
      _ = segments path := by rw [Text.join, List.intercalate_splitOn]
  · rw [recorded_of_notMem h, segments_unified]

theorem unified_recorded (path : Text) : unified (recorded path) = unified path := by
  unfold unified
  rw [segments_recorded]

/-! ### Folders and namespaces -/

theorem folderNames_recorded (path : Text) :
    folderNames (recorded path) = (segments path).dropLast := by
  rw [← segments_recorded path]
  rfl

end Path

namespace Namespace

/-- The parts of a namespace: that of the project, if it has one, and one for each folder. -/
def ofFolders (space : Option Text) (folders : List Text) : Text :=
  let parts := (space.filter (!·.isEmpty)).toList ++ folders.map ofFolderName
  if parts.isEmpty then fallback else Text.join ['.'] parts

theorem ofPath_eq_ofFolders (space : Option Text) (path : Text) :
    ofPath space path = ofFolders space (Path.folderNames path) := by
  unfold ofPath ofFolders
  rcases hfolders : (Path.folderNames path).map ofFolderName with _ | ⟨first, rest⟩
  · cases space.filter (!·.isEmpty) <;> simp [Text.join]
  · have hfirst : first ≠ [] := by
      obtain ⟨folder, hfolder, rfl⟩ := List.mem_map.1 (hfolders ▸ List.mem_cons_self)
      exact (Identifier.isName_ofFolderName (Identifier.ne_nil_of_mem_folderNames hfolder)).ne_nil
    obtain ⟨c, more, hjoin⟩ :=
      List.exists_cons_of_ne_nil (Text.join_cons_ne_nil hfirst ['.'] rest)
    cases space.filter (!·.isEmpty) with
    | none => simp [hjoin]
    | some name =>
      simp only [hjoin, Option.toList_some, List.singleton_append, List.isEmpty_cons]
      rw [← hjoin, Text.join, Text.join, List.intercalate_cons_cons]
      simp

end Namespace

namespace Path

/-- **The folder and the namespace do not depend on the style of separators.** They are made of the
segments of the path but the last one, which separators of both styles delimit. -/
theorem folder_recorded_of_restyled {path other : Text} (h : Restyled path other)
    (space : Option Text) :
    folder (recorded path) = Text.join ['/'] (segments path).dropLast ∧
    folder (recorded other) = folder (recorded path) ∧
    Namespace.ofPath space (recorded path) = Namespace.ofFolders space (segments path).dropLast ∧
    Namespace.ofPath space (recorded other) = Namespace.ofPath space (recorded path) := by
  have hfolder (path : Text) :
      folder (recorded path) = Text.join ['/'] (segments path).dropLast := by
    rw [folder, folderNames_recorded]
  have hspace (path : Text) : Namespace.ofPath space (recorded path) =
      Namespace.ofFolders space (segments path).dropLast := by
    rw [Namespace.ofPath_eq_ofFolders, folderNames_recorded]
  refine ⟨hfolder path, ?_, hspace path, ?_⟩
  · rw [hfolder other, hfolder path, h.segments_eq]
  · rw [hspace other, hspace path, h.segments_eq]

/-- Dots and doubled separators of both styles lie between the folders. -/
theorem folder_recorded_of_restyled_specs :
    let path : Text := "./my specs//.\\2024\\A.feature"
    let other : Text := ".\\my specs\\/.\\2024/A.feature"
    Restyled path other ∧ folder (recorded other) = "my specs/2024" ∧
    Namespace.ofPath (some "Shop") (recorded other) = "Shop.my_specs._2024" := by
  intro path other
  have hstyle : Restyled path other := restyled_iff.2 (by decide)
  obtain ⟨hfolder, hsame, hspace, hsameSpace⟩ :=
    folder_recorded_of_restyled hstyle (some "Shop")
  refine ⟨hstyle, ?_, ?_⟩
  · rw [hsame, hfolder]
    decide
  · rw [hsameSpace, hspace]
    decide +kernel

end Path

end FeatureFixtures
