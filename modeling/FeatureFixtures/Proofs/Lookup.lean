import FeatureFixtures.Resolution.Resolver
import FeatureFixtures.Proofs.VersionText
/-!
# What the standard resolver finds

The standard resolver answers from the settings and the files of a project alone: it stays the same,
and the present time makes no difference to it. Every version that it finds was read from a text.
-/

namespace FeatureFixtures

namespace FileStore

theorem walk_now (s : FileStore) (now : Nat) (start : Location) (parts : List Text) :
    { s with now }.walk start parts = s.walk start parts := by
  induction parts generalizing start with
  | nil => rfl
  | cons part rest ih =>
    rw [walk.eq_2, walk.eq_2, ih, ih]
    simp only [ih]
    rfl

theorem find_now (s : FileStore) (now : Nat) (path : Text) :
    { s with now }.find path = s.find path := by
  unfold find follow
  rw [walk_now]
  rfl

end FileStore

namespace Resolution

theorem ofTools_now (s : FileStore) (now : Nat) (project : ProjectSettings) :
    ofTools { s with now } project = ofTools s project := by
  have hinstalled (tools : Text) : installed? { s with now } tools = installed? s tools := by
    funext name
    unfold installed? FileStore.pathExists
    simp only [FileStore.find_now]
  unfold ofTools toolNames? candidates
  simp only [FileStore.find_now, hinstalled]
  rfl

/-! ### Versions that are found -/

theorem foldl_higher_mem (first : Installation) (rest : List Installation) :
    rest.foldl higher first ∈ first :: rest := by
  induction rest generalizing first with
  | nil => exact List.mem_singleton.2 rfl
  | cons next rest ih =>
    have hhigher : higher first next = first ∨ higher first next = next := by
      unfold higher
      split <;> simp
    rw [List.foldl_cons]
    rcases List.mem_cons.1 (ih (higher first next)) with heq | hmem
    · rw [heq]
      rcases hhigher with h | h <;> simp [h]
    · simp [hmem]

theorem mem_of_highest? {found : List Installation} {best : Installation}
    (h : highest? found = some best) : best ∈ found := by
  cases found with
  | nil => cases h
  | cons first rest =>
    cases h
    exact foldl_higher_mem first rest

theorem isWellFormed_of_installed? {store : FileStore} {tools name : Text} {found : Installation}
    (h : installed? store tools name = some found) : found.version.IsWellFormed := by
  unfold installed? at h
  split at h
  · cases h
  · next version hversion =>
    dsimp only at h
    split at h
    · cases h
      exact Version.isWellFormed_of_parse hversion
    · cases h

theorem isWellFormed_of_ofTools {store : FileStore} {project : ProjectSettings}
    {found : Installation} (h : ofTools store project = .resolved found) :
    found.version.IsWellFormed := by
  unfold ofTools at h
  split at h
  · cases h
  dsimp only at h
  split at h
  · cases h
  next names hnames =>
  split at h
  · next best hbest =>
    cases h
    have hmem := mem_of_highest? hbest
    rw [candidates, List.mem_filter, List.mem_filterMap] at hmem
    obtain ⟨⟨name, -, hinstalled⟩, -⟩ := hmem
    exact isWellFormed_of_installed? hinstalled
  · cases h

theorem isWellFormed_of_ofSettings {project : ProjectSettings} {found : Installation}
    (h : ofSettings project = .resolved found) : found.version.IsWellFormed := by
  unfold ofSettings at h
  split at h
  · cases h
  · cases h
  · cases h
  · split at h
    · next parsed hparsed =>
      cases h
      exact Version.isWellFormed_of_parse hparsed
    · cases h

end Resolution

namespace Resolver

/-- The settings decide if they name a generator, and otherwise the installed generators do if one
of them is found. -/
theorem resolve_standard (store : FileStore) (project : ProjectSettings) :
    standard.resolve store project =
      (match Resolution.ofSettings project, Resolution.ofTools store project with
        | .resolved found, _ | .unknown _, .resolved found => .resolved found
        | .unknown reason, .unknown _ => .unknown reason,
        standard) := by
  simp only [standard, resolve, resolveFirst]
  cases Resolution.ofSettings project <;> cases Resolution.ofTools store project <;> rfl

theorem resolve_standard_now (s : FileStore) (now : Nat) (project : ProjectSettings) :
    standard.resolve { s with now } project = standard.resolve s project := by
  rw [resolve_standard, resolve_standard, Resolution.ofTools_now]

theorem isWellFormed_of_standard (store : FileStore) (project : ProjectSettings) :
    ((standard.resolve store project).1.effectiveVersion .current).IsWellFormed := by
  rw [resolve_standard]
  cases hsettings : Resolution.ofSettings project with
  | resolved found => exact Resolution.isWellFormed_of_ofSettings hsettings
  | unknown reason =>
    cases htools : Resolution.ofTools store project with
    | resolved found => exact Resolution.isWellFormed_of_ofTools htools
    | unknown other => exact Version.isWellFormed_current

end Resolver

end FeatureFixtures
