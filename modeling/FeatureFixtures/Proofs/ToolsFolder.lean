import FeatureFixtures.Proofs.Lookup
import FeatureFixtures.Proofs.VersionOrder
/-!
# The highest generator in the tools folder

A name in the tools folder offers a generator if it is a version that satisfies the requirement and
something stands below it under the name of the worker program. Of those that are offered the
highest is taken, and there is no other answer unless none is offered. Different names are different
versions, of which one is lower: so the highest is one of them alone, and the order in which the
names are listed makes no difference.
-/

namespace FeatureFixtures

open Std

namespace Resolution

/-- A name among those in the tools folder that offers a version to a project. -/
structure IsOffered (store : FileStore) (tools : Text) (names : List Text)
    (requirement : Version.Requirement) (name : Text) (version : Version) : Prop where
  listed : name ∈ names
  parse : Version.parse name = .ok version
  present : store.pathExists (Path.join (Path.join tools name) workerName) = true
  accepted : requirement.accepts version = true

/-- The generator under a name whose version is higher than those under all other names, given which
names stand for which versions. -/
def IsHighest (tools : Text) (offered : Text → Version → Prop) (found : Installation) : Prop :=
  ∃ name, offered name found.version ∧ found.location = Path.join tools name ∧
    ∀ other version, offered other version → other ≠ name →
      version.compare found.version = .lt

/-- The answer of the tools folder when its names are listed in some order. -/
def ofListing (store : FileStore) (tools : Text) (requirement : Version.Requirement)
    (listing : List Text) : Resolution :=
  match highest? (candidates store tools listing requirement) with
  | some found => .resolved found
  | none => .unknown (.noMatch requirement.toText)

variable {store : FileStore} {project : ProjectSettings} {tools : Text} {names listing : List Text}
  {requirement : Version.Requirement} {found best : Installation}

/-! ### The highest of a list -/

theorem isLE_higher_left (a b : Installation) :
    (a.version.compare (higher a b).version).isLE = true := by
  unfold higher
  split
  · exact ReflCmp.isLE_rfl
  · next hnot =>
    rw [Ordering.isLE_iff_ne_gt]
    exact hnot

theorem isLE_higher_right (a b : Installation) :
    (b.version.compare (higher a b).version).isLE = true := by
  unfold higher
  split
  · next hgt => rw [OrientedCmp.lt_of_gt hgt, Ordering.isLE_lt]
  · exact ReflCmp.isLE_rfl

theorem isLE_foldl_higher (first : Installation) (rest : List Installation) :
    ∀ candidate ∈ first :: rest,
      (candidate.version.compare (rest.foldl higher first).version).isLE = true := by
  induction rest generalizing first with
  | nil =>
    intro candidate hmem
    rw [List.mem_singleton.1 hmem]
    exact ReflCmp.isLE_rfl
  | cons next rest ih =>
    have hbest := ih (higher first next) (higher first next) List.mem_cons_self
    intro candidate hmem
    rcases List.mem_cons.1 hmem with rfl | hmem
    · exact TransCmp.isLE_trans (isLE_higher_left candidate next) hbest
    · rcases List.mem_cons.1 hmem with rfl | hrest
      · exact TransCmp.isLE_trans (isLE_higher_right first candidate) hbest
      · exact ih (higher first next) candidate (List.mem_cons_of_mem _ hrest)

theorem isLE_of_highest? {installations : List Installation}
    (h : highest? installations = some best) :
    ∀ candidate ∈ installations, (candidate.version.compare best.version).isLE = true := by
  cases installations with
  | nil => cases h
  | cons first rest =>
    cases h
    exact isLE_foldl_higher first rest

theorem highest?_eq_none_iff {installations : List Installation} :
    highest? installations = none ↔ installations = [] := by
  cases installations <;> simp [highest?]

/-! ### The highest of those that are offered -/

theorem installed?_eq_some_iff {name : Text} : installed? store tools name = some found ↔
    Version.parse name = .ok found.version ∧ found.location = Path.join tools name ∧
      store.pathExists (Path.join (Path.join tools name) workerName) = true := by
  obtain ⟨version, location⟩ := found
  unfold installed?
  cases Version.parse name with
  | error fault => simp
  | ok parsed =>
    simp only [Option.ite_none_right_eq_some, Option.some.injEq, Installation.mk.injEq,
      Except.ok.injEq]
    constructor
    · rintro ⟨hpresent, rfl, rfl⟩
      exact ⟨rfl, rfl, hpresent⟩
    · rintro ⟨rfl, rfl, hpresent⟩
      exact ⟨hpresent, rfl, rfl⟩

theorem mem_candidates_iff : found ∈ candidates store tools names requirement ↔
    ∃ name, IsOffered store tools names requirement name found.version ∧
      found.location = Path.join tools name := by
  unfold candidates
  rw [List.mem_filter, List.mem_filterMap]
  constructor
  · rintro ⟨⟨name, hlisted, hinstalled⟩, haccepted⟩
    obtain ⟨hparse, hlocation, hpresent⟩ := installed?_eq_some_iff.1 hinstalled
    exact ⟨name, ⟨hlisted, hparse, hpresent, haccepted⟩, hlocation⟩
  · rintro ⟨name, hoffered, hlocation⟩
    have hinstalled := installed?_eq_some_iff.2 ⟨hoffered.parse, hlocation, hoffered.present⟩
    exact ⟨⟨name, hoffered.listed, hinstalled⟩, hoffered.accepted⟩

theorem IsOffered.lt_of_isLE {name other : Text} {a b : Version}
    (ha : IsOffered store tools names requirement name a)
    (hb : IsOffered store tools names requirement other b) (hne : name ≠ other)
    (hle : (a.compare b).isLE = true) : a.compare b = .lt := by
  rcases Ordering.isLE_iff_eq_lt_or_eq_eq.1 hle with hlt | heq
  · exact hlt
  · exact absurd (Version.eq_of_compare_eq ha.parse hb.parse heq) hne

theorem highest?_candidates_eq_some_iff :
    highest? (candidates store tools names requirement) = some found ↔
      IsHighest tools (IsOffered store tools names requirement) found := by
  constructor
  · intro h
    obtain ⟨name, hoffered, hlocation⟩ := mem_candidates_iff.1 (mem_of_highest? h)
    refine ⟨name, hoffered, hlocation, fun other version hother hne => ?_⟩
    have hmem : ⟨version, Path.join tools other⟩ ∈ candidates store tools names requirement :=
      mem_candidates_iff.2 ⟨other, hother, rfl⟩
    exact hother.lt_of_isLE hoffered hne (isLE_of_highest? h _ hmem)
  · rintro ⟨name, hoffered, hlocation, hhighest⟩
    have hmem : found ∈ candidates store tools names requirement :=
      mem_candidates_iff.2 ⟨name, hoffered, hlocation⟩
    cases hbest : highest? (candidates store tools names requirement) with
    | none =>
      rw [highest?_eq_none_iff.1 hbest] at hmem
      cases hmem
    | some best =>
      obtain ⟨other, hother, hplace⟩ := mem_candidates_iff.1 (mem_of_highest? hbest)
      have hle := isLE_of_highest? hbest found hmem
      by_cases hsame : other = name
      · subst hsame
        have hversion : best.version = found.version :=
          Except.ok.inj (hother.parse.symm.trans hoffered.parse)
        obtain ⟨version, location⟩ := best
        obtain ⟨version', location'⟩ := found
        rw [← hplace] at hlocation
        cases hversion
        cases hlocation
        rfl
      · exact absurd hle (OrientedCmp.not_isLE_of_lt (hhighest other _ hother hsame))

/-! ### Answers of the tools folder -/

theorem ofTools_eq_ofListing (hrequirement : requirementOf project = .ok requirement)
    (hnames : toolNames? store (Path.join project.folder toolsFolder) = some names) :
    ofTools store project =
      ofListing store (Path.join project.folder toolsFolder) requirement names := by
  unfold ofTools ofListing
  cases hbest : highest?
      (candidates store (Path.join project.folder toolsFolder) names requirement) with
  | none => simp only [hrequirement, hnames, hbest]
  | some best => simp only [hrequirement, hnames, hbest]

theorem ofListing_eq_resolved_iff : ofListing store tools requirement names = .resolved found ↔
    IsHighest tools (IsOffered store tools names requirement) found := by
  rw [← highest?_candidates_eq_some_iff]
  unfold ofListing
  split
  · next best hbest => rw [hbest, Resolution.resolved.injEq, Option.some.injEq]
  · next hnone => simp [hnone]

theorem ofListing_eq_unknown_iff {reason : UnknownReason} :
    ofListing store tools requirement names = .unknown reason ↔
      reason = .noMatch requirement.toText ∧
        ∀ name version, ¬ IsOffered store tools names requirement name version := by
  have hnone : highest? (candidates store tools names requirement) = none ↔
      ∀ name version, ¬ IsOffered store tools names requirement name version := by
    rw [highest?_eq_none_iff, List.eq_nil_iff_forall_not_mem]
    constructor
    · intro h name version hoffered
      exact h ⟨version, Path.join tools name⟩ (mem_candidates_iff.2 ⟨name, hoffered, rfl⟩)
    · intro h candidate hmem
      obtain ⟨name, hoffered, -⟩ := mem_candidates_iff.1 hmem
      exact h name _ hoffered
  rw [← hnone]
  unfold ofListing
  split
  · next best hbest => simp [hbest]
  · next h => simp [h, eq_comm]

theorem IsHighest.congr {offered offered' : Text → Version → Prop}
    (h : ∀ name version, offered name version ↔ offered' name version) :
    IsHighest tools offered found ↔ IsHighest tools offered' found := by
  simp only [IsHighest, h]

theorem ofListing_perm (h : listing.Perm names) :
    ofListing store tools requirement listing = ofListing store tools requirement names := by
  have hoffered : ∀ name version, IsOffered store tools names requirement name version ↔
      IsOffered store tools listing requirement name version := by
    intro name version
    constructor
    · exact fun hname => { hname with listed := h.mem_iff.2 hname.listed }
    · exact fun hname => { hname with listed := h.mem_iff.1 hname.listed }
  cases hanswer : ofListing store tools requirement names with
  | resolved found =>
    exact ofListing_eq_resolved_iff.2
      ((IsHighest.congr hoffered).1 (ofListing_eq_resolved_iff.1 hanswer))
  | unknown reason =>
    obtain ⟨hreason, hnone⟩ := ofListing_eq_unknown_iff.1 hanswer
    exact ofListing_eq_unknown_iff.2
      ⟨hreason, fun name version => mt (hoffered name version).2 (hnone name version)⟩

/-- **The tools folder answers with the highest version that it offers,** and says that there is
none exactly if it offers none. The order of its names makes no difference. -/
theorem ofTools_highest (hrequirement : requirementOf project = .ok requirement)
    (hnames : toolNames? store (Path.join project.folder toolsFolder) = some names) :
    let tools := Path.join project.folder toolsFolder
    (∀ found, ofTools store project = .resolved found ↔
      IsHighest tools (IsOffered store tools names requirement) found) ∧
    (∀ reason, ofTools store project = .unknown reason ↔
      reason = .noMatch requirement.toText ∧
        ∀ name version, ¬ IsOffered store tools names requirement name version) ∧
    ∀ listing : List Text, listing.Perm names →
      ofListing store tools requirement listing = ofTools store project := by
  intro tools
  rw [ofTools_eq_ofListing hrequirement hnames]
  exact ⟨fun found => ofListing_eq_resolved_iff, fun reason => ofListing_eq_unknown_iff,
    fun listing => ofListing_perm⟩

/-- Builds of one version, a later version without a program, and a name that is no version. -/
theorem ofTools_highest_build :
    let tools : Location := ["p", ".spekgen", "generators"]
    let folders : FileStore := (FileStore.makeFolders {} "/p/.spekgen/generators/1.30.0").2
    let store := (([["latest"], ["1.10.0+b2"], ["1.9.0"], ["1.10.0"]] : List Location).foldl
      (fun store name => (store.set (tools ++ name) .folder).set (tools ++ name ++ [workerName])
        .worker) folders)
    let project : ProjectSettings := { folder := "/p", pin := { requirement := some "^1" } }
    let names : List Text := ["1.30.0", "latest", "1.10.0+b2", "1.9.0", "1.10.0"]
    let found : Installation :=
      { version := ⟨1, 10, 0, [], ["b2"]⟩, location := "/p/.spekgen/generators/1.10.0+b2" }
    let requirement : Version.Requirement := [⟨.caret, 1, none, none, []⟩]
    requirementOf project = .ok requirement ∧
    toolNames? store (Path.join project.folder toolsFolder) = some names ∧
    IsHighest (Path.join project.folder toolsFolder)
      (IsOffered store (Path.join project.folder toolsFolder) names requirement) found ∧
    ofListing store (Path.join project.folder toolsFolder) requirement names.reverse =
      .resolved found := by
  intro tools folders store project names found requirement
  have hrequirement : requirementOf project = .ok requirement := by decide +kernel
  have hnames : toolNames? store (Path.join project.folder toolsFolder) = some names := by
    decide +kernel
  obtain ⟨hresolved, -, horder⟩ := ofTools_highest hrequirement hnames
  have hfound : ofTools store project = .resolved found := by decide +kernel
  refine ⟨hrequirement, hnames, (hresolved found).1 hfound, ?_⟩
  rw [horder names.reverse (List.reverse_perm names), hfound]

end Resolution

end FeatureFixtures
