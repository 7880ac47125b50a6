import FeatureFixtures.Proofs.Generation
/-!
# The life of contexts

Every use of a context is written down: its creation, its start and how that ended, every run and
every release. Whatever is asked of a workspace in whatever order, and however its launcher behaves,
exactly the cached context has been created and not released, it has been started with success, and
no context is used after its release. Nothing is left over once the host is given up.
-/

namespace FeatureFixtures

variable {κ σ : Type}

/-- A context, and how many were created before it. -/
structure Numbered (κ : Type) where
  number : Nat
  context : κ

/-- What is done with the context of a number. -/
inductive ContextUse where
  | created (number : Nat)
  | started (number : Nat) (succeeded : Bool)
  | invoked (number : Nat)
  | released (number : Nat)
deriving DecidableEq, Repr, Inhabited

/-- The number of the context that is used. -/
def ContextUse.number : ContextUse → Nat
  | created number | started number _ | invoked number | released number => number

/-- The state of a launcher, how many contexts it created, and how they were used, the first use
first. -/
structure Traced (σ : Type) where
  state : σ
  count : Nat := 0
  uses : List ContextUse := []

/-- The state of a launcher after another use of a context. -/
def Traced.noting (traced : Traced σ) (state : σ) (use : ContextUse) : Traced σ :=
  { traced with state, uses := traced.uses ++ [use] }

/-- A launcher that behaves like a given one and writes down every use of its contexts. -/
def Launcher.traced (launcher : Launcher κ σ) : Launcher (Numbered κ) (Traced σ) :=
  { create := fun store wanted traced =>
      match launcher.create store wanted traced.state with
      | (.ok context, state) =>
        (.ok { number := traced.count, context },
          { traced with count := traced.count + 1 }.noting state (.created traced.count))
      | (.error error, state) => (.error error, { traced with state })
    start := fun numbered traced =>
      match launcher.start numbered.context traced.state with
      | (.ok (), state) => (.ok (), traced.noting state (.started numbered.number true))
      | (.error error, state) =>
        (.error error, traced.noting state (.started numbered.number false))
    version := fun numbered => launcher.version numbered.context
    invoke := fun numbered request traced =>
      let (outcome, state) := launcher.invoke numbered.context request traced.state
      (outcome, traced.noting state (.invoked numbered.number))
    release := fun numbered traced =>
      traced.noting (launcher.release numbered.context traced.state) (.released numbered.number) }

/-- What can be asked of a workspace and its host. A generator to discard may be any one at all. -/
inductive Operation (κ : Type) where
  | obtain (resolution : Resolution)
  | generate (file : FeatureFile) (settings : GenerationSettings)
  | invalidate
  | discard (handle : Handle κ)
  | dispose
  /-- Others change the files. -/
  | replaceFiles (store : FileStore)

namespace Workspace

/-- The workspace after an operation. A host that is disposed of forgets its generator. -/
def perform (w : Workspace κ σ) : Operation κ → Workspace κ σ
  | .obtain resolution => { w with host := (w.host.obtain w.store resolution).2 }
  | .generate file settings => (w.generate file settings).2
  | .invalidate | .dispose => w.invalidate
  | .discard handle => { w with host := w.host.discard handle }
  | .replaceFiles store => { w with store }

/-- The workspace with a new host, which has the same built-in generator and launcher and writes
down the uses of contexts. -/
def traced (w : Workspace κ σ) : Workspace (Numbered κ) (Traced σ) :=
  { w with
    host :=
      { builtin := w.host.builtin
        launcher := w.host.launcher.traced
        state := { state := w.host.state } } }

end Workspace

/-! ### Uses of contexts -/

/-- No context is used after its release, and of the created ones at most the given one has not been
released. -/
structure Traced.IsTidy (traced : Traced σ) (live : Option Nat) : Prop where
  number_lt : ∀ use ∈ traced.uses, use.number < traced.count
  created_mem : ∀ n < traced.count, .created n ∈ traced.uses
  released_iff : ∀ n, .released n ∈ traced.uses ↔ n < traced.count ∧ live ≠ some n
  live_lt : ∀ n, live = some n → n < traced.count
  ordered : traced.uses.Pairwise fun earlier later => earlier ≠ .released later.number

namespace Traced

variable {traced : Traced σ} {live : Option Nat} {n : Nat}

theorem isTidy_empty (state : σ) : ({ state } : Traced σ).IsTidy none where
  number_lt := by simp
  created_mem := by simp
  released_iff := by simp
  live_lt := by simp
  ordered := .nil

theorem IsTidy.setState (h : traced.IsTidy live) (state : σ) :
    ({ traced with state } : Traced σ).IsTidy live :=
  ⟨h.number_lt, h.created_mem, h.released_iff, h.live_lt, h.ordered⟩

/-- A context that was not released is used once more. -/
theorem IsTidy.pairwise_append (h : traced.IsTidy live) {use : ContextUse}
    (huse : .released use.number ∉ traced.uses) :
    (traced.uses ++ [use]).Pairwise fun earlier later => earlier ≠ .released later.number := by
  refine List.pairwise_append.2 ⟨h.ordered, List.pairwise_singleton _ _, ?_⟩
  intro earlier hearlier later hlater heq
  rw [List.mem_singleton.1 hlater] at heq
  exact huse (heq ▸ hearlier)

theorem IsTidy.created (h : traced.IsTidy none) (state : σ) :
    ({ traced with count := traced.count + 1 }.noting state (.created traced.count)).IsTidy
      (some traced.count) where
  number_lt := by
    intro use huse
    rcases List.mem_append.1 huse with hmem | hnew
    · exact Nat.lt_succ_of_lt (h.number_lt use hmem)
    · rw [List.mem_singleton.1 hnew]
      exact Nat.lt_succ_self _
  created_mem := by
    intro n hn
    rcases Nat.lt_succ_iff_lt_or_eq.1 hn with hlt | rfl
    · exact List.mem_append_left _ (h.created_mem n hlt)
    · exact List.mem_append_right _ (List.mem_singleton.2 rfl)
  released_iff := by
    intro n
    have hreleased := h.released_iff n
    simp only [noting, List.mem_append, List.mem_singleton, reduceCtorEq, or_false, hreleased,
      Option.some.injEq, ne_eq, not_false_eq_true, and_true]
    omega
  live_lt := by
    rintro n ⟨⟩
    exact Nat.lt_succ_self _
  ordered := h.pairwise_append fun hmem =>
    Nat.lt_irrefl _ (h.number_lt _ hmem)

/-- The live context is used and stays alive. -/
theorem IsTidy.used (h : traced.IsTidy (some n)) (state : σ) {use : ContextUse}
    (hnumber : use.number = n) (huse : use ≠ .released n) :
    (traced.noting state use).IsTidy (some n) where
  number_lt := by
    intro other hother
    rcases List.mem_append.1 hother with hmem | hnew
    · exact h.number_lt other hmem
    · rw [List.mem_singleton.1 hnew, hnumber]
      exact h.live_lt n rfl
  created_mem := fun m hm => List.mem_append_left _ (h.created_mem m hm)
  released_iff := by
    intro m
    have hne : ContextUse.released m ≠ use := by
      rintro rfl
      exact huse (congrArg ContextUse.released hnumber)
    simp only [noting, List.mem_append, List.mem_singleton, hne, or_false, h.released_iff m]
  live_lt := h.live_lt
  ordered := h.pairwise_append fun hmem =>
    ((h.released_iff _).1 hmem).2 (congrArg some hnumber.symm)

theorem IsTidy.released (h : traced.IsTidy (some n)) (state : σ) :
    (traced.noting state (.released n)).IsTidy none where
  number_lt := by
    intro use huse
    rcases List.mem_append.1 huse with hmem | hnew
    · exact h.number_lt use hmem
    · rw [List.mem_singleton.1 hnew]
      exact h.live_lt n rfl
  created_mem := fun m hm => List.mem_append_left _ (h.created_mem m hm)
  released_iff := by
    intro m
    have hlive := h.live_lt n rfl
    simp only [noting, List.mem_append, List.mem_singleton, ContextUse.released.injEq,
      h.released_iff m, ne_eq, Option.some.injEq, reduceCtorEq, not_false_eq_true, and_true]
    constructor
    · rintro (⟨hlt, -⟩ | rfl)
      · exact hlt
      · exact hlive
    · intro hlt
      exact (Decidable.em (n = m)).elim (fun heq => .inr heq.symm) fun hne => .inl ⟨hlt, hne⟩
  live_lt := by simp
  ordered := h.pairwise_append fun hmem => ((h.released_iff _).1 hmem).2 rfl

theorem IsTidy.created_iff (h : traced.IsTidy live) :
    .created n ∈ traced.uses ↔ n < traced.count :=
  ⟨fun hmem => h.number_lt _ hmem, h.created_mem n⟩

/-- A context is released once at most: a second release would be a use after the first one. -/
theorem IsTidy.count_released_le (h : traced.IsTidy live) :
    traced.uses.count (.released n) ≤ 1 := by
  by_contra hmore
  have htwice : List.Sublist [.released n, .released n] traced.uses :=
    List.replicate_sublist_iff.2 (Nat.lt_of_not_le hmore)
  have hordered := h.ordered.sublist htwice
  exact List.rel_of_pairwise_cons hordered (List.mem_singleton.2 rfl) rfl

end Traced

/-! ### Hosts -/

namespace Host

variable {host : Host (Numbered κ) (Traced σ)} {launcher : Launcher κ σ}

/-- The cached context is the live one, and was started with success. -/
structure IsTidy (host : Host (Numbered κ) (Traced σ)) (launcher : Launcher κ σ) : Prop where
  launcher_eq : host.launcher = launcher.traced
  uses : host.state.IsTidy (host.cached.map (·.context.number))
  started : ∀ generator, host.cached = some generator →
    .started generator.context.number true ∈ host.state.uses

theorem IsTidy.invalidate (h : host.IsTidy launcher) : host.invalidate.IsTidy launcher := by
  unfold Host.invalidate
  split
  · next generator hcached =>
    have huses := h.uses
    rw [hcached] at huses
    refine ⟨h.launcher_eq, ?_, by simp [release, record]⟩
    simp only [release, record, h.launcher_eq]
    exact huses.released _
  · exact h

theorem IsTidy.discard (h : host.IsTidy launcher) (handle : Handle (Numbered κ)) :
    (host.discard handle).IsTidy launcher := by
  rcases host.discard_cases handle with heq | heq
  · rw [heq]
    exact h.invalidate
  · rwa [heq]

/-- A launch ends with a live context that was started with success, or without a live one. -/
theorem IsTidy.launch (h : host.IsTidy launcher) (hcached : host.cached = none) (store : FileStore)
    (wanted : Installation) :
    (host.launch store wanted).2.launcher = launcher.traced ∧
      (host.launch store wanted).2.cached = none ∧
      match (host.launch store wanted).1 with
      | .ok generator =>
        (host.launch store wanted).2.state.IsTidy (some generator.context.number) ∧
          .started generator.context.number true ∈ (host.launch store wanted).2.state.uses
      | .error _ => (host.launch store wanted).2.state.IsTidy none := by
  obtain ⟨builtin, _, state, cached, attempts, events⟩ := host
  obtain ⟨rfl, huses, -⟩ := h
  cases hcached
  simp only [Host.launch, record, Launcher.traced]
  rcases launcher.create store wanted state.state with ⟨error | context, inner⟩
  · exact ⟨rfl, rfl, huses.setState inner⟩
  · have hcreated := huses.created inner
    simp only [Host.start, record, release, Traced.noting]
    rcases launcher.start context inner with ⟨error | ⟨⟩, inner⟩
    · exact ⟨rfl, rfl, (hcreated.used inner rfl (by simp)).released _⟩
    · exact ⟨rfl, rfl, hcreated.used inner rfl (by simp), by simp⟩

/-- A generator that is handed out is cached if it is isolated. -/
theorem IsTidy.obtain (h : host.IsTidy launcher) (store : FileStore) (resolution : Resolution) :
    (host.obtain store resolution).2.IsTidy launcher ∧
      ∀ generator, (host.obtain store resolution).1 = .isolated generator →
        (host.obtain store resolution).2.cached = some generator := by
  unfold Host.obtain
  split
  · next generator _ hcached => exact ⟨h, by rintro _ ⟨⟩; exact hcached⟩
  · exact ⟨h, by simp⟩
  · next wanted hcached =>
    have hlaunch := h.launch hcached store wanted
    split
    · exact ⟨h, by simp⟩
    · split
      · next generator after hresult =>
        rw [hresult] at hlaunch
        obtain ⟨hlauncher, -, huses, hstarted⟩ := hlaunch
        exact ⟨⟨hlauncher, huses, by rintro _ ⟨⟩; exact hstarted⟩, by rintro _ ⟨⟩; rfl⟩
      · next reason after hresult =>
        rw [hresult] at hlaunch
        obtain ⟨hlauncher, hnone, huses⟩ := hlaunch
        dsimp only at hnone
        refine ⟨⟨hlauncher, ?_, ?_⟩, by simp⟩
        · simpa [record, hnone] using huses
        · simp [record, hnone]

theorem IsTidy.run (h : host.IsTidy launcher) {handle : Handle (Numbered κ)}
    (hhandle : ∀ generator, handle = .isolated generator → host.cached = some generator)
    (request : Request) : (host.run handle request).2.IsTidy launcher := by
  cases handle with
  | builtin => exact ⟨h.launcher_eq, h.uses, h.started⟩
  | isolated generator =>
    obtain ⟨builtin, _, state, cached, attempts, events⟩ := host
    obtain ⟨rfl, huses, hstarted⟩ := h
    cases hhandle generator rfl
    refine ⟨rfl, huses.used _ rfl (by simp), fun other hother => ?_⟩
    exact List.mem_append_left _ (hstarted other hother)

end Host

/-! ### Workspaces -/

namespace Workspace

variable {w : Workspace (Numbered κ) (Traced σ)} {launcher : Launcher κ σ}

theorem isTidy_produce (h : w.host.IsTidy launcher) (file : FeatureFile)
    (settings : GenerationSettings) (request : Request) (resolution : Resolution) :
    (w.produce file settings request resolution).2.host.IsTidy launcher := by
  obtain ⟨hobtained, hhandle⟩ := h.obtain w.store resolution
  have hran : (w.ran request resolution).IsTidy launcher := hobtained.run hhandle request
  rcases w.produce_host_cases file settings request resolution with heq | heq
  · rwa [heq]
  · rw [heq]
    exact hran.discard _

theorem isTidy_generate (h : w.host.IsTidy launcher) (file : FeatureFile)
    (settings : GenerationSettings) : (w.generate file settings).2.host.IsTidy launcher := by
  have hnoting (events : List Event) :
      (w.noting w.resolve.2.resolver events).host.IsTidy launcher :=
    ⟨h.launcher_eq, h.uses, h.started⟩
  rcases w.generate_snd_cases file settings with heq | ⟨events, heq | ⟨request, -, heq⟩⟩
  · rwa [heq]
  · rw [heq]
    exact hnoting events
  · rw [heq]
    exact isTidy_produce (hnoting events) file settings request w.resolve.1

theorem isTidy_perform (h : w.host.IsTidy launcher) (operation : Operation (Numbered κ)) :
    (w.perform operation).host.IsTidy launcher := by
  cases operation with
  | obtain resolution => exact (h.obtain w.store resolution).1
  | generate file settings => exact isTidy_generate h file settings
  | invalidate => exact h.invalidate
  | discard handle => exact h.discard handle
  | dispose => exact h.invalidate
  | replaceFiles store => exact h

theorem isTidy_foldl_perform (h : w.host.IsTidy launcher)
    (operations : List (Operation (Numbered κ))) :
    (operations.foldl perform w).host.IsTidy launcher := by
  induction operations generalizing w with
  | nil => exact h
  | cons operation rest ih => exact ih (isTidy_perform h operation)

theorem isTidy_traced (w : Workspace κ σ) : w.traced.host.IsTidy w.host.launcher where
  launcher_eq := rfl
  uses := Traced.isTidy_empty w.host.state
  started := by simp [Workspace.traced]

/-- **Contexts are neither leaked nor doubled, nor used after their release.** After any operations
on a workspace with a new host, and with any launcher, the contexts that were created and not
released are the cached one, which was started with success; no context is used after its release;
and after the host is given up, every context that was created has been released exactly once. -/
theorem live_iff_cached (w : Workspace κ σ) (operations : List (Operation (Numbered κ))) :
    let host := (operations.foldl perform w.traced).host
    (∀ n, .created n ∈ host.state.uses ∧ .released n ∉ host.state.uses ↔
      ∃ generator, host.cached = some generator ∧ generator.context.number = n) ∧
    (∀ generator, host.cached = some generator →
      .started generator.context.number true ∈ host.state.uses) ∧
    (∀ n, host.state.uses.count (.released n) ≤ 1) ∧
    host.state.uses.Pairwise (fun earlier later => earlier ≠ .released later.number) ∧
    ∀ n, .created n ∈ host.invalidate.state.uses →
      host.invalidate.state.uses.count (.released n) = 1 := by
  intro host
  have htidy : host.IsTidy w.host.launcher := isTidy_foldl_perform (isTidy_traced w) operations
  refine ⟨fun n => ?_, htidy.started, fun n => htidy.uses.count_released_le, htidy.uses.ordered,
    fun n hcreated => ?_⟩
  · have hlive := htidy.uses.live_lt n
    rw [htidy.uses.created_iff, htidy.uses.released_iff n]
    simp only [Option.map_eq_some_iff] at hlive
    constructor
    · rintro ⟨hlt, hnot⟩
      simpa using fun hne => hnot ⟨hlt, hne⟩
    · intro hcached
      refine ⟨hlive hcached, fun ⟨_, hne⟩ => hne ?_⟩
      simpa using hcached
  · have hinvalid := htidy.invalidate
    have hnone : host.invalidate.cached = none := by
      unfold Host.invalidate
      split
      · rfl
      · assumption
    have hlt := hinvalid.uses.created_iff.1 hcreated
    have hreleased : .released n ∈ host.invalidate.state.uses :=
      (hinvalid.uses.released_iff n).2 ⟨hlt, by simp [hnone]⟩
    exact Nat.le_antisymm hinvalid.uses.count_released_le (List.count_pos_iff.2 hreleased)

end Workspace

end FeatureFixtures
