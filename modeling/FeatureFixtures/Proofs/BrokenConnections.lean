import FeatureFixtures.Proofs.Lending
/-!
# What a broken connection costs

A generation runs one generator at most. If that one is isolated and its connection breaks, it is
released and no longer cached, and the next request for another version launches a new one. Nothing
else takes a generator out of the cache: no other error and no crash, no judgement of the check, and
no file that cannot be read or written.
-/

namespace FeatureFixtures

variable {κ σ : Type}

theorem Traced.IsTidy.count_released_eq_one {traced : Traced σ} {live : Option Nat} {n : Nat}
    (h : traced.IsTidy live) (hmem : .released n ∈ traced.uses) :
    traced.uses.count (.released n) = 1 :=
  Nat.le_antisymm h.count_released_le (List.count_pos_iff.2 hmem)

namespace Host

variable {host after : Host (Numbered κ) (Traced σ)} {launcher : Launcher κ σ}
  {generator : Isolated (Numbered κ)}

theorem IsTidy.not_released (h : host.IsTidy launcher) (hcached : host.cached = some generator) :
    .released generator.context.number ∉ host.state.uses := by
  intro hmem
  apply ((h.uses.released_iff _).1 hmem).2
  rw [hcached]
  rfl

theorem IsTidy.released_invalidate (h : host.IsTidy launcher)
    (hcached : host.cached = some generator) :
    .released generator.context.number ∈ host.invalidate.state.uses := by
  unfold Host.invalidate
  simp only [hcached, release, record, h.launcher_eq, Launcher.traced, Traced.noting,
    List.mem_append, List.mem_singleton, or_true]

/-- A context that is launched is none that was used before. -/
theorem IsTidy.fresh (h : host.IsTidy launcher) {store : FileStore} {wanted : Installation}
    (hends : host.LaunchEnds store wanted (.isolated generator) after) :
    ∀ use ∈ host.state.uses, use.number ≠ generator.context.number := by
  have hnumber : generator.context.number = host.state.count := by
    cases hends with
    | started hcreate hstart =>
      rw [h.launcher_eq] at hcreate
      simp only [Launcher.traced] at hcreate
      split at hcreate
      · cases hcreate
        rfl
      · cases hcreate
  intro use huse
  rw [hnumber]
  exact Nat.ne_of_lt (h.uses.number_lt use huse)

end Host

namespace Workspace

/-- A generation runs a generator, with an outcome. -/
def Runs (w : Workspace κ σ) (file : FeatureFile) (settings : GenerationSettings)
    (handle : Handle κ) (outcome : Outcome Text) : Prop :=
  ∃ request, w.request file = .ok request ∧
    (settings.checkUpToDate = true →
      (w.isUpToDate file settings.method (w.expected file request w.resolve.1)).1 = .ok false) ∧
    (w.host.obtain w.store w.resolve.1).1 = handle ∧ w.outcome request w.resolve.1 = outcome

variable {w : Workspace κ σ} {file : FeatureFile} {settings : GenerationSettings}
  {request : Request} {resolution : Resolution} {handle : Handle κ} {generator : Isolated κ}
  {outcome : Outcome Text}

/-! ### One run of a generator -/

theorem produce_cached_of_breaks (hbreaks : BreaksConnection (w.outcome request resolution)) :
    (w.produce file settings request resolution).2.host.cached = none := by
  rw [produce_host_of_breaks hbreaks]
  have hcached := (w.ran_cached request resolution).trans (w.host.obtain_cached w.store resolution)
  cases hhandle : (w.host.obtain w.store resolution).1 with
  | builtin =>
    rw [hhandle] at hcached
    exact hcached
  | isolated generator =>
    rw [hhandle] at hcached
    rw [Host.discard_of_cached hcached, Host.invalidate_cached]

theorem produce_cached_of_holds (hholds : ¬ BreaksConnection (w.outcome request resolution)) :
    (w.produce file settings request resolution).2.host.cached =
      (w.host.obtain w.store resolution).2.cached := by
  rw [produce_host_of_holds hholds, ran_cached]

/-! ### Generations -/

/-- A generation that runs no generator changes nothing but the resolver and the events. -/
theorem runs_or_noting (w : Workspace κ σ) (file : FeatureFile) (settings : GenerationSettings) :
    (∃ handle outcome, w.Runs file settings handle outcome) ∨
      ∃ resolver events, (w.generate file settings).2 = w.noting resolver events := by
  unfold Runs
  simp only [isUpToDate_fst]
  cases hrequest : w.request file with
  | error fault =>
    rw [generate_of_fault hrequest]
    exact .inr ⟨w.resolver, w.host.events, rfl⟩
  | ok request =>
    obtain ⟨events, heq⟩ := generate_of_request hrequest settings
    rw [heq]
    cases hcheck : settings.checkUpToDate with
    | false => exact .inl ⟨_, _, request, rfl, nofun, rfl, rfl⟩
    | true =>
      rcases hjudge : w.judge file settings.method (w.expected file request w.resolve.1) with
        message | _ | _
      · exact .inr ⟨_, events, rfl⟩
      · exact .inl ⟨_, _, request, rfl, fun _ => hjudge, rfl, rfl⟩
      · exact .inr ⟨_, events, rfl⟩

/-- A generation that runs a generator ends as the production does. -/
theorem produce_of_runs (h : w.Runs file settings handle outcome) :
    ∃ events request,
      let noted := w.noting w.resolve.2.resolver events
      (noted.host.obtain noted.store w.resolve.1).1 = handle ∧
      noted.outcome request w.resolve.1 = outcome ∧
      (w.generate file settings).2 = (noted.produce file settings request w.resolve.1).2 := by
  obtain ⟨request, hrequest, hreached, hhandle, houtcome⟩ := h
  simp only [isUpToDate_fst] at hreached
  obtain ⟨events, heq⟩ := generate_of_reached hrequest hreached
  refine ⟨events, request, ?_, (w.outcome_of_noting _ events request _).trans houtcome, ?_⟩
  · rw [Host.obtain_fst] at hhandle ⊢
    exact hhandle
  · rw [heq]
    rfl

/-- What is cached after a generation that ran a generator. -/
theorem cached_of_runs (h : w.Runs file settings handle outcome) :
    (BreaksConnection outcome → (w.generate file settings).2.host.cached = none) ∧
      ∀ generator, ¬ BreaksConnection outcome →
        ((w.generate file settings).2.host.cached = some generator ↔
          handle = .isolated generator) := by
  obtain ⟨events, request, hhandle, houtcome, heq⟩ := produce_of_runs h
  subst houtcome hhandle
  rw [heq]
  refine ⟨produce_cached_of_breaks, fun generator hholds => ?_⟩
  rw [produce_cached_of_holds hholds]
  exact Host.obtain_eq_isolated_iff.symm

/-- The cached generator is the one that runs. -/
theorem handle_of_runs (h : w.Runs file settings handle outcome)
    (hcached : w.host.cached = some generator) : handle = .isolated generator := by
  obtain ⟨request, -, -, hhandle, -⟩ := h
  rw [Host.obtain_of_cached hcached] at hhandle
  exact hhandle.symm

theorem cached_of_runs_builtin (h : w.Runs file settings .builtin outcome) :
    w.host.cached = none := by
  cases hcached : w.host.cached with
  | none => rfl
  | some generator => cases handle_of_runs h hcached

theorem cached_generate_of_runs_builtin (h : w.Runs file settings .builtin outcome) :
    (w.generate file settings).2.host.cached = none := by
  obtain ⟨hnone, hsome⟩ := cached_of_runs h
  by_cases hbreaks : BreaksConnection outcome
  · exact hnone hbreaks
  · cases hcached : (w.generate file settings).2.host.cached with
    | none => rfl
    | some generator => cases (hsome generator hbreaks).1 hcached

/-- The cached generator stays unless it runs and loses its connection. -/
theorem cached_of_holds (hcached : w.host.cached = some generator)
    (hholds : ∀ outcome, w.Runs file settings (.isolated generator) outcome →
      ¬ BreaksConnection outcome) :
    (w.generate file settings).2.host.cached = some generator := by
  rcases w.runs_or_noting file settings with ⟨handle, outcome, hruns⟩ | ⟨_, _, heq⟩
  · obtain rfl := handle_of_runs hruns hcached
    exact ((cached_of_runs hruns).2 generator (hholds outcome hruns)).2 rfl
  · exact (congrArg (·.host.cached) heq).trans hcached

theorem version_foldl_perform (w : Workspace κ σ) (operations : List (Operation κ)) :
    (operations.foldl perform w).host.version = w.host.version := by
  induction operations generalizing w with
  | nil => rfl
  | cons operation rest ih => rw [List.foldl_cons, ih, version_perform]

end Workspace

/-! ### Contexts -/

namespace Workspace

variable {w : Workspace (Numbered κ) (Traced σ)} {launcher : Launcher κ σ} {file : FeatureFile}
  {settings : GenerationSettings} {generator : Isolated (Numbered κ)} {outcome : Outcome Text}

theorem released_of_runs (h : w.host.IsTidy launcher)
    (hruns : w.Runs file settings (.isolated generator) outcome)
    (hbreaks : BreaksConnection outcome) :
    .released generator.context.number ∈ (w.generate file settings).2.host.state.uses := by
  obtain ⟨events, request, hhandle, rfl, heq⟩ := produce_of_runs hruns
  have hnoted : (w.noting w.resolve.2.resolver events).host.IsTidy launcher :=
    ⟨h.launcher_eq, h.uses, h.started⟩
  obtain ⟨hobtained, hcached⟩ := hnoted.obtain w.store w.resolve.1
  have hran := hobtained.run hcached request
  have hkept := ((w.noting w.resolve.2.resolver events).ran_cached request w.resolve.1).trans
    (hcached generator hhandle)
  rw [heq, produce_host_of_breaks hbreaks, hhandle, Host.discard_of_cached hkept]
  exact hran.released_invalidate hkept

/-- An isolated generator that ran is forgotten and released exactly if its connection broke, and is
cached and not released exactly if it did not. -/
theorem runs_isolated_iff (h : w.host.IsTidy launcher)
    (hruns : w.Runs file settings (.isolated generator) outcome) :
    (BreaksConnection outcome ↔ (w.generate file settings).2.host.cached = none ∧
      (w.generate file settings).2.host.state.uses.count (.released generator.context.number) = 1) ∧
    (¬ BreaksConnection outcome ↔ (w.generate file settings).2.host.cached = some generator ∧
      .released generator.context.number ∉ (w.generate file settings).2.host.state.uses) := by
  have hafter := isTidy_generate h file settings
  obtain ⟨hnone, hsome⟩ := cached_of_runs hruns
  by_cases hbreaks : BreaksConnection outcome
  · have hcached := hnone hbreaks
    have honce := hafter.uses.count_released_eq_one (released_of_runs h hruns hbreaks)
    simp [hbreaks, hcached, honce]
  · have hcached := (hsome generator hbreaks).2 rfl
    have hkept := hafter.not_released hcached
    simp [hbreaks, hcached, hkept]

/-- **Only a broken connection costs the cached generator.** After any operations on a workspace
with a new host, and with any launcher, resolver, checker and files: if a generation runs an
isolated generator whose connection breaks, its context is released, once, and none is cached any
more, and the next request for a version that is not built in launches a context that was never used
before. After every other outcome the generator that ran is cached and not released. If the built-in
one runs, none was cached and none is. A cached generator stays as it is unless it runs and its
connection breaks. -/
theorem discarded_iff_breaks (w : Workspace κ σ) (operations : List (Operation (Numbered κ)))
    (file : FeatureFile) (settings : GenerationSettings) :
    let before := operations.foldl perform w.traced
    let after := (before.generate file settings).2
    (∀ generator outcome, before.Runs file settings (.isolated generator) outcome →
      (BreaksConnection outcome ↔ after.host.cached = none ∧
        after.host.state.uses.count (.released generator.context.number) = 1) ∧
      (¬ BreaksConnection outcome ↔ after.host.cached = some generator ∧
        .released generator.context.number ∉ after.host.state.uses)) ∧
    (∀ outcome, before.Runs file settings .builtin outcome →
      before.host.cached = none ∧ after.host.cached = none) ∧
    (∀ generator, before.host.cached = some generator →
      (∀ outcome, before.Runs file settings (.isolated generator) outcome →
        ¬ BreaksConnection outcome) →
      after.host.cached = some generator ∧
        .released generator.context.number ∉ after.host.state.uses) ∧
    (∀ generator outcome, before.Runs file settings (.isolated generator) outcome →
      BreaksConnection outcome → ∀ store wanted, wanted.version ≠ w.host.builtin.version →
      let next := after.host.obtain store (.resolved wanted)
      after.host.LaunchEnds store wanted next.1 next.2 ∧
        ∀ fresh, next.1 = .isolated fresh →
          ∀ use ∈ after.host.state.uses, use.number ≠ fresh.context.number) := by
  intro before after
  have htidy : before.host.IsTidy w.host.launcher :=
    isTidy_foldl_perform (isTidy_traced w) operations
  have hafter : after.host.IsTidy w.host.launcher := isTidy_generate htidy file settings
  have hbuiltin : after.host.builtin.version = w.host.builtin.version :=
    congrFun ((before.version_generate file settings).trans
      (w.traced.version_foldl_perform operations)) .builtin
  refine ⟨?_, ?_, ?_, ?_⟩
  · exact fun generator outcome => runs_isolated_iff htidy
  · exact fun outcome hruns => ⟨cached_of_runs_builtin hruns, cached_generate_of_runs_builtin hruns⟩
  · intro generator hcached hholds
    have hkept := cached_of_holds hcached hholds
    exact ⟨hkept, hafter.not_released hkept⟩
  · intro generator outcome hruns hbreaks store wanted hversion next
    have hends : after.host.LaunchEnds store wanted next.1 next.2 :=
      Host.launchEnds_of_obtain ((cached_of_runs hruns).1 hbreaks) (hbuiltin ▸ hversion) store
    refine ⟨hends, fun fresh hfresh => ?_⟩
    rw [hfresh] at hends
    exact hafter.fresh hends

/-- The connection of the cached generator breaks at its first run, and the next one is another. -/
theorem discarded_iff_breaks_at_once :
    let steady := Launcher.steady ⟨9, 9, 9, [], []⟩ []
    let w : Workspace Unit Unit :=
      { project := {}
        resolver := .standard
        host :=
          { builtin := .builtin
            launcher :=
              { steady with
                invoke := fun _ _ state => (.error (.error (.connection "gone")), state) }
            state := () }
        header := .standard
        checker := .standard .standard
        hash := fun _ => []
        store := {} }
    let wanted : Installation := { version := ⟨9, 9, 9, [], []⟩, location := "/tools" }
    let operations : List (Operation (Numbered Unit)) := [.obtain (.resolved wanted)]
    let generator : Isolated (Numbered Unit) := { serial := 1, context := ⟨0, ()⟩ }
    let before := operations.foldl perform w.traced
    let file : FeatureFile := { path := "buy.feature", feature := some "Feature: Buy\n" }
    let after := (before.generate file {}).2
    before.host.cached = some generator ∧ after.host.cached = none ∧
      after.host.state.uses.count (.released 0) = 1 ∧
      after.host.LaunchEnds {} wanted (after.host.obtain {} (.resolved wanted)).1
        (after.host.obtain {} (.resolved wanted)).2 := by
  intro steady w wanted operations generator before file after
  obtain ⟨hiff, -, -, hnext⟩ := discarded_iff_breaks w operations file {}
  have hcached : before.host.cached = some generator := by rfl
  have hruns : before.Runs file {} (.isolated generator)
      (.error (.error (.connection "gone"))) := by
    refine ⟨_, rfl, ?_, ?_, ?_⟩
    · intro hcheck
      cases hcheck
    · rw [Host.obtain_of_cached hcached]
    · rfl
  have hbreaks : BreaksConnection (.error (.error (.connection "gone"))) := ⟨"gone", rfl⟩
  obtain ⟨hnone, hreleased⟩ := (hiff generator _ hruns).1.1 hbreaks
  have hother : wanted.version ≠ w.host.builtin.version := by decide
  exact ⟨hcached, hnone, hreleased, (hnext generator _ hruns hbreaks {} wanted hother).1⟩

end Workspace

end FeatureFixtures
