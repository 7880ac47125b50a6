import FeatureFixtures.Host
import FeatureFixtures.Report
/-!
# Which generator a host hands out

A host without an isolated generator hands one out exactly if the resolution asks for another
version than the built-in one and the launcher creates and starts a context for it. The version
expected of a resolution is then the version of the generator, as long as the context is for the
wanted version; when the launch fails, the built-in generator takes its place and has a version of
its own.
-/

namespace FeatureFixtures

variable {κ σ : Type}

/-- A launcher that refuses to create anything. -/
def Launcher.refusing (error : Error) : Launcher Empty Unit :=
  { create := fun _ _ state => (.error error, state)
    start := fun context => context.elim
    version := fun context => context.elim
    invoke := fun context => context.elim
    release := fun context => context.elim }

/-- A launcher whose contexts are all for one version and make the same code of every request. -/
def Launcher.steady (version : Version) (code : Text) : Launcher Unit Unit :=
  { create := fun _ _ state => (.ok (), state)
    start := fun _ state => (.ok (), state)
    version := fun _ => version
    invoke := fun _ _ state => (.ok code, state)
    release := fun _ state => state }

/-- The context for an installation, if a launcher creates and starts it. -/
def Launcher.started? (launcher : Launcher κ σ) (store : FileStore) (wanted : Installation)
    (state : σ) : Option κ :=
  match launcher.create store wanted state with
  | (.error _, _) => none
  | (.ok context, state) =>
    match launcher.start context state with
    | (.ok (), _) => some context
    | (.error _, _) => none

namespace Host

/-- The generator for a resolution, by the cache, the resolution and what the launcher does. -/
def chosen (host : Host κ σ) (store : FileStore) (resolution : Resolution) : Handle κ :=
  match host.cached, resolution with
  | some generator, _ => .isolated generator
  | none, .unknown _ => .builtin
  | none, .resolved wanted =>
    if wanted.version = host.builtin.version then .builtin
    else match host.launcher.started? store wanted host.state with
    | some context => .isolated { serial := host.attempts + 1, context }
    | none => .builtin

/-- Whether a launch, where one is needed, ends in a context for the wanted version. -/
def Delivers (host : Host κ σ) (store : FileStore) (resolution : Resolution) : Prop :=
  ∀ wanted, resolution = .resolved wanted → wanted.version ≠ host.builtin.version →
    ∃ context, host.launcher.started? store wanted host.state = some context ∧
      host.launcher.version context = wanted.version

theorem launch_fst (host : Host κ σ) (store : FileStore) (wanted : Installation) :
    (host.launch store wanted).1.toOption =
      (host.launcher.started? store wanted host.state).map (Isolated.mk (host.attempts + 1)) := by
  unfold launch Launcher.started?
  simp only [record]
  cases host.launcher.create store wanted host.state with
  | mk created state =>
    cases created with
    | error error => rfl
    | ok context =>
      simp only [start, record]
      cases host.launcher.start context state with
      | mk started state => cases started <;> rfl

theorem obtain_fst (host : Host κ σ) (store : FileStore) (resolution : Resolution) :
    (host.obtain store resolution).1 = host.chosen store resolution := by
  have hlaunch := fun wanted => host.launch_fst store wanted
  unfold obtain chosen
  cases host.cached with
  | some generator => rfl
  | none =>
    cases resolution with
    | unknown reason => rfl
    | resolved wanted =>
      dsimp only
      split
      · rfl
      · rcases hresult : host.launch store wanted with ⟨launched, after⟩
        have hcontext := hlaunch wanted
        rw [hresult] at hcontext
        cases hstarted : host.launcher.started? store wanted host.state with
        | none => cases launched <;> simp_all [Except.toOption]
        | some context => cases launched <;> simp_all [Except.toOption]

/-! ### What stays the same -/

theorem launch_builtin (host : Host κ σ) (store : FileStore) (wanted : Installation) :
    (host.launch store wanted).2.builtin = host.builtin ∧
      (host.launch store wanted).2.launcher = host.launcher := by
  unfold launch start
  simp only [record, release]
  split
  · split <;> exact ⟨rfl, rfl⟩
  · exact ⟨rfl, rfl⟩

theorem obtain_builtin (host : Host κ σ) (store : FileStore) (resolution : Resolution) :
    (host.obtain store resolution).2.builtin = host.builtin ∧
      (host.obtain store resolution).2.launcher = host.launcher := by
  have hlaunch := fun wanted => host.launch_builtin store wanted
  unfold obtain
  split
  · exact ⟨rfl, rfl⟩
  · exact ⟨rfl, rfl⟩
  · next wanted hcached =>
    split
    · exact ⟨rfl, rfl⟩
    · have hafter := hlaunch wanted
      split <;> simp_all [record]

theorem version_obtain (host : Host κ σ) (store : FileStore) (resolution : Resolution) :
    (host.obtain store resolution).2.version = host.version := by
  obtain ⟨hbuiltin, hlauncher⟩ := host.obtain_builtin store resolution
  funext handle
  cases handle <;> simp [version, hbuiltin, hlauncher]

theorem version_run (host : Host κ σ) (handle : Handle κ) (request : Request) :
    (host.run handle request).2.version = host.version := by
  funext other
  cases handle <;> cases other <;> rfl

/-- A generator that is given back is forgotten, or nothing happens. -/
theorem discard_cases (host : Host κ σ) (handle : Handle κ) :
    host.discard handle = host.invalidate ∨ host.discard handle = host := by
  unfold discard
  split
  · split
    · exact .inl rfl
    · exact .inr rfl
  · exact .inr rfl

/-- The version that is expected is the version of the generator handed out exactly if the launcher
delivers. -/
theorem version_chosen_iff {host : Host κ σ} (hcached : host.cached = none) (store : FileStore)
    (resolution : Resolution) :
    host.version (host.chosen store resolution) =
      resolution.effectiveVersion host.builtin.version ↔ host.Delivers store resolution := by
  unfold chosen Delivers
  rw [hcached]
  cases resolution with
  | unknown reason => simp [version, Resolution.effectiveVersion]
  | resolved wanted =>
    by_cases hbuiltin : wanted.version = host.builtin.version
    · simp [hbuiltin, version, Resolution.effectiveVersion]
    · cases hstarted : host.launcher.started? store wanted host.state with
      | none =>
        simpa [hbuiltin, hstarted, version, Resolution.effectiveVersion] using Ne.symm hbuiltin
      | some context => simp [hbuiltin, hstarted, version, Resolution.effectiveVersion]

end Host

end FeatureFixtures
