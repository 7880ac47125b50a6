import FeatureFixtures.Proofs.Contexts
/-!
# Where the isolated generators come from

A launch ends in one of three ways: with a started generator, with one that could not be started and
was released, or without any. An isolated generator is handed out only if it is cached, and it is
cached only by a launch. So whatever is asked of a workspace, every isolated generator in it was
there from the beginning or was launched at some moment of the run.
-/

namespace FeatureFixtures

variable {κ σ : Type}

namespace Host

variable {host : Host κ σ} {store : FileStore} {wanted : Installation} {resolution : Resolution}
  {generator : Isolated κ}

theorem launch_of_refused {error : Error} {state : σ}
    (hcreate : host.launcher.create store wanted host.state = (.error error, state)) :
    host.launch store wanted =
      (.error error,
        { host with
          state
          attempts := host.attempts + 1
          events := host.events ++ [.create (host.attempts + 1) wanted] }) := by
  unfold launch
  simp only [record, hcreate]

theorem launch_of_started {context : κ} {created started : σ}
    (hcreate : host.launcher.create store wanted host.state = (.ok context, created))
    (hstart : host.launcher.start context created = (.ok (), started)) :
    host.launch store wanted =
      (.ok { serial := host.attempts + 1, context },
        { host with
          state := started
          attempts := host.attempts + 1
          events := host.events ++
            [.create (host.attempts + 1) wanted, .start (host.attempts + 1)] }) := by
  unfold launch start
  simp only [record, hcreate, hstart, List.append_assoc, List.cons_append, List.nil_append]

theorem launch_of_failed {context : κ} {created failed : σ} {error : Error}
    (hcreate : host.launcher.create store wanted host.state = (.ok context, created))
    (hstart : host.launcher.start context created = (.error error, failed)) :
    host.launch store wanted =
      (.error error,
        { host with
          state := host.launcher.release context failed
          attempts := host.attempts + 1
          events := host.events ++
            [.create (host.attempts + 1) wanted, .start (host.attempts + 1),
              .release (host.attempts + 1)] }) := by
  unfold launch start
  simp only [record, release, hcreate, hstart, List.append_assoc, List.cons_append, List.nil_append]

theorem obtain_of_launch_error {after : Host κ σ} {reason : Error} (hcached : host.cached = none)
    (hversion : wanted.version ≠ host.builtin.version)
    (hlaunch : host.launch store wanted = (.error reason, after)) :
    host.obtain store (.resolved wanted) = (.builtin, after.record (.fallBack wanted reason)) := by
  unfold obtain
  simp only [hcached, if_neg hversion, hlaunch]

/-! ### Which generator is cached -/

theorem launch_cached (host : Host κ σ) (store : FileStore) (wanted : Installation) :
    (host.launch store wanted).2.cached = host.cached := by
  rcases hcreate : host.launcher.create store wanted host.state with ⟨error | context, created⟩
  · rw [launch_of_refused hcreate]
  · rcases hstart : host.launcher.start context created with ⟨error | ⟨⟩, started⟩
    · rw [launch_of_failed hcreate hstart]
    · rw [launch_of_started hcreate hstart]

/-- What is cached after a generator was handed out is that generator, if it is isolated. -/
theorem obtain_cached (host : Host κ σ) (store : FileStore) (resolution : Resolution) :
    (host.obtain store resolution).2.cached =
      match (host.obtain store resolution).1 with
      | .isolated generator => some generator
      | .builtin => none := by
  unfold obtain
  split
  · next cached resolution hcached => exact hcached
  · next reason hcached => exact hcached
  · next wanted hcached =>
    have hlaunch := host.launch_cached store wanted
    split
    · exact hcached
    · split
      · rfl
      · next reason after hresult =>
        rw [hresult] at hlaunch
        exact hlaunch.trans hcached

theorem run_cached (host : Host κ σ) (handle : Handle κ) (request : Request) :
    (host.run handle request).2.cached = host.cached := by
  cases handle <;> rfl

theorem invalidate_cached (host : Host κ σ) : host.invalidate.cached = none := by
  unfold invalidate
  split
  · rfl
  · assumption

end Host

/-! ### Workspaces -/

namespace Workspace

variable {w : Workspace κ σ} {generator : Isolated κ}

theorem ran_cached (w : Workspace κ σ) (request : Request) (resolution : Resolution) :
    (w.ran request resolution).cached = (w.host.obtain w.store resolution).2.cached :=
  Host.run_cached _ _ request

end Workspace

end FeatureFixtures
