import FeatureFixtures.Proofs.Generation
import FeatureFixtures.Proofs.Lookup
/-!
# Generating for one feature file after another

A run does one job after the other, each at its own time, and tells for each job what came of it and
which generator the resolver answered with. Whatever the jobs ask for, a run keeps the project, and
of the files everything but the generated files of its own jobs.
-/

namespace FeatureFixtures

/-- A generation for a feature file. -/
structure Job where
  file : FeatureFile
  settings : GenerationSettings
  /-- When it takes place. -/
  now : Nat

/-- What came of a job. -/
structure Answer where
  job : Job
  /-- What the resolver answered before the job. -/
  resolution : Resolution
  result : Except (Option Text) Report

/-- The report, unless there was a crash. -/
def Answer.report? (answer : Answer) : Option Report :=
  answer.result.toOption

namespace Workspace

variable {κ σ : Type} {w after : Workspace κ σ} {targets : List Location}

/-- The workspace at a time. -/
def asOf (w : Workspace κ σ) (now : Nat) : Workspace κ σ :=
  { w with store := { w.store with now } }

/-- What comes of a job, and the workspace after it. -/
def answer (w : Workspace κ σ) (job : Job) : Answer × Workspace κ σ :=
  let w := w.asOf job.now
  let (result, after) := w.generate job.file job.settings
  ({ job, resolution := w.resolve.1, result }, after)

/-- What comes of jobs that are done one after the other, and the workspace after them. -/
def run (w : Workspace κ σ) : List Job → List Answer × Workspace κ σ
  | [] => ([], w)
  | job :: rest =>
    let (answer, after) := w.answer job
    let (answers, last) := after.run rest
    (answer :: answers, last)

/-- A workspace with the standard resolver, checker and headers. -/
structure IsStandard (w : Workspace κ σ) : Prop where
  resolver : w.resolver = .standard
  header : w.header = .standard
  checker : w.checker = .standard .standard

/-- A later state of a workspace, in which the files at some locations may have changed. -/
structure Continues (targets : List Location) (w after : Workspace κ σ) : Prop where
  project : after.project = w.project
  hash : after.hash = w.hash
  standard : w.IsStandard → after.IsStandard
  store : FileStore.Keeps targets w.store after.store

theorem Continues.trans {others : List Location} {last : Workspace κ σ}
    (h : Continues targets w after) (hlast : Continues others after last) :
    Continues (targets ++ others) w last where
  project := hlast.project.trans h.project
  hash := hlast.hash.trans h.hash
  standard := fun hw => hlast.standard (h.standard hw)
  store := h.store.trans hlast.store

theorem Continues.locationOfFeature_eq (h : Continues targets w after) :
    after.locationOfFeature = w.locationOfFeature := by
  funext file
  unfold locationOfFeature
  rw [h.project, h.store.locationOf_eq]

theorem Continues.locationOfGenerated_eq (h : Continues targets w after) :
    after.locationOfGenerated = w.locationOfGenerated := by
  funext file
  unfold locationOfGenerated generatedPath
  rw [h.project, h.store.locationOf_eq]

/-! ### Steps -/

theorem continues_asOf (w : Workspace κ σ) (now : Nat) : Continues [] w (w.asOf now) where
  project := rfl
  hash := rfl
  standard := fun h => ⟨h.resolver, h.header, h.checker⟩
  store := FileStore.keeps_now w.store now

theorem IsStandard.resolve (h : w.IsStandard) : w.resolve.2.resolver = .standard := by
  unfold Workspace.resolve
  rw [h.resolver, Resolver.resolve_standard]

theorem continues_generate (w : Workspace κ σ) (file : FeatureFile)
    (settings : GenerationSettings) :
    Continues [w.locationOfGenerated file] w (w.generate file settings).2 := by
  obtain ⟨resolver, host, store, heq, hresolver, hkeeps⟩ := w.generate_snd file settings
  rw [heq]
  refine ⟨rfl, rfl, fun h => ⟨?_, h.header, h.checker⟩, hkeeps⟩
  rcases hresolver with hsame | hnext
  · exact hsame.trans h.resolver
  · exact hnext.trans h.resolve

theorem continues_answer (w : Workspace κ σ) (job : Job) :
    Continues [w.locationOfGenerated job.file] w (w.answer job).2 := by
  have htime := continues_asOf w job.now
  have hgenerate := continues_generate (w.asOf job.now) job.file job.settings
  rw [htime.locationOfGenerated_eq] at hgenerate
  exact htime.trans hgenerate

/-! ### Runs -/

theorem run_cons (w : Workspace κ σ) (job : Job) (rest : List Job) :
    w.run (job :: rest) =
      ((w.answer job).1 :: ((w.answer job).2.run rest).1, ((w.answer job).2.run rest).2) := rfl

theorem map_job_run (w : Workspace κ σ) (jobs : List Job) :
    (w.run jobs).1.map Answer.job = jobs := by
  induction jobs generalizing w with
  | nil => rfl
  | cons job rest ih =>
    rw [run_cons, List.map_cons, ih]
    rfl

/-- A run changes the generated files of its jobs at most. -/
theorem continues_run (w : Workspace κ σ) (jobs : List Job) :
    Continues (jobs.map fun job => w.locationOfGenerated job.file) w (w.run jobs).2 := by
  induction jobs generalizing w with
  | nil => exact ⟨rfl, rfl, id, FileStore.Keeps.refl [] w.store⟩
  | cons job rest ih =>
    have hfirst := continues_answer w job
    have hrest := ih (w.answer job).2
    rw [hfirst.locationOfGenerated_eq] at hrest
    exact hfirst.trans hrest

end Workspace

end FeatureFixtures
