import FeatureFixtures.Proofs.RecordedVersions
/-!
# Generators on loan

Whoever was handed a generator may run it and give it back at any later time, also when the host has
long forgotten it. A host never gives two generators the same serial number, so giving one back has
an effect only if it is the cached one. Until that one is forgotten it is handed out for every
resolution. All else that a host does follows from its launches: it makes one where nothing is
cached and the resolution asks for a version other than the built-in one, and notes a fallback where
the launch fails.
-/

namespace FeatureFixtures

variable {κ σ : Type}

/-- The error of a launch, if it fails. -/
def Launcher.failure? (launcher : Launcher κ σ) (store : FileStore) (wanted : Installation)
    (state : σ) : Option Error :=
  match launcher.create store wanted state with
  | (.error error, _) => some error
  | (.ok context, state) =>
    match launcher.start context state with
    | (.error error, _) => some error
    | (.ok (), _) => none

/-- A launcher that refuses as often as its state says, and then launches all that is wanted. -/
def Launcher.reluctant (error : Error) : Launcher Version Nat :=
  { create := fun _ wanted left =>
      match left with
      | 0 => (.ok wanted.version, 0)
      | left + 1 => (.error error, left)
    start := fun _ left => (.ok (), left)
    version := fun version => version
    invoke := fun _ _ left => (.ok [], left)
    release := fun _ left => left }

namespace Launcher

variable {launcher : Launcher κ σ} {store : FileStore} {wanted : Installation}
  {state created after : σ} {context : κ} {error : Error}

theorem failure?_of_refused (hcreate : launcher.create store wanted state = (.error error, after)) :
    launcher.failure? store wanted state = some error := by
  unfold failure?
  rw [hcreate]

theorem failure?_of_failed (hcreate : launcher.create store wanted state = (.ok context, created))
    (hstart : launcher.start context created = (.error error, after)) :
    launcher.failure? store wanted state = some error := by
  unfold failure?
  simp only [hcreate, hstart]

theorem failure?_of_started (hcreate : launcher.create store wanted state = (.ok context, created))
    (hstart : launcher.start context created = (.ok (), after)) :
    launcher.failure? store wanted state = none := by
  unfold failure?
  simp only [hcreate, hstart]

end Launcher

/-- An attempt to launch a generator, and the error if it failed. -/
structure Attempt where
  wanted : Installation
  failure : Option Error
deriving DecidableEq, Repr, Inhabited

/-- What is noted of an attempt that failed. -/
def Attempt.fallBack? (attempt : Attempt) : Option (Installation × Error) :=
  attempt.failure.map (attempt.wanted, ·)

/-- The installation that a context is created for. -/
def Event.creation? : Event → Option Installation
  | .create _ wanted => some wanted
  | _ => none

/-- The installation that the built-in generator takes the place of, and the reason. -/
def Event.fallBack? : Event → Option (Installation × Error)
  | .fallBack wanted reason => some (wanted, reason)
  | _ => none

/-- What can be asked of a host, and of the generators that it handed out. -/
inductive HostOperation (κ : Type) where
  | obtain (store : FileStore) (resolution : Resolution)
  | run (handle : Handle κ) (request : Request)
  | invalidate
  | discard (handle : Handle κ)
  | dispose

/-- An operation that makes a host forget a generator, if it is the cached one. -/
def HostOperation.Forgets (generator : Isolated κ) : HostOperation κ → Prop
  | .invalidate | .dispose => True
  | .discard handle => handle = .isolated generator
  | .obtain _ _ | .run _ _ => False

/-! ### Hosts -/

namespace Host

variable {host : Host κ σ} {store : FileStore} {wanted : Installation} {resolution : Resolution}
  {generator : Isolated κ} {handle : Handle κ} {after : Host κ σ} {attempts : List Attempt}

/-- How a host hands out a generator where that takes a launch: what it hands out, and the host
after it. -/
inductive LaunchEnds (host : Host κ σ) (store : FileStore) (wanted : Installation) :
    Handle κ → Host κ σ → Prop
  | started {context : κ} {created started : σ}
      (hcreate : host.launcher.create store wanted host.state = (.ok context, created))
      (hstart : host.launcher.start context created = (.ok (), started)) :
      LaunchEnds host store wanted (.isolated { serial := host.attempts + 1, context })
        { host with
          state := started
          cached := some { serial := host.attempts + 1, context }
          attempts := host.attempts + 1
          events := host.events ++
            [.create (host.attempts + 1) wanted, .start (host.attempts + 1)] }
  | failed {context : κ} {created failed : σ} {error : Error}
      (hcreate : host.launcher.create store wanted host.state = (.ok context, created))
      (hstart : host.launcher.start context created = (.error error, failed)) :
      LaunchEnds host store wanted .builtin
        { host with
          state := host.launcher.release context failed
          cached := none
          attempts := host.attempts + 1
          events := host.events ++
            [.create (host.attempts + 1) wanted, .start (host.attempts + 1),
              .release (host.attempts + 1), .fallBack wanted error] }
  | refused {refused : σ} {error : Error}
      (hcreate : host.launcher.create store wanted host.state = (.error error, refused)) :
      LaunchEnds host store wanted .builtin
        { host with
          state := refused
          cached := none
          attempts := host.attempts + 1
          events := host.events ++
            [.create (host.attempts + 1) wanted, .fallBack wanted error] }

/-- The attempt that a host makes for a resolution. -/
def attemptFor? (host : Host κ σ) (store : FileStore) : Resolution → Option Attempt
  | .unknown _ => none
  | .resolved wanted =>
    if host.cached.isSome ∨ wanted.version = host.builtin.version then none
    else some { wanted, failure := host.launcher.failure? store wanted host.state }

theorem obtain_of_cached (hcached : host.cached = some generator) (store : FileStore)
    (resolution : Resolution) : host.obtain store resolution = (.isolated generator, host) := by
  unfold obtain
  rw [hcached]

theorem obtain_of_unknown (hcached : host.cached = none) (store : FileStore)
    (reason : UnknownReason) : host.obtain store (.unknown reason) = (.builtin, host) := by
  unfold obtain
  rw [hcached]

theorem obtain_of_builtin (hcached : host.cached = none) (store : FileStore)
    (hversion : wanted.version = host.builtin.version) :
    host.obtain store (.resolved wanted) = (.builtin, host) := by
  unfold obtain
  simp only [hcached, if_pos hversion]

theorem launchEnds_of_obtain (hcached : host.cached = none)
    (hversion : wanted.version ≠ host.builtin.version) (store : FileStore) :
    host.LaunchEnds store wanted (host.obtain store (.resolved wanted)).1
      (host.obtain store (.resolved wanted)).2 := by
  rcases hcreate : host.launcher.create store wanted host.state with ⟨error | context, created⟩
  · rw [obtain_of_launch_error hcached hversion (launch_of_refused hcreate)]
    simpa [record, hcached] using LaunchEnds.refused hcreate
  · rcases hstart : host.launcher.start context created with ⟨error | ⟨⟩, started⟩
    · rw [obtain_of_launch_error hcached hversion (launch_of_failed hcreate hstart)]
      simpa [record, hcached] using LaunchEnds.failed hcreate hstart
    · unfold obtain
      simp only [hcached, if_neg hversion, launch_of_started hcreate hstart]
      exact .started hcreate hstart

/-- The three ways to hand out a generator: the cached one, the built-in one, and with a launch. -/
theorem obtain_cases (host : Host κ σ) (store : FileStore) (resolution : Resolution) :
    (∃ generator, host.cached = some generator ∧
      host.obtain store resolution = (.isolated generator, host)) ∨
    (host.attemptFor? store resolution = none ∧
      host.obtain store resolution = (.builtin, host)) ∨
    ∃ wanted,
      host.attemptFor? store resolution =
        some { wanted, failure := host.launcher.failure? store wanted host.state } ∧
      host.LaunchEnds store wanted (host.obtain store resolution).1
        (host.obtain store resolution).2 := by
  cases hcached : host.cached with
  | some generator => exact .inl ⟨generator, rfl, obtain_of_cached hcached store resolution⟩
  | none =>
    cases resolution with
    | unknown reason => exact .inr (.inl ⟨rfl, obtain_of_unknown hcached store reason⟩)
    | resolved wanted =>
      by_cases hversion : wanted.version = host.builtin.version
      · refine .inr (.inl ⟨?_, obtain_of_builtin hcached store hversion⟩)
        simp [attemptFor?, hversion]
      · refine .inr (.inr ⟨wanted, ?_, launchEnds_of_obtain hcached hversion store⟩)
        simp [attemptFor?, hcached, hversion]

theorem attemptFor?_of_cached (hcached : host.cached = some generator) (store : FileStore)
    (resolution : Resolution) : host.attemptFor? store resolution = none := by
  cases resolution <;> simp [attemptFor?, hcached]

/-- What is handed out is isolated exactly if it is cached from then on. -/
theorem obtain_eq_isolated_iff :
    (host.obtain store resolution).1 = .isolated generator ↔
      (host.obtain store resolution).2.cached = some generator := by
  rw [obtain_cached]
  cases (host.obtain store resolution).1 with
  | builtin => simp
  | isolated other => simp

theorem LaunchEnds.attempts_eq (h : host.LaunchEnds store wanted handle after) :
    after.attempts = host.attempts + 1 := by
  cases h <;> rfl

theorem LaunchEnds.serial_eq (h : host.LaunchEnds store wanted (.isolated generator) after) :
    generator.serial = host.attempts + 1 := by
  cases h
  rfl

theorem LaunchEnds.eq_of_cached (h : host.LaunchEnds store wanted handle after)
    (hcached : after.cached = some generator) : handle = .isolated generator := by
  cases h with
  | started hcreate hstart => exact congrArg Handle.isolated (Option.some.inj hcached)
  | failed hcreate hstart => cases hcached
  | refused hcreate => cases hcached

/-! ### What a host notes -/

/-- A host notes the creation of a context for every attempt, a fallback for those that failed, and
no others. -/
structure Accounts (host : Host κ σ) (attempts : List Attempt) : Prop where
  attempts_eq : host.attempts = attempts.length
  creations : host.events.filterMap Event.creation? = attempts.map (·.wanted)
  fallBacks : host.events.filterMap Event.fallBack? = attempts.filterMap Attempt.fallBack?

/-- A launch notes the creation of one context, and a fallback exactly if it fails. -/
theorem LaunchEnds.notes (h : host.LaunchEnds store wanted handle after) :
    ∃ noted, after.events = host.events ++ noted ∧
      noted.filterMap Event.creation? = [wanted] ∧
      noted.filterMap Event.fallBack? =
        [{ wanted, failure := host.launcher.failure? store wanted host.state }].filterMap
          Attempt.fallBack? := by
  cases h with
  | started hcreate hstart =>
    refine ⟨_, rfl, rfl, ?_⟩
    rw [Launcher.failure?_of_started hcreate hstart]
    rfl
  | failed hcreate hstart =>
    refine ⟨_, rfl, rfl, ?_⟩
    rw [Launcher.failure?_of_failed hcreate hstart]
    rfl
  | refused hcreate =>
    refine ⟨_, rfl, rfl, ?_⟩
    rw [Launcher.failure?_of_refused hcreate]
    rfl

theorem Accounts.launchEnds (h : host.Accounts attempts)
    (hends : host.LaunchEnds store wanted handle after) :
    after.Accounts (attempts ++
      [{ wanted, failure := host.launcher.failure? store wanted host.state }]) := by
  obtain ⟨noted, hevents, hcreations, hfallBacks⟩ := hends.notes
  refine ⟨?_, ?_, ?_⟩
  · rw [hends.attempts_eq, h.attempts_eq, List.length_append, List.length_singleton]
  · rw [hevents, List.filterMap_append, List.map_append, h.creations, hcreations]
    rfl
  · rw [hevents, List.filterMap_append, List.filterMap_append, h.fallBacks, hfallBacks]

theorem Accounts.obtain (h : host.Accounts attempts) (store : FileStore)
    (resolution : Resolution) :
    (host.obtain store resolution).2.Accounts
      (attempts ++ (host.attemptFor? store resolution).toList) := by
  rcases host.obtain_cases store resolution with
    ⟨generator, hcached, heq⟩ | ⟨hnone, heq⟩ | ⟨wanted, hsome, hends⟩
  · rw [heq, attemptFor?_of_cached hcached, Option.toList_none, List.append_nil]
    exact h
  · rw [heq, hnone, Option.toList_none, List.append_nil]
    exact h
  · rw [hsome, Option.toList_some]
    exact h.launchEnds hends

/-- Any other event tells of no attempt. -/
theorem Accounts.record (h : host.Accounts attempts) {event : Event}
    (hcreation : event.creation? = none) (hfallBack : event.fallBack? = none) :
    (host.record event).Accounts attempts where
  attempts_eq := h.attempts_eq
  creations := by simp [Host.record, h.creations, hcreation]
  fallBacks := by simp [Host.record, h.fallBacks, hfallBack]

theorem Accounts.run (h : host.Accounts attempts) (handle : Handle κ) (request : Request) :
    (host.run handle request).2.Accounts attempts := by
  cases handle with
  | builtin => exact h.record rfl rfl
  | isolated generator =>
    have hnoted : (host.record (.invoke generator.serial request)).Accounts attempts :=
      h.record rfl rfl
    exact ⟨hnoted.attempts_eq, hnoted.creations, hnoted.fallBacks⟩

theorem Accounts.invalidate (h : host.Accounts attempts) : host.invalidate.Accounts attempts := by
  unfold Host.invalidate
  split
  · next generator hcached =>
    have hnoted : (host.record (.release generator.serial)).Accounts attempts := h.record rfl rfl
    exact ⟨hnoted.attempts_eq, hnoted.creations, hnoted.fallBacks⟩
  · exact h

theorem discard_of_cached (hcached : host.cached = some generator) :
    host.discard (.isolated generator) = host.invalidate := by
  unfold discard
  simp only [hcached, if_true]

theorem Accounts.discard (h : host.Accounts attempts) (handle : Handle κ) :
    (host.discard handle).Accounts attempts := by
  rcases host.discard_cases handle with heq | heq
  · rw [heq]
    exact h.invalidate
  · rwa [heq]

theorem invalidate_attempts (host : Host κ σ) : host.invalidate.attempts = host.attempts := by
  unfold invalidate
  split <;> rfl

theorem run_attempts (host : Host κ σ) (handle : Handle κ) (request : Request) :
    (host.run handle request).2.attempts = host.attempts := by
  cases handle <;> rfl

end Host

/-! ### Generators in the hands of others -/

/-- A host, and the generators that it has handed out, the last one first. -/
structure Lending (κ σ : Type) where
  host : Host κ σ
  lent : List (Handle κ) := []

namespace Lending

variable {l : Lending κ σ} {generator : Isolated κ} {handle : Handle κ}
  {operation : HostOperation κ} {operations : List (HostOperation κ)} {made : List Attempt}

/-- A host and its lent generators after an operation. -/
def perform (l : Lending κ σ) : HostOperation κ → Lending κ σ
  | .obtain store resolution =>
    { host := (l.host.obtain store resolution).2
      lent := (l.host.obtain store resolution).1 :: l.lent }
  | .run handle request => { l with host := (l.host.run handle request).2 }
  | .invalidate | .dispose => { l with host := l.host.invalidate }
  | .discard handle => { l with host := l.host.discard handle }

/-- A generator is the built-in one, was lent by this host, or comes from elsewhere. Serial numbers
begin with one, so zero is left for the generators of others. -/
def Knows (l : Lending κ σ) (handle : Handle κ) : Prop :=
  ∀ generator, handle = .isolated generator → handle ∈ l.lent ∨ generator.serial = 0

/-- Every generator is known by the time when it is given back. -/
def Allows (l : Lending κ σ) : List (HostOperation κ) → Prop
  | [] => True
  | operation :: rest =>
    (∀ handle, operation = .discard handle → l.Knows handle) ∧ (l.perform operation).Allows rest

/-- The attempt to launch a generator that an operation makes. -/
def attempt? (l : Lending κ σ) : HostOperation κ → Option Attempt
  | .obtain store resolution => l.host.attemptFor? store resolution
  | _ => none

/-- The attempts to launch a generator that some operations make, the first one first. -/
def attempts (l : Lending κ σ) : List (HostOperation κ) → List Attempt
  | [] => []
  | operation :: rest => (l.attempt? operation).toList ++ (l.perform operation).attempts rest

/-! ### What is noted of a run -/

theorem accounts_perform (h : l.host.Accounts made) (operation : HostOperation κ) :
    (l.perform operation).host.Accounts (made ++ (l.attempt? operation).toList) := by
  cases operation with
  | obtain store resolution => exact h.obtain store resolution
  | run handle request => simpa [attempt?, perform] using h.run handle request
  | invalidate => simpa [attempt?, perform] using h.invalidate
  | discard handle => simpa [attempt?, perform] using h.discard handle
  | dispose => simpa [attempt?, perform] using h.invalidate

theorem accounts_foldl_perform (h : l.host.Accounts made) (operations : List (HostOperation κ)) :
    (operations.foldl perform l).host.Accounts (made ++ l.attempts operations) := by
  induction operations generalizing l made with
  | nil => simpa [attempts] using h
  | cons operation rest ih =>
    have hrest := ih (accounts_perform h operation)
    rwa [List.append_assoc] at hrest

theorem version_perform (l : Lending κ σ) (operation : HostOperation κ) :
    (l.perform operation).host.version = l.host.version := by
  cases operation with
  | obtain store resolution => exact l.host.version_obtain store resolution
  | run handle request => exact l.host.version_run handle request
  | invalidate => exact l.host.version_invalidate
  | discard handle => exact l.host.version_discard handle
  | dispose => exact l.host.version_invalidate

theorem version_foldl_perform (l : Lending κ σ) (operations : List (HostOperation κ)) :
    (operations.foldl perform l).host.version = l.host.version := by
  induction operations generalizing l with
  | nil => rfl
  | cons operation rest ih => rw [List.foldl_cons, ih, version_perform]

/-! ### Which generator is which -/

/-- A serial number tells a lent generator from all others. -/
structure IsFaithful (l : Lending κ σ) : Prop where
  serial_pos : ∀ generator, .isolated generator ∈ l.lent → 0 < generator.serial
  serial_le : ∀ generator, .isolated generator ∈ l.lent → generator.serial ≤ l.host.attempts
  cached_mem : ∀ generator, l.host.cached = some generator → .isolated generator ∈ l.lent
  serial_inj : ∀ generator other, .isolated generator ∈ l.lent → .isolated other ∈ l.lent →
    generator.serial = other.serial → generator = other

/-- What is not handed out anew stays as it was known, as long as no attempt is taken back. -/
theorem IsFaithful.setHost (h : l.IsFaithful) {host : Host κ σ}
    (hattempts : host.attempts = l.host.attempts)
    (hcached : ∀ generator, host.cached = some generator → l.host.cached = some generator) :
    ({ l with host } : Lending κ σ).IsFaithful where
  serial_pos := h.serial_pos
  serial_le := by
    intro generator hlent
    rw [hattempts]
    exact h.serial_le generator hlent
  cached_mem := fun generator hnew => h.cached_mem generator (hcached generator hnew)
  serial_inj := h.serial_inj

theorem IsFaithful.invalidate (h : l.IsFaithful) :
    ({ l with host := l.host.invalidate } : Lending κ σ).IsFaithful := by
  apply h.setHost l.host.invalidate_attempts
  intro generator hcached
  cases l.host.invalidate_cached.symm.trans hcached

/-- A generator that was lent before is lent once more. -/
theorem IsFaithful.lend (h : l.IsFaithful)
    (hlent : ∀ generator, handle = .isolated generator → handle ∈ l.lent) :
    ({ l with lent := handle :: l.lent } : Lending κ σ).IsFaithful := by
  have hmem : ∀ generator, .isolated generator ∈ handle :: l.lent →
      .isolated generator ∈ l.lent := by
    intro generator hmem
    rcases List.mem_cons.1 hmem with heq | hmem
    · rw [heq]
      exact hlent generator heq.symm
    · exact hmem
  exact
    { serial_pos := fun generator hg => h.serial_pos generator (hmem generator hg)
      serial_le := fun generator hg => h.serial_le generator (hmem generator hg)
      cached_mem := fun generator hg => List.mem_cons_of_mem _ (h.cached_mem generator hg)
      serial_inj := fun generator other hg ho =>
        h.serial_inj generator other (hmem generator hg) (hmem other ho) }

/-- A generator that has just been launched has a number that no other one has. -/
theorem IsFaithful.launch (h : l.IsFaithful) {store : FileStore} {wanted : Installation}
    {after : Host κ σ} (hends : l.host.LaunchEnds store wanted handle after) :
    ({ host := after, lent := handle :: l.lent } : Lending κ σ).IsFaithful := by
  have hnew : ∀ generator, .isolated generator = handle → generator.serial = l.host.attempts + 1 :=
    fun generator heq => (heq ▸ hends).serial_eq
  refine ⟨?_, ?_, ?_, ?_⟩
  · intro generator hmem
    rcases List.mem_cons.1 hmem with heq | hmem
    · exact (hnew generator heq).symm ▸ Nat.succ_pos _
    · exact h.serial_pos generator hmem
  · intro generator hmem
    dsimp only
    rw [hends.attempts_eq]
    rcases List.mem_cons.1 hmem with heq | hmem
    · exact Nat.le_of_eq (hnew generator heq)
    · exact Nat.le_succ_of_le (h.serial_le generator hmem)
  · intro generator hcached
    exact List.mem_cons.2 (.inl (hends.eq_of_cached hcached).symm)
  · intro generator other hgenerator hother heq
    rcases List.mem_cons.1 hgenerator with hg | hg <;> rcases List.mem_cons.1 hother with ho | ho
    · exact Handle.isolated.inj (hg.trans ho.symm)
    · have hserial := hnew generator hg
      have hle := h.serial_le other ho
      omega
    · have hserial := hnew other ho
      have hle := h.serial_le generator hg
      omega
    · exact h.serial_inj generator other hg ho heq

theorem IsFaithful.perform (h : l.IsFaithful) (operation : HostOperation κ) :
    (l.perform operation).IsFaithful := by
  cases operation with
  | obtain store resolution =>
    rcases l.host.obtain_cases store resolution with
      ⟨generator, hcached, heq⟩ | ⟨-, heq⟩ | ⟨wanted, -, hends⟩
    · simp only [Lending.perform, heq]
      exact h.lend fun _ _ => h.cached_mem generator hcached
    · simp only [Lending.perform, heq]
      exact h.lend fun _ hne => nomatch hne
    · exact h.launch hends
  | run handle request =>
    apply h.setHost (l.host.run_attempts handle request)
    intro generator hcached
    exact (l.host.run_cached handle request).symm.trans hcached
  | invalidate => exact h.invalidate
  | discard handle =>
    rcases l.host.discard_cases handle with heq | heq
    · simp only [Lending.perform, heq]
      exact h.invalidate
    · simpa only [Lending.perform, heq] using h
  | dispose => exact h.invalidate

theorem IsFaithful.foldl_perform (h : l.IsFaithful) (operations : List (HostOperation κ)) :
    (operations.foldl Lending.perform l).IsFaithful := by
  induction operations generalizing l with
  | nil => exact h
  | cons operation rest ih => exact ih (h.perform operation)

theorem isFaithful_new (builtin : Generator) (launcher : Launcher κ σ) (state : σ) :
    ({ host := { builtin, launcher, state } } : Lending κ σ).IsFaithful where
  serial_pos := by simp
  serial_le := by simp
  cached_mem := by simp
  serial_inj := by simp

/-! ### Which generator is kept -/

/-- A known generator that is given back makes no difference unless it is the cached one. -/
theorem IsFaithful.discard_eq (h : l.IsFaithful) (hknown : l.Knows handle)
    (hother : l.host.cached.map .isolated ≠ some handle) : l.host.discard handle = l.host := by
  unfold Host.discard
  split
  · next generator cached hcached =>
    rw [hcached] at hother
    have hlent := h.cached_mem cached hcached
    apply if_neg
    intro hserial
    rcases hknown generator rfl with hmem | hzero
    · exact hother (congrArg (some ∘ Handle.isolated) (h.serial_inj _ _ hlent hmem hserial.symm))
    · have hpos := h.serial_pos cached hlent
      omega
  · rfl

theorem cached_of_forgets (hcached : l.host.cached = some generator)
    (hforgets : operation.Forgets generator) : (l.perform operation).host.cached = none := by
  cases operation with
  | obtain store resolution => exact hforgets.elim
  | run handle request => exact hforgets.elim
  | invalidate => exact l.host.invalidate_cached
  | discard handle =>
    cases hforgets
    exact (congrArg Host.cached (Host.discard_of_cached hcached)).trans l.host.invalidate_cached
  | dispose => exact l.host.invalidate_cached

/-- The cached generator stays until it is forgotten, and nothing is launched meanwhile. -/
theorem IsFaithful.keeps (h : l.IsFaithful) (hcached : l.host.cached = some generator)
    (hknown : ∀ handle, operation = .discard handle → l.Knows handle)
    (hkept : ¬ operation.Forgets generator) :
    (l.perform operation).host.cached = some generator ∧ l.attempt? operation = none := by
  cases operation with
  | obtain store resolution =>
    have heq := Host.obtain_of_cached hcached store resolution
    refine ⟨?_, Host.attemptFor?_of_cached hcached store resolution⟩
    exact (congrArg (·.2.cached) heq).trans hcached
  | run handle request => exact ⟨(l.host.run_cached handle request).trans hcached, rfl⟩
  | invalidate => exact absurd trivial hkept
  | discard handle =>
    have hother : l.host.cached.map .isolated ≠ some handle := by
      rw [hcached]
      exact fun heq => hkept (Option.some.inj heq).symm
    have heq := h.discard_eq (hknown handle rfl) hother
    exact ⟨(congrArg Host.cached heq).trans hcached, rfl⟩
  | dispose => exact absurd trivial hkept

theorem IsFaithful.keeps_foldl (h : l.IsFaithful) (hcached : l.host.cached = some generator)
    (hknown : l.Allows operations)
    (hkept : ∀ operation ∈ operations, ¬ operation.Forgets generator) :
    (operations.foldl Lending.perform l).host.cached = some generator ∧
      l.attempts operations = [] := by
  induction operations generalizing l with
  | nil => exact ⟨hcached, rfl⟩
  | cons operation rest ih =>
    obtain ⟨hfirst, hrest⟩ := hknown
    obtain ⟨hcached, hnone⟩ := h.keeps hcached hfirst (hkept operation (List.mem_cons_self ..))
    obtain ⟨hlast, hattempts⟩ := ih (h.perform operation) hcached hrest fun later hlater =>
      hkept later (List.mem_cons_of_mem _ hlater)
    refine ⟨hlast, ?_⟩
    unfold attempts
    rw [hnone, hattempts]
    rfl

/-- **A host keeps what it launched, and accounts for every launch.** After any operations on a new
host, and with any launcher, the cached generator is handed out for every resolution, and nothing is
launched, until it is forgotten. Where none is cached, the built-in one is handed out for what is
unknown or has its version, and otherwise one is launched; if that fails, none is cached. To give
back another generator, whatever its version, changes nothing. The contexts and fallbacks that were
noted are those of the attempts, in their order. -/
theorem kept_and_accounted (builtin : Generator) (launcher : Launcher κ σ) (state : σ)
    (operations : List (HostOperation κ)) :
    let new : Lending κ σ := { host := { builtin, launcher, state } }
    let before := operations.foldl Lending.perform new
    (∀ generator, before.host.cached = some generator →
      (∀ later, before.Allows later → (∀ operation ∈ later, ¬ operation.Forgets generator) →
        let after := later.foldl Lending.perform before
        after.host.cached = some generator ∧ before.attempts later = [] ∧
        ∀ store resolution,
          after.host.obtain store resolution = (.isolated generator, after.host)) ∧
      ∀ operation, operation.Forgets generator → (before.perform operation).host.cached = none) ∧
    (∀ store resolution generator,
      (before.host.obtain store resolution).1 = .isolated generator ↔
        (before.host.obtain store resolution).2.cached = some generator) ∧
    (before.host.cached = none → ∀ store,
      (∀ reason, before.host.obtain store (.unknown reason) = (.builtin, before.host)) ∧
      ∀ wanted,
        (wanted.version = builtin.version →
          before.host.obtain store (.resolved wanted) = (.builtin, before.host)) ∧
        (wanted.version ≠ builtin.version →
          before.host.LaunchEnds store wanted (before.host.obtain store (.resolved wanted)).1
            (before.host.obtain store (.resolved wanted)).2)) ∧
    (∀ handle, before.Knows handle → before.host.cached.map .isolated ≠ some handle →
      before.host.discard handle = before.host) ∧
    before.host.Accounts (new.attempts operations) := by
  intro new before
  have hfaithful : before.IsFaithful :=
    (isFaithful_new builtin launcher state).foldl_perform operations
  have hversion : before.host.builtin.version = builtin.version :=
    congrFun (new.version_foldl_perform operations) .builtin
  refine ⟨?_, fun _ _ _ => Host.obtain_eq_isolated_iff, ?_, fun handle => hfaithful.discard_eq, ?_⟩
  · intro generator hcached
    refine ⟨?_, fun operation => cached_of_forgets hcached⟩
    intro later hknown hkept
    obtain ⟨hlast, hattempts⟩ := hfaithful.keeps_foldl hcached hknown hkept
    exact ⟨hlast, hattempts, Host.obtain_of_cached hlast⟩
  · intro hcached store
    rw [← hversion]
    refine ⟨Host.obtain_of_unknown hcached store, fun wanted => ⟨?_, ?_⟩⟩
    · exact Host.obtain_of_builtin hcached store
    · exact fun hdiffers => Host.launchEnds_of_obtain hcached hdiffers store
  · have hnew : new.host.Accounts [] := ⟨rfl, rfl, rfl⟩
    exact accounts_foldl_perform hnew operations

/-- The first attempt fails and the next two give one generator each. The older one, given back
late, leaves the newer one of the same version in its place. -/
theorem kept_and_accounted_stale :
    let wanted : Installation := { version := ⟨9, 9, 9, [], []⟩, location := "/tools" }
    let stale : Handle Version := .isolated { serial := 2, context := wanted.version }
    let newer : Isolated Version := { serial := 3, context := wanted.version }
    let resolution := Resolution.resolved wanted
    let operations : List (HostOperation Version) :=
      [.obtain {} resolution, .obtain {} resolution, .invalidate, .obtain {} resolution]
    let new : Lending Version Nat :=
      { host := { builtin := .builtin, launcher := .reluctant (.connection "busy"), state := 1 } }
    let before := operations.foldl Lending.perform new
    let after := before.perform (.discard stale)
    before.host.cached = some newer ∧ before.Allows [.discard stale] ∧
    (∀ reason, after.host.obtain {} (.unknown reason) = (.isolated newer, after.host)) ∧
    before.host.events.filterMap Event.fallBack? = [(wanted, .connection "busy")] := by
  intro wanted stale newer resolution operations new before after
  obtain ⟨hkept, -, -, -, haccounts⟩ :=
    kept_and_accounted .builtin (.reluctant (.connection "busy")) 1 operations
  have hcached : before.host.cached = some newer := by rfl
  have hlent : before.lent = [.isolated newer, stale, .builtin] := by rfl
  have hallows : before.Allows [.discard stale] := by
    refine ⟨?_, trivial⟩
    rintro handle ⟨⟩ generator -
    exact .inl (by simp [hlent])
  have hother : ∀ operation ∈ [HostOperation.discard stale], ¬ operation.Forgets newer := by
    simp [HostOperation.Forgets, stale, newer]
  obtain ⟨-, -, hobtain⟩ := (hkept newer hcached).1 _ hallows hother
  exact ⟨hcached, hallows, fun reason => hobtain {} (.unknown reason), haccounts.fallBacks⟩

end Lending

end FeatureFixtures
