import FeatureFixtures.Event
import FeatureFixtures.Launcher

/-!
# The host of the generators

A host has the built-in generator and at most one isolated generator, which it keeps once it has
been started and hands out for every resolution until it is told to forget it. A generator that
cannot be created or started is replaced by the built-in one, and the next request tries again.
Whatever was created is released: at once if its start fails, and otherwise when it is forgotten.
-/

namespace FeatureFixtures

/-- An isolated generator. -/
structure Isolated (κ : Type) where
  serial : Nat
  context : κ

/-- A generator that a host has handed out. -/
inductive Handle (κ : Type) where
  | builtin
  | isolated (generator : Isolated κ)

/-- Whether a generator is isolated. -/
def Handle.isIsolated {κ : Type} : Handle κ → Bool
  | builtin => false
  | isolated _ => true

/-- A host. -/
structure Host (κ σ : Type) where
  builtin : Generator
  launcher : Launcher κ σ
  /-- The state of the launcher. -/
  state : σ
  cached : Option (Isolated κ) := none
  /-- How many times an isolated generator was to be created. -/
  attempts : Nat := 0
  /-- What has happened, the first event first. -/
  events : List Event := []

namespace Host

variable {κ σ : Type}

/-- The host after an event. -/
def record (host : Host κ σ) (event : Event) : Host κ σ :=
  { host with events := host.events ++ [event] }

/-- Releases an isolated generator. -/
def release (host : Host κ σ) (generator : Isolated κ) : Host κ σ :=
  { host with state := host.launcher.release generator.context host.state }.record
    (.release generator.serial)

/-- Starts an isolated generator, and releases it if that fails. -/
def start (host : Host κ σ) (generator : Isolated κ) : Except Error (Isolated κ) × Host κ σ :=
  let host := host.record (.start generator.serial)
  match host.launcher.start generator.context host.state with
  | (.ok (), state) => (.ok generator, { host with state })
  | (.error error, state) => (.error error, { host with state }.release generator)

/-- Creates and starts an isolated generator. -/
def launch (host : Host κ σ) (store : FileStore) (wanted : Installation) :
    Except Error (Isolated κ) × Host κ σ :=
  let serial := host.attempts + 1
  let host := { host with attempts := serial }.record (.create serial wanted)
  match host.launcher.create store wanted host.state with
  | (.ok context, state) => { host with state }.start { serial, context }
  | (.error error, state) => (.error error, { host with state })

/-- Hands out the generator for a resolution. -/
def obtain (host : Host κ σ) (store : FileStore) (resolution : Resolution) : Handle κ × Host κ σ :=
  match host.cached, resolution with
  | some generator, _ => (.isolated generator, host)
  | none, .unknown _ => (.builtin, host)
  | none, .resolved wanted =>
    if wanted.version = host.builtin.version then (.builtin, host)
    else match host.launch store wanted with
    | (.ok generator, host) => (.isolated generator, { host with cached := some generator })
    | (.error reason, host) => (.builtin, host.record (.fallBack wanted reason))

/-- The version of a generator. -/
def version (host : Host κ σ) : Handle κ → Version
  | .builtin => host.builtin.version
  | .isolated generator => host.launcher.version generator.context

/-- Runs a generator. -/
def run (host : Host κ σ) (handle : Handle κ) (request : Request) : Outcome Text × Host κ σ :=
  match handle with
  | .builtin => (host.builtin.generate request, host.record (.runBuiltin request))
  | .isolated generator =>
    let host := host.record (.invoke generator.serial request)
    let (outcome, state) := host.launcher.invoke generator.context request host.state
    (outcome, { host with state })

/-- Forgets the isolated generator. -/
def invalidate (host : Host κ σ) : Host κ σ :=
  match host.cached with
  | some generator => { host with cached := none }.release generator
  | none => host

/-- Forgets the isolated generator if it is the given one. -/
def discard (host : Host κ σ) (handle : Handle κ) : Host κ σ :=
  match handle, host.cached with
  | .isolated generator, some cached =>
    if generator.serial = cached.serial then host.invalidate else host
  | _, _ => host

end Host

end FeatureFixtures
