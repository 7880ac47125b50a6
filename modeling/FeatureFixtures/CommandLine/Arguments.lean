import FeatureFixtures.Project.Settings

/-!
# Arguments

The arguments name one of four actions. Before the name stand the flags of the program, behind it
those of the action and its feature files; the project folder and the verbosity may be given in both
places, and the one behind the name counts. Arguments are read from left to right, and the first one
that asks for help or for the version, or that is at fault, settles the matter.
-/

namespace FeatureFixtures

namespace CommandLine

/-- What the arguments are read for: the program as a whole, or one action. -/
inductive Scope where
  | program
  | generate
  | check
  | detectVersion
  | resolve
deriving DecidableEq, Repr, Inhabited

/-- The action with a name. -/
def Scope.ofName? (name : Text) : Option Scope :=
  if name = ("generate" : String) then some .generate
  else if name = ("check" : String) then some .check
  else if name = ("detect-version" : String) then some .detectVersion
  else if name = ("resolve" : String) then some .resolve
  else none

/-- How many feature files an action takes at most, if there is a bound. -/
def Scope.maxFeatures? : Scope → Option Nat
  | generate | check => none
  | detectVersion => some 1
  | program | resolve => some 0

/-- How many feature files an action takes at least. -/
def Scope.minFeatures : Scope → Nat
  | generate | check | detectVersion => 1
  | program | resolve => 0

/-- A flag. -/
inductive Flag where
  | project
  | method
  | verbose
  | force
  | stdout
  | json
  | help
  | version
deriving DecidableEq, Repr, Inhabited

/-- Whether a flag takes a value. -/
def Flag.takesValue : Flag → Bool
  | project | method => true
  | verbose | force | stdout | json | help | version => false

/-- The flags of a scope. -/
def Scope.flags : Scope → List Flag
  | program => [.project, .verbose, .help, .version]
  | generate => [.project, .verbose, .help, .force, .method, .stdout, .json]
  | check => [.project, .verbose, .help, .method]
  | detectVersion | resolve => [.project, .verbose, .help]

/-- The name of a flag behind two hyphens. -/
def Flag.name : Flag → Text
  | project => "project"
  | method => "method"
  | verbose => "verbose"
  | force => "force"
  | stdout => "stdout"
  | json => "json"
  | help => "help"
  | version => "version"

/-- The letter of a flag behind one hyphen. -/
def Flag.letter? : Flag → Option Char
  | project => some 'p'
  | verbose => some 'v'
  | help => some 'h'
  | version => some 'V'
  | method | force | stdout | json => none

/-- What is known after some arguments. -/
structure Options where
  project : Option Text := none
  method : Option CheckMethod := none
  /-- The flags without a value, in the order in which they were given. -/
  given : List Flag := []
  features : List Text := []
deriving DecidableEq, Repr, Inhabited

/-- Why the arguments are not read to their end. -/
inductive Stop where
  | help
  | version
  | usage
deriving DecidableEq, Repr, Inhabited

/-- The method with a name. -/
def method? (name : Text) : Option CheckMethod :=
  if name = ("mtime" : String) then some .modificationTime
  else if name = ("content" : String) then some .fileContent
  else none

namespace Options

/-- Adds a flag with its value. No flag is given twice, and no value is empty. -/
def setValue (o : Options) (flag : Flag) (value : Text) : Except Stop Options :=
  if value.isEmpty then .error .usage
  else match flag with
  | .project => if o.project.isSome then .error .usage else .ok { o with project := some value }
  | .method =>
    match method? value with
    | none => .error .usage
    | some method => if o.method.isSome then .error .usage else .ok { o with method := some method }
  | _ => .error .usage

/-- Adds a flag without a value. -/
def set (o : Options) (flag : Flag) : Except Stop Options :=
  match flag with
  | .help => .error .help
  | .version => .error .version
  | .project | .method => .error .usage
  | flag => if flag ∈ o.given then .error .usage else .ok { o with given := o.given ++ [flag] }

/-- Adds a feature file. -/
def addFeature (scope : Scope) (o : Options) (feature : Text) : Except Stop Options :=
  if feature.isEmpty || scope.maxFeatures? == some o.features.length then .error .usage
  else .ok { o with features := o.features ++ [feature] }

end Options

/-- The options after an argument, and the flag whose value is still to come. -/
abbrev Progress := Options × Option Flag

/-- Reads the letters behind one hyphen. What follows the letter of a flag with a value is the
value, with or without an equals sign. -/
def readLetters (scope : Scope) (o : Options) : Text → Except Stop Progress
  | [] => .ok (o, none)
  | c :: rest =>
    match scope.flags.find? (·.letter? == some c) with
    | none => .error .usage
    | some flag =>
      if flag.takesValue then
        match rest with
        | [] => .ok (o, some flag)
        | '=' :: value => (o.setValue flag value).map (·, none)
        | value => (o.setValue flag value).map (·, none)
      else
        match o.set flag with
        | .error stop => .error stop
        | .ok o => readLetters scope o rest

/-- Reads what stands behind two hyphens. -/
def readName (scope : Scope) (o : Options) (t : Text) : Except Stop Progress :=
  let name := t.takeWhile (· != '=')
  match scope.flags.find? (·.name == name), t.dropWhile (· != '=') with
  | none, _ => .error .usage
  | some flag, [] => if flag.takesValue then .ok (o, some flag) else (o.set flag).map (·, none)
  | some flag, _ :: value =>
    if flag.takesValue then (o.setValue flag value).map (·, none) else .error .usage

/-- Reads the arguments of a scope. The name of an action ends those of the program; it is given
together with what follows it. -/
def readArguments (scope : Scope) :
    Option Flag → List Text → Options → Except Stop (Options × List Text)
  | some _, [], _ => .error .usage
  | none, [], o => .ok (o, [])
  | some flag, value :: rest, o =>
    if Text.startsWith value ['-'] && value ≠ ['-'] then .error .usage
    else do readArguments scope none rest (← o.setValue flag value)
  | none, ['-', '-'] :: rest, o => do return (← rest.foldlM (Options.addFeature scope) o, [])
  | none, ('-' :: '-' :: t) :: rest, o => do
    let (o, awaited) ← readName scope o t
    readArguments scope awaited rest o
  | none, ('-' :: c :: t) :: rest, o => do
    let (o, awaited) ← readLetters scope o (c :: t)
    readArguments scope awaited rest o
  | none, t :: rest, o =>
    if scope = .program then .ok (o, t :: rest)
    else do readArguments scope none rest (← o.addFeature scope t)

/-- What is to be done. -/
inductive Action where
  | generate (features : List Text) (method : Option CheckMethod) (force stdout json : Bool)
  | check (features : List Text) (method : Option CheckMethod)
  | detectVersion (feature : Text)
  | resolve
deriving DecidableEq, Repr, Inhabited

/-- An action in a project folder. -/
structure Invocation where
  project : Text
  action : Action
deriving DecidableEq, Repr, Inhabited

/-- The action of a scope with given options. -/
def actionOf? (scope : Scope) (o : Options) : Option Action :=
  if o.features.length < scope.minFeatures then none
  else match scope, o.features with
  | .program, _ => none
  | .generate, features =>
    let isGiven (flag : Flag) : Bool := flag ∈ o.given
    some (.generate features o.method (isGiven .force) (isGiven .stdout) (isGiven .json))
  | .check, features => some (.check features o.method)
  | .detectVersion, features => features.head?.map .detectVersion
  | .resolve, _ => some .resolve

/-- What the arguments behind the word `help` ask for; a single one may name an action, or that word
again. -/
def readHelp : List Text → Stop
  | [] => .help
  | [name] =>
    if name = ("help" : String) || (Scope.ofName? name).isSome then .help else .usage
  | _ => .usage

/-- Reads the arguments. -/
def readInvocation (arguments : List Text) : Except Stop Invocation := do
  let (top, rest) ← readArguments .program none arguments {}
  match rest with
  | [] => .error .usage
  | name :: rest =>
    if name = ("help" : String) then .error (readHelp rest)
    match Scope.ofName? name with
    | none => .error .usage
    | some scope =>
      let (o, _) ← readArguments scope none rest {}
      match actionOf? scope o with
      | none => .error .usage
      | some action => return { project := (o.project <|> top.project).getD ".", action }

end CommandLine

end FeatureFixtures
