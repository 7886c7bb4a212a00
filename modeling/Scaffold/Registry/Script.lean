import Scaffold.Registry.Construction

/-!
# Scripted initializers

An initializer may be given as a list of steps. It leaves notes on what it meets, and the value that it builds is the
number of times it has been started.

## Main Definitions

* `Action` — a step that registers no initializer
* `Script` — the steps
* `Script.initializer` — the initializer of a script
* `Session` — a registry of scripted initializers
-/

namespace Scaffold

/-- A step that registers no initializer. -/
inductive Action where
  /-- Asks for an instance of a type; where the name is unavailable the step fails if it has a cause
  for that. -/
  | get (name : String) (type : InstanceType) (causeIfAbsent : Option String)
  /-- Asks for an instance. -/
  | getAny (name : String)
  /-- Looks whether a name has an instance. -/
  | isInitialized (name : String)
  /-- Fails in the first so many runs, or in all of them. -/
  | fail (error : RegistryError) (runs : Option Nat)
  /-- Registers an instance. -/
  | registerInstance (name : String) (held : Instance Int)
  /-- Registers a name that is unavailable. -/
  | registerUnavailable (name : String)
  deriving DecidableEq, Repr

/-- The steps of an initializer; the failure of a tolerant one is noted and passed over. -/
inductive Script where
  /-- No more steps. -/
  | done
  /-- A step, and those after it. -/
  | step (action : Action) (tolerant : Bool) (rest : Script)
  /-- Registers a scripted initializer. -/
  | registerDeferred (name : String) (type : InstanceType) (script : Script) (tolerant : Bool)
      (rest : Script)
  deriving Repr

/-- What is noted of the value of an instance. -/
def valueText : Option Int → String
  | none => "null"
  | some value => toString value

/-- The program of a step in a run of the initializer of `owner`, before `next` or `failed`. -/
def Action.toProgram (owner : String) (run : Nat) (next : Program Int)
    (failed : RegistryError → Program Int) : Action → Program Int
  | get name type causeIfAbsent =>
    .requestAs name type fun
      | .error error => failed error
      | .ok value =>
        match value, causeIfAbsent with
        | none, some cause => failed (.construction owner cause)
        | _, _ => .note (owner ++ " got " ++ name ++ ": " ++ valueText value) next
  | getAny name =>
    .request name fun
      | .error error => failed error
      | .ok held =>
        .note (owner ++ " got " ++ name ++ ": " ++ valueText (held.map Instance.value)) next
  | isInitialized name =>
    .observe fun outlines =>
      let seen := if (outlines.get? name).map Outline.status = some .ready then "true" else "false"
      .note (owner ++ " sees " ++ name ++ ": " ++ seen) next
  | fail error runs =>
    match runs with
    | none => failed error
    | some runs => if run ≤ runs then failed error else next
  | registerInstance name held =>
    .registerInstance name held fun
      | .error error => failed error
      | .ok () => next
  | registerUnavailable name =>
    .registerUnavailable name fun
      | .error error => failed error
      | .ok () => next

namespace Script

/-- What follows the failure of a step. -/
def onFailure (owner : String) (tolerant : Bool) (next : Program Int) (error : RegistryError) :
    Program Int :=
  if tolerant then .note (owner ++ " caught: " ++ error.message) next
  else .note ("failed " ++ owner) (.fail error)

/-- The program of a run of the initializer of `owner`. -/
def toProgram (owner : String) (run : Nat) : Script → Program Int
  | done => .note ("built " ++ owner) (.done run)
  | step action tolerant rest =>
    let next := toProgram owner run rest
    action.toProgram owner run next (onFailure owner tolerant next)
  | registerDeferred name type script tolerant rest =>
    let next := toProgram owner run rest
    .registerDeferred name type
      (fun run => .note ("start " ++ name) (toProgram name run script))
      fun
        | .error error => onFailure owner tolerant next error
        | .ok () => next

/-- The initializer of a script under a name. -/
def initializer (name : String) (script : Script) (run : Nat) : Program Int :=
  .note ("start " ++ name) (toProgram name run script)

/-- Number of initializers that a script may register, with those that they may register in turn. -/
def registrations : Script → Nat
  | done => 0
  | step _ _ rest => registrations rest
  | registerDeferred _ _ script _ rest => registrations script + registrations rest + 1

end Script

/-- A registry of scripted initializers. -/
structure Session where
  /-- The registry. -/
  registry : Registry Int := ∅
  /-- A bound for the number of names with an initializer, and so for the depth of constructions. -/
  depth : Nat := 0

namespace Session

/-- Registers a scripted initializer. -/
def registerDeferred (session : Session) (name : String) (type : InstanceType) (script : Script) :
    Except RegistryError Session := do
  let registry ← session.registry.registerDeferred name type (script.initializer name)
  return { registry, depth := session.depth + script.registrations + 1 }

/-- An initializer that asks for an instance of a type, passes a failure on, and leaves no notes. -/
def forwarder (name : String) (type : InstanceType) (run : Nat) : Program Int :=
  .requestAs name type fun
    | .error error => .fail error
    | .ok _ => .done run

/-- Registers initializers that ask for one another's instances, up to the first name that is taken. -/
def registerForwarders (type : InstanceType) :
    List (String × String) → Session → Except RegistryError Unit × Session
  | [], session => (.ok (), session)
  | (name, next) :: rest, session =>
    match session.registry.registerDeferred name type (forwarder next type) with
    | .error error => (.error error, session)
    | .ok registry => registerForwarders type rest { registry, depth := session.depth + 1 }

/-- Registers initializers in a ring, each of which asks for the instance of the next name. -/
def registerRing (session : Session) (type : InstanceType) (names : List String) :
    Except RegistryError Unit × Session :=
  registerForwarders type (names.zip (names.drop 1 ++ names.take 1)) session

end Session

end Scaffold
