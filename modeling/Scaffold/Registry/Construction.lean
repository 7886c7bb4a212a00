import Scaffold.Registry.Basic

/-!
# Construction on request

A subsystem is constructed when it is first asked for. Its initializer may ask for others, which are constructed in
turn; a name that is asked for inside its own construction is refused.

## Main Definitions

* `Outcome` — what comes of an operation that may construct
* `Registry.run` — runs an initializer, given how requests are answered
* `Registry.getAny`, `Registry.get` — ask for the instance of a name
* `Registry.initializeAll` — asks for the instances of names in turn

## Design Notes

Initializers may register others, whose names are without bound, so that constructions may nest without end. They
are followed to a given depth, and there is no outcome when that does not suffice. Where no initializer registers
anything the depth need not exceed the number of entries, for the names under construction are distinct.
-/

namespace Scaffold

/-- What comes of an operation: its result and the registry after it, or nothing if constructions nest
more deeply than they are followed. -/
abbrev Outcome (ν α : Type) := Option (Except RegistryError α × Registry ν)

namespace Registry

variable {ν : Type}

/-- Registers an entry, if the name is not taken; the registry stays as it is otherwise. -/
def tryRegister (registry : Registry ν) (name : String) (entry : Entry ν) :
    Except RegistryError Unit × Registry ν :=
  match registry.register name entry with
  | .ok registry => (.ok (), registry)
  | .error error => (.error error, registry)

/-- Runs an initializer on a registry whose requests are answered by `request`. -/
def run (request : String → Registry ν → Outcome ν (Option (Instance ν))) :
    Program ν → Registry ν → Outcome ν ν
  | .done value, registry => some (.ok value, registry)
  | .fail error, registry => some (.error error, registry)
  | .request name resume, registry =>
    match request name registry with
    | none => none
    | some (answer, registry) =>
      run request (resume answer) (registry.record (.ofAnswer name answer))
  | .observe resume, registry => run request (resume registry.outlines) registry
  | .registerInstance name held resume, registry =>
    let (answer, registry) := registry.tryRegister name (.ofInstance held)
    run request (resume answer) registry
  | .registerUnavailable name resume, registry =>
    let (answer, registry) := registry.tryRegister name .placeholder
    run request (resume answer) registry
  | .registerDeferred name type initializer resume, registry =>
    let (answer, registry) := registry.tryRegister name (.ofInitializer type initializer)
    run request (resume answer) registry
  | .note text next, registry => run request next (registry.record (.note text))

/-- Runs the initializer of a name that has no instance and is not under construction. -/
def construct (request : String → Registry ν → Outcome ν (Option (Instance ν)))
    (name : String) (program : Program ν) (registry : Registry ν) : Outcome ν ν :=
  match run request program (registry.start name) with
  | none => none
  | some (result, registry) => some (registry.finish name result)

/-- The instance of a name, constructed if need be; an unavailable name has none. -/
def getAny : (depth : Nat) → (name : String) → Registry ν → Outcome ν (Option (Instance ν))
  | depth, name, registry =>
    match registry.find? name with
    | none => some (.error (.notRegistered name), registry)
    | some (.ready held) => some (.ok (some held), registry)
    | some .unavailable => some (.ok none, registry)
    | some (.deferred type _ _ (some value)) => some (.ok (some ⟨type, value⟩), registry)
    | some (.deferred type initializer runs none) =>
      if name ∈ registry.running then some (.error (.reentrant name), registry)
      else
        match depth with
        | 0 => none
        | depth + 1 =>
          match construct (getAny depth) name (initializer (runs + 1)) registry with
          | none => none
          | some (result, registry) =>
            some (result.map fun value => some ⟨type, value⟩, registry)

/-- The instance of a name as one of a type.  If it is refused, the type that the name is registered with is looked up
when the request is over. -/
def get (depth : Nat) (name : String) (type : InstanceType) (registry : Registry ν) :
    Outcome ν (Option ν) :=
  match getAny depth name registry with
  | none => none
  | some (answer, registry) =>
    some (answer.bind (Program.typedAnswer name type (registry.typeName? name)), registry)

/-- Asks for the instances of names in turn, up to the first that fails. -/
def initializeAll (depth : Nat) : List String → Registry ν → Outcome ν Unit
  | [], registry => some (.ok (), registry)
  | name :: rest, registry =>
    match getAny depth name registry with
    | none => none
    | some (.error error, registry) => some (.error error, registry)
    | some (.ok _, registry) => initializeAll depth rest registry

end Registry

end Scaffold
