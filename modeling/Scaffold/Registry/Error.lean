/-!
# Errors of a registry

## Main Definitions

* `RegistryError` — why a registry refuses a request
* `RegistryError.message` — the wording
* `RegistryError.within` — the error of a construction whose initializer fails
-/

namespace Scaffold

/-- The name of a type of instances. -/
abbrev TypeName := String

/-- Why a registry refuses a request. -/
inductive RegistryError where
  /-- Nothing is registered under the name. -/
  | notRegistered (name : String)
  /-- The name is taken. -/
  | alreadyRegistered (name : String)
  /-- The subsystem is of another type than the one that is asked for.  Both are told by their names. -/
  | typeMismatch (name : String) (expected actual : TypeName)
  /-- The initializer of the subsystem failed. -/
  | construction (name cause : String)
  /-- The subsystem is asked for while it is under construction. -/
  | reentrant (name : String)
  deriving DecidableEq, Repr

namespace RegistryError

/-- The name that an error is about. -/
def name : RegistryError → String
  | notRegistered name => name
  | alreadyRegistered name => name
  | typeMismatch name _ _ => name
  | construction name _ => name
  | reentrant name => name

/-- The wording of an error. -/
def message : RegistryError → String
  | notRegistered name => "Subsystem not registered: " ++ name
  | alreadyRegistered name => "Subsystem already registered: " ++ name
  | typeMismatch name expected actual =>
    "Subsystem '" ++ name ++ "' is a " ++ actual ++ ", not a " ++ expected
  | construction name cause => "Failed to construct subsystem '" ++ name ++ "': " ++ cause
  | reentrant name => "Subsystem '" ++ name ++ "' was requested while it was being constructed"

/-- What an initializer says went wrong with the construction of a name: the cause that it gives for
the name itself, and else the whole message. -/
def causeWithin (name : String) : RegistryError → String
  | construction owner cause =>
    if owner = name then cause else (construction owner cause).message
  | error => error.message

/-- The error of the construction of a name whose initializer fails. -/
def within (name : String) (error : RegistryError) : RegistryError :=
  construction name (error.causeWithin name)

end RegistryError

end Scaffold
