import Scaffold.NameMap
import Scaffold.Registry.Error

/-!
# Programs of initializers

An initializer builds an instance step by step, and may turn to the registry at each step. It is given as the tree of
what it does next for each answer that it may get.

## Main Definitions

* `InstanceType` — a type of instances
* `Instance` — a value with its type
* `Status`, `Outline` — what is known of a registered name from outside
* `Program` — what an initializer does
-/

namespace Scaffold

/-- A type of instances.  Its name does not tell it from all others: types of different places may have one name. -/
structure InstanceType where
  /-- The name, which is all that is printed of it. -/
  name : TypeName
  /-- Which of the types of that name it is. -/
  index : Nat := 0
  deriving DecidableEq, Repr

namespace InstanceType

/-- A name alone stands for the first type of that name. -/
instance : Coe TypeName InstanceType := ⟨fun name => { name }⟩

/-- A type is told by its name. -/
instance : Coe InstanceType TypeName := ⟨name⟩

end InstanceType

/-- A value with its type. -/
structure Instance (ν : Type) where
  /-- The type. -/
  type : InstanceType
  /-- The value. -/
  value : ν
  deriving DecidableEq, Repr

/-- The value of an instance of a type; none if the instance is of another one. -/
def Instance.downcast? {ν : Type} (held : Instance ν) (type : InstanceType) : Option ν :=
  if held.type = type then some held.value else none

/-- What is known of a registered name from outside. -/
inductive Status where
  /-- There is an instance. -/
  | ready
  /-- There is an initializer, and no instance yet. -/
  | pending
  /-- There is neither, and never will be. -/
  | unavailable
  deriving DecidableEq, Repr

/-- What is seen of a registered name from outside. -/
structure Outline where
  /-- Whether there is an instance, or may be one. -/
  status : Status
  /-- The name of the type that it is registered with. -/
  typeName : TypeName
  deriving DecidableEq, Repr

/-- What an initializer does until it returns a value or fails. -/
inductive Program (ν : Type) where
  /-- Returns the value of the instance. -/
  | done (value : ν)
  /-- Fails. -/
  | fail (error : RegistryError)
  /-- Asks for the instance of a name; an unavailable name has none. -/
  | request (name : String)
      (resume : Except RegistryError (Option (Instance ν)) → Program ν)
  /-- Looks at what is registered. -/
  | observe (resume : NameMap Outline → Program ν)
  /-- Registers an instance. -/
  | registerInstance (name : String) (held : Instance ν)
      (resume : Except RegistryError Unit → Program ν)
  /-- Registers a name that is unavailable. -/
  | registerUnavailable (name : String) (resume : Except RegistryError Unit → Program ν)
  /-- Registers an initializer, which is told how often it has been started. -/
  | registerDeferred (name : String) (type : InstanceType) (initializer : Nat → Program ν)
      (resume : Except RegistryError Unit → Program ν)
  /-- Leaves a note in the history of the registry. -/
  | note (text : String) (next : Program ν)

namespace Program

variable {ν : Type}

/-- The instance of a name as one of a type; an unavailable name has none of any type.  The refusal of an instance of
another type tells `typeName?`, the type that the name is registered with. -/
def typedAnswer (name : String) (type : InstanceType) (typeName? : Option TypeName) :
    Option (Instance ν) → Except RegistryError (Option ν)
  | none => .ok none
  | some held =>
    match held.downcast? type with
    | some value => .ok (some value)
    | none => .error (.typeMismatch name type.name (typeName?.getD "unknown"))

/-- An instance is given out as one of its own type. -/
theorem typedAnswer_self (name : String) (held : Instance ν) (typeName? : Option TypeName) :
    typedAnswer name held.type typeName? (some held) = .ok (some held.value) := by
  rw [typedAnswer, Instance.downcast?, if_pos rfl]

/-- An instance is refused as one of another type. -/
theorem typedAnswer_of_ne {name : String} {type : InstanceType} {held : Instance ν} (hne : held.type ≠ type)
    (typeName? : Option TypeName) :
    typedAnswer name type typeName? (some held) =
      .error (.typeMismatch name type.name (typeName?.getD "unknown")) := by
  rw [typedAnswer, Instance.downcast?, if_neg hne]

/-- Asks for the instance of a name as one of a type. -/
def requestAs (name : String) (type : InstanceType)
    (resume : Except RegistryError (Option ν) → Program ν) : Program ν :=
  .request name fun answer =>
    .observe fun outlines =>
      resume (answer.bind (typedAnswer name type ((outlines.get? name).map Outline.typeName)))

end Program

end Scaffold
