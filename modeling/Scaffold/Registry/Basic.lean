import Scaffold.Registry.Program

/-!
# Registries

A registry holds the subsystems of an app by name: an instance, an initializer that is run when the subsystem is first
asked for, or the mark that there is none.

## Main Definitions

* `Slot` — what is kept under a name
* `Entry` — what is registered under a name
* `Registry` — the entries, the constructions that are running, and what has happened
* `Registry.register` — adds an entry under a name that is not taken
* `Registry.outlines` — what is seen of each name from outside
* `Registry.start`, `Registry.finish` — the two ends of a construction
-/

namespace Scaffold

/-- What is kept under a name. -/
inductive Slot (ν : Type) where
  /-- An instance. -/
  | ready (held : Instance ν)
  /-- An initializer of instances of a type, with how often it has been started and the value that it has built. -/
  | deferred (type : InstanceType) (initializer : Nat → Program ν) (runs : Nat) (value? : Option ν)
  /-- The mark that there is nothing. -/
  | unavailable

namespace Slot

variable {ν : Type}

/-- The instance that is kept. -/
def held? : Slot ν → Option (Instance ν)
  | ready held => some held
  | deferred type _ _ value? => value?.map fun value => ⟨type, value⟩
  | unavailable => none

/-- What is known from outside. -/
def status : Slot ν → Status
  | ready _ => .ready
  | deferred _ _ _ value? => if value?.isSome then .ready else .pending
  | unavailable => .unavailable

/-- An initializer is started once more. -/
def started : Slot ν → Slot ν
  | deferred type initializer runs value? => deferred type initializer (runs + 1) value?
  | slot => slot

/-- An initializer has built a value, which is kept unless there is one already. -/
def filled (value : ν) : Slot ν → Slot ν
  | deferred type initializer runs value? =>
    deferred type initializer runs (some (value?.getD value))
  | slot => slot

end Slot

/-- What is registered under a name. -/
structure Entry (ν : Type) where
  /-- The name of the type that it was registered with. -/
  typeName : TypeName
  /-- What is kept under the name. -/
  slot : Slot ν

namespace Entry

variable {ν : Type}

/-- The entry of an instance. -/
def ofInstance (held : Instance ν) : Entry ν where
  typeName := held.type.name
  slot := .ready held

/-- The entry of an initializer that has not been started. -/
def ofInitializer (type : InstanceType) (initializer : Nat → Program ν) : Entry ν where
  typeName := type.name
  slot := .deferred type initializer 0 none

/-- The entry of a name that is unavailable. -/
def placeholder : Entry ν where
  typeName := "unavailable"
  slot := .unavailable

/-- What is seen of an entry from outside. -/
def outline (entry : Entry ν) : Outline where
  status := entry.slot.status
  typeName := entry.typeName

end Entry

/-- Something that has happened in a registry. -/
inductive Event (ν : Type) where
  /-- The initializer of a name was started. -/
  | started (name : String)
  /-- The initializer of a name has returned a value. -/
  | built (name : String) (value : ν)
  /-- The initializer of a name has failed. -/
  | failed (name : String)
  /-- An initializer has asked for a name, and has been given its instance, or told that there is none. -/
  | given (name : String) (held? : Option (Instance ν))
  /-- An initializer has asked for a name, and has been refused. -/
  | refused (name : String) (error : RegistryError)
  /-- An initializer has left a note. -/
  | note (text : String)
  deriving DecidableEq, Repr

/-- What has happened when an initializer that asked for a name is answered. -/
def Event.ofAnswer {ν : Type} (name : String) :
    Except RegistryError (Option (Instance ν)) → Event ν
  | .ok held? => given name held?
  | .error error => refused name error

/-- The text of a note. -/
def Event.note? {ν : Type} : Event ν → Option String
  | note text => some text
  | _ => none

/-- The subsystems of an app. -/
structure Registry (ν : Type) where
  /-- What is registered under each name. -/
  entries : NameMap (Entry ν) := ∅
  /-- The names under construction, innermost first. -/
  running : List String := []
  /-- What has happened, latest first. -/
  history : List (Event ν) := []

namespace Registry

variable {ν : Type}

instance : EmptyCollection (Registry ν) := ⟨{}⟩

instance : Inhabited (Registry ν) := ⟨∅⟩

/-! ### Looking -/

/-- What is registered under a name. -/
def registered? (registry : Registry ν) (name : String) : Option (Entry ν) :=
  registry.entries.get? name

/-- What is kept under a name. -/
def find? (registry : Registry ν) (name : String) : Option (Slot ν) :=
  (registry.registered? name).map Entry.slot

/-- The name of the type that a name is registered with. -/
def typeName? (registry : Registry ν) (name : String) : Option TypeName :=
  (registry.registered? name).map Entry.typeName

/-- Whether a name is registered. -/
def contains (registry : Registry ν) (name : String) : Bool :=
  registry.entries.contains name

theorem isSome_find? (registry : Registry ν) (name : String) :
    (registry.find? name).isSome = registry.contains name :=
  Option.isSome_map

/-- A name is registered when something is kept under it. -/
theorem contains_iff {registry : Registry ν} {name : String} :
    registry.contains name = true ↔ ∃ slot, registry.find? name = some slot := by
  rw [← isSome_find?, Option.isSome_iff_exists]

theorem contains_eq_false_iff {registry : Registry ν} {name : String} :
    registry.contains name = false ↔ registry.find? name = none := by
  rw [← isSome_find?, Option.isSome_eq_false_iff, Option.isNone_iff_eq_none]

theorem contains_iff_registered? {registry : Registry ν} {name : String} :
    registry.contains name = true ↔ ∃ entry, registry.registered? name = some entry :=
  Option.isSome_iff_exists

theorem registered?_eq_none_iff {registry : Registry ν} {name : String} :
    registry.registered? name = none ↔ registry.contains name = false :=
  Option.isNone_iff_eq_none.symm.trans Option.isSome_eq_false_iff.symm

/-- The registered names. -/
def names (registry : Registry ν) : NameSet :=
  registry.entries.names

/-- Number of registered names. -/
def size (registry : Registry ν) : Nat :=
  registry.entries.size

/-- What is seen of each name from outside. -/
def outlines (registry : Registry ν) : NameMap Outline :=
  registry.entries.map Entry.outline

/-- Of the type of a name, its registration is seen. -/
theorem map_typeName_outlines (registry : Registry ν) (name : String) :
    (registry.outlines.get? name).map Outline.typeName = registry.typeName? name := by
  rw [outlines, NameMap.get?_map, Option.map_map]
  rfl

/-- What is known of each name from outside, but for its type. -/
def statuses (registry : Registry ν) : NameMap Status :=
  registry.outlines.map Outline.status

/-- What is known of a name from outside, but for its type. -/
def status? (registry : Registry ν) (name : String) : Option Status :=
  (registry.find? name).map Slot.status

/-- Whether a name has an instance. -/
def isInitialized (registry : Registry ν) (name : String) : Bool :=
  registry.status? name == some .ready

/-- Whether a name is registered as unavailable. -/
def isUnavailable (registry : Registry ν) (name : String) : Bool :=
  registry.status? name == some .unavailable

/-- The notes left since an earlier state, in order. -/
def notesSince (registry earlier : Registry ν) : List String :=
  ((registry.history.take (registry.history.length - earlier.history.length)).reverse).filterMap
    Event.note?

/-! ### Registering -/

/-- Adds an entry under a name that is not taken. -/
def register (registry : Registry ν) (name : String) (entry : Entry ν) :
    Except RegistryError (Registry ν) :=
  if registry.contains name then .error (.alreadyRegistered name)
  else .ok { registry with entries := registry.entries.insert name entry }

/-- A name that is not taken is not refused. -/
theorem exists_register {registry : Registry ν} {name : String} (free : registry.contains name = false)
    (entry : Entry ν) : ∃ after, registry.register name entry = .ok after := by
  unfold register
  rw [free]
  exact ⟨_, rfl⟩

/-- An entry is found under its name from then on, and no other name is disturbed. -/
theorem registered?_register {registry after : Registry ν} {name : String} {entry : Entry ν}
    (h : registry.register name entry = .ok after) (other : String) :
    after.registered? other = if other = name then some entry else registry.registered? other := by
  unfold register at h
  split at h
  · cases h
  · cases h
    exact NameMap.get?_insert

theorem find?_register {registry after : Registry ν} {name : String} {entry : Entry ν}
    (h : registry.register name entry = .ok after) (other : String) :
    after.find? other = if other = name then some entry.slot else registry.find? other := by
  rw [find?, registered?_register h, apply_ite (Option.map Entry.slot)]
  rfl

theorem typeName?_register {registry after : Registry ν} {name : String} {entry : Entry ν}
    (h : registry.register name entry = .ok after) (other : String) :
    after.typeName? other = if other = name then some entry.typeName else registry.typeName? other := by
  rw [typeName?, registered?_register h, apply_ite (Option.map Entry.typeName)]
  rfl

/-- Registers an instance. -/
def registerInstance (registry : Registry ν) (name : String) (held : Instance ν) :
    Except RegistryError (Registry ν) :=
  registry.register name (.ofInstance held)

/-- Registers an initializer. -/
def registerDeferred (registry : Registry ν) (name : String) (type : InstanceType)
    (initializer : Nat → Program ν) : Except RegistryError (Registry ν) :=
  registry.register name (.ofInitializer type initializer)

/-- Registers a name that is unavailable. -/
def registerUnavailable (registry : Registry ν) (name : String) :
    Except RegistryError (Registry ν) :=
  registry.register name .placeholder

/-! ### Constructing -/

/-- Adds to the history. -/
def record (registry : Registry ν) (event : Event ν) : Registry ν :=
  { registry with history := event :: registry.history }

/-- Changes what is kept under a name. -/
def update (registry : Registry ν) (name : String) (change : Slot ν → Slot ν) : Registry ν :=
  match registry.registered? name with
  | none => registry
  | some entry =>
    { registry with entries := registry.entries.insert name { entry with slot := change entry.slot } }

/-- A change reaches what is kept under its name alone. -/
theorem registered?_update (registry : Registry ν) (name : String) (change : Slot ν → Slot ν) (other : String) :
    (registry.update name change).registered? other =
      if other = name then (registry.registered? name).map fun entry => { entry with slot := change entry.slot }
      else registry.registered? other := by
  unfold update
  split
  · next h =>
    split
    · next heq => rw [heq, h]; rfl
    · rfl
  · next entry h => rw [h]; exact NameMap.get?_insert

theorem find?_update (registry : Registry ν) (name : String) (change : Slot ν → Slot ν) (other : String) :
    (registry.update name change).find? other =
      if other = name then (registry.find? name).map change else registry.find? other := by
  rw [find?, registered?_update, apply_ite (Option.map Entry.slot), Option.map_map, find?, Option.map_map]
  rfl

/-- The type that a name is registered with is not changed. -/
theorem typeName?_update (registry : Registry ν) (name : String) (change : Slot ν → Slot ν) (other : String) :
    (registry.update name change).typeName? other = registry.typeName? other := by
  rw [typeName?, registered?_update, apply_ite (Option.map Entry.typeName), Option.map_map]
  split
  · next heq => rw [heq]; rfl
  · rfl

/-- The registry when the initializer of a name is started. -/
def start (registry : Registry ν) (name : String) : Registry ν :=
  let counted := registry.update name Slot.started
  { counted.record (.started name) with running := name :: counted.running }

/-- The instance of a name. -/
def held? (registry : Registry ν) (name : String) : Option (Instance ν) :=
  (registry.find? name).bind Slot.held?

/-- The registry when the construction of a name is over. -/
def release (registry : Registry ν) (name : String) : Registry ν :=
  { registry with running := registry.running.erase name }

/-- What comes of the result of an initializer: its value is kept, unless there is one already, and
its failure is put down to the name. -/
def finish (registry : Registry ν) (name : String) :
    Except RegistryError ν → Except RegistryError ν × Registry ν
  | .ok value =>
    let kept := ((registry.held? name).map Instance.value).getD value
    (.ok kept, ((registry.update name (Slot.filled kept)).record (.built name value)).release name)
  | .error error =>
    (.error (error.within name), (registry.record (.failed name)).release name)

end Registry

end Scaffold
