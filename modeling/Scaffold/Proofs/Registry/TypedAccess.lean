import Scaffold.Proofs.Registry.Attribution

/-!
# Requests for an instance of a type

A request may be for the instance of a name as one of a type.  The type plays no part in the construction: the instance
is asked for as it is, and only then is its type compared with the one that is wanted.  So whatever type is asked for,
the registry is afterwards what it would be if none had been, and an instance that has been built for a request which
is refused stays for the next one.

The type of the instance decides, and a refusal tells names of types: that of the type which is wanted, and the one
that was recorded when the name was registered, which is looked up when the request is over.  That what is recorded is
the name of the type of the instance is an invariant: the registration settles it, and a construction fills in an
instance of the type that its initializer was registered with.  Types are not told apart by their names, so that a
refusal may tell one name twice.

## Main Definitions

* `Registry.registeredType?` — the type of the instances that a name is registered for
* `Registry.WellNamed` — the invariant
* `Registry.TypeSafe` — what requests for instances of types do

## Main Statements

* `Registry.registeredType?_of_changes` — a name keeps the type that it is registered for
* `Registry.Change.wellNamed` — a change keeps the invariant
* `Registry.Consistent.answer?_of_getAny` — what a request has been answered stays the answer
* `Registry.typed_access` — requests for instances of types, in every registry that may come about
-/

namespace Scaffold

open Relation

variable {ν : Type}

/-! ### Types of slots -/

/-- The type of the instances that are kept, or that an initializer builds. -/
def Slot.type? : Slot ν → Option InstanceType
  | ready held => some held.type
  | deferred type _ _ _ => some type
  | unavailable => none

theorem Slot.typeName_of_type? {slot : Slot ν} {type : InstanceType} (h : slot.type? = some type) :
    slot.typeName = type.name := by
  cases slot with
  | ready held => cases h; rfl
  | deferred _ initializer runs value? => cases h; rfl
  | unavailable => cases h

@[simp]
theorem Slot.typeName_started (slot : Slot ν) : slot.started.typeName = slot.typeName := by
  cases slot <;> rfl

@[simp]
theorem Slot.typeName_filled (value : ν) (slot : Slot ν) : (slot.filled value).typeName = slot.typeName := by
  cases slot <;> rfl

/-- What is kept stays of its type. -/
theorem Slot.Becomes.type?_eq {a b : Slot ν} (h : a.Becomes b) : b.type? = a.type? := by
  cases h with
  | same => rfl
  | pending le value? => rfl

namespace Registry

variable {registry registered after later : Registry ν} {name : String} {base : List String} {depth : Nat}

/-! ### Registered types -/

/-- The type of the instances that a name is registered for. -/
def registeredType? (registry : Registry ν) (name : String) : Option InstanceType :=
  (registry.find? name).bind Slot.type?

/-- A name keeps the type that it is registered for. -/
theorem registeredType?_of_changes (h : registry.Consistent) (changes : ReflTransGen (Change base) registry after)
    {type : InstanceType} (htype : registry.registeredType? name = some type) :
    after.registeredType? name = some type := by
  obtain ⟨slot, hfind, hslot⟩ := Option.bind_eq_some_iff.1 htype
  obtain ⟨slot', hfind', hbecomes⟩ := becomes_of_changes h changes hfind
  rw [registeredType?, hfind', Option.bind_some, hbecomes.type?_eq, hslot]

/-- A registration settles the type of its name. -/
theorem registeredType?_of_register {entry : Entry ν} (h : registry.register name entry = .ok registered) :
    registered.registeredType? name = entry.slot.type? := by
  rw [registeredType?, find?_register h, if_pos rfl]
  rfl

/-- What a request is answered at once is of the type that its name is registered for. -/
theorem registeredType?_of_answer? {held : Instance ν} (h : registry.answer? name = some (some held)) :
    registry.registeredType? name = some held.type := by
  unfold answer? at h
  split at h
  · next hready => cases h; rw [registeredType?, hready]; rfl
  · cases h
  · next hbuilt => cases h; rw [registeredType?, hbuilt]; rfl
  · cases h
  · cases h

theorem isUnavailable_iff : registry.isUnavailable name = true ↔ registry.find? name = some .unavailable := by
  rw [isUnavailable, beq_iff_eq, status?, Option.map_eq_some_iff]
  constructor
  · rintro ⟨slot, hfind, hstatus⟩
    cases slot with
    | unavailable => exact hfind
    | ready held => cases hstatus
    | deferred type initializer runs value? => cases value? <;> cases hstatus
  · intro hfind
    exact ⟨.unavailable, hfind, rfl⟩

/-- What a request has been answered is the answer from then on: if an initializer has built it, it is kept. -/
theorem Consistent.answer?_of_getAny (h : registry.Consistent) {held? : Option (Instance ν)}
    (got : getAny depth name registry = some (.ok held?, after)) : after.answer? name = some held? := by
  obtain ⟨type, initializer, runs, hpending, hidle⟩ | hbusy := pending_or_not_idle registry name
  · cases depth with
    | zero =>
      rw [getAny_zero_of_pending hpending hidle] at got
      cases got
    | succ depth =>
      obtain ⟨result, inside, -, -, hanswer, hfind⟩ := h.constructs hpending hidle got
      cases result with
      | error error => cases hanswer
      | ok value =>
        cases hanswer
        rw [answer?, hfind]
        rfl
  · rw [getAny_of_not_idle hbusy] at got
    obtain ⟨himmediate, rfl⟩ := Prod.ext_iff.1 (Option.some.inj got)
    replace himmediate : registry.immediate name = .ok held? := himmediate
    rw [immediate] at himmediate
    rw [answer?]
    split at himmediate
    · cases himmediate
    · next hfind => cases himmediate; rw [hfind]
    · next hfind => cases himmediate; rw [hfind]
    · next hfind => cases himmediate; rw [hfind]
    · cases himmediate

/-- An instance is of the type that its name was registered for, also when it has been built for the request. -/
theorem Consistent.registeredType?_of_getAny (h : registry.Consistent) {held : Instance ν}
    (got : getAny depth name registry = some (.ok (some held), after)) :
    registry.registeredType? name = some held.type ∧ after.registeredType? name = some held.type := by
  have hafter := registeredType?_of_answer? (h.answer?_of_getAny got)
  have hcontains : registry.contains name = true := by
    by_contra habsent
    obtain ⟨other, _, hrefused⟩ := getAny_eq_notRegistered_iff.2 (Bool.eq_false_iff.2 habsent)
    cases got.symm.trans hrefused
  obtain ⟨slot, hfind⟩ := contains_iff.1 hcontains
  -- Nothing else becomes of what is kept, so that it has been of this type before.
  obtain ⟨slot', hfind', hbecomes⟩ := becomes_of_changes h (changes_getAny got).steps hfind
  refine ⟨?_, hafter⟩
  rw [registeredType?, hfind', Option.bind_some, hbecomes.type?_eq] at hafter
  rw [registeredType?, hfind, Option.bind_some, hafter]

/-! ### Recorded names -/

/-- What is recorded of each type is its name. -/
def WellNamed (registry : Registry ν) : Prop :=
  ∀ name entry, registry.registered? name = some entry → entry.typeName = entry.slot.typeName

theorem wellNamed_empty : WellNamed (∅ : Registry ν) :=
  fun _ _ h => nomatch h

/-- The type that is recorded under a name is the one of its instances. -/
theorem WellNamed.typeName?_eq (h : registry.WellNamed) {type : InstanceType}
    (htype : registry.registeredType? name = some type) : registry.typeName? name = some type.name := by
  obtain ⟨slot, hfind, hslot⟩ := Option.bind_eq_some_iff.1 htype
  obtain ⟨entry, hentry, rfl⟩ := Option.map_eq_some_iff.1 hfind
  rw [typeName?, hentry, Option.map_some, h name entry hentry, Slot.typeName_of_type? hslot]

/-- The invariant is kept when what is kept under a name changes, but not its type. -/
theorem WellNamed.update (h : registry.WellNamed) {change : Slot ν → Slot ν}
    (same : ∀ slot, (change slot).typeName = slot.typeName) : (registry.update name change).WellNamed := by
  intro other entry hentry
  rw [registered?_update] at hentry
  split at hentry
  · obtain ⟨entry', hentry', rfl⟩ := Option.map_eq_some_iff.1 hentry
    exact (h name entry' hentry').trans (same entry'.slot).symm
  · exact h other entry hentry

/-- A change keeps the invariant. -/
theorem Change.wellNamed (h : registry.WellNamed) (change : Change base registry after) : after.WellNamed := by
  cases change with
  | register fresh registered =>
    intro other entry hentry
    rw [registered?_register registered] at hentry
    split at hentry
    · cases hentry
      exact fresh.named
    · exact h other entry hentry
  | record aside => exact h
  | start pending idle => exact h.update Slot.typeName_started
  | finish innermost above result =>
    cases result with
    | error error => exact h
    | ok value => exact h.update (Slot.typeName_filled _)

theorem wellNamed_of_changes (h : registry.WellNamed) (changes : ReflTransGen (Change base) registry after) :
    after.WellNamed := by
  induction changes with
  | refl => exact h
  | tail _ change ih => exact Change.wellNamed ih change

/-! ### Typed requests -/

/-- An instance is given out as one of its own type. -/
theorem get_of_getAny {held : Instance ν} (got : getAny depth name registry = some (.ok (some held), after)) :
    get depth name held.type registry = some (.ok (some held.value), after) := by
  rw [get, got]
  exact congrArg (fun answer => some (answer, after)) (Program.typedAnswer_self name held _)

/-- An instance is refused as one of another type, with the name that is recorded. -/
theorem get_of_getAny_of_ne {held : Instance ν} {type : InstanceType} {typeName : TypeName}
    (got : getAny depth name registry = some (.ok (some held), after)) (hne : held.type ≠ type)
    (recorded : after.typeName? name = some typeName) :
    get depth name type registry = some (.error (.typeMismatch name type.name typeName), after) := by
  rw [get, got]
  dsimp only
  rw [recorded]
  exact congrArg (fun answer => some (answer, after)) (Program.typedAnswer_of_ne hne _)

/-- What requests for the instance of a name as one of a type do, next to requests for the instance. -/
structure TypeSafe (registry : Registry ν) (name : String) : Prop where
  /-- The type makes no difference to the registry afterwards. -/
  state : ∀ depth type other,
    (get depth name type registry).map Prod.snd = (get depth name other registry).map Prod.snd ∧
      (get depth name type registry).map Prod.snd = (getAny depth name registry).map Prod.snd
  /-- A request is refused for its type when there is an instance and its name is registered for another type, and then
  only.  The refusal tells the names of both. -/
  refused : ∀ depth type other expected actual after,
    get depth name type registry = some (.error (.typeMismatch other expected actual), after) ↔
      ∃ held registered, getAny depth name registry = some (.ok (some held), after) ∧
        registry.registeredType? name = some registered ∧ registered ≠ type ∧
        other = name ∧ expected = type.name ∧ actual = registered.name
  /-- The type that a refusal tells is recorded under the name, before the request and when it is over. -/
  recorded : ∀ depth type other expected actual after,
    get depth name type registry = some (.error (.typeMismatch other expected actual), after) →
      registry.typeName? name = some actual ∧ after.typeName? name = some actual
  /-- An instance that a refused request has come by is given out as one of its own type from then on, and nothing is
  constructed for it. -/
  kept : ∀ depth type other expected actual after,
    get depth name type registry = some (.error (.typeMismatch other expected actual), after) →
      ∃ registered value, registry.registeredType? name = some registered ∧
        getAny depth name registry = some (.ok (some ⟨registered, value⟩), after) ∧
        ∀ later, ReflTransGen Use after later → ∀ depth',
          get depth' name registered later = some (.ok (some value), later)
  /-- An unavailable name has no instance of any type. -/
  unavailable : registry.isUnavailable name = true → ∀ depth type,
    get depth name type registry = some (.ok none, registry)
  /-- An initializer that asks for an instance of a type goes on with the answer to that request. -/
  nested : ∀ depth type answer after, get depth name type registry = some (answer, after) →
    ∃ untyped, getAny depth name registry = some (untyped, after) ∧
      ∀ resume : Except RegistryError (Option ν) → Program ν,
        run (getAny depth) (.requestAs name type resume) registry =
          run (getAny depth) (resume answer) (after.record (.ofAnswer name untyped))

/-- A request for an instance of a type leaves the registry as a request for the instance does. -/
theorem map_snd_get (depth : Nat) (name : String) (type : InstanceType) (registry : Registry ν) :
    (get depth name type registry).map Prod.snd = (getAny depth name registry).map Prod.snd := by
  rw [get]
  cases getAny depth name registry <;> rfl

/-- A request that is refused for its type has come by an instance of another type. -/
theorem getAny_of_get_eq_typeMismatch {type : InstanceType} {other : String} {expected actual : TypeName}
    (h : get depth name type registry = some (.error (.typeMismatch other expected actual), after)) :
    ∃ held, getAny depth name registry = some (.ok (some held), after) ∧ held.type ≠ type := by
  obtain hany | ⟨held, hany, hne, -⟩ := get_eq_error h
  · obtain ⟨-, habsent⟩ | ⟨-, hreentrant | ⟨cause, hfailed⟩⟩ := getAny_eq_error hany
    · cases habsent
    · cases hreentrant
    · cases hfailed
  · exact ⟨held, hany, hne⟩

/-- The refusal of an instance tells the names of the type that is wanted and of its own. -/
theorem Consistent.get_eq_typeMismatch (h : registry.Consistent) (wellNamed : registry.WellNamed) {held : Instance ν}
    {type : InstanceType} (got : getAny depth name registry = some (.ok (some held), after)) (hne : held.type ≠ type) :
    after.typeName? name = some held.type.name ∧
      get depth name type registry = some (.error (.typeMismatch name type.name held.type.name), after) := by
  have hafter := wellNamed_of_changes wellNamed (changes_getAny got).steps
  have hrecorded := hafter.typeName?_eq (h.registeredType?_of_getAny got).2
  exact ⟨hrecorded, get_of_getAny_of_ne got hne hrecorded⟩

theorem Consistent.typeSafe (h : registry.Consistent) (wellNamed : registry.WellNamed) (name : String) :
    registry.TypeSafe name := by
  constructor
  case state =>
    intro depth type other
    rw [map_snd_get, map_snd_get]
    exact ⟨rfl, rfl⟩
  case refused =>
    intro depth type other expected actual after
    constructor
    · intro hget
      obtain ⟨held, hany, hne⟩ := getAny_of_get_eq_typeMismatch hget
      cases hget.symm.trans (h.get_eq_typeMismatch wellNamed hany hne).2
      exact ⟨held, held.type, hany, (h.registeredType?_of_getAny hany).1, hne, rfl, rfl, rfl⟩
    · rintro ⟨held, registered, hany, hregistered, hne, rfl, rfl, rfl⟩
      obtain rfl : held.type = registered :=
        Option.some.inj ((h.registeredType?_of_getAny hany).1.symm.trans hregistered)
      exact (h.get_eq_typeMismatch wellNamed hany hne).2
  case recorded =>
    intro depth type other expected actual after hget
    obtain ⟨held, hany, hne⟩ := getAny_of_get_eq_typeMismatch hget
    obtain ⟨hrecorded, hmismatch⟩ := h.get_eq_typeMismatch wellNamed hany hne
    cases hget.symm.trans hmismatch
    exact ⟨wellNamed.typeName?_eq (h.registeredType?_of_getAny hany).1, hrecorded⟩
  case kept =>
    intro depth type other expected actual after hget
    obtain ⟨held, hany, -⟩ := getAny_of_get_eq_typeMismatch hget
    refine ⟨held.type, held.value, (h.registeredType?_of_getAny hany).1, hany, fun later uses depth' => ?_⟩
    have hafter : after.Consistent := consistent_of_changes h (changes_getAny hany).steps
    have hanswer := answer?_of_changes hafter (changes_of_uses uses) (h.answer?_of_getAny hany)
    exact get_of_getAny (getAny_of_answer? hanswer depth')
  case unavailable =>
    intro hunavailable depth type
    rw [get, getAny, isUnavailable_iff.1 hunavailable]
    rfl
  case nested =>
    intro depth type answer after hget
    obtain ⟨untyped, hany, rfl⟩ := exists_getAny_of_get hget
    refine ⟨untyped, hany, fun resume => ?_⟩
    rw [Program.requestAs, run, hany]
    dsimp only
    rw [run, map_typeName_outlines]
    rfl

/-- What is registered for a type stays registered for it, and the name of the type stays recorded. -/
theorem Consistent.registeredType?_of_uses (h : registry.Consistent) (wellNamed : registry.WellNamed)
    {entry : Entry ν} (fresh : entry.Fresh) {type : InstanceType} (htype : entry.slot.type? = some type)
    (hregister : registry.register name entry = .ok registered) (uses : ReflTransGen Use registered later) :
    later.registeredType? name = some type ∧ later.typeName? name = some type.name := by
  have hchanges := changes_of_uses uses
  have hsettled := (registeredType?_of_register hregister).trans htype
  have hlater := registeredType?_of_changes (Change.consistent_register h fresh hregister) hchanges hsettled
  have hregistered : registered.WellNamed :=
    wellNamed_of_changes wellNamed (changes_register fresh hregister).steps
  exact ⟨hlater, (wellNamed_of_changes hregistered hchanges).typeName?_eq hlater⟩

/-- In every registry that may come about, outside or inside initializers, the type that is asked for makes no
difference to the registry.  An instance is refused as one of any type but the one that its name was registered for,
and is given out as one of that type from then on, without being built again.  The name of that type is recorded for
good.  A name that is registered as unavailable has no instance of any type. -/
theorem typed_access (reachable : ReflTransGen Use ∅ registry) :
    (∀ name, registry.TypeSafe name) ∧
    (∀ name held registered later, registry.registerInstance name held = .ok registered →
      ReflTransGen Use registered later →
        later.registeredType? name = some held.type ∧ later.typeName? name = some held.type.name) ∧
    (∀ name type initializer registered later, registry.registerDeferred name type initializer = .ok registered →
      ReflTransGen Use registered later →
        later.registeredType? name = some type ∧ later.typeName? name = some type.name) ∧
    ∀ name registered later, registry.registerUnavailable name = .ok registered →
      ReflTransGen Use registered later → later.isUnavailable name = true := by
  have hconsistent : registry.Consistent := consistent_of_changes consistent_empty (changes_of_uses reachable)
  have hwellNamed : registry.WellNamed := wellNamed_of_changes wellNamed_empty (changes_of_uses reachable)
  refine ⟨hconsistent.typeSafe hwellNamed, ?_, ?_, ?_⟩
  · intro name held registered later
    exact hconsistent.registeredType?_of_uses hwellNamed (Entry.fresh_ofInstance held) rfl
  · intro name type initializer registered later
    exact hconsistent.registeredType?_of_uses hwellNamed (Entry.fresh_ofInitializer type initializer) rfl
  · intro name registered later hregister uses
    have hregistered := Change.consistent_register hconsistent Entry.fresh_placeholder hregister
    have hfind : registered.find? name = some .unavailable := by rw [find?_register hregister, if_pos rfl]; rfl
    obtain ⟨slot', hfind', hbecomes⟩ := becomes_of_changes hregistered (changes_of_uses uses) hfind
    cases hbecomes
    exact isUnavailable_iff.2 hfind'

/-! ### A name that is first asked for as something else -/

/-- A registry of one initializer. -/
def lone : Registry Nat where
  entries := NameMap.ofList [("base", .ofInitializer "Base" .done)]

/-- The request that is refused runs the initializer, and no later request does. -/
theorem typed_access_lone :
    ReflTransGen Use ∅ lone ∧
      ∃ after, get 1 "base" "Ui" lone = some (.error (.typeMismatch "base" "Ui" "Base"), after) ∧
        after.typeName? "base" = some "Base" ∧
        ∀ depth, get depth "base" "Base" after = some (.ok (some 1), after) := by
  have hbase : (∅ : Registry Nat).registerDeferred "base" "Base" .done = .ok lone := rfl
  have hreachable : ReflTransGen Use ∅ lone := .single (.operation (.registerDeferred hbase))
  obtain ⟨hsafe, -⟩ := typed_access hreachable
  have hany : getAny 1 "base" lone = some (.ok (some ⟨"Base", 1⟩),
      { entries := NameMap.ofList [("base", ⟨"Base", .deferred "Base" .done 1 (some 1)⟩)]
        history := [.built "base" 1, .started "base"] }) := rfl
  have hrefused := ((hsafe "base").refused 1 "Ui" "base" "Ui" "Base" _).2
    ⟨_, "Base", hany, rfl, by decide, rfl, rfl, rfl⟩
  obtain ⟨-, hrecorded⟩ := (hsafe "base").recorded _ _ _ _ _ _ hrefused
  refine ⟨hreachable, _, hrefused, hrecorded, fun depth => ?_⟩
  obtain ⟨registered, value, hregistered, hvalue, hgiven⟩ := (hsafe "base").kept _ _ _ _ _ _ hrefused
  obtain rfl : ({ name := "Base" } : InstanceType) = registered := Option.some.inj hregistered
  obtain rfl : value = 1 := by
    have hanswer := congrArg Prod.fst (Option.some.inj (hvalue.symm.trans hany))
    simpa using hanswer
  exact hgiven _ .refl depth

/-! ### Two types of one name -/

/-- A registry of one instance. -/
def audible : Registry Nat where
  entries := NameMap.ofList [("audio", .ofInstance ⟨"Audio", 3⟩)]

/-- Asked for as one of another type with the name of its own, an instance is refused as well, and the refusal tells
that name twice. -/
theorem get_namesake :
    ReflTransGen Use ∅ audible ∧ audible.registeredType? "audio" = some { name := "Audio" } ∧
      getAny 0 "audio" audible = some (.ok (some ⟨"Audio", 3⟩), audible) ∧
      get 0 "audio" { name := "Audio", index := 1 } audible =
        some (.error (.typeMismatch "audio" "Audio" "Audio"), audible) := by
  have haudio : (∅ : Registry Nat).registerInstance "audio" ⟨"Audio", 3⟩ = .ok audible := rfl
  exact ⟨.single (.operation (.registerInstance haudio)), rfl, rfl, rfl⟩

end Registry

end Scaffold
