import Mathlib.Order.WellFoundedSet
import Scaffold.Proofs.Registry.Nesting

/-!
# Registries of recipes

An initializer follows a recipe when it asks for certain names in turn and, if it gets all of them, combines what it has
been given.  If no name needs itself, directly or through others, the recipes of a registry give each of its names one
instance that it can have at all: the recipes are equations for the values, and they have a solution by recursion along
the needs.

The recursion has to be justified by the needs alone.  They are a relation on the names that are registered, which are
finitely many, so that without a circle there is no endless descent.

## Main Definitions

* `Program.Gathers` — an initializer that follows a recipe
* `Recipes` — what is needed for each name, and what is made of it
* `Registry.Lazy` — a registry whose initializers follow recipes and have built nothing
* `Registry.eventual` — the instances that names have once their initializers have built certain values
* `Registry.gathered` — one step of the recursion

## Main Statements

* `Registry.Lazy.wellFounded` — there is no endless descent along the needs
* `Registry.Lazy.exists_values` — the values that the recipes ask for
-/

namespace Scaffold

open Relation

variable {ν : Type}

/-- An initializer that asks for names in turn and returns a function of the answers, if it is refused nothing.  In
between it may leave notes and look at what is registered. -/
inductive Program.Gathers :
    List String → (List (Option (Instance ν)) → ν) → Program ν → Prop where
  /-- It has all that it needs. -/
  | done {combine : List (Option (Instance ν)) → ν} : Gathers [] combine (.done (combine []))
  /-- It asks for the next name, and goes on with the answer. -/
  | request {name : String} {names : List String} {combine : List (Option (Instance ν)) → ν}
      {resume : Except RegistryError (Option (Instance ν)) → Program ν}
      (next : ∀ held?, Gathers names (fun rest => combine (held? :: rest)) (resume (.ok held?))) :
      Gathers (name :: names) combine (.request name resume)
  /-- It looks at what is registered. -/
  | observe {names : List String} {combine : List (Option (Instance ν)) → ν}
      {resume : NameMap Outline → Program ν} (next : ∀ outlines, Gathers names combine (resume outlines)) :
      Gathers names combine (.observe resume)
  /-- It leaves a note. -/
  | note {names : List String} {combine : List (Option (Instance ν)) → ν} {text : String}
      {program : Program ν} (next : Gathers names combine program) :
      Gathers names combine (.note text program)

/-- What the initializers of names ask for, and what they make of it. -/
structure Recipes (ν : Type) where
  /-- The names that the initializer of a name asks for, in turn. -/
  needs : String → List String
  /-- The value that it builds from the answers; an unavailable name has no instance. -/
  combine : String → List (Option (Instance ν)) → ν

namespace Registry

variable {registry : Registry ν} {recipes : Recipes ν} {name other : String}

/-- Whether the initializer of a name asks for another one. -/
def Needs (registry : Registry ν) (recipes : Recipes ν) (name other : String) : Prop :=
  name ∈ registry.deferredNames ∧ other ∈ recipes.needs name

instance (name other : String) : Decidable (registry.Needs recipes name other) :=
  inferInstanceAs (Decidable (name ∈ registry.deferredNames ∧ other ∈ recipes.needs name))

/-- A registry whose initializers follow recipes without circles.  Nothing has been built by them yet. -/
structure Lazy (registry : Registry ν) (recipes : Recipes ν) : Prop where
  /-- No construction is running. -/
  idle : registry.running = []
  /-- Each initializer has built nothing, and follows its recipe when it is run next. -/
  gathers : ∀ name type initializer runs value?,
    registry.find? name = some (.deferred type initializer runs value?) →
      value? = none ∧
        (initializer (runs + 1)).Gathers (recipes.needs name) (recipes.combine name)
  /-- All names that are needed are registered. -/
  known : ∀ name other, registry.Needs recipes name other → registry.contains other = true
  /-- No name needs itself, directly or through others. -/
  acyclic : ∀ name, ¬TransGen (registry.Needs recipes) name name

/-- The instance that a name has when its initializer, if it has one, has built a given value. -/
def eventual (registry : Registry ν) (values : String → ν) (name : String) : Option (Instance ν) :=
  match registry.find? name with
  | some (.ready held) => some held
  | some (.deferred type _ _ _) => some ⟨type, values name⟩
  | some .unavailable => none
  | none => none

/-- Where no initializer is concerned, the values are none of it. -/
theorem eventual_congr {values values' : String → ν}
    (h : name ∈ registry.deferredNames → values name = values' name) :
    registry.eventual values name = registry.eventual values' name := by
  unfold eventual
  split
  · rfl
  · next type initializer runs value? hfind =>
    rw [h (mem_deferredNames_of_find? hfind)]
  · rfl
  · rfl

theorem contains_of_mem_deferredNames (h : name ∈ registry.deferredNames) :
    registry.contains name = true := by
  obtain ⟨type, initializer, runs, value?, hfind⟩ := mem_deferredNames.1 h
  exact contains_iff.2 ⟨_, hfind⟩

/-- What the recipe of a name makes of the instances that it needs, by the values of the names that it needs. -/
def gathered (registry : Registry ν) (recipes : Recipes ν) (name : String)
    (earlier : (other : String) → registry.Needs recipes name other → ν) : ν :=
  recipes.combine name <| (recipes.needs name).map <| registry.eventual fun other =>
    if needs : registry.Needs recipes name other then earlier other needs else recipes.combine other []

namespace Lazy

variable (lazy : registry.Lazy recipes)

include lazy

/-- A name with an initializer is pending, and its initializer follows its recipe. -/
theorem pending (h : name ∈ registry.deferredNames) :
    ∃ type initializer runs, registry.find? name = some (.deferred type initializer runs none) ∧
      (initializer (runs + 1)).Gathers (recipes.needs name) (recipes.combine name) := by
  obtain ⟨type, initializer, runs, value?, hfind⟩ := mem_deferredNames.1 h
  obtain ⟨rfl, hgathers⟩ := lazy.gathers name type initializer runs value? hfind
  exact ⟨type, initializer, runs, hfind, hgathers⟩

/-- What is needed comes before what it is needed for, and there is no endless descent. -/
theorem wellFounded : WellFounded fun other name => registry.Needs recipes name other := by
  have hfinite : {name | name ∈ registry.names.toList}.Finite := List.finite_toSet registry.names.toList
  have horder : IsStrictOrder String fun other name => TransGen (registry.Needs recipes) name other :=
    { irrefl := lazy.acyclic
      trans := fun _ _ _ first second => second.trans first }
  have hwf := Set.wellFoundedOn_iff.1
    (hfinite.wellFoundedOn (r := fun other name => TransGen (registry.Needs recipes) name other))
  refine Subrelation.wf ?_ hwf
  intro other name needs
  refine ⟨.single needs, ?_, ?_⟩
  · exact NameMap.contains_iff.1 (lazy.known name other needs)
  · exact NameMap.contains_iff.1 (contains_of_mem_deferredNames needs.1)

/-- There are values of which each is what its recipe makes of the instances of the names that it needs. -/
theorem exists_values : ∃ values : String → ν, ∀ name ∈ registry.deferredNames,
    values name = recipes.combine name ((recipes.needs name).map (registry.eventual values)) := by
  refine ⟨lazy.wellFounded.fix (registry.gathered recipes), fun name hname => ?_⟩
  rw [lazy.wellFounded.fix_eq, gathered]
  refine congrArg (recipes.combine name) (List.map_congr_left fun other hother => ?_)
  apply eventual_congr
  intro _
  exact dif_pos ⟨hname, hother⟩

end Lazy

end Registry

end Scaffold
