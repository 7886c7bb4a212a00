import Scaffold.Proofs.Registry.Change

/-!
# What lasts in a registry

A registered name keeps its entry.  An initializer may be run again as long as it has failed; once it has returned
a value it is never run again, and that value is the instance of its name from then on.

The history of a registry and its entries are tied together by one invariant: the values that an initializer has
returned, by the history, are the one that its entry holds.  A name under construction holds none, and nothing
that happens above its construction reaches its entry, so that the value which its initializer returns in the
end is the first.

## Main Definitions

* `Slot.Becomes`, `Entry.Becomes` — what may become of what is kept under a name, and of its entry
* `Registry.Consistent` — the invariant
* `Registry.Use` — what may be done with a registry, from outside or by a running initializer
* `Registry.Lasts` — what a registry has for good

## Main Statements

* `Registry.Change.consistent` — a change keeps the invariant
* `Registry.Change.frame` — constructions above a running one leave its entry alone
* `Registry.lasts_of_uses` — whatever is done with a registry, in any number of steps
-/

namespace Scaffold

open Relation

variable {ν : Type}

/-- The value that the initializer of a name has returned. -/
def Event.builtValue? (name : String) : Event ν → Option ν
  | built owner value => if owner = name then some value else none
  | _ => none

theorem Event.builtValue?_eq_none {name : String} {event : Event ν}
    (h : event.constructed? ≠ some name) : event.builtValue? name = none := by
  cases event with
  | built owner value => exact if_neg fun howner => h (congrArg some howner)
  | _ => rfl

/-- What may become of what is kept: an initializer that has built no value may be started again, and may build
one.  Nothing else changes. -/
inductive Slot.Becomes : Slot ν → Slot ν → Prop where
  /-- Nothing has changed. -/
  | same (slot : Slot ν) : Becomes slot slot
  /-- An initializer had built no value. -/
  | pending {type : InstanceType} {initializer : Nat → Program ν} {runs runs' : Nat} (le : runs ≤ runs')
      (value? : Option ν) :
      Becomes (deferred type initializer runs none) (deferred type initializer runs' value?)

theorem Slot.Becomes.trans {a b c : Slot ν} (h : a.Becomes b) (h' : b.Becomes c) : a.Becomes c := by
  cases h with
  | same => exact h'
  | pending le value? =>
    cases h' with
    | same => exact .pending le value?
    | pending le' value?' => exact .pending (Nat.le_trans le le') value?'

/-- A value that an initializer has built stays. -/
theorem Slot.Becomes.eq_of_built {type : InstanceType} {initializer : Nat → Program ν} {runs : Nat}
    {value : ν} {slot : Slot ν} (h : (deferred type initializer runs (some value)).Becomes slot) :
    slot = deferred type initializer runs (some value) := by
  cases h
  rfl

/-- Where there was an instance there is one. -/
theorem Slot.Becomes.ready {a b : Slot ν} (h : a.Becomes b) (hready : a.status = .ready) :
    b.status = .ready := by
  cases h with
  | same => exact hready
  | pending le value? => cases hready

/-- What may become of an entry: it keeps the name of its type. -/
structure Entry.Becomes (a b : Entry ν) : Prop where
  /-- The name of the type is the same. -/
  typeName : b.typeName = a.typeName
  /-- So is what is kept, but for what an initializer builds. -/
  slot : a.slot.Becomes b.slot

namespace Registry

variable {registry after later : Registry ν} {name : String} {base : List String}

/-- The values that the initializer of a name has returned, latest first. -/
def builtValues (registry : Registry ν) (name : String) : List ν :=
  registry.history.filterMap (Event.builtValue? name)

/-! ### The invariant -/

/-- The history, the running constructions and the entries of a registry agree. -/
structure Consistent (registry : Registry ν) : Prop where
  /-- No initializer runs inside itself. -/
  nodup : registry.running.Nodup
  /-- A running initializer has built no value yet. -/
  pending : ∀ name ∈ registry.running, ∃ type initializer runs,
    registry.find? name = some (.deferred type initializer runs none)
  /-- What an initializer has returned is what its entry holds. -/
  built : ∀ name,
    registry.builtValues name = ((registry.find? name).bind Slot.built?).toList
  /-- No initializer is started, or is over, after it has returned a value. -/
  settled : registry.history.Pairwise fun recent early =>
    ∀ name value, early = .built name value → recent.constructed? ≠ some name

theorem consistent_empty : Consistent (∅ : Registry ν) where
  nodup := List.nodup_nil
  pending := fun _ hmem => absurd hmem List.not_mem_nil
  built := fun _ => rfl
  settled := List.Pairwise.nil

theorem builtValues_record (registry : Registry ν) (event : Event ν) (name : String) :
    (registry.record event).builtValues name =
      (event.builtValue? name).toList ++ registry.builtValues name := by
  show List.filterMap _ (event :: registry.history) = _
  rw [List.filterMap_cons]
  cases event.builtValue? name <;> rfl

/-- What has built no value has no value in the history. -/
theorem Consistent.not_built (h : registry.Consistent) {type : InstanceType}
    {initializer : Nat → Program ν} {runs : Nat}
    (pending : registry.find? name = some (.deferred type initializer runs none)) :
    registry.builtValues name = [] := by
  rw [h.built name, pending]
  rfl

/-- The start or the end of a construction may be recorded as long as its name has no value in the history. -/
theorem pairwise_record (h : registry.Consistent) (event : Event ν)
    (fresh : ∀ name, event.constructed? = some name → registry.builtValues name = []) :
    (registry.record event).history.Pairwise fun recent early =>
      ∀ name value, early = .built name value → recent.constructed? ≠ some name := by
  refine List.pairwise_cons.2 ⟨?_, h.settled⟩
  rintro early hmem name value rfl hname
  have hvalue : (Event.built name value).builtValue? name = none :=
    List.filterMap_eq_nil_iff.1 (fresh name hname) _ hmem
  rw [Event.builtValue?, if_pos rfl] at hvalue
  cases hvalue

theorem find?_eq_none_of_register {entry : Entry ν} (h : registry.register name entry = .ok after) :
    registry.find? name = none := by
  cases hfind : registry.find? name with
  | none => rfl
  | some found =>
    rw [register, if_pos (contains_iff.2 ⟨found, hfind⟩)] at h
    cases h

/-- A registration leaves alone what is found already. -/
theorem find?_of_register {entry : Entry ν} {found : Slot ν} {other : String}
    (h : registry.register name entry = .ok after) (hfound : registry.find? other = some found) :
    after.find? other = some found := by
  rw [find?_register h, if_neg, hfound]
  rintro rfl
  rw [find?_eq_none_of_register h] at hfound
  cases hfound

/-- The innermost running initializer runs nowhere else, and has built no value. -/
theorem Consistent.innermost (h : registry.Consistent) {outer : List String}
    (innermost : registry.running = name :: outer) :
    name ∉ outer ∧ outer.Nodup ∧ ∃ type initializer runs,
      registry.find? name = some (.deferred type initializer runs none) := by
  have hnodup : (name :: outer).Nodup := innermost ▸ h.nodup
  obtain ⟨hnot, houter⟩ := List.nodup_cons.1 hnodup
  exact ⟨hnot, houter, h.pending name (innermost ▸ List.mem_cons_self)⟩

namespace Change

theorem consistent_register {entry : Entry ν} (h : registry.Consistent) (fresh : entry.Fresh)
    (registered : registry.register name entry = .ok after) : after.Consistent := by
  have hfind := find?_register registered
  have habsent := find?_eq_none_of_register registered
  obtain ⟨hrunning, hhistory⟩ := running_of_register registered
  constructor
  · rw [hrunning]
    exact h.nodup
  · intro running hmem
    rw [hrunning] at hmem
    obtain ⟨type, initializer, runs, hpending⟩ := h.pending running hmem
    exact ⟨type, initializer, runs, find?_of_register registered hpending⟩
  · intro other
    rw [builtValues, hhistory, hfind]
    by_cases heq : other = name
    · rw [if_pos heq, heq]
      refine (h.built name).trans ?_
      rw [habsent]
      show [] = entry.slot.built?.toList
      rw [fresh.unbuilt]
      rfl
    · rw [if_neg heq]
      exact h.built other
  · rw [hhistory]
    exact h.settled

theorem consistent_record {event : Event ν} (h : registry.Consistent)
    (aside : event.constructed? = none) : (registry.record event).Consistent where
  nodup := h.nodup
  pending := h.pending
  built := by
    intro name
    have hvalue : event.builtValue? name = none := by
      refine Event.builtValue?_eq_none ?_
      rw [aside]
      exact (Option.some_ne_none name).symm
    rw [builtValues_record, hvalue]
    exact h.built name
  settled := by
    refine pairwise_record h event fun name hname => ?_
    rw [aside] at hname
    cases hname

theorem consistent_start {type : InstanceType} {initializer : Nat → Program ν} {runs : Nat}
    (h : registry.Consistent)
    (pending : registry.find? name = some (.deferred type initializer runs none))
    (idle : name ∉ registry.running) : (registry.start name).Consistent := by
  have hnone := h.not_built pending
  have hfind : ∀ other, (registry.start name).find? other =
      if other = name then some (.deferred type initializer (runs + 1) none)
      else registry.find? other := by
    intro other
    rw [find?_start, pending]
    rfl
  have hbuilt : ∀ other, (registry.start name).builtValues other = registry.builtValues other := by
    intro other
    rw [builtValues, history_start]
    rfl
  constructor
  · rw [running_start]
    exact List.nodup_cons.2 ⟨idle, h.nodup⟩
  · intro running hmem
    rw [running_start] at hmem
    rw [hfind]
    split
    · exact ⟨type, initializer, runs + 1, rfl⟩
    · next hne => exact h.pending running ((List.mem_cons.1 hmem).resolve_left hne)
  · intro other
    rw [hbuilt, hfind]
    split
    · next heq => rw [heq, hnone]; rfl
    · exact h.built other
  · rw [history_start]
    refine pairwise_record h (.started name) fun started hname => ?_
    obtain rfl := Option.some.inj hname
    exact hnone

/-- The end of a construction keeps the invariant, whatever the initializer returns. -/
theorem consistent_finish {outer : List String} (h : registry.Consistent)
    (innermost : registry.running = name :: outer) (result : Except RegistryError ν) :
    (registry.finish name result).2.Consistent := by
  obtain ⟨hnot, houter, type, initializer, runs, hpending⟩ := h.innermost innermost
  have hnone := h.not_built hpending
  have hfind := find?_finish hpending result
  have hrunning := running_finish_innermost innermost result
  constructor
  · rw [hrunning]
    exact houter
  · intro running hmem
    rw [hrunning] at hmem
    rw [hfind, if_neg]
    · exact h.pending running (innermost ▸ List.mem_cons_of_mem name hmem)
    · rintro rfl
      exact hnot hmem
  · intro other
    have hvalues : (registry.finish name result).2.builtValues other =
        ((Event.ended name result).builtValue? other).toList ++ registry.builtValues other := by
      rw [builtValues, history_finish]
      exact builtValues_record registry (.ended name result) other
    rw [hvalues, hfind]
    split
    · next heq =>
      rw [heq, hnone, List.append_nil]
      cases result <;> simp [Event.ended, Event.builtValue?, Slot.built?, Except.toOption]
    · next hne =>
      rw [Event.builtValue?_eq_none]
      · exact h.built other
      · rw [Event.constructed?_ended]
        exact fun heq => hne (Option.some.inj heq).symm
  · rw [history_finish]
    refine pairwise_record h (.ended name result) fun ended hname => ?_
    rw [Event.constructed?_ended] at hname
    obtain rfl := Option.some.inj hname
    exact hnone

/-- A change keeps the invariant. -/
theorem consistent (h : registry.Consistent) (change : Change base registry after) :
    after.Consistent := by
  cases change with
  | register fresh registered => exact consistent_register h fresh registered
  | record aside => exact consistent_record h aside
  | start pending idle => exact consistent_start h pending idle
  | finish innermost above result => exact consistent_finish h innermost result

/-- Constructions that a change is above keep running, and their entries stay as they are. -/
theorem frame (h : registry.Consistent) (change : Change base registry after)
    (running : base <:+ registry.running) :
    base <:+ after.running ∧ ∀ name ∈ base, after.find? name = registry.find? name := by
  cases change with
  | register fresh registered =>
    rw [(running_of_register registered).1]
    refine ⟨running, fun name hmem => ?_⟩
    obtain ⟨type, initializer, runs, hpending⟩ := h.pending name (running.subset hmem)
    rw [find?_of_register registered hpending, hpending]
  | record aside => exact ⟨running, fun name _ => rfl⟩
  | start pending idle =>
    rw [running_start]
    refine ⟨running.trans (List.suffix_cons ..), fun name hmem => ?_⟩
    rw [find?_start, if_neg]
    rintro rfl
    exact idle (running.subset hmem)
  | finish innermost above result =>
    obtain ⟨hnot, -, type, initializer, runs, hpending⟩ := h.innermost innermost
    rw [running_finish_innermost innermost]
    refine ⟨above, fun name hmem => ?_⟩
    rw [find?_finish hpending, if_neg]
    rintro rfl
    exact hnot (above.subset hmem)

/-- A registered name keeps what is kept under it. -/
theorem becomes (h : registry.Consistent) (change : Change base registry after) {slot : Slot ν}
    (hfind : registry.find? name = some slot) :
    ∃ slot', after.find? name = some slot' ∧ slot.Becomes slot' := by
  cases change with
  | register fresh registered =>
    exact ⟨slot, find?_of_register registered hfind, .same slot⟩
  | record aside => exact ⟨slot, hfind, .same slot⟩
  | start pending idle =>
    rw [find?_start]
    split
    · next heq =>
      rw [heq, pending] at hfind
      cases hfind
      exact ⟨_, congrArg _ pending, .pending (Nat.le_succ _) none⟩
    · exact ⟨slot, hfind, .same slot⟩
  | finish innermost above result =>
    obtain ⟨-, -, type, initializer, runs, hpending⟩ := h.innermost innermost
    rw [find?_finish hpending]
    split
    · next heq =>
      rw [heq, hpending] at hfind
      cases hfind
      exact ⟨_, rfl, .pending (Nat.le_refl _) _⟩
    · exact ⟨slot, hfind, .same slot⟩

/-- A registered name keeps the type that it is registered with. -/
theorem typeName? (change : Change base registry after) {type : TypeName}
    (htype : registry.typeName? name = some type) : after.typeName? name = some type := by
  cases change with
  | @register _ other entry _ registered =>
    rw [typeName?_register registered, if_neg, htype]
    rintro rfl
    obtain ⟨entry, hentry, -⟩ := Option.map_eq_some_iff.1 htype
    have habsent := find?_eq_none_of_register registered
    rw [find?, hentry] at habsent
    cases habsent
  | record aside => exact htype
  | start pending idle => exact (typeName?_start ..).trans htype
  | finish innermost above result => exact (typeName?_finish ..).trans htype

end Change

/-! ### Runs -/

theorem consistent_of_changes (h : registry.Consistent)
    (changes : ReflTransGen (Change base) registry after) : after.Consistent := by
  induction changes with
  | refl => exact h
  | tail _ change ih => exact Change.consistent ih change

/-- Running constructions keep running through changes above them, with the same entries. -/
theorem frame_of_changes (h : registry.Consistent) (running : base <:+ registry.running)
    (changes : ReflTransGen (Change base) registry after) :
    base <:+ after.running ∧ ∀ name ∈ base, after.find? name = registry.find? name := by
  induction changes with
  | refl => exact ⟨running, fun _ _ => rfl⟩
  | tail before change ih =>
    obtain ⟨hrunning, hfind⟩ := ih
    obtain ⟨hrunning', hfind'⟩ := Change.frame (consistent_of_changes h before) change hrunning
    exact ⟨hrunning', fun name hmem => (hfind' name hmem).trans (hfind name hmem)⟩

theorem becomes_of_changes (h : registry.Consistent)
    (changes : ReflTransGen (Change base) registry after) {slot : Slot ν}
    (hfind : registry.find? name = some slot) :
    ∃ slot', after.find? name = some slot' ∧ slot.Becomes slot' := by
  induction changes with
  | refl => exact ⟨slot, hfind, .same slot⟩
  | tail before change ih =>
    obtain ⟨slot', hslot', hbecomes⟩ := ih
    obtain ⟨slot'', hslot'', hbecomes'⟩ :=
      Change.becomes (consistent_of_changes h before) change hslot'
    exact ⟨slot'', hslot'', hbecomes.trans hbecomes'⟩

theorem typeName?_of_changes (changes : ReflTransGen (Change base) registry after) {type : TypeName}
    (htype : registry.typeName? name = some type) : after.typeName? name = some type := by
  induction changes with
  | refl => exact htype
  | tail _ change ih => exact Change.typeName? change ih

/-- A registered name keeps its entry. -/
theorem entry_becomes_of_changes (h : registry.Consistent)
    (changes : ReflTransGen (Change base) registry after) {entry : Entry ν}
    (hentry : registry.registered? name = some entry) :
    ∃ entry', after.registered? name = some entry' ∧ entry.Becomes entry' := by
  have hfind : registry.find? name = some entry.slot := congrArg (Option.map Entry.slot) hentry
  have htype : registry.typeName? name = some entry.typeName := congrArg (Option.map Entry.typeName) hentry
  obtain ⟨slot', hslot', hbecomes⟩ := becomes_of_changes h changes hfind
  obtain ⟨entry', hentry', rfl⟩ := Option.map_eq_some_iff.1 hslot'
  have htype' := typeName?_of_changes changes htype
  rw [typeName?, hentry'] at htype'
  exact ⟨entry', hentry', Option.some.inj htype', hbecomes⟩

/-- What a request is answered at once stays the answer. -/
theorem answer?_of_changes (h : registry.Consistent) (changes : ReflTransGen (Change base) registry after)
    {held? : Option (Instance ν)} (answered : registry.answer? name = some held?) :
    after.answer? name = some held? := by
  rw [answer?] at answered ⊢
  split at answered
  · next hready =>
    obtain ⟨slot, hfind, hbecomes⟩ := becomes_of_changes h changes hready
    cases hbecomes
    rw [hfind]
    exact answered
  · next hunavailable =>
    obtain ⟨slot, hfind, hbecomes⟩ := becomes_of_changes h changes hunavailable
    cases hbecomes
    rw [hfind]
    exact answered
  · next hbuilt =>
    obtain ⟨slot, hfind, hbecomes⟩ := becomes_of_changes h changes hbuilt
    obtain rfl := hbecomes.eq_of_built
    rw [hfind]
    exact answered
  · cases answered
  · cases answered

/-! ### Uses -/

/-- What may be done with a registry.  While an initializer runs, the registry is between `enter` and `leave`,
and the initializer, whatever it does, uses the registry like anybody else; so do the initializers that run
inside it. -/
inductive Use : Registry ν → Registry ν → Prop where
  /-- Something is done that is done from outside, too. -/
  | operation {registry after : Registry ν} (h : Operation registry after) : Use registry after
  /-- An initializer leaves a note, or its answer is noted. -/
  | note {registry : Registry ν} {event : Event ν} (aside : event.constructed? = none) :
      Use registry (registry.record event)
  /-- An initializer is started. -/
  | enter {registry : Registry ν} {name : String} {type : InstanceType} {initializer : Nat → Program ν}
      {runs : Nat} (pending : registry.find? name = some (.deferred type initializer runs none))
      (idle : name ∉ registry.running) : Use registry (registry.start name)
  /-- The innermost running initializer returns a value, or fails. -/
  | leave {registry : Registry ν} {name : String} {outer : List String}
      (innermost : registry.running = name :: outer) (result : Except RegistryError ν) :
      Use registry (registry.finish name result).2

theorem Changes.weaken (h : Changes registry after) : ReflTransGen (Change []) registry after :=
  ReflTransGen.mono (fun _ _ => Change.mono List.nil_suffix) _ _ h.steps

theorem Use.changes (use : Use registry after) : ReflTransGen (Change []) registry after := by
  cases use with
  | operation h => exact h.changes.weaken
  | note aside => exact .single (.record aside)
  | enter pending idle => exact .single (.start pending idle)
  | leave innermost result => exact .single (.finish innermost List.nil_suffix result)

theorem changes_of_uses (uses : ReflTransGen Use registry after) :
    ReflTransGen (Change []) registry after := by
  induction uses with
  | refl => exact .refl
  | tail _ use ih => exact ih.trans use.changes

/-- What a registry has for good, by the time that it has become `later`. -/
structure Lasts (registry later : Registry ν) : Prop where
  /-- A registered name keeps its entry, with its kind, its type and its initializer. -/
  entry : ∀ name entry, registry.registered? name = some entry →
    ∃ entry', later.registered? name = some entry' ∧ entry.Becomes entry'
  /-- A registration that is refused changes nothing. -/
  refused : ∀ name entry error after,
    later.tryRegister name entry = (.error error, after) → after = later
  /-- Placeholders are never refused. -/
  placed : ∀ catalog, ∃ after added, later.registerMissing catalog = .ok (after, added)
  /-- An initializer has returned a value once if its name has an instance, and never otherwise; the
  instance is that value. -/
  once : ∀ name type initializer runs value?,
    later.find? name = some (.deferred type initializer runs value?) →
      later.builtValues name = value?.toList
  /-- Once an initializer has returned a value it is not started again. -/
  settled : ∀ recent name value earlier, later.history = recent ++ .built name value :: earlier →
    ∀ event ∈ recent, event.constructed? ≠ some name
  /-- The first request for a name that is not under construction runs its initializer.  The entry of the name
  stays as it is until the initializer is over, and is filled with the value that it returns, if it does. -/
  constructs : ∀ depth name type initializer runs answer after,
    later.find? name = some (.deferred type initializer runs none) → name ∉ later.running →
    getAny (depth + 1) name later = some (answer, after) →
      ∃ result inside,
        run (getAny depth) (initializer (runs + 1)) (later.start name) = some (result, inside) ∧
        inside.find? name = (later.start name).find? name ∧
        answer = (result.mapError (RegistryError.within name)).map (fun value => some ⟨type, value⟩) ∧
        after.find? name = some (.deferred type initializer (runs + 1) result.toOption)
  /-- Every request for a name with an instance is answered with that instance. -/
  answers : ∀ depth name type initializer runs value,
    registry.find? name = some (.deferred type initializer runs (some value)) →
      getAny depth name later = some (.ok (some ⟨type, value⟩), later) ∧
      get depth name type later = some (.ok (some value), later)
  /-- A name with an instance has one for good. -/
  initialized : ∀ name, registry.isInitialized name = true → later.isInitialized name = true

theorem tryRegister_refused {entry : Entry ν} {error : RegistryError}
    (h : registry.tryRegister name entry = (.error error, after)) : after = registry := by
  unfold tryRegister at h
  split at h
  · cases h
  · cases h
    rfl

theorem Consistent.constructs (h : registry.Consistent) {depth : Nat} {type : InstanceType}
    {initializer : Nat → Program ν} {runs : Nat}
    {answer : Except RegistryError (Option (Instance ν))}
    (pending : registry.find? name = some (.deferred type initializer runs none))
    (idle : name ∉ registry.running) (got : getAny (depth + 1) name registry = some (answer, after)) :
    ∃ result inside,
      run (getAny depth) (initializer (runs + 1)) (registry.start name) = some (result, inside) ∧
      inside.find? name = (registry.start name).find? name ∧
      answer = (result.mapError (RegistryError.within name)).map (fun value => some ⟨type, value⟩) ∧
      after.find? name = some (.deferred type initializer (runs + 1) result.toOption) := by
  rw [getAny_of_pending pending idle] at got
  obtain ⟨⟨result, inside⟩, hrun, hended⟩ := Option.map_eq_some_iff.1 got
  cases hended
  have hstarted : (registry.start name).Consistent := Change.consistent_start h pending idle
  have hchanges := changes_run (fun _ _ _ _ => changes_getAny) hrun
  have hmem : name ∈ (registry.start name).running := by
    rw [running_start]
    exact List.mem_cons_self
  -- The entry is found inside as it was left by the start, so that the value fills it.
  have hinside : inside.find? name = (registry.start name).find? name :=
    (frame_of_changes hstarted List.suffix_rfl hchanges.steps).2 name hmem
  have hpending : inside.find? name = some (.deferred type initializer (runs + 1) none) := by
    rw [hinside, find?_start, if_pos rfl, pending]
    rfl
  refine ⟨result, inside, hrun, hinside, ?_, ?_⟩
  · rw [result_finish hpending]
  · rw [find?_finish hpending, if_pos rfl]

/-- Whatever is done with a registry that was empty at first, from outside and by initializers that run inside
one another, entries and instances last, and an initializer that has returned a value is not run again. -/
theorem lasts_of_uses (reachable : ReflTransGen Use ∅ registry)
    (uses : ReflTransGen Use registry later) : registry.Lasts later := by
  have hconsistent : registry.Consistent :=
    consistent_of_changes consistent_empty (changes_of_uses reachable)
  have hchanges := changes_of_uses uses
  have hlater : later.Consistent := consistent_of_changes hconsistent hchanges
  constructor
  case entry => exact fun name entry => entry_becomes_of_changes hconsistent hchanges
  case refused => exact fun name entry error after => tryRegister_refused
  case placed =>
    intro catalog
    obtain ⟨after, added, hplaced, -⟩ := changes_registerMissing later catalog
    exact ⟨after, added, hplaced⟩
  case once =>
    intro name type initializer runs value? hfind
    rw [hlater.built name, hfind]
    rfl
  case settled =>
    intro recent name value earlier hhistory event hmem
    have hpairwise := hlater.settled
    rw [hhistory] at hpairwise
    exact (List.pairwise_append.1 hpairwise).2.2 event hmem _ List.mem_cons_self name value rfl
  case constructs => exact fun depth name type initializer runs answer after => hlater.constructs
  case answers =>
    intro depth name type initializer runs value hfind
    obtain ⟨slot', hfind', hbecomes⟩ := becomes_of_changes hconsistent hchanges hfind
    rw [hbecomes.eq_of_built] at hfind'
    have hany : getAny depth name later = some (.ok (some ⟨type, value⟩), later) := by
      refine getAny_of_answer? ?_ depth
      rw [answer?, hfind']
    refine ⟨hany, ?_⟩
    rw [get, hany]
    exact congrArg (fun answer => some (answer, later)) (Program.typedAnswer_self name ⟨type, value⟩ _)
  case initialized =>
    intro name hready
    rw [isInitialized, beq_iff_eq, status?, Option.map_eq_some_iff] at hready ⊢
    obtain ⟨slot, hfind, hstatus⟩ := hready
    obtain ⟨slot', hfind', hbecomes⟩ := becomes_of_changes hconsistent hchanges hfind
    exact ⟨slot', hfind', hbecomes.ready hstatus⟩

/-! ### An initializer that fails once -/

/-- An initializer that fails when it is first run. -/
def hesitant (run : Nat) : Program Nat :=
  if run ≤ 1 then .fail (.construction "base" "not yet") else .done run

/-- An initializer that asks for the instance of another name. -/
def dependent (_run : Nat) : Program Nat :=
  .request "base" fun
    | .error error => .fail error
    | .ok held? => .done ((held?.map Instance.value).getD 0 + 10)

/-- A registry of the two, with what they have built. -/
def twoEntries (runs : Nat) (base? ui? : Option Nat) (history : List (Event Nat)) : Registry Nat where
  entries := NameMap.ofList
    [("base", ⟨"Base", .deferred "Base" hesitant runs base?⟩), ("ui", ⟨"Ui", .deferred "Ui" dependent runs ui?⟩)]
  history := history

/-- What happens when the second is first asked for. -/
def failedOnce : List (Event Nat) :=
  [.failed "ui", .refused "base" (.construction "base" "not yet"), .failed "base", .started "base",
    .started "ui"]

/-- What happens when it is asked for again. -/
def builtBoth : List (Event Nat) :=
  [.built "ui" 12, .given "base" (some ⟨"Base", 2⟩), .built "base" 2, .started "base", .started "ui"]

theorem getAny_first :
    getAny 2 "ui" (twoEntries 0 none none []) =
      some (.error (.construction "ui" (RegistryError.construction "base" "not yet").message),
        twoEntries 1 none none failedOnce) := by
  rfl

theorem getAny_again :
    getAny 2 "ui" (twoEntries 1 none none failedOnce) =
      some (.ok (some ⟨"Ui", 12⟩), twoEntries 2 (some 2) (some 12) (builtBoth ++ failedOnce)) := by
  rfl

/-- What the two have built in the end lasts when another name is registered. -/
theorem lasts_of_uses_hesitant :
    let constructed := twoEntries 2 (some 2) (some 12) (builtBoth ++ failedOnce)
    let later := { constructed with entries := constructed.entries.insert "vr" .placeholder }
    ReflTransGen Use ∅ constructed ∧ ReflTransGen Use constructed later ∧
      constructed.Lasts later := by
  intro constructed later
  have hbase : (∅ : Registry Nat).registerDeferred "base" "Base" hesitant =
      .ok { entries := NameMap.ofList [("base", .ofInitializer "Base" hesitant)] } := rfl
  have hui : ({ entries := NameMap.ofList [("base", .ofInitializer "Base" hesitant)] } :
      Registry Nat).registerDeferred "ui" "Ui" dependent = .ok (twoEntries 0 none none []) := rfl
  have hvr : constructed.registerUnavailable "vr" = .ok later := rfl
  have hregistered : ReflTransGen Use ∅ (twoEntries 0 none none []) :=
    .tail (.single (.operation (.registerDeferred hbase))) (.operation (.registerDeferred hui))
  have hconstructed : ReflTransGen Use ∅ constructed :=
    (hregistered.tail (.operation (.getAny getAny_first))).tail (.operation (.getAny getAny_again))
  have hlater : ReflTransGen Use constructed later :=
    .single (.operation (.registerUnavailable hvr))
  exact ⟨hconstructed, hlater, lasts_of_uses hconstructed hlater⟩

end Registry

end Scaffold
