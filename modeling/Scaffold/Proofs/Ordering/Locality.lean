import Mathlib.Data.List.Induction
import Scaffold.Proofs.Ordering.Recursion

/-!
# What the search reads

A turn of the search reads the map at one place only, where it enters a component and lists its present
dependencies.  So two maps in which each component has the same present dependencies have the same runs, turn by
turn, and two maps with the same components besides have the same outcome: the same order, or the same cycle.

What else is in a map, dependencies on names that are no components and the way in which the map was put together,
is never looked at.

## Main Definitions

* `DependencyMap.Declares` — a component declares a dependency, be it present or not
* `lastDeclared?` — what a list of declarations says last about a component

## Main Statements

* `Traversal.step_congr`, `Traversal.run_congr` — a turn, and then a run, reads the present dependencies alone
* `resolve_congr` — the outcome is decided by the components and the dependencies between them
* `DependencyMap.dependencies?_ofList` — of several declarations of a component the last one stands
-/

namespace Scaffold.Ordering

variable {a b map : DependencyMap}

/-! ## Runs -/

namespace Traversal

theorem enter_congr (h : ∀ name, a.present name = b.present name) : enter a = enter b := by
  funext name search
  unfold enter
  rw [h]

/-- A turn reads the present dependencies of a component that it enters, and nothing else of the map. -/
theorem step_congr (h : ∀ name, a.present name = b.present name) (search : Traversal) :
    search.step a = search.step b := by
  unfold step
  rw [enter_congr h]

/-- A run is a turn and then the run that is left. -/
theorem run_eq (search : Traversal) : search.run map =
    match search.step map with
    | .error cycle => .error cycle
    | .ok none => .ok search
    | .ok (some next) => next.run map := by
  rw [run]
  split
  · next hstep => rw [hstep]
  · next hstep => rw [hstep]
  · next hstep => rw [hstep]

/-- A run reads the present dependencies alone: the two runs take the same turns. -/
theorem run_congr (h : ∀ name, a.present name = b.present name) (search : Traversal) :
    search.run a = search.run b := by
  fun_induction run a search with
  | case1 search cycle hstep =>
    rw [step_congr h] at hstep
    rw [run_eq, hstep]
  | case2 search hstep =>
    rw [step_congr h] at hstep
    rw [run_eq, hstep]
  | case3 search next hstep ih =>
    rw [step_congr h] at hstep
    rw [ih, run_eq search, hstep]

theorem visit_congr (h : ∀ name, a.present name = b.present name) (search : Traversal) (root : String) :
    search.visit a root = search.visit b root := by
  unfold visit
  rw [enter_congr h, run_congr h]

end Traversal

/-! ## Outcomes -/

/-- The outcome is decided by the components and the dependencies between them. -/
theorem resolve_congr (hnames : ∀ name, name ∈ a.names ↔ name ∈ b.names)
    (hdepends : ∀ dependent dependency, a.DependsOn dependent dependency ↔ b.DependsOn dependent dependency) :
    resolve a = resolve b := by
  have hpresent : ∀ name, a.present name = b.present name := fun name => NameSet.ext_mem (hdepends name)
  have hvisit : (fun search root => Traversal.visit a search root) =
      fun search root => Traversal.visit b search root := by
    funext search root
    exact Traversal.visit_congr hpresent search root
  unfold resolve
  rw [NameSet.ext_mem hnames, hvisit]

namespace DependencyMap

/-- A component declares a dependency, which need not be a component. -/
def Declares (map : DependencyMap) (dependent dependency : String) : Prop :=
  ∃ declared, map.dependencies? dependent = some declared ∧ dependency ∈ declared

theorem dependsOn_iff {dependent dependency : String} :
    map.DependsOn dependent dependency ↔ map.Declares dependent dependency ∧ dependency ∈ map.names :=
  mem_present

/-- What declares anything is a component. -/
theorem Declares.mem_names {dependent dependency : String} (h : map.Declares dependent dependency) :
    dependent ∈ map.names := by
  obtain ⟨declared, hdeclared, -⟩ := h
  exact mem_names_iff.2 ⟨declared, hdeclared⟩

end DependencyMap

/-- Where two maps have the same components, and these declare the same dependencies among them, the outcome is the
same. -/
theorem resolve_eq_of_declares_iff (hnames : ∀ name, name ∈ a.names ↔ name ∈ b.names)
    (hdeclares : ∀ dependent ∈ a.names, ∀ dependency ∈ a.names,
      (a.Declares dependent dependency ↔ b.Declares dependent dependency)) : resolve a = resolve b := by
  refine resolve_congr hnames fun dependent dependency => ?_
  rw [DependencyMap.dependsOn_iff, DependencyMap.dependsOn_iff, ← hnames dependency]
  refine and_congr_left fun hdependency => ⟨fun h => ?_, fun h => ?_⟩
  · exact (hdeclares dependent h.mem_names dependency hdependency).1 h
  · exact (hdeclares dependent ((hnames dependent).2 h.mem_names) dependency hdependency).2 h

/-! ## Declarations -/

/-- What a list of declarations says last about a component. -/
def lastDeclared? (declarations : List (String × List String)) (name : String) : Option (List String) :=
  (declarations.reverse.find? (·.1 == name)).map Prod.snd

theorem lastDeclared?_concat {declarations : List (String × List String)} {last : String × List String}
    {name : String} : lastDeclared? (declarations ++ [last]) name =
      if name = last.1 then some last.2 else lastDeclared? declarations name := by
  unfold lastDeclared?
  rw [List.reverse_concat, List.find?_cons]
  by_cases h : name = last.1
  · rw [if_pos h, h, beq_self_eq_true]
    rfl
  · rw [if_neg h, beq_false_of_ne (Ne.symm h)]

/-- Where nothing is declared twice, what is declared last is what is declared. -/
theorem lastDeclared?_eq_some_iff {declarations : List (String × List String)}
    (hnodup : (declarations.map Prod.fst).Nodup) {name : String} {listed : List String} :
    lastDeclared? declarations name = some listed ↔ (name, listed) ∈ declarations := by
  unfold lastDeclared?
  rw [Option.map_eq_some_iff]
  constructor
  · rintro ⟨found, hfound, rfl⟩
    have hkey := List.find?_some hfound
    obtain rfl : found.1 = name := beq_iff_eq.1 hkey
    exact List.mem_reverse.1 (List.mem_of_find?_eq_some hfound)
  · intro hmem
    have hsome : (declarations.reverse.find? (·.1 == name)).isSome = true :=
      List.find?_isSome.2 ⟨(name, listed), List.mem_reverse.2 hmem, beq_self_eq_true name⟩
    obtain ⟨found, hfound⟩ := Option.isSome_iff_exists.1 hsome
    have hkey := List.find?_some hfound
    have hfoundMem := List.mem_reverse.1 (List.mem_of_find?_eq_some hfound)
    have hsame : found = (name, listed) := List.inj_on_of_nodup_map hnodup hfoundMem hmem (beq_iff_eq.1 hkey)
    exact ⟨found, hfound, congrArg Prod.snd hsame⟩

namespace DependencyMap

variable {declarations : List (String × List String)} {name : String}

/-- Of several declarations of a component the last one stands, and repetitions in it do not count. -/
theorem dependencies?_ofList (declarations : List (String × List String)) (name : String) :
    (ofList declarations).dependencies? name = (lastDeclared? declarations name).map NameSet.ofList := by
  induction declarations using List.reverseRecOn with
  | nil => rfl
  | append_singleton front last ih =>
    rw [lastDeclared?_concat, ofList, List.foldl_append]
    refine NameMap.get?_insert.trans ?_
    split
    · rfl
    · exact ih

/-- The components are those that are declared. -/
theorem mem_names_ofList : name ∈ (ofList declarations).names ↔ name ∈ declarations.map Prod.fst := by
  rw [mem_names_iff, dependencies?_ofList, ← Option.isSome_iff_exists, Option.isSome_map, lastDeclared?,
    Option.isSome_map, List.find?_isSome, List.mem_map]
  simp only [List.mem_reverse, beq_iff_eq]

/-- A component declares what the last declaration of it lists. -/
theorem declares_ofList_iff {dependency : String} :
    (ofList declarations).Declares name dependency ↔ dependency ∈ (lastDeclared? declarations name).getD [] := by
  unfold Declares
  rw [dependencies?_ofList]
  cases lastDeclared? declarations name with
  | none => simp
  | some listed => simp

end DependencyMap

end Scaffold.Ordering
