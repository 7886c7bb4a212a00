import Scaffold.Proofs.Config.MarkerKeys

/-!
# What the check of a configuration is worth

A configuration is checked section by section, in order, with the names and the marker keys of the sections before at
hand.  A section has to have a name and two keys that are not blank, and not among those; the closing marker may not
have the key of the opening one either.  So the check has passed over sections when all their names and keys are
different and none is blank, and it ends at the first section for which that is no longer so.

Different keys are more than is needed: a document could tell markers apart that have one key, but never takes one for
another that has a different key.  No line of any document stands for two markers of a configuration that is accepted.

## Main Definitions

* `Config.Apart` — sections with different names and keys, none of them blank
* `Config.Offence` — what is wrong with a section next to those before it

## Main Statements

* `Config.checkAfter_of_joins`, `Config.checkAfter_of_offence` — the check of one section
* `Config.validate_eq_ok_iff`, `Config.validate_eq_error_iff` — which configurations are accepted, and what for others
  are refused
* `Config.Apart.pairwise_lineMatches` — no line matches two markers
* `Config.apart_conventional_iff` — sections with conventional markers
-/

namespace Scaffold

open Text Section

/-- A section that is given no markers, so that it has the conventional ones, behind an indent. -/
structure SectionConfig.Conventional (indent : String) (section' : SectionConfig) : Prop where
  /-- There is no other opening marker. -/
  opening : section'.opening = none
  /-- There is no other closing marker. -/
  closing : section'.closing = none
  /-- The section has the indent. -/
  indent : section'.indent = indent

namespace Config

variable {commentPrefix name marker : String} {used : List String} {before rest : List SectionConfig}
  {section' : SectionConfig} {problem : ConfigProblem}

/-- The marker lines of sections, in order. -/
def markerLines (commentPrefix : String) (sections : List SectionConfig) : List String :=
  sections.flatMap fun section' => (section'.markers commentPrefix).both

/-- The keys of the markers of sections, in order. -/
def markerKeys (commentPrefix : String) (sections : List SectionConfig) : List String :=
  sections.flatMap fun section' => (section'.markers commentPrefix).keys

theorem map_markerKey_markerLines (commentPrefix : String) (sections : List SectionConfig) :
    (markerLines commentPrefix sections).map markerKey = markerKeys commentPrefix sections :=
  List.map_flatMap

theorem markerKeys_concat (commentPrefix : String) (before : List SectionConfig) (section' : SectionConfig) :
    markerKeys commentPrefix (before ++ [section']) =
      markerKeys commentPrefix before ++ [markerKey (section'.markers commentPrefix).opening] ++
        [markerKey (section'.markers commentPrefix).closing] := by
  simp [markerKeys, Markers.keys, Markers.both]

/-! ### What is checked -/

/-- Sections with names and marker keys that are not blank, and all different. -/
structure Apart (commentPrefix : String) (sections : List SectionConfig) : Prop where
  /-- No name is blank. -/
  named : ∀ section' ∈ sections, isBlank section'.name = false
  /-- The names are different. -/
  names : (sections.map SectionConfig.name).Nodup
  /-- No key is blank. -/
  marked : ∀ key ∈ markerKeys commentPrefix sections, isBlank key = false
  /-- The keys are different. -/
  keys : (markerKeys commentPrefix sections).Nodup

/-- A marker with a key that is neither blank nor used before. -/
structure Usable (used : List String) (marker : String) : Prop where
  /-- The key is not blank. -/
  inked : isBlank (markerKey marker) = false
  /-- The key has not been used. -/
  unused : markerKey marker ∉ used

/-- What is wrong with a marker that is not usable. -/
inductive MarkerFault (name : String) (used : List String) (marker : String) : ConfigProblem → Prop where
  /-- The key is blank. -/
  | blank (h : isBlank (markerKey marker) = true) : MarkerFault name used marker (.blankMarker name)
  /-- The key is not blank, but has been used. -/
  | repeated (inked : isBlank (markerKey marker) = false) (h : markerKey marker ∈ used) :
      MarkerFault name used marker (.repeatedMarker name marker)

/-- A section that has nothing in common with those before it. -/
structure Joins (commentPrefix : String) (before : List SectionConfig) (section' : SectionConfig) : Prop where
  /-- The name is not blank. -/
  named : isBlank section'.name = false
  /-- The name is none of those before. -/
  fresh : section'.name ∉ before.map SectionConfig.name
  /-- The opening marker can be used. -/
  opening : Usable (markerKeys commentPrefix before) (section'.markers commentPrefix).opening
  /-- The closing marker can be used after it. -/
  closing : Usable (markerKeys commentPrefix before ++ [markerKey (section'.markers commentPrefix).opening])
    (section'.markers commentPrefix).closing

/-- What is wrong with a section next to those before it: the first of the checks that it fails. -/
inductive Offence (commentPrefix : String) (before : List SectionConfig) (section' : SectionConfig) :
    ConfigProblem → Prop where
  /-- The name is blank. -/
  | blankName (h : isBlank section'.name = true) : Offence commentPrefix before section' .blankName
  /-- The name is one of those before. -/
  | repeatedName (named : isBlank section'.name = false) (h : section'.name ∈ before.map SectionConfig.name) :
      Offence commentPrefix before section' (.repeatedName section'.name)
  /-- The opening marker cannot be used. -/
  | opening {problem : ConfigProblem} (named : isBlank section'.name = false)
      (fresh : section'.name ∉ before.map SectionConfig.name)
      (h : MarkerFault section'.name (markerKeys commentPrefix before) (section'.markers commentPrefix).opening
        problem) : Offence commentPrefix before section' problem
  /-- The opening marker can be used, but the closing one cannot be used after it. -/
  | closing {problem : ConfigProblem} (named : isBlank section'.name = false)
      (fresh : section'.name ∉ before.map SectionConfig.name)
      (opening : Usable (markerKeys commentPrefix before) (section'.markers commentPrefix).opening)
      (h : MarkerFault section'.name
        (markerKeys commentPrefix before ++ [markerKey (section'.markers commentPrefix).opening])
        (section'.markers commentPrefix).closing problem) : Offence commentPrefix before section' problem

theorem apart_nil (commentPrefix : String) : Apart commentPrefix [] :=
  ⟨fun _ hmem => absurd hmem List.not_mem_nil, List.nodup_nil, fun _ hmem => absurd hmem List.not_mem_nil,
    List.nodup_nil⟩

/-- Sections that are apart stay so when one joins them that has nothing in common with them. -/
theorem apart_concat_iff :
    Apart commentPrefix (before ++ [section']) ↔
      Apart commentPrefix before ∧ Joins commentPrefix before section' := by
  constructor
  · rintro ⟨hnamed, hnames, hmarked, hkeys⟩
    rw [List.map_append, List.map_singleton, ← List.concat_eq_append, List.nodup_concat] at hnames
    rw [markerKeys_concat] at hmarked hkeys
    simp only [List.forall_mem_append, List.forall_mem_singleton] at hnamed hmarked
    rw [← List.concat_eq_append, List.nodup_concat, ← List.concat_eq_append, List.nodup_concat,
      List.concat_eq_append] at hkeys
    exact ⟨⟨hnamed.1, hnames.2, hmarked.1.1, hkeys.2.2⟩, hnamed.2, hnames.1, ⟨hmarked.1.2, hkeys.2.1⟩,
      ⟨hmarked.2, hkeys.1⟩⟩
  · rintro ⟨⟨hnamed, hnames, hmarked, hkeys⟩, hjoins⟩
    constructor
    · simp only [List.forall_mem_append, List.forall_mem_singleton]
      exact ⟨hnamed, hjoins.named⟩
    · rw [List.map_append, List.map_singleton, ← List.concat_eq_append, List.nodup_concat]
      exact ⟨hjoins.fresh, hnames⟩
    · rw [markerKeys_concat]
      simp only [List.forall_mem_append, List.forall_mem_singleton]
      exact ⟨⟨hmarked, hjoins.opening.inked⟩, hjoins.closing.inked⟩
    · rw [markerKeys_concat, ← List.concat_eq_append, List.nodup_concat, ← List.concat_eq_append,
        List.nodup_concat, List.concat_eq_append]
      exact ⟨hjoins.closing.unused, hjoins.opening.unused, hkeys⟩

theorem Apart.of_append (h : Apart commentPrefix (before ++ rest)) : Apart commentPrefix before := by
  induction rest using List.reverseRecOn with
  | nil => rwa [List.append_nil] at h
  | append_singleton rest last ih =>
    rw [← List.append_assoc] at h
    exact ih (apart_concat_iff.1 h).1

theorem usable_or_fault (name : String) (used : List String) (marker : String) :
    Usable used marker ∨ ∃ problem, MarkerFault name used marker problem := by
  cases hblank : isBlank (markerKey marker) with
  | true => exact .inr ⟨_, .blank hblank⟩
  | false =>
    by_cases hused : markerKey marker ∈ used
    · exact .inr ⟨_, .repeated hblank hused⟩
    · exact .inl ⟨hblank, hused⟩

/-- A section joins those before it, or something is wrong with it. -/
theorem joins_or_offence (commentPrefix : String) (before : List SectionConfig) (section' : SectionConfig) :
    Joins commentPrefix before section' ∨ ∃ problem, Offence commentPrefix before section' problem := by
  cases hblank : isBlank section'.name with
  | true => exact .inr ⟨_, .blankName hblank⟩
  | false =>
    by_cases hfresh : section'.name ∈ before.map SectionConfig.name
    · exact .inr ⟨_, .repeatedName hblank hfresh⟩
    · obtain hopening | ⟨problem, hfault⟩ := usable_or_fault section'.name (markerKeys commentPrefix before)
        (section'.markers commentPrefix).opening
      · obtain hclosing | ⟨problem, hfault⟩ := usable_or_fault section'.name
          (markerKeys commentPrefix before ++ [markerKey (section'.markers commentPrefix).opening])
          (section'.markers commentPrefix).closing
        · exact .inl ⟨hblank, hfresh, hopening, hclosing⟩
        · exact .inr ⟨problem, .closing hblank hfresh hopening hfault⟩
      · exact .inr ⟨problem, .opening hblank hfresh hfault⟩

/-! ### The check of one section -/

theorem checkMarkers_of_usable (h : Usable used marker) (name : String) (rest : List String) :
    checkMarkers name used.reverse (marker :: rest) =
      checkMarkers name (used ++ [markerKey marker]).reverse rest := by
  rw [checkMarkers, List.reverse_concat]
  simp only [h.inked, List.mem_reverse, h.unused, Bool.false_eq_true, if_false]

theorem checkMarkers_of_fault (h : MarkerFault name used marker problem) (rest : List String) :
    checkMarkers name used.reverse (marker :: rest) = .error problem := by
  cases h with
  | blank hblank => simp only [checkMarkers, hblank, if_true]
  | repeated hinked hused =>
    simp only [checkMarkers, hinked, List.mem_reverse, hused, Bool.false_eq_true, if_false, if_true]

/-- The check of sections after those before them. -/
def checkAfter (commentPrefix : String) (before rest : List SectionConfig) : Except ConfigProblem Unit :=
  checkSections commentPrefix (before.map SectionConfig.name).reverse (markerKeys commentPrefix before).reverse rest

/-- The check goes on after a section that joins those before it. -/
theorem checkAfter_of_joins (h : Joins commentPrefix before section') (rest : List SectionConfig) :
    checkAfter commentPrefix before (section' :: rest) = checkAfter commentPrefix (before ++ [section']) rest := by
  have hnames : ((before ++ [section']).map SectionConfig.name).reverse = section'.name ::
      (before.map SectionConfig.name).reverse := by
    rw [List.map_append, List.map_singleton, List.reverse_concat]
  rw [checkAfter, checkAfter, hnames, markerKeys_concat, checkSections]
  simp only [h.named, List.mem_reverse, h.fresh, Bool.false_eq_true, if_false, checkMarkers_of_usable h.opening,
    checkMarkers_of_usable h.closing]
  rfl

/-- The check ends with what is wrong with a section. -/
theorem checkAfter_of_offence (h : Offence commentPrefix before section' problem) (rest : List SectionConfig) :
    checkAfter commentPrefix before (section' :: rest) = .error problem := by
  rw [checkAfter, checkSections]
  cases h with
  | blankName hblank =>
    simp only [hblank, if_true]
    rfl
  | repeatedName hnamed hrepeated =>
    simp only [hnamed, List.mem_reverse, hrepeated, Bool.false_eq_true, if_false, if_true]
    rfl
  | opening hnamed hfresh hfault =>
    simp only [hnamed, List.mem_reverse, hfresh, Bool.false_eq_true, if_false, checkMarkers_of_fault hfault]
    rfl
  | closing hnamed hfresh hopening hfault =>
    simp only [hnamed, List.mem_reverse, hfresh, Bool.false_eq_true, if_false, checkMarkers_of_usable hopening,
      checkMarkers_of_fault hfault]
    rfl

/-! ### The check of all sections -/

/-- The check passes over sections that are apart. -/
theorem checkAfter_append {middle : List SectionConfig} (h : Apart commentPrefix (before ++ middle))
    (rest : List SectionConfig) :
    checkAfter commentPrefix before (middle ++ rest) = checkAfter commentPrefix (before ++ middle) rest := by
  induction middle generalizing before with
  | nil => rw [List.nil_append, List.append_nil]
  | cons first middle ih =>
    -- The first of them joins those before it, since they are apart as far as that one too.
    rw [List.append_cons] at h
    rw [List.cons_append, checkAfter_of_joins (apart_concat_iff.1 h.of_append).2, ih h, ← List.append_cons]

/-- Sections are apart, or there is a first one with which something is wrong. -/
theorem apart_or_offence (h : Apart commentPrefix before) (rest : List SectionConfig) :
    Apart commentPrefix (before ++ rest) ∨ ∃ middle section' after problem, rest = middle ++ section' :: after ∧
      Apart commentPrefix (before ++ middle) ∧ Offence commentPrefix (before ++ middle) section' problem := by
  induction rest generalizing before with
  | nil =>
    rw [List.append_nil]
    exact .inl h
  | cons first rest ih =>
    obtain hjoins | ⟨problem, hoffence⟩ := joins_or_offence commentPrefix before first
    · obtain hapart | ⟨middle, section', after, problem, rfl, hapart, hoffence⟩ :=
        ih (apart_concat_iff.2 ⟨h, hjoins⟩)
      · rw [List.append_cons]
        exact .inl hapart
      · rw [← List.append_cons] at hapart hoffence
        exact .inr ⟨first :: middle, section', after, problem, rfl, hapart, hoffence⟩
    · rw [← List.append_nil before] at h hoffence
      exact .inr ⟨[], first, rest, problem, rfl, h, hoffence⟩

/-- A configuration is refused for the first section with which something is wrong. -/
theorem validate_of_offence {config : Config} {after : List SectionConfig}
    (sections : config.sections = before ++ section' :: after) (apart : Apart config.commentPrefix before)
    (offence : Offence config.commentPrefix before section' problem) : config.validate = .error problem := by
  show checkAfter config.commentPrefix [] config.sections = _
  rw [sections, checkAfter_append apart]
  exact checkAfter_of_offence offence after

/-- A configuration is accepted when its sections are apart, and only then. -/
theorem validate_eq_ok_iff {config : Config} :
    config.validate = .ok () ↔ Apart config.commentPrefix config.sections := by
  constructor
  · intro hvalid
    obtain hapart | ⟨before, section', after, problem, hsections, hapart, hoffence⟩ :=
      apart_or_offence (apart_nil config.commentPrefix) config.sections
    · exact hapart
    · cases hvalid.symm.trans (validate_of_offence hsections hapart hoffence)
  · intro hapart
    show checkAfter config.commentPrefix [] config.sections = _
    rw [← List.append_nil config.sections, checkAfter_append hapart]
    rfl

theorem validate_eq_error_iff {config : Config} :
    config.validate = .error problem ↔ ∃ before section' after, config.sections = before ++ section' :: after ∧
      Apart config.commentPrefix before ∧ Offence config.commentPrefix before section' problem := by
  constructor
  · intro hrefused
    obtain hapart | ⟨before, section', after, problem', hsections, hapart, hoffence⟩ :=
      apart_or_offence (apart_nil config.commentPrefix) config.sections
    · cases hrefused.symm.trans (validate_eq_ok_iff.2 hapart)
    · cases hrefused.symm.trans (validate_of_offence hsections hapart hoffence)
      exact ⟨before, section', after, hsections, hapart, hoffence⟩
  · rintro ⟨before, section', after, hsections, hapart, hoffence⟩
    exact validate_of_offence hsections hapart hoffence

/-! ### What it is good for -/

/-- No line matches two markers of sections that are apart. -/
theorem Apart.pairwise_lineMatches {sections : List SectionConfig} (h : Apart commentPrefix sections)
    (line : String) :
    (markerLines commentPrefix sections).Pairwise fun marker other =>
      ¬(lineMatches line marker = true ∧ lineMatches line other = true) := by
  have hkeys := h.keys
  rw [← map_markerKey_markerLines] at hkeys
  refine (List.pairwise_map.1 hkeys).imp ?_
  rintro marker other hne ⟨hmarker, hother⟩
  exact hne ((markerKey_eq_of_lineMatches hmarker).symm.trans (markerKey_eq_of_lineMatches hother))

/-- Sections with conventional markers and one indent are apart when their names are not blank, and differ in more than
the case of ASCII letters. -/
theorem apart_conventional_iff {sections : List SectionConfig} {indent : String}
    (conventional : ∀ section' ∈ sections, section'.Conventional indent) :
    Apart commentPrefix sections ↔ (∀ section' ∈ sections, isBlank section'.name = false) ∧
      (sections.map fun section' => lowerCase section'.name).Nodup := by
  have hmarkers : ∀ section' ∈ sections, section'.markers commentPrefix =
      Markers.ofSection section'.name indent commentPrefix := by
    intro section' hmem
    obtain ⟨hopening, hclosing, rfl⟩ := conventional section' hmem
    rw [SectionConfig.markers, hopening, hclosing]
    rfl
  have hkeys : (markerKeys commentPrefix sections).Nodup ↔
      (sections.map fun section' => lowerCase section'.name).Nodup := by
    rw [markerKeys, List.nodup_flatMap, List.Nodup, List.pairwise_map]
    have hnodup : ∀ section' ∈ sections, (section'.markers commentPrefix).keys.Nodup := by
      intro section' hmem
      rw [hmarkers section' hmem]
      exact nodup_keys_ofSection ..
    refine (and_iff_right hnodup).trans (List.Pairwise.iff_of_mem fun {section' other} hmem hmem' => ?_)
    rw [Function.onFun, hmarkers section' hmem, hmarkers other hmem']
    exact disjoint_keys_ofSection_iff ..
  have hmarked : ∀ key ∈ markerKeys commentPrefix sections, isBlank key = false := by
    intro key hkey
    obtain ⟨section', hmem, hkey⟩ := List.mem_flatMap.1 hkey
    rw [hmarkers section' hmem] at hkey
    exact isBlank_of_mem_keys_ofSection _ _ _ hkey
  constructor
  · intro hapart
    exact ⟨hapart.named, hkeys.1 hapart.keys⟩
  · rintro ⟨hnamed, hnodup⟩
    constructor
    · exact hnamed
    · refine List.Nodup.of_map lowerCase ?_
      rwa [List.map_map]
    · exact hmarked
    · exact hkeys.2 hnodup

/-- A configuration is accepted when its names and marker keys are different, and none of them is blank.  It is refused
for what is wrong with the first section next to those before it.  No line matches two markers of a configuration that
is accepted.  When all markers are conventional ones behind one indent, it is enough that the names are not blank, and
differ in more than the case of ASCII letters. -/
theorem validate_tells_apart (config : Config) :
    (config.validate = .ok () ↔ Apart config.commentPrefix config.sections) ∧
    (∀ problem, config.validate = .error problem ↔
      ∃ before section' after, config.sections = before ++ section' :: after ∧
        Apart config.commentPrefix before ∧ Offence config.commentPrefix before section' problem) ∧
    (config.validate = .ok () → ∀ line,
      (markerLines config.commentPrefix config.sections).Pairwise fun marker other =>
        ¬(lineMatches line marker = true ∧ lineMatches line other = true)) ∧
    ∀ indent, (∀ section' ∈ config.sections, section'.Conventional indent) →
      (config.validate = .ok () ↔ (∀ section' ∈ config.sections, isBlank section'.name = false) ∧
        (config.sections.map fun section' => lowerCase section'.name).Nodup) := by
  refine ⟨validate_eq_ok_iff, fun problem => validate_eq_error_iff, ?_, ?_⟩
  · intro hvalid line
    exact (validate_eq_ok_iff.1 hvalid).pairwise_lineMatches line
  · intro indent conventional
    exact validate_eq_ok_iff.trans (apart_conventional_iff conventional)

/-! ### Two names that differ in case alone -/

/-- Two sections whose names differ in the case of letters alone, the second behind an indent. -/
def cased (indent : String) : Config where
  sections := [{ name := "Imports" }, { name := "IMPORTS", indent }]

/-- Behind one indent they have one opening marker.  Behind different ones they have four markers, of which no line
matches two. -/
theorem validate_tells_apart_cased :
    (cased "").validate = .error (.repeatedMarker "IMPORTS" "# __IMPORTS_BEGIN__\n") ∧
      (cased "  ").validate = .ok () ∧
      ∀ line, (markerLines "#" (cased "  ").sections).Pairwise fun marker other =>
        ¬(lineMatches line marker = true ∧ lineMatches line other = true) := by
  obtain ⟨-, hrefused, -, -⟩ := validate_tells_apart (cased "")
  obtain ⟨haccepted, -, hmatches, -⟩ := validate_tells_apart (cased "  ")
  have hfirst : Apart "#" [{ name := "Imports" }] :=
    ⟨by decide +kernel, by decide +kernel, by decide +kernel, by decide +kernel⟩
  have hsecond : Offence "#" [{ name := "Imports" }] { name := "IMPORTS" }
      (.repeatedMarker "IMPORTS" "# __IMPORTS_BEGIN__\n") :=
    .opening (by decide +kernel) (by decide +kernel) (.repeated (by decide +kernel) (by decide +kernel))
  have hvalid : (cased "  ").validate = .ok () :=
    haccepted.2 ⟨by decide +kernel, by decide +kernel, by decide +kernel, by decide +kernel⟩
  exact ⟨(hrefused _).2 ⟨_, _, [], rfl, hfirst, hsecond⟩, hvalid, hmatches hvalid⟩

end Config

end Scaffold
