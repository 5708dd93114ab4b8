import Oxlab.Scenario.Result

/-! The category filter of a scenario.
An empty list of names selects every checkpoint. Unknown names are dropped
before that is asked a second time, so a list of nothing else selects every
checkpoint too. -/
namespace Oxlab.CategoryFilter
open Bot.RtpSubscriber Judge Library Scenario.CheckpointEval Scenario.Evaluate Scenario.Result

variable (names : List String)

def Names (d : CheckpointDef) : Prop :=
  ∃ s ∈ names,CheckpointCategory.fromStrLoose s = some d.category

instance (d : CheckpointDef) : Decidable (Names names d) := inferInstanceAs (Decidable (∃ _ ∈ _,_))

def selected : List CheckpointDef := applicableDefs (categories names)

/-- The checkpoints counted and those evaluated are the ones whose category is named. -/
structure MeansItsNames : Prop where
  counted : selected names = registry.filter (fun d => Names names d)
  evaluated : ∀ orders snapshots observations mode profile,
    evaluate orders snapshots observations mode profile (categories names) =
      (registry.filter (fun d => Names names d)).filterMap
        (evaluateDef orders snapshots observations mode profile)
  unknown : ∀ s, CheckpointCategory.fromStrLoose s = none → selected (names ++ [s]) = selected names
  grows : ∀ s, selected names ⊆ selected (names ++ [s])

/-- Some name is one of a category. -/
def Known : Prop := ∃ s ∈ names,(CheckpointCategory.fromStrLoose s).isSome

theorem categories_eq :
    categories names = names.filterMap CheckpointCategory.fromStrLoose := by
  unfold categories
  split
  next empty => rw [List.isEmpty_iff.mp empty]; rfl
  next => rfl

theorem categories_isEmpty : (categories names).isEmpty = true ↔ ¬Known names := by
  rw [categories_eq,List.isEmpty_iff,List.filterMap_eq_nil_iff,Known]
  simp [Option.isSome_iff_ne_none]

section known
variable {names} (known : Known names)
include known

theorem selected_known : selected names = registry.filter (fun d => Names names d) := by
  rw [selected,applicableDefs,if_neg ((categories_isEmpty names).not.mpr (not_not_intro known)),
    findByCategories]
  apply List.filter_congr
  intro d _
  rw [Bool.eq_iff_iff,List.contains_iff_mem,decide_eq_true_eq,categories_eq,List.mem_filterMap]
  rfl

theorem known_append (s : String) : Known (names ++ [s]) := by
  obtain ⟨name,member,found⟩ := known
  exact ⟨name,List.mem_append_left [s] member,found⟩

theorem means_known : MeansItsNames names where
  counted := selected_known known
  evaluated := by
    intro orders snapshots observations mode profile
    rw [← selected_known known]
    rfl
  unknown := by
    intro s lost
    rw [selected_known known,selected_known (known_append known s)]
    apply List.filter_congr
    intro d _
    rw [Bool.eq_iff_iff,decide_eq_true_eq,decide_eq_true_eq]
    simp [Names,lost,or_and_right,exists_or]
  grows := by
    intro s d member
    rw [selected_known known,List.mem_filter,decide_eq_true_eq] at member
    obtain ⟨listed,name,inside,found⟩ := member
    rw [selected_known (known_append known s),List.mem_filter,decide_eq_true_eq]
    exact ⟨listed,name,List.mem_append_left [s] inside,found⟩

end known

theorem selected_unknown (unknown : ¬Known names) : selected names = registry := by
  rw [selected,applicableDefs,if_pos ((categories_isEmpty names).mpr unknown)]

/-- The empty list of names selects the registry; any other list means its names
exactly when some of them is known. -/
theorem means_iff (names : List String) :
    (names = [] → selected names = registry) ∧
      (names ≠ [] → (MeansItsNames names ↔ Known names)) := by
  refine ⟨?_,?_⟩
  · rintro rfl
    exact selected_unknown [] (by simp [Known])
  · intro _
    constructor
    · intro means
      by_contra unknown
      have all := means.counted
      rw [selected_unknown names unknown] at all
      have first : CheckpointDef.l101 ∈ registry := List.mem_cons_self
      rw [all,List.mem_filter,decide_eq_true_eq] at first
      obtain ⟨_,s,member,found⟩ := first
      exact unknown ⟨s,member,by rw [found]; rfl⟩
    · exact means_known

theorem means_iff_mixed : MeansItsNames ["ptt_realy","Lifecycle"] := by
  refine ((means_iff ["ptt_realy","Lifecycle"]).2 (by decide)).mpr ⟨"Lifecycle",by decide,?_⟩
  decide +kernel

/-- One misspelled name selects the whole registry. -/
theorem misspelled_selects_all : ¬MeansItsNames ["ptt_realy"] := by
  intro means
  have counts : (selected ["ptt_realy"]).length = 21 ∧
      (registry.filter (fun d => Names ["ptt_realy"] d)).length = 0 := by
    decide +kernel
  rw [means.counted] at counts
  omega

end Oxlab.CategoryFilter
