import Oxlab.CategoryFilter
import Oxlab.Scenario.NetFilters

/-! Which runs the lossless gate judges.
Its evaluator asks for the pristine profile, and the engine hands it that of the
first participant. Each participant has a profile of its own, and the network
transitions of the script change it. -/
namespace Oxlab.PristineGate
open Judge Library Net.Filter Scenario.CheckpointEval Scenario.Engine Scenario.Evaluate
open Scenario.NetFilters Scenario.Result

section gate
variable (scenario : ScenarioDef) (around : Surroundings scenario) (orders : Orders)

def results : List CheckpointResult :=
  (run scenario (around.evaluated scenario orders)).report.layer1.checkpoints

def Obtained : Prop := ∃ r ∈ results scenario around orders,r.id = CheckpointDef.l113.id

/-- At every point of the run, the filter of every bot has the pristine
conditions and lets each packet through at once. -/
structure Lossless : Prop where
  pristine : ∀ passed, passed <+: (judged scenario around).log →
    ∀ i, filtersAfter scenario passed i = {}
  through : ∀ passed, passed <+: (judged scenario around).log → ∀ i (f : NetFilter),
    f.config = filtersAfter scenario passed i → ∀ now roll packetLen,
      (f.filter now roll packetLen).1 = .pass 0

def LosslessOnly : Prop := Obtained scenario around orders → Lossless scenario around

def Asked : Prop :=
  (∀ s ∈ scenario.categories,CheckpointCategory.fromStrLoose s = none) ∨
    ∃ s ∈ scenario.categories,CheckpointCategory.fromStrLoose s = some .coreRelay

def Labelled : Prop := ∃ first ∈ scenario.participants.head?,first.profile = "pristine"

/-- No participant and no network transition of one has a lossy profile. -/
structure Unimpaired : Prop where
  participants : ∀ i, created scenario i = {}
  transitions : ∀ action ∈ scenario.actions,∀ update ∈ transitionOf scenario action,
    conditionsOf update.2 = {}

theorem conditionsOf_pristine (profile : String) : conditionsOf profile = {} ↔
    profile ∉ ["office_wifi","field_lte","field_lte_poor","basement"] := by
  unfold conditionsOf NetworkProfile.builtin
  split
  next => decide +kernel
  next => decide +kernel
  next => decide +kernel
  next => decide +kernel
  next => decide +kernel
  next => simp_all [NetworkProfile.pristine]

theorem labelled_iff : profileName scenario = "pristine" ↔ Labelled scenario := by
  unfold profileName Labelled
  cases scenario.participants.head? with
  | none => simp
  | some first => simp

theorem asked_iff :
    CheckpointDef.l113 ∈ applicableDefs (categories scenario.categories) ↔ Asked scenario := by
  have listed : CheckpointDef.l113 ∈ registry := by simp [registry]
  have none_known : (categories scenario.categories).isEmpty = true ↔
      ∀ s ∈ scenario.categories,CheckpointCategory.fromStrLoose s = none := by
    rw [CategoryFilter.categories_eq,List.isEmpty_iff,List.filterMap_eq_nil_iff]
  have named : CheckpointDef.l113 ∈ findByCategories (categories scenario.categories) ↔
      ∃ s ∈ scenario.categories,CheckpointCategory.fromStrLoose s = some .coreRelay := by
    rw [findByCategories,List.mem_filter,List.contains_iff_mem,CategoryFilter.categories_eq,
      List.mem_filterMap]
    exact and_iff_right listed
  unfold applicableDefs
  split
  next unknown => exact ⟨fun _ => Or.inl (none_known.mp unknown),fun _ => listed⟩
  next known =>
    rw [named]
    exact (or_iff_right (none_known.not.mp known)).symm

def gateResult : Option CheckpointResult :=
  evalL113 (recvSnapshots scenario around) .l113 (profileName scenario) orders.receivers

theorem gate_judged : Judged ((gateResult scenario around orders).map (·.verdict))
    (Labelled scenario) (FanOutBroken (recvSnapshots scenario around)) := by
  rw [← labelled_iff]
  exact evalL113_judged _ _ _ _

theorem mem_gate (r : CheckpointResult) :
    r ∈ results scenario around orders ∧ r.id = CheckpointDef.l113.id ↔
      Asked scenario ∧ gateResult scenario around orders = some r := by
  let judgeDef := evaluateDef orders (recvSnapshots scenario around)
    (collect scenario (fun _ => true) around.observations) scenario.mode (profileName scenario)
  have named (d : CheckpointDef) : Named d (judgeDef d) := evaluateDef_named _ _ _ _ _ d
  have results_eq : results scenario around orders =
      (applicableDefs (categories scenario.categories)).filterMap judgeDef := rfl
  rw [← asked_iff,results_eq,List.mem_filterMap]
  constructor
  · intro found
    obtain ⟨⟨d,applies,evaluated⟩,own⟩ := found
    have gate : d = .l113 := by
      apply List.inj_on_of_nodup_map registry_ids ((applicable_sublist _).subset applies)
      · simp [registry]
      · exact (named d r evaluated).1.symm.trans own
    rw [gate] at applies evaluated
    exact ⟨applies,evaluated⟩
  · intro asked
    obtain ⟨applies,evaluated⟩ := asked
    exact ⟨⟨.l113,applies,evaluated⟩,(named .l113 r evaluated).1⟩

theorem obtained_iff :
    Obtained scenario around orders ↔ Asked scenario ∧ Labelled scenario := by
  have skipped := (gate_judged scenario around orders).skipped
  rw [Option.map_eq_none_iff,← not_iff_not,not_not,← ne_eq,
    Option.ne_none_iff_exists'] at skipped
  simp only [Obtained,mem_gate,exists_and_left,skipped]

theorem fails_iff :
    (∃ r,(r ∈ results scenario around orders ∧ r.id = CheckpointDef.l113.id) ∧ r.verdict = .fail) ↔
      Asked scenario ∧ Labelled scenario ∧ FanOutBroken (recvSnapshots scenario around) := by
  rw [← (gate_judged scenario around orders).failed,Option.map_eq_some_iff]
  simp only [mem_gate,and_assoc,exists_and_left]

theorem filtersAfter_pristine (passed : List (Logged scenario.participants.length))
    (start : ∀ i, created scenario i = {})
    (kept : ∀ update ∈ passed.filterMap updateOf,conditionsOf update.2 = {}) :
    ∀ i, filtersAfter scenario passed i = {} := by
  unfold filtersAfter
  generalize passed.filterMap updateOf = made at kept
  induction made using List.reverseRecOn with
  | nil => exact start
  | append_singleton before last ih =>
    rw [List.forall_mem_append] at kept
    intro i
    rw [List.foldl_concat]
    by_cases own : i = last.1
    · rw [own,Function.update_self]
      exact kept.2 last (List.mem_singleton_self last)
    · rw [Function.update_of_ne own]
      exact ih kept.1 i

theorem mem_updates (update : Place scenario × String) :
    (∃ entry ∈ (judged scenario around).log,updateOf entry = some update) ↔
      ∃ action ∈ scenario.actions,transitionOf scenario action = some update := by
  have script := run_updates scenario around.responses
  rw [← List.mem_filterMap]
  change update ∈ updates (judged scenario around) ↔ _
  rw [judged,script,List.mem_filterMap]
  simp only [List.mem_insertionSort]

theorem lossless_iff : Lossless scenario around ↔ Unimpaired scenario := by
  constructor
  · intro lossless
    refine ⟨lossless.pristine [] List.nil_prefix,?_⟩
    intro action member update transition
    obtain ⟨entry,logged,updated⟩ :=
      (mem_updates scenario around update).mpr ⟨action,member,transition⟩
    obtain ⟨before,later,parts⟩ := List.append_of_mem logged
    have pristine := lossless.pristine (before ++ [entry]) ⟨later,by simp [parts]⟩ update.1
    rw [filtersAfter,List.filterMap_append] at pristine
    simpa [updated] using pristine
  · intro unimpaired
    have pristine : ∀ passed, passed <+: (judged scenario around).log →
        ∀ i, filtersAfter scenario passed i = {} := by
      intro passed reached
      apply filtersAfter_pristine scenario passed unimpaired.participants
      intro update member
      obtain ⟨entry,inside,updated⟩ := List.mem_filterMap.mp member
      obtain ⟨action,scripted,transition⟩ :=
        (mem_updates scenario around update).mp ⟨entry,reached.subset inside,updated⟩
      exact unimpaired.transitions action scripted update transition
    refine ⟨pristine,?_⟩
    intro passed reached i f conditions now roll packetLen
    exact NetFilter.filter_pristine (conditions.trans (pristine passed reached i)) now roll packetLen

/-- Over every scenario and every run of it: a judged run is lossless exactly when
the gate is not asked for, the first participant is not labelled pristine, or no
profile of the scenario is lossy. -/
theorem losslessOnly_iff : LosslessOnly scenario around orders ↔
    (Asked scenario → Labelled scenario → Unimpaired scenario) := by
  rw [LosslessOnly,obtained_iff,lossless_iff,and_imp]

end gate

def pttRapid : ScenarioDef where
  name := "ptt_rapid"
  mode := "ptt"
  categories := ["ptt_relay","floor_control","core_relay"]
  participants :=
    [{ id := "speaker_a" },{ id := "speaker_b", profile := "field_lte" },{ id := "speaker_c" }]
  actions :=
    [{ atSec := 0, actionType := .allJoin },
      { atSec := 2, actionType := .startMedia },
      { atSec := 6, actionType := .pttRequest, actor := some "speaker_a" },
      { atSec := 9, actionType := .pttRelease, actor := some "speaker_a" },
      { atSec := 10, actionType := .pttRequest, actor := some "speaker_b" },
      { atSec := 13, actionType := .pttRelease, actor := some "speaker_b" },
      { atSec := 14, actionType := .pttRequest, actor := some "speaker_c" },
      { atSec := 17, actionType := .pttRelease, actor := some "speaker_c" },
      { atSec := 18, actionType := .wait }]

/-- Every call is answered. The filter of the speaker on the field profile dropped a
packet, which is a loss at the two others. -/
def lossyField : Surroundings pttRapid where
  responses := fun _ => { roomId := "room", granted := true }
  snapshots := fun i => if i.val = 1 then ⟨50,0,0,1,[]⟩ else ⟨49,1,0,1,[]⟩
  observations := fun _ => {}
  evaluate := fun _ _ _ _ => []
  totalApplicable := 8
  judgements := fun _ => none
  baselines := fun _ => none
  writable := true
  now := "0s"

theorem field_profile_fails : ¬LosslessOnly pttRapid lossyField {} ∧
    ∃ r ∈ results pttRapid lossyField {},r.id = "L1-13" ∧ r.verdict = .fail := by
  have lost : ((recvSnapshots pttRapid lossyField).values.any (0 < ·.totalLost)) = true := by
    decide +kernel
  obtain ⟨snap,member,loss⟩ := List.any_eq_true.mp lost
  have broken : FanOutBroken (recvSnapshots pttRapid lossyField) :=
    Or.inr (Or.inl ⟨snap,member,of_decide_eq_true loss⟩)
  have asked : Asked pttRapid := Or.inr ⟨"core_relay",by decide,by decide +kernel⟩
  obtain ⟨r,⟨listed,own⟩,failed⟩ :=
    (fails_iff pttRapid lossyField {}).mpr ⟨asked,⟨_,rfl,rfl⟩,broken⟩
  refine ⟨?_,r,listed,own,failed⟩
  intro losslessOnly
  have pristine := (losslessOnly ⟨r,listed,own⟩).pristine [] List.nil_prefix
  have field : "field_lte" ∉ ["office_wifi","field_lte","field_lte_poor","basement"] :=
    (conditionsOf_pristine "field_lte").mp (pristine ⟨1,by decide⟩)
  exact field (by decide)

end Oxlab.PristineGate
