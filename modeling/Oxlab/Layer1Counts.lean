import Oxlab.Scenario.Criteria
import Oxlab.Scenario.Result

/-! The books of Layer 1.
The engine counts the applicable definitions by itself, the evaluation picks an
evaluator by the text of an id, and the judge counts results: what is neither
passed nor failed is skipped. -/
namespace Oxlab.Layer1Counts
open Bot.RtpSubscriber Judge Library Scenario.CheckpointEval Scenario.Evaluate Scenario.Result

variable (orders : Orders) (snapshots : RecvSnapshots) (observations : BotObservations)
  (mode profile : String)

theorem filterMap_ids (defs : List CheckpointDef) :
    ((defs.filterMap (evaluateDef orders snapshots observations mode profile)).map (·.id)).Sublist
      (defs.map (·.id)) := by
  induction defs with
  | nil => exact List.Sublist.refl []
  | cons d rest ih =>
    cases evaluated : evaluateDef orders snapshots observations mode profile d with
    | none =>
      rw [List.filterMap_cons_none evaluated]
      exact ih.cons _
    | some r =>
      have own := (evaluateDef_named orders snapshots observations mode profile d r evaluated).1
      rw [List.filterMap_cons_some evaluated,List.map_cons,List.map_cons,own]
      exact ih.cons_cons _

theorem passed_failed (results : List CheckpointResult) :
    results.countP (·.verdict = .pass) + results.countP (·.verdict = .fail) = results.length := by
  rw [List.length_eq_countP_add_countP (fun r : CheckpointResult => r.verdict = .pass)]
  congr 1
  apply List.countP_congr
  intro r _
  cases verdict : r.verdict <;> simp

/-- The results are those of applicable definitions, in registry order and each
once; the judge counts those that passed and those that failed, and its counts add up
to the number the engine counts. -/
theorem layer1_counts (categories : List CheckpointCategory) :
    let results := evaluate orders snapshots observations mode profile categories
    let applicable := applicableDefs categories
    let layer1 := judgeLayer1 results applicable.length
    applicable.Sublist registry ∧
      (results.map (·.id)).Sublist (applicable.map (·.id)) ∧ (results.map (·.id)).Nodup ∧
      (∀ r ∈ results,∃ d ∈ applicable,
        evaluateDef orders snapshots observations mode profile d = some r ∧ Carries d r) ∧
      layer1.passed = (results.filter (·.verdict = .pass)).length ∧
      layer1.failed = (results.filter (·.verdict = .fail)).length ∧
      layer1.passed + layer1.failed = results.length ∧
      layer1.passed + layer1.failed ≤ applicable.length ∧
      layer1.passed + layer1.failed + layer1.skipped = applicable.length ∧
      (layer1.verdict = .fail ↔ 0 < layer1.failed) := by
  intro results applicable layer1
  have listed := applicable_sublist categories
  have ids : (results.map (·.id)).Sublist (applicable.map (·.id)) :=
    filterMap_ids orders snapshots observations mode profile applicable
  have total : layer1.passed + layer1.failed = results.length := passed_failed results
  have few : layer1.passed + layer1.failed ≤ applicable.length := by
    rw [total]
    exact List.length_filterMap_le _ _
  refine ⟨listed,ids,?_,?_,List.countP_eq_length_filter,List.countP_eq_length_filter,total,few,?_,?_⟩
  · exact registry_ids.sublist (ids.trans (listed.map _))
  · intro r member
    obtain ⟨d,applies,evaluated⟩ := List.mem_filterMap.mp member
    exact ⟨d,applies,evaluated,
      evaluateDef_named orders snapshots observations mode profile d r evaluated⟩
  · exact Nat.add_sub_cancel' few
  · change (if 0 < layer1.failed then Verdict.fail else Verdict.pass) = .fail ↔ _
    split <;> simp_all

end Oxlab.Layer1Counts
