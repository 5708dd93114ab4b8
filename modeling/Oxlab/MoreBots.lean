import Oxlab.Scenario.Criteria
import Oxlab.Scenario.Result

/-! One more bot.
What a further bot reports only adds to the evidence, so no checkpoint loses
what it had to judge, and no failure is hidden but where the checkpoint asks for
something to be there. -/
namespace Oxlab.MoreBots
open Bot.Observations Bot.RtpSubscriber Judge Library Scenario.CheckpointEval Scenario.Criteria
open Scenario.Evaluate Scenario.Result

variable {observations observations' : BotObservations} {snapshots snapshots' : RecvSnapshots}

theorem evidence_grows {id : String} {obs : ObservationsInner} {snap : RecvSnapshot}
    (bots : observations'.entries.Perm (⟨id,obs⟩ :: observations.entries))
    (reports : snapshots'.entries.Perm (⟨id,snap⟩ :: snapshots.entries)) :
    evidence observations snapshots ≤ evidence observations' snapshots' := by
  constructor
  · intro obs' member
    obtain ⟨entry,listed,rfl⟩ := List.mem_map.mp member
    exact List.mem_map_of_mem (bots.mem_iff.mpr (List.mem_cons_of_mem _ listed))
  · apply Set.image_mono
    intro snap' member
    obtain ⟨entry,listed,rfl⟩ := List.mem_map.mp member
    exact List.mem_map_of_mem (reports.mem_iff.mpr (List.mem_cons_of_mem _ listed))

theorem reports_ne {observations : BotObservations} (some_there : snapshots ≠ ∅) :
    (evidence observations snapshots).2 ≠ ∅ := by
  intro nothing
  apply some_there
  rw [evidence,Set.image_eq_empty,Set.eq_empty_iff_forall_notMem] at nothing
  apply AList.ext
  rw [AList.empty_entries,List.eq_nil_iff_forall_not_mem]
  intro entry member
  exact nothing entry.2 (List.mem_map_of_mem member)

section evidence
variable (orders orders' : Orders) (more : evidence observations snapshots ≤
  evidence observations' snapshots') (mode profile : String)
include more

theorem evaluateDef_grows {d : CheckpointDef} (listed : d ∈ registry) {r : CheckpointResult}
    (found : evaluateDef orders snapshots observations mode profile d = some r) :
    ∃ r', evaluateDef orders' snapshots' observations' mode profile d = some r' ∧
      (r.verdict = .fail → d ∉ asksForSome → (d = .l113 → snapshots ≠ ∅) → r'.verdict = .fail) := by
  have before := evaluateDef_judged orders observations snapshots mode profile d listed
  have later := evaluateDef_judged orders' observations' snapshots' mode profile d listed
  have seen : (criterion mode profile d).seen (evidence observations snapshots) := by
    by_contra unseen
    have skipped := before.skipped.mpr unseen
    rw [found] at skipped
    contradiction
  have still := seen_mono mode profile d listed more seen
  cases found' : evaluateDef orders' snapshots' observations' mode profile d with
  | none =>
    rw [found'] at later
    exact absurd still (later.skipped.mp rfl)
  | some r' =>
    refine ⟨r',rfl,?_⟩
    intro failed kept reported
    rw [found,Option.map_some,failed] at before
    have wrong := (before.failed.mp rfl).2
    have wrong' := wrong_mono mode profile more d listed kept
      (fun fanOut => reports_ne (reported fanOut)) wrong
    rw [found'] at later
    exact Option.some.inj (later.failed.mpr ⟨still,wrong'⟩)

end evidence

/-- With one more bot, whose entries may be met anywhere: what was judged is
still judged, and what failed still fails, but for the two checkpoints that ask
for something to be there and the fan-out of nobody. -/
theorem more_bots (orders orders' : Orders) {id : String} {obs : ObservationsInner}
    {snap : RecvSnapshot} (bots : observations'.entries.Perm (⟨id,obs⟩ :: observations.entries))
    (reports : snapshots'.entries.Perm (⟨id,snap⟩ :: snapshots.entries)) (mode profile : String)
    (categories : List CheckpointCategory) :
    let before := evaluate orders snapshots observations mode profile categories
    let later := evaluate orders' snapshots' observations' mode profile categories
    ∀ r ∈ before,∃ r' ∈ later,r'.id = r.id ∧
      (r.verdict = .fail →
        r'.verdict = .fail ∨ r.id = "L1-12" ∨ r.id = "L1-21" ∨ r.id = "L1-13" ∧ snapshots = ∅) := by
  intro before later r member
  obtain ⟨d,applies,found⟩ := List.mem_filterMap.mp member
  have listed : d ∈ registry := (applicable_sublist categories).subset applies
  have own := (evaluateDef_named orders snapshots observations mode profile d r found).1
  obtain ⟨r',found',keeps⟩ := evaluateDef_grows orders orders' (evidence_grows bots reports) mode
    profile listed found
  have own' := (evaluateDef_named orders' snapshots' observations' mode profile d r' found').1
  refine ⟨r',List.mem_filterMap.mpr ⟨d,applies,found'⟩,own'.trans own.symm,?_⟩
  intro failed
  rw [own]
  by_cases asks : d ∈ asksForSome
  · simp only [asksForSome,List.mem_cons,List.not_mem_nil,or_false] at asks
    rcases asks with rfl | rfl
    · exact Or.inr (Or.inl rfl)
    · exact Or.inr (Or.inr (Or.inl rfl))
  · by_cases nobody : d = .l113 ∧ snapshots = ∅
    · exact Or.inr (Or.inr (Or.inr ⟨by rw [nobody.1]; rfl,nobody.2⟩))
    · exact Or.inl (keeps failed asks (fun fanOut empty => nobody ⟨fanOut,empty⟩))

/-- The bot whose acknowledged video came too early, and that had no PLI. -/
def lone : BotObservations :=
  AList.singleton "bot-1" { tracksAckSent := true, videoBeforeAckCount := 2 }

def healthy : ObservationsInner := { pliReceivedCount := 1 }

def quiet : RecvSnapshot := ⟨0,0,0,0,[]⟩

def reported : RecvSnapshots := AList.singleton "bot-1" quiet

theorem more_bots_healthy :
    let before := evaluate {} reported lone "conference" "pristine" []
    let later := evaluate {} (reported.insert "bot-2" quiet) (lone.insert "bot-2" healthy)
      "conference" "pristine" []
    ∀ r ∈ before,∃ r' ∈ later,r'.id = r.id ∧
      (r.verdict = .fail →
        r'.verdict = .fail ∨ r.id = "L1-12" ∨ r.id = "L1-21" ∨ r.id = "L1-13" ∧ reported = ∅) := by
  have bots : (lone.insert "bot-2" healthy).entries.Perm (⟨"bot-2",healthy⟩ :: lone.entries) := by
    rw [AList.entries_insert_of_notMem (by decide)]
  have reports : (reported.insert "bot-2" quiet).entries.Perm
      (⟨"bot-2",quiet⟩ :: reported.entries) := by
    rw [AList.entries_insert_of_notMem (by decide)]
  exact more_bots {} {} bots reports "conference" "pristine" []

-- the three exceptions do occur
example : (evalL112 lone .l112).map (·.verdict) = some .fail ∧
    (evalL112 (lone.insert "bot-2" healthy) .l112).map (·.verdict) = some .pass := by decide +kernel

example : (evalL113 ∅ .l113 "pristine").map (·.verdict) = some .fail ∧
    (evalL113 (AList.singleton "bot-2" quiet) .l113 "pristine").map (·.verdict) = some .pass := by
  decide +kernel

example :
    let sharing : BotObservations := AList.singleton "bot-1" { screenShareSsrcPublished := some 7 }
    (evalL121 sharing .l121 default).map (·.verdict) = some .fail ∧
      (evalL121 (sharing.insert "bot-2" { screenShareSsrcsReceived := {7} }) .l121 default).map
        (·.verdict) = some .pass := by
  decide +kernel

end Oxlab.MoreBots
