import Oxlab.Bot.Floor
import Oxlab.Library.Run
import Oxlab.Scenario.CheckpointEval

/-! The floor flag and the packets it judges.
The server relays only between an FTKN and the FIDL after it; the bot learns of
either when it next polls the WebSocket. Media comes over the other channel and
is judged by the last message the bot has acted on. -/
namespace Oxlab.FloorRace
open Common.Media Bot.Subscribe Bot.Floor Judge Library Scenario.CheckpointEval

/-- The server's gate, the floor messages the bot has not drained yet, the media
in flight (packets by their plaintext), and the bot. -/
structure FloorNet where
  relaying : Bool := false
  websocket : List FloorBody := []
  media : List Bytes := []
  bot : SubTask

inductive Label
  | sendFloor (body : FloorBody)
  | relay (pkt : Bytes)
  | deliver (now : Instant) (pkt : Bytes)
  | processEvents (drained : List FloorBody)
  | awaitFloorTaken (drained : List FloorBody)

def gateAfter (relaying : Bool) : FloorKind → Bool
  | .ftkn => true
  | .fidl => false
  | .frvk => relaying

/-- A poll drains what has arrived by then, in order; media in flight is
delivered in any order, or never. -/
def step (s : FloorNet) : Label → Option FloorNet
  | .sendFloor body =>
    some { s with
      relaying := gateAfter s.relaying body.kind
      websocket := s.websocket ++ [body] }
  | .relay pkt => if s.relaying then some { s with media := s.media ++ [pkt] } else none
  | .deliver now pkt =>
    if pkt ∈ s.media then
      some { s with media := s.media.erase pkt, bot := s.bot.onRtp now pkt }
    else none
  | .processEvents drained =>
    if drained <+: s.websocket then
      some { s with
        websocket := s.websocket.drop drained.length
        bot := (Handled.processEvents { task := s.bot } (drained.map (·.raw))).task }
    else none
  | .awaitFloorTaken drained =>
    if drained <+: s.websocket then
      some { s with
        websocket := s.websocket.drop drained.length
        bot := (Handled.awaitFloorTaken { task := s.bot } (drained.map (·.raw))).2.task }
    else none

def start : FloorNet := { bot := { mode := "ptt" } }

def NoLeak (id : String) (d : CheckpointDef) (s : FloorNet) : Prop :=
  s.bot.observations.pttNonSpeakerRtpCount = 0 ∧
    (evalL104 (AList.singleton id s.bot.observations) d "ptt").map (·.verdict) ≠ some .fail

/-- The floor messages a poll acts on: the wait stops at the first FTKN. -/
def acted : Label → List FloorKind
  | .processEvents drained => drained.map (·.kind)
  | .awaitFloorTaken drained => if .ftkn ∈ drained.map (·.kind) then [.ftkn] else []
  | _ => []

/-- Whenever a packet is delivered, the last turn the bot has acted on is an FTKN. -/
def GrantKnown (labels : List Label) : Prop :=
  ∀ before now pkt after, labels = before ++ .deliver now pkt::after → 12 ≤ pkt.length →
    lastTurn (before.flatMap acted) = some .ftkn

theorem noLeak_iff (id : String) (d : CheckpointDef) (s : FloorNet) :
    NoLeak id d s ↔ (tally s.bot.observations).nonSpeakerRtp = 0 := by
  constructor
  · intro quiet
    exact quiet.1
  · intro zero
    change s.bot.observations.pttNonSpeakerRtpCount = 0 at zero
    refine ⟨zero,?_⟩
    rw [evalL104_verdict]
    simp [zero]

def Leaked (s : FloorNet) : Label → Prop
  | .deliver _ pkt => 12 ≤ pkt.length ∧ s.bot.floorState.floorIdle = true
  | _ => False

theorem await_observed (task : SubTask) (drained : List FloorBody) :
    let next := (Handled.awaitFloorTaken { task := task } (drained.map (·.raw))).2.task
    next.ptt = task.ptt ∧ next.observations = task.observations ∧
      next.floorState.floorIdle =
        freed task.floorState.floorIdle (acted (.awaitFloorTaken drained)) := by
  simp only [awaitFloorTaken_task,acted]
  split
  next => exact ⟨rfl,rfl,rfl⟩
  next => exact ⟨rfl,rfl,rfl⟩

theorem step_ptt {s next : FloorNet} {label : Label} (stepped : step s label = some next) :
    next.bot.ptt = s.bot.ptt := by
  cases label <;> simp only [step,Option.ite_none_right_eq_some,Option.some.injEq] at stepped
  case sendFloor body => rw [← stepped]
  all_goals obtain ⟨-,rfl⟩ := stepped
  case relay pkt => rfl
  case deliver now pkt => exact onRtp_ptt s.bot now pkt
  case processEvents drained => exact (processEvents_observed { task := s.bot } _).1
  case awaitFloorTaken drained => exact (await_observed s.bot drained).1

theorem step_floorIdle {s next : FloorNet} {label : Label} (stepped : step s label = some next) :
    next.bot.floorState.floorIdle = freed s.bot.floorState.floorIdle (acted label) := by
  cases label <;> simp only [step,Option.ite_none_right_eq_some,Option.some.injEq] at stepped
  case sendFloor body => rw [← stepped]; rfl
  all_goals obtain ⟨-,rfl⟩ := stepped
  case relay pkt => rfl
  case deliver now pkt => exact (onRtp_flags s.bot now pkt).1
  case processEvents drained => exact (processEvents_flags { task := s.bot } drained).1
  case awaitFloorTaken drained => exact (await_observed s.bot drained).2.2

theorem step_nonSpeakerRtp {s next : FloorNet} {label : Label}
    (stepped : step s label = some next) (ptt : s.bot.ptt = true) :
    (Leaked s label → (tally next.bot.observations).nonSpeakerRtp =
        (tally s.bot.observations).nonSpeakerRtp + 1) ∧
      (¬Leaked s label → (tally next.bot.observations).nonSpeakerRtp =
        (tally s.bot.observations).nonSpeakerRtp) := by
  cases label <;> simp only [step,Option.ite_none_right_eq_some,Option.some.injEq] at stepped
  case sendFloor body => rw [← stepped]; exact ⟨False.elim,fun _ => rfl⟩
  all_goals obtain ⟨-,rfl⟩ := stepped
  case relay pkt => exact ⟨False.elim,fun _ => rfl⟩
  case deliver now pkt =>
    simp only [onRtp_nonSpeakerRtp,ptt,true_and,Leaked]
    constructor
    · intro leaked
      rw [if_pos leaked]
    · intro kept
      rw [if_neg kept]
      rfl
  case processEvents drained =>
    rw [(processEvents_observed { task := s.bot } _).2]
    exact ⟨False.elim,fun _ => rfl⟩
  case awaitFloorTaken drained =>
    rw [(await_observed s.bot drained).2.1]
    exact ⟨False.elim,fun _ => rfl⟩

theorem exec_floorIdle {s : FloorNet} {labels : List Label}
    (ran : Run.exec step start labels = some s) :
    s.bot.floorState.floorIdle = freed true (labels.flatMap acted) := by
  have folded := Run.exec_observed step (fun s => s.bot.floorState.floorIdle)
    (fun idle label => freed idle (acted label)) (fun _ _ _ => step_floorIdle) labels start s ran
  have joined (idle : Bool) : labels.foldl (fun idle label => freed idle (acted label)) idle =
      freed idle (labels.flatMap acted) := by
    clear folded ran
    induction labels generalizing idle with
    | nil => rfl
    | cons label rest ih => rw [List.foldl_cons,ih,List.flatMap_cons,freed_append]
  exact folded.trans (joined true)

/-- L1-04 stays quiet through a run exactly when every packet is delivered after
a grant the bot has acted on, and before it acts on the release. -/
theorem quiet_iff_grantKnown (id : String) (d : CheckpointDef) (labels : List Label)
    (final : FloorNet) (ran : Run.exec step start labels = some final) :
    Run.Always step (NoLeak id d) start labels ↔ GrantKnown labels := by
  have counted := Run.always_zero_iff_clean step (fun s => s.bot.ptt = true)
    (fun s => (tally s.bot.observations).nonSpeakerRtp) Leaked
    (fun _ _ _ ptt stepped => (step_ptt stepped).trans ptt)
    (fun _ _ _ ptt stepped => step_nonSpeakerRtp stepped ptt) labels start final rfl rfl ran
  have quiet : NoLeak id d = fun s => (tally s.bot.observations).nonSpeakerRtp = 0 := by
    funext s
    exact propext (noLeak_iff id d s)
  rw [quiet,counted,Run.clean_labels step Leaked (fun before label => ∃ now pkt,
    label = .deliver now pkt ∧ 12 ≤ pkt.length ∧ lastTurn (before.flatMap acted) ≠ some .ftkn)
    start final labels ran]
  · constructor
    · intro kept before now pkt after split whole
      by_contra unknown
      exact kept before _ after split ⟨now,pkt,rfl,whole,unknown⟩
    · rintro known before label after split ⟨now,pkt,rfl,whole,unknown⟩
      exact unknown (known before now pkt after split whole)
  · intro before s label reached
    have idle := exec_floorIdle reached
    cases label with
    | deliver now pkt => simp [Leaked,idle,freed_true]
    | _ => simp [Leaked]

def opus : Bytes := [0x80,111] ++ List.replicate 30 0

def unpolled : List Label := [.sendFloor .ftkn,.relay opus,.deliver 0 opus]

theorem unpolled_fails :
    (Run.exec step start unpolled).map (fun s =>
        (s.bot.observations.pttNonSpeakerRtpCount,
          (evalL104 (AList.singleton "bot-1" s.bot.observations) .l104 "ptt").map (·.verdict))) =
        some (1,some .fail) ∧
      ¬Run.Always step (NoLeak "bot-1" .l104) start unpolled := by
  have failed : (Run.exec step start unpolled).map (fun s =>
      (s.bot.observations.pttNonSpeakerRtpCount,
        (evalL104 (AList.singleton "bot-1" s.bot.observations) .l104 "ptt").map (·.verdict))) =
      some (1,some .fail) := by
    decide +kernel
  refine ⟨failed,?_⟩
  apply Run.not_always step _ _ failed
  intro s seen quiet
  have one := congrArg Prod.fst seen
  exact absurd (one.symm.trans quiet.1) (by decide)

def polled : List Label := [.sendFloor .ftkn,.relay opus,.processEvents [.ftkn],.deliver 0 opus]

theorem quiet_iff_grantKnown_polled :
    Run.Always step (NoLeak "bot-1" .l104) start polled := by
  have runs : (Run.exec step start polled).isSome := by decide +kernel
  obtain ⟨final,ran⟩ := Option.isSome_iff_exists.mp runs
  refine (quiet_iff_grantKnown "bot-1" .l104 polled final ran).mpr ?_
  intro before now pkt after split _
  match before,split with
  | [],split => simp [polled] at split
  | [_],split => simp [polled] at split
  | [_,_],split => simp [polled] at split
  | [_,_,_],split =>
    obtain ⟨rfl,rfl,rfl,_⟩ : _ ∧ _ ∧ _ ∧ _ := by simpa [polled] using split
    decide
  | _::_::_::_::_,split => simp [polled] at split

end Oxlab.FloorRace
