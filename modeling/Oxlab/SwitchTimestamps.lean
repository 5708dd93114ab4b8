import Oxlab.LayerSwitches

/-! The timestamp before a layer switch.
The receive task notes a packet's timestamp in its map before it looks at the
switch, and then takes the first entry of the map for the timestamp before. What
was there before the call is gone by then; only another stream can bring the same
number back. -/
namespace Oxlab.SwitchTimestamps
open Common.Media Bot.Observations Bot.Subscribe Judge LayerSwitches Library
open Scenario.CheckpointEval Scenario.Criteria Scenario.Evaluate

def videos (events : List SwitchEvent) : List RtpFields :=
  events.filterMap (fun event =>
    match event with
    | .rtp _ plaintext => if isVideoPacket plaintext then some (rtpFields plaintext) else none
    | _ => none)

def note (last : SsrcLast) : SwitchEvent → SsrcLast
  | .rtp now plaintext =>
    if plaintext.length < 12 then last
    else last.insert (rtpFields plaintext).ssrc (now,(rtpFields plaintext).ts)
  | _ => last

/-- The last packet of each SSRC. -/
def seen (events : List SwitchEvent) : SsrcLast := events.foldl note ∅

/-- A step forward by less than half the range of timestamps. -/
def Advances (p q : RtpFields) : Prop := 1 ≤ (q.ts - p.ts).toNat ∧ (q.ts - p.ts).toNat < 2^31

/-- Video advances on every SSRC, and every switch to a layer comes after a video
packet whose SSRC is the only one from there on. -/
structure SteadyVideo (events : List SwitchEvent) : Prop where
  advances : ∀ ssrc,((videos events).filter (·.ssrc = ssrc)).IsChain Advances
  continues : ∀ before now layer after,
    events = before ++ .subscribeLayer now layer::after → layer ≠ "pause" →
      ∃ last,(videos before).getLast? = some last ∧
        ∀ video ∈ videos after,video.ssrc = last.ssrc

/-- Neither a call nor video. -/
def Quiet (middle : List SwitchEvent) : Prop :=
  ∀ event ∈ middle,event.isVideo = false ∧ ∀ now layer,event ≠ .subscribeLayer now layer

/-- A call and the first video packet after it, with nothing of the kind between. -/
structure Answered (events : List SwitchEvent) where
  before : List SwitchEvent
  requestTime : Instant
  layer : String
  middle : List SwitchEvent
  now : Instant
  plaintext : Bytes
  later : List SwitchEvent
  split : events = before ++ .subscribeLayer requestTime layer::(middle ++ .rtp now plaintext::later)
  quiet : Quiet middle
  video : isVideoPacket plaintext = true

namespace Answered
variable {events : List SwitchEvent} (site : Answered events)

def ahead : List SwitchEvent := site.before ++ .subscribeLayer site.requestTime site.layer::site.middle

def upTo : List SwitchEvent := site.ahead ++ [.rtp site.now site.plaintext]

def first : RtpFields := rtpFields site.plaintext

theorem events_eq : events = site.upTo ++ site.later := by
  rw [upTo,ahead]
  simpa using site.split

end Answered

section run
variable (mode : String) (order : Table.Order UInt32 (Instant × UInt32))

theorem run_concat (events : List SwitchEvent) (event : SwitchEvent) :
    run mode order (events ++ [event]) = observe (run mode order events) event := by
  rw [run,List.foldl_append]
  rfl

theorem observe_ssrc (task : SubTask) (event : SwitchEvent) :
    (observe task event).ssrcOrder = task.ssrcOrder ∧
      (observe task event).ssrcLast = note task.ssrcLast event := by
  cases event with
  | rtp now plaintext =>
    rw [observe,SubTask.onRtp,note]
    split <;> exact ⟨rfl,rfl⟩
  | floor kind => cases kind <;> exact ⟨rfl,rfl⟩
  | _ => exact ⟨rfl,rfl⟩

theorem run_ssrc (events : List SwitchEvent) : (run mode order events).ssrcOrder = order ∧
    (run mode order events).ssrcLast = seen events := by
  induction events using List.reverseRecOn with
  | nil => exact ⟨rfl,rfl⟩
  | append_singleton front event ih =>
    obtain ⟨kept,last⟩ := observe_ssrc (run mode order front) event
    rw [run_concat,kept,last,seen,List.foldl_append,ih.2]
    exact ⟨ih.1,rfl⟩

theorem switches_grow (task : SubTask) (event : SwitchEvent) :
    switches task <+: switches (observe task event) := by
  rcases event.kinds with ⟨now,layer,rfl⟩ | ⟨now,plaintext,rfl,video⟩ | ⟨other,kept⟩
  · exact List.prefix_refl _
  · rw [observe,(onRtp_video task now plaintext video).1]
    exact List.prefix_append _ _
  · rw [(observe_other task event other kept).1]

theorem switches_prefix (events later : List SwitchEvent) :
    switches (run mode order events) <+: switches (run mode order (events ++ later)) := by
  induction later using List.reverseRecOn with
  | nil => rw [List.append_nil]
  | append_singleton front event ih =>
    rw [← List.append_assoc,run_concat]
    exact ih.trans (switches_grow _ event)

theorem awaiting_quiet (before : List SwitchEvent) (now : Instant) (layer : String)
    {middle : List SwitchEvent} (quiet : Quiet middle) :
    switches (run mode order (before ++ .subscribeLayer now layer::middle)) =
        switches (run mode order before) ∧
      awaiting (run mode order (before ++ .subscribeLayer now layer::middle)) =
        some ⟨layer,now,none,false⟩ := by
  induction middle using List.reverseRecOn with
  | nil =>
    rw [run_concat]
    exact ⟨rfl,rfl⟩
  | append_singleton front event ih =>
    obtain ⟨held,waits⟩ := ih (fun e inside => quiet e (List.mem_append_left _ inside))
    obtain ⟨silent,kept⟩ := quiet event (by simp)
    obtain ⟨same,still⟩ := observe_other
      (run mode order (before ++ .subscribeLayer now layer::front)) event silent kept
    rw [← List.cons_append,← List.append_assoc,run_concat,same,still]
    exact ⟨held,waits⟩

theorem awaiting_split (events : List SwitchEvent) {sw : PendingLayerSwitch}
    (waits : awaiting (run mode order events) = some sw) :
    ∃ before now layer middle,events = before ++ .subscribeLayer now layer::middle ∧ Quiet middle ∧
      sw = ⟨layer,now,none,false⟩ := by
  induction events using List.reverseRecOn with
  | nil => contradiction
  | append_singleton front event ih =>
    rw [run_concat] at waits
    rcases event.kinds with ⟨now,layer,rfl⟩ | ⟨now,plaintext,rfl,video⟩ | ⟨other,kept⟩
    · refine ⟨front,now,layer,[],rfl,fun _ inside => absurd inside List.not_mem_nil,?_⟩
      exact (Option.some.inj waits).symm
    · rw [observe,(onRtp_video _ now plaintext video).2] at waits
      contradiction
    · obtain ⟨_,still⟩ := observe_other (run mode order front) event other kept
      obtain ⟨before,now,layer,middle,rfl,quiet,same⟩ := ih (still ▸ waits)
      refine ⟨before,now,layer,middle ++ [event],by simp,?_,same⟩
      intro e inside
      rcases List.mem_append.mp inside with early | final
      · exact quiet e early
      · rw [List.mem_singleton.mp final]
        exact ⟨other,kept⟩

def record (events : List SwitchEvent) (site : Answered events) : LayerSwitchEvent :=
  switchRecord (run mode order site.ahead) site.now site.plaintext
    ⟨site.layer,site.requestTime,none,false⟩

variable {events : List SwitchEvent}

theorem switches_answered (site : Answered events) : ∃ rest,switches (run mode order events) =
    switches (run mode order site.before) ++ record mode order events site::rest := by
  obtain ⟨rest,grown⟩ := switches_prefix mode order site.upTo site.later
  obtain ⟨held,waits⟩ := awaiting_quiet mode order site.before site.requestTime site.layer site.quiet
  have answered := (onRtp_video (run mode order site.ahead) site.now site.plaintext site.video).1
  rw [← site.events_eq,Answered.upTo,run_concat,observe,answered,Answered.ahead,held,waits] at grown
  refine ⟨rest,?_⟩
  rw [← grown]
  simp [record,Answered.ahead]

theorem record_at (site : Answered events) :
    (switches (run mode order events))[(switches (run mode order site.before)).length]? =
      some (record mode order events site) := by
  obtain ⟨rest,grown⟩ := switches_answered mode order site
  rw [grown,List.getElem?_append_right (Nat.le_refl _),Nat.sub_self]
  rfl

theorem answered_of_record {found : LayerSwitchEvent}
    (made : found ∈ switches (run mode order events)) :
    ∃ site : Answered events,found = record mode order events site := by
  induction events using List.reverseRecOn with
  | nil => contradiction
  | append_singleton front event ih =>
    by_cases early : found ∈ switches (run mode order front)
    · obtain ⟨site,same⟩ := ih early
      exact ⟨{ site with later := site.later ++ [event],split := by simp [site.split] },same⟩
    · rw [run_concat] at made
      rcases event.kinds with ⟨now,layer,rfl⟩ | ⟨now,plaintext,rfl,video⟩ | ⟨other,kept⟩
      · exact absurd made early
      · rw [observe,(onRtp_video _ now plaintext video).1] at made
        have answer := (List.mem_append.mp made).resolve_left early
        obtain ⟨sw,waits,same⟩ := Option.map_eq_some_iff.mp (Option.mem_toList.mp answer)
        obtain ⟨before,requestTime,layer,middle,rfl,quiet,rfl⟩ :=
          awaiting_split mode order front waits
        refine ⟨⟨before,requestTime,layer,middle,now,plaintext,[],?_,quiet,video⟩,same.symm⟩
        simp
      · rw [(observe_other (run mode order front) event other kept).1] at made
        exact absurd made early

theorem seen_upTo (site : Answered events) : seen site.upTo =
    (seen site.ahead).insert site.first.ssrc (site.now,site.first.ts) := by
  have whole := ((isVideoPacket_iff site.plaintext).mp site.video).1
  rw [Answered.upTo,seen,List.foldl_append]
  exact if_neg whole

theorem seen_own (site : Answered events) :
    (seen site.upTo).lookup site.first.ssrc = some (site.now,site.first.ts) := by
  rw [seen_upTo,AList.lookup_insert]

theorem record_tsBefore (site : Answered events) : (record mode order events site).tsBefore =
    ((order.values (seen site.upTo)).map Prod.snd).head? := by
  obtain ⟨kept,last⟩ := run_ssrc mode order site.ahead
  have upTo : seen site.upTo = noted (run mode order site.ahead) site.now site.plaintext := by
    rw [seen_upTo,← last]
    rfl
  simp only [record,switchRecord,settleSwitch,upTo,kept]
  rfl

end run

section videos

theorem videos_append (front back : List SwitchEvent) :
    videos (front ++ back) = videos front ++ videos back := List.filterMap_append

theorem videos_quiet {middle : List SwitchEvent} (quiet : Quiet middle) : videos middle = [] := by
  rw [videos,List.filterMap_eq_nil_iff]
  intro event inside
  have silent := (quiet event inside).1
  cases event with
  | rtp now plaintext =>
    have other : isVideoPacket plaintext = false := silent
    simp [other]
  | _ => rfl

theorem heard_split {events : List SwitchEvent} (came : heard events = true) :
    ∃ middle now plaintext later,events = middle ++ .rtp now plaintext::later ∧ Quiet middle ∧
      isVideoPacket plaintext = true := by
  induction events with
  | nil => contradiction
  | cons event rest ih =>
    rcases event.kinds with ⟨now,layer,rfl⟩ | ⟨now,plaintext,rfl,video⟩ | ⟨other,kept⟩
    · contradiction
    · exact ⟨[],now,plaintext,rest,rfl,fun _ inside => absurd inside List.not_mem_nil,video⟩
    · rw [(windows_other event other kept rest).1] at came
      obtain ⟨middle,now,plaintext,later,rfl,quiet,video⟩ := ih came
      exact ⟨event::middle,now,plaintext,later,rfl,
        List.forall_mem_cons.mpr ⟨⟨other,kept⟩,quiet⟩,video⟩

variable {events : List SwitchEvent}

theorem heard_answered (site : Answered events) :
    heard (site.middle ++ .rtp site.now site.plaintext::site.later) = true := by
  have quiet := site.quiet
  generalize site.middle = middle at quiet
  induction middle with
  | nil =>
    change (isVideoPacket site.plaintext || heard site.later) = true
    rw [site.video,Bool.true_or]
  | cons event rest ih =>
    obtain ⟨⟨other,kept⟩,others⟩ := List.forall_mem_cons.mp quiet
    rw [List.cons_append,(windows_other event other kept _).1]
    exact ih others

theorem steady_advances (steady : SteadyVideo events) (site : Answered events)
    (layer : site.layer ≠ "pause") :
    ∃ last,(videos site.before).getLast? = some last ∧ Advances last site.first := by
  obtain ⟨last,lastly,same⟩ := steady.continues _ _ _ _ site.split layer
  refine ⟨last,lastly,?_⟩
  have after : videos (site.middle ++ .rtp site.now site.plaintext::site.later) =
      site.first::videos site.later := by
    rw [videos_append,videos_quiet site.quiet]
    simp [videos,site.video,Answered.first]
  have ssrc : site.first.ssrc = last.ssrc := same site.first (by rw [after]; exact List.mem_cons_self ..)
  obtain ⟨init,ends⟩ := List.getLast?_eq_some_iff.mp lastly
  have all : videos events = init ++ last::site.first::videos site.later := by
    have called : videos (.subscribeLayer site.requestTime site.layer::(site.middle ++
        .rtp site.now site.plaintext::site.later)) = site.first::videos site.later := after
    rw [congrArg videos site.split,videos_append,ends,called,List.append_assoc,
      List.singleton_append]
  have chain := steady.advances last.ssrc
  rw [all] at chain
  simp only [List.filter_append,List.filter_cons,ssrc,decide_true,if_true] at chain
  exact (List.isChain_append_cons_cons.mp chain).2.1

end videos

section keeps
variable (mode : String) (order : Table.Order UInt32 (Instant × UInt32)) (events : List SwitchEvent)

/-- Every switch to a layer that video follows before the next call has the timestamp
of the last video packet before it in its record, and the check of the bot's
timestamps does not fail. -/
structure KeepsTimestamps : Prop where
  tsBefore : ∀ before now layer after last,
    events = before ++ .subscribeLayer now layer::after → layer ≠ "pause" →
      heard after = true → (videos before).getLast? = some last →
        ∃ made,(switches (run mode order events))[(switches (run mode order before)).length]? =
            some made ∧ made.requestedLayer = layer ∧ made.tsBefore = some last.ts
  judged : ∀ botId (d : CheckpointDef),
    (evalL119 (AList.singleton botId (run mode order events).observations) d).map (·.verdict) ≠
      some .fail

/-- The first entry of the map is by chance that of another stream whose last
timestamp is the one looked for. -/
def ChanceEntry (site : Answered events) (last : RtpFields) : Prop :=
  ∃ other time,other ≠ site.first.ssrc ∧ (seen site.upTo).lookup other = some (time,last.ts) ∧
    (order.values (seen site.upTo)).head? = some (time,last.ts)

variable {events}

theorem tsBefore_of_chance {site : Answered events} {last : RtpFields}
    (chance : ChanceEntry order events site last) :
    (record mode order events site).tsBefore = some last.ts := by
  obtain ⟨_,_,_,_,first⟩ := chance
  rw [record_tsBefore,List.head?_map,first]
  rfl

/-- The packet's own entry does not bring the number back: its timestamp has advanced. -/
theorem chance_of_tsBefore {site : Answered events} {last : RtpFields}
    (ahead : Advances last site.first)
    (read : (record mode order events site).tsBefore = some last.ts) :
    ChanceEntry order events site last := by
  rw [record_tsBefore,List.head?_map] at read
  obtain ⟨⟨time,ts⟩,first,same⟩ := Option.map_eq_some_iff.mp read
  have same : ts = last.ts := same
  have listed := (order.perm (seen site.upTo)).mem_iff.mp (List.mem_of_mem_head? first)
  obtain ⟨other,entry⟩ := (Table.mem_values _ _).mp listed
  rw [same] at first entry
  refine ⟨other,time,?_,entry,first⟩
  rintro rfl
  rw [seen_own,Option.some.injEq,Prod.mk.injEq] at entry
  rw [Advances,entry.2,UInt32.sub_self] at ahead
  exact absurd ahead.1 (by decide)

/-- Where every switch to a layer has a timestamp behind that of the packet that
answers it, the check does not fail. -/
theorem evalL119_forward (forward : ∀ site : Answered events,site.layer ≠ "pause" →
      ∃ last,(record mode order events site).tsBefore = some last.ts ∧ Advances last site.first)
    (botId : String) (d : CheckpointDef) :
    (evalL119 (AList.singleton botId (run mode order events).observations) d).map (·.verdict) ≠
      some .fail := by
  intro failed
  obtain ⟨_,obs,member,sw,judged,backward⟩ := (evalL119_judged _ d).failed.mp failed
  rw [Table.values_singleton,List.mem_singleton] at member
  subst member
  obtain ⟨made,active,read⟩ := List.mem_filterMap.mp judged
  obtain ⟨recorded,layer⟩ := List.mem_filter.mp active
  obtain ⟨site,rfl⟩ := answered_of_record mode order recorded
  obtain ⟨last,tsBefore,ahead,within⟩ := forward site (of_decide_eq_true layer)
  have tsAfter : (record mode order events site).tsAfter = some site.first.ts := rfl
  rw [tsBefore,tsAfter] at read
  cases Option.some.inj read
  change (site.first.ts - last.ts).toInt32 ≤ 0 at backward
  rw [toInt32_nonpos] at backward
  omega

/-- For every run with steady video: the timestamps are kept exactly when
each switch to a layer finds such an entry at the first video packet after it. -/
theorem keepsTimestamps_iff (steady : SteadyVideo events) : KeepsTimestamps mode order events ↔
    ∀ (site : Answered events) (last : RtpFields),site.layer ≠ "pause" →
      (videos site.before).getLast? = some last → ChanceEntry order events site last := by
  constructor
  · intro keeps site last layer lastly
    obtain ⟨made,made_at,_,tsBefore⟩ :=
      keeps.tsBefore _ _ _ _ last site.split layer (heard_answered site) lastly
    rw [record_at] at made_at
    cases Option.some.inj made_at
    obtain ⟨last',lastly',ahead⟩ := steady_advances steady site layer
    cases Option.some.inj (lastly.symm.trans lastly')
    exact chance_of_tsBefore mode order ahead tsBefore
  · intro chances
    refine ⟨?_,?_⟩
    · intro before now layer after last split active came lastly
      obtain ⟨middle,time,plaintext,later,rfl,quiet,video⟩ := heard_split came
      let site : Answered events := ⟨before,now,layer,middle,time,plaintext,later,split,quiet,video⟩
      exact ⟨record mode order events site,record_at mode order site,rfl,
        tsBefore_of_chance mode order (chances site last active lastly)⟩
    · apply evalL119_forward
      intro site layer
      obtain ⟨last,lastly,ahead⟩ := steady_advances steady site layer
      exact ⟨last,tsBefore_of_chance mode order (chances site last layer lastly),ahead⟩

end keeps

section once
variable {front before after : List SwitchEvent} {requestTime now requestTime' : Instant}
  {layer layer' : String} {plaintext : Bytes}

def once (front : List SwitchEvent) (requestTime : Instant) (layer : String) (now : Instant)
    (plaintext : Bytes) : List SwitchEvent :=
  front ++ [.subscribeLayer requestTime layer,.rtp now plaintext]

theorem once_split (free : ∀ event ∈ front,∀ now layer,event ≠ .subscribeLayer now layer)
    (split : once front requestTime layer now plaintext =
      before ++ .subscribeLayer requestTime' layer'::after) :
    before = front ∧ requestTime' = requestTime ∧ layer' = layer ∧ after = [.rtp now plaintext] := by
  induction front generalizing before with
  | nil =>
    cases before with
    | nil =>
      obtain ⟨call,rest⟩ := List.cons.inj split
      cases call
      exact ⟨rfl,rfl,rfl,rest.symm⟩
    | cons first others =>
      obtain ⟨_,rest⟩ := List.cons.inj split
      cases others with
      | nil => cases (List.cons.inj rest).1
      | cons second more => exact absurd (List.cons.inj rest).2.symm (by simp)
  | cons first others ih =>
    obtain ⟨here,later⟩ := List.forall_mem_cons.mp free
    cases before with
    | nil => exact absurd (List.cons.inj split).1 (here _ _)
    | cons head tail =>
      obtain ⟨rfl,rest⟩ := List.cons.inj split
      obtain ⟨rfl,same⟩ := ih later rest
      exact ⟨rfl,same⟩

theorem once_steady (free : ∀ event ∈ front,∀ now layer,event ≠ .subscribeLayer now layer)
    (video : isVideoPacket plaintext = true) (last : RtpFields)
    (lastly : (videos front).getLast? = some last) (ssrc : (rtpFields plaintext).ssrc = last.ssrc)
    (advances : ∀ ssrc,((videos (once front requestTime layer now plaintext)).filter
      (·.ssrc = ssrc)).IsChain Advances) :
    SteadyVideo (once front requestTime layer now plaintext) := by
  refine ⟨advances,?_⟩
  intro before requestTime' layer' after split _
  obtain ⟨rfl,_,_,rfl⟩ := once_split free split
  have came : videos [.rtp now plaintext] = [rtpFields plaintext] := by simp [videos,video]
  refine ⟨last,lastly,?_⟩
  intro found member
  rw [came,List.mem_singleton] at member
  rw [member,ssrc]

end once

theorem advances_two {p q : RtpFields} (ahead : Advances p q) (ssrc : UInt32) :
    ([p,q].filter (·.ssrc = ssrc)).IsChain Advances := by
  simp only [List.filter_cons,List.filter_nil]
  split <;> split <;> simp [ahead]

/-- A packet with no payload and the timestamp in its two low bytes. -/
def packet (pt high low ssrc : UInt8) : Bytes := [0x80,pt,0,1,0,0,high,low,0,0,0,ssrc]

def videoOnly : List SwitchEvent :=
  once [.rtp 0 (packet 96 3 0xE8 7)] 10 "h" 20 (packet 96 0x0F 0xA0 7)

theorem videoOnly_steady : SteadyVideo videoOnly := by
  apply once_steady (by simp) (by decide) ⟨1,1000,7,96⟩ rfl rfl
  intro ssrc
  have read : videos videoOnly = [⟨1,1000,7,96⟩,⟨1,4000,7,96⟩] := rfl
  rw [← videoOnly,read]
  apply advances_two
  simp [Advances]

theorem own_timestamp_taken : ¬∀ mode order events,SteadyVideo events →
    KeepsTimestamps mode order events := by
  intro claimed
  have keeps := claimed "conference" default videoOnly videoOnly_steady
  obtain ⟨made,noted,_,tsBefore⟩ := keeps.tsBefore [.rtp 0 (packet 96 3 0xE8 7)] 10 "h"
    [.rtp 20 (packet 96 0x0F 0xA0 7)] _ rfl (by decide) rfl rfl
  have taken : ((switches (run "conference" default videoOnly))[0]?).bind (·.tsBefore) =
      some 4000 := rfl
  have first : (switches (run "conference" default videoOnly))[0]? = some made := noted
  rw [first,Option.bind_some,tsBefore] at taken
  contradiction

/-- An audio packet with the same timestamp as the video packet, and a map that
enumerates its entries in the order of their insertion. -/
def audioFirst : List SwitchEvent :=
  once [.rtp 0 (packet 111 3 0xE8 9),.rtp 0 (packet 96 3 0xE8 7)] 10 "h" 20 (packet 96 0x0F 0xA0 7)

def oldestFirst : Table.Order UInt32 (Instant × UInt32) where
  values table := table.values.reverse
  perm table := List.reverse_perm table.values

theorem audioFirst_steady : SteadyVideo audioFirst := by
  apply once_steady (by simp) (by decide) ⟨1,1000,7,96⟩ rfl rfl
  intro ssrc
  have read : videos audioFirst = [⟨1,1000,7,96⟩,⟨1,4000,7,96⟩] := rfl
  rw [← audioFirst,read]
  apply advances_two
  simp [Advances]

theorem keepsTimestamps_iff_chance : KeepsTimestamps "conference" oldestFirst audioFirst := by
  refine (keepsTimestamps_iff "conference" oldestFirst audioFirst_steady).mpr ?_
  rintro ⟨before,requestTime,layer,middle,now,plaintext,later,split,quiet,video⟩ last _ lastly
  obtain ⟨rfl,rfl,rfl,after⟩ := once_split (by simp) split
  cases middle with
  | nil =>
    obtain ⟨same,rfl⟩ := List.cons.inj after
    cases same
    cases Option.some.inj lastly
    have ts : (rtpFields (packet 96 3 0xE8 7)).ts = 1000 := by decide
    have ssrc : (rtpFields (packet 96 0x0F 0xA0 7)).ssrc = 7 := by decide
    have audio : (seen audioFirst).lookup 9 = some (0,1000) := by decide
    have first : (oldestFirst.values (seen audioFirst)).head? = some (0,1000) := by decide
    rw [← ts] at audio first
    refine ⟨9,0,?_,audio,first⟩
    change 9 ≠ (rtpFields (packet 96 0x0F 0xA0 7)).ssrc
    rw [ssrc]
    decide
  | cons event rest => exact absurd (List.cons.inj after).2 (by simp)

end Oxlab.SwitchTimestamps
