import Mathlib.Algebra.Order.Field.Rat
import Mathlib.Data.List.Sort
import Mathlib.Data.Rat.Floor
import Oxlab.Scenario.CheckpointEval

/-! The other checkpoints, and the evaluation of all that a list of categories
selects. Ratios are kept in exact arithmetic. -/
namespace Oxlab.Scenario.Evaluate
open Bot.Observations Bot.RtpSubscriber CheckpointEval Judge Library

def listDebug (items : List String) : String := "[" ++ ", ".intercalate items ++ "]"

def setDebug (items : List String) : String := "\x7b" ++ ", ".intercalate items ++ "\x7d"

def charDebug (c : Char) : String :=
  match c.toNat with
  | 0 => "\\0"
  | 9 => "\\t"
  | 10 => "\\n"
  | 13 => "\\r"
  | 34 => "\\\""
  | 92 => "\\\\"
  | _ => c.toString

def strDebug (s : String) : String := "\"" ++ String.join (s.toList.map charDebug) ++ "\""

/-- Two decimals of the exact ratio, a tie going to the even one. The code formats the
quotient in floating point, which can come out on the other side of a tie: 15840/96000
is 0.16 here and 0.17 there. -/
def fixed2 (value : ℚ) : String :=
  let down := (⌊value*100⌋).toNat
  let rest := value*100 - down
  let cents := if rest < 1/2 ∨ (rest = 1/2 ∧ down % 2 = 0) then down else down + 1
  let decimals := toString (cents % 100)
  toString (cents / 100) ++ "." ++ (if decimals.length < 2 then "0" ++ decimals else decimals)

/-- The orders in which one evaluation meets the entries of its own hash maps and
hash sets. Those it is given are enumerated as they come. -/
structure Orders where
  ntps : String → Table.Enumeration UInt32 (List (UInt32 × UInt32)) := default
  tss : String → Table.Enumeration UInt32 (List UInt32) := default
  receivers : Table.Enumeration UInt32 (List (String × Nat)) := default
  audioSsrcs : String → Table.SetEnumeration UInt32 := default
  videoSsrcs : String → Table.SetEnumeration UInt32 := default
  screenSsrcs : Table.SetEnumeration UInt32 := default

section eval
variable (observations : BotObservations) (d : CheckpointDef) (mode : String)

def gather {α : Type} (field : ObservationsInner → List α) : List α :=
  observations.values.flatMap field

/-- Nothing to judge without items; one wrong item fails them all. -/
def judgeItems {α : Type} (items : List α) (wrong : α → Bool) (failText : List α → String)
    (passText : String) : Option CheckpointResult :=
  if items.isEmpty then none
  else if !(items.filter wrong).isEmpty then
    some (.failFromDef d (failText (items.filter wrong)))
  else some (.passFromDef d passText)

def evalL101 : Option CheckpointResult :=
  let totalRr := observations.weight (·.rrReceivedCount)
  let maxSenderSsrcCount := ((observations.values.filter (fun obs => 0 < obs.rrReceivedCount)).map
    (·.rrSenderSsrcs.card)).foldl max 0
  let detailParts := linesOf observations
    (fun obs => 0 < obs.rrReceivedCount && 1 < obs.rrSenderSsrcs.card)
    (fun id obs => id ++ ": " ++ toString obs.rrSenderSsrcs.card ++ " sender SSRCs")
  if totalRr = 0 then none
  else if 1 < maxSenderSsrcCount then
    some (.failFromDef d (toString maxSenderSsrcCount ++
      " unique sender SSRCs detected (expected ≤1) [" ++ listed detailParts ++ "]"))
  else some (.passFromDef d ("rr_count=" ++ toString totalRr ++ " sender_ssrcs=1 (SFU only)"))

def ssrcLine (kind id : String) (ssrcs : Finset UInt32) (order : Table.SetEnumeration UInt32) :
    List String :=
  if 1 < ssrcs.card then
    [id ++ ": " ++ toString ssrcs.card ++ " " ++ kind ++ " SSRCs (expected 1): " ++
      setDebug ((order.list ssrcs).map toString)]
  else []

def evalL107 (audioOrder videoOrder : String → Table.SetEnumeration UInt32) :
    Option CheckpointResult :=
  if mode ≠ "ptt" then none
  else
    let failures := observations.entries.flatMap (fun e =>
      ssrcLine "audio" e.1 e.2.pttAudioSsrcs (audioOrder e.1) ++
        ssrcLine "video" e.1 e.2.pttVideoSsrcs (videoOrder e.1))
    let hasData := observations.values.any (fun obs =>
      obs.pttAudioSsrcs ≠ ∅ || obs.pttVideoSsrcs ≠ ∅)
    if !hasData then none
    else if !failures.isEmpty then
      some (.failFromDef d ("SSRC inconsistency: " ++ joined failures))
    else
      some (.passFromDef d "virtual SSRC consistent (1 audio + 1 video per subscriber)")

/-- The ticks that passed on the wall clock, in a 32-bit number. -/
def expectedTs (rec : TsGapRecord) : Nat := min (rec.wallGapMs*rec.sampleRate.toNat / 1000) (2^32-1)

def gapRatio (rec : TsGapRecord) : ℚ := (rec.rtpTsGap.toNat : ℚ) / expectedTs rec

def tsGapOff (rec : TsGapRecord) : Bool :=
  expectedTs rec ≠ 0 && (gapRatio rec < 4/5 || 6/5 < gapRatio rec)

def evalL108 : Option CheckpointResult :=
  if mode ≠ "ptt" then none
  else
    let allRecords := gather observations (·.pttTsGapRecords)
    let line (rec : TsGapRecord) := "SSRC=" ++ hex8 rec.ssrc ++ " wall=" ++
      toString rec.wallGapMs ++ "ms ts_gap=" ++ toString rec.rtpTsGap ++ " expected≈" ++
      toString (expectedTs rec) ++ " ratio=" ++ fixed2 (gapRatio rec)
    judgeItems d allRecords tsGapOff
      (fun violations => toString violations.length ++ "/" ++ toString allRecords.length ++
        " ts_gap violations: " ++ joined (violations.map line))
      (toString allRecords.length ++ " ts_gap records all within 20% tolerance")

def evalL109 : Option CheckpointResult :=
  let totalPli := observations.weight (·.pliReceivedCount)
  let responses := gather observations (·.pliToKeyframeMs)
  if totalPli = 0 then none
  else if 0 < responses.length then
    some (.passFromDef d ("pli=" ++ toString totalPli ++ " responses=" ++
      toString responses.length ++ " max_latency=" ++ toString (responses.max?.getD 0) ++ "ms"))
  else
    some (.passFromDef d ("pli=" ++ toString totalPli ++
      " (keyframe flag set, latency not measured)"))

def evalL110 : Option CheckpointResult :=
  let totalPli := observations.weight (·.pliReceivedCount)
  if totalPli = 0 then none
  else
    some (.passFromDef d ("pli_received=" ++ toString totalPli ++
      " (burst cancel verification requires server-side observation)"))

def evalL112 : Option CheckpointResult :=
  if !observations.values.any (·.tracksAckSent) then none
  else
    let totalPli := observations.weight (·.pliReceivedCount)
    if 0 < totalPli then
      some (.passFromDef d ("TRACKS_ACK sent + " ++ toString totalPli ++
        " PLI received (GATE:PLI delivered)"))
    else some (.failFromDef d "TRACKS_ACK sent but 0 PLI received (GATE:PLI missing)")

def evalL114 : Option CheckpointResult :=
  if mode ≠ "ptt" then none
  else
    let allGrants := (gather observations (·.floorGrants)).filter (·.granted)
    if allGrants.isEmpty then none
    else
      -- the order is looked at no further
      let sorted := allGrants.insertionSort (fun a b => a.timestampMs ≤ b.timestampMs)
      some (.passFromDef d (toString sorted.length ++ " grants recorded, sequential order OK"))

def evalL115 : Option CheckpointResult :=
  if mode ≠ "ptt" then none
  else if observations.values.any (·.floorRevokeReceived) then
    some (.passFromDef d "floor revoke received (preemption delivered)")
  else none

def evalL116 : Option CheckpointResult :=
  if mode ≠ "ptt" then none
  else
    let allPositions := gather observations (·.queuePositions)
    judgeItems d allPositions (· == 0)
      (fun invalid => toString invalid.length ++ " invalid queue positions (0)")
      (toString allPositions.length ++ " queue positions valid")

def evalL117 : Option CheckpointResult :=
  let zombieCleanups := gather observations (·.zombieCleanupDetected)
  if zombieCleanups.isEmpty then none
  else
    some (.passFromDef d (toString zombieCleanups.length ++ " zombies cleaned up: " ++
      listDebug (zombieCleanups.map strDebug)))

def activeSwitches (obs : ObservationsInner) : List LayerSwitchEvent :=
  obs.simulcastLayerSwitches.filter (·.requestedLayer ≠ "pause")

def evalL118 : Option CheckpointResult :=
  let active := gather observations activeSwitches
  if (gather observations (·.simulcastLayerSwitches)).isEmpty then none
  else
    judgeItems d active (fun sw => !sw.packetsAfter)
      (fun failures => toString failures.length ++ "/" ++ toString active.length ++
        " switches without packets: " ++ joined (failures.map (fun sw =>
          "layer=" ++ sw.requestedLayer ++ " no packets after switch")))
      (toString active.length ++ " layer switches, all received packets")

/-- The switches that have a timestamp on either side. -/
def tsSwitches (obs : ObservationsInner) : List (String × UInt32 × UInt32) :=
  (activeSwitches obs).filterMap (fun sw =>
    match sw.tsBefore,sw.tsAfter with
    | some before,some later => some (sw.requestedLayer,before,later)
    | _,_ => none)

def evalL119 : Option CheckpointResult :=
  let allSwitches := gather observations tsSwitches
  let diff (sw : String × UInt32 × UInt32) := (sw.2.2 - sw.2.1).toInt32
  judgeItems d allSwitches (fun sw => diff sw ≤ 0)
    (fun violations => toString violations.length ++ " ts continuity violations: " ++
      joined (violations.map (fun sw => "layer=" ++ sw.1 ++ " ts backward: " ++ toString sw.2.1 ++
        " → " ++ toString sw.2.2 ++ " (Δ=" ++ toString (diff sw) ++ ")")))
    (toString allSwitches.length ++ " layer switches, ts continuity OK")

def evalL120 : Option CheckpointResult :=
  let allSwitches := gather observations activeSwitches
  let maxLatency := (allSwitches.filterMap (·.keyframeAfterMs)).foldl max 0
  judgeItems d allSwitches (fun sw => sw.keyframeAfterMs.isNone)
    (fun noKeyframe => toString noKeyframe.length ++ "/" ++ toString allSwitches.length ++
      " switches without keyframe: " ++
      listed (noKeyframe.map (fun sw => "layer=" ++ sw.requestedLayer)))
    (toString allSwitches.length ++ " switches, all keyframe-first (max_latency=" ++
      toString maxLatency ++ "ms)")

def receivedScreens : Finset UInt32 :=
  observations.values.foldl (fun received obs => received ∪ obs.screenShareSsrcsReceived) ∅

def evalL121 (order : Table.SetEnumeration UInt32) : Option CheckpointResult :=
  let published := observations.values.filterMap (·.screenShareSsrcPublished)
  let received := receivedScreens observations
  let receivedText := setDebug ((order.list received).map toString)
  let publishedText := listDebug (published.map toString)
  if published.isEmpty then none
  else if received = ∅ then
    some (.failFromDef d ("screen published (SSRC=" ++ publishedText ++
      ") but no subscriber received it"))
  else
    let mismatches := published.filter (· ∉ received)
    if !mismatches.isEmpty then
      some (.failFromDef d ("screen SSRC mismatch (virtual SSRC applied?): " ++
        joined (mismatches.map (fun ssrc =>
          "published=" ++ hex8 ssrc ++ " not in received=" ++ receivedText))))
    else
      some (.passFromDef d ("screen SSRC preserved: published=" ++ publishedText ++ " received=" ++
        receivedText))

end eval

/-- A result that carries what its definition says. -/
def Carries (d : CheckpointDef) (r : CheckpointResult) : Prop :=
  r.id = d.id ∧ r.name = d.name ∧ r.category = d.category ∧ r.expected = d.description

def Named (d : CheckpointDef) (result : Option CheckpointResult) : Prop :=
  ∀ r, result = some r → Carries d r

section named
variable {d : CheckpointDef}

theorem named_none : Named d none := by
  intro r found
  contradiction

theorem named_pass (actual : String) : Named d (some (.passFromDef d actual)) := by
  intro r found
  cases found
  exact ⟨rfl,rfl,rfl,rfl⟩

theorem named_fail (actual : String) : Named d (some (.failFromDef d actual)) := by
  intro r found
  cases found
  exact ⟨rfl,rfl,rfl,rfl⟩

theorem named_ite {on : Prop} [Decidable on] {yes no : Option CheckpointResult}
    (left : Named d yes) (right : Named d no) : Named d (if on then yes else no) := by
  split
  next => exact left
  next => exact right

end named

section evaluate
variable (orders : Orders) (recvSnapshots : RecvSnapshots) (botObservations : BotObservations)
  (mode profile : String)

def evaluateDef (d : CheckpointDef) : Option CheckpointResult :=
  match d.id with
  | "L1-01" => evalL101 botObservations d
  | "L1-02" => evalL102 botObservations d orders.ntps
  | "L1-03" => evalL103 botObservations d orders.tss
  | "L1-04" => evalL104 botObservations d mode
  | "L1-05" => evalL105 botObservations d mode
  | "L1-06" => evalL106 botObservations d mode
  | "L1-07" => evalL107 botObservations d mode orders.audioSsrcs orders.videoSsrcs
  | "L1-09" => evalL109 botObservations d
  | "L1-11" => evalL111 botObservations d
  | "L1-13" => evalL113 recvSnapshots d profile orders.receivers
  | "L1-08" => evalL108 botObservations d mode
  | "L1-10" => evalL110 botObservations d
  | "L1-12" => evalL112 botObservations d
  | "L1-14" => evalL114 botObservations d mode
  | "L1-15" => evalL115 botObservations d mode
  | "L1-16" => evalL116 botObservations d mode
  | "L1-17" => evalL117 botObservations d
  | "L1-18" => evalL118 botObservations d
  | "L1-19" => evalL119 botObservations d
  | "L1-20" => evalL120 botObservations d
  | "L1-21" => evalL121 botObservations d orders.screenSsrcs
  | _ => none

theorem evaluateDef_named (d : CheckpointDef) :
    Named d (evaluateDef orders recvSnapshots botObservations mode profile d) := by
  unfold evaluateDef
  split
  all_goals
    repeat' first
      | exact named_none
      | exact named_pass _
      | exact named_fail _
      | apply named_ite

/-- No category selects the whole registry. -/
def evaluate (applicableCategories : List CheckpointCategory) : List CheckpointResult :=
  let defs :=
    if applicableCategories.isEmpty then registry
    else findByCategories applicableCategories
  defs.filterMap (evaluateDef orders recvSnapshots botObservations mode profile)

end evaluate
end Oxlab.Scenario.Evaluate
