import Oxlab.Scenario.CheckpointEval

/-! What a pass of the fan-out gate leaves open.
Subscribers are compared SSRC by SSRC, but only those that report the SSRC; one
that received nothing of it is not in the comparison. -/
namespace Oxlab.FanOut
open Bot.RtpSubscriber Judge Scenario.CheckpointEval Library

variable (snapshots : RecvSnapshots)

def missing (ssrc : UInt32) : List RecvSnapshot :=
  snapshots.values.filter (fun snap => !snap.streams.any (fun stream => stream.ssrc == ssrc))

/-- Every SSRC that is somewhere is everywhere but at its own publisher, and no
two reports of it are more than two packets apart. -/
def Complete : Prop :=
  (∀ stream ∈ allStreams snapshots,(missing snapshots stream.ssrc).length ≤ 1) ∧
    ∀ x ∈ allStreams snapshots,∀ y ∈ allStreams snapshots,x.ssrc = y.ssrc →
      x.packetsReceived ≤ y.packetsReceived + 2

def PassIsComplete (d : CheckpointDef) : Prop :=
  (evalL113 snapshots d "pristine").map (·.verdict) = some .pass → Complete snapshots

/-- Nothing lost and no two reports apart, yet an SSRC that two subscribers miss. -/
def Unheard : Prop :=
  (∀ snap ∈ snapshots.values,snap.totalLost = 0) ∧ ¬Mismatch snapshots ∧
    ∃ stream ∈ allStreams snapshots,2 ≤ (missing snapshots stream.ssrc).length

theorem close_iff : ¬Mismatch snapshots ↔
    ∀ x ∈ allStreams snapshots,∀ y ∈ allStreams snapshots,x.ssrc = y.ssrc →
      x.packetsReceived ≤ y.packetsReceived + 2 := by
  constructor
  · intro close x xIn y yIn same
    by_contra apart
    exact close ⟨y,yIn,x,xIn,same.symm,by omega⟩
  · intro close mismatch
    obtain ⟨x,xIn,y,yIn,same,apart⟩ := mismatch
    have bound := close y yIn x xIn same.symm
    omega

theorem passIsComplete_iff (d : CheckpointDef) : PassIsComplete snapshots d ↔ ¬Unheard snapshots := by
  rw [PassIsComplete,evalL113_pass]
  constructor
  · intro complete unheard
    obtain ⟨lossless,close,stream,member,silent⟩ := unheard
    have some_there : snapshots.values ≠ [] := by
      intro nobody
      rw [allStreams,nobody] at member
      contradiction
    have few := (complete ⟨some_there,lossless,close⟩).1 stream member
    omega
  · intro heard pass
    obtain ⟨_,lossless,close⟩ := pass
    refine ⟨?_,(close_iff snapshots).mp close⟩
    intro stream member
    by_contra silent
    exact heard ⟨lossless,close,stream,member,by omega⟩

def heardStream : SsrcRecvMetrics :=
  { SsrcRecvMetrics.new 0 0xA0000001 111 with packetsReceived := 100, initialized := true }

/-- One of three subscribers receives the stream; the others receive nothing. -/
def threeSubscribers : RecvSnapshots :=
  ((AList.singleton "bot-1" ⟨100,0,0,1,[heardStream]⟩).insert "bot-2" ⟨0,0,0,0,[]⟩).insert
    "bot-3" ⟨0,0,0,0,[]⟩

theorem silent_subscribers_pass : ¬PassIsComplete threeSubscribers .l113 := by
  intro complete
  have passed : (evalL113 threeSubscribers .l113 "pristine").map (·.verdict) = some .pass := by
    decide +kernel
  have listed : allStreams threeSubscribers = [heardStream] := rfl
  have few := (complete passed).1 heardStream (by rw [listed]; exact List.mem_cons_self)
  revert few
  decide +kernel

end Oxlab.FanOut
