import Mathlib.Algebra.Order.BigOperators.Group.Finset
import Mathlib.Data.Fintype.BigOperators
import Mathlib.Data.List.DropRight
import Mathlib.Tactic.Linarith
import Mathlib.Tactic.Positivity
import Oxlab.Bot.Publishing
import Oxlab.Library.Run
import Oxlab.Library.SharedCounters
import Oxlab.LossAccounting

/-! Injected loss against measured loss.
The filter of a bot drops packets of either stream while its conditions change; a
subscriber that is handed the rest measures the losses by sequence numbers. -/
namespace Oxlab.InjectedLoss
open Bot.Publishing Bot.RtpPublisher LossAccounting Library.Run Net.Filter

section fates

/-- The places of the packets that were sent. -/
def sentAt (fates : List Fate) : List Nat :=
  (List.range fates.length).filter (fun k => fates[k]? = some .sent)

/-- The packets from the first that was sent to the last. -/
def within (fates : List Fate) : List Fate :=
  (fates.rdropWhile (fun fate => fate ≠ .sent)).dropWhile (fun fate => fate ≠ .sent)

/-- What the receive side is to miss: it is lost between two packets that are sent. -/
def missed (fates : List Fate) : Nat := (within fates).countP (fun fate => fate ≠ .sent)

theorem sentAt_cons (fate : Fate) (rest : List Fate) : sentAt (fate::rest) =
    (if fate = .sent then [0] else []) ++ (sentAt rest).map (· + 1) := by
  rw [sentAt,List.length_cons,List.range_succ_eq_map,List.filter_cons,List.filter_map]
  by_cases sent : fate = .sent
  · simp [sent,sentAt,Function.comp_def]
  · simp [sent,sentAt,Function.comp_def]

theorem sentAt_concat (fates : List Fate) (fate : Fate) : sentAt (fates ++ [fate]) =
    sentAt fates ++ if fate = .sent then [fates.length] else [] := by
  have before : (List.range fates.length).filter
      (fun k => (fates ++ [fate])[k]? = some .sent) = sentAt fates := by
    apply List.filter_congr
    intro k inside
    rw [List.getElem?_append_left (List.mem_range.mp inside)]
  rw [sentAt,List.length_append,List.length_singleton,List.range_succ,List.filter_append,before,
    List.filter_singleton]
  by_cases sent : fate = .sent
  · simp [sent]
  · simp [sent]

theorem sentAt_length (fates : List Fate) : (sentAt fates).length = fates.count .sent := by
  induction fates with
  | nil => rfl
  | cons fate rest ih =>
    rw [sentAt_cons,List.length_append,List.length_map,ih,List.count_cons]
    cases fate <;> simp [Nat.add_comm]

theorem sentAt_first (fates : List Fate) (k : Nat) (later : List Nat)
    (sent : sentAt fates = k::later) :
    (fates.dropWhile (fun fate => fate ≠ .sent)).length + k = fates.length := by
  induction fates generalizing k later with
  | nil => simp [sentAt] at sent
  | cons fate rest ih =>
    rw [sentAt_cons] at sent
    by_cases first : fate = .sent
    · rw [if_pos first,List.singleton_append] at sent
      cases sent
      simp [first]
    · rw [if_neg first,List.nil_append] at sent
      obtain ⟨j,tail,places,rfl,_⟩ := List.map_eq_cons_iff.mp sent
      have shorter := ih j tail places
      rw [List.dropWhile_cons_of_pos (by simpa using first),List.length_cons]
      omega

theorem within_concat (fates : List Fate) {fate : Fate} (other : fate ≠ .sent) :
    within (fates ++ [fate]) = within fates := by
  rw [within,List.rdropWhile_concat_pos _ _ _ (by simpa using other)]
  rfl

theorem span_last {indices later : List Nat} {first n : Nat}
    (listed : indices ++ [n] = first::later) : span (indices ++ [n]) = n - first + 1 := by
  have last : (first::later).getLast (List.cons_ne_nil first later) = n := by
    simp [← listed]
  rw [listed,span,last]

theorem span_sentAt (fates : List Fate) : span (sentAt fates) = (within fates).length := by
  induction fates using List.reverseRecOn with
  | nil => rfl
  | append_singleton before fate ih =>
    by_cases sent : fate = .sent
    · have places := sentAt_concat before fate
      rw [if_pos sent] at places
      have last : within (before ++ [fate]) =
          (before ++ [fate]).dropWhile (fun fate => fate ≠ .sent) := by
        rw [within,List.rdropWhile_concat_neg _ _ _ (by simpa using sent)]
      rw [places,last]
      cases listed : sentAt before ++ [before.length] with
      | nil => simp at listed
      | cons first later =>
        have start := sentAt_first (before ++ [fate]) first later (places.trans listed)
        have inside : first ≤ before.length := by
          have member : first ∈ sentAt before ++ [before.length] := by rw [listed]; simp
          rcases List.mem_append.mp member with old | new
          · exact (List.mem_range.mp (List.mem_of_mem_filter old)).le
          · exact (List.mem_singleton.mp new).le
        rw [List.length_append,List.length_singleton] at start
        rw [← listed,span_last listed]
        omega
    · rw [sentAt_concat,if_neg sent,List.append_nil,ih,within_concat before sent]

theorem within_sent (fates : List Fate) : (within fates).count .sent = fates.count .sent := by
  have drop (fates : List Fate) :
      (fates.dropWhile (fun fate => fate ≠ .sent)).count .sent = fates.count .sent := by
    induction fates with
    | nil => rfl
    | cons fate rest ih =>
      by_cases sent : fate = .sent
      · rw [List.dropWhile_cons_of_neg (by simpa using sent)]
      · rw [List.dropWhile_cons_of_pos (by simpa using sent),ih,List.count_cons_of_ne sent]
  rw [within,drop,List.rdropWhile,List.count_reverse,drop,List.count_reverse]

theorem missed_eq (fates : List Fate) :
    span (sentAt fates) - (sentAt fates).length = missed fates := by
  have split : (within fates).length = (within fates).count .sent + missed fates := by
    rw [missed,List.count,List.length_eq_countP_add_countP (fun fate => fate == .sent)]
    simp
  rw [span_sentAt,sentAt_length,← within_sent,split,Nat.add_sub_cancel_left]

theorem missed_le {fates : List Fate} (ordinary : ∀ fate ∈ fates.dropLast,fate = .dropped ∨ fate = .sent)
    (last : ∀ fate ∈ fates,fate ≠ .unencrypted) : missed fates ≤ fates.count .dropped := by
  have all (some : List Fate) (plain : ∀ fate ∈ some,fate = .dropped ∨ fate = .sent) :
      missed some ≤ some.count .dropped := by
    have inside : (within some).Sublist some :=
      (List.dropWhile_sublist _).trans (List.rdropWhile_prefix _ _).sublist
    have counted : some.countP (fun fate => fate ≠ .sent) = some.count .dropped := by
      rw [List.count]
      apply List.countP_congr
      intro fate member
      rcases plain fate member with rfl | rfl <;> decide
    rw [missed,← counted]
    exact inside.countP_le
  induction fates using List.reverseRecOn with
  | nil => exact Nat.le_refl 0
  | append_singleton before fate _ =>
    rw [List.dropLast_concat] at ordinary
    have less : before.count .dropped ≤ (before ++ [fate]).count .dropped :=
      (List.sublist_append_left before [fate]).count_le _
    by_cases sent : fate = .sent
    · apply all
      intro other member
      rcases List.mem_append.mp member with old | new
      · exact ordinary other old
      · rw [List.mem_singleton.mp new]
        exact Or.inr sent
    · have same : missed (before ++ [fate]) = missed before := by
        rw [missed,within_concat before sent,missed]
      rw [same]
      exact (all before ordinary).trans less

end fates

section loops

/-- How one loop moves, and by how much the filter's two counts move with it. -/
inductive Turned (t : PublishTask) : PublishTask → Nat → Nat → Prop
  | unencrypted (running : t.running = true) (free : t.waiting = false) :
      Turned t { t with built := t.built + 1, fates := t.fates ++ [.unencrypted] } 0 0
  | dropped (running : t.running = true) (free : t.waiting = false) :
      Turned t { t with built := t.built + 1, fates := t.fates ++ [.dropped] } 1 1
  | passed (running : t.running = true) (free : t.waiting = false) :
      Turned t { t with built := t.built + 1, waiting := true } 1 0
  | sent (waiting : t.waiting = true) :
      Turned t { t with waiting := false, fates := t.fates ++ [.sent] } 0 0
  | refused (waiting : t.waiting = true) :
      Turned t { t with waiting := false, fates := t.fates ++ [.refused], running := false } 0 0
  | aborted (waiting : t.waiting = true) :
      Turned t { t with waiting := false, fates := t.fates ++ [.aborted], running := false } 0 0
  | stopped (free : t.waiting = false) : Turned t { t with running := false } 0 0

/-- What one step does to the filter's counts, where there is a filter. -/
def Counts (total dropped : Nat) (before after : Option NetFilter) : Prop :=
  match before, after with
  | none, none => dropped = 0
  | some f, some g => g.statsTotal = f.statsTotal + total ∧ g.statsDropped = f.statsDropped + dropped
  | _, _ => False

theorem counts_same (filter : Option NetFilter) : Counts 0 0 filter filter := by
  cases filter with
  | none => rfl
  | some f => exact ⟨rfl,rfl⟩

theorem tick_cases (s : PublishLoops) (kind : MediaKind) (encrypted : Option Nat) (now : ℚ)
    (roll : Roll) (running : (s.task kind).running = true) (free : (s.task kind).waiting = false) :
    ∃ t total dropped, (s.tick kind encrypted now roll).task = Function.update s.task kind t ∧
      Turned (s.task kind) t total dropped ∧
      Counts total dropped s.filter (s.tick kind encrypted now roll).filter := by
  have settled (fate : Fate) :
      ({ s.task kind with built := (s.task kind).built + 1 } : PublishTask).settle fate =
        { s.task kind with
          built := (s.task kind).built + 1
          fates := (s.task kind).fates ++ [fate] } := by
    rw [PublishTask.settle,← free]
  cases encrypted with
  | none =>
    refine ⟨_,0,0,?_,.unencrypted running free,counts_same s.filter⟩
    rw [← settled]
    rfl
  | some len =>
    cases present : s.filter with
    | none =>
      simp only [PublishLoops.tick,present]
      refine ⟨_,1,0,rfl,.passed running free,?_⟩
      change Counts 1 0 none s.filter
      rw [present]
      rfl
    | some f =>
      have stats := f.filter_stats now roll len
      cases result : (f.filter now roll len).1 with
      | drop =>
        rw [result,if_pos rfl] at stats
        simp only [PublishLoops.tick,present,result]
        refine ⟨_,1,1,?_,.dropped running free,stats⟩
        rw [← settled]
        rfl
      | pass delay =>
        rw [result,if_neg (by simp)] at stats
        simp only [PublishLoops.tick,present,result]
        exact ⟨_,1,0,rfl,.passed running free,stats⟩

theorem step_cases {s next : PublishLoops} {label : Label} (stepped : step s label = some next) :
    (next.task = s.task ∧ Counts 0 0 s.filter next.filter) ∨
      ∃ kind t total dropped, next.task = Function.update s.task kind t ∧
        Turned (s.task kind) t total dropped ∧ Counts total dropped s.filter next.filter := by
  cases label with
  | tick kind encrypted now roll =>
    obtain ⟨ready,made⟩ := Option.ite_none_right_eq_some.mp stepped
    cases Option.some.inj made
    exact Or.inr ⟨kind,tick_cases s kind encrypted now roll ready.1 ready.2⟩
  | send kind taken =>
    obtain ⟨waiting,made⟩ := Option.ite_none_right_eq_some.mp stepped
    cases Option.some.inj made
    cases taken with
    | true => exact Or.inr ⟨kind,_,0,0,rfl,.sent waiting,counts_same s.filter⟩
    | false => exact Or.inr ⟨kind,_,0,0,rfl,.refused waiting,counts_same s.filter⟩
  | stop kind =>
    cases Option.some.inj stepped
    refine Or.inr ⟨kind,_,0,0,rfl,?_,counts_same s.filter⟩
    split
    next waiting => exact .aborted waiting
    next free => exact .stopped (Bool.eq_false_iff.mpr free)
  | update now config =>
    cases Option.some.inj stepped
    refine Or.inl ⟨rfl,?_⟩
    rw [PublishLoops.updateNetFilter]
    cases s.filter with
    | none => rfl
    | some f => exact ⟨rfl,rfl⟩

/-- A loop has settled every packet it built but the one it holds, and no packet
follows one that ended it. -/
structure Orderly (t : PublishTask) : Prop where
  built : t.built = t.fates.length + t.waiting.toNat
  holds : t.waiting = true → t.running = true
  running : t.running = true → ∀ fate ∈ t.fates,fate ≠ .refused ∧ fate ≠ .aborted
  before : ∀ fate ∈ t.fates.dropLast,fate ≠ .refused ∧ fate ≠ .aborted

/-- The packets of a loop that the filter has seen. -/
def faced (t : PublishTask) : Nat := t.fates.countP (fun fate => fate ≠ .unencrypted) + t.waiting.toNat

theorem turned_orderly {t next : PublishTask} {total dropped : Nat} (orderly : Orderly t)
    (turned : Turned t next total dropped) : Orderly next := by
  have built := orderly.built
  have goes (running : t.running = true) (fate : Fate) (plain : fate ≠ .refused ∧ fate ≠ .aborted) :
      ∀ other ∈ t.fates ++ [fate],other ≠ .refused ∧ other ≠ .aborted := by
    intro other member
    rcases List.mem_append.mp member with old | new
    · exact orderly.running running other old
    · rwa [List.mem_singleton.mp new]
  cases turned with
  | unencrypted running free =>
    refine ⟨?_,orderly.holds,fun _ => goes running _ (by decide),?_⟩
    · change t.built + 1 = (t.fates ++ [_]).length + t.waiting.toNat
      rw [List.length_append,List.length_singleton]
      omega
    · rw [List.dropLast_concat]
      exact orderly.running running
  | dropped running free =>
    refine ⟨?_,orderly.holds,fun _ => goes running _ (by decide),?_⟩
    · change t.built + 1 = (t.fates ++ [_]).length + t.waiting.toNat
      rw [List.length_append,List.length_singleton]
      omega
    · rw [List.dropLast_concat]
      exact orderly.running running
  | passed running free =>
    refine ⟨?_,fun _ => running,orderly.running,orderly.before⟩
    rw [free,Bool.toNat_false] at built
    change t.built + 1 = t.fates.length + 1
    omega
  | sent waiting =>
    have running := orderly.holds waiting
    refine ⟨?_,by simp,fun _ => goes running _ (by decide),?_⟩
    · rw [waiting] at built
      rw [List.length_append,List.length_singleton]
      exact built
    · rw [List.dropLast_concat]
      exact orderly.running running
  | refused waiting =>
    refine ⟨?_,by simp,by simp,?_⟩
    · rw [waiting] at built
      rw [List.length_append,List.length_singleton]
      exact built
    · rw [List.dropLast_concat]
      exact orderly.running (orderly.holds waiting)
  | aborted waiting =>
    refine ⟨?_,by simp,by simp,?_⟩
    · rw [waiting] at built
      rw [List.length_append,List.length_singleton]
      exact built
    · rw [List.dropLast_concat]
      exact orderly.running (orderly.holds waiting)
  | stopped free => exact ⟨built,by simp [free],by simp,orderly.before⟩

theorem turned_counts {t next : PublishTask} {total dropped : Nat}
    (turned : Turned t next total dropped) : faced next = faced t + total ∧
      next.fates.count .dropped = t.fates.count .dropped + dropped := by
  cases turned <;> simp_all [faced,List.countP_append,List.count_append]

theorem Counts.trans {a b c d : Nat} {first second third : Option NetFilter}
    (early : Counts a b first second) (late : Counts c d second third) :
    Counts (a+c) (b+d) first third := by
  cases first <;> cases second <;> cases third <;> (simp_all [Counts]; try omega)

def allFaced (s : PublishLoops) : Nat := ∑ kind, faced (s.task kind)

def allDropped (s : PublishLoops) : Nat := ∑ kind, (s.task kind).fates.count .dropped

/-- The filter has counted what the loops brought before it. -/
structure Ledger (start : Option NetFilter) (s : PublishLoops) : Prop where
  orderly : ∀ kind,Orderly (s.task kind)
  counts : Counts (allFaced s) (allDropped s) start s.filter

theorem start_ledger (filter : Option NetFilter) : Ledger filter (startPublishing filter) where
  orderly := by
    intro kind
    exact ⟨rfl,by simp [startPublishing],by simp [startPublishing],by simp [startPublishing]⟩
  counts := counts_same filter

theorem sum_task (figure : PublishTask → Nat) (task : MediaKind → PublishTask) (kind : MediaKind)
    (t : PublishTask) {more : Nat} (raised : figure t = figure (task kind) + more) :
    ∑ k, figure (Function.update task kind t k) = (∑ k, figure (task k)) + more := by
  have moved : (fun k => figure (Function.update task kind t k)) =
      Function.update (fun k => figure (task k)) kind (figure (task kind) + more) := by
    funext k
    by_cases same : k = kind
    · subst same
      simp [raised]
    · simp [same]
  rw [moved]
  exact Library.SharedCounters.sum_raise (fun k => figure (task k)) kind more

theorem step_ledger {start : Option NetFilter} (s : PublishLoops) (label : Label)
    (next : PublishLoops) (ledger : Ledger start s) (stepped : step s label = some next) :
    Ledger start next := by
  rcases step_cases stepped with ⟨same,counts⟩ | ⟨kind,t,total,dropped,moved,turned,counts⟩
  · refine ⟨by rw [same]; exact ledger.orderly,?_⟩
    have whole := ledger.counts.trans counts
    rw [allFaced,allDropped,same]
    exact whole
  · obtain ⟨more,lost⟩ := turned_counts turned
    refine ⟨?_,?_⟩
    · intro k
      rw [moved]
      by_cases same : k = kind
      · subst same
        rw [Function.update_self]
        exact turned_orderly (ledger.orderly k) turned
      · rw [Function.update_of_ne same]
        exact ledger.orderly k
    · have whole := ledger.counts.trans counts
      rw [allFaced,allDropped,moved,sum_task faced s.task kind t more,
        sum_task (fun t => t.fates.count .dropped) s.task kind t lost]
      exact whole

theorem run_ledger {filter : Option NetFilter} {labels : List Label} {final : PublishLoops}
    (ran : exec step (startPublishing filter) labels = some final) : Ledger filter final :=
  exec_keeps step (Ledger filter) step_ledger labels _ final (start_ledger filter) ran

end loops

section system
variable {ι : Type} {pubs : ι → Publisher} {filters : ι → Option (ℚ × FilterConfig)}
  {labels : ι → List Label} {final : ι → PublishLoops}

/-- The filter of a bot as it is made, if it has one. -/
def freshFilter (filter : Option (ℚ × FilterConfig)) : Option NetFilter :=
  filter.map (fun f => NetFilter.new f.1 f.2)

def fatesOf (final : ι → PublishLoops) (x : ι × MediaKind) : List Fate :=
  ((final x.1).task x.2).fates

theorem fresh_counts {filter : Option (ℚ × FilterConfig)} {labels : List Label}
    {final : PublishLoops}
    (ran : exec step (startPublishing (freshFilter filter)) labels = some final) :
    (∀ f ∈ final.filter,f.statsTotal = allFaced final ∧ f.statsDropped = allDropped final) ∧
      (final.filter = none → allDropped final = 0) := by
  have counts := (run_ledger ran).counts
  cases filter with
  | none =>
    cases present : final.filter with
    | none =>
      rw [present] at counts
      exact ⟨by simp,fun _ => counts⟩
    | some f =>
      rw [present] at counts
      exact counts.elim
  | some made =>
    cases present : final.filter with
    | none =>
      rw [present] at counts
      exact counts.elim
    | some f =>
      rw [present] at counts
      obtain ⟨total,dropped⟩ := counts
      change f.statsTotal = 0 + allFaced final at total
      change f.statsDropped = 0 + allDropped final at dropped
      rw [Nat.zero_add] at total dropped
      simp only [Option.mem_def,Option.some.injEq,forall_eq',reduceCtorEq,false_implies,and_true]
      exact ⟨total,dropped⟩

theorem dropRate_bounds {f : NetFilter} (fewer : f.statsDropped ≤ f.statsTotal) :
    0 ≤ f.dropRate ∧ f.dropRate ≤ 100 := by
  unfold NetFilter.dropRate
  split
  next => exact ⟨le_refl 0,by norm_num⟩
  next some =>
    have total : (0 : ℚ) < f.statsTotal := by exact_mod_cast Nat.pos_of_ne_zero some
    have ratio : (f.statsDropped : ℚ)/f.statsTotal ≤ 1 :=
      div_le_one_of_le₀ (by exact_mod_cast fewer) total.le
    constructor
    · positivity
    · linarith

theorem allDropped_le (s : PublishLoops) : allDropped s ≤ allFaced s := by
  apply Finset.sum_le_sum
  intro kind _
  have seen : (s.task kind).fates.count .dropped ≤
      (s.task kind).fates.countP (fun fate => fate ≠ .unencrypted) := by
    apply List.countP_mono_left
    intro fate _ dropped
    rw [beq_iff_eq] at dropped
    subst dropped
    rfl
  exact Nat.le_add_right_of_le seen

variable [Fintype ι] [DecidableEq ι]

/-- Where nothing is lost but what the filters drop: a subscriber receives every packet
that was sent and misses every packet between two that were sent, whatever the order
of the loops' steps, of the updates and of the streams. That is never more than the
filters have dropped, unless encryption failed. -/
theorem injected_measured (distinct : Function.Injective (streamSsrc pubs))
    (ran : ∀ i,exec step (startPublishing (freshFilter (filters i))) (labels i) = some (final i))
    (deliveries : List (Delivery ι))
    (lossless : ∀ x,indices deliveries x = sentAt (fatesOf final x))
    (ordered : ∀ x,InOrder (sentAt (fatesOf final x))) :
    let snap := (receive pubs deliveries).snapshot
    snap.totalPackets = ∑ x, (fatesOf final x).count .sent ∧
      snap.totalLost = ∑ x, missed (fatesOf final x) ∧
      ((∀ x, ∀ fate ∈ fatesOf final x,fate ≠ .unencrypted) →
        snap.totalLost ≤ ∑ i, ((final i).filter.map (·.statsDropped)).getD 0) ∧
      ∀ i, ∀ f ∈ (final i).filter,f.statsTotal = allFaced (final i) ∧ 0 ≤ f.dropRate ∧ f.dropRate ≤ 100 := by
  intro snap
  have arranged : ∀ x,InOrder (indices deliveries x) := by
    intro x
    rw [lossless x]
    exact ordered x
  have lost : snap.totalLost = ∑ x, missed (fatesOf final x) := by
    refine (total_receive pubs distinct deliveries _ (fun is => span is - is.length) rfl
      (fun _ _ accounted => accounted.lost) arranged).trans ?_
    apply Finset.sum_congr rfl
    intro x _
    rw [lossless x,missed_eq]
  refine ⟨?_,lost,?_,?_⟩
  · refine (total_receive pubs distinct deliveries _ List.length rfl
      (fun _ _ accounted => accounted.received) arranged).trans ?_
    apply Finset.sum_congr rfl
    intro x _
    rw [lossless x,sentAt_length]
  · intro encrypted
    have stream (x : ι × MediaKind) : missed (fatesOf final x) ≤ (fatesOf final x).count .dropped := by
      apply missed_le _ (encrypted x)
      intro fate member
      have plain := ((run_ledger (ran x.1)).orderly x.2).before fate member
      have other := encrypted x fate (List.mem_of_mem_dropLast member)
      cases fate <;> simp_all
    rw [lost,Fintype.sum_prod_type]
    apply Finset.sum_le_sum
    intro i _
    have counted := fresh_counts (ran i)
    have streams : ∑ kind, missed (fatesOf final (i,kind)) ≤ allDropped (final i) :=
      Finset.sum_le_sum (fun kind _ => stream (i,kind))
    cases present : (final i).filter with
    | none =>
      rw [counted.2 present] at streams
      exact streams
    | some f =>
      rw [← (counted.1 f present).2] at streams
      exact streams
  · intro i f present
    obtain ⟨total,dropped⟩ := (fresh_counts (ran i)).1 f present
    refine ⟨total,dropRate_bounds ?_⟩
    rw [total,dropped]
    exact allDropped_le (final i)

end system

def rolled (loss : Nat) (range : loss < 100) : Roll where
  loss := loss
  lossRange := ⟨by positivity,by exact_mod_cast range⟩
  jitter := fun _ => 0
  jitterRange := by intro j; omega

/-- Three audio packets with the second dropped, and a video packet between them that
leaves after the conditions have changed. -/
def mixed : List Label :=
  [.tick .audio (some 40) 0 (rolled 60 (by decide)),.send .audio true,
    .tick .audio (some 40) 1 (rolled 10 (by decide)),
    .tick .video (some 240) 1 (rolled 90 (by decide)),.update 2 {},.send .video true,
    .tick .audio (some 40) 2 (rolled 0 (by decide)),.send .audio true,.stop .audio,.stop .video]

def mixedLoops : PublishLoops :=
  (exec step (startPublishing (freshFilter (some (0,{ lossPercent := 50 })))) mixed).get
    (by decide +kernel)

theorem injected_measured_mixed :
    let snap := (receive (fun _ : Unit => twoPublishers true)
      [⟨(),.video,0,0⟩,⟨(),.audio,0,1⟩,⟨(),.audio,2,2⟩]).snapshot
    snap.totalPackets = 3 ∧ snap.totalLost = 1 ∧
      (mixedLoops.filter.map (·.statsDropped)).getD 0 = 1 := by
  have ran (i : Unit) : exec step (startPublishing (freshFilter (some (0,{ lossPercent := 50 }))))
      mixed = some mixedLoops := (Option.some_get _).symm
  have distinct : Function.Injective (streamSsrc (fun _ : Unit => twoPublishers true)) := by decide
  obtain ⟨packets,lost,_⟩ := injected_measured distinct ran
    [⟨(),.video,0,0⟩,⟨(),.audio,0,1⟩,⟨(),.audio,2,2⟩] (by decide +kernel) (by decide +kernel)
  exact ⟨packets.trans (by decide +kernel),lost.trans (by decide +kernel),by decide +kernel⟩

end Oxlab.InjectedLoss
