import Mathlib.Algebra.BigOperators.Group.Finset.Basic
import Mathlib.Algebra.GroupWithZero.Nat
import Mathlib.Data.Finset.Sort
import Mathlib.Data.Fintype.Basic
import Mathlib.Data.List.AList
import Mathlib.Data.List.Sort
import Mathlib.Data.Option.Basic

/-! Keyed tables and the folds that feed them.
A stream of items, each naming its key, is absorbed entry by entry; an entry
then depends only on its own items, and a total over the table moves with the
one entry that changed. -/
namespace Oxlab.Library

abbrev Table (κ ν : Type) := AList (fun _ : κ => ν)

namespace Table
variable {κ ν α : Type}

def values (table : Table κ ν) : List ν := table.entries.map Sigma.snd

/-- An enumeration of the values as a hash map makes it, open up to permutation. -/
structure Order (κ ν : Type) where
  values : Table κ ν → List ν
  perm : ∀ table, (values table).Perm (Table.values table)

instance : Inhabited (Order κ ν) := ⟨⟨Table.values,fun table => .refl table.values⟩⟩

/-- An enumeration of the entries of a hash map, open up to permutation. -/
structure Enumeration (κ ν : Type) where
  entries : Table κ ν → List (Sigma fun _ : κ => ν)
  perm : ∀ table, (entries table).Perm table.entries

instance : Inhabited (Enumeration κ ν) := ⟨⟨AList.entries,fun table => .refl table.entries⟩⟩

theorem Enumeration.mem (order : Enumeration κ ν) (table : Table κ ν)
    (entry : Sigma fun _ : κ => ν) : entry ∈ order.entries table ↔ entry ∈ table.entries :=
  (order.perm table).mem_iff

/-- An enumeration of a hash set, open in the same way. -/
structure SetEnumeration (α : Type) where
  list : Finset α → List α
  nodup : ∀ members, (list members).Nodup
  mem : ∀ members item, item ∈ list members ↔ item ∈ members

instance [LE α] [DecidableRel fun a b : α => a ≤ b] [IsTrans α fun a b => a ≤ b]
    [Std.Antisymm fun a b : α => a ≤ b] [Std.Total fun a b : α => a ≤ b] :
    Inhabited (SetEnumeration α) where
  default :=
    { list := fun members => members.sort (fun a b => a ≤ b)
      nodup := fun members => members.sort_nodup _
      mem := fun members _ => members.mem_sort _ }

theorem entries_none (bad : ν → Prop) (table : Table κ ν) :
    (∀ entry ∈ table.entries, ¬bad entry.2) ↔ ¬∃ value ∈ table.values, bad value := by
  simp only [values,List.mem_map]
  constructor
  · intro clear found
    obtain ⟨_,⟨entry,member,rfl⟩,wrong⟩ := found
    exact clear entry member wrong
  · intro clear entry member wrong
    exact clear ⟨entry.2,⟨entry,member,rfl⟩,wrong⟩

def weight (f : ν → Nat) (table : Table κ ν) : Nat := (table.values.map f).sum

def held (f : ν → Nat) (entry : Option ν) : Nat := entry.elim 0 f

@[simp] theorem held_none (f : ν → Nat) : held f none = 0 := rfl

@[simp] theorem held_some (f : ν → Nat) (value : ν) : held f (some value) = f value := rfl

@[simp] theorem values_singleton (key : κ) (value : ν) :
    values (AList.singleton key value) = [value] := rfl

theorem weight_pos (f : ν → Nat) (table : Table κ ν) :
    0 < weight f table ↔ ∃ value ∈ table.values, 0 < f value := by
  rw [Nat.pos_iff_ne_zero,weight,ne_eq,List.sum_eq_zero_iff_forall_eq_nat]
  simp [Nat.pos_iff_ne_zero]

def mapValues {μ : Type} (f : ν → μ) (table : Table κ ν) : Table κ μ where
  entries := table.entries.map (fun entry => ⟨entry.1,f entry.2⟩)
  nodupKeys := by
    have keys := table.nodupKeys
    rw [List.NodupKeys,List.keys] at keys ⊢
    rw [List.map_map]
    exact keys

theorem values_mapValues {μ : Type} (f : ν → μ) (table : Table κ ν) :
    (table.mapValues f).values = table.values.map f := by
  rw [values,values,mapValues,List.map_map,List.map_map]
  rfl

variable [DecidableEq κ]

theorem lookup_singleton (key wanted : κ) (value : ν) :
    (AList.singleton key value : Table κ ν).lookup wanted =
      if key = wanted then some value else none := by
  split
  next same => subst same; exact @List.dlookup_cons_eq κ (fun _ => ν) _ [] key value
  next other =>
    exact List.dlookup_cons_ne [] (⟨key,value⟩ : Sigma (fun _ : κ => ν)) (Ne.symm other)

theorem mem_values (table : Table κ ν) (value : ν) :
    value ∈ table.values ↔ ∃ key, table.lookup key = some value := by
  simp only [values,List.mem_map]
  constructor
  · intro listed
    obtain ⟨⟨key,value⟩,member,rfl⟩ := listed
    exact ⟨key,AList.mem_lookup_iff.mpr member⟩
  · intro mapped
    obtain ⟨key,found⟩ := mapped
    exact ⟨⟨key,value⟩,AList.mem_lookup_iff.mp found,rfl⟩

theorem weight_insert (f : ν → Nat) (table : Table κ ν) (key : κ) (value : ν) :
    weight f (table.insert key value) + held f (table.lookup key) = weight f table + f value := by
  by_cases member : key ∈ table
  · obtain ⟨old,before,after,absent,split,erased⟩ := List.exists_of_kerase (AList.mem_keys.mp member)
    have found : table.lookup key = some old :=
      AList.mem_lookup_iff.mpr (by rw [split]; simp)
    rw [found,held_some,weight,weight,values,values,AList.entries_insert,erased,split]
    simp only [List.map_cons,List.map_append,List.sum_cons,List.sum_append]
    omega
  · have missing : table.lookup key = none := AList.lookup_eq_none.mpr member
    simp only [weight,values,AList.entries_insert_of_notMem member,missing,held_none,
      List.map_cons,List.sum_cons]
    omega

theorem weight_keys (f : ν → Nat) (table : Table κ ν) :
    weight f table = ∑ key ∈ table.keys.toFinset, held f (table.lookup key) := by
  rw [List.sum_toFinset _ table.keys_nodup,weight,values,AList.keys,List.keys,List.map_map,List.map_map]
  apply congrArg List.sum
  apply List.map_congr_left
  intro entry member
  have found : table.lookup entry.1 = some entry.2 := AList.mem_lookup_iff.mpr member
  simp [found]

theorem weight_family {ι : Type} [Fintype ι] (f : ν → Nat) (table : Table κ ν) (name : ι → κ)
    (distinct : Function.Injective name) (covered : ∀ key ∈ table, ∃ i, name i = key) :
    weight f table = ∑ i, held f (table.lookup (name i)) := by
  have renamed := Finset.sum_map Finset.univ ⟨name,distinct⟩ (fun key => held f (table.lookup key))
  rw [weight_keys]
  refine Eq.trans ?_ renamed
  apply Finset.sum_subset
  · intro key member
    obtain ⟨i,rfl⟩ := covered key (List.mem_toFinset.mp member)
    simp
  · intro key _ absent
    have missing : table.lookup key = none :=
      AList.lookup_eq_none.mpr (fun member => absent (List.mem_toFinset.mpr member))
    simp [missing]

section related
variable {μ : Type}

/-- The same keys, with related values. -/
def Related (rel : ν → μ → Prop) (left : Table κ ν) (right : Table κ μ) : Prop :=
  ∀ key, Option.Rel rel (left.lookup key) (right.lookup key)

variable {rel : ν → μ → Prop} {left : Table κ ν} {right : Table κ μ}

theorem related_singleton (key : κ) {value : ν} {other : μ} (holds : rel value other) :
    Related rel (AList.singleton key value) (AList.singleton key other) := by
  intro wanted
  rw [lookup_singleton,lookup_singleton]
  split
  next => exact .some holds
  next => exact .none

theorem Related.found (related : Related rel left right) (key : κ) :
    (left.lookup key = none ∧ right.lookup key = none) ∨
      ∃ value other, left.lookup key = some value ∧ right.lookup key = some other ∧
        rel value other := by
  have both := related key
  generalize left.lookup key = value at both ⊢
  generalize right.lookup key = other at both ⊢
  cases both with
  | some holds => exact Or.inr ⟨_,_,rfl,rfl,holds⟩
  | none => exact Or.inl ⟨rfl,rfl⟩

theorem Related.entry (related : Related rel left right) {entry : Sigma fun _ : κ => ν}
    (member : entry ∈ left.entries) :
    ∃ other, (⟨entry.1,other⟩ : Sigma fun _ : κ => μ) ∈ right.entries ∧ rel entry.2 other := by
  have own : left.lookup entry.1 = some entry.2 := AList.mem_lookup_iff.mpr member
  rcases related.found entry.1 with ⟨absent,_⟩ | ⟨value,other,here,there,holds⟩
  · rw [own] at absent
    contradiction
  · rw [own] at here
    cases here
    exact ⟨other,AList.mem_lookup_iff.mp there,holds⟩

theorem Related.forth (related : Related rel left right) {value : ν} (member : value ∈ left.values) :
    ∃ other ∈ right.values,rel value other := by
  obtain ⟨entry,listed,rfl⟩ := List.mem_map.mp member
  obtain ⟨other,found,holds⟩ := related.entry listed
  exact ⟨other,List.mem_map_of_mem found,holds⟩

theorem Related.flip (related : Related rel left right) :
    Related (fun other value => rel value other) right left := by
  intro key
  rcases related.found key with ⟨absent,absent'⟩ | ⟨value,other,here,there,holds⟩
  · rw [absent,absent']
    exact .none
  · rw [here,there]
    exact .some holds

theorem Related.keys (related : Related rel left right) : left.keys.Perm right.keys := by
  rw [List.perm_ext_iff_of_nodup left.keys_nodup right.keys_nodup]
  intro key
  rw [← AList.mem_keys,← AList.mem_keys,← AList.lookup_isSome,← AList.lookup_isSome]
  rcases related.found key with ⟨absent,absent'⟩ | ⟨value,other,here,there,_⟩
  · rw [absent,absent']
    exact Iff.rfl
  · rw [here,there]
    exact Iff.rfl

theorem entries_map {β : Type} (f : κ → ν → β) (table : Table κ ν) :
    table.entries.map (fun entry => f entry.1 entry.2) =
      table.keys.filterMap (fun key => (table.lookup key).map (f key)) := by
  rw [AList.keys,List.keys,List.filterMap_map,← List.filterMap_eq_map]
  apply List.filterMap_congr
  intro entry member
  have found : table.lookup entry.1 = some entry.2 := AList.mem_lookup_iff.mpr member
  simp [found]

/-- What is computed entry by entry from related values comes out in another order
at most. -/
theorem Related.map_perm {β : Type} (related : Related rel left right) (f : κ → ν → β)
    (g : κ → μ → β) (same : ∀ key value other, rel value other → f key value = g key other) :
    (left.entries.map (fun entry => f entry.1 entry.2)).Perm
      (right.entries.map (fun entry => g entry.1 entry.2)) := by
  have equal (key : κ) : (left.lookup key).map (f key) = (right.lookup key).map (g key) := by
    rcases related.found key with ⟨absent,absent'⟩ | ⟨value,other,here,there,holds⟩
    · rw [absent,absent']
      rfl
    · rw [here,there]
      exact congrArg some (same key value other holds)
  rw [entries_map,entries_map,funext equal]
  exact related.keys.filterMap _

end related

/-- Sorting by distinct keys forgets the order in which the items came. -/
theorem sort_perm {σ : Type} [LinearOrder σ] (key : α → σ) {left right : List α}
    (same : left.Perm right) (distinct : (left.map key).Nodup) :
    left.insertionSort (fun a b => key a ≤ key b) =
      right.insertionSort (fun a b => key a ≤ key b) := by
  have sorted (items : List α) :
      (items.insertionSort (fun a b => key a ≤ key b)).Pairwise (fun a b => key a ≤ key b) := by
    have total : Std.Total (fun a b : α => key a ≤ key b) := ⟨fun a b => le_total (key a) (key b)⟩
    have trans : IsTrans α (fun a b => key a ≤ key b) := ⟨fun a b c => le_trans⟩
    exact List.pairwise_insertionSort _ items
  apply List.Perm.eq_of_pairwise _ (sorted left) (sorted right)
  · exact (List.perm_insertionSort _ left).trans (same.trans (List.perm_insertionSort _ right).symm)
  · intro a b inLeft inRight below above
    rw [List.mem_insertionSort] at inLeft inRight
    exact List.inj_on_of_nodup_map distinct inLeft (same.mem_iff.mpr inRight)
      (le_antisymm below above)

section absorb
variable (key : α → κ) (fresh : α → ν) (step : ν → α → ν)

/-- One item advances the entry of its key, starting it afresh on first sight. -/
def absorb (table : Table κ ν) (item : α) : Table κ ν :=
  table.insert (key item) (step ((table.lookup (key item)).getD (fresh item)) item)

def advance (entry : Option ν) (item : α) : Option ν := some (step (entry.getD (fresh item)) item)

theorem lookup_absorb (table : Table κ ν) (item : α) (wanted : κ) :
    (absorb key fresh step table item).lookup wanted =
      if key item = wanted then advance fresh step (table.lookup wanted) item
      else table.lookup wanted := by
  split
  next same => subst same; exact AList.lookup_insert table
  next other => exact AList.lookup_insert_ne (Ne.symm other)

/-- An entry after any interleaving is the fold of its own items. -/
theorem lookup_absorbed (items : List α) (table : Table κ ν) (wanted : κ) :
    (items.foldl (absorb key fresh step) table).lookup wanted =
      (items.filter (fun item => key item = wanted)).foldl (advance fresh step)
        (table.lookup wanted) := by
  induction items generalizing table with
  | nil => rfl
  | cons item rest ih =>
    rw [List.foldl_cons,ih,lookup_absorb,List.filter_cons]
    by_cases same : key item = wanted
    · simp [same]
    · simp [same]

theorem advance_isSome (items : List α) (entry : Option ν) :
    (items.foldl (advance fresh step) entry).isSome = (entry.isSome || !items.isEmpty) := by
  induction items generalizing entry with
  | nil => simp
  | cons item rest ih => rw [List.foldl_cons,ih]; simp [advance]

theorem advance_some (items : List α) (held : ν) :
    items.foldl (advance fresh step) (some held) = some (items.foldl step held) := by
  induction items generalizing held with
  | nil => rfl
  | cons item rest ih => exact ih (step held item)

/-- An entry that starts alike for every item is a plain fold. -/
theorem advance_getD (items : List α) (start : ν) :
    (items.foldl (advance (fun _ => start) step) none).getD start = items.foldl step start := by
  cases items with
  | nil => rfl
  | cons item rest => exact congrArg (·.getD start) (advance_some (fun _ => start) step rest _)

theorem mem_absorbed (items : List α) (wanted : κ) :
    wanted ∈ items.foldl (absorb key fresh step) ∅ ↔ ∃ item ∈ items, key item = wanted := by
  rw [← AList.lookup_isSome,lookup_absorbed,advance_isSome]
  simp [List.filter_eq_nil_iff]

end absorb

section group
variable {μ : Type} (key : α → κ) (value : α → μ)

def group (items : List α) : Table κ (List μ) :=
  items.foldl (absorb key (fun _ => []) (fun held item => held ++ [value item])) ∅

theorem advance_push (items : List α) (held : List μ) :
    items.foldl (advance (fun _ => []) (fun held item => held ++ [value item])) (some held) =
      some (held ++ items.map value) := by
  induction items generalizing held with
  | nil => simp
  | cons item rest ih =>
    rw [List.foldl_cons]
    exact (ih (held ++ [value item])).trans (by simp)

theorem lookup_group (items : List α) (wanted : κ) : (group key value items).lookup wanted =
    if items.filter (fun item => key item = wanted) = [] then none
    else some ((items.filter (fun item => key item = wanted)).map value) := by
  rw [group,lookup_absorbed]
  cases items.filter (fun item => key item = wanted) with
  | nil => rfl
  | cons item rest => exact advance_push value rest [value item]

theorem exists_group (items : List α) (good : List μ → Prop) (empty : ¬good []) :
    (∃ held ∈ (group key value items).values, good held) ↔
      ∃ wanted, good ((items.filter (fun item => key item = wanted)).map value) := by
  simp only [mem_values,lookup_group]
  constructor
  · intro found
    obtain ⟨held,⟨wanted,read⟩,holds⟩ := found
    split at read
    next => contradiction
    next => exact ⟨wanted,Option.some.inj read ▸ holds⟩
  · intro found
    obtain ⟨wanted,holds⟩ := found
    refine ⟨_,⟨wanted,if_neg ?_⟩,holds⟩
    intro none_of
    rw [none_of] at holds
    exact empty holds

end group
end Table
end Oxlab.Library
