import Mathlib.Data.List.Infix
import Oxlab.Judge.Gate
import Oxlab.Library.Run

/-! Baselines on disk.
A baseline is kept under a path made of the names of its scenario and of its
profile, joined by two underscores. Other names can make the same path, and what
is loaded from it is not asked whose it is. -/
namespace Oxlab.BaselineStore
open Judge Library Run

/-- A path as a map of files tells it from others: repeated separators and single
dots do not count, two dots are left as they are. -/
structure Path where
  absolute : Bool
  parts : List (List Char)
  deriving DecidableEq

def path (text : String) : Path where
  absolute := text.toList.head? == some '/'
  parts := (text.toList.splitOn '/').filter (fun part => part ≠ [] ∧ part ≠ ['.'])

/-- An absolute name replaces the directory. -/
def join (dir name : String) : String :=
  if name.toList.head? = some '/' ∨ dir = "" then name
  else if dir.toList.getLast? = some '/' then dir ++ name
  else dir ++ "/" ++ name

def resolvePath (dir scenario profile : String) : Path :=
  path (join dir (BaselineFile.baselineKey scenario profile ++ ".json"))

/-- A path without a file that parses has no baseline. -/
abbrev FileSystem := Path → Option BaselineFile

def tryLoad (dir : String) (files : FileSystem) (scenario profile : String) : Option BaselineFile :=
  files (resolvePath dir scenario profile)

/-- The files, and what each pair of names saved last. -/
structure Disk where
  files : FileSystem
  saved : String × String → Option BaselineFile

def blank : Disk := ⟨fun _ => none,fun _ => none⟩

def save (dir : String) (disk : Disk) (scenario profile : String) (file : BaselineFile) : Disk where
  files := Function.update disk.files (resolvePath dir scenario profile) (some file)
  saved := Function.update disk.saved (scenario,profile) (some file)

section save
variable {dir scenario profile scenario' profile' : String} (disk : Disk) (file : BaselineFile)

theorem save_loads (same : resolvePath dir scenario profile = resolvePath dir scenario' profile') :
    tryLoad dir (save dir disk scenario profile file).files scenario' profile' = some file := by
  rw [tryLoad,← same]
  exact Function.update_self _ _ _

theorem save_keeps (apart : resolvePath dir scenario profile ≠ resolvePath dir scenario' profile') :
    tryLoad dir (save dir disk scenario profile file).files scenario' profile' =
      tryLoad dir disk.files scenario' profile' :=
  Function.update_of_ne (Ne.symm apart) _ _

theorem save_saved : (save dir disk scenario profile file).saved (scenario,profile) = some file :=
  Function.update_self _ _ _

theorem save_other (other : (scenario,profile) ≠ (scenario',profile')) :
    (save dir disk scenario profile file).saved (scenario',profile') =
      disk.saved (scenario',profile') :=
  Function.update_of_ne (Ne.symm other) _ _

end save

/-- A run with the time it is judged at and whether its file can be written. -/
structure Attempt where
  run : JudgeInput
  now : String
  writable : Bool

section step
variable (dir : String) (disk : Disk) (attempt : Attempt)

def judgeAttempt : JudgeReport :=
  attempt.run.report (tryLoad dir disk.files attempt.run.scenario attempt.run.profile) attempt.now

def saves : Bool := shouldUpdate (judgeAttempt dir disk attempt) && attempt.writable

def step : Disk :=
  if saves dir disk attempt then
    save dir disk attempt.run.scenario attempt.run.profile
      (createBaseline (judgeAttempt dir disk attempt))
  else disk

theorem step_next (writable : attempt.writable = true) :
    tryLoad dir (step dir disk attempt).files attempt.run.scenario attempt.run.profile =
      attempt.run.next (tryLoad dir disk.files attempt.run.scenario attempt.run.profile)
        attempt.now := by
  rw [step,saves,writable,Bool.and_true,JudgeInput.next]
  by_cases accepted : shouldUpdate (judgeAttempt dir disk attempt) = true
  · rw [if_pos accepted,save_loads disk _ rfl]
    exact (if_pos accepted).symm
  · rw [if_neg accepted]
    exact (if_neg accepted).symm

end step

section own
variable (dir scenario profile : String)

/-- What is loaded for the pair is what a run of the pair saved last. -/
def Own (disk : Disk) : Prop := tryLoad dir disk.files scenario profile = disk.saved (scenario,profile)

/-- The run saves over the file of the pair without being of it. -/
def Overwrites (disk : Disk) (attempt : Attempt) : Prop :=
  saves dir disk attempt = true ∧ (attempt.run.scenario,attempt.run.profile) ≠ (scenario,profile) ∧
    resolvePath dir attempt.run.scenario attempt.run.profile = resolvePath dir scenario profile

/-- A saved baseline carries the names of the pair that saved it. -/
def Signed (disk : Disk) : Prop :=
  ∀ file, disk.saved (scenario,profile) = some file → (file.scenario,file.profile) = (scenario,profile)

variable {dir scenario profile}

theorem step_own {disk : Disk} (own : Own dir scenario profile disk) {attempt : Attempt}
    (apart : ¬Overwrites dir scenario profile disk attempt) :
    Own dir scenario profile (step dir disk attempt) := by
  unfold step
  split
  next saved =>
    by_cases same : (attempt.run.scenario,attempt.run.profile) = (scenario,profile)
    · obtain ⟨rfl,rfl⟩ := Prod.mk.inj same
      rw [Own,save_loads disk _ rfl,save_saved]
    · have elsewhere : resolvePath dir attempt.run.scenario attempt.run.profile ≠
          resolvePath dir scenario profile :=
        fun clash => apart ⟨saved,same,clash⟩
      rw [Own,save_keeps disk _ elsewhere,save_other disk _ same]
      exact own
  next => exact own

theorem step_signed {disk : Disk} (signed : Signed scenario profile disk) (attempt : Attempt) :
    Signed scenario profile (step dir disk attempt) := by
  unfold step
  split
  next =>
    intro file found
    by_cases same : (attempt.run.scenario,attempt.run.profile) = (scenario,profile)
    · rw [← same,save_saved] at found
      rw [← Option.some.inj found,← same]
      rfl
    · rw [save_other disk _ same] at found
      exact signed file found
  next => exact signed

theorem step_foreign {disk : Disk} (signed : Signed scenario profile disk) {attempt : Attempt}
    (clash : Overwrites dir scenario profile disk attempt) :
    ¬Own dir scenario profile (step dir disk attempt) := by
  obtain ⟨saved,other,same⟩ := clash
  rw [step,if_pos saved,Own,save_loads disk _ same,save_other disk _ other]
  intro loaded
  exact other (signed _ loaded.symm)

end own

/-- Over every sequence of runs, from no files at all: in every state a pair of
names loads what its own runs saved last, exactly when no run of another pair
saves under the same path. -/
theorem own_iff (dir : String) (history : List Attempt) (scenario profile : String) :
    Always (fun disk attempt => some (step dir disk attempt)) (Own dir scenario profile) blank
        history ↔
      Clean (fun disk attempt => some (step dir disk attempt)) (Overwrites dir scenario profile)
        blank history := by
  apply always_iff_clean _ (fun disk => Own dir scenario profile disk ∧ Signed scenario profile disk)
  · intro disk both
    exact both.1
  · rintro disk attempt next ⟨own,signed⟩ stepped apart
    cases stepped
    exact ⟨step_own own apart,step_signed signed attempt⟩
  · rintro disk attempt next ⟨_,signed⟩ stepped clash
    cases stepped
    exact step_foreign signed clash
  · refine ⟨rfl,?_⟩
    intro file found
    contradiction
  · exact exec_total (step dir) blank history

section ordinary

/-- Names that cannot be read in two ways around the two underscores. -/
structure Ordinary (scenario profile : String) : Prop where
  scenarioSlash : '/' ∉ scenario.toList
  profileSlash : '/' ∉ profile.toList
  single : ¬['_','_'] <:+: profile.toList
  head : profile.toList.head? ≠ some '_'

variable {dir scenario profile scenario' profile' : String}

structure IsPart (name : List Char) : Prop where
  slash : '/' ∉ name
  some_name : name ≠ []
  no_dot : name ≠ ['.']

theorem only_part {name : List Char} (part : IsPart name) :
    (name.splitOn '/').filter (fun part => part ≠ [] ∧ part ≠ ['.']) = [name] := by
  rw [List.splitOn_eq_singleton part.slash,List.filter_eq_self]
  intro other member
  rw [List.mem_singleton.mp member]
  exact decide_eq_true ⟨part.some_name,part.no_dot⟩

theorem last_part {name : List Char} (part : IsPart name) (before : List Char) :
    (((before ++ '/'::name).splitOn '/').filter (fun part => part ≠ [] ∧ part ≠ ['.'])).getLast? =
      some name := by
  rw [List.splitOn_append_cons_self,List.filter_append,only_part part]
  exact List.getLast?_concat

theorem joined_last {name : String} (part : IsPart name.toList) (dir : String) :
    (path (join dir name)).parts.getLast? = some name.toList := by
  have rooted : name.toList.head? ≠ some '/' :=
    fun first => part.slash (List.mem_of_mem_head? first)
  rw [path,join]
  by_cases empty : dir = ""
  · rw [if_pos (Or.inr empty),only_part part]
    rfl
  · rw [if_neg (not_or.mpr ⟨rooted,empty⟩)]
    split
    next closed =>
      obtain ⟨before,split⟩ := List.getLast?_eq_some_iff.mp closed
      rw [String.toList_append,split,List.append_assoc]
      exact last_part part before
    next =>
      rw [String.toList_append,String.toList_append,List.append_assoc]
      exact last_part part dir.toList

theorem split_once {before after before' after' : List Char} {u : Char}
    (single : ¬[u,u] <:+: after) (head : after.head? ≠ some u)
    (longer : before.length ≤ before'.length)
    (same : before ++ u::u::after = before' ++ u::u::after') : before = before' ∧ after = after' := by
  obtain ⟨between,rfl,rest⟩ | ⟨between,rfl,rest⟩ := List.append_eq_append_iff.mp same
  · match between, rest with
    | [], rest => simpa using rest
    | [a], rest =>
      have tail : after = u::after' := by simpa using (List.cons.inj (List.cons.inj rest).2).2
      exact absurd (by rw [tail]; rfl) head
    | a::b::others, rest =>
      have tail : after = others ++ u::u::after' := (List.cons.inj (List.cons.inj rest).2).2
      exact absurd ⟨others,after',by simp [tail]⟩ single
  · rw [List.length_append] at longer
    have none_between : between = [] := List.length_eq_zero_iff.mp (by omega)
    subst none_between
    simpa using rest.symm

theorem resolved_last (ordinary : Ordinary scenario profile) :
    (resolvePath dir scenario profile).parts.getLast? =
      some (scenario.toList ++ '_' :: '_' :: profile.toList ++ ".json".toList) := by
  have name : (BaselineFile.baselineKey scenario profile ++ ".json").toList =
      scenario.toList ++ '_' :: '_' :: profile.toList ++ ".json".toList := by
    simp [BaselineFile.baselineKey]
  rw [← name]
  apply joined_last
  rw [name]
  refine ⟨?_,by simp,?_⟩
  · simp [ordinary.scenarioSlash,ordinary.profileSlash]
  · intro dot
    have long := congrArg List.length dot
    simp only [List.length_append,List.length_cons,List.length_nil] at long
    omega

theorem ordinary_apart (ordinary : Ordinary scenario profile) (ordinary' : Ordinary scenario' profile')
    (same : resolvePath dir scenario profile = resolvePath dir scenario' profile') :
    (scenario,profile) = (scenario',profile') := by
  have names := congrArg (·.parts.getLast?) same
  simp only [resolved_last ordinary,resolved_last ordinary',Option.some.injEq,
    List.append_cancel_right_eq] at names
  have read : scenario.toList = scenario'.toList ∧ profile.toList = profile'.toList := by
    rcases Nat.le_total scenario.toList.length scenario'.toList.length with longer | longer
    · exact split_once ordinary.single ordinary.head longer names
    · have back := split_once ordinary'.single ordinary'.head longer names.symm
      exact ⟨back.1.symm,back.2.symm⟩
  exact Prod.ext (String.ext read.1) (String.ext read.2)

/-- Among ordinary names no run saves over the baseline of others. -/
theorem ordinary_clean (ordinary : Ordinary scenario profile) (history : List Attempt)
    (all : ∀ attempt ∈ history,Ordinary attempt.run.scenario attempt.run.profile) :
    Clean (fun disk attempt => some (step dir disk attempt)) (Overwrites dir scenario profile) blank
      history := by
  rw [clean_split]
  rintro before attempt later split disk _ ⟨_,other,same⟩
  have member : attempt ∈ history := by rw [split]; simp
  exact other (ordinary_apart (all attempt member) ordinary same)

end ordinary

def rapid : Attempt := ⟨⟨"ptt__rapid","field_lte",[],0,∅,{},[]⟩,"now",true⟩

/-- Its baseline is loaded for the scenario `ptt` under `rapid__field_lte` as well. -/
theorem joined_names_collide :
    ¬Always (fun disk attempt => some (step "baselines" disk attempt))
      (Own "baselines" "ptt" "rapid__field_lte") blank [rapid] := by
  have ends : (exec (fun disk attempt => some (step "baselines" disk attempt)) blank [rapid]).map
      (fun disk => (tryLoad "baselines" disk.files "ptt" "rapid__field_lte",
        disk.saved ("ptt","rapid__field_lte"))) =
      some (some ⟨"ptt__rapid","field_lte","now",[]⟩,none) := by
    decide +kernel
  apply not_always _ _ _ ends
  intro disk seen own
  have parts := Prod.mk.inj seen
  rw [Own,parts.1,parts.2] at own
  contradiction

end Oxlab.BaselineStore
