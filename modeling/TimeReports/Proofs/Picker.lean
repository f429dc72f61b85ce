import TimeReports.Proofs.Gathering
import TimeReports.Proofs.Sorting

set_option autoImplicit false

namespace TimeReports.Session

open Harvest Program

section Tables

variable {projects : List Project} {number : Int}

theorem find?_cons_eq (project : Project) (projects : List Project) :
    (project :: projects).find? (·.id == number) =
      if project.id = number then some project else projects.find? (·.id == number) := by
  rw [List.find?_cons]
  by_cases wanted : project.id = number
  · rw [if_pos wanted, beq_iff_eq.mpr wanted]
  · rw [if_neg wanted, beq_eq_false_iff_ne.mpr wanted]

theorem find?_setProject (project : Project) (projects : List Project) :
    (setProject project projects).find? (·.id == number) =
      if project.id = number then some project else projects.find? (·.id == number) := by
  induction projects with
  | nil => exact find?_cons_eq project []
  | cons other rest ih =>
    rw [setProject]
    by_cases same : other.id = project.id
    · rw [if_pos same, find?_cons_eq, find?_cons_eq, same]
      split <;> rfl
    · rw [if_neg same, find?_cons_eq, find?_cons_eq, ih]
      by_cases wanted : other.id = number
      · rw [if_pos wanted, if_pos wanted, if_neg fun also => same (wanted.trans also.symm)]
      · rw [if_neg wanted, if_neg wanted]

theorem find?_addProject (projects : List Project) (project : Project) :
    (addProject projects project).find? (·.id == number) =
      (projects.find? (·.id == number)).or ([project].find? (·.id == number)) := by
  rw [addProject]
  split
  · rename_i there
    by_cases wanted : project.id = number
    · have found : (projects.find? (·.id == number)).isSome = true := by
        rw [List.find?_isSome, ← List.any_eq_true, ← wanted]
        exact there
      rw [Option.or_of_isSome found]
    · rw [find?_cons_eq, if_neg wanted, List.find?_nil, Option.or_none]
  · rw [List.find?_append]

/-- Whether a way to add a project to a table keeps the numbers that are there, and puts a new one
behind them. -/
def KeepsNumbers (insert : List Project → Project → List Project) : Prop :=
  ∀ projects project, (insert projects project).map (·.id) =
    if project.id ∈ projects.map (·.id) then projects.map (·.id)
    else projects.map (·.id) ++ [project.id]

theorem keepsNumbers_setProject :
    KeepsNumbers fun projects project => setProject project projects := by
  intro projects project
  induction projects with
  | nil => rfl
  | cons other rest ih =>
    dsimp only [setProject] at ih ⊢
    by_cases same : other.id = project.id
    · simp [same]
    · simp only [same, ↓reduceIte, List.map_cons, ih, List.mem_cons, Ne.symm same, false_or]
      split <;> rfl

theorem keepsNumbers_addProject : KeepsNumbers addProject := by
  intro projects project
  rw [addProject]
  have there : projects.any (·.id == project.id) = true ↔ project.id ∈ projects.map (·.id) := by
    simp
  by_cases member : project.id ∈ projects.map (·.id)
  · rw [if_pos (there.mpr member), if_pos member]
  · rw [if_neg (fun found => member (there.mp found)), if_neg member, List.map_append,
      List.map_singleton]

/-- A table that is filled keeps its numbers in the order of their first appearance. -/
theorem KeepsNumbers.foldl {insert : List Project → Project → List Project}
    (keeps : KeepsNumbers insert) {numbers : List Int}
    (start : projects.map (·.id) = numbers.eraseDups) (more : List Project) :
    (more.foldl insert projects).map (·.id) = (numbers ++ more.map (·.id)).eraseDups := by
  -- The numbers of the table are, at each point, those that came so far, without repetitions.
  induction more generalizing projects numbers with
  | nil => rw [List.foldl_nil, start, List.map_nil, List.append_nil]
  | cons project more ih =>
    have next : (insert projects project).map (·.id) = (numbers ++ [project.id]).eraseDups := by
      rw [keeps, start]
      by_cases member : project.id ∈ numbers
      · rw [if_pos (List.mem_eraseDups.mpr member), eraseDups_concat_of_mem member]
      · rw [if_neg fun inside => member (List.mem_eraseDups.mp inside),
          eraseDups_concat_of_not_mem member]
    rw [List.foldl_cons, ih next, List.map_cons, List.append_assoc, List.singleton_append]

/-- Of the projects that are set one after another the last one with a number counts. -/
theorem find?_foldl_setProject (listed : List Project) :
    (listed.foldl (fun projects project => setProject project projects) []).find?
      (·.id == number) = listed.reverse.find? (·.id == number) := by
  induction listed using List.reverseRecOn with
  | nil => rfl
  | append_singleton listed project ih =>
    rw [List.foldl_append, List.foldl_cons, List.foldl_nil, find?_setProject, ih,
      List.reverse_append, List.reverse_singleton, List.singleton_append, find?_cons_eq]

/-- Of the projects that are added one after another the first one with a number counts. -/
theorem find?_foldl_addProject (more : List Project) :
    (more.foldl addProject projects).find? (·.id == number) =
      (projects.find? (·.id == number)).or (more.find? (·.id == number)) := by
  induction more generalizing projects with
  | nil => simp
  | cons project more ih =>
    rw [List.foldl_cons, ih, find?_addProject, Option.or_assoc, ← List.find?_append,
      List.singleton_append]

theorem projectsOf_eq (tracked : List TimeEntry) :
    Client.projectsOf tracked = (tracked.map Client.projectOf).foldl addProject [] := by
  rw [List.foldl_map]
  rfl

/-- With distinct numbers each project is the one that its number finds. -/
theorem find?_of_mem {project : Project} (distinct : (projects.map (·.id)).Nodup)
    (member : project ∈ projects) : projects.find? (·.id == project.id) = some project := by
  induction projects with
  | nil => cases member
  | cons other rest ih =>
    rw [List.map_cons, List.nodup_cons] at distinct
    rw [find?_cons_eq]
    rcases List.mem_cons.mp member with rfl | inside
    · rw [if_pos rfl]
    · rw [if_neg, ih distinct.2 inside]
      intro same
      exact distinct.1 (same ▸ List.mem_map_of_mem inside)

end Tables

section Picks

variable {listed projects others : List Project} {tracked : List TimeEntry}

/-- The numbers of the projects as they appear: those that the user manages, then those of the
tracked entries. -/
def appearances (listed : List Project) (tracked : List TimeEntry) : List Int :=
  listed.map (·.id) ++ tracked.map (·.project.id)

/-- What there is to pick from: each project once, those that the user manages as they were listed
last, and the others as their first entry tells; by name in small letters, and under equal names in
the order of their first appearance. -/
structure Picks (listed : List Project) (tracked : List TimeEntry) (projects : List Project) :
    Prop where
  distinct : (projects.map (·.id)).Nodup
  numbers : ∀ number, number ∈ projects.map (·.id) ↔
    number ∈ listed.map (·.id) ∨ number ∈ tracked.map (·.project.id)
  managed : ∀ project ∈ projects, project.id ∈ listed.map (·.id) →
    listed.reverse.find? (·.id == project.id) = some project
  mentioned : ∀ project ∈ projects, project.id ∉ listed.map (·.id) →
    ∃ entry, tracked.find? (·.project.id == project.id) = some entry ∧
      project = ⟨entry.project.id, entry.project.name, none, entry.client, none⟩
  sorted : projects.Pairwise fun upper lower =>
    Text.atMost (Text.lower upper.name) (Text.lower lower.name) = true ∧
      (Text.lower upper.name = Text.lower lower.name →
        (appearances listed tracked).idxOf upper.id < (appearances listed tracked).idxOf lower.id)

def table (listed : List Project) (tracked : List TimeEntry) : List Project :=
  (Client.projectsOf tracked).foldl addProject
    (listed.foldl (fun projects project => setProject project projects) [])

theorem ids_table : (table listed tracked).map (·.id) =
    (appearances listed tracked).eraseDups := by
  have none : ([] : List Project).map (·.id) = ([] : List Int).eraseDups := rfl
  have first := keepsNumbers_setProject.foldl none listed
  have second := keepsNumbers_addProject.foldl none (tracked.map Client.projectOf)
  rw [table, keepsNumbers_addProject.foldl first, projectsOf_eq, second, List.nil_append,
    List.nil_append, eraseDups_append_eraseDups, List.map_map]
  rfl

theorem find?_table (number : Int) : (table listed tracked).find? (·.id == number) =
    (listed.reverse.find? (·.id == number)).or
      ((tracked.find? (·.project.id == number)).map Client.projectOf) := by
  rw [table, find?_foldl_addProject, find?_foldl_setProject, projectsOf_eq, find?_foldl_addProject,
    List.find?_nil, Option.none_or, List.find?_map]
  rfl

theorem nodup_table : ((table listed tracked).map (·.id)).Nodup := by
  rw [ids_table]
  exact nodup_eraseDups _

/-- A collection gives what there is to pick from. -/
theorem picks_merged (listed : List Project) (tracked : List TimeEntry) :
    Picks listed tracked (merged listed tracked) := by
  have perm : (merged listed tracked).Perm (table listed tracked) := List.mergeSort_perm _ _
  have found {project : Project} (member : project ∈ merged listed tracked) :
      (listed.reverse.find? (·.id == project.id)).or
        ((tracked.find? (·.project.id == project.id)).map Client.projectOf) = some project := by
    rw [← find?_table]
    exact find?_of_mem nodup_table (perm.mem_iff.mp member)
  refine ⟨?distinct, ?numbers, ?managed, ?mentioned, ?sorted⟩
  case distinct => exact (perm.map _).nodup_iff.mpr nodup_table
  case numbers =>
    intro number
    rw [(perm.map _).mem_iff, ids_table, List.mem_eraseDups, appearances, List.mem_append]
  case managed =>
    intro project member inside
    have there : (listed.reverse.find? (·.id == project.id)).isSome = true := by
      simpa [List.find?_isSome] using List.mem_map.mp inside
    rw [← Option.or_of_isSome there]
    exact found member
  case mentioned =>
    intro project member absent
    have nowhere : listed.reverse.find? (·.id == project.id) = none := by
      simpa [List.find?_eq_none] using absent
    have mention := found member
    rw [nowhere, Option.none_or, Option.map_eq_some_iff] at mention
    obtain ⟨entry, first, rfl⟩ := mention
    exact ⟨entry, first, rfl⟩
  case sorted =>
    have ordered : (table listed tracked).Pairwise fun upper lower =>
        (appearances listed tracked).idxOf upper.id <
          (appearances listed tracked).idxOf lower.id := by
      have appeared := pairwise_eraseDups (appearances listed tracked)
      rw [← ids_table, List.pairwise_map] at appeared
      exact appeared
    have trans (first second third : Project)
        (before : Text.atMost (Text.lower first.name) (Text.lower second.name) = true)
        (before' : Text.atMost (Text.lower second.name) (Text.lower third.name) = true) :
        Text.atMost (Text.lower first.name) (Text.lower third.name) = true :=
      Text.atMost_trans _ _ _ before before'
    have total (left right : Project) :
        (Text.atMost (Text.lower left.name) (Text.lower right.name) ||
          Text.atMost (Text.lower right.name) (Text.lower left.name)) = true :=
      Text.atMost_total _ _
    refine (pairwise_mergeSort_stable trans total ordered).imp fun {upper lower} both => ?_
    refine ⟨both.1, fun same => both.2 ?_⟩
    rw [same] at both ⊢
    exact both.1

theorem Picks.eq_of_id (picks : Picks listed tracked projects)
    (picks' : Picks listed tracked others) {project other : Project} (member : project ∈ projects)
    (member' : other ∈ others) (same : project.id = other.id) : project = other := by
  by_cases inside : project.id ∈ listed.map (·.id)
  · have found := picks.managed project member inside
    rw [same] at inside found
    exact Option.some.inj (found.symm.trans (picks'.managed other member' inside))
  · obtain ⟨entry, first, rfl⟩ := picks.mentioned project member inside
    rw [same] at inside first
    obtain ⟨entry', first', rfl⟩ := picks'.mentioned other member' inside
    cases first.symm.trans first'
    rfl

theorem Picks.subset (picks : Picks listed tracked projects)
    (picks' : Picks listed tracked others) : projects ⊆ others := by
  intro project member
  have number : project.id ∈ others.map (·.id) :=
    (picks'.numbers _).mpr ((picks.numbers _).mp (List.mem_map_of_mem member))
  obtain ⟨other, member', same⟩ := List.mem_map.mp number
  rw [picks.eq_of_id picks' member member' same.symm]
  exact member'

/-- There is one thing to pick from. -/
theorem Picks.unique (picks : Picks listed tracked projects)
    (picks' : Picks listed tracked others) : projects = others := by
  have perm : projects.Perm others :=
    (List.perm_ext_iff_of_nodup picks.distinct.of_map picks'.distinct.of_map).mpr fun project =>
      ⟨fun member => picks.subset picks' member, fun member => picks'.subset picks member⟩
  refine perm.eq_of_pairwise (fun upper lower _ _ before before' => ?_) picks.sorted picks'.sorted
  have same := Text.atMost_antisymm before.1 before'.1
  have first := before.2 same
  have second := before'.2 same.symm
  omega

end Picks

section Refreshes

variable [Console] {session : Session} {force : Bool} (today : Date)

theorem refreshProjects_of_cached (cached : session.projects ≠ []) (replies : List Reply) :
    (refreshProjects false today).run session replies =
      ⟨.returned session.projects, session, replies, []⟩ := by
  simp [refreshProjects, Program.get, Program.bind, Program.run, cached]

/-- What a refresh that asks the service comes to. -/
theorem assures_refreshed (asks : session.projects = [] ∨ force = true) :
    (refreshProjects force today).Assures (fun _ _ => True)
      (fun outcome exchanges after =>
        (∀ projects, outcome = .returned projects → after.projects = projects ∧
          ∃ listed tracked, Completed session today exchanges listed tracked ∧
            Picks listed tracked projects) ∧
        ((∀ projects, outcome ≠ .returned projects) → after.projects = session.projects))
      [] session := by
  have refreshed : (!session.projects.isEmpty && !force) = false := by
    rcases asks with empty | forced
    · simp [empty]
    · simp [forced]
  rw [refreshProjects, bind_eq, assures_bind, assures_get]
  dsimp only [thenPost]
  rw [refreshed, if_neg Bool.false_ne_true, bind_eq, assures_bind]
  apply assures_gathered
  intro exchanges outcome user gathered
  cases gathered with
  | completed completed =>
    refine ⟨fun projects given => ?_, fun never => absurd rfl (never _)⟩
    cases given
    exact ⟨rfl, _, _, completed, picks_merged _ _⟩
  | broken collected breaks =>
    apply thenPost_of_breaks breaks
    intro outcome breaks
    refine ⟨fun projects given => ?_, fun _ => rfl⟩
    rw [given] at breaks
    exact breaks.elim

/-- A refresh gives what there is to pick from, as the service listed it, and the session then holds
it. While there are projects and none is demanded, nothing is asked for and these are given; and
after a refresh that breaks off they are what they were. -/
theorem refreshed_picks (session : Session) (force : Bool) (today : Date) (replies : List Reply) :
    let run := (refreshProjects force today).run session replies
    (session.projects ≠ [] → force = false → run.exchanges = [] ∧
      run.outcome = .returned session.projects ∧ run.state = session) ∧
    (session.projects = [] ∨ force = true → ∀ projects, run.outcome = .returned projects →
      run.state.projects = projects ∧ ∃ listed tracked,
        Completed session today run.exchanges listed tracked ∧ Picks listed tracked projects) ∧
    ((∀ projects, run.outcome ≠ .returned projects) → run.state.projects = session.projects) := by
  intro run
  have asking (asks : session.projects = [] ∨ force = true) :=
    (assures_refreshed today asks).run replies
  refine ⟨?cached, fun asks => (asking asks).1, ?broken⟩
  case cached =>
    rintro cached rfl
    rw [show run = _ from refreshProjects_of_cached today cached replies]
    exact ⟨rfl, rfl, rfl⟩
  case broken =>
    intro never
    by_cases asks : session.projects = [] ∨ force = true
    · exact (asking asks).2 never
    · obtain ⟨cached, plain⟩ := not_or.mp asks
      obtain rfl := Bool.eq_false_of_not_eq_true plain
      exact congrArg (·.state.projects) (refreshProjects_of_cached today cached replies)

end Refreshes

/-- Replies to a refresh: two pages of managed projects, the user, and a page of entries. A managed
project is listed twice, and the tracked one has its name but for capitals. -/
def pickReplies : List Reply :=
  [successWith ("\x7b\"projects\": [\x7b\"id\": 2, \"name\": \"old\"\x7d], "
      ++ "\"total_pages\": 2\x7d"),
    successWith ("\x7b\"projects\": [\x7b\"id\": 2, \"name\": \"alpha\"\x7d], "
      ++ "\"total_pages\": 2\x7d"),
    successWith "\x7b\"id\": 7\x7d",
    successWith ("\x7b\"time_entries\": [\x7b\"id\": 10, \"spent_date\": \"2025-01-15\", "
      ++ "\"hours\": 1, \"project\": \x7b\"id\": 1, \"name\": \"ALPHA\"\x7d, "
      ++ "\"task\": \x7b\"id\": 2, \"name\": \"T\"\x7d\x7d]\x7d")]

/-- All four replies are asked for, and the refresh is completed. -/
theorem pickReplies_refreshed :
    let session := Session.start ⟨"t".text, "a".text, 9⟩ none
    let run := (refreshProjects false Execution.someDay).run session pickReplies
    run.exchanges.length = 4 ∧ ∃ projects listed tracked, run.outcome = .returned projects ∧
      Completed session Execution.someDay run.exchanges listed tracked ∧
      Picks listed tracked projects := by
  intro session run
  have completes : run.exchanges.length = 4 ∧ run.value?.isSome = true := by decide +kernel
  obtain ⟨projects, given⟩ := Option.isSome_iff_exists.mp completes.2
  have returned := Run.value?_eq_some_iff.mp given
  obtain ⟨-, listed, tracked, completed, picks⟩ :=
    (refreshed_picks session false Execution.someDay pickReplies).2.1 (Or.inl rfl) projects returned
  exact ⟨completes.1, projects, listed, tracked, returned, completed, picks⟩

end TimeReports.Session
