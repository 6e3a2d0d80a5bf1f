import CatalogBrowser.DataSource.Session
import CatalogBrowser.Proofs.DataSource.Coverage

/-!
# Sessions as runs of a scene

A session runs its tasks in turns, and each turn is a sequence of moves of the scene that consists
of the loads of all tasks. So a session only ever shows what some run of the scene shows.

## Main definitions

* `Session.scene` - the loads that the tasks of a session have under way.
* `Session.Regular` - tasks are told apart by their ids, and are fit.

## Main statements

* `Session.regular_opened` - a session begins with an empty scene.
* `Session.reaches_start`, `Session.reaches_without`, `Session.reaches_poll` - starting, dropping
  and running a task are sequences of moves.
-/

namespace CatalogBrowser

/-- A task that has not begun. -/
def Routine.Fresh (routine : Routine) : Prop :=
  ∀ job ∈ routine.jobs, job.stage = .start

/-- A walk that has not begun is fit. -/
theorem Routine.Fresh.fit {routine : Routine} (h : routine.Fresh) : routine.Fit := by
  have hschemas : ∀ db walk, (∀ job ∈ SchemaWalk.jobs db walk, job.stage = .start) →
      walk.Fit := by
    intro db walk hwalk
    rcases walk with ⟨_ | depth, load⟩ | walks
    · exact hwalk _ List.mem_cons_self
    · trivial
    · trivial
  cases routine with
  | preload walk =>
    rcases walk with ⟨_ | depth, load⟩ | walks
    · exact h _ List.mem_cons_self
    · trivial
    · intro branch hbranch
      exact hschemas branch.db branch.walk fun job hjob =>
        h job (List.mem_flatMap.2 ⟨branch, hbranch, hjob⟩)
  | preloadDatabase db walk => exact hschemas db walk h
  | preloadSchema db schema depth load =>
    cases depth with
    | zero => exact h _ List.mem_cons_self
    | succ => trivial
  | _ => trivial

namespace Session

variable {s : Session} {task : Task}

/-- The data source of a session, with the loads of all tasks. -/
def scene (s : Session) : Scene where
  context := s.context
  jobs := s.tasks.flatMap (·.routine.jobs)

/-- Tasks are told apart by their ids, and are fit. -/
structure Regular (s : Session) : Prop where
  nodup : (s.tasks.map (·.id)).Nodup
  lt : ∀ task ∈ s.tasks, task.id < s.started
  fit : ∀ task ∈ s.tasks, task.routine.Fit

/-- A session that begins has nothing under way. -/
theorem regular_opened (connection : Connection) (server : Server) :
    let s : Session := { context := { source := .ofConnection connection, server } }
    s.Regular ∧ s.scene = Scene.opened connection server :=
  ⟨⟨List.nodup_nil, by simp, by simp⟩, rfl⟩

/-- A new task is added, with its loads at the end. -/
theorem reaches_start (h : s.Regular) (name : String) {routine : Routine} (hfresh : routine.Fresh)
    (monitor : Option String) :
    s.scene.Reaches (s.start name routine monitor).scene ∧
      (s.start name routine monitor).Regular := by
  rw [start]
  rcases s.monitors.resolveOrFresh s.context.monitors monitor with ⟨names, monitors, own⟩
  have haside : Scene.Covers s.context { s.context with monitors } s.scene.jobs s.scene.jobs :=
    Scene.covers_aside (by rfl) _
  have hbegin := haside.append (Scene.covers_beginAll { s.context with monitors } hfresh)
  refine ⟨?_, ?_, ?_, ?_⟩
  · simpa [scene, withMonitors] using hbegin.reaches
  · have hnew : s.started ∉ s.tasks.map (·.id) := by
      intro hmem
      obtain ⟨task, htask, hid⟩ := List.mem_map.1 hmem
      exact Nat.lt_irrefl _ (hid ▸ h.lt task htask)
    simpa [withMonitors, List.nodup_append] using ⟨h.nodup, by simpa using hnew⟩
  · intro task htask
    rcases List.mem_append.1 htask with hold | hnew
    · exact Nat.lt_succ_of_lt (h.lt task hold)
    · obtain rfl := List.mem_singleton.1 hnew
      exact Nat.lt_succ_self _
  · intro task htask
    rcases List.mem_append.1 htask with hold | hnew
    · exact h.fit task hold
    · obtain rfl := List.mem_singleton.1 hnew
      exact hfresh.fit

/-- A pending task, with all others around it. -/
theorem Regular.split (h : s.Regular) (hmem : task ∈ s.tasks) : ∃ before behind,
    s.tasks = before ++ task :: behind ∧ ∀ other ∈ before ++ behind, other.id ≠ task.id := by
  obtain ⟨before, behind, htasks⟩ := List.append_of_mem hmem
  refine ⟨before, behind, htasks, fun other hother hsame => ?_⟩
  have hnodup := h.nodup
  rw [htasks, List.map_append, List.map_cons, List.nodup_middle, ← List.map_append,
    List.nodup_cons] at hnodup
  exact hnodup.1 (hsame ▸ List.mem_map_of_mem hother)

section Split

variable {before behind : List Task}

theorem filter_split (htasks : s.tasks = before ++ task :: behind)
    (hothers : ∀ other ∈ before ++ behind, other.id ≠ task.id) :
    s.tasks.filter (·.id ≠ task.id) = before ++ behind := by
  rw [htasks, List.filter_append, List.filter_cons_of_neg (by simp), ← List.filter_append,
    List.filter_eq_self]
  simpa using hothers

theorem map_split (htasks : s.tasks = before ++ task :: behind)
    (hothers : ∀ other ∈ before ++ behind, other.id ≠ task.id) (routine : Routine) :
    (s.tasks.map fun t => if t.id = task.id then { t with routine } else t) =
      before ++ { task with routine } :: behind := by
  have hsame : ∀ {others : List Task}, (∀ other ∈ others, other.id ≠ task.id) →
      (others.map fun t => if t.id = task.id then { t with routine } else t) = others := by
    intro others h
    exact (List.map_congr_left fun other hother => if_neg (h other hother)).trans (List.map_id _)
  obtain ⟨hbefore, hbehind⟩ := List.forall_mem_append.1 hothers
  rw [htasks, List.map_append, List.map_cons, if_pos rfl, hsame hbefore, hsame hbehind]

/-- What is left of a task takes its place, by moves that work on its loads. Other tasks stay. -/
theorem Regular.replaced (h : s.Regular) (s' : Session) {left : List Task}
    (htasks : s.tasks = before ++ task :: behind) (htasks' : s'.tasks = before ++ left ++ behind)
    (hstarted : s'.started = s.started) (hids : (left.map (·.id)).Sublist [task.id])
    (hfit : ∀ task ∈ left, task.routine.Fit)
    (hcovers : Scene.Covers s.context s'.context task.routine.jobs
      (left.flatMap (·.routine.jobs))) :
    s.scene.Reaches s'.scene ∧ s'.Regular ∧
      ∀ other ∈ s.tasks, other.id ≠ task.id → other ∈ s'.tasks := by
  have hsublist : (s'.tasks.map (·.id)).Sublist (s.tasks.map (·.id)) := by
    rw [htasks, htasks', List.append_assoc, List.map_append, List.map_append, List.map_append,
      List.map_cons]
    exact (List.Sublist.refl _).append (hids.append (.refl _))
  refine ⟨?_, ⟨h.nodup.sublist hsublist, fun other hother => ?_, fun other hother => ?_⟩,
    fun other hother hne => ?_⟩
  · have hplace := hcovers (before.flatMap (·.routine.jobs)) (behind.flatMap (·.routine.jobs))
    rw [scene, scene, htasks, htasks']
    simpa only [List.flatMap_append, List.flatMap_cons, List.append_assoc] using hplace
  · obtain ⟨old, hold, hid⟩ := List.mem_map.1 (hsublist.subset (List.mem_map_of_mem hother))
    rw [hstarted, ← hid]
    exact h.lt old hold
  · have hmem : other ∈ s.tasks ∨ other ∈ left := by
      rw [htasks]
      rw [htasks'] at hother
      simp only [List.mem_append, List.mem_cons] at hother ⊢
      tauto
    exact hmem.elim (h.fit other) (hfit other)
  · rw [htasks] at hother
    rw [htasks']
    have hother' : other ≠ task := fun heq => hne (congrArg Task.id heq)
    simp only [List.mem_append, List.mem_cons] at hother ⊢
    tauto

end Split

/-- Dropping a task is a sequence of moves. -/
theorem reaches_without (h : s.Regular) (hmem : task ∈ s.tasks) {s' : Session}
    (hcontext : s'.context = s.context.abandon task.routine)
    (htasks' : s'.tasks = s.tasks.filter (·.id ≠ task.id)) (hstarted : s'.started = s.started) :
    s.scene.Reaches s'.scene ∧ s'.Regular := by
  obtain ⟨before, behind, htasks, hothers⟩ := h.split hmem
  have hleft : s'.tasks = before ++ [] ++ behind := by
    rw [htasks', List.append_nil]
    exact filter_split htasks hothers
  have hcovers := s.context.covers_abandon task.routine
  rw [← hcontext] at hcovers
  obtain ⟨hreaches, hregular, -⟩ := h.replaced s' htasks hleft hstarted (List.nil_sublist _)
    (by simp) hcovers
  exact ⟨hreaches, hregular⟩

/-- A turn of a task is a sequence of moves, and leaves other tasks alone. -/
theorem reaches_poll (h : s.Regular) (hmem : task ∈ s.tasks) :
    s.scene.Reaches (s.poll task).scene ∧ (s.poll task).Regular ∧
      ∀ other ∈ s.tasks, other.id ≠ task.id → other ∈ (s.poll task).tasks := by
  obtain ⟨before, behind, htasks, hothers⟩ := h.split hmem
  have hturn := s.context.turns_run task.monitor (h.fit task hmem)
  rw [poll]
  rcases hout : s.context.run task.monitor task.routine with ⟨ctx', routine | result⟩
  · rw [hout] at hturn
    have hleft := map_split htasks hothers routine
    rw [← List.singleton_append, ← List.append_assoc] at hleft
    have hcovers : Scene.Covers s.context ctx' task.routine.jobs
        ([{ task with routine }].flatMap (·.routine.jobs)) := by
      rw [List.flatMap_singleton]
      exact hturn.covers
    have hfit : ∀ left ∈ [{ task with routine }], left.routine.Fit :=
      List.forall_mem_singleton.2 hturn.fit
    exact h.replaced _ htasks hleft rfl (.refl _) hfit hcovers
  · rw [hout] at hturn
    have hleft : s.tasks.filter (·.id ≠ task.id) = before ++ [] ++ behind := by
      rw [List.append_nil]
      exact filter_split htasks hothers
    exact h.replaced _ htasks hleft rfl (List.nil_sublist _) (by simp) hturn.covers

end Session

end CatalogBrowser
