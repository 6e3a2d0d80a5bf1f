import CatalogBrowser.Proofs.Cache.Run

/-!
# Runs with a call left out

Two runs are compared: one with a call, and the same one where the call is never started. The calls
that are started later get smaller numbers in the second run, so actions, calls and results are
renumbered. As long as the call leaves the cache as it is in each of its own actions, the two runs
stay in step: the caches are the same, and so are the results of all other calls.

The two runs need not agree on all monitors. It is enough that they agree on those that the other
calls use.

## Main definitions

* `renumber`, `Action.omit` - numbers and actions where a call is left out.
* `Machine.Bystands` - an action with which a call leaves the cache as it is.
* `Machine.Omits` - a machine that lacks a call of another one, and is the same otherwise.

## Main statements

* `Machine.Omits.step_other`, `Machine.Omits.step_own` - one action, of another call or of the call.
* `Machine.Omits.run` - runs stay in step.
-/

namespace CatalogBrowser.Cache

variable {ρ α : Type}

/-- The number of another call where the call `id` is left out. -/
def renumber (id other : Nat) : Nat :=
  if id < other then other - 1 else other

def Call.renumbered (id : Nat) (call : Call) : Call :=
  { call with id := renumber id call.id }

@[simp] theorem Call.renumbered_stage (id : Nat) (call : Call) :
    (call.renumbered id).stage = call.stage := rfl

@[simp] theorem Call.renumbered_request (id : Nat) (call : Call) :
    (call.renumbered id).request = call.request := rfl

def Action.renumbered (id : Nat) : Action ρ α → Action ρ α
  | .poll call => .poll (renumber id call)
  | .listed call answer => .listed (renumber id call) answer
  | .found call answer => .found (renumber id call) answer
  | .abort call => .abort (renumber id call)
  | action => action

/-- An action where the call `id` is left out: nothing is left of those that concern the call. -/
def Action.omit (id : Nat) (action : Action ρ α) : Option (Action ρ α) :=
  if action.call? = some id then none else some (action.renumbered id)

theorem Action.omit_of_concerns {id : Nat} {action : Action ρ α} (h : action.call? = some id) :
    action.omit id = none :=
  if_pos h

/-- The calls where the call `id` is left out. -/
def omitCall (id : Nat) (calls : List Call) : List Call :=
  (calls.filter (·.id ≠ id)).map (Call.renumbered id)

/-- The results where the call `id` is left out. -/
def omitResults (id : Nat) (finished : List (Nat × Result)) : List (Nat × Result) :=
  (finished.filter (·.1 ≠ id)).map fun entry => (renumber id entry.1, entry.2)

section Renumber

variable {id i j : Nat}

theorem renumber_of_lt (h : i < id) : renumber id i = i :=
  if_neg (Nat.not_lt.2 (Nat.le_of_lt h))

theorem renumber_inj (hi : i ≠ id) (hj : j ≠ id) : renumber id i = renumber id j ↔ i = j := by
  unfold renumber
  split <;> split <;> omega

theorem omitCall_cons_self {call : Call} (h : call.id = id) (calls : List Call) :
    omitCall id (call :: calls) = omitCall id calls := by
  simp [omitCall, h]

theorem omitCall_cons_other {call : Call} (h : call.id ≠ id) (calls : List Call) :
    omitCall id (call :: calls) = call.renumbered id :: omitCall id calls := by
  simp [omitCall, h]

theorem omitCall_append (calls others : List Call) :
    omitCall id (calls ++ others) = omitCall id calls ++ omitCall id others := by
  simp [omitCall]

theorem omitCall_of_lt {calls : List Call} (h : ∀ call ∈ calls, call.id < id) :
    omitCall id calls = calls := by
  induction calls with
  | nil => rfl
  | cons call rest ih =>
    obtain ⟨hcall, hrest⟩ := List.forall_mem_cons.1 h
    rw [omitCall_cons_other (Nat.ne_of_lt hcall), ih hrest, Call.renumbered,
      renumber_of_lt hcall]

theorem omitResults_append (finished others : List (Nat × Result)) :
    omitResults id (finished ++ others) = omitResults id finished ++ omitResults id others := by
  simp [omitResults]

theorem omitResults_of_lt {finished : List (Nat × Result)} (h : ∀ entry ∈ finished, entry.1 < id) :
    omitResults id finished = finished := by
  induction finished with
  | nil => rfl
  | cons entry rest ih =>
    obtain ⟨hentry, hrest⟩ := List.forall_mem_cons.1 h
    have hrest := ih hrest
    simp only [omitResults] at hrest ⊢
    rw [List.filter_cons_of_pos (by simpa using Nat.ne_of_lt hentry), List.map_cons, hrest,
      renumber_of_lt hentry]

/-- The other calls are found under their new numbers. -/
theorem find?_omitCall (hi : i ≠ id) (calls : List Call) :
    (omitCall id calls).find? (·.id = renumber id i) =
      (calls.find? (·.id = i)).map (Call.renumbered id) := by
  induction calls with
  | nil => rfl
  | cons call rest ih =>
    by_cases hid : call.id = id
    · have hne : call.id ≠ i := fun h => hi (h.symm.trans hid)
      rw [omitCall_cons_self hid, ih, List.find?_cons_of_neg (by simpa using hne)]
    · rw [omitCall_cons_other hid]
      by_cases hsame : call.id = i
      · rw [List.find?_cons_of_pos (by simp [Call.renumbered, hsame]),
          List.find?_cons_of_pos (by simpa using hsame)]
        rfl
      · have hne : renumber id call.id ≠ renumber id i := fun h =>
          hsame ((renumber_inj hid hi).1 h)
        simp [Call.renumbered, hne, hsame, ih]

end Renumber

namespace Machine

variable {source : Source ρ α} {P : Monitor → Prop} {id : Nat} {m n : Machine α}
  {action : Action ρ α}

/-- Whatever concerns the call `id` leaves the cache as it is. -/
def Bystands (source : Source ρ α) (id : Nat) (m : Machine α) (action : Action ρ α) : Prop :=
  action.call? = some id → (m.step source action).machine.cache = m.cache

/-- A machine that lacks the call `id` of another one, and is the same otherwise: for all monitors
that matter to the other calls. -/
structure Omits (P : Monitor → Prop) (id : Nat) (m n : Machine α) : Prop where
  cache : n.cache = m.cache
  calls : n.calls = omitCall id m.calls
  started : m.started = n.started + 1
  given : id < m.started
  cancelled : ∀ monitor, P monitor → n.monitors.isCancelled monitor = m.monitors.isCancelled monitor
  monitored : ∀ call ∈ m.calls, call.id ≠ id → P call.monitor

/-- Moving another call is the same in both machines. -/
theorem omitCall_place {call : Call} (hother : call.id ≠ id) (stage : Stage) (calls : List Call) :
    omitCall id (calls.map fun c => if c.id = call.id then { c with stage } else c) =
      (omitCall id calls).map fun c =>
        if c.id = (call.renumbered id).id then { c with stage } else c := by
  induction calls with
  | nil => rfl
  | cons first rest ih =>
    rw [List.map_cons]
    by_cases hid : first.id = id
    · have hne : first.id ≠ call.id := fun h => hother (h.symm.trans hid)
      rw [if_neg hne, omitCall_cons_self hid, omitCall_cons_self hid, ih]
    · by_cases hsame : first.id = call.id
      · rw [if_pos hsame, omitCall_cons_other (by exact hid), omitCall_cons_other hid,
          List.map_cons, ih]
        simp [Call.renumbered, hsame]
      · have hne : renumber id first.id ≠ renumber id call.id := fun h =>
          hsame ((renumber_inj hid hother).1 h)
        rw [if_neg hsame, omitCall_cons_other hid, omitCall_cons_other hid, List.map_cons, ih]
        simp [Call.renumbered, hne]

theorem omitCall_forget {call : Call} (hother : call.id ≠ id) (calls : List Call) :
    omitCall id (calls.filter (·.id ≠ call.id)) =
      (omitCall id calls).filter (·.id ≠ (call.renumbered id).id) := by
  induction calls with
  | nil => rfl
  | cons first rest ih =>
    by_cases hid : first.id = id
    · have hne : first.id ≠ call.id := fun h => hother (h.symm.trans hid)
      rw [List.filter_cons_of_pos (by simpa using hne), omitCall_cons_self hid,
        omitCall_cons_self hid, ih]
    · by_cases hsame : first.id = call.id
      · rw [List.filter_cons_of_neg (by simpa using hsame), omitCall_cons_other hid, ih,
          List.filter_cons_of_neg (by simp [Call.renumbered, hsame])]
      · have hne : renumber id first.id ≠ renumber id call.id := fun h =>
          hsame ((renumber_inj hid hother).1 h)
        rw [List.filter_cons_of_pos (by simpa using hsame), omitCall_cons_other hid,
          omitCall_cons_other hid, ih]
        simp [Call.renumbered, hne]

section Step

variable {call : Call}

theorem Omits.call? (h : Omits P id m n) {other : Nat} (hother : other ≠ id) :
    n.call? (renumber id other) = (m.call? other).map (Call.renumbered id) := by
  rw [Machine.call?, Machine.call?, h.calls, find?_omitCall hother]

theorem Omits.isCancelled (h : Omits P id m n) (hcall : call ∈ m.calls) (hother : call.id ≠ id) :
    n.isCancelled (call.renumbered id) = m.isCancelled call :=
  h.cancelled call.monitor (h.monitored call hcall hother)

/-- What becomes of the call itself makes no difference. -/
theorem omitCall_place_self (call : Call) (stage : Stage) (calls : List Call) :
    omitCall call.id (calls.map fun c => if c.id = call.id then { c with stage } else c) =
      omitCall call.id calls := by
  induction calls with
  | nil => rfl
  | cons first rest ih =>
    rw [List.map_cons]
    by_cases hsame : first.id = call.id
    · rw [if_pos hsame, omitCall_cons_self (by exact hsame), omitCall_cons_self hsame, ih]
    · rw [if_neg hsame, omitCall_cons_other hsame, omitCall_cons_other hsame, ih]

theorem omitCall_forget_self (call : Call) (calls : List Call) :
    omitCall call.id (calls.filter (·.id ≠ call.id)) = omitCall call.id calls := by
  simp [omitCall, List.filter_filter]

theorem Omits.monitored_take (h : Omits P id m n) (turn : Turn α) :
    ∀ other ∈ (m.take call turn).machine.calls, other.id ≠ id → P other.monitor := by
  intro other hmem hne
  unfold Machine.take at hmem
  split at hmem
  · obtain ⟨old, hold, rfl⟩ := List.mem_map.1 hmem
    split at hne
    next hsame => exact if_pos hsame ▸ h.monitored old hold hne
    next hsame => exact if_neg hsame ▸ h.monitored old hold hne
  · exact h.monitored other (List.mem_of_mem_filter hmem) hne

theorem Omits.cancelled_take (h : Omits P id m n) (turn : Turn α) {monitor : Monitor}
    (hmonitor : P monitor) :
    n.monitors.isCancelled monitor =
      (m.take call turn).machine.monitors.isCancelled monitor := by
  unfold Machine.take
  split <;> exact h.cancelled monitor hmonitor

/-- Another call has the same turn in both machines. -/
theorem Omits.take (h : Omits P id m n) (hother : call.id ≠ id) (turn : Turn α) :
    Omits P id (m.take call turn).machine (n.take (call.renumbered id) turn).machine ∧
      (n.take (call.renumbered id) turn).finished =
        omitResults id (m.take call turn).finished := by
  constructor
  · refine ⟨by rw [take_cache, take_cache], ?_, ?_, ?_, ?_, h.monitored_take turn⟩
    · unfold Machine.take
      split
      · exact (congrArg _ h.calls).trans (omitCall_place hother _ _).symm
      · exact (congrArg _ h.calls).trans (omitCall_forget hother _).symm
    · rw [take_started, take_started]
      exact h.started
    · rw [take_started]
      exact h.given
    · intro monitor hmonitor
      unfold Machine.take
      split <;> exact h.cancelled monitor hmonitor
  · rw [take_finished, take_finished]
    split
    · rfl
    · simp [omitResults, hother, Call.renumbered]

/-- An action that does not concern the call does the same in both machines. -/
theorem Omits.step_other (h : Omits P id m n) (source : Source ρ α)
    (hother : action.call? ≠ some id)
    (hstart : ∀ request monitor, action = .start request monitor → P monitor) :
    Omits P id (m.step source action).machine
        (n.step source (action.renumbered id)).machine ∧
      (n.step source (action.renumbered id)).finished =
        omitResults id (m.step source action).finished := by
  have hne : ∀ {other : Nat}, action.call? = some other → other ≠ id := by
    rintro other hcall rfl
    exact hother hcall
  cases action with
  | start request monitor =>
    refine ⟨⟨h.cache, ?_, congrArg (· + 1) h.started, Nat.lt_succ_of_lt h.given, h.cancelled, ?_⟩,
      rfl⟩
    · -- the new call has the next smaller number
      have hnumber : renumber id m.started = n.started := by
        rw [renumber, if_pos h.given, h.started, Nat.add_sub_cancel]
      show n.calls ++ _ = omitCall id (m.calls ++ _)
      rw [omitCall_append, h.calls, omitCall_cons_other (Nat.ne_of_gt h.given),
        Call.renumbered, hnumber]
      rfl
    · intro call hcall hid
      rcases List.mem_append.1 hcall with hcall | hcall
      · exact h.monitored call hcall hid
      · rw [List.mem_singleton.1 hcall]
        exact hstart request monitor rfl
  | poll other =>
    have hcall? := h.call? (hne rfl)
    simp only [step, Action.renumbered, hcall?]
    cases hcall : m.call? other with
    | none => exact ⟨h, rfl⟩
    | some call =>
      obtain ⟨hmem, rfl⟩ := mem_of_call? hcall
      have htake := h.take (hne rfl) (m.cache.poll call.request call.stage (m.isCancelled call))
      simp only [Option.map_some, h.cache, h.isCancelled hmem (hne rfl)]
      exact htake
  | listed other answer =>
    have hcall? := h.call? (hne rfl)
    simp only [step, Action.renumbered, hcall?]
    cases hcall : m.call? other with
    | none => exact ⟨h, rfl⟩
    | some call =>
      obtain ⟨hmem, rfl⟩ := mem_of_call? hcall
      simp only [Option.map_some, h.cache, h.isCancelled hmem (hne rfl), Call.renumbered_stage,
        Call.renumbered_request]
      split
      · exact h.take (hne rfl) _
      · exact ⟨h, rfl⟩
  | found other answer =>
    have hcall? := h.call? (hne rfl)
    simp only [step, Action.renumbered, hcall?]
    cases hcall : m.call? other with
    | none => exact ⟨h, rfl⟩
    | some call =>
      obtain ⟨hmem, rfl⟩ := mem_of_call? hcall
      simp only [Option.map_some, h.cache, h.isCancelled hmem (hne rfl), Call.renumbered_stage]
      split
      · exact h.take (hne rfl) _
      · exact ⟨h, rfl⟩
  | abort other =>
    have hcall? := h.call? (hne rfl)
    simp only [step, Action.renumbered, hcall?]
    cases hcall : m.call? other with
    | none => exact ⟨h, rfl⟩
    | some call =>
      obtain ⟨hmem, rfl⟩ := mem_of_call? hcall
      refine ⟨⟨by rw [Option.map_some, h.cache]; rfl, ?_, h.started, h.given, h.cancelled, ?_⟩, rfl⟩
      · exact (congrArg _ h.calls).trans (omitCall_forget (hne rfl) _).symm
      · exact fun call hcall => h.monitored call (List.mem_of_mem_filter hcall)
  | cancel monitor =>
    refine ⟨⟨h.cache, h.calls, h.started, h.given, fun other hother => ?_, h.monitored⟩, rfl⟩
    have hsame := h.cancelled other hother
    rw [Bool.eq_iff_iff] at hsame ⊢
    show (n.monitors.cancel monitor).isCancelled other = true ↔
      (m.monitors.cancel monitor).isCancelled other = true
    rw [Monitors.isCancelled_cancel, Monitors.isCancelled_cancel, hsame]
  | edit edit =>
    refine ⟨⟨?_, h.calls, h.started, h.given, h.cancelled, h.monitored⟩, rfl⟩
    show (edit.apply source n.cache).2.1 = (edit.apply source m.cache).2.1
    rw [h.cache]

/-- An action of the call itself shows in no other way, if it leaves the cache as it is. -/
theorem Omits.step_own (h : Omits P id m n) (hown : action.call? = some id)
    (hcache : (m.step source action).machine.cache = m.cache) :
    Omits P id (m.step source action).machine n ∧
      omitResults id (m.step source action).finished = [] := by
  rcases step_of_call? source m hown with
    hidle | ⟨call, hcall, rfl, ⟨-, hdropped⟩ | ⟨turn, -, htaken⟩⟩
  · rw [hidle]
    exact ⟨h, rfl⟩
  · rw [hdropped] at hcache ⊢
    exact ⟨⟨h.cache.trans hcache.symm, h.calls.trans (omitCall_forget_self call _).symm,
      h.started, h.given, h.cancelled,
      fun other hother => h.monitored other (List.mem_of_mem_filter hother)⟩, rfl⟩
  · rw [htaken] at hcache ⊢
    refine ⟨⟨h.cache.trans hcache.symm, ?_, ?_, ?_, fun _ => h.cancelled_take turn,
      h.monitored_take turn⟩, ?_⟩
    · rw [h.calls]
      unfold Machine.take
      split
      · exact (omitCall_place_self call _ _).symm
      · exact (omitCall_forget_self call _).symm
    · rw [take_started]
      exact h.started
    · rw [take_started]
      exact h.given
    · rw [take_finished]
      split
      · rfl
      · simp [omitResults]

end Step

section Run

/-- Leaving out a call from the moment on in which it is started. -/
theorem Numbered.omits_start (h : m.Numbered) (source : Source ρ α) (request : Request)
    (monitor : Monitor) :
    Omits (fun _ => True) m.started (m.step source (.start request monitor)).machine m := by
  refine ⟨rfl, ?_, rfl, Nat.lt_succ_self _, fun _ _ => rfl, fun _ _ _ => trivial⟩
  have hnew : omitCall m.started [{ id := m.started, monitor, request }] = [] := by
    simp [omitCall]
  show m.calls = omitCall m.started (m.calls ++ _)
  rw [omitCall_append, omitCall_of_lt h.lt_started, hnew, List.append_nil]

/-- A cancellation that concerns no other call can be left out with it. -/
theorem Omits.step_cancel (h : Omits (fun _ => True) id m n) {monitor : Monitor}
    (halone : ∀ call ∈ m.calls, call.id ≠ id → monitor.scope ∉ call.monitor.scopes)
    (source : Source ρ α) :
    Omits (fun other => monitor.scope ∉ other.scopes) id
      (m.step source (.cancel monitor)).machine n := by
  refine ⟨h.cache, h.calls, h.started, h.given, fun other hother => ?_, halone⟩
  have hsame := h.cancelled other trivial
  rw [Bool.eq_iff_iff] at hsame ⊢
  show _ ↔ (m.monitors.cancel monitor).isCancelled other = true
  rw [Monitors.isCancelled_cancel, hsame]
  exact (or_iff_right hother).symm

/-- Runs stay in step where a call is left out, as long as it leaves the cache as it is. -/
theorem Omits.run (h : Omits P id m n) {actions : List (Action ρ α)}
    (hbystands : m.Admits source (Bystands source id) actions)
    (hstarts : ∀ request monitor, .start request monitor ∈ actions → P monitor) :
    Omits P id (m.run source actions).machine
        (n.run source (actions.filterMap (Action.omit id))).machine ∧
      (n.run source (actions.filterMap (Action.omit id))).finished =
        omitResults id (m.run source actions).finished := by
  induction actions generalizing m n with
  | nil => exact ⟨h, rfl⟩
  | cons action rest ih =>
    have hrest : ∀ request monitor, .start request monitor ∈ rest → P monitor :=
      fun request monitor hmem => hstarts request monitor (List.mem_cons_of_mem _ hmem)
    by_cases hown : action.call? = some id
    · obtain ⟨hnext, hnothing⟩ := h.step_own hown (hbystands.1 hown)
      rw [List.filterMap_cons_none (Action.omit_of_concerns hown)]
      obtain ⟨hend, hlater⟩ := ih hnext hbystands.2 hrest
      refine ⟨hend, hlater.trans ?_⟩
      rw [Machine.run, omitResults_append, hnothing, List.nil_append]
    · obtain ⟨hnext, hsame⟩ := h.step_other source hown fun request monitor heq =>
        hstarts request monitor (heq ▸ List.mem_cons_self)
      rw [List.filterMap_cons_some (by rw [Action.omit, if_neg hown])]
      obtain ⟨hend, hlater⟩ := ih hnext hbystands.2 hrest
      refine ⟨hend, ?_⟩
      rw [Machine.run, Machine.run, omitResults_append, ← hsame, ← hlater]

end Run

end Machine

end CatalogBrowser.Cache
