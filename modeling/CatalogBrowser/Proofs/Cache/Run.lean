import CatalogBrowser.Proofs.Cache.Effect

/-!
# Runs of a cache

A run is a list of actions on a new cache. `Stepped` lists what one action can do to the cache and
to the pending calls, in terms of the turns of a call, and what every action preserves holds at the
end of every run.

## Main definitions

* `Machine.new` - a cache that nobody has used yet.
* `Machine.Admits` - every action of a run meets a condition in the state in which it happens.
* `Machine.Numbered` - pending calls are told apart by their numbers.
* `Stepped` - the effects of an action.
* `Pends` - where the calls that are pending after an action come from.

## Main statements

* `Machine.run_preserves`, `Machine.Admits.preserves` - from one action to all runs.
* `Machine.Numbered.stepped`, `Machine.Numbered.pends` - an action has no other effects.
-/

namespace CatalogBrowser.Cache

variable {ρ α : Type}

/-- The stage at which a call waits, if it does. -/
def Progress.stage? : Progress → Option Stage
  | .waiting stage => some stage
  | .finished _ => none

/-- The call that an action concerns. -/
def Action.call? : Action ρ α → Option Nat
  | .poll id | .listed id _ | .found id _ | .abort id => some id
  | _ => none

/-- A call that moved to a stage, or none if it left. -/
def Call.moved (call : Call) (stage? : Option Stage) : List Call :=
  (stage?.map fun stage => { call with stage }).toList

@[simp] theorem Call.moved_none (call : Call) : call.moved none = [] := rfl

@[simp] theorem Call.moved_some (call : Call) (stage : Stage) :
    call.moved (some stage) = [{ call with stage }] := rfl

theorem Call.mem_moved_iff {before behind : List Call} {call other : Call}
    {stage? : Option Stage} :
    other ∈ before ++ call.moved stage? ++ behind ↔
      (other ∈ before ∨ other ∈ behind) ∨
        ∃ stage, stage? = some stage ∧ { call with stage } = other := by
  rw [List.append_assoc, List.mem_append, List.mem_append]
  have hmoved : other ∈ call.moved stage? ↔
      ∃ stage, stage? = some stage ∧ { call with stage } = other := by
    simp [Call.moved]
  rw [hmoved]
  constructor
  · rintro (h | h | h)
    · exact .inl (.inl h)
    · exact .inr h
    · exact .inl (.inr h)
  · rintro ((h | h) | h)
    · exact .inl h
    · exact .inr (.inr h)
    · exact .inr (.inl h)

/-- All that an action can do to a cache and to its pending calls. -/
inductive Stepped (source : Source ρ α) (m : Machine α) (action : Action ρ α) (moved : Moved α) :
    Prop
  /-- Neither the cache nor its calls notice the action. -/
  | idle (cache : moved.machine.cache = m.cache) (calls : moved.machine.calls = m.calls)
      (started : moved.machine.started = m.started) (events : moved.events = [])
      (finished : moved.finished = [])
  /-- A call is started. -/
  | start (request : Request) (monitor : Monitor) (cache : moved.machine.cache = m.cache)
      (calls : moved.machine.calls = m.calls ++ [{ id := m.started, monitor, request }])
      (started : moved.machine.started = m.started + 1) (events : moved.events = [])
      (finished : moved.finished = []) (same : action = .start request monitor)
  /-- A pending call has a turn. -/
  | turn {call : Call} {turn : Turn α} {before behind : List Call}
      (concerns : action.call? = some call.id) (turned : Turned source m.cache call action turn)
      (pending : m.calls = before ++ call :: behind) (cache : moved.machine.cache = turn.cache)
      (calls : moved.machine.calls = before ++ call.moved turn.progress.stage? ++ behind)
      (started : moved.machine.started = m.started) (events : moved.events = turn.events)
      (finished : ∀ entry ∈ moved.finished, ∃ result,
        turn.progress = .finished result ∧ entry = (call.id, result))
  /-- The cache is edited. -/
  | edit (edit : Edit α) (same : action = .edit edit)
      (cache : moved.machine.cache = (edit.apply source m.cache).2.1)
      (calls : moved.machine.calls = m.calls) (started : moved.machine.started = m.started)
      (events : moved.events = (edit.apply source m.cache).2.2) (finished : moved.finished = [])

/-- How a call that is pending after an action comes to be so. -/
inductive Pends (source : Source ρ α) (m : Machine α) (action : Action ρ α) (moved : Moved α) :
    Call → Prop
  /-- It was pending before. -/
  | stay {call : Call} (pending : call ∈ m.calls) : Pends source m action moved call
  /-- It is started. -/
  | start (request : Request) (monitor : Monitor) (cache : moved.machine.cache = m.cache) :
      Pends source m action moved { id := m.started, monitor, request }
  /-- It has a turn. -/
  | turn {call : Call} {turn : Turn α} {stage : Stage} (pending : call ∈ m.calls)
      (turned : Turned source m.cache call action turn)
      (stage? : turn.progress.stage? = some stage) (cache : moved.machine.cache = turn.cache)
      (events : moved.events = turn.events) :
      Pends source m action moved { call with stage }

namespace Machine

variable {source : Source ρ α} {ok : Machine α → Action ρ α → Prop} {m : Machine α}

/-- A cache that nobody has used yet. -/
def new (config : Config) (monitors : Monitors := {}) : Machine α where
  cache := { config }
  monitors := monitors

/-- Every action of a run meets the condition `ok` in the state in which it happens. -/
def Admits (source : Source ρ α) (ok : Machine α → Action ρ α → Prop) (m : Machine α) :
    List (Action ρ α) → Prop
  | [] => True
  | action :: rest => ok m action ∧ (m.step source action).machine.Admits source ok rest

/-- A run can be checked action by action. -/
instance Admits.decidable [∀ m action, Decidable (ok m action)] (m : Machine α) :
    (actions : List (Action ρ α)) → Decidable (m.Admits source ok actions)
  | [] => .isTrue trivial
  | action :: rest =>
    have := Admits.decidable (m.step source action).machine rest
    inferInstanceAs (Decidable (ok m action ∧ (m.step source action).machine.Admits source ok rest))

theorem admits_append (xs ys : List (Action ρ α)) :
    m.Admits source ok (xs ++ ys) ↔
      m.Admits source ok xs ∧ (m.run source xs).machine.Admits source ok ys := by
  induction xs generalizing m with
  | nil => simp [Admits]
  | cons action rest ih => simp only [List.cons_append, Admits, run, ih, and_assoc]

/-- What every admitted action preserves holds after an admitted run. -/
theorem Admits.preserves {P : Machine α → Prop} {actions : List (Action ρ α)}
    (hstep : ∀ m action, P m → ok m action → P (m.step source action).machine)
    (h : m.Admits source ok actions) (h0 : P m) : P (m.run source actions).machine := by
  induction actions generalizing m with
  | nil => exact h0
  | cons action rest ih => exact ih h.2 (hstep m action h0 h.1)

theorem run_preserves {P : Machine α → Prop}
    (hstep : ∀ m action, P m → P (m.step source action).machine) (h0 : P m)
    (actions : List (Action ρ α)) : P (m.run source actions).machine := by
  induction actions generalizing m with
  | nil => exact h0
  | cons action rest ih => exact ih (hstep m action h0)

/-- Whatever comes to hold in a run comes to hold in one of its steps. -/
theorem exists_step_of_run {P : Machine α → Prop} {actions : List (Action ρ α)} (h0 : ¬ P m)
    (h : P (m.run source actions).machine) :
    ∃ xs action ys, actions = xs ++ action :: ys ∧ ¬ P (m.run source xs).machine ∧
      P ((m.run source xs).machine.step source action).machine := by
  induction actions generalizing m with
  | nil => exact absurd h h0
  | cons action rest ih =>
    by_cases hfirst : P (m.step source action).machine
    · exact ⟨[], action, rest, rfl, h0, hfirst⟩
    · obtain ⟨xs, next, ys, rfl, hbefore, hafter⟩ := ih hfirst h
      exact ⟨action :: xs, next, ys, rfl, hbefore, hafter⟩

/-- Whatever finishes in a run finishes in one of its steps. -/
theorem exists_step_of_finished {actions : List (Action ρ α)} {entry : Nat × Result}
    (h : entry ∈ (m.run source actions).finished) :
    ∃ xs action ys, actions = xs ++ action :: ys ∧
      entry ∈ ((m.run source xs).machine.step source action).finished := by
  induction actions generalizing m with
  | nil => cases h
  | cons action rest ih =>
    rcases List.mem_append.1 h with hfirst | hlater
    · exact ⟨[], action, rest, rfl, hfirst⟩
    · obtain ⟨xs, next, ys, rfl, hnext⟩ := ih hlater
      exact ⟨action :: xs, next, ys, rfl, hnext⟩

/-- Pending calls are told apart by their numbers, which were all given out. -/
structure Numbered (m : Machine α) : Prop where
  nodup : (m.calls.map (·.id)).Nodup
  lt_started : ∀ call ∈ m.calls, call.id < m.started

theorem numbered_new (config : Config) (monitors : Monitors) :
    (new config monitors : Machine α).Numbered where
  nodup := List.nodup_nil
  lt_started := by simp [new]

theorem mem_of_call? {id : Nat} {call : Call} (h : m.call? id = some call) :
    call ∈ m.calls ∧ call.id = id := by
  refine ⟨List.mem_of_find?_eq_some h, ?_⟩
  simpa using List.find?_some h

/-- Around a pending call, no other call has its number. -/
theorem Numbered.id_ne (h : m.Numbered) {call : Call} {before behind : List Call}
    (hsplit : m.calls = before ++ call :: behind) :
    (∀ other ∈ before, other.id ≠ call.id) ∧ ∀ other ∈ behind, other.id ≠ call.id := by
  have hnodup := h.nodup
  rw [hsplit, List.map_append, List.map_cons, List.nodup_append, List.nodup_cons] at hnodup
  obtain ⟨-, ⟨hbehind, -⟩, hbefore⟩ := hnodup
  constructor
  · intro other hother
    exact hbefore other.id (List.mem_map_of_mem hother) call.id (by simp)
  · intro other hother heq
    exact hbehind (heq ▸ List.mem_map_of_mem hother)

/-- A call that does not stay at its stage is gone. -/
theorem Numbered.not_mem_moved (h : m.Numbered) {call : Call} {before behind : List Call}
    {stage? : Option Stage} (hsplit : m.calls = before ++ call :: behind)
    (hgone : stage? ≠ some call.stage) : call ∉ before ++ call.moved stage? ++ behind := by
  obtain ⟨hbefore, hbehind⟩ := h.id_ne hsplit
  rw [Call.mem_moved_iff]
  rintro ((hmem | hmem) | ⟨stage, rfl, heq⟩)
  · exact hbefore call hmem rfl
  · exact hbehind call hmem rfl
  · exact hgone (congrArg (fun c => some c.stage) heq)

theorem Numbered.call?_eq (h : m.Numbered) {call : Call} (hmem : call ∈ m.calls) :
    m.call? call.id = some call := by
  obtain ⟨before, behind, hsplit⟩ := List.append_of_mem hmem
  rw [call?, hsplit, List.find?_append, List.find?_eq_none.2, Option.none_or,
    List.find?_cons_of_pos (by simp)]
  intro other hother
  simpa using (h.id_ne hsplit).1 other hother

theorem Numbered.step_poll (h : m.Numbered) (source : Source ρ α) {call : Call}
    (hmem : call ∈ m.calls) : m.step source (.poll call.id) =
      m.take call (m.cache.poll call.request call.stage (m.isCancelled call)) := by
  simp only [step, h.call?_eq hmem]

theorem Numbered.step_listed (h : m.Numbered) (source : Source ρ α) {call : Call}
    {lead : FetchLead} (hmem : call ∈ m.calls) (hstage : call.stage = .listing lead)
    (hcancelled : m.isCancelled call = false) (answer : Except ConnectionError (List ρ)) :
    m.step source (.listed call.id answer) =
      m.take call (m.cache.acceptListing source call.request lead answer) := by
  simp only [step, h.call?_eq hmem, hstage, hcancelled]

theorem Numbered.step_found (h : m.Numbered) (source : Source ρ α) {call : Call}
    {lead : LookupLead} (hmem : call ∈ m.calls) (hstage : call.stage = .lookingUp lead)
    (hcancelled : m.isCancelled call = false) (answer : Except ConnectionError (Option ρ)) :
    m.step source (.found call.id answer) =
      m.take call (m.cache.acceptLookup source lead answer) := by
  simp only [step, h.call?_eq hmem, hstage, hcancelled]

theorem Numbered.split (h : m.Numbered) {call : Call} (hmem : call ∈ m.calls) :
    ∃ before behind, m.calls = before ++ call :: behind ∧
      (∀ stage, (m.place call stage).calls = before ++ { call with stage } :: behind) ∧
      (m.forget call).calls = before ++ behind := by
  obtain ⟨before, behind, hsplit⟩ := List.append_of_mem hmem
  obtain ⟨hne_before, hne_behind⟩ := h.id_ne hsplit
  refine ⟨before, behind, hsplit, fun stage => ?_, ?_⟩
  · have hmap : ∀ others : List Call, (∀ other ∈ others, other.id ≠ call.id) →
        others.map (fun c => if c.id = call.id then { c with stage } else c) = others := by
      intro others hothers
      rw [List.map_congr_left fun other hother => if_neg (hothers other hother), List.map_id']
    simp only [place, hsplit, List.map_append, List.map_cons, if_true, hmap before hne_before,
      hmap behind hne_behind]
  · have hkeep : ∀ others : List Call, (∀ other ∈ others, other.id ≠ call.id) →
        others.filter (·.id ≠ call.id) = others := by
      intro others hothers
      rw [List.filter_eq_self]
      exact fun other hother => decide_eq_true (hothers other hother)
    simp only [forget, hsplit, List.filter_append]
    rw [List.filter_cons_of_neg (by simp), hkeep before hne_before, hkeep behind hne_behind]

section Take

variable (m : Machine α) (call : Call) (turn : Turn α)

@[simp] theorem take_cache : (m.take call turn).machine.cache = turn.cache := by
  unfold take
  cases turn.progress <;> rfl

@[simp] theorem take_started : (m.take call turn).machine.started = m.started := by
  unfold take
  cases turn.progress <;> rfl

@[simp] theorem take_events : (m.take call turn).events = turn.events := by
  unfold take
  cases turn.progress <;> rfl

@[simp] theorem isCancelled_take (other : Call) :
    (m.take call turn).machine.isCancelled other = m.isCancelled other := by
  unfold take
  cases turn.progress <;> rfl

theorem take_finished : (m.take call turn).finished =
    match turn.progress with
    | .waiting _ => []
    | .finished result => [(call.id, result)] := by
  unfold take
  cases turn.progress <;> rfl

end Take

/-- After a turn of a call, the calls around it are the same. -/
theorem Numbered.take_calls (h : m.Numbered) {call : Call} (hmem : call ∈ m.calls)
    (turn : Turn α) : ∃ before behind, m.calls = before ++ call :: behind ∧
      (m.take call turn).machine.calls =
        before ++ call.moved turn.progress.stage? ++ behind := by
  obtain ⟨before, behind, hpending, hplace, hforget⟩ := h.split hmem
  refine ⟨before, behind, hpending, ?_⟩
  unfold take
  cases hprogress : turn.progress with
  | waiting stage => exact (hplace stage).trans (by simp [Progress.stage?])
  | finished result => exact hforget.trans (by simp [Progress.stage?])

/-- A turn of a pending call, as an action that concerns the call. -/
theorem Numbered.stepped_take (h : m.Numbered) {call : Call} {action : Action ρ α} {turn : Turn α}
    (hmem : call ∈ m.calls) (hconcerns : action.call? = some call.id)
    (hturn : Turned source m.cache call action turn) :
    Stepped source m action (m.take call turn) := by
  obtain ⟨before, behind, hpending, hcalls⟩ := h.take_calls hmem turn
  refine .turn hconcerns hturn hpending (take_cache m call turn) hcalls (take_started m call turn)
    (take_events m call turn) ?_
  rw [take_finished]
  cases turn.progress with
  | waiting stage => simp
  | finished result => simp

/-- Nobody is told when a call is dropped. -/
theorem step_abort_finished (source : Source ρ α) (m : Machine α) (id : Nat) :
    (m.step source (.abort id)).finished = [] := by
  unfold step
  dsimp only
  split <;> rfl

/-- An action that concerns a call is a turn of a pending call with that number, drops it, or does
nothing. -/
theorem step_of_call? (source : Source ρ α) (m : Machine α) {action : Action ρ α} {id : Nat}
    (hconcerns : action.call? = some id) :
    m.step source action = { machine := m } ∨ ∃ call ∈ m.calls, call.id = id ∧
      (action = .abort id ∧ m.step source action =
          { machine := { m with cache := m.cache.abandon call.stage }.forget call } ∨
        ∃ turn, Turned source m.cache call action turn ∧
          m.step source action = m.take call turn) := by
  cases action with
  | start | cancel | edit => cases hconcerns
  | poll id =>
    obtain rfl := Option.some.inj hconcerns
    unfold step
    dsimp only
    split
    next call hcall =>
      obtain ⟨hmem, hid⟩ := mem_of_call? hcall
      exact .inr ⟨call, hmem, hid, .inr ⟨_, turned_poll _ _ _ _ _, rfl⟩⟩
    next => exact .inl rfl
  | listed id answer =>
    obtain rfl := Option.some.inj hconcerns
    unfold step
    dsimp only
    split
    next call hcall =>
      obtain ⟨hmem, rfl⟩ := mem_of_call? hcall
      split
      next lead hstage _ =>
        exact .inr ⟨call, hmem, rfl, .inr ⟨_, turned_acceptListing _ _ hstage _, rfl⟩⟩
      next => exact .inl rfl
    next => exact .inl rfl
  | found id answer =>
    obtain rfl := Option.some.inj hconcerns
    unfold step
    dsimp only
    split
    next call hcall =>
      obtain ⟨hmem, rfl⟩ := mem_of_call? hcall
      split
      next lead hstage _ =>
        exact .inr ⟨call, hmem, rfl, .inr ⟨_, turned_acceptLookup _ _ hstage _, rfl⟩⟩
      next => exact .inl rfl
    next => exact .inl rfl
  | abort id =>
    obtain rfl := Option.some.inj hconcerns
    unfold step
    dsimp only
    split
    next call hcall =>
      obtain ⟨hmem, hid⟩ := mem_of_call? hcall
      exact .inr ⟨call, hmem, hid, .inl ⟨rfl, rfl⟩⟩
    next => exact .inl rfl

/-- An action has no other effects. -/
theorem Numbered.stepped (h : m.Numbered) (source : Source ρ α) (action : Action ρ α) :
    Stepped source m action (m.step source action) := by
  cases hconcerns : action.call? with
  | none =>
    cases action with
    | start request monitor => exact .start request monitor rfl rfl rfl rfl rfl rfl
    | cancel monitor => exact .idle rfl rfl rfl rfl rfl
    | edit edit => exact .edit edit rfl rfl rfl rfl rfl rfl
    | poll | listed | found | abort => cases hconcerns
  | some id =>
    rcases step_of_call? source m hconcerns with
      hidle | ⟨call, hmem, rfl, ⟨-, hdropped⟩ | ⟨turn, hturn, htaken⟩⟩
    · rw [hidle]
      exact .idle rfl rfl rfl rfl rfl
    · obtain ⟨before, behind, hpending, -, hforget⟩ := h.split hmem
      rw [hdropped]
      refine .turn hconcerns (turned_abandon source m.cache call action) hpending rfl ?_ rfl rfl
        (by simp)
      exact hforget.trans (by simp [Progress.stage?])
    · rw [htaken]
      exact h.stepped_take hmem hconcerns hturn

/-- Pending calls come from nowhere else. -/
theorem Numbered.pends (h : m.Numbered) (source : Source ρ α) (action : Action ρ α) {call : Call}
    (hcall : call ∈ (m.step source action).machine.calls) :
    Pends source m action (m.step source action) call := by
  cases h.stepped source action with
  | idle _ calls => exact .stay (calls ▸ hcall)
  | edit _ _ _ calls => exact .stay (calls ▸ hcall)
  | start request monitor cache calls =>
    rw [calls] at hcall
    rcases List.mem_append.1 hcall with hcall | hcall
    · exact .stay hcall
    · rw [List.mem_singleton.1 hcall]
      exact .start request monitor cache
  | @turn mover turn before behind _ turned pending cache calls _ events =>
    rw [calls, Call.mem_moved_iff] at hcall
    rcases hcall with (hcall | hcall) | ⟨stage, hstage?, rfl⟩
    · exact .stay (by rw [pending]; simp [hcall])
    · exact .stay (by rw [pending]; simp [hcall])
    · exact .turn (by rw [pending]; simp) turned hstage? cache events

/-- A call that an action does not concern keeps its place, and is not answered. -/
theorem Numbered.stay (h : m.Numbered) (source : Source ρ α) {action : Action ρ α} {call : Call}
    (hcall : call ∈ m.calls) (hother : action.call? ≠ some call.id) :
    call ∈ (m.step source action).machine.calls ∧
      ∀ result, (call.id, result) ∉ (m.step source action).finished := by
  cases h.stepped source action with
  | idle _ calls _ _ finished => exact ⟨calls ▸ hcall, by simp [finished]⟩
  | edit _ _ _ calls _ _ finished => exact ⟨calls ▸ hcall, by simp [finished]⟩
  | start _ _ _ calls _ _ finished =>
    exact ⟨calls ▸ List.mem_append_left _ hcall, by simp [finished]⟩
  | @turn mover turn before behind concerns _ pending _ calls _ _ finished =>
    have hne : call.id ≠ mover.id := fun heq => hother (heq ▸ concerns)
    constructor
    · rw [calls, Call.mem_moved_iff]
      rw [pending, List.mem_append, List.mem_cons] at hcall
      rcases hcall with hcall | rfl | hcall
      · exact .inl (.inl hcall)
      · exact absurd rfl hne
      · exact .inl (.inr hcall)
    · intro result hmem
      obtain ⟨_, -, hentry⟩ := finished _ hmem
      exact hne (congrArg Prod.fst hentry)

/-- A call that goes away had a turn. -/
theorem Numbered.turned_of_left (h : m.Numbered) {action : Action ρ α} {call : Call}
    (hcall : call ∈ m.calls) (hleft : call ∉ (m.step source action).machine.calls) :
    ∃ turn, Turned source m.cache call action turn ∧
      (m.step source action).machine.cache = turn.cache ∧ turn.progress ≠ .waiting call.stage ∧
      ∀ entry ∈ (m.step source action).finished, ∃ result,
        turn.progress = .finished result ∧ entry = (call.id, result) := by
  cases h.stepped source action with
  | idle _ calls => exact absurd (calls ▸ hcall) hleft
  | edit _ _ _ calls => exact absurd (calls ▸ hcall) hleft
  | start _ _ _ calls => exact absurd (calls ▸ List.mem_append_left _ hcall) hleft
  | @turn mover turn before behind _ turned pending cache calls _ _ finished =>
    rw [calls, Call.mem_moved_iff, not_or] at hleft
    obtain ⟨hothers, hmoved⟩ := hleft
    have hmover : call = mover := by
      rw [pending, List.mem_append, List.mem_cons] at hcall
      rcases hcall with hcall | hcall | hcall
      · exact absurd (.inl hcall) hothers
      · exact hcall
      · exact absurd (.inr hcall) hothers
    subst hmover
    refine ⟨turn, turned, cache, fun hwaits => hmoved ⟨call.stage, ?_, rfl⟩, finished⟩
    rw [hwaits, Progress.stage?]

theorem Numbered.step (h : m.Numbered) (source : Source ρ α) (action : Action ρ α) :
    (m.step source action).machine.Numbered := by
  cases h.stepped source action with
  | idle _ calls started => exact ⟨calls ▸ h.nodup, by rw [calls, started]; exact h.lt_started⟩
  | edit _ _ _ calls started =>
    exact ⟨calls ▸ h.nodup, by rw [calls, started]; exact h.lt_started⟩
  | start request monitor _ calls started =>
    -- the new call has the first number that was not given out
    constructor
    · rw [calls, List.map_append, List.nodup_append]
      refine ⟨h.nodup, by simp, ?_⟩
      intro a ha b hb
      obtain ⟨call, hcall, rfl⟩ := List.mem_map.1 ha
      have hlt := h.lt_started call hcall
      have hb : b = m.started := by simpa using hb
      omega
    · rw [calls, started]
      intro call hcall
      rcases List.mem_append.1 hcall with hcall | hcall
      · have := h.lt_started call hcall
        omega
      · rw [List.mem_singleton.1 hcall]
        exact Nat.lt_succ_self _
  | @turn call turn before behind _ _ pending _ calls started =>
    -- the call keeps its number, or leaves
    have hsub : ((m.step source action).machine.calls.map (·.id)).Sublist (m.calls.map (·.id)) := by
      rw [calls, pending]
      cases turn.progress.stage? with
      | none => simp
      | some stage => simp
    constructor
    · exact h.nodup.sublist hsub
    · intro other hother
      obtain ⟨old, hold, hid⟩ := List.mem_map.1 (hsub.subset (List.mem_map_of_mem hother))
      rw [started, ← hid]
      exact h.lt_started old hold

theorem numbered_run (source : Source ρ α) (h : m.Numbered) (actions : List (Action ρ α)) :
    (m.run source actions).machine.Numbered :=
  run_preserves (fun _ action hm => hm.step source action) h actions

/-- Who is answered was pending, and had a turn. -/
theorem Numbered.pending_of_finished (h : m.Numbered) {action : Action ρ α} {id : Nat}
    {result : Result} (hfinished : (id, result) ∈ (m.step source action).finished) :
    action.call? = some id ∧ ∃ call ∈ m.calls, call.id = id := by
  cases h.stepped source action with
  | idle _ _ _ _ finished => rw [finished] at hfinished; cases hfinished
  | start _ _ _ _ _ _ finished => rw [finished] at hfinished; cases hfinished
  | edit _ _ _ _ _ _ finished => rw [finished] at hfinished; cases hfinished
  | @turn call turn before behind concerns _ pending _ _ _ _ finished =>
    obtain ⟨_, -, hentry⟩ := finished _ hfinished
    obtain rfl : id = call.id := congrArg Prod.fst hentry
    exact ⟨concerns, call, by rw [pending]; simp, rfl⟩

/-- What finishes in a run that continues another one. -/
theorem run_append_finished (source : Source ρ α) (m : Machine α) (xs ys : List (Action ρ α)) :
    (m.run source (xs ++ ys)).finished =
      (m.run source xs).finished ++ ((m.run source xs).machine.run source ys).finished := by
  induction xs generalizing m with
  | nil => rfl
  | cons action rest ih => simp only [List.cons_append, run, ih, List.append_assoc]

theorem Numbered.started_le_run (h : m.Numbered) (source : Source ρ α)
    (actions : List (Action ρ α)) : m.started ≤ (m.run source actions).machine.started := by
  induction actions generalizing m with
  | nil => exact Nat.le_refl _
  | cons action rest ih =>
    refine Nat.le_trans ?_ (ih (h.step source action))
    cases h.stepped source action with
    | idle _ _ started => exact Nat.le_of_eq started.symm
    | start _ _ _ _ started => exact Nat.le_trans (Nat.le_succ _) (Nat.le_of_eq started.symm)
    | turn _ _ _ _ _ started => exact Nat.le_of_eq started.symm
    | edit _ _ _ _ started => exact Nat.le_of_eq started.symm

/-- Only calls that were started are answered. -/
theorem Numbered.lt_started_of_finished (h : m.Numbered) {actions : List (Action ρ α)}
    {entry : Nat × Result} (hfinished : entry ∈ (m.run source actions).finished) :
    entry.1 < (m.run source actions).machine.started := by
  obtain ⟨xs, action, ys, rfl, hthere⟩ := exists_step_of_finished hfinished
  have hnumbered := numbered_run source h xs
  obtain ⟨-, call, hcall, hid⟩ := hnumbered.pending_of_finished hthere
  have hlt := hnumbered.lt_started call hcall
  have hle := hnumbered.started_le_run source (action :: ys)
  rw [run_append_machine, ← hid]
  omega

/-- A call keeps its request and its monitor. -/
theorem Numbered.same_run (h : m.Numbered) (first : Call) (hid : first.id < m.started)
    (hfirst : ∀ call ∈ m.calls, call.id = first.id →
      call.request = first.request ∧ call.monitor = first.monitor)
    (source : Source ρ α) (actions : List (Action ρ α)) {call : Call}
    (hcall : call ∈ (m.run source actions).machine.calls) (hsame : call.id = first.id) :
    call.request = first.request ∧ call.monitor = first.monitor := by
  refine (run_preserves (P := fun m => m.Numbered ∧ first.id < m.started ∧
    ∀ call ∈ m.calls, call.id = first.id →
      call.request = first.request ∧ call.monitor = first.monitor) ?_ ⟨h, hid, hfirst⟩ actions).2.2
    call hcall hsame
  rintro m action ⟨h, hid, hfirst⟩
  refine ⟨h.step source action, ?_, fun call hcall hsame => ?_⟩
  · cases h.stepped source action with
    | idle _ _ started => exact started ▸ hid
    | start _ _ _ _ started => exact started ▸ Nat.lt_succ_of_lt hid
    | turn _ _ _ _ _ started => exact started ▸ hid
    | edit _ _ _ _ started => exact started ▸ hid
  · cases h.pends source action hcall with
    | stay pending => exact hfirst call pending hsame
    | start => exact absurd hsame (Nat.ne_of_gt hid)
    | @turn mover _ _ pending => exact hfirst mover pending hsame

/-- A number that was given out, and that no pending call has. -/
structure Gone (m : Machine α) (id : Nat) : Prop where
  lt_started : id < m.started
  not_pending : ∀ call ∈ m.calls, call.id ≠ id

theorem Numbered.gone_step (h : m.Numbered) (source : Source ρ α) (action : Action ρ α) {id : Nat}
    (hgone : m.Gone id) : (m.step source action).machine.Gone id where
  lt_started := by
    cases h.stepped source action with
    | idle _ _ started => exact started ▸ hgone.lt_started
    | start _ _ _ _ started => exact started ▸ Nat.lt_succ_of_lt hgone.lt_started
    | turn _ _ _ _ _ started => exact started ▸ hgone.lt_started
    | edit _ _ _ _ started => exact started ▸ hgone.lt_started
  not_pending call hcall := by
    cases h.pends source action hcall with
    | stay pending => exact hgone.not_pending call pending
    | start => exact Nat.ne_of_gt hgone.lt_started
    | @turn mover _ _ pending => exact hgone.not_pending mover pending

/-- A call that is gone stays gone. -/
theorem Numbered.gone_run (h : m.Numbered) {id : Nat} (hgone : m.Gone id) (source : Source ρ α)
    (actions : List (Action ρ α)) : (m.run source actions).machine.Gone id :=
  (run_preserves (P := fun m => m.Numbered ∧ m.Gone id)
    (fun _ action h => ⟨h.1.step source action, h.1.gone_step source action h.2⟩) ⟨h, hgone⟩
    actions).2

theorem Numbered.grown_step (h : m.Numbered) (source : Source ρ α) (action : Action ρ α) :
    Grown m.cache (m.step source action).machine.cache := by
  cases h.stepped source action with
  | idle cache => exact cache ▸ .refl _
  | start _ _ cache => exact cache ▸ .refl _
  | turn _ turned _ cache => exact cache ▸ turned.grown
  | edit edit _ cache => exact cache ▸ grown_edit source m.cache edit

/-- A run only adds to the cache. -/
theorem Numbered.grown_run (h : m.Numbered) (source : Source ρ α) (actions : List (Action ρ α)) :
    Grown m.cache (m.run source actions).machine.cache := by
  induction actions generalizing m with
  | nil => exact .refl _
  | cons action rest ih => exact (h.grown_step source action).trans (ih (h.step source action))

end Machine

end CatalogBrowser.Cache
