import CatalogBrowser.Proofs.Cache.Promise

/-!
# Nobody waits in vain

A call that runs stops only where it has to wait: for the remote side, or for a channel without a
result. Since the slots hold no other channels, a call that starts over never finds a result that
makes it start over again, and where no call can proceed, each of them waits for the remote side or
for another call that does.

Hence the pending calls come to an end if the remote side answers. Each answer finishes a call, and
between two answers a call runs at most twice for each call that is pending.

## Main definitions

* `waits` - whether a call at a stage has to wait.
* `Turn.Halts` - a turn stops only where a call has to wait.
* `Machine.Settled` - no call can proceed.
* `Machine.answers`, `Machine.answered` - the answers of the remote side that are taken.
* `Machine.unrest` - how far the pending calls are from their end.

## Main statements

* `halts_poll` - running a call stops only where it has to wait.
* `Machine.Accountable.settled_iff` - where no call can proceed, all of them have to wait.
* `Machine.Accountable.unrest_lt` - whatever makes a call proceed brings the end nearer.
* `Machine.run_live` - nobody waits in vain.
-/

namespace CatalogBrowser.Cache

variable {ρ α : Type}

/-- Whether a call at this stage has to wait, unless it is cancelled: for the remote side, or for a
channel without a result. -/
def waits (c : Cache α) (stage : Stage) : Bool :=
  stage.isRemote || stage.awaits?.any fun channel => (c.outcome? channel).isNone

theorem waits_iff {c : Cache α} {stage : Stage} : c.waits stage = true ↔ stage.isRemote = true ∨
    ∃ channel, stage.awaits? = some channel ∧ c.outcome? channel = none := by
  unfold waits
  cases stage.awaits? <;> simp

/-- The turn stops only where a call has to wait, and only if the call is not cancelled. -/
def Turn.Halts (cancelled : Bool) (turn : Turn α) : Prop :=
  ∀ stage, turn.progress.stage? = some stage →
    cancelled = false ∧ turn.cache.waits stage = true

section Poll

variable {c : Cache α} {cancelled : Bool} {turn : Turn α}

theorem halts_finished {result : Result} (h : turn.progress = .finished result) :
    turn.Halts cancelled := by
  intro stage hstage
  rw [h] at hstage
  cases hstage

theorem Turn.Halts.after (h : turn.Halts cancelled) (events : List (Event α)) :
    (turn.after events).Halts cancelled := h

theorem halts_waitAt {stage : Stage} (h : c.waits stage = true) (events : List (Event α)) :
    (c.waitAt stage cancelled events).Halts cancelled := by
  cases cancelled with
  | true => exact halts_finished rfl
  | false =>
    intro next hnext
    obtain rfl := Option.some.inj hnext
    exact ⟨rfl, h⟩

theorem halts_remote {stage : Stage} (hprogress : turn.progress = .waiting stage)
    (hremote : stage.isRemote = true) : turn.Halts false := by
  intro next hnext
  rw [hprogress] at hnext
  obtain rfl := Option.some.inj hnext
  exact ⟨rfl, waits_iff.2 (.inl hremote)⟩

theorem halts_joinFetch {flight : InFlight} (hopen : c.outcome? (.fetch flight.promise) = none)
    (request : Request) : (c.joinFetch request flight cancelled).Halts cancelled := by
  have hwaits : ∀ current, c.waits (.awaitingFetch flight.promise current) = true := fun current =>
    waits_iff.2 (.inr ⟨_, rfl, hopen⟩)
  unfold joinFetch
  split
  · exact halts_waitAt (hwaits true) _
  · exact halts_waitAt (hwaits false) _

theorem halts_leadFetch (request : Request) : (c.leadFetch request cancelled).Halts cancelled := by
  cases cancelled with
  | true => exact halts_finished rfl
  | false => exact halts_remote rfl rfl

theorem halts_leadLookup (identity : Identity) :
    (c.leadLookup identity cancelled).Halts cancelled := by
  cases cancelled with
  | true => exact halts_finished rfl
  | false => exact halts_remote rfl rfl

variable (hfetch : ∀ flight, c.fetch = some flight → c.outcome? (.fetch flight.promise) = none)
  (hlookups : ∀ key flight, c.lookups.lookup key = some flight →
    c.outcome? (.lookup flight.promise) = none)

include hfetch

theorem halts_fetchOrJoin (request : Request) :
    (c.fetchOrJoin request cancelled).Halts cancelled := by
  unfold fetchOrJoin
  split
  next flight hflight => exact halts_joinFetch (hfetch flight hflight) request
  next => exact halts_leadFetch request

include hlookups

/-- A call that starts over is answered, or has to wait. -/
theorem halts_enter (request : Request) (first : Bool) :
    (c.enter request cancelled first).Halts cancelled := by
  unfold enter
  cases request with
  | all =>
    dsimp only
    split
    · exact halts_finished rfl
    · exact (halts_fetchOrJoin hfetch .all).after _
  | refresh => exact halts_fetchOrJoin hfetch .refresh
  | one identity =>
    dsimp only
    split
    · exact halts_finished rfl
    split
    · exact halts_finished rfl
    split
    next flight hflight => exact halts_joinFetch (hfetch flight hflight) _
    next flight _ hflight =>
      exact halts_waitAt (waits_iff.2 (.inr ⟨_, rfl, hlookups _ flight hflight⟩)) _
    next => exact halts_leadLookup identity

/-- Running a call stops only where it has to wait. -/
theorem halts_poll (request : Request) (stage : Stage) :
    (c.poll request stage cancelled).Halts cancelled := by
  -- a call that is left where it waits has nothing to learn there
  have hrest : ∀ {channel : Channel}, stage.awaits? = some channel → cancelled = false →
      c.outcome? channel = none → Turn.Halts cancelled { cache := c, progress := .waiting stage } :=
    fun hawaits hcancelled hnone next hnext => by
      obtain rfl := Option.some.inj hnext
      exact ⟨hcancelled, waits_iff.2 (.inr ⟨_, hawaits, hnone⟩)⟩
  unfold poll
  cases stage with
  | start => exact halts_enter hfetch hlookups request true
  | awaitingFetch promise current =>
    dsimp only
    split
    · exact halts_finished rfl
    next hcancelled =>
    split
    next hnone =>
      refine hrest rfl (Bool.eq_false_iff.2 hcancelled) ?_
      rw [outcome?, hnone]
      rfl
    next =>
      split
      · split
        · exact halts_finished rfl
        · exact halts_enter hfetch hlookups _ false
        · exact halts_finished rfl
      · exact halts_enter hfetch hlookups request false
  | awaitingLookup promise current =>
    dsimp only
    split
    · exact halts_finished rfl
    next hcancelled =>
    split
    next hnone =>
      refine hrest rfl (Bool.eq_false_iff.2 hcancelled) ?_
      rw [outcome?, hnone]
      rfl
    next =>
      split
      · exact halts_finished rfl
      · exact halts_enter hfetch hlookups request false
  | listing lead | lookingUp lead =>
    cases cancelled with
    | true => exact halts_finished rfl
    | false => exact halts_remote rfl rfl

end Poll

/-- A call that has to wait stays where it is. -/
theorem poll_of_waits {c : Cache α} {stage : Stage} (h : c.waits stage = true)
    (request : Request) :
    c.poll request stage false = { cache := c, progress := .waiting stage } := by
  rcases waits_iff.1 h with hremote | ⟨channel, hawaits, hnone⟩
  · cases stage with
    | listing | lookingUp => rfl
    | start | awaitingFetch | awaitingLookup => cases hremote
  · cases stage with
    | awaitingFetch promise current =>
      obtain rfl := Option.some.inj hawaits
      have hresult : c.fetchResults.result? promise = none := Option.map_eq_none_iff.1 hnone
      simp [poll, hresult]
    | awaitingLookup promise current =>
      obtain rfl := Option.some.inj hawaits
      have hresult : c.lookupResults.result? promise = none := Option.map_eq_none_iff.1 hnone
      simp [poll, hresult]
    | start | listing | lookingUp => cases hawaits

/-- The remote side's answer is the end of a listing. -/
theorem acceptListing_stage? (source : Source ρ α) (c : Cache α) (request : Request)
    (lead : FetchLead) (answer : Except ConnectionError (List ρ)) :
    (c.acceptListing source request lead answer).progress.stage? = none := by
  cases answer with
  | error error => rfl
  | ok records => exact commitFetch_stage? source c request lead _

theorem acceptLookup_stage? (source : Source ρ α) (c : Cache α) (lead : LookupLead)
    (answer : Except ConnectionError (Option ρ)) :
    (c.acceptLookup source lead answer).progress.stage? = none := by
  cases answer with
  | error error => rfl
  | ok record =>
    unfold acceptLookup
    split <;> rfl

/-- What a call waits for was made. -/
theorem Call.Sound.made {c : Cache α} {call : Call} {channel : Channel} (h : call.Sound c)
    (hawaits : call.stage.awaits? = some channel) : c.Made channel := by
  unfold Call.Sound at h
  cases hstage : call.stage with
  | awaitingFetch promise current =>
    rw [hstage] at h hawaits
    obtain rfl := Option.some.inj hawaits
    exact h
  | awaitingLookup promise current =>
    rw [hstage] at h hawaits
    obtain rfl := Option.some.inj hawaits
    exact h.1
  | start | listing | lookingUp => rw [hstage] at hawaits; cases hawaits

def Action.isStart : Action ρ α → Bool
  | .start .. => true
  | _ => false

namespace Machine

variable {source : Source ρ α} {m : Machine α} {action : Action ρ α} {call : Call}

/-- Whether a call has to wait, and is not cancelled. -/
def rests (m : Machine α) (call : Call) : Bool :=
  m.cache.waits call.stage && !m.isCancelled call

theorem rests_iff :
    m.rests call = true ↔ m.cache.waits call.stage = true ∧ m.isCancelled call = false := by
  simp [rests]

/-- No call can proceed: running one changes nothing. -/
def Settled (source : Source ρ α) (m : Machine α) : Prop :=
  ∀ id, m.step source (.poll id) = { machine := m }

/-- A turn in which nothing happens. -/
theorem Numbered.take_rest (h : m.Numbered) (hcall : call ∈ m.calls) :
    m.take call { cache := m.cache, progress := .waiting call.stage } = { machine := m } := by
  obtain ⟨before, behind, hpending, hplace, -⟩ := h.split hcall
  have hcalls : (m.place call call.stage).calls = m.calls := (hplace _).trans hpending.symm
  have hmonitors : m.monitors.worked call.monitor (workUnits ([] : List (Event α))) = m.monitors :=
    Monitors.worked_zero _ _
  unfold take
  dsimp only
  rw [hmonitors]
  exact congrArg (fun calls => ({ machine := { m with calls } } : Moved α)) hcalls

theorem Numbered.step_poll_of_rests (h : m.Numbered) (hcall : call ∈ m.calls)
    (hrests : m.rests call = true) : m.step source (.poll call.id) = { machine := m } := by
  obtain ⟨hwaits, hcancelled⟩ := rests_iff.1 hrests
  rw [h.step_poll source hcall, hcancelled, poll_of_waits hwaits, h.take_rest hcall]

theorem Accountable.halts_poll (h : m.Accountable) (call : Call) :
    (m.cache.poll call.request call.stage (m.isCancelled call)).Halts (m.isCancelled call) :=
  Cache.halts_poll (fun _ hflight => (open_iff.1 (h.open_of_fetch hflight)).2)
    (fun _ _ hflight => (open_iff.1 (h.open_of_lookup hflight)).2) call.request call.stage

/-- A call that is still pending after it ran has to wait. -/
theorem Accountable.rests_of_poll (h : m.Accountable) (source : Source ρ α) {id : Nat}
    (hcall : call ∈ (m.step source (.poll id)).machine.calls) (hid : call.id = id) :
    (m.step source (.poll id)).machine.rests call = true := by
  have hnumbered := h.led.numbered
  cases hold : m.call? id with
  | none =>
    rw [step_poll_of_call?_eq_none source hold] at hcall
    have hfound := hnumbered.call?_eq hcall
    rw [hid, hold] at hfound
    cases hfound
  | some mover =>
    obtain ⟨hmover, rfl⟩ := mem_of_call? hold
    have hhalts := h.halts_poll mover
    rw [hnumbered.step_poll source hmover] at hcall ⊢
    generalize m.cache.poll mover.request mover.stage (m.isCancelled mover) = turn at hcall hhalts ⊢
    obtain ⟨before, behind, hpending, hcalls⟩ := hnumbered.take_calls hmover turn
    obtain ⟨hbefore, hbehind⟩ := hnumbered.id_ne hpending
    rw [hcalls, Call.mem_moved_iff] at hcall
    rcases hcall with (hcall | hcall) | ⟨stage, hstage, rfl⟩
    · exact absurd hid (hbefore call hcall)
    · exact absurd hid (hbehind call hcall)
    · obtain ⟨hcancelled, hwaits⟩ := hhalts stage hstage
      rw [rests_iff, take_cache, isCancelled_take]
      exact ⟨hwaits, hcancelled⟩

/-- A call that just ran does not run again before something else has happened. -/
theorem Accountable.step_poll_again (h : m.Accountable) (source : Source ρ α) (id : Nat) :
    (m.step source (.poll id)).machine.step source (.poll id) =
      { machine := (m.step source (.poll id)).machine } := by
  have hnumbered := h.led.numbered.step source (.poll id)
  cases hfound : (m.step source (.poll id)).machine.call? id with
  | none => exact step_poll_of_call?_eq_none source hfound
  | some call =>
    obtain ⟨hcall, rfl⟩ := mem_of_call? hfound
    exact hnumbered.step_poll_of_rests hcall (h.rests_of_poll source hcall rfl)

theorem Accountable.step_poll_eq_iff (h : m.Accountable) (hcall : call ∈ m.calls) :
    m.step source (.poll call.id) = { machine := m } ↔ m.rests call = true := by
  constructor
  · intro hsame
    have hstays : call ∈ (m.step source (.poll call.id)).machine.calls := by
      rw [hsame]
      exact hcall
    have hrests := h.rests_of_poll source hstays rfl
    rw [hsame] at hrests
    exact hrests
  · exact h.led.numbered.step_poll_of_rests hcall

/-- Where no call can proceed, all of them have to wait. -/
theorem Accountable.settled_iff (h : m.Accountable) :
    m.Settled source ↔ ∀ call ∈ m.calls, m.rests call = true := by
  constructor
  · intro hsettled call hcall
    exact (h.step_poll_eq_iff hcall).1 (hsettled call.id)
  · intro hrests id
    cases hfound : m.call? id with
    | none => exact step_poll_of_call?_eq_none source hfound
    | some call =>
      obtain ⟨hcall, rfl⟩ := mem_of_call? hfound
      exact (h.step_poll_eq_iff hcall).2 (hrests call hcall)

/-- A pending call is inside a call of the remote side that is not answered yet. -/
structure Asks (m : Machine α) (call : Call) : Prop where
  pending : call ∈ m.calls
  remote : call.stage.isRemote = true
  active : m.isCancelled call = false

/-- A call that has to wait asks the remote side, or waits for another call that owes a result. -/
theorem Accountable.leader_of_waits (h : m.Accountable) (hcall : call ∈ m.calls)
    (hwaits : m.cache.waits call.stage = true) :
    call.stage.isRemote = true ∨ ∃ channel, call.stage.awaits? = some channel ∧
      m.cache.Open channel ∧ ∃ leader ∈ m.calls, leader ≠ call ∧
        leader.stage.owes? = some channel := by
  rcases waits_iff.1 hwaits with hremote | ⟨channel, hawaits, hnone⟩
  · exact .inl hremote
  · have hopen := open_iff.2 ⟨(h.led.sound call hcall).made hawaits, hnone⟩
    obtain ⟨leader, hleader, howes⟩ := h.exists_owing hopen
    refine .inr ⟨channel, hawaits, hopen, leader, hleader, ?_, howes⟩
    rintro rfl
    cases hstage : leader.stage <;> simp_all [Stage.owes?, Stage.awaits?]

theorem Accountable.asks_of_owes (h : m.Accountable) (hsettled : m.Settled source)
    {channel : Channel} (hcall : call ∈ m.calls) (howes : call.stage.owes? = some channel) :
    m.Asks call :=
  ⟨hcall, Stage.isRemote_of_owes? howes, (rests_iff.1 (h.settled_iff.1 hsettled call hcall)).2⟩

/-- Where no call can proceed, each of them asks the remote side, or waits for another that does. -/
theorem Accountable.asks_of_settled (h : m.Accountable) (hsettled : m.Settled source)
    (hcall : call ∈ m.calls) : m.Asks call ∨ ∃ channel, call.stage.awaits? = some channel ∧
      m.cache.Open channel ∧ ∃ leader, leader ≠ call ∧ leader.stage.owes? = some channel ∧
        m.Asks leader := by
  obtain ⟨hwaits, hactive⟩ := rests_iff.1 (h.settled_iff.1 hsettled call hcall)
  rcases h.leader_of_waits hcall hwaits with
    hremote | ⟨channel, hawaits, hopen, leader, hleader, hne, howes⟩
  · exact .inl ⟨hcall, hremote, hactive⟩
  · exact .inr ⟨channel, hawaits, hopen, leader, hne, howes, h.asks_of_owes hsettled hleader howes⟩

section Answers

/-- Whether an action is an answer of the remote side that a pending call takes. -/
def answers (m : Machine α) : Action ρ α → Bool
  | .listed id _ => (m.call? id).any fun call =>
    call.stage.fetchLead?.isSome && !m.isCancelled call
  | .found id _ => (m.call? id).any fun call =>
    call.stage.lookupLead?.isSome && !m.isCancelled call
  | _ => false

/-- How many answers of the remote side are taken in a run. -/
def answered (source : Source ρ α) (m : Machine α) : List (Action ρ α) → Nat
  | [] => 0
  | action :: rest =>
    (m.answers action).toNat + (m.step source action).machine.answered source rest

/-- Whoever asks the remote side takes its answer, whatever that is. -/
theorem Asks.answers (hasks : m.Asks call) (h : m.Numbered) :
    (∀ answer, m.answers (.listed call.id answer : Action ρ α) = true) ∨
      ∀ answer, m.answers (.found call.id answer : Action ρ α) = true := by
  obtain ⟨hcall, hremote, hactive⟩ := hasks
  have hfound := h.call?_eq hcall
  cases hstage : call.stage with
  | listing lead =>
    exact .inl fun answer => by simp [Machine.answers, hfound, hstage, hactive, Stage.fetchLead?]
  | lookingUp lead =>
    exact .inr fun answer => by simp [Machine.answers, hfound, hstage, hactive, Stage.lookupLead?]
  | start | awaitingFetch | awaitingLookup => rw [hstage] at hremote; cases hremote

theorem Numbered.length_take (h : m.Numbered) (hcall : call ∈ m.calls) {turn : Turn α}
    (hgone : turn.progress.stage? = none) :
    (m.take call turn).machine.calls.length + 1 = m.calls.length := by
  obtain ⟨before, behind, hpending, hcalls⟩ := h.take_calls hcall turn
  rw [hcalls, hpending, hgone]
  simp
  omega

/-- An answer finishes a call. -/
theorem Numbered.length_of_answers (h : m.Numbered) (source : Source ρ α)
    (hanswers : m.answers action = true) :
    (m.step source action).machine.calls.length + 1 = m.calls.length := by
  cases action with
  | listed id answer =>
    obtain ⟨call, hfound, hleads⟩ := (Option.any_eq_true _ _).1 hanswers
    obtain ⟨hcall, rfl⟩ := mem_of_call? hfound
    rw [Bool.and_eq_true, Bool.not_eq_true', Option.isSome_iff_exists] at hleads
    obtain ⟨⟨lead, hlead⟩, hactive⟩ := hleads
    rw [h.step_listed source hcall (Stage.fetchLead?_eq_some_iff.1 hlead) hactive]
    exact h.length_take hcall (acceptListing_stage? source _ _ _ _)
  | found id answer =>
    obtain ⟨call, hfound, hleads⟩ := (Option.any_eq_true _ _).1 hanswers
    obtain ⟨hcall, rfl⟩ := mem_of_call? hfound
    rw [Bool.and_eq_true, Bool.not_eq_true', Option.isSome_iff_exists] at hleads
    obtain ⟨⟨lead, hlead⟩, hactive⟩ := hleads
    rw [h.step_found source hcall (Stage.lookupLead?_eq_some_iff.1 hlead) hactive]
    exact h.length_take hcall (acceptLookup_stage? source _ _ _)
  | start | poll | abort | cancel | edit => cases hanswers

theorem Numbered.length_step (h : m.Numbered) (source : Source ρ α) (action : Action ρ α) :
    (m.answers action).toNat + (m.step source action).machine.calls.length ≤
      m.calls.length + action.isStart.toNat := by
  cases hanswers : m.answers action with
  | true =>
    have hlength := h.length_of_answers source hanswers
    rw [Bool.toNat_true]
    omega
  | false =>
    rw [Bool.toNat_false, Nat.zero_add]
    cases h.stepped source action with
    | idle _ calls => exact calls ▸ Nat.le_add_right _ _
    | edit _ _ _ calls => exact calls ▸ Nat.le_add_right _ _
    | start request monitor _ calls _ _ _ same =>
      rw [calls, same, List.length_append]
      exact Nat.le_refl _
    | @turn call turn before behind _ _ pending _ calls =>
      refine Nat.le_trans ?_ (Nat.le_add_right _ _)
      rw [calls, pending]
      cases turn.progress.stage? <;> simp

/-- Every answer that is taken finishes a call, whatever else happens. -/
theorem Numbered.answered_le (h : m.Numbered) (source : Source ρ α) (actions : List (Action ρ α)) :
    m.answered source actions + (m.run source actions).machine.calls.length ≤
      m.calls.length + actions.countP Action.isStart := by
  induction actions generalizing m with
  | nil => exact Nat.le_of_eq (Nat.zero_add _)
  | cons action rest ih =>
    have hfirst := h.length_step source action
    have hrest := ih (h.step source action)
    rw [answered, run_cons_machine, List.countP_cons]
    have hstart : (if action.isStart = true then 1 else 0) = action.isStart.toNat := by
      cases action.isStart <;> rfl
    omega

end Answers

section Unrest

/-- How far the pending calls are from their end: a call that finishes may let all others proceed,
and a call that proceeds without finishing has to wait then. -/
def unrest (m : Machine α) : Nat :=
  m.calls.length * m.calls.length + m.calls.countP fun call => !m.rests call

/-- An action that makes a pending call proceed: the call runs, and not in vain, or it takes an
answer of the remote side. -/
def Proceeds (source : Source ρ α) (m : Machine α) (action : Action ρ α) : Prop :=
  m.answers action = true ∨ ∃ id, action = .poll id ∧ m.step source action ≠ { machine := m }

theorem unrest_le (m : Machine α) : m.unrest ≤ m.calls.length * (m.calls.length + 1) := by
  have hcount := List.countP_le_length (p := fun call => !m.rests call) (l := m.calls)
  rw [unrest, Nat.mul_succ]
  exact Nat.add_le_add_left hcount _

theorem unrest_lt_of_length {m' : Machine α} (h : m'.calls.length < m.calls.length) :
    m'.unrest < m.unrest := by
  calc m'.unrest ≤ m'.calls.length * (m'.calls.length + 1) := unrest_le m'
    _ ≤ m'.calls.length * m.calls.length := Nat.mul_le_mul_left _ h
    _ < m.calls.length * m.calls.length := Nat.mul_lt_mul_of_pos_right h (Nat.zero_lt_of_lt h)
    _ ≤ m.unrest := Nat.le_add_right _ _

/-- A call that moves to where it has to wait brings the end nearer, if all others that had to wait
still have to. -/
theorem unrest_lt_of_moved {m' : Machine α} {before behind : List Call} {stage : Stage}
    (hpending : m.calls = before ++ call :: behind)
    (hcalls : m'.calls = before ++ call.moved (some stage) ++ behind)
    (hrests : m.rests call = false) (hmoved : m'.rests { call with stage } = true)
    (hothers : ∀ other ∈ m.calls, m.rests other = true → m'.rests other = true) :
    m'.unrest < m.unrest := by
  have hcount : ∀ calls ⊆ m.calls,
      calls.countP (fun other => !m'.rests other) ≤ calls.countP fun other => !m.rests other := by
    intro calls hsub
    refine List.countP_mono_left fun other hother hproceeds => ?_
    rw [Bool.not_eq_true'] at hproceeds ⊢
    by_contra hrested
    rw [hothers other (hsub hother) (Bool.not_eq_false _ ▸ hrested)] at hproceeds
    cases hproceeds
  have hbefore := hcount before (by rw [hpending]; simp)
  have hbehind := hcount behind (by rw [hpending]; simp)
  have hlength : m'.calls.length = m.calls.length := by
    rw [hcalls, hpending]
    simp
  have hsum : m'.calls.countP (fun other => !m'.rests other) <
      m.calls.countP fun other => !m.rests other := by
    rw [hcalls, hpending, Call.moved_some, List.countP_append, List.countP_append,
      List.countP_append, List.countP_singleton, List.countP_cons, hmoved, hrests]
    simp only [Bool.not_true, Bool.not_false, if_true, Bool.false_eq_true, if_false]
    omega
  rw [unrest, unrest, hlength]
  exact Nat.add_lt_add_left hsum _

/-- Who had to wait still has to after a turn of a call that owes nothing. -/
theorem Accountable.rests_take (h : m.Accountable) {other : Call} {turn : Turn α}
    (hother : other ∈ m.calls) (hlocal : call.stage.isRemote = false)
    (hturned : Turned source m.cache call action turn) (hrests : m.rests other = true) :
    (m.take call turn).machine.rests other = true := by
  obtain ⟨hwaits, hactive⟩ := rests_iff.1 hrests
  rw [rests_iff, take_cache, isCancelled_take]
  refine ⟨waits_iff.2 ((waits_iff.1 hwaits).imp_right ?_), hactive⟩
  rintro ⟨channel, hawaits, hnone⟩
  have hmade := (h.led.sound other hother).made hawaits
  refine ⟨channel, hawaits, ?_⟩
  rw [hturned.outcome?_eq hmade, hnone]
  rw [Stage.owes?_of_not_isRemote hlocal]
  exact nofun

/-- A call that runs, and not in vain, finishes or has to wait from then on, and it lets nobody
proceed unless it finishes. -/
theorem Accountable.unrest_poll (h : m.Accountable) (hcall : call ∈ m.calls)
    (hrests : m.rests call = false) :
    (m.step source (.poll call.id)).machine.unrest < m.unrest := by
  have hnumbered := h.led.numbered
  have hhalts := h.halts_poll call
  have hturned := turned_poll source m.cache call (.poll call.id) (m.isCancelled call)
  rw [hnumbered.step_poll source hcall]
  generalize m.cache.poll call.request call.stage (m.isCancelled call) = turn at hhalts hturned ⊢
  cases hstage : turn.progress.stage? with
  | none =>
    have hlength := hnumbered.length_take hcall hstage
    exact unrest_lt_of_length (by omega)
  | some stage =>
    obtain ⟨hactive, hwaits⟩ := hhalts stage hstage
    have hlocal : call.stage.isRemote = false := by
      by_contra hremote
      rw [Bool.not_eq_false] at hremote
      rw [rests_iff.2 ⟨waits_iff.2 (.inl hremote), hactive⟩] at hrests
      cases hrests
    obtain ⟨before, behind, hpending, hcalls⟩ := hnumbered.take_calls hcall turn
    rw [hstage] at hcalls
    refine unrest_lt_of_moved hpending hcalls hrests ?_ fun other hother =>
      h.rests_take hother hlocal hturned
    rw [rests_iff, take_cache, isCancelled_take]
    exact ⟨hwaits, hactive⟩

/-- Whatever makes a call proceed brings the end nearer. -/
theorem Accountable.unrest_lt (h : m.Accountable) (hproceeds : m.Proceeds source action) :
    (m.step source action).machine.unrest < m.unrest := by
  rcases hproceeds with hanswers | ⟨id, rfl, hne⟩
  · have hlength := h.led.numbered.length_of_answers source hanswers
    exact unrest_lt_of_length (by omega)
  · cases hfound : m.call? id with
    | none => exact absurd (step_poll_of_call?_eq_none source hfound) hne
    | some call =>
      obtain ⟨hcall, rfl⟩ := mem_of_call? hfound
      refine h.unrest_poll hcall (Bool.eq_false_iff.2 fun hrests => hne ?_)
      exact (h.step_poll_eq_iff hcall).2 hrests

theorem Accountable.length_le (h : m.Accountable) {actions : List (Action ρ α)}
    (hproceeds : m.Admits source (Proceeds source) actions) :
    actions.length + (m.run source actions).machine.unrest ≤ m.unrest := by
  induction actions generalizing m with
  | nil => exact Nat.le_of_eq (Nat.zero_add _)
  | cons action rest ih =>
    have hfirst := h.unrest_lt hproceeds.1
    have hrest := ih (h.step source action) hproceeds.2
    rw [run_cons_machine, List.length_cons]
    omega

/-- As long as a call is pending, some call can proceed or the remote side can answer. -/
theorem Accountable.exists_proceeds (h : m.Accountable) (source : Source ρ α)
    (hcalls : m.calls ≠ []) : ∃ action, m.Proceeds source action := by
  by_cases hsettled : m.Settled source
  · obtain ⟨call, hcall⟩ := List.exists_mem_of_ne_nil _ hcalls
    have hasks : ∃ leader, m.Asks leader := by
      rcases h.asks_of_settled hsettled hcall with hasks | ⟨_, -, -, leader, -, -, hasks⟩
      · exact ⟨call, hasks⟩
      · exact ⟨leader, hasks⟩
    obtain ⟨leader, hasks⟩ := hasks
    rcases hasks.answers (ρ := ρ) h.led.numbered with hanswers | hanswers
    · exact ⟨_, .inl (hanswers (.ok []))⟩
    · exact ⟨_, .inl (hanswers (.ok none))⟩
  · obtain ⟨id, hne⟩ := not_forall.1 hsettled
    exact ⟨.poll id, .inr ⟨id, rfl, hne⟩⟩

end Unrest

/-- Nobody waits in vain: neither in the machine as it is, nor in whatever comes next. -/
structure Live (m : Machine α) (source : Source ρ α) : Prop where
  /-- Where no call can proceed, each of them asks the remote side, or waits for another that
  does. -/
  settled : m.Settled source → ∀ call ∈ m.calls, m.Asks call ∨ ∃ channel,
    call.stage.awaits? = some channel ∧ m.cache.Open channel ∧ ∃ leader, leader ≠ call ∧
      leader.stage.owes? = some channel ∧ m.Asks leader
  /-- The fetch slot holds a channel without a result, which a pending call owes. -/
  fetch_slot : ∀ flight, m.cache.fetch = some flight → m.cache.Open (.fetch flight.promise) ∧
    ∃ leader ∈ m.calls, leader.stage.owes? = some (.fetch flight.promise) ∧
      (m.Settled source → m.Asks leader)
  /-- And so does the lookup slot of each key. -/
  lookup_slot : ∀ key flight, m.cache.lookups.lookup key = some flight →
    m.cache.Open (.lookup flight.promise) ∧
    ∃ leader ∈ m.calls, leader.stage.owes? = some (.lookup flight.promise) ∧
      (m.Settled source → m.Asks leader)
  /-- A call that just ran does not run again before something else has happened. -/
  runs_once : ∀ id, (m.step source (.poll id)).machine.step source (.poll id) =
    { machine := (m.step source (.poll id)).machine }
  /-- Every answer that is taken finishes a call, whatever else happens. -/
  answered_le : ∀ actions, m.answered source actions +
    (m.run source actions).machine.calls.length ≤
      m.calls.length + actions.countP Action.isStart
  /-- Runs and answers come to an end, and not before all calls have finished. -/
  ends : ∀ actions, m.Admits source (Proceeds source) actions →
    actions.length ≤ m.calls.length * (m.calls.length + 1) ∧
      m.answered source actions ≤ m.calls.length ∧
      ((m.run source actions).machine.calls = [] ∨
        ∃ action, (m.run source actions).machine.Proceeds source action)

theorem Proceeds.not_isStart (h : m.Proceeds source action) : action.isStart = false := by
  rcases h with hanswers | ⟨id, rfl, -⟩
  · cases action with
    | start => cases hanswers
    | poll | listed | found | abort | cancel | edit => rfl
  · rfl

theorem Accountable.ends (h : m.Accountable) {actions : List (Action ρ α)}
    (hproceeds : m.Admits source (Proceeds source) actions) :
    actions.length ≤ m.calls.length * (m.calls.length + 1) ∧
      m.answered source actions ≤ m.calls.length ∧
      ((m.run source actions).machine.calls = [] ∨
        ∃ action, (m.run source actions).machine.Proceeds source action) := by
  have hstarts : ∀ {actions : List (Action ρ α)} {m : Machine α},
      m.Admits source (Proceeds source) actions → actions.countP Action.isStart = 0 := by
    intro actions
    induction actions with
    | nil => exact fun _ => rfl
    | cons action rest ih =>
      intro m hproceeds
      rw [List.countP_cons, ih hproceeds.2, hproceeds.1.not_isStart]
      rfl
  refine ⟨?_, ?_, or_iff_not_imp_left.2 fun hcalls => ?_⟩
  · have hlength := h.length_le hproceeds
    have hunrest := unrest_le m
    omega
  · have hanswered := h.led.numbered.answered_le source actions
    rw [hstarts hproceeds] at hanswered
    omega
  · exact (h.run source actions).exists_proceeds source hcalls

theorem Accountable.live (h : m.Accountable) (source : Source ρ α) : m.Live source where
  settled hsettled _ hcall := h.asks_of_settled hsettled hcall
  fetch_slot flight hflight := by
    have hopen := h.open_of_fetch hflight
    obtain ⟨leader, hleader, howes⟩ := h.exists_owing hopen
    exact ⟨hopen, leader, hleader, howes, fun hsettled => h.asks_of_owes hsettled hleader howes⟩
  lookup_slot key flight hflight := by
    have hopen := h.open_of_lookup hflight
    obtain ⟨leader, hleader, howes⟩ := h.exists_owing hopen
    exact ⟨hopen, leader, hleader, howes, fun hsettled => h.asks_of_owes hsettled hleader howes⟩
  runs_once := h.step_poll_again source
  answered_le := h.led.numbered.answered_le source
  ends _ hproceeds := h.ends hproceeds

/-- In every run, nobody waits in vain. -/
theorem run_live (source : Source ρ α) (config : Config) (monitors : Monitors)
    (actions : List (Action ρ α)) :
    ((new config monitors).run source actions).machine.Live source :=
  (accountable_run source config monitors actions).live source

end Machine

end CatalogBrowser.Cache
