import CatalogBrowser.Cache.Scripted
import CatalogBrowser.Proofs.Cache.Omission
import CatalogBrowser.Proofs.Cache.Refresh

/-!
# Calls that are withdrawn while they wait

A call that waits for another call's fetch or lookup owns nothing: no slot, no promise, no entry.
When it is dropped, or cancelled by a monitor that no other pending call uses, it goes away and
nothing else changes. And since such a call never led anything before either, every run in which it
is withdrawn gives all other calls what they would have got had it never been started.

## Main definitions

* `Machine.Alone` - no other pending call is cancelled together with a call.
* `Machine.Leaving` - a call that can do no more than leave, or has left.
* `Machine.Withdraws` - withdrawing a call removes it, and does nothing else.
* `SameOthers`, `Machine.Unmissed` - the other calls of two runs fare alike, whatever comes.

## Main statements

* `Machine.Numbered.bystands_of_pending` - a call that waits for another one has led nothing so far.
* `Machine.Accountable.withdraws` - withdrawing a waiting call in a settled state.
* `Machine.run_withdrawn` - in every run, nobody misses a waiting call that is withdrawn.
-/

namespace CatalogBrowser.Cache

variable {ρ α : Type} {source : Source ρ α}

section Turn

variable {c : Cache α} {call : Call} {action : Action ρ α} {turn : Turn α}

/-- A call that asked the remote side waits for its answer until it finishes. -/
theorem Turned.remote_stays (hturn : Turned source c call action turn)
    (hremote : call.stage.isRemote = true) :
    turn.progress = .waiting call.stage ∨ turn.progress.stage? = none := by
  have hlocal : ∀ {p : Prop}, call.stage.isRemote = false → p := fun hstage => by
    rw [hstage] at hremote
    cases hremote
  cases hturn with
  | rest => exact .inl rfl
  | joinFetch hstage | joinLookup hstage => exact hlocal hstage
  | leadFetch hstage | leadLookup hstage => exact hlocal hstage
  | listed => exact .inr (commitFetch_stage? source c _ _ _)
  | _ => exact .inr rfl

/-- A turn after which a call waits for another one leaves the cache as it is. -/
theorem Turned.cache_of_local (hturn : Turned source c call action turn) {stage : Stage}
    (hstage? : turn.progress.stage? = some stage) (hlocal : stage.isRemote = false) :
    turn.cache = c := by
  cases hturn with
  | rest | joinFetch | joinLookup => rfl
  | leadFetch | leadLookup =>
    obtain rfl := Option.some.inj hstage?
    cases hlocal
  | listed =>
    rw [Turn.after, commitFetch_stage?] at hstage?
    cases hstage?
  | _ => cases hstage?

theorem Stage.isRemote_of_awaits? {stage : Stage} {channel : Channel}
    (h : stage.awaits? = some channel) : stage.isRemote = false := by
  cases stage <;> first | rfl | cases h

end Turn

namespace Machine

variable {m : Machine α} {action : Action ρ α} {call : Call} {id : Nat}

/-- No other pending call uses the monitor of a call, or a monitor below it. -/
def Alone (m : Machine α) (call : Call) : Prop :=
  ∀ other ∈ m.calls, other.id ≠ call.id → call.monitor.scope ∉ other.monitor.scopes

instance (m : Machine α) (call : Call) : Decidable (m.Alone call) :=
  inferInstanceAs (Decidable (∀ other ∈ m.calls, other.id ≠ call.id →
    call.monitor.scope ∉ other.monitor.scopes))

section Past

/-- A call that asked the remote side leads until it is gone. -/
theorem Numbered.remote_run (h : m.Numbered) (hcall : call ∈ m.calls)
    (hremote : call.stage.isRemote = true) (source : Source ρ α) (actions : List (Action ρ α)) :
    call ∈ (m.run source actions).machine.calls ∨ (m.run source actions).machine.Gone call.id := by
  refine (run_preserves (P := fun m => m.Numbered ∧ (call ∈ m.calls ∨ m.Gone call.id)) ?_
    ⟨h, .inl hcall⟩ actions).2
  rintro m action ⟨h, hcall | hgone⟩
  · refine ⟨h.step source action, ?_⟩
    cases h.moves source action hcall with
    | stays pending => exact .inl pending
    | dropped gone => exact .inr gone
    | @turn turn _ hturn htaken =>
      rw [htaken]
      rcases hturn.remote_stays hremote with hstays | hfinished
      · exact .inl (h.mem_take hcall hstays)
      · exact .inr (h.gone_take hcall hfinished)
  · exact ⟨h.step source action, .inr (h.gone_step source action hgone)⟩

/-- A call that has not asked the remote side by the end of a run has left the cache as it is in
each of its actions. -/
theorem Numbered.bystands_of_pending (h : m.Numbered) {actions : List (Action ρ α)}
    (hcall : call ∈ (m.run source actions).machine.calls) (hlocal : call.stage.isRemote = false) :
    m.Admits source (Bystands source call.id) actions := by
  induction actions generalizing m with
  | nil => trivial
  | cons action rest ih =>
    have hnext := h.step source action
    refine ⟨fun hown => ?_, ih hnext hcall⟩
    -- a call that is gone after this action is not pending in the end
    have hnot : ¬ (m.step source action).machine.Gone call.id := fun hgone =>
      (hnext.gone_run hgone source rest).not_pending call hcall rfl
    rcases step_of_call? source m hown with
      hidle | ⟨mover, hmover, hid, ⟨rfl, -⟩ | ⟨turn, hturn, htaken⟩⟩
    · rw [hidle]
    · exact absurd (hid ▸ h.gone_abort hmover) hnot
    · have hend : call ∈ ((m.step source action).machine.run source rest).machine.calls := hcall
      rw [htaken] at hnext hnot hend ⊢
      rw [take_cache]
      cases hstage? : turn.progress.stage? with
      | none => exact absurd (hid ▸ h.gone_take hmover hstage?) hnot
      | some stage =>
        refine hturn.cache_of_local hstage? (Bool.eq_false_iff.2 fun hremote => ?_)
        -- it would lead until the end
        have hprogress : turn.progress = .waiting stage := by
          cases hturn : turn.progress with
          | waiting other => rw [hturn] at hstage?; exact congrArg _ (Option.some.inj hstage?)
          | finished result => rw [hturn] at hstage?; cases hstage?
        have hleads : ({ mover with stage } : Call) ∈ (m.take mover turn).machine.calls :=
          h.mem_take hmover hprogress
        rcases hnext.remote_run hleads hremote source rest with hleads | hgone
        · obtain rfl := (numbered_run source hnext rest).eq_of_id hleads hend hid
          rw [hlocal] at hremote
          cases hremote
        · exact hgone.not_pending call hend hid.symm

end Past

section Future

/-- A call that can do no more than leave, since it is cancelled, or has left. -/
inductive Leaving (m : Machine α) (id : Nat) : Prop
  | gone (gone : m.Gone id)
  | cancelled {call : Call} {channel : Channel} (pending : call ∈ m.calls) (same : call.id = id)
      (waits : call.stage.awaits? = some channel) (cancelled : m.isCancelled call = true)

/-- A cancellation is never taken back. -/
theorem isCancelled_step (source : Source ρ α) (action : Action ρ α)
    (h : m.isCancelled call = true) :
    (m.step source action).machine.isCancelled call = true := by
  cases hconcerns : action.call? with
  | none =>
    cases action with
    | start | edit => exact h
    | cancel monitor => exact Monitors.isCancelled_cancel.2 (.inr h)
    | poll | listed | found | abort => cases hconcerns
  | some id =>
    rcases step_of_call? source m hconcerns with
      hidle | ⟨mover, -, -, ⟨-, hdropped⟩ | ⟨turn, -, htaken⟩⟩
    · rw [hidle]
      exact h
    · rw [hdropped]
      exact h
    · rw [htaken, isCancelled_take]
      exact h

/-- A call that waits for another one and is cancelled gives up when it runs. -/
theorem Numbered.step_poll_of_cancelled (h : m.Numbered) {channel : Channel}
    (hcall : call ∈ m.calls) (hawaits : call.stage.awaits? = some channel)
    (hcancelled : m.isCancelled call = true) :
    m.step source (.poll call.id) =
      { machine := m.forget call, finished := [(call.id, .error .cancelled)] } := by
  have hmonitors : m.monitors.worked call.monitor (workUnits ([] : List (Event α))) = m.monitors :=
    Monitors.worked_zero _ _
  rw [h.step_poll source hcall, hcancelled, poll_of_cancelled hawaits]
  unfold take
  dsimp only
  rw [hmonitors]

theorem Numbered.step_abort (h : m.Numbered) (source : Source ρ α) (hcall : call ∈ m.calls)
    (hlocal : call.stage.isRemote = false) :
    m.step source (.abort call.id) = { machine := m.forget call } := by
  simp only [Machine.step, h.call?_eq hcall, abandon_of_not_isRemote hlocal]

theorem Numbered.gone_forget (h : m.Numbered) (hcall : call ∈ m.calls) :
    (m.forget call).Gone call.id where
  lt_started := h.lt_started call hcall
  not_pending _ hother := of_decide_eq_true (List.mem_filter.1 hother).2

/-- Such a call leaves the cache as it is, whatever happens. -/
theorem Leaving.step (hleaving : m.Leaving id) (h : m.Numbered) (source : Source ρ α)
    (action : Action ρ α) :
    Bystands source id m action ∧ (m.step source action).machine.Leaving id := by
  cases hleaving with
  | gone hgone =>
    refine ⟨fun hown => ?_, .gone (h.gone_step source action hgone)⟩
    rw [hgone.step source hown]
  | @cancelled call channel hcall hid hawaits hcancelled =>
    subst hid
    by_cases hown : action.call? = some call.id
    · rcases h.step_of_awaits source hcall hawaits hown with hidle | rfl | rfl
      · rw [Bystands, hidle]
        exact ⟨fun _ => rfl, .cancelled hcall rfl hawaits hcancelled⟩
      · rw [Bystands, h.step_abort source hcall (Stage.isRemote_of_awaits? hawaits)]
        exact ⟨fun _ => rfl, .gone (h.gone_forget hcall)⟩
      · rw [Bystands, h.step_poll_of_cancelled hcall hawaits hcancelled]
        exact ⟨fun _ => rfl, .gone (h.gone_forget hcall)⟩
    · exact ⟨fun h => absurd h hown, .cancelled (h.stay source hcall hown).1 rfl hawaits
        (isCancelled_step source action hcancelled)⟩

theorem Leaving.admits (hleaving : m.Leaving id) (h : m.Numbered) (source : Source ρ α)
    (actions : List (Action ρ α)) : m.Admits source (Bystands source id) actions := by
  induction actions generalizing m with
  | nil => trivial
  | cons action rest ih =>
    obtain ⟨hfirst, hnext⟩ := hleaving.step h source action
    exact ⟨hfirst, ih hnext (h.step source action)⟩

end Future

section Withdraw

/-- Withdrawing a call removes it, and does nothing else. -/
structure Withdraws (source : Source ρ α) (m : Machine α) (call : Call) : Prop where
  /-- When it is dropped, it is gone, and nobody can proceed. -/
  dropped : m.step source (.abort call.id) = { machine := m.forget call } ∧
    (m.forget call).Settled source
  /-- When it is cancelled alone, it gives up as soon as it runs, and then nobody can proceed. -/
  settles : m.Alone call →
    ((m.step source (.cancel call.monitor)).machine.run source [.poll call.id]).machine.Settled
      source
  /-- In whatever order calls run until nobody can proceed, nothing else comes of it. -/
  cancelled : m.Alone call → ∀ ids : List Nat,
    (m.run source (.cancel call.monitor :: ids.map .poll)).machine.Settled source →
    m.run source (.cancel call.monitor :: ids.map .poll) =
      { machine := { m with monitors := m.monitors.cancel call.monitor }.forget call
        finished := [(call.id, .error .cancelled)] }

theorem Accountable.forget (h : m.Accountable) (source : Source ρ α) (hcall : call ∈ m.calls)
    (hlocal : call.stage.isRemote = false) : (m.forget call).Accountable := by
  have hnext := h.step source (.abort call.id)
  rwa [h.led.numbered.step_abort source hcall hlocal] at hnext

/-- Where nobody can proceed, nobody can once a waiting call is gone. -/
theorem Accountable.settled_forget (h : m.Accountable) (hsettled : m.Settled source)
    (hcall : call ∈ m.calls) (hlocal : call.stage.isRemote = false) :
    (m.forget call).Settled source :=
  (h.forget source hcall hlocal).settled_iff.2 fun other hother =>
    h.settled_iff.1 hsettled other (List.mem_of_mem_filter hother)

/-- A cancellation lets nobody proceed who does not use the monitor. -/
theorem rests_cancel {monitor : Monitor} {other : Call} (hrests : m.rests other = true)
    (hother : monitor.scope ∉ other.monitor.scopes) :
    ({ m with monitors := m.monitors.cancel monitor } : Machine α).rests other = true := by
  obtain ⟨hwaits, hactive⟩ := rests_iff.1 hrests
  refine rests_iff.2 ⟨hwaits, Bool.eq_false_iff.2 fun hcancelled => ?_⟩
  rcases Monitors.isCancelled_cancel.1 hcancelled with hbelow | hbefore
  · exact hother hbelow
  · exact Bool.eq_false_iff.1 hactive hbefore

theorem Settled.run_polls (h : m.Settled source) (ids : List Nat) :
    m.run source (ids.map .poll) = { machine := m } := by
  induction ids with
  | nil => rfl
  | cons id rest ih =>
    rw [List.map_cons, Machine.run, h id]
    dsimp only
    rw [ih]
    rfl

/-- When calls run that all have to wait apart from one that is cancelled, nothing happens until
that one runs, and nothing after it has. -/
theorem Accountable.run_polls (h : m.Accountable) {channel : Channel} (hcall : call ∈ m.calls)
    (hawaits : call.stage.awaits? = some channel) (hcancelled : m.isCancelled call = true)
    (hrests : ∀ other ∈ m.calls, other.id ≠ call.id → m.rests other = true)
    (hgone : (m.forget call).Settled source) (ids : List Nat) :
    m.run source (ids.map .poll) = if call.id ∈ ids then
      { machine := m.forget call, finished := [(call.id, .error .cancelled)] }
    else { machine := m } := by
  induction ids with
  | nil => rfl
  | cons id rest ih =>
    rw [List.map_cons, Machine.run]
    by_cases hid : id = call.id
    · rw [hid, h.led.numbered.step_poll_of_cancelled hcall hawaits hcancelled,
        if_pos List.mem_cons_self]
      dsimp only
      rw [hgone.run_polls]
      rfl
    · have hidle : m.step source (.poll id) = { machine := m } := by
        cases hfound : m.call? id with
        | none => exact step_poll_of_call?_eq_none source hfound
        | some other =>
          obtain ⟨hother, rfl⟩ := mem_of_call? hfound
          exact h.led.numbered.step_poll_of_rests hother (hrests other hother hid)
      rw [hidle]
      dsimp only
      rw [ih]
      simp [Ne.symm hid]

theorem Accountable.withdraws (h : m.Accountable) (hsettled : m.Settled source)
    (hcall : call ∈ m.calls) {channel : Channel} (hawaits : call.stage.awaits? = some channel) :
    m.Withdraws source call := by
  have hlocal := Stage.isRemote_of_awaits? hawaits
  have hrests := h.settled_iff.1 hsettled
  let cancelled : Machine α := { m with monitors := m.monitors.cancel call.monitor }
  have hthere : cancelled.Accountable := h.step source (.cancel call.monitor)
  have hcancelled : cancelled.isCancelled call = true :=
    Monitors.isCancelled_cancel.2 (.inl List.mem_cons_self)
  have hothers : m.Alone call → ∀ other ∈ cancelled.calls, other.id ≠ call.id →
      cancelled.rests other = true := fun halone other hother hne =>
    rests_cancel (hrests other hother) (halone other hother hne)
  have hgone : m.Alone call → (cancelled.forget call).Settled source := fun halone =>
    (hthere.forget source hcall hlocal).settled_iff.2 fun other hother =>
      hothers halone other (List.mem_of_mem_filter hother)
        (of_decide_eq_true (List.mem_filter.1 hother).2)
  have hpolls := fun halone => hthere.run_polls hcall hawaits hcancelled (hothers halone)
    (hgone halone)
  refine ⟨⟨h.led.numbered.step_abort source hcall hlocal, h.settled_forget hsettled hcall hlocal⟩,
    fun halone => ?_, fun halone ids hends => ?_⟩
  · show (cancelled.run source ([call.id].map .poll)).machine.Settled source
    rw [hpolls halone, if_pos List.mem_cons_self]
    exact hgone halone
  · have hrun : m.run source (.cancel call.monitor :: ids.map .poll) =
        cancelled.run source (ids.map .poll) := rfl
    rw [hrun, hpolls halone] at hends ⊢
    split at hends
    next hran => rw [if_pos hran]
    next hidle =>
      -- the call is cancelled, so it could still give up
      exact absurd (hthere.settled_iff.1 hends call hcall) (by simp [rests, hcancelled])

end Withdraw

section Unmissed

/-- The calls other than `id` fare alike, whether it is there or not. -/
structure SameOthers (id : Nat) (moved moved' : Moved α) : Prop where
  cache : moved'.machine.cache = moved.machine.cache
  calls : moved'.machine.calls = omitCall id moved.machine.calls
  finished : moved'.finished = omitResults id moved.finished

/-- A call that was started between two parts of a run, and is withdrawn before a third one, makes
no difference to the others: they fare as in the run in which it was never started. -/
structure Unmissed (source : Source ρ α) (m : Machine α) (call : Call)
    (before behind later : List (Action ρ α)) : Prop where
  /-- The call is dropped. -/
  dropped : SameOthers call.id
    (m.run source (before ++ .start call.request call.monitor :: behind ++
      .abort call.id :: later))
    (m.run source (before ++ (behind ++ later).filterMap (Action.omit call.id)))
  /-- Its monitor is cancelled. -/
  cancelled : SameOthers call.id
    (m.run source (before ++ .start call.request call.monitor :: behind ++
      .cancel call.monitor :: later))
    (m.run source (before ++
      (behind ++ .cancel call.monitor :: later).filterMap (Action.omit call.id)))
  /-- The monitor is that of no other call, so that its cancellation can be left out as well. -/
  alone : (m.run source (before ++ .start call.request call.monitor :: behind)).machine.Alone call →
    (∀ request monitor, .start request monitor ∈ later → call.monitor.scope ∉ monitor.scopes) →
    SameOthers call.id
      (m.run source (before ++ .start call.request call.monitor :: behind ++
        .cancel call.monitor :: later))
      (m.run source (before ++ (behind ++ later).filterMap (Action.omit call.id)))

/-- What happened before the call was started is the same. -/
theorem Numbered.sameOthers_of_omits (h : m.Numbered) {P : Monitor → Prop}
    {before xs ys : List (Action ρ α)} (hid : (m.run source before).machine.started = id)
    (homits : Omits P id ((m.run source before).machine.run source xs).machine
      ((m.run source before).machine.run source ys).machine)
    (hfinished : ((m.run source before).machine.run source ys).finished =
      omitResults id ((m.run source before).machine.run source xs).finished) :
    SameOthers id (m.run source (before ++ xs)) (m.run source (before ++ ys)) where
  cache := by
    rw [run_append_machine, run_append_machine]
    exact homits.cache
  calls := by
    rw [run_append_machine, run_append_machine]
    exact homits.calls
  finished := by
    have hold : omitResults id (m.run source before).finished = (m.run source before).finished :=
      omitResults_of_lt fun _ hentry => hid ▸ h.lt_started_of_finished hentry
    rw [run_append_finished, run_append_finished, omitResults_append, hold, hfinished]

/-- Nobody misses a call that is withdrawn while it waits for another one. -/
theorem Numbered.unmissed (h : m.Numbered) {before behind : List (Action ρ α)}
    (hid : (m.run source before).machine.started = call.id)
    (hcall : call ∈ (m.run source
      (before ++ .start call.request call.monitor :: behind)).machine.calls)
    {channel : Channel} (hawaits : call.stage.awaits? = some channel)
    (later : List (Action ρ α)) : Unmissed source m call before behind later := by
  have hlocal := Stage.isRemote_of_awaits? hawaits
  have hbase := numbered_run source h before
  let started := ((m.run source before).machine.step source
    (.start call.request call.monitor)).machine
  have hstarted : started.Numbered := hbase.step source (.start call.request call.monitor)
  have hstart : Omits (fun _ => True) call.id started (m.run source before).machine :=
    hid ▸ hbase.omits_start source call.request call.monitor
  have hthere : call ∈ (started.run source behind).machine.calls := by
    rwa [run_append_machine] at hcall
  have hnumbered := numbered_run source hstarted behind
  have hbehind := hstarted.bystands_of_pending hthere hlocal
  have hleaving : ((started.run source behind).machine.step source
      (.cancel call.monitor)).machine.Leaving call.id :=
    .cancelled hthere rfl hawaits (Monitors.isCancelled_cancel.2 (.inl List.mem_cons_self))
  have hcancelled := hleaving.admits (hnumbered.step source (.cancel call.monitor)) source later
  refine ⟨?_, ?_, fun halone hlater => ?_⟩
  · have habort := hnumbered.step_abort source hthere hlocal
    have hadmits : started.Admits source (Bystands source call.id)
        (behind ++ .abort call.id :: later) := by
      refine (admits_append _ _).2 ⟨hbehind, fun _ => by rw [habort]; rfl, ?_⟩
      rw [habort]
      have hforgotten := hnumbered.step source (.abort call.id)
      rw [habort] at hforgotten
      exact (Leaving.gone (hnumbered.gone_forget hthere)).admits hforgotten source later
    obtain ⟨homits, hfinished⟩ := hstart.run hadmits fun _ _ _ => trivial
    have homitted : (behind ++ .abort call.id :: later).filterMap (Action.omit call.id) =
        (behind ++ later).filterMap (Action.omit call.id) := by
      rw [List.filterMap_append, List.filterMap_append,
        List.filterMap_cons_none (Action.omit_of_concerns rfl)]
    rw [homitted] at homits hfinished
    rw [List.append_assoc, List.cons_append]
    exact h.sameOthers_of_omits hid homits hfinished
  · have hadmits : started.Admits source (Bystands source call.id)
        (behind ++ .cancel call.monitor :: later) :=
      (admits_append _ _).2 ⟨hbehind, nofun, hcancelled⟩
    obtain ⟨homits, hfinished⟩ := hstart.run hadmits fun _ _ _ => trivial
    rw [List.append_assoc, List.cons_append]
    exact h.sameOthers_of_omits hid homits hfinished
  · -- up to the cancellation nothing is left out but the call
    obtain ⟨homits, hfinished⟩ := hstart.run hbehind fun _ _ _ => trivial
    rw [run_append_machine] at halone
    obtain ⟨hlast, hrest⟩ := (homits.step_cancel halone source).run hcancelled hlater
    rw [← run_append_machine, ← List.filterMap_append] at hlast
    have hrun : (started.run source (behind ++ .cancel call.monitor :: later)).machine =
        (((started.run source behind).machine.step source
          (.cancel call.monitor)).machine.run source later).machine := by
      rw [run_append_machine]
      rfl
    rw [← hrun] at hlast
    rw [List.append_assoc, List.cons_append]
    refine h.sameOthers_of_omits hid hlast ?_
    rw [List.filterMap_append, run_append_finished, hfinished, hrest, ← omitResults_append]
    exact congrArg (omitResults call.id)
      (run_append_finished source started behind (.cancel call.monitor :: later)).symm

/-- A call that is pending after a run was started in it, unless it was pending before. -/
theorem Numbered.exists_start (h : m.Numbered) (hnew : ∀ other ∈ m.calls, other.id ≠ call.id)
    {actions : List (Action ρ α)} (hcall : call ∈ (m.run source actions).machine.calls) :
    ∃ before behind, actions = before ++ .start call.request call.monitor :: behind ∧
      (m.run source before).machine.started = call.id := by
  have hfirst : ¬ ∃ other ∈ m.calls, other.id = call.id := fun ⟨other, hother, hid⟩ =>
    hnew other hother hid
  obtain ⟨before, action, behind, rfl, hbefore, other, hother, hid⟩ :=
    exists_step_of_run (P := fun m => ∃ other ∈ m.calls, other.id = call.id) hfirst
      ⟨call, hcall, rfl⟩
  have hnumbered := numbered_run source h before
  have hnext := hnumbered.step source action
  rw [run_append_machine, run_cons_machine] at hcall
  cases hnumbered.stepped source action with
  | idle _ calls => exact absurd ⟨other, calls ▸ hother, hid⟩ hbefore
  | edit _ _ _ calls => exact absurd ⟨other, calls ▸ hother, hid⟩ hbefore
  | @turn mover turn front back _ _ pending _ calls =>
    rw [calls, Call.mem_moved_iff] at hother
    refine absurd ?_ hbefore
    rw [pending]
    rcases hother with (hother | hother) | ⟨stage, -, rfl⟩
    · exact ⟨other, by simp [hother], hid⟩
    · exact ⟨other, by simp [hother], hid⟩
    · exact ⟨mover, by simp, hid⟩
  | start request monitor _ calls started _ _ same =>
    subst same
    have hmine : ∀ other ∈ ((m.run source before).machine.step source
        (.start request monitor)).machine.calls, other.id = call.id →
        other = { id := (m.run source before).machine.started, monitor, request } := by
      intro other hother hid
      rw [calls, List.mem_append, List.mem_singleton] at hother
      exact hother.resolve_left fun hold => hbefore ⟨other, hold, hid⟩
    obtain rfl := hmine other hother hid
    obtain ⟨hrequest, hmonitor⟩ := hnext.same_run
      { id := (m.run source before).machine.started, monitor, request }
      (by rw [started]; exact Nat.lt_succ_self _)
      (fun other hother hsame => by rw [hmine other hother (hsame.trans hid)]; exact ⟨rfl, rfl⟩)
      source behind hcall hid.symm
    exact ⟨before, behind, by rw [hrequest, hmonitor], hid⟩

end Unmissed

/-- Whoever waits for another call's fetch or lookup, in whatever settled state of whatever run, can
be withdrawn without a trace: dropping or cancelling the call removes just that call, and whatever
comes later, the others get what they would have got without it. -/
theorem run_withdrawn (source : Source ρ α) (config : Config) (monitors : Monitors)
    (actions : List (Action ρ α)) (call : Call)
    (hcall : call ∈ ((new config monitors).run source actions).machine.calls)
    (hwaits : call.stage.awaits?.isSome = true)
    (hsettled : ((new config monitors).run source actions).machine.Settled source) :
    ((new config monitors).run source actions).machine.Withdraws source call ∧
      ∃ before behind, actions = before ++ .start call.request call.monitor :: behind ∧
        ((new config monitors).run source before).machine.started = call.id ∧
        ∀ later, Unmissed source (new config monitors) call before behind later := by
  have h : (new config monitors : Machine α).Accountable := accountable_new config monitors
  obtain ⟨channel, hawaits⟩ := Option.isSome_iff_exists.1 hwaits
  obtain ⟨before, behind, rfl, hid⟩ := h.led.numbered.exists_start (fun _ hother => nomatch hother)
    hcall
  exact ⟨(h.run source _).withdraws hsettled hcall hawaits, before, behind, rfl, hid,
    h.led.numbered.unmissed hid hcall hawaits⟩

end Machine

section Items

open Scripted Machine

/-- A listing is under way; a call under a child monitor waits for it, and so does a refresh. -/
def waitingCalls : List (Action Item Item) :=
  [.start .all ⟨0, [], 0⟩, .poll 0, .start (.one (.id 1)) ⟨1, [0], 0⟩, .poll 1,
    .start .refresh ⟨2, [], 0⟩, .poll 2]

theorem run_withdrawn_waitingCalls :
    let m := (new {} {}).run (Item.source Item.merge) waitingCalls
    let call : Call :=
      { id := 1, monitor := ⟨1, [0], 0⟩, request := .one (.id 1), stage := .awaitingFetch 0 true }
    m.machine.Alone call ∧ m.machine.Withdraws (Item.source Item.merge) call ∧
      ∃ before behind, waitingCalls = before ++ .start call.request call.monitor :: behind ∧
        ((new {} {}).run (Item.source Item.merge) before).machine.started = call.id ∧
        ∀ later, Unmissed (Item.source Item.merge) (new {} {}) call before behind later := by
  intro m call
  refine ⟨by decide +kernel, run_withdrawn (Item.source Item.merge) {} {} waitingCalls call ?pending
    rfl ?settled⟩
  case pending => decide +kernel
  case settled =>
    exact (accountable_run (Item.source Item.merge) {} {} waitingCalls).settled_iff.2
      (by decide +kernel)

end Items

end CatalogBrowser.Cache
