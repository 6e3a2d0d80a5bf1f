/-!
# Monitors

A monitor reports progress and carries cancellation. Monitors form a forest: cancelling one cancels
its descendants, while a descendant can be cancelled on its own. All monitors of a tree report to
one counter of work, a 64 bit word that wraps.

A `Monitor` is a handle; what it refers to is kept in `Monitors`.

## Main statements

* `Monitors.isCancelled_cancel` - after cancelling `m`, exactly the monitors that were cancelled
  before and those below `m` are.
-/

namespace CatalogBrowser

/-- A handle: the scopes whose cancellation concerns the monitor, its own first, and the counter
that it reports to. -/
structure Monitor where
  scope : Nat
  ancestors : List Nat
  counter : Nat
deriving DecidableEq, Repr

/-- All scopes whose cancellation concerns the monitor. -/
def Monitor.scopes (monitor : Monitor) : List Nat :=
  monitor.scope :: monitor.ancestors

/-- The state that monitors share. -/
structure Monitors where
  created : Nat := 0
  cancelled : List Nat := []
  work : Array UInt64 := #[]

namespace Monitors

/-- A new monitor without a parent. -/
def fresh (ms : Monitors) : Monitors × Monitor :=
  ({ ms with created := ms.created + 1, work := ms.work.push 0 },
    { scope := ms.created, ancestors := [], counter := ms.work.size })

/-- A new monitor that is cancelled together with `parent` and reports to its counter. -/
def child (ms : Monitors) (parent : Monitor) : Monitors × Monitor :=
  ({ ms with created := ms.created + 1 },
    { scope := ms.created, ancestors := parent.scopes, counter := parent.counter })

def cancel (ms : Monitors) (monitor : Monitor) : Monitors :=
  { ms with cancelled := monitor.scope :: ms.cancelled }

/-- Whether cancellation of the monitor or of one of its ancestors was requested. -/
def isCancelled (ms : Monitors) (monitor : Monitor) : Bool :=
  monitor.scopes.any (· ∈ ms.cancelled)

def worked (ms : Monitors) (monitor : Monitor) (units : Nat) : Monitors :=
  { ms with work := ms.work.modify monitor.counter (· + UInt64.ofNat units) }

def workDone (ms : Monitors) (monitor : Monitor) : UInt64 :=
  ms.work.getD monitor.counter 0

theorem isCancelled_iff {ms : Monitors} {monitor : Monitor} :
    ms.isCancelled monitor = true ↔ ∃ scope ∈ monitor.scopes, scope ∈ ms.cancelled := by
  simp [isCancelled]

theorem isCancelled_cancel {ms : Monitors} {monitor other : Monitor} :
    (ms.cancel monitor).isCancelled other = true ↔
      monitor.scope ∈ other.scopes ∨ ms.isCancelled other = true := by
  simp only [isCancelled_iff, cancel, List.mem_cons]
  constructor
  · rintro ⟨scope, hs, rfl | hc⟩
    · exact .inl hs
    · exact .inr ⟨scope, hs, hc⟩
  · rintro (hs | ⟨scope, hs, hc⟩)
    · exact ⟨_, hs, .inl rfl⟩
    · exact ⟨scope, hs, .inr hc⟩

/-- No work is no change. -/
@[simp] theorem worked_zero (ms : Monitors) (monitor : Monitor) : ms.worked monitor 0 = ms := by
  have hmodify : ms.work.modify monitor.counter (· + UInt64.ofNat 0) = ms.work := by
    apply Array.ext
    · exact Array.size_modify
    · intro i _ _
      rw [Array.getElem_modify]
      simp
  rw [worked, hmodify]

end Monitors

abbrev MonitorNames := List (String × Monitor)

namespace MonitorNames

def resolve (names : MonitorNames) (ms : Monitors) (name : String) :
    MonitorNames × Monitors × Monitor :=
  match names.lookup name with
  | some monitor => (names, ms, monitor)
  | none =>
    let (ms, monitor) := ms.fresh
    ((name, monitor) :: names, ms, monitor)

/-- The monitor of a name if there is one, and else a new monitor without a name. -/
def resolveOrFresh (names : MonitorNames) (ms : Monitors) :
    Option String → MonitorNames × Monitors × Monitor
  | some name => names.resolve ms name
  | none =>
    let (ms, monitor) := ms.fresh
    (names, ms, monitor)

/-- Makes a name stand for a new child of another name's monitor. -/
def adopt (names : MonitorNames) (ms : Monitors) (name parent : String) :
    MonitorNames × Monitors :=
  let (names, ms, parent) := names.resolve ms parent
  let (ms, monitor) := ms.child parent
  ((name, monitor) :: names, ms)

end MonitorNames

end CatalogBrowser
