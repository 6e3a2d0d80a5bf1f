import CatalogBrowser.Proofs.Cache.CollectionLoad
import CatalogBrowser.Proofs.DataSource.Opening

/-!
# Filling a cache from a server

A load of a whole collection that has its cache to itself makes all of it or nothing: whether it is
answered, fails, is cancelled or is dropped, in the end the cache holds what the server lists, or it
holds nothing, and then another load can begin where this one did. It fails only if it is cancelled
or the server is offline.

## Main definitions

* `Supply` - a kind of caches with the queries that fill them.
* `Supply.Fills` - a load and the cache that it is to fill.
* `Supply.Filled` - what comes of running it.

## Main statements

* `Supply.Fills.run`, `Supply.Fills.abandon` - a load that runs or is dropped.
-/

namespace CatalogBrowser

open Cache (Load firstOfEach)

/-- A query that is answered is answered by the document, unless the server is offline. -/
theorem Server.of_answer? {β : Type} {server : Server} {read : Document → Except ConnectionError β}
    {pending : Pending} {answer : Except ConnectionError β}
    (h : server.answer? pending read = some answer) :
    answer = read server.document ∨ server.offline.isSome ∧ ∃ error, answer = .error error := by
  rw [Server.answer?] at h
  split at h
  · cases h
  · split at h
    next reason hoffline =>
      obtain rfl := Option.some.inj h
      exact .inr ⟨by rw [hoffline]; rfl, _, rfl⟩
    next => exact .inl (Option.some.inj h).symm

theorem Server.lt_due_of_answer? {β : Type} {server : Server}
    {read : Document → Except ConnectionError β} {pending : Pending}
    (h : server.answer? pending read = none) : server.now < pending.due := by
  rw [Server.answer?] at h
  split at h
  next hwait => exact hwait
  next => split at h <;> cases h

section Supply

variable {κ ρ α : Type} {source : Source ρ α} {remote : Cache.Remote Server κ ρ}

/-- How a kind of caches is filled from a server. -/
structure Supply (source : Source ρ α) (remote : Cache.Remote Server κ ρ) where
  config : Cache.Config
  records : Document → List ρ
  queries : Context.Queries remote fun document => .ok (records document)
  keepsKeys : Cache.KeepsKeys (config.objectKey source) source.merge

namespace Supply

variable {supply : Supply source remote} {document : Document} {server server' : Server}
  {c c' : Cache α} {load : Load κ} {cancelled : Bool} {poll : Poll (Load κ) Cache.Result}

/-- The objects of a cache that was filled from a document. -/
def stock (supply : Supply source remote) (document : Document) : List α :=
  firstOfEach (supply.config.objectKey source)
    ((supply.records document).filterMap source.construct)

/-- A load that leads the listing that it asked for in a query. -/
def leading (supply : Supply source remote) (lead : Cache.FetchLead) (pending : Pending) : Load κ :=
  .leading lead (supply.queries.query pending)

/-- How a load of everything stands to the cache that it fills: it has not begun, or it leads the
listing. -/
inductive Fills (supply : Supply source remote) (document : Document) (c : Cache α) :
    Load κ → Prop
  | begins : c.AllOrNothing source supply.config (supply.stock document) →
      Fills supply document c .unrun
  | leads {lead : Cache.FetchLead} {pending : Pending} : c.config = supply.config →
      c.snapshot = {} → c.generation = lead.generation →
      Fills supply document c (supply.leading lead pending)

/-- What comes of running a load that fills a cache: it waits for an answer that is due later, and
was asked for now or before, or it ends. -/
inductive Filled (supply : Supply source remote) (server : Server) (cancelled : Bool)
    (load : Load κ) (c : Cache α) : Poll (Load κ) Cache.Result → Prop
  | waits {lead : Cache.FetchLead} {pending : Pending} :
      supply.Fills server.document c (supply.leading lead pending) →
      load = .unrun ∧ pending = server.ask.2 ∨
        load = supply.leading lead pending ∧ server.now < pending.due →
      Filled supply server cancelled load c (.waiting (supply.leading lead pending))
  | ends {reply : Cache.Reply} : c.InFull source supply.config (supply.stock server.document) →
      Filled supply server cancelled load c (.finished (.ok reply))
  | fails {error : CacheError} : c.config = supply.config → c.Vacant →
      cancelled = true ∨ server.offline.isSome →
      Filled supply server cancelled load c (.finished (.error error))

/-- A listing that is answered stocks the cache, unless the server is offline. -/
theorem filled_acceptListing (supply : Supply source remote) (cancelled : Bool) (load : Load κ)
    (hconfig : c.config = supply.config) (hempty : c.snapshot = {}) {lead : Cache.FetchLead}
    (hcurrent : c.generation = lead.generation) {answer : Except ConnectionError (List ρ)}
    (hanswer : answer = .ok (supply.records server.document) ∨
      server.offline.isSome ∧ ∃ error, answer = .error error) {result : Cache.Result}
    (hresult : (c.acceptListing source .all lead answer).progress = .finished result) :
    supply.Filled server cancelled load (c.acceptListing source .all lead answer).cache
      (.finished result) := by
  have hkey : c.objectKey source = supply.config.objectKey source :=
    Cache.objectKey_of_config hconfig
  rcases hanswer with rfl | ⟨hoffline, error, rfl⟩
  · obtain ⟨hfinished, -, hcache⟩ :=
      Cache.acceptListing_of_nothing source hempty hcurrent (supply.records server.document)
    rw [hfinished] at hresult
    obtain rfl := Cache.Progress.finished.inj hresult
    refine .ends ⟨by rw [hcache]; exact hconfig, ?_⟩
    rw [stock, ← hkey]
    exact Cache.stocked_acceptListing hempty hcurrent (hkey ▸ supply.keepsKeys) _
  · obtain rfl := Cache.Progress.finished.inj hresult
    exact .fails hconfig ⟨hempty, rfl⟩ (.inr hoffline)

/-- A load that finds nothing in memory and nobody at work asks for a listing. -/
theorem filled_of_vacant (supply : Supply source remote) (hconfig : c.config = supply.config)
    (hvacant : c.Vacant)
    (h : Load.Gathered source remote server c cancelled .unrun server' c' poll) :
    supply.Filled server cancelled .unrun c' poll := by
  have hlist := supply.queries.list server
  have hlisting := supply.queries.listing? server.ask.1 server.ask.2
  cases h with
  | quit hcancelled => exact .fails hconfig hvacant (.inl hcancelled)
  | serve _ hcomplete =>
    rw [hvacant.not_complete] at hcomplete
    cases hcomplete
  | join _ _ _ hfetch =>
    rw [hvacant.fetch] at hfetch
    cases hfetch
  | ask =>
    rw [hlist]
    exact .waits (.leads hconfig hvacant.snapshot rfl) (.inl ⟨rfl, rfl⟩)
  | @fetch _ answer _ _ _ _ _ hsome hresult =>
    rw [hlist, hlisting] at hsome
    have hanswer : answer = .ok (supply.records server.document) ∨
        server.offline.isSome ∧ ∃ error, answer = .error error := Server.of_answer? hsome
    have hasked : c.withFetch.config = supply.config ∧ c.withFetch.snapshot = {} ∧
        c.withFetch.generation = c.nextFetch.generation := ⟨hconfig, hvacant.snapshot, rfl⟩
    exact supply.filled_acceptListing cancelled .unrun hasked.1 hasked.2.1 hasked.2.2 hanswer
      hresult
  | attempt hcancelled => exact .fails hconfig ⟨hvacant.snapshot, rfl⟩ (.inl hcancelled)

theorem filled_of_leading (supply : Supply source remote) (hconfig : c.config = supply.config)
    (hempty : c.snapshot = {}) {lead : Cache.FetchLead} (hcurrent : c.generation = lead.generation)
    {pending : Pending} (h : Load.Gathered source remote server c cancelled
      (.leading lead (supply.queries.query pending)) server' c' poll) :
    supply.Filled server cancelled (supply.leading lead pending) c' poll := by
  have hlisting := supply.queries.listing? server pending
  cases h with
  | quit _ _ hlocal => cases hlocal
  | serve henters | join _ henters | ask _ henters | fetch _ henters | attempt _ henters =>
    cases henters
  | hold _ hnone =>
    rw [hlisting] at hnone
    exact .waits (.leads hconfig hempty hcurrent)
      (.inr ⟨rfl, Server.lt_due_of_answer? hnone⟩)
  | take _ hsome hresult =>
    rw [hlisting] at hsome
    exact supply.filled_acceptListing cancelled _ hconfig hempty hcurrent
      (Server.of_answer? hsome) hresult
  | abort hcancelled => exact .fails hconfig ⟨hempty, rfl⟩ (.inl hcancelled)

/-- A load fills its cache or leaves it vacant, unless it waits. -/
theorem Fills.run (h : supply.Fills server.document c load) (cancelled : Bool) :
    let turn := load.run source remote server c cancelled
    supply.Filled server cancelled load turn.cache turn.poll := by
  cases h with
  | begins hrests =>
    rcases hrests.contents with hvacant | hstocked
    · exact supply.filled_of_vacant hrests.config hvacant
        (Load.gathered_run source remote server c .unrun cancelled)
    · obtain ⟨-, hcache, hpoll⟩ : _ ∧ (Load.run source remote server c .unrun cancelled).cache = c ∧
          (Load.run source remote server c .unrun cancelled).poll = _ :=
        Load.run_all_of_complete source remote server hstocked.holds.complete cancelled
      simp only [hcache, hpoll]
      exact .ends ⟨hrests.config, hstocked⟩
  | leads hconfig hempty hcurrent =>
    exact supply.filled_of_leading hconfig hempty hcurrent
      (Load.gathered_run source remote server c (.leading _ _) cancelled)

/-- A load that is dropped leaves its cache as it was, or vacant. -/
theorem Fills.abandon (h : supply.Fills document c load) :
    (c.abandon load.stage).AllOrNothing source supply.config (supply.stock document) := by
  cases h with
  | begins hrests => exact hrests
  | leads hconfig hempty => exact ⟨hconfig, .inl ⟨hempty, rfl⟩⟩

end Supply

end Supply

end CatalogBrowser
