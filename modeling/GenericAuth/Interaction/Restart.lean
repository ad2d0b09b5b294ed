import GenericAuth.Interaction.Pool

/-! A service whose clients are lost now and then. A crash drops all clients at any
moment and leaves the store; then new clients arrive, perhaps of other programs. All
lives together are one run, in which the clients of earlier lives never move again. -/
namespace Interaction

variable {Config Request Store Draw Op Result : Type} {Reply : Op → Type}

def Event.shift (n : Nat) (event : Event Store Draw Op) : Event Store Draw Op :=
  { event with client := event.client + n }

namespace Pool

/-- The second pool, numbered after the clients of the first one. -/
def resume (pool pool' : Pool Request Store Draw Op Reply Result) :
    Pool Request Store Draw Op Reply Result where
  store := pool'.store
  clients := pool.clients ++ pool'.clients
  log := pool.log ++ pool'.log.map (Event.shift pool.clients.length)

/-- Each request with the configuration that it met. -/
def tag (config : Config) (pool : Pool Request Store Draw Op Reply Result) :
    Pool (Config × Request) Store Draw Op Reply Result where
  store := pool.store
  clients := pool.clients.map fun client => ⟨(config, client.request), client.program⟩
  log := pool.log

/-- One pool with the clients and the steps of a prior one, and of those that follow. -/
def merged (prior : Pool Request Store Draw Op Reply Result)
    (pools : List (Pool Request Store Draw Op Reply Result)) :
    Pool Request Store Draw Op Reply Result :=
  pools.foldl resume prior

end Pool

/-- Some lives from the store `start` to another one: each begins with the store that
the one before has left, in any state of its clients. -/
inductive Restarts (service : Service Store Draw Op Reply)
    (handle : Config → Request → Program Op Reply Result) :
    Store → List (Config × Pool Request Store Draw Op Reply Result) → Store → Prop where
  | stopped (store : Store) : Restarts service handle store [] store
  | started {start store : Store} {config : Config}
      {pool : Pool Request Store Draw Op Reply Result}
      {lives : List (Config × Pool Request Store Draw Op Reply Result)}
      (run : Runs service (handle config) start pool)
      (later : Restarts service handle pool.store lives store) :
      Restarts service handle start ((config, pool) :: lives) store

section Runs

variable {service : Service Store Draw Op Reply} {start store : Store}

/-- A run goes on with any run from its last store. -/
theorem Runs.resume {handle : Request → Program Op Reply Result}
    {pool pool' : Pool Request Store Draw Op Reply Result} (run : Runs service handle start pool)
    (run' : Runs service handle pool.store pool') : Runs service handle start (pool.resume pool') := by
  induction run' with
  | initial => simpa [Pool.resume, Pool.initial] using run
  | @arrive pool' prior request ih =>
      have hArrive : pool.resume (pool'.arrive handle request) =
          (pool.resume pool').arrive handle request := by
        simp [Pool.resume, Pool.arrive]
      rw [hArrive]
      exact ih.arrive request
  | @step pool' prior i request op next active draw ih =>
      have present : (pool.resume pool').clients[pool.clients.length + i]? =
          some ⟨request, .call op next⟩ := by
        simp [Pool.resume, List.getElem?_append_right, active]
      have hAdvance : pool.resume (pool'.advance service i request op next draw) =
          (pool.resume pool').advance service (pool.clients.length + i) request op next draw := by
        simp [Pool.resume, Pool.advance, Event.shift, List.set_append_right, Nat.add_comm i]
      rw [hAdvance]
      exact ih.step present draw

variable {handle : Config → Request → Program Op Reply Result}

theorem Runs.tag {config : Config} {pool : Pool Request Store Draw Op Reply Result}
    (run : Runs service (handle config) start pool) :
    Runs service (fun request => handle request.1 request.2) start (pool.tag config) := by
  induction run with
  | initial => exact .initial
  | @arrive pool prior request ih =>
      have hArrive : (pool.arrive (handle config) request).tag config =
          (pool.tag config).arrive (fun request => handle request.1 request.2) (config, request) := by
        simp [Pool.tag, Pool.arrive]
      rw [hArrive]
      exact ih.arrive (config, request)
  | @step pool prior i request op next active draw ih =>
      have present : (pool.tag config).clients[i]? = some ⟨(config, request), .call op next⟩ := by
        simp [Pool.tag, active]
      have hAdvance : (pool.advance service i request op next draw).tag config =
          (pool.tag config).advance service i (config, request) op next draw := by
        simp [Pool.tag, Pool.advance, List.map_set]
      rw [hAdvance]
      exact ih.step present draw

variable {lives : List (Config × Pool Request Store Draw Op Reply Result)}

/-- All lives together are one run, of the clients of all configurations. -/
theorem Restarts.run (restarts : Restarts service handle start lives store) {first : Store}
    {prior : Pool (Config × Request) Store Draw Op Reply Result}
    (run : Runs service (fun request => handle request.1 request.2) first prior)
    (hStore : prior.store = start) :
    Runs service (fun request => handle request.1 request.2) first
      (prior.merged (lives.map fun life => life.2.tag life.1)) ∧
    (prior.merged (lives.map fun life => life.2.tag life.1)).store = store := by
  induction restarts generalizing prior with
  | stopped store => exact ⟨run, hStore⟩
  | started life later ih =>
      subst hStore
      exact ih (run.resume life.tag) rfl

/-- Lives with one configuration are one run with this configuration. -/
theorem Restarts.run_same (restarts : Restarts service handle start lives store) {config : Config}
    (same : ∀ life ∈ lives, life.1 = config) {first : Store}
    {prior : Pool Request Store Draw Op Reply Result}
    (run : Runs service (handle config) first prior) (hStore : prior.store = start) :
    Runs service (handle config) first (prior.merged (lives.map Prod.snd)) ∧
      (prior.merged (lives.map Prod.snd)).store = store := by
  induction restarts generalizing prior with
  | stopped store => exact ⟨run, hStore⟩
  | started life later ih =>
      subst hStore
      obtain rfl := same _ List.mem_cons_self
      exact ih (fun life hMem => same life (List.mem_cons_of_mem _ hMem)) (run.resume life) rfl

end Runs

end Interaction
