/- OpSuccinct/Host/Run
   digest: `OPSuccinctHost::run` as a future over the task runtime, and which of its exits abort
   the preimage server task. -/

import OpSuccinct.Client.Preimage

set_option autoImplicit false
set_option relaxedAutoImplicit false

/-!
`run` opens the hint and preimage channels, has kona spawn the preimage server and hint handler
as one task, awaits the witness-generation client, aborts the server task and returns the
client's oracle. The server task never ends by itself, and dropping its `JoinHandle` detaches
it. A future here runs against the runtime's task table and ends in one of two ways: it returns,
or its caller drops it at an await point, as `tokio::time::timeout` does at its deadline.
-/

namespace OpSuccinct.Host.Run

open OpSuccinct.Primitives OpSuccinct.Client.Preimage

inductive TaskStatus
  | running
  | aborted
  deriving DecidableEq

structure Runtime where
  tasks : List TaskStatus

namespace Runtime

def spawn (rt : Runtime) : Nat × Runtime := (rt.tasks.length, ⟨rt.tasks ++ [.running]⟩)

def abort (rt : Runtime) (task : Nat) : Runtime := ⟨rt.tasks.set task .aborted⟩

def status (rt : Runtime) (task : Nat) : Option TaskStatus := rt.tasks[task]?

@[simp] theorem spawn_fst (rt : Runtime) : rt.spawn.1 = rt.tasks.length := rfl

@[simp] theorem status_spawn (rt : Runtime) :
    rt.spawn.2.status rt.tasks.length = some .running := by
  simp [spawn, status]

@[simp] theorem status_abort (rt : Runtime) {task : Nat} (spawned : task < rt.tasks.length) :
    (rt.abort task).status task = some .aborted := by
  simp [abort, status, spawned]

end Runtime

inductive Exit (α : Type)
  | returned (result : Except String α)
  | dropped

def Future (α : Type) := Runtime → Exit α × Runtime

instance : Monad Future where
  pure a := fun rt => (.returned (.ok a), rt)
  bind x f := fun rt =>
    match x rt with
    | (.returned (.ok a), rt) => f a rt
    | (.returned (.error e), rt) => (.returned (.error e), rt)
    | (.dropped, rt) => (.dropped, rt)

inductive Await (α : Type)
  | ready (result : Except String α)
  | cancelled

def await {α : Type} : Await α → Future α
  | .ready result => fun rt => (.returned result, rt)
  | .cancelled => fun rt => (.dropped, rt)

def check {α : Type} (result : Except String α) : Future α := await (.ready result)

/-- `start_server(...).await?`: when it returns `Ok`, kona has spawned the server task. -/
def startServer : Await Unit → Future Nat
  | .ready (.ok ()) => fun rt => (.returned (.ok rt.spawn.1), rt.spawn.2)
  | .ready (.error e) => fun rt => (.returned (.error e), rt)
  | .cancelled => fun rt => (.dropped, rt)

def abort (task : Nat) : Future Unit := fun rt => (.returned (.ok ()), rt.abort task)

abbrev InMemoryOracle := List (PreimageKey × Bytes)

structure Environment where
  hintChannel : Except String Unit
  preimageChannel : Except String Unit
  startServer : Await Unit
  witnessgenClient : Await InMemoryOracle

/-- `OPSuccinctHost::run`. -/
def run (env : Environment) : Future InMemoryOracle := do
  let _hint ← check env.hintChannel
  let _preimage ← check env.preimageChannel
  let serverTask ← startServer env.startServer
  let inMemoryOracle ← await env.witnessgenClient
  abort serverTask
  pure inMemoryOracle

def startServerAndNativeClient (env : Environment) : Future InMemoryOracle := run env

/-- With both channels open and the server spawned, `run` ends with the server task aborted
exactly when the client returns `Ok`: when the client returns `Err` the `?` returns before
`abort`, and when the future is dropped while awaiting the client the handle is only dropped.
Either way the server task is left running. -/
theorem run_server_task_status (env : Environment) (rt : Runtime)
    (hint : env.hintChannel = .ok ()) (preimage : env.preimageChannel = .ok ())
    (spawned : env.startServer = .ready (.ok ())) :
    (run env rt).2.status rt.tasks.length =
      some (match env.witnessgenClient with
        | .ready (.ok _) => .aborted
        | _ => .running) := by
  have handle : rt.tasks.length < rt.spawn.2.tasks.length := by simp [Runtime.spawn]
  cases client : env.witnessgenClient with
  | ready result =>
    cases result <;>
      simp [run, bind, pure, check, await, startServer, abort, hint, preimage, spawned, client,
        handle]
  | cancelled =>
    simp [run, bind, check, await, startServer, hint, preimage, spawned, client]

def failingClient : Environment :=
  ⟨.ok (), .ok (), .ready (.ok ()), .ready (.error "client program failed")⟩

theorem run_leaves_server_running_after_client_error :
    (run failingClient ⟨[]⟩).1 = .returned (.error "client program failed") ∧
      (run failingClient ⟨[]⟩).2.status 0 = some .running :=
  ⟨rfl, run_server_task_status failingClient ⟨[]⟩ rfl rfl rfl⟩

section Runs

def running (rt : Runtime) : Nat := rt.tasks.count .running

end Runs

end OpSuccinct.Host.Run
