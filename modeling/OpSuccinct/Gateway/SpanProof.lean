/- OpSuccinct/Gateway/SpanProof
   digest: The zkvm-host gateway's `request_span_proof`, its native-runner deadline, and when it
   sends a proof request. -/

import OpSuccinct.Gateway.Prover

set_option autoImplicit false
set_option relaxedAutoImplicit false

/-!
`request_span_proof` asks the zkvm-host's data fetcher (`SP1KonaDataFetcher`) for the kona host
arguments of the span, creates the data directory, spawns the `native_host_runner` binary and
waits for it under a 40-second `tokio::time::timeout`, reads the stdin from the data directory,
constructs the network prover and requests a compressed proof of the server's `MULTI_BLOCK_ELF`.
`match result { Ok(status) => status?, .. }` propagates an I/O error of `wait` and drops the
`ExitStatus` it unwraps: the runner's exit code is never looked at.
-/

namespace OpSuccinct.Gateway.SpanProof

open OpSuccinct.Primitives OpSuccinct.Host.Stdin OpSuccinct.Gateway.Prover

structure SpanProofRequest where
  start : Nat
  «end» : Nat
  deriving DecidableEq

structure HostCli where
  dataDir : Option String
  deriving DecidableEq

structure ExitStatus where
  code : Option Int
  deriving DecidableEq

def ExitStatus.success (status : ExitStatus) : Bool := status.code == some 0

inductive Wait
  | failed (seconds : Nat) (error : String)
  | exited (seconds : Nat) (status : ExitStatus)
  | never

def runnerDeadline : Nat := 40

/-- `tokio::time::timeout(deadline, child.wait()).await`: `none` is `Err(Elapsed)`, when `wait`
has not resolved before the deadline. -/
def timeout (deadline : Nat) (wait : Wait) : Option (Except String ExitStatus) :=
  match wait with
  | .failed seconds error => if seconds < deadline then some (.error error) else none
  | .exited seconds status => if seconds < deadline then some (.ok status) else none
  | .never => none

/-- What the calls of one `request_span_proof` execution return:
`SP1KonaDataFetcher::get_host_cli_args(start, end, ProgramType::Multi)`, `fs::create_dir_all`,
the cargo metadata's target directory, the runner's `spawn` (the child to wait on),
`get_proof_stdin`, which reads the data directory, the SDK's key and `request_proof`. -/
structure SpanEnvironment where
  getHostCliArgs : Nat → Nat → Except String HostCli
  createDirAll : String → Except String Unit
  cargoMetadata : Except String String
  spawn : Except String Wait
  getProofStdin : HostCli → Except String SP1Stdin
  key : NetworkKey
  requestProof : ProofRequest → Except String String

def timedOutMessage : String := "Native host runner process timed out after 30 seconds"

/-- `match result { Ok(status) => status?, Err(_) => return Err(..) }` on the timed wait: the
exit status, which the handler then drops. -/
def runnerStatus (child : Wait) : Except Fault ExitStatus :=
  match timeout runnerDeadline child with
  | some status => anyhow status
  | none => .error (.error timedOutMessage)

def spanProofStdin (env : SpanEnvironment) (payload : SpanProofRequest) :
    Except Fault SP1Stdin := do
  let hostCli ← anyhow (env.getHostCliArgs payload.start payload.«end»)
  let dataDir ← unwrap hostCli.dataDir
  anyhow (env.createDirAll dataDir)
  let _targetDir ← expectOk env.cargoMetadata "Failed to get cargo metadata"
  let child ← anyhow env.spawn
  let _status ← runnerStatus child
  anyhow (env.getProofStdin hostCli)

/-- `request_span_proof`: a compressed proof of `MULTI_BLOCK_ELF`, of the stdin built above. -/
def requestSpanProof (env : SpanEnvironment) (payload : SpanProofRequest) :
    Reply ProofResponse :=
  dispatch env.requestProof ZkvmHost.multiBlockElf .compressed do
    let sp1Stdin ← spanProofStdin env payload
    networkProverNew env.key
    pure sp1Stdin

private theorem runnerStatus_eq_ok {child : Wait} {status : ExitStatus} :
    runnerStatus child = .ok status ↔
      ∃ seconds, child = .exited seconds status ∧ seconds < runnerDeadline := by
  cases child with
  | failed seconds error =>
    by_cases early : seconds < runnerDeadline <;> simp [runnerStatus, timeout, early]
  | exited seconds s =>
    by_cases early : seconds < runnerDeadline <;> simp [runnerStatus, timeout, early, and_assoc]
  | never => simp [runnerStatus, timeout]

structure Prepared (env : SpanEnvironment) (payload : SpanProofRequest) (hostCli : HostCli) :
    Prop where
  args : env.getHostCliArgs payload.start payload.«end» = .ok hostCli
  dataDir : ∃ dir, hostCli.dataDir = some dir ∧ env.createDirAll dir = .ok ()
  metadata : ∃ targetDir, env.cargoMetadata = .ok targetDir

private theorem spanProofStdin_eq_ok {env : SpanEnvironment} {payload : SpanProofRequest}
    {stdin : SP1Stdin} :
    spanProofStdin env payload = .ok stdin ↔
      ∃ hostCli seconds status, Prepared env payload hostCli ∧
        env.spawn = .ok (.exited seconds status) ∧ seconds < runnerDeadline ∧
        env.getProofStdin hostCli = .ok stdin := by
  simp only [spanProofStdin, bind_eq_ok, anyhow_eq_ok, unwrap_eq_ok, expectOk_eq_ok,
    runnerStatus_eq_ok]
  constructor
  · rintro ⟨hostCli, args, dir, dataDir, _, created, targetDir, metadata, child, spawned, status,
      ⟨seconds, rfl, early⟩, read⟩
    exact ⟨hostCli, seconds, status,
      ⟨args, ⟨dir, dataDir, created⟩, ⟨targetDir, metadata⟩⟩, spawned, early, read⟩
  · rintro ⟨hostCli, seconds, status,
      ⟨args, ⟨dir, dataDir, created⟩, ⟨targetDir, metadata⟩⟩, spawned, early, read⟩
    exact ⟨hostCli, args, dir, dataDir, (), created, targetDir, metadata, _, spawned, status,
      ⟨seconds, rfl, early⟩, read⟩

/-- `request_span_proof` requests a compressed proof of `MULTI_BLOCK_ELF` exactly when the
preparation succeeded, the runner's `wait` returned an exit status before the 40-second deadline,
`get_proof_stdin` read the stdin, and `NetworkProver::new()` returned. The exit status is not
among the conditions. -/
theorem span_proof_request_ignores_exit_status (env : SpanEnvironment)
    (payload : SpanProofRequest) (stdin : SP1Stdin) :
    (requestSpanProof env payload).requests = [⟨ZkvmHost.multiBlockElf, stdin, .compressed⟩] ↔
      (∃ hostCli seconds status, Prepared env payload hostCli ∧
        env.spawn = .ok (.exited seconds status) ∧ seconds < runnerDeadline ∧
        env.getProofStdin hostCli = .ok stdin) ∧ networkProverNew env.key = .ok () := by
  rw [requestSpanProof, dispatch_requests, ← spanProofStdin_eq_ok]
  cases spanProofStdin env payload <;> cases networkProverNew env.key <;>
    simp [bind, Except.bind, pure, Except.pure, eq_comm]

def failedRunner : SpanEnvironment where
  getHostCliArgs _ _ := .ok ⟨some "data/1-5"⟩
  createDirAll _ := .ok ()
  cargoMetadata := .ok "target"
  spawn := .ok (.exited 5 ⟨some 1⟩)
  getProofStdin _ := .ok SP1Stdin.new
  key := ⟨some "key", fun _ => .ok ()⟩
  requestProof _ := .ok "proof-1"

theorem span_proof_requested_after_runner_failure :
    ExitStatus.success ⟨some 1⟩ = false ∧
      (requestSpanProof failedRunner ⟨1, 5⟩).requests =
        [⟨ZkvmHost.multiBlockElf, SP1Stdin.new, .compressed⟩] :=
  ⟨rfl, (span_proof_request_ignores_exit_status failedRunner ⟨1, 5⟩ SP1Stdin.new).2
    ⟨⟨⟨some "data/1-5"⟩, 5, ⟨some 1⟩, ⟨rfl, ⟨_, rfl, rfl⟩, ⟨_, rfl⟩⟩, rfl, by decide, rfl⟩,
      rfl⟩⟩

end OpSuccinct.Gateway.SpanProof
