/- OpSuccinct/Gateway/Prover
   digest: The programs the gateways embed, the network prover's construction and proof
   requests, and what a handler sends and answers. -/

import OpSuccinct.Host.Stdin

set_option autoImplicit false
set_option relaxedAutoImplicit false

/-!
Both gateways (the `zkvm-host` server and the succinct proposer's server) route
`request_span_proof` and `request_agg_proof` to handlers that build an `SP1Stdin`, construct a
`NetworkProver` and call its `request_proof` once. Each server embeds its own two programs with
`include_bytes!`. What a handler does, seen from outside, is the list of proof requests it sent
and its result; `AppError::into_response` answers an error with status 500 and its text, and a
panic unwinds the connection's task without an answer.
-/

namespace OpSuccinct.Gateway.Prover

open OpSuccinct.Primitives OpSuccinct.Host.Stdin

inductive ProofMode
  | core
  | compressed
  | plonk
  | groth16
  deriving DecidableEq

/-- The program files the servers embed: the zkvm-host's `validity-client-elf` and
`aggregation-client-elf`, and the proposer's `range-elf` and `aggregation-elf`. -/
inductive Elf
  | validityClient
  | aggregationClient
  | range
  | aggregation
  deriving DecidableEq

namespace ZkvmHost

def multiBlockElf : Elf := .validityClient

end ZkvmHost

namespace Proposer

def multiBlockElf : Elf := .range

end Proposer

structure SP1ProofWithPublicValues where
  proof : SP1Proof
  publicValues : Bytes
  deriving DecidableEq

structure ProofRequest where
  elf : Elf
  stdin : SP1Stdin
  mode : ProofMode
  deriving DecidableEq

structure ProofResponse where
  proofId : String
  deriving DecidableEq

structure Reply (α : Type) where
  requests : List ProofRequest
  response : Except Fault α

/-- What the SDK reads when it builds a network client: `SP1_PRIVATE_KEY`, and whether its signer
parses a key. `env::var` of the key fails with the text of `VarError::NotPresent`, and
`NetworkClient::new` unwraps the parse. -/
structure NetworkKey where
  sp1PrivateKey : Option String
  parseKey : String → Except String Unit

def NetworkKey.var (key : NetworkKey) : Except String String :=
  match key.sp1PrivateKey with
  | some privateKey => .ok privateKey
  | none => .error "environment variable not found"

def networkClientNew (key : NetworkKey) (privateKey : String) : Except Fault Unit :=
  unwrapResult (key.parseKey privateKey)

/-- `NetworkProver::new()`: the SDK panics when `SP1_PRIVATE_KEY` is unset, and otherwise builds
the client for it. -/
def networkProverNew (key : NetworkKey) : Except Fault Unit := do
  let privateKey ← expectSome key.sp1PrivateKey "SP1_PRIVATE_KEY must be set for remote proving"
  networkClientNew key privateKey

/-- The common tail of the proof handlers: `request_proof(elf, sp1_stdin, mode).await?` once the
stdin is built and the prover constructed, then `Ok((StatusCode::OK, Json(ProofResponse {
proof_id })))`. A handler that returned or panicked before has sent nothing. -/
def dispatch (requestProof : ProofRequest → Except String String) (elf : Elf)
    (mode : ProofMode) : Except Fault SP1Stdin → Reply ProofResponse
  | .ok stdin =>
    let request := ⟨elf, stdin, mode⟩
    ⟨[request], ProofResponse.mk <$> anyhow (requestProof request)⟩
  | .error fault => ⟨[], .error fault⟩

theorem dispatch_requests (requestProof : ProofRequest → Except String String) (elf : Elf)
    (mode : ProofMode) (built : Except Fault SP1Stdin) :
    (dispatch requestProof elf mode built).requests =
      match built with
      | .ok stdin => [⟨elf, stdin, mode⟩]
      | .error _ => [] := by
  cases built <;> rfl

@[simp] theorem dispatch_error (requestProof : ProofRequest → Except String String) (elf : Elf)
    (mode : ProofMode) (fault : Fault) :
    dispatch requestProof elf mode (.error fault) = ⟨[], .error fault⟩ := rfl

inductive Answer
  | json (status : Nat) (body : ProofResponse)
  | text (status : Nat) (body : String)
  | closed
  deriving DecidableEq

/-- How axum answers a handler's result: `StatusCode::OK` with the JSON body,
`AppError::into_response`, `(StatusCode::INTERNAL_SERVER_ERROR, format!("{}", self.0))`, and no
response at all once the handler panicked. -/
def answer : Except Fault ProofResponse → Answer
  | .ok response => .json 200 response
  | .error (.error msg) => .text 500 msg
  | .error (.panic _) => .closed

inductive SP1ProofStatus
  | proofUnspecifiedStatus
  | proofPreparing
  | proofRequested
  | proofClaimed
  | proofUnclaimed
  | proofFulfilled
  deriving DecidableEq

structure ProofStatus where
  status : String
  proof : Bytes
  deriving DecidableEq

/-- What the calls of one `get_proof_status` execution return. `getProofStatus` is the client's
call under the 10-second timeout (`none` when it elapsed), `serialize` is `bincode::serialize`,
and `bytes` gives the proof's on-chain bytes or the text of its panic. -/
structure StatusEnvironment where
  key : NetworkKey
  getProofStatus :
    String → String → Option (Except String (Int × Option SP1ProofWithPublicValues))
  tryFrom : Int → Except String SP1ProofStatus
  asStrName : SP1ProofStatus → String
  serialize : SP1ProofWithPublicValues → Except String Bytes
  bytes : SP1ProofWithPublicValues → Except String Bytes

def statusResponse :
    Option (Except String (Int × Option SP1ProofWithPublicValues)) →
      Except Fault (Int × Option SP1ProofWithPublicValues)
  | none => .error (.error "Proof status request timed out")
  | some (.error e) => .error (.error s!"Failed to get proof status: {e}")
  | some (.ok response) => .ok response

/-- `get_proof_status`, the same in both gateways: the status's name, with the proof's bytes once
it is fulfilled as a compressed proof (the whole proof, re-serialized) or a PLONK proof (the
on-chain bytes). The source's `_ => ()` arm falls through to the final answer with no bytes. -/
def getProofStatus (env : StatusEnvironment) (proofId : String) : Except Fault ProofStatus := do
  let privateKey ← anyhow env.key.var
  networkClientNew env.key privateKey
  let (code, maybeProof) ← statusResponse (env.getProofStatus privateKey proofId)
  let status ← anyhow (env.tryFrom code)
  if status = .proofFulfilled then
    let proof ← unwrap maybeProof
    match proof.proof with
    | .compressed _ =>
      let proofBytes ← unwrapResult (env.serialize proof)
      pure ⟨env.asStrName status, proofBytes⟩
    | .plonk _ =>
      let proofBytes ← (env.bytes proof).mapError Fault.panic
      pure ⟨env.asStrName status, proofBytes⟩
    | _ => pure ⟨env.asStrName status, []⟩
  else pure ⟨env.asStrName status, []⟩

end OpSuccinct.Gateway.Prover
