/- OpSuccinct/Host/Stdin
   digest: The SP1 proof and stdin types, and the span and aggregation stdins the host builds. -/

import OpSuccinct.Host.Run

set_option autoImplicit false
set_option relaxedAutoImplicit false

namespace OpSuccinct.Host.Stdin

open OpSuccinct.Primitives OpSuccinct.Client.Preimage OpSuccinct.Host.Run

inductive SP1Proof
  | core (shards : Bytes)
  | compressed (proof : Bytes)
  | plonk (proof : Bytes)
  | groth16 (proof : Bytes)
  deriving DecidableEq

structure BootInfoStruct where
  l1Head : B256
  l2PreRoot : B256
  l2PostRoot : B256
  l2BlockNumber : Nat
  chainId : Nat
  deriving DecidableEq

structure AggregationInputs where
  bootInfos : List BootInfoStruct
  latestL1CheckpointHead : B256
  multiBlockVkey : List UInt32
  deriving DecidableEq

/-- One value written into the stdin buffer, before its serialization: the rkyv archive of an
oracle, the aggregation inputs, or the L1 headers. -/
inductive StdinEntry
  | oracle (archive : Bytes)
  | aggregationInputs (inputs : AggregationInputs)
  | headers (headers : List Header)
  deriving DecidableEq

structure SP1Stdin where
  buffer : List StdinEntry
  proofs : List (Bytes × Bytes)
  deriving DecidableEq

namespace SP1Stdin

def new : SP1Stdin := ⟨[], []⟩

def write (stdin : SP1Stdin) (entry : StdinEntry) : SP1Stdin :=
  { stdin with buffer := stdin.buffer ++ [entry] }

end SP1Stdin

def getProofStdin (archive : InMemoryOracle → Except String Bytes) (oracle : InMemoryOracle) :
    Except Fault SP1Stdin := do
  let buffer ← anyhow (archive oracle)
  pure (SP1Stdin.new.write (.oracle buffer))

end OpSuccinct.Host.Stdin
