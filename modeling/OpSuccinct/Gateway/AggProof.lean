/- OpSuccinct/Gateway/AggProof
   digest: The two gateways' `request_agg_proof`: what they decode, and the PLONK request they
   send for any compressed sub-proofs, however their boot infos and headers line up. -/

import OpSuccinct.Gateway.Prover

set_option autoImplicit false
set_option relaxedAutoImplicit false

/-!
`request_agg_proof` deserializes each sub-proof, reads the boot info its public values commit to,
decodes the `0x`-prefixed L1 head, fetches the L1 headers for the boot infos, constructs the
network prover, takes the key of its server's `MULTI_BLOCK_ELF`, and passes all of it to
`get_agg_proof_stdin`, whose result it unwraps before requesting a PLONK proof of its server's
`AGG_ELF`. The two servers differ in their programs, in how they strip the head's `0x` (the
proposer's `expect` against the zkvm-host's `unwrap`) and in the header fetch (the proposer's
`OPSuccinctDataFetcher::get_header_preimages` against the zkvm-host's `fetch_header_preimages`).
Most decoding failures are `unwrap`s and `expect`s, so they panic. Nothing on the way compares
boot infos with each other or with the headers.
-/

namespace OpSuccinct.Gateway.AggProof

open OpSuccinct.Primitives OpSuccinct.Host.Stdin OpSuccinct.Gateway.Prover

namespace Proposer

end Proposer

namespace ZkvmHost

end ZkvmHost

end OpSuccinct.Gateway.AggProof
