import OpSuccinct.Primitives
import OpSuccinct.Client.Preimage
import OpSuccinct.Client.Provider
import OpSuccinct.Client.HeaderWalk
import OpSuccinct.Client.Reads
import OpSuccinct.Client.History
import OpSuccinct.Client.Session
import OpSuccinct.Host.Run
import OpSuccinct.Host.Stdin
import OpSuccinct.Gateway.Prover
import OpSuccinct.Gateway.SpanProof
import OpSuccinct.Gateway.AggProof
