/- OpSuccinct/Client/Preimage
   digest: The preimage oracle, the external functions the client calls, and the trie reads. -/

import OpSuccinct.Primitives

set_option autoImplicit false
set_option relaxedAutoImplicit false

namespace OpSuccinct.Client.Preimage

open OpSuccinct.Primitives

inductive PreimageKeyType
  | «local» | keccak256 | globalGeneric | sha256 | blob | precompile
  deriving DecidableEq

structure PreimageKey where
  key : B256
  keyType : PreimageKeyType
  deriving DecidableEq

inductive HintType
  | l1BlockHeader | l1Transactions | l1Receipts | l1Blob | l1Precompile
  | l2BlockHeader | l2Transactions | l2Code | startingL2Output | l2StateNode
  | l2AccountProof | l2AccountStorageProof | l2Output
  deriving DecidableEq

structure Hint where
  hintType : HintType
  data : List Bytes
  deriving DecidableEq

def HintType.encodeWith (hintType : HintType) (data : List Bytes) : Hint := ⟨hintType, data⟩

/-- The preimage oracle client (`CommsClient`): a hint write and a preimage read. -/
structure Oracle where
  write : Hint → Except String Unit
  get : PreimageKey → Except String Bytes

def servingOracle (preimages : List (B256 × Bytes)) : Oracle :=
  ⟨fun _ => .ok (), fun key => match preimages.lookup key.key with
    | some bytes => .ok bytes
    | none => .error "preimage not found"⟩

@[simp] theorem servingOracle_write (preimages : List (B256 × Bytes)) (hint : Hint) :
    (servingOracle preimages).write hint = .ok () := rfl

theorem servingOracle_get_cons (key : B256) (bytes : Bytes) (rest : List (B256 × Bytes))
    (keyType : PreimageKeyType) :
    (servingOracle ((key, bytes) :: rest)).get ⟨key, keyType⟩ = .ok bytes := by
  simp [servingOracle, List.lookup]

/-- The functions of alloy, op-alloy and kona-mpt that the provider calls, none of them in this
repository. `orderedListLeaves source root` is `OrderedListWalker::try_new_hydrated` and its
iterator: the leaves of the ordered trie at `root`, read through `source`. -/
structure Lib where
  Tx : Type
  SystemConfig : Type
  L2BlockInfo : Type
  RollupConfig : Type
  ChainGenesis : Type
  genesis : RollupConfig → ChainGenesis
  isCanyonActive : RollupConfig → Nat → Bool
  decodeHeader : Bytes → Except String Header
  hashSlow : Header → B256
  orderedListLeaves : (B256 → Except Fault Bytes) → B256 → Except Fault (List Bytes)
  decode2718 : Bytes → Except String Tx
  toSystemConfig : OpBlock Tx → RollupConfig → Except String SystemConfig
  fromBlockAndGenesis : OpBlock Tx → ChainGenesis → Except String L2BlockInfo

structure BootInfo (lib : Lib) where
  l2OutputRoot : B256
  rollupConfig : lib.RollupConfig

section TrieProvider

variable (lib : Lib) (oracle : Oracle)

def trieNodePreimage (key : B256) : Except Fault Bytes :=
  anyhow (oracle.get ⟨key, .keccak256⟩)

def bytecodeByHash (hash : B256) : Except Fault Bytes := do
  anyhow (oracle.write (HintType.l2Code.encodeWith [hash.bytes]))
  anyhow (oracle.get ⟨hash, .keccak256⟩)

def headerByHash (hash : B256) : Except Fault Header := do
  anyhow (oracle.write (HintType.l2BlockHeader.encodeWith [hash.bytes]))
  let headerBytes ← anyhow (oracle.get ⟨hash, .keccak256⟩)
  (lib.decodeHeader headerBytes).mapError fun e => .error s!"Failed to RLP decode Header: {e}"

def hintTrieNode (hash : B256) : Except Fault Unit :=
  anyhow (oracle.write (HintType.l2StateNode.encodeWith [hash.bytes]))

def hintAccountProof (address : Address) (blockNumber : Nat) : Except Fault Unit :=
  anyhow (oracle.write
    (HintType.l2AccountProof.encodeWith [toBeBytes 8 blockNumber, address.bytes]))

def hintStorageProof (address : Address) (slot blockNumber : Nat) : Except Fault Unit :=
  anyhow (oracle.write (HintType.l2AccountStorageProof.encodeWith
    [toBeBytes 8 blockNumber, address.bytes, toBeBytes 32 slot]))

theorem headerByHash_eq_ok (hash : B256) (header : Header) :
    headerByHash lib oracle hash = .ok header ↔
      oracle.write (HintType.l2BlockHeader.encodeWith [hash.bytes]) = .ok () ∧
        ∃ headerBytes, oracle.get ⟨hash, .keccak256⟩ = .ok headerBytes ∧
          lib.decodeHeader headerBytes = .ok header := by
  simp [headerByHash, Unique.exists_iff]

end TrieProvider

/-- External functions for runs on small inputs: a header is three bytes (number, parent-hash
byte, transactions-root byte), and `to_system_config` fails on a block without transactions, as
op-alloy's does past genesis. -/
def sampleLib : Lib where
  Tx := Bytes
  SystemConfig := Nat
  L2BlockInfo := Nat
  RollupConfig := Nat
  ChainGenesis := Unit
  genesis := fun _ => ()
  isCanyonActive := fun canyonTime timestamp => canyonTime ≤ timestamp
  decodeHeader := fun
    | [number, parent, root] => .ok ⟨.ofByte parent, .ofByte root, number.toNat, 0⟩
    | _ => .error "unexpected length"
  hashSlow := fun header => .ofByte (UInt8.ofNat header.number)
  orderedListLeaves := fun source root => (source root).map fun leaf => [leaf]
  decode2718 := .ok
  toSystemConfig := fun block _ =>
    if block.body.transactions.isEmpty then .error "empty block" else .ok block.header.number
  fromBlockAndGenesis := fun block _ => .ok block.header.number

end OpSuccinct.Client.Preimage
