/- OpSuccinct/Client/Reads
   digest: `block_by_number`, `l2_block_info_by_number` and `system_config_by_number`, and how
   their cached answers agree with the derivations from the block they serve. -/

import OpSuccinct.Client.HeaderWalk

set_option autoImplicit false
set_option relaxedAutoImplicit false

namespace OpSuccinct.Client.Reads

open OpSuccinct.Primitives OpSuccinct.Client.Preimage OpSuccinct.Client.Provider
open OpSuccinct.Client.HeaderWalk MultiblockOracleL2ChainProvider

variable {lib : Lib}

/-- The rest of `block_by_number` once the header is known: the `l2-transactions` hint, the
transactions trie read through the provider itself, each leaf decoded, and the block assembled
with no ommers, withdrawals present and empty exactly when canyon is active at the header's
timestamp, and no requests. -/
def assembleBlock (p : MultiblockOracleL2ChainProvider lib) (header : Header) :
    Except Fault (OpBlock lib.Tx) := do
  let headerHash := lib.hashSlow header
  anyhow (p.oracle.write (HintType.l2Transactions.encodeWith [headerHash.bytes]))
  let leaves ← lib.orderedListLeaves (trieNodePreimage p.oracle) header.transactionsRoot
  let transactions ← leaves.mapM fun rlp =>
    (lib.decode2718 rlp).mapError fun e => Fault.error s!"Failed to decode TxEnvelope RLP: {e}"
  pure ⟨header, ⟨transactions, [],
    if lib.isCanyonActive p.bootInfo.rollupConfig header.timestamp then some [] else none,
    none⟩⟩

/-- `block_by_number`: the cached block, or the block assembled on the header found by
`header_by_number`. -/
def blockByNumber (fuel : Nat) (p : MultiblockOracleL2ChainProvider lib) (number : Nat) :
    Option (Except Fault (OpBlock lib.Tx)) :=
  match p.caches.blockByNumber number with
  | some block => some (.ok block)
  | none => (headerByNumber fuel p number).map fun header => header.bind (assembleBlock p)

def l2BlockInfoByNumber (fuel : Nat) (p : MultiblockOracleL2ChainProvider lib) (number : Nat) :
    Option (Except Fault lib.L2BlockInfo) :=
  match p.caches.l2BlockInfoByNumber number with
  | some l2BlockInfo => some (.ok l2BlockInfo)
  | none => (blockByNumber fuel p number).map fun block => block.bind fun block =>
      anyhow (lib.fromBlockAndGenesis block (lib.genesis p.bootInfo.rollupConfig))

/-- `system_config_by_number`: the cached system config, or the one derived from the block
with the rollup config passed in. -/
def systemConfigByNumber (fuel : Nat) (p : MultiblockOracleL2ChainProvider lib) (number : Nat)
    (rollupConfig : lib.RollupConfig) : Option (Except Fault lib.SystemConfig) :=
  match p.caches.systemConfigByNumber number with
  | some systemConfig => some (.ok systemConfig)
  | none => (blockByNumber fuel p number).map fun block => block.bind fun block =>
      anyhow (lib.toSystemConfig block rollupConfig)

private theorem assembleBlock_header {p : MultiblockOracleL2ChainProvider lib} {header : Header}
    {block : OpBlock lib.Tx} (assembled : assembleBlock p header = .ok block) :
    block.header = header := by
  simp only [assembleBlock, bind_eq_ok, pure_eq_ok] at assembled
  obtain ⟨-, -, -, -, -, -, rfl⟩ := assembled
  rfl

section Coherent

variable {fuel n : Nat} {p : MultiblockOracleL2ChainProvider lib}

private theorem headerByNumber_of_blockByNumber {config : lib.RollupConfig}
    (coherent : Coherent config p.caches n) {block : OpBlock lib.Tx}
    (served : blockByNumber fuel p n = some (.ok block)) :
    headerByNumber fuel p n = some (.ok block.header) := by
  have header := coherent.header
  unfold blockByNumber at served
  cases cached : p.caches.blockByNumber n with
  | some cachedBlock =>
    rw [cached] at served header
    cases served
    simp [headerByNumber, header]
  | none =>
    rw [cached] at served header
    obtain ⟨found, walked, assembled⟩ := Option.map_eq_some'.mp served
    cases found with
    | error e => cases assembled
    | ok h => rw [walked, assembleBlock_header assembled]

private theorem l2BlockInfoByNumber_of_coherent
    (coherent : Coherent p.bootInfo.rollupConfig p.caches n) :
    l2BlockInfoByNumber fuel p n = (blockByNumber fuel p n).map fun block => block.bind fun block =>
      anyhow (lib.fromBlockAndGenesis block (lib.genesis p.bootInfo.rollupConfig)) := by
  unfold l2BlockInfoByNumber
  cases cached : p.caches.l2BlockInfoByNumber n with
  | none => rfl
  | some l2BlockInfo =>
    obtain ⟨block, blockCached, derived⟩ := coherent.l2BlockInfo l2BlockInfo cached
    simp [blockByNumber, blockCached, derived, Except.bind]

private theorem systemConfigByNumber_of_coherent
    (coherent : Coherent p.bootInfo.rollupConfig p.caches n) :
    systemConfigByNumber fuel p n p.bootInfo.rollupConfig =
      (blockByNumber fuel p n).map fun block => block.bind fun block =>
        anyhow (lib.toSystemConfig block p.bootInfo.rollupConfig) := by
  unfold systemConfigByNumber
  cases cached : p.caches.systemConfigByNumber n with
  | none => rfl
  | some systemConfig =>
    obtain ⟨block, blockCached, derived⟩ := coherent.systemConfig systemConfig cached
    simp [blockByNumber, blockCached, derived, Except.bind]

end Coherent

/-- In every state the executor reaches from `new`, at every number `n` for which each
`update_cache` call after the first returned `Ok`: a block served for `n` carries the header
served for `n`, and the block info and system config served for `n` are the derivations from
the block served for `n` (errors and divergence included). -/
theorem reads_agree_after_executed_blocks (bootInfo : BootInfo lib) (oracle : Oracle)
    (blocks : List (OpBlock lib.Tx)) (n : Nat)
    (later : LaterCallsDerive bootInfo.rollupConfig n blocks) (fuel : Nat) :
    (∀ block,
      blockByNumber fuel ((new bootInfo oracle).executeBlocks blocks) n = some (.ok block) →
        headerByNumber fuel ((new bootInfo oracle).executeBlocks blocks) n =
          some (.ok block.header)) ∧
    l2BlockInfoByNumber fuel ((new bootInfo oracle).executeBlocks blocks) n =
      (blockByNumber fuel ((new bootInfo oracle).executeBlocks blocks) n).map (fun block =>
        block.bind fun block =>
          anyhow (lib.fromBlockAndGenesis block (lib.genesis bootInfo.rollupConfig))) ∧
    systemConfigByNumber fuel ((new bootInfo oracle).executeBlocks blocks) n bootInfo.rollupConfig =
      (blockByNumber fuel ((new bootInfo oracle).executeBlocks blocks) n).map fun block =>
        block.bind fun block => anyhow (lib.toSystemConfig block bootInfo.rollupConfig) := by
  have coherent : Coherent ((new bootInfo oracle).executeBlocks blocks).bootInfo.rollupConfig
      ((new bootInfo oracle).executeBlocks blocks).caches n := by
    simpa using coherent_executeBlocks (new bootInfo oracle) blocks (blank_new bootInfo oracle n)
      (by simpa using later)
  refine ⟨fun block served => headerByNumber_of_blockByNumber coherent served, ?_, ?_⟩
  · simpa using l2BlockInfoByNumber_of_coherent coherent
  · simpa using systemConfigByNumber_of_coherent coherent

def oneTxBlock : OpBlock sampleLib.Tx :=
  ⟨⟨.ofByte 0, .ofByte 0, 1, 0⟩, ⟨[[1]], [], some [], none⟩⟩

theorem reads_agree_after_failed_then_successful_update :
    LaterCallsDerive (0 : Nat) 1 [emptyBlock, oneTxBlock] ∧
      (∀ block,
        blockByNumber 0 ((sample (servingOracle [])).executeBlocks [emptyBlock, oneTxBlock]) 1 =
            some (.ok block) →
        headerByNumber 0 ((sample (servingOracle [])).executeBlocks [emptyBlock, oneTxBlock]) 1 =
          some (.ok block.header)) ∧
      l2BlockInfoByNumber 0 ((sample (servingOracle [])).executeBlocks [emptyBlock, oneTxBlock]) 1 =
        (blockByNumber 0 ((sample (servingOracle [])).executeBlocks [emptyBlock, oneTxBlock])
          1).map (fun block => block.bind fun block =>
            anyhow (sampleLib.fromBlockAndGenesis block (sampleLib.genesis (0 : Nat)))) ∧
      systemConfigByNumber 0 ((sample (servingOracle [])).executeBlocks [emptyBlock, oneTxBlock]) 1
          (0 : Nat) =
        (blockByNumber 0 ((sample (servingOracle [])).executeBlocks [emptyBlock, oneTxBlock])
          1).map fun block => block.bind fun block =>
            anyhow (sampleLib.toSystemConfig block (0 : Nat)) := by
  have later : LaterCallsDerive (0 : Nat) 1 [emptyBlock, oneTxBlock] := by
    rw [LaterCallsDerive, if_pos (show emptyBlock.header.number = 1 from rfl)]
    rintro _ (_ | ⟨_, ⟨⟩⟩) -
    exact ⟨⟨_, rfl⟩, ⟨_, rfl⟩⟩
  exact ⟨later, reads_agree_after_executed_blocks _ _ [emptyBlock, oneTxBlock] 1 later 0⟩

/-- Before any block is executed, `header_by_number` finds the safe head of the two-block chain
while `block_by_number` fails on the missing transactions trie. -/
theorem header_served_while_block_read_fails :
    headerByNumber 1 (sample twoBlockChain) 2 = some (.ok ⟨.ofByte 1, .ofByte 0, 2, 0⟩) ∧
      blockByNumber 1 (sample twoBlockChain) 2 = some (.error (.error "preimage not found")) := by
  have header :
      headerByNumber 1 (sample twoBlockChain) 2 = some (.ok ⟨.ofByte 1, .ofByte 0, 2, 0⟩) := by
    rw [headerByNumber_of_safeHead rfl safeHead_twoBlockChain]
    rfl
  refine ⟨header, ?_⟩
  simp only [blockByNumber, header]
  rfl

end OpSuccinct.Client.Reads
