/- OpSuccinct/Client/History
   digest: What each of the four caches holds after any run of `update_cache` calls, and what
   the number-keyed reads then serve. -/

import OpSuccinct.Client.Reads

set_option autoImplicit false
set_option relaxedAutoImplicit false

/-!
Each `update_cache` call writes the header and the block under the header's number, then the
system config if `to_system_config` succeeds, then the block info if `from_block_and_genesis`
also succeeds. A `HashMap::insert` overwrites, so after a run each cache at `n` holds the last
value any call wrote into it for `n`, and the entry from before the run when no call did. The
four caches can therefore hold values taken from different blocks.
-/

namespace OpSuccinct.Client.History

open OpSuccinct.Primitives OpSuccinct.Client.Preimage OpSuccinct.Client.Provider
open OpSuccinct.Client.HeaderWalk OpSuccinct.Client.Reads MultiblockOracleL2ChainProvider

variable {lib : Lib}

/-- What a call for `block` writes into one cache at `n`: `pick block` if the block is numbered
`n`, nothing otherwise. -/
def writeAt {α : Type} (pick : OpBlock lib.Tx → Option α) (n : Nat) (block : OpBlock lib.Tx) :
    Option α :=
  if block.header.number = n then pick block else none

/-- The last write that a run of calls, one per block, makes into one cache at `n`. -/
def lastWrite {α : Type} (pick : OpBlock lib.Tx → Option α) (n : Nat)
    (blocks : List (OpBlock lib.Tx)) : Option α :=
  (blocks.filterMap (writeAt pick n)).getLast?

def systemConfigWrite (config : lib.RollupConfig) (block : OpBlock lib.Tx) :
    Option lib.SystemConfig :=
  (lib.toSystemConfig block config).toOption

def l2BlockInfoWrite (config : lib.RollupConfig) (block : OpBlock lib.Tx) :
    Option lib.L2BlockInfo :=
  match lib.toSystemConfig block config with
  | .ok _ => (lib.fromBlockAndGenesis block (lib.genesis config)).toOption
  | .error _ => none

private theorem lastWrite_cons {α : Type} (pick : OpBlock lib.Tx → Option α) (n : Nat)
    (block : OpBlock lib.Tx) (blocks : List (OpBlock lib.Tx)) :
    lastWrite pick n (block :: blocks) = (lastWrite pick n blocks).or (writeAt pick n block) := by
  simp only [lastWrite, List.filterMap_cons]
  cases writeAt pick n block with
  | none => simp [Option.or_none]
  | some value =>
    rw [List.getLast?_cons]
    cases (blocks.filterMap (writeAt pick n)).getLast? <;> rfl

private theorem lastWrite_map {α β : Type} (pick : OpBlock lib.Tx → Option α) (f : α → β) (n : Nat)
    (blocks : List (OpBlock lib.Tx)) :
    lastWrite (fun block => (pick block).map f) n blocks = (lastWrite pick n blocks).map f := by
  induction blocks with
  | nil => rfl
  | cons block blocks ih =>
    rw [lastWrite_cons, lastWrite_cons, ih]
    by_cases same : block.header.number = n <;>
      cases lastWrite pick n blocks <;> simp [writeAt, same]

private theorem updateCache_caches_at (p : MultiblockOracleL2ChainProvider lib)
    (block : OpBlock lib.Tx) (config : lib.RollupConfig) (n : Nat) :
    (p.updateCache block.header block config).2.caches.headerByNumber n =
        (writeAt (fun block => some block.header) n block).or (p.caches.headerByNumber n) ∧
      (p.updateCache block.header block config).2.caches.blockByNumber n =
        (writeAt some n block).or (p.caches.blockByNumber n) ∧
      (p.updateCache block.header block config).2.caches.systemConfigByNumber n =
        (writeAt (systemConfigWrite config) n block).or (p.caches.systemConfigByNumber n) ∧
      (p.updateCache block.header block config).2.caches.l2BlockInfoByNumber n =
        (writeAt (l2BlockInfoWrite config) n block).or (p.caches.l2BlockInfoByNumber n) := by
  have insert : ∀ {α : Type} (c : Cache α) (pick : OpBlock lib.Tx → Option α) (v : α),
      pick block = some v →
        c.insert block.header.number v n = (writeAt pick n block).or (c n) := by
    intro α c pick v written
    simp only [Cache.insert, writeAt]
    by_cases same : block.header.number = n
    · simp [same, written]
    · simp [same, Ne.symm same]
  have unwritten : ∀ {α : Type} (c : Cache α) (pick : OpBlock lib.Tx → Option α),
      pick block = none → c n = (writeAt pick n block).or (c n) := by
    intro α c pick nothing
    by_cases same : block.header.number = n <;> simp [writeAt, same, nothing]
  cases derived : lib.toSystemConfig block config with
  | error e =>
    rw [updateCache_of_systemConfig_error _ _ _ _ derived]
    exact ⟨insert _ _ _ rfl, insert _ _ _ rfl,
      unwritten _ _ (by simp [systemConfigWrite, derived, Except.toOption]),
      unwritten _ _ (by simp [l2BlockInfoWrite, derived])⟩
  | ok systemConfig =>
    have configWrite : systemConfigWrite config block = some systemConfig := by
      simp [systemConfigWrite, derived, Except.toOption]
    cases info : lib.fromBlockAndGenesis block (lib.genesis config) with
    | error e =>
      rw [updateCache_of_l2BlockInfo_error _ _ _ _ derived info]
      exact ⟨insert _ _ _ rfl, insert _ _ _ rfl, insert _ _ _ configWrite,
        unwritten _ _ (by simp [l2BlockInfoWrite, derived, info, Except.toOption])⟩
    | ok l2BlockInfo =>
      have infoWrite : l2BlockInfoWrite config block = some l2BlockInfo := by
        simp [l2BlockInfoWrite, derived, info, Except.toOption]
      rw [updateCache_of_derives _ _ _ _ derived info]
      exact ⟨insert _ _ _ rfl, insert _ _ _ rfl, insert _ _ _ configWrite,
        insert _ _ _ infoWrite⟩

private theorem cache_after_run {α : Type} (select : Caches lib → Cache α)
    (pick : OpBlock lib.Tx → Option α) (config : lib.RollupConfig) (n : Nat)
    (step : ∀ (q : MultiblockOracleL2ChainProvider lib) (block : OpBlock lib.Tx),
      select (q.updateCache block.header block config).2.caches n =
        (writeAt pick n block).or (select q.caches n)) :
    ∀ (blocks : List (OpBlock lib.Tx)) (p : MultiblockOracleL2ChainProvider lib),
      p.bootInfo.rollupConfig = config →
        select (p.executeBlocks blocks).caches n = (lastWrite pick n blocks).or (select p.caches n)
  | [], _, _ => rfl
  | block :: blocks, p, configured => by
    have rest := cache_after_run select pick config n step blocks
      (p.updateCache block.header block p.bootInfo.rollupConfig).2 (by simpa using configured)
    rw [executeBlocks, rest, configured, step, lastWrite_cons, Option.or_assoc]

/-- After any run of the executor's `update_cache` calls, failing calls included, each cache at
every number `n` holds the last value the run wrote into it for `n`, or its entry from before the
run if no call did: the last block executed for `n` and its header, the system config of the
last block for `n` whose `to_system_config` succeeded, and the block info of the last block for
`n` on which both derivations succeeded. -/
theorem caches_after_executed_blocks (p : MultiblockOracleL2ChainProvider lib)
    (blocks : List (OpBlock lib.Tx)) (n : Nat) :
    (p.executeBlocks blocks).caches.headerByNumber n =
        (lastWrite (fun block => some block.header) n blocks).or (p.caches.headerByNumber n) ∧
      (p.executeBlocks blocks).caches.blockByNumber n =
        (lastWrite some n blocks).or (p.caches.blockByNumber n) ∧
      (p.executeBlocks blocks).caches.systemConfigByNumber n =
        (lastWrite (systemConfigWrite p.bootInfo.rollupConfig) n blocks).or
          (p.caches.systemConfigByNumber n) ∧
      (p.executeBlocks blocks).caches.l2BlockInfoByNumber n =
        (lastWrite (l2BlockInfoWrite p.bootInfo.rollupConfig) n blocks).or
          (p.caches.l2BlockInfoByNumber n) :=
  let step q block := updateCache_caches_at q block p.bootInfo.rollupConfig n
  ⟨cache_after_run _ _ _ n (fun q block => (step q block).1) blocks p rfl,
    cache_after_run _ _ _ n (fun q block => (step q block).2.1) blocks p rfl,
    cache_after_run _ _ _ n (fun q block => (step q block).2.2.1) blocks p rfl,
    cache_after_run _ _ _ n (fun q block => (step q block).2.2.2) blocks p rfl⟩

/-- After any run from `new`, a number that some call executed is answered from the caches,
whatever the fuel and the oracle: `block_by_number` and `header_by_number` return the last block
executed for it and that block's header, while `system_config_by_number` (with the boot's rollup
config) and `l2_block_info_by_number` return the last derivation a call wrote for it, which may
come from an earlier block, and derive from the served block only when no call wrote one. -/
theorem reads_after_executed_blocks (bootInfo : BootInfo lib) (oracle : Oracle)
    (blocks : List (OpBlock lib.Tx)) (n : Nat) (block : OpBlock lib.Tx)
    (executed : lastWrite some n blocks = some block) (fuel : Nat) :
    blockByNumber fuel ((new bootInfo oracle).executeBlocks blocks) n = some (.ok block) ∧
      headerByNumber fuel ((new bootInfo oracle).executeBlocks blocks) n =
        some (.ok block.header) ∧
      systemConfigByNumber fuel ((new bootInfo oracle).executeBlocks blocks) n
          bootInfo.rollupConfig =
        some (match lastWrite (systemConfigWrite bootInfo.rollupConfig) n blocks with
          | some systemConfig => .ok systemConfig
          | none => anyhow (lib.toSystemConfig block bootInfo.rollupConfig)) ∧
      l2BlockInfoByNumber fuel ((new bootInfo oracle).executeBlocks blocks) n =
        some (match lastWrite (l2BlockInfoWrite bootInfo.rollupConfig) n blocks with
          | some l2BlockInfo => .ok l2BlockInfo
          | none =>
            anyhow (lib.fromBlockAndGenesis block (lib.genesis bootInfo.rollupConfig))) := by
  have fresh : (new bootInfo oracle).caches = ⟨.empty, .empty, .empty, .empty⟩ := rfl
  let step q block := updateCache_caches_at q block bootInfo.rollupConfig n
  have run := fun {α : Type} (select : Caches lib → Cache α) pick step =>
    cache_after_run select pick bootInfo.rollupConfig n step blocks (new bootInfo oracle) rfl
  have header := run _ _ fun q block => (step q block).1
  have cached := run _ _ fun q block => (step q block).2.1
  have systemConfig := run _ _ fun q block => (step q block).2.2.1
  have l2BlockInfo := run _ _ fun q block => (step q block).2.2.2
  simp only [fresh, Cache.empty_apply, Option.or_none] at header cached systemConfig l2BlockInfo
  have headerWritten : lastWrite (fun block => some block.header) n blocks = some block.header := by
    simpa [executed] using lastWrite_map some OpBlock.header n blocks
  have served : blockByNumber fuel ((new bootInfo oracle).executeBlocks blocks) n =
      some (.ok block) := by
    simp [blockByNumber, cached, executed]
  refine ⟨served, by simp [headerByNumber, header, headerWritten], ?_, ?_⟩
  · cases written : lastWrite (systemConfigWrite bootInfo.rollupConfig) n blocks <;>
      simp [systemConfigByNumber, systemConfig, written, served, Except.bind]
  · cases written : lastWrite (l2BlockInfoWrite bootInfo.rollupConfig) n blocks <;>
      simp [l2BlockInfoByNumber, l2BlockInfo, written, served, Except.bind]

theorem reads_after_one_tx_block_then_empty_block :
    blockByNumber 0 ((sample (servingOracle [])).executeBlocks [oneTxBlock, emptyBlock]) 1 =
        some (.ok emptyBlock) ∧
      headerByNumber 0 ((sample (servingOracle [])).executeBlocks [oneTxBlock, emptyBlock]) 1 =
        some (.ok emptyBlock.header) ∧
      systemConfigByNumber 0 ((sample (servingOracle [])).executeBlocks [oneTxBlock, emptyBlock])
          1 (0 : Nat) = some (.ok (1 : Nat)) ∧
      l2BlockInfoByNumber 0 ((sample (servingOracle [])).executeBlocks [oneTxBlock, emptyBlock])
          1 = some (.ok (1 : Nat)) :=
  reads_after_executed_blocks _ _ [oneTxBlock, emptyBlock] 1 emptyBlock rfl 0

private theorem reads_of_sameAt {p q : MultiblockOracleL2ChainProvider lib} {n : Nat}
    (sameBoot : q.bootInfo = p.bootInfo) (sameOracle : q.oracle = p.oracle)
    (same : SameAt q.caches p.caches n) (fuel : Nat) (rollupConfig : lib.RollupConfig) :
    blockByNumber fuel q n = blockByNumber fuel p n ∧
      headerByNumber fuel q n = headerByNumber fuel p n ∧
      systemConfigByNumber fuel q n rollupConfig = systemConfigByNumber fuel p n rollupConfig ∧
      l2BlockInfoByNumber fuel q n = l2BlockInfoByNumber fuel p n := by
  obtain ⟨bootInfo, oracle, c⟩ := q
  obtain ⟨_, _, c'⟩ := p
  subst sameBoot sameOracle
  obtain ⟨header, l2BlockInfo, block, systemConfig⟩ := same
  dsimp only at header l2BlockInfo block systemConfig
  have headers : headerByNumber fuel ⟨bootInfo, oracle, c⟩ n =
      headerByNumber fuel ⟨bootInfo, oracle, c'⟩ n := by
    simp only [headerByNumber, header]
    rfl
  have blocks : blockByNumber fuel ⟨bootInfo, oracle, c⟩ n =
      blockByNumber fuel ⟨bootInfo, oracle, c'⟩ n := by
    simp only [blockByNumber, block, headers]
    rfl
  exact ⟨blocks, headers, by simp only [systemConfigByNumber, systemConfig, blocks],
    by simp only [l2BlockInfoByNumber, l2BlockInfo, blocks]⟩

private theorem sameAt_executeBlocks (n : Nat) :
    ∀ (p : MultiblockOracleL2ChainProvider lib) (blocks : List (OpBlock lib.Tx)),
      (∀ block ∈ blocks, block.header.number ≠ n) →
        SameAt (p.executeBlocks blocks).caches p.caches n
  | _, [], _ => ⟨rfl, rfl, rfl, rfl⟩
  | p, block :: blocks, unexecuted => by
    obtain ⟨header, l2BlockInfo, cached, systemConfig⟩ := updateCache_sameAt_of_ne
      p.bootInfo.rollupConfig p block.header block (unexecuted block (.head _))
    obtain ⟨header', l2BlockInfo', cached', systemConfig'⟩ := sameAt_executeBlocks n _ blocks
      fun later executed => unexecuted later (.tail _ executed)
    exact ⟨header'.trans header, l2BlockInfo'.trans l2BlockInfo, cached'.trans cached,
      systemConfig'.trans systemConfig⟩

/-- A run changes the reads only at the numbers it executed: at a number no call was for, each
read answers after the run exactly as before it, with any fuel and rollup config, whether from a
cache entry from before the run or through the oracle. -/
theorem reads_unchanged_at_unexecuted_numbers (p : MultiblockOracleL2ChainProvider lib)
    (blocks : List (OpBlock lib.Tx)) (n : Nat)
    (unexecuted : ∀ block ∈ blocks, block.header.number ≠ n) (fuel : Nat)
    (rollupConfig : lib.RollupConfig) :
    blockByNumber fuel (p.executeBlocks blocks) n = blockByNumber fuel p n ∧
      headerByNumber fuel (p.executeBlocks blocks) n = headerByNumber fuel p n ∧
      systemConfigByNumber fuel (p.executeBlocks blocks) n rollupConfig =
        systemConfigByNumber fuel p n rollupConfig ∧
      l2BlockInfoByNumber fuel (p.executeBlocks blocks) n = l2BlockInfoByNumber fuel p n :=
  reads_of_sameAt (executeBlocks_bootInfo p blocks) (executeBlocks_oracle p blocks)
    (sameAt_executeBlocks n p blocks unexecuted) fuel rollupConfig

theorem reads_at_two_after_blocks_numbered_one :
    (∀ block ∈ [oneTxBlock, emptyBlock], block.header.number ≠ 2) ∧
      blockByNumber 3 ((sample (servingOracle [])).executeBlocks [oneTxBlock, emptyBlock]) 2 =
        blockByNumber 3 (sample (servingOracle [])) 2 ∧
      headerByNumber 3 ((sample (servingOracle [])).executeBlocks [oneTxBlock, emptyBlock]) 2 =
        headerByNumber 3 (sample (servingOracle [])) 2 ∧
      systemConfigByNumber 3 ((sample (servingOracle [])).executeBlocks [oneTxBlock, emptyBlock])
          2 (0 : Nat) = systemConfigByNumber 3 (sample (servingOracle [])) 2 (0 : Nat) ∧
      l2BlockInfoByNumber 3 ((sample (servingOracle [])).executeBlocks [oneTxBlock, emptyBlock])
          2 = l2BlockInfoByNumber 3 (sample (servingOracle [])) 2 :=
  have unexecuted : ∀ block ∈ [oneTxBlock, emptyBlock], block.header.number ≠ 2 := by
    simp [oneTxBlock, emptyBlock]
  ⟨unexecuted, reads_unchanged_at_unexecuted_numbers _ _ 2 unexecuted 3 (0 : Nat)⟩

end OpSuccinct.Client.History
