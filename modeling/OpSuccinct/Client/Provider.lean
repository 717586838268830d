/- OpSuccinct/Client/Provider
   digest: The provider's four per-number caches, `update_cache`, and the executor's runs. -/

import OpSuccinct.Client.Preimage

set_option autoImplicit false
set_option relaxedAutoImplicit false

namespace OpSuccinct.Client.Provider

open OpSuccinct.Primitives OpSuccinct.Client.Preimage

structure Caches (lib : Lib) where
  headerByNumber : Cache Header
  l2BlockInfoByNumber : Cache lib.L2BlockInfo
  blockByNumber : Cache (OpBlock lib.Tx)
  systemConfigByNumber : Cache lib.SystemConfig

/-- `MultiblockOracleL2ChainProvider`. The boot info and the oracle are fixed for a run; only
the caches change. -/
structure MultiblockOracleL2ChainProvider (lib : Lib) where
  bootInfo : BootInfo lib
  oracle : Oracle
  caches : Caches lib

namespace MultiblockOracleL2ChainProvider

variable {lib : Lib}

def new (bootInfo : BootInfo lib) (oracle : Oracle) : MultiblockOracleL2ChainProvider lib :=
  ⟨bootInfo, oracle, ⟨.empty, .empty, .empty, .empty⟩⟩

@[simp] theorem new_bootInfo (bootInfo : BootInfo lib) (oracle : Oracle) :
    (new bootInfo oracle).bootInfo = bootInfo := rfl

/-- `update_cache`: insert the executed block's header, the block, its system config and its
block info under the header's number, and return the block info. The derivations are evaluated
between the inserts, so when one fails the `?` returns after the earlier inserts were made. -/
def updateCache (p : MultiblockOracleL2ChainProvider lib) (header : Header)
    (block : OpBlock lib.Tx) (config : lib.RollupConfig) :
    Except Fault lib.L2BlockInfo × MultiblockOracleL2ChainProvider lib :=
  let c := p.caches
  let c := { c with headerByNumber := c.headerByNumber.insert header.number header }
  let c := { c with blockByNumber := c.blockByNumber.insert header.number block }
  match lib.toSystemConfig block config with
  | .error e => (.error (.error e), { p with caches := c })
  | .ok systemConfig =>
    let c := { c with
      systemConfigByNumber := c.systemConfigByNumber.insert header.number systemConfig }
    match lib.fromBlockAndGenesis block (lib.genesis config) with
    | .error e => (.error (.error e), { p with caches := c })
    | .ok l2BlockInfo =>
      (.ok l2BlockInfo, { p with caches := { c with
        l2BlockInfoByNumber := c.l2BlockInfoByNumber.insert header.number l2BlockInfo } })

section UpdateCache

variable (p : MultiblockOracleL2ChainProvider lib) (header : Header) (block : OpBlock lib.Tx)
  (config : lib.RollupConfig)

@[simp] theorem updateCache_bootInfo :
    (p.updateCache header block config).2.bootInfo = p.bootInfo := by
  unfold updateCache
  cases lib.toSystemConfig block config <;>
    (try cases lib.fromBlockAndGenesis block (lib.genesis config)) <;> rfl

@[simp] theorem updateCache_oracle : (p.updateCache header block config).2.oracle = p.oracle := by
  unfold updateCache
  cases lib.toSystemConfig block config <;>
    (try cases lib.fromBlockAndGenesis block (lib.genesis config)) <;> rfl

theorem updateCache_of_systemConfig_error {e : String}
    (fails : lib.toSystemConfig block config = .error e) :
    p.updateCache header block config = (.error (.error e), { p with caches := { p.caches with
      headerByNumber := p.caches.headerByNumber.insert header.number header
      blockByNumber := p.caches.blockByNumber.insert header.number block } }) := by
  simp [updateCache, fails]

theorem updateCache_of_l2BlockInfo_error {systemConfig : lib.SystemConfig} {e : String}
    (derived : lib.toSystemConfig block config = .ok systemConfig)
    (fails : lib.fromBlockAndGenesis block (lib.genesis config) = .error e) :
    p.updateCache header block config = (.error (.error e), { p with caches := { p.caches with
      headerByNumber := p.caches.headerByNumber.insert header.number header
      blockByNumber := p.caches.blockByNumber.insert header.number block
      systemConfigByNumber :=
        p.caches.systemConfigByNumber.insert header.number systemConfig } }) := by
  simp [updateCache, derived, fails]

theorem updateCache_of_derives {systemConfig : lib.SystemConfig} {l2BlockInfo : lib.L2BlockInfo}
    (derived : lib.toSystemConfig block config = .ok systemConfig)
    (info : lib.fromBlockAndGenesis block (lib.genesis config) = .ok l2BlockInfo) :
    p.updateCache header block config = (.ok l2BlockInfo, { p with caches :=
      { headerByNumber := p.caches.headerByNumber.insert header.number header
        l2BlockInfoByNumber := p.caches.l2BlockInfoByNumber.insert header.number l2BlockInfo
        blockByNumber := p.caches.blockByNumber.insert header.number block
        systemConfigByNumber :=
          p.caches.systemConfigByNumber.insert header.number systemConfig } }) := by
  simp [updateCache, derived, info]

/-- A failing `to_system_config` makes `update_cache` return `Err` after it has already
written the new header and block under the header's number. -/
theorem update_cache_err_after_header_and_block_writes (e : String)
    (fails : lib.toSystemConfig block config = .error e) :
    (p.updateCache header block config).1 = .error (.error e) ∧
      (p.updateCache header block config).2.caches.headerByNumber header.number = some header ∧
      (p.updateCache header block config).2.caches.blockByNumber header.number = some block := by
  simp [updateCache_of_systemConfig_error _ _ _ _ fails]

end UpdateCache

structure Keeps (c' c : Caches lib) : Prop where
  headerByNumber : c'.headerByNumber.Extends c.headerByNumber
  l2BlockInfoByNumber : c'.l2BlockInfoByNumber.Extends c.l2BlockInfoByNumber
  blockByNumber : c'.blockByNumber.Extends c.blockByNumber
  systemConfigByNumber : c'.systemConfigByNumber.Extends c.systemConfigByNumber

theorem Keeps.refl (c : Caches lib) : Keeps c c :=
  ⟨.refl _, .refl _, .refl _, .refl _⟩

private theorem Keeps.trans {c'' c' c : Caches lib} (later : Keeps c'' c') (earlier : Keeps c' c) :
    Keeps c'' c :=
  ⟨later.1.trans earlier.1, later.2.trans earlier.2, later.3.trans earlier.3,
    later.4.trans earlier.4⟩

private theorem keeps_updateCache (p : MultiblockOracleL2ChainProvider lib) (header : Header)
    (block : OpBlock lib.Tx) (config : lib.RollupConfig) :
    Keeps (p.updateCache header block config).2.caches p.caches := by
  cases derived : lib.toSystemConfig block config with
  | error e =>
    rw [updateCache_of_systemConfig_error _ _ _ _ derived]
    exact ⟨Cache.extends_insert _ _ _, .refl _, Cache.extends_insert _ _ _, .refl _⟩
  | ok systemConfig =>
    cases info : lib.fromBlockAndGenesis block (lib.genesis config) with
    | error e =>
      rw [updateCache_of_l2BlockInfo_error _ _ _ _ derived info]
      exact ⟨Cache.extends_insert _ _ _, .refl _, Cache.extends_insert _ _ _,
        Cache.extends_insert _ _ _⟩
    | ok l2BlockInfo =>
      rw [updateCache_of_derives _ _ _ _ derived info]
      exact ⟨Cache.extends_insert _ _ _, Cache.extends_insert _ _ _, Cache.extends_insert _ _ _,
        Cache.extends_insert _ _ _⟩

/-- The executor's calls of `update_cache`, one after each executed block, each passed the
block's own header, the block and the boot's rollup config. A call that returns `Err` still
leaves its writes behind. -/
def executeBlocks (p : MultiblockOracleL2ChainProvider lib) :
    List (OpBlock lib.Tx) → MultiblockOracleL2ChainProvider lib
  | [] => p
  | block :: blocks =>
    executeBlocks (p.updateCache block.header block p.bootInfo.rollupConfig).2 blocks

@[simp] theorem executeBlocks_bootInfo (p : MultiblockOracleL2ChainProvider lib)
    (blocks : List (OpBlock lib.Tx)) : (p.executeBlocks blocks).bootInfo = p.bootInfo := by
  induction blocks generalizing p with
  | nil => rfl
  | cons block blocks ih => simp [executeBlocks, ih]

@[simp] theorem executeBlocks_oracle (p : MultiblockOracleL2ChainProvider lib)
    (blocks : List (OpBlock lib.Tx)) : (p.executeBlocks blocks).oracle = p.oracle := by
  induction blocks generalizing p with
  | nil => rfl
  | cons block blocks ih => simp [executeBlocks, ih]

/-- No run of the executor evicts: every number held by one of the four caches before a
sequence of `update_cache` calls, failing calls included, is still held by it after. -/
theorem update_cache_runs_never_evict (p : MultiblockOracleL2ChainProvider lib)
    (blocks : List (OpBlock lib.Tx)) : Keeps (p.executeBlocks blocks).caches p.caches := by
  induction blocks generalizing p with
  | nil => exact .refl _
  | cons block blocks ih =>
    exact (ih _).trans (keeps_updateCache p block.header block p.bootInfo.rollupConfig)

section Coherence

variable (config : lib.RollupConfig)

/-- The caches agree at block number `n`: the header cache holds the cached block's header,
and a cached system config or block info is the one derived from the cached block. -/
structure Coherent (c : Caches lib) (n : Nat) : Prop where
  header : c.headerByNumber n = (c.blockByNumber n).map OpBlock.header
  systemConfig : ∀ systemConfig, c.systemConfigByNumber n = some systemConfig →
    ∃ block, c.blockByNumber n = some block ∧ lib.toSystemConfig block config = .ok systemConfig
  l2BlockInfo : ∀ l2BlockInfo, c.l2BlockInfoByNumber n = some l2BlockInfo →
    ∃ block, c.blockByNumber n = some block ∧
      lib.fromBlockAndGenesis block (lib.genesis config) = .ok l2BlockInfo

def Blank (c : Caches lib) (n : Nat) : Prop :=
  c.headerByNumber n = none ∧ c.l2BlockInfoByNumber n = none ∧ c.blockByNumber n = none ∧
    c.systemConfigByNumber n = none

def SameAt (c c' : Caches lib) (n : Nat) : Prop :=
  c.headerByNumber n = c'.headerByNumber n ∧
    c.l2BlockInfoByNumber n = c'.l2BlockInfoByNumber n ∧ c.blockByNumber n = c'.blockByNumber n ∧
    c.systemConfigByNumber n = c'.systemConfigByNumber n

def Derives (block : OpBlock lib.Tx) : Prop :=
  (∃ systemConfig, lib.toSystemConfig block config = .ok systemConfig) ∧
    ∃ l2BlockInfo, lib.fromBlockAndGenesis block (lib.genesis config) = .ok l2BlockInfo

/-- After the first `update_cache` call for `n`, every later call for `n` returns `Ok`. -/
def LaterCallsDerive (n : Nat) : List (OpBlock lib.Tx) → Prop
  | [] => True
  | block :: blocks =>
    if block.header.number = n then
      ∀ later ∈ blocks, later.header.number = n → Derives config later
    else LaterCallsDerive n blocks

theorem updateCache_sameAt_of_ne (p : MultiblockOracleL2ChainProvider lib) (header : Header)
    (block : OpBlock lib.Tx) {n : Nat} (other : header.number ≠ n) :
    SameAt (p.updateCache header block config).2.caches p.caches n := by
  have skip : ∀ {α : Type} (c : Cache α) (v : α), c.insert header.number v n = c n :=
    fun c v => Cache.insert_of_ne c v (Ne.symm other)
  cases derived : lib.toSystemConfig block config with
  | error e => simp [SameAt, updateCache_of_systemConfig_error _ _ _ _ derived, skip]
  | ok systemConfig =>
    cases info : lib.fromBlockAndGenesis block (lib.genesis config) with
    | error e => simp [SameAt, updateCache_of_l2BlockInfo_error _ _ _ _ derived info, skip]
    | ok l2BlockInfo => simp [SameAt, updateCache_of_derives _ _ _ _ derived info, skip]

private theorem coherent_updateCache_self (p : MultiblockOracleL2ChainProvider lib)
    (block : OpBlock lib.Tx)
    (clean : Derives config block ∨ p.caches.systemConfigByNumber block.header.number = none ∧
      p.caches.l2BlockInfoByNumber block.header.number = none) :
    Coherent config (p.updateCache block.header block config).2.caches block.header.number := by
  cases derived : lib.toSystemConfig block config with
  | error e =>
    obtain ⟨⟨_, succeeds⟩, -⟩ | ⟨noSystemConfig, noL2BlockInfo⟩ := clean
    · simp [derived] at succeeds
    · rw [updateCache_of_systemConfig_error _ _ _ _ derived]
      exact ⟨by simp, by simp [noSystemConfig], by simp [noL2BlockInfo]⟩
  | ok systemConfig =>
    cases info : lib.fromBlockAndGenesis block (lib.genesis config) with
    | error e =>
      obtain ⟨-, ⟨_, succeeds⟩⟩ | ⟨-, noL2BlockInfo⟩ := clean
      · simp [info] at succeeds
      · rw [updateCache_of_l2BlockInfo_error _ _ _ _ derived info]
        exact ⟨by simp, by simp [derived], by simp [noL2BlockInfo]⟩
    | ok l2BlockInfo =>
      rw [updateCache_of_derives _ _ _ _ derived info]
      exact ⟨by simp, by simp [derived], by simp [info]⟩

variable {config}

private theorem Blank.coherent {c : Caches lib} {n : Nat} (blank : Blank c n) :
    Coherent config c n :=
  ⟨by simp [blank.1, blank.2.2.1], by simp [blank.2.2.2], by simp [blank.2.1]⟩

private theorem Blank.of_sameAt {c c' : Caches lib} {n : Nat} (same : SameAt c c' n)
    (blank : Blank c' n) : Blank c n := by
  obtain ⟨h, i, b, s⟩ := same
  exact ⟨h.trans blank.1, i.trans blank.2.1, b.trans blank.2.2.1, s.trans blank.2.2.2⟩

private theorem Coherent.of_sameAt {c c' : Caches lib} {n : Nat} (same : SameAt c c' n)
    (coherent : Coherent config c' n) : Coherent config c n := by
  obtain ⟨h, i, b, s⟩ := same
  refine ⟨by rw [h, b]; exact coherent.header, fun sc cached => ?_, fun bi cached => ?_⟩
  · rw [b]; exact coherent.systemConfig sc (s ▸ cached)
  · rw [b]; exact coherent.l2BlockInfo bi (i ▸ cached)

theorem blank_new (bootInfo : BootInfo lib) (oracle : Oracle) (n : Nat) :
    Blank (new bootInfo oracle).caches n :=
  ⟨rfl, rfl, rfl, rfl⟩

private theorem coherent_executeBlocks_of_derives (p : MultiblockOracleL2ChainProvider lib)
    {n : Nat} (blocks : List (OpBlock lib.Tx))
    (coherent : Coherent p.bootInfo.rollupConfig p.caches n)
    (succeed :
      ∀ block ∈ blocks, block.header.number = n → Derives p.bootInfo.rollupConfig block) :
    Coherent p.bootInfo.rollupConfig (p.executeBlocks blocks).caches n := by
  induction blocks generalizing p with
  | nil => exact coherent
  | cons block blocks ih =>
    have step : Coherent p.bootInfo.rollupConfig
        (p.updateCache block.header block p.bootInfo.rollupConfig).2.caches n := by
      by_cases same : block.header.number = n
      · subst same
        exact coherent_updateCache_self _ p block (.inl (succeed block (by simp) rfl))
      · exact coherent.of_sameAt (updateCache_sameAt_of_ne _ p block.header block same)
    simpa [executeBlocks] using ih (p.updateCache block.header block p.bootInfo.rollupConfig).2
      (by simpa using step) fun later member => by simpa using succeed later (by simp [member])

theorem coherent_executeBlocks (p : MultiblockOracleL2ChainProvider lib) {n : Nat}
    (blocks : List (OpBlock lib.Tx)) (blank : Blank p.caches n)
    (later : LaterCallsDerive p.bootInfo.rollupConfig n blocks) :
    Coherent p.bootInfo.rollupConfig (p.executeBlocks blocks).caches n := by
  induction blocks generalizing p with
  | nil => exact blank.coherent
  | cons block blocks ih =>
    simp only [LaterCallsDerive] at later
    split at later
    · rename_i same
      subst same
      have first : Coherent p.bootInfo.rollupConfig
          (p.updateCache block.header block p.bootInfo.rollupConfig).2.caches block.header.number :=
        coherent_updateCache_self _ p block (.inr ⟨blank.2.2.2, blank.2.1⟩)
      simpa [executeBlocks] using coherent_executeBlocks_of_derives
        (p.updateCache block.header block p.bootInfo.rollupConfig).2 blocks (by simpa using first)
        (by simpa using later)
    · rename_i other
      have still := blank.of_sameAt
        (updateCache_sameAt_of_ne p.bootInfo.rollupConfig p block.header block other)
      simpa [executeBlocks] using
        ih (p.updateCache block.header block p.bootInfo.rollupConfig).2 still (by simpa using later)

end Coherence

def sample (oracle : Oracle) : MultiblockOracleL2ChainProvider sampleLib :=
  new ⟨.ofByte 255, (0 : Nat)⟩ oracle

def emptyBlock : OpBlock sampleLib.Tx :=
  ⟨⟨.ofByte 0, .ofByte 0, 1, 0⟩, ⟨[], [], some [], none⟩⟩

theorem update_cache_err_on_empty_block :
    (sample (servingOracle [])).caches.headerByNumber 1 = none ∧
      (sample (servingOracle [])).caches.blockByNumber 1 = none ∧
      ((sample (servingOracle [])).updateCache emptyBlock.header emptyBlock (0 : Nat)).1 =
          .error (.error "empty block") ∧
        ((sample (servingOracle [])).updateCache emptyBlock.header emptyBlock
            (0 : Nat)).2.caches.headerByNumber emptyBlock.header.number = some emptyBlock.header ∧
        ((sample (servingOracle [])).updateCache emptyBlock.header emptyBlock
            (0 : Nat)).2.caches.blockByNumber emptyBlock.header.number = some emptyBlock :=
  ⟨rfl, rfl, update_cache_err_after_header_and_block_writes _ _ _ _ _ rfl⟩

end MultiblockOracleL2ChainProvider

end OpSuccinct.Client.Provider
