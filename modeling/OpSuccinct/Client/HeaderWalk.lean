/- OpSuccinct/Client/HeaderWalk
   digest: `header_by_number`: the walk back from the safe head, what it returns, and when it
   never returns. -/

import OpSuccinct.Client.Provider

set_option autoImplicit false
set_option relaxedAutoImplicit false

/-!
A number missing from the header cache is found by reading the starting output preimage, taking
the safe head's hash from its bytes 96..128, and following parent hashes through
`header_by_hash` while the header in hand is numbered above the target. Nothing checks the
numbers along the way: the loop stops at the first header at or below the target, which is the
target only on a chain whose numbers fall by one, and it never stops on a chain that stays above
the target. The loop is run with fuel, one iteration per unit; `none` means the fuel ran out.
-/

namespace OpSuccinct.Client.HeaderWalk

open OpSuccinct.Primitives OpSuccinct.Client.Preimage OpSuccinct.Client.Provider
open MultiblockOracleL2ChainProvider

variable {lib : Lib}

/-- `output_preimage[96..128].try_into()`. The slice panics on a preimage shorter than 128
bytes; `try_into` of the 32-byte slice then always succeeds, so the `map_err` after it is never
reached. -/
def blockHashOfOutput (outputPreimage : Bytes) : Except Fault B256 :=
  if long : 128 ≤ outputPreimage.length then
    .ok ⟨(outputPreimage.drop 96).take 32, by simp; omega⟩
  else
    .error (.panic
      s!"range end index 128 out of range for slice of length {outputPreimage.length}")

/-- The steps of `header_by_number` before its loop: the `starting-l2-output` hint, the output
preimage of the agreed output root, and the header whose hash that preimage holds. -/
def safeHead (p : MultiblockOracleL2ChainProvider lib) : Except Fault Header := do
  anyhow (p.oracle.write (HintType.startingL2Output.encodeWith [p.bootInfo.l2OutputRoot.bytes]))
  let outputPreimage ← anyhow (p.oracle.get ⟨p.bootInfo.l2OutputRoot, .keccak256⟩)
  let blockHash ← blockHashOfOutput outputPreimage
  headerByHash lib p.oracle blockHash

private theorem safeHead_of_output {p : MultiblockOracleL2ChainProvider lib}
    {outputPreimage : Bytes}
    (hinted : p.oracle.write
      (HintType.startingL2Output.encodeWith [p.bootInfo.l2OutputRoot.bytes]) = .ok ())
    (served : p.oracle.get ⟨p.bootInfo.l2OutputRoot, .keccak256⟩ = .ok outputPreimage) :
    safeHead p = (blockHashOfOutput outputPreimage).bind (headerByHash lib p.oracle) := by
  simp [safeHead, hinted, served, bind, Except.bind]

/-- `while header.number > block_number { header = self.header_by_hash(header.parent_hash)? }`,
one iteration per unit of fuel. -/
def walkBack (lookup : B256 → Except Fault Header) (blockNumber : Nat) :
    Nat → Header → Option (Except Fault Header)
  | 0, _ => none
  | fuel + 1, header =>
    if blockNumber < header.number then
      match lookup header.parentHash with
      | .ok parent => walkBack lookup blockNumber fuel parent
      | .error e => some (.error e)
    else some (.ok header)

/-- `header_by_number`: the cached header, or the walk back from the safe head. -/
def headerByNumber (fuel : Nat) (p : MultiblockOracleL2ChainProvider lib) (blockNumber : Nat) :
    Option (Except Fault Header) :=
  match p.caches.headerByNumber blockNumber with
  | some header => some (.ok header)
  | none =>
    match safeHead p with
    | .error e => some (.error e)
    | .ok header =>
      if header.number < blockNumber then some (.error (.error "Block number past L2 head."))
      else walkBack (headerByHash lib p.oracle) blockNumber fuel header

/-- `header_by_number` returns nothing, with any fuel. -/
def Diverges (p : MultiblockOracleL2ChainProvider lib) (blockNumber : Nat) : Prop :=
  ¬ ∃ fuel result, headerByNumber fuel p blockNumber = some result

/-- `Descent lookup n header k last`: `last` is reached from `header` by `k` parent lookups,
each made from a header numbered above `n`, as the loop makes them. -/
inductive Descent (lookup : B256 → Except Fault Header) (n : Nat) :
    Header → Nat → Header → Prop
  | here (header : Header) : Descent lookup n header 0 header
  | parent {header parent last : Header} {k : Nat} :
      n < header.number → lookup header.parentHash = .ok parent →
        Descent lookup n parent k last → Descent lookup n header (k + 1) last

/-- Along the walk from `header`, each successful parent lookup made from a header above `n`
returns the header numbered one below it. -/
def WellNumbered (lookup : B256 → Except Fault Header) (n : Nat) (header : Header) : Prop :=
  ∀ k visited, Descent lookup n header k visited → n < visited.number →
    ∀ parent, lookup visited.parentHash = .ok parent → parent.number + 1 = visited.number

section Walk

variable {lookup : B256 → Except Fault Header} {n : Nat}

private theorem walkBack_sound {fuel : Nat} {header last : Header}
    (returned : walkBack lookup n fuel header = some (.ok last)) :
    last.number ≤ n ∧ ∃ k < fuel, Descent lookup n header k last := by
  induction fuel generalizing header with
  | zero => simp [walkBack] at returned
  | succ fuel ih =>
    simp only [walkBack] at returned
    split at returned
    · rename_i above
      split at returned
      · rename_i parent found
        obtain ⟨below, k, fewer, descent⟩ := ih returned
        exact ⟨below, k + 1, by omega, .parent above found descent⟩
      · simp at returned
    · rename_i atOrBelow
      cases returned
      exact ⟨by omega, 0, by omega, .here _⟩

theorem WellNumbered.parent {header parent : Header} (wellNumbered : WellNumbered lookup n header)
    (above : n < header.number) (found : lookup header.parentHash = .ok parent) :
    WellNumbered lookup n parent :=
  fun k visited descent => wellNumbered (k + 1) visited (.parent above found descent)

private theorem walkBack_of_wellNumbered {header : Header} (atOrAbove : n ≤ header.number)
    (wellNumbered : WellNumbered lookup n header) :
    ∃ result, walkBack lookup n (header.number - n + 1) header = some result ∧
      ∀ last, result = .ok last → last.number = n ∧
        Descent lookup n header (header.number - n) last := by
  obtain ⟨distance, gap⟩ : ∃ distance, header.number - n = distance := ⟨_, rfl⟩
  induction distance generalizing header with
  | zero =>
    have target : header.number = n := by omega
    refine ⟨.ok header, by simp [walkBack, target], fun last returned => ?_⟩
    cases returned
    exact ⟨target, by simpa [gap] using Descent.here header⟩
  | succ d ih =>
    have above : n < header.number := by omega
    cases found : lookup header.parentHash with
    | error e =>
      exact ⟨.error e, by simp [walkBack, above, found], fun _ returned => by cases returned⟩
    | ok parent =>
      have step := wellNumbered 0 header (.here _) above parent found
      obtain ⟨result, walk, returns⟩ :=
        ih (by omega) (wellNumbered.parent above found) (by omega)
      refine ⟨result, by simpa [walkBack, above, found, gap, show parent.number - n = d by omega]
        using walk, fun last returned => ?_⟩
      obtain ⟨target, descent⟩ := returns last returned
      rw [gap]
      exact ⟨target,
        .parent above found (by rwa [show parent.number - n = d by omega] at descent)⟩

private theorem walkBack_none_of_closed (visited : Header → Prop)
    (closed : ∀ header, visited header →
      n < header.number ∧ ∃ parent, visited parent ∧ lookup header.parentHash = .ok parent) :
    ∀ fuel header, visited header → walkBack lookup n fuel header = none := by
  intro fuel
  induction fuel with
  | zero => intro _ _; rfl
  | succ fuel ih =>
    intro header member
    obtain ⟨above, parent, parentMember, found⟩ := closed header member
    simpa [walkBack, above, found] using ih parent parentMember

private theorem descent_succ_iff {header last : Header} {k : Nat} :
    Descent lookup n header (k + 1) last ↔
      n < header.number ∧ ∃ parent, lookup header.parentHash = .ok parent ∧
        Descent lookup n parent k last := by
  constructor
  · rintro (_ | ⟨above, found, rest⟩)
    exact ⟨above, _, found, rest⟩
  · rintro ⟨above, parent, found, rest⟩
    exact .parent above found rest

private theorem walkBack_eq_none_iff {fuel : Nat} {header : Header} :
    walkBack lookup n fuel header = none ↔ ∃ visited, Descent lookup n header fuel visited := by
  induction fuel generalizing header with
  | zero => exact ⟨fun _ => ⟨header, .here header⟩, fun _ => rfl⟩
  | succ fuel ih =>
    simp only [walkBack, descent_succ_iff]
    by_cases above : n < header.number
    · cases found : lookup header.parentHash with
      | error e => simp [above, found]
      | ok parent => simp [above, found, ih]
    · simp [above]

private theorem walkBack_of_descent {header last : Header} {k : Nat}
    (descent : Descent lookup n header k last) {fuel : Nat} (enough : k ≤ fuel) :
    walkBack lookup n fuel header = walkBack lookup n (fuel - k) last := by
  induction descent generalizing fuel with
  | here => rfl
  | parent above found rest ih =>
    obtain ⟨fuel, rfl⟩ : ∃ more, fuel = more + 1 := ⟨fuel - 1, by omega⟩
    simpa [walkBack, above, found] using ih (by omega)

private theorem walkBack_error_sound {fuel : Nat} {header : Header} {e : Fault}
    (failed : walkBack lookup n fuel header = some (.error e)) :
    ∃ k < fuel, ∃ visited, Descent lookup n header k visited ∧ n < visited.number ∧
      lookup visited.parentHash = .error e := by
  induction fuel generalizing header with
  | zero => simp [walkBack] at failed
  | succ fuel ih =>
    simp only [walkBack] at failed
    split at failed
    · rename_i above
      split at failed
      · rename_i parent found
        obtain ⟨k, fewer, visited, descent, visitedAbove, fails⟩ := ih failed
        exact ⟨k + 1, by omega, visited, .parent above found descent, visitedAbove, fails⟩
      · rename_i e' fails
        cases failed
        exact ⟨0, by omega, header, .here header, above, fails⟩
    · cases failed

private theorem walkBack_eq_ok_iff {fuel : Nat} {header last : Header} :
    walkBack lookup n fuel header = some (.ok last) ↔
      ∃ k < fuel, Descent lookup n header k last ∧ last.number ≤ n := by
  constructor
  · intro returned
    obtain ⟨below, k, fewer, descent⟩ := walkBack_sound returned
    exact ⟨k, fewer, descent, below⟩
  · rintro ⟨k, fewer, descent, below⟩
    rw [walkBack_of_descent descent fewer.le]
    obtain ⟨more, left⟩ : ∃ more, fuel - k = more + 1 := ⟨fuel - k - 1, by omega⟩
    simp [left, walkBack, show ¬ n < last.number by omega]

private theorem walkBack_eq_error_iff {fuel : Nat} {header : Header} {e : Fault} :
    walkBack lookup n fuel header = some (.error e) ↔
      ∃ k < fuel, ∃ visited, Descent lookup n header k visited ∧ n < visited.number ∧
        lookup visited.parentHash = .error e := by
  refine ⟨walkBack_error_sound, ?_⟩
  rintro ⟨k, fewer, visited, descent, above, fails⟩
  rw [walkBack_of_descent descent fewer.le]
  obtain ⟨more, left⟩ : ∃ more, fuel - k = more + 1 := ⟨fuel - k - 1, by omega⟩
  simp [left, walkBack, above, fails]

end Walk

theorem headerByNumber_of_safeHead {p : MultiblockOracleL2ChainProvider lib} {n : Nat}
    (uncached : p.caches.headerByNumber n = none) {safe : Header}
    (anchored : safeHead p = .ok safe) (fuel : Nat) :
    headerByNumber fuel p n =
      if safe.number < n then some (.error (.error "Block number past L2 head."))
      else walkBack (headerByHash lib p.oracle) n fuel safe := by
  simp [headerByNumber, uncached, anchored]

/-- `header_by_number` on a number missing from the header cache, once the safe head is read:
past the safe head it fails at once, whatever the fuel; a returned header lies at or below the
target and is reached from the safe head by parent lookups through headers above the target,
fewer than the fuel; and on a parent chain whose numbers fall by one it returns within
`safe.number - n` lookups, a returned header being the target reached by exactly that many. -/
theorem header_by_number_walks_from_safe_head (p : MultiblockOracleL2ChainProvider lib)
    (n : Nat) (uncached : p.caches.headerByNumber n = none) (safe : Header)
    (anchored : safeHead p = .ok safe) :
    (safe.number < n →
      ∀ fuel, headerByNumber fuel p n = some (.error (.error "Block number past L2 head."))) ∧
    (∀ fuel last, headerByNumber fuel p n = some (.ok last) →
      last.number ≤ n ∧ ∃ k < fuel, Descent (headerByHash lib p.oracle) n safe k last) ∧
    (n ≤ safe.number → WellNumbered (headerByHash lib p.oracle) n safe →
      ∃ result, headerByNumber (safe.number - n + 1) p n = some result ∧
        ∀ last, result = .ok last → last.number = n ∧
          Descent (headerByHash lib p.oracle) n safe (safe.number - n) last) := by
  refine ⟨fun past fuel => by simp [headerByNumber_of_safeHead uncached anchored, past],
    fun fuel last returned => ?_, fun atOrAbove wellNumbered => ?_⟩
  · rw [headerByNumber_of_safeHead uncached anchored] at returned
    split at returned
    · simp at returned
    · exact walkBack_sound returned
  · rw [headerByNumber_of_safeHead uncached anchored, if_neg (by omega)]
    exact walkBack_of_wellNumbered atOrAbove wellNumbered

def outputPreimage (blockHash : B256) : Bytes := List.replicate 96 0 ++ blockHash.bytes

private theorem blockHashOfOutput_outputPreimage (blockHash : B256) :
    blockHashOfOutput (outputPreimage blockHash) = .ok blockHash := by
  have long : 128 ≤ (outputPreimage blockHash).length := by simp [outputPreimage, blockHash.size]
  rw [blockHashOfOutput, dif_pos long]
  congr 1
  ext1
  have zeros : (List.replicate 96 (0 : UInt8)).length = 96 := List.length_replicate _ _
  show ((List.replicate 96 0 ++ blockHash.bytes).drop 96).take 32 = blockHash.bytes
  rw [List.drop_left' zeros, List.take_of_length_le (by rw [blockHash.size])]

def twoBlockChain : Oracle :=
  servingOracle [(.ofByte 255, outputPreimage (.ofByte 2)), (.ofByte 2, [2, 1, 0]),
    (.ofByte 1, [1, 0, 0])]

theorem safeHead_twoBlockChain :
    safeHead (sample twoBlockChain) = .ok ⟨.ofByte 1, .ofByte 0, 2, 0⟩ := by
  rw [safeHead_of_output rfl (servingOracle_get_cons _ _ _ _), blockHashOfOutput_outputPreimage]
  decide

private theorem wellNumbered_twoBlockChain :
    WellNumbered (headerByHash sampleLib twoBlockChain) 1 ⟨.ofByte 1, .ofByte 0, 2, 0⟩ := by
  have one :
      headerByHash sampleLib twoBlockChain (.ofByte 1) = .ok ⟨.ofByte 0, .ofByte 0, 1, 0⟩ := by
    decide
  rintro k visited (_ | ⟨-, found, rest⟩) above parent lookedUp
  · rw [one] at lookedUp
    cases lookedUp
    rfl
  · rw [one] at found
    cases found
    cases rest with
    | here => exact absurd above (by decide)
    | parent below _ _ => exact absurd below (by decide)

theorem header_by_number_on_two_block_chain :
    (sample twoBlockChain).caches.headerByNumber 3 = none ∧
      (sample twoBlockChain).caches.headerByNumber 1 = none ∧
      safeHead (sample twoBlockChain) = .ok ⟨.ofByte 1, .ofByte 0, 2, 0⟩ ∧
      WellNumbered (headerByHash sampleLib twoBlockChain) 1 ⟨.ofByte 1, .ofByte 0, 2, 0⟩ ∧
      (∀ fuel, headerByNumber fuel (sample twoBlockChain) 3 =
        some (.error (.error "Block number past L2 head."))) ∧
      ∃ result, headerByNumber 2 (sample twoBlockChain) 1 = some result ∧
        ∀ last, result = .ok last → last.number = 1 ∧
          Descent (headerByHash sampleLib twoBlockChain) 1 ⟨.ofByte 1, .ofByte 0, 2, 0⟩ 1
            last :=
  ⟨rfl, rfl, safeHead_twoBlockChain, wellNumbered_twoBlockChain,
    (header_by_number_walks_from_safe_head (sample twoBlockChain) 3 rfl _
      safeHead_twoBlockChain).1 (by decide),
    (header_by_number_walks_from_safe_head (sample twoBlockChain) 1 rfl _
      safeHead_twoBlockChain).2.2 (by decide) wellNumbered_twoBlockChain⟩

def loopingChain : Oracle :=
  servingOracle [(.ofByte 255, outputPreimage (.ofByte 10)), (.ofByte 10, [10, 9, 0]),
    (.ofByte 9, [9, 10, 0])]

def skippingChain : Oracle :=
  servingOracle [(.ofByte 255, outputPreimage (.ofByte 10)), (.ofByte 10, [10, 7, 0]),
    (.ofByte 7, [7, 0, 0])]

theorem header_by_number_on_looping_skipping_and_short_outputs :
    Diverges (sample loopingChain) 5 ∧
      headerByNumber 2 (sample skippingChain) 8 = some (.ok ⟨.ofByte 0, .ofByte 0, 7, 0⟩) ∧
      headerByNumber 0 (sample (servingOracle [(.ofByte 255, [0, 0, 0])])) 1 =
        some (.error (.panic "range end index 128 out of range for slice of length 3")) := by
  have looping : safeHead (sample loopingChain) = .ok ⟨.ofByte 9, .ofByte 0, 10, 0⟩ := by
    rw [safeHead_of_output rfl (servingOracle_get_cons _ _ _ _), blockHashOfOutput_outputPreimage]
    decide
  have skipping : safeHead (sample skippingChain) = .ok ⟨.ofByte 7, .ofByte 0, 10, 0⟩ := by
    rw [safeHead_of_output rfl (servingOracle_get_cons _ _ _ _), blockHashOfOutput_outputPreimage]
    decide
  refine ⟨?_, by rw [headerByNumber_of_safeHead rfl skipping]; decide, rfl⟩
  rintro ⟨fuel, result, returned⟩
  rw [headerByNumber_of_safeHead rfl looping, if_neg (by decide),
    walkBack_none_of_closed
      (fun header =>
        header = ⟨.ofByte 9, .ofByte 0, 10, 0⟩ ∨ header = ⟨.ofByte 10, .ofByte 0, 9, 0⟩)
      (by rintro header (rfl | rfl)
          · exact ⟨by decide, _, .inr rfl, rfl⟩
          · exact ⟨by decide, _, .inl rfl, rfl⟩)
      fuel _ (.inl rfl)] at returned
  cases returned

/-- On a number missing from the header cache, once the safe head is read and is at or above the
target, the parent chain from the safe head decides `header_by_number`: it returns `last`, given
enough fuel, exactly when `last` is the first header at or below the target on that chain; it
fails with `e` exactly when the chain reaches, above the target, a header whose parent lookup
fails with `e`; and it never returns exactly when the chain has descents of every length, all
through headers above the target. -/
theorem header_by_number_follows_parent_chain (p : MultiblockOracleL2ChainProvider lib)
    (n : Nat) (uncached : p.caches.headerByNumber n = none) (safe : Header)
    (anchored : safeHead p = .ok safe) (atOrAbove : n ≤ safe.number) (last : Header)
    (e : Fault) :
    ((∃ fuel, headerByNumber fuel p n = some (.ok last)) ↔
        ∃ k, Descent (headerByHash lib p.oracle) n safe k last ∧ last.number ≤ n) ∧
      ((∃ fuel, headerByNumber fuel p n = some (.error e)) ↔
        ∃ k visited, Descent (headerByHash lib p.oracle) n safe k visited ∧
          n < visited.number ∧ headerByHash lib p.oracle visited.parentHash = .error e) ∧
      (Diverges p n ↔
        ∀ k, ∃ visited, Descent (headerByHash lib p.oracle) n safe k visited) := by
  have walk : ∀ fuel,
      headerByNumber fuel p n = walkBack (headerByHash lib p.oracle) n fuel safe := fun fuel => by
    rw [headerByNumber_of_safeHead uncached anchored, if_neg (by omega)]
  refine ⟨?_, ?_, ?_⟩
  · simp only [walk, walkBack_eq_ok_iff]
    exact ⟨fun ⟨_, k, _, found⟩ => ⟨k, found⟩,
      fun ⟨k, found⟩ => ⟨k + 1, k, by omega, found⟩⟩
  · simp only [walk, walkBack_eq_error_iff]
    exact ⟨fun ⟨_, k, _, failed⟩ => ⟨k, failed⟩,
      fun ⟨k, failed⟩ => ⟨k + 1, k, by omega, failed⟩⟩
  · simp only [Diverges, walk, ← walkBack_eq_none_iff]
    constructor
    · intro never fuel
      cases returned : walkBack (headerByHash lib p.oracle) n fuel safe with
      | none => rfl
      | some result => exact absurd ⟨fuel, result, returned⟩ never
    · rintro always ⟨fuel, result, returned⟩
      simp [always fuel] at returned

theorem header_by_number_one_on_two_block_chain :
    (∃ fuel, headerByNumber fuel (sample twoBlockChain) 1 =
        some (.ok ⟨.ofByte 0, .ofByte 0, 1, 0⟩)) ↔
      ∃ k, Descent (headerByHash sampleLib twoBlockChain) 1 ⟨.ofByte 1, .ofByte 0, 2, 0⟩ k
        ⟨.ofByte 0, .ofByte 0, 1, 0⟩ ∧ (1 : Nat) ≤ 1 :=
  (header_by_number_follows_parent_chain (sample twoBlockChain) 1 rfl _ safeHead_twoBlockChain
    (by decide) ⟨.ofByte 0, .ofByte 0, 1, 0⟩ (.error "preimage not found")).1

end OpSuccinct.Client.HeaderWalk
