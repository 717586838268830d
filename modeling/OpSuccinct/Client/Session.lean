/- OpSuccinct/Client/Session
   digest: The calls `header_by_number` makes on the oracle client, in order: each preimage it
   reads is named by the hint written just before, and a returned header costs one hint and one
   read per parent lookup. -/

import OpSuccinct.Client.HeaderWalk

set_option autoImplicit false
set_option relaxedAutoImplicit false

/-!
The host fetches a preimage when a hint asks for it, and its preimage server answers a read only
once the preimage is there. `header_by_hash` therefore writes the `l2-block-header` hint of the
hash it then reads, and `header_by_number` writes the `starting-l2-output` hint of the agreed
output root before reading the output preimage. Here the same functions run while logging every
call they make on the oracle client. The logged runs return what the plain model returns, and on
every oracle and with any fuel the log of `header_by_number` is a sequence of hint-read pairs, the
read in each pair being of the preimage its hint names.
-/

namespace OpSuccinct.Client.Session

open OpSuccinct.Primitives OpSuccinct.Client.Preimage OpSuccinct.Client.Provider
open OpSuccinct.Client.HeaderWalk MultiblockOracleL2ChainProvider

variable {lib : Lib}

/-- One call on the oracle client: `write` of a hint, or `get` of a preimage. -/
inductive OracleCall
  | write (hint : Hint)
  | get (key : PreimageKey)
  deriving DecidableEq

/-- A computation on the oracle client: the calls it made, in order, and how it ended. -/
structure Logged (α : Type) where
  calls : List OracleCall
  result : Except Fault α

namespace Logged

variable {α β : Type}

def bind (x : Logged α) (f : α → Logged β) : Logged β :=
  match x.result with
  | .ok a => ⟨x.calls ++ (f a).calls, (f a).result⟩
  | .error e => ⟨x.calls, .error e⟩

instance : Monad Logged where
  pure a := ⟨[], .ok a⟩
  bind := bind

def write (oracle : Oracle) (hint : Hint) : Logged Unit :=
  ⟨[.write hint], anyhow (oracle.write hint)⟩

def get (oracle : Oracle) (key : PreimageKey) : Logged Bytes :=
  ⟨[.get key], anyhow (oracle.get key)⟩

def lift (result : Except Fault α) : Logged α := ⟨[], result⟩

@[simp] theorem result_bind (x : Logged α) (f : α → Logged β) :
    (x >>= f).result = x.result >>= fun a => (f a).result := by
  show (bind x f).result = _
  unfold bind
  cases x.result <;> rfl

@[simp] theorem result_pure (a : α) : (pure a : Logged α).result = .ok a := rfl

@[simp] theorem calls_bind (x : Logged α) (f : α → Logged β) :
    (x >>= f).calls = x.calls ++ match x.result with
      | .ok a => (f a).calls
      | .error _ => [] := by
  show (bind x f).calls = _
  unfold bind
  cases x.result <;> simp

@[simp] theorem calls_pure (a : α) : (pure a : Logged α).calls = [] := rfl

section Calls

variable (oracle : Oracle) (hint : Hint) (key : PreimageKey) (result : Except Fault α)

@[simp] theorem calls_write : (write oracle hint).calls = [.write hint] := rfl
@[simp] theorem result_write : (write oracle hint).result = anyhow (oracle.write hint) := rfl
@[simp] theorem calls_get : (get oracle key).calls = [.get key] := rfl
@[simp] theorem result_get : (get oracle key).result = anyhow (oracle.get key) := rfl
@[simp] theorem calls_lift : (lift result).calls = [] := rfl
@[simp] theorem result_lift : (lift result).result = result := rfl

end Calls

end Logged

def headerByHash (lib : Lib) (oracle : Oracle) (hash : B256) : Logged Header := do
  Logged.write oracle (HintType.l2BlockHeader.encodeWith [hash.bytes])
  let headerBytes ← Logged.get oracle ⟨hash, .keccak256⟩
  Logged.lift ((lib.decodeHeader headerBytes).mapError fun e =>
    .error s!"Failed to RLP decode Header: {e}")

def safeHead (p : MultiblockOracleL2ChainProvider lib) : Logged Header := do
  Logged.write p.oracle (HintType.startingL2Output.encodeWith [p.bootInfo.l2OutputRoot.bytes])
  let outputPreimage ← Logged.get p.oracle ⟨p.bootInfo.l2OutputRoot, .keccak256⟩
  let blockHash ← Logged.lift (blockHashOfOutput outputPreimage)
  headerByHash lib p.oracle blockHash

def walkBack (lookup : B256 → Logged Header) (blockNumber : Nat) :
    Nat → Header → List OracleCall × Option (Except Fault Header)
  | 0, _ => ([], none)
  | fuel + 1, header =>
    if blockNumber < header.number then
      match (lookup header.parentHash).result with
      | .ok parent =>
        ((lookup header.parentHash).calls ++ (walkBack lookup blockNumber fuel parent).1,
          (walkBack lookup blockNumber fuel parent).2)
      | .error e => ((lookup header.parentHash).calls, some (.error e))
    else ([], some (.ok header))

def headerByNumber (fuel : Nat) (p : MultiblockOracleL2ChainProvider lib) (blockNumber : Nat) :
    List OracleCall × Option (Except Fault Header) :=
  match p.caches.headerByNumber blockNumber with
  | some header => ([], some (.ok header))
  | none =>
    match (safeHead p).result with
    | .error e => ((safeHead p).calls, some (.error e))
    | .ok header =>
      if header.number < blockNumber then
        ((safeHead p).calls, some (.error (.error "Block number past L2 head.")))
      else
        ((safeHead p).calls ++ (walkBack (headerByHash lib p.oracle) blockNumber fuel header).1,
          (walkBack (headerByHash lib p.oracle) blockNumber fuel header).2)

section Refinement

private theorem headerByHash_result (oracle : Oracle) (hash : B256) :
    (headerByHash lib oracle hash).result = Preimage.headerByHash lib oracle hash := by
  simp [headerByHash, Preimage.headerByHash]

private theorem safeHead_result (p : MultiblockOracleL2ChainProvider lib) :
    (safeHead p).result = HeaderWalk.safeHead p := by
  simp [safeHead, HeaderWalk.safeHead, headerByHash_result]

private theorem walkBack_result (oracle : Oracle) (n : Nat) :
    ∀ fuel header, (walkBack (headerByHash lib oracle) n fuel header).2 =
      HeaderWalk.walkBack (Preimage.headerByHash lib oracle) n fuel header
  | 0, _ => rfl
  | fuel + 1, header => by
    simp only [walkBack, HeaderWalk.walkBack, headerByHash_result]
    split
    · cases Preimage.headerByHash lib oracle header.parentHash <;>
        simp [walkBack_result oracle n fuel]
    · rfl

private theorem headerByNumber_result (fuel : Nat) (p : MultiblockOracleL2ChainProvider lib)
    (n : Nat) :
    (headerByNumber fuel p n).2 = HeaderWalk.headerByNumber fuel p n := by
  simp only [headerByNumber, HeaderWalk.headerByNumber, safeHead_result]
  cases p.caches.headerByNumber n with
  | some _ => rfl
  | none =>
    cases HeaderWalk.safeHead p with
    | error _ => rfl
    | ok header => by_cases past : header.number < n <;> simp [past, walkBack_result]

end Refinement

section Protocol

/-- The hint names the preimage: its only argument is the key's hash, and the key is a keccak
key, the kind the host stores what it fetches under. -/
def Names (hint : Hint) (key : PreimageKey) : Prop :=
  hint.data = [key.key.bytes] ∧ key.keyType = .keccak256

def Pairs : List OracleCall → Prop
  | [] => True
  | .write hint :: .get key :: rest => Names hint key ∧ Pairs rest
  | _ => False

/-- Every read is of the preimage named by the hint written just before it: hint-read pairs,
possibly followed by one last hint whose write to `oracle` failed. -/
def Hinted (oracle : Oracle) (calls : List OracleCall) : Prop :=
  Pairs calls ∨
    ∃ pairs hint, Pairs pairs ∧ calls = pairs ++ [.write hint] ∧ ∃ e, oracle.write hint = .error e

private theorem Pairs.append : ∀ {first second : List OracleCall}, Pairs first → Pairs second →
    Pairs (first ++ second)
  | [], _, _, rest => rest
  | .write _ :: .get _ :: _, _, ⟨names, more⟩, rest => ⟨names, Pairs.append more rest⟩

private theorem Pairs.append_hinted {oracle : Oracle} {first second : List OracleCall}
    (pairs : Pairs first) (hinted : Hinted oracle second) : Hinted oracle (first ++ second) := by
  rcases hinted with rest | ⟨rest, hint, restPairs, rfl, failed⟩
  · exact .inl (pairs.append rest)
  · exact .inr ⟨first ++ rest, hint, pairs.append restPairs, by simp, failed⟩

/-- A session on `oracle` whose log is hinted, and made of whole pairs when it succeeds. -/
structure Disciplined {α : Type} (oracle : Oracle) (s : Logged α) : Prop where
  hinted : Hinted oracle s.calls
  paired : ∀ a, s.result = .ok a → Pairs s.calls

section Disciplined

variable {α β : Type} {oracle : Oracle}

theorem Disciplined.lift (result : Except Fault α) : Disciplined oracle (Logged.lift result) :=
  ⟨.inl trivial, fun _ _ => trivial⟩

private theorem Disciplined.bind {x : Logged α} {f : α → Logged β} (first : Disciplined oracle x)
    (rest : ∀ a, Disciplined oracle (f a)) : Disciplined oracle (x >>= f) := by
  cases ran : x.result with
  | error e => exact ⟨by simpa [ran] using first.hinted, by simp [ran]⟩
  | ok a =>
    have pairs := first.paired a ran
    refine ⟨by simpa [ran] using pairs.append_hinted (rest a).hinted, fun b done => ?_⟩
    simp [ran] at done
    simpa [ran] using pairs.append ((rest a).paired b done)

theorem Disciplined.hintedGet {hint : Hint} {key : PreimageKey} (names : Names hint key)
    {f : Bytes → Logged β} (rest : ∀ bytes, Disciplined oracle (f bytes)) :
    Disciplined oracle (Logged.write oracle hint >>= fun _ => Logged.get oracle key >>= f) := by
  have pair : Pairs [.write hint, .get key] := ⟨names, trivial⟩
  cases written : oracle.write hint with
  | error e => exact ⟨.inr ⟨[], hint, trivial, by simp [written], e, written⟩, by simp [written]⟩
  | ok _ =>
    cases read : oracle.get key with
    | error e => exact ⟨.inl (by simpa [written, read] using pair),
        fun _ _ => by simpa [written, read] using pair⟩
    | ok bytes =>
      obtain ⟨hinted, paired⟩ := rest bytes
      refine ⟨by simpa [written, read] using pair.append_hinted hinted, fun b done => ?_⟩
      simp [written, read] at done
      simpa [written, read] using pair.append (paired b done)

end Disciplined

private theorem headerByHash_disciplined (lib : Lib) (oracle : Oracle) (hash : B256) :
    Disciplined oracle (headerByHash lib oracle hash) :=
  .hintedGet ⟨rfl, rfl⟩ fun _ => .lift _

private theorem safeHead_disciplined (p : MultiblockOracleL2ChainProvider lib) :
    Disciplined p.oracle (safeHead p) :=
  .hintedGet ⟨rfl, rfl⟩ fun _ => (Disciplined.lift _).bind fun _ =>
    headerByHash_disciplined lib p.oracle _

private theorem walkBack_hinted {oracle : Oracle} {lookup : B256 → Logged Header}
    (each : ∀ hash, Disciplined oracle (lookup hash)) (n : Nat) :
    ∀ fuel header, Hinted oracle (walkBack lookup n fuel header).1
  | 0, _ => .inl trivial
  | fuel + 1, header => by
    unfold walkBack
    split
    · split
      · rename_i parent found
        exact ((each _).paired parent found).append_hinted (walkBack_hinted each n fuel parent)
      · exact (each _).hinted
    · exact .inl trivial

/-- On every oracle and with any fuel, the logged `header_by_number` returns what the plain
model returns, and each preimage it reads is named by the hint written just before: the log is
hint-read pairs, possibly ending in one hint whose write to the oracle failed. -/
theorem header_by_number_hints_every_read (fuel : Nat) (p : MultiblockOracleL2ChainProvider lib)
    (n : Nat) :
    Hinted p.oracle (headerByNumber fuel p n).1 ∧
      (headerByNumber fuel p n).2 = HeaderWalk.headerByNumber fuel p n := by
  refine ⟨?_, headerByNumber_result fuel p n⟩
  unfold headerByNumber
  split
  · exact .inl trivial
  · split
    · exact (safeHead_disciplined p).hinted
    · rename_i header found
      have pairs := (safeHead_disciplined p).paired header found
      split
      · exact .inl pairs
      · exact pairs.append_hinted
          (walkBack_hinted (headerByHash_disciplined lib p.oracle) n fuel header)

private theorem headerByHash_calls_of_ok {oracle : Oracle} {hash : B256} {header : Header}
    (found : (headerByHash lib oracle hash).result = .ok header) :
    (headerByHash lib oracle hash).calls.length = 2 := by
  rw [headerByHash_result, headerByHash_eq_ok] at found
  obtain ⟨written, bytes, read, -⟩ := found
  simp [headerByHash, written, read]

private theorem safeHead_calls_of_ok {p : MultiblockOracleL2ChainProvider lib} {safe : Header}
    (found : (safeHead p).result = .ok safe) : (safeHead p).calls.length = 4 := by
  have steps := found
  simp only [safeHead_result, HeaderWalk.safeHead, bind_eq_ok, anyhow_eq_ok] at steps
  obtain ⟨_, written, bytes, read, hash, hashed, fetched⟩ := steps
  rw [← headerByHash_result] at fetched
  simp [safeHead, written, read, hashed, fetched, headerByHash_calls_of_ok fetched]

private theorem walkBack_calls_of_ok (oracle : Oracle) (n : Nat) :
    ∀ {fuel : Nat} {header last : Header},
      (walkBack (headerByHash lib oracle) n fuel header).2 = some (.ok last) →
        ∃ k, Descent (Preimage.headerByHash lib oracle) n header k last ∧
          (walkBack (headerByHash lib oracle) n fuel header).1.length = 2 * k
  | 0, _, _, found => by simp [walkBack] at found
  | fuel + 1, header, last, found => by
    by_cases above : n < header.number
    · cases looked : (headerByHash lib oracle header.parentHash).result with
      | error e => simp [walkBack, above, looked] at found
      | ok parent =>
        simp only [walkBack, above, if_true, looked] at found ⊢
        obtain ⟨k, descent, length⟩ := walkBack_calls_of_ok oracle n found
        refine ⟨k + 1, .parent above (by rwa [headerByHash_result] at looked) descent, ?_⟩
        rw [List.length_append, length, headerByHash_calls_of_ok looked]
        omega
    · simp only [walkBack, above, if_false, Option.some.injEq, Except.ok.injEq] at found ⊢
      exact ⟨0, found ▸ .here header, rfl⟩

/-- A header that `header_by_number` reads from the oracle costs two hint-read pairs for the
safe head and one per parent lookup on the way down to it. -/
theorem header_by_number_oracle_round_trips (fuel : Nat) (p : MultiblockOracleL2ChainProvider lib)
    (n : Nat) (last : Header) (uncached : p.caches.headerByNumber n = none)
    (found : HeaderWalk.headerByNumber fuel p n = some (.ok last)) :
    ∃ safe k, HeaderWalk.safeHead p = .ok safe ∧
      Descent (Preimage.headerByHash lib p.oracle) n safe k last ∧
        (headerByNumber fuel p n).1.length = 4 + 2 * k := by
  rw [← headerByNumber_result] at found
  unfold headerByNumber at found ⊢
  rw [uncached] at found ⊢
  cases anchored : (safeHead p).result with
  | error e => simp [anchored] at found
  | ok safe =>
    by_cases past : safe.number < n
    · simp [anchored, past] at found
    · simp only [anchored, past, if_false] at found ⊢
      obtain ⟨k, descent, length⟩ := walkBack_calls_of_ok p.oracle n found
      refine ⟨safe, k, by rwa [safeHead_result] at anchored, descent, ?_⟩
      rw [List.length_append, safeHead_calls_of_ok anchored, length]

theorem header_by_number_round_trips_on_two_block_chain :
    ∃ safe k, HeaderWalk.safeHead (sample twoBlockChain) = .ok safe ∧
      Descent (Preimage.headerByHash sampleLib twoBlockChain) 1 safe k
        ⟨.ofByte 0, .ofByte 0, 1, 0⟩ ∧
        (headerByNumber 2 (sample twoBlockChain) 1).1.length = 4 + 2 * k :=
  header_by_number_oracle_round_trips 2 (sample twoBlockChain) 1 _ rfl
    (by rw [headerByNumber_of_safeHead rfl safeHead_twoBlockChain]; decide)

end Protocol

end OpSuccinct.Client.Session
