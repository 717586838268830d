/- OpSuccinct/Primitives
   digest: Byte strings, block headers and blocks, faults, and the per-number caches. -/

import Mathlib

set_option autoImplicit false
set_option relaxedAutoImplicit false

/-!
`anyhow` is the conversion `?` makes into `anyhow::Error`. `unwrap`, `expectSome`,
`unwrapResult`, `expectOk` and `unwrapFault` are `Option::unwrap`, `Option::expect`,
`Result::unwrap`, `Result::expect` and `Result::unwrap` on an `anyhow` result, each turning a
missing value into a panic with the text Rust prints.
-/

namespace OpSuccinct.Primitives

abbrev Bytes := List UInt8

/-- alloy's `FixedBytes<N>`: exactly `n` bytes, so that a value of the wrong width cannot be
built. -/
@[ext] structure FixedBytes (n : Nat) where
  bytes : Bytes
  size : bytes.length = n
  deriving DecidableEq

abbrev B256 := FixedBytes 32

abbrev Address := FixedBytes 20

def B256.ofByte (b : UInt8) : B256 := ⟨List.replicate 32 b, List.length_replicate _ _⟩

def toBeBytes (width value : Nat) : Bytes :=
  (List.range width).reverse.map fun i => UInt8.ofNat (value / 256 ^ i)

instance instDecidableEqExcept {ε α : Type} [DecidableEq ε] [DecidableEq α] :
    DecidableEq (Except ε α)
  | .ok a, .ok b => decidable_of_iff (a = b) (by simp)
  | .error a, .error b => decidable_of_iff (a = b) (by simp)
  | .ok _, .error _ => isFalse (by simp)
  | .error _, .ok _ => isFalse (by simp)

/-- How a call fails: an `anyhow` error, which `?` hands to the caller, or a panic, which unwinds
the task so that no caller sees an `Err`. -/
inductive Fault
  | error (msg : String)
  | panic (msg : String)
  deriving DecidableEq

def anyhow {α : Type} (result : Except String α) : Except Fault α :=
  result.mapError Fault.error

@[simp] theorem anyhow_ok {α : Type} (a : α) : anyhow (.ok a) = .ok a := rfl

@[simp] theorem anyhow_error {α : Type} (e : String) :
    anyhow (.error e : Except String α) = .error (.error e) := rfl

def unwrap {α : Type} : Option α → Except Fault α
  | some a => .ok a
  | none => .error (.panic "called `Option::unwrap()` on a `None` value")

def expectSome {α : Type} (value : Option α) (msg : String) : Except Fault α :=
  match value with
  | some a => .ok a
  | none => .error (.panic msg)

def unwrapResult {α : Type} : Except String α → Except Fault α
  | .ok a => .ok a
  | .error e => .error (.panic s!"called `Result::unwrap()` on an `Err` value: {e}")

def expectOk {α : Type} (result : Except String α) (msg : String) : Except Fault α :=
  match result with
  | .ok a => .ok a
  | .error e => .error (.panic s!"{msg}: {e}")

section Outcomes

variable {α β : Type}

@[simp] theorem bind_eq_ok {ε : Type} {x : Except ε α} {f : α → Except ε β} {b : β} :
    x >>= f = .ok b ↔ ∃ a, x = .ok a ∧ f a = .ok b := by
  cases x <;> simp [bind, Except.bind]

@[simp] theorem pure_eq_ok {ε : Type} {a b : α} : (pure a : Except ε α) = .ok b ↔ a = b := by
  simp [pure, Except.pure]

@[simp] theorem mapError_eq_ok {ε ε' : Type} {f : ε → ε'} {x : Except ε α} {a : α} :
    x.mapError f = .ok a ↔ x = .ok a := by
  cases x <;> simp [Except.mapError]

@[simp] theorem anyhow_eq_ok {x : Except String α} {a : α} : anyhow x = .ok a ↔ x = .ok a :=
  mapError_eq_ok

@[simp] theorem unwrap_eq_ok {o : Option α} {a : α} : unwrap o = .ok a ↔ o = some a := by
  cases o <;> simp [unwrap]

@[simp] theorem expectSome_eq_ok {o : Option α} {msg : String} {a : α} :
    expectSome o msg = .ok a ↔ o = some a := by
  cases o <;> simp [expectSome]

@[simp] theorem unwrapResult_eq_ok {x : Except String α} {a : α} :
    unwrapResult x = .ok a ↔ x = .ok a := by
  cases x <;> simp [unwrapResult]

@[simp] theorem expectOk_eq_ok {x : Except String α} {msg : String} {a : α} :
    expectOk x msg = .ok a ↔ x = .ok a := by
  cases x <;> simp [expectOk]

end Outcomes

structure Header where
  parentHash : B256
  transactionsRoot : B256
  number : Nat
  timestamp : Nat
  deriving DecidableEq

/-- An EIP-4895 withdrawal. No modelled function reads its fields, so none is kept. -/
structure Withdrawal where
  deriving DecidableEq

structure BlockBody (Tx : Type) where
  transactions : List Tx
  ommers : List Header
  withdrawals : Option (List Withdrawal)
  requests : Option (List Bytes)
  deriving DecidableEq

structure OpBlock (Tx : Type) where
  header : Header
  body : BlockBody Tx
  deriving DecidableEq

/-- One of the provider's `Arc<Mutex<HashMap<u64, _>>>` caches, read by block number; `insert`
overwrites an earlier entry for the same number. -/
def Cache (α : Type) := Nat → Option α

namespace Cache

variable {α : Type}

def empty : Cache α := fun _ => none

def insert (c : Cache α) (k : Nat) (v : α) : Cache α := fun j => if j = k then some v else c j

@[simp] theorem empty_apply (k : Nat) : (empty : Cache α) k = none := rfl

@[simp] theorem insert_self (c : Cache α) (k : Nat) (v : α) : c.insert k v k = some v := by
  simp [insert]

theorem insert_of_ne (c : Cache α) {j k : Nat} (v : α) (distinct : j ≠ k) :
    c.insert k v j = c j := by
  simp [insert, distinct]

def Extends (c' c : Cache α) : Prop := ∀ n, (c n).isSome → (c' n).isSome

theorem Extends.refl (c : Cache α) : c.Extends c := fun _ => id

theorem Extends.trans {c'' c' c : Cache α} (later : c''.Extends c') (earlier : c'.Extends c) :
    c''.Extends c := fun n held => later n (earlier n held)

theorem extends_insert (c : Cache α) (k : Nat) (v : α) : (c.insert k v).Extends c := by
  intro n held
  by_cases same : n = k <;> simp [insert, same, held]

end Cache

end OpSuccinct.Primitives
