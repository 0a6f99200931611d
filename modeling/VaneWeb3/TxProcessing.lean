import VaneWeb3.Runtime

/-!
# `node/src/tx_processing.rs`: signatures, the multi-id, and the two chain calls

`TxProcessingWorker` carries the node's cryptographic checks and its chain calls. Its
fields `tx_staging`, `sender_tx_pending` and `receiver_tx_pending` are never read, so the
worker is not a state here: each method is a function of the transaction, of the
libraries it calls, and (for `submit_tx`) of the chain's answer.

The libraries are parameters. `Crypto` is what `sp_core` provides (key parsing, ECDSA
and Ed25519 verification, Keccak-256, Blake2-256); `Alloy` is the transaction builder
and the EIP-7702 codec. Neither is modelled inside: the statements below hold for every
choice of them, and where a statement needs a concrete one, `Crypto.symbolic` is a
signature scheme in which a signature names its signer.

## What is proved here

* `validate_receiver_sender_address_eq`: for both roles the public key is parsed from
  `receiver_address`. The role only picks the signature and the message. So the "Sender"
  verdict is a check against the receiver's key (`validate_sender_checks_receiver_key`).
* `create_tx_panics_on_hex_address`: `Address::from_slice` is handed the UTF-8 bytes of
  the address string, so for every well-formed `0x` + 40-hex-digit receiver, on Ethereum
  and on Bnb, `create_tx` panics.
* `create_tx_ok`: what `create_tx` changes. `submit_tx` is translated too, but no run of the
  node reaches it: `MainServiceWorker::handle_sender_confirmed_tx_state` calls it under a second
  lock of the worker it already holds (`VaneWeb3.Orchestrator`).
-/

set_option autoImplicit false

namespace node

open primitives NodeM

/-! ## The libraries -/

/-- What `sp_core` provides to `validate_receiver_sender_address` and `validate_multi_id`.
Keys, signatures and digests are byte strings. -/
structure Crypto where
  /-- `ecdsa::Public::from_str`. -/
  ecdsa_public_from_str : String → Option Bytes
  /-- `ecdsa::Signature::from_slice`. -/
  ecdsa_signature_from_slice : Bytes → Option Bytes
  /-- `Verify::verify` for an ECDSA signature: signature, message, public key. -/
  ecdsa_verify : Bytes → Bytes → Bytes → Bool
  /-- `ecdsa::Signature::recover`: the key a signature over a message recovers to. -/
  ecdsa_recover : Bytes → Bytes → Option Bytes
  keccak_256 : Bytes → Bytes
  /-- `ed25519::Public::from_str`. -/
  ed25519_public_from_str : String → Option Bytes
  /-- `ed25519::Signature::from_slice`. -/
  ed25519_signature_from_slice : Bytes → Option Bytes
  /-- `Verify::verify` for an Ed25519 signature: signature, message, public key. -/
  ed25519_verify : Bytes → Bytes → Bytes → Bool
  /-- `Blake2Hasher::hash`. -/
  blake2_256 : Bytes → H256

/-- `alloy::primitives::Address`: 20 bytes. -/
structure Address where
  bytes : Bytes
  length_eq : bytes.length = 20
  deriving DecidableEq

/-- `Address::from_slice`: copies a slice of exactly 20 bytes, and panics on any other length
with the message of `alloy`'s fixed-bytes wrapper. -/
def Address.from_slice (b : Bytes) : Except Abort Address :=
  if h : b.length = 20 then .ok ⟨b, h⟩
  else .error (.panic ("cannot convert a slice of length " ++ toString b.length ++ " to Address"))

/-- `U256::from(amount)`: the `u128` widened. -/
def U256.from (v : BitVec 128) : BitVec 256 := v.zeroExtend 256

/-- `alloy::rpc::types::TransactionRequest`, with the three fields `create_tx` sets. -/
structure TransactionRequest where
  «to» : Option Address := none
  value : Option (BitVec 256) := none
  chain_id : Option UInt64 := none

def TransactionRequest.with_to (r : TransactionRequest) (a : Address) : TransactionRequest :=
  { r with «to» := some a }

def TransactionRequest.with_value (r : TransactionRequest) (v : BitVec 256) : TransactionRequest :=
  { r with value := some v }

def TransactionRequest.with_chain_id (r : TransactionRequest) (c : UInt64) : TransactionRequest :=
  { r with chain_id := some c }

/-- `alloy::consensus::TxEip7702`, with the fields `create_tx` fills. -/
structure TxEip7702 where
  chain_id : UInt64
  «to» : Address
  value : BitVec 256
  deriving DecidableEq

/-- `alloy::consensus::TypedTransaction`; only the EIP-7702 payload matters here. -/
inductive TypedTransaction
  | Legacy
  | Eip2930
  | Eip1559
  | Eip4844
  | Eip7702 (tx : TxEip7702)

/-- `TypedTransaction::eip7702`. -/
def TypedTransaction.eip7702 : TypedTransaction → Option TxEip7702
  | .Eip7702 tx => some tx
  | _ => none

/-- An ECDSA signature as `signature.as_slice().try_into()` produces it: the 65 bytes
`r ‖ s ‖ v`, and the parity `v` encodes. -/
structure Signature where
  bytes : Bytes
  length_eq : bytes.length = 65
  y_parity : Bool

/-- `alloy`'s `normalize_v`: the parity the last byte `v` of a signature encodes, raw (`0`, `1`),
before EIP-155 (`27`, `28`) or after it (`35` and above); any other `v` encodes none. -/
def normalize_v (v : Nat) : Option Bool :=
  if v = 0 ∨ v = 27 then some false
  else if v = 1 ∨ v = 28 then some true
  else if 35 ≤ v then some ((v - 35) % 2 != 0)
  else none

/-- `<Signature as TryFrom<&[u8]>>::try_from`: 65 bytes whose last encodes a parity. -/
def Signature.try_from (b : Bytes) : Except String Signature :=
  if h : b.length = 65 then
    let v := (b.get ⟨64, by omega⟩).toNat
    match normalize_v v with
    | some y_parity => .ok ⟨b, h, y_parity⟩
    | none => .error ("invalid parity: " ++ toString v)
  else .error "expected exactly 65 bytes"

/-- What `alloy` provides to `create_tx` and `submit_tx`. -/
structure Alloy where
  /-- `TransactionRequest::build_unsigned`. -/
  build_unsigned : TransactionRequest → Except String TypedTransaction
  /-- `Encodable::encode` for `TxEip7702` (RLP). -/
  encode : TxEip7702 → Bytes
  /-- `TxEip7702::decode` (RLP). -/
  decode : Bytes → Except String TxEip7702
  /-- `encode_with_signature` of the signed envelope. -/
  encode_with_signature : TxEip7702 → Signature → Bytes

namespace TxProcessingWorker

variable {α : Type}

/-- `Option::ok_or(anyhow!(msg))?` inside a function that returns `Result`. -/
def ok_or (o : Option α) (msg : String) : Except Abort α :=
  match o with
  | some a => .ok a
  | none => .error (.error msg)

/-! ## `validate_receiver_sender_address` -/

/-- `TxProcessingWorker::validate_receiver_sender_address`: the role picks the signature
and the message; the public key is parsed from `receiver_address` on every path. -/
def validate_receiver_sender_address (C : Crypto) (tx : TxStateMachine) (who : String) :
    Except Abort Unit := do
  let (network, signature, msg) ← if who = "Receiver" then do
      let signature ← ok_or tx.recv_signature "receiver didnt signed"
      pure (tx.network, signature, tx.receiver_address)
    else do
      let signature ← ok_or tx.signed_call_payload "original sender didnt signed"
      pure (tx.network, signature, tx.sender_address)
  match network with
  | .Polkadot => throw (.panic "not yet implemented")
  | .Ethereum | .Bnb => do
    let ec_receiver_public ← ok_or (C.ecdsa_public_from_str tx.receiver_address)
      "failed to convert ecdsa recv addr bytes"
    let hashed_msg := C.keccak_256 (as_bytes msg)
    let sig ← ok_or (C.ecdsa_signature_from_slice signature) "failed to convert Ecdsa_signature"
    if C.ecdsa_verify sig hashed_msg ec_receiver_public then
      let addr ← ok_or (C.ecdsa_recover sig hashed_msg) "cannot recover addr"
      if addr = ec_receiver_public then pure ()
      else throw (.error "addr recovery equality failed hence recv failed")
    else throw (.error "ec signature verification failed hence recv failed")
  | .Solana => do
    let ed_receiver_public ← ok_or (C.ed25519_public_from_str tx.receiver_address)
      "failed to convert ed25519 recv addr bytes"
    let sig ← ok_or (C.ed25519_signature_from_slice signature) "failed to convert ed25519_signature"
    if C.ed25519_verify sig (as_bytes msg) ed_receiver_public then pure ()
    else throw (.error "ed25519 signature verification failed hence recv failed")

/-- The second half of `validate_receiver_sender_address`: the check of `signature` over
`msg` against the key parsed from `key`, by network. -/
def check_signature (C : Crypto) (network : ChainSupported) (signature : Bytes)
    (msg key : String) : Except Abort Unit :=
  match network with
  | .Polkadot => throw (.panic "not yet implemented")
  | .Ethereum | .Bnb => do
    let ec_receiver_public ← ok_or (C.ecdsa_public_from_str key)
      "failed to convert ecdsa recv addr bytes"
    let hashed_msg := C.keccak_256 (as_bytes msg)
    let sig ← ok_or (C.ecdsa_signature_from_slice signature) "failed to convert Ecdsa_signature"
    if C.ecdsa_verify sig hashed_msg ec_receiver_public then
      let addr ← ok_or (C.ecdsa_recover sig hashed_msg) "cannot recover addr"
      if addr = ec_receiver_public then pure ()
      else throw (.error "addr recovery equality failed hence recv failed")
    else throw (.error "ec signature verification failed hence recv failed")
  | .Solana => do
    let ed_receiver_public ← ok_or (C.ed25519_public_from_str key)
      "failed to convert ed25519 recv addr bytes"
    let sig ← ok_or (C.ed25519_signature_from_slice signature) "failed to convert ed25519_signature"
    if C.ed25519_verify sig (as_bytes msg) ed_receiver_public then pure ()
    else throw (.error "ed25519 signature verification failed hence recv failed")

/-- The signature the role `who` carries, and the address it signs. -/
def role_signature (tx : TxStateMachine) (who : String) : Option Bytes × String :=
  if who = "Receiver" then (tx.recv_signature, tx.receiver_address)
  else (tx.signed_call_payload, tx.sender_address)

/-- The error of a role whose signature is missing. -/
def missing_signature_error (who : String) : String :=
  if who = "Receiver" then "receiver didnt signed" else "original sender didnt signed"

/-- `validate_receiver_sender_address` split at its seam: the role picks the signature and the
message, then `check_signature` runs against the key of `receiver_address`. -/
theorem validate_receiver_sender_address_eq (C : Crypto) (tx : TxStateMachine) (who : String) :
    validate_receiver_sender_address C tx who =
      match (role_signature tx who).1 with
      | some s => check_signature C tx.network s (role_signature tx who).2 tx.receiver_address
      | none => .error (.error (missing_signature_error who)) := by
  unfold validate_receiver_sender_address role_signature missing_signature_error
  by_cases hw : who = "Receiver"
  · simp only [hw, if_true]
    cases tx.recv_signature <;> rfl
  · simp only [hw, if_false]
    cases tx.signed_call_payload <;> rfl

/-- On Polkadot a present signature reaches the `todo!()`. -/
theorem validate_panics_on_polkadot (C : Crypto) (tx : TxStateMachine) (who : String)
    (hn : tx.network = .Polkadot) (hs : (role_signature tx who).1.isSome) :
    validate_receiver_sender_address C tx who = .error (.panic "not yet implemented") := by
  rw [validate_receiver_sender_address_eq]
  obtain ⟨s, hs⟩ := Option.isSome_iff_exists.mp hs
  rw [hs]
  simp only [check_signature, hn]
  rfl

/-- Whether `signature` verifies over `msg` under `network`'s algorithm against the public
key that the address `key` denotes (spec §4.4.1): ECDSA over Keccak-256 of the message with
the recovered key equal to the claimed one, Ed25519 over the raw bytes. Polkadot is reserved. -/
def signature_verifies (C : Crypto) (network : ChainSupported) (signature : Bytes)
    (msg key : String) : Bool :=
  match network with
  | .Polkadot => false
  | .Ethereum | .Bnb =>
    match C.ecdsa_public_from_str key, C.ecdsa_signature_from_slice signature with
    | some pk, some sig =>
      C.ecdsa_verify sig (C.keccak_256 (as_bytes msg)) pk &&
        C.ecdsa_recover sig (C.keccak_256 (as_bytes msg)) == some pk
    | _, _ => false
  | .Solana =>
    match C.ed25519_public_from_str key, C.ed25519_signature_from_slice signature with
    | some pk, some sig => C.ed25519_verify sig (as_bytes msg) pk
    | _, _ => false

@[simp] theorem ok_or_some (a : α) (msg : String) : ok_or (some a) msg = .ok a := rfl

@[simp] theorem ok_or_none (msg : String) : ok_or (none : Option α) msg = .error (.error msg) := rfl

theorem check_signature_ok_iff (C : Crypto) (network : ChainSupported) (signature : Bytes)
    (msg key : String) (hn : network ≠ .Polkadot) :
    check_signature C network signature msg key = .ok () ↔
      signature_verifies C network signature msg key = true := by
  cases network with
  | Polkadot => exact absurd rfl hn
  | Ethereum | Bnb =>
    simp only [check_signature, signature_verifies]
    rcases C.ecdsa_public_from_str key with _ | pk <;>
    rcases C.ecdsa_signature_from_slice signature with _ | sig <;> simp
    cases C.ecdsa_verify sig (C.keccak_256 (as_bytes msg)) pk <;>
    cases C.ecdsa_recover sig (C.keccak_256 (as_bytes msg)) <;> simp
  | Solana =>
    simp only [check_signature, signature_verifies]
    rcases C.ed25519_public_from_str key with _ | pk <;>
    rcases C.ed25519_signature_from_slice signature with _ | sig <;> simp

/-- How the check ends: off Polkadot it returns, or fails with an error for `?`; on Polkadot it
panics at the `todo!()`. -/
theorem check_signature_cases (C : Crypto) (network : ChainSupported) (signature : Bytes)
    (msg key : String) :
    (network ≠ .Polkadot ∧ (check_signature C network signature msg key = .ok () ∨
      ∃ m, check_signature C network signature msg key = .error (.error m))) ∨
    (network = .Polkadot ∧
      check_signature C network signature msg key = .error (.panic "not yet implemented")) := by
  cases network with
  | Polkadot => simp [check_signature]
  | Ethereum | Bnb =>
    simp only [check_signature]
    rcases C.ecdsa_public_from_str key with _ | pk <;>
    rcases C.ecdsa_signature_from_slice signature with _ | sig <;> simp
    cases C.ecdsa_verify sig (C.keccak_256 (as_bytes msg)) pk <;>
    cases C.ecdsa_recover sig (C.keccak_256 (as_bytes msg)) <;> simp
    split <;> simp_all
  | Solana =>
    simp only [check_signature]
    rcases C.ed25519_public_from_str key with _ | pk <;>
    rcases C.ed25519_signature_from_slice signature with _ | sig <;> simp
    split <;> simp_all

/-- The check is a pure function: it returns or panics, and never waits. -/
theorem validate_not_blocked (C : Crypto) (tx : TxStateMachine) (who : String) :
    validate_receiver_sender_address C tx who ≠ .error .blocked := by
  rw [validate_receiver_sender_address_eq]
  cases (role_signature tx who).1 with
  | none => simp
  | some s =>
    rcases check_signature_cases C tx.network s (role_signature tx who).2 tx.receiver_address
      with ⟨-, h | ⟨m, h⟩⟩ | ⟨-, h⟩ <;> simp [h]

/-- The verdict spec §4.4.1 asks for: the role's signature, over the role's own address,
against the public key of that same address. -/
def spec_signature_verifies (C : Crypto) (tx : TxStateMachine) (who : String) : Bool :=
  match role_signature tx who with
  | (some s, addr) => signature_verifies C tx.network s addr addr
  | (none, _) => false

/-- **What the validator checks.** Off Polkadot, `validate_receiver_sender_address` accepts
exactly when the role's signature verifies over the role's address against the key of
`receiver_address`, whichever the role. -/
theorem validate_ok_iff (C : Crypto) (tx : TxStateMachine) (who : String)
    (hn : tx.network ≠ .Polkadot) :
    validate_receiver_sender_address C tx who = .ok () ↔
      ∃ s, (role_signature tx who).1 = some s ∧
        signature_verifies C tx.network s (role_signature tx who).2 tx.receiver_address = true := by
  rw [validate_receiver_sender_address_eq]
  rcases (role_signature tx who).1 with _ | s
  · simp
  · simpa using check_signature_ok_iff C tx.network s _ _ hn

/-- For the receiver the key is the role's own: the "Receiver" verdict is the one spec §4.4.1
asks for, on every network but Polkadot. -/
theorem validate_receiver_iff_spec (C : Crypto) (tx : TxStateMachine)
    (hn : tx.network ≠ .Polkadot) :
    validate_receiver_sender_address C tx "Receiver" = .ok () ↔
      spec_signature_verifies C tx "Receiver" = true := by
  rw [validate_ok_iff C tx _ hn]
  simp only [spec_signature_verifies, role_signature, if_true]
  cases tx.recv_signature <;> simp

/-! ## A symbolic signature scheme

The statements above hold for every `Crypto`. Showing that a check lets something through
needs one in which signatures mean something: here a public key is its address's bytes cut
or padded to 33, a digest is the message's bytes cut or padded to 32, and a signature is
the signer's key followed by the digest, 65 bytes as an ECDSA signature is. A signature
names its signer, and no one can produce another's. -/

/-- `b` cut or padded with zeros to `n` bytes. -/
def fit (n : Nat) (b : Bytes) : Bytes := (b ++ List.replicate n 0).take n

/-- The symbolic scheme: `sign key msg = key ++ digest msg`, keys are address bytes. -/
def Crypto.symbolic : Crypto where
  ecdsa_public_from_str s := some (fit 33 (as_bytes s))
  ecdsa_signature_from_slice b := some b
  ecdsa_verify sig h pk := sig == pk ++ h
  ecdsa_recover sig h := if sig.drop 33 == h then some (sig.take 33) else none
  keccak_256 := fit 32
  ed25519_public_from_str s := some (fit 32 (as_bytes s))
  ed25519_signature_from_slice b := some b
  ed25519_verify sig m pk := sig == pk ++ m
  blake2_256 b := ⟨fit 32 b, by simp [fit]⟩

/-- The symbolic ECDSA signature by the key of address `signer` over the message `msg`. -/
def Crypto.symbolic_sign (signer msg : String) : Bytes :=
  fit 33 (as_bytes signer) ++ fit 32 (as_bytes msg)

/-- Sender `S` pays receiver `R` on Ethereum; the payload carries `R`'s signature over `S`. -/
def signed_by_receiver : TxStateMachine where
  sender_address := "S"
  receiver_address := "R"
  multi_id := H256.zero
  network := .Ethereum
  amount := 1000#128
  call_payload := none
  signed_call_payload := some (Crypto.symbolic_sign "R" "S")
  recv_signature := none
  status := .SenderConfirmed
  inbound_req_id := none
  outbound_req_id := none
  tx_hash := none

/-- The "Sender" check at `signed_by_receiver`: it passes, though the sender's key never
signed, and the same transaction addressed to `S` itself fails it. -/
theorem validate_sender_checks_receiver_key :
    validate_receiver_sender_address Crypto.symbolic signed_by_receiver "Sender" = .ok () ∧
      spec_signature_verifies Crypto.symbolic signed_by_receiver "Sender" = false ∧
      validate_receiver_sender_address Crypto.symbolic
        { signed_by_receiver with receiver_address := "S" } "Sender" ≠ .ok () := by
  refine ⟨rfl, rfl, fun h => ?_⟩
  cases h

/-! ## `validate_multi_id` -/

/-- `TxProcessingWorker::validate_multi_id`: Blake2-256 of the sender's bytes followed by the
receiver's bytes, compared with `multi_id`. -/
def validate_multi_id (C : Crypto) (txn : TxStateMachine) : Bool :=
  C.blake2_256 (as_bytes txn.sender_address ++ as_bytes txn.receiver_address) == txn.multi_id

@[simp] theorem validate_multi_id_eq (C : Crypto) (txn : TxStateMachine) :
    validate_multi_id C txn = true ↔
      C.blake2_256 (as_bytes txn.sender_address ++ as_bytes txn.receiver_address) = txn.multi_id := by
  simp [validate_multi_id]

/-! ## `create_tx` -/

/-- The Ethereum and Bnb arms of `create_tx`, which differ only in `.with_chain_id(56)`:
build the unsigned EIP-7702 envelope to `receiver_address` for `amount`, and store its
encoding in `call_payload`. -/
def create_eip7702_call_payload (A : Alloy) (chain_id : Option UInt64) (tx : TxStateMachine) :
    Except Abort TxStateMachine := do
  let to_address ← Address.from_slice (as_bytes tx.receiver_address)
  let value := U256.from tx.amount
  let request := (TransactionRequest.with_to {} to_address).with_value value
  let request := match chain_id with
    | some c => request.with_chain_id c
    | none => request
  let tx_builder ← (A.build_unsigned request).mapError fun err =>
    Abort.error ("cannot build unsigned tx to be signed by EOA; caused by: " ++ err)
  let eip7702 ← ok_or tx_builder.eip7702 "failed to convert to EIP 7702"
  pure { tx with call_payload := some (A.encode eip7702) }

/-- `TxProcessingWorker::create_tx`: the unsigned transaction the sender's agent will sign.
Polkadot and Solana are `todo!()`. -/
def create_tx (A : Alloy) (tx : TxStateMachine) : Except Abort TxStateMachine :=
  match tx.network with
  | .Polkadot => throw (.panic "not yet implemented")
  | .Ethereum => create_eip7702_call_payload A none tx
  | .Bnb => create_eip7702_call_payload A (some 56) tx
  | .Solana => throw (.panic "not yet implemented")

/-- `create_tx` changes nothing but `call_payload`. -/
theorem create_tx_ok {A : Alloy} {tx t : TxStateMachine} (h : create_tx A tx = .ok t) :
    ∃ payload, t = { tx with call_payload := some payload } := by
  have key : ∀ c, create_eip7702_call_payload A c tx = .ok t →
      ∃ payload, t = { tx with call_payload := some payload } := by
    intro c hc
    obtain ⟨_, -, hc⟩ := except_bind_eq_ok hc
    obtain ⟨_, -, hc⟩ := except_bind_eq_ok hc
    obtain ⟨_, -, hc⟩ := except_bind_eq_ok hc
    exact ⟨_, (Except.ok.inj hc).symm⟩
  unfold create_tx at h
  split at h <;> first | cases h | exact key _ h

/-- A well-formed account address: `0x` and forty hexadecimal digits. -/
def is_hex_address (s : String) : Bool :=
  match s.data with
  | '0' :: 'x' :: digits => digits.length == 40 && digits.all fun c =>
      c.isDigit || (c.val ≥ 97 && c.val ≤ 102) || (c.val ≥ 65 && c.val ≤ 70)
  | _ => false

/-- Every character below 128: an ASCII string, as `0x` hex addresses (spec §8, S1) and
base58 addresses are. -/
def is_ascii (s : String) : Bool := s.data.all fun c => c.val ≤ 127

/-- An ASCII character is its own one-byte UTF-8 encoding. -/
theorem utf8EncodeChar_of_ascii {c : Char} (h : c.val ≤ 127) :
    String.utf8EncodeChar c = [c.val.toUInt8] := by
  simp [String.utf8EncodeChar, h]

theorem as_bytes_of_ascii {s : String} (h : is_ascii s = true) :
    as_bytes s = s.data.map fun c => c.val.toUInt8 := by
  obtain ⟨cs⟩ := s
  simp only [is_ascii, List.all_eq_true, decide_eq_true_eq] at h
  simp only [as_bytes]
  induction cs with
  | nil => rfl
  | cons c cs ih =>
    rw [List.flatMap_cons, utf8EncodeChar_of_ascii (h c (List.mem_cons_self _ _)),
      ih fun d hd => h d (List.mem_cons_of_mem _ hd)]
    rfl

/-- Two ASCII characters with the same byte are the same character. -/
theorem eq_of_toUInt8_eq {c d : Char} (hc : c.val ≤ 127) (hd : d.val ≤ 127)
    (h : c.val.toUInt8 = d.val.toUInt8) : c = d := by
  have h' : c.val.toNat % 256 = d.val.toNat % 256 := congrArg UInt8.toNat h
  have hc' : c.val.toNat ≤ 127 := hc
  have hd' : d.val.toNat ≤ 127 := hd
  exact Char.ext (UInt32.toNat.inj (by omega))

/-- **ASCII strings with the same bytes are the same string.** -/
theorem as_bytes_inj_of_ascii {s₁ s₂ : String} (h₁ : is_ascii s₁ = true)
    (h₂ : is_ascii s₂ = true) (h : as_bytes s₁ = as_bytes s₂) : s₁ = s₂ := by
  rw [as_bytes_of_ascii h₁, as_bytes_of_ascii h₂] at h
  obtain ⟨cs⟩ := s₁
  obtain ⟨ds⟩ := s₂
  simp only [is_ascii, List.all_eq_true, decide_eq_true_eq] at h₁ h₂
  congr 1
  induction cs generalizing ds with
  | nil => cases ds with
    | nil => rfl
    | cons => cases h
  | cons c cs ih =>
    cases ds with
    | nil => cases h
    | cons d ds =>
      obtain ⟨hcd, hrest⟩ := List.cons.inj h
      rw [eq_of_toUInt8_eq (h₁ c (List.mem_cons_self _ _)) (h₂ d (List.mem_cons_self _ _)) hcd,
        ih ds hrest (fun x hx => h₁ x (List.mem_cons_of_mem _ hx))
          (fun x hx => h₂ x (List.mem_cons_of_mem _ hx))]

/-- A well-formed address is 42 ASCII characters. -/
theorem hex_address_ascii {s : String} (h : is_hex_address s = true) :
    s.data.length = 42 ∧ is_ascii s = true := by
  unfold is_hex_address at h
  split at h
  · rename_i digits hs
    simp only [Bool.and_eq_true, beq_iff_eq, List.all_eq_true] at h
    refine ⟨by simp [hs, h.1], ?_⟩
    simp only [is_ascii, hs, List.all_cons, Bool.and_eq_true, List.all_eq_true,
      decide_eq_true_eq]
    refine ⟨by decide, by decide, fun c hc => ?_⟩
    have hc' := h.2 c hc
    simp only [Char.isDigit, Bool.or_eq_true, Bool.and_eq_true, decide_eq_true_eq] at hc'
    rcases hc' with (⟨-, h1⟩ | ⟨-, h1⟩) | ⟨-, h1⟩ <;> exact UInt32.le_trans h1 (by decide)
  · cases h

/-- A well-formed address is ASCII, so its UTF-8 encoding is 42 bytes. -/
theorem length_as_bytes_of_hex_address {s : String} (h : is_hex_address s = true) :
    (as_bytes s).length = 42 := by
  obtain ⟨hlen, hascii⟩ := hex_address_ascii h
  rw [as_bytes_of_ascii hascii, List.length_map, hlen]

/-- **`create_tx` panics on every well-formed receiver address.** `Address::from_slice` is
given the 42 UTF-8 bytes of the `0x`-hex string, not the 20 bytes it denotes, on Ethereum
and on Bnb alike, whatever the transaction builder. -/
theorem create_tx_panics_on_hex_address (A : Alloy) (tx : TxStateMachine)
    (hn : tx.network = .Ethereum ∨ tx.network = .Bnb)
    (ha : is_hex_address tx.receiver_address = true) :
    create_tx A tx = .error (.panic "cannot convert a slice of length 42 to Address") := by
  have key : ∀ c, create_eip7702_call_payload A c tx =
      .error (.panic "cannot convert a slice of length 42 to Address") := by
    intro c
    simp only [create_eip7702_call_payload, Address.from_slice, length_as_bytes_of_hex_address ha]
    rfl
  unfold create_tx
  rcases hn with hn | hn <;> rw [hn] <;> exact key _

/-- An `alloy` for the witnesses: its builder rejects every request, its decoder reads every
payload as one envelope, and its encoders produce nothing. -/
def Alloy.stub : Alloy where
  build_unsigned _ := .error "missing required fields"
  encode _ := []
  decode _ := .ok ⟨1, ⟨List.replicate 20 0, by simp⟩, 0⟩
  encode_with_signature _ _ := []

/-- `signed_by_receiver`, addressed to a well-formed Ethereum account. -/
def to_hex_account : TxStateMachine :=
  { signed_by_receiver with receiver_address := "0x00000000219ab540356cbb839cbe05303d7705fa" }

theorem create_tx_panics_at_hex_account :
    (to_hex_account.network = .Ethereum ∨ to_hex_account.network = .Bnb) ∧
      is_hex_address to_hex_account.receiver_address = true ∧
      create_tx Alloy.stub to_hex_account =
        .error (.panic "cannot convert a slice of length 42 to Address") :=
  ⟨.inl rfl, by decide,
    create_tx_panics_on_hex_address Alloy.stub to_hex_account (.inl rfl) (by decide)⟩

/-! ## What the multi-id binds

`validate_multi_id` hashes the sender's bytes followed by the receiver's, with nothing between
them. Where Blake2 does not collide, equal multi-ids mean equal hashed bytes; whether equal
bytes mean equal addresses is then a question about that concatenation alone. -/

/-- `sender_recv` in `validate_multi_id`: the sender's UTF-8 bytes extended by the
receiver's. -/
def sender_recv (txn : TxStateMachine) : Bytes :=
  as_bytes txn.sender_address ++ as_bytes txn.receiver_address

/-- **A matching multi-id binds the hashed bytes, not the pair.** Two transactions that carry
the same multi-id and both pass `validate_multi_id`, on whose two `sender_recv`s Blake2 does
not collide, have the same `sender_recv`. When their senders have the same byte length this
splits into the same sender bytes and the same receiver bytes, and ASCII addresses whose
senders have the same length are the same addresses. -/
theorem multi_id_binds_sender_recv (C : Crypto) (t₁ t₂ : TxStateMachine)
    (hinj : C.blake2_256 (sender_recv t₁) = C.blake2_256 (sender_recv t₂) →
      sender_recv t₁ = sender_recv t₂)
    (hm : t₁.multi_id = t₂.multi_id)
    (h₁ : validate_multi_id C t₁ = true) (h₂ : validate_multi_id C t₂ = true) :
    sender_recv t₁ = sender_recv t₂ ∧
      ((as_bytes t₁.sender_address).length = (as_bytes t₂.sender_address).length →
        as_bytes t₁.sender_address = as_bytes t₂.sender_address ∧
          as_bytes t₁.receiver_address = as_bytes t₂.receiver_address) ∧
      (is_ascii t₁.sender_address = true → is_ascii t₂.sender_address = true →
        is_ascii t₁.receiver_address = true → is_ascii t₂.receiver_address = true →
        t₁.sender_address.length = t₂.sender_address.length →
        t₁.sender_address = t₂.sender_address ∧ t₁.receiver_address = t₂.receiver_address) := by
  have hsr : sender_recv t₁ = sender_recv t₂ :=
    hinj (((validate_multi_id_eq C t₁).mp h₁).trans (hm.trans ((validate_multi_id_eq C t₂).mp h₂).symm))
  have split : (as_bytes t₁.sender_address).length = (as_bytes t₂.sender_address).length →
      as_bytes t₁.sender_address = as_bytes t₂.sender_address ∧
        as_bytes t₁.receiver_address = as_bytes t₂.receiver_address :=
    List.append_inj hsr
  refine ⟨hsr, split, fun a₁ a₂ b₁ b₂ hl => ?_⟩
  obtain ⟨hs, hr⟩ := split (by
    rw [as_bytes_of_ascii a₁, as_bytes_of_ascii a₂, List.length_map, List.length_map]
    exact hl)
  exact ⟨as_bytes_inj_of_ascii a₁ a₂ hs, as_bytes_inj_of_ascii b₁ b₂ hr⟩

/-- `signed_by_receiver` with the multi-id its addresses give under the symbolic scheme. -/
def bound_to_R : TxStateMachine :=
  { signed_by_receiver with multi_id := Crypto.symbolic.blake2_256 (sender_recv signed_by_receiver) }

theorem multi_id_binds_sender_recv_at :
    (Crypto.symbolic.blake2_256 (sender_recv bound_to_R) =
        Crypto.symbolic.blake2_256 (sender_recv { bound_to_R with amount := 1#128 }) →
      sender_recv bound_to_R = sender_recv { bound_to_R with amount := 1#128 }) ∧
    bound_to_R.multi_id = ({ bound_to_R with amount := 1#128 } : TxStateMachine).multi_id ∧
    validate_multi_id Crypto.symbolic bound_to_R = true ∧
    validate_multi_id Crypto.symbolic { bound_to_R with amount := 1#128 } = true ∧
    (sender_recv bound_to_R = sender_recv { bound_to_R with amount := 1#128 } ∧
      ((as_bytes bound_to_R.sender_address).length =
          (as_bytes ({ bound_to_R with amount := 1#128 } : TxStateMachine).sender_address).length →
        as_bytes bound_to_R.sender_address =
            as_bytes ({ bound_to_R with amount := 1#128 } : TxStateMachine).sender_address ∧
          as_bytes bound_to_R.receiver_address =
            as_bytes ({ bound_to_R with amount := 1#128 } : TxStateMachine).receiver_address) ∧
      (is_ascii bound_to_R.sender_address = true →
        is_ascii ({ bound_to_R with amount := 1#128 } : TxStateMachine).sender_address = true →
        is_ascii bound_to_R.receiver_address = true →
        is_ascii ({ bound_to_R with amount := 1#128 } : TxStateMachine).receiver_address = true →
        bound_to_R.sender_address.length =
          ({ bound_to_R with amount := 1#128 } : TxStateMachine).sender_address.length →
        bound_to_R.sender_address = ({ bound_to_R with amount := 1#128 } : TxStateMachine).sender_address ∧
          bound_to_R.receiver_address =
            ({ bound_to_R with amount := 1#128 } : TxStateMachine).receiver_address)) :=
  ⟨fun _ => rfl, rfl, by decide, by decide,
    multi_id_binds_sender_recv Crypto.symbolic _ _ (fun _ => rfl) rfl (by decide) (by decide)⟩

/-- Sender `ab` paying receiver `c`, with the multi-id `C` gives it. -/
def shifted_ab_c (C : Crypto) : TxStateMachine :=
  { signed_by_receiver with sender_address := "ab", receiver_address := "c",
                            multi_id := C.blake2_256 (as_bytes "abc") }

/-- Sender `a` paying receiver `bc`, with the same multi-id. -/
def shifted_a_bc (C : Crypto) : TxStateMachine :=
  { signed_by_receiver with sender_address := "a", receiver_address := "bc",
                            multi_id := C.blake2_256 (as_bytes "abc") }

/-- Moving a byte across the boundary keeps the multi-id: for every hash, the pairs
(`ab`, `c`) and (`a`, `bc`) hash the same bytes, so both pass `validate_multi_id` against one
multi-id though their senders differ. -/
theorem shifted_boundary_keeps_multi_id (C : Crypto) :
    sender_recv (shifted_ab_c C) = sender_recv (shifted_a_bc C) ∧
      (shifted_ab_c C).multi_id = (shifted_a_bc C).multi_id ∧
      validate_multi_id C (shifted_ab_c C) = true ∧
      validate_multi_id C (shifted_a_bc C) = true ∧
      (shifted_ab_c C).sender_address ≠ (shifted_a_bc C).sender_address := by
  have hab : as_bytes "ab" ++ as_bytes "c" = as_bytes "abc" := rfl
  have hbc : as_bytes "a" ++ as_bytes "bc" = as_bytes "abc" := rfl
  refine ⟨hab.trans hbc.symm, rfl, ?_, ?_, show "ab" ≠ "a" by decide⟩ <;>
    simp [validate_multi_id, shifted_ab_c, shifted_a_bc, hab, hbc]

/-- The shift under the symbolic scheme: the hashed bytes are the same, so no hash, injective
or not, tells the two pairs apart. -/
theorem multi_id_blind_to_boundary :
    sender_recv (shifted_ab_c Crypto.symbolic) = sender_recv (shifted_a_bc Crypto.symbolic) ∧
      (shifted_ab_c Crypto.symbolic).multi_id = (shifted_a_bc Crypto.symbolic).multi_id ∧
      validate_multi_id Crypto.symbolic (shifted_ab_c Crypto.symbolic) = true ∧
      validate_multi_id Crypto.symbolic (shifted_a_bc Crypto.symbolic) = true ∧
      (shifted_ab_c Crypto.symbolic).sender_address ≠ (shifted_a_bc Crypto.symbolic).sender_address :=
  shifted_boundary_keeps_multi_id Crypto.symbolic

/-! ## `submit_tx` -/

/-- The Ethereum and Bnb arms of `submit_tx` before the chain call: decode `call_payload`,
attach the 65-byte signature, and encode the signed raw transaction. The two arms differ
only in the text of the signature error. -/
def signed_raw_tx (A : Alloy) (signature_msg : String) (tx : TxStateMachine) :
    Except String Bytes := do
  let signature ← match tx.signed_call_payload with
    | some s => pure s
    | none => throw "sender did not signed the tx payload"
  let tx_payload ← match tx.call_payload with
    | some p => pure p
    | none => throw "call payload not found"
  let decoded_tx ← (A.decode tx_payload).mapError
    ("failed to decode eth EIP7702 tx payload; caused by: " ++ ·)
  let signature ← (Signature.try_from signature).mapError (signature_msg ++ ·)
  pure (A.encode_with_signature decoded_tx signature)

/-- The Ethereum and Bnb arms of `submit_tx`: the signed raw transaction is sent on the
network's client, whose answer, with its error text, is the result. -/
def submit_eip7702 (A : Alloy) (O : Outcomes) (network : ChainSupported)
    (signature_msg submit_msg : String) (tx : TxStateMachine) : NodeM (Except String H256) :=
  match signed_raw_tx A signature_msg tx with
  | .error e => pure (.error e)
  | .ok raw => do
    let receipt ← send_raw_transaction O network raw
    pure (receipt.mapError (submit_msg ++ ·))

/-- `TxProcessingWorker::submit_tx`: broadcast the externally signed transaction and return
its hash. Polkadot and Solana are `todo!()`. -/
def submit_tx (A : Alloy) (O : Outcomes) (tx : TxStateMachine) : NodeM (Except String H256) := do
  emit (.submit_tx tx)
  match tx.network with
  | .Polkadot => throw (.panic "not yet implemented")
  | .Ethereum =>
    (submit_eip7702 A O .Ethereum "failed to decode tx siganture :"
      "failed to submit eth raw tx; caused by :" tx)
  | .Bnb =>
    (submit_eip7702 A O .Bnb "failed to decode tx siganture; caused by: "
      "failed to submit eth raw tx; caused by: " tx)
  | .Solana => throw (.panic "not yet implemented")

end TxProcessingWorker

end node
