/-!
# `primitives::data_structure`: the transaction state machine and its records

`TxStateMachine` is the one value every layer of the node passes around: the RPC
layer hands it to the orchestrator, the orchestrator hands it to the peer and to
chain processing, and every handler forwards a copy of it. This file models it and
the records around it as `node/src/lib.rs` and `node/src/tx_processing.rs` use them.

The `primitives` crate that declares these types is not under `src/`. Field lists
and the status set follow spec §3; the five status setters the handlers call
(`recv_confirmation_passed` and the rest) and `new_tx_state_from_mutex` follow the
transitions spec §4.1 and §4.2 describe, and each says so in its docstring. Byte
strings are `List UInt8`; `u128` is `BitVec 128`, which is all `amount` ever is in
the source: copied into a history row or widened into a `U256`.
-/

set_option autoImplicit false

namespace primitives

/-- The bytes of a `Vec<u8>` or a `&[u8]`. -/
abbrev Bytes := List UInt8

/-- `str::as_bytes`: the UTF-8 encoding of a string. This is `String.toUTF8` read as a
list, written out so that it reduces on literals. -/
def as_bytes (s : String) : Bytes := s.data.flatMap String.utf8EncodeChar

/-- A 32-byte hash: `sp_core::H256` for `multi_id`, `[u8; 32]` for a chain transaction hash.
The length is a field, so a hash of any other width cannot be built. -/
structure H256 where
  bytes : Bytes
  length_eq : bytes.length = 32
  deriving DecidableEq

/-- The all-zero hash, `H256::zero()`. -/
def H256.zero : H256 := ⟨List.replicate 32 0, by simp⟩

/-- `ChainSupported`: the target networks. Polkadot is declared and never implemented. -/
inductive ChainSupported
  | Polkadot
  | Ethereum
  | Bnb
  | Solana
  deriving DecidableEq, Repr

/-- `TxStatus`, as spec §3 lists it. `TxSubmissionFailed` carries the chain-reported cause
the SenderConfirmed handler attaches (spec §4.2.3, Branch A step 2). -/
inductive TxStatus
  | Genesis
  | ReceiverConfirmation
  | RecvAddrConfirmed
  | RecvAddrFailed
  | NetConfirmed
  | SenderConfirmed
  | SenderConfirmationFailed
  | TxSubmissionPassed
  | TxSubmissionFailed (reason : String)
  deriving DecidableEq, Repr

/-- `TxStateMachine`: the record exchanged between all layers and between peers. -/
structure TxStateMachine where
  sender_address : String
  receiver_address : String
  multi_id : H256
  network : ChainSupported
  amount : BitVec 128
  call_payload : Option Bytes
  signed_call_payload : Option Bytes
  recv_signature : Option Bytes
  status : TxStatus
  inbound_req_id : Option UInt64
  outbound_req_id : Option UInt64
  tx_hash : Option H256
  deriving DecidableEq

namespace TxStateMachine

/-! ## The status setters

Modelled from the spec: the five methods below live in the `primitives` crate, which
is not under `src/`. Each sets what spec §4.2 says the transition sets and nothing else. -/

/-- Modelled from the spec: `TxStateMachine::recv_confirmation_passed` (primitives crate,
not under `src/`) advances to `RecvAddrConfirmed` (spec §4.2, Response routing). -/
def recv_confirmation_passed (t : TxStateMachine) : TxStateMachine :=
  { t with status := .RecvAddrConfirmed }

/-- Modelled from the spec: `TxStateMachine::recv_confirmation_failed` advances to
`RecvAddrFailed` (spec §4.2, Response routing). -/
def recv_confirmation_failed (t : TxStateMachine) : TxStateMachine :=
  { t with status := .RecvAddrFailed }

/-- Modelled from the spec: `TxStateMachine::sender_confirmation_failed` advances to
`SenderConfirmationFailed` (spec §4.2.3, Branch A step 1). -/
def sender_confirmation_failed (t : TxStateMachine) : TxStateMachine :=
  { t with status := .SenderConfirmationFailed }

/-- Modelled from the spec: `TxStateMachine::tx_submission_passed` sets `tx_hash` and
advances to `TxSubmissionPassed` (spec §4.2.3, Branch A step 2). -/
def tx_submission_passed (t : TxStateMachine) (tx_hash : H256) : TxStateMachine :=
  { t with status := .TxSubmissionPassed, tx_hash := some tx_hash }

/-- Modelled from the spec: `TxStateMachine::tx_submission_failed` advances to
`TxSubmissionFailed` with the cause attached (spec §4.2.3, Branch A step 2). -/
def tx_submission_failed (t : TxStateMachine) (reason : String) : TxStateMachine :=
  { t with status := .TxSubmissionFailed reason }

end TxStateMachine

/-- Modelled from the spec: `new_tx_state_from_mutex` (primitives crate, not under `src/`)
copies the guarded value out of its lock (spec §9, "a value copy"). -/
def new_tx_state_from_mutex (t : TxStateMachine) : TxStateMachine := t

/-! ## Records of the local store and the peer directory -/

/-- `DbTxStateMachine`: a row of the `tx_history` table. -/
structure DbTxStateMachine where
  tx_hash : Bytes
  amount : BitVec 128
  network : ChainSupported
  success : Bool
  deriving DecidableEq

/-- A remote peer-directory entry as `list_all_peers` returns it. The handlers `expect` and
`unwrap` its `peer_id` and `multi_addr`, so both are optional here as in the source. -/
structure Discovery where
  account_ids : List String
  peer_id : Option String
  multi_addr : Option String
  deriving DecidableEq

/-- Modelled from the spec: `PeerRecord`, the conversion `From<Discovery>` (primitives crate,
not under `src/`) that the Genesis handler writes to the local store. Spec §4.5 inserts "the
entry", so the record keeps the entry's accounts, peer id and address. -/
structure PeerRecord where
  account_ids : List String
  peer_id : Option String
  multi_addr : Option String
  deriving DecidableEq

/-- Modelled from the spec: `discovery.clone().into()`, the entry as a record. -/
def PeerRecord.of_discovery (d : Discovery) : PeerRecord :=
  ⟨d.account_ids, d.peer_id, d.multi_addr⟩

/-- A row of the `saved_peers` table as `get_saved_user_peers` returns it
(`db::db::saved_peers::Data`). -/
structure SavedPeer where
  account_id : String
  node_id : String
  multi_addr : String
  deriving DecidableEq

/-- Modelled from the spec: the `saved_peers` rows `record_saved_user_peers` (db crate, not
under `src/`) writes for a record, one per announced account (spec §6,
`saved_peers(account_id primary key, peer_id, multi_addr)`), when the record carries a peer
id and an address. -/
def PeerRecord.rows (r : PeerRecord) : List SavedPeer :=
  match r.peer_id, r.multi_addr with
  | some p, some m => r.account_ids.map fun a => ⟨a, p, m⟩
  | _, _ => []

/-! ## Swarm messages -/

/-- `libp2p::request_response::InboundRequestId`. -/
structure InboundRequestId where
  id : UInt64
  deriving DecidableEq

/-- `libp2p::request_response::OutboundRequestId`. -/
structure OutboundRequestId where
  id : UInt64
  deriving DecidableEq

/-- `SwarmMessage`: what the swarm task raises on the p2p-inbound channel. -/
inductive SwarmMessage
  | Request (data : Bytes) (inbound_id : InboundRequestId)
  | Response (data : Bytes) (outbound_id : OutboundRequestId)
  deriving DecidableEq

end primitives
