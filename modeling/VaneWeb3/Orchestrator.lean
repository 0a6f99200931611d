import VaneWeb3.TxProcessing

/-!
# `node/src/lib.rs`: the coordination orchestrator

`MainServiceWorker` runs two loops. `handle_incoming_rpc_tx_updates` takes the
transactions the user agent sends back over RPC and dispatches on their status;
`handle_swarm_event_messages` takes the requests and responses the swarm raises. Each
iteration of each loop is a `body` below, and each handler it calls is translated as
the source writes it: the same order of calls, the same `?`, the same `expect`.

Neither loop keeps a record of the transactions it handled. A handler's only state is what
`World` holds (the saved peers, the trace, and the lock of `tx_processing_worker`); the
transaction it handles arrives whole in the input, and its status is whatever that input
says. Both loops hold the same worker: `run` hands the swarm loop a clone of the `Arc` the
RPC loop reaches through `self`.

## What is proved here

* `handle_sender_confirmed_waits`: Branch A locks the worker in the scrutinee of its `if let`
  and, with the check passed, locks it again to call `submit_tx`. The second lock never
  returns, so from every world the handler waits forever with the worker locked and has
  appended nothing: `submit_tx` is never reached.
* For each handler, one inductive predicate lists every effect it can append, each
  constructor with the guard under which it happens (`response_effect`,
  `sender_confirmed_effect`), and one `Emits` lemma says the handler appends nothing else,
  for every world and every `Outcomes`. The safety and frame results about handlers
  (`VaneWeb3.Safety`) and about runs (`VaneWeb3.Runs`) are read off these lemmas and never
  unfold a handler again.
-/

set_option autoImplicit false

namespace node

open primitives NodeM TxProcessingWorker

/-- The libraries the handlers call, fixed for the life of the node. -/
structure Libs where
  crypto : Crypto
  alloy : Alloy
  /-- `<TxStateMachine as codec::Decode>::decode`; its error as `{err:?}` prints it. -/
  decode : Bytes → Except String TxStateMachine
  /-- `str::parse::<Multiaddr>`. -/
  parse_multiaddr : String → Except String Multiaddr
  /-- `PeerId::from_str`. -/
  peer_id_from_str : String → Except String PeerId
  /-- `DefaultHasher` over a request id: `id.hash(&mut hasher); hasher.finish()`. -/
  default_hash : UInt64 → UInt64

namespace MainServiceWorker

section Handlers

variable (L : Libs) (O : Outcomes)

/-! ## `handle_genesis_tx_state` -/

/-- The closure `handle_genesis_tx_state` passes to `find_map`: an entry that announces the
receiver yields its peer id, its address and the record to save. -/
def find_peer (target_id_addr : String) (discovery : Discovery) :
    Option (Option String × Option String × PeerRecord) :=
  match discovery.account_ids.find? (· == target_id_addr) with
  | some _ => some (discovery.peer_id, discovery.multi_addr, PeerRecord.of_discovery discovery)
  | none => none

theorem find_peer_eq (target_id_addr : String) (d : Discovery) :
    find_peer target_id_addr d = if d.account_ids.contains target_id_addr then
      some (d.peer_id, d.multi_addr, PeerRecord.of_discovery d) else none := by
  have h : (d.account_ids.find? (· == target_id_addr)).isSome =
      d.account_ids.contains target_id_addr := by
    rw [Bool.eq_iff_iff, List.find?_isSome]; simp
  unfold find_peer
  split <;> rename_i hf <;> rw [← h, hf] <;> rfl

/-- The search of the directory: the first entry whose accounts contain the receiver. -/
theorem findSome?_find_peer (target_id_addr : String) (ds : List Discovery) :
    ds.findSome? (find_peer target_id_addr) =
      (ds.find? (·.account_ids.contains target_id_addr)).map
        fun d => (d.peer_id, d.multi_addr, PeerRecord.of_discovery d) := by
  induction ds with
  | nil => rfl
  | cons d ds ih =>
    rw [List.findSome?_cons, List.find?_cons, find_peer_eq]
    cases d.account_ids.contains target_id_addr <;> simp [ih]

/-- `MainServiceWorker::handle_genesis_tx_state`: find the receiver's node in the local store,
else in the remote directory (saving it locally), then dial it and send it the transaction.
The three-second sleep after the dial is not modelled. -/
def handle_genesis_tx_state (txn : TxStateMachine) : NodeM Unit := do
  let target_id := txn.receiver_address
  let target_peer_result ← get_saved_user_peers target_id
  match target_peer_result with
  | .ok acc =>
    let multi_addr ← lift_result (L.parse_multiaddr acc.multi_addr)
    let peer_id ← lift_result (L.peer_id_from_str acc.node_id)
    dial_to_peer_id O multi_addr peer_id
    send_request O txn peer_id multi_addr
  | .error _ =>
    let acc_ids ← list_all_peers O
    let target_id_addr := txn.receiver_address
    if !acc_ids.isEmpty then
      match acc_ids.findSome? (find_peer target_id_addr) with
      | some (peer_id, multi_addr, peer_record) =>
        let multi_addr ← expect multi_addr "called `Option::unwrap()` on a `None` value"
        let multi_addr ← lift_result ((L.parse_multiaddr multi_addr).mapError
          ("failed to parse multi addr, caused by: " ++ ·))
        let peer_id ← expect peer_id "failed to parse peerId"
        let peer_id ← lift_result (L.peer_id_from_str peer_id)
        record_saved_user_peers O peer_record
        dial_to_peer_id O multi_addr peer_id
        send_request O txn peer_id multi_addr
      | none => pure ()
    else pure ()

/-! ## `handle_recv_addr_confirmed_tx_state` -/

/-- `MainServiceWorker::handle_recv_addr_confirmed_tx_state`: answer inbound request `id`. -/
def handle_recv_addr_confirmed_tx_state (id : UInt64) (txn : TxStateMachine) : NodeM Unit :=
  send_response O id txn

/-! ## `handle_sender_confirmed_tx_state` -/

/-- The message attached to a failed submission. -/
def resubmission_message (err : String) : String :=
  err ++ ": the tx will be resubmitted rest assured"

/-- `MainServiceWorker::handle_sender_confirmed_tx_state`. With `signed_call_payload` set
(Branch A) the sender's signature is checked under the worker's guard, which the `if let` keeps
alive through its block, and the submission locks the worker again inside it. Without it
(Branch B) the multi-id is checked and the unsigned transaction built, each under a guard
dropped at the end of its own statement. -/
def handle_sender_confirmed_tx_state (txn : TxStateMachine) : NodeM Unit := do
  let txn_inner := new_tx_state_from_mutex txn
  match txn_inner.signed_call_payload with
  | some _ =>
    with_worker do
      match validate_receiver_sender_address L.crypto txn_inner "Sender" with
      | .ok () =>
        match ← with_worker (submit_tx L.alloy O txn_inner) with
        | .ok tx_hash =>
          let txn_inner := txn_inner.tx_submission_passed tx_hash
          rpc_send O txn_inner
          update_success_tx O ⟨tx_hash.bytes, txn_inner.amount, txn_inner.network, true⟩
        | .error err =>
          rpc_send O (txn_inner.tx_submission_failed (resubmission_message err))
      | .error (.error _) =>
        rpc_send O txn_inner.sender_confirmation_failed
      | .error e => throw e
  | none =>
    if !(← with_worker (pure (validate_multi_id L.crypto txn_inner))) then do
      update_failed_tx O ⟨[], txn_inner.amount, txn_inner.network, false⟩
      rpc_send O txn_inner
    else do
      let to_send_tx_state_machine ← with_worker (lift_abort (create_tx L.alloy txn_inner))
      rpc_send O to_send_tx_state_machine

/-! ## The two loops -/

/-- One iteration of `handle_incoming_rpc_tx_updates`: dispatch on the status. -/
def handle_incoming_rpc_tx_updates.body (txn : TxStateMachine) : NodeM Unit :=
  match txn.status with
  | .Genesis => handle_genesis_tx_state L O txn
  | .RecvAddrConfirmed => do
    let inbound_id ← expect txn.inbound_req_id "no inbound req id found"
    handle_recv_addr_confirmed_tx_state O inbound_id txn
  | .NetConfirmed => throw (Abort.panic "not yet implemented")
  | .SenderConfirmed => handle_sender_confirmed_tx_state L O txn
  | _ => pure ()

/-- The Response arm of `handle_swarm_event_messages`, after decoding and stamping
`outbound_req_id`: check the receiver's signature under the worker's guard, which the `if let`
keeps through its `else` block, record a failure, forward. -/
def handle_response (decoded_resp : TxStateMachine) : NodeM Unit := do
  let decoded_resp ← with_worker
    (match validate_receiver_sender_address L.crypto decoded_resp "Receiver" with
    | .ok () => pure decoded_resp.recv_confirmation_passed
    | .error (.error _) => do
      let decoded_resp := decoded_resp.recv_confirmation_failed
      update_failed_tx O ⟨[], decoded_resp.amount, decoded_resp.network, false⟩
      pure decoded_resp
    | .error e => throw e)
  rpc_send O decoded_resp

/-- One iteration of `handle_swarm_event_messages`. An `Err` from the swarm is logged and
skipped. -/
def handle_swarm_event_messages.body : Except String SwarmMessage → NodeM Unit
  | .error _ => pure ()
  | .ok (.Request data inbound_id) => do
    let decoded_req ← result_expect (L.decode data) "failed to decode request body"
    let inbound_req_id := L.default_hash inbound_id.id
    rpc_send O { decoded_req with inbound_req_id := some inbound_req_id }
  | .ok (.Response data outbound_id) => do
    let decoded_resp ← result_expect (L.decode data) "failed to decode request body"
    let outbound_req_id := L.default_hash outbound_id.id
    handle_response L O { decoded_resp with outbound_req_id := some outbound_req_id }

end Handlers

/-- `MainServiceWorker::handle_incoming_rpc_tx_updates` over the updates the channel delivers
before it closes: each iteration runs to completion, and the `?` after each handler ends the
loop at the first one that fails. -/
def handle_incoming_rpc_tx_updates (L : Libs) (updates : List (TxStateMachine × Outcomes)) :
    NodeM Unit :=
  each (fun (txn, O) => handle_incoming_rpc_tx_updates.body L O txn) updates

theorem handle_incoming_rpc_tx_updates_cons (L : Libs) (txn : TxStateMachine) (O : Outcomes)
    (rest : List (TxStateMachine × Outcomes)) :
    handle_incoming_rpc_tx_updates L ((txn, O) :: rest) =
      (handle_incoming_rpc_tx_updates.body L O txn >>= fun _ => handle_incoming_rpc_tx_updates L rest) :=
  rfl

/-- `MainServiceWorker::handle_swarm_event_messages` over the events the swarm raises. The
source loop never returns `Ok`: after the last event it waits for the next one, which is
what `pure ()` stands for here. -/
def handle_swarm_event_messages (L : Libs) (events : List (Except String SwarmMessage × Outcomes)) :
    NodeM Unit :=
  each (fun (msg, O) => handle_swarm_event_messages.body L O msg) events

theorem handle_swarm_event_messages_cons (L : Libs) (msg : Except String SwarmMessage)
    (O : Outcomes) (rest : List (Except String SwarmMessage × Outcomes)) :
    handle_swarm_event_messages L ((msg, O) :: rest) =
      (handle_swarm_event_messages.body L O msg >>= fun _ => handle_swarm_event_messages L rest) :=
  rfl

/-! ## What each handler can append

One predicate per handler, one constructor per effect, each with the guard that lets it
happen; then the `Emits` lemma that the handler appends nothing else. -/

/-- Every effect `handle_genesis_tx_state` can append: the directory call, a dial, the request
carrying `txn` itself, and the saved record. Which peer it reaches is `VaneWeb3.Safety`'s. -/
inductive genesis_effect (txn : TxStateMachine) : Effect → Prop
  | list_all_peers : genesis_effect txn .list_all_peers
  | dial (a : Multiaddr) (p : PeerId) : genesis_effect txn (.dial_to_peer_id a p)
  | request (p : PeerId) (a : Multiaddr) (o : OutboundRequestId) :
      genesis_effect txn (.send_request txn p a o)
  | record (r : PeerRecord) : genesis_effect txn (.record_saved_user_peers r)

theorem handle_genesis_emits (L : Libs) (O : Outcomes) (txn : TxStateMachine) :
    Emits (genesis_effect txn) (fun _ => True) (handle_genesis_tx_state L O txn) := by
  unfold handle_genesis_tx_state
  refine Emits.bind (Emits.get_saved_user_peers' _) fun r _ => ?_
  split
  · exact Emits.bind (Emits.lift_result' _) fun _ _ => Emits.bind (Emits.lift_result' _)
      fun _ _ => Emits.bind (Emits.dial_to_peer_id' (.dial _ _)) fun _ _ =>
        Emits.send_request' (.request _ _ _)
  · refine Emits.bind (Emits.list_all_peers' .list_all_peers) fun ds _ => ?_
    dsimp only
    split
    · split
      · exact Emits.bind (Emits.expect' _ _) fun _ _ => Emits.bind (Emits.lift_result' _)
          fun _ _ => Emits.bind (Emits.expect' _ _) fun _ _ => Emits.bind (Emits.lift_result' _)
          fun _ _ => Emits.bind (Emits.record_saved_user_peers' fun _ => .record _) fun _ _ =>
          Emits.bind (Emits.dial_to_peer_id' (.dial _ _)) fun _ _ =>
            Emits.send_request' (.request _ _ _)
      · exact Emits.pure' trivial
    · exact Emits.pure' trivial

/-- Every effect `handle_response` can append for the stamped response `r`. -/
inductive response_effect (L : Libs) (O : Outcomes) (r : TxStateMachine) : Effect → Prop
  | confirmed (h : validate_receiver_sender_address L.crypto r "Receiver" = .ok ()) :
      response_effect L O r (.rpc_send r.recv_confirmation_passed)
  | failure_row (e : String)
      (h : validate_receiver_sender_address L.crypto r "Receiver" = .error (.error e))
      (hdb : O.update_failed_tx ⟨[], r.amount, r.network, false⟩ = .ok ()) :
      response_effect L O r (.update_failed_tx ⟨[], r.amount, r.network, false⟩)
  | failed (e : String)
      (h : validate_receiver_sender_address L.crypto r "Receiver" = .error (.error e)) :
      response_effect L O r (.rpc_send r.recv_confirmation_failed)

theorem handle_response_emits (L : Libs) (O : Outcomes) (r : TxStateMachine) :
    Emits (response_effect L O r) (fun _ => True) (handle_response L O r) := by
  unfold handle_response
  refine Emits.bind (Emits.with_worker' ?_) fun _ ht => Emits.rpc_send' ht
  cases hv : validate_receiver_sender_address L.crypto r "Receiver" with
  | ok u => exact Emits.pure' (P := fun t => response_effect L O r (.rpc_send t)) (.confirmed hv)
  | error e =>
    cases e with
    | error e =>
      exact Emits.bind (Emits.update_failed_tx' (.failure_row e hv)) fun _ _ =>
        Emits.pure' (.failed e hv)
    | panic m => exact Emits.throw' _
    | blocked => exact Emits.throw' _

/-- A Response handler that finds the worker locked waits at its guard. -/
theorem handle_response_of_locked (L : Libs) (O : Outcomes) (r : TxStateMachine) {w : World}
    (hl : w.worker_locked = true) : handle_response L O r w = (.error .blocked, w) :=
  bind_of_error (with_worker_of_locked _ hl) _

/-! ## The deadlock of Branch A -/

/-- A SenderConfirmed handler that finds the worker locked waits at its first guard. -/
theorem handle_sender_confirmed_of_locked (L : Libs) (O : Outcomes) (txn : TxStateMachine)
    {w : World} (hl : w.worker_locked = true) :
    handle_sender_confirmed_tx_state L O txn w = (.error .blocked, w) := by
  cases hs : txn.signed_call_payload <;>
    simp only [handle_sender_confirmed_tx_state, new_tx_state_from_mutex, hs]
  · rw [bind_of_error (with_worker_of_locked _ hl)]
  · exact with_worker_of_locked _ hl

/-- **Branch A waits forever.** A signed update that passes the "Sender" check is submitted
under a second lock of the worker inside the guard of the first: from every world the handler
waits forever with the worker locked, and has called nothing. -/
theorem handle_sender_confirmed_waits (L : Libs) (O : Outcomes) {txn : TxStateMachine} {s : Bytes}
    (hs : txn.signed_call_payload = some s)
    (hv : validate_receiver_sender_address L.crypto txn "Sender" = .ok ()) :
    handle_sender_confirmed_tx_state L O txn = deadlock := by
  simp only [handle_sender_confirmed_tx_state, new_tx_state_from_mutex, hs, hv]
  exact with_worker_reenter _ _

/-- Every effect `handle_sender_confirmed_tx_state` can append, each under its branch's
guards: in Branch A (a signed payload) only the failed sender check's answer, since a passing
check waits forever; in Branch B (no signed payload) what follows the multi-id check. -/
inductive sender_confirmed_effect (L : Libs) (O : Outcomes) (txn : TxStateMachine) :
    Effect → Prop
  | sender_failed (s : Bytes) (hs : txn.signed_call_payload = some s) (e : String)
      (hv : validate_receiver_sender_address L.crypto txn "Sender" = .error (.error e)) :
      sender_confirmed_effect L O txn (.rpc_send txn.sender_confirmation_failed)
  | mismatch_row (hs : txn.signed_call_payload = none)
      (hm : validate_multi_id L.crypto txn = false)
      (hdb : O.update_failed_tx ⟨[], txn.amount, txn.network, false⟩ = .ok ()) :
      sender_confirmed_effect L O txn (.update_failed_tx ⟨[], txn.amount, txn.network, false⟩)
  | mismatch (hs : txn.signed_call_payload = none) (hm : validate_multi_id L.crypto txn = false) :
      sender_confirmed_effect L O txn (.rpc_send txn)
  | unsigned (hs : txn.signed_call_payload = none) (hm : validate_multi_id L.crypto txn = true)
      (t : TxStateMachine) (hc : create_tx L.alloy txn = .ok t) :
      sender_confirmed_effect L O txn (.rpc_send t)

theorem handle_sender_confirmed_emits (L : Libs) (O : Outcomes) (txn : TxStateMachine) :
    Emits (sender_confirmed_effect L O txn) (fun _ => True)
      (handle_sender_confirmed_tx_state L O txn) := by
  cases hs : txn.signed_call_payload with
  | some s =>
    cases hv : validate_receiver_sender_address L.crypto txn "Sender" with
    | ok u => exact handle_sender_confirmed_waits L O hs hv ▸ Emits.deadlock'
    | error e =>
      cases e <;> simp only [handle_sender_confirmed_tx_state, new_tx_state_from_mutex, hs, hv]
      case error e => exact Emits.with_worker' (Emits.rpc_send' (.sender_failed s hs e hv))
      all_goals exact Emits.with_worker' (Emits.throw' _)
  | none =>
    simp only [handle_sender_confirmed_tx_state, new_tx_state_from_mutex, hs]
    refine Emits.bind (Emits.with_worker'
      (Emits.pure' (P := fun b => b = validate_multi_id L.crypto txn) rfl)) fun _ hb => ?_
    subst hb
    cases hm : validate_multi_id L.crypto txn
    · exact Emits.bind (Emits.update_failed_tx' (.mismatch_row hs hm))
        fun _ _ => Emits.rpc_send' (.mismatch hs hm)
    · exact Emits.bind (Emits.with_worker' (Emits.lift_abort' _)) fun t ht =>
        Emits.rpc_send' (.unsigned hs hm t ht)

/-- Every effect one iteration of the RPC loop can append for the update `txn`: its status
picks the handler, and every other status appends nothing. -/
def rpc_update_effect (L : Libs) (O : Outcomes) (txn : TxStateMachine) (e : Effect) : Prop :=
  match txn.status with
  | .Genesis => genesis_effect txn e
  | .RecvAddrConfirmed => ∃ id, txn.inbound_req_id = some id ∧ e = .send_response id txn
  | .SenderConfirmed => sender_confirmed_effect L O txn e
  | _ => False

theorem rpc_update_emits (L : Libs) (O : Outcomes) (txn : TxStateMachine) :
    Emits (rpc_update_effect L O txn) (fun _ => True)
      (handle_incoming_rpc_tx_updates.body L O txn) := by
  unfold handle_incoming_rpc_tx_updates.body
  split <;> rename_i h
  · exact (handle_genesis_emits L O txn).mono
      (fun e he => by simpa only [rpc_update_effect, h] using he) fun _ h => h
  · exact Emits.bind (Emits.expect' _ _) fun id hid => Emits.send_response'
      (by simp only [rpc_update_effect, h]; exact ⟨id, hid, rfl⟩)
  · exact Emits.throw' _
  · exact (handle_sender_confirmed_emits L O txn).mono
      (fun e he => by simpa only [rpc_update_effect, h] using he) fun _ h => h
  · exact Emits.pure' trivial

/-- Every effect one iteration of the swarm loop can append for the event `msg`. -/
def swarm_event_effect (L : Libs) (O : Outcomes) : Except String SwarmMessage → Effect → Prop
  | .error _, _ => False
  | .ok (.Request data inbound_id), e => ∃ r, L.decode data = .ok r ∧
      e = .rpc_send { r with inbound_req_id := some (L.default_hash inbound_id.id) }
  | .ok (.Response data outbound_id), e => ∃ r, L.decode data = .ok r ∧
      response_effect L O { r with outbound_req_id := some (L.default_hash outbound_id.id) } e

theorem swarm_event_emits (L : Libs) (O : Outcomes) (msg : Except String SwarmMessage) :
    Emits (swarm_event_effect L O msg) (fun _ => True)
      (handle_swarm_event_messages.body L O msg) := by
  rcases msg with _ | ⟨data, id⟩ | ⟨data, id⟩
  · exact Emits.pure' trivial
  · exact Emits.bind (Emits.result_expect' _ _) fun r hr => Emits.rpc_send' ⟨r, hr, rfl⟩
  · exact Emits.bind (Emits.result_expect' _ _) fun r hr =>
      (handle_response_emits L O _).mono (fun e he => ⟨r, hr, he⟩) fun _ h => h

/-! ## What each handler reads and writes of the world

Only the Genesis handler reads the store and only it writes to it, the rows of the record it
commits; only the SenderConfirmed and Response handlers read the lock, and only Branch A keeps
it; no handler reads the trace. -/

/-- The receiver check never waits, so the Response handler's guard is always dropped. -/
theorem handle_response_worker_frame (L : Libs) (O : Outcomes) (r : TxStateMachine) :
    WorkerFrame (handle_response L O r) := by
  unfold handle_response
  refine WorkerFrame.bind (Blind.with_worker ?_ fun w => ?_) fun _ =>
    (Blind.rpc_send' _ _).worker_frame
  all_goals cases hv : validate_receiver_sender_address L.crypto r "Receiver" with
    | ok u => first | exact Blind.pure' _ | rfl
    | error e =>
      cases e with
      | error e => first
        | exact Blind.bind (Blind.update_failed_tx' _ _) fun _ => Blind.pure' _
        | cases hdb : O.update_failed_tx ⟨[], r.amount, r.network, false⟩ <;>
            simp [bind_apply, update_failed_tx, hdb, TxStateMachine.recv_confirmation_failed]
      | panic m => first | exact Blind.throw' _ | rfl
      | blocked => exact absurd hv (validate_not_blocked _ _ _)

/-- **The swarm loop reads only the lock.** An iteration reads neither the store nor the trace,
leaves the lock as it found it, and appends effects that commit no store row. -/
theorem swarm_event_worker_frame (L : Libs) (O : Outcomes) (msg : Except String SwarmMessage) :
    WorkerFrame (handle_swarm_event_messages.body L O msg) := by
  rcases msg with _ | ⟨data, id⟩ | ⟨data, id⟩
  · exact (Blind.pure' _).worker_frame
  · exact (Blind.bind (Blind.result_expect' _ _) fun _ => Blind.rpc_send' _ _).worker_frame
  · exact WorkerFrame.bind (Blind.result_expect' _ _).worker_frame fun _ =>
      handle_response_worker_frame L O _

theorem handle_sender_confirmed_store_frame (L : Libs) (O : Outcomes) (txn : TxStateMachine) :
    StoreFrame (handle_sender_confirmed_tx_state L O txn) := by
  cases hs : txn.signed_call_payload with
  | some s =>
    cases hv : validate_receiver_sender_address L.crypto txn "Sender" with
    | ok u => exact handle_sender_confirmed_waits L O hs hv ▸ StoreFrame.deadlock'
    | error e =>
      cases e <;> simp only [handle_sender_confirmed_tx_state, new_tx_state_from_mutex, hs, hv]
      case error e => exact StoreFrame.with_worker' (Blind.rpc_send' _ _).store_frame
      all_goals exact StoreFrame.with_worker' (Blind.throw' _).store_frame
  | none =>
    simp only [handle_sender_confirmed_tx_state, new_tx_state_from_mutex, hs]
    refine StoreFrame.bind (StoreFrame.with_worker' (Blind.pure' _).store_frame) fun b => ?_
    cases b
    · exact (Blind.bind (Blind.update_failed_tx' _ _) fun _ => Blind.rpc_send' _ _).store_frame
    · exact StoreFrame.bind (StoreFrame.with_worker' (Blind.lift_abort' _).store_frame) fun _ =>
        (Blind.rpc_send' _ _).store_frame

theorem handle_genesis_store_frame (L : Libs) (O : Outcomes) (txn : TxStateMachine) :
    StoreFrame (handle_genesis_tx_state L O txn) := by
  have reach : ∀ m p, StoreFrame (dial_to_peer_id O m p >>= fun _ => send_request O txn p m) :=
    fun _ _ => (Blind.bind (Blind.dial_to_peer_id' _ _ _) fun _ =>
      Blind.send_request' _ _ _ _).store_frame
  unfold handle_genesis_tx_state
  refine StoreFrame.bind (StoreFrame.get_saved_user_peers' _) fun r => ?_
  split
  · exact StoreFrame.bind (Blind.lift_result' _).store_frame fun _ =>
      StoreFrame.bind (Blind.lift_result' _).store_frame fun _ => reach _ _
  · refine StoreFrame.bind (Blind.list_all_peers' _).store_frame fun ds => ?_
    dsimp only
    split
    · split
      · exact StoreFrame.bind (Blind.expect' _ _).store_frame fun _ =>
          StoreFrame.bind (Blind.lift_result' _).store_frame fun _ =>
          StoreFrame.bind (Blind.expect' _ _).store_frame fun _ =>
          StoreFrame.bind (Blind.lift_result' _).store_frame fun _ =>
          StoreFrame.bind (StoreFrame.record_saved_user_peers' _ _) fun _ => reach _ _
      · exact (Blind.pure' _).store_frame
    · exact (Blind.pure' _).store_frame

/-- **The RPC loop reads only the store and the lock.** What an iteration does depends on
them alone; the store it leaves is the rows of the records it committed over the one it
found, and a lock it found held stays held. -/
theorem rpc_update_store_frame (L : Libs) (O : Outcomes) (txn : TxStateMachine) :
    StoreFrame (handle_incoming_rpc_tx_updates.body L O txn) := by
  unfold handle_incoming_rpc_tx_updates.body
  split
  · exact handle_genesis_store_frame L O txn
  · exact (Blind.bind (Blind.expect' _ _) fun _ => Blind.send_response' _ _ _).store_frame
  · exact (Blind.throw' _).store_frame
  · exact handle_sender_confirmed_store_frame L O txn
  · exact (Blind.pure' _).store_frame

end MainServiceWorker

/-! ## Libraries and answers for the witnesses -/

/-- The libraries of the witnesses: the symbolic signature scheme, the stub `alloy`, and a
wire codec given as the byte strings it knows and the transaction each decodes to; it fails on
any other with the error the codec reports for input that ends too soon. A multiaddress parses
when it starts with `/`, as a libp2p one does. -/
def Libs.symbolic (wire : List (Bytes × TxStateMachine)) : Libs where
  crypto := Crypto.symbolic
  alloy := Alloy.stub
  decode data := match wire.lookup data with
    | some t => .ok t
    | none => .error "Not enough data to fill buffer"
  parse_multiaddr s := match s.data with
    | '/' :: _ => .ok ⟨s⟩
    | _ => .error "invalid multiaddr"
  peer_id_from_str s := .ok ⟨s⟩
  default_hash id := id

/-- The outside world answering every call with success; the chain returns the zero hash and
the swarm numbers the request `0`. -/
def Outcomes.succeed : Outcomes where
  rpc_send _ := .ok ()
  update_failed_tx _ := .ok ()
  update_success_tx _ := .ok ()
  record_saved_user_peers _ := .ok ()
  list_all_peers := .ok []
  dial_to_peer_id _ _ := .ok ()
  send_request _ _ _ := .ok ()
  outbound_id := ⟨0⟩
  send_response _ _ := .ok ()
  send_raw_transaction _ _ := .ok H256.zero

end node
