import VaneWeb3.Safety

/-!
# How the loops fail

Spec §7 asks that a malformed swarm message be dropped with a log entry and that unexpected
I/O errors be logged while the task goes on, and `handle_swarm_event_messages` says of its own
loop that it "should never end". The two loops of `node/src/lib.rs` return through `?` at the
first failed call, panic at every `expect`, `unwrap` and `todo!()`, and wait forever at a
worker that stays locked. This file says exactly when each loop goes on.

* `swarm_event_ok_iff` and `rpc_update_ok_iff`: an input runs through its loop exactly when
  `swarm_event_runs_through` or `rpc_update_runs_through` holds of it, at the store and lock it
  finds.
* `failures_end_their_loop`: an input that does not run through ends its loop. The loop's
  outcome is that input's, and no later input is handled.
* `swarm_loop_error_behaviour`: the swarm loop runs through a list of events exactly when each
  event does at the lock it started from, which no swarm iteration changes; an `Err` from the
  swarm is skipped as if it had never come; and an event whose data does not decode is not
  dropped but panics with `Result::expect`'s message, ending the loop.
* `rpc_loop_panics_iff`: the RPC loop panics exactly at the first update, from the world the
  updates before it left, that `rpc_update_panic` lists, with the message the source prints.
-/

set_option autoImplicit false

namespace node

open primitives NodeM TxProcessingWorker MainServiceWorker Safety

namespace Failures

/-! ## The Genesis handler's last calls

Whether a handler returns `Ok` never depends on its trace: each call goes on exactly when its
outcome is `Ok`. -/

/-- The dial and the request that end both Genesis paths. -/
theorem dial_send_ok_iff (O : Outcomes) (txn : TxStateMachine) (m : Multiaddr) (p : PeerId)
    (w : World) :
    ((do dial_to_peer_id O m p; send_request O txn p m : NodeM Unit) w).1 = .ok () ↔
      O.dial_to_peer_id m p = .ok () ∧ O.send_request txn p m = .ok () := by
  rcases h₁ : O.dial_to_peer_id m p with _ | ⟨⟨⟩⟩ <;>
  rcases h₂ : O.send_request txn p m with _ | ⟨⟨⟩⟩ <;>
    simp [bind_apply, dial_to_peer_id, send_request, h₁, h₂]

/-- The write of a discovered entry, then the dial and the request. -/
theorem record_dial_send_ok_iff (O : Outcomes) (txn : TxStateMachine) (r : PeerRecord)
    (m : Multiaddr) (p : PeerId) (w : World) :
    ((do record_saved_user_peers O r; dial_to_peer_id O m p; send_request O txn p m :
        NodeM Unit) w).1 = .ok () ↔
      O.record_saved_user_peers r = .ok () ∧ O.dial_to_peer_id m p = .ok () ∧
        O.send_request txn p m = .ok () := by
  rcases h : O.record_saved_user_peers r with _ | ⟨⟨⟩⟩
  · simp [bind_apply, record_saved_user_peers, h]
  · have hr : record_saved_user_peers O r w = (.ok (), { w with
        saved_peers := r.rows ++ w.saved_peers,
        trace := w.trace ++ [.record_saved_user_peers r] }) := by
      simp [record_saved_user_peers, bind_apply, h, insert_saved_peers]
    rw [bind_of_ok hr, dial_send_ok_iff]
    simp

/-! ## When an input runs through -/

/-- The stamped response `r` runs through `handle_response` once it has the worker: its receiver
check passes and the confirmed transaction is forwarded, or the check fails, the failure row is
written and the failed transaction is forwarded. -/
def response_runs_through (L : Libs) (O : Outcomes) (r : TxStateMachine) : Prop :=
  (validate_receiver_sender_address L.crypto r "Receiver" = .ok () ∧
    O.rpc_send r.recv_confirmation_passed = .ok ()) ∨
  (∃ e, validate_receiver_sender_address L.crypto r "Receiver" = .error (.error e) ∧
    O.update_failed_tx ⟨[], r.amount, r.network, false⟩ = .ok () ∧
    O.rpc_send r.recv_confirmation_failed = .ok ())

/-- An event runs through the swarm loop, with the worker locked or not: an `Err` always; a
request when its data decodes and the forward goes through; a response when its data decodes,
the worker is free, and what follows goes through. -/
def swarm_event_runs_through (L : Libs) (O : Outcomes) (locked : Bool) :
    Except String SwarmMessage → Prop
  | .error _ => True
  | .ok (.Request data inbound_id) => ∃ r, L.decode data = .ok r ∧
      O.rpc_send { r with inbound_req_id := some (L.default_hash inbound_id.id) } = .ok ()
  | .ok (.Response data outbound_id) => ∃ r, L.decode data = .ok r ∧ locked = false ∧
      response_runs_through L O { r with outbound_req_id := some (L.default_hash outbound_id.id) }

/-- The Genesis handler runs through from a store: its route names a node whose address and peer
id parse, and the write of a discovered entry, the dial and the request all go through; or it
has no route and the directory answered. -/
def genesis_runs_through (L : Libs) (O : Outcomes) (saved : List SavedPeer)
    (txn : TxStateMachine) : Prop :=
  match genesis_route saved O.list_all_peers txn.receiver_address with
  | .saved acc => ∃ m p, (GenesisRoute.saved acc).leads_to L m p ∧
      O.dial_to_peer_id m p = .ok () ∧ O.send_request txn p m = .ok ()
  | .discovered d => ∃ m p, (GenesisRoute.discovered d).leads_to L m p ∧
      O.record_saved_user_peers (.of_discovery d) = .ok () ∧
      O.dial_to_peer_id m p = .ok () ∧ O.send_request txn p m = .ok ()
  | .unresolved => ∃ ds, O.list_all_peers = .ok ds

/-- The SenderConfirmed handler runs through, with the worker locked or not: the worker is free,
and a signed update fails the "Sender" check and its answer is forwarded, or an unsigned one
has its multi-id checked and what follows goes through. A signed update that passes the check
never runs through: it waits forever. -/
def sender_confirmed_runs_through (L : Libs) (O : Outcomes) (locked : Bool)
    (txn : TxStateMachine) : Prop :=
  locked = false ∧
  match txn.signed_call_payload with
  | some _ => (∃ e, validate_receiver_sender_address L.crypto txn "Sender" = .error (.error e)) ∧
      O.rpc_send txn.sender_confirmation_failed = .ok ()
  | none =>
    if validate_multi_id L.crypto txn then
      ∃ t, create_tx L.alloy txn = .ok t ∧ O.rpc_send t = .ok ()
    else O.update_failed_tx ⟨[], txn.amount, txn.network, false⟩ = .ok () ∧ O.rpc_send txn = .ok ()

/-- An update runs through the RPC loop from a store, with the worker locked or not, by its
status. A NetConfirmed update never does. -/
def rpc_update_runs_through (L : Libs) (O : Outcomes) (saved : List SavedPeer) (locked : Bool)
    (txn : TxStateMachine) : Prop :=
  match txn.status with
  | .Genesis => genesis_runs_through L O saved txn
  | .RecvAddrConfirmed => ∃ id, txn.inbound_req_id = some id ∧ O.send_response id txn = .ok ()
  | .NetConfirmed => False
  | .SenderConfirmed => sender_confirmed_runs_through L O locked txn
  | _ => True

theorem handle_response_ok_iff (L : Libs) (O : Outcomes) (r : TxStateMachine) (w : World) :
    (handle_response L O r w).1 = .ok () ↔
      w.worker_locked = false ∧ response_runs_through L O r := by
  cases hl : w.worker_locked
  · unfold handle_response response_runs_through
    rw [bind_apply, with_worker_of_unlocked _ hl]
    cases hv : validate_receiver_sender_address L.crypto r "Receiver" with
    | ok u => simp [rpc_send_ok_iff]
    | error e =>
      cases e with
      | error e =>
        cases hdb : O.update_failed_tx ⟨[], r.amount, r.network, false⟩ <;>
          simp [bind_apply, update_failed_tx, hdb, rpc_send_ok_iff,
            TxStateMachine.recv_confirmation_failed]
      | panic m => simp
      | blocked => simp
  · simp [handle_response_of_locked L O r hl]

theorem swarm_event_ok_iff (L : Libs) (O : Outcomes) (msg : Except String SwarmMessage)
    (w : World) :
    (handle_swarm_event_messages.body L O msg w).1 = .ok () ↔
      swarm_event_runs_through L O w.worker_locked msg := by
  rcases msg with _ | ⟨data, id⟩ | ⟨data, id⟩
  · simp [handle_swarm_event_messages.body, swarm_event_runs_through]
  · cases hd : L.decode data <;> simp [handle_swarm_event_messages.body,
      swarm_event_runs_through, bind_apply, hd, rpc_send_ok_iff]
  · cases hd : L.decode data <;> simp [handle_swarm_event_messages.body,
      swarm_event_runs_through, bind_apply, hd, handle_response_ok_iff]

theorem genesis_ok_iff (L : Libs) (O : Outcomes) (txn : TxStateMachine) (w : World) :
    (handle_genesis_tx_state L O txn w).1 = .ok () ↔
      genesis_runs_through L O w.saved_peers txn := by
  unfold handle_genesis_tx_state genesis_runs_through
  dsimp only
  rw [get_saved_user_peers_bind]
  cases hl : lookup_saved_peer w.saved_peers txn.receiver_address with
  | ok acc =>
    rw [show genesis_route _ _ _ = .saved acc by simp only [genesis_route, hl]]
    simp only [lift_result_bind_ok_iff, dial_send_ok_iff, GenesisRoute.leads_to, and_assoc,
      exists_and_left]
  | error err =>
    cases hds : O.list_all_peers with
    | error e => simp [genesis_route, hl, hds, bind_apply, list_all_peers]
    | ok ds =>
      cases hd : ds.find? (·.account_ids.contains txn.receiver_address) with
      | none =>
        have hfs : ds.findSome? (find_peer txn.receiver_address) = none := by
          rw [findSome?_find_peer, hd]; rfl
        rw [show genesis_route _ _ _ = .unresolved by simp only [genesis_route, hl, hds, hd]]
        simp [hds, hfs, bind_apply, list_all_peers]
      | some d =>
        have hfs : ds.findSome? (find_peer txn.receiver_address) =
            some (d.peer_id, d.multi_addr, .of_discovery d) := by
          rw [findSome?_find_peer, hd]; rfl
        have hne : ds.isEmpty = false := by cases ds; cases hd; rfl
        rw [show genesis_route _ _ _ = .discovered d by simp only [genesis_route, hl, hds, hd]]
        simp only [bind_apply, list_all_peers, emit_apply, lift_result_apply, hds,
          except_mapError_ok]
        simp only [hne, hfs, Bool.not_false, if_true, expect_bind_ok_iff, lift_result_bind_ok_iff,
          except_mapError_eq_ok_iff, record_dial_send_ok_iff, GenesisRoute.leads_to]
        constructor
        · rintro ⟨ma, hma, m, hm, pid, hpid, p, hp, h⟩
          exact ⟨m, p, ⟨ma, pid, hma, hpid, hm, hp⟩, h⟩
        · rintro ⟨m, p, ⟨ma, pid, hma, hpid, hm, hp⟩, h⟩
          exact ⟨ma, hma, m, hm, pid, hpid, p, hp, h⟩

theorem sender_confirmed_ok_iff (L : Libs) (O : Outcomes) (txn : TxStateMachine) (w : World) :
    (handle_sender_confirmed_tx_state L O txn w).1 = .ok () ↔
      sender_confirmed_runs_through L O w.worker_locked txn := by
  unfold sender_confirmed_runs_through
  cases hl : w.worker_locked
  case true => simp [handle_sender_confirmed_of_locked L O txn hl]
  case false =>
    cases hs : txn.signed_call_payload with
    | some s =>
      rcases hv : validate_receiver_sender_address L.crypto txn "Sender" with e | ⟨⟨⟩⟩
      · simp only [handle_sender_confirmed_tx_state, new_tx_state_from_mutex, hs, hv,
          with_worker_ok_iff, hl]
        cases e <;> simp [rpc_send_ok_iff]
      · simp [handle_sender_confirmed_waits L O hs hv, deadlock]
    | none =>
      simp only [handle_sender_confirmed_tx_state, new_tx_state_from_mutex, hs, bind_apply,
        with_worker_pure _ hl]
      cases hm : validate_multi_id L.crypto txn
      · cases hdb : O.update_failed_tx ⟨[], txn.amount, txn.network, false⟩ <;>
          simp [bind_apply, update_failed_tx, hdb, rpc_send_ok_iff]
      · rcases hc : create_tx L.alloy txn with e | t <;>
          simp [bind_apply, with_worker_of_unlocked _ hl, lift_abort, hc, rpc_send_ok_iff]

theorem rpc_update_ok_iff (L : Libs) (O : Outcomes) (txn : TxStateMachine) (w : World) :
    (handle_incoming_rpc_tx_updates.body L O txn w).1 = .ok () ↔
      rpc_update_runs_through L O w.saved_peers w.worker_locked txn := by
  unfold handle_incoming_rpc_tx_updates.body rpc_update_runs_through
  cases hst : txn.status <;> simp only []
  case Genesis => exact genesis_ok_iff L O txn w
  case SenderConfirmed => exact sender_confirmed_ok_iff L O txn w
  case RecvAddrConfirmed =>
    cases txn.inbound_req_id with
    | none => simp
    | some i =>
      cases h : O.send_response i txn <;>
        simp [bind_apply, handle_recv_addr_confirmed_tx_state, send_response, h]
  all_goals simp

/-- No swarm iteration changes the lock: only Branch A of the RPC loop keeps it. -/
theorem swarm_event_keeps_lock (L : Libs) (O : Outcomes) (msg : Except String SwarmMessage)
    (w : World) :
    (handle_swarm_event_messages.body L O msg w).2.worker_locked = w.worker_locked := by
  rw [(swarm_event_worker_frame L O msg).apply w]

theorem swarm_loop_keeps_lock (L : Libs) (events : List (Except String SwarmMessage × Outcomes))
    (w : World) : (handle_swarm_event_messages L events w).2.worker_locked = w.worker_locked :=
  each_preserves _ World.worker_locked (fun ⟨msg, O⟩ w => swarm_event_keeps_lock L O msg w) events w

/-! ## A failing input ends its loop -/

/-- **A failing input ends its loop, and only a failing one.** For every list of inputs before
it that runs through, from every world and for every outcome of the calls: an event that runs
through the swarm loop at the lock the loop started from, or an update that runs through the RPC
loop at the store and the lock the updates before it left, leaves the inputs after it to be
handled from the world it leaves. One that does not returns something other than `Ok`, and the
loop over those inputs, it, and any inputs after it ends as the loop over the inputs before it
followed by that input alone: no later input is handled. -/
theorem failures_end_their_loop (L : Libs) :
    (∀ pre (msg : Except String SwarmMessage) (O : Outcomes) post w,
      (handle_swarm_event_messages L pre w).1 = .ok () →
      (swarm_event_runs_through L O w.worker_locked msg →
        handle_swarm_event_messages L (pre ++ (msg, O) :: post) w =
          handle_swarm_event_messages L post (handle_swarm_event_messages.body L O msg
            (handle_swarm_event_messages L pre w).2).2) ∧
      (¬ swarm_event_runs_through L O w.worker_locked msg →
        (handle_swarm_event_messages.body L O msg (handle_swarm_event_messages L pre w).2).1 ≠
            .ok () ∧
          handle_swarm_event_messages L (pre ++ (msg, O) :: post) w =
            handle_swarm_event_messages.body L O msg (handle_swarm_event_messages L pre w).2)) ∧
    (∀ pre (txn : TxStateMachine) (O : Outcomes) post w,
      (handle_incoming_rpc_tx_updates L pre w).1 = .ok () →
      (rpc_update_runs_through L O (handle_incoming_rpc_tx_updates L pre w).2.saved_peers
          (handle_incoming_rpc_tx_updates L pre w).2.worker_locked txn →
        handle_incoming_rpc_tx_updates L (pre ++ (txn, O) :: post) w =
          handle_incoming_rpc_tx_updates L post (handle_incoming_rpc_tx_updates.body L O txn
            (handle_incoming_rpc_tx_updates L pre w).2).2) ∧
      (¬ rpc_update_runs_through L O (handle_incoming_rpc_tx_updates L pre w).2.saved_peers
          (handle_incoming_rpc_tx_updates L pre w).2.worker_locked txn →
        (handle_incoming_rpc_tx_updates.body L O txn
            (handle_incoming_rpc_tx_updates L pre w).2).1 ≠ .ok () ∧
          handle_incoming_rpc_tx_updates L (pre ++ (txn, O) :: post) w =
            handle_incoming_rpc_tx_updates.body L O txn
              (handle_incoming_rpc_tx_updates L pre w).2)) := by
  constructor
  · intro pre msg O post w hpre
    have hok := swarm_event_ok_iff L O msg (handle_swarm_event_messages L pre w).2
    rw [swarm_loop_keeps_lock] at hok
    have happ := each_append_of_ok _ hpre ((msg, O) :: post)
    refine ⟨fun h => happ.trans (each_cons_of_ok _ (m := (msg, O)) (hok.mpr h) post), fun h => ?_⟩
    exact ⟨mt hok.mp h, happ.trans (each_cons_of_not_ok _ (m := (msg, O)) (mt hok.mp h) post)⟩
  · intro pre txn O post w hpre
    have hok := rpc_update_ok_iff L O txn (handle_incoming_rpc_tx_updates L pre w).2
    have happ := each_append_of_ok _ hpre ((txn, O) :: post)
    refine ⟨fun h => happ.trans (each_cons_of_ok _ (m := (txn, O)) (hok.mpr h) post), fun h => ?_⟩
    exact ⟨mt hok.mp h, happ.trans (each_cons_of_not_ok _ (m := (txn, O)) (mt hok.mp h) post)⟩

/-- A NetConfirmed update ends the RPC loop at its `todo!()`, so the Genesis update after it is
never handled; an undecodable request ends the swarm loop at its `expect`, so the request after
it is never forwarded. Both loops stop with the world untouched. -/
theorem failures_end_their_loop_at :
    handle_incoming_rpc_tx_updates (Libs.symbolic [])
        [({ genesis_update with status := .NetConfirmed }, Outcomes.succeed),
          (genesis_update, Outcomes.succeed)] ⟨[], [], false⟩ =
      (.error (.panic "not yet implemented"), ⟨[], [], false⟩) ∧
    handle_swarm_event_messages (Libs.symbolic [([7], genesis_update)])
        [(.ok (.Request [] ⟨0⟩), Outcomes.succeed), (.ok (.Request [7] ⟨1⟩), Outcomes.succeed)]
        ⟨[], [], false⟩ =
      (.error (.panic "failed to decode request body: Not enough data to fill buffer"),
        ⟨[], [], false⟩) :=
  ⟨((failures_end_their_loop _).2 [] _ _ _ _ rfl).2 (by simp [rpc_update_runs_through]) |>.2,
    ((failures_end_their_loop _).1 [] _ _ _ _ rfl).2 (by rintro ⟨r, hr, -⟩; cases hr) |>.2⟩

/-! ## The swarm loop -/

/-- The bytes a swarm event carries. -/
def event_data : SwarmMessage → Bytes
  | .Request data _ | .Response data _ => data

/-- An event whose data does not decode panics at the `expect` with the codec's error appended,
whatever it is and whatever the lock. -/
theorem swarm_event_undecodable {L : Libs} {msg : SwarmMessage} {err : String}
    (hd : L.decode (event_data msg) = .error err) (O : Outcomes) (w : World) :
    handle_swarm_event_messages.body L O (.ok msg) w =
      (.error (.panic ("failed to decode request body: " ++ err)), w) := by
  cases msg <;> simp_all [event_data, handle_swarm_event_messages.body, bind_apply]

/-- **How the swarm loop stops.** For every list of events and every world: the loop runs
through exactly when every event runs through at the lock the loop started from, since no
iteration changes the lock; an `Err` from the swarm changes nothing, the loop over the events
without them being the same function of the world; and a request or a response whose data does
not decode, after events that run through, ends the loop with the panic "failed to decode
request body: " and the codec's error, at the world those events left, so no later event is
handled. -/
theorem swarm_loop_error_behaviour (L : Libs) :
    (∀ events w, (handle_swarm_event_messages L events w).1 = .ok () ↔
      ∀ ev ∈ events, swarm_event_runs_through L ev.2 w.worker_locked ev.1) ∧
    (∀ events, handle_swarm_event_messages L (events.filter fun ev => ev.1.toBool) =
      handle_swarm_event_messages L events) ∧
    (∀ pre post (msg : SwarmMessage) (O : Outcomes) (err : String) w,
      L.decode (event_data msg) = .error err →
      (handle_swarm_event_messages L pre w).1 = .ok () →
      handle_swarm_event_messages L (pre ++ (.ok msg, O) :: post) w =
        (.error (.panic ("failed to decode request body: " ++ err)),
          (handle_swarm_event_messages L pre w).2)) := by
  refine ⟨fun events => ?_, fun events => ?_, fun pre post msg O err w hd hpre => ?_⟩
  -- whether it stops
  · induction events with
    | nil => simp [handle_swarm_event_messages, each]
    | cons ev events ih =>
      intro w
      rw [handle_swarm_event_messages, each_cons_ok_iff, swarm_event_ok_iff,
        ← handle_swarm_event_messages, ih, swarm_event_keeps_lock]
      simp
  -- errors from the swarm are skipped
  · induction events with
    | nil => rfl
    | cons ev events ih =>
      obtain ⟨msg, O⟩ := ev
      cases msg with
      | error e =>
        rw [List.filter_cons_of_neg (by simp [Except.toBool]), ih, handle_swarm_event_messages_cons]
        rfl
      | ok m =>
        rw [List.filter_cons_of_pos (by simp [Except.toBool]), handle_swarm_event_messages_cons,
          handle_swarm_event_messages_cons, ih]
  -- an undecodable event ends the loop
  · rw [handle_swarm_event_messages, each_append_of_ok _ hpre, ← handle_swarm_event_messages,
      handle_swarm_event_messages_cons]
    exact bind_of_error (swarm_event_undecodable hd O _) _

/-- A response the codec cannot read, after a request it can: the request is forwarded and the
loop ends at the response's `expect`. -/
theorem swarm_loop_error_behaviour_at :
    (Libs.symbolic [([7], genesis_update)]).decode (event_data (.Response [] ⟨0⟩)) =
        .error "Not enough data to fill buffer" ∧
      (handle_swarm_event_messages (Libs.symbolic [([7], genesis_update)])
        [(.ok (.Request [7] ⟨1⟩), Outcomes.succeed)] ⟨[], [], false⟩).1 = .ok () ∧
      handle_swarm_event_messages (Libs.symbolic [([7], genesis_update)])
        [(.ok (.Request [7] ⟨1⟩), Outcomes.succeed), (.ok (.Response [] ⟨0⟩), Outcomes.succeed)]
        ⟨[], [], false⟩ =
      (.error (.panic "failed to decode request body: Not enough data to fill buffer"),
        ⟨[], [.rpc_send { genesis_update with inbound_req_id := some 1 }], false⟩) :=
  ⟨rfl, rfl, (swarm_loop_error_behaviour _).2.2 [_] [] _ Outcomes.succeed _ _ rfl rfl⟩

/-! ## The RPC loop -/

/-- Where `create_tx` panics: on a network it leaves `todo!()`, and on Ethereum or Bnb when the
receiver's UTF-8 bytes are not the 20 bytes `Address::from_slice` copies. -/
def create_tx_panic (tx : TxStateMachine) (msg : String) : Prop :=
  ((tx.network = .Polkadot ∨ tx.network = .Solana) ∧ msg = "not yet implemented") ∨
  ((tx.network = .Ethereum ∨ tx.network = .Bnb) ∧ (as_bytes tx.receiver_address).length ≠ 20 ∧
    msg = "cannot convert a slice of length " ++ toString (as_bytes tx.receiver_address).length ++
      " to Address")

/-- The shared Ethereum/Bnb arm panics only in `Address::from_slice`. -/
theorem create_eip7702_panic_iff (A : Alloy) (c : Option UInt64) (tx : TxStateMachine)
    (msg : String) :
    create_eip7702_call_payload A c tx = .error (.panic msg) ↔
      (as_bytes tx.receiver_address).length ≠ 20 ∧
        msg = "cannot convert a slice of length " ++
          toString (as_bytes tx.receiver_address).length ++ " to Address" := by
  unfold create_eip7702_call_payload Address.from_slice
  by_cases hl : (as_bytes tx.receiver_address).length = 20
  · simp only [hl, dif_pos, except_ok_bind, ne_eq, not_true_eq_false, false_and, iff_false]
    cases A.build_unsigned _ with
    | error e => simp
    | ok tb => cases h : tb.eip7702 <;> simp [h]
  · simp [hl, eq_comm]

theorem create_tx_panic_iff (A : Alloy) (tx : TxStateMachine) (msg : String) :
    create_tx A tx = .error (.panic msg) ↔ create_tx_panic tx msg := by
  unfold create_tx create_tx_panic
  cases tx.network <;> simp [create_eip7702_panic_iff] <;> exact eq_comm

/-- The second half of the check panics only at Polkadot's `todo!()`. -/
theorem check_signature_panic_iff (C : Crypto) (network : ChainSupported) (signature : Bytes)
    (msg key : String) (m : String) :
    check_signature C network signature msg key = .error (.panic m) ↔
      network = .Polkadot ∧ m = "not yet implemented" := by
  rcases check_signature_cases C network signature msg key with ⟨hn, h | ⟨e, h⟩⟩ | ⟨hn, h⟩ <;>
    rw [h] <;> simp [hn, eq_comm]

/-- The signature check panics only on Polkadot, and only once the role's signature is there. -/
theorem validate_panic_iff (C : Crypto) (tx : TxStateMachine) (who m : String) :
    validate_receiver_sender_address C tx who = .error (.panic m) ↔
      tx.network = .Polkadot ∧ (role_signature tx who).1.isSome ∧ m = "not yet implemented" := by
  rw [validate_receiver_sender_address_eq]
  cases (role_signature tx who).1 <;> simp [check_signature_panic_iff]

/-- Where the SenderConfirmed handler panics, with the worker free: in Branch A the sender check
on Polkadot (a check that passes waits forever instead), in Branch B `create_tx`, once the
multi-id matched. -/
def sender_confirmed_panic (L : Libs) (locked : Bool) (txn : TxStateMachine) (msg : String) :
    Prop :=
  locked = false ∧
  match txn.signed_call_payload with
  | some _ => txn.network = .Polkadot ∧ msg = "not yet implemented"
  | none => validate_multi_id L.crypto txn = true ∧ create_tx_panic txn msg

theorem sender_confirmed_panic_iff (L : Libs) (O : Outcomes) (txn : TxStateMachine) (w : World)
    (msg : String) :
    (handle_sender_confirmed_tx_state L O txn w).1 = .error (.panic msg) ↔
      sender_confirmed_panic L w.worker_locked txn msg := by
  unfold sender_confirmed_panic
  cases hl : w.worker_locked
  case true => simp [handle_sender_confirmed_of_locked L O txn hl]
  case false =>
    cases hs : txn.signed_call_payload with
    | some s =>
      have hpol : txn.network = .Polkadot →
          validate_receiver_sender_address L.crypto txn "Sender" =
            .error (.panic "not yet implemented") :=
        fun hn => validate_panics_on_polkadot _ _ _ hn (by simp [role_signature, hs])
      rcases hv : validate_receiver_sender_address L.crypto txn "Sender" with e | ⟨⟨⟩⟩
      · simp only [handle_sender_confirmed_tx_state, new_tx_state_from_mutex, hs, hv,
          with_worker_of_unlocked _ hl]
        cases e with
        | error e =>
          have hn : txn.network ≠ .Polkadot := fun hn => by rw [hpol hn] at hv; cases hv
          simp [rpc_send_ne_panic, hn]
        | panic m =>
          obtain ⟨hn, -, rfl⟩ := (validate_panic_iff _ _ _ _).mp hv
          simp [hn, eq_comm]
        | blocked => exact absurd hv (validate_not_blocked _ _ _)
      · rw [handle_sender_confirmed_waits L O hs hv]
        exact ⟨fun h => (by cases h), fun ⟨_, hn, _⟩ => by rw [hpol hn] at hv; cases hv⟩
    | none =>
      simp only [handle_sender_confirmed_tx_state, new_tx_state_from_mutex, hs, bind_apply,
        with_worker_pure _ hl, true_and]
      cases hm : validate_multi_id L.crypto txn
      · cases hdb : O.update_failed_tx ⟨[], txn.amount, txn.network, false⟩ <;>
          simp [bind_apply, update_failed_tx, hdb, rpc_send_ne_panic]
      · rw [← create_tx_panic_iff L.alloy]
        rcases hc : create_tx L.alloy txn with e | t
        · cases e <;> simp [bind_apply, with_worker_of_unlocked _ hl, lift_abort, hc]
        · simp [bind_apply, with_worker_of_unlocked _ hl, lift_abort, hc, rpc_send_ne_panic]

/-- Where the remote path panics on the entry `d` it found: `unwrap` of a missing address, or
`expect` of a missing peer id once the address parsed. -/
def entry_panic (L : Libs) (d : Discovery) (msg : String) : Prop :=
  d.multi_addr = none ∧ msg = "called `Option::unwrap()` on a `None` value" ∨
    ∃ ma m, d.multi_addr = some ma ∧ L.parse_multiaddr ma = .ok m ∧ d.peer_id = none ∧
      msg = "failed to parse peerId"

/-- Where the Genesis handler panics: only on the remote path, at the entry its route found. -/
def genesis_panic (L : Libs) (O : Outcomes) (saved : List SavedPeer) (txn : TxStateMachine)
    (msg : String) : Prop :=
  ∃ d, genesis_route saved O.list_all_peers txn.receiver_address = .discovered d ∧
    entry_panic L d msg

theorem genesis_panic_iff (L : Libs) (O : Outcomes) (txn : TxStateMachine) (w : World)
    (msg : String) :
    (handle_genesis_tx_state L O txn w).1 = .error (.panic msg) ↔
      genesis_panic L O w.saved_peers txn msg := by
  constructor
  · intro h
    unfold handle_genesis_tx_state at h
    rw [get_saved_user_peers_bind] at h
    cases hl : lookup_saved_peer w.saved_peers txn.receiver_address with
    | ok acc =>
      rw [hl] at h
      refine False.elim (((?_ : PanicsOnly (fun _ => False) (fun _ : Unit => True) _) w).1 msg h)
      exact PanicsOnly.bind (PanicsOnly.lift_result' _) fun _ _ =>
        PanicsOnly.bind (PanicsOnly.lift_result' _) fun _ _ =>
        PanicsOnly.bind (PanicsOnly.dial_to_peer_id' _ _ _) fun _ _ =>
          PanicsOnly.send_request' _ _ _ _
    | error err =>
      rw [hl] at h
      have key := fun hp : PanicsOnly (fun msg => ∃ ds d, O.list_all_peers = .ok ds ∧
          ds.find? (·.account_ids.contains txn.receiver_address) = some d ∧ entry_panic L d msg)
          (fun _ : Unit => True) _ => (hp w).1 msg h
      refine (fun hR => ?_) (key ?_)
      · obtain ⟨ds, d, hds, hd, hcase⟩ := hR
        exact ⟨d, by simp only [genesis_route, hl, hds, hd], hcase⟩
      refine PanicsOnly.bind (PanicsOnly.list_all_peers' O) fun ds hds => ?_
      dsimp only
      split
      · split
        · rename_i hfs
          obtain ⟨d, hd, hfs⟩ := Option.map_eq_some'.mp ((findSome?_find_peer _ _).symm.trans hfs)
          cases hfs
          exact PanicsOnly.bind
            (PanicsOnly.expect' _ _ fun hma => ⟨ds, d, hds, hd, .inl ⟨hma, rfl⟩⟩) fun ma hma =>
            PanicsOnly.bind (PanicsOnly.lift_result' _) fun m hm =>
            PanicsOnly.bind (PanicsOnly.expect' _ _ fun hpid =>
              ⟨ds, d, hds, hd, .inr ⟨ma, m, hma, except_mapError_eq_ok hm, hpid, rfl⟩⟩)
            fun _ _ => PanicsOnly.bind (PanicsOnly.lift_result' _) fun _ _ =>
            PanicsOnly.bind (PanicsOnly.record_saved_user_peers' _ _) fun _ _ =>
            PanicsOnly.bind (PanicsOnly.dial_to_peer_id' _ _ _) fun _ _ =>
              PanicsOnly.send_request' _ _ _ _
        · exact PanicsOnly.pure' trivial
      · exact PanicsOnly.pure' trivial
  · rintro ⟨d, hroute, hcase⟩
    obtain ⟨⟨err, hl⟩, ds, hds, hd⟩ := genesis_route_discovered hroute
    have hfs : ds.findSome? (find_peer txn.receiver_address) =
        some (d.peer_id, d.multi_addr, .of_discovery d) := by
      rw [findSome?_find_peer, hd]; rfl
    have hne : ds ≠ [] := by rintro rfl; cases hd
    rcases hcase with ⟨hma, rfl⟩ | ⟨ma, m, hma, hm, hpid, rfl⟩
    · simp [handle_genesis_tx_state, bind_apply, get_saved_user_peers, hl, list_all_peers, hds,
        hne, hfs, hma]
    · simp [handle_genesis_tx_state, bind_apply, get_saved_user_peers, hl, list_all_peers, hds,
        hne, hfs, hma, hm, hpid]

/-- Where an iteration of the RPC loop panics, by the update's status, from a store and with
the worker locked or not. -/
def rpc_update_panic (L : Libs) (O : Outcomes) (saved : List SavedPeer) (locked : Bool)
    (txn : TxStateMachine) (msg : String) : Prop :=
  match txn.status with
  | .Genesis => genesis_panic L O saved txn msg
  | .RecvAddrConfirmed => txn.inbound_req_id = none ∧ msg = "no inbound req id found"
  | .NetConfirmed => msg = "not yet implemented"
  | .SenderConfirmed => sender_confirmed_panic L locked txn msg
  | _ => False

theorem rpc_update_panics_iff (L : Libs) (O : Outcomes) (txn : TxStateMachine) (w : World)
    (msg : String) :
    (handle_incoming_rpc_tx_updates.body L O txn w).1 = .error (.panic msg) ↔
      rpc_update_panic L O w.saved_peers w.worker_locked txn msg := by
  unfold handle_incoming_rpc_tx_updates.body rpc_update_panic
  cases hst : txn.status <;> simp only []
  case Genesis => exact genesis_panic_iff L O txn w msg
  case SenderConfirmed => exact sender_confirmed_panic_iff L O txn w msg
  case RecvAddrConfirmed =>
    cases txn.inbound_req_id with
    | none => simp [bind_apply, eq_comm]
    | some i =>
      cases h : O.send_response i txn <;>
        simp [bind_apply, handle_recv_addr_confirmed_tx_state, send_response, h]
  all_goals simp [eq_comm]

/-- **Where the RPC loop panics.** For every list of updates, every world and every message:
the loop ends in a panic with that message exactly when some update, handled from the world the
updates before it left (all of which ran through), is one `rpc_update_panic` lists with that
message: a NetConfirmed update; a RecvAddrConfirmed update with no `inbound_req_id`; a Genesis
update whose route is a directory entry with no address ("called `Option::unwrap()` on a `None`
value"), or with an address that parses and no peer id; with the worker free, a signed
SenderConfirmed update on Polkadot; and, with the worker free, an unsigned SenderConfirmed
update with a matching multi-id on Polkadot or Solana, or on Ethereum or Bnb with a receiver
that is not 20 bytes long ("cannot convert a slice of length n to Address"). Every other
failure of the loop is an error returned through `?` or a wait on the worker. -/
theorem rpc_loop_panics_iff (L : Libs) (updates : List (TxStateMachine × Outcomes)) (w : World)
    (msg : String) :
    (handle_incoming_rpc_tx_updates L updates w).1 = .error (.panic msg) ↔
      ∃ pre txn O post, updates = pre ++ (txn, O) :: post ∧
        (handle_incoming_rpc_tx_updates L pre w).1 = .ok () ∧
        rpc_update_panic L O (handle_incoming_rpc_tx_updates L pre w).2.saved_peers
          (handle_incoming_rpc_tx_updates L pre w).2.worker_locked txn msg := by
  rw [handle_incoming_rpc_tx_updates, each_error_iff]
  constructor
  · rintro ⟨pre, ⟨txn, O⟩, post, rfl, hpre, hm⟩
    exact ⟨pre, txn, O, post, rfl, hpre, (rpc_update_panics_iff L O txn _ msg).mp hm⟩
  · rintro ⟨pre, txn, O, post, rfl, hpre, hm⟩
    exact ⟨pre, (txn, O), post, rfl, hpre, (rpc_update_panics_iff L O txn _ msg).mpr hm⟩

end Failures

end node
