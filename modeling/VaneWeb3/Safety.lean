import VaneWeb3.Orchestrator

/-!
# What one handler can do to a transaction

Statements about a single iteration of either loop, for every input transaction or swarm
event, every world and every `Outcomes`: which fields a handler may change in what it
forwards (`handlers_forward_only_owned_fields`), where the multi-id is and is not
checked, which history rows a handler commits, and where the Genesis handler sends a
transaction.

Each is read off the `Emits` lemmas of `VaneWeb3.Orchestrator`, or, where a statement
says that something *does* happen, off an evaluation of the one path that makes it happen.
Where the worker's lock decides (a handler that finds it held waits at its guard and does
nothing), the statement says so.
-/

set_option autoImplicit false

namespace node

open primitives NodeM TxProcessingWorker MainServiceWorker

namespace Safety

/-! ## Frames: what a handler changes in what it forwards -/

/-- What one iteration of the RPC loop may change in a transaction it forwards: the Genesis
and RecvAddrConfirmed handlers nothing, Branch A of the SenderConfirmed handler only the
status and the hash, Branch B only the call payload. Other statuses forward nothing. -/
def rpc_frame (txn t : TxStateMachine) : Prop :=
  match txn.status, txn.signed_call_payload with
  | .Genesis, _ | .RecvAddrConfirmed, _ => t = txn
  | .SenderConfirmed, some _ => ∃ status tx_hash, t = { txn with status, tx_hash }
  | .SenderConfirmed, none => ∃ call_payload, t = { txn with call_payload }
  | _, _ => False

/-- What one iteration of the swarm loop may change in a transaction it forwards: the
Request handler only `inbound_req_id`, the Response handler only `outbound_req_id` and the
status, both of the transaction the event's data decodes to. -/
def swarm_frame (L : Libs) : Except String SwarmMessage → TxStateMachine → Prop
  | .error _, _ => False
  | .ok (.Request data _), t =>
    ∃ r, L.decode data = .ok r ∧ ∃ inbound_req_id, t = { r with inbound_req_id }
  | .ok (.Response data _), t =>
    ∃ r, L.decode data = .ok r ∧ ∃ outbound_req_id status, t = { r with outbound_req_id, status }

/-- **Handlers touch only their own fields.** For every transaction and event, every world
and every outcome, each transaction a loop iteration forwards (to the user agent or to the
peer) differs from its input only in the fields its handler owns. -/
theorem handlers_forward_only_owned_fields (L : Libs) :
    (∀ O txn, Emits (fun e => ∀ t, e.forwarded = some t → rpc_frame txn t) (fun _ => True)
      (handle_incoming_rpc_tx_updates.body L O txn)) ∧
    (∀ O msg, Emits (fun e => ∀ t, e.forwarded = some t → swarm_frame L msg t) (fun _ => True)
      (handle_swarm_event_messages.body L O msg)) := by
  refine ⟨fun O txn => (rpc_update_emits L O txn).mono ?_ fun _ h => h,
    fun O msg => (swarm_event_emits L O msg).mono ?_ fun _ h => h⟩
  · intro e he t ht
    obtain ⟨sa, ra, mi, nw, am, cp, scp, rs, st, ii, oi, th⟩ := txn
    unfold rpc_update_effect at he
    split at he <;> rename_i hst <;> try (dsimp only at hst; subst hst)
    · cases he <;> cases ht; rfl
    · obtain ⟨id, -, rfl⟩ := he
      cases ht; rfl
    · cases he with
      | mismatch_row => cases ht
      | sender_failed s hs => cases ht; subst hs; exact ⟨_, _, rfl⟩
      | mismatch hs => cases ht; subst hs; exact ⟨_, rfl⟩
      | unsigned hs _ t' hc =>
        cases ht
        obtain ⟨p, rfl⟩ := create_tx_ok hc
        subst hs; exact ⟨_, rfl⟩
    · exact he.elim
  · intro e he t ht
    rcases msg with _ | ⟨data, id⟩ | ⟨data, id⟩
    · exact he.elim
    · obtain ⟨r, hr, rfl⟩ := he
      cases ht; exact ⟨r, hr, _, rfl⟩
    · obtain ⟨r, hr, he⟩ := he
      refine ⟨r, hr, ?_⟩
      cases he <;> cases ht <;> exact ⟨_, _, rfl⟩

/-! ## The multi-id check

`validate_multi_id` is called in one place: Branch B of the SenderConfirmed handler, the
branch that builds the unsigned transaction. Branch A never reaches `submit_tx` at all. -/

/-- **A mismatching multi-id is never built on or submitted.** For every transaction whose
multi-id does not match its addresses, every world and every outcome, the SenderConfirmed
handler appends at most the failure row, the transaction as it came, or the transaction as
`SenderConfirmationFailed`: no call payload is built and `submit_tx` is not called. -/
theorem multi_id_mismatch_never_submitted (L : Libs) (O : Outcomes) (txn : TxStateMachine)
    (hm : validate_multi_id L.crypto txn = false) :
    Emits (fun e => e = .update_failed_tx ⟨[], txn.amount, txn.network, false⟩ ∨
        e = .rpc_send txn ∨ e = .rpc_send txn.sender_confirmation_failed) (fun _ => True)
      (handle_sender_confirmed_tx_state L O txn) :=
  (handle_sender_confirmed_emits L O txn).mono (fun e he => by
    cases he with
    | sender_failed => exact .inr (.inr rfl)
    | mismatch_row => exact .inl rfl
    | mismatch => exact .inr (.inl rfl)
    | unsigned _ hm' => simp [hm] at hm') fun _ h => h

theorem multi_id_mismatch_never_submitted_at :
    validate_multi_id Crypto.symbolic signed_by_receiver = false ∧
      Emits (fun e => e = .update_failed_tx ⟨[], 1000#128, .Ethereum, false⟩ ∨
          e = .rpc_send signed_by_receiver ∨ e = .rpc_send signed_by_receiver.sender_confirmation_failed)
        (fun _ => True)
        (handle_sender_confirmed_tx_state (Libs.symbolic []) Outcomes.succeed signed_by_receiver) :=
  ⟨by decide, multi_id_mismatch_never_submitted _ _ _ (by decide)⟩

/-- The transaction a sender node sends as a Genesis update in the witnesses:
`signed_by_receiver` before signing. -/
def genesis_update : TxStateMachine :=
  { signed_by_receiver with status := .Genesis, signed_call_payload := none }

/-- What a peer answers instead: the same transaction with the amount changed to `1`, signed
by the receiver over its own address. -/
def tampered_response : TxStateMachine :=
  { genesis_update with amount := 1#128, recv_signature := some (Crypto.symbolic_sign "R" "R"),
                        status := .ReceiverConfirmation }

/-- The Response handler does not call `validate_multi_id`: `tampered_response`, whose multi-id
does not match its addresses, is forwarded as `RecvAddrConfirmed`. -/
theorem mismatched_multi_id_confirmed :
    validate_multi_id Crypto.symbolic { tampered_response with outbound_req_id := some 0 } = false ∧
      (handle_swarm_event_messages.body (Libs.symbolic [([7], tampered_response)]) Outcomes.succeed
          (.ok (.Response [7] ⟨0⟩)) ⟨[], [], false⟩).2.trace =
        [.rpc_send { tampered_response with outbound_req_id := some 0, status := .RecvAddrConfirmed }] := by
  decide

/-! ## History rows

Where the two handlers that judge a transaction commit a row to `tx_history`: each direction
of each statement below is either read off the handler's `Emits` lemma (a row was appended,
so its guard held) or off the evaluation of the one path that appends it. -/

/-- The failed receiver check, evaluated: the failure row, then the transaction as
`RecvAddrFailed`. -/
theorem handle_response_failed_trace (L : Libs) (O : Outcomes) (r : TxStateMachine)
    {w : World} (hl : w.worker_locked = false) {e : String}
    (hv : validate_receiver_sender_address L.crypto r "Receiver" = .error (.error e))
    (hdb : O.update_failed_tx ⟨[], r.amount, r.network, false⟩ = .ok ()) :
    (handle_response L O r w).2.trace = w.trace ++
      [.update_failed_tx ⟨[], r.amount, r.network, false⟩, .rpc_send r.recv_confirmation_failed] := by
  simp [handle_response, with_worker_of_unlocked _ hl, hv, bind_apply, update_failed_tx, rpc_send,
    hdb, TxStateMachine.recv_confirmation_failed]

/-- Branch B on a mismatching multi-id, evaluated: the failure row, then the transaction as
it came. -/
theorem handle_sender_confirmed_mismatch_trace (L : Libs) (O : Outcomes) (txn : TxStateMachine)
    {w : World} (hl : w.worker_locked = false) (hs : txn.signed_call_payload = none)
    (hm : validate_multi_id L.crypto txn = false)
    (hdb : O.update_failed_tx ⟨[], txn.amount, txn.network, false⟩ = .ok ()) :
    (handle_sender_confirmed_tx_state L O txn w).2.trace = w.trace ++
      [.update_failed_tx ⟨[], txn.amount, txn.network, false⟩, .rpc_send txn] := by
  simp [handle_sender_confirmed_tx_state, new_tx_state_from_mutex, hs, hm, bind_apply,
    with_worker_of_unlocked _ hl, rpc_send, update_failed_tx, hdb]

/-- **History rows follow the checks.** For every transaction, world and outcome: the
Response handler commits a failure row exactly when the worker is free, the receiver check
fails and the write goes through, and after a failed check it forwards the transaction only as
`RecvAddrFailed`; the SenderConfirmed handler commits a failure row exactly when the worker is
free and Branch B finds a multi-id mismatch and the write goes through, and it never commits a
success row. -/
theorem history_rows_follow_checks (L : Libs) (O : Outcomes) :
    (∀ r w row, appends (handle_response L O r) w (.update_failed_tx row) ↔
      w.worker_locked = false ∧ row = ⟨[], r.amount, r.network, false⟩ ∧
        (∃ e, validate_receiver_sender_address L.crypto r "Receiver" = .error (.error e)) ∧
        O.update_failed_tx row = .ok ()) ∧
    (∀ r, (∃ e, validate_receiver_sender_address L.crypto r "Receiver" = .error (.error e)) →
      Emits (fun ev => ∀ t, ev.forwarded = some t → t.status = .RecvAddrFailed) (fun _ => True)
        (handle_response L O r)) ∧
    (∀ txn w row, appends (handle_sender_confirmed_tx_state L O txn) w (.update_failed_tx row) ↔
      w.worker_locked = false ∧ row = ⟨[], txn.amount, txn.network, false⟩ ∧
        txn.signed_call_payload = none ∧ validate_multi_id L.crypto txn = false ∧
        O.update_failed_tx row = .ok ()) ∧
    (∀ txn w row, ¬ appends (handle_sender_confirmed_tx_state L O txn) w (.update_success_tx row)) := by
  refine ⟨fun r w row => ⟨fun ha => ?_, ?_⟩, fun r ⟨e, hv⟩ => ?_,
    fun txn w row => ⟨fun ha => ?_, ?_⟩, fun txn w row ha => ?_⟩
  -- the Response handler's failure row
  · cases hl : w.worker_locked
    · cases (handle_response_emits L O r).of_appends ha with
      | failure_row e hv hdb => exact ⟨rfl, rfl, ⟨e, hv⟩, hdb⟩
    · exact absurd ha (not_appends_of_stays (handle_response_of_locked L O r hl) _)
  · rintro ⟨hl, rfl, ⟨e, hv⟩, hdb⟩
    exact ⟨_, handle_response_failed_trace L O r hl hv hdb, by simp⟩
  -- what the Response handler forwards after a failed check
  · refine (handle_response_emits L O r).mono (fun ev hev t ht => ?_) fun _ h => h
    cases hev with
    | confirmed h => rw [hv] at h; cases h
    | failure_row => cases ht
    | failed => cases ht; rfl
  -- Branch B's failure row
  · cases hl : w.worker_locked
    · cases (handle_sender_confirmed_emits L O txn).of_appends ha with
      | mismatch_row hs hm hdb => exact ⟨rfl, rfl, hs, hm, hdb⟩
    · exact absurd ha (not_appends_of_stays (handle_sender_confirmed_of_locked L O txn hl) _)
  · rintro ⟨hl, rfl, hs, hm, hdb⟩
    exact ⟨_, handle_sender_confirmed_mismatch_trace L O txn hl hs hm hdb, by simp⟩
  -- no success row
  · cases (handle_sender_confirmed_emits L O txn).of_appends ha

/-- A failing receiver check, for the witnesses: `genesis_update` answered without a receiver
signature. -/
def unsigned_response : TxStateMachine := { genesis_update with status := .ReceiverConfirmation }

theorem history_rows_follow_checks_at :
    (∃ e, validate_receiver_sender_address Crypto.symbolic unsigned_response "Receiver" =
        .error (.error e)) ∧
      Emits (fun ev => ∀ t, ev.forwarded = some t → t.status = .RecvAddrFailed) (fun _ => True)
        (handle_response (Libs.symbolic []) Outcomes.succeed unsigned_response) :=
  ⟨⟨_, rfl⟩, (history_rows_follow_checks (Libs.symbolic []) Outcomes.succeed).2.1 _ ⟨_, rfl⟩⟩

/-- A failed sender check is not recorded: this update, whose signature is the receiver's,
fails the "Sender" check, and the handler forwards it as `SenderConfirmationFailed` without
committing a row. -/
theorem sender_check_failure_unrecorded :
    (∃ e, validate_receiver_sender_address Crypto.symbolic
        { signed_by_receiver with receiver_address := "S" } "Sender" = .error (.error e)) ∧
      (handle_sender_confirmed_tx_state (Libs.symbolic []) Outcomes.succeed
          { signed_by_receiver with receiver_address := "S" } ⟨[], [], false⟩).2.trace =
        [.rpc_send { signed_by_receiver with receiver_address := "S" }.sender_confirmation_failed] :=
  ⟨⟨_, rfl⟩, rfl⟩

/-! ## Genesis routing

Spec §4.5 sends a Genesis transaction to the receiver's node: the one its record in the local
store names, else the one the first directory entry announcing the receiver names, and then
saves that entry. `genesis_route` says where that is, apart from the handler, and
`genesis_follows_route` compares the handler with it. -/

/-- Where spec §4.5 sends a Genesis transaction. -/
inductive GenesisRoute
  | saved (acc : SavedPeer)
  | discovered (d : Discovery)
  | unresolved

/-- The route for receiver `a`, from the rows of the local store and the directory's answer. -/
def genesis_route (saved : List SavedPeer) (directory : Except String (List Discovery))
    (a : String) : GenesisRoute :=
  match lookup_saved_peer saved a, directory with
  | .ok acc, _ => .saved acc
  | .error _, .ok ds =>
    match ds.find? (·.account_ids.contains a) with
    | some d => .discovered d
    | none => .unresolved
  | .error _, .error _ => .unresolved

/-- Address `m` and peer `p` are the route's node: they parse from the address and the peer id
the route names. -/
def GenesisRoute.leads_to (L : Libs) (m : Multiaddr) (p : PeerId) : GenesisRoute → Prop
  | .saved acc =>
    L.parse_multiaddr acc.multi_addr = .ok m ∧ L.peer_id_from_str acc.node_id = .ok p
  | .discovered d => ∃ ma pid, d.multi_addr = some ma ∧ d.peer_id = some pid ∧
      L.parse_multiaddr ma = .ok m ∧ L.peer_id_from_str pid = .ok p
  | .unresolved => False

/-- What the Genesis handler may append on `route`: the directory call only without a saved
record, a saved record only of the entry found, and dials and requests, the latter carrying
`txn`, only to the route's node. -/
def genesis_allowed (L : Libs) (txn : TxStateMachine) (route : GenesisRoute) : Effect → Prop
  | .list_all_peers => ∀ acc, route ≠ .saved acc
  | .record_saved_user_peers r => ∃ d, route = .discovered d ∧ r = .of_discovery d
  | .dial_to_peer_id m p => route.leads_to L m p
  | .send_request t p m _ => t = txn ∧ route.leads_to L m p
  | _ => False

theorem genesis_route_of_error {saved : List SavedPeer} {a err : String}
    (h : lookup_saved_peer saved a = .error err) (directory : Except String (List Discovery)) :
    ∀ acc, genesis_route saved directory a ≠ .saved acc := by
  intro acc
  cases directory with
  | error _ => simp [genesis_route, h]
  | ok ds => simp only [genesis_route, h]; split <;> simp

/-- The handler, from any world and for any outcome, appends only what the route allows. -/
theorem handle_genesis_allowed (L : Libs) (O : Outcomes) (txn : TxStateMachine) (w : World) :
    ∃ es, (handle_genesis_tx_state L O txn w).2.trace = w.trace ++ es ∧
      ∀ e ∈ es, genesis_allowed L txn
        (genesis_route w.saved_peers O.list_all_peers txn.receiver_address) e := by
  unfold handle_genesis_tx_state
  dsimp only
  rw [get_saved_user_peers_bind]
  cases hr : lookup_saved_peer w.saved_peers txn.receiver_address with
  | ok acc =>
    have hroute : genesis_route w.saved_peers O.list_all_peers txn.receiver_address = .saved acc :=
      by simp only [genesis_route, hr]
    rw [hroute]
    exact Emits.trace_at (Emits.bind (Emits.lift_result' _) fun m hm =>
      Emits.bind (Emits.lift_result' _) fun p hp =>
        Emits.bind (Emits.dial_to_peer_id' ⟨hm, hp⟩) fun _ _ =>
          Emits.send_request' ⟨rfl, hm, hp⟩) w
  | error err =>
    refine Emits.trace_at (P := fun _ => True)
      (Emits.bind (Emits.list_all_peers' (genesis_route_of_error hr _)) fun ds hds => ?_) w
    dsimp only
    split
    · split
      · rename_i hfs
        obtain ⟨d, hd, hfs⟩ := Option.map_eq_some'.mp ((findSome?_find_peer _ _).symm.trans hfs)
        cases hfs
        have hroute : genesis_route w.saved_peers O.list_all_peers txn.receiver_address =
            .discovered d := by simp only [genesis_route, hr, hds, hd]
        rw [hroute]
        exact Emits.bind (Emits.expect' _ _) fun ma hma => Emits.bind (Emits.lift_result' _)
          fun m hm => Emits.bind (Emits.expect' _ _) fun pid hpid =>
          Emits.bind (Emits.lift_result' _) fun p hp =>
          Emits.bind (Emits.record_saved_user_peers' fun _ => ⟨d, rfl, rfl⟩) fun _ _ =>
          Emits.bind (Emits.dial_to_peer_id' ⟨ma, pid, hma, hpid, except_mapError_eq_ok hm, hp⟩)
            fun _ _ => Emits.send_request' ⟨rfl, ma, pid, hma, hpid, except_mapError_eq_ok hm, hp⟩
      · exact Emits.pure' trivial
    · exact Emits.pure' trivial

theorem genesis_route_saved {saved : List SavedPeer} {directory : Except String (List Discovery)}
    {a : String} {acc : SavedPeer} (h : genesis_route saved directory a = .saved acc) :
    lookup_saved_peer saved a = .ok acc := by
  cases hl : lookup_saved_peer saved a <;> cases directory <;>
    simp only [genesis_route, hl] at h ⊢ <;> (try split at h) <;> cases h <;> rfl

theorem genesis_route_discovered {saved : List SavedPeer}
    {directory : Except String (List Discovery)} {a : String} {d : Discovery}
    (h : genesis_route saved directory a = .discovered d) :
    (∃ err, lookup_saved_peer saved a = .error err) ∧
      ∃ ds, directory = .ok ds ∧ ds.find? (·.account_ids.contains a) = some d := by
  cases hl : lookup_saved_peer saved a <;> cases directory <;>
    simp only [genesis_route, hl] at h ⊢ <;> (try split at h) <;> cases h
  exact ⟨⟨_, rfl⟩, _, rfl, ‹_›⟩

theorem genesis_route_unresolved {saved : List SavedPeer} {ds : List Discovery} {a : String}
    (h : genesis_route saved (.ok ds) a = .unresolved) :
    (∃ err, lookup_saved_peer saved a = .error err) ∧
      ds.find? (·.account_ids.contains a) = none := by
  cases hl : lookup_saved_peer saved a <;> simp only [genesis_route, hl] at h ⊢ <;>
    (try split at h) <;> cases h
  exact ⟨⟨_, rfl⟩, ‹_›⟩

/-- **The Genesis handler follows the route.** For every store, directory answer and outcome,
every effect the handler appends is one `genesis_allowed` admits on `genesis_route`. When
the calls succeed and the route's node has an address and a peer id that parse, the handler
dials it and sends it the transaction, with no directory call for a saved record and after
saving the entry for a discovered one; with no route, it makes the directory call alone and
returns `Ok`. -/
theorem genesis_follows_route (L : Libs) (O : Outcomes) (txn : TxStateMachine) (w : World) :
    (∀ e, appends (handle_genesis_tx_state L O txn) w e →
      genesis_allowed L txn (genesis_route w.saved_peers O.list_all_peers txn.receiver_address) e) ∧
    (∀ acc m p, genesis_route w.saved_peers O.list_all_peers txn.receiver_address = .saved acc →
      L.parse_multiaddr acc.multi_addr = .ok m → L.peer_id_from_str acc.node_id = .ok p →
      O.all_ok → handle_genesis_tx_state L O txn w =
        (.ok (), { w with trace := w.trace ++
          [.dial_to_peer_id m p, .send_request txn p m O.outbound_id] })) ∧
    (∀ d ma pid m p,
      genesis_route w.saved_peers O.list_all_peers txn.receiver_address = .discovered d →
      d.multi_addr = some ma → d.peer_id = some pid →
      L.parse_multiaddr ma = .ok m → L.peer_id_from_str pid = .ok p →
      O.all_ok → handle_genesis_tx_state L O txn w =
        (.ok (), { w with saved_peers := (PeerRecord.of_discovery d).rows ++ w.saved_peers,
                          trace := w.trace ++ [.list_all_peers,
                            .record_saved_user_peers (.of_discovery d),
                            .dial_to_peer_id m p, .send_request txn p m O.outbound_id] })) ∧
    (∀ ds, O.list_all_peers = .ok ds →
      genesis_route w.saved_peers O.list_all_peers txn.receiver_address = .unresolved →
      handle_genesis_tx_state L O txn w = (.ok (), { w with trace := w.trace ++ [.list_all_peers] })) := by
  refine ⟨fun e ⟨es, hes, he⟩ => ?_, fun acc m p hroute hm hp hO => ?_,
    fun d ma pid m p hroute hma hpid hm hp hO => ?_, fun ds hds hroute => ?_⟩
  -- what the handler appends
  · obtain ⟨es', hes', hq⟩ := handle_genesis_allowed L O txn w
    rw [hes, List.append_cancel_left_eq] at hes'
    exact hq e (hes' ▸ he)
  -- a saved record
  · obtain ⟨-, -, -, -, -, hdial, hreq, -⟩ := hO
    simp [handle_genesis_tx_state, bind_apply, get_saved_user_peers, genesis_route_saved hroute,
      hm, hp, dial_to_peer_id, send_request, hdial, hreq]
  -- a discovered entry
  · obtain ⟨-, -, -, hrec, -, hdial, hreq, -⟩ := hO
    obtain ⟨⟨err, hl⟩, ds, hds, hd⟩ := genesis_route_discovered hroute
    have hfs : ds.findSome? (find_peer txn.receiver_address) =
        some (d.peer_id, d.multi_addr, .of_discovery d) := by
      rw [findSome?_find_peer, hd]; rfl
    have hne : ds ≠ [] := by rintro rfl; cases hd
    simp [handle_genesis_tx_state, bind_apply, get_saved_user_peers, hl, list_all_peers, hds,
      hne, hfs, hma, hpid, hm, hp, record_saved_user_peers, insert_saved_peers, hrec,
      dial_to_peer_id, send_request, hdial, hreq]
  -- no route
  · rw [hds] at hroute
    obtain ⟨⟨err, hl⟩, hd⟩ := genesis_route_unresolved hroute
    have hfs : ds.findSome? (find_peer txn.receiver_address) = none := by
      rw [findSome?_find_peer, hd]; rfl
    simp [handle_genesis_tx_state, bind_apply, get_saved_user_peers, hl, list_all_peers, hds, hfs]

/-- Every call succeeds in `Outcomes.succeed`. -/
theorem Outcomes.succeed_all_ok : Outcomes.succeed.all_ok :=
  ⟨fun _ => rfl, fun _ => rfl, fun _ => rfl, fun _ => rfl, ⟨[], rfl⟩, fun _ _ => rfl,
    fun _ _ _ => rfl, fun _ _ => rfl⟩

/-- A store that holds the receiver "R" at peer "peer", address "/ip4": `genesis_update` is sent
there, with no directory call. -/
theorem genesis_follows_route_at :
    genesis_route [⟨"R", "peer", "/ip4"⟩] Outcomes.succeed.list_all_peers
        genesis_update.receiver_address = .saved ⟨"R", "peer", "/ip4"⟩ ∧
      handle_genesis_tx_state (Libs.symbolic []) Outcomes.succeed genesis_update
          ⟨[⟨"R", "peer", "/ip4"⟩], [], false⟩ =
        (.ok (), ⟨[⟨"R", "peer", "/ip4"⟩],
          [.dial_to_peer_id ⟨"/ip4"⟩ ⟨"peer"⟩, .send_request genesis_update ⟨"peer"⟩ ⟨"/ip4"⟩ ⟨0⟩],
          false⟩) :=
  ⟨rfl, (genesis_follows_route (Libs.symbolic []) Outcomes.succeed genesis_update _).2.1 _ _ _ rfl
    rfl rfl Outcomes.succeed_all_ok⟩

/-- A saved record whose address does not parse stops the handler before it dials: the store
holds the receiver "R" at the address "garbage", and the handler returns the parse error with
nothing appended. -/
theorem genesis_unparsable_saved_address :
    handle_genesis_tx_state (Libs.symbolic []) Outcomes.succeed
        { signed_by_receiver with status := .Genesis, signed_call_payload := none }
        ⟨[⟨"R", "peer", "garbage"⟩], [], false⟩ =
      (.error (.error "invalid multiaddr"), ⟨[⟨"R", "peer", "garbage"⟩], [], false⟩) :=
  rfl

end Safety

end node
