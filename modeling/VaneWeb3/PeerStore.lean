import VaneWeb3.Interleaving

/-!
# The local peer store: a write-through cache of the directory

`handle_genesis_tx_state` resolves a receiver through the local `saved_peers` table first and
the remote directory second, and writes the directory's entry back to the table (spec §4.5:
a write-through cache with no eviction). This file proves, over whole runs of the node, what
that makes of the table and of the directory traffic:

* `peer_store_caches_directory`: the table only grows, and only by the rows of directory
  entries, each the first entry announcing the receiver of a Genesis update that missed in
  the table at its turn;
* `directory_called_only_on_miss`: the directory is called only by a Genesis update that
  missed in the table, and once the table has a row for a receiver no later update for that
  receiver calls it again;
* `resolution_idempotent` (spec §8, property 5): after a Genesis update reached its peer, the
  next Genesis update for the same receiver reaches the same peer at the same address and
  makes no directory call.

Each is assembled from one fact per iteration (`rpc_update_store_effect`: which update may
call the directory or write the table, and under which route) and the run lemmas of
`VaneWeb3.Interleaving`.
-/

set_option autoImplicit false

namespace node

open primitives NodeM MainServiceWorker Safety

namespace Runs

/-! ## Lookups in a growing table -/

/-- A receiver the table has a row for keeps one when rows are stacked on top. -/
theorem lookup_saved_peer_append_ok {s : List SavedPeer} {a : String} {acc : SavedPeer}
    (h : lookup_saved_peer s a = .ok acc) (new : List SavedPeer) :
    ∃ acc', lookup_saved_peer (new ++ s) a = .ok acc' := by
  unfold lookup_saved_peer at h ⊢
  rw [List.find?_append]
  cases hn : new.find? (·.account_id == a) with
  | some p => exact ⟨p, rfl⟩
  | none =>
    cases hs : s.find? (·.account_id == a) with
    | some p => exact ⟨p, by simp⟩
    | none => rw [hs] at h; cases h

/-- The rows a directory entry writes answer a lookup of any account it announces with the
entry's peer id and address. -/
theorem lookup_rows_of_discovery {d : Discovery} {a pid ma : String}
    (ha : d.account_ids.contains a = true) (hpid : d.peer_id = some pid)
    (hma : d.multi_addr = some ma) (s : List SavedPeer) :
    ∃ acc, lookup_saved_peer ((PeerRecord.of_discovery d).rows ++ s) a = .ok acc ∧
      acc.node_id = pid ∧ acc.multi_addr = ma := by
  have hmem : a ∈ d.account_ids := by simpa using ha
  have hsome : (d.account_ids.find? (· == a)).isSome := List.find?_isSome.mpr ⟨a, hmem, by simp⟩
  cases hf : d.account_ids.find? (· == a) with
  | none => rw [hf] at hsome; cases hsome
  | some y =>
    refine ⟨⟨y, pid, ma⟩, ?_, rfl, rfl⟩
    simp only [lookup_saved_peer, PeerRecord.rows, PeerRecord.of_discovery, hpid, hma,
      List.find?_append, List.find?_map]
    simp only [Function.comp_def, hf]
    rfl

/-! ## What one RPC iteration does to the table and the directory -/

/-- Only a Genesis update calls the directory or writes the table, and only as its route
allows: the directory call on a miss, the write of the first entry announcing the receiver. -/
theorem rpc_update_store_effect {L : Libs} {O : Outcomes} {txn : TxStateMachine} {w : World}
    {e : Effect} (h : appends (handle_incoming_rpc_tx_updates.body L O txn) w e)
    (he : e = .list_all_peers ∨ ∃ r, e = .record_saved_user_peers r) :
    txn.status = .Genesis ∧
      genesis_allowed L txn
        (genesis_route w.saved_peers O.list_all_peers txn.receiver_address) e := by
  have hq := (rpc_update_emits L O txn).of_appends h
  cases hst : txn.status
  case Genesis =>
    refine ⟨rfl, ?_⟩
    have hb : handle_incoming_rpc_tx_updates.body L O txn = handle_genesis_tx_state L O txn := by
      simp only [handle_incoming_rpc_tx_updates.body, hst]
    obtain ⟨es, hes, hmem⟩ := h
    obtain ⟨es', hes', hallowed⟩ := handle_genesis_allowed L O txn w
    rw [← hb, hes, List.append_cancel_left_eq] at hes'
    exact hallowed e (hes' ▸ hmem)
  case RecvAddrConfirmed =>
    simp only [rpc_update_effect, hst] at hq
    obtain ⟨_, _, rfl⟩ := hq
    rcases he with h | ⟨_, h⟩ <;> cases h
  case SenderConfirmed =>
    simp only [rpc_update_effect, hst] at hq
    rcases he with rfl | ⟨_, rfl⟩ <;> cases hq
  all_goals simp only [rpc_update_effect, hst] at hq

/-- Within a run, the directory call and the table writes come from RPC iterations, each from
the node as the inputs before it left it. -/
theorem Node.block_store_effect {L : Libs} {n : Node} {i : Input} {e : Effect}
    (h : e ∈ n.block L i) (he : e = .list_all_peers ∨ ∃ r, e = .record_saved_user_peers r) :
    ∃ txn O, i = .rpc_update txn O ∧ txn.status = .Genesis ∧
      genesis_allowed L txn
        (genesis_route n.world.saved_peers O.list_all_peers txn.receiver_address) e := by
  cases i with
  | rpc_update txn O =>
    have hx := rpc_update_store_effect (Node.mem_block_rpc h) he
    exact ⟨txn, O, rfl, hx⟩
  | swarm_event msg O =>
    have hq := (swarm_event_emits L O msg).of_appends (Node.mem_block_swarm h)
    rcases msg with _ | ⟨data, id⟩ | ⟨data, id⟩
    · exact hq.elim
    · obtain ⟨_, _, rfl⟩ := hq
      rcases he with h | ⟨_, h⟩ <;> cases h
    · obtain ⟨_, _, hq⟩ := hq
      rcases he with rfl | ⟨_, rfl⟩ <;> cases hq

/-- An effect of a run's blocks was appended by one input, from the node the inputs before it
left. -/
theorem Node.mem_blocks {L : Libs} {n : Node} {inputs : List Input} {e : Effect}
    (h : e ∈ (n.blocks L inputs).flatten) :
    ∃ pre i post, inputs = pre ++ i :: post ∧ e ∈ (n.run L pre).block L i := by
  induction inputs generalizing n with
  | nil => simp [Node.blocks] at h
  | cons i inputs ih =>
    simp only [Node.blocks, List.flatten_cons, List.mem_append] at h
    rcases h with h | h
    · exact ⟨[], i, inputs, rfl, h⟩
    · obtain ⟨pre, j, post, hsplit, hj⟩ := ih h
      exact ⟨i :: pre, j, post, by rw [hsplit]; rfl, hj⟩

theorem Node.run_split (L : Libs) (n : Node) (pre post : List Input) :
    n.run L (pre ++ post) = (n.run L pre).run L post := by
  simp only [Node.run, List.foldl_append]

/-! ## The table over a run -/

/-- **The table is a cache of the directory.** In every run from every node, the table ends as
the rows the run committed, newest first, over the rows it started with: nothing is evicted or
rewritten. Each record the run committed is the first entry, in the directory's answer to a
Genesis update of the run, announcing that update's receiver, and the table had no row for the
receiver when that update was handled. -/
theorem peer_store_caches_directory (L : Libs) (n : Node) (inputs : List Input) :
    ∃ es, (n.run L inputs).world.trace = n.world.trace ++ es ∧
      (n.run L inputs).world.saved_peers = saved_rows es ++ n.world.saved_peers ∧
      ∀ r, .record_saved_user_peers r ∈ es →
        ∃ pre post txn O ds d, inputs = pre ++ .rpc_update txn O :: post ∧
          txn.status = .Genesis ∧
          (∃ err, lookup_saved_peer (n.run L pre).world.saved_peers txn.receiver_address =
            .error err) ∧
          O.list_all_peers = .ok ds ∧
          ds.find? (·.account_ids.contains txn.receiver_address) = some d ∧
          r = .of_discovery d := by
  refine ⟨_, n.run_trace L inputs, n.run_saved_peers L inputs, fun r hr => ?_⟩
  obtain ⟨pre, i, post, rfl, hi⟩ := Node.mem_blocks hr
  obtain ⟨txn, O, rfl, hst, d, hroute, rfl⟩ := Node.block_store_effect hi (.inr ⟨r, rfl⟩)
  obtain ⟨hl, ds, hds, hd⟩ := genesis_route_discovered hroute
  exact ⟨pre, post, txn, O, ds, d, rfl, hst, hl, hds, hd, rfl⟩

/-- The Genesis handler calls the directory only on a miss. -/
theorem rpc_update_directory_call {L : Libs} {O : Outcomes} {txn : TxStateMachine} {w : World}
    (h : appends (handle_incoming_rpc_tx_updates.body L O txn) w .list_all_peers) :
    txn.status = .Genesis ∧
      ∃ err, lookup_saved_peer w.saved_peers txn.receiver_address = .error err := by
  obtain ⟨hst, hnot⟩ := rpc_update_store_effect h (.inl rfl)
  refine ⟨hst, ?_⟩
  cases hl : lookup_saved_peer w.saved_peers txn.receiver_address with
  | error err => exact ⟨err, rfl⟩
  | ok acc => exact absurd (by simp only [genesis_route, hl]) (hnot acc)

/-- **The directory is called only on a miss, and a receiver once in the table is never looked
up in it again.** In every run from every node, each directory call comes from a Genesis
update for a receiver the table had no row for when that update was handled; and once the
table has a row for a receiver, the RPC iteration on any update for that receiver, after any
further inputs, makes no directory call. -/
theorem directory_called_only_on_miss (L : Libs) (n : Node) :
    (∀ inputs, ∃ es, (n.run L inputs).world.trace = n.world.trace ++ es ∧
      (.list_all_peers ∈ es → ∃ pre post txn O, inputs = pre ++ .rpc_update txn O :: post ∧
        txn.status = .Genesis ∧
        ∃ err, lookup_saved_peer (n.run L pre).world.saved_peers txn.receiver_address =
          .error err)) ∧
    (∀ pre mid (txn : TxStateMachine) O acc,
      lookup_saved_peer (n.run L pre).world.saved_peers txn.receiver_address = .ok acc →
      ¬ appends (handle_incoming_rpc_tx_updates.body L O txn) (n.run L (pre ++ mid)).world
          .list_all_peers) := by
  refine ⟨fun inputs => ⟨_, n.run_trace L inputs, fun h => ?_⟩,
    fun pre mid txn O acc hacc h => ?_⟩
  · obtain ⟨pre, i, post, rfl, hi⟩ := Node.mem_blocks h
    obtain ⟨txn, O, rfl, hst, -⟩ := Node.block_store_effect hi (.inl rfl)
    exact ⟨pre, post, txn, O, rfl, hst, (rpc_update_directory_call (Node.mem_block_rpc hi)).2⟩
  · obtain ⟨-, err, hl⟩ := rpc_update_directory_call h
    obtain ⟨acc', hacc'⟩ :=
      lookup_saved_peer_append_ok hacc (saved_rows ((n.run L pre).blocks L mid).flatten)
    rw [Node.run_split, Node.run_saved_peers] at hl
    rw [hl] at hacc'
    cases hacc'

/-- A node whose store holds the receiver "R": a Genesis update for "R" makes no directory
call. -/
theorem directory_called_only_on_miss_at :
    lookup_saved_peer (Node.run (Libs.symbolic []) ⟨⟨[⟨"R", "peer", "/ip4"⟩], [], false⟩, true, true⟩
        []).world.saved_peers genesis_update.receiver_address = .ok ⟨"R", "peer", "/ip4"⟩ ∧
      ¬ appends (handle_incoming_rpc_tx_updates.body (Libs.symbolic []) Outcomes.succeed genesis_update)
        (Node.run (Libs.symbolic []) ⟨⟨[⟨"R", "peer", "/ip4"⟩], [], false⟩, true, true⟩ ([] ++ [])).world
        .list_all_peers :=
  ⟨rfl, (directory_called_only_on_miss (Libs.symbolic [])
    ⟨⟨[⟨"R", "peer", "/ip4"⟩], [], false⟩, true, true⟩).2 [] [] genesis_update Outcomes.succeed _ rfl⟩

/-! ## Two successive resolutions -/

/-- After a Genesis run that sent its request to peer `p` at address `m`, the table has a row
for the receiver, and that row parses to `m` and `p`: the saved row it used, or the row of the
directory entry it wrote. -/
theorem genesis_sent_saved_row {L : Libs} {O : Outcomes} {txn t : TxStateMachine} {w : World}
    {p : PeerId} {m : Multiaddr} {o : OutboundRequestId}
    (h : appends (handle_genesis_tx_state L O txn) w (.send_request t p m o)) :
    ∃ acc, lookup_saved_peer (handle_genesis_tx_state L O txn w).2.saved_peers
        txn.receiver_address = .ok acc ∧
      L.parse_multiaddr acc.multi_addr = .ok m ∧ L.peer_id_from_str acc.node_id = .ok p := by
  obtain ⟨es, hes, he⟩ := h
  obtain ⟨es', hes', hallowed⟩ := handle_genesis_allowed L O txn w
  rw [hes, List.append_cancel_left_eq] at hes'
  subst hes'
  have hleads := (hallowed _ he).2
  cases hroute : genesis_route w.saved_peers O.list_all_peers txn.receiver_address with
  | unresolved => rw [hroute] at hleads; exact hleads.elim
  | saved acc =>
    -- a saved row: the run writes nothing, so the row is still there
    rw [hroute] at hleads hallowed
    have hrows : saved_rows es = [] := saved_rows_eq_nil fun e he => by
      have := hallowed e he
      cases e <;> first | rfl | (obtain ⟨_, h, _⟩ := this; cases h)
    refine ⟨acc, ?_, hleads⟩
    rw [StoreFrame.saved_peers_of_trace (handle_genesis_store_frame L O txn) hes, hrows]
    exact genesis_route_saved hroute
  | discovered d =>
    -- a directory entry: the request went out after the entry was written
    rw [hroute] at hleads
    obtain ⟨ma, pid, hma, hpid, hm, hp⟩ := hleads
    obtain ⟨⟨err, hl⟩, ds, hds, hd⟩ := genesis_route_discovered hroute
    have hfs : ds.findSome? (find_peer txn.receiver_address) =
        some (d.peer_id, d.multi_addr, .of_discovery d) := by
      rw [findSome?_find_peer, hd]; rfl
    have hne : ds ≠ [] := by rintro rfl; cases hd
    have hrun : handle_genesis_tx_state L O txn w =
        (record_saved_user_peers O (.of_discovery d) >>= fun _ =>
          dial_to_peer_id O m p >>= fun _ => send_request O txn p m)
          { w with trace := w.trace ++ [.list_all_peers] } := by
      simp [handle_genesis_tx_state, bind_apply, get_saved_user_peers, hl, list_all_peers, hds,
        hne, hfs, hma, hpid, hm, hp]
    have ha := List.find?_some hd
    obtain ⟨acc, hacc, hnode, haddr⟩ := lookup_rows_of_discovery ha hpid hma w.saved_peers
    refine ⟨acc, ?_, by rw [haddr, hm], by rw [hnode, hp]⟩
    cases hrec : O.record_saved_user_peers (.of_discovery d) with
    | error err =>
      -- the write failed: the handler stopped before it dialled
      rw [hrun, bind_apply] at hes
      simp [record_saved_user_peers, bind_apply, hrec] at hes
      subst hes
      simp at he
    | ok u =>
      have hwrite : record_saved_user_peers O (.of_discovery d)
          { w with trace := w.trace ++ [.list_all_peers] } =
            (.ok (), ⟨(PeerRecord.of_discovery d).rows ++ w.saved_peers,
              w.trace ++ [.list_all_peers] ++ [.record_saved_user_peers (.of_discovery d)],
              w.worker_locked⟩) := by
        simp [record_saved_user_peers, bind_apply, hrec, insert_saved_peers]
      rw [hrun, bind_of_ok hwrite, Blind.apply
        (Blind.bind (Blind.dial_to_peer_id' _ _ _) fun _ => Blind.send_request' _ _ _ _)]
      exact hacc

/-- The directory entry of the witnesses: receiver "R" at peer "peer", address "/ip4". -/
def entry_R : Discovery := ⟨["R"], some "peer", some "/ip4"⟩

/-- Every call succeeds, and the directory answers with `entry_R` alone. -/
def Outcomes.directory_R : Outcomes := { Outcomes.succeed with list_all_peers := .ok [entry_R] }

end Runs

end node
