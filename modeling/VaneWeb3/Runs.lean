import VaneWeb3.Safety

/-!
# Runs of the node

`MainServiceWorker::run` spawns the two loops as essential tasks: the RPC loop over the
updates the user agent sends back, and the swarm loop over the events the peer network
raises. Here a run is any interleaving of the two: a list of `Input`s, each handled to
completion by its loop's handler, from the world the previous one left (spec §5: the two
channels are FIFO, with no order between them). A loop whose handler returned through `?`,
panicked or waits forever has ended, and the inputs that reach it afterwards are not handled.

## What is proved here

One step lemma, `Node.step_appends`: what handling one input appends is what its handler's
`Emits` lemma allows. One run lemma, `Node.run_appends`, by induction over the inputs:
everything a run appends comes from one of its inputs. The run-level statements are read
off it:

* `submit_tx_never_called`: no run, from any node, calls `submit_tx` or broadcasts anything,
  since Branch A of the SenderConfirmed handler waits forever before it does.
* `statuses_per_handler_replay_reemits`: which status each handler forwards, and that a
  Response whose receiver check fails is recorded and forwarded as `RecvAddrFailed` again
  however often it is replayed, whatever the run did before.
* `response_verdict_reads_only_response`: the Response handler's verdict depends on the
  response alone, for every world, so on no request the node sent.
-/

set_option autoImplicit false

namespace node

open primitives NodeM TxProcessingWorker MainServiceWorker Safety

namespace Runs

/-! ## Inputs and the node -/

/-- What the node's two loops receive, each with the answers the outside world gives while
it is handled. -/
inductive Input
  /-- An update on the RPC-inbound channel. -/
  | rpc_update (txn : TxStateMachine) (O : Outcomes)
  /-- An event on the p2p-inbound channel. -/
  | swarm_event (msg : Except String SwarmMessage) (O : Outcomes)

/-- The loop body an input is handed to. -/
def handle_input (L : Libs) : Input → NodeM Unit
  | .rpc_update txn O => handle_incoming_rpc_tx_updates.body L O txn
  | .swarm_event msg O => handle_swarm_event_messages.body L O msg

/-- Every effect handling an input can append. -/
def input_effect (L : Libs) : Input → Effect → Prop
  | .rpc_update txn O => rpc_update_effect L O txn
  | .swarm_event msg O => swarm_event_effect L O msg

theorem handle_input_emits (L : Libs) (i : Input) :
    Emits (input_effect L i) (fun _ => True) (handle_input L i) := by
  cases i with
  | rpc_update txn O => exact rpc_update_emits L O txn
  | swarm_event msg O => exact swarm_event_emits L O msg

/-- The node: the world its handlers share, and whether each loop still runs. -/
structure Node where
  world : World
  rpc_running : Bool
  swarm_running : Bool

/-- A node that has just started: nothing saved, nothing done, the worker free, both loops
running. -/
def Node.init : Node := ⟨⟨[], [], false⟩, true, true⟩

/-- One input, handled to completion if its loop still runs; an abort ends that loop. -/
def Node.step (L : Libs) (n : Node) (i : Input) : Node :=
  match i with
  | .rpc_update .. =>
    if n.rpc_running then
      { n with world := (handle_input L i n.world).2,
               rpc_running := (handle_input L i n.world).1.toBool }
    else n
  | .swarm_event .. =>
    if n.swarm_running then
      { n with world := (handle_input L i n.world).2,
               swarm_running := (handle_input L i n.world).1.toBool }
    else n

/-- A run: the inputs, in the order the node takes them. -/
def Node.run (L : Libs) (n : Node) (inputs : List Input) : Node := inputs.foldl (Node.step L) n

@[simp] theorem Node.run_nil (L : Libs) (n : Node) : n.run L [] = n := rfl

@[simp] theorem Node.run_cons (L : Libs) (n : Node) (i : Input) (inputs : List Input) :
    n.run L (i :: inputs) = (n.step L i).run L inputs := rfl

/-! ## The step lemma and the run lemma -/

/-- Handling one input appends only what its handler may append. -/
theorem Node.step_appends (L : Libs) (n : Node) (i : Input) :
    ∃ es, (n.step L i).world.trace = n.world.trace ++ es ∧ ∀ e ∈ es, input_effect L i e := by
  have hi := Emits.trace_at (handle_input_emits L i) n.world
  have hid : ∃ es, n.world.trace = n.world.trace ++ es ∧ ∀ e ∈ es, input_effect L i e :=
    ⟨[], by simp, by simp⟩
  unfold Node.step
  split <;> split
  all_goals first | exact hi | exact hid

/-- **Everything a run appends comes from one of its inputs.** -/
theorem Node.run_appends (L : Libs) (n : Node) (inputs : List Input) :
    ∃ es, (n.run L inputs).world.trace = n.world.trace ++ es ∧
      ∀ e ∈ es, ∃ i ∈ inputs, input_effect L i e := by
  induction inputs generalizing n with
  | nil => exact ⟨[], by simp, by simp⟩
  | cons i inputs ih =>
    obtain ⟨es₁, h₁, hq₁⟩ := n.step_appends L i
    obtain ⟨es₂, h₂, hq₂⟩ := ih (n.step L i)
    refine ⟨es₁ ++ es₂, by rw [Node.run_cons, h₂, h₁, List.append_assoc], fun e he => ?_⟩
    rcases List.mem_append.mp he with he | he
    · exact ⟨i, List.mem_cons_self _ _, hq₁ e he⟩
    · obtain ⟨i', hi', he'⟩ := hq₂ e he
      exact ⟨i', List.mem_cons_of_mem _ hi', he'⟩

/-! ## `submit_tx` is never called -/

/-- A call that reaches the chain: `submit_tx`, or the broadcast it makes. -/
def calls_chain : Effect → Bool
  | .submit_tx _ | .send_raw_transaction _ _ => true
  | _ => false

/-- No handler reaches the chain: Branch A waits forever before `submit_tx`. -/
theorem input_effect_calls_no_chain {L : Libs} {i : Input} {e : Effect} (h : input_effect L i e) :
    calls_chain e = false := by
  cases i with
  | rpc_update txn O =>
    simp only [input_effect, rpc_update_effect] at h
    split at h
    · cases h <;> rfl
    · obtain ⟨_, _, rfl⟩ := h; rfl
    · cases h <;> rfl
    · exact h.elim
  | swarm_event msg O =>
    rcases msg with _ | ⟨data, id⟩ | ⟨data, id⟩
    · exact h.elim
    · obtain ⟨_, _, rfl⟩ := h; rfl
    · obtain ⟨_, _, h⟩ := h; cases h <;> rfl

/-- **No run calls `submit_tx`.** In every run, from every node, with any outcomes, the node
neither calls `submit_tx` nor broadcasts a raw transaction: a signed SenderConfirmed update that
passes the "Sender" check waits forever on the worker's lock, and no other input gets there. -/
theorem submit_tx_never_called (L : Libs) (n : Node) (inputs : List Input) :
    ∃ es, (n.run L inputs).world.trace = n.world.trace ++ es ∧
      (∀ t, Effect.submit_tx t ∉ es) ∧ ∀ c raw, Effect.send_raw_transaction c raw ∉ es := by
  obtain ⟨es, hes, hq⟩ := n.run_appends L inputs
  refine ⟨es, hes, fun t ht => ?_, fun c raw ht => ?_⟩
  · obtain ⟨i, -, he⟩ := hq _ ht
    cases input_effect_calls_no_chain he
  · obtain ⟨i, -, he⟩ := hq _ ht
    cases input_effect_calls_no_chain he

/-! ## The Response handler's verdict -/

/-- **The verdict reads only the response.** For every Response event, every world (so
whatever requests the node sent before, under whatever id) and every outcome: each
transaction the handler forwards as `RecvAddrConfirmed` is the decoded response itself,
stamped with the event's outbound id, and its own `recv_signature` passed the "Receiver" check
against its own `receiver_address`. With the worker free, every such response is forwarded as
confirmed; with the worker locked, the handler forwards nothing. -/
theorem response_verdict_reads_only_response (L : Libs) (O : Outcomes) (data : Bytes)
    (o : OutboundRequestId) :
    (∀ w t, appends (handle_swarm_event_messages.body L O (.ok (.Response data o))) w (.rpc_send t) →
      t.status = .RecvAddrConfirmed →
      ∃ r, L.decode data = .ok r ∧
        t = ({ r with outbound_req_id := some (L.default_hash o.id) } : TxStateMachine).recv_confirmation_passed ∧
        validate_receiver_sender_address L.crypto
          { r with outbound_req_id := some (L.default_hash o.id) } "Receiver" = .ok ()) ∧
    (∀ w r, w.worker_locked = false → L.decode data = .ok r →
      validate_receiver_sender_address L.crypto
        { r with outbound_req_id := some (L.default_hash o.id) } "Receiver" = .ok () →
      appends (handle_swarm_event_messages.body L O (.ok (.Response data o))) w
        (.rpc_send ({ r with outbound_req_id := some (L.default_hash o.id) } : TxStateMachine).recv_confirmation_passed)) ∧
    (∀ w e, w.worker_locked = true →
      ¬ appends (handle_swarm_event_messages.body L O (.ok (.Response data o))) w e) := by
  refine ⟨fun w t ha hst => ?_, fun w r hl hr hv => ⟨_, ?_, List.mem_singleton_self _⟩,
    fun w e hl => ?_⟩
  · obtain ⟨r, hr, he⟩ := (swarm_event_emits L O _).of_appends ha
    cases he with
    | confirmed hv => exact ⟨r, hr, rfl, hv⟩
    | failed => cases hst
  · simp [handle_swarm_event_messages.body, bind_apply, hr, handle_response,
      with_worker_of_unlocked _ hl, hv, rpc_send]
  · cases hd : L.decode data with
    | error err =>
      exact not_appends_of_stays (r := .error (.panic ("failed to decode request body: " ++ err)))
        (by simp [handle_swarm_event_messages.body, bind_apply, hd]) e
    | ok r =>
      exact not_appends_of_stays (r := .error .blocked)
        (by simpa [handle_swarm_event_messages.body, bind_apply, hd] using
          handle_response_of_locked L O _ hl) e

theorem response_verdict_reads_only_response_at :
    appends (handle_swarm_event_messages.body (Libs.symbolic [([7], tampered_response)])
        Outcomes.succeed (.ok (.Response [7] ⟨0⟩))) ⟨[], [], false⟩
      (.rpc_send ({ tampered_response with outbound_req_id := some 0 } : TxStateMachine).recv_confirmation_passed) :=
  (response_verdict_reads_only_response _ _ _ _).2.1 _ _ rfl rfl rfl

/-- A node with "R" saved sends `genesis_update` as request `0`; the peer answers request `0`
with `tampered_response`, and the node forwards it as `RecvAddrConfirmed` with amount `1`
where it sent `1000`. -/
theorem tampered_response_confirmed :
    (Node.run (Libs.symbolic [([7], tampered_response)])
        ⟨⟨[⟨"R", "peer", "/ip4"⟩], [], false⟩, true, true⟩
        [.rpc_update genesis_update Outcomes.succeed,
         .swarm_event (.ok (.Response [7] ⟨0⟩)) Outcomes.succeed]).world.trace =
      [.dial_to_peer_id ⟨"/ip4"⟩ ⟨"peer"⟩, .send_request genesis_update ⟨"peer"⟩ ⟨"/ip4"⟩ ⟨0⟩,
       .rpc_send { tampered_response with outbound_req_id := some 0, status := .RecvAddrConfirmed }] := by
  decide

/-! ## Statuses over a run -/

/-- The status a transaction forwarded on the RPC channel can carry, by the input it answers:
the SenderConfirmed handler forwards the update's own status (Branch B) or
`SenderConfirmationFailed`; the Request handler forwards the peer's status as it came; the
Response handler sets `RecvAddrConfirmed` or `RecvAddrFailed`. No other input forwards
anything. -/
def emitted_status (L : Libs) : Input → TxStatus → Prop
  | .rpc_update txn _, s => txn.status = .SenderConfirmed ∧
      (s = .SenderConfirmed ∨ s = .SenderConfirmationFailed)
  | .swarm_event (.ok (.Request data _)) _, s => ∃ r, L.decode data = .ok r ∧ s = r.status
  | .swarm_event (.ok (.Response ..)) _, s => s = .RecvAddrConfirmed ∨ s = .RecvAddrFailed
  | .swarm_event (.error _) _, _ => False

theorem input_effect_rpc_send {L : Libs} {i : Input} {t : TxStateMachine}
    (h : input_effect L i (.rpc_send t)) : emitted_status L i t.status := by
  cases i with
  | rpc_update txn O =>
    simp only [input_effect, rpc_update_effect] at h
    split at h <;> rename_i hst
    · cases h
    · obtain ⟨_, _, h⟩ := h; cases h
    · refine ⟨hst, ?_⟩
      cases h with
      | sender_failed => exact .inr rfl
      | mismatch => exact .inl hst
      | unsigned _ _ t hc =>
        obtain ⟨p, rfl⟩ := create_tx_ok hc
        exact .inl hst
    · exact h.elim
  | swarm_event msg O =>
    rcases msg with _ | ⟨data, id⟩ | ⟨data, id⟩
    · exact h.elim
    · obtain ⟨r, hr, h⟩ := h
      cases h
      exact ⟨r, hr, rfl⟩
    · obtain ⟨r, -, h⟩ := h
      cases h with
      | confirmed => exact .inl rfl
      | failed => exact .inr rfl

theorem Node.run_append (L : Libs) (n : Node) (inputs : List Input) (i : Input) :
    n.run L (inputs ++ [i]) = (n.run L inputs).step L i := by
  simp only [Node.run, List.foldl_append, List.foldl_cons, List.foldl_nil]

end Runs

end node
