import VaneWeb3.Runs

/-!
# The two loops, and the one thing they share

`MainServiceWorker::run` spawns the RPC loop and the swarm loop as two tasks over one node.
Spec §5 guarantees no order between their channels and says the two "can interleave
safely". The code gives both loops one `Arc<Mutex<TxProcessingWorker>>`: the RPC loop reaches
it through `self`, the swarm loop through the clone `run` hands it. This file proves what that
sharing does to an interleaving:

* `loops_interfere_only_through_worker_lock`: in every interleaving of RPC updates with swarm
  events, the node ends with the store, the lock and the RPC loop's state that its RPC updates
  alone give. As long as those leave the worker's lock as they found it, the node also ends
  with the swarm loop's state that its swarm events alone give, and its trace is made of the
  very blocks each loop appends when it runs alone, merged in the order of the inputs.
* `sender_check_pass_deadlocks`: the lock is not always left so. Branch A of the SenderConfirmed
  handler keeps it for good, and from then on the RPC loop never runs again, the store never
  changes, and the first Response the swarm loop takes stops it too.

The reason is in `VaneWeb3.Orchestrator`: a swarm iteration is a `WorkerFrame` (it reads only
the lock, leaves it as it found it, and writes no store row) and an RPC iteration is a
`StoreFrame` (it reads only the store and the lock, and never releases a lock it found held).
So a step of the node is a function of its store, its lock and its two flags that appends a
block to the trace (`Node.step_rpc`, `Node.step_swarm`), and a run's trace is the blocks of
its steps (`Node.run_trace`) over a store that only grows by the rows they commit
(`Node.run_saved_peers`).

`run` spawns the two loops with `spawn_essential_handle`, and the task manager shuts the
service down once either task ends, at a moment the code does not fix. `Node.step` lets the
other loop go on instead. So a run of the service is a run of the node over the inputs its
loops took before the shutdown, and every statement here, made of every list of inputs, covers
it. A task that waits forever never ends, so it shuts nothing down.
-/

set_option autoImplicit false

namespace node

open primitives NodeM TxProcessingWorker MainServiceWorker Safety

namespace Runs

/-! ## Steps as blocks -/

/-- Whether an input goes to the RPC loop. -/
def Input.is_rpc : Input → Bool
  | .rpc_update .. => true
  | .swarm_event .. => false

/-- What handling `i` appends to the trace of node `n`: the effects of its handler from the
node's store and lock, if its loop still runs. A swarm handler is run from an empty store,
since it reads none. -/
def Node.block (L : Libs) (n : Node) : Input → List Effect
  | .rpc_update txn O => if n.rpc_running then
      (handle_incoming_rpc_tx_updates.body L O txn
        ⟨n.world.saved_peers, [], n.world.worker_locked⟩).2.trace else []
  | .swarm_event msg O => if n.swarm_running then
      (handle_swarm_event_messages.body L O msg ⟨[], [], n.world.worker_locked⟩).2.trace else []

/-- An effect of an RPC block is appended by the handler, run from the node's store and lock. -/
theorem Node.mem_block_rpc {L : Libs} {n : Node} {txn : TxStateMachine} {O : Outcomes}
    {e : Effect} (h : e ∈ n.block L (.rpc_update txn O)) :
    appends (handle_incoming_rpc_tx_updates.body L O txn)
      ⟨n.world.saved_peers, [], n.world.worker_locked⟩ e := by
  simp only [Node.block] at h
  split at h
  · exact ⟨_, (List.nil_append _).symm, h⟩
  · cases h

/-- An effect of a swarm block is appended by the handler, run from the node's lock. -/
theorem Node.mem_block_swarm {L : Libs} {n : Node} {msg : Except String SwarmMessage}
    {O : Outcomes} {e : Effect} (h : e ∈ n.block L (.swarm_event msg O)) :
    appends (handle_swarm_event_messages.body L O msg) ⟨[], [], n.world.worker_locked⟩ e := by
  simp only [Node.block] at h
  split at h
  · exact ⟨_, (List.nil_append _).symm, h⟩
  · cases h

/-- The blocks a run appends, one per input. -/
def Node.blocks (L : Libs) : Node → List Input → List (List Effect)
  | _, [] => []
  | n, i :: inputs => n.block L i :: (n.step L i).blocks L inputs

/-- An RPC step depends on the node's store, lock and RPC flag, not on its trace. -/
theorem Node.step_rpc (L : Libs) (n : Node) (txn : TxStateMachine) (O : Outcomes) :
    n.step L (.rpc_update txn O) = if n.rpc_running then
      { n with world := ⟨(handle_incoming_rpc_tx_updates.body L O txn
                            ⟨n.world.saved_peers, [], n.world.worker_locked⟩).2.saved_peers,
                         n.world.trace ++ n.block L (.rpc_update txn O),
                         (handle_incoming_rpc_tx_updates.body L O txn
                            ⟨n.world.saved_peers, [], n.world.worker_locked⟩).2.worker_locked⟩,
               rpc_running := (handle_incoming_rpc_tx_updates.body L O txn
                                ⟨n.world.saved_peers, [], n.world.worker_locked⟩).1.toBool }
    else n := by
  simp only [Node.step, handle_input, Node.block,
    StoreFrame.apply (rpc_update_store_frame L O txn) n.world]
  split <;> rfl

/-- A swarm step depends on the node's lock and swarm flag alone, and changes only the trace and
that flag. -/
theorem Node.step_swarm (L : Libs) (n : Node) (msg : Except String SwarmMessage) (O : Outcomes) :
    n.step L (.swarm_event msg O) = if n.swarm_running then
      { n with world := { n.world with trace := n.world.trace ++ n.block L (.swarm_event msg O) },
               swarm_running :=
                 (handle_swarm_event_messages.body L O msg ⟨[], [], n.world.worker_locked⟩).1.toBool }
    else n := by
  simp only [Node.step, handle_input, Node.block,
    WorkerFrame.apply (swarm_event_worker_frame L O msg) n.world]
  split <;> rfl

theorem Node.step_trace (L : Libs) (n : Node) (i : Input) :
    (n.step L i).world.trace = n.world.trace ++ n.block L i := by
  cases i <;> simp only [Node.step_rpc, Node.step_swarm] <;> split <;> simp_all [Node.block]

/-- A step leaves the store its block commits over the store it found. -/
theorem Node.step_saved_peers (L : Libs) (n : Node) (i : Input) :
    (n.step L i).world.saved_peers = saved_rows (n.block L i) ++ n.world.saved_peers := by
  cases i with
  | rpc_update txn O =>
    rw [Node.step_rpc]
    split <;> simp_all [Node.block, StoreFrame.saved_peers_eq (rpc_update_store_frame L O txn)]
  | swarm_event msg O =>
    rw [Node.step_swarm]
    split <;> simp_all [Node.block, WorkerFrame.saved_rows_eq (swarm_event_worker_frame L O msg)]

/-- No step releases the worker's lock. -/
theorem Node.step_locked (L : Libs) {n : Node} (h : n.world.worker_locked = true) (i : Input) :
    (n.step L i).world.worker_locked = true := by
  cases i with
  | rpc_update txn O =>
    rw [Node.step_rpc]
    split
    · exact (rpc_update_store_frame L O txn).locked_of_locked
        (w := ⟨n.world.saved_peers, [], n.world.worker_locked⟩) h
    · exact h
  | swarm_event msg O =>
    rw [Node.step_swarm]
    split <;> exact h

theorem Node.run_locked (L : Libs) {n : Node} (h : n.world.worker_locked = true)
    (inputs : List Input) : (n.run L inputs).world.worker_locked = true := by
  induction inputs generalizing n with
  | nil => exact h
  | cons i inputs ih => exact ih (n.step_locked L h i)

/-- **A run's trace is the blocks of its steps.** -/
theorem Node.run_trace (L : Libs) (n : Node) (inputs : List Input) :
    (n.run L inputs).world.trace = n.world.trace ++ (n.blocks L inputs).flatten := by
  induction inputs generalizing n with
  | nil => simp [Node.blocks]
  | cons i inputs ih => simp [Node.blocks, ih, Node.step_trace]

/-- **The store is the log of its writes.** A run leaves the rows its blocks committed, newest
first, over the store it started from: nothing is ever removed or rewritten. -/
theorem Node.run_saved_peers (L : Libs) (n : Node) (inputs : List Input) :
    (n.run L inputs).world.saved_peers =
      saved_rows (n.blocks L inputs).flatten ++ n.world.saved_peers := by
  induction inputs generalizing n with
  | nil => simp [Node.blocks]
  | cons i inputs ih => simp [Node.blocks, ih, Node.step_saved_peers]

/-! ## One loop's steps, seen from the other -/

section Loops

variable (L : Libs)

/-- What the RPC loop sees of a node: its store, the lock and its flag. -/
def Node.rpc_side (n : Node) : List SavedPeer × Bool × Bool :=
  (n.world.saved_peers, n.world.worker_locked, n.rpc_running)

theorem Node.rpc_side_locked {n m : Node} (h : n.rpc_side = m.rpc_side) :
    n.world.worker_locked = m.world.worker_locked :=
  congrArg (fun x => x.2.1) h

theorem Node.rpc_step_congr {n m : Node} (h : n.rpc_side = m.rpc_side) (txn : TxStateMachine)
    (O : Outcomes) :
    (n.step L (.rpc_update txn O)).rpc_side = (m.step L (.rpc_update txn O)).rpc_side ∧
      n.block L (.rpc_update txn O) = m.block L (.rpc_update txn O) := by
  simp only [Node.rpc_side, Prod.mk.injEq] at h
  obtain ⟨hs, hl, hr⟩ := h
  have hb : n.block L (.rpc_update txn O) = m.block L (.rpc_update txn O) := by
    simp only [Node.block, hs, hl, hr]
  simp only [Node.step_rpc, Node.rpc_side, hb, hs, hl, hr]
  split <;> simp_all

theorem Node.rpc_step_swarm_running (n : Node) (txn : TxStateMachine) (O : Outcomes) :
    (n.step L (.rpc_update txn O)).swarm_running = n.swarm_running := by
  rw [Node.step_rpc]
  split <;> rfl

theorem Node.swarm_step_congr {n m : Node} (hw : n.swarm_running = m.swarm_running)
    (hl : n.world.worker_locked = m.world.worker_locked) (msg : Except String SwarmMessage)
    (O : Outcomes) :
    (n.step L (.swarm_event msg O)).swarm_running = (m.step L (.swarm_event msg O)).swarm_running ∧
      n.block L (.swarm_event msg O) = m.block L (.swarm_event msg O) := by
  simp only [Node.step_swarm, Node.block, hw, hl]
  split <;> simp_all

/-- A swarm step leaves everything the RPC loop sees. -/
theorem Node.swarm_step_rpc_side (n : Node) (msg : Except String SwarmMessage) (O : Outcomes) :
    (n.step L (.swarm_event msg O)).rpc_side = n.rpc_side := by
  rw [Node.step_swarm]
  split <;> rfl

/-- RPC updates alone: the run depends on what the RPC loop sees, and leaves the swarm flag. -/
theorem Node.rpc_run_congr {rs : List Input} (hrs : ∀ i ∈ rs, i.is_rpc = true) {n m : Node}
    (h : n.rpc_side = m.rpc_side) :
    (n.run L rs).rpc_side = (m.run L rs).rpc_side ∧ n.blocks L rs = m.blocks L rs ∧
      (n.run L rs).swarm_running = n.swarm_running := by
  induction rs generalizing n m with
  | nil => exact ⟨h, rfl, rfl⟩
  | cons i rs ih =>
    cases i with
    | swarm_event => cases hrs _ (List.mem_cons_self _ _)
    | rpc_update txn O =>
      obtain ⟨h', hb⟩ := Node.rpc_step_congr L h txn O
      obtain ⟨h'', hbs, hw⟩ := ih (fun i hi => hrs i (List.mem_cons_of_mem _ hi)) h'
      refine ⟨h'', by simp only [Node.blocks, hb, hbs], ?_⟩
      rw [Node.run_cons, hw, Node.rpc_step_swarm_running]

/-- Swarm events alone: the run depends on the node's lock and swarm flag only, and leaves what
the RPC loop sees. -/
theorem Node.swarm_run_congr {ss : List Input} (hss : ∀ i ∈ ss, i.is_rpc = false) {n m : Node}
    (hw : n.swarm_running = m.swarm_running) (hl : n.world.worker_locked = m.world.worker_locked) :
    (n.run L ss).swarm_running = (m.run L ss).swarm_running ∧ n.blocks L ss = m.blocks L ss ∧
      (n.run L ss).rpc_side = n.rpc_side := by
  induction ss generalizing n m with
  | nil => exact ⟨hw, rfl, rfl⟩
  | cons i ss ih =>
    cases i with
    | rpc_update => cases hss _ (List.mem_cons_self _ _)
    | swarm_event msg O =>
      obtain ⟨hw', hb⟩ := Node.swarm_step_congr L hw hl msg O
      have hr := Node.swarm_step_rpc_side L n msg O
      have hl' := (Node.rpc_side_locked hr).trans
        (hl.trans (Node.rpc_side_locked (Node.swarm_step_rpc_side L m msg O)).symm)
      obtain ⟨hw'', hbs, hr'⟩ := ih (fun i hi => hss i (List.mem_cons_of_mem _ hi)) hw' hl'
      exact ⟨hw'', by simp only [Node.blocks, hb, hbs], hr'.trans hr⟩

end Loops

/-- A step that keeps a lock some later run finds as the step's start found it leaves the
lock as it was: no step releases it. -/
theorem Node.step_locked_eq (L : Libs) (n : Node) (i : Input) (rest : List Input)
    (h : ((n.step L i).run L rest).world.worker_locked = n.world.worker_locked) :
    (n.step L i).world.worker_locked = n.world.worker_locked := by
  cases hn : n.world.worker_locked
  · cases hs : (n.step L i).world.worker_locked
    · rfl
    · rw [Node.run_locked L hs rest, hn] at h
      cases h
  · exact n.step_locked L hn i

/-! ## Interference -/

/-- `zs` interleaves `xs` and `ys`: it is made of their elements, each list's in its order. -/
inductive Interleaves {α : Type} : List α → List α → List α → Prop
  | nil : Interleaves [] [] []
  | left {xs ys zs : List α} (x : α) : Interleaves xs ys zs → Interleaves (x :: xs) ys (x :: zs)
  | right {xs ys zs : List α} (y : α) : Interleaves xs ys zs → Interleaves xs (y :: ys) (y :: zs)

/-- The RPC side of a run is that of its RPC updates alone; while those leave the lock as they
found it, the blocks of the run interleave those of each loop alone, and the swarm loop ends
where it ends alone. -/
theorem Node.run_interleaves (L : Libs) (n : Node) (inputs : List Input) :
    (n.run L inputs).rpc_side = (n.run L (inputs.filter Input.is_rpc)).rpc_side ∧
      ((n.run L (inputs.filter Input.is_rpc)).world.worker_locked = n.world.worker_locked →
        (n.run L inputs).swarm_running =
          (n.run L (inputs.filter fun i => !i.is_rpc)).swarm_running ∧
        Interleaves (n.blocks L (inputs.filter Input.is_rpc))
          (n.blocks L (inputs.filter fun i => !i.is_rpc)) (n.blocks L inputs)) := by
  have all_rpc : ∀ inputs : List Input, ∀ i ∈ inputs.filter Input.is_rpc, i.is_rpc = true :=
    fun _ _ hi => (List.mem_filter.mp hi).2
  have all_swarm : ∀ inputs : List Input, ∀ i ∈ inputs.filter (fun i => !i.is_rpc),
      i.is_rpc = false := fun _ _ hi => by simpa using (List.mem_filter.mp hi).2
  induction inputs generalizing n with
  | nil => exact ⟨rfl, fun _ => ⟨rfl, .nil⟩⟩
  | cons i inputs ih =>
    obtain ⟨hr, hsw⟩ := ih (n.step L i)
    cases i with
    | rpc_update txn O =>
      simp only [List.filter_cons, Input.is_rpc, if_true, Bool.not_true, Node.run_cons,
        Node.blocks] at hr hsw ⊢
      refine ⟨hr, fun hl => ?_⟩
      -- the step keeps the lock, so the swarm events alone see the same node before and after
      have hl' := Node.step_locked_eq L n _ _ hl
      obtain ⟨hw', hb, -⟩ := Node.swarm_run_congr L (all_swarm inputs)
        (Node.rpc_step_swarm_running L n txn O) hl'
      obtain ⟨hw, hi⟩ := hsw (hl.trans hl'.symm)
      exact ⟨hw.trans hw', hb ▸ .left _ hi⟩
    | swarm_event msg O =>
      -- the RPC updates alone see the same node before and after this step
      have h₀ := Node.swarm_step_rpc_side L n msg O
      obtain ⟨hr', hb, -⟩ := Node.rpc_run_congr L (all_rpc inputs) h₀
      simp only [List.filter_cons, Input.is_rpc, Bool.not_false, if_true, Node.run_cons,
        Node.blocks] at hr hsw ⊢
      refine ⟨hr.trans hr', fun hl => ?_⟩
      obtain ⟨hw, hi⟩ := hsw ((Node.rpc_side_locked hr').trans
        (hl.trans (Node.rpc_side_locked h₀).symm))
      exact ⟨hw, hb ▸ .right _ hi⟩

/-- An interleaving in which the RPC loop resolves a Genesis update through the directory while
the swarm loop forwards a request. -/
def sample_interleaving : List Input :=
  [.swarm_event (.ok (.Request [7] ⟨1⟩)) Outcomes.succeed,
   .rpc_update genesis_update Outcomes.succeed]

/-- A Response that finds the worker locked stops the swarm loop and appends nothing: it panics
at an undecodable body, and otherwise waits at the guard. -/
theorem response_stops_of_locked (L : Libs) (O : Outcomes) (data : Bytes) (o : OutboundRequestId)
    {w : World} (hl : w.worker_locked = true) :
    ∃ a, handle_swarm_event_messages.body L O (.ok (.Response data o)) w = (.error a, w) := by
  cases hd : L.decode data with
  | error err =>
    exact ⟨.panic ("failed to decode request body: " ++ err),
      by simp [handle_swarm_event_messages.body, bind_apply, hd]⟩
  | ok r =>
    exact ⟨_, by simpa [handle_swarm_event_messages.body, bind_apply, hd] using
      handle_response_of_locked L O _ hl⟩

/-- After Branch A waits: the RPC loop stopped, the worker locked, the store as it was. -/
def Node.after_deadlock (saved : List SavedPeer) (n : Node) : Prop :=
  n.rpc_running = false ∧ n.world.worker_locked = true ∧ n.world.saved_peers = saved

theorem Node.after_deadlock_step (L : Libs) {saved : List SavedPeer} {n : Node}
    (h : n.after_deadlock saved) (i : Input) : (n.step L i).after_deadlock saved := by
  obtain ⟨hr, hl, hs⟩ := h
  cases i with
  | rpc_update txn O => simp only [Node.step, hr]; exact ⟨hr, hl, hs⟩
  | swarm_event msg O =>
    have h₀ := Node.swarm_step_rpc_side L n msg O
    simp only [Node.rpc_side, Prod.mk.injEq] at h₀
    exact ⟨h₀.2.2.trans hr, h₀.2.1.trans hl, h₀.1.trans hs⟩

theorem Node.after_deadlock_run (L : Libs) {saved : List SavedPeer} {n : Node}
    (h : n.after_deadlock saved) (inputs : List Input) : (n.run L inputs).after_deadlock saved := by
  induction inputs generalizing n with
  | nil => exact h
  | cons i inputs ih => exact ih (n.after_deadlock_step L h i)

/-- **Branch A deadlocks the node.** From every node whose RPC loop runs, a signed
SenderConfirmed update that passes the "Sender" check appends nothing, and leaves the worker
locked for good: after it, whatever the inputs, the RPC loop never runs again and the store
never changes, and the next Response the swarm loop takes stops it with nothing forwarded. -/
theorem sender_check_pass_deadlocks (L : Libs) (n : Node) (txn : TxStateMachine) (O : Outcomes)
    (s : Bytes) (hrun : n.rpc_running = true) (hst : txn.status = .SenderConfirmed)
    (hs : txn.signed_call_payload = some s)
    (hv : validate_receiver_sender_address L.crypto txn "Sender" = .ok ()) (rest : List Input) :
    (n.step L (.rpc_update txn O)).world.trace = n.world.trace ∧
      ((n.step L (.rpc_update txn O)).run L rest).rpc_running = false ∧
      ((n.step L (.rpc_update txn O)).run L rest).world.worker_locked = true ∧
      ((n.step L (.rpc_update txn O)).run L rest).world.saved_peers = n.world.saved_peers ∧
      ∀ data o O',
        (((n.step L (.rpc_update txn O)).run L rest).step L
          (.swarm_event (.ok (.Response data o)) O')).swarm_running = false ∧
        (((n.step L (.rpc_update txn O)).run L rest).step L
          (.swarm_event (.ok (.Response data o)) O')).world.trace =
          ((n.step L (.rpc_update txn O)).run L rest).world.trace := by
  have hbody : handle_input L (.rpc_update txn O) = deadlock := by
    simp only [handle_input, handle_incoming_rpc_tx_updates.body, hst]
    exact handle_sender_confirmed_waits L O hs hv
  have hstep : n.step L (.rpc_update txn O) =
      { n with world := { n.world with worker_locked := true }, rpc_running := false } := by
    simp only [Node.step, hrun, if_true, hbody, deadlock]
    rfl
  obtain ⟨hr, hl, hsaved⟩ := Node.after_deadlock_run L
    (show (n.step L (.rpc_update txn O)).after_deadlock n.world.saved_peers by
      rw [hstep]; exact ⟨rfl, rfl, rfl⟩) rest
  refine ⟨by rw [hstep], hr, hl, hsaved, fun data o O' => ?_⟩
  generalize (n.step L (.rpc_update txn O)).run L rest = m at hl ⊢
  obtain ⟨a, ha⟩ := response_stops_of_locked L O' data o hl
  cases hw : m.swarm_running <;> simp [Node.step, hw, handle_input, ha, Except.toBool]

/-- `signed_by_receiver` passes the "Sender" check: handled by a node that has just started,
it locks the worker for good, and a request handled after it changes nothing of that. -/
theorem sender_check_pass_deadlocks_at :
    validate_receiver_sender_address Crypto.symbolic signed_by_receiver "Sender" = .ok () ∧
      ((Node.init.step (Libs.symbolic []) (.rpc_update signed_by_receiver Outcomes.succeed)).run
          (Libs.symbolic []) [.swarm_event (.ok (.Request [7] ⟨1⟩)) Outcomes.succeed]).world.worker_locked =
        true :=
  ⟨rfl, (sender_check_pass_deadlocks (Libs.symbolic []) Node.init signed_by_receiver
    Outcomes.succeed _ rfl rfl rfl rfl _).2.2.1⟩

end Runs

end node
