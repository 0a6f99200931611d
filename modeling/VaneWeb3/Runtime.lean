import VaneWeb3.Primitives

/-!
# The orchestrator's runtime: the world, its effects, `?`, and the worker's lock

Every handler of `MainServiceWorker` is an `async fn` that awaits external operations
in sequence and returns early, through `?`, at the first one that fails. This file
gives that shape a monad, `NodeM`, over the part of the node a handler can see and
change (`World`):

* the local store's `saved_peers` table, which the Genesis handler reads;
* the trace of every external call the node has made, in order (`Effect`). A write to
  the store is recorded when it commits, so the trace is also the store's write log: the
  rows of `tx_history` are its `update_failed_tx` and `update_success_tx` entries;
* whether the `tokio::sync::Mutex` around `tx_processing_worker` is held.

A handler stops early with an `Abort`: an `anyhow::Error` returned through `?`, a panic
(`expect`, `unwrap`, `todo!()`), or a wait that never ends. Unlike a state monad over
`Except`, `NodeM` keeps the world on an abort: a dial that happened before a failed send
stays in the trace, as it does on the wire.

What the outside world answers is not the node's to decide. An `Outcomes` value is one
answer for every external call a handler can make (channel sends, store writes,
directory, dial and send, chain RPC), and statements below quantify over all of them.
Each handler runs as one atomic step, which is how spec §5 says the orchestrator
serialises a transaction. The one lock that changes what a step does is the worker's:
`with_worker` takes it for the extent of its guard, and since a `tokio::sync::Mutex` is not
reentrant, a handler that takes it again inside its own guard waits forever holding it
(`with_worker_reenter`). Every other lock is taken and dropped within one call.

`Emits Q m` says that `m`, from any world, only appends effects satisfying `Q`. It has
one rule per operation and one for `bind`, so the frame and safety lemmas of the
handlers are assembled from their operations rather than by evaluating every path.
-/

set_option autoImplicit false

namespace node

open primitives

/-! ## libp2p addresses -/

/-- `libp2p::Multiaddr`, after parsing. -/
structure Multiaddr where
  addr : String
  deriving DecidableEq

/-- `libp2p::PeerId`, after parsing. -/
structure PeerId where
  id : String
  deriving DecidableEq

/-! ## Effects, the world, and the answers of the outside world -/

/-- One external call the node makes. A store write is recorded when it commits; every other
call is recorded when it is made, and whether it succeeds is the `Outcomes`' to say. -/
inductive Effect
  /-- `rpc_sender_channel.send(tx)`: forward a transaction to the user agent. -/
  | rpc_send (tx : TxStateMachine)
  /-- `db_worker.update_failed_tx(row)`, committed: `row` is in `tx_history`. -/
  | update_failed_tx (row : DbTxStateMachine)
  /-- `db_worker.update_success_tx(row)`, committed: `row` is in `tx_history`. -/
  | update_success_tx (row : DbTxStateMachine)
  /-- `db_worker.record_saved_user_peers(record)`, committed. -/
  | record_saved_user_peers (record : PeerRecord)
  /-- `airtable_client.list_all_peers()`: the remote-directory call. -/
  | list_all_peers
  /-- `p2p_network_service.dial_to_peer_id(addr, peer)`. -/
  | dial_to_peer_id (addr : Multiaddr) (peer : PeerId)
  /-- `p2p_network_service.send_request(tx, peer, addr)`, and the id the swarm gave it. -/
  | send_request (tx : TxStateMachine) (peer : PeerId) (addr : Multiaddr) (id : OutboundRequestId)
  /-- `p2p_network_service.send_response(id, tx)`. -/
  | send_response (id : UInt64) (tx : TxStateMachine)
  /-- `tx_processing_worker.submit_tx(tx)`. -/
  | submit_tx (tx : TxStateMachine)
  /-- `send_raw_transaction(raw)` on the network's chain client. -/
  | send_raw_transaction (network : ChainSupported) (raw : Bytes)
  deriving DecidableEq

/-- The transaction an effect hands to someone else (the user agent or the peer), if any. -/
def Effect.forwarded : Effect → Option TxStateMachine
  | .rpc_send tx | .send_request tx _ _ _ | .send_response _ tx => some tx
  | _ => none

/-- What a handler sees and changes: the saved peers, the trace of calls, and whether the
worker's lock is held. -/
structure World where
  saved_peers : List SavedPeer
  trace : List Effect
  /-- Whether a task holds `tx_processing_worker.lock()`. -/
  worker_locked : Bool

/-- The answers of the outside world to the calls of one handler run. -/
structure Outcomes where
  rpc_send : TxStateMachine → Except String Unit
  update_failed_tx : DbTxStateMachine → Except String Unit
  update_success_tx : DbTxStateMachine → Except String Unit
  record_saved_user_peers : PeerRecord → Except String Unit
  list_all_peers : Except String (List Discovery)
  dial_to_peer_id : Multiaddr → PeerId → Except String Unit
  send_request : TxStateMachine → PeerId → Multiaddr → Except String Unit
  /-- The id the swarm assigns to an outbound request of this run. -/
  outbound_id : OutboundRequestId
  send_response : UInt64 → TxStateMachine → Except String Unit
  send_raw_transaction : ChainSupported → Bytes → Except String H256

/-- Every external call succeeds. -/
def Outcomes.all_ok (O : Outcomes) : Prop :=
  (∀ tx, O.rpc_send tx = .ok ()) ∧ (∀ r, O.update_failed_tx r = .ok ()) ∧
  (∀ r, O.update_success_tx r = .ok ()) ∧ (∀ r, O.record_saved_user_peers r = .ok ()) ∧
  (∃ ds, O.list_all_peers = .ok ds) ∧ (∀ a p, O.dial_to_peer_id a p = .ok ()) ∧
  (∀ tx p a, O.send_request tx p a = .ok ()) ∧ (∀ i tx, O.send_response i tx = .ok ())

/-! ## `Except`, as the pure computations use it -/

section ExceptLemmas

variable {ε α β : Type}

@[simp] theorem except_pure (a : α) : (pure a : Except ε α) = .ok a := rfl

@[simp] theorem except_throw (e : ε) : (throw e : Except ε α) = .error e := rfl

@[simp] theorem except_ok_bind (a : α) (f : α → Except ε β) : (Except.ok a >>= f) = f a := rfl

@[simp] theorem except_error_bind (e : ε) (f : α → Except ε β) :
    (Except.error e >>= f) = .error e := rfl

@[simp] theorem except_mapError_ok {ε' : Type} (f : ε → ε') (a : α) :
    (Except.ok a : Except ε α).mapError f = .ok a := rfl

@[simp] theorem except_mapError_error {ε' : Type} (f : ε → ε') (e : ε) :
    (Except.error e : Except ε α).mapError f = .error (f e) := rfl

/-- Inverting a successful `bind`: the first computation succeeded, and so did the rest. -/
theorem except_bind_eq_ok {x : Except ε α} {f : α → Except ε β} {b : β}
    (h : (x >>= f) = .ok b) : ∃ a, x = .ok a ∧ f a = .ok b := by
  cases x with
  | error e => cases h
  | ok a => exact ⟨a, rfl, h⟩

theorem except_mapError_eq_ok_iff {ε' : Type} (f : ε → ε') (x : Except ε α) (a : α) :
    x.mapError f = .ok a ↔ x = .ok a := by
  cases x <;> simp

theorem except_mapError_eq_ok {ε' : Type} {f : ε → ε'} {x : Except ε α} {a : α}
    (h : x.mapError f = .ok a) : x = .ok a :=
  (except_mapError_eq_ok_iff f x a).mp h

end ExceptLemmas

/-! ## `NodeM` -/

/-- Why a handler stopped early. -/
inductive Abort
  /-- An `anyhow::Error` returned through `?`. -/
  | error (msg : String)
  /-- A panic: `expect`, `unwrap` or `todo!()`. -/
  | panic (msg : String)
  /-- The task waits for a lock that is never released: it neither returns nor panics. -/
  | blocked
  deriving DecidableEq

/-- A handler: from a world, how it ended and the world it left. -/
def NodeM (α : Type) : Type := World → Except Abort α × World

namespace NodeM

variable {α β : Type}

instance : Monad NodeM where
  pure a w := (.ok a, w)
  bind x f w := match x w with
    | (.ok a, w') => f a w'
    | (.error e, w') => (.error e, w')

instance : MonadExceptOf Abort NodeM where
  throw e w := (.error e, w)
  tryCatch x h w := match x w with
    | (.error e, w') => h e w'
    | r => r

@[simp] theorem pure_apply (a : α) (w : World) : (pure a : NodeM α) w = (.ok a, w) := rfl

@[simp] theorem throw_apply (e : Abort) (w : World) : (throw e : NodeM α) w = (.error e, w) :=
  rfl

theorem bind_apply (x : NodeM α) (f : α → NodeM β) (w : World) :
    (x >>= f) w = match x w with
      | (.ok a, w') => f a w'
      | (.error e, w') => (.error e, w') := rfl

theorem bind_of_ok {x : NodeM α} {w w' : World} {a : α} (h : x w = (.ok a, w'))
    (f : α → NodeM β) : (x >>= f) w = f a w' := by
  rw [bind_apply, h]

theorem bind_of_error {x : NodeM α} {w w' : World} {e : Abort} (h : x w = (.error e, w'))
    (f : α → NodeM β) : (x >>= f) w = (.error e, w') := by
  rw [bind_apply, h]

/-- A bind returns `b` exactly when its first computation returned a value from which the rest
returned `b`. -/
theorem bind_fst_eq_ok {x : NodeM α} {f : α → NodeM β} {w : World} {b : β} :
    ((x >>= f) w).1 = .ok b ↔ ∃ a, (x w).1 = .ok a ∧ (f a (x w).2).1 = .ok b := by
  rw [bind_apply]
  rcases x w with ⟨_ | a, w'⟩ <;> simp

end NodeM

open NodeM

/-! ## Operations

Each external call records its effect, then answers with its outcome; `?` on an `Err`
is `lift_result`. -/

/-- Record an effect in the trace. -/
def emit (e : Effect) : NodeM Unit := fun w => (.ok (), { w with trace := w.trace ++ [e] })

/-- `?` on a `Result<_, anyhow::Error>`: an `Err` returns from the handler. -/
def lift_result {α : Type} : Except String α → NodeM α
  | .ok a => pure a
  | .error e => throw (Abort.error e)

/-- A pure computation that returns an `anyhow::Error` or panics, called with `?`. -/
def lift_abort {α : Type} : Except Abort α → NodeM α
  | .ok a => pure a
  | .error e => throw e

/-- `Option::expect(msg)`: a panic on `None`. -/
def expect {α : Type} (o : Option α) (msg : String) : NodeM α :=
  match o with
  | some a => pure a
  | none => throw (Abort.panic msg)

@[simp] theorem emit_apply (e : Effect) (w : World) :
    emit e w = (.ok (), { w with trace := w.trace ++ [e] }) := rfl

@[simp] theorem expect_some {α : Type} (a : α) (msg : String) : expect (some a) msg = pure a :=
  rfl

@[simp] theorem expect_none {α : Type} (msg : String) :
    expect (none : Option α) msg = throw (Abort.panic msg) := rfl

/-- `Result::expect(msg)`: a panic on `Err(e)`, whose message is `msg`, a colon, and `e` as
`{e:?}` prints it. -/
def result_expect {α : Type} (r : Except String α) (msg : String) : NodeM α :=
  match r with
  | .ok a => pure a
  | .error e => throw (Abort.panic (msg ++ ": " ++ e))

@[simp] theorem result_expect_ok {α : Type} (a : α) (msg : String) :
    result_expect (.ok a) msg = pure a := rfl

@[simp] theorem result_expect_error {α : Type} (e msg : String) :
    result_expect (.error e : Except String α) msg = throw (Abort.panic (msg ++ ": " ++ e)) := rfl

@[simp] theorem lift_result_apply {α : Type} (r : Except String α) (w : World) :
    lift_result r w = (r.mapError Abort.error, w) := by
  cases r <;> rfl

/-- What follows `?` runs exactly when the result is `Ok`. -/
theorem lift_result_bind_ok_iff {α β : Type} (r : Except String α) (k : α → NodeM β) (w : World)
    (b : β) : ((lift_result r >>= k) w).1 = .ok b ↔ ∃ a, r = .ok a ∧ (k a w).1 = .ok b := by
  cases r <;> simp [bind_apply]

/-- What follows `expect` runs exactly when there is a value. -/
theorem expect_bind_ok_iff {α β : Type} (o : Option α) (msg : String) (k : α → NodeM β)
    (w : World) (b : β) :
    ((expect o msg >>= k) w).1 = .ok b ↔ ∃ a, o = some a ∧ (k a w).1 = .ok b := by
  cases o <;> simp [bind_apply]

/-- `rpc_sender_channel.lock().await.send(tx).await?`. -/
def rpc_send (O : Outcomes) (tx : TxStateMachine) : NodeM Unit := do
  emit (.rpc_send tx)
  lift_result (O.rpc_send tx)

/-- The send goes through exactly when the channel takes it. -/
theorem rpc_send_ok_iff (O : Outcomes) (tx : TxStateMachine) (w : World) :
    (rpc_send O tx w).1 = .ok () ↔ O.rpc_send tx = .ok () := by
  cases h : O.rpc_send tx <;> simp [rpc_send, bind_apply, h]

theorem rpc_send_ne_panic (O : Outcomes) (tx : TxStateMachine) (w : World) (m : String) :
    (rpc_send O tx w).1 ≠ .error (.panic m) := by
  cases h : O.rpc_send tx <;> simp [rpc_send, bind_apply, h]

/-- `db_worker.lock().await.update_failed_tx(row).await?`. -/
def update_failed_tx (O : Outcomes) (row : DbTxStateMachine) : NodeM Unit := do
  lift_result (O.update_failed_tx row)
  emit (.update_failed_tx row)

/-- `db_worker.lock().await.update_success_tx(row).await?`. -/
def update_success_tx (O : Outcomes) (row : DbTxStateMachine) : NodeM Unit := do
  lift_result (O.update_success_tx row)
  emit (.update_success_tx row)

/-- Write rows to `saved_peers`, newest first. -/
def insert_saved_peers (rows : List SavedPeer) : NodeM Unit :=
  fun w => (.ok (), { w with saved_peers := rows ++ w.saved_peers })

/-- `db_worker.lock().await.record_saved_user_peers(record).await?`. -/
def record_saved_user_peers (O : Outcomes) (r : PeerRecord) : NodeM Unit := do
  lift_result (O.record_saved_user_peers r)
  emit (.record_saved_user_peers r)
  insert_saved_peers r.rows

/-- Modelled from the spec: `DbWorker::get_saved_user_peers(account)` (db crate, not under
`src/`) returns the account's row of the local store, or an error when it has none
(spec §4.5 step 1). -/
def lookup_saved_peer (peers : List SavedPeer) (account : String) : Except String SavedPeer :=
  match peers.find? (·.account_id == account) with
  | some p => .ok p
  | none => .error "peer not found in local db"

/-- `db_worker.lock().await.get_saved_user_peers(account).await`: a read, no effect. -/
def get_saved_user_peers (account : String) : NodeM (Except String SavedPeer) :=
  fun w => (.ok (lookup_saved_peer w.saved_peers account), w)

/-- What follows the read sees the store of the world it runs in. -/
theorem get_saved_user_peers_bind {β : Type} (account : String)
    (k : Except String SavedPeer → NodeM β) (w : World) :
    (get_saved_user_peers account >>= k) w = k (lookup_saved_peer w.saved_peers account) w := rfl

/-- `airtable_client.list_all_peers().await?`. -/
def list_all_peers (O : Outcomes) : NodeM (List Discovery) := do
  emit .list_all_peers
  lift_result O.list_all_peers

/-- `p2p_network_service.lock().await.dial_to_peer_id(addr, &peer).await?`. -/
def dial_to_peer_id (O : Outcomes) (addr : Multiaddr) (peer : PeerId) : NodeM Unit := do
  emit (.dial_to_peer_id addr peer)
  lift_result (O.dial_to_peer_id addr peer)

/-- `p2p_network_service.lock().await.send_request(tx, peer, addr).await?`. -/
def send_request (O : Outcomes) (tx : TxStateMachine) (peer : PeerId) (addr : Multiaddr) :
    NodeM Unit := do
  emit (.send_request tx peer addr O.outbound_id)
  lift_result (O.send_request tx peer addr)

/-- `p2p_network_service.lock().await.send_response(id, tx).await?`. -/
def send_response (O : Outcomes) (id : UInt64) (tx : TxStateMachine) : NodeM Unit := do
  emit (.send_response id tx)
  lift_result (O.send_response id tx)

/-- `client.send_raw_transaction(&raw).await`: the chain's answer, not yet `?`'d. -/
def send_raw_transaction (O : Outcomes) (network : ChainSupported) (raw : Bytes) :
    NodeM (Except String H256) := do
  emit (.send_raw_transaction network raw)
  pure (O.send_raw_transaction network raw)

/-! ## The worker's lock

`self.tx_processing_worker.lock().await` returns a guard, and the lock is held until the guard
is dropped: at the end of the statement for a temporary in a `let` initializer or an `if`
condition, at the end of the whole `if let` for a temporary in its scrutinee, and on every
early return or panic in between. `with_worker k` is `k` run under that guard. -/

/-- Whether a computation ended waiting for a lock. -/
def waits_forever {α : Type} : Except Abort α → Bool
  | .error .blocked => true
  | _ => false

@[simp] theorem waits_forever_ok {α : Type} (a : α) : waits_forever (.ok a : Except Abort α) = false :=
  rfl

@[simp] theorem waits_forever_error {α : Type} (m : String) :
    waits_forever (.error (.error m) : Except Abort α) = false := rfl

@[simp] theorem waits_forever_panic {α : Type} (m : String) :
    waits_forever (.error (.panic m) : Except Abort α) = false := rfl

@[simp] theorem waits_forever_blocked {α : Type} :
    waits_forever (.error .blocked : Except Abort α) = true := rfl

/-- `k` under the worker's guard. A handler runs as one step, so a lock it finds held is held
by a task that waits forever, and it waits forever too, leaving the lock as it is. Otherwise it
takes the lock, runs `k`, and drops the guard however `k` ends, unless `k` itself waits
forever. -/
def with_worker {α : Type} (k : NodeM α) : NodeM α := fun w =>
  if w.worker_locked then (.error .blocked, w)
  else
    let r := k { w with worker_locked := true }
    (r.1, { r.2 with worker_locked := waits_forever r.1 })

/-- A task that waits forever with the worker's lock held, by itself or by another task that
waits forever. -/
def deadlock {α : Type} : NodeM α := fun w => (.error .blocked, { w with worker_locked := true })

section WorkerLock

variable {α β : Type}

theorem with_worker_of_locked (k : NodeM α) {w : World} (h : w.worker_locked = true) :
    with_worker k w = (.error .blocked, w) := by
  simp [with_worker, h]

theorem with_worker_of_unlocked (k : NodeM α) {w : World} (h : w.worker_locked = false) :
    with_worker k w = ((k { w with worker_locked := true }).1,
      { (k { w with worker_locked := true }).2 with
        worker_locked := waits_forever (k { w with worker_locked := true }).1 }) := by
  simp [with_worker, h]

theorem with_worker_ok_iff (k : NodeM α) (w : World) (a : α) :
    (with_worker k w).1 = .ok a ↔
      w.worker_locked = false ∧ (k { w with worker_locked := true }).1 = .ok a := by
  cases h : w.worker_locked <;> simp [with_worker, h]

/-- A guard around a pure value, on a free worker, is taken and dropped again. -/
theorem with_worker_pure (a : α) {w : World} (h : w.worker_locked = false) :
    with_worker (pure a) w = (.ok a, w) := by
  cases w; cases h; rfl

/-- **Taking the worker's lock inside its own guard waits forever**, whatever runs under the
inner guard and after it, and whether the outer guard found the lock free or not. -/
theorem with_worker_reenter (k : NodeM α) (f : α → NodeM β) :
    with_worker (with_worker k >>= f) = deadlock := by
  funext w
  cases h : w.worker_locked
  · rw [with_worker_of_unlocked _ h, bind_of_error (with_worker_of_locked k rfl)]
    rfl
  · rw [with_worker_of_locked _ h]
    cases w
    cases h
    rfl

end WorkerLock

/-! ## Task loops -/

/-- A task's loop over the messages its channel delivers before it closes: each message
handled to completion, and the first handler that returns through `?` or panics ends the
loop (`while let Some(m) = recv().await { handle(m).await?; }`). -/
def each {ι : Type} (handle : ι → NodeM Unit) : List ι → NodeM Unit
  | [] => pure ()
  | m :: rest => do
    handle m
    each handle rest

section Each

variable {ι : Type} (handle : ι → NodeM Unit)

theorem each_cons_of_ok {m : ι} {w : World} (h : (handle m w).1 = .ok ()) (rest : List ι) :
    each handle (m :: rest) w = each handle rest (handle m w).2 :=
  bind_of_ok (Prod.ext h rfl) _

theorem each_cons_of_error {m : ι} {w : World} {e : Abort} (h : (handle m w).1 = .error e)
    (rest : List ι) : each handle (m :: rest) w = (.error e, (handle m w).2) :=
  bind_of_error (Prod.ext h rfl) _

/-- A loop runs through when its first message does and the rest runs through after it. -/
theorem each_cons_ok_iff {m : ι} {w : World} (rest : List ι) :
    (each handle (m :: rest) w).1 = .ok () ↔
      (handle m w).1 = .ok () ∧ (each handle rest (handle m w).2).1 = .ok () := by
  cases hm : (handle m w).1 with
  | error e => rw [each_cons_of_error handle hm]; simp
  | ok u => rw [each_cons_of_ok handle hm]; simp

/-- A message that does not run through ends the loop where it stands. -/
theorem each_cons_of_not_ok {m : ι} {w : World} (h : (handle m w).1 ≠ .ok ()) (rest : List ι) :
    each handle (m :: rest) w = handle m w := by
  cases hm : (handle m w).1 with
  | error e => exact (each_cons_of_error handle hm rest).trans (Prod.ext hm.symm rfl)
  | ok u => exact absurd hm h

/-- A prefix that runs through leaves the rest of the loop to run from where it ended. -/
theorem each_append_of_ok {pre : List ι} {w : World} (h : (each handle pre w).1 = .ok ())
    (post : List ι) : each handle (pre ++ post) w = each handle post (each handle pre w).2 := by
  induction pre generalizing w with
  | nil => rfl
  | cons m pre ih =>
    cases hm : (handle m w).1 with
    | error e => rw [each_cons_of_error handle hm] at h; cases h
    | ok u =>
      rw [each_cons_of_ok handle hm] at h
      rw [List.cons_append, each_cons_of_ok handle hm, each_cons_of_ok handle hm]
      exact ih h

/-- A loop fails exactly at a message that fails after every message before it ran through. -/
theorem each_error_iff {ms : List ι} {w : World} {e : Abort} :
    (each handle ms w).1 = .error e ↔ ∃ pre m post, ms = pre ++ m :: post ∧
      (each handle pre w).1 = .ok () ∧ (handle m (each handle pre w).2).1 = .error e := by
  constructor
  · induction ms generalizing w with
    | nil => simp [each]
    | cons m rest ih =>
      intro h
      cases hm : (handle m w).1 with
      | error e' =>
        rw [each_cons_of_error handle hm] at h
        exact ⟨[], m, rest, rfl, rfl, hm.trans h⟩
      | ok u =>
        rw [each_cons_of_ok handle hm] at h
        obtain ⟨pre, m', post, rfl, hpre, hm'⟩ := ih h
        exact ⟨m :: pre, m', post, rfl, by rwa [each_cons_of_ok handle hm],
          by rwa [each_cons_of_ok handle hm]⟩
  · rintro ⟨pre, m, post, rfl, hpre, hm⟩
    rw [each_append_of_ok handle hpre, each_cons_of_error handle hm]

/-- A loop whose every iteration keeps a view of the world keeps it. -/
theorem each_preserves {β : Type} (f : World → β) (h : ∀ m w, f (handle m w).2 = f w)
    (ms : List ι) (w : World) : f (each handle ms w).2 = f w := by
  induction ms generalizing w with
  | nil => rfl
  | cons m ms ih =>
    cases hm : (handle m w).1 with
    | error e => rw [each_cons_of_error handle hm, h]
    | ok u => rw [each_cons_of_ok handle hm, ih, h]

end Each

/-! ## `Emits`: what a computation may append to the trace -/

/-- From any world, `m` only appends to the trace, every effect it appends satisfies `Q`,
and every value it returns satisfies `P`. -/
def Emits {α : Type} (Q : Effect → Prop) (P : α → Prop) (m : NodeM α) : Prop :=
  ∀ w, ∃ es, (m w).2.trace = w.trace ++ es ∧ (∀ e ∈ es, Q e) ∧ ∀ a, (m w).1 = .ok a → P a

/-- Run from `w`, `m` appends `e` to the trace. -/
def appends {α : Type} (m : NodeM α) (w : World) (e : Effect) : Prop :=
  ∃ es, (m w).2.trace = w.trace ++ es ∧ e ∈ es

/-- A computation that leaves the world as it found it appends nothing. -/
theorem not_appends_of_stays {α : Type} {m : NodeM α} {w : World} {r : Except Abort α}
    (h : m w = (r, w)) (e : Effect) : ¬ appends m w e := by
  rintro ⟨es, hes, he⟩
  rw [h, List.self_eq_append_right] at hes
  subst hes
  cases he

namespace Emits

variable {α β : Type} {Q Q' : Effect → Prop} {P P' : α → Prop}

theorem pure' {a : α} (h : P a) : Emits Q P (pure a : NodeM α) :=
  fun _ => ⟨[], by simp, by simp, fun _ ha => by cases ha; exact h⟩

theorem throw' (e : Abort) : Emits Q P (throw e : NodeM α) :=
  fun _ => ⟨[], by simp, by simp, fun _ ha => by cases ha⟩

theorem bind {R : β → Prop} {x : NodeM α} {f : α → NodeM β} (hx : Emits Q P x)
    (hf : ∀ a, P a → Emits Q R (f a)) : Emits Q R (x >>= f) := by
  intro w
  obtain ⟨es, hes, hQ, hP⟩ := hx w
  rw [bind_apply]
  rcases hxw : x w with ⟨r, w'⟩
  rw [hxw] at hes hP
  cases r with
  | error e => exact ⟨es, hes, hQ, fun _ ha => by cases ha⟩
  | ok a =>
    obtain ⟨es', hes', hQ', hR⟩ := hf a (hP a rfl) w'
    have hw' : w'.trace = w.trace ++ es := hes
    refine ⟨es ++ es', by simp only [hes', hw', List.append_assoc], ?_, hR⟩
    intro e he
    rcases List.mem_append.mp he with h | h
    · exact hQ e h
    · exact hQ' e h

theorem mono {m : NodeM α} (h : Emits Q P m) (hQ : ∀ e, Q e → Q' e) (hP : ∀ a, P a → P' a) :
    Emits Q' P' m := by
  intro w
  obtain ⟨es, hes, hq, hp⟩ := h w
  exact ⟨es, hes, fun e he => hQ e (hq e he), fun a ha => hP a (hp a ha)⟩

theorem emit' {e : Effect} (h : Q e) : Emits Q (fun _ => True) (emit e) :=
  fun _ => ⟨[e], rfl, by simpa using h, fun _ _ => trivial⟩

theorem lift_result' (r : Except String α) : Emits Q (fun a => r = .ok a) (lift_result r) := by
  cases r
  · exact throw' _
  · exact pure' rfl

theorem lift_abort' (r : Except Abort α) : Emits Q (fun a => r = .ok a) (lift_abort r) := by
  cases r
  · exact throw' _
  · exact pure' rfl

theorem expect' (o : Option α) (msg : String) : Emits Q (fun a => o = some a) (expect o msg) := by
  cases o
  · exact throw' _
  · exact pure' rfl

theorem result_expect' (r : Except String α) (msg : String) :
    Emits Q (fun a => r = .ok a) (result_expect r msg) := by
  cases r
  · exact throw' _
  · exact pure' rfl

/-- The send is recorded before its outcome is known; what follows it runs only if it went
through. -/
theorem rpc_send_ok' {O : Outcomes} {tx : TxStateMachine} (h : Q (.rpc_send tx)) :
    Emits Q (fun _ => O.rpc_send tx = .ok ()) (rpc_send O tx) :=
  bind (emit' h) fun _ _ => lift_result' _

theorem rpc_send' {O : Outcomes} {tx : TxStateMachine} (h : Q (.rpc_send tx)) :
    Emits Q (fun _ => True) (rpc_send O tx) :=
  mono (rpc_send_ok' h) (fun _ h => h) fun _ _ => trivial

/-- A store write is recorded only once it has committed, so its effect needs `Q` only then. -/
theorem update_failed_tx' {O : Outcomes} {row : DbTxStateMachine}
    (h : O.update_failed_tx row = .ok () → Q (.update_failed_tx row)) :
    Emits Q (fun _ => True) (update_failed_tx O row) :=
  bind (lift_result' _) fun _ hr => emit' (h hr)

theorem update_success_tx' {O : Outcomes} {row : DbTxStateMachine}
    (h : O.update_success_tx row = .ok () → Q (.update_success_tx row)) :
    Emits Q (fun _ => True) (update_success_tx O row) :=
  bind (lift_result' _) fun _ hr => emit' (h hr)

theorem record_saved_user_peers' {O : Outcomes} {r : PeerRecord}
    (h : O.record_saved_user_peers r = .ok () → Q (.record_saved_user_peers r)) :
    Emits Q (fun _ => True) (record_saved_user_peers O r) :=
  bind (lift_result' _) fun _ hr => bind (emit' (h hr)) fun _ _ =>
    fun _ => ⟨[], by simp [insert_saved_peers], by simp, fun _ _ => trivial⟩

/-- `Emits`, read at one world. -/
theorem trace_at {m : NodeM α} (h : Emits Q P m) (w : World) :
    ∃ es, (m w).2.trace = w.trace ++ es ∧ ∀ e ∈ es, Q e :=
  let ⟨es, hes, hq, _⟩ := h w; ⟨es, hes, hq⟩

theorem get_saved_user_peers' (a : String) :
    Emits Q (fun _ => True) (get_saved_user_peers a) :=
  fun _ => ⟨[], by simp [get_saved_user_peers], by simp, fun _ _ => trivial⟩

theorem list_all_peers' {O : Outcomes} (h : Q .list_all_peers) :
    Emits Q (fun ds => O.list_all_peers = .ok ds) (list_all_peers O) :=
  bind (emit' h) fun _ _ => lift_result' _

theorem dial_to_peer_id' {O : Outcomes} {a : Multiaddr} {p : PeerId}
    (h : Q (.dial_to_peer_id a p)) : Emits Q (fun _ => True) (dial_to_peer_id O a p) :=
  bind (emit' h) fun _ _ => mono (lift_result' _) (fun _ h => h) fun _ _ => trivial

theorem send_request' {O : Outcomes} {tx : TxStateMachine} {p : PeerId} {a : Multiaddr}
    (h : Q (.send_request tx p a O.outbound_id)) :
    Emits Q (fun _ => True) (send_request O tx p a) :=
  bind (emit' h) fun _ _ => mono (lift_result' _) (fun _ h => h) fun _ _ => trivial

theorem send_response' {O : Outcomes} {i : UInt64} {tx : TxStateMachine}
    (h : Q (.send_response i tx)) : Emits Q (fun _ => True) (send_response O i tx) :=
  bind (emit' h) fun _ _ => mono (lift_result' _) (fun _ h => h) fun _ _ => trivial

theorem send_raw_transaction' {O : Outcomes} {n : ChainSupported} {raw : Bytes}
    (h : Q (.send_raw_transaction n raw)) :
    Emits Q (fun r => r = O.send_raw_transaction n raw) (send_raw_transaction O n raw) :=
  bind (emit' h) fun _ _ => pure' rfl

/-- An effect that `m` appends from `w` satisfies `Q`. -/
theorem of_appends {m : NodeM α} (h : Emits Q P m) {w : World} {e : Effect}
    (he : appends m w e) : Q e := by
  obtain ⟨es, hes, he⟩ := he
  obtain ⟨es', hes', hq, -⟩ := h w
  rw [hes] at hes'
  rw [List.append_cancel_left hes'] at he
  exact hq e he

/-- The guard appends nothing of its own. -/
theorem with_worker' {k : NodeM α} (h : Emits Q P k) : Emits Q P (with_worker k) := by
  intro w
  cases hl : w.worker_locked
  · rw [with_worker_of_unlocked k hl]
    exact h { w with worker_locked := true }
  · rw [with_worker_of_locked k hl]
    exact ⟨[], by simp, by simp, fun _ h => by cases h⟩

theorem deadlock' : Emits Q P (deadlock : NodeM α) :=
  fun _ => ⟨[], by simp [deadlock], by simp, fun _ h => by cases h⟩

end Emits

/-! ## What a computation reads and writes of the world

No operation reads the trace, only `record_saved_user_peers` writes the store, and only the
worker's guard reads and writes the lock. `Blind m` says that `m` reads nothing of the world and
only appends to the trace; `WorkerFrame m`, that it reads the lock alone, leaves it as it found
it, and only appends to the trace; `StoreFrame m`, that what `m` does depends on the store and
the lock alone, that it only appends to the trace, that the store it leaves is the rows its
appended effects committed, newest first, over the one it found, and that it never releases a
lock it found held. Like `Emits`, each has one rule per operation and one for `bind`. -/

/-- The rows of `saved_peers` an effect commits. -/
def Effect.rows : Effect → List SavedPeer
  | .record_saved_user_peers r => r.rows
  | _ => []

/-- The rows a list of effects commits, newest first, as `insert_saved_peers` stacks them. -/
def saved_rows (es : List Effect) : List SavedPeer := es.reverse.flatMap Effect.rows

@[simp] theorem saved_rows_nil : saved_rows [] = [] := rfl

@[simp] theorem saved_rows_append (es es' : List Effect) :
    saved_rows (es ++ es') = saved_rows es' ++ saved_rows es := by
  simp [saved_rows]

@[simp] theorem saved_rows_singleton (e : Effect) : saved_rows [e] = e.rows := by
  simp [saved_rows]

theorem saved_rows_eq_nil {es : List Effect} (h : ∀ e ∈ es, e.rows = []) : saved_rows es = [] := by
  simpa [saved_rows, List.flatMap_eq_nil_iff] using h

/-- `m` reads nothing of the world, and only appends effects that commit no row. -/
def Blind {α : Type} (m : NodeM α) : Prop :=
  ∃ r es, saved_rows es = [] ∧ ∀ w, m w = (r, { w with trace := w.trace ++ es })

/-- `m` reads only whether the worker is locked, leaves the lock as it found it, and only
appends effects that commit no row. -/
def WorkerFrame {α : Type} (m : NodeM α) : Prop :=
  ∀ l, ∃ r es, saved_rows es = [] ∧
    ∀ w, w.worker_locked = l → m w = (r, { w with trace := w.trace ++ es })

/-- `m` reads only the store and the lock and only appends to the trace; the store it leaves is
what its effects committed over the store it found, and a lock it found held stays held. -/
def StoreFrame {α : Type} (m : NodeM α) : Prop :=
  ∀ s l, ∃ r es l', ∀ t, m ⟨s, t, l⟩ = (r, ⟨saved_rows es ++ s, t ++ es, l || l'⟩)

namespace Blind

variable {α β : Type}

theorem pure' (a : α) : Blind (pure a : NodeM α) :=
  ⟨.ok a, [], rfl, fun w => by cases w; simp⟩

theorem throw' (e : Abort) : Blind (throw e : NodeM α) :=
  ⟨.error e, [], rfl, fun w => by cases w; simp⟩

theorem emit' {e : Effect} (h : e.rows = []) : Blind (emit e) :=
  ⟨.ok (), [e], by simp [h], fun _ => rfl⟩

theorem bind {x : NodeM α} {f : α → NodeM β} (hx : Blind x) (hf : ∀ a, Blind (f a)) :
    Blind (x >>= f) := by
  obtain ⟨r, es, hrows, hx⟩ := hx
  cases r with
  | error e => exact ⟨.error e, es, hrows, fun w => by rw [bind_apply, hx]⟩
  | ok a =>
    obtain ⟨r', es', hrows', hf⟩ := hf a
    refine ⟨r', es ++ es', by simp [hrows, hrows'], fun w => ?_⟩
    rw [bind_apply, hx]
    exact (hf _).trans (by simp)

theorem lift_result' (r : Except String α) : Blind (lift_result r) := by
  cases r
  · exact throw' _
  · exact pure' _

theorem lift_abort' (r : Except Abort α) : Blind (lift_abort r) := by
  cases r
  · exact throw' _
  · exact pure' _

theorem expect' (o : Option α) (msg : String) : Blind (expect o msg) := by
  cases o
  · exact throw' _
  · exact pure' _

theorem result_expect' (r : Except String α) (msg : String) : Blind (result_expect r msg) := by
  cases r
  · exact throw' _
  · exact pure' _

theorem rpc_send' (O : Outcomes) (tx : TxStateMachine) : Blind (rpc_send O tx) :=
  bind (emit' rfl) fun _ => lift_result' _

theorem update_failed_tx' (O : Outcomes) (row : DbTxStateMachine) :
    Blind (update_failed_tx O row) :=
  bind (lift_result' _) fun _ => emit' rfl

theorem update_success_tx' (O : Outcomes) (row : DbTxStateMachine) :
    Blind (update_success_tx O row) :=
  bind (lift_result' _) fun _ => emit' rfl

theorem list_all_peers' (O : Outcomes) : Blind (list_all_peers O) :=
  bind (emit' rfl) fun _ => lift_result' _

theorem dial_to_peer_id' (O : Outcomes) (a : Multiaddr) (p : PeerId) :
    Blind (dial_to_peer_id O a p) :=
  bind (emit' rfl) fun _ => lift_result' _

theorem send_request' (O : Outcomes) (tx : TxStateMachine) (p : PeerId) (a : Multiaddr) :
    Blind (send_request O tx p a) :=
  bind (emit' rfl) fun _ => lift_result' _

theorem send_response' (O : Outcomes) (i : UInt64) (tx : TxStateMachine) :
    Blind (send_response O i tx) :=
  bind (emit' rfl) fun _ => lift_result' _

/-- A blind computation, read at one world: what it does from the empty world, appended. -/
theorem apply {m : NodeM α} (h : Blind m) (w : World) :
    m w = ((m ⟨[], [], false⟩).1, { w with trace := w.trace ++ (m ⟨[], [], false⟩).2.trace }) := by
  obtain ⟨r, es, -, h⟩ := h
  rw [h, h]
  rfl

theorem worker_frame {m : NodeM α} (h : Blind m) : WorkerFrame m :=
  let ⟨r, es, hrows, h⟩ := h; fun _ => ⟨r, es, hrows, fun w _ => h w⟩

/-- A blind computation that never waits, under the worker's guard: it reads the lock and
leaves it as it found it. -/
theorem with_worker {k : NodeM α} (h : Blind k) (hk : ∀ w, waits_forever (k w).1 = false) :
    WorkerFrame (with_worker k) := by
  obtain ⟨r, es, hrows, h⟩ := h
  intro l
  cases l
  · refine ⟨r, es, hrows, fun w hw => ?_⟩
    have hr : waits_forever r = false := by simpa [h] using hk w
    rw [with_worker_of_unlocked k hw, h, hr, ← hw]
  · exact ⟨.error .blocked, [], rfl, fun w hw => by rw [with_worker_of_locked k hw]; simp⟩

theorem store_frame {m : NodeM α} (h : Blind m) : StoreFrame m := by
  obtain ⟨r, es, hrows, h⟩ := h
  exact fun s l => ⟨r, es, false, fun t => by rw [h, hrows]; simp⟩

end Blind

namespace WorkerFrame

variable {α β : Type}

theorem bind {x : NodeM α} {f : α → NodeM β} (hx : WorkerFrame x)
    (hf : ∀ a, WorkerFrame (f a)) : WorkerFrame (x >>= f) := by
  intro l
  obtain ⟨r, es, hrows, hx⟩ := hx l
  cases r with
  | error e => exact ⟨.error e, es, hrows, fun w hw => by rw [bind_apply, hx w hw]⟩
  | ok a =>
    obtain ⟨r', es', hrows', hf⟩ := hf a l
    refine ⟨r', es ++ es', by simp [hrows, hrows'], fun w hw => ?_⟩
    rw [bind_apply, hx w hw]
    exact (hf { w with trace := w.trace ++ es } hw).trans (by simp)

/-- A computation that reads only the lock, read at one world: what it does from the empty
world with the same lock, appended. -/
theorem apply {m : NodeM α} (h : WorkerFrame m) (w : World) :
    m w = ((m ⟨[], [], w.worker_locked⟩).1,
      { w with trace := w.trace ++ (m ⟨[], [], w.worker_locked⟩).2.trace }) := by
  obtain ⟨r, es, -, h⟩ := h w.worker_locked
  rw [h w rfl, h ⟨[], [], w.worker_locked⟩ rfl]
  rfl

theorem saved_rows_eq {m : NodeM α} (h : WorkerFrame m) (l : Bool) :
    saved_rows (m ⟨[], [], l⟩).2.trace = [] := by
  obtain ⟨r, es, hrows, h⟩ := h l
  rw [h _ rfl]
  exact hrows

theorem store_frame {m : NodeM α} (h : WorkerFrame m) : StoreFrame m := by
  intro s l
  obtain ⟨r, es, hrows, h⟩ := h l
  exact ⟨r, es, false, fun t => by rw [h _ rfl, hrows]; simp⟩

end WorkerFrame

namespace StoreFrame

variable {α β : Type}

theorem bind {x : NodeM α} {f : α → NodeM β} (hx : StoreFrame x)
    (hf : ∀ a, StoreFrame (f a)) : StoreFrame (x >>= f) := by
  intro s l
  obtain ⟨r, es, l₁, hx⟩ := hx s l
  cases r with
  | error e => exact ⟨.error e, es, l₁, fun t => by rw [bind_apply, hx]⟩
  | ok a =>
    obtain ⟨r', es', l₂, hf⟩ := hf a (saved_rows es ++ s) (l || l₁)
    refine ⟨r', es ++ es', l₁ || l₂, fun t => ?_⟩
    rw [bind_apply, hx]
    exact (hf _).trans (by simp [Bool.or_assoc])

theorem get_saved_user_peers' (a : String) : StoreFrame (get_saved_user_peers a) :=
  fun s _ => ⟨.ok (lookup_saved_peer s a), [], false, fun t => by simp [get_saved_user_peers]⟩

theorem record_saved_user_peers' (O : Outcomes) (r : PeerRecord) :
    StoreFrame (record_saved_user_peers O r) := by
  refine bind (Blind.lift_result' _).store_frame fun _ s _ => ⟨.ok (), [.record_saved_user_peers r],
    false, fun t => ?_⟩
  simp [bind_apply, insert_saved_peers, Effect.rows]

/-- The guard: a lock found held stays held, and one found free is held afterwards exactly
when the computation under it waits forever. -/
theorem with_worker' {k : NodeM α} (h : StoreFrame k) : StoreFrame (with_worker k) := by
  intro s l
  cases l
  · obtain ⟨r, es, l', h⟩ := h s true
    exact ⟨r, es, waits_forever r, fun t => by rw [with_worker_of_unlocked k rfl]; simp [h]⟩
  · exact ⟨.error .blocked, [], false, fun t => by rw [with_worker_of_locked k rfl]; simp⟩

theorem deadlock' : StoreFrame (deadlock : NodeM α) :=
  fun _ _ => ⟨.error .blocked, [], true, fun _ => by simp [deadlock]⟩

/-- A store-framed computation, read at one world: what it does from the same store and lock
and the empty trace, appended. -/
theorem apply {m : NodeM α} (h : StoreFrame m) (w : World) :
    m w = ((m ⟨w.saved_peers, [], w.worker_locked⟩).1,
      ⟨(m ⟨w.saved_peers, [], w.worker_locked⟩).2.saved_peers,
        w.trace ++ (m ⟨w.saved_peers, [], w.worker_locked⟩).2.trace,
        (m ⟨w.saved_peers, [], w.worker_locked⟩).2.worker_locked⟩) := by
  obtain ⟨r, es, l', h⟩ := h w.saved_peers w.worker_locked
  cases w
  rw [h, h]
  rfl

/-- The store a store-framed computation leaves, from the effects it appended. -/
theorem saved_peers_of_trace {m : NodeM α} (h : StoreFrame m) {w : World} {es : List Effect}
    (hes : (m w).2.trace = w.trace ++ es) :
    (m w).2.saved_peers = saved_rows es ++ w.saved_peers := by
  obtain ⟨r, es', l', h⟩ := h w.saved_peers w.worker_locked
  have hw : m w = (r, ⟨saved_rows es' ++ w.saved_peers, w.trace ++ es', w.worker_locked || l'⟩) := by
    cases w; exact h _
  rw [hw] at hes ⊢
  rw [List.append_cancel_left hes]

theorem saved_peers_eq {m : NodeM α} (h : StoreFrame m) (s : List SavedPeer) (l : Bool) :
    (m ⟨s, [], l⟩).2.saved_peers = saved_rows (m ⟨s, [], l⟩).2.trace ++ s := by
  obtain ⟨r, es, l', h⟩ := h s l
  rw [h]
  rfl

/-- A lock a store-framed computation found held is held when it ends. -/
theorem locked_of_locked {m : NodeM α} (h : StoreFrame m) {w : World}
    (hl : w.worker_locked = true) : (m w).2.worker_locked = true := by
  obtain ⟨r, es, l', h⟩ := h w.saved_peers true
  obtain ⟨s, t, l⟩ := w
  cases hl
  rw [h]
  rfl

end StoreFrame

/-! ## Where a computation panics

`PanicsOnly R P m`: from any world, every panic of `m` carries a message satisfying `R`, and
every value it returns satisfies `P`. An error returned through `?` is not a panic. -/

def PanicsOnly {α : Type} (R : String → Prop) (P : α → Prop) (m : NodeM α) : Prop :=
  ∀ w, (∀ msg, (m w).1 = .error (.panic msg) → R msg) ∧ ∀ a, (m w).1 = .ok a → P a

namespace PanicsOnly

variable {α β : Type} {R : String → Prop} {P : α → Prop}

theorem pure' {a : α} (h : P a) : PanicsOnly R P (pure a : NodeM α) :=
  fun _ => ⟨fun _ h' => (by cases h'), fun _ h' => by cases h'; exact h⟩

theorem throw_error (e : String) : PanicsOnly R P (throw (Abort.error e) : NodeM α) :=
  fun _ => ⟨fun _ h => (by cases h), fun _ h => by cases h⟩

theorem throw_panic {m : String} (h : R m) : PanicsOnly R P (throw (Abort.panic m) : NodeM α) :=
  fun _ => ⟨fun _ h' => (by cases h'; exact h), fun _ h' => by cases h'⟩

theorem throw_blocked : PanicsOnly R P (throw Abort.blocked : NodeM α) :=
  fun _ => ⟨fun _ h => (by cases h), fun _ h => by cases h⟩

theorem bind {Q : β → Prop} {x : NodeM α} {f : α → NodeM β} (hx : PanicsOnly R P x)
    (hf : ∀ a, P a → PanicsOnly R Q (f a)) : PanicsOnly R Q (x >>= f) := by
  intro w
  obtain ⟨hxp, hxa⟩ := hx w
  rw [bind_apply]
  rcases hxw : x w with ⟨r, w'⟩
  rw [hxw] at hxp hxa
  cases r with
  | error e => exact ⟨fun msg h => hxp msg (by simpa using h), fun _ h => by cases h⟩
  | ok a => exact hf a (hxa a rfl) w'

theorem mono {R' : String → Prop} {P' : α → Prop} {m : NodeM α} (h : PanicsOnly R P m)
    (hR : ∀ msg, R msg → R' msg) (hP : ∀ a, P a → P' a) : PanicsOnly R' P' m :=
  fun w => ⟨fun msg hm => hR msg ((h w).1 msg hm), fun a ha => hP a ((h w).2 a ha)⟩

theorem emit' (e : Effect) : PanicsOnly R (fun _ => True) (emit e) :=
  fun _ => ⟨fun _ h => (by cases h), fun _ _ => trivial⟩

theorem lift_result' (r : Except String α) : PanicsOnly R (fun a => r = .ok a) (lift_result r) := by
  cases r
  · exact throw_error _
  · exact pure' rfl

theorem lift_abort' (r : Except Abort α) (h : ∀ m, r = .error (.panic m) → R m) :
    PanicsOnly R (fun a => r = .ok a) (lift_abort r) := by
  cases r with
  | error e =>
    cases e with
    | error e => exact throw_error _
    | panic m => exact throw_panic (h m rfl)
    | blocked => exact throw_blocked
  | ok a => exact pure' rfl

theorem expect' (o : Option α) (msg : String) (h : o = none → R msg) :
    PanicsOnly R (fun a => o = some a) (expect o msg) := by
  cases o
  · exact throw_panic (h rfl)
  · exact pure' rfl

theorem result_expect' (r : Except String α) (msg : String)
    (h : ∀ e, r = .error e → R (msg ++ ": " ++ e)) :
    PanicsOnly R (fun a => r = .ok a) (result_expect r msg) := by
  cases r
  · exact throw_panic (h _ rfl)
  · exact pure' rfl

/-- The guard panics only as what runs under it does. -/
theorem with_worker' {m : NodeM α} (h : PanicsOnly R P m) : PanicsOnly R P (with_worker m) := by
  intro w
  cases hl : w.worker_locked
  · rw [with_worker_of_unlocked m hl]
    exact h _
  · rw [with_worker_of_locked m hl]
    exact ⟨fun _ h => (by cases h), fun _ h => by cases h⟩

theorem deadlock' : PanicsOnly R P (deadlock : NodeM α) :=
  fun _ => ⟨fun _ h => (by cases h), fun _ h => by cases h⟩

/-- A computation whose result does not depend on the world panics only as that result does. -/
theorem of_result {m : NodeM α} {res : Except Abort α} (h : ∀ w, (m w).1 = res)
    (hR : ∀ msg, res = .error (.panic msg) → R msg) : PanicsOnly R (fun a => res = .ok a) m :=
  fun w => ⟨fun msg hm => hR msg ((h w).symm.trans hm), fun _ ha => (h w).symm.trans ha⟩

theorem rpc_send' (O : Outcomes) (tx : TxStateMachine) :
    PanicsOnly R (fun _ => True) (rpc_send O tx) :=
  bind (emit' _) fun _ _ => mono (lift_result' _) (fun _ h => h) fun _ _ => trivial

theorem update_failed_tx' (O : Outcomes) (row : DbTxStateMachine) :
    PanicsOnly R (fun _ => True) (update_failed_tx O row) :=
  bind (lift_result' _) fun _ _ => emit' _

theorem update_success_tx' (O : Outcomes) (row : DbTxStateMachine) :
    PanicsOnly R (fun _ => True) (update_success_tx O row) :=
  bind (lift_result' _) fun _ _ => emit' _

theorem list_all_peers' (O : Outcomes) :
    PanicsOnly R (fun ds => O.list_all_peers = .ok ds) (list_all_peers O) :=
  bind (emit' _) fun _ _ => lift_result' _

theorem dial_to_peer_id' (O : Outcomes) (a : Multiaddr) (p : PeerId) :
    PanicsOnly R (fun _ => True) (dial_to_peer_id O a p) :=
  bind (emit' _) fun _ _ => mono (lift_result' _) (fun _ h => h) fun _ _ => trivial

theorem send_request' (O : Outcomes) (tx : TxStateMachine) (p : PeerId) (a : Multiaddr) :
    PanicsOnly R (fun _ => True) (send_request O tx p a) :=
  bind (emit' _) fun _ _ => mono (lift_result' _) (fun _ h => h) fun _ _ => trivial

theorem send_response' (O : Outcomes) (i : UInt64) (tx : TxStateMachine) :
    PanicsOnly R (fun _ => True) (send_response O i tx) :=
  bind (emit' _) fun _ _ => mono (lift_result' _) (fun _ h => h) fun _ _ => trivial

theorem get_saved_user_peers' (a : String) :
    PanicsOnly R (fun _ => True) (get_saved_user_peers a) :=
  fun _ => ⟨fun _ h => (by cases h), fun _ _ => trivial⟩

theorem record_saved_user_peers' (O : Outcomes) (r : PeerRecord) :
    PanicsOnly R (fun _ => True) (record_saved_user_peers O r) :=
  bind (lift_result' _) fun _ _ => bind (emit' _) fun _ _ =>
    fun _ => ⟨fun _ h => (by cases h), fun _ _ => trivial⟩

end PanicsOnly

end node
