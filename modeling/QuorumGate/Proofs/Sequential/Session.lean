import QuorumGate.Proofs.Concurrency.Listing

/-!
# Calls one after the other

Calls are made one at a time over a store that never fails. The verifier and the deployer answer the
same question in the same way whenever it is put to them. Each call comes with what the clock shows
while it is under way and with the identifiers that it draws, so that the same call can be made over
two stores under the same circumstances.
-/

namespace QuorumGate

/-- How the verifier and the deployer answer. -/
structure Surroundings where
  verify : Text → String → Text → Except Failure Bool
  deploy : Order → Number → Landing

/-- A call, with what it sees on the clock, look by look, and the identifiers that it is given. -/
structure Occasion where
  call : Call
  clock : Nat → Instant
  ids : Nat → Text

/-- The store while a call is under way, how often it has looked at the clock and drawn an
identifier, and what it has had deployed. -/
structure Desk where
  store : Store
  looks : Nat
  draws : Nat
  orders : List (Order × Number)

namespace Occasion

def answer (env : Surroundings) (x : Occasion) : (r : Effect) → StateM Desk r.Reply
  | .now => fun d => (x.clock d.looks, { d with looks := d.looks + 1 })
  | .fresh _ => fun d => (x.ids d.draws, { d with draws := d.draws + 1 })
  | .note _ => fun d => ((), d)
  | .correlate _ => fun d => ((), d)
  | .pause _ => fun d => ((), d)
  | .store op _ => fun d => ((d.store.perform op).1, { d with store := (d.store.perform op).2 })
  | .verify signer payload signature => fun d => (env.verify signer payload signature, d)
  | .deploy order limit => fun d =>
    (env.deploy order limit, { d with orders := d.orders ++ [(order, limit)] })

/-- What a program comes to, and what it leaves. -/
def run (env : Surroundings) (x : Occasion) (p : Service α) (d : Desk) : Except Failure α × Desk :=
  p.interpret (x.answer env) d

end Occasion

/-- How a call has ended, and what it has had deployed. -/
structure Upshot where
  call : Call
  result : Except Failure call.Result
  orders : List (Order × Number)

def Occasion.perform (env : Surroundings) (rules : ExecutionRules) (x : Occasion) (s : Store) :
    Upshot × Store :=
  let r := x.run env (x.call.program rules) ⟨s, 0, 0, []⟩
  (⟨x.call, r.1, r.2.orders⟩, r.2.store)

/-- The outcomes of calls that are made one after the other. -/
def play (env : Surroundings) (rules : ExecutionRules) : Store → List Occasion → List Upshot
  | _, [] => []
  | s, x :: rest => (x.perform env rules s).1 :: play env rules (x.perform env rules s).2 rest

namespace Occasion

variable {α β : Type} {env : Surroundings} {x : Occasion} {d : Desk} {p : Proposal} {P : Policy}
  {id correlation : Text}

theorem run_ask (r : Effect) (next : r.Reply → Service α) :
    x.run env (.ask r next) d = x.run env (next (x.answer env r d).1) (x.answer env r d).2 := rfl

theorem run_bind (program : Service α) (k : α → Service β) (d : Desk) :
    x.run env (program >>= k) d =
      match x.run env program d with
      | (.ok a, d') => x.run env (k a) d'
      | (.error e, d') => (.error e, d') := by
  induction program generalizing d with
  | done a => rfl
  | fail e => rfl
  | ask r next ih =>
    rw [Program.ask_bind, run_ask, run_ask]
    exact ih _ _

theorem run_store_bind (op : StoreOp) (k : op.Result → Service α) :
    x.run env (Service.store op correlation >>= k) d =
      x.run env (Program.ofExcept (d.store.perform op).1 >>= k)
        { d with store := (d.store.perform op).2 } := rfl

theorem run_write_bind (op : StoreOp) (k : Option op.Result → Service α) {a : op.Result} {s : Store}
    (h : d.store.perform op = (.ok a, s)) :
    x.run env (Service.storeUnlessConflict op correlation >>= k) d =
      x.run env (k (some a)) { d with store := s } := by
  rw [Service.storeUnlessConflict, Program.ask_bind, run_ask]
  simp only [answer, h]
  rfl

theorem run_load_bind (h : d.store.proposal? id = some p) (k : Proposal → Service α) :
    x.run env (Ledger.load id correlation >>= k) d = x.run env (k p) d := by
  have found : d.store.perform (.getProposal id) = (.ok (some p), d.store) := by
    rw [Store.perform, h]
  rw [Ledger.load, Program.bind_assoc]
  refine (run_store_bind (.getProposal id) _).trans ?_
  rw [found]
  rfl

theorem run_policy_bind (h : d.store.policy? id = some P) (k : Policy → Service α) :
    x.run env (Policies.get id correlation >>= k) d = x.run env (k P) d := by
  have found : d.store.perform (.getPolicy id) = (.ok (some P), d.store) := by
    rw [Store.perform, h]
  rw [Policies.get, Program.bind_assoc]
  refine (run_store_bind (.getPolicy id) _).trans ?_
  rw [found]
  rfl

theorem run_now_bind (k : Instant → Service α) :
    x.run env (Service.now >>= k) d =
      x.run env (k (x.clock d.looks)) { d with looks := d.looks + 1 } := rfl

theorem run_fresh_bind (kind : IdKind) (k : Text → Service α) :
    x.run env (Service.fresh kind >>= k) d =
      x.run env (k (x.ids d.draws)) { d with draws := d.draws + 1 } := rfl

theorem run_timed_bind {y : Except TimeFault β} {b : β} (h : y = .ok b) (k : β → Service α) :
    x.run env (Service.timed y >>= k) d = x.run env (k b) d := by
  rw [h]
  rfl

theorem run_finds {program : Service α} {r : Except Failure α} (h : Finds d.store program r) :
    x.run env program d = (r, d) := by
  obtain ⟨s, looks, draws, orders⟩ := d
  induction h with
  | done a => rfl
  | fail e => rfl
  | store still rest ih =>
    rw [run_ask]
    simp only [answer, still]
    exact ih

end Occasion

end QuorumGate
