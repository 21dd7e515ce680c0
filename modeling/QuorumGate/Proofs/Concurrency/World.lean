import QuorumGate.Service.Executions
import QuorumGate.Service.Queries
import QuorumGate.Service.Sweeper
import QuorumGate.Store.Memory

/-!
# The gate at work

Any number of calls run side by side over one store. A world holds the store, the clock, what is
left of every call, and a chronicle of all that has passed between the calls and their
surroundings. One move starts a call, moves the clock, or answers a single request of a single
call, so that the reachable worlds are those of all interleavings, request by request. The store
may refuse a request, or carry it out and report a failure all the same.
-/

namespace QuorumGate

/-- An operation of the gate, with what it is called with. -/
inductive Call where
  | createPolicy (draft : PolicyDraft) (correlation : Text)
  | createProposal (draft : ProposalDraft) (correlation : Text)
  | sign (id : Text) (request : SigningRequest) (correlation : Text)
  | execute (id : Text) (requested : Option Number) (correlation : Text)
  | expire (p : Proposal) (correlation : Text)
  | sweep
  | policy (id correlation : Text)
  | policies (limit : Int) (correlation : Text)
  | proposal (id correlation : Text)
  | proposals (filter : Option Status) (limit : Int) (correlation : Text)
  | payload (id correlation : Text)
  | overview (id correlation : Text)

namespace Call

abbrev Result : Call → Type
  | createPolicy .. | policy .. => Policy
  | createProposal .. | sign .. | expire .. | proposal .. => Proposal
  | execute .. => Receipt
  | sweep => Nat
  | policies .. => List Policy
  | proposals .. => List Proposal
  | payload .. => String
  | overview .. => Overview

def program (rules : ExecutionRules) : (c : Call) → Service c.Result
  | createPolicy draft correlation => Policies.create draft correlation
  | createProposal draft correlation => Ledger.create draft correlation
  | sign id request correlation => Ledger.sign rules.attempts id request correlation
  | execute id requested correlation => Executions.execute rules id requested correlation
  | expire p correlation => Ledger.expire rules.attempts p correlation
  | sweep => Sweeper.sweep rules.attempts
  | policy id correlation => Policies.get id correlation
  | policies limit correlation => Policies.list limit correlation
  | proposal id correlation => Ledger.get id correlation
  | proposals filter limit correlation => Ledger.list filter limit correlation
  | payload id correlation => Ledger.payload id correlation
  | overview id correlation => Queries.overview id correlation

end Call

/-- What is written down of a call. A record is written in the place of the one before it. -/
inductive Event where
  | began (c : Call)
  | saw (t : Instant)
  | drew (kind : IdKind) (id : Text)
  | filed (p : Policy)
  | wrote (before : Option Proposal) (after : Proposal)
  | failed (op : StoreOp) (e : Failure)
  | verified (signer : Text) (payload : String) (signature : Text) (verdict : Except Failure Bool)
  | deployed (order : Order) (landing : Landing)

namespace Event

/-- The proposal that an event leaves in the store. -/
def written? : Event → Option Proposal
  | wrote _ p => some p
  | _ => none

def draws (kind : IdKind) (id : Text) : Event → Bool
  | drew k x => k == kind && x == id
  | _ => false

def deploys (id : Text) : Event → Bool
  | deployed o _ => o.key == id
  | _ => false

end Event

structure Entry where
  task : Nat
  event : Event

/-- All that has happened, newest first. -/
abbrev Chronicle := List Entry

/-- All records of proposals that were ever committed, newest first. -/
def written (past : Chronicle) : List Proposal := past.filterMap (·.event.written?)

/-- The committed versions of one proposal, newest first. -/
def versions (past : Chronicle) (id : Text) : List Proposal := (written past).filter (·.id == id)

/-- The calls that the deployer has answered for a proposal, once for each answer. -/
def deployers (past : Chronicle) (id : Text) : List Nat :=
  (past.filter (·.event.deploys id)).map (·.task)

/-- Only a version that was committed can be handed to an expiry, or one that reads as terminal. All
other calls can be made at any time. -/
def Call.isReady (past : Chronicle) : Call → Bool
  | expire p _ => p.status.isTerminal || (written past).contains p
  | _ => true

/-- How the surroundings treat one request. -/
inductive Choice where
  | plain
  | id (id : Text)
  | refused (e : Failure)
  | lost (e : Failure)
  | verdict (v : Except Failure Bool)
  | landing (l : Landing)

/-- What a request comes to: the reply, what is written down, and the store that it leaves. -/
structure Answer (r : Effect) where
  reply : r.Reply
  events : List Event
  store : Store

/-- What a request to the store changes in it. -/
def Store.changes (s : Store) : StoreOp → List Event
  | .insertPolicy p =>
    match s.insertPolicy p with
    | .ok _ => [.filed p]
    | .error _ => []
  | .insertProposal p =>
    match s.insertProposal p with
    | .ok _ => [.wrote none p]
    | .error _ => []
  | .updateProposal p expected =>
    match s.updateProposal p expected with
    | .ok _ => [.wrote (s.proposal? p.id) (committed p expected)]
    | .error _ => []
  | _ => []

def reported (op : StoreOp) : Except Failure α → List Event
  | .ok _ => []
  | .error e => [.failed op e]

def isFresh (past : Chronicle) (kind : IdKind) (id : Text) : Bool :=
  past.all fun e => !e.event.draws kind id

/-- The answer to a request, where the choice is one for it. An identifier is new, a refused request
leaves the store as it is, and a lost one has taken effect. -/
def answer (s : Store) (clock : Instant) (past : Chronicle) :
    (r : Effect) → Choice → Option (Answer r)
  | .now, .plain => some ⟨clock, [.saw clock], s⟩
  | .fresh kind, .id id => if isFresh past kind id then some ⟨id, [.drew kind id], s⟩ else none
  | .note _, .plain => some ⟨(), [], s⟩
  | .correlate _, .plain => some ⟨(), [], s⟩
  | .pause _, .plain => some ⟨(), [], s⟩
  | .store op _, .plain =>
    some ⟨(s.perform op).1, reported op (s.perform op).1 ++ s.changes op, (s.perform op).2⟩
  | .store op _, .refused e => some ⟨.error e, [.failed op e], s⟩
  | .store op _, .lost e => some ⟨.error e, .failed op e :: s.changes op, (s.perform op).2⟩
  | .verify signer payload signature, .verdict v =>
    some ⟨v, [.verified signer payload signature v], s⟩
  | .deploy order _, .landing l => some ⟨l, [.deployed order l], s⟩
  | _, _ => none

/-- What a request comes to, by the choices that there are for it. -/
inductive ComesTo (s : Store) (clock : Instant) (past : Chronicle) :
    (r : Effect) → Choice → Answer r → Prop where
  | now : ComesTo s clock past .now .plain ⟨clock, [.saw clock], s⟩
  | fresh {kind : IdKind} {id : Text} (unused : isFresh past kind id = true) :
      ComesTo s clock past (.fresh kind) (.id id) ⟨id, [.drew kind id], s⟩
  | note {line : Note} : ComesTo s clock past (.note line) .plain ⟨(), [], s⟩
  | correlate {id : Text} : ComesTo s clock past (.correlate id) .plain ⟨(), [], s⟩
  | pause {seconds : Number} : ComesTo s clock past (.pause seconds) .plain ⟨(), [], s⟩
  | performed {op : StoreOp} {correlation : Text} :
      ComesTo s clock past (.store op correlation) .plain
        ⟨(s.perform op).1, reported op (s.perform op).1 ++ s.changes op, (s.perform op).2⟩
  | refused {op : StoreOp} {correlation : Text} {e : Failure} :
      ComesTo s clock past (.store op correlation) (.refused e) ⟨.error e, [.failed op e], s⟩
  | lost {op : StoreOp} {correlation : Text} {e : Failure} :
      ComesTo s clock past (.store op correlation) (.lost e)
        ⟨.error e, .failed op e :: s.changes op, (s.perform op).2⟩
  | verified {signer : Text} {payload : String} {signature : Text} {v : Except Failure Bool} :
      ComesTo s clock past (.verify signer payload signature) (.verdict v)
        ⟨v, [.verified signer payload signature v], s⟩
  | landed {order : Order} {limit : Number} {l : Landing} :
      ComesTo s clock past (.deploy order limit) (.landing l) ⟨l, [.deployed order l], s⟩

theorem comesTo {s : Store} {clock : Instant} {past : Chronicle} {r : Effect} {choice : Choice}
    {a : Answer r} (h : answer s clock past r choice = some a) :
    ComesTo s clock past r choice a := by
  unfold answer at h
  split at h
  case h_2 =>
    split at h
    case isTrue unused =>
      cases h
      exact .fresh unused
    case isFalse => cases h
  all_goals cases h
  all_goals constructor

/-- A call under way, with what is left of it. -/
structure Task where
  call : Call
  rest : Service call.Result

structure World where
  store : Store
  clock : Instant
  tasks : List Task
  chronicle : Chronicle

inductive Move where
  | start (c : Call)
  | tick (t : Instant)
  | serve (task : Nat) (choice : Choice)

/-- The entries of one call's events. -/
def entries (i : Nat) (events : List Event) : Chronicle := events.map (⟨i, ·⟩)

namespace World

/-- A world without proposals, in which nothing has happened yet. -/
def opening (founding : List Policy) (clock : Instant) : World := ⟨⟨founding, []⟩, clock, [], []⟩

/-- What a call asks for next. -/
def request? (w : World) (i : Nat) : Option Effect :=
  match w.tasks[i]? with
  | some ⟨_, .ask r _⟩ => some r
  | _ => none

/-- Whether a call has gone to the deployer for a proposal and not come back yet. -/
def isDeploying (w : World) (id : Text) (i : Nat) : Bool :=
  match w.request? i with
  | some (.deploy o _) => o.key == id
  | _ => false

/-- The calls that have gone to the deployer for a proposal, once for each time. -/
def invokers (w : World) (id : Text) : List Nat :=
  (List.range w.tasks.length).filter (w.isDeploying id) ++ deployers w.chronicle id

def move (rules : ExecutionRules) (w : World) : Move → Option World
  | .start c =>
    if c.isReady w.chronicle then
      some { w with
        tasks := w.tasks ++ [⟨c, c.program rules⟩]
        chronicle := ⟨w.tasks.length, .began c⟩ :: w.chronicle }
    else none
  | .tick t => some { w with clock := t }
  | .serve i choice =>
    match w.tasks[i]? with
    | some ⟨c, .ask r next⟩ =>
      (answer w.store w.clock w.chronicle r choice).map fun a =>
        { w with
          store := a.store
          tasks := w.tasks.set i ⟨c, next a.reply⟩
          chronicle := entries i a.events ++ w.chronicle }
    | _ => none

def run (rules : ExecutionRules) : World → List Move → Option World
  | w, [] => some w
  | w, m :: rest => (w.move rules m).bind fun v => v.run rules rest

/-- What a move does. -/
inductive Moved (rules : ExecutionRules) (w : World) : Move → World → Prop where
  | started {call : Call} (ready : call.isReady w.chronicle = true) :
      Moved rules w (.start call) { w with
        tasks := w.tasks ++ [⟨call, call.program rules⟩]
        chronicle := ⟨w.tasks.length, .began call⟩ :: w.chronicle }
  | ticked {t : Instant} : Moved rules w (.tick t) { w with clock := t }
  | served {i : Nat} {choice : Choice} {call : Call} {r : Effect}
      {next : r.Reply → Service call.Result} {a : Answer r}
      (task : w.tasks[i]? = some ⟨call, .ask r next⟩)
      (answered : answer w.store w.clock w.chronicle r choice = some a) :
      Moved rules w (.serve i choice) { w with
        store := a.store
        tasks := w.tasks.set i ⟨call, next a.reply⟩
        chronicle := entries i a.events ++ w.chronicle }

theorem moved {rules : ExecutionRules} {w v : World} {m : Move} (h : w.move rules m = some v) :
    Moved rules w m v := by
  cases m with
  | start call =>
    rw [move] at h
    split at h
    case isTrue ready =>
      cases h
      exact .started ready
    case isFalse => cases h
  | tick t =>
    cases h
    exact .ticked
  | serve i choice =>
    rw [move] at h
    split at h
    case h_1 call r next task =>
      obtain ⟨a, answered, rfl⟩ := Option.map_eq_some_iff.1 h
      exact .served task answered
    case h_2 => cases h

/-- What a program that only reads comes to, if nothing comes in between. -/
def read (w : World) (p : Service α) : Option (Except Failure α) :=
  p.interpret fun r => (answer w.store w.clock w.chronicle r .plain).map Answer.reply

end World

/-- What a run starts from, how the surroundings may treat a request, and where the clock may go. -/
structure Conditions where
  founding : List Policy
  choice : Effect → Choice → Prop
  later : Instant → Instant → Prop
  later_refl : ∀ t, later t t
  later_trans : ∀ {r s t}, later r s → later s t → later r t

namespace Conditions

/-- Everything may happen. -/
def any (founding : List Policy) : Conditions :=
  ⟨founding, fun _ _ => True, fun _ _ => True, fun _ => trivial, fun _ _ => trivial⟩

/-- From an empty store on, the clock never goes backwards; requests may be treated in any way. -/
def steady : Conditions where
  founding := []
  choice := fun _ _ => True
  later := fun s t => s.isAware = t.isAware ∧ s.ticks ≤ t.ticks
  later_refl := fun _ => ⟨rfl, Int.le_refl _⟩
  later_trans := fun h h' => ⟨h.1.trans h'.1, Int.le_trans h.2 h'.2⟩

def permits (c : Conditions) (w : World) : Move → Prop
  | .start _ => True
  | .tick t => c.later w.clock t
  | .serve i choice => ∀ r, w.request? i = some r → c.choice r choice

end Conditions

/-- The worlds that some schedule of moves leads to. -/
inductive Reachable (rules : ExecutionRules) (c : Conditions) : World → Prop where
  | opening (clock : Instant) : Reachable rules c (.opening c.founding clock)
  | move {w v : World} (m : Move) (before : Reachable rules c w) (permitted : c.permits w m)
      (moved : w.move rules m = some v) : Reachable rules c v

namespace Reachable

variable {rules : ExecutionRules} {c : Conditions} {w v : World}

theorem of_run {moves : List Move} (free : ∀ r choice, c.choice r choice)
    (still : ∀ m ∈ moves, ∀ t, m ≠ .tick t) (hw : Reachable rules c w)
    (hv : w.run rules moves = some v) : Reachable rules c v := by
  induction moves generalizing w with
  | nil =>
    rw [World.run, Option.some.injEq] at hv
    exact hv ▸ hw
  | cons m rest ih =>
    obtain ⟨u, hu, hv⟩ := Option.bind_eq_some_iff.1 hv
    have permitted : c.permits w m := by
      cases m with
      | start call => trivial
      | tick t => exact absurd rfl (still _ List.mem_cons_self t)
      | serve i choice => exact fun r _ => free r choice
    exact ih (fun m hm => still m (List.mem_cons_of_mem _ hm)) (hw.move m permitted hu) hv

/-- What can be reached under some conditions can be reached without them. -/
theorem lenient (h : Reachable rules c w) : Reachable rules (.any c.founding) w := by
  induction h with
  | opening clock => exact .opening clock
  | move m before permitted moved ih =>
    refine ih.move m ?_ moved
    cases m with
    | start call => trivial
    | tick t => trivial
    | serve i choice => exact fun _ _ => trivial

end Reachable

end QuorumGate
