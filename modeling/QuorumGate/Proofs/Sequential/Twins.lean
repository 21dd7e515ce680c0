import Mathlib.Data.List.Forall2
import QuorumGate.Proofs.Sequential.Alone

/-!
# One call made twice

The same call about one proposal is made twice, over stores that hold the same policies and like
records of this proposal, and each time it is given identifiers of its own. As long as nothing but
the call changes the record, it takes the same course both times. What it leaves differs by those
identifiers only, and it leaves every other record alone.
-/

namespace QuorumGate

variable {ρ : Text → Text → Prop} {α β : Type}

/-! ## Records that differ by identifiers -/

/-- A signature with a related identifier. -/
inductive Signature.Like (ρ : Text → Text → Prop) (s : Signature) : Signature → Prop where
  | mk {id : Text} (related : ρ s.id id) : Like ρ s { s with id := id }

/-- An execution with a related identifier. -/
inductive Execution.Like (ρ : Text → Text → Prop) (e : Execution) : Execution → Prop where
  | mk {id : Text} (related : ρ e.id id) : Like ρ e { e with id := id }

/-- A proposal with related identifiers of its signatures and its execution. -/
inductive Proposal.Like (ρ : Text → Text → Prop) (p : Proposal) : Proposal → Prop where
  | mk {signatures : List Signature} {execution : Option Execution}
      (signed : List.Forall₂ (Signature.Like ρ) p.signatures signatures)
      (executed : Option.Rel (Execution.Like ρ) p.execution execution) :
      Like ρ p { p with signatures := signatures, execution := execution }

/-- A store with like proposals in the same order. -/
structure Store.Like (ρ : Text → Text → Prop) (s t : Store) : Prop where
  policies : t.policies = s.policies
  proposals : List.Forall₂ (Proposal.Like ρ) s.proposals t.proposals

theorem Signature.Like.any_eq {ss ts : List Signature} (h : List.Forall₂ (Signature.Like ρ) ss ts)
    (signer : Text) : ts.any (·.signer == signer) = ss.any (·.signer == signer) := by
  induction h with
  | nil => rfl
  | cons like _ ih =>
    cases like
    rw [List.any_cons, List.any_cons, ih]

namespace Proposal.Like

variable {p q : Proposal} {P : Policy} {now : Instant} {s t : Signature} {e f : Execution}

theorem refl (h : ∀ x, ρ x x) (p : Proposal) : p.Like ρ p := by
  refine .mk (List.forall₂_same.2 fun s _ => .mk (h s.id)) ?_
  cases p.execution with
  | none => exact .none
  | some e => exact .some (.mk (h e.id))

theorem id_eq (h : p.Like ρ q) : q.id = p.id := by cases h; rfl

theorem policyId_eq (h : p.Like ρ q) : q.policyId = p.policyId := by cases h; rfl

theorem status_eq (h : p.Like ρ q) : q.status = p.status := by cases h; rfl

theorem version_eq (h : p.Like ρ q) : q.version = p.version := by cases h; rfl

theorem expiresAt_eq (h : p.Like ρ q) : q.expiresAt = p.expiresAt := by cases h; rfl

theorem executedAt_eq (h : p.Like ρ q) : q.executedAt = p.executedAt := by cases h; rfl

theorem isExpired_eq (h : p.Like ρ q) : q.isExpired now = p.isExpired now := by cases h; rfl

theorem payload_eq (h : p.Like ρ q) : q.payload = p.payload := by cases h; rfl

theorem order_eq (h : p.Like ρ q) (correlation : Text) :
    Executions.order q correlation = Executions.order p correlation := by cases h; rfl

theorem length_eq (h : p.Like ρ q) : q.signatures.length = p.signatures.length := by
  cases h with
  | mk signed _ => exact signed.length_eq.symm

theorem evaluate_eq (h : p.Like ρ q) : q.evaluate P now = p.evaluate P now := by
  have quorum : q.quorumStatus P = p.quorumStatus P := by
    rw [quorumStatus, quorumStatus, h.length_eq]
  rw [evaluate, evaluate, h.status_eq, h.isExpired_eq, quorum]

theorem hasSigned_eq (h : p.Like ρ q) (signer : Text) :
    q.hasSigned signer = p.hasSigned signer := by
  cases h with
  | mk signed _ => exact Signature.Like.any_eq signed signer

theorem withStatus (h : p.Like ρ q) (stage : Status) :
    (p.withStatus stage).Like ρ (q.withStatus stage) := by
  cases h with
  | mk signed executed => exact .mk (p := p.withStatus stage) signed executed

theorem committed (h : p.Like ρ q) (expected : Int) :
    (Store.committed p expected).Like ρ (Store.committed q expected) := by
  cases h with
  | mk signed executed => exact .mk (p := Store.committed p expected) signed executed

theorem sign (h : p.Like ρ q) (hs : s.Like ρ t) : (p.sign s).Like ρ (q.sign t) := by
  cases h with
  | mk signed executed =>
    exact .mk (p := p.sign s) (List.rel_append signed (.cons hs .nil)) executed

theorem withExecution (h : p.Like ρ q) (he : e.Like ρ f) :
    (p.withExecution e).Like ρ (q.withExecution f) := by
  cases h with
  | mk signed _ => exact .mk (p := p.withExecution e) signed (.some he)

theorem claim {x y : Text} (h : p.Like ρ q) (related : ρ x y) (now : Instant) :
    (p.claim x now).Like ρ (q.claim y now) := by
  cases h with
  | mk signed _ => exact .mk (p := p.claim x now) signed (.some (.mk related))

end Proposal.Like

/-! Records that differ by identifiers only do not differ at all if none of these does. -/

theorem Proposal.Like.eq {p q : Proposal} (same : ∀ x y, ρ x y → y = x) (h : p.Like ρ q) :
    q = p := by
  cases h with
  | @mk signatures execution signed executed =>
    have signatures_eq : signatures = p.signatures := by
      have equal : List.Forall₂ Eq p.signatures signatures := signed.imp fun s t like => by
        cases like with
        | mk related => rw [same _ _ related]
      exact (List.forall₂_eq_eq_eq ▸ equal : p.signatures = signatures).symm
    have execution_eq : execution = p.execution := by
      generalize p.execution = before at executed
      cases executed with
      | none => rfl
      | some like =>
        cases like with
        | mk related => rw [same _ _ related]
    rw [signatures_eq, execution_eq]

theorem Proposal.Like.id_eq_of_rel {c c' : Option Proposal} {id : Text}
    (likes : Option.Rel (Proposal.Like ρ) c c') (own : ∀ q, c = some q → q.id = id) :
    ∀ q, c' = some q → q.id = id := by
  rintro q ⟨rfl⟩
  cases likes with
  | some like => exact like.id_eq.trans (own _ rfl)

namespace Store.Like

variable {s t : Store}

theorem refl (h : ∀ x, ρ x x) (s : Store) : s.Like ρ s :=
  ⟨rfl, List.forall₂_same.2 fun p _ => Proposal.Like.refl h p⟩

theorem eq (same : ∀ x y, ρ x y → y = x) (h : s.Like ρ t) : t = s := by
  have proposals : s.proposals = t.proposals :=
    List.forall₂_eq_eq_eq ▸ h.proposals.imp fun p q like => (like.eq same).symm
  obtain ⟨policies, _⟩ := s
  obtain ⟨policies', _⟩ := t
  rw [Store.mk.injEq]
  exact ⟨h.policies, proposals.symm⟩

end Store.Like

/-! ## Programs -/

/-- Two programs about the proposal with an identifier, each with what its store holds under it, ask
alike for as long as they are answered alike. The results that they come to are related. -/
inductive Twin (ρ : Text → Text → Prop) (id : Text) (ok : Proposal → Proposal → α → α → Prop) :
    Proposal → Proposal → Service α → Service α → Prop where
  | done {o o' : Proposal} {a a' : α} (h : ok o o' a a') : Twin ρ id ok o o' (.done a) (.done a')
  | fail {o o' : Proposal} (e : Failure) : Twin ρ id ok o o' (.fail e) (.fail e)
  | now {o o' : Proposal} {next next' : Instant → Service α}
      (h : ∀ t, Twin ρ id ok o o' (next t) (next' t)) :
      Twin ρ id ok o o' (.ask Effect.now next) (.ask Effect.now next')
  | fresh {o o' : Proposal} {kind : IdKind} {next next' : Text → Service α}
      (h : ∀ x x', ρ x x' → Twin ρ id ok o o' (next x) (next' x')) :
      Twin ρ id ok o o' (.ask (Effect.fresh kind) next) (.ask (Effect.fresh kind) next')
  | note {o o' : Proposal} {line line' : Note} {next next' : Unit → Service α}
      (h : Twin ρ id ok o o' (next ()) (next' ())) :
      Twin ρ id ok o o' (.ask (Effect.note line) next) (.ask (Effect.note line') next')
  | load {o o' : Proposal} {correlation : Text}
      {next next' : Except Failure (Option Proposal) → Service α}
      (h : Twin ρ id ok o o' (next (.ok (some o))) (next' (.ok (some o')))) :
      Twin ρ id ok o o' (.ask (Effect.store (.getProposal id) correlation) next)
        (.ask (Effect.store (.getProposal id) correlation) next')
  | policy {o o' : Proposal} {x correlation : Text}
      {next next' : Except Failure (Option Policy) → Service α}
      (h : ∀ found, Twin ρ id ok o o' (next (.ok found)) (next' (.ok found))) :
      Twin ρ id ok o o' (.ask (Effect.store (.getPolicy x) correlation) next)
        (.ask (Effect.store (.getPolicy x) correlation) next')
  | update {o o' q q' : Proposal} {expected : Int} {correlation : Text}
      {next next' : Except Failure Proposal → Service α} (own : q.id = id) (like : q.Like ρ q')
      (made : o.version = expected →
        Twin ρ id ok (Store.committed q expected) (Store.committed q' expected)
          (next (.ok (Store.committed q expected))) (next' (.ok (Store.committed q' expected))))
      (stale : o.version ≠ expected → Twin ρ id ok o o'
        (next (.error (.conflict id expected (.version o.version))))
        (next' (.error (.conflict id expected (.version o.version))))) :
      Twin ρ id ok o o' (.ask (Effect.store (.updateProposal q expected) correlation) next)
        (.ask (Effect.store (.updateProposal q' expected) correlation) next')
  | verify {o o' : Proposal} {signer : Text} {payload : String} {signature : Text}
      {next next' : Except Failure Bool → Service α}
      (h : ∀ verdict, Twin ρ id ok o o' (next verdict) (next' verdict)) :
      Twin ρ id ok o o' (.ask (Effect.verify signer payload signature) next)
        (.ask (Effect.verify signer payload signature) next')
  | deploy {o o' : Proposal} {order : Order} {limit : Number} {next next' : Landing → Service α}
      (h : ∀ landing, Twin ρ id ok o o' (next landing) (next' landing)) :
      Twin ρ id ok o o' (.ask (Effect.deploy order limit) next)
        (.ask (Effect.deploy order limit) next')

namespace Twin

variable {id : Text} {ok : Proposal → Proposal → α → α → Prop}
  {ok' : Proposal → Proposal → β → β → Prop} {o o' q q' : Proposal} {program program' : Service α}

theorem bind {k k' : α → Service β} (h : Twin ρ id ok o o' program program')
    (hk : ∀ o o' a a', ok o o' a a' → Twin ρ id ok' o o' (k a) (k' a')) :
    Twin ρ id ok' o o' (program >>= k) (program' >>= k') := by
  induction h with
  | done h => exact hk _ _ _ _ h
  | fail e => exact .fail e
  | now _ ih => exact .now ih
  | fresh _ ih => exact .fresh ih
  | note _ ih => exact .note ih
  | load _ ih => exact .load ih
  | policy _ ih => exact .policy ih
  | update own like _ _ made stale => exact .update own like made stale
  | verify _ ih => exact .verify ih
  | deploy _ ih => exact .deploy ih

theorem now_bind {k k' : Instant → Service α} (h : ∀ t, Twin ρ id ok o o' (k t) (k' t)) :
    Twin ρ id ok o o' (Service.now >>= k) (Service.now >>= k') := .now h

theorem fresh_bind {kind : IdKind} {k k' : Text → Service α}
    (h : ∀ x x', ρ x x' → Twin ρ id ok o o' (k x) (k' x')) :
    Twin ρ id ok o o' (Service.fresh kind >>= k) (Service.fresh kind >>= k') := .fresh h

theorem note_bind {level level' : Level} {channel : Channel} {text text' : Text}
    {k k' : Unit → Service α} (h : Twin ρ id ok o o' (k ()) (k' ())) : Twin ρ id ok o o'
      (Service.note level channel text >>= k) (Service.note level' channel text' >>= k') := .note h

theorem load_bind {correlation : Text} {k k' : Proposal → Service α}
    (h : Twin ρ id ok o o' (k o) (k' o')) : Twin ρ id ok o o'
      (Ledger.load id correlation >>= k) (Ledger.load id correlation >>= k') := .load h

theorem policy_bind {x correlation : Text} {k k' : Policy → Service α}
    (h : ∀ P, Twin ρ id ok o o' (k P) (k' P)) : Twin ρ id ok o o'
      (Policies.get x correlation >>= k) (Policies.get x correlation >>= k') := by
  refine .policy fun found => ?_
  cases found with
  | none => exact .fail _
  | some P => exact h P

theorem update_bind {k k' : Option Proposal → Service α} {expected expected' : Int}
    {correlation : Text} (own : q.id = id) (like : q.Like ρ q') (same : expected' = expected)
    (made : o.version = expected →
      Twin ρ id ok (Store.committed q expected) (Store.committed q' expected)
        (k (some (Store.committed q expected))) (k' (some (Store.committed q' expected))))
    (stale : o.version ≠ expected → Twin ρ id ok o o' (k none) (k' none)) :
    Twin ρ id ok o o'
      (Service.storeUnlessConflict (.updateProposal q expected) correlation >>= k)
      (Service.storeUnlessConflict (.updateProposal q' expected') correlation >>= k') := by
  subst same
  exact .update own like made stale

/-- An update that expects the version that is stored is made. -/
theorem update_current_bind {k k' : Option Proposal → Service α} {correlation : Text}
    (own : q.id = id) (like : q.Like ρ q') (same : o'.version = o.version)
    (made : Twin ρ id ok (Store.committed q o.version) (Store.committed q' o.version)
      (k (some (Store.committed q o.version))) (k' (some (Store.committed q' o.version)))) :
    Twin ρ id ok o o'
      (Service.storeUnlessConflict (.updateProposal q o.version) correlation >>= k)
      (Service.storeUnlessConflict (.updateProposal q' o'.version) correlation >>= k') :=
  update_bind own like same (fun _ => made) fun stale => absurd rfl stale

theorem reject {r : Rejection} : Twin ρ id ok o o' (Service.reject r) (Service.reject r) := .fail _

theorem reject_bind {r : Rejection} {k k' : β → Service α} :
    Twin ρ id ok o o' (Service.reject r >>= k) (Service.reject r >>= k') := .fail _

theorem ofExcept_bind {ε : Type} {x : Except ε β} {f : ε → Failure} {k k' : β → Service α}
    (h : ∀ b, x = .ok b → Twin ρ id ok o o' (k b) (k' b)) : Twin ρ id ok o o'
      ((Program.ofExcept (x.mapError f) : Service β) >>= k)
      ((Program.ofExcept (x.mapError f) : Service β) >>= k') := by
  cases x with
  | ok b => exact h b rfl
  | error e => exact .fail _

end Twin

/-! ## Runs -/

namespace Store

variable {s : Store} {p q r : Proposal} {id : Text}

/-- The store once the record of one proposal has been replaced, if it has been. -/
def amend (s : Store) : Option Proposal → Store
  | none => s
  | some q => s.put q

theorem policies_amend (s : Store) (c : Option Proposal) : (s.amend c).policies = s.policies := by
  cases c <;> rfl

theorem replace_replace (same : r.id = q.id) (ps : List Proposal) :
    replace r (replace q ps) = replace r ps := by
  rw [replace, replace, replace, List.map_map]
  refine List.map_congr_left fun p _ => ?_
  by_cases h : p.id = q.id <;> simp [h, same]

theorem put_put (same : r.id = q.id) : (s.put q).put r = s.put r :=
  congrArg (Store.mk s.policies) (replace_replace same s.proposals)

/-- Of several records that have been put in one place, the last one stays. -/
theorem amend_put {c : Option Proposal} (same : ∀ r, c = some r → r.id = q.id) :
    (s.put q).amend c = s.amend (some (c.getD q)) := by
  cases c with
  | none => rfl
  | some r => exact put_put (same r rfl)

end Store

/-- How a call ends in two runs: with related results, or with the same failure. -/
inductive EndsLike (R : α → α → Prop) : Except Failure α → Except Failure α → Prop where
  | returned {a a' : α} (h : R a a') : EndsLike R (.ok a) (.ok a')
  | raised (e : Failure) : EndsLike R (.error e) (.error e)

theorem EndsLike.eq {R : α → α → Prop} {r r' : Except Failure α} (same : ∀ a a', R a a' → a' = a)
    (h : EndsLike R r r') : r' = r := by
  cases h with
  | returned related => rw [same _ _ related]
  | raised e => rfl

/-- Two desks at which a call about one proposal is under way, at the same point. -/
structure Desk.Beside (d : Desk) (id : Text) (o o' : Proposal) (d' : Desk) : Prop where
  policies : d'.store.policies = d.store.policies
  here : d.store.proposal? id = some o
  there : d'.store.proposal? id = some o'
  looks : d'.looks = d.looks
  draws : d'.draws = d.draws
  orders : d'.orders = d.orders

/-- What two runs of one call come to over two stores: like ends, the same orders, and like records
of the one proposal, if its record is replaced at all. -/
structure RunsLike (ρ : Text → Text → Prop) (id : Text) (R : α → α → Prop) (s s' : Store)
    (r r' : Except Failure α × Desk) : Prop where
  ends : EndsLike R r.1 r'.1
  orders : r'.2.orders = r.2.orders
  change : ∃ c c', Option.Rel (Proposal.Like ρ) c c' ∧ (∀ q, c = some q → q.id = id) ∧
    r.2.store = s.amend c ∧ r'.2.store = s'.amend c'

namespace RunsLike

variable {id : Text} {R : α → α → Prop} {s s' : Store} {q q' : Proposal}
  {r r' : Except Failure α × Desk}

theorem unchanged (ends : EndsLike R r.1 r'.1) (orders : r'.2.orders = r.2.orders)
    (here : r.2.store = s) (there : r'.2.store = s') : RunsLike ρ id R s s' r r' :=
  ⟨ends, orders, none, none, .none, fun _ hq => (nomatch hq), here, there⟩

/-- What comes after the record has been replaced makes no difference to other records either. -/
theorem of_put (own : q.id = id) (like : q.Like ρ q')
    (h : RunsLike ρ id R (s.put q) (s'.put q') r r') : RunsLike ρ id R s s' r r' := by
  obtain ⟨c, c', likes, others, here, there⟩ := h.change
  refine ⟨h.ends, h.orders, some (c.getD q), some (c'.getD q'), .some ?_, ?_, ?_, ?_⟩
  · cases likes with
    | none => exact like
    | some h => exact h
  · rintro _ ⟨rfl⟩
    cases hc : c with
    | none => exact own
    | some r => exact others r hc
  · rw [here]
    exact Store.amend_put fun r hr => (others r hr).trans own.symm
  · rw [there]
    have others' := Proposal.Like.id_eq_of_rel likes others
    exact Store.amend_put fun r hr => (others' r hr).trans (like.id_eq.trans own).symm

end RunsLike

theorem Desk.Beside.policy? {d d' : Desk} {id : Text} {o o' : Proposal} (b : d.Beside id o o' d')
    (x : Text) : d'.store.policy? x = d.store.policy? x := by
  rw [Store.policy?, b.policies, Store.policy?]

theorem Twin.run {id : Text} {R : α → α → Prop} {o o' : Proposal} {program program' : Service α}
    {x x' : Occasion} {d d' : Desk} (h : Twin ρ id (fun _ _ => R) o o' program program')
    (env : Surroundings) (clock : x'.clock = x.clock) (ids : ∀ i, ρ (x.ids i) (x'.ids i))
    (like : o.Like ρ o') (b : d.Beside id o o' d') :
    RunsLike ρ id R d.store d'.store (x.run env program d) (x'.run env program' d') := by
  induction h generalizing d d' with
  | done h => exact .unchanged (.returned h) b.orders rfl rfl
  | fail e => exact .unchanged (.raised e) b.orders rfl rfl
  | @now o o' next next' _ ih =>
    have moment : x'.clock d'.looks = x.clock d.looks := by rw [clock, b.looks]
    have beside : Desk.Beside { d with looks := d.looks + 1 } id o o'
        { d' with looks := d'.looks + 1 } :=
      ⟨b.policies, b.here, b.there, congrArg (· + 1) b.looks, b.draws, b.orders⟩
    show RunsLike ρ id R d.store d'.store (x.run env (next (x.clock d.looks)) _)
      (x'.run env (next' (x'.clock d'.looks)) _)
    rw [moment]
    exact ih _ like beside
  | @fresh o o' kind next next' _ ih =>
    have related : ρ (x.ids d.draws) (x'.ids d'.draws) := b.draws ▸ ids d.draws
    have beside : Desk.Beside { d with draws := d.draws + 1 } id o o'
        { d' with draws := d'.draws + 1 } :=
      ⟨b.policies, b.here, b.there, b.looks, congrArg (· + 1) b.draws, b.orders⟩
    exact ih _ _ related like beside
  | note _ ih => exact ih like b
  | @load o o' correlation next next' _ ih =>
    show RunsLike ρ id R d.store d'.store (x.run env (next (.ok (d.store.proposal? id))) d)
      (x'.run env (next' (.ok (d'.store.proposal? id))) d')
    rw [b.here, b.there]
    exact ih like b
  | @policy o o' y correlation next next' _ ih =>
    show RunsLike ρ id R d.store d'.store (x.run env (next (.ok (d.store.policy? y))) d)
      (x'.run env (next' (.ok (d'.store.policy? y))) d')
    rw [b.policy?]
    exact ih _ like b
  | @update o o' q q' expected correlation next next' own alike _ _ made stale =>
    have here : d.store.proposal? q.id = some o := by rw [own, b.here]
    have there : d'.store.proposal? q'.id = some o' := by rw [alike.id_eq, own, b.there]
    by_cases current : o.version = expected
    · have current' : o'.version = expected := like.version_eq.trans current
      show RunsLike ρ id R d.store d'.store
        (x.run env (next (d.store.perform (.updateProposal q expected)).1)
          { d with store := (d.store.perform (.updateProposal q expected)).2 })
        (x'.run env (next' (d'.store.perform (.updateProposal q' expected)).1)
          { d' with store := (d'.store.perform (.updateProposal q' expected)).2 })
      rw [Store.perform_update here current, Store.perform_update there current']
      have beside : Desk.Beside { d with store := d.store.put (Store.committed q expected) } id
          (Store.committed q expected) (Store.committed q' expected)
          { d' with store := d'.store.put (Store.committed q' expected) } := by
        refine ⟨b.policies, ?_, ?_, b.looks, b.draws, b.orders⟩
        · exact (Store.proposal?_update here id).trans (if_pos own)
        · exact (Store.proposal?_update there id).trans (if_pos (alike.id_eq.trans own))
      have alike' := alike.committed expected
      exact .of_put (q := Store.committed q expected) own alike' (made current alike' beside)
    · have current' : o'.version ≠ expected := like.version_eq ▸ current
      show RunsLike ρ id R d.store d'.store
        (x.run env (next (d.store.perform (.updateProposal q expected)).1)
          { d with store := (d.store.perform (.updateProposal q expected)).2 })
        (x'.run env (next' (d'.store.perform (.updateProposal q' expected)).1)
          { d' with store := (d'.store.perform (.updateProposal q' expected)).2 })
      rw [Store.perform_update_stale here current, Store.perform_update_stale there current',
        alike.id_eq, own, like.version_eq]
      exact stale current like b
  | verify _ ih => exact ih _ like b
  | @deploy o o' order limit next next' _ ih =>
    have beside : Desk.Beside { d with orders := d.orders ++ [(order, limit)] } id o o'
        { d' with orders := d'.orders ++ [(order, limit)] } :=
      ⟨b.policies, b.here, b.there, b.looks, b.draws, congrArg (· ++ [(order, limit)]) b.orders⟩
    exact ih _ like beside

end QuorumGate
