import QuorumGate.Proofs.Concurrency.Timeline
import QuorumGate.Proofs.Sequential.Alike

/-!
# Nothing depends on the sweeper

A sweep leaves every store behind the one that it was made over. So a session with sweeps in between
comes to the same as the session without them: a call that meets an overdue proposal treats it as
expired, whether or not a sweep has written this down.
-/

namespace QuorumGate

/-- Some call looks at the clock when it shows this. -/
def ShownTo (xs : List Occasion) (t : Instant) : Prop := ∃ x ∈ xs, ∃ i, x.clock i = t

/-- The clock is not put back, neither during a call nor between two of them. -/
structure Onward (xs : List Occasion) : Prop where
  during : ∀ x ∈ xs, ∀ i j, i ≤ j → (x.clock i).UpTo (x.clock j)
  between : xs.Pairwise fun x y => ∀ i j, (x.clock i).UpTo (y.clock j)

def Call.isSweep : Call → Bool
  | sweep => true
  | _ => false

variable {α : Type} {n : Nat} {env : Surroundings} {rules : ExecutionRules} {x : Occasion}
  {xs : List Occasion} {d : Desk} {p : Proposal} {ps : List Proposal} {correlation : Text}
  {shown : Instant → Prop} {s t : Store} {now : Instant}

/-! ## A sweep -/

/-- The end of a sweep. -/
def Sweeper.tell (closed : Nat) : Service Nat := do
  if closed ≠ 0 then Service.note .info .sweeper s!"expiry sweep closed {closed} proposals"
  return closed

theorem Sweeper.sweep_eq (n : Nat) : sweep n = (do
    let now ← Service.now
    let stillOpen ← Service.store (.listProposals (some [.pending, .approved])) ""
    let closed ← closeAll n now 0 stillOpen
    tell closed) := rfl

/-- No time that is shown comes before one that a call sees, so that what the call finds overdue is
overdue at all of them. -/
def Occasion.Precedes (x : Occasion) (shown : Instant → Prop) : Prop :=
  ∀ i t, shown t → (x.clock i).UpTo t

namespace Occasion

theorem run_attempt (program : Service α) (d : Desk) :
    x.run env (program.attempt : Service (Except Failure α)) d =
      (.ok (x.run env program d).1, (x.run env program d).2) := by
  induction program generalizing d with
  | done a => rfl
  | fail e => rfl
  | ask r next ih =>
    rw [Program.attempt, run_ask, run_ask]
    exact ih _ _

/-- How a call leaves a desk that closes one record at most. -/
structure Closes (n : Nat) (shown : Instant → Prop) (p : Proposal) (d d' : Desk) : Prop where
  orders : d'.orders = d.orders
  store : d'.store = d.store ∨ d'.store = d.store.close p ∧ Swept n shown p p.closed

/-- The clock is looked at once more before the record is written, and the proposal may have been
closed before. -/
theorem run_expire_closes (hp : d.store.proposal? p.id = some p) (hx : x.Precedes shown) :
    Closes n shown p d (x.run env (Ledger.expire n p correlation) d).2 := by
  cases able : n with
  | zero => exact ⟨rfl, .inl rfl⟩
  | succ m =>
    by_cases closed : p.status.isTerminal = true
    · rw [run_expire_closed m.succ_pos closed]
      exact ⟨rfl, .inl rfl⟩
    · cases late : p.isExpired (x.clock d.looks) with
      | error f =>
        rw [Ledger.expire, Ledger.expireWithin, if_neg closed, run_now_bind, late]
        exact ⟨rfl, .inl rfl⟩
      | ok expired =>
        cases expired with
        | false =>
          rw [Ledger.expire, Ledger.expireWithin, if_neg closed, run_now_bind, run_timed_bind late]
          exact ⟨rfl, .inl rfl⟩
        | true =>
          have still_open : p.status.isTerminal = false := by simpa using closed
          rw [run_expire m.succ_pos hp still_open late]
          refine ⟨rfl, .inr ⟨rfl, .closed m.succ_pos still_open fun t ht => ?_⟩⟩
          obtain ⟨aware, later⟩ := hx d.looks t ht
          exact Proposal.isExpired_forward late aware later

theorem run_close_closes (hp : d.store.proposal? p.id = some p) (hx : x.Precedes shown) :
    Closes n shown p d (x.run env (Sweeper.close n p) d).2 := by
  have closes : Closes n shown p d (x.run env (Ledger.expire n p "") d).2 :=
    run_expire_closes hp hx
  rw [Sweeper.close, run_bind, run_attempt]
  cases (x.run env (Ledger.expire n p "") d).1 with
  | ok q => exact closes
  | error e =>
    show Closes n shown p d (x.run env (if e.isBusy = true then _ else _) _).2
    by_cases busy : e.isBusy = true
    · rw [if_pos busy]
      exact closes
    · rw [if_neg busy]
      exact closes

end Occasion

/-- Each proposal of a list is stored under an identifier of its own. -/
structure Store.Holds (s : Store) (ps : List Proposal) : Prop where
  distinct : (s.proposals.map (·.id)).Nodup
  apart : (ps.map (·.id)).Nodup
  stored : ∀ p ∈ ps, s.proposal? p.id = some p

namespace Store.Holds

theorem tail (h : s.Holds (p :: ps)) : s.Holds ps :=
  ⟨h.distinct, (List.nodup_cons.1 h.apart).2, fun q hq => h.stored q (List.mem_cons_of_mem p hq)⟩

/-- The others are stored still, once one has been closed. -/
theorem close (h : s.Holds (p :: ps)) : (s.close p).Holds ps := by
  refine ⟨?_, h.tail.apart, fun q hq => ?_⟩
  · rw [Store.close, Store.map_id_replace]
    exact h.distinct
  · have other : p.id ≠ q.id := by
      intro same
      refine (List.nodup_cons.1 h.apart).1 ?_
      show p.id ∈ ps.map (·.id)
      rw [same]
      exact List.mem_map_of_mem hq
    rw [Store.proposal?_close (h.stored p List.mem_cons_self), if_neg other]
    exact h.tail.stored q hq

theorem of_listProposals {statuses : Option (List Status)}
    (distinct : (s.proposals.map (·.id)).Nodup) (h : s.listProposals statuses = .ok ps) :
    s.Holds ps := by
  refine ⟨distinct, ?_, fun p hp => ?_⟩
  · rw [Store.listProposals, Instant.newestFirst] at h
    split at h
    · obtain rfl := Except.ok.inj h
      refine ((List.mergeSort_perm _ _).map _).nodup_iff.2 ?_
      exact distinct.sublist (List.filter_sublist.map _)
    · cases h
  · exact Store.proposal?_of_mem distinct (Store.mem_of_listProposals h hp)

end Store.Holds

namespace Occasion

/-- What a sweep does to its desk: it orders nothing, and leaves the store behind what it writes. -/
structure Sweeps (n : Nat) (shown : Instant → Prop) (d d' : Desk) : Prop where
  orders : d'.orders = d.orders
  behind : Behind n shown d.store d'.store

namespace Sweeps

theorem refl (n : Nat) (shown : Instant → Prop) (d : Desk) : Sweeps n shown d d :=
  ⟨rfl, .refl n shown d.store⟩

theorem bind {β : Type} {program : Service α} {k : α → Service β}
    (h : Sweeps n shown d (x.run env program d).2)
    (hk : ∀ a d', x.run env program d = (.ok a, d') → Sweeps n shown d' (x.run env (k a) d').2) :
    Sweeps n shown d (x.run env (program >>= k) d).2 := by
  rw [run_bind]
  cases hr : x.run env program d with
  | mk result d' =>
    rw [hr] at h
    cases result with
    | error e => exact h
    | ok a =>
      have after := hk a d' hr
      exact ⟨after.orders.trans h.orders, h.behind.trans after.behind⟩

end Sweeps

theorem Closes.sweeps {d' : Desk} (h : Closes n shown p d d') (held : d.store.Holds (p :: ps)) :
    Sweeps n shown d d' ∧ d'.store.Holds ps := by
  rcases h.store with same | ⟨closed, swept⟩
  · rw [same]
    exact ⟨⟨h.orders, same ▸ .refl n shown _⟩, held.tail⟩
  · rw [closed]
    refine ⟨⟨h.orders, ?_⟩, held.close⟩
    rw [closed]
    exact .close held.distinct (held.stored p List.mem_cons_self) swept

/-- As long as nobody else writes, what has been listed is what is stored. -/
theorem run_closeAll_sweeps {u : Instant} {closed : Nat} (held : d.store.Holds ps)
    (hx : x.Precedes shown) :
    Sweeps n shown d (x.run env (Sweeper.closeAll n u closed ps) d).2 := by
  induction ps generalizing closed d with
  | nil => exact .refl n shown d
  | cons p ps ih =>
    rw [Sweeper.closeAll]
    cases late : p.isExpired u with
    | error f => exact .refl n shown d
    | ok expired =>
      rw [run_timed_bind rfl]
      cases expired with
      | false => exact ih held.tail
      | true =>
        have closes : Closes n shown p d (x.run env (Sweeper.close n p) d).2 :=
          run_close_closes (held.stored p List.mem_cons_self) hx
        obtain ⟨first, rest⟩ := closes.sweeps held
        rw [if_pos rfl]
        refine first.bind fun done d' hr => ih ?_
        rw [hr] at rest
        exact rest

theorem run_tell (closed : Nat) : x.run env (Sweeper.tell closed) d = (.ok closed, d) := by
  unfold Sweeper.tell
  by_cases some_closed : closed ≠ 0
  · rw [if_pos some_closed]
    rfl
  · rw [if_neg some_closed]
    rfl

theorem run_sweep_sweeps (env : Surroundings) (n : Nat)
    (distinct : (d.store.proposals.map (·.id)).Nodup) (hx : x.Precedes shown) :
    Sweeps n shown d (x.run env (Sweeper.sweep n) d).2 := by
  cases listed : d.store.listProposals (some [.pending, .approved]) with
  | error e =>
    have failed : x.run env (Sweeper.sweep n) d = (.error e, { d with looks := d.looks + 1 }) := by
      rw [Sweeper.sweep_eq]
      refine (run_now_bind _).trans ((run_store_bind _ _).trans ?_)
      rw [Store.perform, listed]
      rfl
    rw [failed]
    exact ⟨rfl, .refl n shown _⟩
  | ok ps =>
    have listed' : x.run env (Sweeper.sweep n) d =
        x.run env (Sweeper.closeAll n (x.clock d.looks) 0 ps >>= Sweeper.tell)
          { d with looks := d.looks + 1 } := by
      rw [Sweeper.sweep_eq]
      refine (run_now_bind _).trans ((run_store_bind _ _).trans ?_)
      rw [Store.perform, listed]
      rfl
    have sweeps : Sweeps n shown { d with looks := d.looks + 1 }
        (x.run env (Sweeper.closeAll n (x.clock d.looks) 0 ps >>= Sweeper.tell)
          { d with looks := d.looks + 1 }).2 := by
      refine Sweeps.bind (run_closeAll_sweeps ?_ hx) fun closed d' _ => ?_
      · exact .of_listProposals distinct listed
      · rw [run_tell]
        exact .refl n shown d'
    rw [listed']
    exact ⟨sweeps.orders, sweeps.behind⟩

end Occasion

/-! ## A session -/

/-- A call that is no sweep and closes nothing of its own accord. -/
def Call.IsOperation : Call → Prop
  | expire .. | sweep => False
  | _ => True

theorem Occasion.matched (env : Surroundings) (h : Behind rules.attempts shown s t)
    (k : Kept now s) (hs : ∀ i, shown (x.clock i)) (aware : ∀ i, (x.clock i).isAware = now.isAware)
    (operation : x.call.IsOperation) :
    Matched rules.attempts shown now x.call
      (x.run env (x.call.program rules) ⟨s, 0, 0, []⟩)
      (x.run env (x.call.program rules) ⟨t, 0, 0, []⟩) := by
  have alone : InStep s now none rules.attempts shown s t :=
    h.inStep k fun _ none_left => nomatch none_left
  obtain ⟨call, clock, ids⟩ := x
  cases call with
  | createPolicy draft correlation => exact .of_inStep rules alone Policies.create_about
  | policy id correlation => exact .of_inStep rules alone Policies.get_about
  | policies limit correlation => exact .of_inStep rules alone Policies.list_about
  | createProposal draft correlation => exact .createProposal h k hs aware
  | sign id request correlation => exact .sign h k hs
  | execute id requested correlation => exact .execute h k hs
  | proposal id correlation => exact .proposal h k hs
  | proposals filter limit correlation => exact .proposals h k hs aware
  | payload id correlation => exact .payload h k hs
  | overview id correlation => exact .overview h k hs
  | expire p correlation => exact operation.elim
  | sweep => exact operation.elim

/-- The calls of a session without the sweeps. -/
def unswept (xs : List Occasion) : List Occasion := xs.filter fun x => !x.call.isSweep

theorem Onward.tail (h : Onward (x :: xs)) : Onward xs :=
  ⟨fun y hy => h.during y (List.mem_cons_of_mem x hy), (List.pairwise_cons.1 h.between).2⟩

theorem Onward.precedes (h : Onward (x :: xs)) : x.Precedes (ShownTo xs) := by
  rintro i t ⟨y, hy, j, rfl⟩
  exact (List.pairwise_cons.1 h.between).1 y hy i j

theorem Call.eq_sweep {c : Call} (h : c.isSweep = true) : c = .sweep := by
  cases c with
  | sweep => rfl
  | _ => cases h

/-- A sweep orders nothing, and leaves behind what it was made over. -/
theorem Occasion.perform_sweep (env : Surroundings) (rules : ExecutionRules)
    (sweep : x.call.isSweep = true) (distinct : (t.proposals.map (·.id)).Nodup)
    (hx : x.Precedes shown) :
    (x.perform env rules t).1.orders = [] ∧
      Behind rules.attempts shown t (x.perform env rules t).2 := by
  obtain ⟨call, clock, ids⟩ := x
  obtain rfl := Call.eq_sweep sweep
  have sweeps := run_sweep_sweeps env rules.attempts (d := ⟨t, 0, 0, []⟩) distinct hx
  exact ⟨sweeps.orders, sweeps.behind⟩

/-- Sweeps in one of two sessions make no difference, if the other one starts out behind. -/
theorem play_alike (h : Behind rules.attempts (ShownTo xs) s t) (k : Kept now s)
    (aware : ∀ u, ShownTo xs u → u.isAware = now.isAware) (onward : Onward xs)
    (operations : ∀ x ∈ unswept xs, x.call.IsOperation) :
    List.Forall₂ Alike (play env rules s (unswept xs))
        ((play env rules t xs).filter fun u => !u.call.isSweep) ∧
      (play env rules t xs).flatMap (·.orders) =
        (play env rules s (unswept xs)).flatMap (·.orders) := by
  induction xs generalizing s t with
  | nil => exact ⟨.nil, rfl⟩
  | cons x xs ih =>
    have later : ∀ u, ShownTo xs u → ShownTo (x :: xs) u :=
      fun u ⟨y, hy, seen⟩ => ⟨y, List.mem_cons_of_mem x hy, seen⟩
    have aware' := fun u hu => aware u (later u hu)
    have own : ∀ i, ShownTo (x :: xs) (x.clock i) := fun i => ⟨x, List.mem_cons_self, i, rfl⟩
    cases sweep : x.call.isSweep with
    | true =>
      -- The session without the sweeps stands still, and gets further behind.
      have dropped : unswept (x :: xs) = unswept xs := List.filter_cons_of_neg (by simp [sweep])
      have distinct : (t.proposals.map (·.id)).Nodup := by
        rw [Swept.map_id h.proposals]
        exact k.distinct
      obtain ⟨orders, behind⟩ :=
        Occasion.perform_sweep env rules sweep distinct onward.precedes
      obtain ⟨alike, all⟩ :=
        ih ((h.mono later).trans behind) k aware' onward.tail (dropped ▸ operations)
      rw [dropped, play, List.filter_cons_of_neg, List.flatMap_cons, orders]
      · exact ⟨alike, all⟩
      · simpa [Occasion.perform] using sweep
    | false =>
      -- Both sessions make this call, and the one is behind the other afterwards as well.
      have kept : unswept (x :: xs) = x :: unswept xs := List.filter_cons_of_pos (by simp [sweep])
      rw [kept] at operations ⊢
      obtain ⟨same, behind, kept'⟩ := Occasion.matched env h k own (fun i => aware _ (own i))
        (operations x List.mem_cons_self)
      obtain ⟨alike, all⟩ := ih (behind.mono later) kept' aware' onward.tail
        fun y hy => operations y (List.mem_cons_of_mem x hy)
      rw [play, play, List.filter_cons_of_pos, List.flatMap_cons, List.flatMap_cons]
      · exact ⟨.cons same alike, congrArg₂ (· ++ ·) same.orders_eq all⟩
      · simpa [Occasion.perform] using sweep

/-- Over a store that is empty at first, each operation of a session has the outcome that it has
without the sweeps, and the same deployments are ordered. -/
theorem play_unswept (env : Surroundings) (rules : ExecutionRules) (onward : Onward xs)
    (operations : ∀ x ∈ unswept xs, x.call.IsOperation) :
    List.Forall₂ Alike (play env rules .empty (unswept xs))
        ((play env rules .empty xs).filter fun u => !u.call.isSweep) ∧
      (play env rules .empty xs).flatMap (·.orders) =
        (play env rules .empty (unswept xs)).flatMap (·.orders) := by
  cases xs with
  | nil => exact ⟨.nil, rfl⟩
  | cons x xs =>
    refine play_alike (.refl _ _ _) (.empty (x.clock 0)) ?_ onward operations
    rintro u ⟨y, hy, i, rfl⟩
    rcases List.mem_cons.1 hy with rfl | hy
    · exact (onward.during y List.mem_cons_self 0 i i.zero_le).1.symm
    · exact ((List.pairwise_cons.1 onward.between).1 y hy 0 i).1.symm

namespace OneOfTwo

/-- A minute after the window has closed. -/
def afterwards : Instant := minute (.last 2)

/-- A proposal with a window of one minute, and two calls after it, with a sweep before them. -/
def lateSession : List Occasion :=
  [⟨.createPolicy { policy with expirySeconds := some 60 } (letter 'r'), fun _ => start,
      fun _ => letter 'P'⟩,
    ⟨.createProposal draft (letter 'r'), fun _ => start, fun _ => letter 'Q'⟩,
    ⟨.sweep, fun _ => afterwards, fun _ => letter 'T'⟩,
    ⟨.sign (letter 'Q') ⟨letter 'a', none⟩ (letter 'r'), fun _ => afterwards, fun _ => letter 'S'⟩,
    ⟨.proposals (some .expired) 5 (letter 'r'), fun _ => afterwards, fun _ => letter 'T'⟩]

def obliging : Surroundings := ⟨fun _ _ _ => .ok true, fun _ _ => .timedOut⟩

def failure? (u : Upshot) : Option Failure :=
  match u.result with
  | .ok _ => none
  | .error e => some e

theorem onward_lateSession : Onward lateSession := by
  have forward : start.UpTo afterwards := by
    refine ⟨by decide +kernel, by decide +kernel⟩
  have same : ∀ t : Instant, t.UpTo t := fun t => ⟨rfl, Int.le_refl _⟩
  constructor
  · intro x hx i j _
    simp only [lateSession, List.mem_cons, List.not_mem_nil, or_false] at hx
    rcases hx with rfl | rfl | rfl | rfl | rfl <;> exact same _
  · simp [lateSession, forward, same]

theorem late_session_unswept : Onward lateSession ∧
    (∀ x ∈ unswept lateSession, x.call.IsOperation) ∧
    ((play obliging OneOfTwo.rules .empty (unswept lateSession)).map failure? =
      [none, none, some (.rejected (.overdue (letter 'Q'))), none]) ∧
    ((play obliging OneOfTwo.rules .empty lateSession).map failure? =
      [none, none, none, some (.rejected (.closed (letter 'Q') .expired)), none]) ∧
    List.Forall₂ Alike (play obliging OneOfTwo.rules .empty (unswept lateSession))
        ((play obliging OneOfTwo.rules .empty lateSession).filter fun u => !u.call.isSweep) ∧
      (play obliging OneOfTwo.rules .empty lateSession).flatMap (·.orders) =
        (play obliging OneOfTwo.rules .empty (unswept lateSession)).flatMap (·.orders) := by
  have operations : ∀ x ∈ unswept lateSession, x.call.IsOperation := by
    simp [unswept, lateSession, Call.isSweep, Call.IsOperation]
  refine ⟨onward_lateSession, operations, ?_, ?_, ?_⟩
  · decide +kernel
  · decide +kernel
  · exact play_unswept obliging OneOfTwo.rules onward_lateSession operations

end OneOfTwo

end QuorumGate
