import QuorumGate.Proofs.Sequential.Alone
import QuorumGate.Proofs.Sequential.Sweeps

/-!
# What a sweep closes

A sweep lists the open proposals once and then closes the overdue ones of the list, one by one, each
with a write of its own. If nobody else writes meanwhile, each write finds its record as it was
listed, so that the sweep closes all that was due when it began, and nothing else.
-/

namespace QuorumGate

/-- A proposal is stored as open although its window is over. -/
def Proposal.IsDue (p : Proposal) (now : Instant) : Prop :=
  (p.status = .pending ∨ p.status = .approved) ∧ p.Overdue now

instance (p : Proposal) (now : Instant) : Decidable (p.Overdue now) :=
  decidable_of_iff (p.expiresAt.any fun t => t.ticks < now.ticks)
    (by simp [Proposal.Overdue, Option.any_eq_true])

instance (p : Proposal) (now : Instant) : Decidable (p.IsDue now) :=
  inferInstanceAs (Decidable (_ ∧ _))

variable {n : Nat} {env : Surroundings} {rules : ExecutionRules} {x : Occasion} {d : Desk}
  {p : Proposal} {ps : List Proposal} {s : Store} {now u : Instant} {w : World}
  {clock : Nat → Instant} {ids : Nat → Text}

theorem Proposal.IsDue.isTerminal (h : p.IsDue now) : p.status.isTerminal = false := by
  rcases h.1 with pending | approved
  · rw [pending]
    rfl
  · rw [approved]
    rfl

@[simp] theorem Proposal.id_closed (p : Proposal) : p.closed.id = p.id := rfl

/-- What has been closed is not due any more. -/
theorem Proposal.not_isDue_closed : ¬p.closed.IsDue now := by
  simp [IsDue, closed, Store.committed, withStatus]

/-! ## Stores -/

/-- No two records of a store have the same id. -/
theorem Lawful.distinct {c : Conditions} {past : Chronicle} (h : Lawful c past) :
    ((replay c.founding past).proposals.map (·.id)).Nodup := by
  induction past with
  | nil => exact List.nodup_nil
  | cons e past ih =>
    obtain ⟨i, e⟩ := e
    obtain ⟨before, allowed⟩ := h
    have distinct := ih before
    cases e with
    | wrote b p =>
      cases b with
      | none =>
        have unused : p.id ∉ (replay c.founding past).proposals.map (·.id) := by
          intro used
          obtain ⟨q, hq, same⟩ := List.mem_map.1 used
          have stored := before.proposal?_of_mem hq
          rw [same, allowed.1] at stored
          cases stored
        simpa [Store.after, List.nodup_append, distinct] using unused
      | some old =>
        show ((Store.replace p _).map (·.id)).Nodup
        rw [Store.map_id_replace]
        exact distinct
    | _ => exact distinct

namespace Store

/-- The store once all that was due has been closed. -/
def closeDue (s : Store) (now : Instant) : Store :=
  { s with proposals := s.proposals.map fun p => if p.IsDue now then p.closed else p }

/-- To close the records of a list one by one closes these and no others. -/
theorem Holds.proposals_foldl_close (h : s.Holds ps) :
    (ps.foldl Store.close s).proposals =
      s.proposals.map fun q => if q ∈ ps then q.closed else q := by
  induction ps generalizing s with
  | nil => simp
  | cons p ps ih =>
    rw [List.foldl_cons, ih h.close, Store.close, Store.replace, List.map_map]
    apply List.map_congr_left
    intro q hq
    by_cases same : q.id = p.id
    · have stored := proposal?_of_mem h.distinct hq
      rw [same, h.stored p List.mem_cons_self] at stored
      obtain rfl := Option.some.inj stored
      have closed : p.closed ∉ ps := by
        intro hp
        have again : p.closed.id ∈ ps.map (·.id) := List.mem_map_of_mem hp
        exact (List.nodup_cons.1 h.apart).1 again
      simp [closed]
    · have other : q ≠ p := fun eq => same (congrArg Proposal.id eq)
      simp [same, other]

theorem policies_foldl_close (ps : List Proposal) (s : Store) :
    (ps.foldl Store.close s).policies = s.policies := by
  induction ps generalizing s with
  | nil => rfl
  | cons p ps ih => exact ih (s.close p)

/-- The open proposals of a store, as a sweep lists them. -/
def stillOpen (s : Store) : List Proposal :=
  newest (s.proposals.filter fun p => p.status = .pending ∨ p.status = .approved)

/-- Those of the list that a sweep finds overdue. -/
def due (s : Store) (now : Instant) : List Proposal := s.stillOpen.filter fun p => p.Overdue now

theorem mem_stillOpen :
    p ∈ s.stillOpen ↔ p ∈ s.proposals ∧ (p.status = .pending ∨ p.status = .approved) := by
  simp [stillOpen, newest]

theorem mem_due : p ∈ s.due now ↔ p ∈ s.proposals ∧ p.IsDue now := by
  simp [due, mem_stillOpen, Proposal.IsDue, and_assoc]

theorem length_due (s : Store) (now : Instant) :
    (s.due now).length = s.proposals.countP (·.IsDue now) := by
  rw [due, stillOpen, newest, ← List.countP_eq_length_filter, (List.mergeSort_perm _ _).countP_eq,
    List.countP_filter]
  apply List.countP_congr
  intro p _
  rw [decide_eq_true_iff, Proposal.IsDue]
  simp [and_comm]

theorem IsPresentable.listProposals_open (h : s.IsPresentable u) :
    s.listProposals (some [.pending, .approved]) = .ok s.stillOpen := by
  rw [h.listProposals, stillOpen]
  simp

theorem Holds.due (h : s.Holds s.stillOpen) : s.Holds (s.due now) :=
  ⟨h.distinct, h.apart.sublist (List.filter_sublist.map _),
    fun p hp => h.stored p (List.mem_filter.1 hp).1⟩

theorem foldl_close_due (h : s.Holds (s.due now)) :
    (s.due now).foldl Store.close s = s.closeDue now := by
  have proposals : ((s.due now).foldl Store.close s).proposals = (s.closeDue now).proposals := by
    rw [h.proposals_foldl_close]
    apply List.map_congr_left
    intro p hp
    simp [mem_due, hp]
  have policies := policies_foldl_close (s.due now) s
  cases hs : (s.due now).foldl Store.close s
  simp_all [closeDue]

theorem countP_closeDue (s : Store) (now : Instant) :
    (s.closeDue now).proposals.countP (·.IsDue now) = 0 := by
  rw [List.countP_eq_zero]
  intro q hq
  obtain ⟨p, -, rfl⟩ := List.mem_map.1 hq
  by_cases late : p.IsDue now
  · simp [late, Proposal.not_isDue_closed]
  · simp [late]

theorem closeDue_closeDue (s : Store) (now : Instant) :
    (s.closeDue now).closeDue now = s.closeDue now := by
  apply congrArg (Store.mk s.policies)
  apply (List.map_congr_left ?_).trans (List.map_id _)
  intro q hq
  have settled := List.countP_eq_zero.1 (s.countP_closeDue now) q hq
  rw [if_neg (by simpa using settled), id]

theorem IsPresentable.closeDue (h : s.IsPresentable u) : (s.closeDue now).IsPresentable u := by
  intro q hq
  obtain ⟨p, hp, rfl⟩ := List.mem_map.1 hq
  obtain ⟨P, hP⟩ := h p hp
  have shown : Presentable s u (if p.IsDue now then p.closed else p) P := by
    split
    · exact hP.closed
    · exact hP
  exact ⟨P, shown.policy, shown.stage, shown.window, shown.created⟩

theorem map_id_closeDue (s : Store) (now : Instant) :
    (s.closeDue now).proposals.map (·.id) = s.proposals.map (·.id) := by
  rw [closeDue, List.map_map]
  apply List.map_congr_left
  intro p _
  by_cases late : p.IsDue now <;> simp [late]

end Store

/-! ## Sweeps -/

namespace Occasion

theorem run_close (env : Surroundings) (able : 0 < n) (hp : d.store.proposal? p.id = some p)
    (due : p.IsDue now) (late : p.isExpired (x.clock d.looks) = .ok true) :
    x.run env (Sweeper.close n p) d =
      (.ok true, { d with store := d.store.close p, looks := d.looks + 1 }) := by
  rw [Sweeper.close, run_bind, run_attempt, run_expire able hp due.isTerminal late]
  rfl

/-- The records that a sweep has listed and finds overdue are closed and counted. -/
theorem run_closeAll (env : Surroundings) (able : 0 < n) (held : d.store.Holds ps)
    (closed : Nat) (stored : ∀ p ∈ ps, p.status = .pending ∨ p.status = .approved)
    (comparable : ∀ p ∈ ps, ∀ t, p.expiresAt = some t → now.isAware = t.isAware)
    (onward : ∀ i, now.UpTo (x.clock i)) :
    let due := ps.filter fun p => p.Overdue now
    x.run env (Sweeper.closeAll n now closed ps) d =
      (.ok (closed + due.length),
        { d with store := due.foldl Store.close d.store, looks := d.looks + due.length }) := by
  induction ps generalizing closed d with
  | nil => rfl
  | cons p ps ih =>
    obtain ⟨expired, told, overdue⟩ :=
      Proposal.isExpired_eq (comparable p List.mem_cons_self)
    have rest {d : Desk} (held : d.store.Holds ps) (closed : Nat) :=
      ih held closed (fun q hq => stored q (List.mem_cons_of_mem p hq))
        (fun q hq => comparable q (List.mem_cons_of_mem p hq))
    intro due
    rw [Sweeper.closeAll, run_timed_bind told]
    cases expired with
    | true =>
      have is_due : p.IsDue now := ⟨stored p List.mem_cons_self, overdue.1 rfl⟩
      obtain ⟨aware, forward⟩ := onward d.looks
      have late := Proposal.isExpired_forward told aware forward
      have first := run_close env able (held.stored p List.mem_cons_self) is_due late
      rw [if_pos rfl, run_bind_ok first]
      apply (rest held.close (closed + 1)).trans
      simp [due, is_due.2]
      omega
    | false =>
      have in_window : ¬p.Overdue now := by simpa using overdue
      rw [if_neg (by simp)]
      apply (rest held.tail closed).trans
      simp [due, in_window]

/-- Over records that can be shown, a sweep closes all that is due when it looks at the clock first,
however the clock goes on from there. -/
theorem perform_sweep_due (env : Surroundings) (ids : Nat → Text) (able : 0 < rules.attempts)
    (distinct : (s.proposals.map (·.id)).Nodup) (presentable : s.IsPresentable (clock 0))
    (onward : ∀ i, (clock 0).UpTo (clock i)) :
    perform env rules ⟨.sweep, clock, ids⟩ s =
      (⟨.sweep, .ok (s.proposals.countP (·.IsDue (clock 0))), []⟩, s.closeDue (clock 0)) := by
  have listed := presentable.listProposals_open
  have held : s.Holds s.stillOpen := .of_listProposals distinct listed
  have comparable (p : Proposal) (hp : p ∈ s.stillOpen) (t : Instant)
      (ht : p.expiresAt = some t) : (clock 0).isAware = t.isAware := by
    obtain ⟨P, hP⟩ := presentable p (Store.mem_stillOpen.1 hp).1
    exact hP.window t ht
  have closes := run_closeAll (x := ⟨.sweep, clock, ids⟩) (d := ⟨s, 1, 0, []⟩) env able held 0
    (fun p hp => (Store.mem_stillOpen.1 hp).2) comparable onward
  have swept : run env ⟨.sweep, clock, ids⟩ (Sweeper.sweep rules.attempts) ⟨s, 0, 0, []⟩ =
      (.ok (0 + (s.due (clock 0)).length),
        ⟨(s.due (clock 0)).foldl Store.close s, 1 + (s.due (clock 0)).length, 0, []⟩) := by
    rw [Sweeper.sweep_eq, run_now_bind, run_store_bind, Store.perform, listed]
    exact (run_bind_ok closes _).trans (run_tell _)
  rw [perform]
  simp only [Call.program, swept, Store.foldl_close_due held.due, Store.length_due, Nat.zero_add]

end Occasion

/-- Whatever is stored, a sweep that nobody interferes with closes what is overdue when it begins,
and leaves all else as it is, if the clock is not put back meanwhile. A second one at the same time
finds nothing to do. -/
theorem Reachable.sweep_closes_due (h : Reachable rules .adjustable w) (able : 0 < rules.attempts)
    (comparable : (clock 0).isAware = w.clock.isAware) (onward : ∀ i, (clock 0).UpTo (clock i))
    (env : Surroundings) (ids : Nat → Text) :
    let swept : Store := { w.store with
      proposals := w.store.proposals.map fun p =>
        if p.IsDue (clock 0) then { p with status := .expired, version := p.version + 1 } else p }
    Occasion.perform env rules ⟨.sweep, clock, ids⟩ w.store =
        (⟨.sweep, .ok (w.store.proposals.countP (·.IsDue (clock 0))), []⟩, swept) ∧
      ∀ clock' ids', clock' 0 = clock 0 → (∀ i, (clock' 0).UpTo (clock' i)) →
        Occasion.perform env rules ⟨.sweep, clock', ids'⟩ swept = (⟨.sweep, .ok 0, []⟩, swept) := by
  have distinct := h.lawful.distinct
  rw [← h.store_eq] at distinct
  have presentable : w.store.IsPresentable (clock 0) :=
    (h.move (.tick (clock 0)) comparable.symm rfl).isPresentable
  constructor
  · exact Occasion.perform_sweep_due env ids able distinct presentable onward
  · intro clock' ids' same onward'
    have swept : (w.store.closeDue (clock 0)).IsPresentable (clock' 0) := by
      rw [same]
      exact presentable.closeDue
    have again := Occasion.perform_sweep_due env ids' able
      ((w.store.map_id_closeDue (clock 0)).symm ▸ distinct) swept onward'
    rw [same, Store.countP_closeDue, Store.closeDue_closeDue] at again
    exact again

namespace OneOfTwo

/-- When a window of one minute ends that began at the start. -/
def windowEnd : Instant := minute (Fin.last 1).castSucc

/-- Two proposals with windows of one minute, the second created when the first one ends. -/
def staggeredMoves : List Move :=
  proposed { policy with expirySeconds := some 60 } ++ signed ++ [.tick windowEnd] ++
  [.start (.createProposal draft (letter 'r'))] ++
  serve 3 [.plain, .plain, .id (letter 'R'), .plain, .plain]

def staggered : World :=
  ((World.opening [] start).play OneOfTwo.rules calm staggeredMoves).get (by decide +kernel)

theorem play_staggered :
    (World.opening [] start).play OneOfTwo.rules calm staggeredMoves = some staggered :=
  (Option.some_get _).symm

theorem reachable_staggered : Reachable OneOfTwo.rules .adjustable staggered := by
  refine Reachable.follows (.opening start) (Follows.of_play
    (Conditions.permits_of_allows (fun _ _ _ => trivial) fun s t ht => ?_) .refl play_staggered)
  have forward : s.isAware = t.isAware ∧ s.ticks ≤ t.ticks := by simpa using ht
  exact forward.1

/-- The first of them is overdue when the second one has just got to the end of its window. -/
theorem sweep_closes_first :
    let clock : Nat → Instant := fun _ => afterwards
    let swept : Store := { staggered.store with
      proposals := staggered.store.proposals.map fun p =>
        if p.IsDue (clock 0) then { p with status := .expired, version := p.version + 1 } else p }
    staggered.store.proposals.map (fun p => (p.status, p.expiresAt)) =
        [(.approved, some windowEnd), (.pending, some afterwards)] ∧
      swept.proposals.map (·.status) = [.expired, .pending] ∧
      Occasion.perform obliging OneOfTwo.rules ⟨.sweep, clock, fun _ => letter 'T'⟩ staggered.store
        = (⟨.sweep, .ok (staggered.store.proposals.countP (·.IsDue (clock 0))), []⟩, swept) ∧
      ∀ clock' ids', clock' 0 = clock 0 → (∀ i, (clock' 0).UpTo (clock' i)) →
        Occasion.perform obliging OneOfTwo.rules ⟨.sweep, clock', ids'⟩ swept =
          (⟨.sweep, .ok 0, []⟩, swept) := by
  intro clock swept
  have before : staggered.store.proposals.map (fun p => (p.status, p.expiresAt)) =
      [(.approved, some windowEnd), (.pending, some afterwards)] := by decide +kernel
  have after : swept.proposals.map (·.status) = [.expired, .pending] := by decide +kernel
  have able : 0 < OneOfTwo.rules.attempts := by decide
  have comparable : (clock 0).isAware = staggered.clock.isAware := by decide +kernel
  have onward (i : Nat) : (clock 0).UpTo (clock i) := ⟨rfl, Int.le_refl _⟩
  exact ⟨before, after, Reachable.sweep_closes_due reachable_staggered able comparable onward
    obliging fun _ => letter 'T'⟩

end OneOfTwo

end QuorumGate
