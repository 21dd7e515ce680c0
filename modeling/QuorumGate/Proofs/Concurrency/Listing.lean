import QuorumGate.Proofs.Concurrency.Moments
import QuorumGate.Proofs.Concurrency.Stage

/-!
# Listings

A listing by stage asks the store only for the stored stages that can turn out to be the wanted one,
and sorts before and after it looks at the clock. Whatever has been written, nothing is lost by it:
the listing is what one gets by evaluating each stored proposal, keeping the wanted ones and sorting
once.
-/

namespace QuorumGate

/-! ## Sorting -/

section Sorting

variable {α : Type} {le : α → α → Bool}

/-- A list is cut in one way only into what has a property and what has not. -/
theorem cut_unique {q : α → Bool} {l₁ l₂ m₁ m₂ : List α} (same : l₁ ++ l₂ = m₁ ++ m₂)
    (hl₁ : ∀ b ∈ l₁, q b = true) (hl₂ : ∀ b ∈ l₂, q b = false)
    (hm₁ : ∀ b ∈ m₁, q b = true) (hm₂ : ∀ b ∈ m₂, q b = false) : l₁ = m₁ ∧ l₂ = m₂ := by
  have kept : ∀ {xs ys : List α}, (∀ b ∈ xs, q b = true) → (∀ b ∈ ys, q b = false) →
      (xs ++ ys).filter q = xs := by
    intro xs ys hx hy
    have none_left : ys.filter q = [] := by simpa using hy
    rw [List.filter_append, List.filter_eq_self.2 hx, none_left, List.append_nil]
  have front : l₁ = m₁ := by
    rw [← kept hl₁ hl₂, same, kept hm₁ hm₂]
  exact ⟨front, List.append_cancel_left (front ▸ same)⟩

variable (trans : ∀ a b c, le a b = true → le b c = true → le a c = true)
  (total : ∀ a b, (le a b || le b a) = true)

include trans total

/-- One element more goes before the first one that it may stand before. -/
theorem mergeSort_cons_cut (a : α) (xs : List α) :
    ∃ l₁ l₂, (a :: xs).mergeSort le = l₁ ++ a :: l₂ ∧ xs.mergeSort le = l₁ ++ l₂ ∧
      (∀ b ∈ l₁, (!le a b) = true) ∧ ∀ b ∈ l₂, (!le a b) = false := by
  obtain ⟨l₁, l₂, hcons, hxs, before⟩ := List.mergeSort_cons trans total a xs
  refine ⟨l₁, l₂, hcons, hxs, before, ?_⟩
  have sorted := List.pairwise_mergeSort trans total (a :: xs)
  rw [hcons, List.pairwise_append, List.pairwise_cons] at sorted
  intro b hb
  simp [sorted.2.1.1 b hb]

/-- A stable sort of what is kept is what is kept of the stable sort. -/
theorem filter_mergeSort (keep : α → Bool) (xs : List α) :
    (xs.mergeSort le).filter keep = (xs.filter keep).mergeSort le := by
  induction xs with
  | nil => simp
  | cons a xs ih =>
    obtain ⟨l₁, l₂, hcons, hxs, before, after⟩ := mergeSort_cons_cut trans total a xs
    rw [hxs, List.filter_append] at ih
    by_cases ha : keep a = true
    · obtain ⟨m₁, m₂, hcons', hfilter, before', after'⟩ :=
        mergeSort_cons_cut trans total a (xs.filter keep)
      obtain ⟨front, back⟩ := cut_unique (ih.trans hfilter)
        (fun b hb => before b (List.mem_filter.1 hb).1)
        (fun b hb => after b (List.mem_filter.1 hb).1) before' after'
      rw [List.filter_cons_of_pos ha, hcons, hcons', List.filter_append,
        List.filter_cons_of_pos ha, front, back]
    · rw [List.filter_cons_of_neg ha, hcons, List.filter_append, List.filter_cons_of_neg ha, ih]

end Sorting

/-- Proposals by the time of their creation, newest first. Those of one time keep their order. -/
def newest (ps : List Proposal) : List Proposal :=
  ps.mergeSort fun p q => q.createdAt.ticks ≤ p.createdAt.ticks

theorem filter_newest (keep : Proposal → Bool) (ps : List Proposal) :
    (newest ps).filter keep = newest (ps.filter keep) :=
  filter_mergeSort (by simp; omega) (by simp; omega) keep ps

theorem newest_newest (ps : List Proposal) : newest (newest ps) = newest ps :=
  List.mergeSort_of_pairwise (List.pairwise_mergeSort (by simp; omega) (by simp; omega) ps)

/-- To sort before or after each record is replaced by one of the same time is the same. -/
theorem map_newest {f : Proposal → Proposal} (h : ∀ p, (f p).createdAt = p.createdAt)
    (ps : List Proposal) : (newest ps).map f = newest (ps.map f) :=
  List.map_mergeSort fun p _ q _ => by rw [h, h]

theorem newestFirst_eq {ps : List Proposal} (now : Instant)
    (h : ∀ p ∈ ps, p.createdAt.isAware = now.isAware) :
    Instant.newestFirst Proposal.createdAt ps = .ok (newest ps) := by
  have comparable : Instant.allComparable (ps.map Proposal.createdAt) = true := by
    cases ps with
    | nil => rfl
    | cons p rest => simp_all [Instant.allComparable]
  rw [Instant.newestFirst, if_pos comparable, newest]

/-! ## Programs that only ask the store -/

/-- What a program comes to that asks a store for records and for nothing else. -/
inductive Finds (s : Store) {α : Type} : Service α → Except Failure α → Prop where
  | done (a : α) : Finds s (.done a) (.ok a)
  | fail (e : Failure) : Finds s (.fail e) (.error e)
  | store {op : StoreOp} {correlation : Text} {next : Except Failure op.Result → Service α}
      {r : Except Failure α} (still : (s.perform op).2 = s)
      (rest : Finds s (next (s.perform op).1) r) :
      Finds s (.ask (Effect.store op correlation) next) r

namespace Finds

variable {α β : Type} {s : Store} {a : α} {p : Service α} {k : α → Service β}
  {r : Except Failure β}

theorem bind (h : Finds s p (.ok a)) (hk : Finds s (k a) r) : Finds s (p >>= k) r := by
  generalize hx : Except.ok a = x at h
  induction h with
  | done b =>
    cases hx
    exact hk
  | fail e => cases hx
  | store still rest ih => exact .store still (ih hx)

theorem timed {x : Except TimeFault α} (h : x = .ok a) : Finds s (Service.timed x) (.ok a) := by
  subst h
  exact .done a

theorem policy {P : Policy} {id correlation : Text} (h : s.policy? id = some P) :
    Finds s (Policies.get id correlation) (.ok P) := by
  refine .store rfl ?_
  have found : (s.perform (.getPolicy id)).1 = .ok (some P) := congrArg Except.ok h
  rw [found]
  exact .done P

/-- With nothing in between, this is what the program reads. -/
theorem read {w : World} {p : Service α} {r : Except Failure α} (h : Finds w.store p r) :
    w.read p = some r := by
  induction h with
  | done a => rfl
  | fail e => rfl
  | store still rest ih => exact ih

end Finds

/-! ## What can be shown of a store -/

variable {s : Store} {now : Instant} {p : Proposal} {P : Policy} {filter : Option Status}
  {correlation : Text}

/-- A stored proposal whose times can be compared with a reading of the clock, and whose stage says
what its signatures say. -/
structure Presentable (s : Store) (now : Instant) (p : Proposal) (P : Policy) : Prop where
  policy : s.policy? p.policyId = some P
  stage : p.status.isTerminal = false → p.status = p.quorumStatus P
  window : ∀ t, p.expiresAt = some t → now.isAware = t.isAware
  created : p.createdAt.isAware = now.isAware

namespace Presentable

/-- The stage that it is at can be told, and it is stored at a stage that can turn out so. -/
theorem evaluate (h : Presentable s now p P) :
    ∃ t, p.evaluate P now = .ok t ∧ p.status ∈ Ledger.candidates t := by
  unfold Proposal.evaluate
  cases ho : p.status.isTerminal with
  | true =>
    refine ⟨p.status, rfl, ?_⟩
    cases p.status <;> decide
  | false =>
    obtain ⟨expired, he, -⟩ := Proposal.isExpired_eq h.window
    rw [if_neg (by simp), he]
    cases expired with
    | true =>
      refine ⟨.expired, rfl, ?_⟩
      cases hs : p.status <;> simp_all [Status.isTerminal, Ledger.candidates]
    | false =>
      refine ⟨p.quorumStatus P, rfl, ?_⟩
      rw [← h.stage ho]
      cases p.status <;> decide

theorem viewAt (h : Presentable s now p P) :
    ∃ t, p.viewAt P now = .ok (p.withStatus t) ∧ p.status ∈ Ledger.candidates t := by
  obtain ⟨t, ht, candidate⟩ := h.evaluate
  refine ⟨t, ?_, candidate⟩
  rw [Proposal.viewAt, ht]
  rfl

end Presentable

/-- Each proposal of a list as it is at one time. -/
def Views (s : Store) (now : Instant) (ps : List Proposal) (view : Proposal → Proposal) : Prop :=
  ∀ p ∈ ps, ∃ P, s.policy? p.policyId = some P ∧ p.viewAt P now = .ok (view p)

namespace Ledger

/-- Policies that are known already are the ones that the store would give. -/
theorem viewsAt_finds {view : Proposal → Proposal} {ps : List Proposal}
    {known : List (Text × Policy)} (h : Views s now ps view)
    (hk : ∀ id P, known.lookup id = some P → s.policy? id = some P) :
    Finds s (viewsAt now filter correlation known ps) (.ok ((ps.map view).filter (wanted filter)))
    := by
  induction ps generalizing known with
  | nil => exact .done []
  | cons p rest ih =>
    obtain ⟨P, hP, hview⟩ := h p List.mem_cons_self
    have hrest : Views s now rest view := fun q hq => h q (List.mem_cons_of_mem p hq)
    have hk' : ∀ id Q, ((p.policyId, P) :: known).lookup id = some Q → s.policy? id = some Q := by
      intro id Q hQ
      rw [List.lookup_cons] at hQ
      split at hQ
      · rename_i same
        cases hQ
        rw [beq_iff_eq.1 same]
        exact hP
      · exact hk id Q hQ
    rw [viewsAt]
    cases hl : known.lookup p.policyId with
    | none =>
      refine (Finds.policy hP).bind ((Finds.timed hview).bind ((ih hrest hk').bind ?_))
      rw [List.map_cons, List.filter_cons]
      exact .done _
    | some Q =>
      obtain rfl : Q = P := Option.some.inj ((hk _ _ hl).symm.trans hP)
      refine (Finds.timed hview).bind ((ih hrest hk').bind ?_)
      rw [List.map_cons, List.filter_cons]
      exact .done _

end Ledger

/-! ## The listing -/

/-- All that is stored can be shown at a time. -/
def Store.IsPresentable (s : Store) (now : Instant) : Prop :=
  ∀ p ∈ s.proposals, ∃ P, Presentable s now p P

namespace Store.IsPresentable

theorem exists_views (h : s.IsPresentable now) :
    ∃ view : Proposal → Proposal, Views s now s.proposals view ∧
      (∀ p, ∃ t, view p = p.withStatus t) ∧
      ∀ p ∈ s.proposals, p.status ∈ Ledger.candidates (view p).status := by
  have shown : ∀ p, ∃ t, p ∈ s.proposals →
      (∃ P, s.policy? p.policyId = some P ∧ p.viewAt P now = .ok (p.withStatus t)) ∧
        p.status ∈ Ledger.candidates t := by
    intro p
    by_cases hp : p ∈ s.proposals
    · obtain ⟨P, hP⟩ := h p hp
      obtain ⟨t, view, candidate⟩ := hP.viewAt
      exact ⟨t, fun _ => ⟨⟨P, hP.policy, view⟩, candidate⟩⟩
    · exact ⟨p.status, fun hp' => absurd hp' hp⟩
  obtain ⟨stage, hstage⟩ := Classical.axiomOfChoice shown
  exact ⟨fun p => p.withStatus (stage p), fun p hp => (hstage p hp).1, fun p => ⟨stage p, rfl⟩,
    fun p hp => (hstage p hp).2⟩

theorem listProposals (h : s.IsPresentable now) (statuses : Option (List Status)) :
    s.listProposals statuses =
      .ok (newest (s.proposals.filter fun p => statuses.all (·.contains p.status))) := by
  rw [Store.listProposals, newestFirst_eq now]
  · rfl
  · intro p hp
    obtain ⟨P, hP⟩ := h p (List.mem_filter.1 hp).1
    exact hP.created

end Store.IsPresentable

namespace Ledger

/-- What a listing does with the records that it was given, once it has looked at the clock. -/
def present (filter : Option Status) (limit : Int) (correlation : Text) (ps : List Proposal)
    (now : Instant) : Service (List Proposal) := do
  let views ← viewsAt now filter correlation [] ps
  let sorted ← Service.timed (Instant.newestFirst Proposal.createdAt views)
  return upTo limit sorted

theorem list_eq (filter : Option Status) (limit : Int) (correlation : Text) :
    list filter limit correlation = (do
      let ps ← Service.store (.listProposals (filter.map candidates)) correlation
      let now ← Service.now
      present filter limit correlation ps now) := rfl

/-- What is stored at another stage than the ones asked for is not wanted. -/
theorem filter_candidates {view : Proposal → Proposal} {ps : List Proposal}
    (h : ∀ p ∈ ps, p.status ∈ candidates (view p).status) :
    ((ps.filter fun p => (filter.map candidates).all (·.contains p.status)).map view).filter
      (wanted filter) = (ps.map view).filter (wanted filter) := by
  rw [List.filter_map, List.filter_map, List.filter_filter]
  refine congrArg (List.map view) (List.filter_congr fun p hp => ?_)
  have candidate := h p hp
  cases filter with
  | none => simp [wanted]
  | some t =>
    by_cases ht : t = (view p).status
    · simp [wanted, ht, candidate]
    · simp [wanted, ht]

/-- Both sorts and the choice of candidates change nothing. -/
theorem present_finds {view : Proposal → Proposal} (h : s.IsPresentable now)
    (views : Views s now s.proposals view) (restaged : ∀ p, ∃ t, view p = p.withStatus t)
    (candidate : ∀ p ∈ s.proposals, p.status ∈ candidates (view p).status)
    (filter : Option Status) (limit : Int) (correlation : Text) :
    ∃ ps, s.listProposals (filter.map candidates) = .ok ps ∧
      Finds s (present filter limit correlation ps now)
        (.ok (upTo limit (newest ((s.proposals.map view).filter (wanted filter))))) := by
  have created : ∀ p, (view p).createdAt = p.createdAt := by
    intro p
    obtain ⟨t, ht⟩ := restaged p
    rw [ht]
    rfl
  have sources : ∀ p ∈ newest (s.proposals.filter fun p =>
      (filter.map candidates).all (·.contains p.status)), p ∈ s.proposals := by
    intro p hp
    rw [newest, List.mem_mergeSort] at hp
    exact (List.mem_filter.1 hp).1
  refine ⟨_, h.listProposals _, ?_⟩
  refine (viewsAt_finds (fun p hp => views p (sources p hp)) (by simp)).bind ?_
  rw [map_newest created, filter_newest, filter_candidates candidate]
  refine (Finds.timed (newestFirst_eq now ?_)).bind ?_
  · intro q hq
    rw [newest, List.mem_mergeSort] at hq
    obtain ⟨p, hp, rfl⟩ := List.mem_map.1 (List.mem_filter.1 hq).1
    obtain ⟨P, hP⟩ := h p hp
    rw [created]
    exact hP.created
  · rw [newest_newest]
    exact .done _

end Ledger

/-- From an empty store on, the clock may be put forward and back, and requests may be treated in
any way. Any two readings of the clock can be compared. -/
def Conditions.adjustable : Conditions where
  founding := []
  choice := fun _ _ => True
  later := fun s t => s.isAware = t.isAware
  later_refl := fun _ => rfl
  later_trans := fun h h' => h.trans h'

variable {rules : ExecutionRules} {w : World}

theorem Reachable.isPresentable (h : Reachable rules .adjustable w) :
    w.store.IsPresentable w.clock := by
  have hl := h.lawful
  intro p hp
  rw [h.store_eq] at hp ⊢
  have known := mem_written_of_proposal? (hl.proposal?_of_mem hp)
  obtain ⟨P, hP⟩ := hl.backed known
  have asks := hl.threshold_pos (by simp [Conditions.adjustable]) P
    (List.mem_of_find?_eq_some hP.policy_eq)
  refine ⟨P, hP.policy_eq, hP.stage asks, ?_, ?_⟩
  · intro t ht
    obtain ⟨j, s, seen, aware⟩ := hl.expiry_seen known t ht
    have comparable : s.isAware = w.clock.isAware := h.always.clock j s seen
    exact comparable.symm.trans aware.symm
  · obtain ⟨j, seen⟩ := hl.moments_seen known p.createdAt List.mem_cons_self
    exact h.always.clock j _ seen

/-- A listing never fails, and it is what one gets by evaluating all that is stored, keeping the
wanted, sorting it with the newest first and taking so many of the first. -/
theorem Reachable.listing_complete (h : Reachable rules .adjustable w) (filter : Option Status)
    (limit : Nat) (correlation : Text) :
    ∃ view : Proposal → Proposal,
      (∀ p ∈ w.store.proposals, ∃ P, w.store.policy? p.policyId = some P ∧
        p.viewAt P w.clock = .ok (view p)) ∧
      w.read (Ledger.list filter limit correlation) = some (.ok
        ((((w.store.proposals.map view).filter fun q => filter.all (· == q.status)).mergeSort
          fun p q => q.createdAt.ticks ≤ p.createdAt.ticks).take limit)) := by
  obtain ⟨view, views, restaged, candidate⟩ := h.isPresentable.exists_views
  obtain ⟨ps, listed, found⟩ :=
    Ledger.present_finds h.isPresentable views restaged candidate filter limit correlation
  have performed : (w.store.perform (.listProposals (filter.map Ledger.candidates))).1 = .ok ps :=
    listed
  refine ⟨view, views, ?_⟩
  rw [Ledger.list_eq, World.read_store_bind, performed]
  refine found.read.trans ?_
  rw [upTo, if_pos (Int.natCast_nonneg limit), Int.toNat_natCast]
  rfl

theorem OneOfTwo.listing_of_executed : world.store.proposals ≠ [] ∧
    ∃ view : Proposal → Proposal,
      (∀ p ∈ world.store.proposals, ∃ P, world.store.policy? p.policyId = some P ∧
        p.viewAt P world.clock = .ok (view p)) ∧
      world.read (Ledger.list (some .executed) (1 : Nat) (letter 'r')) = some (.ok
        ((((world.store.proposals.map view).filter fun q =>
          (some Status.executed).all (· == q.status)).mergeSort
          fun p q => q.createdAt.ticks ≤ p.createdAt.ticks).take 1)) := by
  have hw : Reachable OneOfTwo.rules .adjustable world := reachable (fun _ _ => trivial) rfl
  exact ⟨by decide +kernel, Reachable.listing_complete hw (some .executed) 1 (letter 'r')⟩

end QuorumGate
