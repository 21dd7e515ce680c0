import QuorumGate.Proofs.Concurrency.Deployment

/-!
# The stage that is reported

The stored stage is a cache. Under a clock that does not go backwards it never says anything else
than what the claims, the window and the signatures say, and so a query may trust it.
-/

namespace QuorumGate

/-- The window of a proposal is over. -/
def Proposal.Overdue (p : Proposal) (now : Instant) : Prop :=
  ∃ t, p.expiresAt = some t ∧ t.ticks < now.ticks

/-- So many different members of the policy have signed as it asks for. -/
def Proposal.HasQuorum (p : Proposal) (P : Policy) : Prop :=
  ∃ xs : List Text, xs.Nodup ∧ P.threshold ≤ xs.length ∧
    ∀ x ∈ xs, x ∈ P.signers ∧ ∃ s ∈ p.signatures, s.signer = x

/-- The stage that a proposal is at, from what has happened to it. -/
def World.Stands (w : World) (p : Proposal) (P : Policy) : Status → Prop
  | .executed => ClaimCommitted w.chronicle p.id
  | .expired => ¬ClaimCommitted w.chronicle p.id ∧ p.Overdue w.clock
  | .approved => ¬ClaimCommitted w.chronicle p.id ∧ ¬p.Overdue w.clock ∧ p.HasQuorum P
  | .pending => ¬ClaimCommitted w.chronicle p.id ∧ ¬p.Overdue w.clock ∧ ¬p.HasQuorum P

variable {rules : ExecutionRules} {c : Conditions} {w : World} {past : Chronicle} {i : Nat}
  {p : Proposal} {P : Policy} {id correlation : Text} {s t : Status} {now later : Instant}

theorem World.Stands.unique (hs : w.Stands p P s) (ht : w.Stands p P t) : s = t := by
  cases s <;> cases t <;> simp_all [World.Stands]

theorem Backed.hasQuorum_iff (h : Backed c past p P) :
    p.HasQuorum P ↔ P.threshold ≤ p.signatures.length := by
  constructor
  · rintro ⟨xs, nodup, quorum, hxs⟩
    have hsub : xs ⊆ p.signatures.map (·.signer) := by
      intro x hx
      obtain ⟨-, s, hs, rfl⟩ := hxs x hx
      exact List.mem_map_of_mem hs
    have hlen := nodup.length_le_of_subset hsub
    rw [List.length_map] at hlen
    omega
  · intro quorum
    refine ⟨p.signatures.map (·.signer), h.distinct, by simpa using quorum, ?_⟩
    intro x hx
    obtain ⟨s, hs, rfl⟩ := List.mem_map.1 hx
    exact ⟨h.members s hs, s, hs, rfl⟩

namespace Proposal

theorem isExpired_eq (h : ∀ t, p.expiresAt = some t → now.isAware = t.isAware) :
    ∃ expired, p.isExpired now = .ok expired ∧ (expired = true ↔ p.Overdue now) := by
  unfold isExpired Overdue
  cases ht : p.expiresAt with
  | none => exact ⟨false, rfl, by simp⟩
  | some t =>
    refine ⟨decide (t.ticks < now.ticks), ?_, by simp⟩
    simp [Instant.isAfter, h t ht]

theorem overdue_of_isExpired (h : p.isExpired now = .ok true) : p.Overdue now := by
  unfold isExpired at h
  split at h
  · cases h
  · rename_i t ht
    unfold Instant.isAfter at h
    split at h
    · exact ⟨t, ht, by simpa using Except.ok.inj h⟩
    · cases h

theorem Overdue.mono (h : p.Overdue now) (hl : now.ticks ≤ later.ticks) : p.Overdue later := by
  obtain ⟨t, ht, hlt⟩ := h
  exact ⟨t, ht, by omega⟩

end Proposal

namespace World

variable {α : Type}

theorem read_store_bind (w : World) (op : StoreOp) (correlation : Text)
    (k : op.Result → Service α) : w.read (Service.store op correlation >>= k) =
      w.read (Program.ofExcept (w.store.perform op).1 >>= k) := rfl

theorem read_load_bind (hp : w.store.proposal? id = some p) (k : Proposal → Service α) :
    w.read (Ledger.load id correlation >>= k) = w.read (k p) := by
  have found : (w.store.perform (.getProposal id)).1 = .ok (some p) := congrArg Except.ok hp
  rw [Ledger.load, Program.bind_assoc]
  refine (read_store_bind w (.getProposal id) correlation _).trans ?_
  rw [found]
  rfl

theorem read_policy_bind (hP : w.store.policy? id = some P) (k : Policy → Service α) :
    w.read (Policies.get id correlation >>= k) = w.read (k P) := by
  have found : (w.store.perform (.getPolicy id)).1 = .ok (some P) := congrArg Except.ok hP
  rw [Policies.get, Program.bind_assoc]
  refine (read_store_bind w (.getPolicy id) correlation _).trans ?_
  rw [found]
  rfl

theorem read_now_bind (w : World) (k : Instant → Service α) :
    w.read (Service.now >>= k) = w.read (k w.clock) := rfl

theorem read_timed (w : World) (x : Except TimeFault α) :
    w.read (Service.timed x) = some (x.mapError .time) := by
  cases x <;> rfl

/-- A query with nothing in between shows the stored record at the time of the clock. -/
theorem read_get (hp : w.store.proposal? id = some p)
    (hP : w.store.policy? p.policyId = some P) :
    w.read (Ledger.get id correlation) = some ((p.viewAt P w.clock).mapError .time) := by
  rw [Ledger.get, read_load_bind hp, read_policy_bind hP, read_now_bind, read_timed]

end World

/-! ## The cache -/

/-- The stored stage never contradicts the claims, the window and the signatures. -/
structure Coherent (w : World) (p : Proposal) (P : Policy) : Prop where
  executed : p.status = .executed ↔ ClaimCommitted w.chronicle p.id
  expired : p.status = .expired → p.Overdue w.clock
  approved : p.status.isTerminal = false → (p.status = .approved ↔ p.HasQuorum P)
  counted : p.HasQuorum P ↔ P.threshold ≤ p.signatures.length
  comparable : ∀ t, p.expiresAt = some t → w.clock.isAware = t.isAware

theorem Reachable.coherent (h : Reachable rules .steady w)
    (hp : w.store.proposal? id = some p) :
    ∃ P, w.store.policy? p.policyId = some P ∧ Coherent w p P := by
  have hl := h.lawful
  have hclock := h.always.clock
  rw [h.store_eq] at hp ⊢
  have known := mem_written_of_proposal? hp
  obtain ⟨P, hP⟩ := hl.backed known
  have ht := hl.threshold_pos (by simp [Conditions.steady]) P
    (List.mem_of_find?_eq_some hP.policy_eq)
  refine ⟨P, hP.policy_eq, ?_, ?_, ?_, hP.hasQuorum_iff, ?_⟩
  · obtain rfl := Store.id_eq_of_proposal? hp
    exact (hl.claimCommitted_iff hp).symm
  · intro he
    obtain ⟨j, t, seen, overdue⟩ := hl.expired_seen known he
    exact (Proposal.overdue_of_isExpired overdue).mono (hclock j t seen).2
  · intro ho
    rw [hP.hasQuorum_iff, hP.stage ht ho, Proposal.quorumStatus]
    split <;> simp_all
  · intro t he
    obtain ⟨j, s, seen, same⟩ := hl.expiry_seen known t he
    exact (same.trans (hclock j s seen).1).symm

theorem Coherent.evaluate (h : Coherent w p P) :
    ∃ s, p.evaluate P w.clock = .ok s ∧ w.Stands p P s := by
  have unclaimed : p.status ≠ .executed → ¬ClaimCommitted w.chronicle p.id :=
    fun hne hc => hne (h.executed.2 hc)
  unfold Proposal.evaluate
  cases ho : p.status.isTerminal with
  | true =>
    refine ⟨p.status, if_pos rfl, ?_⟩
    cases hs : p.status with
    | executed => exact h.executed.1 hs
    | expired => exact ⟨unclaimed (by simp [hs]), h.expired hs⟩
    | pending => simp [hs, Status.isTerminal] at ho
    | approved => simp [hs, Status.isTerminal] at ho
  | false =>
    have hc := unclaimed (Status.ne_of_isTerminal ho rfl)
    obtain ⟨expired, he, hover⟩ := Proposal.isExpired_eq h.comparable
    rw [if_neg (by simp), he]
    cases expired with
    | true => exact ⟨.expired, rfl, hc, hover.1 rfl⟩
    | false =>
      have current : ¬p.Overdue w.clock := fun ho => by simpa using hover.2 ho
      refine ⟨p.quorumStatus P, rfl, ?_⟩
      unfold Proposal.quorumStatus
      split
      · rename_i quorum
        exact ⟨hc, current, h.counted.2 quorum⟩
      · rename_i quorum
        exact ⟨hc, current, fun hq => quorum (h.counted.1 hq)⟩

/-- A query reports the stage that a proposal is at, and what the store holds does not contradict
it. -/
theorem Reachable.reported_stage (h : Reachable rules .steady w) (hp : p ∈ w.store.proposals)
    (correlation : Text) :
    ∃ P view, w.store.policy? p.policyId = some P ∧
      w.read (Ledger.get p.id correlation) = some (.ok view) ∧
      view = p.withStatus view.status ∧ (∀ s, view.status = s ↔ w.Stands p P s) ∧
      (p.status = .expired → p.Overdue w.clock) ∧
      (p.status.isTerminal = false → (p.status = .approved ↔ p.HasQuorum P)) := by
  have stored : w.store.proposal? p.id = some p := by
    rw [h.store_eq] at hp ⊢
    exact h.lawful.proposal?_of_mem hp
  obtain ⟨P, hP, coherent⟩ := h.coherent stored
  obtain ⟨s, hs, stands⟩ := coherent.evaluate
  refine ⟨P, p.withStatus s, hP, ?_, rfl, ?_, coherent.expired, coherent.approved⟩
  · rw [World.read_get stored hP, Proposal.viewAt, hs]
    rfl
  · intro t
    constructor
    · rintro rfl
      exact stands
    · exact fun ht => stands.unique ht

theorem OneOfTwo.stage_reported : ∃ p ∈ world.store.proposals, ∃ P view,
    world.store.policy? p.policyId = some P ∧
      world.read (Ledger.get p.id (letter 'r')) = some (.ok view) ∧
      ∀ s, view.status = s ↔ world.Stands p P s := by
  have hw : Reachable OneOfTwo.rules .steady world := reachable (fun _ _ => trivial) rfl
  have some_proposal : world.store.proposals ≠ [] := by decide +kernel
  obtain ⟨p, hp⟩ := List.exists_mem_of_ne_nil _ some_proposal
  obtain ⟨P, view, hP, hview, -, hs, -⟩ := Reachable.reported_stage hw hp (letter 'r')
  exact ⟨p, hp, P, view, hP, hview, hs⟩

end QuorumGate
