import QuorumGate.Proofs.Concurrency.Records

/-!
# Deployments

A call that arrives at the deployer has a claimed record behind it, with a quorum of signatures. As
the record bears the id of one execution and the id belongs to one call, which deploys once, the
deployer is called once at most for each proposal.
-/

namespace QuorumGate

/-! ## A run

One signature out of two possible ones approves a proposal. Of two calls that want to execute it,
one has its claim committed and is told of a conflict, and goes to the deployer all the same. -/

namespace OneOfTwo

def letter (c : Char) : Text := ⟨[.char c]⟩

theorem midnight : 0 < microsPerDay := by decide

def start : Instant :=
  ⟨⟨2026, 3, 1, by decide, by decide, by decide, by decide, by decide, by decide⟩, 0, midnight,
    some .utc⟩

def rules : ExecutionRules := ⟨8, .whole 120⟩

def policy : PolicyDraft := ⟨letter 'n', [letter 'a', letter 'b'], 1, none, letter 'c'⟩

def draft : ProposalDraft :=
  ⟨letter 'P', letter 'n', ⟨[.char 'k', .char ' ']⟩, ⟨List.replicate 64 (.char 'A')⟩, .testnet,
    letter 'x', none⟩

def serve (i : Nat) (choices : List Choice) : List Move := choices.map (.serve i)

def moves : List Move :=
  [.start (.createPolicy policy (letter 'r'))] ++
  serve 0 [.id (letter 'P'), .plain, .plain, .plain] ++
  [.start (.createProposal draft (letter 'r'))] ++
  serve 1 [.plain, .plain, .id (letter 'Q'), .plain, .plain] ++
  [.start (.sign (letter 'Q') ⟨letter 'a', none⟩ (letter 'r'))] ++
  serve 2 [.plain, .plain, .plain, .plain, .id (letter 'S'), .plain, .plain] ++
  [.start (.execute (letter 'Q') none (letter 'r')),
    .start (.execute (letter 'Q') none (letter 'r'))] ++
  serve 3 [.id (letter 'E'), .plain, .plain, .plain, .plain] ++
  serve 4 [.id (letter 'F'), .plain, .plain, .plain, .plain] ++
  serve 3 [.lost (.conflict (letter 'Q') 2 .nothing), .plain, .plain]

def world : World := ((World.opening [] start).run rules moves).get (by decide +kernel)

theorem reachable {c : Conditions} (free : ∀ r choice, c.choice r choice) (hf : c.founding = []) :
    Reachable rules c world := by
  have hv : (World.opening c.founding start).run rules moves = some world := by
    rw [hf]
    exact (Option.some_get _).symm
  exact Reachable.of_run free (by simp [moves, serve]) (.opening start) hv

theorem isDeploying : world.isDeploying (letter 'Q') 3 = true := by decide +kernel

end OneOfTwo

variable {rules : ExecutionRules} {c : Conditions} {founding : List Policy} {w : World}
  {past news : Chronicle} {i j : Nat} {o : Order} {limit : Number} {id : Text}

/-- A call that has gone to the deployer was due. -/
theorem Reachable.due (h : Reachable rules (.any founding) w)
    (hr : w.request? i = some (.deploy o limit)) : Due (.any founding) w.chronicle i o := by
  unfold World.request? at hr
  split at hr
  case h_2 => cases hr
  case h_1 call r next ht =>
    cases hr
    -- Whatever the deployer answers, the answer is lawful.
    have hs := (h.always.safe i _ ht).2 w.chronicle (.refl h.lawful) w.clock h.always.clock
      (.landing .timedOut) _ trivial rfl
    exact hs.2.1.2

theorem World.isDeploying_eq_true (h : w.isDeploying id i = true) :
    ∃ o limit, w.request? i = some (.deploy o limit) ∧ o.key = id := by
  unfold isDeploying at h
  split at h
  · rename_i o limit hr
    exact ⟨o, limit, hr, beq_iff_eq.1 h⟩
  · cases h

/-! ## What stands behind a deployment -/

/-- The records of a world that stand behind an order: an executed proposal, whose signatures are a
quorum of its policy, each put there by a call of its signer's, and whose creator has asked for just
what is ordered. -/
structure Authorized (w : World) (o : Order) (p : Proposal) (P : Policy) : Prop where
  stored : w.store.proposal? o.key = some p
  executed : p.status = .executed
  policy : w.store.policy? p.policyId = some P
  quorum : P.threshold ≤ (p.signatures.map (·.signer)).length
  distinct : (p.signatures.map (·.signer)).Nodup
  members : ∀ s ∈ p.signatures, s.signer ∈ P.signers
  signed : ∀ s ∈ p.signatures, SignedBy w.chronicle o.key s
  created : ∃ i draft correlation first,
    ⟨i, .began (.createProposal draft correlation)⟩ ∈ w.chronicle ∧
    ⟨i, .wrote none first⟩ ∈ w.chronicle ∧ first.id = o.key ∧
    o.contractId = draft.contractId.strip ∧ o.wasmHash = draft.wasmHash.strip.lower ∧
    o.network = draft.network

theorem Due.authorized {w : World} (h : Lawful c w.chronicle)
    (hstore : w.store = replay c.founding w.chronicle) (hdue : Due c w.chronicle i o) :
    ∃ p P, Authorized w o p P := by
  cases hdue with
  | @due p x requested asked correlation call stored executed =>
    have known := mem_written_of_proposal? stored
    obtain ⟨P, hP⟩ := h.backed known
    rw [← hstore] at stored
    refine ⟨p, P, stored, executed, ?_, ?_, hP.distinct, hP.members, h.signedBy known,
      h.createdBy known⟩
    · rw [hstore]
      exact hP.policy_eq
    · rw [List.length_map]
      exact hP.quorum executed

/-- Whenever a call goes to the deployer, a quorum of signers has authorized the order. -/
theorem Reachable.deployment_authorized (h : Reachable rules c w)
    (hr : w.request? i = some (.deploy o limit)) : ∃ p P, Authorized w o p P :=
  (h.lenient.due hr).authorized h.lenient.lawful h.lenient.store_eq

theorem OneOfTwo.order_authorized : ∃ o p P, o.key = letter 'Q' ∧ Authorized world o p P := by
  obtain ⟨o, limit, hr, hid⟩ := World.isDeploying_eq_true isDeploying
  have hw : Reachable OneOfTwo.rules (.any []) world := reachable (fun _ _ => trivial) rfl
  obtain ⟨p, P, h⟩ := Reachable.deployment_authorized hw hr
  exact ⟨o, p, P, hid, h⟩

/-! ## One deployment at most -/

/-- Call `i` drew the id that the record of a proposal bears. -/
def Bearer (c : Conditions) (past : Chronicle) (i : Nat) (id : Text) : Prop :=
  ∃ p x, (replay c.founding past).proposal? id = some p ∧ p.execution = some x ∧
    ⟨i, .drew .execution x.id⟩ ∈ past

namespace Bearer

theorem unique (h : Lawful c past) (hi : Bearer c past i id) (hj : Bearer c past j id) : i = j := by
  obtain ⟨p, x, hp, hx, drawn⟩ := hi
  obtain ⟨q, y, hq, hy, drawn'⟩ := hj
  rw [hp] at hq
  cases hq
  rw [hx] at hy
  cases hy
  exact h.drew_unique drawn drawn'

theorem later (hi : Bearer c past i id) (h : Lawful c news) (hs : past <:+ news) :
    Bearer c news i id := by
  obtain ⟨p, x, hp, hx, drawn⟩ := hi
  obtain ⟨more, rfl⟩ := hs
  have known := mem_written_of_proposal? hp
  have executed := (h.of_append.executed_iff known).2 ⟨x, hx⟩
  have known' : p ∈ written (more ++ past) := by
    rw [written_append]
    exact List.mem_append_right _ known
  obtain ⟨q, hq, hd⟩ := h.descends known'
  obtain ⟨-, -, -, hy⟩ := hd.executed executed
  rw [hx] at hy
  obtain ⟨y, hy, hyx⟩ := Option.map_eq_some_iff.1 hy
  rw [Store.id_eq_of_proposal? hp] at hq
  exact ⟨q, y, hq, hy, List.mem_append_right _ (hyx ▸ drawn)⟩

end Bearer

theorem Due.bearer (h : Due c past i o) : Bearer c past i o.key := by
  cases h with
  | @due p x requested asked correlation call stored executed held drawn =>
    exact ⟨p, x, stored, held, drawn⟩

theorem Lawful.bearer (h : Lawful c past) (hi : i ∈ deployers past id) : Bearer c past i id := by
  obtain ⟨o, landing, he, rfl⟩ := mem_deployers.1 hi
  obtain ⟨older, hs, -, due⟩ := h.allowed he
  exact (Due.bearer due).later h ((List.suffix_cons _ older).trans hs)

theorem Due.not_mem_deployers (h : Due c past i o) (id : Text) : i ∉ deployers past id := by
  intro hi
  obtain ⟨o', landing, he, -⟩ := mem_deployers.1 hi
  cases h with
  | due call stored executed held drawn first => exact first o' landing he

theorem Lawful.deployers_nodup (h : Lawful c past) : (deployers past id).Nodup := by
  induction past with
  | nil => exact List.nodup_nil
  | cons e past ih =>
    rw [deployers, List.filter_cons]
    split
    · rename_i hd
      obtain ⟨k, e⟩ := e
      cases e <;> simp only [Event.deploys, Bool.false_eq_true] at hd
      have due : Due c past k _ := h.2
      exact List.nodup_cons.2 ⟨due.not_mem_deployers id, ih h.1⟩
    · exact ih h.1

theorem Reachable.due_of_isDeploying (h : Reachable rules c w) (hi : w.isDeploying id i = true) :
    ∃ o, o.key = id ∧ Due (.any c.founding) w.chronicle i o := by
  obtain ⟨o, limit, hr, hid⟩ := World.isDeploying_eq_true hi
  exact ⟨o, hid, h.lenient.due hr⟩

/-- Whoever has gone to the deployer drew the id that the record bears. -/
theorem Reachable.bearer_of_mem_invokers (h : Reachable rules c w) (hi : i ∈ w.invokers id) :
    Bearer (.any c.founding) w.chronicle i id := by
  rcases List.mem_append.1 hi with hi | hi
  · obtain ⟨o, rfl, hd⟩ := h.due_of_isDeploying (List.mem_filter.1 hi).2
    exact hd.bearer
  · exact h.lenient.lawful.bearer hi

theorem Reachable.nodup_invokers (h : Reachable rules c w) (id : Text) :
    (w.invokers id).Nodup := by
  refine List.nodup_append.2 ⟨List.nodup_range.filter _, h.lenient.lawful.deployers_nodup, ?_⟩
  rintro i hi j hj rfl
  obtain ⟨o, -, hd⟩ := h.due_of_isDeploying (List.mem_filter.1 hi).2
  exact hd.not_mem_deployers id hj

/-- The deployer is called at most once for each proposal: calls that are still with it count. -/
theorem Reachable.length_invokers_le_one (h : Reachable rules c w) (id : Text) :
    (w.invokers id).length ≤ 1 := by
  cases hw : w.invokers id with
  | nil => exact Nat.zero_le 1
  | cons i rest =>
    have bearer : ∀ j ∈ i :: rest, Bearer (.any c.founding) w.chronicle j id :=
      fun j hj => h.bearer_of_mem_invokers (hw ▸ hj)
    have same : i :: rest ⊆ [i] := by
      intro j hj
      exact List.mem_singleton.2
        ((bearer j hj).unique h.lenient.lawful (bearer i List.mem_cons_self))
    exact (hw ▸ h.nodup_invokers id).length_le_of_subset same

theorem OneOfTwo.sole_invoker : world.invokers (letter 'Q') = [3] ∧
    (world.invokers (letter 'Q')).length ≤ 1 := by
  have hw : Reachable OneOfTwo.rules (.any []) world := reachable (fun _ _ => trivial) rfl
  exact ⟨by decide +kernel, Reachable.length_invokers_le_one hw (letter 'Q')⟩

end QuorumGate
