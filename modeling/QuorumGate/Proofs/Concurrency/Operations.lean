import QuorumGate.Proofs.Concurrency.Execution

/-!
# All operations keep the law

What is left are the book of policies, the sweeper and the reading operations. Whatever call a run
starts, its program is then safe, and so the chronicle of every reachable world is lawful.
-/

namespace QuorumGate

variable {c : Conditions} {past : Chronicle} {i : Nat} {p : Proposal} {id correlation : Text}

/-- To keep the law, whatever the result. -/
abbrev Orderly (c : Conditions) (i : Nat) (program : Service α) (past : Chronicle) : Prop :=
  Safe c i (fun _ => True) (fun _ _ => True) AnyFailure program past

theorem Safe.orderly {may : Event → Prop} {ok : α → Chronicle → Prop}
    {bad : Failure → Chronicle → Prop} {program : Service α}
    (h : Safe c i may ok bad program past) : Orderly c i program past :=
  h.mono (fun _ _ => trivial) (fun _ _ _ _ => trivial) fun _ _ _ _ => trivial

theorem PolicyDraft.objection?_of_check {draft : PolicyDraft} (h : draft.check = .ok ()) :
    draft.objection? = none := by
  unfold check at h
  split at h
  · cases h
  · assumption

namespace Policies

theorem recoverInsert_orderly {P : Policy} : Orderly c i (recoverInsert P correlation) past := by
  unfold recoverInsert
  refine Safe.read_bind (fun _ => rfl) (fun _ => trivial) ?_ fun _ _ _ => trivial
  intro l r _ _
  cases r with
  | none => exact Safe.reject fun _ _ => trivial
  | some Q =>
    cases hsame : Q.same P with
    | true =>
      simp only [hsame, ↓reduceIte]
      exact Safe.note_bind fun _ _ => Safe.done fun _ _ => trivial
    | false =>
      simp only [hsame, Bool.false_eq_true, ↓reduceIte]
      exact Safe.reject fun _ _ => trivial

theorem create_orderly {draft : PolicyDraft}
    (call : ⟨i, .began (.createPolicy draft correlation)⟩ ∈ past) :
    Orderly c i (create draft correlation) past := by
  unfold create
  refine Safe.ofExcept_bind ?_ fun _ _ _ _ => trivial
  intro _ hcheck
  have sound := PolicyDraft.objection?_of_check hcheck
  refine Safe.fresh_bind (fun _ => trivial) ?_
  intro pid l₁ hl₁ drawn
  refine Safe.now_bind (fun _ => trivial) ?_
  intro now l₂ hl₂ seen
  refine Safe.write_bind ?_ (fun _ => trivial) ?_ ?_ fun _ _ _ => trivial
  · intro l hl e he
    obtain rfl := Store.changes_insertPolicy _ he
    exact ⟨trivial, .filed (hl.mem (hl₂.mem (hl₁.mem call))) sound (hl.mem (hl₂.mem drawn))
      (hl.mem seen)⟩
  · intro l r _ _ _
    exact Safe.note_bind fun _ _ => Safe.done fun _ _ => trivial
  · intro l _
    refine Safe.bind recoverInsert_orderly (fun _ h => h) ?_ fun _ _ _ _ => trivial
    exact fun _ _ _ _ => Safe.note_bind fun _ _ => Safe.done fun _ _ => trivial

theorem get_orderly : Orderly c i (get id correlation) past := by
  unfold get
  refine Safe.read_bind (fun _ => rfl) (fun _ => trivial) ?_ fun _ _ _ => trivial
  intro l r _ _
  cases r with
  | none => exact Safe.reject fun _ _ => trivial
  | some P => exact Safe.done fun _ _ => trivial

theorem list_orderly {limit : Int} : Orderly c i (list limit correlation) past := by
  unfold list
  rw [← Program.bind_done (Service.store _ _)]
  refine Safe.read_bind (fun _ => rfl) (fun _ => trivial) ?_ fun _ _ _ => trivial
  exact fun _ _ _ _ => Safe.done fun _ _ => trivial

end Policies

/-- A computation with times ends a call or a step of it. -/
theorem Safe.timed {x : Except TimeFault α} : Orderly c i (Service.timed x) past := by
  cases x with
  | ok a => exact Safe.done fun _ _ => trivial
  | error e => exact Safe.fail fun _ _ => trivial

namespace Ledger

theorem get_orderly : Orderly c i (get id correlation) past := by
  unfold get
  refine Safe.load_bind (fun _ _ => trivial) ?_ fun _ _ _ => trivial
  intro l p _ _
  refine Safe.policy_bind (fun _ _ => trivial) ?_ fun _ _ _ => trivial
  intro l' P _ _
  exact Safe.now_bind (fun _ => trivial) fun _ _ _ _ => Safe.timed

theorem expire_orderly_of_isTerminal {n : Nat} (closed : p.status.isTerminal = true) :
    Orderly c i (expire n p correlation) past := by
  cases n with
  | zero => exact Safe.reject fun _ _ => trivial
  | succ n =>
    rw [expire, expireWithin, if_pos closed]
    exact Safe.done fun _ _ => trivial

theorem payload_orderly : Orderly c i (payload id correlation) past := by
  unfold payload
  refine Safe.load_bind (fun _ _ => trivial) ?_ fun _ _ _ => trivial
  exact fun _ _ _ _ => Safe.done fun _ _ => trivial

theorem viewsAt_orderly {now : Instant} {filter : Option Status} {known : List (Text × Policy)}
    {ps : List Proposal} : Orderly c i (viewsAt now filter correlation known ps) past := by
  induction ps generalizing known past with
  | nil => exact Safe.done fun _ _ => trivial
  | cons p rest ih =>
    have go : ∀ l P, Orderly c i (do
        let view ← Service.timed (p.viewAt P now)
        let views ← viewsAt now filter correlation ((p.policyId, P) :: known) rest
        return if wanted filter view then view :: views else views) l := by
      intro l P
      refine Safe.bind Safe.timed (fun _ h => h) ?_ fun _ _ _ _ => trivial
      intro view l' _ _
      refine Safe.bind ih (fun _ h => h) ?_ fun _ _ _ _ => trivial
      exact fun _ _ _ _ => Safe.done fun _ _ => trivial
    rw [viewsAt]
    cases hknown : known.lookup p.policyId with
    | some P => exact go past P
    | none =>
      refine Safe.policy_bind (fun _ _ => trivial) ?_ fun _ _ _ => trivial
      exact fun l P _ _ => go l P

theorem list_orderly {filter : Option Status} {limit : Int} :
    Orderly c i (list filter limit correlation) past := by
  unfold list
  refine Safe.read_bind (fun _ => rfl) (fun _ => trivial) ?_ fun _ _ _ => trivial
  intro l ps _ _
  refine Safe.now_bind (fun _ => trivial) ?_
  intro now l' _ _
  refine Safe.bind viewsAt_orderly (fun _ h => h) ?_ fun _ _ _ _ => trivial
  intro views l'' _ _
  refine Safe.bind Safe.timed (fun _ h => h) ?_ fun _ _ _ _ => trivial
  exact fun _ _ _ _ => Safe.done fun _ _ => trivial

end Ledger

theorem Queries.overview_orderly : Orderly c i (Queries.overview id correlation) past := by
  unfold Queries.overview
  refine Safe.bind Ledger.get_orderly (fun _ h => h) ?_ fun _ _ _ _ => trivial
  intro p l _ _
  refine Safe.policy_bind (fun _ _ => trivial) ?_ fun _ _ _ => trivial
  exact fun _ _ _ _ => Safe.done fun _ _ => trivial

/-! ## The sweeper -/

namespace Sweeper

theorem close_orderly {n : Nat} (known : p ∈ written past) : Orderly c i (close n p) past := by
  unfold close
  have tried : Safe c i (Event.Claims []) (fun _ _ => True) AnyFailure
      (Ledger.expire n p "").attempt past :=
    Safe.attempt (Ledger.expire_safe known) (fun _ _ _ _ => trivial) fun _ _ _ _ => trivial
  refine Safe.bind tried (fun _ _ => trivial) ?_ fun _ _ _ _ => trivial
  intro r l _ _
  cases r with
  | ok q => exact Safe.done fun _ _ => trivial
  | error e =>
    cases hbusy : e.isBusy with
    | true =>
      simp only [hbusy, ↓reduceIte]
      exact Safe.note_bind fun _ _ => Safe.done fun _ _ => trivial
    | false =>
      simp only [hbusy, Bool.false_eq_true, ↓reduceIte]
      exact Safe.fail fun _ _ => trivial

theorem closeAll_orderly {n closed : Nat} {now : Instant} {ps : List Proposal}
    (known : ∀ p ∈ ps, p ∈ written past) : Orderly c i (closeAll n now closed ps) past := by
  induction ps generalizing closed past with
  | nil => exact Safe.done fun _ _ => trivial
  | cons p rest ih =>
    have go : ∀ l, Within c i (fun _ => True) past l → ∀ closed, Orderly c i
        (closeAll n now closed rest) l := by
      intro l hl closed
      exact ih fun q hq => hl.mem_written (known q (List.mem_cons_of_mem p hq))
    rw [closeAll]
    refine Safe.ofExcept_bind ?_ fun _ _ _ _ => trivial
    intro expired _
    cases expired with
    | true =>
      refine Safe.bind (close_orderly (known p List.mem_cons_self)) (fun _ h => h) ?_
        fun _ _ _ _ => trivial
      exact fun done l hl _ => go l hl _
    | false => exact Safe.of_later fun l hl => go l (.of_later hl) _

theorem sweep_orderly {n : Nat} : Orderly c i (sweep n) past := by
  unfold sweep
  refine Safe.now_bind (fun _ => trivial) ?_
  intro now l _ _
  refine Safe.read_bind (fun _ => rfl) (fun _ => trivial) ?_ fun _ _ _ => trivial
  intro l' ps _ hps
  have known : ∀ p ∈ ps, p ∈ written l' :=
    fun p hp => mem_written_of_mem (Store.mem_of_listProposals hps hp)
  refine Safe.bind (closeAll_orderly known) (fun _ h => h) ?_ fun _ _ _ _ => trivial
  intro closed l'' _ _
  have done : ∀ l, Orderly c i (.done closed : Service Nat) l := fun _ _ _ => trivial
  by_cases hclosed : closed ≠ 0
  · rw [if_pos hclosed]
    exact Safe.note_bind fun l _ => done l
  · rw [if_neg hclosed]
    exact done l''

end Sweeper

/-! ## Every call -/

variable {rules : ExecutionRules}

theorem Call.keepsLaw (c : Conditions) (i : Nat) (call : Call) :
    KeepsLaw rules c i call (fun _ _ => True) AnyFailure := by
  intro past _ began unused ready
  cases call with
  | createPolicy draft correlation => exact Policies.create_orderly began
  | createProposal draft correlation => exact (Ledger.create_safe began).orderly
  | sign id request correlation => exact (Ledger.sign_safe began).orderly
  | execute id requested correlation => exact Executions.execute_safe began unused
  | expire p correlation =>
    rcases Bool.or_eq_true_iff.1 ready with closed | known
    · exact Ledger.expire_orderly_of_isTerminal closed
    · exact (Ledger.expire_safe (List.contains_iff_mem.1 known)).orderly
  | sweep => exact Sweeper.sweep_orderly
  | policy id correlation => exact Policies.get_orderly
  | policies limit correlation => exact Policies.list_orderly
  | proposal id correlation => exact Ledger.get_orderly
  | proposals filter limit correlation => exact Ledger.list_orderly
  | payload id correlation => exact Ledger.payload_orderly
  | overview id correlation => exact Queries.overview_orderly

variable {w : World}

theorem Reachable.always (h : Reachable rules c w) :
    Sound c (fun _ _ _ _ => True) (fun _ _ => AnyFailure) w := h.sound (Call.keepsLaw c)

theorem Reachable.lawful (h : Reachable rules c w) : Lawful c w.chronicle := h.always.lawful

theorem Reachable.store_eq (h : Reachable rules c w) : w.store = replay c.founding w.chronicle :=
  h.always.store_eq

/-- A call that has not begun has done nothing. -/
theorem Reachable.not_mem_of_le (h : Reachable rules c w) {i : Nat} (hi : w.tasks.length ≤ i)
    (e : Event) : ⟨i, e⟩ ∉ w.chronicle :=
  fun he => Nat.lt_irrefl _ (Nat.lt_of_lt_of_le (h.always.owners i e he) hi)

end QuorumGate
