import QuorumGate.Proofs.Concurrency.Ledger

/-!
# Executions keep the law

An execution id belongs to the call that drew it. A record that bears the id was therefore left by
that call, as it claimed the record or as it recorded the outcome, and the call alone may deploy. It
deploys once, after its claim.
-/

namespace QuorumGate.Executions

variable {c : Conditions} {past : Chronicle} {i : Nat} {may : Event → Prop}
  {p : Proposal} {id e correlation : Text} {xs : List Execution}

theorem of_evaluate_eq_approved {policy : Policy} {t : Instant}
    (h : p.evaluate policy t = .ok .approved) :
    p.status.isTerminal = false ∧ p.isExpired t = .ok false ∧
      policy.threshold ≤ p.signatures.length := by
  unfold Proposal.evaluate at h
  cases hopen : p.status.isTerminal with
  | true =>
    rw [hopen, if_pos rfl] at h
    have hs : p.status = .approved := Except.ok.inj h
    simp [hs, Status.isTerminal] at hopen
  | false =>
    rw [hopen, if_neg (by simp)] at h
    cases hexpired : p.isExpired t with
    | error f => rw [hexpired] at h; cases h
    | ok expired =>
      rw [hexpired] at h
      have hs := Except.ok.inj h
      cases expired with
      | true => cases hs
      | false =>
        refine ⟨rfl, rfl, ?_⟩
        by_cases hq : policy.threshold ≤ p.signatures.length
        · exact hq
        · simp [Proposal.quorumStatus, hq] at hs

theorem checkExecutable_safe {n : Nat} {policy : Policy} (known : p ∈ written past) :
    Safe c i (Event.Claims [])
      (fun _ l => p.status.isTerminal = false ∧ policy.threshold ≤ p.signatures.length ∧
        ∃ t, ⟨i, .saw t⟩ ∈ l ∧ p.isExpired t = .ok false)
      AnyFailure (checkExecutable n policy p correlation) past := by
  unfold checkExecutable
  by_cases executed : p.status = .executed
  · simp only [executed, ↓reduceIte]
    exact Safe.reject_bind fun _ _ => trivial
  simp only [executed, ↓reduceIte]
  refine Safe.now_bind (fun _ => trivial) ?_
  intro t l hl seen
  refine Safe.ofExcept_bind ?_ fun _ _ _ _ => trivial
  intro current hcurrent
  cases current with
  | expired => exact Ledger.expire_then_reject (hl.mem_written known) fun _ h => h
  | approved =>
    obtain ⟨hopen, in_window, quorum⟩ := of_evaluate_eq_approved hcurrent
    exact Safe.done fun l' hl' => ⟨hopen, quorum, t, hl'.mem seen, in_window⟩
  | pending => exact Safe.reject_bind fun _ _ => trivial
  | executed => exact Safe.reject_bind fun _ _ => trivial

/-- A call that has claimed a record, with its copy of it: all versions that bear the execution id
are among the given ones. -/
structure Holds (c : Conditions) (i : Nat) (e : Text) (xs : List Execution) (p : Proposal)
    (past : Chronicle) : Prop where
  known : p ∈ written past
  executed : p.status = .executed
  held : ∃ x ∈ xs, p.execution = some x ∧ x.id = e
  drawn : ⟨i, .drew .execution e⟩ ∈ past
  own : ∀ event, ⟨i, event⟩ ∈ past → event.Bears xs

namespace Holds

theorem of_execution (h : Lawful c past) (known : p ∈ written past) {x : Execution}
    (hx : p.execution = some x) (hid : x.id = e) (drawn : ⟨i, .drew .execution e⟩ ∈ past)
    (own : ∀ event, ⟨i, event⟩ ∈ past → event.Bears xs) : Holds c i e xs p past := by
  refine ⟨known, (h.executed_iff known).2 ⟨x, hx⟩, ⟨x, ?_, hx, hid⟩, drawn, own⟩
  exact h.execution_mem (hid ▸ drawn) own known hx

theorem within {after : Chronicle} (h : Holds c i e xs p past) (hl : Within c i may past after)
    (hm : ∀ event, may event → event.Bears xs) : Holds c i e xs p after :=
  ⟨hl.mem_written h.known, h.executed, h.held, hl.mem h.drawn, hl.own hm h.own⟩

/-- A claim is never lost: the stored record bears the id of the execution. -/
theorem reload {q : Proposal} (h : Holds c i e xs p past) (hlaw : Lawful c past)
    (hq : (replay c.founding past).proposal? p.id = some q) : Holds c i e xs q past := by
  obtain ⟨r, hr, hd⟩ := hlaw.descends h.known
  rw [hq] at hr
  cases hr
  obtain ⟨x, -, hx, hid⟩ := h.held
  obtain ⟨-, -, -, hy⟩ := hd.executed h.executed
  rw [hx] at hy
  obtain ⟨y, hy, hyx⟩ := Option.map_eq_some_iff.1 hy
  exact .of_execution hlaw (mem_written_of_proposal? hq) hy (hyx.trans hid) h.drawn h.own

/-- All versions that bear the execution bear the time of its claim. -/
theorem executedAt_eq {q : Proposal} (h : Holds c i e xs p past) (hlaw : Lawful c past)
    (hq : (replay c.founding past).proposal? p.id = some q) : q.executedAt = p.executedAt := by
  obtain ⟨r, hr, hd⟩ := hlaw.descends h.known
  rw [hq] at hr
  cases hr
  exact (hd.executed h.executed).2.2.1

theorem mono {ys : List Execution} (h : Holds c i e xs p past) (hs : xs ⊆ ys) :
    Holds c i e ys p past := by
  obtain ⟨x, hx, hp⟩ := h.held
  exact ⟨h.known, h.executed, ⟨x, hs hx, hp⟩, h.drawn, fun event he => (h.own event he).mono hs⟩

end Holds

namespace Claim

variable {g : Claim}

/-- What a call that wants to claim knows of the copy that it works on. -/
structure Started (c : Conditions) (g : Claim) (i : Nat) (p : Proposal) (past : Chronicle) :
    Prop extends Copy c g.proposal g.policy p past where
  call : ∃ requested correlation, ⟨i, .began (.execute g.proposal requested correlation)⟩ ∈ past
  drawn : ⟨i, .drew .execution g.execution⟩ ∈ past
  own : ∀ event, ⟨i, event⟩ ∈ past → event.Bears [.started g.execution]

namespace Started

theorem within {after : Chronicle} (h : g.Started c i p past) (hl : Within c i may past after)
    (hm : ∀ event, may event → event.Bears [.started g.execution]) : g.Started c i p after where
  toCopy := h.toCopy.within hl
  call := by
    obtain ⟨requested, correlation, hb⟩ := h.call
    exact ⟨requested, correlation, hl.mem hb⟩
  drawn := hl.mem h.drawn
  own := hl.own hm h.own

theorem reload {q : Proposal} (h : g.Started c i p past) (hlaw : Lawful c past)
    (hq : (replay c.founding past).proposal? g.proposal = some q) : g.Started c i q past :=
  ⟨h.toCopy.reload hlaw hq, h.call, h.drawn, h.own⟩

theorem change {t now : Instant} (h : g.Started c i p past)
    (hopen : p.status.isTerminal = false) (quorum : g.policy.threshold ≤ p.signatures.length)
    (seen : ⟨i, .saw t⟩ ∈ past) (in_window : p.isExpired t = .ok false)
    (stamped : Looked past i p now) :
    Change c past i p (Store.committed (p.claim g.execution now) p.version) := by
  obtain ⟨requested, correlation, hb⟩ := h.call
  rw [← h.id_eq] at hb
  exact .claimed hb h.policy_eq hopen quorum h.drawn seen in_window stamped

end Started

theorem within_safe {n : Nat} (h : g.Started c i p past) :
    Safe c i (Event.Claims [.started g.execution])
      (fun q l => Holds c i g.execution [.started g.execution] q l ∧ q.id = g.proposal)
      AnyFailure (g.within n p) past := by
  have bears : ∀ event, Event.Claims [.started g.execution] event →
      event.Bears [.started g.execution] := fun _ => Event.Claims.bears
  induction n generalizing p past with
  | zero => exact Safe.reject fun _ _ => trivial
  | succ n ih =>
    rw [within]
    refine Safe.bind (checkExecutable_safe h.known)
      (fun _ => Event.Claims.mono (List.nil_subset _)) ?_ fun _ _ _ _ => trivial
    rintro _ l₁ hl₁ ⟨hopen, quorum, t, seen, in_window⟩
    have h₁ := h.within hl₁ fun _ hm => (hm.mono (List.nil_subset _)).bears
    refine Safe.stamp_bind h₁.known (fun _ => trivial) ?_
    intro now l₂ hl₂ stamped
    have h₂ := h₁.within hl₂ bears
    refine Safe.update_bind h₂.known rfl ?_ ?_ (fun _ _ => trivial) ?_ ?_ fun _ _ _ => trivial
    · intro l hl _
      exact (h₂.within hl fun _ => False.elim).change hopen quorum (hl.mem (hl₂.mem seen))
        in_window (hl.looked stamped)
    · intro x hx
      cases hx
      exact List.mem_singleton.2 rfl
    · intro l hl hw
      refine Safe.done fun m hm => ⟨?_, h₂.id_eq⟩
      have h₃ := (h₂.within hl bears).within hm fun _ => False.elim
      exact .of_execution hm.lawful (mem_written.2 ⟨i, _, hm.mem hw⟩) rfl rfl h₃.drawn h₃.own
    · intro l₃ hl₃
      refine Safe.load_bind (fun _ _ => trivial) ?_ fun _ _ _ => trivial
      intro l₄ q hl₄ hq
      have h₄ := ((h₂.within hl₃ bears).within hl₄ fun _ => False.elim).reload hl₄.lawful hq
      cases hclaimed : q.isClaimedBy g.execution with
      | true =>
        refine Safe.done fun m hm => ⟨?_, h₄.id_eq⟩
        have h₅ := h₄.within hm fun _ => False.elim
        unfold Proposal.isClaimedBy at hclaimed
        split at hclaimed
        · rename_i x hx
          exact .of_execution hm.lawful h₅.known hx (by simpa using hclaimed) h₅.drawn h₅.own
        · cases hclaimed
      | false =>
        refine Safe.note_bind ?_
        intro l₅ hl₅
        exact ih (h₄.within hl₅ fun _ => False.elim)

end Claim

theorem claim_safe {n : Nat} {requested : Option Number} {asked : Text}
    (call : ⟨i, .began (.execute id requested asked)⟩ ∈ past)
    (drawn : ⟨i, .drew .execution e⟩ ∈ past)
    (own : ∀ event, ⟨i, event⟩ ∈ past → event.Bears [.started e]) :
    Safe c i (Event.Claims [.started e]) (fun q l => Holds c i e [.started e] q l ∧ q.id = id)
      AnyFailure (claim n id e correlation) past := by
  unfold claim
  refine Safe.load_bind (fun _ _ => trivial) ?_ fun _ _ _ => trivial
  intro l₁ p hl₁ hp
  refine Safe.policy_bind (fun _ _ => trivial) ?_ fun _ _ _ => trivial
  intro l₂ policy hl₂ hpolicy
  have hl := hl₁.trans hl₂
  have started : Claim.Started c ⟨id, e, policy, n, correlation⟩ i p l₂ :=
    ⟨.of_stored hp hl₂ hpolicy, ⟨requested, asked, hl.mem call⟩, hl.mem drawn,
      hl.own (fun _ => False.elim) own⟩
  exact Claim.within_safe started

/-! ## The deployment and its outcome -/

theorem Holds.due {requested : Option Number} {asked : Text} (h : Holds c i e xs p past)
    (hlaw : Lawful c past) (call : ⟨i, .began (.execute p.id requested asked)⟩ ∈ past)
    (first : ∀ o landing, ⟨i, .deployed o landing⟩ ∉ past) :
    Due c past i (order p correlation) := by
  obtain ⟨q, hq, hd⟩ := hlaw.descends h.known
  have h' := h.reload hlaw hq
  obtain ⟨x, -, hx, hid⟩ := h'.held
  have same : order p correlation = order q correlation := by
    have horder : ∀ r : Proposal, order r correlation = order r.origin correlation := fun _ => rfl
    rw [horder p, horder q, hd.origin]
  have hqid := Store.id_eq_of_proposal? hq
  rw [← hqid] at call hq
  rw [same]
  exact .due call hq h'.executed hx (hid ▸ h.drawn) first

/-- The deployer is asked, or there is no time to ask. -/
theorem callDeployer_cases {α : Type} {o : Order} {limit : Number} {k : Landing → Service α}
    {ok : α → Chronicle → Prop} {bad : Failure → Chronicle → Prop}
    (hm : ∀ landing, may (.deployed o landing)) (due : ∀ l, Later c i past l → Due c l i o)
    (unasked : limit.atMostZero = true → Safe c i may ok bad (k .timedOut) past)
    (asked : limit.atMostZero = false → ∀ landing l, Later c i past l →
      Lawful c (⟨i, .deployed o landing⟩ :: l) →
      Safe c i may ok bad (k landing) (⟨i, .deployed o landing⟩ :: l)) :
    Safe c i may ok bad (callDeployer o limit >>= k) past := by
  unfold callDeployer
  cases hlimit : limit.atMostZero with
  | true => exact unasked hlimit
  | false =>
    intro l hl clock hclock choice a hc ha
    cases comesTo ha with
    | @landed _ _ landing =>
      have hlaw : Lawful c (⟨i, .deployed o landing⟩ :: l) := ⟨hl.lawful, due l hl⟩
      exact ⟨by simpa using hm landing, hlaw, asked hlimit landing l hl hlaw⟩

theorem callDeployer_bind {α : Type} {o : Order} {limit : Number} {k : Landing → Service α}
    {ok : α → Chronicle → Prop} {bad : Failure → Chronicle → Prop}
    (hm : ∀ landing, may (.deployed o landing)) (due : ∀ l, Later c i past l → Due c l i o)
    (hk : ∀ landing l, Within c i may past l → Safe c i may ok bad (k landing) l) :
    Safe c i may ok bad (callDeployer o limit >>= k) past := by
  refine callDeployer_cases hm due ?_ ?_
  · exact fun _ => Safe.of_later fun l hl => hk .timedOut l (.of_later hl)
  · exact fun _ landing l hl hlaw => hk landing _ ((Within.of_later hl).cons hlaw (hm landing))

theorem noteLanding_bind {α : Type} {limit : Number} {landing : Landing} {k : Unit → Service α}
    {ok : α → Chronicle → Prop} {bad : Failure → Chronicle → Prop}
    (hk : ∀ l, Later c i past l → Safe c i may ok bad (k ()) l) :
    Safe c i may ok bad (noteLanding id limit landing >>= k) past := by
  cases landing with
  | reported r => exact Safe.of_later hk
  | raised label message => exact Safe.note_bind hk
  | timedOut => exact Safe.note_bind hk

@[simp] theorem finished_id (e : Text) (limit : Number) (landing : Landing) (now : Instant) :
    (finished e limit landing now).id = e := by
  cases landing <;> rfl

theorem outcome_ne_inFlight (e : Text) (limit : Number) (landing : Landing) (now : Instant) :
    (finished e limit landing now).outcome ≠ .inFlight := by
  cases landing with
  | reported r =>
    obtain ⟨succeeded, indeterminate, reference, detail⟩ := r
    cases succeeded <;> cases indeterminate <;> simp [finished, Report.outcome]
  | raised label message => simp [finished]
  | timedOut => simp [finished]

theorem finished_after {limit : Number} {landing : Landing} {now : Instant}
    (h : Looked past i p now) : (finished e limit landing now).FinishedAfter past i p := by
  intro t ht
  have finishedAt : (finished e limit landing now).finishedAt = some now := by
    cases landing <;> rfl
  rw [finishedAt] at ht
  cases ht
  exact ⟨p, rfl, h⟩

theorem deploy_safe {limit : Number} (known : p ∈ written past)
    (due : ∀ l, Later c i past l → Due c l i (order p correlation)) :
    Safe c i (Event.Bears [])
      (fun x l => x.id = e ∧ x.outcome ≠ .inFlight ∧ x.FinishedAfter l i p) AnyFailure
      (deploy p e limit correlation) past := by
  unfold deploy
  refine callDeployer_bind (fun _ => trivial) due ?_
  intro landing l₁ hl₁
  refine noteLanding_bind ?_
  intro l₂ hl₂
  refine Safe.stamp_bind (hl₂.mem_written (hl₁.mem_written known)) (fun _ => trivial) ?_
  intro now l₃ hl₃ stamped
  exact Safe.done fun l hl => ⟨finished_id e limit landing now,
    outcome_ne_inFlight e limit landing now, finished_after (hl.looked stamped)⟩

/-- The holder of a claim may write down how its execution went. -/
theorem Holds.recording {l : Chronicle} {x : Execution} (h : Holds c i e [.started e, x] p past)
    (hl : Later c i past l) (hx : x.id = e) (final : x.outcome ≠ .inFlight)
    (stamped : x.FinishedAfter past i p) :
    Change c l i p (Store.committed (p.withExecution x) p.version) := by
  obtain ⟨y, hy, hp, -⟩ := h.held
  refine .recorded h.executed hp ?_ final (hx ▸ hl.mem h.drawn) (stamped.later hl.suffix rfl)
  rcases List.mem_cons.1 hy with rfl | hy
  · exact .inr (by rw [hx])
  · exact .inl (List.mem_singleton.1 hy)

theorem recordWithin_safe {n : Nat} {x : Execution} (h : Holds c i e [.started e, x] p past)
    (hid : p.id = id) (hx : x.id = e) (final : x.outcome ≠ .inFlight)
    (stamped : x.FinishedAfter past i p) :
    Safe c i (Event.Bears [.started e, x])
      (fun q l => q ∈ written l ∧ q.id = id ∧ q.execution = some x) AnyFailure
      (recordWithin id x correlation n p) past := by
  induction n generalizing p past with
  | zero => exact Safe.reject fun _ _ => trivial
  | succ n ih =>
    rw [recordWithin]
    refine Safe.update_bind h.known rfl ?_ ?_ (fun _ _ => trivial) ?_ ?_ fun _ _ _ => trivial
    · exact fun l hl _ => h.recording hl hx final stamped
    · intro y hy
      cases hy
      exact List.mem_cons_of_mem _ (List.mem_singleton.2 rfl)
    · intro l hl hw
      refine Safe.note_bind ?_
      intro l' hl'
      refine Safe.done fun m hm => ⟨?_, hid, rfl⟩
      exact mem_written.2 ⟨i, _, hm.mem (hl'.mem hw)⟩
    · intro l₁ hl₁
      refine Safe.load_bind (fun _ _ => trivial) ?_ fun _ _ _ => trivial
      intro l₂ q hl₂ hq
      have h₂ := (h.within hl₁ fun _ hm => hm).within hl₂ fun _ => False.elim
      have hqid := Store.id_eq_of_proposal? hq
      rw [← hid] at hq
      exact ih (h₂.reload hl₂.lawful hq) hqid
        (stamped.later (hl₁.suffix.trans hl₂.suffix) (h₂.executedAt_eq hl₂.lawful hq))

theorem execute_safe {rules : ExecutionRules} {requested : Option Number}
    (call : ⟨i, .began (.execute id requested correlation)⟩ ∈ past)
    (unused : ∀ event, ⟨i, event⟩ ∈ past → event = .began (.execute id requested correlation)) :
    Safe c i (fun _ => True) (fun _ _ => True) AnyFailure
      (execute rules id requested correlation) past := by
  have claims : ∀ xs event, ⟨i, event⟩ ∈ past → Event.Claims xs event := by
    intro xs event he
    rw [unused event he]
    trivial
  unfold execute
  refine Safe.bind Safe.fresh (fun _ _ => trivial) ?_ fun _ _ _ _ => trivial
  intro e l₁ hl₁ drawn
  have draws : ∀ event, (∃ x, event = Event.drew .execution x) → event.Claims [.started e] := by
    rintro _ ⟨x, rfl⟩
    trivial
  have own₁ := hl₁.own draws (claims _)
  refine Safe.bind (claim_safe (hl₁.mem call) drawn fun event he => (own₁ event he).bears)
    (fun _ _ => trivial) ?_ fun _ _ _ _ => trivial
  rintro p l₂ hl₂ ⟨h₂, rfl⟩
  have own₂ := hl₂.own (fun _ hm => hm) own₁
  refine Safe.note_bind ?_
  intro l₃ hl₃
  have h₃ := h₂.within hl₃ fun _ => False.elim
  have own₃ := hl₃.own (fun _ => False.elim) own₂
  refine Safe.bind (deploy_safe h₃.known ?_) (fun _ _ => trivial) ?_ fun _ _ _ _ => trivial
  · intro l hl
    refine (h₃.within hl fun _ => False.elim).due hl.lawful
      (hl.mem (hl₃.mem (hl₂.mem (hl₁.mem call)))) ?_
    exact fun o landing he => hl.own (fun _ => False.elim) own₃ _ he
  · rintro x l₄ hl₄ ⟨hx, final, stamped⟩
    have h₄ := (h₃.within hl₄ fun _ => Event.Bears.mono (List.nil_subset _)).mono
      (List.subset_append_left [.started e] [x])
    refine Safe.bind (recordWithin_safe h₄ rfl hx final stamped) (fun _ _ => trivial) ?_
      fun _ _ _ _ => trivial
    intro stored l₅ hl₅ _
    cases hf : x.outcome.isFailure with
    | true =>
      rw [if_pos rfl]
      exact Safe.reject_bind fun _ _ => trivial
    | false =>
      rw [if_neg (by simp)]
      exact Safe.done fun _ _ => trivial

end QuorumGate.Executions
