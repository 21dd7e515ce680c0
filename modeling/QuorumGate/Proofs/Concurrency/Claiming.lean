import QuorumGate.Proofs.Concurrency.Recording

/-!
# What a claim comes to

A call that wants to execute a proposal either has its claim committed and knows it, or it is turned
away and has left no claim behind: after every conflict it looks for its own execution id in the
record.
-/

namespace QuorumGate

variable {c : Conditions} {base past news l : Chronicle} {i j n attempts : Nat}
  {may : Event → Prop}
  {p q : Proposal} {id e correlation : Text} {f : Failure}

namespace Event

def isConflict : Event → Bool
  | failed _ e => e.isConflict
  | _ => false

end Event

/-- How many conflicts have been reported to a call. -/
def conflicts (past : Chronicle) (i : Nat) : Nat :=
  past.countP fun e => e.task == i && e.event.isConflict

theorem conflicts_append : conflicts (news ++ past) i = conflicts news i + conflicts past i :=
  List.countP_append

theorem conflicts_cons_of_not {event : Event} (h : event.isConflict = false) :
    conflicts (⟨j, event⟩ :: past) i = conflicts past i := by
  simp [conflicts, h]

theorem conflicts_failed {op : StoreOp} (h : f.isConflict = true) :
    conflicts (⟨i, .failed op f⟩ :: past) i = conflicts past i + 1 := by
  simp [conflicts, Event.isConflict, h]

theorem conflicts_eq_zero (h : ∀ event, ⟨i, event⟩ ∈ past → event.isConflict = false) :
    conflicts past i = 0 := by
  refine List.countP_eq_zero.2 fun event he => ?_
  intro hi
  rw [Bool.and_eq_true, beq_iff_eq] at hi
  rw [h event.event (hi.1 ▸ he)] at hi
  cases hi.2

theorem Within.conflicts_eq (h : Later c i past l) : conflicts l i = conflicts past i := by
  obtain ⟨-, news, rfl, hn⟩ := h
  rw [conflicts_append, conflicts_eq_zero fun event he => (hn event he).elim, Nat.zero_add]

/-- A version that is no older than a part of the chronicle. -/
def Recent (base : Chronicle) (id : Text) (p : Proposal) : Prop :=
  ∀ r ∈ versions base id, Descends r p

theorem Recent.of_stored (hb : base <:+ past) (hl : Lawful c past) (hp : Stored c past id p) :
    Recent base id p := by
  intro r hr
  obtain ⟨q, hq, hd⟩ := hl.stored_version (versions_suffix hb hr)
  rw [Stored, hp] at hq
  cases hq
  exact hd

/-- A version that is stored has been stored ever since it was committed. -/
theorem Lawful.stored_before (h : Lawful c l) (hs : past <:+ l) (known : p ∈ versions past id)
    (hp : Stored c l id p) : Stored c past id p := by
  obtain ⟨q, hq, hd⟩ := (h.of_suffix hs).stored_version known
  have back := (Recent.of_stored hs h hp q (mem_versions_of_stored hq)).version_le
  have forth := hd.version_le
  rwa [hd.eq_of_version (by omega)] at hq

theorem Recent.trans (h : Recent base id p) (hd : Descends p q) : Recent base id q :=
  fun r hr => (h r hr).trans hd

/-- Why a call to execute is turned away, by what it has come to know. -/
inductive ClaimRefused (c : Conditions) (base : Chronicle) (attempts : Nat) (id : Text) (i : Nat)
    (past : Chronicle) : Failure → Prop where
  | missing (unknown : versions base id = []) :
      ClaimRefused c base attempts id i past (.rejected (.noProposal id))
  | executed {p : Proposal} (known : p ∈ versions past id) (executed : p.status = .executed) :
      ClaimRefused c base attempts id i past (.rejected (.executedBefore id p.executedAt))
  | late {p : Proposal} {j : Nat} {f : Failure} (known : p ∈ versions past id)
      (late : SeenLate past j p) (seer : p.status = .expired ∨ j = i)
      (turned : TurnedAway c id (.windowClosed id p.expiresAt) f past) :
      ClaimRefused c base attempts id i past f
  | incomparable {p : Proposal} {t : Instant} {f : TimeFault} (known : p ∈ versions past id)
      (seen : ⟨i, .saw t⟩ ∈ past) (fault : p.isExpired t = .error f) :
      ClaimRefused c base attempts id i past (.time f)
  | short {p : Proposal} {P : Policy} (known : p ∈ versions past id) (recent : Recent base id p)
      (policy_eq : (replay c.founding past).policy? p.policyId = some P)
      (short : p.signatures.length < P.threshold) :
      ClaimRefused c base attempts id i past
        (.rejected (.quorumMissing id p.signatures.length P.threshold))
  | outpaced (spent : c.Faithful → attempts ≠ 0 → ∃ b ∈ versions past id,
        b.status.isTerminal = false ∧
          ∀ r ∈ versions base id, r.version + attempts ≤ b.version + 1) :
      ClaimRefused c base attempts id i past (.rejected (.busy id .claim))

/-- A call has left no record with an execution of its own, and has deployed nothing. -/
def Unclaimed (past : Chronicle) (i : Nat) : Prop := ∀ event, ⟨i, event⟩ ∈ past → event.Claims []

theorem Unclaimed.within (h : Unclaimed past i) (hl : Within c i may past l)
    (hm : ∀ event, may event → event.Claims []) : Unclaimed l i := hl.own hm h

/-- What is left behind by a call to execute that is turned away before it has claimed. -/
structure NotClaimed (c : Conditions) (base : Chronicle) (attempts : Nat) (id : Text) (i : Nat)
    (f : Failure) (past : Chronicle) : Prop where
  reason : ClaimRefused c base attempts id i past f
  trace : Unclaimed past i

/-- The claim of a call has been committed. -/
def ClaimLanded (past : Chronicle) (i : Nat) (id e : Text) : Prop :=
  ∃ b t, b.id = id ∧ ⟨i, .wrote (some b) (Store.committed (b.claim e t) b.version)⟩ ∈ past

theorem ClaimLanded.within (h : ClaimLanded past i id e) (hl : Within c i may past l) :
    ClaimLanded l i id e := by
  obtain ⟨b, t, hid, hw⟩ := h
  exact ⟨b, t, hid, hl.mem hw⟩

namespace Executions

variable {P : Policy} {t : Instant}

theorem evaluate_cases {s : Status} (h : p.evaluate P t = .ok s) :
    p.status.isTerminal = true ∧ s = p.status ∨
      p.status.isTerminal = false ∧ p.isExpired t = .ok true ∧ s = .expired ∨
      p.status.isTerminal = false ∧ p.isExpired t = .ok false ∧ s = p.quorumStatus P := by
  cases hopen : p.status.isTerminal with
  | true =>
    rw [Proposal.evaluate, hopen, if_pos rfl] at h
    exact .inl ⟨rfl, (Except.ok.inj h).symm⟩
  | false =>
    rw [Proposal.evaluate_of_open hopen] at h
    obtain ⟨expired, hexpired, rfl⟩ := Except.map_eq_ok h
    cases expired with
    | true => exact .inr (.inl ⟨rfl, hexpired, rfl⟩)
    | false => exact .inr (.inr ⟨rfl, hexpired, rfl⟩)

theorem isExpired_of_evaluate_eq_error {g : TimeFault} (h : p.evaluate P t = .error g) :
    p.isExpired t = .error g := by
  cases hopen : p.status.isTerminal with
  | true =>
    rw [Proposal.evaluate, hopen, if_pos rfl] at h
    cases h
  | false =>
    rw [Proposal.evaluate_of_open hopen] at h
    exact Except.map_eq_error h

/-- What reads as expired has been seen late, by this call or by the one that wrote it down. -/
theorem late_of_evaluate (hlaw : Lawful c past) (known : p ∈ written past)
    (seen : ⟨i, .saw t⟩ ∈ past) (h : p.evaluate P t = .ok .expired) :
    ∃ j, SeenLate past j p ∧ (p.status = .expired ∨ j = i) := by
  rcases evaluate_cases h with ⟨-, hs⟩ | ⟨-, late, -⟩ | ⟨-, -, hs⟩
  · obtain ⟨j, late⟩ := hlaw.expired_seen known hs.symm
    exact ⟨j, late, .inl hs.symm⟩
  · exact ⟨i, ⟨t, seen, late⟩, .inr rfl⟩
  · exact absurd hs.symm (Status.ne_of_isTerminal (Proposal.isTerminal_quorumStatus P p) rfl)

theorem executed_of_evaluate (h : p.evaluate P t = .ok .executed) : p.status = .executed := by
  rcases evaluate_cases h with ⟨-, hs⟩ | ⟨-, -, hs⟩ | ⟨-, -, hs⟩
  · exact hs.symm
  · cases hs
  · exact absurd hs.symm (Status.ne_of_isTerminal (Proposal.isTerminal_quorumStatus P p) rfl)

theorem short_of_evaluate (h : p.evaluate P t = .ok .pending) :
    p.signatures.length < P.threshold := by
  rcases evaluate_cases h with ⟨terminal, hs⟩ | ⟨-, -, hs⟩ | ⟨-, -, hs⟩
  · rw [← hs] at terminal
    cases terminal
  · cases hs
  · rw [Proposal.quorumStatus] at hs
    split at hs
    · cases hs
    · omega

theorem checkExecutable_reasons (hc : c.Dependable) (known : p ∈ versions past id)
    (recent : Recent base id p)
    (policy_eq : (replay c.founding past).policy? p.policyId = some P) :
    Safe c i Event.Incidental
      (fun _ l => p.status.isTerminal = false ∧ P.threshold ≤ p.signatures.length ∧
        conflicts l i = conflicts past i ∧ ∃ t, ⟨i, .saw t⟩ ∈ l ∧ p.isExpired t = .ok false)
      (fun f l => ClaimRefused c base attempts id i l f) (checkExecutable n P p correlation)
      past := by
  have hid : p.id = id := (mem_versions.1 known).2
  unfold checkExecutable
  by_cases executed : p.status = .executed
  · simp only [executed, ↓reduceIte]
    refine Safe.reject_bind fun l hl => ?_
    rw [hid]
    exact .executed (hl.mem_versions known) executed
  simp only [executed, ↓reduceIte]
  refine Safe.saw_bind (fun _ => trivial) ?_
  intro t l hl hlaw
  have w : Within c i (fun _ => True) past (⟨i, .saw t⟩ :: l) :=
    (Within.of_later hl).cons hlaw trivial
  have known' := w.mem_versions known
  have seen : ⟨i, .saw t⟩ ∈ ⟨i, .saw t⟩ :: l := List.mem_cons_self
  refine Safe.ofExcept_bind ?_ fun g l' hg hl' =>
    .incomparable (hl'.mem_versions known') (hl'.mem seen) (isExpired_of_evaluate_eq_error hg)
  intro current hcurrent
  cases current with
  | expired =>
    obtain ⟨j, late, seer⟩ := late_of_evaluate hlaw (mem_versions.1 known').1 seen hcurrent
    refine Ledger.expire_turns_away hc (mem_versions.1 known').1 late (fun _ h => h) ?_
    intro f l' hl' turned
    rw [hid] at turned
    exact .late (hl'.mem_versions known') (late.within hl') seer turned
  | approved =>
    obtain ⟨hopen, in_window, quorum⟩ := of_evaluate_eq_approved hcurrent
    refine Safe.done fun l' hl' => ⟨hopen, quorum, ?_, t, hl'.mem seen, in_window⟩
    rw [hl'.conflicts_eq, conflicts_cons_of_not rfl, hl.conflicts_eq]
  | pending =>
    refine Safe.reject_bind fun l' hl' => ?_
    rw [hid]
    exact .short (hl'.mem_versions known') recent (hl'.policy (w.policy policy_eq))
      (short_of_evaluate hcurrent)
  | executed => exact absurd (executed_of_evaluate hcurrent) executed

/-- A call that has its claim committed, with the record that bears it. -/
structure Claimed (c : Conditions) (id e : Text) (i : Nat) (p : Proposal) (past : Chronicle) :
    Prop extends Holds c i e [.started e] p past where
  id_eq : p.id = id
  landed : ClaimLanded past i id e

theorem isClaimedBy_iff : p.isClaimedBy e = true ↔ ∃ x, p.execution = some x ∧ x.id = e := by
  unfold Proposal.isClaimedBy
  cases p.execution <;> simp

namespace Claimed

theorem within (h : Claimed c id e i p past)
    (hl : Within c i (Event.Claims [.started e]) past l) : Claimed c id e i p l :=
  ⟨h.toHolds.within hl fun _ => Event.Claims.bears, h.id_eq, h.landed.within hl⟩

theorem reload (h : Claimed c id e i p past) (hlaw : Lawful c past) (hq : Stored c past id q) :
    Claimed c id e i q past :=
  ⟨h.toHolds.reload hlaw (h.id_eq.symm ▸ hq), Store.id_eq_of_proposal? hq, h.landed⟩

theorem isClaimedBy (h : Claimed c id e i p past) : p.isClaimedBy e = true := by
  obtain ⟨x, -, hx, hid⟩ := h.held
  exact isClaimedBy_iff.2 ⟨x, hx, hid⟩

end Claimed

/-- A record that a call has claimed stays as it is until this call writes to it. -/
theorem Holds.stored_within {xs : List Execution} (h : Holds c i e xs p past)
    (stored : Stored c past id p) (hl : Within c i (Event.Bears []) past l) : Stored c l id p := by
  obtain ⟨hlaw, news, rfl, hn⟩ := hl
  induction news with
  | nil => exact stored
  | cons entry news ih =>
    have kept : Stored c (news ++ past) id p :=
      ih (fun event he => hn event (List.mem_cons_of_mem entry he)) hlaw.1
    obtain ⟨j, event⟩ := entry
    cases event with
    | wrote b new =>
      rw [List.cons_append] at hlaw ⊢
      rw [Stored, hlaw.proposal?_wrote]
      by_cases hid : new.id = id
      · -- Only the holder of the execution could have written, and has not.
        exfalso
        cases b with
        | none =>
          have absent := hlaw.2.1
          rw [hid, kept] at absent
          cases absent
        | some old =>
          obtain ⟨hold, hc⟩ := hlaw.2
          rw [hid, kept] at hold
          cases hold
          obtain ⟨y, -, hy, rfl⟩ := h.held
          obtain ⟨x, hx, same⟩ : ∃ x, new.execution = some x ∧ x.id = y.id := by
            have ids := (hc.descends.executed h.executed).2.2.2
            rw [hy] at ids
            exact Option.map_eq_some_iff.1 ids
          have mine : ⟨j, .drew .execution y.id⟩ ∈ news ++ past := by
            have put := hlaw.holder List.mem_cons_self hx
            rw [same] at put
            rcases List.mem_cons.1 put with put | put
            · cases put
            · exact put
          obtain rfl := hlaw.1.drew_unique mine (List.mem_append_right _ h.drawn)
          cases hn _ List.mem_cons_self x hx
      · rw [if_neg hid]
        exact kept
    | _ => exact kept

/-- A call has won a record, and knows it. If nothing fails, its first claim is what is stored, and
each conflict before it was paid for by a rival's write. -/
structure Won (c : Conditions) (base : Chronicle) (id e : Text) (i : Nat) (p : Proposal)
    (past : Chronicle) : Prop extends Claimed c id e i p past where
  at_once : c.Faithful → Stored c past id p ∧ ∃ b t,
    p = Store.committed (b.claim e t) b.version ∧ ⟨i, .wrote (some b) p⟩ ∈ past ∧
      ∀ r ∈ versions base id, r.version + conflicts past i ≤ b.version

theorem Won.later (h : Won c base id e i p past) (hl : Later c i past l) :
    Won c base id e i p l := by
  refine ⟨h.toClaimed.within (.of_later hl), fun hf => ?_⟩
  obtain ⟨stored, b, t, hp, put, paid⟩ := h.at_once hf
  refine ⟨h.stored_within stored (.of_later hl), b, t, hp, hl.mem put, ?_⟩
  rw [hl.conflicts_eq]
  exact paid

/-- No record bears the execution id of a call that has claimed nothing. -/
theorem isClaimedBy_eq_false (h : Unclaimed past i) (hlaw : Lawful c past)
    (drawn : ⟨i, .drew .execution e⟩ ∈ past) (known : q ∈ written past) :
    q.isClaimedBy e = false := by
  rw [Bool.eq_false_iff]
  intro claimed
  obtain ⟨x, hx, rfl⟩ := isClaimedBy_iff.1 claimed
  have none_left := hlaw.execution_mem drawn (fun event he => (h event he).bears) known hx
  cases none_left

namespace Claim

variable {g : Claim}

theorem Started.of_unclaimed (copy : Copy c g.proposal g.policy p past)
    (call : ∃ requested asked, ⟨i, .began (.execute g.proposal requested asked)⟩ ∈ past)
    (drawn : ⟨i, .drew .execution g.execution⟩ ∈ past) (unclaimed : Unclaimed past i) :
    g.Started c i p past :=
  ⟨copy, call, drawn, fun event he => ((unclaimed event he).mono (List.nil_subset _)).bears⟩

theorem Started.claimed {now : Instant} (h : g.Started c i p past)
    (hlaw : Lawful c (⟨i, .wrote (some p)
      (Store.committed (p.claim g.execution now) p.version)⟩ :: past)) :
    Claimed c g.proposal g.execution i (Store.committed (p.claim g.execution now) p.version)
      (⟨i, .wrote (some p) (Store.committed (p.claim g.execution now) p.version)⟩ :: past) := by
  have own : ∀ event, ⟨i, event⟩ ∈ (⟨i, .wrote (some p)
      (Store.committed (p.claim g.execution now) p.version)⟩ :: past : Chronicle) →
      event.Bears [.started g.execution] := by
    intro event he
    rcases List.mem_cons.1 he with he | he
    · cases he
      intro x hx
      cases hx
      exact List.mem_cons_self
    · exact h.own event he
  refine ⟨.of_execution hlaw (mem_written.2 ⟨i, _, List.mem_cons_self⟩) rfl rfl
    (List.mem_cons_of_mem _ h.drawn) own, h.id_eq, p, now, h.id_eq, List.mem_cons_self⟩

/-- A call before an attempt to claim, with its copy: it has claimed nothing, and each conflict that
it was told of was paid for by a rival's write, if nothing fails. -/
structure Contending (c : Conditions) (base : Chronicle) (g : Claim) (i n : Nat) (p : Proposal)
    (past : Chronicle) : Prop extends g.Started c i p past where
  unclaimed : Unclaimed past i
  recent : Recent base g.proposal p
  counted : conflicts past i + n = g.attempts
  paid : c.Faithful → ∀ r ∈ versions base g.proposal, r.version + conflicts past i ≤ p.version
  spent : c.Faithful → conflicts past i ≠ 0 → ∃ b ∈ versions past g.proposal,
    b.status.isTerminal = false ∧
      ∀ r ∈ versions base g.proposal, r.version + conflicts past i ≤ b.version + 1

namespace Contending

theorem mem_versions (h : Contending c base g i n p past) : p ∈ versions past g.proposal :=
  QuorumGate.mem_versions.2 ⟨h.known, h.id_eq⟩

/-- Nothing changes for a call that looks at the clock or waits for its turn. -/
theorem within (h : Contending c base g i n p past) (hl : Within c i (Event.Claims []) past l)
    (same : conflicts l i = conflicts past i) : Contending c base g i n p l where
  toStarted := h.toStarted.within hl fun _ he => (he.mono (List.nil_subset _)).bears
  unclaimed := h.unclaimed.within hl fun _ => id
  recent := h.recent
  counted := same ▸ h.counted
  paid := same ▸ h.paid
  spent := by
    rw [same]
    intro hf some_conflict
    obtain ⟨b, known, outrun⟩ := h.spent hf some_conflict
    exact ⟨b, hl.mem_versions known, outrun⟩

theorem later (h : Contending c base g i n p past) (hl : Later c i past l) :
    Contending c base g i n p l :=
  h.within (.of_later hl) hl.conflicts_eq

/-- A conflict costs an attempt. The copy that is loaded next is another one, if nothing fails. -/
theorem reload (h : Contending c base g i (n + 1) p past) (still_open : p.status.isTerminal = false)
    (hl : Within c i (Event.Claims []) past l) (one : conflicts l i = conflicts past i + 1)
    (gone : c.Faithful → q ≠ p) (hq : Stored c l g.proposal q) (hd : Descends p q) :
    Contending c base g i n q l where
  toStarted := (h.toStarted.within hl fun _ he => (he.mono (List.nil_subset _)).bears).reload
    hl.lawful hq
  unclaimed := h.unclaimed.within hl fun _ => id
  recent := h.recent.trans hd
  counted := by
    have counted := h.counted
    omega
  paid := by
    intro hf r hr
    have paid := h.paid hf r hr
    have changed : q.version ≠ p.version := fun hv => gone hf (hd.eq_of_version hv)
    have gain := hd.version_le
    omega
  spent := by
    intro hf _
    refine ⟨p, hl.mem_versions h.mem_versions, still_open, fun r hr => ?_⟩
    have paid := h.paid hf r hr
    omega

/-- A call that has no attempt left is told that others were faster. -/
theorem outpaced (h : Contending c base g i 0 p past) :
    NotClaimed c base g.attempts g.proposal i (.rejected (.busy g.proposal .claim)) past := by
  refine ⟨.outpaced fun hf some_attempt => ?_, h.unclaimed⟩
  have all : conflicts past i = g.attempts := h.counted
  rw [← all] at some_attempt ⊢
  exact h.spent hf some_attempt

end Contending

/-- A claim that is made and confirmed. -/
theorem Contending.won {now : Instant} (h : Contending c base g i n p past)
    (hlaw : Lawful c (⟨i, .wrote (some p)
      (Store.committed (p.claim g.execution now) p.version)⟩ :: past)) :
    Won c base g.proposal g.execution i (Store.committed (p.claim g.execution now) p.version)
      (⟨i, .wrote (some p) (Store.committed (p.claim g.execution now) p.version)⟩ :: past) := by
  refine ⟨h.toStarted.claimed hlaw, fun hf => ⟨?_, p, now, rfl, List.mem_cons_self, ?_⟩⟩
  · rw [Stored, hlaw.proposal?_wrote]
    exact if_pos h.id_eq
  · rw [conflicts_cons_of_not rfl]
    exact h.paid hf

theorem within_result (hc : c.Dependable) (h : Contending c base g i n p past) :
    Safe c i (Event.Claims [.started g.execution]) (Won c base g.proposal g.execution i)
      (NotClaimed c base g.attempts g.proposal i) (g.within n p) past := by
  have claims : ∀ event, Event.Claims [] event → event.Claims [.started g.execution] :=
    fun _ => Event.Claims.mono (List.nil_subset _)
  induction n generalizing p past with
  | zero => exact Safe.reject fun l hl => (h.later hl).outpaced
  | succ n ih =>
    rw [within]
    refine Safe.bind (checkExecutable_reasons hc h.mem_versions h.recent h.policy_eq)
      (fun _ he => claims _ he.claims) ?_
      fun f l hl reason => ⟨reason, h.unclaimed.within hl fun _ he => he.claims⟩
    rintro _ l₁ hl₁ ⟨hopen, quorum, same, t, seen, in_window⟩
    have h₁ := h.within (hl₁.mono fun _ he => he.claims) same
    refine Safe.saw_bind (fun _ => trivial) ?_
    intro now l₂ hl₂ hlaw₂
    have h₂ : Contending c base g i (n + 1) p (⟨i, .saw now⟩ :: l₂) :=
      h₁.within ((Within.of_later hl₂).cons hlaw₂ trivial)
        ((conflicts_cons_of_not rfl).trans hl₂.conflicts_eq)
    have seen₂ : ⟨i, .saw t⟩ ∈ ⟨i, .saw now⟩ :: l₂ := List.mem_cons_of_mem _ (hl₂.mem seen)
    have stamped : Looked (⟨i, .saw now⟩ :: l₂) i p now := .head (hl₂.mem_written h₁.known)
    refine Safe.update_cases hc h₂.known rfl ?_ ?_ (fun _ _ => trivial) ?_ ?_ ?_
    · intro l hl _
      exact (h₂.later hl).change hopen quorum (hl.mem seen₂) in_window (hl.looked stamped)
    · intro x hx
      cases hx
      exact List.mem_singleton.2 rfl
    · intro l hl hlaw
      exact Safe.done fun m hm => ((h₂.later hl).won hlaw).later hm
    · -- The claim was not written, and so the record does not bear the id.
      intro l f hl conflict hlaw gone
      refine Safe.refind_bind hc (hl.mem_written h₂.known) h₂.id_eq ?_
      intro m q hm hq hd
      have one : conflicts m i = conflicts (⟨i, .saw now⟩ :: l₂) i + 1 := by
        rw [hm.conflicts_eq, conflicts_failed conflict, hl.conflicts_eq]
      have changed : c.Faithful → q ≠ p := by
        rintro hf rfl
        have since : l <:+ m := (List.suffix_cons _ l).trans hm.suffix
        have kept := hm.lawful.stored_before since (hl.mem_versions h₂.mem_versions) hq
        exact gone hf (h₂.id_eq ▸ kept)
      have h₃ : Contending c base g i n q m :=
        h₂.reload hopen (((Within.of_later hl).cons hlaw trivial).trans (.of_later hm)) one changed
          hq hd
      rw [isClaimedBy_eq_false h₃.unclaimed hm.lawful h₃.drawn h₃.known, if_neg (by simp)]
      exact Safe.note_bind fun m' hm' => ih (h₃.later hm')
    · -- The claim was written, and the next copy shows it.
      intro l f hl _ hlaw lossy
      have claimed := ((h₂.later hl).toStarted.claimed hlaw.1).within
        ((Within.refl hlaw.1).cons hlaw trivial)
      refine Safe.refind_bind hc claimed.known claimed.id_eq ?_
      intro m q hm hq _
      have found := (claimed.within (.of_later hm)).reload hm.lawful hq
      rw [found.isClaimedBy, if_pos rfl]
      exact Safe.done fun m' hm' =>
        ⟨found.within (.of_later hm'), fun faithful => absurd faithful lossy⟩

end Claim

theorem claim_result (hc : c.Dependable) {requested : Option Number} {asked : Text}
    (hb : base <:+ past) (call : ⟨i, .began (.execute id requested asked)⟩ ∈ past)
    (drawn : ⟨i, .drew .execution e⟩ ∈ past) (unclaimed : Unclaimed past i)
    (idle : conflicts past i = 0) :
    Safe c i (Event.Claims [.started e]) (Won c base id e i) (NotClaimed c base n id i)
      (claim n id e correlation) past := by
  unfold claim
  refine Safe.find_bind hc ?_ ?_
  · intro l₁ p hl₁ hp
    refine Safe.its_policy_bind hc (mem_written_of_proposal? hp) ?_
    intro l₂ policy hl₂ hpolicy
    have hl := hl₁.trans hl₂
    have unclaimed₂ : Unclaimed l₂ i := unclaimed.within hl fun _ => False.elim
    have recent : Recent base id p := .of_stored (hb.trans hl₁.suffix) hl₁.lawful hp
    have idle₂ : conflicts l₂ i = 0 := hl.conflicts_eq.trans idle
    have started : Claim.Started c ⟨id, e, policy, n, correlation⟩ i p l₂ :=
      .of_unclaimed (.of_stored hp hl₂ hpolicy) ⟨requested, asked, hl.mem call⟩ (hl.mem drawn)
        unclaimed₂
    have counted : conflicts l₂ i + n = n := by omega
    refine Claim.within_result hc ⟨started, unclaimed₂, recent, counted, ?_, ?_⟩
    · intro _ r hr
      have gain := (recent r hr).version_le
      omega
    · exact fun _ some_conflict => absurd idle₂ some_conflict
  · intro l hl hnone l' hl'
    refine ⟨.missing (List.eq_nil_iff_forall_not_mem.2 fun p hp => ?_),
      unclaimed.within (hl.trans hl') fun _ => False.elim⟩
    obtain ⟨q, hq, -⟩ := hl.lawful.stored_version (hl.mem_versions (versions_suffix hb hp))
    rw [Stored, hnone] at hq
    cases hq

end Executions

end QuorumGate
