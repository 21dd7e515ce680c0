import QuorumGate.Proofs.Concurrency.Signatures

/-!
# What a call to sign comes to

Each attempt to record a signature either lands or leaves nothing behind, and a call that reloads
the record sees which it was. So a call that returns has one signature on the record, and one that
is turned away has none; except that the last attempt of a call is not looked at again, and may have
landed although it was taken for a conflict.
-/

namespace QuorumGate

variable {c : Conditions} {base past l : Chronicle} {i j n attempts : Nat} {may : Event → Prop}
  {α : Type} {ok : α → Chronicle → Prop} {bad : Failure → Chronicle → Prop}
  {p q old new : Proposal} {id correlation signer : Text} {e : Failure} {now : Instant}

theorem mem_versions : p ∈ versions past id ↔ p ∈ written past ∧ p.id = id := by
  simp [versions]

theorem Within.mem_versions (h : Within c i may past l) (hp : p ∈ versions past id) :
    p ∈ versions l id := by
  obtain ⟨known, hid⟩ := QuorumGate.mem_versions.1 hp
  exact QuorumGate.mem_versions.2 ⟨h.mem_written known, hid⟩

theorem Lawful.stored_version (h : Lawful c past) (hp : p ∈ versions past id) :
    ∃ q, Stored c past id q ∧ Descends p q := by
  obtain ⟨known, hid⟩ := mem_versions.1 hp
  exact h.stored known hid

theorem mem_versions_of_stored (h : Stored c past id p) : p ∈ versions past id :=
  mem_versions.2 ⟨mem_written_of_proposal? h, Store.id_eq_of_proposal? h⟩

theorem Lawful.version_origin (h : Lawful c past) (hp : p ∈ versions past id)
    (hq : q ∈ versions past id) : q.origin = p.origin := by
  obtain ⟨known, hid⟩ := mem_versions.1 hp
  obtain ⟨known', hid'⟩ := mem_versions.1 hq
  exact h.origin_eq known known' (hid'.trans hid.symm)

theorem versions_suffix (h : base <:+ past) (hp : p ∈ versions base id) :
    p ∈ versions past id := by
  obtain ⟨news, rfl⟩ := h
  obtain ⟨known, hid⟩ := mem_versions.1 hp
  refine mem_versions.2 ⟨?_, hid⟩
  rw [written_append]
  exact List.mem_append_right _ known

/-! ## Reasons and results -/

/-- Why a call to sign is turned away, by what it has come to know. -/
inductive SigningRefused (c : Conditions) (base : Chronicle) (attempts : Nat) (id signer : Text)
    (i : Nat) (past : Chronicle) : Failure → Prop where
  | missing (unknown : versions base id = []) :
      SigningRefused c base attempts id signer i past (.rejected (.noProposal id))
  | closed {p : Proposal} (known : p ∈ versions past id) (terminal : p.status.isTerminal = true) :
      SigningRefused c base attempts id signer i past (.rejected (.closed id p.status))
  | late {p : Proposal} {e : Failure} (known : p ∈ versions past id) (late : SeenLate past i p)
      (turned : TurnedAway c id (.overdue id) e past) :
      SigningRefused c base attempts id signer i past e
  | incomparable {p : Proposal} {t : Instant} {f : TimeFault} (known : p ∈ versions past id)
      (seen : ⟨i, .saw t⟩ ∈ past) (fault : p.isExpired t = .error f) :
      SigningRefused c base attempts id signer i past (.time f)
  | stranger {p : Proposal} {P : Policy} (known : p ∈ versions past id)
      (policy_eq : (replay c.founding past).policy? p.policyId = some P)
      (stranger : signer ∉ P.signers) :
      SigningRefused c base attempts id signer i past (.rejected (.notASigner signer P.id id))
  | again {p : Proposal} (known : p ∈ versions past id) (signed : p.hasSigned signer = true) :
      SigningRefused c base attempts id signer i past (.rejected (.alreadySigned signer id))
  | unverified {payload : String} {data : Text}
      (verified : ⟨i, .verified signer payload data (.ok false)⟩ ∈ past) :
      SigningRefused c base attempts id signer i past (.rejected (.unverified signer id))
  | unchecked {payload : String} {data : Text} {e : Failure}
      (verified : ⟨i, .verified signer payload data (.error e)⟩ ∈ past) :
      SigningRefused c base attempts id signer i past e
  | outpaced {q : Proposal} (known : q ∈ versions past id)
      (spent : c.Faithful → ∀ p ∈ versions base id, p.version + attempts ≤ q.version) :
      SigningRefused c base attempts id signer i past (.rejected (.busy id .signature))

/-- None of the signatures that a call has attempted is on the stored record. -/
def Unsigned (c : Conditions) (past : Chronicle) (i : Nat) (id : Text) : Prop :=
  ∀ p, Stored c past id p → ownSignatures past i p = []

/-- All attempts of a call are spent, and the last one was committed. -/
structure LastLanded (attempts : Nat) (past : Chronicle) (i : Nat) (id : Text) : Prop where
  spent : (attempted past i).length = attempts
  landed : ∃ s old new, (attempted past i).head? = some s.id ∧ ⟨i, .wrote (some old) new⟩ ∈ past ∧
    new.id = id ∧ new.signatures = old.signatures ++ [s]

/-- A call has one signature on the record, and so on the version that it gives back. -/
structure Recorded (c : Conditions) (i : Nat) (id : Text) (q : Proposal) (past : Chronicle) :
    Prop where
  known : q ∈ versions past id
  own : ∃ s, ownSignatures past i q = [s] ∧ ∀ p, Stored c past id p → ownSignatures past i p = [s]

theorem attempted_append {news : Chronicle} (h : ∀ e, ⟨i, e⟩ ∈ news → e.signatureId? = none) :
    attempted (news ++ past) i = attempted past i := by
  induction news with
  | nil => rfl
  | cons e news ih =>
    obtain ⟨j, e⟩ := e
    have none_here : j = i → e.signatureId? = none := by
      rintro rfl
      exact h e List.mem_cons_self
    rw [List.cons_append, attempted_cons none_here]
    exact ih fun e he => h e (List.mem_cons_of_mem _ he)

theorem attempted_eq_nil (h : ∀ e, ⟨i, e⟩ ∈ past → e.signatureId? = none) :
    attempted past i = [] := by
  rw [← List.append_nil past, attempted_append h]
  rfl

theorem Within.attempted_eq (h : Within c i Event.Incidental past l) :
    attempted l i = attempted past i := by
  obtain ⟨-, news, rfl, hn⟩ := h
  exact attempted_append fun e he => (hn e he).signatureId?

theorem Within.before (h : Within c i may past l) : Lawful c past := by
  obtain ⟨hl, news, rfl, -⟩ := h
  exact hl.of_append

theorem Unsigned.within (h : Unsigned c past i id) (hl : Within c i Event.Incidental past l)
    (known : p ∈ versions past id) : Unsigned c l i id := by
  intro q hq
  obtain ⟨r, hr, -⟩ := hl.before.stored_version known
  rw [hl.ownSignatures_eq hr hq]
  exact h r hr

namespace Recorded

theorem within (h : Recorded c i id q past) (hl : Within c i Event.Incidental past l) :
    Recorded c i id q l := by
  obtain ⟨known, s, hq, hs⟩ := h
  refine ⟨hl.mem_versions known, s, ?_, fun p hp => ?_⟩
  · rw [ownSignatures, hl.attempted_eq]
    exact hq
  · obtain ⟨r, hr, -⟩ := hl.before.stored_version known
    rw [hl.ownSignatures_eq hr hp]
    exact hs r hr

theorem reload (h : Recorded c i id q past) (hp : Stored c past id p) : Recorded c i id p past := by
  obtain ⟨-, s, -, hs⟩ := h
  exact ⟨mem_versions_of_stored hp, s, hs p hp, hs⟩

/-- The first signature of a call is put on the record. -/
theorem of_put {s : Signature} {status : Status}
    (hlaw : Lawful c (⟨i, .wrote (some p)
      (Store.committed ((p.sign s).withStatus status) p.version)⟩ :: past))
    (hid : p.id = id) (clean : Unsigned c past i id) (drawn : ⟨i, .drew .signature s.id⟩ ∈ past) :
    Recorded c i id (Store.committed ((p.sign s).withStatus status) p.version)
      (⟨i, .wrote (some p)
        (Store.committed ((p.sign s).withStatus status) p.version)⟩ :: past) := by
  have before : Stored c past id p := hid ▸ hlaw.2.1
  have after : Stored c (⟨i, .wrote (some p)
      (Store.committed ((p.sign s).withStatus status) p.version)⟩ :: past) id
      (Store.committed ((p.sign s).withStatus status) p.version) := by
    rw [Stored, hlaw.proposal?_wrote]
    exact if_pos hid
  have own : ownSignatures (⟨i, .wrote (some p)
      (Store.committed ((p.sign s).withStatus status) p.version)⟩ :: past) i
      (Store.committed ((p.sign s).withStatus status) p.version) = [s] := by
    rw [ownSignatures_cons fun _ => rfl, ownSignatures_sign drawn, clean p before]
    rfl
  refine ⟨mem_versions_of_stored after, s, own, fun q hq => ?_⟩
  rw [Stored, after] at hq
  cases hq
  exact own

end Recorded

/-- A signature that was committed is on the stored record. -/
theorem Lawful.own_of_put {s : Signature} (h : Lawful c past)
    (drawn : ⟨i, .drew .signature s.id⟩ ∈ past) {b : Option Proposal}
    (put : ⟨j, .wrote b new⟩ ∈ past) (hid : new.id = id) (hs : s ∈ new.signatures)
    (hp : Stored c past id p) : s ∈ ownSignatures past i p := by
  obtain ⟨q, hq, hd⟩ := h.stored (mem_written.2 ⟨j, b, put⟩) hid
  rw [Stored, hp] at hq
  cases hq
  exact mem_ownSignatures.2 ⟨hd.signatures.subset hs, drawn⟩

theorem LastLanded.not_unsigned (h : LastLanded attempts past i id) (hlaw : Lawful c past) :
    ¬Unsigned c past i id := by
  intro unsigned
  obtain ⟨s, old, new, last, put, hid, hs⟩ := h.landed
  have drawn : ⟨i, .drew .signature s.id⟩ ∈ past := mem_attempted.1 (List.mem_of_head? last)
  obtain ⟨q, hq, -⟩ := hlaw.stored (mem_written.2 ⟨i, _, put⟩) hid
  have own := hlaw.own_of_put drawn put hid (by simp [hs]) hq
  rw [unsigned q hq] at own
  cases own

theorem LastLanded.later (h : LastLanded attempts past i id) (hl : Later c i past l) :
    LastLanded attempts l i id := by
  obtain ⟨spent, s, old, new, last, put, hs⟩ := h
  have same : attempted l i = attempted past i := (Within.of_later hl).attempted_eq
  exact ⟨by rw [same]; exact spent, s, old, new, by rw [same]; exact last, hl.mem put, hs⟩

/-- What is left behind by a call to sign that is turned away: nothing, unless its last attempt was
committed and reported as a conflict. -/
structure Declined (c : Conditions) (base : Chronicle) (attempts : Nat) (id signer : Text)
    (i : Nat) (e : Failure) (past : Chronicle) : Prop where
  reason : SigningRefused c base attempts id signer i past e
  trace : Unsigned c past i id ∨
    e = .rejected (.busy id .signature) ∧ ¬c.Faithful ∧ LastLanded attempts past i id

/-! ## The steps of a call -/

theorem Except.map_eq_ok {ε β : Type} {f : α → β} {x : Except ε α} {b : β}
    (h : x.map f = .ok b) : ∃ a, x = .ok a ∧ b = f a := by
  cases x with
  | error e => cases h
  | ok a => exact ⟨a, rfl, (Except.ok.inj h).symm⟩

theorem Except.map_eq_error {ε β : Type} {f : α → β} {x : Except ε α} {e : ε}
    (h : x.map f = .error e) : x = .error e := by
  cases x with
  | error e' => rw [Except.error.inj h]
  | ok a => cases h

theorem Proposal.evaluate_of_open {P : Policy} (still_open : p.status.isTerminal = false) :
    p.evaluate P now = (p.isExpired now).map fun expired =>
      if expired then .expired else p.quorumStatus P := by
  rw [evaluate, still_open]
  rfl

/-- The proposal with more signatures behind those that it has. -/
def Proposal.signedBy (p : Proposal) (more : List Signature) : Proposal :=
  { p with signatures := p.signatures ++ more }

/-- More signatures take no quorum away. -/
theorem Proposal.canBecome_quorumStatus_signedBy (P : Policy) (p : Proposal)
    (more : List Signature) :
    (p.quorumStatus P).canBecome ((p.signedBy more).quorumStatus P) = true := by
  have longer : (p.signedBy more).signatures.length = p.signatures.length + more.length :=
    List.length_append
  by_cases quorum : P.threshold ≤ p.signatures.length
  · have quorum' : P.threshold ≤ (p.signedBy more).signatures.length := by omega
    rw [Proposal.quorumStatus, if_pos quorum, Proposal.quorumStatus, if_pos quorum']
    decide
  · rw [Proposal.quorumStatus, if_neg quorum, Proposal.quorumStatus]
    split <;> decide

theorem Proposal.canBecome_quorumStatus {P : Policy} {s : Signature}
    (stage : p.status = p.quorumStatus P) :
    p.status.canBecome ((p.sign s).quorumStatus P) = true := by
  rw [stage]
  exact canBecome_quorumStatus_signedBy P p [s]

/-- The stage of an open record is told by its signatures. -/
theorem Conditions.Dependable.stage (hc : c.Dependable) (h : Lawful c past) {P : Policy}
    (known : p ∈ versions past id) (hP : (replay c.founding past).policy? p.policyId = some P)
    (still_open : p.status.isTerminal = false) : p.status = p.quorumStatus P := by
  obtain ⟨Q, hQ⟩ := h.backed (mem_versions.1 known).1
  obtain rfl := Option.some.inj (hQ.policy_eq.symm.trans hP)
  refine hQ.stage ?_ still_open
  exact h.threshold_pos (by simp [hc.founding]) Q (List.mem_of_find?_eq_some hP)

namespace Ledger.Signing

variable {g : Signing}

theorem checkOpen_reasons (hc : c.Dependable) (known : p ∈ versions past g.proposal)
    (policy_eq : (replay c.founding past).policy? p.policyId = some g.policy) :
    Safe c i Event.Incidental
      (fun _ _ => p.status.isTerminal = false ∧ g.signer ∈ g.policy.signers ∧
        p.hasSigned g.signer = false)
      (fun e l => SigningRefused c base attempts g.proposal g.signer i l e)
      (g.checkOpen p) past := by
  have hid : p.id = g.proposal := (mem_versions.1 known).2
  unfold checkOpen
  cases hopen : p.status.isTerminal with
  | true =>
    refine Safe.reject_bind fun l hl => ?_
    rw [hid]
    exact .closed (hl.mem_versions known) hopen
  | false =>
    refine Safe.now_bind (fun _ => trivial) ?_
    intro t l hl seen
    have known' := hl.mem_versions known
    refine Safe.ofExcept_bind ?_ fun f l' hf hl' =>
      .incomparable (hl'.mem_versions known') (hl'.mem seen) hf
    intro expired hexpired
    cases expired with
    | true =>
      have late : SeenLate l i p := ⟨t, seen, hexpired⟩
      refine expire_turns_away hc (mem_versions.1 known').1 late (fun _ h => h) ?_
      intro e l' hl' turned
      rw [hid] at turned
      exact .late (hl'.mem_versions known') (late.within hl') turned
    | false =>
      cases hmember : g.policy.signers.contains g.signer with
      | false =>
        refine Safe.reject_bind fun l' hl' => ?_
        have outside : g.signer ∉ g.policy.signers := by
          intro hm
          rw [List.contains_iff_mem.2 hm] at hmember
          cases hmember
        rw [hid]
        exact .stranger (hl'.mem_versions known') (hl'.policy (hl.policy policy_eq)) outside
      | true =>
        cases hsigned : p.hasSigned g.signer with
        | true =>
          refine Safe.reject fun l' hl' => ?_
          rw [hid]
          exact .again (hl'.mem_versions known') hsigned
        | false => exact Safe.done fun _ _ => ⟨rfl, List.contains_iff_mem.1 hmember, rfl⟩

theorem checkArtifact_reasons :
    Safe c i Event.Incidental (fun _ l => g.Accepted i p.payload l)
      (fun e l => SigningRefused c base attempts g.proposal g.signer i l e)
      (g.checkArtifact p) past := by
  unfold checkArtifact
  cases hdata : g.data with
  | none => exact Safe.done fun _ _ data h => by rw [hdata] at h; cases h
  | some data =>
    refine Safe.verdict_bind (fun _ => trivial) ?_
    intro v l _ hlaw
    cases v with
    | error f => exact Safe.fail fun l' hl' => .unchecked (hl'.mem List.mem_cons_self)
    | ok verified =>
      cases verified with
      | true =>
        refine Safe.done fun l' hl' data' h => ?_
        rw [hdata] at h
        cases h
        exact hl'.mem List.mem_cons_self
      | false =>
        refine Safe.note_bind fun l' hl' => Safe.reject fun l'' hl'' => ?_
        exact .unverified (hl''.mem (hl'.mem List.mem_cons_self))

theorem signed_reasons (hc : c.Dependable) {s : Signature}
    (known : p ∈ versions past g.proposal)
    (policy_eq : (replay c.founding past).policy? p.policyId = some g.policy)
    (hopen : p.status.isTerminal = false) (seen : ⟨i, .saw now⟩ ∈ past) :
    Safe c i Event.Incidental
      (fun q _ => p.isExpired now = .ok false ∧
        q = (p.sign s).withStatus ((p.sign s).quorumStatus g.policy))
      (fun e l => SigningRefused c base attempts g.proposal g.signer i l e)
      (g.signed p s now) past := by
  have hid : p.id = g.proposal := (mem_versions.1 known).2
  have hevaluate : (p.sign s).evaluate g.policy now = (p.isExpired now).map fun expired =>
      if expired then .expired else (p.sign s).quorumStatus g.policy :=
    Proposal.evaluate_of_open hopen
  unfold signed
  refine Safe.ofExcept_bind ?_ ?_
  · intro next hnext
    rw [hevaluate] at hnext
    obtain ⟨expired, hexpired, rfl⟩ := Except.map_eq_ok hnext
    cases expired with
    | true =>
      have late : SeenLate past i p := ⟨now, seen, hexpired⟩
      refine expire_turns_away hc (mem_versions.1 known).1 late (fun _ h => h) ?_
      intro e l hl turned
      rw [hid] at turned
      exact .late (hl.mem_versions known) (late.within hl) turned
    | false =>
      refine Safe.of_later fun l hl => ?_
      have hne : (p.sign s).quorumStatus g.policy ≠ .expired :=
        Status.ne_of_isTerminal (Proposal.isTerminal_quorumStatus g.policy _) rfl
      have stage := hc.stage hl.lawful (hl.mem_versions known) (hl.policy policy_eq) hopen
      have move : p.status.checkMove ((p.sign s).quorumStatus g.policy) g.proposal = .ok () :=
        if_pos (Proposal.canBecome_quorumStatus stage)
      simp only [Bool.false_eq_true, ↓reduceIte, hne, move]
      exact Safe.done fun _ _ => ⟨hexpired, rfl⟩
  · intro f l hf hl
    rw [hevaluate] at hf
    exact .incomparable (hl.mem_versions known) (hl.mem seen) (Except.map_eq_error hf)

/-- A signing call before an attempt, with the copy that it has checked: none of its attempts has
left a signature, and each was paid for by a rival's write. -/
structure Attempting (c : Conditions) (base : Chronicle) (g : Signing) (i n : Nat) (p : Proposal)
    (past : Chronicle) : Prop extends g.Started c i p past where
  still_open : p.status.isTerminal = false
  member : g.signer ∈ g.policy.signers
  unsigned : p.hasSigned g.signer = false
  clean : Unsigned c past i g.proposal
  counted : (attempted past i).length + n = g.attempts
  paid : c.Faithful → ∀ r ∈ versions base g.proposal, r.version + g.attempts ≤ p.version + n

theorem Started.mem_versions (h : g.Started c i p past) : p ∈ versions past g.proposal :=
  QuorumGate.mem_versions.2 ⟨h.known, h.id_eq⟩

/-- A call that is turned away before it writes has left no signature. -/
theorem Declined.of_clean (clean : Unsigned c past i id) (known : p ∈ versions past id)
    (hl : Within c i Event.Incidental past l)
    (reason : SigningRefused c base attempts id signer i l e) :
    Declined c base attempts id signer i e l :=
  ⟨reason, .inl (clean.within hl known)⟩

/-- What a signing call does with a signature that was taken for a conflict. -/
def resume (g : Signing) (left : Nat) (s : Signature) : Service Proposal :=
  if left = 0 then Service.reject (.busy g.proposal .signature)
  else do
    let p ← load g.proposal g.correlation
    if p.signatures.any s.same then return p
    else
      g.checkOpen p
      g.recordWithin left p

theorem recordWithin_succ (left : Nat) (p : Proposal) : g.recordWithin (left + 1) p = (do
    let now ← Service.now
    let id ← Service.fresh .signature
    let q ← g.signed p ⟨id, g.signer, g.data, now⟩ now
    match ← Service.storeUnlessConflict (.updateProposal q p.version) g.correlation with
    | some stored =>
      Service.note .info .ledger
        (s!"recorded signature {stored.signatures.length}/{g.policy.threshold} from " ++ g.signer ++
          " on proposal " ++ g.proposal ++ s!" (status={stored.status.word})")
      return stored
    | none =>
      Service.note .info .ledger
        ("signature from " ++ g.signer ++ " on " ++ g.proposal ++
          " hit a version conflict, retrying")
      g.resume left ⟨id, g.signer, g.data, now⟩) := rfl

variable {left : Nat} {s : Signature}

theorem Signature.id_eq_of_same {t : Signature} (h : s.same t = true) : t.id = s.id := by
  simp only [Signature.same, Bool.and_eq_true, beq_iff_eq] at h
  exact (congrArg Signature.id h.1).symm

/-- A signing call in an attempt: it has drawn the id of its next signature, which is not stored. -/
structure Ready (c : Conditions) (base : Chronicle) (g : Signing) (i left : Nat) (p : Proposal)
    (s : Signature) (past : Chronicle) : Prop extends g.Started c i p past where
  clean : Unsigned c past i g.proposal
  drawn : ⟨i, .drew .signature s.id⟩ ∈ past
  last : (attempted past i).head? = some s.id
  counted : (attempted past i).length + left = g.attempts
  paid : c.Faithful → ∀ r ∈ versions base g.proposal, r.version + g.attempts ≤ p.version + left + 1

namespace Ready

theorem within (h : Ready c base g i left p s past) (hl : Within c i Event.Incidental past l) :
    Ready c base g i left p s l where
  toStarted := h.toStarted.within hl
  clean := h.clean.within hl h.mem_versions
  drawn := hl.mem h.drawn
  last := by rw [hl.attempted_eq]; exact h.last
  counted := by rw [hl.attempted_eq]; exact h.counted
  paid := h.paid

theorem of_attempting (h : Attempting c base g i (left + 1) p past)
    (hl : Within c i Event.Incidental past l) (hlaw : Lawful c (⟨i, .drew .signature s.id⟩ :: l)) :
    Ready c base g i left p s (⟨i, .drew .signature s.id⟩ :: l) := by
  have ids : attempted (⟨i, .drew .signature s.id⟩ :: l) i = s.id :: attempted past i := by
    rw [attempted_drew, hl.attempted_eq]
  have w : Within c i (fun _ => True) past (⟨i, .drew .signature s.id⟩ :: l) :=
    (hl.mono fun _ _ => trivial).cons hlaw trivial
  refine ⟨h.toStarted.within w, ?_, List.mem_cons_self, by rw [ids]; rfl, ?_, ?_⟩
  · intro q hq
    rw [ownSignatures_drew hlaw (mem_written_of_proposal? hq)]
    exact h.clean.within hl h.mem_versions q hq
  · rw [ids, List.length_cons, ← h.counted]
    omega
  · intro hf r hr
    have paid := h.paid hf r hr
    push_cast at paid
    omega

/-- The signature of a call is put on the record. -/
theorem recorded {status : Status} (h : Ready c base g i left p s past)
    (hlaw : Lawful c (⟨i, .wrote (some p)
      (Store.committed ((p.sign s).withStatus status) p.version)⟩ :: past)) :
    Recorded c i g.proposal (Store.committed ((p.sign s).withStatus status) p.version)
      (⟨i, .wrote (some p) (Store.committed ((p.sign s).withStatus status) p.version)⟩ :: past) :=
  .of_put hlaw h.id_eq h.clean h.drawn

end Ready

/-- A signature that has not landed is not found, and the next attempt begins where this one did. -/
theorem resume_clean (hc : c.Dependable) (h : Ready c base g i left p s past)
    (outrun : ∃ r ∈ versions past g.proposal, c.Faithful → p.version + 1 ≤ r.version)
    (next : ∀ q l, Attempting c base g i left q l → Safe c i (fun _ => True)
      (Recorded c i g.proposal) (Declined c base g.attempts g.proposal g.signer i)
      (g.recordWithin left q) l) :
    Safe c i (fun _ => True) (Recorded c i g.proposal)
      (Declined c base g.attempts g.proposal g.signer i) (g.resume left s) past := by
  obtain ⟨r, known, newer⟩ := outrun
  have spent : c.Faithful → ∀ b ∈ versions base g.proposal,
      b.version + g.attempts ≤ r.version + left := by
    intro hf b hb
    have paid := h.paid hf b hb
    have gain := newer hf
    omega
  unfold resume
  by_cases hlast : left = 0
  · rw [if_pos hlast]
    subst hlast
    refine Safe.reject fun l hl => ?_
    refine Declined.of_clean h.clean known (.of_later hl) (.outpaced (hl.mem_versions known) ?_)
    simpa using spent
  · rw [if_neg hlast]
    refine Safe.refind_bind hc (mem_versions.1 known).1 (mem_versions.1 known).2 ?_
    intro l q hl hq hd
    have h' := h.within (.of_later hl)
    have started := h'.toStarted.reload hl.lawful hq
    have absent : q.signatures.any s.same = false := by
      refine List.any_eq_false.2 fun t ht hsame => ?_
      have own : t ∈ ownSignatures l i q :=
        mem_ownSignatures.2 ⟨ht, Signature.id_eq_of_same hsame ▸ h'.drawn⟩
      rw [h'.clean q hq] at own
      cases own
    rw [absent, if_neg (by simp)]
    refine Safe.bind (checkOpen_reasons hc started.mem_versions started.policy_eq)
      (fun _ _ => trivial) ?_ fun e l' hl' => Declined.of_clean h'.clean started.mem_versions hl'
    rintro _ l' hl' ⟨hopen, member, unsigned⟩
    have h'' := h'.within hl'
    refine next q l' ⟨started.within hl', hopen, member, unsigned, h''.clean, h''.counted, ?_⟩
    intro hf b hb
    have gain := hd.version_le
    have paid := spent hf b hb
    omega

/-- A signature that has landed is found, unless no attempt is left. -/
theorem resume_landed (hc : c.Dependable) (lossy : ¬c.Faithful)
    (recorded : Recorded c i g.proposal new past) (hs : s ∈ new.signatures)
    (landed : left = 0 → LastLanded g.attempts past i g.proposal) :
    Safe c i (fun _ => True) (Recorded c i g.proposal)
      (Declined c base g.attempts g.proposal g.signer i) (g.resume left s) past := by
  unfold resume
  by_cases hlast : left = 0
  · rw [if_pos hlast]
    refine Safe.reject fun l hl => ⟨?_, .inr ⟨rfl, lossy, (landed hlast).later hl⟩⟩
    exact .outpaced (hl.mem_versions recorded.known) fun hf => absurd hf lossy
  · rw [if_neg hlast]
    obtain ⟨known, hid⟩ := mem_versions.1 recorded.known
    refine Safe.refind_bind hc known hid ?_
    intro l q hl hq hd
    have found : q.signatures.any s.same = true :=
      List.any_eq_true.2 ⟨s, hd.signatures.subset hs, s.same_self⟩
    rw [if_pos found]
    exact Safe.done fun l' hl' =>
      ((recorded.within (.of_later hl)).reload hq).within (.of_later hl')

/-- What a call does after a write that was not made: the record has moved on, if nothing fails. -/
theorem resume_unmade (hc : c.Dependable) (h : Ready c base g i left p s past)
    (hl : Within c i Event.Incidental past l) (gone : c.Faithful → ¬Stored c past p.id p)
    (next : ∀ q l, Attempting c base g i left q l → Safe c i (fun _ => True)
      (Recorded c i g.proposal) (Declined c base g.attempts g.proposal g.signer i)
      (g.recordWithin left q) l) :
    Safe c i (fun _ => True) (Recorded c i g.proposal)
      (Declined c base g.attempts g.proposal g.signer i) (g.resume left s) l := by
  obtain ⟨r, hr, hd⟩ := hl.before.stored_version h.mem_versions
  have known := hl.mem_versions (mem_versions_of_stored hr)
  refine resume_clean hc (h.within hl) ⟨r, known, fun hf => ?_⟩ next
  have changed : r.version ≠ p.version := by
    intro hv
    rw [h.id_eq, Stored, hr, hd.eq_of_version hv] at gone
    exact gone hf rfl
  have gain := hd.version_le
  omega

/-- What a call does after a write that was made and taken for a conflict. -/
theorem resume_lost {status : Status} (hc : c.Dependable) (h : Ready c base g i left p s past)
    (lossy : ¬c.Faithful)
    (hlaw : Lawful c (⟨i, .wrote (some p)
      (Store.committed ((p.sign s).withStatus status) p.version)⟩ :: past))
    (hl : Within c i Event.Incidental (⟨i, .wrote (some p)
      (Store.committed ((p.sign s).withStatus status) p.version)⟩ :: past) l) :
    Safe c i (fun _ => True) (Recorded c i g.proposal)
      (Declined c base g.attempts g.proposal g.signer i) (g.resume left s) l := by
  have ids : attempted l i = attempted past i := by
    rw [hl.attempted_eq, attempted_cons fun _ => rfl]
  refine resume_landed hc lossy ((h.recorded hlaw).within hl)
    (List.mem_append_right _ (List.mem_singleton.2 rfl)) fun hlast => ?_
  refine ⟨?_, s, p, _, by rw [ids]; exact h.last, hl.mem List.mem_cons_self, h.id_eq, rfl⟩
  rw [ids, ← h.counted]
  omega

theorem recordWithin_result (hc : c.Dependable) (h : Attempting c base g i n p past) :
    Safe c i (fun _ => True) (Recorded c i g.proposal)
      (Declined c base g.attempts g.proposal g.signer i) (g.recordWithin n p) past := by
  induction n generalizing p past with
  | zero =>
    refine Safe.reject fun l hl => ?_
    have known := h.mem_versions
    refine Declined.of_clean h.clean known (.of_later hl) (.outpaced (hl.mem_versions known) ?_)
    simpa using h.paid
  | succ left ih =>
    rw [recordWithin_succ]
    refine Safe.saw_bind (fun _ => trivial) ?_
    intro now l₁ hl₁ hlaw₁
    refine Safe.draw_bind (fun _ => trivial) ?_
    intro sid l₂ hl₂ hlaw₂
    have w₂ : Within c i Event.Incidental past l₂ :=
      ((Within.of_later hl₁).cons hlaw₁ trivial).trans (.of_later hl₂)
    have ready : Ready c base g i left p ⟨sid, g.signer, g.data, now⟩
        (⟨i, .drew .signature sid⟩ :: l₂) := .of_attempting h w₂ hlaw₂
    have seen : ⟨i, .saw now⟩ ∈ ⟨i, .drew .signature sid⟩ :: l₂ :=
      List.mem_cons_of_mem _ (hl₂.mem List.mem_cons_self)
    have stamped : Looked (⟨i, .drew .signature sid⟩ :: l₂) i p now :=
      (Looked.head (hl₁.mem_written h.known)).later
        (hl₂.suffix.trans (List.suffix_cons ⟨i, .drew .signature sid⟩ l₂))
    refine Safe.bind (signed_reasons hc ready.mem_versions ready.policy_eq h.still_open seen)
      (fun _ _ => trivial) ?_ fun e l hl => Declined.of_clean ready.clean ready.mem_versions hl
    rintro _ l₃ hl₃ ⟨in_window, rfl⟩
    have ready₃ := ready.within hl₃
    refine Safe.update_cases hc ready₃.known rfl ?_ trivial (fun _ _ => trivial) ?_ ?_ ?_
    · intro l hl _
      have ready₄ := ready₃.within (.of_later hl)
      exact ready₄.toStarted.change h.still_open h.member h.unsigned rfl rfl ready₄.drawn
        (hl.looked (hl₃.looked stamped)) in_window
    · intro l hl hlaw
      have recorded := (ready₃.within (.of_later hl)).recorded hlaw
      exact Safe.note_bind fun m hm => Safe.done fun m' hm' =>
        (recorded.within (.of_later hm)).within (.of_later hm')
    · intro l e hl _ hlaw gone
      refine Safe.note_bind fun m hm => ?_
      exact resume_unmade hc (ready₃.within (.of_later hl))
        (((Within.refl hl.lawful).cons hlaw trivial).trans (.of_later hm)) gone fun q l => ih
    · intro l e hl _ hlaw lossy
      refine Safe.note_bind fun m hm => ?_
      exact resume_lost hc (ready₃.within (.of_later hl)) lossy hlaw.1
        (((Within.refl hlaw.1).cons hlaw trivial).trans (.of_later hm))

end Signing

/-- A call to sign among rivals, over a dependable store. -/
theorem sign_result (hc : c.Dependable) {request : SigningRequest} (hb : base <:+ past)
    (call : ⟨i, .began (.sign id request correlation)⟩ ∈ past) (idle : attempted past i = []) :
    Safe c i (fun _ => True) (Recorded c i id)
      (Declined c base attempts id request.signer.strip i)
      (sign attempts id request correlation) past := by
  have clean : ∀ l, attempted l i = [] → Unsigned c l i id := by
    intro l hl p _
    rw [ownSignatures, hl]
    exact List.filter_eq_nil_iff.2 fun s _ => by simp
  unfold sign
  refine Safe.find_bind hc ?_ ?_
  · intro l₁ p hl₁ hp
    refine Safe.its_policy_bind hc (mem_written_of_proposal? hp) ?_
    intro l₂ policy hl₂ hpolicy
    have idle₂ : attempted l₂ i = [] := by
      rw [(Within.of_later (hl₁.trans hl₂)).attempted_eq, idle]
    have known := hl₂.mem_versions (mem_versions_of_stored (c := c) hp)
    refine Safe.bind (Signing.checkOpen_reasons hc known hpolicy) (fun _ _ => trivial) ?_
      fun e l hl => Signing.Declined.of_clean (clean l₂ idle₂) known hl
    rintro _ l₃ hl₃ ⟨hopen, member, unsigned⟩
    refine Safe.bind Signing.checkArtifact_reasons (fun _ _ => trivial) ?_
      fun e l hl => Signing.Declined.of_clean (clean l₂ idle₂) known (hl₃.trans hl)
    intro _ l₄ hl₄ accepted
    have idle₄ : attempted l₄ i = [] := by rw [hl₄.attempted_eq, hl₃.attempted_eq, idle₂]
    have copy := ((Copy.of_stored hp hl₂ hpolicy).within hl₃).within hl₄
    have called := hl₄.mem (hl₃.mem (hl₂.mem (hl₁.mem call)))
    refine Signing.recordWithin_result hc ⟨⟨copy, ⟨request, correlation, called, rfl, rfl⟩,
      accepted⟩, hopen, member, unsigned, clean l₄ idle₄, by simp [idle₄], ?_⟩
    intro _ b hbase
    obtain ⟨q, hq, hd⟩ := hl₁.lawful.stored_version (hl₁.mem_versions (versions_suffix hb hbase))
    rw [Stored, hp] at hq
    cases hq
    exact Int.add_le_add_right hd.version_le _
  · intro l hl hnone l' hl'
    have idle' : attempted l' i = [] := by
      rw [(Within.of_later (hl.trans hl')).attempted_eq, idle]
    refine ⟨.missing (List.eq_nil_iff_forall_not_mem.2 fun p hp => ?_), .inl (clean l' idle')⟩
    obtain ⟨q, hq, -⟩ := hl.lawful.stored_version (hl.mem_versions (versions_suffix hb hp))
    rw [Stored, hnone] at hq
    cases hq

end Ledger

end QuorumGate
