import QuorumGate.Proofs.Concurrency.Endings
import QuorumGate.Proofs.Concurrency.Stage

/-!
# What callers are told

What a caller may conclude from the answer of a call, while rivals go on and the store reports
conflicts at will: whether one has signed, whether a proposal is expired for good, and whether and
how it was deployed.
-/

namespace QuorumGate

variable {c : Conditions} {rules : ExecutionRules} {w v : World} {past : Chronicle} {i j : Nat}
  {p q b d : Proposal} {id e g correlation : Text} {request : SigningRequest}
  {requested : Option Number}
  {script : List Move}

/-! ## Signers

If the store may commit a signature and report a conflict, a signer who is told of success has
signed once, and one who is turned away has not signed: this holds of every attempt but the last,
after which a call does not look at the record again. -/

/-- A call to sign that returns has one signature on the record, and one that is turned away has
none, except if its last attempt has landed. -/
theorem Reachable.signing_answer (h : Reachable rules .lossy w) :
    (∀ q, w.Returned i (.sign id request correlation) q →
      ∃ p s, w.store.proposal? id = some p ∧ ownSignatures w.chronicle i p = [s] ∧
        ownSignatures w.chronicle i q = [s]) ∧
    (∀ e, w.Raised i (.sign id request correlation) e →
      ((∀ p, w.store.proposal? id = some p → ownSignatures w.chronicle i p = []) ↔
        ¬(e = .rejected (.busy id .signature) ∧ LastLanded rules.attempts w.chronicle i id))) := by
  rw [h.store_eq]
  constructor
  · intro q hq
    obtain ⟨known, s, own, hs⟩ : Recorded .lossy i id q w.chronicle :=
      h.ended Conditions.lossy_dependable hq
    obtain ⟨p, hp, -⟩ := h.lawful.stored_version known
    exact ⟨p, s, hp, hs p hp, own⟩
  · intro e he
    obtain ⟨-, trace⟩ : Declined .lossy [] rules.attempts id request.signer.strip i e w.chronicle :=
      h.ended Conditions.lossy_dependable he
    constructor
    · rintro clean ⟨-, landed⟩
      exact landed.not_unsigned h.lawful clean
    · intro hnot
      rcases trace with clean | ⟨busy, -, landed⟩
      · exact clean
      · exact absurd ⟨busy, landed⟩ hnot

namespace OneOfTwo

/-- A proposal under a policy. -/
def proposed (policy : PolicyDraft) : List Move :=
  [.start (.createPolicy policy (letter 'r'))] ++
  serve 0 [.id (letter 'P'), .plain, .plain, .plain] ++
  [.start (.createProposal draft (letter 'r'))] ++
  serve 1 [.plain, .plain, .id (letter 'Q'), .plain, .plain]

/-- A signature that is committed and reported as a conflict. -/
def unconfirmed : List Move :=
  proposed policy ++
  [.start (.sign (letter 'Q') ⟨letter 'a', none⟩ (letter 'r'))] ++
  serve 2 [.plain, .plain, .plain, .plain, .id (letter 'S'),
    .lost (.conflict (letter 'Q') 1 .nothing), .plain]

/-- Any conflict may be reported. -/
def lossy : World → Move → Bool :=
  World.allows (fun r choice => choice.isDependable r) fun _ _ => true

theorem reachable_lossy (hw : (World.opening [] start).play rules lossy script = some w) :
    Reachable rules .lossy w :=
  Reachable.follows (.opening start) (Follows.of_play
    (Conditions.permits_of_allows (fun _ _ h => h) fun _ _ _ => trivial) .refl hw)

def recovered : World := ((World.opening [] start).play OneOfTwo.rules lossy
  (unconfirmed ++ serve 2 [.plain])).get (by decide +kernel)

theorem play_recovered : (World.opening [] start).play OneOfTwo.rules lossy
    (unconfirmed ++ serve 2 [.plain]) = some recovered := (Option.some_get _).symm

/-- A signature whose response was lost is found by the next attempt. -/
theorem signature_found : ∃ q p s,
    recovered.Returned 2 (.sign (letter 'Q') ⟨letter 'a', none⟩ (letter 'r')) q ∧
      recovered.store.proposal? (letter 'Q') = some p ∧
      ownSignatures recovered.chronicle 2 p = [s] ∧
      ownSignatures recovered.chronicle 2 q = [s] := by
  have hw : Reachable OneOfTwo.rules .lossy recovered := reachable_lossy play_recovered
  have hc : recovered.calls[2]? = some (.sign (letter 'Q') ⟨letter 'a', none⟩ (letter 'r')) := by
    rw [World.calls_play play_recovered]
    rfl
  obtain ⟨q, hq⟩ := World.returned_of_hasReturned hc (by decide +kernel)
  obtain ⟨p, s, hp, hs, hqs⟩ := (Reachable.signing_answer hw).1 q hq
  exact ⟨q, p, s, hq, hp, hs, hqs⟩

def denied : World :=
  ((World.opening [] start).play ⟨1, .whole 120⟩ lossy unconfirmed).get (by decide +kernel)

theorem play_denied : (World.opening [] start).play ⟨1, .whole 120⟩ lossy unconfirmed =
    some denied := (Option.some_get _).symm

/-- A signer can be turned away although the signature is stored: with one attempt, a lost response
is taken for contention. -/
theorem signature_denied :
    ¬∀ rules : ExecutionRules, 1 ≤ rules.attempts → ∀ w, Reachable rules .lossy w →
      ∀ i id request correlation e, w.Raised i (.sign id request correlation) e →
        ∀ p, w.store.proposal? id = some p → ownSignatures w.chronicle i p = [] := by
  intro claimed
  have hw : Reachable ⟨1, .whole 120⟩ .lossy denied := reachable_lossy play_denied
  have hc : denied.calls[2]? = some (.sign (letter 'Q') ⟨letter 'a', none⟩ (letter 'r')) := by
    rw [World.calls_play play_denied]
    rfl
  have he := World.raised_of_failure? hc
    (show denied.failure? 2 = some (.rejected (.busy (letter 'Q') .signature)) by decide +kernel)
  have signed : (denied.store.proposal? (letter 'Q')).any
      (fun p => ownSignatures denied.chronicle 2 p ≠ []) = true := by decide +kernel
  obtain ⟨p, hp, own⟩ := (Option.any_eq_true _ _).1 signed
  have stored : ownSignatures denied.chronicle 2 p ≠ [] := by simpa using own
  exact stored (claimed _ (Nat.le_refl 1) denied hw 2 _ _ _ _ he p hp)

end OneOfTwo

/-! ## Latecomers

A call to execute that finds a proposal overdue closes it before it says so. If a rival's claim gets
in between, the call does not look at what it has found, and says that the window is closed all the
same. -/

theorem Reachable.executed_of_mem_invokers (h : Reachable rules c w) (hi : i ∈ w.invokers id) :
    ∃ p, Stored (.any c.founding) w.chronicle id p ∧ p.status = .executed := by
  obtain ⟨p, x, hp, hx, -⟩ := h.bearer_of_mem_invokers hi
  exact ⟨p, hp, (h.lenient.lawful.executed_iff (mem_written_of_proposal? hp)).2 ⟨x, hx⟩⟩

/-- An expired proposal is expired for good: it is not claimed, and nobody goes to the deployer. -/
theorem Reachable.expired_for_good (h : Reachable rules c w) (hp : w.store.proposal? id = some p)
    (expired : p.status = .expired)
    (hv : Follows rules (Conditions.any c.founding).permits w v) :
    v.store.proposal? id = some p ∧ ¬ClaimCommitted v.chronicle id ∧ v.invokers id = [] := by
  have reached : Reachable rules (.any c.founding) v := h.lenient.follows hv
  rw [h.store_eq] at hp
  obtain ⟨q, hq, hd⟩ := reached.lawful.stored_version
    (versions_suffix hv.chronicle_suffix (mem_versions_of_stored hp))
  obtain rfl := hd.expired expired
  have unexecuted : q.status ≠ .executed := by simp [expired]
  rw [reached.store_eq]
  refine ⟨hq, fun claimed => unexecuted ((reached.lawful.claimCommitted_iff hq).1 claimed), ?_⟩
  refine List.eq_nil_iff_forall_not_mem.2 fun j hj => ?_
  obtain ⟨r, hr, executed⟩ := reached.executed_of_mem_invokers hj
  have same : some r = some q := hr.symm.trans hq
  exact unexecuted (Option.some.inj same ▸ executed)

/-- Who is told that the window is closed has not claimed, and the record is closed. -/
theorem Reachable.closed_of_windowClosed (h : Reachable rules .calm w) {x : Text}
    {t : Option Instant}
    (hr : w.Raised i (.execute id requested correlation) (.rejected (.windowClosed x t))) :
    ∃ p, w.store.proposal? id = some p ∧ p.status.isTerminal = true ∧ p.Overdue w.clock := by
  rw [h.store_eq]
  have hl := h.lawful
  rcases h.ended Conditions.calm_dependable hr with
    ⟨reason, -⟩ | ⟨e, landing, now, newer, older, -, s⟩
  · cases reason with
    | late known late _ turned =>
      rcases turned with ⟨-, q, closed⟩ | busy | ⟨f, hf⟩
      · obtain ⟨p, hp, hd⟩ := hl.stored closed.known closed.id_eq
        refine ⟨p, hp, hd.isTerminal (closed.terminal Conditions.calm_forward), ?_⟩
        obtain ⟨s, seen, overdue⟩ := late
        obtain ⟨known, hid⟩ := mem_versions.1 known
        have origin := hl.origin_eq known (mem_written_of_proposal? hp)
          ((Store.id_eq_of_proposal? hp).trans hid.symm)
        rw [← Proposal.isExpired_of_origin origin] at overdue
        exact (Proposal.overdue_of_isExpired overdue).mono (h.always.clock _ s seen).2
      · cases busy
      · cases hf
  · rcases s.answer with ⟨busy, -⟩ | ⟨q, -, -, ⟨-, r, ok⟩ | ⟨-, failed⟩⟩
    · cases busy
    · cases ok
    · cases failed

/-- A call to execute that says that the window is closed is right about the clock. About the record
it is right exactly if no rival's claim was committed: then the proposal is expired for good. -/
theorem Reachable.window_closed (h : Reachable rules .calm w) {x : Text} {t : Option Instant}
    (hr : w.Raised i (.execute id requested correlation) (.rejected (.windowClosed x t))) :
    ∃ p, w.store.proposal? id = some p ∧ p.Overdue w.clock ∧
      (p.status = .expired ↔ ¬ClaimCommitted w.chronicle id) ∧
      (¬ClaimCommitted w.chronicle id →
        ∀ v, Follows rules (Conditions.any []).permits w v →
          (∃ q, v.store.proposal? id = some q ∧ q.status = .expired) ∧
            ¬ClaimCommitted v.chronicle id ∧ v.invokers id = []) := by
  obtain ⟨p, hp, terminal, overdue⟩ := h.closed_of_windowClosed hr
  have stored : Stored .calm w.chronicle id p := by rw [h.store_eq] at hp; exact hp
  have claimed := h.lawful.claimCommitted_iff stored
  have expired : p.status = .expired ↔ ¬ClaimCommitted w.chronicle id := by
    rw [claimed]
    cases hs : p.status with
    | expired => simp
    | executed => simp
    | pending => rw [hs] at terminal; cases terminal
    | approved => rw [hs] at terminal; cases terminal
  refine ⟨p, hp, overdue, expired, fun unclaimed v hv => ?_⟩
  obtain ⟨hq, still, nobody⟩ := h.expired_for_good hp (expired.2 unclaimed) hv
  exact ⟨⟨p, hq, expired.2 unclaimed⟩, still, nobody⟩

namespace OneOfTwo

theorem minutes_lt : 2 * 60 * 1000000 < microsPerDay := by decide

/-- So many minutes after the start, up to two of them. -/
def minute (n : Fin 3) : Instant where
  date := start.date
  micros := n * 60 * 1000000
  micros_lt := Nat.lt_of_le_of_lt (Nat.mul_le_mul_right _ (Nat.mul_le_mul_right _
    (Nat.le_of_lt_succ n.isLt))) minutes_lt
  offset := start.offset

/-- A signature, without any trouble. -/
def signed : List Move :=
  [.start (.sign (letter 'Q') ⟨letter 'a', none⟩ (letter 'r'))] ++
  serve 2 [.plain, .plain, .plain, .plain, .id (letter 'S'), .plain, .plain]

/-- Two calls for a proposal with a window of one minute that was approved in time. -/
def windowed : List Move :=
  proposed { policy with expirySeconds := some 60 } ++ signed ++
  [.start (.execute (letter 'Q') none (letter 'r')),
    .start (.execute (letter 'Q') none (letter 'r'))]

/-- Nothing fails, and time passes. -/
def calm : World → Move → Bool :=
  World.allows (fun _ choice => choice.isFaithful) fun s t =>
    s.isAware == t.isAware && decide (s.ticks ≤ t.ticks)

theorem reachable_calm (hw : (World.opening [] start).play rules calm script = some w) :
    Reachable rules .calm w := by
  refine Reachable.follows (.opening start) (Follows.of_play
    (Conditions.permits_of_allows (fun _ _ h => h) fun s t ht => ?_) .refl hw)
  simpa [Conditions.calm, Conditions.steady] using ht

/-- A call that comes late and finds nobody before it. -/
def lateMoves : List Move :=
  windowed ++ [.tick (minute 2)] ++
  serve 3 [.id (letter 'E'), .plain, .plain, .plain, .plain, .plain, .plain]

def late : World :=
  ((World.opening [] start).play OneOfTwo.rules calm lateMoves).get (by decide +kernel)

theorem play_late : (World.opening [] start).play OneOfTwo.rules calm lateMoves = some late :=
  (Option.some_get _).symm

theorem late_turned_away : ∃ p, late.store.proposal? (letter 'Q') = some p ∧
    p.status = .expired ∧ late.invokers (letter 'Q') = [] := by
  have hw : Reachable OneOfTwo.rules .calm late := reachable_calm play_late
  have hc : late.calls[3]? = some (.execute (letter 'Q') none (letter 'r')) := by
    rw [World.calls_play play_late]
    rfl
  have hr := World.raised_of_failure? hc (show late.failure? 3 =
    some (.rejected (.windowClosed (letter 'Q') (some (minute 1)))) by decide +kernel)
  have expired : (late.store.proposal? (letter 'Q')).all (·.status = .expired) = true := by
    decide +kernel
  obtain ⟨p, hp, -, hs, forever⟩ := Reachable.window_closed hw hr
  have hp' : p.status = .expired := by simpa [hp] using expired
  exact ⟨p, hp, hp', (forever (hs.1 hp') late .refl).2.2⟩

/-- A call that comes late and finds a rival who has passed the check in time. -/
def rivalMoves : List Move :=
  windowed ++
  serve 4 [.id (letter 'F'), .plain, .plain, .plain, .plain] ++
  [.tick (minute 2)] ++
  serve 3 [.id (letter 'E'), .plain, .plain, .plain, .plain] ++
  serve 4 [.plain] ++
  serve 3 [.plain, .plain]

def rival : World :=
  ((World.opening [] start).play OneOfTwo.rules calm rivalMoves).get (by decide +kernel)

theorem play_rival : (World.opening [] start).play OneOfTwo.rules calm rivalMoves = some rival :=
  (Option.some_get _).symm

/-- A caller can be told that the window is closed although a rival's claim was committed. -/
theorem closed_yet_executed :
    ¬∀ rules : ExecutionRules, 1 ≤ rules.attempts → ∀ w, Reachable rules .calm w →
      ∀ i id requested correlation x t,
        w.Raised i (.execute id requested correlation) (.rejected (.windowClosed x t)) →
          ∃ p, w.store.proposal? id = some p ∧ p.status = .expired := by
  intro claimed
  have hw : Reachable OneOfTwo.rules .calm rival := reachable_calm play_rival
  have hc : rival.calls[3]? = some (.execute (letter 'Q') none (letter 'r')) := by
    rw [World.calls_play play_rival]
    rfl
  have hr := World.raised_of_failure? hc (show rival.failure? 3 =
    some (.rejected (.windowClosed (letter 'Q') (some (minute 1)))) by decide +kernel)
  have executed : (rival.store.proposal? (letter 'Q')).all (·.status = .executed) = true := by
    decide +kernel
  obtain ⟨p, hp, expired⟩ := claimed _ (by decide) rival hw 3 _ _ _ _ _ hr
  simp [hp, expired] at executed

end OneOfTwo

/-! ## Executors

A call whose claim was committed deploys and records how the deployment went, whatever conflicts are
reported to it. Its chronicle is cut where it last looked at the clock: it has deployed before, and
has recorded the outcome since. -/

theorem Settled.deployments_eq {start : Chronicle} {attempts : Nat} {limit : Number}
    {result : Except Failure Receipt} {landing : Landing} {now : Instant} {newer older : Chronicle}
    (h : Settled c start attempts i id limit result e landing now newer older) :
    deployments (newer ++ ⟨i, .saw now⟩ :: older) i = deployments older i := by
  rw [deployments_append fun event he => (h.recording event he).deployment?]
  simp [deployments, Event.deployment?]

/-- Only the claim of a call itself is the claim that it has left. -/
theorem Lawful.landed_of_claim (h : Lawful c past) {t : Instant} {before : Chronicle}
    (claim : ⟨i, .wrote (some b) (Store.committed (b.claim e t) b.version)⟩ ∈ past)
    (hid : b.id = id) (hb : before <:+ past) (landed : ClaimLanded before i id g) :
    g = e ∧ ⟨i, .wrote (some b) (Store.committed (b.claim e t) b.version)⟩ ∈ before := by
  obtain ⟨d, u, hd, hw⟩ := landed
  have one := h.claim_unique claim (hb.subset hw) (hd.trans hid.symm)
  have records :
      Store.committed (d.claim g u) d.version = Store.committed (b.claim e t) b.version :=
    (Event.wrote.inj (congrArg Entry.event one)).2
  have executions : some (Execution.started g) = some (.started e) :=
    congrArg Proposal.execution records
  exact ⟨congrArg Execution.id (Option.some.inj executions), one ▸ hw⟩

/-- A call that has ended and has claimed a record was called for it, and has settled the claim. -/
theorem Reachable.settled_of_claim (h : Reachable rules .lossy w) {result : Except Failure Receipt}
    {t : Instant} (ended : w.Ended i (.execute id requested correlation) result)
    (claim : ⟨i, .wrote (some b) (Store.committed (b.claim e t) b.version)⟩ ∈ w.chronicle) :
    b.id = id ∧
      HasSettled .lossy [] rules.attempts i id (rules.limit requested) result w.chronicle := by
  constructor
  · obtain ⟨-, -, _, _, call⟩ := h.lawful.of_claim claim
    cases h.lawful.began_unique (h.always.safe i _ ended).1 call
    rfl
  · have ends := h.ended Conditions.lossy_dependable ended
    cases result with
    | ok r => exact ends
    | error f =>
      rcases ends with ⟨-, trace⟩ | settled
      · cases trace _ claim _ rfl
      · exact settled

/-- What has become of a claim when its call has ended. It has asked the deployer once, after the
claim, unless its time limit is at most zero. If fewer conflicts were reported while it recorded the
outcome than it has attempts, then the record tells what the deployer answered, and so does the
call. -/
structure ClaimOutcome (rules : ExecutionRules) (w : World) (i : Nat) (id e : Text)
    (requested : Option Number) (claim : Event) (result : Except Failure Receipt)
    (landing : Landing) (now : Instant) (newer older : Chronicle) : Prop where
  cut : w.chronicle = newer ++ ⟨i, .saw now⟩ :: older
  last : ∀ s, ⟨i, .saw s⟩ ∉ newer
  asked : (rules.limit requested).atMostZero = false → ∃ o later before,
    older = later ++ ⟨i, .deployed o landing⟩ :: before ∧ o.key = id ∧ ⟨i, claim⟩ ∈ before ∧
      deployments w.chronicle i = [(o, landing)]
  unasked : (rules.limit requested).atMostZero = true →
    landing = .timedOut ∧ deployments w.chronicle i = []
  recorded : conflicts newer i < rules.attempts → ∃ p x, w.store.proposal? id = some p ∧
    p.execution = some x ∧ x = Executions.finished e (rules.limit requested) landing now ∧
    ((∃ r, result = .ok r) ↔ x.outcome = .succeeded) ∧
    (x.outcome ≠ .succeeded →
      result = .error (.rejected (.deploymentFailed id x.outcome x.detail)))

theorem Reachable.claim_outcome (h : Reachable rules .lossy w) {result : Except Failure Receipt}
    {t : Instant} (ended : w.Ended i (.execute id requested correlation) result)
    (claim : ⟨i, .wrote (some b) (Store.committed (b.claim e t) b.version)⟩ ∈ w.chronicle) :
    ∃ landing now newer older, ClaimOutcome rules w i id e requested
      (.wrote (some b) (Store.committed (b.claim e t) b.version)) result landing now newer older := by
  have hl := h.lawful
  obtain ⟨hid, e', landing, now, newer, older, cut, s⟩ := h.settled_of_claim ended claim
  have same : ∀ before, before <:+ w.chronicle → ClaimLanded before i id e' → e' = e ∧
      ⟨i, .wrote (some b) (Store.committed (b.claim e t) b.version)⟩ ∈ before :=
    fun before hb landed => hl.landed_of_claim claim hid hb landed
  have older_suffix : older <:+ w.chronicle :=
    ⟨newer ++ [⟨i, .saw now⟩], by rw [cut, List.append_assoc]; rfl⟩
  obtain ⟨rfl, -⟩ := same older older_suffix s.claimed
  have deployed := s.deployments_eq
  rw [← cut] at deployed
  refine ⟨landing, now, newer, older, cut, fun u hu => s.recording _ hu, ?_, ?_, ?_⟩
  · intro in_time
    obtain ⟨o, later, before, hsplit, key, landed, once⟩ := s.asked in_time
    have before_suffix : before <:+ older :=
      ⟨later ++ [⟨i, .deployed o landing⟩], by rw [hsplit, List.append_assoc]; rfl⟩
    exact ⟨o, later, before, hsplit, key, (same before (before_suffix.trans older_suffix) landed).2,
      deployed.trans once⟩
  · intro no_time
    exact ⟨(s.unasked no_time).1, deployed.trans (s.unasked no_time).2⟩
  · intro few
    rcases s.answer with ⟨-, count⟩ | ⟨q, hq, hx, told⟩
    · omega
    · rw [← cut] at hq
      obtain ⟨p, hp, -⟩ := hl.stored_version hq
      have final := Executions.outcome_ne_inFlight e' (rules.limit requested) landing now
      refine ⟨p, _, by rw [h.store_eq]; exact hp, hl.execution_stays hq hx final hp, rfl, ?_, ?_⟩
      · rcases told with ⟨succeeded, ok⟩ | ⟨failed, error⟩
        · exact ⟨fun _ => succeeded, fun _ => ok⟩
        · exact ⟨fun ⟨r, ok⟩ => (by rw [error] at ok; cases ok), fun ho => absurd ho failed⟩
      · intro failed
        rcases told with ⟨succeeded, -⟩ | ⟨-, error⟩
        · exact absurd succeeded failed
        · exact error

/-- A claim that was committed is deployed, and its outcome is recorded and told: its call can be
served to the end, and when it has ended that is what has become of the claim. -/
theorem Reachable.claim_settled (h : Reachable rules .lossy w) {t : Instant}
    (called : w.calls[i]? = some (.execute id requested correlation))
    (claim : ⟨i, .wrote (some b) (Store.committed (b.claim e t) b.version)⟩ ∈ w.chronicle) :
    (∃ v result, Follows rules Conditions.lossy.permits w v ∧
      v.Ended i (.execute id requested correlation) result) ∧
    ∀ result, w.Ended i (.execute id requested correlation) result →
      ∃ landing now newer older, ClaimOutcome rules w i id e requested
        (.wrote (some b) (Store.committed (b.claim e t) b.version)) result landing now newer
        older := by
  refine ⟨World.exists_end rules (fun r choice quiet => ?_) called, fun result ended => ?_⟩
  · exact Choice.isDependable_of_isFaithful (Choice.isFaithful_of_isQuiet quiet) r
  · exact h.claim_outcome ended claim

namespace OneOfTwo

/-- Whether an event is the claim of a record. -/
def isClaim : Event → Bool
  | .wrote (some b) p =>
    match p.execution, p.executedAt with
    | some x, some t => p == Store.committed (b.claim x.id t) b.version
    | _, _ => false
  | _ => false

theorem eq_of_isClaim {event : Event} (h : isClaim event = true) :
    ∃ b e t, event = .wrote (some b) (Store.committed (b.claim e t) b.version) := by
  unfold isClaim at h
  split at h
  · split at h
    · rename_i x t hx ht
      exact ⟨_, _, _, congrArg _ (beq_iff_eq.1 h)⟩
    · cases h
  · cases h

/-- A claim and an outcome that are both reported as conflicts, and a deployment that succeeds. -/
def deploymentMoves : List Move :=
  moves ++
  serve 3 [.landing (.reported ⟨true, false, some (letter 'd'), none⟩), .plain,
    .lost (.conflict (letter 'Q') 3 .nothing), .plain, .plain, .plain]

def deployed : World :=
  ((World.opening [] start).play OneOfTwo.rules lossy deploymentMoves).get (by decide +kernel)

theorem play_deployed : (World.opening [] start).play OneOfTwo.rules lossy deploymentMoves =
    some deployed := (Option.some_get _).symm

/-- The call that lost both responses has deployed once and says so. -/
theorem deployed_once : ∃ o landing p x, deployments deployed.chronicle 3 = [(o, landing)] ∧
    deployed.store.proposal? (letter 'Q') = some p ∧ p.execution = some x ∧
    x.outcome = .succeeded := by
  have hw : Reachable OneOfTwo.rules .lossy deployed := reachable_lossy play_deployed
  have hc : deployed.calls[3]? = some (.execute (letter 'Q') none (letter 'r')) := by
    rw [World.calls_play play_deployed]
    rfl
  obtain ⟨r, hr⟩ := World.returned_of_hasReturned hc (by decide +kernel)
  have found : deployed.chronicle.any
      (fun event => event.task == 3 && isClaim event.event) = true := by
    decide +kernel
  obtain ⟨⟨j, event⟩, he, hj⟩ := List.any_eq_true.1 found
  rw [Bool.and_eq_true, beq_iff_eq] at hj
  obtain ⟨rfl, hclaim⟩ := hj
  obtain ⟨b, e, t, rfl⟩ := eq_of_isClaim hclaim
  obtain ⟨landing, now, newer, older, cut, -, asked, -, recorded⟩ :=
    (Reachable.claim_settled hw hc he).2 _ hr
  obtain ⟨o, -, -, -, -, -, once⟩ := asked (by decide)
  have few : conflicts newer 3 < OneOfTwo.rules.attempts := by
    have all : conflicts deployed.chronicle 3 = 2 := by decide +kernel
    rw [cut, conflicts_append] at all
    have eight : OneOfTwo.rules.attempts = 8 := rfl
    omega
  obtain ⟨p, x, hp, hx, -, told, -⟩ := recorded few
  exact ⟨o, landing, p, x, once, hp, hx, told.1 ⟨r, rfl⟩⟩

/-- A call whose time limit lies below zero. -/
def hastyMoves : List Move :=
  proposed policy ++ signed ++
  [.start (.execute (letter 'Q') (some (.whole (-1))) (letter 'r'))] ++
  serve 3 [.id (letter 'E'), .plain, .plain, .plain, .plain, .plain, .plain, .plain, .plain, .plain,
    .plain]

def hasty : World :=
  ((World.opening [] start).play OneOfTwo.rules lossy hastyMoves).get (by decide +kernel)

theorem play_hasty : (World.opening [] start).play OneOfTwo.rules lossy hastyMoves = some hasty :=
  (Option.some_get _).symm

/-- A call with a time limit below zero claims a proposal and never deploys it. -/
theorem claimed_never_deployed :
    ¬∀ rules : ExecutionRules, 1 ≤ rules.attempts → ∀ w, Reachable rules .lossy w →
      ∀ i id requested correlation result, w.Ended i (.execute id requested correlation) result →
        ∀ b e t, ⟨i, .wrote (some b) (Store.committed (b.claim e t) b.version)⟩ ∈ w.chronicle →
          ∃ o landing, deployments w.chronicle i = [(o, landing)] := by
  intro claimed
  have hw : Reachable OneOfTwo.rules .lossy hasty := reachable_lossy play_hasty
  have hc : hasty.calls[3]? = some (.execute (letter 'Q') (some (.whole (-1))) (letter 'r')) := by
    rw [World.calls_play play_hasty]
    rfl
  obtain ⟨f, hf⟩ := Option.isSome_iff_exists.1 (show (hasty.failure? 3).isSome = true by
    decide +kernel)
  have he := World.raised_of_failure? hc hf
  have found : hasty.chronicle.any
      (fun event => event.task == 3 && isClaim event.event) = true := by
    decide +kernel
  obtain ⟨⟨j, event⟩, hmem, hj⟩ := List.any_eq_true.1 found
  rw [Bool.and_eq_true, beq_iff_eq] at hj
  obtain ⟨rfl, hclaim⟩ := hj
  obtain ⟨b, e, t, rfl⟩ := eq_of_isClaim hclaim
  obtain ⟨o, landing, once⟩ := claimed _ (by decide) hasty hw 3 _ _ _ _ he b e t hmem
  have none_deployed : (deployments hasty.chronicle 3).length = 0 := by decide +kernel
  rw [once] at none_deployed
  cases none_deployed

end OneOfTwo

end QuorumGate
