import QuorumGate.Proofs.Concurrency.Accounting
import QuorumGate.Proofs.Concurrency.Moments
import QuorumGate.Proofs.Concurrency.Requests

/-!
# Time passes while calls wait

A call that claims a record looks at the clock twice: to see that the window is open, and for the
stamp. Nothing that it waits for lies in between. So if time passes only while calls wait for the
store, the verifier or the deployer, it sees the same time twice, and the stamp is in the window.
-/

namespace QuorumGate

/-- Whether a call has to wait for the answer. -/
def Effect.isAwaited : Effect → Bool
  | store .. | verify .. | deploy .. => true
  | _ => false

namespace World

/-- Whether a call waits for an answer, or for nothing any more. -/
def isWaiting (w : World) (i : Nat) : Bool :=
  match w.request? i with
  | some r => r.isAwaited
  | none => true

/-- The calls that go on without having waited: those that were answered at once since they last
waited. -/
def awake (w : World) (before : List Nat) : Move → List Nat
  | .serve i _ => if w.isWaiting i then before.filter (· ≠ i) else i :: before
  | _ => before

end World

/-- The runs from an empty store on in which the clock does not go backwards, and time passes only
while all calls wait. Requests may be treated in any way. -/
inductive Paced (rules : ExecutionRules) : World → List Nat → Prop where
  | opening (clock : Instant) : Paced rules (.opening [] clock) []
  | move {w v : World} {awake : List Nat} (m : Move) (before : Paced rules w awake)
      (later : Conditions.steady.permits w m)
      (idle : ∀ t, m = .tick t → awake.all w.isWaiting = true)
      (moved : w.move rules m = some v) : Paced rules v (w.awake awake m)

variable {rules : ExecutionRules} {w v : World} {awake : List Nat} {past : Chronicle} {i : Nat}
  {p q b : Proposal} {id e correlation : Text} {t : Instant}

theorem Paced.reachable (h : Paced rules w awake) : Reachable rules .steady w := by
  induction h with
  | opening clock => exact .opening clock
  | move m before later idle moved ih => exact ih.move m later moved

/-! ## Prompt programs -/

namespace Effect

/-- A record that is claimed bears a time within its window. -/
def InTime : Effect → Prop
  | store (.updateProposal q _) _ =>
    q.status = .executed → (∃ x, q.execution = some x ∧ x.outcome = .inFlight) →
      ∃ t, q.executedAt = some t ∧ q.isExpired t = .ok false
  | _ => True

/-- The clock shows what was seen on it since one last waited. -/
def Shows (seen : Option Instant) : (r : Effect) → r.Reply → Prop
  | now, t => ∀ s, seen = some s → s = t
  | _, _ => True

/-- What has been seen of the clock since one last waited. -/
def remembers (seen : Option Instant) : (r : Effect) → r.Reply → Option Instant
  | now, t => some t
  | store .., _ | verify .., _ | deploy .., _ => none
  | _, _ => seen

theorem InTime.of_not_claims {r : Effect} (h : ¬r.Claims) : r.InTime := by
  cases r with
  | store op correlation =>
    cases op with
    | updateProposal q expected => exact fun executed held => absurd ⟨executed, held⟩ h
    | _ => trivial
  | _ => trivial

end Effect

/-- A program claims records in time, if the clock stands still while it does not wait. What it has
seen of the clock since it last waited is carried along. -/
def Prompt (ok : α → Option Instant → Prop) (seen : Option Instant) : Service α → Prop
  | .done a => ok a seen
  | .fail _ => True
  | .ask r next => r.InTime ∧
    ∀ reply, r.Shows seen reply → Prompt ok (r.remembers seen reply) (next reply)

variable {α β : Type} {ok : α → Option Instant → Prop} {ok' : β → Option Instant → Prop}
  {seen : Option Instant} {program : Service α}

namespace Prompt

theorem bind {k : α → Service β} (h : Prompt ok seen program)
    (hk : ∀ a seen, ok a seen → Prompt ok' seen (k a)) : Prompt ok' seen (program >>= k) := by
  induction program generalizing seen with
  | done a => exact hk a seen h
  | fail e => trivial
  | ask r next ih => exact ⟨h.1, fun reply shows => ih reply (h.2 reply shows)⟩

/-- What claims nothing is prompt. -/
theorem of_asks {good : α → Prop} (h : Asks (fun r => ¬r.Claims) good program) :
    Prompt (fun a _ => good a) seen program := by
  induction program generalizing seen with
  | done a => exact h
  | fail e => trivial
  | ask r next ih => exact ⟨.of_not_claims h.1, fun reply _ => ih reply (h.2 reply)⟩

theorem of_incidental {good : α → Prop} (h : Asks Effect.Incidental good program) :
    Prompt (fun a _ => good a) seen program :=
  of_asks (h.mono (fun _ => Effect.Incidental.not_claims) fun _ h => h)

theorem now_bind {k : Instant → Service α}
    (hk : ∀ t, (∀ s, seen = some s → s = t) → Prompt ok (some t) (k t)) :
    Prompt ok seen (Service.now >>= k) := ⟨trivial, hk⟩

theorem ofExcept_bind {ε : Type} {x : Except ε α} {f : ε → Failure} {k : α → Service β}
    (hk : ∀ a, x = .ok a → Prompt ok' seen (k a)) :
    Prompt ok' seen ((Program.ofExcept (x.mapError f) : Service α) >>= k) := by
  cases x with
  | ok a => exact hk a rfl
  | error e => trivial

theorem write_bind {op : StoreOp} {k : Option op.Result → Service α}
    (h : (Effect.store op correlation).InTime) (hk : ∀ r, Prompt ok none (k r)) :
    Prompt ok seen (Service.storeUnlessConflict op correlation >>= k) := by
  refine ⟨h, fun reply _ => ?_⟩
  cases reply with
  | ok r => exact hk (some r)
  | error e =>
    cases e with
    | conflict record expected found => exact hk none
    | _ => trivial

end Prompt

/-- Once it waits, a program does not need what it has seen before. -/
theorem Prompt.forget {r : Effect} {next : r.Reply → Service α} (awaited : r.isAwaited = true)
    (h : Prompt ok seen (.ask r next)) : Prompt ok none (.ask r next) := by
  refine ⟨h.1, fun reply _ => ?_⟩
  cases r with
  | store op correlation => exact h.2 reply trivial
  | verify signer payload signature => exact h.2 reply trivial
  | deploy o limit => exact h.2 reply trivial
  | _ => cases awaited

namespace Ledger

/-- Whatever comes of an expiry, the rejection after it ends the call. -/
theorem expire_then_reject_prompt {n : Nat} {k : β → Service α} {r : Rejection} :
    Prompt ok seen
      (do
        let _ ← expire n p correlation
        let x ← (Service.reject r : Service β)
        k x) :=
  (Prompt.of_incidental expireWithin_asks).bind fun _ _ _ => trivial

end Ledger

namespace Executions

variable {n : Nat} {P : Policy} {x : Execution}

theorem checkExecutable_prompt :
    Prompt (fun _ seen => ∃ t, seen = some t ∧ p.isExpired t = .ok false) seen
      (checkExecutable n P p correlation) := by
  unfold checkExecutable
  by_cases executed : p.status = .executed
  · simp only [executed, ↓reduceIte]
    trivial
  simp only [executed, ↓reduceIte]
  refine Prompt.now_bind fun t _ => Prompt.ofExcept_bind fun current hcurrent => ?_
  cases current with
  | expired => exact Ledger.expire_then_reject_prompt
  | approved => exact ⟨t, rfl, (of_evaluate_eq_approved hcurrent).2.1⟩
  | pending => trivial
  | executed => trivial

theorem Claim.within_prompt {g : Claim} : Prompt (fun _ _ => True) seen (g.within n p) := by
  induction n generalizing p seen with
  | zero => trivial
  | succ n ih =>
    rw [within]
    refine checkExecutable_prompt.bind ?_
    rintro _ _ ⟨t, rfl, in_window⟩
    refine Prompt.now_bind fun now same => ?_
    obtain rfl := same t rfl
    refine Prompt.write_bind (fun _ _ => ⟨t, rfl, in_window⟩) fun r => ?_
    cases r with
    | some stored => trivial
    | none =>
      refine (Prompt.of_incidental Ledger.load_asks).bind fun q _ _ => ?_
      cases q.isClaimedBy g.execution with
      | true => trivial
      | false => exact ⟨trivial, fun _ _ => ih⟩

theorem claim_prompt : Prompt (fun _ _ => True) seen (claim n id e correlation) :=
  (Prompt.of_incidental Ledger.load_asks).bind fun _ _ _ =>
    (Prompt.of_incidental Policies.get_asks).bind fun _ _ _ => Claim.within_prompt

/-- A call to execute claims in time: what it does after the claim claims nothing. -/
theorem execute_prompt {requested : Option Number} :
    Prompt (fun _ _ => True) seen (execute rules id requested correlation) := by
  have concluded : ∀ p e, Asks (fun r => ¬r.Claims) (fun _ => True)
      (do
        let x ← deploy p e (rules.limit requested) correlation
        let stored ← recordWithin p.id x correlation rules.attempts p
        if x.outcome.isFailure then Service.reject (.deploymentFailed id x.outcome x.detail)
        return receipt stored x) := by
    intro p e
    refine deploy_asks.bind fun x final => (recordWithin_asks final).bind fun stored _ => ?_
    cases x.outcome.isFailure with
    | true => exact Asks.reject_bind
    | false => trivial
  refine ⟨trivial, fun e _ => claim_prompt.bind fun p _ _ => ⟨trivial, fun _ _ => ?_⟩⟩
  exact Prompt.of_asks (concluded p e)

end Executions

/-! ## Paced runs -/

/-- What a claim leaves in the store was asked for as a claim. -/
theorem in_window_of_answer {s : Store} {clock : Instant} {r : Effect} {choice : Choice}
    {a : Answer r} (h : answer s clock past r choice = some a) (prompt : r.InTime)
    (wrote : .wrote (some b) (Store.committed (b.claim e t) b.version) ∈ a.events) :
    b.isExpired t = .ok false := by
  have changed : ∀ op correlation, (Effect.store op correlation).InTime →
      .wrote (some b) (Store.committed (b.claim e t) b.version) ∈ s.changes op →
        b.isExpired t = .ok false := by
    intro op correlation prompt made
    cases op with
    | updateProposal q expected =>
      obtain ⟨old, -, -, same⟩ := Store.changes_updateProposal q expected made
      obtain ⟨-, records⟩ := Event.wrote.inj same
      have status : Status.executed = q.status := congrArg Proposal.status records
      have execution : some (Execution.started e) = q.execution :=
        congrArg Proposal.execution records
      have executedAt : some t = q.executedAt := congrArg Proposal.executedAt records
      have expiresAt := congrArg Proposal.expiresAt records
      change b.expiresAt = q.expiresAt at expiresAt
      obtain ⟨u, stamped, in_window⟩ := prompt status.symm ⟨_, execution.symm, rfl⟩
      rw [stamped] at executedAt
      rw [← Option.some.inj executedAt, Proposal.isExpired, ← expiresAt] at in_window
      exact in_window
    | insertProposal q => cases (Store.changes_insertProposal q made).2
    | insertPolicy P => cases Store.changes_insertPolicy P made
    | _ => cases made
  cases comesTo h with
  | @performed op correlation =>
    rcases List.mem_append.1 wrote with failed | made
    · cases hr : (s.perform op).1 <;> simp [reported, hr] at failed
    · exact changed op correlation prompt made
  | @lost op correlation f =>
    rcases List.mem_cons.1 wrote with failed | made
    · cases failed
    · exact changed op correlation prompt made
  | _ => simp at wrote

theorem Effect.remembers_eq_none {r : Effect} {reply : r.Reply} (awaited : r.isAwaited = true) :
    r.remembers seen reply = none := by
  cases r with
  | store | verify | deploy => rfl
  | _ => cases awaited

/-- A call that is answered sees the clock as it stands. -/
theorem shows_of_answer {s : Store} {clock : Instant} {r : Effect} {choice : Choice} {a : Answer r}
    (h : answer s clock past r choice = some a) (current : ∀ u, seen = some u → u = clock) :
    r.Shows seen a.reply ∧ ∀ u, r.remembers seen a.reply = some u → u = clock := by
  cases comesTo h with
  | now => exact ⟨current, fun u hu => (Option.some.inj hu).symm⟩
  | performed | refused | lost | verified | landed => exact ⟨trivial, fun u hu => by cases hu⟩
  | fresh | note | correlate | pause => exact ⟨trivial, current⟩

/-- What holds in a paced run: every claim was stamped within the window, and all calls to execute
go on to claim in time. -/
structure Timed (w : World) (awake : List Nat) : Prop where
  claims : ∀ i b e t,
    ⟨i, .wrote (some b) (Store.committed (b.claim e t) b.version)⟩ ∈ w.chronicle →
      b.isExpired t = .ok false
  tasks : ∀ i id requested correlation rest,
    w.tasks[i]? = some ⟨.execute id requested correlation, rest⟩ →
      ∃ seen, (∀ s, seen = some s → s = w.clock ∧ i ∈ awake) ∧ Prompt (fun _ _ => True) seen rest

namespace Timed

theorem start {call : Call} (h : Timed w awake) (hm : w.move rules (.start call) = some v) :
    Timed v awake := by
  cases World.moved hm with
  | started ready =>
    refine ⟨fun i b e t he => ?_, fun i id requested correlation rest ht => ?_⟩
    · rcases List.mem_cons.1 he with he | he
      · cases he
      · exact h.claims i b e t he
    · by_cases old : i < w.tasks.length
      · rw [List.getElem?_append_left old] at ht
        exact h.tasks i id requested correlation rest ht
      · rw [List.getElem?_append_right (Nat.le_of_not_lt old)] at ht
        cases List.mem_singleton.1 (List.mem_of_getElem? ht)
        exact ⟨none, by simp, Executions.execute_prompt⟩

theorem tick (h : Timed w awake) (idle : awake.all w.isWaiting = true) :
    Timed { w with clock := t } awake := by
  refine ⟨h.claims, fun i id requested correlation rest ht => ?_⟩
  obtain ⟨seen, current, prompt⟩ := h.tasks i id requested correlation rest ht
  have forgotten : Prompt (fun _ _ => True) none rest := by
    cases seen with
    | none => exact prompt
    | some s =>
      have waiting := List.all_eq_true.1 idle i (current s rfl).2
      cases rest with
      | done r => trivial
      | fail f => trivial
      | ask r next =>
        refine Prompt.forget ?_ prompt
        simpa [World.isWaiting, World.request?, ht] using waiting
  exact ⟨none, by simp, forgotten⟩

theorem serve {choice : Choice} (h : Timed w awake) (hw : Reachable rules .steady w)
    (hv : Lawful .steady v.chronicle) (hm : w.move rules (.serve i choice) = some v) :
    Timed v (w.awake awake (.serve i choice)) := by
  cases World.moved hm with
  | @served _ _ call r next a task answered =>
    have request : w.request? i = some r := by simp [World.request?, task]
    have awakened : w.awake awake (.serve i choice) =
        if r.isAwaited then awake.filter (· ≠ i) else i :: awake := by
      simp [World.awake, World.isWaiting, request]
    refine ⟨fun j b e t he => ?_, fun j id requested correlation rest ht => ?_⟩
    · rcases List.mem_append.1 he with he | he
      · -- Only a call to execute claims, and this one is prompt.
        have claimed := List.mem_append_left w.chronicle he
        obtain ⟨rfl, wrote⟩ := mem_entries.1 he
        obtain ⟨-, -, requested, correlation, executes⟩ := hv.of_claim claimed
        have began := List.mem_append_right (entries j a.events) (hw.always.safe j _ task).1
        obtain rfl : call = .execute b.id requested correlation := hv.began_unique began executes
        obtain ⟨seen, -, prompt⟩ := h.tasks j b.id requested correlation _ task
        exact in_window_of_answer answered prompt.1 wrote
      · exact h.claims j b e t he
    · by_cases hij : i = j
      · subst hij
        rw [List.getElem?_set_self (List.getElem?_eq_some_iff.1 task).1] at ht
        cases ht
        obtain ⟨seen, current, prompt⟩ := h.tasks i id requested correlation _ task
        have shown := shows_of_answer answered fun u hu => (current u hu).1
        refine ⟨r.remembers seen a.reply, fun u hu => ⟨shown.2 u hu, ?_⟩,
          prompt.2 a.reply shown.1⟩
        rw [awakened]
        cases awaited : r.isAwaited with
        | true =>
          rw [Effect.remembers_eq_none awaited] at hu
          cases hu
        | false => exact List.mem_cons_self
      · rw [List.getElem?_set_ne hij] at ht
        obtain ⟨seen, current, prompt⟩ := h.tasks j id requested correlation rest ht
        refine ⟨seen, fun u hu => ⟨(current u hu).1, ?_⟩, prompt⟩
        rw [awakened]
        cases r.isAwaited with
        | true => simpa [Ne.symm hij] using (current u hu).2
        | false => exact List.mem_cons_of_mem i (current u hu).2

end Timed

theorem Paced.timed (h : Paced rules w awake) : Timed w awake := by
  induction h with
  | opening clock => exact ⟨by simp [World.opening], by simp [World.opening]⟩
  | @move w v awake m before later idle moved ih =>
    have after : Reachable rules .steady v := before.reachable.move m later moved
    cases m with
    | start call => exact ih.start moved
    | tick t =>
      cases moved
      exact ih.tick (idle t rfl)
    | serve i choice => exact ih.serve before.reachable after.lawful moved

/-! ## Times within the window -/

/-- One reading can be compared with another one, and is not after it. -/
def Instant.UpTo (s t : Instant) : Prop := s.isAware = t.isAware ∧ s.ticks ≤ t.ticks

theorem Proposal.upTo_of_isExpired {u : Instant} (h : p.isExpired t = .ok false)
    (hu : p.expiresAt = some u) : t.UpTo u := by
  rw [isExpired, hu] at h
  simp only [Instant.isAfter] at h
  split at h
  · rename_i same
    exact ⟨same, by simpa using Except.ok.inj h⟩
  · cases h

/-- A record that respects the window of its policy, and on which things happen in the order of
time. -/
structure Proposal.Timely (p : Proposal) (P : Policy) : Prop where
  window : p.expiresAt.map Instant.ticks =
    P.expirySeconds.map (p.createdAt.ticks + · * microsPerSecond)
  offset : ∀ t, p.expiresAt = some t → t.offset = p.createdAt.offset
  ordered : p.moments.Pairwise Instant.UpTo
  signed : ∀ s ∈ p.signatures, ∀ u, p.expiresAt = some u → s.signedAt.UpTo u
  executed : p.status = .executed →
    ∃ t, p.executedAt = some t ∧ ∀ u, p.expiresAt = some u → t.UpTo u

theorem Paced.executed_in_window (h : Paced rules w awake) (hp : Stored .steady w.chronicle id p)
    (executed : p.status = .executed) :
    ∃ t, p.executedAt = some t ∧ p.isExpired t = .ok false := by
  have hl := h.reachable.lawful
  have known := mem_written_of_proposal? hp
  obtain ⟨x, hx⟩ := (hl.executed_iff known).1 executed
  obtain ⟨i, requested, correlation, b, t, -, -, hid, executedAt, claim⟩ :=
    hl.claim_of_executed hp hx
  have origin := hl.origin_eq (mem_written.2 ⟨i, _, claim⟩) known
    ((Store.id_eq_of_proposal? hp).trans hid.symm)
  refine ⟨t, executedAt, ?_⟩
  rw [Proposal.isExpired_of_origin origin]
  exact h.timed.claims i b x.id t claim

/-- If time passes only while calls wait, every stored record is timely. -/
theorem Paced.timely (h : Paced rules w awake) (hp : p ∈ w.store.proposals) :
    ∃ P, w.store.policy? p.policyId = some P ∧ p.Timely P := by
  have hl := h.reachable.lawful
  rw [h.reachable.store_eq] at hp ⊢
  have known := mem_written_of_mem hp
  obtain ⟨P, policy_eq, window⟩ := hl.window known
  obtain ⟨ticks, offset⟩ := Policy.ticks_expiryAt window
  refine ⟨P, policy_eq, ticks, offset, hl.moments_ordered known, ?_, ?_⟩
  · exact fun s hs u hu => Proposal.upTo_of_isExpired (hl.signed_in_window known s hs) hu
  · intro executed
    obtain ⟨t, ht, in_window⟩ := h.executed_in_window (hl.proposal?_of_mem hp) executed
    exact ⟨t, ht, fun u hu => Proposal.upTo_of_isExpired in_window hu⟩

namespace World

/-- Makes the moves of a script, as long as it keeps pace. -/
def keepPace (rules : ExecutionRules) : World → List Nat → List Move → Option (World × List Nat)
  | w, awake, [] => some (w, awake)
  | w, awake, m :: rest =>
    if w.allows (fun _ _ => true) (fun s t => s.isAware == t.isAware && decide (s.ticks ≤ t.ticks) &&
        awake.all w.isWaiting) m then
      (w.move rules m).bind fun v => v.keepPace rules (w.awake awake m) rest
    else none

end World

theorem Paced.of_keepPace {moves : List Move} {after : List Nat} (h : Paced rules w awake)
    (hv : w.keepPace rules awake moves = some (v, after)) : Paced rules v after := by
  induction moves generalizing w awake with
  | nil =>
    cases hv
    exact h
  | cons m rest ih =>
    rw [World.keepPace] at hv
    split at hv
    case isFalse => cases hv
    case isTrue allowed =>
      obtain ⟨u, moved, hv⟩ := Option.bind_eq_some_iff.1 hv
      refine ih (h.move m ?_ ?_ moved) hv
      · exact Conditions.permits_of_allows (fun _ _ _ => trivial)
          (fun s t ok => by simp_all [Conditions.steady]) w m allowed
      · rintro t rfl
        simp_all [World.allows]

namespace OneOfTwo

/-- A proposal with a window of one minute. It is signed and claimed at the last moment, and a
minute passes while it is deployed. -/
def punctualMoves : List Move :=
  proposed { policy with expirySeconds := some 60 } ++
  [.start (.sign (letter 'Q') ⟨letter 'a', none⟩ (letter 'r'))] ++
  serve 2 [.plain, .plain] ++ [.tick (minute (.castSucc (.last 1)))] ++
  serve 2 [.plain, .plain, .id (letter 'S'), .plain, .plain] ++
  [.start (.execute (letter 'Q') none (letter 'r'))] ++
  serve 3 [.id (letter 'E'), .plain, .plain, .plain, .plain, .plain, .plain] ++
  [.tick (minute (.last 2))] ++
  serve 3 [.landing (.reported ⟨true, false, some (letter 'd'), none⟩), .plain, .plain, .plain]

def punctual : World × List Nat :=
  ((World.opening [] start).keepPace OneOfTwo.rules [] punctualMoves).get (by decide +kernel)

theorem paced_punctual : Paced OneOfTwo.rules punctual.1 punctual.2 :=
  (Paced.opening start).of_keepPace (Option.some_get _).symm

theorem last_moment : ∃ p ∈ punctual.1.store.proposals,
    p.moments = [minute 0, minute 1, minute 1, minute 2] ∧
      p.expiresAt.map Instant.ticks = some (minute 1).ticks ∧ ∃ P, p.Timely P := by
  have shown : punctual.1.store.proposals.any (fun p =>
      p.moments == [minute 0, minute 1, minute 1, minute 2] &&
        p.expiresAt.map Instant.ticks == some (minute 1).ticks) = true := by decide +kernel
  obtain ⟨p, hp, known⟩ := List.any_eq_true.1 shown
  simp only [Bool.and_eq_true, beq_iff_eq] at known
  obtain ⟨P, -, timely⟩ := Paced.timely paced_punctual hp
  exact ⟨p, hp, known.1, known.2, P, timely⟩

end OneOfTwo

end QuorumGate
