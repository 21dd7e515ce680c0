import QuorumGate.Proofs.Concurrency.Accounting

/-!
# A contest to execute

Any number of calls execute one approved proposal side by side, within its window, and nobody else
writes to it. One of them has its claim committed. A conflict that another one is told of was paid
for by this claim, so that the copy that it loads next shows that the proposal is executed: two
attempts are enough to find out that one has lost.
-/

namespace QuorumGate

variable {rules : ExecutionRules} {u v w : World} {p q b old new : Proposal} {past : Chronicle}
  {i j : Nat} {id e correlation : Text} {requested : Option Number} {x : Execution} {f : Failure}
  {t : Instant} {P : Policy}

/-- The moves over a store that never fails, within the window of a proposal. -/
def Undisturbed (p : Proposal) (w : World) : Move → Prop
  | .start _ => True
  | .tick t => p.isExpired t = .ok false
  | .serve i choice => ∀ r, w.request? i = some r → choice.isFaithful = true

theorem Undisturbed.faultless {m : Move} (h : Undisturbed p w m) :
    Conditions.faultless.permits w m := by
  cases m with
  | start call => trivial
  | tick t => trivial
  | serve i choice => exact h

/-- Nobody sees the window closed. -/
theorem Follows.in_window (h : Follows rules (Undisturbed p) w v)
    (hw : p.isExpired w.clock = .ok false) :
    ∀ i t, ⟨i, .saw t⟩ ∈ v.since w → p.isExpired t = .ok false := by
  have seen := (h.events (fun t => p.isExpired t = .ok false)
    (Q := fun e => ∀ t, e = .saw t → p.isExpired t = .ok false) hw
    (fun _ _ permitted => permitted) (fun _ _ began => nomatch began) ?_).2
  · exact fun i t he => seen _ he t rfl
  · rintro u i choice r a - - open_yet answered e he t rfl
    obtain rfl : t = u.clock := tells_of_answer answered he
    exact open_yet

/-- A call to execute a proposal that has begun since an earlier world. -/
structure ExecutesIn (w v : World) (id : Text) (i : Nat) : Prop where
  since : w.tasks.length ≤ i
  call : ∃ requested correlation, v.calls[i]? = some (.execute id requested correlation)

theorem ExecutesIn.of_calls (h : ExecutesIn w v id i) (hc : u.calls = v.calls) :
    ExecutesIn w u id i := ⟨h.since, hc ▸ h.call⟩

/-- A contest to execute: some calls want to execute a proposal that is stored as approved, within
its window, over a store that never fails. Nobody else writes to it. Each call has two attempts at
least. -/
structure Contest (rules : ExecutionRules) (p : Proposal) (w v : World) : Prop where
  reached : Reachable rules (.any []) w
  stored : w.store.proposal? p.id = some p
  approved : p.status = .approved
  in_window : p.isExpired w.clock = .ok false
  attempts : 2 ≤ rules.attempts
  run : Follows rules (Undisturbed p) w v
  alone : ∀ e ∈ v.since w, ∀ b q, e.event = .wrote b q → q.id = p.id → ExecutesIn w v p.id e.task
  entered : ∃ i, ExecutesIn w v p.id i

/-- All calls of a contest have ended. -/
def ContestOver (p : Proposal) (w v : World) : Prop := ∀ i, ExecutesIn w v p.id i → v.HasEnded i

/-- What may be stored in the course of a contest: the record as it was, with the claim of one call,
or with its outcome as well. -/
inductive Contested (w v : World) (p : Proposal) : Proposal → Prop where
  | untouched : Contested w v p p
  | claimed {i : Nat} {e : Text} {t : Instant} (entered : ExecutesIn w v p.id i)
      (put : ⟨i, .wrote (some p) (Store.committed (p.claim e t) p.version)⟩ ∈ v.chronicle) :
      Contested w v p (Store.committed (p.claim e t) p.version)
  | recorded {i : Nat} {e : Text} {t : Instant} {x : Execution} (entered : ExecutesIn w v p.id i)
      (put : ⟨i, .wrote (some p) (Store.committed (p.claim e t) p.version)⟩ ∈ v.chronicle)
      (same : x.id = e) (final : x.outcome ≠ .inFlight) :
      Contested w v p (Store.committed
        ((Store.committed (p.claim e t) p.version).withExecution x) (p.version + 1))

namespace Contested

theorem origin_eq (h : Contested w v p q) : q.origin = p.origin := by
  cases h <;> simp

theorem eq_of_open (h : Contested w v p q) (still_open : q.status.isTerminal = false) : q = p := by
  cases h with
  | untouched => rfl
  | claimed => cases still_open
  | recorded => cases still_open

theorem ne_expired (h : Contested w v p q) (approved : p.status = .approved) :
    q.status ≠ .expired := by
  cases h with
  | untouched => simp [approved]
  | claimed => exact nofun
  | recorded => exact nofun

/-- An outcome is there after two writes. -/
theorem of_outcome (h : Contested w v p q) (unheld : p.execution = none)
    (hx : q.execution = some x) (final : x.outcome ≠ .inFlight) :
    q.status = .executed ∧ q.version = p.version + 2 := by
  cases h with
  | untouched =>
    rw [unheld] at hx
    cases hx
  | claimed =>
    cases hx
    exact absurd rfl final
  | recorded => exact ⟨rfl, Int.add_assoc p.version 1 1⟩

/-- An executed record was claimed by one call. -/
theorem claim_of_executed (h : Contested w v p q) (approved : p.status = .approved)
    (executed : q.status = .executed) :
    ∃ i e t, ExecutesIn w v p.id i ∧
      ⟨i, .wrote (some p) (Store.committed (p.claim e t) p.version)⟩ ∈ v.chronicle := by
  cases h with
  | untouched =>
    rw [approved] at executed
    cases executed
  | @claimed i e t entered put => exact ⟨i, e, t, entered, put⟩
  | @recorded i e t x entered put => exact ⟨i, e, t, entered, put⟩

end Contested

/-- How a contest has been decided: one call has won, with an execution of its own. It has not been
told of any conflict, and it alone has gone to the deployer, once, if its time limit left it the
time. All others were told that the proposal was executed. The record bears the execution of the
winner with its outcome, after two writes. -/
structure Decided (rules : ExecutionRules) (p : Proposal) (w v : World) (i : Nat)
    (requested : Option Number) (q : Proposal) (x : Execution) : Prop where
  since : w.tasks.length ≤ i
  won : ∃ correlation result, v.Ended i (.execute p.id requested correlation) result ∧
    Concludes p.id x result
  invokers : v.invokers p.id = if (rules.limit requested).atMostZero then [] else [i]
  unasked : (rules.limit requested).atMostZero = true → x.outcome = .indeterminate
  unopposed : conflicts v.chronicle i = 0
  lost : ∀ j, ExecutesIn w v p.id j → j ≠ i → ∃ requested correlation,
    v.Raised j (.execute p.id requested correlation) (.rejected (.executedBefore p.id q.executedAt))
  stored : v.store.proposal? p.id = some q
  executed : q.status = .executed
  execution : q.execution = some x
  drawn : ⟨i, .drew .execution x.id⟩ ∈ v.chronicle
  final : x.outcome ≠ .inFlight
  version : q.version = p.version + 2

namespace Contest

/-! ## What is written in a contest -/

variable (C : Contest rules p w v)
include C

theorem sequel : Sequel .faultless rules w v :=
  ⟨C.reached, ⟨_, rfl⟩, Conditions.faultless_dependable,
    C.run.mono fun _ _ => Undisturbed.faultless⟩

theorem lawful : Lawful .faultless v.chronicle := C.sequel.lawful

theorem stored_before : Stored .faultless w.chronicle p.id p := C.sequel.stored_before C.stored

theorem known : p ∈ versions v.chronicle p.id := C.sequel.known C.stored

theorem still_open : p.status.isTerminal = false := by
  rw [C.approved]
  rfl

/-- The calls of a contest see the window open. -/
theorem sees_open (hi : w.tasks.length ≤ i) (seen : ⟨i, .saw t⟩ ∈ v.chronicle)
    (origin : q.origin = p.origin) : q.isExpired t = .ok false := by
  rw [Proposal.isExpired_of_origin origin]
  rw [← World.since_append C.sequel.suffix] at seen
  rcases List.mem_append.1 seen with seen | seen
  · exact C.run.in_window C.in_window i t seen
  · exact absurd seen (C.reached.not_mem_of_le hi _)

/-- A change that a call of a contest makes is the claim of the record or its outcome. -/
theorem contested_change (hb : ⟨i, .wrote (some old) new⟩ :: past <:+ v.chronicle)
    (hc : Change .faultless past i old new) (hold : Contested w v p old)
    (hi : ExecutesIn w v p.id i) : Contested w v p new := by
  obtain ⟨requested, correlation, called⟩ := hi.call
  have mine := C.sequel.began called
  have older : ∀ entry, entry ∈ past → entry ∈ v.chronicle :=
    fun entry he => hb.subset (List.mem_cons_of_mem _ he)
  have wrote := hb.subset List.mem_cons_self
  cases hc with
  | signed s call => cases C.lawful.began_unique mine (older _ call)
  | expired _ seen overdue =>
    rw [C.sees_open hi.since (older _ seen) hold.origin_eq] at overdue
    cases overdue
  | claimed _ _ still_open =>
    obtain rfl := hold.eq_of_open still_open
    exact .claimed hi wrote
  | @recorded x y executed held once final drawn =>
    have first := C.reached.hasOutcome_eq_false C.sequel.run hi.since wrote
    cases hold with
    | untouched =>
      rw [C.approved] at executed
      cases executed
    | claimed entered put =>
      cases held
      refine .recorded entered put ?_ final
      rcases once with same | same
      · exact congrArg Execution.id same.symm
      · exact congrArg Execution.id same.symm
    | recorded _ _ _ before => simp [Proposal.hasOutcome, Store.committed,
        Proposal.withExecution, before] at first

/-- In the course of a contest nothing else is ever stored. -/
theorem contested_since {news : Chronicle} (hn : news ++ w.chronicle <:+ v.chronicle) :
    ∃ q, Stored .faultless (news ++ w.chronicle) p.id q ∧ Contested w v p q :=
  C.sequel.stored_since (ExecutesIn w v p.id) C.stored_before .untouched C.alone
    (fun _ _ _ _ hs hi hc hold => C.contested_change hs hc hold hi) hn

theorem contested : ∃ q, Stored .faultless v.chronicle p.id q ∧ Contested w v p q :=
  C.sequel.stored_after (ExecutesIn w v p.id) C.stored_before .untouched C.alone
    fun _ _ _ _ hs hi hc hold => C.contested_change hs hc hold hi

/-- Each version is one from before the contest or one of the contest. -/
theorem version_cases (hb : b ∈ versions v.chronicle p.id) :
    b ∈ versions w.chronicle p.id ∨ Contested w v p b := by
  obtain ⟨known, hid⟩ := mem_versions.1 hb
  obtain ⟨i, old, wrote⟩ := mem_written.1 known
  have whole := World.since_append C.sequel.suffix
  rw [← whole] at wrote
  rcases List.mem_append.1 wrote with wrote | wrote
  · right
    obtain ⟨later, recent, split⟩ := List.append_of_mem wrote
    have hs : (⟨i, .wrote old b⟩ :: recent) ++ w.chronicle <:+ v.chronicle :=
      ⟨later, by rw [← whole, split, List.append_assoc]⟩
    obtain ⟨q, hq, holds⟩ := C.contested_since hs
    have found := Lawful.proposal?_wrote (C.lawful.of_suffix hs) p.id
    rw [if_pos hid] at found
    obtain rfl := Option.some.inj (found.symm.trans hq)
    exact holds
  · exact .inl (mem_versions.2 ⟨mem_written.2 ⟨i, old, wrote⟩, hid⟩)

theorem of_version (hb : b ∈ versions v.chronicle p.id) : b.origin = p.origin :=
  C.lawful.version_origin C.known hb

/-- No open version is newer than the one that the contest is about. -/
theorem descends_of_open (hb : b ∈ versions v.chronicle p.id)
    (still_open : b.status.isTerminal = false) : Descends b p := by
  rcases C.version_cases hb with before | holds
  · exact Recent.of_stored List.suffix_rfl C.sequel.lawful_before C.stored_before b before
  · rw [holds.eq_of_open still_open]
    exact .refl p

/-- What is stored in the end descends from every version. -/
theorem descends (hb : b ∈ versions v.chronicle p.id) (hq : Stored .faultless v.chronicle p.id q) :
    Descends b q := Recent.of_stored List.suffix_rfl C.lawful hq b hb

theorem ne_expired (hb : b ∈ versions v.chronicle p.id) : b.status ≠ .expired := by
  intro expired
  obtain ⟨q, hq, holds⟩ := C.contested
  rw [← (C.descends hb hq).expired expired] at expired
  exact holds.ne_expired C.approved expired

theorem quorum (hP : (replay Conditions.faultless.founding v.chronicle).policy? p.policyId = some P) :
    P.threshold ≤ p.signatures.length := by
  have stage := Conditions.faultless_dependable.stage C.lawful C.known hP C.still_open
  rw [C.approved, Proposal.quorumStatus] at stage
  split at stage
  · assumption
  · cases stage

/-! ## How the calls of a contest end -/

/-- Who is turned away finds the proposal executed. -/
theorem executed_of_refused (hi : w.tasks.length ≤ i)
    (refused : ClaimRefused .faultless w.chronicle rules.attempts p.id i v.chronicle f) :
    ∃ b ∈ versions v.chronicle p.id, b.status = .executed ∧
      f = .rejected (.executedBefore p.id b.executedAt) := by
  have before := mem_versions_of_stored C.stored_before
  have enough := C.attempts
  cases refused with
  | missing unknown =>
    rw [unknown] at before
    cases before
  | @executed b known executed => exact ⟨b, known, executed, rfl⟩
  | late known late seer =>
    rcases seer with expired | rfl
    · exact absurd expired (C.ne_expired known)
    · obtain ⟨t, seen, overdue⟩ := late
      rw [C.sees_open hi seen (C.of_version known)] at overdue
      cases overdue
  | incomparable known seen fault =>
    rw [C.sees_open hi seen (C.of_version known)] at fault
    cases fault
  | short known recent policy_eq short =>
    rw [Proposal.policyId_eq_of_origin (C.of_version known)] at policy_eq
    have quorum := C.quorum policy_eq
    have more := (recent p before).signatures.length_le
    omega
  | outpaced spent =>
    -- More attempts were paid for than there are writes before the claim.
    obtain ⟨b, known, still_open, outrun⟩ := spent Conditions.faultless_faithful (by omega)
    have newest := (C.descends_of_open known still_open).version_le
    have paid := outrun p before
    omega

/-- A claim that is settled was made of the record as it was, and no conflict was reported to its
call. -/
theorem unopposed {attempts : Nat} {limit : Number} {result : Except Failure Receipt}
    {landing : Landing} {now : Instant} {newer older : Chronicle}
    (cut : v.chronicle = newer ++ ⟨i, .saw now⟩ :: older)
    (s : Settled .faultless w.chronicle attempts i p.id limit result e landing now newer older) :
    conflicts v.chronicle i = 0 := by
  obtain ⟨b, q, t, hid, rfl, put, paid, only⟩ := s.at_once Conditions.faultless_faithful
  have claim : ⟨i, .wrote (some b) (Store.committed (b.claim e t) b.version)⟩ ∈ v.chronicle := by
    rw [cut]
    exact List.mem_append_right _ (List.mem_cons_of_mem _ put)
  obtain ⟨known, still_open, -⟩ := C.lawful.of_claim claim
  have newest := (C.descends_of_open (hid ▸ known) still_open).version_le
  have paid := paid p (mem_versions_of_stored C.stored_before)
  have at_once : conflicts newer i = 0 := by
    refine conflicts_eq_zero fun event he => ?_
    rw [only event he]
    rfl
  rw [cut, conflicts_append, at_once, conflicts_cons_of_not rfl]
  omega

/-- A call that has ended has settled a claim, or it was told that the proposal is executed. -/
theorem settled_or_refused {result : Except Failure Receipt} (hi : w.tasks.length ≤ i)
    (ended : v.Ended i (.execute p.id requested correlation) result) :
    HasSettled .faultless w.chronicle rules.attempts i p.id (rules.limit requested) result
        v.chronicle ∨
      Unclaimed v.chronicle i ∧ ∃ b ∈ versions v.chronicle p.id, b.status = .executed ∧
        result = .error (.rejected (.executedBefore p.id b.executedAt)) := by
  have ends := C.sequel.ends hi ended
  cases result with
  | ok r => exact .inl ends
  | error f =>
    rcases ends with ⟨reason, trace⟩ | settled
    · obtain ⟨b, hb, executed, rfl⟩ := C.executed_of_refused hi reason
      exact .inr ⟨trace, b, hb, executed, rfl⟩
    · exact .inl settled

/-- As soon as one call has ended, the proposal is executed. -/
theorem executed_of_ended {result : Except Failure Receipt} (hi : w.tasks.length ≤ i)
    (ended : v.Ended i (.execute p.id requested correlation) result)
    (hq : Stored .faultless v.chronicle p.id q) : q.status = .executed := by
  rcases C.settled_or_refused hi ended with settled | ⟨-, b, hb, executed, -⟩
  · obtain ⟨e, b, t, hid, claim⟩ := settled.claimed
    have known := mem_versions.2 ⟨mem_written.2 ⟨i, _, claim⟩, hid⟩
    exact ((C.descends known hq).executed rfl).1
  · exact ((C.descends hb hq).executed executed).1

/-! ## The winner -/

/-- The deployer is called by the one who has claimed, if the time limit leaves him the time. -/
theorem invokers_eq {limit : Number} {result : Except Failure Receipt} {landing : Landing}
    {now : Instant} {newer older : Chronicle}
    (ended : v.Ended i (.execute p.id requested correlation) result)
    (cut : v.chronicle = newer ++ ⟨i, .saw now⟩ :: older)
    (s : Settled .faultless w.chronicle rules.attempts i p.id limit result e landing now newer older)
    (mine : Bearer (.any []) v.chronicle i p.id) :
    v.invokers p.id = if limit.atMostZero then [] else [i] := by
  have only : ∀ j ∈ v.invokers p.id, j = i := fun j hj =>
    (C.sequel.reached_after.bearer_of_mem_invokers hj).unique C.sequel.reached_after.lawful mine
  have deployed := s.deployments_eq
  rw [← cut] at deployed
  cases no_time : limit.atMostZero with
  | true =>
    refine List.eq_nil_iff_forall_not_mem.2 fun j hj => ?_
    obtain rfl := only j hj
    rcases List.mem_append.1 hj with hj | hj
    · have deploying := (List.mem_filter.1 hj).2
      rw [ended.isDeploying_eq_false] at deploying
      cases deploying
    · obtain ⟨o, l, he, -⟩ := mem_deployers.1 hj
      have answered := mem_deployments.2 he
      rw [deployed, (s.unasked no_time).2] at answered
      cases answered
  | false =>
    obtain ⟨o, mid, before, split, key, -, -⟩ := s.asked no_time
    have asked : i ∈ v.invokers p.id := by
      refine List.mem_append_right _ (mem_deployers.2 ⟨o, landing, ?_, key⟩)
      rw [cut, split]
      simp
    refine List.perm_singleton.1 ((List.perm_ext_iff_of_nodup
      (C.sequel.reached_after.nodup_invokers p.id) (List.pairwise_singleton _ i)).2 fun j => ?_)
    rw [List.mem_singleton]
    exact ⟨only j, fun hj => hj ▸ asked⟩

/-- A call that has ended beside the one that has claimed was told that the proposal was executed
when it was. -/
theorem lost_of_claim (hj : ExecutesIn w v p.id j) (finished : ContestOver p w v) (hne : j ≠ i)
    (claim : ⟨i, .wrote (some p) (Store.committed (p.claim e t) p.version)⟩ ∈ v.chronicle)
    (hq : Stored .faultless v.chronicle p.id q) : ∃ requested correlation,
      v.Raised j (.execute p.id requested correlation)
        (.rejected (.executedBefore p.id q.executedAt)) := by
  obtain ⟨requested, correlation, hc⟩ := hj.call
  obtain ⟨result, ended⟩ := (finished j hj).of_calls hc
  refine ⟨requested, correlation, ?_⟩
  rcases C.settled_or_refused hj.since ended with settled | ⟨-, b, hb, executed, rfl⟩
  · obtain ⟨g, b, s, hid, put⟩ := settled.claimed
    exact absurd (congrArg Entry.task (C.lawful.claim_unique claim put hid)) hne
  · rw [((C.descends hb hq).executed executed).2.2.1]
    exact ended

/-- The call that has claimed has won. -/
theorem decided_of_claim (hi : ExecutesIn w v p.id i) (finished : ContestOver p w v)
    (claim : ⟨i, .wrote (some p) (Store.committed (p.claim e t) p.version)⟩ ∈ v.chronicle)
    (hq : Stored .faultless v.chronicle p.id q) (holds : Contested w v p q) :
    ∃ requested x, Decided rules p w v i requested q x := by
  obtain ⟨requested, correlation, hc⟩ := hi.call
  obtain ⟨result, ended⟩ := (finished i hi).of_calls hc
  obtain ⟨g, landing, now, newer, older, cut, s⟩ : HasSettled .faultless w.chronicle rules.attempts
      i p.id (rules.limit requested) result v.chronicle := by
    rcases C.settled_or_refused hi.since ended with settled | ⟨unclaimed, -⟩
    · exact settled
    · cases unclaimed _ claim _ rfl
  have unopposed := C.unopposed cut s
  have enough := C.attempts
  -- No conflict was reported, and so the outcome was recorded.
  rcases s.answer with ⟨-, count⟩ | ⟨r, hr, hx, told⟩
  · rw [cut, conflicts_append] at unopposed
    omega
  rw [← cut] at hr
  have final := Executions.outcome_ne_inFlight g (rules.limit requested) landing now
  have execution := C.lawful.execution_stays hr hx final hq
  have unheld := C.lawful.execution_eq_none (mem_versions.1 C.known).1 C.still_open
  obtain ⟨executed, version⟩ := holds.of_outcome unheld execution final
  have drawn : ⟨i, .drew .execution (Executions.finished g (rules.limit requested) landing now).id⟩ ∈
      v.chronicle := by
    rw [Executions.finished_id, cut]
    exact List.mem_append_right _ (List.mem_cons_of_mem _ s.drawn)
  refine ⟨requested, _, hi.since, ⟨correlation, result, ended, told⟩,
    C.invokers_eq ended cut s ⟨q, _, hq, execution, drawn⟩, ?_, unopposed, ?_, ?_, executed,
    execution, drawn, final, version⟩
  · intro no_time
    rw [(s.unasked no_time).1]
    rfl
  · exact fun j hj hne => C.lost_of_claim hj finished hne claim hq
  · rw [C.sequel.reached_after.store_eq]
    exact hq

/-! ## Contests come to an end -/

/-- A call of a contest is served, and the contest goes on. -/
theorem serve {choice : Choice} (hi : ExecutesIn w v p.id i) (hq : choice.isQuiet = true)
    (hm : v.move rules (.serve i choice) = some u) : Contest rules p w u := by
  have calls : u.calls = v.calls := by simpa [Move.call?] using World.calls_move hm
  obtain ⟨j, hj⟩ := C.entered
  refine { C with
    run := C.run.move (.serve i choice) (fun _ _ => Choice.isFaithful_of_isQuiet hq) hm
    alone := World.writers_served (ExecutesIn w u p.id) C.sequel.suffix hm (hi.of_calls calls)
      fun e he b q hw hid => (C.alone e he b q hw hid).of_calls calls
    entered := ⟨j, hj.of_calls calls⟩ }

/-- However far a contest has come, its calls can be served to their end. -/
theorem completes : ∃ u, Contest rules p w u ∧ Follows rules (Undisturbed p) v u ∧
    u.calls = v.calls ∧ ContestOver p w u := by
  have called : ∀ i, ExecutesIn w v p.id i → ∃ call, v.calls[i]? = some call := by
    intro i hi
    obtain ⟨requested, correlation, hc⟩ := hi.call
    exact ⟨_, hc⟩
  have served : ∀ u u' i choice, Contest rules p w u ∧ Follows rules (Undisturbed p) v u →
      u.calls = v.calls → ExecutesIn w v p.id i → choice.isQuiet = true →
      u.move rules (.serve i choice) = some u' →
        Contest rules p w u' ∧ Follows rules (Undisturbed p) v u' := by
    rintro u u' i choice ⟨C', follows⟩ calls hi quiet moved
    exact ⟨C'.serve (hi.of_calls calls) quiet moved,
      follows.move (.serve i choice) (fun _ _ => Choice.isFaithful_of_isQuiet quiet) moved⟩
  obtain ⟨u, ⟨last, follows⟩, calls, ended⟩ :=
    World.exists_ended rules (ExecutesIn w v p.id)
    (fun u => Contest rules p w u ∧ Follows rules (Undisturbed p) v u) called ⟨C, .refl⟩ served
  exact ⟨u, last, follows, calls, fun i h => ended i (h.of_calls calls.symm)⟩

/-- The calls of a contest can be served to their end, whatever has happened so far. When they have
ended, one of them has won. -/
theorem one_winner :
    (∃ u, Contest rules p w u ∧ Follows rules (Undisturbed p) v u ∧ u.calls = v.calls ∧
      ContestOver p w u) ∧
    (ContestOver p w v → ∃ i requested q x, Decided rules p w v i requested q x) := by
  refine ⟨C.completes, fun finished => ?_⟩
  obtain ⟨q, hq, holds⟩ := C.contested
  obtain ⟨j, hj⟩ := C.entered
  obtain ⟨requested, correlation, hc⟩ := hj.call
  obtain ⟨result, ended⟩ := (finished j hj).of_calls hc
  have executed := C.executed_of_ended hj.since ended hq
  obtain ⟨i, e, t, hi, claim⟩ := holds.claim_of_executed C.approved executed
  obtain ⟨requested, x, decided⟩ := C.decided_of_claim hi finished claim hq holds
  exact ⟨i, requested, q, x, decided⟩

end Contest

namespace OneOfTwo

/-- Whether nothing fails. Time stands still. -/
def undisturbed : World → Move → Bool :=
  World.allows (fun _ choice => choice.isFaithful) fun _ _ => false

theorem undisturbed_of_allowed (w : World) (m : Move) (h : undisturbed w m = true) :
    Undisturbed p w m := by
  cases m with
  | start call => trivial
  | tick t => cases h
  | serve i choice =>
    intro r hr
    rwa [undisturbed, World.allows, hr] at h

def ready : World :=
  ((World.opening [] start).play OneOfTwo.rules lossy (proposed policy ++ signed)).get
    (by decide +kernel)

theorem play_ready : (World.opening [] start).play OneOfTwo.rules lossy (proposed policy ++ signed) =
    some ready := (Option.some_get _).symm

theorem calls_ready : ready.calls =
    [.createPolicy policy (letter 'r'), .createProposal draft (letter 'r'),
      .sign (letter 'Q') ⟨letter 'a', none⟩ (letter 'r')] := World.calls_play play_ready

def readied : Proposal := (ready.store.proposal? (letter 'Q')).get (by decide +kernel)

theorem id_readied : readied.id = letter 'Q' := by decide +kernel

/-! ### Races

Some calls execute the approved proposal with one time limit, and nothing else begins. -/

/-- How the calls of a race are begun. -/
def race (n : Nat) (limit : Option Number) : List Move :=
  List.replicate n (.start (.execute (letter 'Q') limit (letter 'r')))

section

variable {n : Nat} {limit : Option Number} {script : List Move}

theorem executesIn_race (calls : v.calls = ready.calls ++
      List.replicate n (.execute (letter 'Q') limit (letter 'r')))
    (hi : ready.tasks.length ≤ i) (hn : i < ready.tasks.length + n) :
    ExecutesIn ready v readied.id i := by
  refine ⟨hi, limit, letter 'r', ?_⟩
  have length : ready.calls.length = ready.tasks.length := List.length_map _
  rw [calls, id_readied, List.getElem?_append_right (by omega), List.getElem?_replicate,
    if_pos (by omega)]

theorem contest_race (hv : ready.play OneOfTwo.rules undisturbed script = some v)
    (calls : v.calls = ready.calls ++
      List.replicate n (.execute (letter 'Q') limit (letter 'r')))
    (some_call : 0 < n)
    (writers : (v.since ready).all (fun e => e.event.written?.isNone ||
      (decide (ready.tasks.length ≤ e.task) && decide (e.task < ready.tasks.length + n))) = true) :
    Contest OneOfTwo.rules readied ready v where
  reached := (reachable_lossy play_ready).lenient
  stored := by
    rw [id_readied]
    exact (Option.some_get _).symm
  approved := by decide +kernel
  in_window := by decide +kernel
  attempts := by decide
  run := Follows.of_play undisturbed_of_allowed .refl hv
  alone := by
    intro e he b q hw _
    have writer := List.all_eq_true.1 writers e he
    rw [hw] at writer
    have racing : ready.tasks.length ≤ e.task ∧ e.task < ready.tasks.length + n := by
      simpa [Event.written?] using writer
    exact executesIn_race calls racing.1 racing.2
  entered := ⟨_, executesIn_race calls (Nat.le_refl _) (by omega)⟩

theorem over_race (calls : v.calls = ready.calls ++
      List.replicate n (.execute (letter 'Q') limit (letter 'r')))
    (ended : (List.range (ready.tasks.length + n)).all v.hasEnded = true) :
    ContestOver readied ready v := by
  intro i hi
  obtain ⟨requested, correlation, hc⟩ := hi.call
  have bound : i < v.calls.length := (List.getElem?_eq_some_iff.1 hc).1
  have length : v.calls.length = ready.tasks.length + n := by
    rw [calls, List.length_append, List.length_replicate, World.calls, List.length_map]
  exact .of_hasEnded hc (List.all_eq_true.1 ended i (List.mem_range.2 (length ▸ bound)))

end

/-- Of three calls the second is the first to write. The first has read the same copy, and the third
comes when the deployer has answered. -/
def raceMoves : List Move :=
  race 3 none ++
  serve 3 [.id (letter 'E'), .plain, .plain, .plain, .plain] ++
  serve 4 [.id (letter 'F'), .plain, .plain, .plain, .plain, .plain] ++
  serve 3 [.plain, .plain] ++
  serve 4 [.plain, .landing (.reported ⟨true, false, some (letter 'd'), none⟩), .plain] ++
  serve 5 [.id (letter 'G'), .plain, .plain] ++
  serve 4 [.plain, .plain] ++
  serve 3 [.plain]

def raced : World := (ready.play OneOfTwo.rules undisturbed raceMoves).get (by decide +kernel)

theorem play_raced : ready.play OneOfTwo.rules undisturbed raceMoves = some raced :=
  (Option.some_get _).symm

theorem calls_raced : raced.calls = ready.calls ++
    List.replicate 3 (.execute (letter 'Q') none (letter 'r')) := World.calls_play play_raced

/-- One of three calls has deployed, and its outcome is the fourth version. -/
theorem one_of_three : ∃ i q x, raced.invokers (letter 'Q') = [i] ∧ conflicts raced.chronicle i = 0 ∧
    raced.store.proposal? (letter 'Q') = some q ∧ q.status = .executed ∧ q.execution = some x ∧
    x.outcome ≠ .inFlight ∧ q.version = 4 := by
  have hc : Contest OneOfTwo.rules readied ready raced :=
    contest_race play_raced calls_raced (by decide) (by decide +kernel)
  have finished : ContestOver readied ready raced := over_race calls_raced (by decide +kernel)
  obtain ⟨i, requested, q, x, d⟩ := (Contest.one_winner hc).2 finished
  obtain ⟨correlation, result, ended, -⟩ := d.won
  have called : Call.execute readied.id requested correlation ∈ raced.calls :=
    List.mem_map_of_mem (List.mem_of_getElem? ended)
  have unlimited : requested = none := by
    rw [calls_raced, calls_ready] at called
    have same := (List.mem_append.1 called).resolve_left (by simp)
    exact (Call.execute.inj (List.eq_of_mem_replicate same)).2.1
  have in_time : (OneOfTwo.rules.limit none).atMostZero = false := by decide
  have invokers := d.invokers
  rw [unlimited, in_time] at invokers
  have second : readied.version = 2 := by decide +kernel
  refine ⟨i, q, x, id_readied ▸ invokers, d.unopposed, id_readied ▸ d.stored, d.executed,
    d.execution, d.final, ?_⟩
  rw [d.version, second]
  rfl

/-- Two calls that leave the deployer no time. -/
def hastyRaceMoves : List Move :=
  race 2 (some (.whole (-1))) ++
  serve 3 [.id (letter 'E'), .plain, .plain, .plain, .plain, .plain, .plain, .plain, .plain, .plain,
    .plain] ++
  serve 4 [.id (letter 'F'), .plain, .plain]

def hastyRaced : World :=
  (ready.play OneOfTwo.rules undisturbed hastyRaceMoves).get (by decide +kernel)

theorem play_hastyRaced : ready.play OneOfTwo.rules undisturbed hastyRaceMoves = some hastyRaced :=
  (Option.some_get _).symm

theorem calls_hastyRaced : hastyRaced.calls = ready.calls ++
    List.replicate 2 (.execute (letter 'Q') (some (.whole (-1))) (letter 'r')) :=
  World.calls_play play_hastyRaced

/-- A contest can be over without anybody having gone to the deployer. -/
theorem nobody_deployed :
    ¬∀ rules p w v, Contest rules p w v → ContestOver p w v → (v.invokers p.id).length = 1 := by
  intro claimed
  have hc : Contest OneOfTwo.rules readied ready hastyRaced :=
    contest_race play_hastyRaced calls_hastyRaced (by decide) (by decide +kernel)
  have finished : ContestOver readied ready hastyRaced :=
    over_race calls_hastyRaced (by decide +kernel)
  have nobody : (hastyRaced.invokers readied.id).length = 0 := by decide +kernel
  rw [claimed _ _ _ _ hc finished] at nobody
  cases nobody

end OneOfTwo

end QuorumGate
