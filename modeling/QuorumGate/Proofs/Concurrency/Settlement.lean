import QuorumGate.Proofs.Concurrency.Claiming

/-!
# What comes after a claim

A call whose claim has been committed asks the deployer once, if its time limit lets it, and writes
down what it was told, until a write is confirmed or as many conflicts have been reported as there
are attempts.
-/

namespace QuorumGate

variable {c : Conditions} {base past news older l : Chronicle} {i j n total : Nat}
  {may : Event → Prop} {p q old new : Proposal} {id e correlation : Text} {x : Execution}
  {f : Failure} {o : Order} {landing : Landing} {limit : Number} {now : Instant}

/-! ## What a call has asked and been told -/

namespace Event

def deployment? : Event → Option (Order × Landing)
  | deployed o landing => some (o, landing)
  | _ => none

/-- What a call does to record an outcome: it neither deploys nor looks at the clock, and leaves no
execution other than the given ones. -/
def Records (xs : List Execution) : Event → Prop
  | deployed .. | saw _ => False
  | e => e.Bears xs

end Event

/-- What a call has had deployed, and how that went, newest first. -/
def deployments (past : Chronicle) (i : Nat) : List (Order × Landing) :=
  past.filterMap fun e => if e.task = i then e.event.deployment? else none

theorem deployments_append (h : ∀ event, ⟨i, event⟩ ∈ news → event.deployment? = none) :
    deployments (news ++ past) i = deployments past i := by
  have none_new : deployments news i = [] := by
    refine List.filterMap_eq_nil_iff.2 fun event he => ?_
    split
    · rename_i hi
      exact h event.event (hi ▸ he)
    · rfl
  rw [deployments, List.filterMap_append]
  show deployments news i ++ _ = _
  rw [none_new]
  rfl

theorem Within.deployments_eq (h : Within c i may past l)
    (hm : ∀ event, may event → event.deployment? = none) :
    deployments l i = deployments past i := by
  obtain ⟨-, news, rfl, hn⟩ := h
  exact deployments_append fun event he => hm event (hn event he)

theorem deployments_deployed :
    deployments (⟨i, .deployed o landing⟩ :: past) i = (o, landing) :: deployments past i := by
  simp [deployments, Event.deployment?]

theorem mem_deployments : (o, landing) ∈ deployments past i ↔ ⟨i, .deployed o landing⟩ ∈ past := by
  simp only [deployments, List.mem_filterMap]
  constructor
  · rintro ⟨⟨j, event⟩, he, same⟩
    split at same
    · rename_i hj
      cases event <;> simp only [Event.deployment?, reduceCtorEq, Option.some.injEq, Prod.mk.injEq]
        at same
      obtain ⟨rfl, rfl⟩ := same
      exact hj ▸ he
    · cases same
  · exact fun he => ⟨_, he, by simp [Event.deployment?]⟩

theorem Event.Claims.deployment? {xs : List Execution} {event : Event} (h : event.Claims xs) :
    event.deployment? = none := by
  cases event with
  | deployed => cases h
  | _ => rfl

theorem Event.Records.deployment? {xs : List Execution} {event : Event} (h : event.Records xs) :
    event.deployment? = none := by
  cases event with
  | deployed => cases h
  | _ => rfl

theorem Event.Records.bears {xs : List Execution} {event : Event} (h : event.Records xs) :
    event.Bears xs := by
  cases event with
  | deployed => cases h
  | saw => cases h
  | _ => exact h

/-! ## Outcomes are kept -/

theorem Change.execution_eq (h : Lawful c past) (known : old ∈ written past)
    (hc : Change c past i old new) (hx : old.execution = some x) (final : x.outcome ≠ .inFlight) :
    new.execution = some x := by
  cases hc with
  | signed => exact hx
  | expired => exact hx
  | claimed call policy_eq still_open =>
    rw [h.execution_eq_none known still_open] at hx
    cases hx
  | recorded executed held once =>
    rw [hx] at held
    cases held
    rcases once with rfl | rfl
    · rfl
    · exact absurd rfl final

/-- An outcome that was once recorded is on the stored record. -/
theorem Lawful.execution_stays (h : Lawful c past) (known : q ∈ versions past id)
    (hx : q.execution = some x) (final : x.outcome ≠ .inFlight) (hp : Stored c past id p) :
    p.execution = some x := by
  obtain ⟨hq, rfl⟩ := mem_versions.1 known
  obtain ⟨r, hr, hrx⟩ := h.stored_induction hq hx fun past i old new hlaw hold hc hox =>
    hc.execution_eq hlaw hold hox final
  rw [hp] at hr
  cases hr
  exact hrx

/-! ## Claims are unique -/

/-- A record is open until it is claimed, by a call to execute it. -/
theorem Change.of_claim (hc : Change c past i old (Store.committed (old.claim e now) old.version)) :
    old.status.isTerminal = false ∧
      ∃ requested correlation, ⟨i, .began (.execute old.id requested correlation)⟩ ∈ past := by
  generalize hnew : Store.committed (old.claim e now) old.version = new at hc
  have executed : new.status = .executed := by rw [← hnew]; rfl
  have held : new.execution = some (.started e) := by rw [← hnew]; rfl
  cases hc with
  | @signed P =>
    exact absurd executed (Status.ne_of_isTerminal (Proposal.isTerminal_quorumStatus P _) rfl)
  | expired => cases executed
  | claimed call policy_eq still_open => exact ⟨still_open, _, _, call⟩
  | recorded _ _ _ final =>
    cases held
    exact absurd rfl final

/-- Behind a committed claim stand an open version and a call to execute it. -/
theorem Lawful.of_claim (h : Lawful c past) {t : Instant}
    (claim : ⟨i, .wrote (some p) (Store.committed (p.claim e t) p.version)⟩ ∈ past) :
    p ∈ versions past p.id ∧ p.status.isTerminal = false ∧
      ∃ requested correlation, ⟨i, .began (.execute p.id requested correlation)⟩ ∈ past := by
  obtain ⟨older, hs, -, stored, hc⟩ := h.allowed claim
  obtain ⟨still_open, requested, correlation, began⟩ := Change.of_claim hc
  have within : older <:+ past := (List.suffix_cons _ older).trans hs
  exact ⟨versions_suffix within (mem_versions_of_stored stored), still_open, requested, correlation,
    within.subset began⟩

/-- One claim is committed for a proposal, once. -/
theorem Lawful.claim_unique (h : Lawful c past) {b d : Proposal} {g : Text} {s t : Instant}
    (hi : ⟨i, .wrote (some b) (Store.committed (b.claim e t) b.version)⟩ ∈ past)
    (hj : ⟨j, .wrote (some d) (Store.committed (d.claim g s) d.version)⟩ ∈ past)
    (hid : d.id = b.id) :
    (⟨j, .wrote (some d) (Store.committed (d.claim g s) d.version)⟩ : Entry) =
      ⟨i, .wrote (some b) (Store.committed (b.claim e t) b.version)⟩ := by
  -- An open record has not been claimed before.
  have fresh : ∀ past k m (a o : Proposal) x y r u, Lawful c (⟨k, .wrote (some a)
      (Store.committed (a.claim x r) a.version)⟩ :: past) → o.id = a.id →
      ⟨m, .wrote (some o) (Store.committed (o.claim y u) o.version)⟩ ∉ past := by
    intro past k m a o x y r u hlaw hoa hm
    obtain ⟨q, hq, hd⟩ := hlaw.1.stored (mem_written.2 ⟨m, _, hm⟩) hoa
    have stored : Stored c past a.id a := hlaw.2.1
    rw [Stored, stored] at hq
    cases hq
    exact Status.ne_of_isTerminal hlaw.2.2.of_claim.1 rfl (hd.executed rfl).1
  induction past with
  | nil => cases hi
  | cons event past ih =>
    rcases List.mem_cons.1 hi with rfl | mi
    · rcases List.mem_cons.1 hj with hj | mj
      · exact hj
      · exact absurd mj (fresh _ _ _ _ _ _ _ _ _ h hid)
    · rcases List.mem_cons.1 hj with rfl | mj
      · exact absurd mi (fresh _ _ _ _ _ _ _ _ _ h hid.symm)
      · exact ih h.1 mi mj

namespace Executions

/-- The loop that records an outcome ends with the outcome on the record, or it has been told of as
many conflicts as it has attempts. -/
theorem recordWithin_result (hc : c.Dependable) (h : Holds c i e [.started e, x] p past)
    (hid : p.id = id) (hx : x.id = e) (final : x.outcome ≠ .inFlight)
    (stamped : x.FinishedAfter past i p) (count : conflicts past i + n = total) :
    Safe c i (Event.Records [.started e, x]) (fun q l => q ∈ versions l id ∧ q.execution = some x)
      (fun f l => f = .rejected (.busy id .outcome) ∧ conflicts l i = total)
      (recordWithin id x correlation n p) past := by
  induction n generalizing p past with
  | zero => exact Safe.reject fun l hl => ⟨rfl, by rw [hl.conflicts_eq]; exact count⟩
  | succ n ih =>
    have bears : ∀ event, Event.Records [.started e, x] event → event.Bears [.started e, x] :=
      fun _ => Event.Records.bears
    have puts : (Event.wrote (some p) (Store.committed (p.withExecution x) p.version)).Records
        [.started e, x] := by
      intro y hy
      cases hy
      exact List.mem_cons_of_mem _ (List.mem_singleton.2 rfl)
    -- Whether the write was made or not, the next copy bears the execution id.
    have again : ∀ m, Within c i (Event.Records [.started e, x]) past m →
        conflicts m i = conflicts past i + 1 →
        Safe c i (Event.Records [.started e, x])
          (fun q l => q ∈ versions l id ∧ q.execution = some x)
          (fun f l => f = .rejected (.busy id .outcome) ∧ conflicts l i = total)
          (do
            let q ← Ledger.load id correlation
            recordWithin id x correlation n q) m := by
      intro m hm more
      refine Safe.refind_bind hc (hm.mem_written h.known) hid ?_
      intro m' q hm' hq _
      have h' := h.within (hm.trans (.of_later hm')) bears
      have hq' : Stored c m' p.id q := hid ▸ hq
      have stamped' : x.FinishedAfter m' i q :=
        stamped.later (hm.suffix.trans hm'.suffix) (h'.executedAt_eq hm'.lawful hq')
      refine ih (h'.reload hm'.lawful hq') (Store.id_eq_of_proposal? hq) stamped' ?_
      rw [hm'.conflicts_eq, more]
      omega
    rw [recordWithin]
    refine Safe.update_cases hc h.known rfl ?_ puts (fun _ _ => trivial) ?_ ?_ ?_
    · exact fun l hl _ => h.recording hl hx final stamped
    · intro l hl hlaw
      refine Safe.note_bind fun m hm => Safe.done fun m' hm' => ⟨mem_versions.2 ⟨?_, hid⟩, rfl⟩
      exact mem_written.2 ⟨i, _, hm'.mem (hm.mem List.mem_cons_self)⟩
    · intro l f hl conflict hlaw _
      refine again _ ((Within.of_later hl).cons hlaw trivial) ?_
      rw [conflicts_failed conflict, hl.conflicts_eq]
    · intro l f hl conflict hlaw _
      refine again _ (((Within.of_later hl).cons hlaw.1 puts).cons hlaw trivial) ?_
      rw [conflicts_failed conflict, conflicts_cons_of_not rfl, hl.conflicts_eq]

/-- If nothing fails, a claimed record is still stored when the outcome is written, so that the first
write is made and confirmed. -/
theorem recordWithin_at_once (hc : c.Dependable) (faithful : c.Faithful)
    (h : Holds c i e [.started e, x] p past) (hid : p.id = id) (hx : x.id = e)
    (final : x.outcome ≠ .inFlight) (stamped : x.FinishedAfter past i p)
    (stored : Stored c past id p) :
    Safe c i (fun event => event = .wrote (some p) (Store.committed (p.withExecution x) p.version))
      (fun _ _ => True) AnyFailure (recordWithin id x correlation n p) past := by
  cases n with
  | zero => exact Safe.reject fun _ _ => trivial
  | succ n =>
    rw [recordWithin]
    have kept : ∀ l, Later c i past l → Stored c l p.id p :=
      fun l hl => hid ▸ h.stored_within stored (.of_later hl)
    refine Safe.update_unopposed hc faithful h.known rfl kept ?_ rfl ?_
    · exact fun l hl => h.recording hl hx final stamped
    · exact fun l _ _ => Safe.note_bind fun _ _ => Safe.done fun _ _ => trivial

/-- How a call has come to know how its deployment went: it has asked the deployer, or it had no
time to ask. -/
inductive Delivered (c : Conditions) (i : Nat) (o : Order) (limit : Number) (base : Chronicle) :
    Landing → Chronicle → Prop where
  | asked {before older : Chronicle} {landing : Landing} (in_time : limit.atMostZero = false)
      (ahead : Later c i base before)
      (after : Later c i (⟨i, .deployed o landing⟩ :: before) older) :
      Delivered c i o limit base landing older
  | unasked {older : Chronicle} (no_time : limit.atMostZero = true) (ahead : Later c i base older) :
      Delivered c i o limit base .timedOut older

theorem Delivered.within (h : Delivered c i o limit base landing older) :
    Within c i (Event.Bears []) base older := by
  cases h with
  | asked in_time ahead after =>
    exact ((Within.of_later ahead).cons after.before trivial).trans (.of_later after)
  | unasked no_time ahead => exact .of_later ahead

theorem Delivered.conflicts_eq (h : Delivered c i o limit base landing older) :
    conflicts older i = conflicts base i := by
  cases h with
  | asked in_time ahead after =>
    rw [after.conflicts_eq, conflicts_cons_of_not rfl, ahead.conflicts_eq]
  | unasked no_time ahead => exact ahead.conflicts_eq

theorem deploy_bind {α : Type} {k : Execution → Service α} {ok : α → Chronicle → Prop}
    {bad : Failure → Chronicle → Prop}
    (due : ∀ l, Later c i past l → Due c l i (order p correlation))
    (hk : ∀ landing now older, Delivered c i (order p correlation) limit past landing older →
      Lawful c (⟨i, .saw now⟩ :: older) →
      Safe c i (fun _ => True) ok bad (k (finished e limit landing now)) (⟨i, .saw now⟩ :: older)) :
    Safe c i (fun _ => True) ok bad (deploy p e limit correlation >>= k) past := by
  rw [deploy, Program.bind_assoc]
  have told : ∀ landing l, (∀ older, Later c i l older →
      Delivered c i (order p correlation) limit past landing older) →
      Safe c i (fun _ => True) ok bad
        ((do
          noteLanding p.id limit landing
          let now ← Service.now
          return finished e limit landing now : Service Execution) >>= k) l := by
    intro landing l delivered
    simp only [Program.bind_assoc]
    refine noteLanding_bind fun l' hl' => ?_
    refine Safe.saw_bind (fun _ => trivial) fun now older ho hlaw => ?_
    exact hk landing now older (delivered older (hl'.trans ho)) hlaw
  refine callDeployer_cases (fun _ => trivial) due ?_ ?_
  · exact fun no_time => told .timedOut past fun older ho => .unasked no_time ho
  · exact fun in_time landing l hl _ => told landing _ fun older ho => .asked in_time hl ho

end Executions

/-! ## The whole call -/

/-- What a call tells of a finished execution. -/
def Concludes (id : Text) (x : Execution) (result : Except Failure Receipt) : Prop :=
  (x.outcome = .succeeded ∧ ∃ r, result = .ok r) ∨
    (x.outcome ≠ .succeeded ∧
      result = .error (.rejected (.deploymentFailed id x.outcome x.detail)))

/-- How a call has recorded an execution since a part of its chronicle: it has been told of as many
conflicts as it has attempts, or it has put the execution on the record, and says how it went. -/
def Answered (attempts : Nat) (i : Nat) (id : Text) (x : Execution)
    (result : Except Failure Receipt) (newer past : Chronicle) : Prop :=
  (result = .error (.rejected (.busy id .outcome)) ∧ conflicts newer i = attempts) ∨
    ∃ q ∈ versions past id, q.execution = some x ∧ Concludes id x result

/-- How a call has recorded an execution since a part of its chronicle, if nothing fails: its claim
was made and confirmed, each conflict before it was paid for by a rival's write, and the outcome is
recorded by the first write after it. -/
def Unopposed (start : Chronicle) (i : Nat) (id e : Text) (x : Execution)
    (newer older : Chronicle) : Prop :=
  ∃ b p t, b.id = id ∧ p = Store.committed (b.claim e t) b.version ∧ ⟨i, .wrote (some b) p⟩ ∈ older ∧
    (∀ r ∈ versions start id, r.version + conflicts older i ≤ b.version) ∧
    ∀ event, ⟨i, event⟩ ∈ newer →
      event = .wrote (some p) (Store.committed (p.withExecution x) p.version)

/-- How a call has ended after its claim, with its chronicle cut where it last looked at the clock:
before that it has asked the deployer, and afterwards it has recorded what it was told. -/
structure Settled (c : Conditions) (start : Chronicle) (attempts : Nat) (i : Nat) (id : Text)
    (limit : Number) (result : Except Failure Receipt) (e : Text) (landing : Landing)
    (now : Instant) (newer older : Chronicle) : Prop where
  drawn : ⟨i, .drew .execution e⟩ ∈ older
  claimed : ClaimLanded older i id e
  claiming : ∀ event, ⟨i, event⟩ ∈ older → event.Bears [.started e]
  recording : ∀ event, ⟨i, event⟩ ∈ newer →
    event.Records [.started e, Executions.finished e limit landing now]
  asked : limit.atMostZero = false → ∃ o mid before,
    older = mid ++ ⟨i, .deployed o landing⟩ :: before ∧ o.key = id ∧ ClaimLanded before i id e ∧
      deployments older i = [(o, landing)]
  unasked : limit.atMostZero = true → landing = .timedOut ∧ deployments older i = []
  answer : Answered attempts i id (Executions.finished e limit landing now) result newer
    (newer ++ ⟨i, .saw now⟩ :: older)
  at_once : c.Faithful →
    Unopposed start i id e (Executions.finished e limit landing now) newer older

/-- A call has ended after its claim. -/
def HasSettled (c : Conditions) (start : Chronicle) (attempts : Nat) (i : Nat) (id : Text)
    (limit : Number) (result : Except Failure Receipt) (past : Chronicle) : Prop :=
  ∃ e landing now newer older, past = newer ++ ⟨i, .saw now⟩ :: older ∧
    Settled c start attempts i id limit result e landing now newer older

theorem HasSettled.claimed {start : Chronicle} {attempts : Nat} {result : Except Failure Receipt}
    (h : HasSettled c start attempts i id limit result past) : ∃ e, ClaimLanded past i id e := by
  obtain ⟨e, landing, now, newer, older, rfl, s⟩ := h
  obtain ⟨b, t, hid, put⟩ := s.claimed
  exact ⟨e, b, t, hid, List.mem_append_right _ (List.mem_cons_of_mem _ put)⟩

/-- How a call has recorded an execution on its copy of a record, as a part of its chronicle. -/
def Reported (c : Conditions) (attempts : Nat) (i : Nat) (id e : Text) (x : Execution) (p : Proposal)
    (result : Except Failure Receipt) (past after : Chronicle) : Prop :=
  ∃ newer, after = newer ++ past ∧
    (∀ event, ⟨i, event⟩ ∈ newer → event.Records [.started e, x] ∧
      (c.Faithful → event = .wrote (some p) (Store.committed (p.withExecution x) p.version))) ∧
    Answered attempts i id x result newer after

theorem Reported.later {attempts : Nat} {result : Except Failure Receipt}
    (h : Reported c attempts i id e x p result base past) (hl : Later c i past l) :
    Reported c attempts i id e x p result base l := by
  obtain ⟨newer, rfl, recording, answer⟩ := h
  have same := hl.conflicts_eq
  have kept : ∀ q, q ∈ versions (newer ++ base) id → q ∈ versions l id := fun q => hl.mem_versions
  obtain ⟨-, more, rfl, hn⟩ := hl
  rw [conflicts_append, conflicts_append] at same
  refine ⟨more ++ newer, (List.append_assoc ..).symm, ?_, ?_⟩
  · intro event he
    rcases List.mem_append.1 he with he | he
    · exact (hn event he).elim
    · exact recording event he
  · rcases answer with ⟨busy, count⟩ | ⟨q, hq, told⟩
    · exact .inl ⟨busy, by rw [conflicts_append]; omega⟩
    · exact .inr ⟨q, kept q hq, told⟩

namespace Executions

theorem concludes_finished (stored : Proposal) (final : x.outcome ≠ .inFlight) :
    (x.outcome.isFailure = true →
      Concludes id x (.error (.rejected (.deploymentFailed id x.outcome x.detail)))) ∧
    (x.outcome.isFailure = false → Concludes id x (.ok (receipt stored x))) := by
  cases ho : x.outcome with
  | inFlight => exact absurd ho final
  | succeeded => exact ⟨fun h => (by cases h), fun _ => .inl ⟨ho, _, rfl⟩⟩
  | failed => exact ⟨fun _ => .inr ⟨by simp [ho], by rw [ho]⟩, fun h => (by cases h)⟩
  | indeterminate => exact ⟨fun _ => .inr ⟨by simp [ho], by rw [ho]⟩, fun h => (by cases h)⟩

/-- What the deployer was asked before the last look at the clock, for a call that had a claim. -/
theorem Delivered.settled {attempts : Nat} {result : Except Failure Receipt} {start : Chronicle}
    (h : Delivered c i o limit base landing older) (key : o.key = id)
    (won : Won c start id e i p base) (claiming : ∀ event, ⟨i, event⟩ ∈ base →
      event.Claims [.started e])
    (recording : ∀ event, ⟨i, event⟩ ∈ news →
      event.Records [.started e, finished e limit landing now] ∧ (c.Faithful → event =
        .wrote (some p) (Store.committed (p.withExecution (finished e limit landing now)) p.version)))
    (answer : Answered attempts i id (finished e limit landing now) result news
      (news ++ ⟨i, .saw now⟩ :: older)) :
    Settled c start attempts i id limit result e landing now news older := by
  have claimed := won.landed
  have idle : deployments base i = [] := by
    rw [← List.append_nil base, deployments_append fun event he => (claiming event he).deployment?]
    rfl
  refine ⟨h.within.mem won.drawn, claimed.within h.within, ?_, fun event he => (recording event he).1,
    ?_, ?_, answer, ?_⟩
  · exact h.within.own (fun _ => Event.Bears.mono (List.nil_subset _))
      fun event he => (claiming event he).bears
  · intro in_time
    cases h with
    | unasked no_time => rw [in_time] at no_time; cases no_time
    | @asked before older landing _ ahead after =>
      obtain ⟨mid, split⟩ := after.suffix
      refine ⟨o, mid, before, split.symm, key, claimed.within ahead, ?_⟩
      rw [after.deployments_eq fun _ => False.elim, deployments_deployed,
        ahead.deployments_eq fun _ => False.elim, idle]
  · intro no_time
    cases h with
    | asked in_time => rw [in_time] at no_time; cases no_time
    | unasked _ ahead =>
      exact ⟨rfl, by rw [ahead.deployments_eq fun _ => False.elim, idle]⟩
  · intro faithful
    obtain ⟨-, b, t, hp, put, paid⟩ := won.at_once faithful
    have hb : b.id = id := by
      rw [← won.id_eq, hp]
      rfl
    refine ⟨b, p, t, hb, hp, h.within.mem put, ?_, fun event he => (recording event he).2 faithful⟩
    rw [h.conflicts_eq]
    exact paid

/-- A call records how its deployment went, and tells so. -/
theorem report_result (hc : c.Dependable) (held : Holds c i e [.started e, x] p past)
    (hid : p.id = id) (hx : x.id = e) (final : x.outcome ≠ .inFlight)
    (stamped : x.FinishedAfter past i p) (stored : c.Faithful → Stored c past id p) :
    Safe c i (fun _ => True) (fun r => Reported c n i id e x p (.ok r) past)
      (fun f => Reported c n i id e x p (.error f) past)
      (do
        let stored ← recordWithin p.id x correlation n p
        if x.outcome.isFailure then Service.reject (.deploymentFailed id x.outcome x.detail)
        return receipt stored x) past := by
  have writes : Safe c i (fun event => c.Faithful →
      event = .wrote (some p) (Store.committed (p.withExecution x) p.version)) (fun _ _ => True)
      AnyFailure (recordWithin p.id x correlation n p) past := by
    by_cases faithful : c.Faithful
    · exact (recordWithin_at_once hc faithful held rfl hx final stamped
        (hid.symm ▸ stored faithful)).mono (fun _ h _ => h) (fun _ _ _ h => h) fun _ _ _ h => h
    · exact (recordWithin_safe held rfl hx final stamped).mono
        (fun _ _ hf => absurd hf faithful) (fun _ _ _ _ => trivial) fun _ _ _ h => h
  refine Safe.bind ((recordWithin_result hc held rfl hx final stamped rfl).both writes)
    (fun _ _ => trivial) ?_ ?_
  · rintro stored l ⟨-, newer, rfl, recording⟩ ⟨⟨known, hstored⟩, -⟩
    rw [hid] at known
    cases hf : x.outcome.isFailure with
    | true =>
      rw [if_pos rfl]
      refine Safe.reject_bind fun l' hl' => Reported.later ⟨newer, rfl, recording, ?_⟩ hl'
      exact .inr ⟨stored, known, hstored, (concludes_finished stored final).1 hf⟩
    | false =>
      rw [if_neg (by simp)]
      refine Safe.done fun l' hl' => Reported.later ⟨newer, rfl, recording, ?_⟩ hl'
      exact .inr ⟨stored, known, hstored, (concludes_finished stored final).2 hf⟩
  · rintro f l ⟨-, newer, rfl, recording⟩ ⟨⟨rfl, count⟩, -⟩
    rw [conflicts_append] at count
    exact ⟨newer, rfl, recording, .inl ⟨by rw [hid], by omega⟩⟩

/-- A call to execute among rivals, over a dependable store. -/
theorem execute_result (hc : c.Dependable) {rules : ExecutionRules} {requested : Option Number}
    (hb : base <:+ past) (call : ⟨i, .began (.execute id requested correlation)⟩ ∈ past)
    (unused : ∀ event, ⟨i, event⟩ ∈ past → event = .began (.execute id requested correlation)) :
    Safe c i (fun _ => True)
      (fun r l => HasSettled c base rules.attempts i id (rules.limit requested) (.ok r) l)
      (fun f l => NotClaimed c base rules.attempts id i f l ∨
        HasSettled c base rules.attempts i id (rules.limit requested) (.error f) l)
      (execute rules id requested correlation) past := by
  have unclaimed : Unclaimed past i := by
    intro event he
    rw [unused event he]
    trivial
  have idle : conflicts past i = 0 := by
    refine conflicts_eq_zero fun event he => ?_
    rw [unused event he]
    rfl
  unfold execute
  refine Safe.draw_bind (fun _ => trivial) ?_
  intro e l₁ hl₁ hlaw₁
  have w₁ : Within c i (Event.Claims []) past (⟨i, .drew .execution e⟩ :: l₁) :=
    (Within.of_later hl₁).cons hlaw₁ trivial
  have unclaimed₁ : Unclaimed _ i := unclaimed.within w₁ fun _ he => he
  have idle₁ : conflicts (⟨i, .drew .execution e⟩ :: l₁) i = 0 := by
    rw [conflicts_cons_of_not rfl, hl₁.conflicts_eq, idle]
  refine Safe.bind (claim_result hc (hb.trans w₁.suffix) (w₁.mem call) List.mem_cons_self
    unclaimed₁ idle₁) (fun _ _ => trivial) ?_ fun f l _ => .inl
  intro p l₂ hl₂ won
  have own₂ : ∀ event, ⟨i, event⟩ ∈ l₂ → event.Claims [.started e] :=
    hl₂.own (fun _ he => he) fun event he => (unclaimed₁ event he).mono (List.nil_subset _)
  refine Safe.note_bind ?_
  intro l₃ hl₃
  have won₃ := won.later hl₃
  have own₃ := hl₃.own (fun _ => False.elim) own₂
  have call₃ : ⟨i, .began (.execute p.id requested correlation)⟩ ∈ l₃ := by
    rw [won.id_eq]
    exact hl₃.mem (hl₂.mem (w₁.mem call))
  refine deploy_bind ?_ ?_
  · intro l hl
    refine (won₃.later hl).toHolds.due hl.lawful (hl.mem call₃) ?_
    exact fun o landing he => hl.own (fun _ => False.elim) own₃ _ he
  intro landing now older delivered hlaw
  have w₄ : Within c i (Event.Bears []) l₃ (⟨i, .saw now⟩ :: older) :=
    delivered.within.cons hlaw trivial
  have held : Holds c i e [.started e, finished e (rules.limit requested) landing now] p
      (⟨i, .saw now⟩ :: older) :=
    (won₃.toHolds.within w₄ fun _ => Event.Bears.mono (List.nil_subset _)).mono
      (List.subset_append_left [Execution.started e] _)
  have stored : c.Faithful → Stored c (⟨i, .saw now⟩ :: older) id p :=
    fun faithful => won₃.stored_within (won₃.at_once faithful).1 w₄
  have settled : ∀ result l, Reported c rules.attempts i id e
      (finished e (rules.limit requested) landing now) p result (⟨i, .saw now⟩ :: older) l →
      HasSettled c base rules.attempts i id (rules.limit requested) result l := by
    rintro result l ⟨newer, rfl, recording, answer⟩
    exact ⟨e, landing, now, newer, older, rfl,
      delivered.settled won.id_eq won₃ own₃ recording answer⟩
  exact (report_result hc held won.id_eq (finished_id e _ landing now)
    (outcome_ne_inFlight e _ landing now)
    (finished_after (.head (delivered.within.mem_written won₃.known))) stored).mono (fun _ h => h)
    (fun r l _ => settled (.ok r) l) fun f l _ reported => .inr (settled (.error f) l reported)

end Executions

end QuorumGate
