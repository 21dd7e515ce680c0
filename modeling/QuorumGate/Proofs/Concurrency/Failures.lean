import QuorumGate.Proofs.Concurrency.Answers
import QuorumGate.Proofs.Concurrency.Catching
import QuorumGate.Proofs.Concurrency.Creating
import QuorumGate.Proofs.Concurrency.Listing

/-!
# How calls fail

Calls run side by side over a store in which every write may report a conflict, whether it is made
or not. What they fail with is told by their programs, as each reply that they get is one that was
reckoned with; but that no move between stages is ever refused takes all that is known of how calls
to sign and to execute end.
-/

namespace QuorumGate

/-- Whether a verifier fails, if it does, in a way of its own. -/
def Choice.isForeign : Choice → Bool
  | verdict (.error e) => !e.isOwn
  | _ => true

/-- An empty store in which every write may report a conflict, whether it is made or not, a verifier
that fails in ways of its own, and a clock whose times can be compared. -/
def Conditions.contended : Conditions where
  founding := []
  choice := fun r choice =>
    choice.isDependable r = true ∧ choice.isClash = true ∧ choice.isForeign = true
  later := adjustable.later
  later_refl := adjustable.later_refl
  later_trans := adjustable.later_trans

theorem Conditions.contended_clashing : contended.Clashing :=
  ⟨⟨rfl, fun _ _ h => h.1⟩, fun _ _ _ h => h.2.1⟩

variable {rules : ExecutionRules} {w v : World} {m : Move} {i : Nat} {call : Call} {aware : Bool}
  {p : Proposal} {correlation : Text}

theorem Reachable.windowed (h : Reachable rules .contended w) (hp : p ∈ w.store.proposals) :
    p.Windowed w.clock.isAware := by
  intro t ht
  rw [h.store_eq] at hp
  obtain ⟨j, s, seen, same⟩ := h.lawful.expiry_seen (mem_written_of_mem hp) t ht
  exact same.trans (h.always.clock j s seen)

theorem Failure.isConflict_of_time {x : Except TimeFault α} {e : Failure}
    (h : x.mapError Failure.time = .error e) : e.isConflict = false := by
  cases x with
  | ok a => cases h
  | error f =>
    cases h
    rfl

/-- By itself, a store fails with the conflicts of writes, or with times that cannot be ordered. -/
theorem Store.perform_error {s : Store} {op : StoreOp} {e : Failure}
    (h : (s.perform op).1 = .error e) : e.isConflict = !op.isRead := by
  cases op with
  | insertPolicy | insertProposal =>
    simp only [perform, insertPolicy, insertProposal] at h
    split at h
    · cases h
      rfl
    · cases h
  | updateProposal p expected =>
    simp only [perform, updateProposal] at h
    split at h
    · cases h
      rfl
    · split at h
      · cases h
      · cases h
        rfl
  | listPolicies limit => exact Failure.isConflict_of_time (Except.map_eq_error h)
  | listProposals statuses => exact Failure.isConflict_of_time h
  | getPolicy | getProposal => cases h

theorem StoreOp.finds_of_isRead_eq_false {op : StoreOp} {reply : Except Failure op.Result}
    (h : op.isRead = false) : op.Finds aware reply := by
  cases op with
  | insertPolicy | insertProposal | updateProposal => exact trivial
  | _ => cases h

/-- Only a write is not carried out and answered as it is meant, and then it reports a conflict. -/
theorem Conditions.contended_conflict {op : StoreOp} {choice : Choice} {e : Failure}
    (chosen : contended.choice (.store op correlation) choice)
    (failed : choice = .refused e ∨ choice = .lost e) :
    op.isRead = false ∧ e.isConflict = true := by
  obtain ⟨dependable, clash, -⟩ := chosen
  rcases failed with rfl | rfl
  · cases op with
    | insertPolicy | insertProposal | updateProposal => exact ⟨rfl, clash⟩
    | _ => cases dependable
  · cases op with
    | insertPolicy | insertProposal | updateProposal => exact ⟨rfl, clash⟩
    | _ => cases dependable

/-- Contended surroundings reply as such. -/
theorem Reachable.contended_answer (h : Reachable rules .contended w) {r : Effect} {choice : Choice}
    {a : Answer r} (chosen : Conditions.contended.choice r choice)
    (answer_eq : answer w.store w.clock w.chronicle r choice = some a) :
    r.Contended w.clock.isAware a.reply := by
  cases comesTo answer_eq with
  | now => exact rfl
  | @performed op =>
    refine ⟨fun e he => Store.perform_error he, ?_⟩
    cases op with
    | getPolicy x => exact ⟨_, rfl⟩
    | getProposal x => exact ⟨_, rfl, fun p hp => h.windowed (Store.mem_of_proposal? hp)⟩
    | listProposals statuses =>
      exact fun ps hps p hp => h.windowed (Store.mem_of_listProposals hps hp)
    | _ => exact trivial
  | @refused op _ e =>
    obtain ⟨write, conflict⟩ := Conditions.contended_conflict chosen (.inl rfl)
    refine ⟨fun f hf => ?_, StoreOp.finds_of_isRead_eq_false write⟩
    cases hf
    rw [conflict, write]
    rfl
  | @lost op _ e =>
    obtain ⟨write, conflict⟩ := Conditions.contended_conflict chosen (.inr rfl)
    refine ⟨fun f hf => ?_, StoreOp.finds_of_isRead_eq_false write⟩
    cases hf
    rw [conflict, write]
    rfl
  | verified =>
    rintro e rfl
    simpa [Choice.isForeign] using chosen.2.2
  | _ => exact trivial

theorem Reachable.isAware_move (permitted : Conditions.contended.permits w m)
    (moved : w.move rules m = some v) : v.clock.isAware = w.clock.isAware := by
  cases World.moved moved with
  | started | served => rfl
  | ticked => exact Eq.symm permitted

/-- What is left of a call fails, if it does, as the call may. -/
theorem Reachable.failsOnly (h : Reachable rules .contended w) {rest : Service call.Result}
    (task : w.tasks[i]? = some ⟨call, rest⟩) :
    FailsOnly w.clock.isAware call.FailsWith (fun _ => True) rest := by
  induction h generalizing rest with
  | opening clock => cases task
  | @move w v m before permitted moved ih =>
    -- The clock may go anywhere, but its times are of the same kind as before.
    rw [Reachable.isAware_move permitted moved]
    cases World.remains moved task with
    | before task => exact ih task
    | begun => exact call.program_fails rules
    | @answered r next choice a asking answer_eq move_eq =>
      subst move_eq
      have asked : w.request? i = some r := by simp [World.request?, asking]
      exact ih asking a.reply (before.contended_answer (permitted r asked) answer_eq)

/-- A call that has failed has failed as it may. -/
theorem Reachable.failsWith_of_raised (h : Reachable rules .contended w) {e : Failure}
    (raised : w.Raised i call e) : call.FailsWith e := by
  have task : w.tasks[i]? = some ⟨call, .fail e⟩ := raised
  exact h.failsOnly task

/-- Whatever a verifier has raised was a failure of its own. -/
theorem Reachable.isOwn_verdict (h : Reachable rules .contended w) {signer : Text}
    {payload : String} {signature : Text} {e : Failure}
    (hv : ⟨i, .verified signer payload signature (.error e)⟩ ∈ w.chronicle) : e.isOwn = false := by
  refine h.events (Q := fun event => ∀ signer payload signature e,
    event = .verified signer payload signature (.error e) → e.isOwn = false)
    (fun _ _ _ _ _ began => nomatch began) ?_ _ hv signer payload signature e rfl
  rintro clock r choice _ chosen tells signer payload signature e rfl
  obtain ⟨rfl, rfl⟩ := tells
  simpa [Choice.isForeign] using chosen.2.2

/-- A refusal of one of several kinds, and not of a move between stages. -/
def Failure.RefusedAs (kinds : List RejectionKind) (e : Failure) : Prop :=
  ∃ r, e = .rejected r ∧ r.kind ∈ kinds ∧ ∀ x s t, r ≠ .noSuchMove x s t

/-- Over a store in which every write may report a conflict, no call fails with a conflict, and
neither do the parts that can be run by themselves, to load a proposal and to sweep in a loop. A
call to sign that fails is refused, or the verifier has raised what it fails with; a call to execute
that fails is refused; and a move between stages is never what is refused. -/
theorem Reachable.failures_contained (h : Reachable rules .contended w) :
    (∀ call e, w.Raised i call e → e.isConflict = false) ∧
    (∀ id request correlation e, w.Raised i (.sign id request correlation) e →
      e.RefusedAs [.notFound, .proposalTerminal, .unauthorizedSigner, .duplicateSignature,
        .invalidSignature, .concurrentModification] ∨
      e.isOwn = false ∧ ∃ signer payload signature,
        ⟨i, .verified signer payload signature (.error e)⟩ ∈ w.chronicle) ∧
    (∀ id requested correlation e, w.Raised i (.execute id requested correlation) e →
      e.RefusedAs [.notFound, .alreadyExecuted, .proposalExpired, .notApproved,
        .concurrentModification, .executionFailed]) ∧
    ∀ aware, (∀ id correlation, CatchesConflicts aware (Ledger.load id correlation)) ∧
      ∀ interval n, CatchesConflicts aware (Sweeper.rounds rules.attempts interval n) := by
  have dependable := Conditions.contended_clashing.toDependable
  refine ⟨?_, ?_, ?_, fun _ => ⟨fun _ _ => Ledger.load_fails, fun _ _ => Sweeper.rounds_fails⟩⟩
  · intro call e raised
    have permitted := h.failsWith_of_raised raised
    cases call with
    | sign | execute => exact Failure.isConflict_of_isInternal permitted
    | _ => exact permitted
  · intro id request correlation e raised
    -- The program tells that times can be compared, and the run which refusals there are.
    have plain : e.isInternal = false := h.failsWith_of_raised raised
    obtain ⟨reason, -⟩ :
        Declined .contended [] rules.attempts id request.signer.strip i e w.chronicle :=
      h.ended dependable raised
    cases reason with
    | unchecked verified => exact .inr ⟨h.isOwn_verdict verified, _, _, _, verified⟩
    | incomparable => cases plain
    | late _ _ turned =>
      rcases turned with ⟨rfl, -⟩ | rfl | ⟨f, rfl⟩
      · exact .inl ⟨_, rfl, by simp [Rejection.kind], nofun⟩
      · exact .inl ⟨_, rfl, by simp [Rejection.kind], nofun⟩
      · cases plain
    | _ => exact .inl ⟨_, rfl, by simp [Rejection.kind], nofun⟩
  · intro id requested correlation e raised
    have plain : e.isInternal = false := h.failsWith_of_raised raised
    rcases h.ended dependable raised with ⟨reason, -⟩ | ⟨x, landing, now, newer, older, -, s⟩
    · cases reason with
      | incomparable => cases plain
      | late _ _ _ turned =>
        rcases turned with ⟨rfl, -⟩ | rfl | ⟨f, rfl⟩
        · exact ⟨_, rfl, by simp [Rejection.kind], nofun⟩
        · exact ⟨_, rfl, by simp [Rejection.kind], nofun⟩
        · cases plain
      | _ => exact ⟨_, rfl, by simp [Rejection.kind], nofun⟩
    · rcases s.answer with ⟨busy, -⟩ | ⟨q, -, -, ⟨-, r, ok⟩ | ⟨-, failed⟩⟩
      · cases busy
        exact ⟨_, rfl, by simp [Rejection.kind], nofun⟩
      · cases ok
      · cases failed
        exact ⟨_, rfl, by simp [Rejection.kind], nofun⟩

namespace OneOfTwo

/-- Every write may report a conflict, and times stay comparable. -/
def contended : World → Move → Bool :=
  World.allows (fun r choice => choice.isDependable r && (choice.isClash && choice.isForeign))
    fun s t => s.isAware == t.isAware

theorem reachable_contended {script : List Move}
    (hw : (World.opening [] start).play rules contended script = some w) :
    Reachable rules .contended w :=
  Reachable.follows (.opening start) (Follows.of_play
    (Conditions.permits_of_allows (fun _ _ h => by simpa [Conditions.contended] using h)
      fun s t ht => by simpa [Conditions.contended, Conditions.adjustable] using ht) .refl hw)

/-- With one attempt each, a signature is committed and taken for a conflict, and the claim after it
is not made. -/
def busyMoves : List Move :=
  unconfirmed ++ [.start (.execute (letter 'Q') none (letter 'r'))] ++
  serve 3 [.id (letter 'E'), .plain, .plain, .plain, .plain,
    .refused (.conflict (letter 'Q') 2 .nothing), .plain, .plain]

def busy : World :=
  ((World.opening [] start).play ⟨1, .whole 120⟩ contended busyMoves).get (by decide +kernel)

theorem play_busy : (World.opening [] start).play ⟨1, .whole 120⟩ contended busyMoves =
    some busy := (Option.some_get _).symm

theorem conflicts_contained : ∃ e f,
    busy.Raised 2 (.sign (letter 'Q') ⟨letter 'a', none⟩ (letter 'r')) e ∧
      busy.Raised 3 (.execute (letter 'Q') none (letter 'r')) f ∧ e.isConflict = false ∧
      f.RefusedAs [.notFound, .alreadyExecuted, .proposalExpired, .notApproved,
        .concurrentModification, .executionFailed] := by
  have reached : Reachable ⟨1, .whole 120⟩ .contended busy := reachable_contended play_busy
  have calls := World.calls_play play_busy
  have signing := World.raised_of_failure?
    (show busy.calls[2]? = some (.sign (letter 'Q') ⟨letter 'a', none⟩ (letter 'r')) by
      rw [calls]; rfl)
    (show busy.failure? 2 = some (.rejected (.busy (letter 'Q') .signature)) by decide +kernel)
  have claiming := World.raised_of_failure?
    (show busy.calls[3]? = some (.execute (letter 'Q') none (letter 'r')) by rw [calls]; rfl)
    (show busy.failure? 3 = some (.rejected (.busy (letter 'Q') .claim)) by decide +kernel)
  exact ⟨_, _, signing, claiming, (reached.failures_contained).1 _ _ signing,
    (reached.failures_contained).2.2.1 _ _ _ _ claiming⟩

end OneOfTwo

end QuorumGate
