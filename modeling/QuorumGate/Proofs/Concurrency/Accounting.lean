import QuorumGate.Proofs.Concurrency.Answers
import QuorumGate.Proofs.Concurrency.History

/-!
# The version counts the writes

With a store that never fails a record shows all that was written to it: its creation, each of its
signatures, its expiry or its claim, and the outcome of its execution. The version is the number of
these writes, because an outcome is not written twice. That depends on the store: who is told of a
conflict writes the outcome again, although it may have been stored.
-/

namespace QuorumGate

/-- An empty store without faults. The clock may go anywhere. -/
def Conditions.faultless : Conditions := (any []).among fun _ choice => choice.isFaithful = true

theorem Conditions.faultless_faithful : faultless.Faithful := fun _ _ h => h

theorem Conditions.faultless_dependable : faultless.Dependable :=
  faultless_faithful.dependable rfl

/-- Whether the outcome of an execution has been recorded: it has succeeded, failed, or remained
open. -/
def Proposal.hasOutcome (p : Proposal) : Bool := p.execution.any (·.outcome ≠ .inFlight)

/-- How many writes a record shows. -/
def Proposal.tally (p : Proposal) : Int :=
  1 + p.signatures.length + (if p.status = .expired then 1 else 0) +
    (if p.status = .executed then 1 else 0) + (if p.hasOutcome then 1 else 0)

variable {rules : ExecutionRules} {c : Conditions} {w : World} {past : Chronicle} {i : Nat}
  {p old new : Proposal} {x : Execution} {id : Text}

theorem Proposal.tally_of_open (still_open : p.status.isTerminal = false)
    (unheld : p.execution = none) : p.tally = 1 + p.signatures.length := by
  have unexpired : p.status ≠ .expired := Status.ne_of_isTerminal still_open rfl
  have unexecuted : p.status ≠ .executed := Status.ne_of_isTerminal still_open rfl
  simp [tally, hasOutcome, unexpired, unexecuted, unheld]

theorem Proposal.tally_of_executed (executed : p.status = .executed) :
    p.tally = 2 + p.signatures.length + (if p.hasOutcome then 1 else 0) := by
  simp only [tally, executed, reduceCtorEq, ↓reduceIte]
  omega

/-- No outcome was ever written over another one. -/
def RecordedOnce (past : Chronicle) : Prop :=
  ∀ i old new, ⟨i, .wrote (some old) new⟩ ∈ past → old.hasOutcome = false

/-- Each change is one write more. -/
theorem Change.tally_eq (h : Lawful c past) (known : old ∈ written past)
    (hc : Change c past i old new) (first : old.hasOutcome = false) :
    new.tally = old.tally + 1 := by
  have unheld : old.status.isTerminal = false → old.execution = none :=
    h.execution_eq_none known
  cases hc with
  | @signed P _ _ s _ _ still_open =>
    have hn := unheld still_open
    have next := Proposal.isTerminal_quorumStatus P (old.sign s)
    have after : (Store.committed ((old.sign s).withStatus ((old.sign s).quorumStatus P))
        old.version).tally = 1 + (old.sign s).signatures.length := Proposal.tally_of_open next hn
    rw [after, Proposal.tally_of_open still_open hn, Proposal.sign, List.length_append]
    push_cast
    rw [List.length_singleton]
    omega
  | expired still_open =>
    have hn := unheld still_open
    rw [Proposal.tally_of_open still_open hn]
    simp [Proposal.tally, Proposal.hasOutcome, Store.committed, Proposal.withStatus, hn]
  | claimed _ _ still_open =>
    rw [Proposal.tally_of_open still_open (unheld still_open)]
    simp [Proposal.tally, Proposal.hasOutcome, Store.committed, Proposal.claim, Execution.started]
  | @recorded x _ executed _ _ final =>
    have after : (Store.committed (old.withExecution x) old.version).tally =
        2 + old.signatures.length +
          (if (Store.committed (old.withExecution x) old.version).hasOutcome then 1 else 0) :=
      Proposal.tally_of_executed executed
    have now : (Store.committed (old.withExecution x) old.version).hasOutcome = true := by
      simp [Proposal.hasOutcome, Store.committed, Proposal.withExecution, final]
    rw [after, now, Proposal.tally_of_executed executed, first]
    rfl

theorem Lawful.version_eq_tally (h : Lawful c past) (once : RecordedOnce past)
    (hp : p ∈ written past) : p.version = p.tally := by
  refine h.version_induction
    (motive := fun past p => RecordedOnce past → p.version = p.tally) ?_ ?_ ?_ hp once
  · intro past i p _ hc _
    cases hc
    simp [ProposalDraft.toProposal, Proposal.tally, Proposal.hasOutcome]
  · intro past i old new hlaw known hc ih once
    have before := ih fun j a b he => once j a b (List.mem_cons_of_mem _ he)
    have first := once i old new List.mem_cons_self
    rw [hc.version_eq, hc.tally_eq hlaw known first, before]
  · intro e past p ih once
    exact ih fun j a b he => once j a b (List.mem_cons_of_mem e he)

/-- The version is the number of the committed versions. -/
theorem Lawful.length_versions (h : Lawful c past) (hp : Stored c past id p) :
    ((versions past id).length : Int) = p.version := by
  induction past generalizing p with
  | nil => cases hp
  | cons e past ih =>
    obtain ⟨i, e⟩ := e
    cases e with
    | wrote b new =>
      rw [Stored, h.proposal?_wrote] at hp
      rw [versions_wrote]
      by_cases hid : new.id = id
      · rw [if_pos hid] at hp ⊢
        cases hp
        cases b with
        | none =>
          have none_before : versions past id = [] := by
            rw [← List.head?_eq_none_iff, h.1.head?_versions, ← hid]
            exact h.2.1
          obtain ⟨-, hc⟩ := h.2
          cases hc
          simp [none_before, ProposalDraft.toProposal]
        | some old =>
          obtain ⟨hold, hc⟩ := h.2
          have count := ih h.1 (hid ▸ hold)
          rw [List.length_cons, hc.version_eq]
          push_cast
          omega
      · rw [if_neg hid] at hp ⊢
        exact ih h.1 hp
    | _ => exact ih h.1 hp

/-- Behind each execution on a record stands the committed claim of a call to execute it. -/
theorem Lawful.claim_of_executed (h : Lawful c past) (hp : Stored c past id p)
    (hx : p.execution = some x) :
    ∃ i requested correlation b t, ⟨i, .began (.execute id requested correlation)⟩ ∈ past ∧
      ⟨i, .drew .execution x.id⟩ ∈ past ∧ b.id = id ∧ p.executedAt = some t ∧
      ⟨i, .wrote (some b) (Store.committed (b.claim x.id t) b.version)⟩ ∈ past := by
  have executed := (h.executed_iff (mem_written_of_proposal? hp)).2 ⟨x, hx⟩
  obtain ⟨i, requested, correlation, b, e, t, call, hid, claim⟩ :=
    (h.claimCommitted_iff hp).2 executed
  obtain ⟨q, hq, hd⟩ := h.stored (mem_written.2 ⟨i, _, claim⟩) hid
  rw [Stored, hp] at hq
  cases hq
  obtain ⟨-, -, executedAt, ids⟩ := hd.executed rfl
  have same : x.id = e := by
    rw [hx] at ids
    exact Option.some.inj ids
  have drawn : ⟨i, .drew .execution e⟩ ∈ past :=
    h.holder claim (show _ = some (Execution.started e) from rfl)
  subst same
  exact ⟨i, requested, correlation, b, t, call, drawn, hid, executedAt, claim⟩

/-- If nothing fails, a call to execute leaves no record with the execution that it has found. -/
theorem Call.Ends.outcome_once {base : Chronicle} {requested : Option Number} {correlation : Text}
    {result : Except Failure Receipt} (faithful : c.Faithful)
    (h : (Call.execute id requested correlation).Ends c base rules i result past)
    (wrote : ⟨i, .wrote (some old) new⟩ ∈ past) (before : old.execution = some x)
    (after : new.execution = some x) : x.outcome = .inFlight := by
  rcases h.unclaimed_or_settled with unclaimed | ⟨e, landing, now, newer, older, rfl, s⟩
  · cases unclaimed _ wrote x after
  · have started : Execution.started e = x → x.outcome = .inFlight := by
      rintro rfl
      rfl
    rcases List.mem_append.1 wrote with recent | early
    · -- What the call has written last replaces its claim.
      obtain ⟨b, p, t, -, rfl, -, -, only⟩ := s.at_once faithful
      cases only _ recent
      exact started (Option.some.inj before)
    · rcases List.mem_cons.1 early with early | early
      · cases early
      · have claim := s.claiming _ early x after
        exact started (List.mem_singleton.1 claim).symm

/-- From a world on, while nothing fails, no call that begins writes over an outcome: it would have to
be its own. -/
theorem Reachable.hasOutcome_eq_false {v : World} (h : Reachable rules (.any []) w)
    (hf : Follows rules Conditions.faultless.permits w v) (hi : w.tasks.length ≤ i)
    (wrote : ⟨i, .wrote (some old) new⟩ ∈ v.chronicle) : old.hasOutcome = false := by
  have S : Sequel .faultless rules w v := ⟨h, ⟨_, rfl⟩, Conditions.faultless_dependable, hf⟩
  rw [Bool.eq_false_iff]
  intro twice
  obtain ⟨x, hx, final⟩ : ∃ x, old.execution = some x ∧ x.outcome ≠ .inFlight := by
    simpa [Proposal.hasOutcome, Option.any_eq_true] using twice
  -- The one who writes is the one who has claimed, and was called to execute.
  obtain ⟨past, hs, hpast, hold, hc⟩ := S.lawful.allowed wrote
  have after := hc.execution_eq hpast (mem_written_of_proposal? hold) hx final
  have mine := S.lawful.holder wrote after
  obtain ⟨j, requested, correlation, -, -, call, drawn, -⟩ := hpast.claim_of_executed hold hx
  have within : past <:+ v.chronicle := (List.suffix_cons _ past).trans hs
  obtain rfl := S.lawful.drew_unique mine (within.subset drawn)
  obtain ⟨⟨call', rest⟩, task⟩ : ∃ t, v.tasks[i]? = some t :=
    ⟨_, List.getElem?_eq_getElem (S.sound.owners i _ wrote)⟩
  obtain rfl := S.lawful.began_unique (S.sound.safe i _ task).1 (within.subset call)
  -- Once this call has ended, all that it has written is known.
  have called : v.calls[i]? = some (.execute new.id requested correlation) := by
    rw [World.calls, List.getElem?_map, task]
    rfl
  obtain ⟨u, result, follows, ended⟩ := World.exists_end (c := .faultless) rules
    (fun _ _ quiet => Choice.isFaithful_of_isQuiet quiet) called
  have ends := (S.follows follows).ends hi ended
  have kept := follows.chronicle_suffix.subset wrote
  exact final (ends.outcome_once Conditions.faultless_faithful kept hx after)

/-- With a store that never fails an outcome is written once, by the call that has made the claim. -/
theorem Reachable.recordedOnce (h : Reachable rules .faultless w) : RecordedOnce w.chronicle := by
  obtain ⟨clock, follows⟩ := h.follows_opening
  have opening : Reachable rules (.any []) (.opening [] clock) := .opening clock
  exact fun i old new wrote => opening.hasOutcome_eq_false follows (Nat.zero_le i) wrote

/-- The version of a record counts what was written to it, and nothing else. -/
theorem Reachable.version_accounts (h : Reachable rules .faultless w) (hp : p ∈ w.store.proposals) :
    p.version = 1 + p.signatures.length + (if p.status = .expired then 1 else 0) +
      (if p.status = .executed then 1 else 0) + (if p.hasOutcome then 1 else 0) ∧
    ((versions w.chronicle p.id).length : Int) = p.version := by
  rw [h.store_eq] at hp
  have hl := h.lawful
  exact ⟨hl.version_eq_tally h.recordedOnce (mem_written_of_mem hp),
    hl.length_versions (hl.proposal?_of_mem hp)⟩

namespace OneOfTwo

theorem reachable_faultless {script : List Move}
    (hw : (World.opening [] start).play rules calm script = some w) :
    Reachable rules .faultless w :=
  Reachable.follows (.opening start) (Follows.of_play
    (Conditions.permits_of_allows (fun _ _ h => h) fun _ _ _ => trivial) .refl hw)

/-- A proposal that is signed by one and executed with success. -/
def executedMoves : List Move :=
  proposed policy ++ signed ++
  [.start (.execute (letter 'Q') none (letter 'r'))] ++
  serve 3 [.id (letter 'E'), .plain, .plain, .plain, .plain, .plain, .plain,
    .landing (.reported ⟨true, false, some (letter 'd'), none⟩), .plain, .plain, .plain]

def executed : World :=
  ((World.opening [] start).play OneOfTwo.rules calm executedMoves).get (by decide +kernel)

theorem play_executed : (World.opening [] start).play OneOfTwo.rules calm executedMoves =
    some executed := (Option.some_get _).symm

/-- Created, signed, claimed and concluded: four writes. -/
theorem four_writes : ∃ p ∈ executed.store.proposals, p.signatures.length = 1 ∧
    p.status = .executed ∧ p.hasOutcome = true ∧ p.version = 4 ∧
    (versions executed.chronicle p.id).length = 4 := by
  have hw : Reachable OneOfTwo.rules .faultless executed := reachable_faultless play_executed
  have shown : executed.store.proposals.any (fun p =>
      p.signatures.length == 1 && p.status == .executed && p.hasOutcome) = true := by decide +kernel
  obtain ⟨p, hp, known⟩ := List.any_eq_true.1 shown
  simp only [Bool.and_eq_true, beq_iff_eq] at known
  obtain ⟨⟨signatures, status⟩, outcome⟩ := known
  obtain ⟨version, count⟩ := Reachable.version_accounts hw hp
  rw [signatures, status, outcome] at version
  have four : p.version = 4 := version
  exact ⟨p, hp, signatures, status, outcome, four, by omega⟩

end OneOfTwo

end QuorumGate
