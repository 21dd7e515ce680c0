import QuorumGate.Proofs.Concurrency.Quiet
import QuorumGate.Proofs.Concurrency.Settlement

/-!
# How calls end

What each call has come to when it ends, over a dependable store: a call to sign has put one
signature on the record or none, and a call to execute has settled its claim or has made none.
-/

namespace QuorumGate

variable {c : Conditions} {rules : ExecutionRules} {w : World} {i : Nat} {call : Call}

/-- What is known of a call that has ended, if it began after a part of the chronicle. -/
def Call.Ends (c : Conditions) (base : Chronicle) (rules : ExecutionRules) (i : Nat) :
    (call : Call) → Except Failure call.Result → Chronicle → Prop
  | .sign id _ _, .ok q, past => Recorded c i id q past
  | .sign id request _, .error e, past =>
    Declined c base rules.attempts id request.signer.strip i e past
  | .execute id requested _, .ok r, past =>
    HasSettled c base rules.attempts i id (rules.limit requested) (.ok r) past
  | .execute id requested _, .error f, past =>
    NotClaimed c base rules.attempts id i f past ∨
      HasSettled c base rules.attempts i id (rules.limit requested) (.error f) past
  | _, _, _ => True

/-- A call to execute that has ended has claimed nothing, or has settled its claim. -/
theorem Call.Ends.unclaimed_or_settled {base past : Chronicle} {id correlation : Text}
    {requested : Option Number} {result : Except Failure Receipt}
    (h : (Call.execute id requested correlation).Ends c base rules i result past) :
    Unclaimed past i ∨
      HasSettled c base rules.attempts i id (rules.limit requested) result past := by
  cases result with
  | ok r => exact .inr h
  | error f => exact h.imp_left NotClaimed.trace

theorem Call.keepsEnds (hc : c.Dependable) (base : Chronicle) (i : Nat) (call : Call) :
    KeepsLawFrom base rules c i call (fun a => call.Ends c base rules i (.ok a))
      (fun e => call.Ends c base rules i (.error e)) := by
  intro past hb hlaw began unused ready
  cases call with
  | sign id request correlation =>
    refine Ledger.sign_result hc hb began (attempted_eq_nil fun e he => ?_)
    rw [unused e he]
    rfl
  | execute id requested correlation => exact Executions.execute_result hc hb began unused
  | _ => exact Call.keepsLaw c i _ past hlaw began unused ready

theorem Reachable.ended (hc : c.Dependable) (h : Reachable rules c w)
    {result : Except Failure call.Result} (he : w.Ended i call result) :
    call.Ends c [] rules i result w.chronicle :=
  (h.sound fun i call past => Call.keepsEnds hc [] i call past List.nil_suffix).ended
    (E := fun i call => call.Ends c [] rules i) he

/-- What is known of the end of a call, if it has begun since a world. -/
def EndsSince (c : Conditions) (rules : ExecutionRules) (w : World) (i : Nat) (call : Call)
    (result : Except Failure call.Result) (past : Chronicle) : Prop :=
  w.tasks.length ≤ i → call.Ends c w.chronicle rules i result past

/-- From a world on, the conditions may be narrower. The calls that begin then keep to what is known
of their ends under these. -/
theorem Reachable.sound_since {v : World} {choice : Effect → Choice → Prop}
    (h : Reachable rules c w) (hc : ∀ r ch, choice r ch → c.choice r ch)
    (dependable : (c.among choice).Dependable)
    (hf : Follows rules (c.among choice).permits w v) :
    Sound (c.among choice) (fun i call a => EndsSince (c.among choice) rules w i call (.ok a))
      (fun i call e => EndsSince (c.among choice) rules w i call (.error e)) v := by
  have begun : Sound (c.among choice)
      (fun i call a => EndsSince (c.among choice) rules w i call (.ok a))
      (fun i call e => EndsSince (c.among choice) rules w i call (.error e)) w :=
    h.always.onwards hc
  refine begun.follows (fun i _ call past hb hl began unused ready => ?_) hf
  exact (Call.keepsEnds dependable w.chronicle i call past hb hl began unused ready).mono
    (fun _ h => h) (fun _ _ _ h _ => h) fun _ _ _ h _ => h

/-- A world, and what comes after it while the store is dependable. -/
structure Sequel (c : Conditions) (rules : ExecutionRules) (w v : World) : Prop where
  reached : Reachable rules (.any []) w
  narrower : ∃ choice, c = (Conditions.any []).among choice
  dependable : c.Dependable
  run : Follows rules c.permits w v

namespace Sequel

variable {u v : World} {p : Proposal} {id : Text}

theorem follows (S : Sequel c rules w v) (hf : Follows rules c.permits v u) : Sequel c rules w u :=
  { S with run := S.run.trans hf }

variable (S : Sequel c rules w v)
include S

theorem suffix : w.chronicle <:+ v.chronicle := S.run.chronicle_suffix

theorem reached_after : Reachable rules (.any []) v := by
  obtain ⟨choice, rfl⟩ := S.narrower
  exact S.reached.follows (S.run.mono (Conditions.permits_of_among fun _ _ _ => trivial))

/-- The calls keep to what is known of their ends. -/
theorem sound : Sound c (fun i call a => EndsSince c rules w i call (.ok a))
    (fun i call e => EndsSince c rules w i call (.error e)) v := by
  obtain ⟨choice, rfl⟩ := S.narrower
  exact S.reached.sound_since (fun _ _ _ => trivial) S.dependable S.run

theorem lawful : Lawful c v.chronicle := S.sound.lawful

theorem lawful_before : Lawful c w.chronicle := S.lawful.of_suffix S.suffix

theorem store_before : w.store = replay c.founding w.chronicle := by
  rw [S.dependable.founding]
  exact S.reached.store_eq

theorem stored_before (hp : w.store.proposal? id = some p) : Stored c w.chronicle id p := by
  rw [S.store_before] at hp
  exact hp

theorem known (hp : w.store.proposal? id = some p) : p ∈ versions v.chronicle id :=
  versions_suffix S.suffix (mem_versions_of_stored (S.stored_before hp))

theorem began (hc : v.calls[i]? = some call) : ⟨i, .began call⟩ ∈ v.chronicle := by
  obtain ⟨rest, ht⟩ := World.task_of_calls hc
  exact (S.sound.safe i _ ht).1

theorem ends {result : Except Failure call.Result} (hi : w.tasks.length ≤ i)
    (he : v.Ended i call result) : call.Ends c w.chronicle rules i result v.chronicle :=
  S.sound.ended (E := EndsSince c rules w) he hi

/-- If only some calls have written to a record, then what their changes keep goes on to hold of
it. -/
theorem stored_since {motive : Proposal → Prop} (mine : Nat → Prop)
    (hp : Stored c w.chronicle id p) (first : motive p)
    (alone : ∀ e ∈ v.since w, ∀ b q, e.event = .wrote b q → q.id = id → mine e.task)
    (changed : ∀ past i old new, ⟨i, .wrote (some old) new⟩ :: past <:+ v.chronicle → mine i →
      Change c past i old new → motive old → motive new)
    {news : Chronicle} (hn : news ++ w.chronicle <:+ v.chronicle) :
    ∃ q, Stored c (news ++ w.chronicle) id q ∧ motive q := by
  refine (S.lawful.of_suffix hn).stored_since hp first fun recent i old new hs hid hc hold => ?_
  have cut := hs.trans hn
  have wrote : ⟨i, .wrote (some old) new⟩ ∈ v.since w := by
    obtain ⟨later, split⟩ := cut
    rw [World.since_eq (later ++ ⟨i, .wrote (some old) new⟩ :: recent) (by rw [← split]; simp)]
    simp
  exact changed _ i old new cut (alone _ wrote _ _ rfl (hc.id_eq.trans hid)) hc hold

theorem stored_after {motive : Proposal → Prop} (mine : Nat → Prop)
    (hp : Stored c w.chronicle id p) (first : motive p)
    (alone : ∀ e ∈ v.since w, ∀ b q, e.event = .wrote b q → q.id = id → mine e.task)
    (changed : ∀ past i old new, ⟨i, .wrote (some old) new⟩ :: past <:+ v.chronicle → mine i →
      Change c past i old new → motive old → motive new) :
    ∃ q, Stored c v.chronicle id q ∧ motive q := by
  have whole := World.since_append S.suffix
  have all : v.since w ++ w.chronicle <:+ v.chronicle := whole ▸ List.suffix_rfl
  have held := S.stored_since mine hp first alone changed all
  rwa [whole] at held

end Sequel

end QuorumGate
