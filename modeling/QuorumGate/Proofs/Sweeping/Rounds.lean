import QuorumGate.Proofs.Concurrency.Dependable
import QuorumGate.Proofs.Concurrency.Deployment
import QuorumGate.Proofs.Exchanges
import QuorumGate.Service.Sweeper

/-!
# What the sweeper's loop survives

An outage ends a sweep, and the loop reports it and goes on after a pause. A conflict makes the
sweep look at the record again, and a record that keeps changing is skipped. Any other failure of
the store ends the loop, and so does a record that is gone when it is looked at again, or one with
times that cannot be compared with the clock.
-/

namespace QuorumGate

namespace Failure

/-- Whether a store could not be reached. -/
def isOutage : Failure → Bool
  | unavailable .. => true
  | _ => false

/-- What a sweep leaves a record for: the store cannot be reached, or it keeps changing. -/
def isPassing (e : Failure) : Bool := e.isOutage || e.isBusy

end Failure

namespace Exchange

/-- The failure with which an exchange ends the loop of the sweeper, if it does. -/
def fatal? : Exchange services → Option Failure
  | ⟨.store (.listProposals _) _, .error e⟩ => if e.isOutage then none else some e
  | ⟨.store (.updateProposal ..) _, .error e⟩ =>
    if e.isConflict || e.isPassing then none else some e
  | ⟨.store (.getProposal _) _, .error e⟩ => if e.isPassing then none else some e
  | ⟨.store (.getProposal id) _, .ok none⟩ => some (.rejected (.noProposal id))
  | _ => none

/-- The records that are found in an exchange. -/
def records : Exchange services → List Proposal
  | ⟨.store (.listProposals _) _, .ok ps⟩ => ps
  | ⟨.store (.getProposal _) _, .ok (some p)⟩ => [p]
  | _ => []

end Exchange

namespace Program.Ensures

variable {α β : Type} {log : List (Exchange services)} {op : StoreOp} {correlation : Text}
  {post : List (Exchange services) → Except Failure α → Prop}

theorem timed_bind {x : Except TimeFault β} {k : β → Service α}
    (ok : ∀ b, x = .ok b → (k b).Ensures post log)
    (fault : ∀ f, x = .error f → post log (.error (.time f))) :
    (Service.timed x >>= k).Ensures post log := by
  cases x with
  | ok b => exact ok b rfl
  | error f => exact fault f rfl

theorem store_bind {k : op.Result → Service α}
    (ok : ∀ a, (k a).Ensures post (log ++ [⟨Effect.store op correlation, .ok a⟩]))
    (failed : ∀ e, post (log ++ [⟨Effect.store op correlation, .error e⟩]) (.error e)) :
    (Service.store op correlation >>= k).Ensures post log := by
  intro reply
  cases reply with
  | ok a => exact ok a
  | error e => exact failed e

/-- A write that is refused by a conflict is not the end. -/
theorem write_bind {k : Option op.Result → Service α}
    (ok : ∀ a, (k (some a)).Ensures post (log ++ [⟨Effect.store op correlation, .ok a⟩]))
    (conflict : ∀ e : Failure, e.isConflict = true →
      (k none).Ensures post (log ++ [⟨Effect.store op correlation, .error e⟩]))
    (failed : ∀ e : Failure, e.isConflict = false →
      post (log ++ [⟨Effect.store op correlation, .error e⟩]) (.error e)) :
    (Service.storeUnlessConflict op correlation >>= k).Ensures post log := by
  intro reply
  cases reply with
  | ok a => exact ok a
  | error e =>
    cases e with
    | conflict => exact conflict _ rfl
    | _ => exact failed _ rfl

end Program.Ensures

namespace Sweeper

/-- A record has been found in one of the exchanges. -/
def Shown (log : List (Exchange services)) (p : Proposal) : Prop := ∃ x ∈ log, p ∈ x.records

/-- What a sweep ends with for good, as its exchanges show: with a reply, or with times that cannot
be compared. -/
inductive Blame (log : List (Exchange services)) : Failure → Prop where
  | reply {x : Exchange services} {e : Failure} (exchanged : x ∈ log) (fatal : x.fatal? = some e) :
      Blame log e
  | times {p : Proposal} {t : Instant} {f : TimeFault} (shown : Shown log p)
      (seen : ⟨Effect.now, t⟩ ∈ log) (fault : p.isExpired t = .error f) : Blame log (.time f)

/-- Nothing has been exchanged that ends the loop. -/
def Clean (log : List (Exchange services)) : Prop := ∀ x ∈ log, x.fatal? = none

/-- How a part of a sweep ends: well, or with a failure that is dealt with, or for good. -/
inductive Ends {α : Type} (mild : Failure → Bool) (log : List (Exchange services)) :
    Except Failure α → Prop where
  | well (clean : Clean log) (a : α) : Ends mild log (.ok a)
  | mildly {e : Failure} (clean : Clean log) (passing : mild e = true) : Ends mild log (.error e)
  | badly {e : Failure} (blame : Blame log e) (lasting : mild e = false)
      (only : ∀ x ∈ log, ∀ e', x.fatal? = some e' → e' = e) : Ends mild log (.error e)

variable {α β : Type} {mild mild' : Failure → Bool} {log log' : List (Exchange services)}
  {x : Exchange services} {e : Failure} {p : Proposal} {ps : List Proposal} {n : Nat}
  {id correlation : Text} {now : Instant}

theorem Shown.later (h : Shown log p) (later : log <+: log') : Shown log' p := by
  obtain ⟨x, hx, found⟩ := h
  exact ⟨x, later.subset hx, found⟩

theorem Shown.last (found : p ∈ x.records) : Shown (log ++ [x]) p :=
  ⟨x, List.mem_append_right log List.mem_cons_self, found⟩

theorem Clean.append (clean : Clean log) (harmless : x.fatal? = none) : Clean (log ++ [x]) := by
  intro y hy
  rcases List.mem_append.1 hy with earlier | last
  · exact clean y earlier
  · rw [List.mem_singleton.1 last]
    exact harmless

namespace Ends

theorem of_reply (clean : Clean log) (fatal : x.fatal? = some e) (lasting : mild e = false) :
    Ends (α := α) mild (log ++ [x]) (.error e) := by
  apply badly (.reply (List.mem_append_right log List.mem_cons_self) fatal) lasting
  intro y hy e' he'
  rcases List.mem_append.1 hy with earlier | last
  · rw [clean y earlier] at he'
    cases he'
  · rw [List.mem_singleton.1 last, fatal] at he'
    exact (Option.some.inj he').symm

/-- A store has replied with a failure, and the exchange tells whether this is dealt with. -/
theorem of_failed (clean : Clean log) (told : x.fatal? = if mild e then none else some e) :
    Ends (α := α) mild (log ++ [x]) (.error e) := by
  cases passing : mild e with
  | true =>
    rw [passing] at told
    exact mildly (clean.append told) passing
  | false =>
    rw [passing] at told
    exact of_reply clean told passing

theorem of_times {t : Instant} {f : TimeFault} (clean : Clean log) (shown : Shown log p)
    (seen : ⟨Effect.now, t⟩ ∈ log) (fault : p.isExpired t = .error f)
    (lasting : mild (.time f) = false) : Ends (α := α) mild log (.error (.time f)) := by
  apply badly (.times shown seen fault) lasting
  intro y hy e' he'
  rw [clean y hy] at he'
  cases he'

theorem clean {a : α} (h : Ends mild log (.ok a)) : Clean log := by
  cases h with
  | well clean => exact clean

/-- What one part ends with is what the whole ends with, if it is dealt with no further. -/
theorem error (h : Ends (α := α) mild log (.error e)) (same : mild' e = mild e) :
    Ends (α := β) mild' log (.error e) := by
  cases h with
  | mildly clean passing => exact .mildly clean (same.trans passing)
  | badly blame lasting only => exact .badly blame (same.trans lasting) only

end Ends

/-! ## One record -/

theorem load_bind_ends {k : Proposal → Service α} (clean : Clean log)
    (hk : ∀ (log' : List (Exchange services)) (q : Proposal), Clean log' → Shown log' q →
      (k q).Ensures (Ends Failure.isPassing) log') :
    (Ledger.load id correlation >>= k).Ensures (Ends Failure.isPassing) log := by
  rw [Ledger.load, Program.bind_assoc]
  apply Program.Ensures.store_bind
  · intro found
    cases found with
    | none => exact .of_reply clean rfl rfl
    | some q => exact hk _ q (clean.append rfl) (.last List.mem_cons_self)
  · intro e
    exact .of_failed clean rfl

theorem expireWithin_ends (clean : Clean log) (shown : Shown log p) :
    (Ledger.expireWithin id correlation n p).Ensures (Ends Failure.isPassing) log := by
  induction n generalizing p log with
  | zero => exact .mildly clean rfl
  | succ n ih =>
    rw [Ledger.expireWithin]
    by_cases closed : p.status.isTerminal
    · rw [if_pos closed]
      exact .well clean p
    · rw [if_neg closed]
      intro now
      have clean' : Clean (log ++ [⟨Effect.now, now⟩]) := clean.append rfl
      apply Program.Ensures.timed_bind
      · intro expired _
        by_cases late : expired = true
        · rw [if_pos late]
          apply Program.Ensures.write_bind
          · intro q _
            exact .well ((clean'.append rfl).append rfl) q
          · intro e conflict
            apply load_bind_ends
            · apply clean'.append
              simp [Exchange.fatal?, conflict]
            · intro log' q clean shown
              exact ih clean shown
          · intro e other
            apply Ends.of_failed clean'
            simp [Exchange.fatal?, other]
        · rw [if_neg late]
          exact .well clean' p
      · intro f fault
        apply Ends.of_times clean' (shown.later (List.prefix_append _ _)) _ fault rfl
        exact List.mem_append_right log List.mem_cons_self

/-- A record that keeps changing is skipped. -/
theorem close_ends (clean : Clean log) (shown : Shown log p) :
    (close n p).Ensures (Ends Failure.isOutage) log := by
  rw [close]
  apply (expireWithin_ends clean shown).attempt.bind
  · rintro log' result - ⟨y, same, ends⟩
    obtain rfl := Except.ok.inj same
    cases result with
    | ok q => exact .well ends.clean _
    | error e =>
      by_cases busy : e.isBusy = true
      · have dealt_with : Clean log' := by
          cases ends with
          | mildly clean _ => exact clean
          | badly _ lasting _ => simp [Failure.isPassing, busy] at lasting
        dsimp only
        rw [if_pos busy]
        intro _
        exact .well (dealt_with.append rfl) false
      · dsimp only
        rw [if_neg busy]
        apply ends.error
        simp [Failure.isPassing, busy]
  · rintro log' e ⟨y, impossible, -⟩
    cases impossible

/-! ## A sweep -/

theorem closeAll_ends {closed : Nat} (clean : Clean log) (shown : ∀ p ∈ ps, Shown log p)
    (seen : ⟨Effect.now, now⟩ ∈ log) :
    (closeAll n now closed ps).Ensures (Ends Failure.isOutage) log := by
  induction ps generalizing closed log with
  | nil => exact .well clean closed
  | cons p ps ih =>
    have first : Shown log p := shown p List.mem_cons_self
    rw [closeAll]
    apply Program.Ensures.timed_bind
    · intro expired _
      have next (done : Bool) {log' : List (Exchange services)} (clean' : Clean log')
          (later : log <+: log') :
          (closeAll n now (if done then closed + 1 else closed) ps).Ensures (Ends Failure.isOutage)
            log' :=
        ih clean' (fun q hq => (shown q (List.mem_cons_of_mem p hq)).later later)
          (later.subset seen)
      cases expired with
      | true =>
        apply (close_ends clean first).bind
        · intro log' done later ends
          exact next done ends.clean later
        · intro log' e ends
          exact ends.error rfl
      | false => exact next false clean (List.prefix_refl log)
    · intro f fault
      exact .of_times clean first seen fault rfl

theorem sweep_ends (n : Nat) : (sweep n).Ensures (Ends Failure.isOutage) [] := by
  rw [sweep]
  intro now
  have nothing : Clean ([] ++ [⟨Effect.now, now⟩]) := by simp [Clean, Exchange.fatal?]
  apply Program.Ensures.store_bind
  · intro ps
    refine Program.Ensures.bind (closeAll_ends (nothing.append rfl) ?_ ?_) ?_ ?_
    · intro p hp
      exact .last hp
    · simp
    · intro log' closed _ ends
      by_cases some_closed : closed ≠ 0
      · rw [if_pos some_closed]
        intro _
        exact .well (ends.clean.append rfl) closed
      · rw [if_neg some_closed]
        exact .well ends.clean closed
    · intro log' e ends
      exact ends.error rfl
  · intro e
    exact .of_failed nothing rfl

/-! ## The loop -/

/-- A sweep that the loop survives, with what is reported of it. -/
inductive Survived : Except Failure Nat → List (Exchange services) → Prop where
  | well (closed : Nat) : Survived (.ok closed) []
  | outage (detail : Text) (status : Int) (issues : List Issue) :
      Survived (.error (.unavailable detail status issues))
        [⟨Effect.note ⟨.error, .sweeper, "expiry sweep skipped: " ++ detail⟩, ()⟩]

variable {answer : List (Exchange services) → (r : Effect) → r.Reply} {attempts : Nat}
  {interval : Number} {before swept report : List (Exchange services)} {y : Except Failure Nat}
  {z : Except Failure Unit}

/-- The rounds of the sweeper: each is a sweep, a report if there was an outage, and a pause of one
interval, until a sweep ends for good. -/
inductive Course (answer : List (Exchange services) → (r : Effect) → r.Reply) (attempts : Nat)
    (interval : Number) :
    Nat → List (Exchange services) → List (Exchange services) → Except Failure Unit → Prop where
  | rested (log : List (Exchange services)) : Course answer attempts interval 0 log log (.ok ())
  | again {n : Nat} {before swept report log : List (Exchange services)} {y : Except Failure Nat}
      {z : Except Failure Unit}
      (run : (sweep attempts).interpret (Program.recording answer) before = (y, before ++ swept))
      (survived : Survived y report)
      (rest : Course answer attempts interval n
        (before ++ swept ++ report ++ [⟨Effect.pause interval, ()⟩]) log z) :
      Course answer attempts interval (n + 1) before log z
  | stopped {n : Nat} {before swept : List (Exchange services)} {e : Failure}
      (run : (sweep attempts).interpret (Program.recording answer) before =
        (.error e, before ++ swept))
      (lasting : e.isOutage = false) (blame : Blame swept e) :
      Course answer attempts interval (n + 1) before (before ++ swept) (.error e)

/-- A sweep is survived, and nothing in it ends the loop, or it ends the loop itself. -/
theorem Ends.survived_or (h : Ends Failure.isOutage swept y) :
    (∃ report, Survived y report ∧ Clean (swept ++ report)) ∨
      ∃ e, y = .error e ∧ e.isOutage = false ∧ Blame swept e ∧
        ∀ x ∈ swept, ∀ e', x.fatal? = some e' → e' = e := by
  cases h with
  | well clean closed =>
    refine .inl ⟨[], .well closed, ?_⟩
    rw [List.append_nil]
    exact clean
  | @mildly e clean passing =>
    cases e with
    | unavailable detail status issues =>
      exact .inl ⟨_, .outage detail status issues, clean.append rfl⟩
    | _ => cases passing
  | badly blame lasting only => exact .inr ⟨_, rfl, lasting, blame, only⟩

/-- The loop goes on to the next round after a sweep that it survives. -/
theorem interpret_rounds_survived
    (run : (sweep attempts).interpret (Program.recording answer) before = (y, log))
    (survived : Survived y report) :
    (rounds attempts interval (n + 1)).interpret (Program.recording answer) before =
      (rounds attempts interval n).interpret (Program.recording answer)
        (log ++ report ++ [⟨Effect.pause interval, ()⟩]) := by
  rw [rounds, Program.interpret_bind, round, Program.interpret_bind, Program.interpret_attempt, run]
  cases survived with
  | well closed =>
    rw [List.append_nil]
    rfl
  | outage detail status issues => rfl

/-- It ends with a sweep that it does not survive. -/
theorem interpret_rounds_stopped
    (run : (sweep attempts).interpret (Program.recording answer) before = (.error e, log))
    (lasting : e.isOutage = false) :
    (rounds attempts interval (n + 1)).interpret (Program.recording answer) before =
      (.error e, log) := by
  rw [rounds, Program.interpret_bind, round, Program.interpret_bind, Program.interpret_attempt, run]
  cases e with
  | unavailable => cases lasting
  | _ => rfl

theorem interpret_rounds (answer : List (Exchange services) → (r : Effect) → r.Reply)
    (attempts : Nat) (interval : Number) (n : Nat) (before : List (Exchange services)) :
    ∃ z own, (rounds attempts interval n).interpret (Program.recording answer) before =
        (z, before ++ own) ∧
      Course answer attempts interval n before (before ++ own) z ∧
      ∀ x ∈ own, ∀ e, x.fatal? = some e → z = .error e := by
  induction n generalizing before with
  | zero =>
    refine ⟨.ok (), [], ?_, ?_, by simp⟩
    · rw [List.append_nil]
      rfl
    · rw [List.append_nil]
      exact .rested before
  | succ n ih =>
    obtain ⟨y, swept, run, ends⟩ := (sweep_ends attempts).interpret answer before
    rcases ends.survived_or with ⟨report, survived, clean⟩ | ⟨e, rfl, lasting, blame, only⟩
    · obtain ⟨z, own, later, course, fatal⟩ :=
        ih (before ++ swept ++ report ++ [⟨Effect.pause interval, ()⟩])
      have cut : before ++ (swept ++ report ++ [⟨Effect.pause interval, ()⟩] ++ own) =
          before ++ swept ++ report ++ [⟨Effect.pause interval, ()⟩] ++ own := by simp
      refine ⟨z, swept ++ report ++ [⟨Effect.pause interval, ()⟩] ++ own, ?_, ?_, ?_⟩
      · rw [interpret_rounds_survived run survived, later, cut]
      · rw [cut]
        exact .again run survived course
      · intro x hx e' he'
        rcases List.mem_append.1 hx with first | rest
        · have harmless := clean.append (x := ⟨Effect.pause interval, ()⟩) rfl x first
          rw [harmless] at he'
          cases he'
        · exact fatal x rest e' he'
    · refine ⟨.error e, swept, interpret_rounds_stopped run lasting, ?_, ?_⟩
      · exact .stopped run lasting blame
      · intro x hx e' he'
        rw [only x hx e' he']

theorem Blame.mono (h : Blame log e) (sub : log ⊆ log') : Blame log' e := by
  cases h with
  | reply exchanged fatal => exact .reply (sub exchanged) fatal
  | times shown seen fault =>
    obtain ⟨x, hx, found⟩ := shown
    exact .times ⟨x, sub hx, found⟩ (sub seen) fault

/-- With nothing to blame, all rounds are made. -/
theorem Course.eq_ok (h : Course answer attempts interval n before log z)
    (blameless : ∀ e, ¬Blame log e) : z = .ok () := by
  induction h with
  | rested => rfl
  | again _ _ _ ih => exact ih blameless
  | @stopped _ before swept e _ _ blame =>
    exact absurd (blame.mono (List.subset_append_right before swept)) (blameless e)

/-- However the store, the clock and all others reply, the sweeper makes one round after the other,
each with a sweep and a pause of one interval, through outages and conflicts. Only a sweep that
ends for good stops it: for a failure of another kind, for a record that is gone, or for times that
cannot be compared. -/
theorem rounds_go_on (answer : List (Exchange services) → (r : Effect) → r.Reply) (attempts : Nat)
    (interval : Number) (n : Nat) :
    ∃ z log, (rounds attempts interval n).interpret (Program.recording answer) [] = (z, log) ∧
      Course answer attempts interval n [] log z ∧
      ((∀ e, ¬Blame log e) → z = .ok ()) ∧
      ∀ x ∈ log, ∀ e, x.fatal? = some e → z = .error e := by
  obtain ⟨z, log, run, course, fatal⟩ := interpret_rounds answer attempts interval n []
  exact ⟨z, log, run, course, course.eq_ok, fatal⟩

end Sweeper

namespace OneOfTwo

open Sweeper

theorem microsecond : 1 < microsPerDay := by decide

/-- A microsecond after the start. -/
def justAfter : Instant := ⟨start.date, 1, microsecond, start.offset⟩

/-- A proposal that was to be signed by the start. -/
def missed : Proposal := draft.toProposal (letter 'Q') start (some start)

/-- The store holds one overdue proposal, as far as a listing tells, and an update or a reload is
replied as given. -/
def holding (update : Except Failure Proposal) (reload : Except Failure (Option Proposal))
    (_ : List (Exchange services)) : (r : Effect) → r.Reply
  | .now => justAfter
  | .fresh _ => letter 'T'
  | .note _ | .correlate _ | .pause _ => ()
  | .store (.listProposals _) _ => .ok [missed]
  | .store (.updateProposal ..) _ => update
  | .store (.getProposal _) _ => reload
  | .store (.insertPolicy P) _ => .ok P
  | .store (.getPolicy _) _ => .ok none
  | .store (.listPolicies _) _ => .ok []
  | .store (.insertProposal p) _ => .ok p
  | .verify .. => .ok true
  | .deploy .. => .timedOut

/-- The record keeps changing. -/
def everChanging := holding (.error (.conflict (letter 'Q') 1 (.version 2))) (.ok (some missed))

/-- The record changes, and is gone then. -/
def vanishing := holding (.error (.conflict (letter 'Q') 1 .nothing)) (.ok none)

theorem busy_record_survived :
    ∃ log, Course everChanging 8 (.whole 30) 2 [] log (.ok ()) := by
  obtain ⟨z, log, run, course, -⟩ := rounds_go_on everChanging 8 (.whole 30) 2
  have well : ((rounds 8 (.whole 30) 2).interpret (Program.recording everChanging) []).1.isOk :=
    by decide +kernel
  rw [run] at well
  cases z with
  | ok u => exact ⟨log, course⟩
  | error e => cases well

/-- A record that is gone when it is looked at again stops the loop. -/
theorem vanished_record_stops :
    ¬∀ answer attempts interval n,
      ((rounds attempts interval n).interpret (Program.recording answer) []).1 = .ok () := by
  intro claimed
  have survived := claimed vanishing 8 (.whole 30) 2
  have stopped : ((rounds 8 (.whole 30) 2).interpret (Program.recording vanishing) []).1 =
      .error (.rejected (.noProposal (letter 'Q'))) := rfl
  rw [stopped] at survived
  cases survived

end OneOfTwo

end QuorumGate
