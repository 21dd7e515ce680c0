import QuorumGate.Proofs.Concurrency.Answers

/-!
# Expiring stale copies

A call that expires a proposal starts from any version that was ever committed, and may find the
record gone on each time that it writes. Under a clock that does not go backwards it still writes
the expired stage to open and overdue records only, and does not return from an overdue proposal
that is open. Its last look at the clock decides: an expiry that returns an open record ends with
that look.
-/

namespace QuorumGate

namespace Effect

/-- What an expiry asks for: to read, to look at the clock, to take a note, and to leave its
proposal expired. -/
def Expires (id : Text) : Effect → Prop
  | now | note _ => True
  | store (.updateProposal q _) _ => q.id = id ∧ q.status = .expired
  | store op _ => op.isRead = true
  | _ => False

/-- What every store replies: a record is found under its own identifier, and an update that is
confirmed shows what it was to write. -/
def Yields : (r : Effect) → r.Reply → Prop
  | .store (.getProposal x) _, reply => ∀ p, reply = .ok (some p) → p.id = x
  | .store (.updateProposal q expected) _, reply =>
    ∀ p, reply = .ok p → p = Store.committed q expected
  | _, _ => True

/-- A look at the clock shows that the window of a record is open. -/
def ShowsOpen : (r : Effect) → r.Reply → Proposal → Prop
  | .now, t, q => q.isExpired t = .ok false
  | _, _, _ => False

end Effect

/-- A program asks for what an expiry asks for, and returns a terminal record, or else one that the
clock has just shown to be within its window. -/
def Closing (id : Text) : Service Proposal → Prop
  | .done q => q.status.isTerminal = true
  | .fail _ => True
  | .ask r next => r.Expires id ∧ ∀ reply, r.Yields reply →
      Closing id (next reply) ∨ ∃ q, next reply = .done q ∧ r.ShowsOpen reply q

variable {rules : ExecutionRules} {c : Conditions} {v w : World} {m : Move} {past : Chronicle}
  {i n : Nat} {p q : Proposal} {id correlation : Text} {now : Instant}

namespace Closing

theorem look_bind {k : Instant → Service Proposal}
    (hk : ∀ t, Closing id (k t) ∨ ∃ q, k t = .done q ∧ q.isExpired t = .ok false) :
    Closing id (Service.now >>= k) := ⟨trivial, fun t _ => hk t⟩

theorem note_bind {level : Level} {channel : Channel} {text : Text} {k : Unit → Service Proposal}
    (hk : Closing id (k ())) : Closing id (Service.note level channel text >>= k) :=
  ⟨trivial, fun _ _ => .inl hk⟩

theorem load_bind {k : Proposal → Service Proposal} (hk : ∀ q, q.id = id → Closing id (k q)) :
    Closing id (Ledger.load id correlation >>= k) := by
  refine ⟨rfl, fun reply own => .inl ?_⟩
  cases reply with
  | error e => trivial
  | ok stored =>
    cases stored with
    | none => trivial
    | some q => exact hk q (own q rfl)

theorem expire_bind {k : Option Proposal → Service Proposal} (hid : p.id = id)
    (made : Closing id (k (some (Store.committed (p.withStatus .expired) p.version))))
    (unmade : Closing id (k none)) :
    Closing id (Service.storeUnlessConflict (.updateProposal (p.withStatus .expired) p.version)
      correlation >>= k) := by
  refine ⟨⟨hid, rfl⟩, fun reply confirmed => .inl ?_⟩
  cases reply with
  | ok q =>
    obtain rfl := confirmed q rfl
    exact made
  | error e =>
    cases e with
    | conflict => exact unmade
    | _ => trivial

end Closing

theorem Ledger.expireWithin_closing (hid : p.id = id) :
    Closing id (expireWithin id correlation n p) := by
  induction n generalizing p with
  | zero => trivial
  | succ n ih =>
    rw [expireWithin]
    cases hopen : p.status.isTerminal with
    | true => exact hopen
    | false =>
      refine Closing.look_bind fun t => ?_
      cases hlate : p.isExpired t with
      | error f => exact .inl trivial
      | ok late =>
        cases late with
        | false => exact .inr ⟨p, rfl, hlate⟩
        | true =>
          -- The next round starts from what is stored by then.
          exact .inl (Closing.expire_bind hid (Closing.note_bind rfl)
            (Closing.load_bind fun q hq => ih hq))

/-- What the surroundings answer is what every store replies. -/
theorem answer_yields {s : Store} {clock : Instant} {r : Effect} {choice : Choice} {a : Answer r}
    (h : answer s clock past r choice = some a) : r.Yields a.reply := by
  cases comesTo h with
  | @performed op =>
    cases op with
    | getProposal x => exact fun p hp => Store.id_eq_of_proposal? (Except.ok.inj hp)
    | updateProposal q expected =>
      intro p hp
      obtain ⟨-, -, -, rfl, -⟩ := Store.perform_updateProposal hp
      rfl
    | _ => trivial
  | @refused op | @lost op => cases op <;> first | trivial | exact fun _ h => nomatch h
  | _ => trivial

/-- What is left of an expiry that has not returned is closing its proposal. -/
theorem Reachable.closing (h : Reachable rules c w)
    {rest : Service (Call.expire p correlation).Result}
    (task : w.tasks[i]? = some ⟨.expire p correlation, rest⟩) :
    Closing p.id rest ∨ ∃ q, rest = .done q := by
  induction h generalizing rest with
  | opening clock => cases task
  | @move w v m before permitted moved ih =>
    have remains : w.Remains rules m v i (.expire p correlation) rest := World.remains moved task
    cases remains with
    | before task => exact ih task
    | begun => exact .inl (Ledger.expireWithin_closing rfl)
    | @answered r next choice a asking answer_eq =>
      rcases ih asking with closing | ⟨q, hq⟩
      · exact (closing.2 a.reply (answer_yields answer_eq)).imp_right fun ⟨q, hq, _⟩ => ⟨q, hq⟩
      · cases hq

/-- An expiry that returns now has found or left its proposal terminal, or the clock shows it to be
within its window. -/
theorem Reachable.terminal_or_open (h : Reachable rules c w) (moved : w.move rules m = some v)
    (going : ¬w.HasEnded i) (returned : v.Returned i (.expire p correlation) q) :
    q.status.isTerminal = true ∨ q.isExpired v.clock = .ok false := by
  have task : v.tasks[i]? = some ⟨.expire p correlation, .done q⟩ := returned
  generalize hq : (.done q : Service (Call.expire p correlation).Result) = rest at task
  have ended : Closing p.id rest → q.status.isTerminal = true := by
    rintro closing
    rw [← hq] at closing
    exact closing
  have remains : w.Remains rules m v i (.expire p correlation) rest := World.remains moved task
  cases remains with
  | before task =>
    rw [← hq] at task
    exact absurd ⟨.expire p correlation, .ok q, task⟩ going
  | begun => exact .inl (ended (Ledger.expireWithin_closing rfl))
  | @answered r next choice a asking answer_eq _ clock_eq =>
    rcases h.closing asking with closing | ⟨q, hq⟩
    · rcases closing.2 a.reply (answer_yields answer_eq) with closing | ⟨q', hq', shown⟩
      · exact .inl (ended closing)
      · cases hq.trans hq'
        cases comesTo answer_eq with
        | now => exact .inr (clock_eq ▸ shown)
        | _ => exact shown.elim
    · cases hq

/-! ## What it writes -/

/-- What a request of an expiry may do to a store: nothing, or one record that was stored open and
overdue is expired. -/
inductive Store.AfterExpiry (s : Store) (id : Text) (now : Instant) : Store → Prop where
  | same : s.AfterExpiry id now s
  | expired {old : Proposal} (stored : s.proposal? id = some old)
      (still_open : old.status.isTerminal = false) (overdue : old.Overdue now) :
      s.AfterExpiry id now { s with
        proposals := Store.replace { old with status := .expired, version := old.version + 1 }
          s.proposals }

/-- An expiry leaves executed records as they are. -/
theorem Store.AfterExpiry.executed {s t : Store} {x : Text} (h : s.AfterExpiry id now t)
    (stored : s.proposal? x = some q) (executed : q.status = .executed) :
    t.proposal? x = some q := by
  cases h with
  | same => exact stored
  | @expired old found still_open overdue =>
    have hid := Store.id_eq_of_proposal? found
    have others := Store.proposal?_replace (s := s)
      { old with status := .expired, version := old.version + 1 } (hid.symm ▸ found) x
    have other : old.id ≠ x := by
      intro same
      rw [← same, hid, found] at stored
      cases stored
      exact Status.ne_of_isTerminal still_open rfl executed
    exact others.trans ((if_neg other).trans stored)

/-- What a request of an expiry changes, it changes as an expiry may. -/
theorem Reachable.afterExpiry_of_changes (h : Reachable rules .steady v) {s : Store} {op : StoreOp}
    (asked : (Effect.store op correlation).Expires id)
    (wrote : ∀ e ∈ s.changes op, ⟨i, e⟩ ∈ v.chronicle) :
    s.AfterExpiry id v.clock (s.perform op).2 := by
  rw [Store.perform_eq_changes]
  rcases s.changes_cases op with none | ⟨e, one⟩
  · rw [none]
    exact .same
  · have mem : e ∈ s.changes op := one ▸ List.mem_singleton_self e
    rw [one]
    cases op with
    | updateProposal q expected =>
      obtain ⟨hid, expired⟩ := asked
      obtain ⟨old, stored, -, rfl⟩ := Store.changes_updateProposal q expected mem
      obtain ⟨older, hs, -, -, change⟩ := h.lawful.allowed (wrote _ mem)
      obtain ⟨same, still_open, t, seen, late⟩ := change.of_expired expired
      rw [hid] at stored
      have later := h.always.clock i t (hs.subset (List.mem_cons_of_mem _ seen))
      have expires : s.AfterExpiry id v.clock { s with
          proposals := Store.replace { old with status := .expired, version := old.version + 1 }
            s.proposals } :=
        .expired stored still_open ((Proposal.overdue_of_isExpired late).mono later.2)
      rw [same]
      exact expires
    | insertPolicy | insertProposal => cases asked
    | _ => cases mem

theorem Reachable.afterExpiry_of_answer (h : Reachable rules .steady v) {s : Store} {r : Effect}
    {choice : Choice} {a : Answer r} (asked : r.Expires id)
    (answer_eq : answer s v.clock past r choice = some a)
    (wrote : ∀ e ∈ a.events, ⟨i, e⟩ ∈ v.chronicle) : s.AfterExpiry id v.clock a.store := by
  cases comesTo answer_eq with
  | performed =>
    exact h.afterExpiry_of_changes asked fun e he => wrote e (List.mem_append_right _ he)
  | lost => exact h.afterExpiry_of_changes asked fun e he => wrote e (List.mem_cons_of_mem _ he)
  | _ => exact .same

/-! ## What it returns -/

/-- What is known of an expiry that has returned: if it was called with a committed version, it
shows a committed version of the same proposal. -/
def Call.ShowsVersion : (call : Call) → Except Failure call.Result → Chronicle → Prop
  | .expire p _, .ok q, past => p ∈ written past → q ∈ written past ∧ q.id = p.id
  | _, _, _ => True

theorem Call.keepsVersion (c : Conditions) (i : Nat) (call : Call) :
    KeepsLaw rules c i call (fun a => call.ShowsVersion (.ok a))
      fun e => call.ShowsVersion (.error e) := by
  intro past law began unused ready
  cases call with
  | expire p correlation =>
    by_cases known : p ∈ written past
    · exact (Ledger.expire_safe known).mono (fun _ _ => trivial) (fun _ _ _ h _ => h)
        fun _ _ _ _ => trivial
    · -- A version that has not been committed reads as terminal, and is shown as it is.
      have closed : p.status.isTerminal = true := by
        rcases Bool.or_eq_true_iff.1 ready with closed | committed
        · exact closed
        · exact absurd (List.contains_iff_mem.1 committed) known
      show Safe c i _ _ _ (Ledger.expire rules.attempts p correlation) past
      cases rules.attempts with
      | zero => exact Safe.reject fun _ _ => trivial
      | succ n =>
        rw [Ledger.expire, Ledger.expireWithin, if_pos closed]
        exact Safe.done fun _ _ committed => ⟨committed, rfl⟩
  | _ => exact Call.keepsLaw c i _ past law began unused ready

theorem Proposal.not_overdue_of_isExpired (h : p.isExpired now = .ok false) : ¬p.Overdue now := by
  rintro ⟨t, ht, late⟩
  simp only [isExpired, ht, Instant.isAfter] at h
  split at h
  · have early : ¬t.ticks < now.ticks := by simpa using h
    exact early late
  · cases h

/-- An expiry of any committed version, under a clock that does not go backwards and whatever the
store reports: each of its requests leaves the store as it was or expires one record that was stored
open and past its window at that moment, and executed records stay as they are; and if it returns
when the window is over, then the record that it shows and the stored one are terminal. -/
theorem Reachable.stale_copy_expired (h : Reachable rules .steady w)
    (permitted : Conditions.steady.permits w m) (moved : w.move rules m = some v)
    (called : v.calls[i]? = some (.expire p correlation)) (committed : p ∈ written v.chronicle) :
    (∀ choice, m = .serve i choice → w.store.AfterExpiry p.id w.clock v.store ∧
      ∀ x r, w.store.proposal? x = some r → r.status = .executed →
        v.store.proposal? x = some r) ∧
    (∀ q, v.Returned i (.expire p correlation) q → ¬w.HasEnded i → p.Overdue v.clock →
      q ∈ written v.chronicle ∧ q.id = p.id ∧ q.status.isTerminal = true ∧
        ∃ r, v.store.proposal? p.id = some r ∧ r.status.isTerminal = true) := by
  have reached : Reachable rules .steady v := h.move m permitted moved
  constructor
  · rintro choice rfl
    have after : w.store.AfterExpiry p.id w.clock v.store := by
      have calls : v.calls = w.calls := by simpa [Move.call?] using World.calls_move moved
      obtain ⟨rest, task⟩ := World.task_of_calls (calls ▸ called)
      cases World.moved moved with
      | @served _ _ call r next a asking answer_eq =>
        rw [task] at asking
        cases asking
        rcases h.closing task with ⟨asked, -⟩ | ⟨q, hq⟩
        · exact reached.afterExpiry_of_answer asked answer_eq fun e he =>
            List.mem_append_left _ (mem_entries.2 ⟨rfl, he⟩)
        · cases hq
    exact ⟨after, fun x r stored executed => after.executed stored executed⟩
  · intro q returned going overdue
    have shows : (Call.expire p correlation).ShowsVersion (.ok q) v.chronicle :=
      (reached.sound (Call.keepsVersion .steady)).ended (E := fun _ => Call.ShowsVersion) returned
    obtain ⟨known, hid⟩ := shows committed
    have terminal : q.status.isTerminal = true := by
      rcases h.terminal_or_open moved going returned with terminal | still_open
      · exact terminal
      · -- The call returns at the time that its last look has shown.
        have origin := reached.lawful.origin_eq committed known hid
        rw [Proposal.isExpired_of_origin origin] at still_open
        exact absurd overdue (Proposal.not_overdue_of_isExpired still_open)
    obtain ⟨r, stored, later⟩ := reached.lawful.stored known hid
    exact ⟨known, hid, terminal, r, reached.store_eq ▸ stored, later.isTerminal terminal⟩

namespace OneOfTwo

/-- The clock does not go backwards, and requests may be treated in any way. -/
def steady : World → Move → Bool :=
  World.allows (fun _ _ => true) fun s t => s.isAware == t.isAware && decide (s.ticks ≤ t.ticks)

theorem reachable_steady {script : List Move}
    (hw : (World.opening [] start).play rules steady script = some w) :
    Reachable rules .steady w := by
  refine Reachable.follows (.opening start) (Follows.of_play
    (Conditions.permits_of_allows (fun _ _ _ => trivial) fun s t ht => ?_) .refl hw)
  simpa [Conditions.steady] using ht

/-- The proposal of `windowed` as it was created, before it was signed. -/
def unsignedVersion : Proposal :=
  (((World.opening [] start).play OneOfTwo.rules steady
    (proposed { policy with expirySeconds := some 60 })).bind
      (·.store.proposal? (letter 'Q'))).get (by decide +kernel)

/-- The first version of a proposal that was signed since is expired: the first update conflicts
with the signature, and the second one is made and taken for a conflict. -/
def staleMoves : List Move :=
  windowed ++ [.start (.expire unsignedVersion (letter 'r')), .tick (minute (.last 2))] ++
  serve 5 [.plain, .plain, .plain, .plain, .lost (.conflict (letter 'Q') 2 .nothing)]

def beforeReload : World :=
  ((World.opening [] start).play OneOfTwo.rules steady staleMoves).get (by decide +kernel)

theorem play_beforeReload : (World.opening [] start).play OneOfTwo.rules steady staleMoves =
    some beforeReload := (Option.some_get _).symm

def afterReload : World :=
  (beforeReload.move OneOfTwo.rules (.serve 5 .plain)).get (by decide +kernel)

theorem move_afterReload : beforeReload.move OneOfTwo.rules (.serve 5 .plain) = some afterReload :=
  (Option.some_get _).symm

/-- An expiry of the unsigned version finds the signed one, and does not return before that one is
expired. -/
theorem stale_version_expired : ∃ q r,
    afterReload.Returned 5 (.expire unsignedVersion (letter 'r')) q ∧
      unsignedVersion.signatures = [] ∧ q.status.isTerminal = true ∧
      afterReload.store.proposal? unsignedVersion.id = some r ∧ r.status.isTerminal = true := by
  have hw : Reachable OneOfTwo.rules .steady beforeReload := reachable_steady play_beforeReload
  have hc : afterReload.calls[5]? = some (.expire unsignedVersion (letter 'r')) := by
    rw [World.calls_move move_afterReload, World.calls_play play_beforeReload]
    rfl
  have committed : unsignedVersion ∈ written afterReload.chronicle :=
    List.contains_iff_mem.1 (by decide +kernel)
  have asking : (beforeReload.request? 5).isSome = true := by decide +kernel
  have going : ¬beforeReload.HasEnded 5 := by
    rintro ⟨call, result, ended⟩
    rw [ended.request?_eq_none] at asking
    cases asking
  have ends : unsignedVersion.expiresAt = some (minute 1) := by decide +kernel
  have late : (minute 1).ticks < afterReload.clock.ticks := by decide +kernel
  obtain ⟨q, returned⟩ := World.returned_of_hasReturned hc (by decide +kernel)
  obtain ⟨-, -, closed, r, stored, terminal⟩ := (hw.stale_copy_expired (m := .serve 5 .plain)
    (fun _ _ => trivial) move_afterReload hc committed).2 q returned going ⟨_, ends, late⟩
  have unsigned : unsignedVersion.signatures = [] := by decide +kernel
  exact ⟨q, r, returned, unsigned, closed, stored, terminal⟩

end OneOfTwo

end QuorumGate
