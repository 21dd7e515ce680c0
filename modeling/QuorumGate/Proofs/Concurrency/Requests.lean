import QuorumGate.Proofs.Concurrency.Expiry

/-!
# What programs ask for

Some of what is true of a call is already written into its program, whatever it is answered: which
requests it makes at all. A call that checks a proposal leaves no record behind but an expired one,
and only a call that claims asks for a record to be claimed.
-/

namespace QuorumGate

/-- A program asks only for what is allowed, and its result is as it should be, however its requests
are answered. -/
def Asks (allowed : Effect → Prop) (ok : α → Prop) : Service α → Prop
  | .done a => ok a
  | .fail _ => True
  | .ask r next => allowed r ∧ ∀ reply, Asks allowed ok (next reply)

namespace Effect

/-- What is asked for by the way: to read, to look at the clock, to take a note, and to leave a record
expired. -/
def Incidental : Effect → Prop
  | now | note _ => True
  | store (.updateProposal q _) _ => q.status = .expired
  | store op _ => op.isRead = true
  | _ => False

/-- Whether a record is put as a claim puts it, with an execution that has not been finished. -/
def Claims : Effect → Prop
  | store (.updateProposal q _) _ =>
    q.status = .executed ∧ ∃ x, q.execution = some x ∧ x.outcome = .inFlight
  | _ => False

def Verifies : Effect → Prop
  | verify .. => True
  | _ => False

theorem Incidental.not_claims {r : Effect} (h : r.Incidental) : ¬r.Claims := by
  intro claims
  cases r with
  | store op correlation =>
    cases op with
    | updateProposal q expected =>
      have expired : q.status = .expired := h
      have executed : q.status = .executed := claims.1
      rw [expired] at executed
      cases executed
    | _ => cases claims
  | _ => cases claims

theorem Incidental.not_verifies {r : Effect} (h : r.Incidental) : ¬r.Verifies := by
  cases r with
  | verify => exact h.elim
  | _ => exact id

end Effect

variable {α β : Type} {allowed allowed' : Effect → Prop} {ok ok' : α → Prop} {ok'' : β → Prop}
  {program : Service α} {p : Proposal} {id correlation : Text} {n : Nat}

namespace Asks

theorem mono (h : Asks allowed ok program) (ha : ∀ r, allowed r → allowed' r)
    (hok : ∀ a, ok a → ok' a) : Asks allowed' ok' program := by
  induction program with
  | done a => exact hok a h
  | fail e => trivial
  | ask r next ih => exact ⟨ha r h.1, fun reply => ih reply (h.2 reply)⟩

theorem of_forall (h : ∀ r, allowed r) : Asks allowed (fun _ => True) program := by
  induction program with
  | done a => trivial
  | fail e => trivial
  | ask r next ih => exact ⟨h r, ih⟩

theorem bind {k : α → Service β} (h : Asks allowed ok program)
    (hk : ∀ a, ok a → Asks allowed ok'' (k a)) : Asks allowed ok'' (program >>= k) := by
  induction program with
  | done a => exact hk a h
  | fail e => trivial
  | ask r next ih => exact ⟨h.1, fun reply => ih reply (h.2 reply)⟩

theorem reject {r : Rejection} : Asks allowed ok (Service.reject r) := trivial

theorem reject_bind {r : Rejection} {k : β → Service α} :
    Asks allowed ok (Service.reject r >>= k) := trivial

theorem ofExcept_bind {ε : Type} {x : Except ε α} {f : ε → Failure} {k : α → Service β}
    (hk : ∀ a, x = .ok a → Asks allowed ok'' (k a)) :
    Asks allowed ok'' ((Program.ofExcept (x.mapError f) : Service α) >>= k) := by
  cases x with
  | ok a => exact hk a rfl
  | error e => trivial

theorem now_bind {k : Instant → Service α} (h : allowed .now) (hk : ∀ t, Asks allowed ok (k t)) :
    Asks allowed ok (Service.now >>= k) := ⟨h, hk⟩

theorem fresh_bind {kind : IdKind} {k : Text → Service α} (h : allowed (.fresh kind))
    (hk : ∀ id, Asks allowed ok (k id)) : Asks allowed ok (Service.fresh kind >>= k) := ⟨h, hk⟩

theorem note_bind {level : Level} {channel : Channel} {text : Text} {k : Unit → Service α}
    (h : allowed (.note ⟨level, channel, text⟩)) (hk : Asks allowed ok (k ())) :
    Asks allowed ok (Service.note level channel text >>= k) := ⟨h, fun _ => hk⟩

theorem store_bind {op : StoreOp} {k : op.Result → Service α} (h : allowed (.store op correlation))
    (hk : ∀ r, Asks allowed ok (k r)) :
    Asks allowed ok (Service.store op correlation >>= k) := by
  refine ⟨h, fun reply => ?_⟩
  cases reply with
  | ok r => exact hk r
  | error e => trivial

theorem write_bind {op : StoreOp} {k : Option op.Result → Service α}
    (h : allowed (.store op correlation)) (hk : ∀ r, Asks allowed ok (k r)) :
    Asks allowed ok (Service.storeUnlessConflict op correlation >>= k) := by
  refine ⟨h, fun reply => ?_⟩
  cases reply with
  | ok r => exact hk (some r)
  | error e =>
    cases e with
    | conflict record expected found => exact hk none
    | _ => trivial

end Asks

theorem Policies.get_asks : Asks Effect.Incidental (fun _ => True) (get id correlation) := by
  refine Asks.store_bind rfl fun r => ?_
  cases r with
  | none => exact Asks.reject
  | some P => trivial

namespace Ledger

theorem load_asks : Asks Effect.Incidental (fun _ => True) (load id correlation) := by
  refine Asks.store_bind rfl fun r => ?_
  cases r with
  | none => exact Asks.reject
  | some p => trivial

theorem expireWithin_asks :
    Asks Effect.Incidental (fun _ => True) (expireWithin id correlation n p) := by
  induction n generalizing p with
  | zero => exact Asks.reject
  | succ n ih =>
    rw [expireWithin]
    by_cases closed : p.status.isTerminal = true
    · rw [if_pos closed]
      trivial
    · rw [if_neg closed]
      refine Asks.now_bind trivial fun t => Asks.ofExcept_bind fun expired _ => ?_
      cases expired with
      | false => trivial
      | true =>
        refine Asks.write_bind rfl fun r => ?_
        cases r with
        | some q => exact Asks.note_bind trivial trivial
        | none => exact load_asks.bind fun q _ => ih

/-- Whatever comes of an expiry, the rejection after it ends the call. -/
theorem expire_then_reject_asks {k : β → Service α} {r : Rejection}
    (h : ∀ r : Effect, r.Incidental → allowed r) :
    Asks allowed ok
      (do
        let _ ← expire n p correlation
        let x ← (Service.reject r : Service β)
        k x) :=
  (expireWithin_asks.mono h fun _ h => h).bind fun _ _ => Asks.reject_bind

theorem Signing.checkOpen_asks {g : Signing} :
    Asks Effect.Incidental (fun _ => True) (g.checkOpen p) := by
  unfold checkOpen
  cases p.status.isTerminal with
  | true => exact Asks.reject_bind
  | false =>
    refine Asks.now_bind trivial fun t => Asks.ofExcept_bind fun expired _ => ?_
    cases expired with
    | true => exact expire_then_reject_asks fun _ h => h
    | false =>
      cases g.policy.signers.contains g.signer with
      | false => exact Asks.reject_bind
      | true =>
        cases p.hasSigned g.signer with
        | true => exact Asks.reject
        | false => trivial

/-- A call that records a signature does not have anything verified any more. -/
theorem Signing.recordWithin_asks {g : Signing} :
    Asks (fun r => ¬r.Verifies) (fun _ => True) (g.recordWithin n p) := by
  have free : ∀ r : Effect, r.Incidental → ¬r.Verifies := fun _ => Effect.Incidental.not_verifies
  induction n generalizing p with
  | zero => exact Asks.reject
  | succ n ih =>
    rw [recordWithin]
    refine Asks.now_bind id fun now => Asks.fresh_bind id fun sid => ?_
    have signed : Asks (fun r => ¬r.Verifies) (fun _ => True)
        (g.signed p ⟨sid, g.signer, g.data, now⟩ now) := by
      unfold Signing.signed
      refine Asks.ofExcept_bind fun next _ => ?_
      by_cases late : next = .expired
      · rw [if_pos late]
        exact expire_then_reject_asks free
      · rw [if_neg late]
        exact Asks.ofExcept_bind fun _ _ => trivial
    refine signed.bind fun q _ => Asks.write_bind id fun r => ?_
    cases r with
    | some stored => exact Asks.note_bind id trivial
    | none =>
      refine Asks.note_bind id ?_
      by_cases last : n = 0
      · rw [if_pos last]
        exact Asks.reject
      · rw [if_neg last]
        refine (load_asks.mono free fun _ h => h).bind fun q _ => ?_
        cases q.signatures.any (Signature.same ⟨sid, g.signer, g.data, now⟩) with
        | true => trivial
        | false => exact (checkOpen_asks.mono free fun _ h => h).bind fun _ _ => ih

end Ledger

namespace Executions

variable {x : Execution} {e : Text} {limit : Number}

theorem deploy_asks :
    Asks (fun r => ¬r.Claims) (fun x => x.outcome ≠ .inFlight) (deploy p e limit correlation) := by
  have finish : ∀ landing, Asks (fun r => ¬r.Claims) (fun x => x.outcome ≠ .inFlight)
      (do
        noteLanding p.id limit landing
        let now ← Service.now
        return finished e limit landing now) := by
    intro landing
    have stamp : Asks (fun r => ¬r.Claims) (fun x => x.outcome ≠ .inFlight)
        (do
          let now ← Service.now
          return finished e limit landing now) :=
      Asks.now_bind id fun now => outcome_ne_inFlight e limit landing now
    cases landing with
    | reported r => exact stamp
    | raised label message => exact Asks.note_bind id stamp
    | timedOut => exact Asks.note_bind id stamp
  unfold deploy callDeployer
  cases limit.atMostZero with
  | true => exact finish .timedOut
  | false => exact ⟨id, finish⟩

/-- An execution that is recorded has been finished. -/
theorem recordWithin_asks (final : x.outcome ≠ .inFlight) :
    Asks (fun r => ¬r.Claims) (fun _ => True) (recordWithin id x correlation n p) := by
  have concluded : ∀ p : Proposal, ∀ v,
      ¬(Effect.store (.updateProposal (p.withExecution x) v) correlation).Claims := by
    rintro p v ⟨-, y, hy, open_yet⟩
    obtain rfl : x = y := Option.some.inj hy
    exact final open_yet
  induction n generalizing p with
  | zero => exact Asks.reject
  | succ n ih =>
    rw [recordWithin]
    refine Asks.write_bind (concluded p p.version) fun r => ?_
    cases r with
    | some stored => exact Asks.note_bind not_false trivial
    | none =>
      exact (Ledger.load_asks.mono (fun _ => Effect.Incidental.not_claims) fun _ h => h).bind
        fun q _ => ih

end Executions

/-- What comes of the requests that a program makes is known together with what it may do. -/
theorem Safe.asks {c : Conditions} {i : Nat} {past : Chronicle} {may may' : Event → Prop}
    {good : α → Chronicle → Prop} {bad : Failure → Chronicle → Prop}
    (h : Safe c i may good bad program past) (ha : Asks allowed ok program)
    (hm : ∀ r, allowed r → ∀ s clock l choice (a : Answer r), answer s clock l r choice = some a →
      ∀ e ∈ a.events, may' e) :
    Safe c i (fun e => may e ∧ may' e) good bad program past := by
  induction program generalizing past with
  | done a => exact h
  | fail e => exact h
  | ask r next ih =>
    intro l hl clock hclock choice a hc answered
    obtain ⟨hmay, hlaw, hs⟩ := h l hl clock hclock choice a hc answered
    have hmay' := hm r ha.1 _ _ _ _ a answered
    exact ⟨fun e he => ⟨hmay e he, hmay' e he⟩, hlaw, ih a.reply hs (ha.2 a.reply)⟩

end QuorumGate
