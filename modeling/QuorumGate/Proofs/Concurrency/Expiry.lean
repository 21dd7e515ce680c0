import QuorumGate.Proofs.Concurrency.Dependable

/-!
# Closing an overdue proposal

A call that has seen the window of a proposal closed writes the expired stage before it says so. If
the clock does not go backwards, the record is terminal by then: either this call or a rival has
written it down as expired, or a rival's claim was committed first.
-/

namespace QuorumGate

variable {c : Conditions} {past : Chronicle} {i j n : Nat} {may : Event → Prop} {α β : Type}
  {ok : α → Chronicle → Prop} {bad : Failure → Chronicle → Prop}
  {p q : Proposal} {id correlation : Text} {s t : Instant} {r : Rejection}

/-- What a call does by the way: it looks at the clock, has artifacts verified, is refused, and
leaves records expired. -/
def Event.Incidental : Event → Prop
  | .saw _ | .failed .. | .verified .. => True
  | .wrote _ p => p.status = .expired ∧ p.execution = none
  | _ => False

theorem Event.Incidental.claims {e : Event} (h : e.Incidental) : e.Claims [] := by
  cases e with
  | wrote b p =>
    intro x hx
    rw [h.2] at hx
    cases hx
  | saw | failed | verified => trivial
  | _ => cases h

/-- A call has seen the window of a proposal closed. -/
def SeenLate (past : Chronicle) (i : Nat) (p : Proposal) : Prop :=
  ∃ t, ⟨i, .saw t⟩ ∈ past ∧ p.isExpired t = .ok true

theorem SeenLate.within {after : Chronicle} (h : SeenLate past j p)
    (hl : Within c i may past after) : SeenLate after j p := by
  obtain ⟨t, seen, late⟩ := h
  exact ⟨t, hl.mem seen, late⟩

namespace Proposal

/-- All versions of a proposal have one window. -/
theorem isExpired_of_origin (h : q.origin = p.origin) (t : Instant) :
    q.isExpired t = p.isExpired t := by
  have own : ∀ x : Proposal, x.isExpired t = x.origin.isExpired t := fun _ => rfl
  rw [own q, own p, h]

theorem isExpired_forward (h : p.isExpired s = .ok true) (aware : s.isAware = t.isAware)
    (later : s.ticks ≤ t.ticks) : p.isExpired t = .ok true := by
  unfold isExpired at h ⊢
  cases he : p.expiresAt with
  | none => simp [he] at h
  | some u =>
    simp only [he, Instant.isAfter] at h ⊢
    split at h
    · rename_i hu
      have hlt : u.ticks < s.ticks := by simpa using h
      rw [if_pos (aware ▸ hu)]
      exact congrArg Except.ok (decide_eq_true (by omega))
    · cases h

end Proposal

theorem SeenLate.of_origin (h : SeenLate past i p) (ho : q.origin = p.origin) :
    SeenLate past i q := by
  obtain ⟨t, seen, late⟩ := h
  exact ⟨t, seen, (Proposal.isExpired_of_origin ho t).trans late⟩

/-- A record as an expiry leaves or finds it. -/
structure Closed (c : Conditions) (id : Text) (p : Proposal) (past : Chronicle) : Prop where
  known : p ∈ written past
  id_eq : p.id = id
  terminal : c.Forward → p.status.isTerminal = true

theorem Closed.within {after : Chronicle} (h : Closed c id p past)
    (hl : Within c i may past after) : Closed c id p after :=
  ⟨hl.mem_written h.known, h.id_eq, h.terminal⟩

/-- How an expiry fails. -/
def Unclosed (id : Text) (e : Failure) : Prop :=
  e = .rejected (.busy id .expiry) ∨ ∃ f, e = .time f

/-- How a call fails that has found a proposal overdue: it is told so once the record is closed. -/
def TurnedAway (c : Conditions) (id : Text) (r : Rejection) (e : Failure) (past : Chronicle) :
    Prop :=
  (e = .rejected r ∧ ∃ p, Closed c id p past) ∨ Unclosed id e

namespace Ledger

theorem expireWithin_closes (hc : c.Dependable) (known : p ∈ written past) (hid : p.id = id)
    (late : SeenLate past j p) :
    Safe c i Event.Incidental (Closed c id) (fun e _ => Unclosed id e)
      (expireWithin id correlation n p) past := by
  induction n generalizing p past with
  | zero => exact Safe.reject fun _ _ => .inl rfl
  | succ n ih =>
    rw [expireWithin]
    cases hopen : p.status.isTerminal with
    | true => exact Safe.done fun l hl => ⟨hl.mem_written known, hid, fun _ => hopen⟩
    | false =>
      refine Safe.saw_bind (fun _ => trivial) ?_
      intro t l hl hlaw
      have hw : Within c i Event.Incidental past (⟨i, .saw t⟩ :: l) :=
        (Within.of_later hl).cons hlaw trivial
      refine Safe.ofExcept_bind ?_ fun f _ _ _ => .inr ⟨f, rfl⟩
      intro expired hexpired
      cases expired with
      | false =>
        refine Safe.done fun l' hl' => ⟨(hw.trans (.of_later hl')).mem_written known, hid, ?_⟩
        intro forward
        obtain ⟨s, seen, overdue⟩ := late
        obtain ⟨aware, later⟩ := forward _ _ (hlaw.2 j s (hl.mem seen))
        rw [Proposal.isExpired_forward overdue aware later] at hexpired
        cases hexpired
      | true =>
        have known' := hw.mem_written known
        have unheld : p.execution = none := hlaw.execution_eq_none known' hopen
        -- What is stored after a conflict is a later version, with the same window.
        have again : ∀ m, Within c i Event.Incidental past m →
            Safe c i Event.Incidental (Closed c id) (fun e _ => Unclosed id e)
              (do
                let q ← load id correlation
                expireWithin id correlation n q) m := by
          intro m hm
          refine Safe.refind_bind hc (hm.mem_written known) hid ?_
          intro m' q hm' hq hd
          exact ih (mem_written_of_proposal? hq) (Store.id_eq_of_proposal? hq)
            (((late.within hm).within hm').of_origin hd.origin)
        refine Safe.update_cases hc known' rfl ?_ ?_ (fun _ _ => trivial) ?_ ?_ ?_
        · intro m hm _
          exact .expired hopen (hm.mem List.mem_cons_self) hexpired
        · exact ⟨rfl, unheld⟩
        · intro m hm hlaw'
          refine Safe.note_bind fun m' hm' => Safe.done fun m'' hm'' => ⟨?_, hid, fun _ => rfl⟩
          exact mem_written.2 ⟨i, _, hm''.mem (hm'.mem List.mem_cons_self)⟩
        · intro m e hm _ hlaw' _
          exact again _ ((hw.trans (.of_later hm)).cons hlaw' trivial)
        · intro m e hm _ hlaw' _
          refine again _ (Within.cons ?_ hlaw' trivial)
          exact (hw.trans (.of_later hm)).cons hlaw'.1
            ⟨rfl, unheld⟩

/-- A call that has found a proposal overdue closes it, and is turned away. -/
theorem expire_turns_away {k : β → Service α} (hc : c.Dependable) (known : p ∈ written past)
    (late : SeenLate past j p) (hm : ∀ e, e.Incidental → may e)
    (hbad : ∀ e l, Within c i Event.Incidental past l → TurnedAway c p.id r e l → bad e l) :
    Safe c i may ok bad
      (do
        let _ ← expire n p correlation
        let x ← (Service.reject r : Service β)
        k x) past := by
  refine Safe.bind (expireWithin_closes hc known rfl late) hm ?_ ?_
  · intro q l hl closed
    refine Safe.reject_bind fun l' hl' => hbad _ l' (hl.trans (.of_later hl')) ?_
    exact .inl ⟨rfl, q, closed.within hl'⟩
  · exact fun e l hl he => hbad e l hl (.inr he)

end Ledger

end QuorumGate
