import QuorumGate.Proofs.Concurrency.Course
import QuorumGate.Proofs.Concurrency.Records

/-!
# A dependable store

Reads are answered from the store, and an update fails with a conflict or not at all; but a conflict
may also be reported of an update that could have been made, or that has been made. A call then
knows the record that it reloads, and each of its updates comes out in one of three ways: it is made
and confirmed, it is not made, or it is made and taken for a conflict.
-/

namespace QuorumGate

/-- Whether a request is carried out as it is meant, and answered as it was carried out. -/
def Choice.isFaithful : Choice → Bool
  | refused _ | lost _ => false
  | _ => true

def Failure.isConflict : Failure → Bool
  | conflict .. => true
  | _ => false

def StoreOp.isRead : StoreOp → Bool
  | getPolicy _ | listPolicies _ | getProposal _ | listProposals _ => true
  | insertPolicy _ | insertProposal _ | updateProposal .. => false

/-- Whether a dependable store may treat a request in a certain way. Inserts are free. -/
def Choice.isDependable : Effect → Choice → Bool
  | .store (.updateProposal ..) _, refused e | .store (.updateProposal ..) _, lost e => e.isConflict
  | .store op _, choice => !op.isRead || choice.isFaithful
  | _, _ => true

theorem Choice.isDependable_of_isFaithful {choice : Choice} (h : choice.isFaithful = true)
    (r : Effect) : choice.isDependable r = true := by
  cases choice with
  | refused e => cases h
  | lost e => cases h
  | _ =>
    cases r with
    | store op correlation => cases op <;> rfl
    | _ => rfl

namespace Conditions

/-- An empty store whose reads never fail, and whose updates fail with conflicts only. -/
structure Dependable (c : Conditions) : Prop where
  founding : c.founding = []
  store : ∀ r choice, c.choice r choice → choice.isDependable r = true

/-- Every request is treated as it is meant. -/
def Faithful (c : Conditions) : Prop := ∀ r choice, c.choice r choice → choice.isFaithful = true

/-- The clock never goes backwards. -/
def Forward (c : Conditions) : Prop :=
  ∀ s t, c.later s t → s.isAware = t.isAware ∧ s.ticks ≤ t.ticks

/-- An empty store whose updates may report conflicts at will, whether they are made or not. -/
def lossy : Conditions where
  founding := []
  choice := fun r choice => choice.isDependable r = true
  later := fun _ _ => True
  later_refl := fun _ => trivial
  later_trans := fun _ _ => trivial

/-- An empty store without faults, and a clock that never goes backwards. -/
def calm : Conditions where
  founding := []
  choice := fun _ choice => choice.isFaithful = true
  later := steady.later
  later_refl := steady.later_refl
  later_trans := steady.later_trans

theorem lossy_dependable : lossy.Dependable := ⟨rfl, fun _ _ h => h⟩

theorem Faithful.dependable {c : Conditions} (h : c.Faithful) (hf : c.founding = []) :
    c.Dependable :=
  ⟨hf, fun r choice hc => Choice.isDependable_of_isFaithful (h r choice hc) r⟩

theorem calm_faithful : calm.Faithful := fun _ _ h => h

theorem calm_dependable : calm.Dependable := calm_faithful.dependable rfl

theorem calm_forward : calm.Forward := fun _ _ h => h

namespace Dependable

variable {c : Conditions} {op : StoreOp} {correlation : Text} {choice : Choice} {e : Failure}

theorem eq_plain (h : c.Dependable) (hop : op.isRead = true)
    (hc : c.choice (.store op correlation) choice) {s : Store} {clock : Instant} {past : Chronicle}
    {a : Answer (.store op correlation)} (ha : answer s clock past _ choice = some a) :
    choice = .plain := by
  have hd := h.store _ _ hc
  cases comesTo ha with
  | performed => rfl
  | refused => cases op <;> simp [Choice.isDependable, Choice.isFaithful, StoreOp.isRead] at hd hop
  | lost => cases op <;> simp [Choice.isDependable, Choice.isFaithful, StoreOp.isRead] at hd hop

end Dependable

end Conditions

namespace Store

variable {s : Store} {p q : Proposal} {expected : Int}

theorem update_made (hq : s.proposal? p.id = some q) (hv : q.version = expected) :
    (s.perform (.updateProposal p expected)).1 = .ok (committed p expected) ∧
      s.changes (.updateProposal p expected) = [.wrote (some q) (committed p expected)] := by
  simp [perform, changes, updateProposal, hq, hv, written]

theorem update_unmade (hq : s.proposal? p.id = some q) (hv : q.version ≠ expected) :
    (s.perform (.updateProposal p expected)).1 =
        .error (.conflict p.id expected (.version q.version)) ∧
      s.changes (.updateProposal p expected) = [] := by
  simp [perform, changes, updateProposal, hq, hv, written]

end Store

/-- The record that a chronicle has left under an id. -/
abbrev Stored (c : Conditions) (past : Chronicle) (id : Text) (p : Proposal) : Prop :=
  (replay c.founding past).proposal? id = some p

variable {c : Conditions} {past l : Chronicle} {i : Nat} {may : Event → Prop} {α : Type}
  {ok : α → Chronicle → Prop} {bad : Failure → Chronicle → Prop}
  {p old new : Proposal} {id correlation : Text}

theorem Lawful.stored (h : Lawful c past) (hp : p ∈ written past) (hid : p.id = id) :
    ∃ q, Stored c past id q ∧ Descends p q := by
  subst hid
  exact h.descends hp

/-- What holds of a stored record goes on to hold of the one that is stored under its id later, if
every change since then keeps it. -/
theorem Lawful.stored_since {motive : Proposal → Prop} {base news : Chronicle}
    (h : Lawful c (news ++ base)) (hp : Stored c base id p) (first : motive p)
    (changed : ∀ recent i old new,
      ⟨i, .wrote (some old) new⟩ :: (recent ++ base) <:+ news ++ base → old.id = id →
        Change c (recent ++ base) i old new → motive old → motive new) :
    ∃ q, Stored c (news ++ base) id q ∧ motive q := by
  induction news with
  | nil => exact ⟨p, hp, first⟩
  | cons e news ih =>
    have older := List.suffix_cons e (news ++ base)
    obtain ⟨q, hq, holds⟩ := ih h.1 fun recent i old new hs =>
      changed recent i old new (hs.trans older)
    obtain ⟨j, e⟩ := e
    rw [List.cons_append] at h ⊢
    cases e with
    | wrote b new =>
      have found := h.proposal?_wrote id
      by_cases hid : new.id = id
      · rw [if_pos hid] at found
        cases b with
        | none =>
          have absent := h.2.1
          rw [hid, hq] at absent
          cases absent
        | some old =>
          obtain ⟨hold, hc⟩ := h.2
          rw [hid, hq] at hold
          cases hold
          exact ⟨new, found, changed news j q new List.suffix_rfl (Store.id_eq_of_proposal? hq) hc
            holds⟩
      · rw [if_neg hid] at found
        exact ⟨q, found.trans hq, holds⟩
    | _ => exact ⟨q, hq, holds⟩

/-- A policy that a committed proposal stands under is there. -/
theorem Lawful.policy_of_written (h : Lawful c past) (hp : p ∈ written past) :
    ∃ P, (replay c.founding past).policy? p.policyId = some P := by
  obtain ⟨P, hP⟩ := h.backed hp
  exact ⟨P, hP.policy_eq⟩

/-- How an update of a copy comes out: it is made and confirmed, or it is not made, or it is made
and taken for a conflict. With a faithful store only a copy that is no longer stored is not
written. -/
inductive Updated (c : Conditions) (past : Chronicle) (old new : Proposal) :
    Except Failure Proposal → List Event → Prop where
  | made (stored : Stored c past old.id old) :
      Updated c past old new (.ok (Store.committed new old.version))
        [.wrote (some old) (Store.committed new old.version)]
  | unmade {record : Text} {expected : Int} {found : Found}
      (gone : c.Faithful → ¬Stored c past old.id old) :
      Updated c past old new (.error (.conflict record expected found))
        [.failed (.updateProposal new old.version) (.conflict record expected found)]
  | lost {record : Text} {expected : Int} {found : Found} (stored : Stored c past old.id old)
      (lossy : ¬c.Faithful) :
      Updated c past old new (.error (.conflict record expected found))
        [.failed (.updateProposal new old.version) (.conflict record expected found),
          .wrote (some old) (Store.committed new old.version)]

theorem Conditions.Dependable.updated (hc : c.Dependable) (hl : Lawful c past)
    (known : old ∈ written past) (hid : new.id = old.id) {clock : Instant} {choice : Choice}
    {a : Answer (.store (.updateProposal new old.version) correlation)}
    (hch : c.choice (.store (.updateProposal new old.version) correlation) choice)
    (ha : answer (replay c.founding past) clock past _ choice = some a) :
    Updated c past old new a.reply a.events := by
  obtain ⟨q, hq, hd⟩ := hl.stored known rfl
  have hq' : (replay c.founding past).proposal? new.id = some q := hid ▸ hq
  have conflict := hc.store _ _ hch
  by_cases hv : q.version = old.version
  · -- The copy is still what is stored, so that the update can be made.
    obtain rfl := hd.eq_of_version hv
    obtain ⟨hr, hch'⟩ := Store.update_made hq' rfl
    cases comesTo ha with
    | performed =>
      simp only [hr, hch']
      exact .made hq
    | @refused _ _ e =>
      cases e with
      | conflict record expected found =>
        exact .unmade fun hf => by cases hf _ _ hch
      | _ => cases conflict
    | @lost _ _ e =>
      cases e with
      | conflict record expected found =>
        simp only [hch']
        exact .lost hq fun hf => by cases hf _ _ hch
      | _ => cases conflict
  · have gone : ¬Stored c past old.id old := by
      intro ho
      rw [Stored, hq] at ho
      cases ho
      exact hv rfl
    obtain ⟨hr, hch'⟩ := Store.update_unmade hq' hv
    cases comesTo ha with
    | performed =>
      simp only [hr, hch']
      exact .unmade fun _ => gone
    | @refused _ _ e =>
      cases e with
      | conflict record expected found => exact .unmade fun _ => gone
      | _ => cases conflict
    | @lost _ _ e =>
      cases e with
      | conflict record expected found =>
        simp only [hch']
        exact .unmade fun _ => gone
      | _ => cases conflict

namespace Safe

theorem get_bind (hc : c.Dependable) {k : Option Proposal → Service α}
    (hk : ∀ l, Later c i past l →
      Safe c i may ok bad (k ((replay c.founding l).proposal? id)) l) :
    Safe c i may ok bad (Service.store (.getProposal id) correlation >>= k) past := by
  intro l hl clock _ choice a hch ha
  obtain rfl := hc.eq_plain rfl hch ha
  cases ha
  exact ⟨by simp [reported, Store.perform, Store.changes], hl.lawful, hk l hl⟩

theorem get_policy_bind (hc : c.Dependable) {k : Option Policy → Service α}
    (hk : ∀ l, Later c i past l →
      Safe c i may ok bad (k ((replay c.founding l).policy? id)) l) :
    Safe c i may ok bad (Service.store (.getPolicy id) correlation >>= k) past := by
  intro l hl clock _ choice a hch ha
  obtain rfl := hc.eq_plain rfl hch ha
  cases ha
  exact ⟨by simp [reported, Store.perform, Store.changes], hl.lawful, hk l hl⟩

/-- A load shows the stored record, if there is one. -/
theorem find_bind (hc : c.Dependable) {k : Proposal → Service α}
    (hk : ∀ l p, Later c i past l → Stored c l id p → Safe c i may ok bad (k p) l)
    (hnone : ∀ l, Later c i past l → (replay c.founding l).proposal? id = none →
      ∀ l', Later c i l l' → bad (.rejected (.noProposal id)) l') :
    Safe c i may ok bad (Ledger.load id correlation >>= k) past := by
  rw [Ledger.load, Program.bind_assoc]
  refine get_bind hc ?_
  intro l hl
  cases hp : (replay c.founding l).proposal? id with
  | some p => exact hk l p hl hp
  | none => exact reject_bind (hnone l hl hp)

/-- What was committed once is found again, as it has become. -/
theorem refind_bind (hc : c.Dependable) {k : Proposal → Service α} (known : p ∈ written past)
    (hid : p.id = id)
    (hk : ∀ l q, Later c i past l → Stored c l id q → Descends p q → Safe c i may ok bad (k q) l) :
    Safe c i may ok bad (Ledger.load id correlation >>= k) past := by
  rw [Ledger.load, Program.bind_assoc]
  refine get_bind hc ?_
  intro l hl
  obtain ⟨q, hq, hd⟩ := hl.lawful.stored (hl.mem_written known) hid
  have found : (replay c.founding l).proposal? id = some q := hq
  rw [found]
  exact hk l q hl hq hd

/-- The policy that a committed proposal stands under is found. -/
theorem its_policy_bind (hc : c.Dependable) {k : Policy → Service α} (known : p ∈ written past)
    (hk : ∀ l P, Later c i past l → (replay c.founding l).policy? p.policyId = some P →
      Safe c i may ok bad (k P) l) :
    Safe c i may ok bad (Policies.get p.policyId correlation >>= k) past := by
  rw [Policies.get, Program.bind_assoc]
  refine get_policy_bind hc ?_
  intro l hl
  obtain ⟨P, hP⟩ := hl.lawful.policy_of_written (hl.mem_written known)
  rw [hP]
  exact hk l P hl hP

/-- To update a copy safely, whichever way it comes out. -/
theorem update_cases (hc : c.Dependable) {k : Option Proposal → Service α}
    (known : old ∈ written past) (hid : new.id = old.id)
    (hchange : ∀ l, Later c i past l → Stored c l old.id old →
      Change c l i old (Store.committed new old.version))
    (hm : may (.wrote (some old) (Store.committed new old.version)))
    (hmf : ∀ e, e.isConflict = true → may (.failed (.updateProposal new old.version) e))
    (made : ∀ l, Later c i past l →
      Lawful c (⟨i, .wrote (some old) (Store.committed new old.version)⟩ :: l) →
      Safe c i may ok bad (k (some (Store.committed new old.version)))
        (⟨i, .wrote (some old) (Store.committed new old.version)⟩ :: l))
    (unmade : ∀ l e, Later c i past l → e.isConflict = true →
      Lawful c (⟨i, .failed (.updateProposal new old.version) e⟩ :: l) →
      (c.Faithful → ¬Stored c l old.id old) →
      Safe c i may ok bad (k none) (⟨i, .failed (.updateProposal new old.version) e⟩ :: l))
    (lost : ∀ l e, Later c i past l → e.isConflict = true →
      Lawful c (⟨i, .failed (.updateProposal new old.version) e⟩ ::
        ⟨i, .wrote (some old) (Store.committed new old.version)⟩ :: l) → ¬c.Faithful →
      Safe c i may ok bad (k none) (⟨i, .failed (.updateProposal new old.version) e⟩ ::
        ⟨i, .wrote (some old) (Store.committed new old.version)⟩ :: l)) :
    Safe c i may ok bad
      (Service.storeUnlessConflict (.updateProposal new old.version) correlation >>= k) past := by
  intro l hl clock _ choice a hch ha
  have updated := hc.updated hl.lawful (hl.mem_written known) hid hch ha
  have hlw : Stored c l old.id old →
      Lawful c (⟨i, .wrote (some old) (Store.committed new old.version)⟩ :: l) := fun stored =>
    ⟨hl.lawful, hid.symm ▸ stored, hchange l hl stored⟩
  obtain ⟨reply, events, store⟩ := a
  cases updated with
  | made stored => exact ⟨by simpa using hm, hlw stored, made l hl (hlw stored)⟩
  | unmade gone =>
    exact ⟨by simpa using hmf _ rfl, ⟨hl.lawful, trivial⟩,
      unmade l _ hl rfl ⟨hl.lawful, trivial⟩ gone⟩
  | lost stored lossy =>
    exact ⟨by simpa using ⟨hmf _ rfl, hm⟩, ⟨hlw stored, trivial⟩,
      lost l _ hl rfl ⟨hlw stored, trivial⟩ lossy⟩

/-- If nothing fails, an update of a copy that stays what is stored is made and confirmed. -/
theorem update_unopposed (hc : c.Dependable) (faithful : c.Faithful) {k : Option Proposal → Service α}
    (known : old ∈ written past) (hid : new.id = old.id)
    (kept : ∀ l, Later c i past l → Stored c l old.id old)
    (hchange : ∀ l, Later c i past l → Change c l i old (Store.committed new old.version))
    (hm : may (.wrote (some old) (Store.committed new old.version)))
    (made : ∀ l, Later c i past l →
      Lawful c (⟨i, .wrote (some old) (Store.committed new old.version)⟩ :: l) →
      Safe c i may ok bad (k (some (Store.committed new old.version)))
        (⟨i, .wrote (some old) (Store.committed new old.version)⟩ :: l)) :
    Safe c i may ok bad
      (Service.storeUnlessConflict (.updateProposal new old.version) correlation >>= k) past := by
  intro l hl clock _ choice a hch ha
  have updated := hc.updated hl.lawful (hl.mem_written known) hid hch ha
  have hlaw : Lawful c (⟨i, .wrote (some old) (Store.committed new old.version)⟩ :: l) :=
    ⟨hl.lawful, hid.symm ▸ kept l hl, hchange l hl⟩
  obtain ⟨reply, events, store⟩ := a
  cases updated with
  | made stored => exact ⟨by simpa using hm, hlaw, made l hl hlaw⟩
  | unmade gone => exact absurd (kept l hl) (gone faithful)
  | lost stored lossy => exact absurd faithful lossy

end Safe

end QuorumGate
