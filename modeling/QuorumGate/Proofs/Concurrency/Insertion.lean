import QuorumGate.Proofs.Concurrency.Quiet

/-!
# Insertions that clash

An insertion may be carried out and reported as a conflict all the same. The call then looks under
the identifier it has drawn. Nobody else has drawn it, so that what lies there is its own record,
however rivals have changed it since; and if nothing lies there, nothing was stored.
-/

namespace QuorumGate

variable {c : Conditions} {past after : Chronicle} {i : Nat} {α : Type} {ok : α → Chronicle → Prop}
  {bad : Failure → Chronicle → Prop} {may : Event → Prop} {P : Policy} {p : Proposal}
  {id correlation : Text}

/-! ## What a call has changed -/

def Event.isChange : Event → Bool
  | filed _ | wrote .. => true
  | _ => false

/-- What a call has changed in the store, newest first. -/
def changesBy (past : Chronicle) (i : Nat) : List Event :=
  past.filterMap fun e => if e.task = i ∧ e.event.isChange = true then some e.event else none

theorem mem_changesBy {e : Event} (he : e.isChange = true) :
    e ∈ changesBy past i ↔ ⟨i, e⟩ ∈ past := by
  simp only [changesBy, List.mem_filterMap]
  constructor
  · rintro ⟨⟨j, f⟩, hf, hif⟩
    split at hif
    case isTrue h =>
      cases hif
      exact h.1 ▸ hf
    case isFalse => cases hif
  · exact fun h => ⟨_, h, if_pos ⟨rfl, he⟩⟩

@[simp] theorem changesBy_change {e : Event} (he : e.isChange = true) :
    changesBy (⟨i, e⟩ :: past) i = e :: changesBy past i := by
  simp [changesBy, he]

@[simp] theorem changesBy_other {e : Event} (he : e.isChange = false) :
    changesBy (⟨i, e⟩ :: past) i = changesBy past i := by
  simp [changesBy, he]

theorem Within.changesBy_eq (h : Within c i may past after) (hm : ∀ e, may e → e.isChange = false) :
    changesBy after i = changesBy past i := by
  obtain ⟨-, news, rfl, hn⟩ := h
  have none_of : ∀ e ∈ news,
      (if e.task = i ∧ e.event.isChange = true then some e.event else none) = none := by
    rintro ⟨j, e⟩ he
    refine if_neg ?_
    rintro ⟨rfl, change⟩
    exact absurd change (by simp [hm e (hn e he)])
  rw [changesBy, List.filterMap_append, List.filterMap_eq_nil_iff.2 none_of, List.nil_append,
    changesBy]

theorem Later.changesBy_eq (h : Later c i past after) : changesBy after i = changesBy past i :=
  Within.changesBy_eq h fun _ => False.elim

/-- A call that has only begun has changed nothing. -/
theorem changesBy_eq_nil {call : Call} (unused : ∀ e, ⟨i, e⟩ ∈ past → e = .began call) :
    changesBy past i = [] := by
  refine List.eq_nil_iff_forall_not_mem.2 fun e he => ?_
  obtain ⟨⟨j, f⟩, hf, hif⟩ := List.mem_filterMap.1 he
  split at hif
  case isTrue h =>
    obtain ⟨rfl, change⟩ := h
    obtain rfl : f = .began call := unused f hf
    cases change
  case isFalse => cases hif

/-! ## Insertions that clash -/

/-- Whether a failure, if it is one, is a conflict. -/
def Choice.isClash : Choice → Bool
  | refused e | lost e => e.isConflict
  | _ => true

namespace Conditions

/-- A dependable store whose insertions fail with conflicts only as well, whether they are made or
not. -/
structure Clashing (c : Conditions) : Prop extends Dependable c where
  clash : ∀ op correlation choice, c.choice (.store op correlation) choice → choice.isClash = true

/-- An empty store in which every write may report a conflict. -/
def clashing : Conditions where
  founding := []
  choice := fun r choice => choice.isDependable r = true ∧ choice.isClash = true
  later := fun _ _ => True
  later_refl := fun _ => trivial
  later_trans := fun _ _ => trivial

theorem clashing_clashing : clashing.Clashing := ⟨⟨rfl, fun _ _ h => h.1⟩, fun _ _ _ h => h.2⟩

end Conditions

namespace Safe

/-- To insert a record that can be inserted. What follows a conflict looks for the record: it finds
the record if that was stored, as it has become, and else it refuses. -/
theorem insert_once (hc : c.Clashing) {op : StoreOp} {r : op.Result} {e : Event} {taken : Rejection}
    {recover : Service op.Result} (found : op.Result → Chronicle → Prop)
    {k : op.Result → Service α} {k' : Option op.Result → Service α}
    (some_eq : ∀ a, k' (some a) = k a) (none_eq : k' none = recover >>= k)
    (change : e.isChange = true) (clean : changesBy past i = [])
    (stores : ∀ l, Later c i past l → ((replay c.founding l).perform op).1 = .ok r ∧
      (replay c.founding l).changes op = [e] ∧ Allowed c l i e)
    (made : ∀ l, Later c i past l → Lawful c (⟨i, e⟩ :: l) → found r (⟨i, e⟩ :: l))
    (recovered : ∀ l l', Later c i past l → Lawful c l' → ⟨i, e⟩ :: l <:+ l' →
      Safe c i (fun _ => False) found (fun _ _ => False) recover l')
    (refused : ∀ l, past <:+ l → Lawful c l → changesBy l i = [] →
      Safe c i (fun _ => False) (fun _ _ => False) (fun f _ => f = .rejected taken) recover l)
    (hk : ∀ a l, past <:+ l → Lawful c l → changesBy l i = [e] → found a l →
      Safe c i (fun _ => True) ok bad (k a) l)
    (hbad : ∀ l, changesBy l i = [] → bad (.rejected taken) l) :
    Safe c i (fun _ => True) ok bad (Service.storeUnlessConflict op correlation >>= k') past := by
  intro l hl clock _ choice a hch ha
  obtain ⟨performed, changes, allowed⟩ := stores l hl
  have clash := hc.clash _ _ _ hch
  have law : Lawful c (⟨i, e⟩ :: l) := ⟨hl.lawful, allowed⟩
  have clean_l : changesBy l i = [] := (Later.changesBy_eq hl).trans clean
  cases comesTo ha with
  | performed =>
    simp only [performed, changes]
    refine ⟨fun _ _ => trivial, law, ?_⟩
    show Safe c i _ ok bad (k' (some r)) (⟨i, e⟩ :: l)
    rw [some_eq]
    exact hk r _ (hl.suffix.trans (List.suffix_cons _ _)) law
      (by rw [changesBy_change change, clean_l]) (made l hl law)
  | @refused _ _ f =>
    cases f with
    | conflict record expected version =>
      have law' : Lawful c (⟨i, .failed op (.conflict record expected version)⟩ :: l) :=
        ⟨hl.lawful, trivial⟩
      refine ⟨fun _ _ => trivial, law', ?_⟩
      show Safe c i _ ok bad (k' none) _
      rw [none_eq]
      have clean' : changesBy (⟨i, .failed op (.conflict record expected version)⟩ :: l) i =
          [] := by
        rw [changesBy_other rfl, clean_l]
      refine Safe.bind (refused _ (hl.suffix.trans (List.suffix_cons _ _)) law' clean')
        (fun _ _ => trivial) (fun _ _ _ => False.elim) ?_
      rintro _ l' hl' rfl
      exact hbad l' ((Later.changesBy_eq hl').trans clean')
    | _ => cases clash
  | @lost _ _ f =>
    cases f with
    | conflict record expected version =>
      simp only [changes]
      have law' : Lawful c (⟨i, .failed op (.conflict record expected version)⟩ :: ⟨i, e⟩ :: l) :=
        ⟨law, trivial⟩
      refine ⟨fun _ _ => trivial, law', ?_⟩
      show Safe c i _ ok bad (k' none) _
      rw [none_eq]
      refine Safe.bind (recovered l _ hl law' (List.suffix_cons _ _)) (fun _ _ => trivial) ?_
        fun _ _ _ => False.elim
      have own : changesBy (⟨i, .failed op (.conflict record expected version)⟩ :: ⟨i, e⟩ :: l) i =
          [e] := by
        rw [changesBy_other rfl, changesBy_change change, clean_l]
      have grown : past <:+ ⟨i, .failed op (.conflict record expected version)⟩ :: ⟨i, e⟩ :: l :=
        hl.suffix.trans ((List.suffix_cons _ _).trans (List.suffix_cons _ _))
      exact fun a l' hl' => hk a l' (grown.trans hl'.suffix) hl'.lawful
        ((Later.changesBy_eq hl').trans own)
    | _ => cases clash

end Safe

/-! ## Fresh identifiers -/

theorem mem_filed (h : P ∈ (replay [] past).policies) : ∃ j, ⟨j, .filed P⟩ ∈ past := by
  induction past with
  | nil => cases h
  | cons e past ih =>
    obtain ⟨j, e⟩ := e
    have older : P ∈ (replay [] past).policies → ∃ j', ⟨j', .filed P⟩ ∈ ⟨j, e⟩ :: past := fun hP =>
      (ih hP).imp fun _ => List.mem_cons_of_mem _
    rw [replay_cons] at h
    cases e with
    | filed Q =>
      rcases List.mem_append.1 h with h | h
      · exact older h
      · exact ⟨j, by simp [List.mem_singleton.1 h]⟩
    | wrote b q => cases b <;> exact older h
    | _ => exact older h

/-- Nothing lies under an identifier that a call has drawn, until the call puts it there. -/
theorem Lawful.policy?_drawn (h : Lawful c past) (founding : c.founding = [])
    (drawn : ⟨i, .drew .policy id⟩ ∈ past) (clean : changesBy past i = []) :
    (replay c.founding past).policy? id = none := by
  refine Option.eq_none_iff_forall_ne_some.2 fun P hP => ?_
  have hid : P.id = id := Store.id_eq_of_policy? hP
  rw [founding] at hP
  obtain ⟨j, filed⟩ := mem_filed (List.mem_of_find?_eq_some hP)
  obtain ⟨older, hs, -, allowed⟩ := h.allowed filed
  have own : ⟨j, .drew .policy P.id⟩ ∈ past := by
    obtain ⟨call, sound, drawn', seen⟩ : Filing older j P := allowed
    exact hs.subset (List.mem_cons_of_mem _ drawn')
  obtain rfl := h.drew_unique (hid ▸ own) drawn
  exact List.not_mem_nil (clean ▸ (mem_changesBy rfl).2 filed)

theorem Lawful.proposal?_drawn (h : Lawful c past) (drawn : ⟨i, .drew .proposal id⟩ ∈ past)
    (clean : changesBy past i = []) : (replay c.founding past).proposal? id = none := by
  refine Option.eq_none_iff_forall_ne_some.2 fun p hp => ?_
  have hid : p.id = id := Store.id_eq_of_proposal? hp
  obtain ⟨j, draft, correlation, first, -, wrote, same, -⟩ :=
    h.createdBy (mem_written_of_proposal? hp)
  obtain ⟨older, hs, -, -, creation⟩ := h.allowed wrote
  have own : ⟨j, .drew .proposal first.id⟩ ∈ past := by
    obtain ⟨call, policy_eq, sound, seen, window, drawn'⟩ := creation
    exact hs.subset (List.mem_cons_of_mem _ drawn')
  obtain rfl := h.drew_unique (same.trans hid ▸ own) drawn
  exact List.not_mem_nil (clean ▸ (mem_changesBy rfl).2 wrote)

namespace Store

variable {s : Store}

theorem policy?_filed (absent : s.policy? P.id = none) :
    (s.after (.filed P)).policy? P.id = some P := by
  have none_before : s.policies.find? (·.id == P.id) = none := absent
  simp [after, policy?, List.find?_append, none_before]

theorem insertPolicy_made (absent : s.policy? P.id = none) :
    (s.perform (.insertPolicy P)).1 = .ok P ∧ s.changes (.insertPolicy P) = [.filed P] := by
  simp [perform, changes, insertPolicy, absent, written]

theorem insertProposal_made (absent : s.proposal? p.id = none) :
    (s.perform (.insertProposal p)).1 = .ok p ∧
      s.changes (.insertProposal p) = [.wrote none p] := by
  simp [perform, changes, insertProposal, absent, written]

end Store

end QuorumGate
