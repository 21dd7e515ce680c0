import QuorumGate.Proofs.Concurrency.Expiry

/-!
# Whose signatures a record bears

Each attempt to sign draws an id of its own, and so every stored signature is known to be of one
call. What others write neither adds to the signatures of a call nor takes any away; nor does what
the call itself does by the way.
-/

namespace QuorumGate

variable {c : Conditions} {past l : Chronicle} {i j : Nat} {p q old new : Proposal}
  {id x : Text} {s : Signature} {e : Event}

/-- The id that is drawn for a signature. -/
def Event.signatureId? : Event → Option Text
  | drew .signature id => some id
  | _ => none

/-- The ids of the signatures that a call has attempted, newest first. -/
def attempted (past : Chronicle) (i : Nat) : List Text :=
  past.filterMap fun e => if e.task = i then e.event.signatureId? else none

/-- The signatures of a record that a call has attempted. -/
def ownSignatures (past : Chronicle) (i : Nat) (p : Proposal) : List Signature :=
  p.signatures.filter fun s => (attempted past i).contains s.id

theorem mem_attempted : x ∈ attempted past i ↔ ⟨i, .drew .signature x⟩ ∈ past := by
  simp only [attempted, List.mem_filterMap]
  constructor
  · rintro ⟨⟨j, e⟩, he, hx⟩
    split at hx
    · rename_i hj
      obtain rfl : j = i := hj
      cases e with
      | drew kind y => cases kind <;> simp_all [Event.signatureId?]
      | _ => cases hx
    · cases hx
  · exact fun h => ⟨_, h, by simp [Event.signatureId?]⟩

@[simp] theorem attempted_drew : attempted (⟨i, .drew .signature x⟩ :: past) i =
    x :: attempted past i := by
  simp [attempted, Event.signatureId?]

theorem attempted_cons (h : j = i → e.signatureId? = none) :
    attempted (⟨j, e⟩ :: past) i = attempted past i := by
  by_cases hj : j = i
  · simp [attempted, h hj]
  · simp [attempted, hj]

theorem mem_ownSignatures :
    s ∈ ownSignatures past i p ↔ s ∈ p.signatures ∧ ⟨i, .drew .signature s.id⟩ ∈ past := by
  simp [ownSignatures, mem_attempted]

theorem Event.Incidental.signatureId? (h : e.Incidental) : e.signatureId? = none := by
  cases e with
  | drew => cases h
  | _ => rfl

/-- Where a stored signature comes from: the call that drew its id put it there for its signer. -/
structure SignatureOf (past : Chronicle) (id : Text) (i : Nat) (s : Signature) : Prop where
  drawn : ⟨i, .drew .signature s.id⟩ ∈ past
  call : ∃ request correlation, ⟨i, .began (.sign id request correlation)⟩ ∈ past ∧
    s.signer = request.signer.strip
  put : ∃ old new, ⟨i, .wrote (some old) new⟩ ∈ past ∧ new.id = id ∧
    new.signatures = old.signatures ++ [s]

theorem SignatureOf.later (h : SignatureOf past id i s) (e : Entry) :
    SignatureOf (e :: past) id i s := by
  obtain ⟨drawn, ⟨request, correlation, began, signer⟩, old, new, put, hid, hs⟩ := h
  exact ⟨List.mem_cons_of_mem e drawn,
    ⟨request, correlation, List.mem_cons_of_mem e began, signer⟩,
    old, new, List.mem_cons_of_mem e put, hid, hs⟩

theorem Lawful.signatureOf (h : Lawful c past) (hp : p ∈ written past) :
    ∀ s ∈ p.signatures, ∃ i, SignatureOf past p.id i s := by
  refine h.version_induction
    (motive := fun past p => ∀ s ∈ p.signatures, ∃ i, SignatureOf past p.id i s) ?_ ?_ ?_ hp
  · intro past i p _ hc
    cases hc
    simp [ProposalDraft.toProposal]
  · intro past i old new _ _ hc ih t ht
    cases hc with
    | @signed policy request correlation s call policy_eq still_open member unsigned signer_eq
        data_eq verified drawn =>
      rcases List.mem_append.1 ht with ht | ht
      · obtain ⟨j, hj⟩ := ih t ht
        exact ⟨j, hj.later _⟩
      · obtain rfl := List.mem_singleton.1 ht
        exact ⟨i, List.mem_cons_of_mem _ drawn,
          ⟨request, correlation, List.mem_cons_of_mem _ call, signer_eq⟩,
          old, _, List.mem_cons_self, rfl, rfl⟩
    | _ =>
      obtain ⟨j, hj⟩ := ih t ht
      exact ⟨j, hj.later _⟩
  · intro e past p ih s hs
    obtain ⟨i, hi⟩ := ih s hs
    exact ⟨i, hi.later e⟩

/-- A newly drawn id is not that of a stored signature. -/
theorem ownSignatures_drew (h : Lawful c (⟨i, .drew .signature x⟩ :: past))
    (hp : p ∈ written past) :
    ownSignatures (⟨i, .drew .signature x⟩ :: past) i p = ownSignatures past i p := by
  refine List.filter_congr fun s hs => ?_
  obtain ⟨j, hj⟩ := h.1.signatureOf hp s hs
  have hne : s.id ≠ x := by
    rintro rfl
    exact h.2 j hj.drawn
  simp [hne]

theorem ownSignatures_cons (h : j = i → e.signatureId? = none) (p : Proposal) :
    ownSignatures (⟨j, e⟩ :: past) i p = ownSignatures past i p := by
  rw [ownSignatures, attempted_cons h, ownSignatures]

/-- One more signature, by the call that drew its id. -/
theorem ownSignatures_sign (hs : ⟨i, .drew .signature s.id⟩ ∈ past) {status : Status} {v : Int} :
    ownSignatures past i (Store.committed ((p.sign s).withStatus status) v) =
      ownSignatures past i p ++ [s] := by
  have own : s.id ∈ attempted past i := mem_attempted.2 hs
  show (p.signatures ++ [s]).filter _ = _
  rw [List.filter_append, List.filter_cons_of_pos (by simpa using own), List.filter_nil]
  rfl

/-- A change that is made by another call, or by the way, leaves the signatures of a call alone. -/
theorem Change.ownSignatures_eq (h : Lawful c past) (hc : Change c past j old new)
    (hm : j = i → new.status = .expired) : ownSignatures past i new = ownSignatures past i old := by
  cases hc with
  | @signed P request correlation s call policy_eq still_open member unsigned signer_eq data_eq
      verified drawn =>
    have hne : j ≠ i := fun hj =>
      Status.ne_of_isTerminal (Proposal.isTerminal_quorumStatus P _) rfl (hm hj)
    have other : s.id ∉ attempted past i :=
      fun hs => hne (h.drew_unique drawn (mem_attempted.1 hs))
    show (old.signatures ++ [s]).filter _ = _
    rw [List.filter_append, List.filter_cons_of_neg (by simpa using other), List.filter_nil]
    exact List.append_nil _
  | _ => rfl

/-- What a call finds of its own in the stored record changes only by what it writes itself. -/
theorem Within.ownSignatures_eq (h : Within c i Event.Incidental past l)
    (hp : Stored c past id p) (hq : Stored c l id q) :
    ownSignatures l i q = ownSignatures past i p := by
  obtain ⟨hl, news, rfl, hn⟩ := h
  induction news generalizing q with
  | nil =>
    rw [List.nil_append, Stored, hp] at hq
    cases hq
    rfl
  | cons e news ih =>
    obtain ⟨j, e⟩ := e
    have hm : j = i → e.Incidental := fun hj => hn e (hj ▸ List.mem_cons_self)
    have older : ∀ q, Stored c (news ++ past) id q →
        ownSignatures (news ++ past) i q = ownSignatures past i p :=
      fun q hq => ih (fun x hx => hn x (List.mem_cons_of_mem _ hx)) hq hl.1
    rw [List.cons_append, ownSignatures_cons fun hj => (hm hj).signatureId?]
    rw [List.cons_append] at hq hl
    cases e with
    | wrote b new =>
      rw [Stored, hl.proposal?_wrote] at hq
      by_cases hid : new.id = id
      · rw [if_pos hid] at hq
        cases hq
        have known := mem_written_of_proposal? hp
        obtain ⟨r, hr, -⟩ := hl.1.stored
          (by rw [written_append]; exact List.mem_append_right _ known)
          (Store.id_eq_of_proposal? hp)
        cases b with
        | none =>
          have absent := hl.2.1
          rw [hid, hr] at absent
          cases absent
        | some old =>
          obtain ⟨hold, hc⟩ := hl.2
          rw [hc.ownSignatures_eq hl.1 fun hj => (hm hj).1]
          exact older old (by rw [← hid]; exact hold)
      · rw [if_neg hid] at hq
        exact older q hq
    | _ => exact older q hq

end QuorumGate
