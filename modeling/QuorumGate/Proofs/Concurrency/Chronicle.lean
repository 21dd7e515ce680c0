import QuorumGate.Proofs.Concurrency.World

/-!
# Chronicles and stores

The store of a world is a function of its chronicle: it is what the recorded writes, replayed in
order, leave of the policies that were there before. What a request does to the store is therefore
said by the events that it writes down.
-/

namespace QuorumGate

variable {founding : List Policy} {past news : Chronicle} {i j : Nat}

/-- The store after one event. -/
def Store.after (s : Store) : Event → Store
  | .filed p => { s with policies := s.policies ++ [p] }
  | .wrote none p => { s with proposals := s.proposals ++ [p] }
  | .wrote (some _) p => { s with proposals := replace p s.proposals }
  | _ => s

/-- The store that a chronicle has left. -/
def replay (founding : List Policy) : Chronicle → Store
  | [] => ⟨founding, []⟩
  | e :: past => (replay founding past).after e.event

@[simp] theorem replay_nil : replay founding [] = ⟨founding, []⟩ := rfl
@[simp] theorem replay_cons (e : Entry) :
    replay founding (e :: past) = (replay founding past).after e.event := rfl

namespace Store

variable {s t : Store} {p q : Proposal} {id : Text}

/-- A record is found by its key, if no other one has it. -/
theorem find?_of_mem {α κ : Type} [BEq κ] [LawfulBEq κ] {key : α → κ} {a : α} {xs : List α}
    (distinct : (xs.map key).Nodup) (ha : a ∈ xs) : xs.find? (key · == key a) = some a := by
  induction xs with
  | nil => cases ha
  | cons first rest ih =>
    rw [List.map_cons, List.nodup_cons] at distinct
    rw [List.find?_cons]
    rcases List.mem_cons.1 ha with rfl | later
    · simp
    · have ne : key first ≠ key a := by
        intro same
        exact distinct.1 (same ▸ List.mem_map_of_mem later)
      rw [beq_false_of_ne ne]
      exact ih distinct.2 later

theorem id_eq_of_proposal? (h : s.proposal? id = some p) : p.id = id := by
  simpa using List.find?_some h

theorem mem_of_proposal? (h : s.proposal? id = some p) : p ∈ s.proposals :=
  List.mem_of_find?_eq_some h

theorem id_eq_of_policy? {P : Policy} (h : s.policy? id = some P) : P.id = id := by
  simpa using List.find?_some h

theorem proposal?_insert (p : Proposal) (hp : s.proposal? p.id = none) (id : Text) :
    (s.after (.wrote none p)).proposal? id = if p.id = id then some p else s.proposal? id := by
  simp only [after, proposal?, List.find?_append, List.find?_cons, List.find?_nil]
  by_cases h : p.id = id
  · subst h
    have hn : s.proposals.find? (·.id == p.id) = none := hp
    simp [hn]
  · have hb : (p.id == id) = false := by simpa using h
    simp [h, hb]

theorem proposal?_replace (p : Proposal) (hp : s.proposal? p.id = some q) (id : Text) :
    (s.after (.wrote (some q) p)).proposal? id = if p.id = id then some p else s.proposal? id := by
  have hid : ∀ r : Proposal, ((if r.id == p.id then p else r).id == id) = (r.id == id) := by
    intro r
    by_cases hr : r.id = p.id <;> simp [hr]
  simp only [after, proposal?, replace, List.find?_map, Function.comp_def, hid]
  by_cases h : p.id = id
  · subst h
    have hq : s.proposals.find? (·.id == p.id) = some q := hp
    simp [hq, id_eq_of_proposal? hp]
  · cases hr : s.proposals.find? (·.id == id) with
    | none => simp [h]
    | some r =>
      have hri : r.id = id := by simpa using List.find?_some hr
      have hne : r.id ≠ p.id := by rw [hri]; exact fun he => h he.symm
      simp [h, hne]

/-- Policies are found where they were found before. -/
theorem policy?_after {P : Policy} (e : Event) (h : s.policy? id = some P) :
    (s.after e).policy? id = some P := by
  cases e with
  | filed Q =>
    have hP : s.policies.find? (·.id == id) = some P := h
    simp [after, policy?, List.find?_append, hP]
  | wrote b p => cases b <;> exact h
  | _ => exact h

theorem mem_of_listProposals {statuses : Option (List Status)} {ps : List Proposal}
    (h : s.listProposals statuses = .ok ps) (hp : p ∈ ps) : p ∈ s.proposals := by
  simp only [listProposals, Instant.newestFirst] at h
  split at h
  · have hps := Except.ok.inj h
    rw [← hps, List.mem_mergeSort] at hp
    exact (List.mem_filter.1 hp).1
  · cases h

/-- The changes of a request are what it does to the store. -/
theorem perform_eq_changes (s : Store) (op : StoreOp) :
    (s.perform op).2 = (s.changes op).foldr (fun e t => t.after e) s := by
  cases op with
  | insertPolicy p =>
    cases hq : s.policy? p.id <;> simp [perform, changes, written, insertPolicy, hq, after]
  | insertProposal p =>
    cases hq : s.proposal? p.id <;> simp [perform, changes, written, insertProposal, hq, after]
  | updateProposal p expected =>
    simp only [perform, changes, updateProposal]
    cases hq : s.proposal? p.id with
    | none => rfl
    | some q =>
      by_cases hv : q.version = expected
      · simp [hv, written, after]
      · simp [hv, written]
  | _ => rfl

theorem changes_updateProposal (p : Proposal) (expected : Int) {e : Event}
    (h : e ∈ s.changes (.updateProposal p expected)) :
    ∃ q, s.proposal? p.id = some q ∧ q.version = expected ∧
      e = .wrote (some q) (committed p expected) := by
  simp only [changes, updateProposal] at h
  cases hq : s.proposal? p.id with
  | none => simp [hq] at h
  | some q =>
    by_cases hv : q.version = expected
    · exact ⟨q, rfl, hv, by simpa [hq, hv] using h⟩
    · simp [hq, hv] at h

theorem changes_insertProposal (p : Proposal) {e : Event}
    (h : e ∈ s.changes (.insertProposal p)) : s.proposal? p.id = none ∧ e = .wrote none p := by
  simp only [changes, insertProposal] at h
  cases hq : s.proposal? p.id with
  | none => exact ⟨rfl, by simpa [hq] using h⟩
  | some q => simp [hq] at h

theorem changes_insertPolicy (p : Policy) {e : Event} (h : e ∈ s.changes (.insertPolicy p)) :
    e = .filed p := by
  simp only [changes, insertPolicy] at h
  cases hq : s.policy? p.id with
  | none => simpa [hq] using h
  | some q => simp [hq] at h

/-- What a request changes is a record. -/
theorem mem_changes {op : StoreOp} {e : Event} (h : e ∈ s.changes op) :
    (∃ P, e = .filed P) ∨ ∃ b p, e = .wrote b p := by
  cases op with
  | insertPolicy P => exact .inl ⟨P, changes_insertPolicy P h⟩
  | insertProposal p => exact .inr ⟨none, p, (changes_insertProposal p h).2⟩
  | updateProposal p expected =>
    obtain ⟨q, -, -, he⟩ := changes_updateProposal p expected h
    exact .inr ⟨some q, _, he⟩
  | _ => cases h

/-- A request changes one record at most. -/
theorem changes_cases (s : Store) (op : StoreOp) :
    s.changes op = [] ∨ ∃ e, s.changes op = [e] := by
  cases op with
  | insertPolicy p => cases hq : s.policy? p.id <;> simp [changes, insertPolicy, hq]
  | insertProposal p => cases hq : s.proposal? p.id <;> simp [changes, insertProposal, hq]
  | updateProposal p expected =>
    cases hq : s.proposal? p.id with
    | none => simp [changes, updateProposal, hq]
    | some q => by_cases hv : q.version = expected <;> simp [changes, updateProposal, hq, hv]
  | _ => exact .inl rfl

theorem perform_updateProposal {expected : Int} {r : Proposal}
    (h : (s.perform (.updateProposal p expected)).1 = .ok r) :
    ∃ q, s.proposal? p.id = some q ∧ q.version = expected ∧ r = committed p expected ∧
      s.changes (.updateProposal p expected) = [.wrote (some q) (committed p expected)] := by
  simp only [perform, updateProposal] at h
  cases hq : s.proposal? p.id with
  | none => simp [hq, written] at h
  | some q =>
    by_cases hv : q.version = expected
    · simp only [hq, hv, ↓reduceIte, written, Except.ok.injEq] at h
      exact ⟨q, rfl, hv, h.symm, by simp [changes, updateProposal, hq, hv]⟩
    · simp [hq, hv, written] at h

theorem perform_insertProposal {r : Proposal}
    (h : (s.perform (.insertProposal p)).1 = .ok r) :
    r = p ∧ s.changes (.insertProposal p) = [.wrote none p] := by
  simp only [perform, insertProposal] at h
  cases hq : s.proposal? p.id with
  | none =>
    simp only [hq, Option.isSome_none, Bool.false_eq_true, ↓reduceIte, written,
      Except.ok.injEq] at h
    exact ⟨h.symm, by simp [changes, insertProposal, hq]⟩
  | some q => simp [hq, written] at h

end Store

@[simp] theorem entries_nil : entries i [] = [] := rfl
@[simp] theorem entries_cons (e : Event) (es : List Event) :
    entries i (e :: es) = ⟨i, e⟩ :: entries i es := rfl
@[simp] theorem mem_entries {e : Event} {es : List Event} :
    ⟨j, e⟩ ∈ entries i es ↔ j = i ∧ e ∈ es := by
  simp only [entries, List.mem_map, Entry.mk.injEq]
  constructor
  · rintro ⟨a, ha, rfl, rfl⟩
    exact ⟨rfl, ha⟩
  · rintro ⟨rfl, ha⟩
    exact ⟨e, ha, rfl, rfl⟩

theorem replay_entries (es : List Event) :
    replay founding (entries i es ++ past) =
      es.foldr (fun e t => t.after e) (replay founding past) := by
  induction es with
  | nil => rfl
  | cons e es ih => simp [ih]

/-- An answer leaves the store that its events say. -/
theorem answer_store {s : Store} {clock : Instant} {r : Effect} {choice : Choice} {a : Answer r}
    (h : answer s clock past r choice = some a) :
    a.store = a.events.foldr (fun e t => t.after e) s := by
  cases comesTo h with
  | @performed op correlation =>
    have hr : ∀ t : Store, (reported op (s.perform op).1).foldr (fun e t => t.after e) t = t := by
      intro t
      cases (s.perform op).1 <;> rfl
    simp [hr, Store.perform_eq_changes]
  | lost => simp [Store.perform_eq_changes, Store.after]
  | _ => rfl

/-- What is known of a request and its answer from what is written down of it. -/
def Event.Tells (clock : Instant) (r : Effect) (choice : Choice) : Event → Prop
  | .began _ => False
  | .saw t => t = clock
  | .drew kind id => r = .fresh kind ∧ choice = .id id
  | .verified signer payload signature verdict =>
    r = .verify signer payload signature ∧ choice = .verdict verdict
  | .deployed o landing => (∃ limit, r = .deploy o limit) ∧ choice = .landing landing
  | .filed _ | .wrote .. | .failed .. => True

theorem tells_of_changes {s : Store} {clock : Instant} {r : Effect} {choice : Choice} {op : StoreOp}
    {e : Event} (he : e ∈ s.changes op) : e.Tells clock r choice := by
  rcases Store.mem_changes he with ⟨P, rfl⟩ | ⟨b, p, rfl⟩
  · trivial
  · trivial

theorem tells_of_answer {s : Store} {clock : Instant} {r : Effect} {choice : Choice} {a : Answer r}
    {e : Event} (h : answer s clock past r choice = some a) (he : e ∈ a.events) :
    e.Tells clock r choice := by
  cases comesTo h with
  | now =>
    cases List.mem_singleton.1 he
    rfl
  | fresh | verified =>
    cases List.mem_singleton.1 he
    exact ⟨rfl, rfl⟩
  | landed =>
    cases List.mem_singleton.1 he
    exact ⟨⟨_, rfl⟩, rfl⟩
  | refused =>
    cases List.mem_singleton.1 he
    trivial
  | @performed op =>
    rcases List.mem_append.1 he with he | he
    · cases hr : (s.perform op).1 with
      | ok a =>
        rw [hr] at he
        cases he
      | error f =>
        rw [hr] at he
        cases List.mem_singleton.1 he
        trivial
    · exact tells_of_changes he
  | lost =>
    rcases List.mem_cons.1 he with rfl | he
    · trivial
    · exact tells_of_changes he
  | note | correlate | pause => cases he

theorem policy?_mono {P : Policy} {id : Text} (h : (replay founding past).policy? id = some P) :
    (replay founding (news ++ past)).policy? id = some P := by
  induction news with
  | nil => exact h
  | cons e news ih => exact Store.policy?_after e.event ih

@[simp] theorem written_append : written (news ++ past) = written news ++ written past :=
  List.filterMap_append

theorem mem_written {p : Proposal} : p ∈ written past ↔ ∃ i b, ⟨i, .wrote b p⟩ ∈ past := by
  simp only [written, List.mem_filterMap]
  constructor
  · rintro ⟨⟨i, e⟩, he, hp⟩
    cases e <;> simp only [Event.written?, Option.some.injEq, reduceCtorEq] at hp
    subst hp
    exact ⟨i, _, he⟩
  · rintro ⟨i, b, h⟩
    exact ⟨_, h, rfl⟩

theorem mem_deployers {id : Text} :
    i ∈ deployers past id ↔ ∃ o landing, ⟨i, .deployed o landing⟩ ∈ past ∧ o.key = id := by
  simp only [deployers, List.mem_map, List.mem_filter]
  constructor
  · rintro ⟨⟨j, e⟩, ⟨he, hid⟩, rfl⟩
    cases e <;> simp only [Event.deploys, Bool.false_eq_true, beq_iff_eq] at hid
    exact ⟨_, _, he, hid⟩
  · rintro ⟨o, landing, he, rfl⟩
    exact ⟨_, ⟨he, by simp [Event.deploys]⟩, rfl⟩

/-- Whatever lies in the store was committed. -/
theorem mem_written_of_mem {p : Proposal} (h : p ∈ (replay founding past).proposals) :
    p ∈ written past := by
  induction past with
  | nil => simp at h
  | cons e past ih =>
    have older : p ∈ written past → p ∈ written (e :: past) := by
      intro hp
      obtain ⟨i, b, he⟩ := mem_written.1 hp
      exact mem_written.2 ⟨i, b, List.mem_cons_of_mem e he⟩
    obtain ⟨i, e⟩ := e
    rw [replay_cons] at h
    cases e with
    | wrote b q =>
      cases b with
      | none =>
        rcases List.mem_append.1 h with h | h
        · exact older (ih h)
        · exact mem_written.2 ⟨i, none, by simp [List.mem_singleton.1 h]⟩
      | some old =>
        obtain ⟨r, hr, hp⟩ := List.mem_map.1 h
        split at hp
        · exact mem_written.2 ⟨i, some old, by simp [hp]⟩
        · exact older (ih (hp ▸ hr))
    | _ => exact older (ih h)

theorem mem_written_of_proposal? {p : Proposal} {id : Text}
    (h : (replay founding past).proposal? id = some p) : p ∈ written past :=
  mem_written_of_mem (Store.mem_of_proposal? h)

end QuorumGate
