import Mathlib.Data.List.Forall2
import Mathlib.Data.List.Nodup
import QuorumGate.Proofs.Sequential.Local

/-!
# Two stores side by side

One store is behind another one if it holds the same records, except that some which are overdue
have been closed in the other one only. A call whose proposal is the same in both comes to the same over
either, and leaves the one behind the other.
-/

namespace QuorumGate

variable {α : Type} {n : Nat} {shown shown' : Instant → Prop} {now : Instant} {s t u : Store}
  {p q r : Proposal} {P Q : Policy} {id : Text}

/-! ## Records -/

/-- A proposal as it is stored when it has been closed for being overdue. -/
def Proposal.closed (p : Proposal) : Proposal := Store.committed (p.withStatus .expired) p.version

/-- What has become of a record by now: nothing, or it has been closed, where writers have attempts
to do so and the record is overdue at all times that will be shown. -/
inductive Swept (n : Nat) (shown : Instant → Prop) (p : Proposal) : Proposal → Prop where
  | same : Swept n shown p p
  | closed (able : 0 < n) (still_open : p.status.isTerminal = false)
      (overdue : ∀ t, shown t → p.isExpired t = .ok true) : Swept n shown p p.closed

namespace Swept

theorem origin_eq (h : Swept n shown p q) : q.origin = p.origin := by
  cases h <;> rfl

theorem id_eq (h : Swept n shown p q) : q.id = p.id := (Proposal.origin_eq_iff.1 h.origin_eq).1

theorem mono (h : Swept n shown p q) (hs : ∀ t, shown' t → shown t) : Swept n shown' p q := by
  cases h with
  | same => exact .same
  | closed able still_open overdue => exact .closed able still_open fun t ht => overdue t (hs t ht)

/-- What has been closed is not closed again. -/
theorem trans (h : Swept n shown p q) (h' : Swept n shown q r) : Swept n shown p r := by
  cases h with
  | same => exact h'
  | closed able still_open overdue =>
    cases h' with
    | same => exact .closed able still_open overdue
    | closed _ still_open' _ => cases still_open'

theorem find? {ps qs : List Proposal} (h : List.Forall₂ (Swept n shown) ps qs) (id : Text) :
    Option.Rel (Swept n shown) (ps.find? (·.id == id)) (qs.find? (·.id == id)) := by
  induction h with
  | nil => exact .none
  | @cons p q _ _ hp _ ih =>
    rw [List.find?_cons, List.find?_cons, hp.id_eq]
    cases p.id == id with
    | true => exact .some hp
    | false => exact ih

theorem map_id {ps qs : List Proposal} (h : List.Forall₂ (Swept n shown) ps qs) :
    qs.map (·.id) = ps.map (·.id) := by
  induction h with
  | nil => rfl
  | cons hp _ ih => rw [List.map_cons, List.map_cons, ih, hp.id_eq]

theorem exists_source {ps qs : List Proposal} (h : List.Forall₂ (Swept n shown) ps qs)
    (hq : q ∈ qs) : ∃ p ∈ ps, Swept n shown p q := by
  induction h with
  | nil => cases hq
  | cons hp _ ih =>
    rcases List.mem_cons.1 hq with rfl | hq
    · exact ⟨_, List.mem_cons_self, hp⟩
    · obtain ⟨p, hp, swept⟩ := ih hq
      exact ⟨p, List.mem_cons_of_mem _ hp, swept⟩

theorem forall_trans {ps qs rs : List Proposal} (h : List.Forall₂ (Swept n shown) ps qs)
    (h' : List.Forall₂ (Swept n shown) qs rs) : List.Forall₂ (Swept n shown) ps rs := by
  induction h generalizing rs with
  | nil => exact h'
  | cons hp _ ih =>
    cases h' with
    | cons hq rest => exact .cons (hp.trans hq) (ih rest)

end Swept

/-! ## Stores -/

/-- A store of which another one differs only by records that have been closed. -/
structure Behind (n : Nat) (shown : Instant → Prop) (s t : Store) : Prop where
  policies : t.policies = s.policies
  proposals : List.Forall₂ (Swept n shown) s.proposals t.proposals

/-- The records of a store have identifiers of their own and can be shown. -/
structure Kept (now : Instant) (s : Store) : Prop where
  distinct : (s.proposals.map (·.id)).Nodup
  presentable : s.IsPresentable now
  sound : ∀ P ∈ s.policies, P.IsSound

namespace Store

theorem map_id_replace (q : Proposal) (ps : List Proposal) :
    (replace q ps).map (·.id) = ps.map (·.id) := by
  rw [replace, List.map_map]
  refine List.map_congr_left fun p _ => ?_
  by_cases h : p.id = q.id <;> simp [h]

theorem proposal?_of_mem (distinct : (s.proposals.map (·.id)).Nodup) (hp : p ∈ s.proposals) :
    s.proposal? p.id = some p := find?_of_mem distinct hp

theorem perform_update {expected : Int} (hp : s.proposal? q.id = some p)
    (current : p.version = expected) :
    s.perform (.updateProposal q expected) = (.ok (committed q expected),
      { s with proposals := replace (committed q expected) s.proposals }) := by
  simp [perform, updateProposal, hp, current, written]

theorem proposal?_update {expected : Int} (hp : s.proposal? q.id = some p) (id : Text) :
    ({ s with proposals := replace (committed q expected) s.proposals } : Store).proposal? id =
      if q.id = id then some (committed q expected) else s.proposal? id :=
  proposal?_replace (committed q expected) hp id

theorem perform_update_stale {expected : Int} (hp : s.proposal? q.id = some p)
    (stale : p.version ≠ expected) :
    s.perform (.updateProposal q expected) =
      (.error (.conflict q.id expected (.version p.version)), s) := by
  simp [perform, updateProposal, hp, stale, written]

theorem perform_update_missing {expected : Int} (missing : s.proposal? q.id = none) :
    s.perform (.updateProposal q expected) = (.error (.conflict q.id expected .nothing), s) := by
  simp [perform, updateProposal, missing, written]

theorem perform_insert (free : s.proposal? q.id = none) :
    s.perform (.insertProposal q) = (.ok q, { s with proposals := s.proposals ++ [q] }) := by
  simp [perform, insertProposal, free, written]

theorem perform_insert_taken (taken : s.proposal? q.id = some p) :
    s.perform (.insertProposal q) = (.error (.conflict q.id 0 (.version 1)), s) := by
  simp [perform, insertProposal, taken, written]

end Store

namespace Presentable

/-- Policies that come in addition do not matter. -/
theorem of_policies (h : Presentable s now p P)
    (kept : ∀ id Q, s.policy? id = some Q → t.policy? id = some Q) : Presentable t now p P :=
  ⟨kept _ _ h.policy, h.stage, h.window, h.created⟩

end Presentable

namespace Kept

theorem empty (now : Instant) : Kept now .empty :=
  ⟨List.nodup_nil, fun _ hp => (nomatch hp), fun _ hP => (nomatch hP)⟩

theorem file (h : Kept now s) (hP : P.IsSound) :
    Kept now { s with policies := s.policies ++ [P] } := by
  refine ⟨h.distinct, fun p hp => ?_, fun Q hQ => ?_⟩
  · obtain ⟨Q, hQ⟩ := h.presentable p hp
    exact ⟨Q, hQ.of_policies fun _ _ => Store.policy?_after (.filed P)⟩
  · rcases List.mem_append.1 hQ with hQ | hQ
    · exact h.sound Q hQ
    · rw [List.mem_singleton.1 hQ]
      exact hP

theorem insert (h : Kept now s) (free : s.proposal? q.id = none) (hq : Presentable s now q P) :
    Kept now { s with proposals := s.proposals ++ [q] } := by
  refine ⟨?_, fun p hp => ?_, h.sound⟩
  · have unused : ∀ p ∈ s.proposals, p.id ≠ q.id := by
      simpa [Store.proposal?] using free
    rw [List.map_append, List.nodup_append]
    refine ⟨h.distinct, List.nodup_singleton _, ?_⟩
    simpa using unused
  · rcases List.mem_append.1 hp with hp | hp
    · obtain ⟨Q, hQ⟩ := h.presentable p hp
      exact ⟨Q, hQ.of_policies fun _ _ => id⟩
    · rw [List.mem_singleton.1 hp]
      exact ⟨P, hq.of_policies fun _ _ => id⟩

theorem replace (h : Kept now s) (hq : Presentable s now q P) :
    Kept now { s with proposals := Store.replace q s.proposals } := by
  refine ⟨?_, fun p hp => ?_, h.sound⟩
  · rw [Store.map_id_replace]
    exact h.distinct
  · obtain ⟨r, hr, rfl⟩ := List.mem_map.1 hp
    split
    · exact ⟨P, hq.of_policies fun _ _ => id⟩
    · obtain ⟨Q, hQ⟩ := h.presentable r hr
      exact ⟨Q, hQ.of_policies fun _ _ => id⟩

end Kept

namespace Behind

theorem refl (n : Nat) (shown : Instant → Prop) (s : Store) : Behind n shown s s :=
  ⟨rfl, List.forall₂_same.2 fun _ _ => .same⟩

theorem mono (h : Behind n shown s t) (hs : ∀ t, shown' t → shown t) : Behind n shown' s t :=
  ⟨h.policies, h.proposals.imp fun _ _ hp => hp.mono hs⟩

theorem policy? (h : Behind n shown s t) (id : Text) : t.policy? id = s.policy? id := by
  rw [Store.policy?, h.policies, Store.policy?]

/-- A proposal is the same in both stores, or it is open in one of them only. -/
theorem proposal?_cases (h : Behind n shown s t) (id : Text) :
    t.proposal? id = s.proposal? id ∨
      ∃ p, s.proposal? id = some p ∧ t.proposal? id = some p.closed ∧ 0 < n ∧
        p.status.isTerminal = false ∧ ∀ u, shown u → p.isExpired u = .ok true := by
  have found : Option.Rel (Swept n shown) (s.proposal? id) (t.proposal? id) :=
    Swept.find? h.proposals id
  generalize s.proposal? id = here, t.proposal? id = there at found
  cases found with
  | none => exact .inl rfl
  | some swept =>
    cases swept with
    | same => exact .inl rfl
    | closed able still_open overdue => exact .inr ⟨_, rfl, rfl, able, still_open, overdue⟩

theorem trans (h : Behind n shown s t) (h' : Behind n shown t u) : Behind n shown s u :=
  ⟨h'.policies.trans h.policies, Swept.forall_trans h.proposals h'.proposals⟩

theorem file (h : Behind n shown s t) (P : Policy) :
    Behind n shown { s with policies := s.policies ++ [P] }
      { t with policies := t.policies ++ [P] } :=
  ⟨congrArg (· ++ [P]) h.policies, h.proposals⟩

theorem insert (h : Behind n shown s t) (p : Proposal) :
    Behind n shown { s with proposals := s.proposals ++ [p] }
      { t with proposals := t.proposals ++ [p] } :=
  ⟨h.policies, List.rel_append h.proposals (.cons .same .nil)⟩

theorem replace (h : Behind n shown s t) (hp : Swept n shown p q) :
    Behind n shown { s with proposals := Store.replace p s.proposals }
      { t with proposals := Store.replace q t.proposals } := by
  refine ⟨h.policies, ?_⟩
  rw [Store.replace, Store.replace, List.forall₂_map_left_iff, List.forall₂_map_right_iff]
  refine h.proposals.imp fun r r' hr => ?_
  rw [hr.id_eq, hp.id_eq]
  split
  · exact hp
  · exact hr

end Behind

/-! ## Programs that find the same -/

variable {b : Store} {subject : Option Text} {ok : α → Prop} {program : Service α} {op : StoreOp}
  {correlation : Text} {d : Desk}

/-- What holds while a program about one proposal is under way over two stores, both of which hold
the same version of it. -/
structure InStep (b : Store) (now : Instant) (subject : Option Text) (n : Nat)
    (shown : Instant → Prop) (s t : Store) : Prop where
  behind : Behind n shown s t
  kept : Kept now s
  known : ∀ id P, b.policy? id = some P → s.policy? id = some P
  same : ∀ id, subject = some id → t.proposal? id = s.proposal? id
  version : ∀ id p, subject = some id → s.proposal? id = some p → ∃ P, VersionOf b now id p P

namespace InStep

theorem insertPolicy (h : InStep b now subject n shown s t) (hP : P.IsSound) :
    ∃ u, t.perform (.insertPolicy P) = ((s.perform (.insertPolicy P)).1, u) ∧
      InStep b now subject n shown (s.perform (.insertPolicy P)).2 u := by
  rw [Store.perform, Store.perform, Store.insertPolicy, Store.insertPolicy, h.behind.policy?]
  by_cases taken : (s.policy? P.id).isSome = true
  · rw [if_pos taken, if_pos taken]
    exact ⟨t, rfl, h⟩
  · rw [if_neg taken, if_neg taken]
    refine ⟨_, rfl, h.behind.file P, h.kept.file hP, fun id Q hQ => ?_, h.same, h.version⟩
    exact Store.policy?_after (.filed P) (h.known id Q hQ)

theorem updateProposal (h : InStep b now subject n shown s t) (expected : Int)
    (hid : subject = some q.id) (hq : VersionOf b now q.id q P) :
    ∃ u, t.perform (.updateProposal q expected) = ((s.perform (.updateProposal q expected)).1, u) ∧
      InStep b now subject n shown (s.perform (.updateProposal q expected)).2 u := by
  have same := h.same q.id hid
  cases hp : s.proposal? q.id with
  | none =>
    rw [Store.perform_update_missing hp, Store.perform_update_missing (same.trans hp)]
    exact ⟨t, rfl, h⟩
  | some p =>
    by_cases current : p.version = expected
    · rw [Store.perform_update hp current, Store.perform_update (same.trans hp) current]
      have hq' : VersionOf b now q.id (Store.committed q expected) P := hq.committed expected
      refine ⟨_, rfl, h.behind.replace .same, ?_, h.known, fun id hs => ?_, fun id r hs hr => ?_⟩
      · exact h.kept.replace (hq'.shown.of_policies h.known)
      · rw [Store.proposal?_update hp, Store.proposal?_update (same.trans hp), h.same id hs]
      · obtain rfl := Option.some.inj (hid.symm.trans hs)
        rw [Store.proposal?_update hp, if_pos rfl] at hr
        cases hr
        exact ⟨P, hq'⟩
    · rw [Store.perform_update_stale hp current, Store.perform_update_stale (same.trans hp) current]
      exact ⟨t, rfl, h⟩

/-- A request that a program about one proposal makes is answered alike by both stores. -/
theorem perform (h : InStep b now subject n shown s t)
    (hr : (Effect.store op correlation).IsAbout b now subject) :
    ∃ u, t.perform op = ((s.perform op).1, u) ∧ InStep b now subject n shown (s.perform op).2 u ∧
      Effect.Expects b now (.store op correlation) (s.perform op).1 := by
  cases op with
  | insertPolicy P =>
    obtain ⟨u, made, after⟩ := h.insertPolicy hr
    exact ⟨u, made, after, trivial⟩
  | getPolicy id =>
    refine ⟨t, ?_, h, fun P hP => congrArg Except.ok (h.known id P hP)⟩
    rw [Store.perform, h.behind.policy?]
    rfl
  | listPolicies limit =>
    refine ⟨t, ?_, h, trivial⟩
    rw [Store.perform, Store.listPolicies, h.behind.policies]
    rfl
  | getProposal id =>
    refine ⟨t, ?_, h, fun p hp => h.version id p hr (Except.ok.inj hp)⟩
    rw [Store.perform, h.same id hr]
    rfl
  | updateProposal q expected =>
    obtain ⟨hid, P, hq⟩ := hr
    obtain ⟨u, made, after⟩ := h.updateProposal expected hid hq
    refine ⟨u, made, after, fun p hp => ?_⟩
    have hp : (s.written (Store.committed q expected) (s.updateProposal q expected)).1 = .ok p := hp
    cases written : s.updateProposal q expected with
    | error e =>
      rw [written] at hp
      cases hp
    | ok u =>
      rw [written] at hp
      cases hp
      rfl
  | _ => exact hr.elim

theorem answer {r : Effect} (h : InStep b now subject n shown d.store t)
    (hr : r.IsAbout b now subject) (env : Surroundings) (x : Occasion) :
    ∃ u, x.answer env r { d with store := t } =
        ((x.answer env r d).1, { (x.answer env r d).2 with store := u }) ∧
      InStep b now subject n shown (x.answer env r d).2.store u ∧
      r.Expects b now (x.answer env r d).1 := by
  cases r with
  | store op correlation =>
    obtain ⟨u, made, after, reply⟩ := h.perform hr
    refine ⟨u, ?_, after, reply⟩
    simp only [Occasion.answer, made]
  | _ => exact ⟨t, rfl, h, trivial⟩

/-- A program about one proposal comes to the same over both stores. -/
theorem run (h : InStep b now subject n shown d.store t) (hp : About b now subject ok program)
    (env : Surroundings) (x : Occasion) :
    ∃ u, x.run env program { d with store := t } =
        ((x.run env program d).1, { (x.run env program d).2 with store := u }) ∧
      InStep b now subject n shown (x.run env program d).2.store u := by
  induction program generalizing d t with
  | done a => exact ⟨t, rfl, h⟩
  | fail e => exact ⟨t, rfl, h⟩
  | ask r next ih =>
    obtain ⟨u, answered, after, reply⟩ := h.answer hp.1 env x
    rw [Occasion.run_ask, Occasion.run_ask, answered]
    exact ih _ after (hp.2 _ reply)

end InStep

end QuorumGate
