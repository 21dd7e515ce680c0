import QuorumGate.Proofs.Sequential.Behind

/-!
# Compare and set

In a session a store answers one request after another. An insertion takes a free identifier, and an
update takes the version that is stored, whatever version the record names that is to be written. So
the versions of a record are consecutive, and no version is updated twice.
-/

namespace QuorumGate

/-- A request, with the store that it finds. -/
structure Access where
  store : Store
  op : StoreOp

namespace Access

/-- The record that an access writes. -/
def committed? : Access → Option Proposal
  | ⟨s, .insertProposal p⟩ => (s.perform (.insertProposal p)).1.toOption
  | ⟨s, .updateProposal p expected⟩ => (s.perform (.updateProposal p expected)).1.toOption
  | _ => none

/-- The access replaces a certain version of a record. -/
def replaces (id : Text) (version : Int) : Access → Bool
  | ⟨s, .updateProposal p expected⟩ =>
    p.id == id && expected == version && (s.perform (.updateProposal p expected)).1.isOk
  | _ => false

end Access

namespace Store

variable {s t : Store} {p q : Proposal} {op : StoreOp} {ops : List StoreOp} {id : Text}
  {expected first : Int}

/-- The accesses of a session, one for each request. -/
def accesses (s : Store) : List StoreOp → List Access
  | [] => []
  | op :: ops => ⟨s, op⟩ :: accesses (s.perform op).2 ops

/-- The versions under which a session writes a record, in order. -/
def versionsOf (id : Text) (s : Store) (ops : List StoreOp) : List Int :=
  (((s.accesses ops).filterMap Access.committed?).filter (·.id == id)).map (·.version)

/-! ## One request -/

/-- What a store holds under an identifier, as a conflict reports it. -/
def found (s : Store) (id : Text) : Found :=
  match s.proposal? id with
  | none => .nothing
  | some p => .version p.version

/-- One store is the other one with a record put into it: in its place, or at the end if it is
new. -/
structure Puts (s : Store) (p : Proposal) (t : Store) : Prop where
  policies : t.policies = s.policies
  stored : t.proposal? p.id = some p
  others : ∀ id, id ≠ p.id → t.proposal? id = s.proposal? id
  order : t.proposals.map (·.id) = if (s.proposal? p.id).isSome then s.proposals.map (·.id)
    else s.proposals.map (·.id) ++ [p.id]

/-- An insertion succeeds exactly if the identifier is free, and changes nothing if it is not. -/
structure Inserts (s : Store) (p : Proposal) : Prop where
  succeeds_iff : (∃ r, (s.perform (.insertProposal p)).1 = .ok r) ↔ s.proposal? p.id = none
  puts : ∀ r, (s.perform (.insertProposal p)).1 = .ok r →
    r = p ∧ s.Puts p (s.perform (.insertProposal p)).2
  refuses : ∀ e, (s.perform (.insertProposal p)).1 = .error e →
    e = .conflict p.id 0 (.version 1) ∧ (s.perform (.insertProposal p)).2 = s

/-- An update succeeds exactly if the expected version is stored, and changes nothing if it is
not. -/
structure Updates (s : Store) (p : Proposal) (expected : Int) : Prop where
  succeeds_iff : (∃ r, (s.perform (.updateProposal p expected)).1 = .ok r) ↔
    ∃ q, s.proposal? p.id = some q ∧ q.version = expected
  puts : ∀ r, (s.perform (.updateProposal p expected)).1 = .ok r →
    r = { p with version := expected + 1 } ∧
      s.Puts { p with version := expected + 1 } (s.perform (.updateProposal p expected)).2
  refuses : ∀ e, (s.perform (.updateProposal p expected)).1 = .error e →
    e = .conflict p.id expected (s.found p.id) ∧ (s.perform (.updateProposal p expected)).2 = s

theorem Puts.append (free : s.proposal? p.id = none) :
    s.Puts p { s with proposals := s.proposals ++ [p] } := by
  have held := proposal?_insert p free
  refine ⟨rfl, (held p.id).trans (if_pos rfl), fun id other => ?_, ?_⟩
  · exact (held id).trans (if_neg (Ne.symm other))
  · rw [free, Option.isSome_none, if_neg Bool.false_ne_true, List.map_append, List.map_singleton]

theorem Puts.replace (stored : s.proposal? p.id = some q) :
    s.Puts p { s with proposals := replace p s.proposals } := by
  have held := proposal?_replace p stored
  refine ⟨rfl, (held p.id).trans (if_pos rfl), fun id other => ?_, ?_⟩
  · exact (held id).trans (if_neg (Ne.symm other))
  · rw [stored, Option.isSome_some, if_pos rfl]
    exact map_id_replace p s.proposals

theorem inserts (s : Store) (p : Proposal) : s.Inserts p := by
  cases taken : s.proposal? p.id with
  | none =>
    have made := perform_insert taken
    refine ⟨⟨fun _ => taken, fun _ => ⟨p, by rw [made]⟩⟩, fun r hr => ?_, fun e he => ?_⟩
    · rw [made] at hr ⊢
      exact ⟨(Except.ok.inj hr).symm, .append taken⟩
    · rw [made] at he
      cases he
  | some q =>
    have refused := perform_insert_taken taken
    refine ⟨⟨?_, fun free => nomatch taken.symm.trans free⟩, fun r hr => ?_, fun e he => ?_⟩
    · rintro ⟨r, hr⟩
      rw [refused] at hr
      cases hr
    · rw [refused] at hr
      cases hr
    · rw [refused] at he ⊢
      exact ⟨(Except.error.inj he).symm, rfl⟩

theorem proposals_insertPolicy (s : Store) (P : Policy) :
    (s.perform (.insertPolicy P)).2.proposals = s.proposals := by
  rw [perform, insertPolicy]
  split <;> rfl

theorem Updates.of_refused (vain : ∀ q, s.proposal? p.id = some q → q.version ≠ expected)
    (refused : s.perform (.updateProposal p expected) =
      (.error (.conflict p.id expected (s.found p.id)), s)) : s.Updates p expected := by
  refine ⟨⟨?_, ?_⟩, fun r hr => ?_, fun e he => ?_⟩
  · rintro ⟨r, hr⟩
    rw [refused] at hr
    cases hr
  · rintro ⟨q, stored, current⟩
    exact absurd current (vain q stored)
  · rw [refused] at hr
    cases hr
  · rw [refused] at he ⊢
    exact ⟨(Except.error.inj he).symm, rfl⟩

theorem updates (s : Store) (p : Proposal) (expected : Int) : s.Updates p expected := by
  cases stored : s.proposal? p.id with
  | none =>
    refine .of_refused (fun q hq => nomatch stored.symm.trans hq) ?_
    rw [perform_update_missing stored, found, stored]
  | some q =>
    by_cases current : q.version = expected
    · have made := perform_update stored current
      refine ⟨⟨fun _ => ⟨q, stored, current⟩, fun _ => ⟨_, by rw [made]⟩⟩, fun r hr => ?_,
        fun e he => ?_⟩
      · rw [made] at hr ⊢
        exact ⟨(Except.ok.inj hr).symm, .replace stored⟩
      · rw [made] at he
        cases he
    · refine .of_refused (fun r hr => ?_) ?_
      · rw [← Option.some.inj (stored.symm.trans hr)]
        exact current
      · rw [perform_update_stale stored current, found, stored]

end Store

/-- An access does what its request says, and a request that writes no proposal leaves them
alone. -/
def Access.IsExact : Access → Prop
  | ⟨s, .insertProposal p⟩ => s.Inserts p
  | ⟨s, .updateProposal p expected⟩ => s.Updates p expected
  | ⟨s, op⟩ => (s.perform op).2.proposals = s.proposals

theorem Access.isExact : ∀ access : Access, access.IsExact
  | ⟨s, .insertProposal p⟩ => s.inserts p
  | ⟨s, .updateProposal p expected⟩ => s.updates p expected
  | ⟨s, .insertPolicy P⟩ => s.proposals_insertPolicy P
  | ⟨_, .getPolicy _⟩ | ⟨_, .listPolicies _⟩ | ⟨_, .getProposal _⟩ | ⟨_, .listProposals _⟩ => rfl

namespace Store

variable {s t : Store} {p q : Proposal} {op : StoreOp} {ops : List StoreOp} {id : Text}
  {expected first : Int}

/-! ## What is held under one identifier -/

/-- What an access does with the record of an identifier: it lets it be, inserts it, or writes the
version after the one that is stored. -/
inductive Handles (s : Store) (op : StoreOp) (id : Text) : Prop where
  | leaves (unwritten : ∀ p, Access.committed? ⟨s, op⟩ = some p → p.id ≠ id)
      (vain : ∀ version, Access.replaces id version ⟨s, op⟩ = false)
      (same : (s.perform op).2.proposal? id = s.proposal? id)
  | inserts (p : Proposal) (own : p.id = id) (requested : op = .insertProposal p)
      (free : s.proposal? id = none) (committed : Access.committed? ⟨s, op⟩ = some p)
      (stored : (s.perform op).2.proposal? id = some p)
  | replaces (p q : Proposal) (own : p.id = id) (requested : op = .updateProposal p q.version)
      (held : s.proposal? id = some q)
      (committed : Access.committed? ⟨s, op⟩ = some (Store.committed p q.version))
      (stored : (s.perform op).2.proposal? id = some (Store.committed p q.version))

theorem committed?_insert (free : s.proposal? p.id = none) :
    Access.committed? ⟨s, .insertProposal p⟩ = some p := by
  simp [Access.committed?, perform_insert free, Except.toOption]

theorem handles_insert (s : Store) (p : Proposal) (id : Text) :
    s.Handles (.insertProposal p) id := by
  cases taken : s.proposal? p.id with
  | none =>
    have made := perform_insert taken
    have committed := committed?_insert taken
    by_cases own : p.id = id
    · subst own
      refine .inserts p rfl rfl taken committed ?_
      rw [made]
      exact (Puts.append taken).stored
    · refine .leaves (fun r hr => ?_) (fun _ => rfl) ?_
      · rw [← Option.some.inj (committed.symm.trans hr)]
        exact own
      · rw [made]
        exact (Puts.append taken).others id (Ne.symm own)
  | some q =>
    have refused := perform_insert_taken taken
    refine .leaves (fun r hr => ?_) (fun _ => rfl) (by rw [refused])
    simp [Access.committed?, refused, Except.toOption] at hr

theorem handles_update (s : Store) (p : Proposal) (expected : Int) (id : Text) :
    s.Handles (.updateProposal p expected) id := by
  cases reply : (s.perform (.updateProposal p expected)).1 with
  | ok r =>
    obtain ⟨q, stored, current⟩ := (s.updates p expected).succeeds_iff.1 ⟨r, reply⟩
    obtain ⟨rfl, put⟩ := (s.updates p expected).puts r reply
    have committed : Access.committed? ⟨s, .updateProposal p expected⟩ =
        some (Store.committed p expected) := by
      simp [Access.committed?, reply, Except.toOption, Store.committed]
    by_cases own : p.id = id
    · subst own current
      exact .replaces p q rfl rfl stored committed put.stored
    · refine .leaves (fun r hr => ?_) (fun version => ?_) (put.others id (Ne.symm own))
      · rw [← Option.some.inj (committed.symm.trans hr)]
        exact own
      · simp [Access.replaces, own]
  | error e =>
    obtain ⟨-, same⟩ := (s.updates p expected).refuses e reply
    refine .leaves (fun r hr => ?_) (fun version => ?_) (by rw [same])
    · simp [Access.committed?, reply, Except.toOption] at hr
    · simp [Access.replaces, reply, Except.isOk, Except.toBool]

theorem handles (s : Store) (op : StoreOp) (id : Text) : s.Handles op id := by
  cases op with
  | insertProposal p => exact handles_insert s p id
  | updateProposal p expected => exact handles_update s p expected id
  | insertPolicy P =>
    refine .leaves (fun r hr => ?_) (fun _ => rfl) ?_
    · cases hr
    · rw [proposal?, proposal?, proposals_insertPolicy]
  | _ =>
    refine .leaves (fun r hr => ?_) (fun _ => rfl) rfl
    cases hr

theorem versionsOf_cons_of_unwritten
    (unwritten : ∀ p, Access.committed? ⟨s, op⟩ = some p → p.id ≠ id) :
    s.versionsOf id (op :: ops) = (s.perform op).2.versionsOf id ops := by
  rw [versionsOf, versionsOf, accesses, List.filterMap_cons]
  cases written : Access.committed? ⟨s, op⟩ with
  | none => rfl
  | some p =>
    have other : (p.id == id) = false := beq_false_of_ne (unwritten p written)
    simp [other]

theorem versionsOf_cons_of_committed (written : Access.committed? ⟨s, op⟩ = some p)
    (own : p.id = id) :
    s.versionsOf id (op :: ops) = p.version :: (s.perform op).2.versionsOf id ops := by
  rw [versionsOf, versionsOf, accesses, List.filterMap_cons, written]
  simp [own]

/-! ## Whole sessions -/

/-- A record that is stored stays stored. -/
theorem stored_throughout {access : Access} (stored : s.proposal? id = some p)
    (ht : access ∈ s.accesses ops) : ∃ q, access.store.proposal? id = some q := by
  induction ops generalizing s p with
  | nil => cases ht
  | cons op ops ih =>
    rcases List.mem_cons.1 ht with rfl | later
    · exact ⟨p, stored⟩
    · cases s.handles op id with
      | leaves _ _ same => exact ih (same.trans stored) later
      | inserts _ _ _ _ _ stored => exact ih stored later
      | replaces _ _ _ _ _ _ stored => exact ih stored later

/-- The versions from a first one on. -/
def counted (first : Int) (n : Nat) : List Int := (List.range n).map fun k : Nat => first + k

theorem counted_succ (first : Int) (n : Nat) :
    counted first (n + 1) = first :: counted (first + 1) n := by
  rw [counted, counted, List.range_succ_eq_map, List.map_cons, List.map_map]
  congr 1
  · exact Int.add_zero first
  · refine List.map_congr_left fun k _ => ?_
    rw [Function.comp_apply]
    omega

theorem nodup_counted (first : Int) (n : Nat) : (counted first n).Nodup :=
  List.nodup_range.map fun _ _ same => Int.ofNat_inj.1 (Int.add_left_cancel same)

theorem versionsOf_stored (stored : s.proposal? id = some p) (ops : List StoreOp) :
    ∃ n, s.versionsOf id ops = counted (p.version + 1) n := by
  induction ops generalizing s p with
  | nil => exact ⟨0, rfl⟩
  | cons op ops ih =>
    cases s.handles op id with
    | leaves unwritten _ same =>
      rw [versionsOf_cons_of_unwritten unwritten]
      exact ih (same.trans stored)
    | inserts _ _ _ free _ _ => exact nomatch stored.symm.trans free
    | replaces r q own _ held written stored' =>
      obtain rfl := Option.some.inj (held.symm.trans stored)
      obtain ⟨n, rest⟩ := ih stored'
      rw [versionsOf_cons_of_committed written own, rest]
      exact ⟨n + 1, (counted_succ _ n).symm⟩

/-- The versions that a session gives to a record: they are consecutive, they go on from the version
that is stored at the outset, and otherwise they begin with the one that is inserted. -/
structure Numbered (s : Store) (ops : List StoreOp) (id : Text) (first : Int) : Prop where
  consecutive : ∃ n, s.versionsOf id ops = counted first n
  onward : ∀ p, s.proposal? id = some p → first = p.version + 1
  inserted : ∀ t p, ⟨t, .insertProposal p⟩ ∈ s.accesses ops → p.id = id → t.proposal? id = none →
    first = p.version
  begun : s.proposal? id = none → s.versionsOf id ops ≠ [] →
    ∃ t p, ⟨t, .insertProposal p⟩ ∈ s.accesses ops ∧ p.id = id ∧ t.proposal? id = none

theorem Numbered.of_stored (stored : s.proposal? id = some p) (ops : List StoreOp) :
    s.Numbered ops id (p.version + 1) where
  consecutive := versionsOf_stored stored ops
  onward q hq := by rw [Option.some.inj (stored.symm.trans hq)]
  inserted t q ht _ free := by
    obtain ⟨r, held⟩ := stored_throughout stored ht
    exact nomatch held.symm.trans free
  begun free := nomatch stored.symm.trans free

/-- The first insertion begins the numbers, and no other one succeeds. -/
theorem Numbered.of_inserted (free : s.proposal? p.id = none)
    (stored : (s.perform (.insertProposal p)).2.proposal? p.id = some p) (ops : List StoreOp) :
    s.Numbered (.insertProposal p :: ops) p.id p.version where
  consecutive := by
    obtain ⟨n, rest⟩ := versionsOf_stored stored ops
    rw [versionsOf_cons_of_committed (committed?_insert free) rfl, rest]
    exact ⟨n + 1, (counted_succ _ n).symm⟩
  onward q hq := nomatch free.symm.trans hq
  inserted t q ht _ free' := by
    rcases List.mem_cons.1 ht with same | later
    · cases same
      rfl
    · obtain ⟨r, held⟩ := stored_throughout stored later
      exact nomatch held.symm.trans free'
  begun _ _ := ⟨s, p, List.mem_cons_self, rfl, free⟩

theorem numbered (s : Store) (ops : List StoreOp) (id : Text) :
    ∃ first, s.Numbered ops id first := by
  cases stored : s.proposal? id with
  | some p => exact ⟨_, .of_stored stored ops⟩
  | none =>
    induction ops generalizing s with
    | nil =>
      exact ⟨0, ⟨0, rfl⟩, fun p hp => (nomatch stored.symm.trans hp), fun t p ht => (nomatch ht),
        fun _ wrote => absurd rfl wrote⟩
    | cons op ops ih =>
      cases s.handles op id with
      | leaves unwritten _ same =>
        obtain ⟨first, later⟩ := ih _ (same.trans stored)
        have versions : s.versionsOf id (op :: ops) = (s.perform op).2.versionsOf id ops :=
          versionsOf_cons_of_unwritten unwritten
        refine ⟨first, versions ▸ later.consecutive, fun p hp => (nomatch stored.symm.trans hp),
          fun t p ht own free => ?_, fun _ wrote => ?_⟩
        · rcases List.mem_cons.1 ht with here | there
          · cases here
            exact absurd own (unwritten p (committed?_insert (own ▸ free)))
          · exact later.inserted t p there own free
        · obtain ⟨t, p, ht, own, free⟩ := later.begun (same.trans stored) (versions ▸ wrote)
          exact ⟨t, p, List.mem_cons_of_mem _ ht, own, free⟩
      | inserts p own requested free _ stored' =>
        subst own requested
        exact ⟨p.version, .of_inserted free stored' ops⟩
      | replaces _ q _ _ held _ _ => exact nomatch stored.symm.trans held

/-- As often as a session replaces a version, it writes the version after it. -/
theorem countP_replaces_le (s : Store) (ops : List StoreOp) (id : Text) (version : Int) :
    (s.accesses ops).countP (Access.replaces id version) ≤
      (s.versionsOf id ops).count (version + 1) := by
  induction ops generalizing s with
  | nil => exact Nat.le_refl 0
  | cons op ops ih =>
    rw [accesses, List.countP_cons]
    cases s.handles op id with
    | leaves unwritten vain _ =>
      rw [vain version, versionsOf_cons_of_unwritten unwritten]
      exact ih _
    | inserts p own requested _ written _ =>
      subst requested
      rw [versionsOf_cons_of_committed written own]
      exact (ih _).trans List.count_le_count_cons
    | replaces p q own requested _ written _ =>
      subst requested
      rw [versionsOf_cons_of_committed written own, List.count_cons]
      refine Nat.add_le_add (ih _) ?_
      by_cases replaced : q.version = version
      · have next : ((Store.committed p q.version).version == version + 1) = true :=
          beq_iff_eq.2 (congrArg (· + 1) replaced)
        rw [if_pos next]
        split <;> omega
      · simp [Access.replaces, replaced]

/-- In every session of a store, whatever it holds at the outset, each access does what its
request says, the versions of each record are consecutive, and each version is replaced at most
once. -/
theorem compares_and_sets (s : Store) (ops : List StoreOp) :
    (∀ access ∈ s.accesses ops, access.IsExact) ∧
      (∀ id, ∃ first, s.Numbered ops id first) ∧
      ∀ id version, (s.accesses ops).countP (Access.replaces id version) ≤ 1 := by
  refine ⟨fun access _ => access.isExact, s.numbered ops, fun id version => ?_⟩
  obtain ⟨first, numbered⟩ := s.numbered ops id
  obtain ⟨n, consecutive⟩ := numbered.consecutive
  have distinct : (s.versionsOf id ops).Nodup := consecutive ▸ nodup_counted first n
  exact (s.countP_replaces_le ops id version).trans (List.nodup_iff_count_le_one.1 distinct _)

/-- Two writers have read the version that was inserted. Only the first one writes the next version,
although its record names another one. -/
example :
    let p : Proposal :=
      { OneOfTwo.draft.normalized.toProposal (.ofString "Q") OneOfTwo.start none with version := 7 }
    Store.empty.versionsOf p.id
      [.insertProposal p, .updateProposal { p with version := 3 } 7, .updateProposal p 7] =
        [7, 8] := by
  decide +kernel

end Store

end QuorumGate
