import QuorumGate.Proofs.Registry.Leaks
import QuorumGate.Service.Queries

/-!
# Listings of policies

A store in memory lists its policies newest first, and no more of them than are asked for. A client
of a registry passes the limit on, and lists what it gets.
-/

namespace QuorumGate

/-- What keeps the records: what comes of each operation. -/
abbrev Keeper := (op : StoreOp) → Text → Except Failure op.Result

namespace Keeper

def memory (s : Store) : Keeper := fun op _ => (s.perform op).1

def registry (g : Registry) (replies : Nat → Arrival) (ids : Nat → Text) : Keeper :=
  fun op correlation =>
    ((g.perform correlation op).interpret (Registry.serving replies ids) ([], 0)).1

/-- Answers what is asked of the store, and nothing else. -/
def answer (b : Keeper) : (r : Effect) → Option r.Reply
  | .store op correlation => some (b op correlation)
  | _ => none

end Keeper

namespace Policies

/-- Newest first, and no more than so many. -/
def IsPage (limit : Int) (ps : List Policy) : Prop :=
  ps.Pairwise (fun p q => q.createdAt.ticks ≤ p.createdAt.ticks) ∧ (ps.length : Int) ≤ limit

end Policies

/-- The first of all policies, if they are sorted newest first. -/
theorem Store.listPolicies_page (s : Store) (limit : Int) (nonneg : 0 ≤ limit)
    (comparable : Instant.allComparable (s.policies.map Policy.createdAt) = true) :
    ∃ ps rest, s.listPolicies limit = .ok ps ∧ (ps ++ rest).Perm s.policies ∧
      (ps ++ rest).Pairwise (fun p q => q.createdAt.ticks ≤ p.createdAt.ticks) ∧
      (ps.length : Int) = min limit s.policies.length := by
  let sorted := s.policies.mergeSort fun p q => q.createdAt.ticks ≤ p.createdAt.ticks
  have whole : sorted.take limit.toNat ++ sorted.drop limit.toNat = sorted :=
    List.take_append_drop limit.toNat sorted
  refine ⟨sorted.take limit.toNat, sorted.drop limit.toNat, ?_, ?_, ?_, ?_⟩
  · rw [listPolicies, Instant.newestFirst, if_pos comparable]
    show Except.ok (upTo limit sorted) = _
    rw [upTo, if_pos nonneg]
  · rw [whole]
    exact List.mergeSort_perm _ _
  · rw [whole]
    have trans : ∀ p q r : Policy, decide (q.createdAt.ticks ≤ p.createdAt.ticks) = true →
        decide (r.createdAt.ticks ≤ q.createdAt.ticks) = true →
          decide (r.createdAt.ticks ≤ p.createdAt.ticks) = true := by
      simp only [decide_eq_true_eq]
      omega
    have total : ∀ p q : Policy, (decide (q.createdAt.ticks ≤ p.createdAt.ticks) ||
        decide (p.createdAt.ticks ≤ q.createdAt.ticks)) = true := by
      simp only [Bool.or_eq_true, decide_eq_true_eq]
      omega
    simpa using List.pairwise_mergeSort trans total s.policies
  · have length : sorted.length = s.policies.length := List.length_mergeSort _
    rw [List.length_take, length]
    omega

namespace Registry

/-- What a registry replies to a listing that is the answer to it, is a success and lists policies
that can be read. -/
structure Lists (g : Registry) (replies : Nat → Arrival) (ps : List Policy) : Prop where
  answered : ∃ r k : Nat, g.patience.retries = r ∧
    IsLeast {i | i = r ∨ (replies i).asksAgain g.patience.statuses = false} k ∧
    ¬(g.patience.backoff.isReal ∧ 1024 < k) ∧
    ∃ x ms vs, replies k = .response x ∧ x.payload = .ok ms ∧ x.status < 400 ∧
      Json.lookup "items" ms = some (.list vs) ∧ vs.mapM Policy.read? = some ps

/-- The policies of a listing are those of the reply, in their order. -/
theorem Lists.listed {g : Registry} {replies : Nat → Arrival} {ps : List Policy}
    (h : g.Lists replies ps) (ids : Nat → Text) (limit : Int) (correlation : Text) :
    Keeper.registry g replies ids (.listPolicies limit) correlation = .ok ps := by
  obtain ⟨r, k, retries, first, told, x, ms, vs, reply, payload, success, items, read⟩ := h.answered
  obtain ⟨c, next, split, listing⟩ : ∃ c next, g.list policiesPath
      (.fields [("limit", .whole limit)]) policyRecord correlation =
        (g.send c correlation >>= next) ∧ ∀ status ms s, Listing id Policy.read? status ms
          ((next (status, ms)).interpret (serving replies ids) s).1 :=
    list_after _ _ policyRecord_reads
  obtain ⟨k', first', log, seen⟩ := (interpret_send g c correlation replies ids).2 r retries
  obtain rfl := first.unique first'
  have received : Deployment.received (replies k) = .ok (x.status, ms) := by
    rw [reply, Deployment.received, payload]
    rfl
  rw [if_neg told, received] at seen
  show (Program.interpret (serving replies ids) (g.list policiesPath
    (.fields [("limit", .whole limit)]) policyRecord correlation) ([], 0)).1 = _
  rw [split, Program.interpret_bind, seen]
  dsimp only
  have comes := listing x.status ms (log, 0)
  generalize ((next (x.status, ms)).interpret (serving replies ids) (log, 0)).1 = y at comes ⊢
  cases comes with
  | refused refused => exact absurd success refused
  | single _ items' single =>
    cases items.symm.trans items'
    cases single
  | list _ items' reads =>
    cases items.symm.trans items'
    generalize found : vs.mapM Policy.read? = o at reads
    cases reads with
    | badly => cases read.symm.trans found
    | well as =>
      have same := Option.some.inj (read.symm.trans found)
      rw [same, List.map_id]
  | texts _ other => exact absurd rfl ((other _ items).2 vs)

end Registry

namespace Queries

variable {largest limit : Int}

/-- A query lists what the backend lists under a bounded limit. -/
theorem interpret_policies (b : Keeper) (largest limit : Int) (correlation : Text) :
    (policies largest limit correlation).interpret b.answer =
      some (b (.listPolicies (bounded largest limit)) correlation) := by
  rw [policies, Policies.list, Service.store, Program.interpret]
  show Option.bind (some (b (.listPolicies (bounded largest limit)) correlation)) _ = _
  rw [Option.bind_some]
  cases b (.listPolicies (bounded largest limit)) correlation <;> rfl

theorem bounded_eq (pos : 1 ≤ largest) (hlimit : 1 ≤ limit) :
    bounded largest limit = min limit largest := by
  rw [bounded]
  omega

/-- Over a store in memory whose times can be compared, the newest policies are listed, newest
first, and as many of them as there are and may be. Over a registry those are listed that it replies
with, so that the listing is newest first and bounded just as far as the reply is. -/
theorem policies_listed (largest limit : Int) (pos : 1 ≤ largest) (hlimit : 1 ≤ limit)
    (correlation : Text) :
    (∀ s : Store, Instant.allComparable (s.policies.map Policy.createdAt) = true →
      ∃ ps rest, (policies largest limit correlation).interpret (Keeper.memory s).answer =
          some (.ok ps) ∧ Policies.IsPage (min limit largest) ps ∧
        (ps ++ rest).Perm s.policies ∧
        (ps ++ rest).Pairwise (fun p q => q.createdAt.ticks ≤ p.createdAt.ticks) ∧
        (ps.length : Int) = min (min limit largest) s.policies.length) ∧
      ∀ (g : Registry) (replies : Nat → Arrival) (ids : Nat → Text) (ps : List Policy),
        g.Lists replies ps →
          (policies largest limit correlation).interpret (Keeper.registry g replies ids).answer =
            some (.ok ps) := by
  constructor
  · intro s comparable
    have least := bounded_eq pos hlimit
    obtain ⟨ps, rest, listed, perm, sorted, length⟩ :=
      s.listPolicies_page (bounded largest limit) (by omega) comparable
    rw [least] at length
    refine ⟨ps, rest, ?_, ⟨(List.pairwise_append.1 sorted).1, by omega⟩, perm, sorted, length⟩
    rw [interpret_policies]
    exact congrArg some listed
  · intro g replies ids ps h
    rw [interpret_policies, h.listed]

end Queries

/-! ## Two policies -/

namespace SignedOnce

theorem later : 600 < microsPerDay := by decide

def older : Policy := ⟨"A", "core", ["a", "b"], 1, none, "x", moment⟩

def newer : Policy :=
  { older with id := "B", createdAt := { moment with micros := 600, micros_lt := later } }

/-- A registry that lists these policies. -/
def listing (ps : List Policy) : Nat → Arrival :=
  fun _ => .response (echo (.object [("items", .listOf Policy.toJson ps)]))

theorem mapM_read (ps : List Policy) : (ps.map Policy.toJson).mapM Policy.read? = some ps := by
  induction ps with
  | nil => rfl
  | cons p ps ih =>
    have first : Policy.read? p.toJson = some p := by
      rw [Policy.read?, Policy.ofJson_toJson]
      rfl
    rw [List.map_cons, List.mapM_cons, first, ih]
    rfl

theorem lists (ps : List Policy)
    (legible : (echo (.object [("items", .listOf Policy.toJson ps)])).holds
      [("items", .listOf Policy.toJson ps)] = true) : registry.Lists (listing ps) ps where
  answered := ⟨2, 0, rfl, ⟨.inr rfl, fun i _ => Nat.zero_le i⟩, by decide, _, _, _, rfl,
    Response.payload_of_holds legible, show (200 : Int) < 400 by decide, rfl, mapM_read ps⟩

/-- One of two policies is listed of a store in memory, and what a registry lists. -/
theorem one_listed :
    Instant.allComparable ([older, newer].map Policy.createdAt) = true ∧
      registry.Lists (listing [newer]) [newer] ∧
      (∃ ps, (Queries.policies 100 1 "r").interpret
          (Keeper.memory ⟨[older, newer], []⟩).answer = some (.ok ps) ∧
        Policies.IsPage 1 ps ∧ ps.length = 1) ∧
      (Queries.policies 100 1 "r").interpret
        (Keeper.registry registry (listing [newer]) fun _ => "S").answer = some (.ok [newer]) := by
  have comparable : Instant.allComparable ([older, newer].map Policy.createdAt) = true := by decide
  have shown := lists [newer] (by decide +kernel)
  obtain ⟨memory, remote⟩ := Queries.policies_listed 100 1 (by decide) (by decide) "r"
  obtain ⟨ps, rest, listed, page, -, -, length⟩ := memory ⟨[older, newer], []⟩ comparable
  have single : (ps.length : Int) = 1 := length
  exact ⟨comparable, shown, ⟨ps, listed, page, by omega⟩, remote registry _ _ _ shown⟩

/-- A registry that shows all its policies, the oldest first, is believed. -/
theorem oldest_first_listed :
    (∀ p ∈ [older, newer], p.createdAt.isAware = true) ∧
      (Queries.policies 100 1 "r").interpret
        (Keeper.registry registry (listing [older, newer]) fun _ => "S").answer =
          some (.ok [older, newer]) ∧
      ¬[older, newer].Pairwise (fun p q => q.createdAt.ticks ≤ p.createdAt.ticks) ∧
      ¬Policies.IsPage (min 1 100) [older, newer] := by
  have shown := lists [older, newer] (by decide +kernel)
  refine ⟨by decide, ?_, by decide, ?_⟩
  · rw [Queries.interpret_policies, shown.listed]
  · rintro ⟨-, bounded⟩
    exact absurd bounded (by decide)

end SignedOnce

end QuorumGate
