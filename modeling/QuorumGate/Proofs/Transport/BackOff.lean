import Mathlib.Order.Bounds.Basic
import Mathlib.Order.Nat
import QuorumGate.Proofs.Deploying.Landings

/-!
# Sending with patience

A request that is sent with patience goes out again and again, each time in the same words, with
pauses in between that double, until a reply asks for no more patience or none is left. What it
comes to then is the last reply. The pauses stop short of this in one case only: a real number
cannot be doubled more than 1023 times.
-/

namespace QuorumGate

/-- What is seen of a sender: the requests that it hands over and the pauses that it makes. -/
inductive Transit where
  | sent (o : Outgoing)
  | waited (seconds : Number)

def Transit.isSent : Transit → Bool
  | sent _ => true
  | waited _ => false

/-- Whether one sends again after this, with patience for some statuses. -/
def Arrival.asksAgain (statuses : List Int) : Arrival → Bool
  | response r => statuses.contains r.status
  | interrupted _ => true
  | broken .. | silence => false

/-- The sender can make an object of the body: it is not nested too deep, and it is JSON, empty, or
text in an encoding that can be decoded. -/
structure Response.IsReadable (r : Response) : Prop where
  shallow : ∀ n, Json.parseBytes? r.depth r.body ≠ some (.error (.tooDeep n))
  decoded : r.body.isEmpty = false → (∀ v, Json.parseBytes? r.depth r.body ≠ some (.ok v)) →
    ∃ t, r.text = .ok t

theorem Response.IsReadable.payload {r : Response} (h : r.IsReadable) :
    ∃ ms, r.payload = .ok ms := by
  unfold Response.payload
  by_cases empty : r.body.isEmpty
  · exact ⟨[], if_pos empty⟩
  · rw [if_neg empty]
    split
    · exact ⟨_, rfl⟩
    · exact ⟨_, rfl⟩
    · exact ⟨_, rfl⟩
    · rename_i innermost deep
      exact absurd deep (h.shallow innermost)
    · rename_i no_object no_list other _
      obtain ⟨t, ht⟩ := h.decoded (by simpa using empty) other
      rw [ht]
      exact ⟨_, rfl⟩

namespace Number

def isReal : Number → Bool
  | whole _ => false
  | real _ => true

/-- The number times `2 ^ k`, as far as it can be told. -/
def doubled (k : Nat) : Number → Number
  | whole n => whole (n * Int.pow 2 k)
  | real x => real (x * Float.ofNat (Nat.pow 2 k))

theorem scale?_eq (b : Number) (k : Nat) :
    b.scale? k = if b.isReal ∧ 1024 ≤ k then none else some (b.doubled k) := by
  cases b with
  | whole n => rfl
  | real x =>
    by_cases h : k < 1024
    · have small : ¬1024 ≤ k := by omega
      simp [scale?, isReal, doubled, h, small]
    · have large : 1024 ≤ k := by omega
      simp [scale?, isReal, h, large]

end Number

namespace Transport

variable {p : Patience} {o : Outgoing} {replies : Nat → Arrival} {log : List Transit}
  {left k r : Nat}

/-- Replies to the requests in their order, and keeps what has been seen. -/
def answering (replies : Nat → Arrival) : (r : Wire) → StateM (List Transit) r.Reply
  | .send o => fun log => (replies (log.countP Transit.isSent), log ++ [.sent o])
  | .pause seconds => fun log => ((), log ++ [.waited seconds])
  | .note _ => pure ()
  | .fresh _ => pure ⟨[]⟩

/-- What has been seen of a request when it is about to be sent after `n` pauses. -/
def trail (b : Number) (o : Outgoing) (n : Nat) : List Transit :=
  (List.range n).flatMap fun i => [.sent o, .waited (b.doubled i)]

theorem trail_succ (b : Number) (o : Outgoing) (n : Nat) :
    trail b o (n + 1) = trail b o n ++ [.sent o, .waited (b.doubled n)] := by
  simp [trail, List.range_succ]

@[simp] theorem countP_trail (b : Number) (o : Outgoing) (n : Nat) :
    (trail b o n).countP Transit.isSent = n := by
  induction n with
  | zero => rfl
  | succ n ih =>
    rw [trail_succ, List.countP_append, ih]
    rfl

/-! ## One sending -/

theorem interpret_backOff_bind {α : Type} (next : Unit → Transport α) :
    (backOff p k >>= next).interpret (answering replies) log =
      if p.backoff.isReal ∧ 1024 ≤ k then (.error .factorTooLarge, log)
      else (next ()).interpret (answering replies) (log ++ [.waited (p.backoff.doubled k)]) := by
  rw [backOff, Number.scale?_eq]
  by_cases stuck : p.backoff.isReal ∧ 1024 ≤ k
  · rw [if_pos stuck, if_pos stuck]
    rfl
  · rw [if_neg stuck, if_neg stuck]
    rfl

/-- A sending that is the last one comes to what is received. -/
theorem interpret_sendWithin_last
    (last : left = 0 ∨ (replies (log.countP Transit.isSent)).asksAgain p.statuses = false) :
    (sendWithin p o (left + 1) k).interpret (answering replies) log =
      (Deployment.received (replies (log.countP Transit.isSent)), log ++ [.sent o]) := by
  rw [sendWithin]
  apply (Program.interpret_ask_bind (I := wires) (Wire.send o) _ log).trans
  simp only [answering]
  cases reply : replies (log.countP Transit.isSent) with
  | response r =>
    have content : ¬(left ≠ 0 ∧ p.statuses.contains r.status) := by
      rw [reply] at last
      simpa [Arrival.asksAgain, or_iff_not_imp_left] using last
    dsimp only
    rw [if_neg content, Deployment.received]
    cases r.payload <;> rfl
  | interrupted i =>
    have none_left : left = 0 := by simpa [reply, Arrival.asksAgain] using last
    dsimp only
    rw [if_pos none_left]
    rfl
  | broken label message => rfl
  | silence => rfl

/-- After a reply that asks for patience, a pause is made and the request is sent again. -/
theorem interpret_sendWithin_again (more : left ≠ 0)
    (again : (replies (log.countP Transit.isSent)).asksAgain p.statuses = true) :
    (sendWithin p o (left + 1) k).interpret (answering replies) log =
      if p.backoff.isReal ∧ 1024 ≤ k then (.error .factorTooLarge, log ++ [.sent o])
      else (sendWithin p o left (k + 1)).interpret (answering replies)
        (log ++ [.sent o, .waited (p.backoff.doubled k)]) := by
  have paused : (backOff p k >>= fun _ => sendWithin p o left (k + 1)).interpret
      (answering replies) (log ++ [.sent o]) = _ := interpret_backOff_bind _
  rw [List.append_assoc] at paused
  rw [sendWithin]
  apply (Program.interpret_ask_bind (I := wires) (Wire.send o) _ log).trans
  simp only [answering]
  cases reply : replies (log.countP Transit.isSent) with
  | response r =>
    have status : p.statuses.contains r.status := by simpa [reply, Arrival.asksAgain] using again
    dsimp only
    rw [if_pos ⟨more, status⟩]
    exact paused
  | interrupted i =>
    dsimp only
    rw [if_neg more]
    exact paused
  | broken label message => simp [reply, Arrival.asksAgain] at again
  | silence => simp [reply, Arrival.asksAgain] at again

/-! ## All sendings -/

/-- As long as the replies ask for patience, and the pauses can be told, one sends again. -/
theorem interpret_sendWithin_trail (hk : k ≤ r)
    (again : ∀ i < k, (replies i).asksAgain p.statuses = true)
    (told : p.backoff.isReal → k ≤ 1024) :
    (sendWithin p o (r + 1) 0).interpret (answering replies) [] =
      (sendWithin p o (r - k + 1) k).interpret (answering replies) (trail p.backoff o k) := by
  induction k with
  | zero => rfl
  | succ k ih =>
    have before := ih (by omega) (fun i hi => again i (by omega)) fun real => by
      have := told real
      omega
    have more : r - k ≠ 0 := by omega
    have held : ¬(p.backoff.isReal ∧ 1024 ≤ k) := by
      rintro ⟨real, large⟩
      have := told real
      omega
    have left : r - k = r - (k + 1) + 1 := by omega
    rw [before, interpret_sendWithin_again more (by simpa using again k (by omega)), if_neg held,
      ← trail_succ, left]

/-- What a request comes to that is sent with `r` retries, when reply `k` is the first that is
taken. -/
theorem interpret_sendWithin_eq (hk : k ≤ r)
    (again : ∀ i < k, (replies i).asksAgain p.statuses = true)
    (last : k = r ∨ (replies k).asksAgain p.statuses = false) :
    (sendWithin p o (r + 1) 0).interpret (answering replies) [] =
      if p.backoff.isReal ∧ 1024 < k then
        (.error .factorTooLarge, trail p.backoff o 1024 ++ [.sent o])
      else (Deployment.received (replies k), trail p.backoff o k ++ [.sent o]) := by
  by_cases stuck : p.backoff.isReal ∧ 1024 < k
  · obtain ⟨real, large⟩ := stuck
    have up_to : (1024 : Nat) ≤ r := by omega
    rw [if_pos ⟨real, large⟩, interpret_sendWithin_trail up_to
      (fun i hi => again i (by omega)) fun _ => Nat.le_refl 1024]
    rw [interpret_sendWithin_again (by omega) (by simpa using again 1024 large),
      if_pos ⟨real, Nat.le_refl 1024⟩]
  · have told : p.backoff.isReal → k ≤ 1024 := by
      intro real
      by_contra large
      exact stuck ⟨real, by omega⟩
    rw [if_neg stuck, interpret_sendWithin_trail hk again told, interpret_sendWithin_last]
    · simp
    · rcases last with rfl | last
      · simp
      · simpa using .inr last

end Transport

end QuorumGate
