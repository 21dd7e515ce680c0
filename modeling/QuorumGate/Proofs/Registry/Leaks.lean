import QuorumGate.Proofs.Registry.RoundTrip
import QuorumGate.Proofs.Registry.Supplies
import QuorumGate.Proofs.Sweeping.Rounds
import QuorumGate.Proofs.Transport.BackOff

/-!
# What escapes from the client of a registry

Whoever uses a store deals with outages, and with conflicts where something is to be written. The
client makes an outage of every status that reports a failure and of every record that cannot be
read. Other failures escape from it: what breaks a request off without being an interruption, a body
that cannot be read, and in listings items that cannot be gone through and proposals whose times
cannot be compared.
-/

namespace QuorumGate

/-- Whether a value cannot be gone through. -/
def Json.isSingle : Json → Bool
  | null | bool _ | number _ => true
  | text _ | list _ | object _ => false

/-- The policy that can be read from a value. -/
def Policy.read? (v : Json) : Option Policy := (ofJson v).result.toOption

namespace Proposal

end Proposal

namespace Registry

variable {α : Type} {g : Registry} {op : StoreOp} {correlation : Text} {status : Int}
  {ms : Json.Members} {e : Failure} {replies : Nat → Arrival} {ids : Nat → Text}

/-! ## Sending -/

/-- Replies to the requests in their order, and hands out identifiers from a supply. -/
def serving (replies : Nat → Arrival) (ids : Nat → Text) :
    (r : Wire) → StateM (List Transit × Nat) r.Reply
  | .send o => fun s => ((Transport.answering replies (.send o) s.1).1,
      (Transport.answering replies (.send o) s.1).2, s.2)
  | .pause seconds => fun s => ((), s.1 ++ [.waited seconds], s.2)
  | .note _ => pure ()
  | .fresh _ => fun s => (ids s.2, s.1, s.2 + 1)

/-- Whether a request is made without an identifier being drawn. -/
def Plain : Wire → Prop
  | .fresh _ => False
  | _ => True

theorem serving_plain (replies : Nat → Arrival) (ids : Nat → Text) (r : Wire) (plain : Plain r)
    (log : List Transit) (n : Nat) :
    serving replies ids r (log, n) =
      ((Transport.answering replies r log).1, (Transport.answering replies r log).2, n) := by
  cases r with
  | fresh kind => exact plain.elim
  | _ => rfl

theorem backOff_only (p : Patience) (k : Nat) : (Transport.backOff p k).Only Plain := by
  unfold Transport.backOff
  cases p.backoff.scale? k with
  | none => trivial
  | some seconds => exact ⟨trivial, fun _ => trivial⟩

theorem sendWithin_only (p : Patience) (o : Outgoing) (left k : Nat) :
    (Transport.sendWithin p o left k).Only Plain := by
  induction left generalizing k with
  | zero => trivial
  | succ left ih =>
    have later : (Transport.backOff p k >>= fun _ => Transport.sendWithin p o left (k + 1)).Only
        Plain := (backOff_only p k).bind fun _ => ih (k + 1)
    rw [Transport.sendWithin]
    refine Program.Only.bind ⟨trivial, fun _ => trivial⟩ fun arrival => ?_
    cases arrival with
    | response r =>
      dsimp only
      split
      · exact ⟨trivial, fun _ => later⟩
      · cases r.payload <;> trivial
    | interrupted i =>
      dsimp only
      split
      · exact ⟨trivial, fun _ => trivial⟩
      · exact ⟨trivial, fun _ => later⟩
    | broken label message => trivial
    | silence => trivial

/-- What comes of a request to a registry, in terms of the reply that is taken for the answer. -/
theorem interpret_send (g : Registry) (c : Registry.Call) (correlation : Text)
    (replies : Nat → Arrival) (ids : Nat → Text) :
    (g.patience.retries < 0 → ∃ ms,
      (g.send c correlation).interpret (serving replies ids) ([], 0) = (.ok (503, ms), [], 0)) ∧
      ∀ r : Nat, g.patience.retries = r →
        ∃ k, IsLeast {i | i = r ∨ (replies i).asksAgain g.patience.statuses = false} k ∧ ∃ log,
          (g.send c correlation).interpret (serving replies ids) ([], 0) =
            (if g.patience.backoff.isReal ∧ 1024 < k then .error .factorTooLarge
              else Deployment.received (replies k), log, 0) := by
  have beside := (sendWithin_only g.patience
    { g.outgoing c correlation with method := (g.outgoing c correlation).method.upper }
    (g.patience.retries + 1).toNat 0).interpret_beside
      (serving_plain replies ids) [] 0
  rw [send, Transport.send, beside]
  constructor
  · intro negative
    have nothing_left : (g.patience.retries + 1).toNat = 0 := by omega
    rw [nothing_left]
    exact ⟨_, rfl⟩
  · intro r hr
    have some_taken : ∃ k, k = r ∨ (replies k).asksAgain g.patience.statuses = false :=
      ⟨r, .inl rfl⟩
    have first := Nat.isLeast_find some_taken
    have again : ∀ i < Nat.find some_taken,
        (replies i).asksAgain g.patience.statuses = true := by
      intro i hi
      by_contra taken
      have := first.2 (.inr (by simpa using taken))
      omega
    have left : (g.patience.retries + 1).toNat = r + 1 := by omega
    refine ⟨_, first, ?_⟩
    rw [left, Transport.interpret_sendWithin_eq (first.2 (.inl rfl)) again first.1]
    split
    · exact ⟨_, rfl⟩
    · exact ⟨_, rfl⟩

/-! ## Reading -/

/-- What reading a value comes to: a record with a mark that can be told from the value, or an
outage if none can. -/
inductive Reads {β : Type} (mark : α → β) : Option β → Except Failure α → Prop where
  | well (a : α) : Reads mark (some (mark a)) (.ok a)
  | badly {e : Failure} (outage : e.isOutage = true) : Reads mark none (.error e)

variable {β : Type} {mark : α → β}

theorem Reads.isOutage {o : Option β} {x : Except Failure α} (h : Reads mark o x)
    (failed : x = .error e) : e.isOutage = true := by
  cases h with
  | well a => cases failed
  | badly outage =>
    cases failed
    exact outage

theorem interpret_freshSignatures (replies : Nat → Arrival) (ids : Nat → Text) (n : Nat)
    (s : List Transit × Nat) :
    ∃ given t,
      (Transport.freshSignatures n).interpret (serving replies ids) s = (.ok given, t) := by
  induction n generalizing s with
  | zero => exact ⟨_, _, rfl⟩
  | succ n ih =>
    obtain ⟨given, t, later⟩ := ih (s.1, s.2 + 1)
    refine ⟨ids s.2 :: given, t, ?_⟩
    rw [Transport.freshSignatures]
    show Program.interpret (serving replies ids)
      (Transport.freshSignatures n >>= fun later => pure (ids s.2 :: later)) (s.1, s.2 + 1) = _
    rw [Program.interpret_bind, later]
    rfl

theorem record_reads {R : α → α → Prop} {read : Json → Reading α} (model : String) (v : Json)
    (settled : (read v).Settled R) (told : ∀ a b, R a b → mark a = mark b)
    (s : List Transit × Nat) :
    Reads mark ((read v).result.toOption.map mark)
      ((record model read v).interpret (serving replies ids) s).1 := by
  obtain ⟨given, t, drawn⟩ := interpret_freshSignatures replies ids (read v).draws s
  rw [record, Program.interpret_bind, drawn]
  dsimp only
  rcases settled.resultWith given with ⟨a, b, without, found, related⟩ | ⟨is, js, without, refused⟩
  · rw [without, found]
    show Reads mark (some (mark a)) (.ok b)
    rw [told a b related]
    exact .well b
  · rw [without, refused]
    exact .badly rfl

theorem policyRecord_reads (v : Json) (s : List Transit × Nat) :
    Reads id (Policy.read? v) ((policyRecord v).interpret (serving replies ids) s).1 := by
  have marked : (Policy.ofJson v).result.toOption.map id = Policy.read? v := Option.map_id'
  rw [← marked]
  exact record_reads _ v (Policy.ofJson_settled v) (fun _ _ same => same) s

theorem records_reads {read : Json → Transport α} {mark? : Json → Option β}
    (each : ∀ v s, Reads mark (mark? v) ((read v).interpret (serving replies ids) s).1)
    (vs : List Json) (s : List Transit × Nat) :
    Reads (List.map mark) (vs.mapM mark?)
      ((records read vs).interpret (serving replies ids) s).1 := by
  induction vs generalizing s with
  | nil => exact .well []
  | cons v vs ih =>
    have first := each v s
    rw [records, Program.interpret_bind, List.mapM_cons]
    generalize (read v).interpret (serving replies ids) s = y at first ⊢
    generalize mark? v = o at first ⊢
    obtain ⟨x, t⟩ := y
    cases first with
    | badly outage => exact .badly outage
    | well a =>
      have others := ih t
      dsimp only
      rw [Program.interpret_bind]
      generalize (records read vs).interpret (serving replies ids) t = y at others ⊢
      generalize vs.mapM mark? = os at others ⊢
      obtain ⟨x, u⟩ := y
      cases others with
      | badly outage => exact .badly outage
      | well as => exact .well (a :: as)

/-! ## Answers -/

/-- No failure but those that are expected. -/
def Contained (expected : Failure → Bool) (x : Except Failure α) : Prop :=
  ∀ e, x = .error e → expected e = true

theorem Contained.mono {expected expected' : Failure → Bool} {x : Except Failure α}
    (h : Contained expected x) (more : ∀ e, expected e = true → expected' e = true) :
    Contained expected' x := fun e failed => more e (h e failed)

theorem interpret_checkStatus_bind (replies : Nat → Arrival) (ids : Nat → Text) (status : Int)
    (ms : Json.Members) (k : Unit → Transport β) (s : List Transit × Nat) :
    ∃ detail, (checkStatus status ms >>= k).interpret (serving replies ids) s =
      if status < 400 then (k ()).interpret (serving replies ids) s
      else (.error (.unavailable detail status []), s) := by
  by_cases success : status < 400
  · refine ⟨"", ?_⟩
    rw [if_pos success, checkStatus_ok success]
    rfl
  · have refused : 400 ≤ status := by omega
    refine ⟨s!"registry responded {status}: " ++ (detail ms).display, ?_⟩
    rw [if_neg success, checkStatus, if_pos refused]
    rfl

section Single

variable {expected : Failure → Bool}

end Single

/-- What the items of a listing are: nothing that can be gone through, a list of them, or texts. -/
inductive Items (ms : Json.Members) : Transport (List Json) → Prop where
  | single {v : Json} (items : Json.lookup "items" ms = some v) (single : v.isSingle = true) :
      Items ms (.fail (.notIterable (typeName v)))
  | list {vs : List Json} (items : Json.lookup "items" ms = some (.list vs)) : Items ms (.done vs)
  | texts (ts : List Text)
      (other : ∀ v, Json.lookup "items" ms = some v → v.isSingle = false ∧ ∀ vs, v ≠ .list vs) :
      Items ms (.done (ts.map .text))

theorem items_listed (ms : Json.Members) : Items ms (listed ms) := by
  unfold listed
  cases h : Json.lookup "items" ms with
  | none => exact .texts [] (by simp [h])
  | some v =>
    cases v with
    | list vs => exact .list h
    | object ns =>
      have keys : (ns.map fun m => Json.text m.1) = (ns.map Prod.fst).map .text := by simp
      simp only [keys]
      exact .texts _ (by simp [h, Json.isSingle])
    | text t =>
      have letters : (t.glyphs.map fun g => Json.text ⟨[g]⟩) =
          (t.glyphs.map fun g => ⟨[g]⟩).map .text := by simp
      simp only [letters]
      exact .texts _ (by simp [h, Json.isSingle])
    | _ => exact .single h rfl

/-- What a listing comes to that is answered. -/
inductive Listing (mark : α → β) (mark? : Json → Option β) (status : Int) (ms : Json.Members) :
    Except Failure (List α) → Prop where
  | refused {e : Failure} (refused : ¬status < 400) (outage : e.isOutage = true) :
      Listing mark mark? status ms (.error e)
  | single {v : Json} (success : status < 400) (items : Json.lookup "items" ms = some v)
      (single : v.isSingle = true) :
      Listing mark mark? status ms (.error (.notIterable (typeName v)))
  | list {vs : List Json} {x : Except Failure (List α)} (success : status < 400)
      (items : Json.lookup "items" ms = some (.list vs))
      (reads : Reads (List.map mark) (vs.mapM mark?) x) : Listing mark mark? status ms x
  | texts {ts : List Text} {x : Except Failure (List α)} (success : status < 400)
      (other : ∀ v, Json.lookup "items" ms = some v → v.isSingle = false ∧ ∀ vs, v ≠ .list vs)
      (reads : Reads (List.map mark) ((ts.map Json.text).mapM mark?) x) :
      Listing mark mark? status ms x

theorem list_after {read : Json → Transport α} {mark? : Json → Option β} (path : Text)
    (params : Params)
    (each : ∀ v s, Reads mark (mark? v) ((read v).interpret (serving replies ids) s).1) :
    ∃ c k, g.list path params read correlation = (g.send c correlation >>= k) ∧
      ∀ status ms s, Listing mark mark? status ms
        ((k (status, ms)).interpret (serving replies ids) s).1 := by
  refine ⟨_, _, rfl, fun status ms s => ?_⟩
  obtain ⟨detail, checked⟩ := interpret_checkStatus_bind replies ids status ms
    (fun _ => listed ms >>= records read) s
  dsimp only
  rw [checked]
  split
  · rename_i success
    have items := items_listed ms
    generalize listed ms = found at items ⊢
    cases items with
    | single items single => exact .single success items single
    | list items => exact .list success items (records_reads each _ s)
    | texts ts other => exact .texts success other (records_reads each _ s)
  · rename_i refused
    exact .refused refused rfl

end Registry

namespace SignedOnce

/-- A registry that is interrupted first, and then says the same thing whenever it is asked. -/
def answering (v : Json) : Nat → Arrival
  | 0 => .interrupted .readTimeout
  | _ => .response (echo v)

end SignedOnce

end QuorumGate
