import QuorumGate.Proofs.Concurrency.Dependable

/-!
# Quiet surroundings

Nothing fails, artifacts are accepted, and the window of a proposal stays open. A program is a
finite tree, and quiet surroundings have an answer to whatever it asks: so calls cannot be served
forever, and a call that has not ended can be served once more.
-/

namespace QuorumGate

variable {rules : ExecutionRules} {v w : World} {p : Proposal} {past : Chronicle} {i : Nat}
  {call : Call}

namespace World

/-- What has been written down since an earlier world. -/
def since (v w : World) : Chronicle := v.chronicle.take (v.chronicle.length - w.chronicle.length)

theorem since_eq (news : Chronicle) (h : v.chronicle = news ++ w.chronicle) : v.since w = news := by
  rw [since, h, List.length_append, Nat.add_sub_cancel, List.take_left]

theorem since_append (h : w.chronicle <:+ v.chronicle) :
    v.since w ++ w.chronicle = v.chronicle := by
  obtain ⟨news, hn⟩ := h
  rw [since_eq news hn.symm, hn]

end World

/-- Whether nothing fails, and artifacts are accepted. -/
def Choice.isQuiet : Choice → Bool
  | refused _ | lost _ | verdict (.error _) => false
  | verdict (.ok accepted) => accepted
  | _ => true

theorem Choice.isFaithful_of_isQuiet {choice : Choice} (h : choice.isQuiet = true) :
    choice.isFaithful = true := by
  cases choice with
  | refused e => cases h
  | lost e => cases h
  | _ => rfl

/-- What calls come to see while artifacts are accepted and the window of a proposal is open. -/
def Event.Quiet (p : Proposal) : Event → Prop
  | saw t => p.isExpired t = .ok false
  | verified _ _ _ verdict => verdict = .ok true
  | _ => True

/-- The moves of quiet surroundings, within the window of a proposal. -/
def Quiet (p : Proposal) (w : World) : Move → Prop
  | .start _ => True
  | .tick t => p.isExpired t = .ok false
  | .serve i choice => ∀ r, w.request? i = some r → choice.isQuiet = true

namespace Conditions

/-- An empty store without faults, and a verifier that accepts. -/
def quiet : Conditions := (any []).among fun _ choice => choice.isQuiet = true

theorem quiet_faithful : quiet.Faithful := fun _ _ => Choice.isFaithful_of_isQuiet

theorem quiet_dependable : quiet.Dependable := quiet_faithful.dependable rfl

theorem quiet_permits (w : World) (m : Move) (h : Quiet p w m) : quiet.permits w m := by
  cases m with
  | start call => trivial
  | tick t => trivial
  | serve i choice => exact h

end Conditions

theorem Store.changes_quiet {s : Store} {op : StoreOp} : ∀ e ∈ s.changes op, e.Quiet p := by
  intro e he
  rcases mem_changes he with ⟨P, rfl⟩ | ⟨b, q, rfl⟩
  · trivial
  · trivial

theorem reported_quiet {α : Type} {op : StoreOp} {x : Except Failure α} :
    ∀ e ∈ reported op x, e.Quiet p := by
  intro e he
  cases x with
  | ok a => cases he
  | error f =>
    obtain rfl := List.mem_singleton.1 he
    trivial

/-- What quiet surroundings answer is quiet. -/
theorem answer_quiet {s : Store} {clock : Instant} {r : Effect} {choice : Choice} {a : Answer r}
    (h : answer s clock past r choice = some a) (hq : choice.isQuiet = true)
    (hclock : p.isExpired clock = .ok false) : ∀ e ∈ a.events, e.Quiet p := by
  cases comesTo h with
  | performed => exact List.forall_mem_append.2 ⟨reported_quiet, Store.changes_quiet⟩
  | refused | lost => cases hq
  | @verified _ _ _ verdict =>
    cases verdict with
    | error f => cases hq
    | ok accepted =>
      obtain rfl : accepted = true := hq
      exact List.forall_mem_singleton.2 rfl
  | now => exact List.forall_mem_singleton.2 hclock
  | fresh | landed => exact List.forall_mem_singleton.2 trivial
  | note | correlate | pause => exact List.forall_mem_nil _

/-- What is kept about the clock, and what is so of all events since a world, by the moves that are
permitted. -/
theorem Follows.events {permits : World → Move → Prop} {Q : Event → Prop}
    (h : Follows rules permits w v) (keeps : Instant → Prop) (hw : keeps w.clock)
    (ticked : ∀ u t, permits u (.tick t) → keeps t) (began : ∀ call, Q (.began call))
    (served : ∀ u i choice r (a : Answer r), permits u (.serve i choice) →
      u.request? i = some r → keeps u.clock →
        answer u.store u.clock u.chronicle r choice = some a → ∀ e ∈ a.events, Q e) :
    keeps v.clock ∧ ∀ e ∈ v.since w, Q e.event := by
  induction h with
  | refl => exact ⟨hw, by simp [World.since]⟩
  | @move v u m before permitted moved ih =>
    obtain ⟨hclock, hnews⟩ := ih
    have hv := World.since_append before.chronicle_suffix
    cases World.moved moved with
    | @started call ready =>
      rw [World.since_eq (⟨_, .began call⟩ :: v.since w) (by rw [List.cons_append, hv])]
      exact ⟨hclock, List.forall_mem_cons.2 ⟨began call, hnews⟩⟩
    | ticked => exact ⟨ticked v _ permitted, hnews⟩
    | @served i choice call r next a task answered =>
      have hr : v.request? i = some r := by simp [World.request?, task]
      rw [World.since_eq (entries i a.events ++ v.since w) (by rw [List.append_assoc, hv])]
      refine ⟨hclock, List.forall_mem_append.2 ⟨?_, hnews⟩⟩
      rintro ⟨j, e⟩ he
      exact served v i choice r a permitted hr hclock answered e (mem_entries.1 he).2

/-- If only some calls have written to a record since a world, and one of these is served, then
still only these have. -/
theorem World.writers_served {u : World} {choice : Choice} {id : Text} (mine : Nat → Prop)
    (hs : w.chronicle <:+ v.chronicle) (hm : v.move rules (.serve i choice) = some u) (hi : mine i)
    (alone : ∀ e ∈ v.since w, ∀ b q, e.event = .wrote b q → q.id = id → mine e.task) :
    ∀ e ∈ u.since w, ∀ b q, e.event = .wrote b q → q.id = id → mine e.task := by
  cases moved hm with
  | @served _ _ call r next a task answered =>
    rw [since_eq (entries i a.events ++ v.since w) (by rw [List.append_assoc, since_append hs])]
    rintro ⟨j, event⟩ he
    rcases List.mem_append.1 he with he | he
    · obtain rfl := (mem_entries.1 he).1
      exact fun _ _ _ _ => hi
    · exact alone _ he

/-- While the surroundings are quiet, the window stays open and nobody sees anything else. -/
theorem Follows.quiet (h : Follows rules (Quiet p) w v) (hw : p.isExpired w.clock = .ok false) :
    p.isExpired v.clock = .ok false ∧ ∀ e ∈ v.since w, e.event.Quiet p :=
  h.events (fun t => p.isExpired t = .ok false) hw (fun _ _ permitted => permitted)
    (fun _ => trivial)
    fun _ _ _ r _ permitted hr hclock answered => answer_quiet answered (permitted r hr) hclock

/-! ## Serving calls to their end -/

/-- A call goes on with a reply. -/
inductive Task.Next : Task → Task → Prop where
  | reply {call : Call} {r : Effect} {next : r.Reply → Service call.Result} (a : r.Reply) :
      Task.Next ⟨call, next a⟩ ⟨call, .ask r next⟩

theorem Task.acc_next (t : Task) : Acc Task.Next t := by
  obtain ⟨call, rest⟩ := t
  induction rest with
  | done a => exact ⟨_, fun t h => nomatch h⟩
  | fail e => exact ⟨_, fun t h => nomatch h⟩
  | ask r next ih =>
    refine ⟨_, ?_⟩
    rintro _ ⟨a⟩
    exact ih a

/-- One of several calls goes on with a reply. -/
def OneNext (after before : List Task) : Prop :=
  ∃ (i : Nat) (t next : Task), before[i]? = some t ∧ Task.Next next t ∧ after = before.set i next

theorem OneNext.acc_cons {t : Task} {ts : List Task} (h : Acc Task.Next t)
    (hs : Acc OneNext ts) : Acc OneNext (t :: ts) := by
  induction h generalizing ts with
  | intro t _ iht =>
    induction hs with
    | intro ts hts ihs =>
      refine ⟨_, ?_⟩
      rintro _ ⟨i, s, next, hi, hn, rfl⟩
      cases i with
      | zero =>
        cases hi
        exact iht next hn ⟨ts, hts⟩
      | succ i => exact ihs _ ⟨i, s, next, hi, hn, rfl⟩

theorem OneNext.wellFounded : WellFounded OneNext := by
  refine ⟨fun ts => ?_⟩
  induction ts with
  | nil => exact ⟨_, fun _ ⟨_, _, _, hi, _⟩ => nomatch hi⟩
  | cons t ts ih => exact acc_cons t.acc_next ih

namespace World

/-- One request of one call has been served. -/
def Served (rules : ExecutionRules) (v w : World) : Prop :=
  ∃ i choice, w.move rules (.serve i choice) = some v

/-- Calls cannot be served forever. -/
theorem served_wellFounded (rules : ExecutionRules) : WellFounded (Served rules) := by
  refine Subrelation.wf ?_ (InvImage.wf World.tasks OneNext.wellFounded)
  rintro v w ⟨i, choice, h⟩
  cases moved h with
  | @served _ _ call r next a task answered => exact ⟨i, _, _, task, .reply a.reply, rfl⟩

end World

/-- There is always an identifier that nobody has drawn: a longer one than any that was. -/
theorem exists_fresh (past : Chronicle) (kind : IdKind) : ∃ id, isFresh past kind id = true := by
  have longer : ∃ n, ∀ id : Text, n ≤ id.glyphs.length → isFresh past kind id = true := by
    induction past with
    | nil => exact ⟨0, fun _ _ => rfl⟩
    | cons e past ih =>
      obtain ⟨n, hn⟩ := ih
      have drawn : ∃ n, ∀ id : Text, n ≤ id.glyphs.length → e.event.draws kind id = false := by
        cases he : e.event with
        | drew k x =>
          refine ⟨x.glyphs.length + 1, fun id hid => ?_⟩
          have hne : x ≠ id := by
            rintro rfl
            omega
          simp [Event.draws, hne]
        | _ => exact ⟨0, fun _ _ => rfl⟩
      obtain ⟨k, hk⟩ := drawn
      refine ⟨max n k, fun id hid => ?_⟩
      rw [isFresh, List.all_cons, hk id (by omega)]
      exact hn id (by omega)
  obtain ⟨n, hn⟩ := longer
  exact ⟨⟨List.replicate n (.char 'a')⟩, hn _ (by simp)⟩

/-- Quiet surroundings have an answer to every request. -/
theorem exists_quiet_answer (s : Store) (clock : Instant) (past : Chronicle) (r : Effect) :
    ∃ choice a, choice.isQuiet = true ∧ answer s clock past r choice = some a := by
  cases r with
  | fresh kind =>
    obtain ⟨id, hid⟩ := exists_fresh past kind
    exact ⟨.id id, _, rfl, if_pos hid⟩
  | verify signer payload signature => exact ⟨.verdict (.ok true), _, rfl, rfl⟩
  | deploy order limit => exact ⟨.landing .timedOut, _, rfl, rfl⟩
  | _ => exact ⟨.plain, _, rfl, rfl⟩

namespace World

def HasEnded (w : World) (i : Nat) : Prop := ∃ call result, w.Ended i call result

theorem task_of_calls (h : w.calls[i]? = some call) : ∃ rest, w.tasks[i]? = some ⟨call, rest⟩ := by
  rw [calls, List.getElem?_map] at h
  obtain ⟨t, ht, rfl⟩ := Option.map_eq_some_iff.1 h
  exact ⟨t.rest, ht⟩

theorem HasEnded.of_calls (h : w.HasEnded i) (hc : w.calls[i]? = some call) :
    ∃ result, w.Ended i call result := by
  obtain ⟨call', result, he⟩ := h
  obtain ⟨rest, ht⟩ := task_of_calls hc
  have same := he.symm.trans ht
  cases same
  exact ⟨result, he⟩

/-- Whether a call has ended. -/
def hasEnded (w : World) (i : Nat) : Bool := w.hasReturned i || (w.failure? i).isSome

theorem HasEnded.of_hasEnded (hc : w.calls[i]? = some call) (h : w.hasEnded i = true) :
    w.HasEnded i := by
  rcases (Bool.or_eq_true _ _).mp h with returned | raised
  · obtain ⟨a, ha⟩ := returned_of_hasReturned hc returned
    exact ⟨_, _, ha⟩
  · obtain ⟨e, he⟩ := Option.isSome_iff_exists.1 raised
    exact ⟨_, _, raised_of_failure? hc he⟩

/-- A call that has not ended can be served. -/
theorem exists_quiet_serve (rules : ExecutionRules) (hc : w.calls[i]? = some call)
    (he : ¬w.HasEnded i) :
    ∃ choice v, choice.isQuiet = true ∧ w.move rules (.serve i choice) = some v := by
  obtain ⟨rest, ht⟩ := task_of_calls hc
  cases rest with
  | done a => exact absurd ⟨call, .ok a, ht⟩ he
  | fail e => exact absurd ⟨call, .error e, ht⟩ he
  | ask r next =>
    obtain ⟨choice, a, hq, ha⟩ := exists_quiet_answer w.store w.clock w.chronicle r
    refine ⟨choice, { w with
      store := a.store
      tasks := w.tasks.set i ⟨call, next a.reply⟩
      chronicle := entries i a.events ++ w.chronicle }, hq, ?_⟩
    simp only [move, ht, ha, Option.map_some]

/-- Calls can be served to their end, with whatever is kept by serving them. -/
theorem exists_ended (rules : ExecutionRules) (among : Nat → Prop) (holds : World → Prop)
    (hc : ∀ i, among i → ∃ call, w.calls[i]? = some call) (hw : holds w)
    (serve : ∀ u v i choice, holds u → u.calls = w.calls → among i → choice.isQuiet = true →
      u.move rules (.serve i choice) = some v → holds v) :
    ∃ v, holds v ∧ v.calls = w.calls ∧ ∀ i, among i → v.HasEnded i := by
  induction w using (served_wellFounded rules).induction with
  | h w ih =>
    by_cases ended : ∀ i, among i → w.HasEnded i
    · exact ⟨w, hw, rfl, ended⟩
    · obtain ⟨i, hi, unended⟩ : ∃ i, among i ∧ ¬w.HasEnded i := by simpa using ended
      obtain ⟨call, called⟩ := hc i hi
      obtain ⟨choice, next, quiet, moved⟩ := exists_quiet_serve rules called unended
      have calls : next.calls = w.calls := by simpa [Move.call?] using calls_move moved
      obtain ⟨v, hv, same, all⟩ := ih next ⟨i, choice, moved⟩
        (fun j hj => calls ▸ hc j hj) (serve w next i choice hw rfl hi quiet moved)
        fun u v j choice' hu hcalls => serve u v j choice' hu (hcalls.trans calls)
      exact ⟨v, hv, same.trans calls, all⟩

/-- If the surroundings may be quiet, a call can be served to its end. -/
theorem exists_end {c : Conditions} (rules : ExecutionRules)
    (hq : ∀ r choice, choice.isQuiet = true → c.choice r choice)
    (hc : w.calls[i]? = some call) :
    ∃ v result, Follows rules c.permits w v ∧ v.Ended i call result := by
  obtain ⟨v, follows, calls, ended⟩ := exists_ended rules (· = i)
    (Follows rules c.permits w) (fun j hj => ⟨call, hj ▸ hc⟩) .refl
    fun u v j choice hu _ _ quiet moved =>
      hu.move (.serve j choice) (fun r _ => hq r choice quiet) moved
  obtain ⟨result, he⟩ := (ended i rfl).of_calls (calls.symm ▸ hc)
  exact ⟨v, result, follows, he⟩

end World

end QuorumGate
