import QuorumGate.Proofs.Concurrency.Operations

/-!
# From one world to another

What comes after a world, under moves that are permitted: the chronicle only grows, and a call
stays the call that it is. How a call has ended is told by what it keeps to from its start on. A
script of moves leads to a world whenever each of its moves is permitted where it is made.
-/

namespace QuorumGate

/-- The worlds that permitted moves lead to from a given one. -/
inductive Follows (rules : ExecutionRules) (permits : World → Move → Prop) (w : World) :
    World → Prop where
  | refl : Follows rules permits w w
  | move {v u : World} (m : Move) (before : Follows rules permits w v) (permitted : permits v m)
      (moved : v.move rules m = some u) : Follows rules permits w u

namespace World

/-- A call has ended, with a result or a failure. -/
def Ended (w : World) (i : Nat) (call : Call) (result : Except Failure call.Result) : Prop :=
  w.tasks[i]? = some ⟨call, .ofExcept result⟩

abbrev Returned (w : World) (i : Nat) (call : Call) (a : call.Result) : Prop :=
  w.Ended i call (.ok a)

abbrev Raised (w : World) (i : Nat) (call : Call) (e : Failure) : Prop := w.Ended i call (.error e)

variable {rules : ExecutionRules} {w v : World} {m : Move} {i : Nat} {call : Call} {id : Text}

theorem Ended.request?_eq_none {result : Except Failure call.Result}
    (h : w.Ended i call result) : w.request? i = none := by
  rw [request?, h]
  cases result <;> rfl

/-- A call that has ended is not with the deployer. -/
theorem Ended.isDeploying_eq_false {result : Except Failure call.Result}
    (h : w.Ended i call result) : w.isDeploying id i = false := by
  rw [isDeploying, h.request?_eq_none]

theorem move_chronicle (h : w.move rules m = some v) : w.chronicle <:+ v.chronicle := by
  cases moved h with
  | started ready => exact List.suffix_cons _ _
  | ticked => exact List.suffix_rfl
  | served task answered => exact List.suffix_append _ _

theorem length_tasks_move (h : w.move rules m = some v) : w.tasks.length ≤ v.tasks.length := by
  cases moved h with
  | started ready => simp
  | ticked => exact Nat.le_refl _
  | served task answered => simp

/-- What is left of a call after a move: what was left before, its whole program if it begins, or
what follows its request. -/
inductive Remains (rules : ExecutionRules) (w : World) (m : Move) (v : World) (i : Nat)
    (call : Call) : Service call.Result → Prop where
  | before {rest : Service call.Result} (task : w.tasks[i]? = some ⟨call, rest⟩) :
      Remains rules w m v i call rest
  | begun : Remains rules w m v i call (call.program rules)
  | answered {r : Effect} {next : r.Reply → Service call.Result} {choice : Choice} {a : Answer r}
      (asking : w.tasks[i]? = some ⟨call, .ask r next⟩)
      (answer_eq : answer w.store w.clock w.chronicle r choice = some a)
      (move_eq : m = .serve i choice) (clock_eq : v.clock = w.clock) :
      Remains rules w m v i call (next a.reply)

theorem remains {rest : Service call.Result} (h : w.move rules m = some v)
    (task : v.tasks[i]? = some ⟨call, rest⟩) : w.Remains rules m v i call rest := by
  cases moved h with
  | started ready =>
    by_cases older : i < w.tasks.length
    · rw [List.getElem?_append_left older] at task
      exact .before task
    · rw [List.getElem?_append_right (Nat.le_of_not_lt older)] at task
      cases List.mem_singleton.1 (List.mem_of_getElem? task)
      exact .begun
  | ticked => exact .before task
  | @served j choice call r next a asking answer_eq =>
    by_cases own : j = i
    · subst own
      rw [List.getElem?_set_self (List.getElem?_eq_some_iff.1 asking).1] at task
      cases task
      exact .answered asking answer_eq rfl rfl
    · rw [List.getElem?_set_ne own] at task
      exact .before task

end World

variable {rules : ExecutionRules} {permits permits' : World → Move → Prop} {c : Conditions}
  {u v w : World} {i : Nat} {call : Call} {past : Chronicle}
  {ok : Nat → (call : Call) → call.Result → Chronicle → Prop}
  {bad : Nat → Call → Failure → Chronicle → Prop}

namespace Follows

theorem mono (h : Follows rules permits w v) (hp : ∀ u m, permits u m → permits' u m) :
    Follows rules permits' w v := by
  induction h with
  | refl => exact .refl
  | move m _ permitted moved ih => exact ih.move m (hp _ _ permitted) moved

theorem trans (h : Follows rules permits w v) (h' : Follows rules permits v u) :
    Follows rules permits w u := by
  induction h' with
  | refl => exact h
  | move m _ permitted moved ih => exact ih.move m permitted moved

theorem chronicle_suffix (h : Follows rules permits w v) : w.chronicle <:+ v.chronicle := by
  induction h with
  | refl => exact List.suffix_rfl
  | move m _ _ moved ih => exact ih.trans (World.move_chronicle moved)

theorem length_tasks (h : Follows rules permits w v) : w.tasks.length ≤ v.tasks.length := by
  induction h with
  | refl => exact Nat.le_refl _
  | move m _ _ moved ih => exact Nat.le_trans ih (World.length_tasks_move moved)

end Follows

theorem Reachable.follows (h : Reachable rules c w) (hf : Follows rules c.permits w v) :
    Reachable rules c v := by
  induction hf with
  | refl => exact h
  | move m _ permitted moved ih => exact ih.move m permitted moved

theorem Reachable.follows_opening (h : Reachable rules c w) :
    ∃ clock, Follows rules c.permits (.opening c.founding clock) w := by
  induction h with
  | opening clock => exact ⟨clock, .refl⟩
  | move m _ permitted moved ih =>
    obtain ⟨clock, follows⟩ := ih
    exact ⟨clock, follows.move m permitted moved⟩

/-- What holds of all that is written down of permitted requests holds of all that has happened. -/
theorem Reachable.events {Q : Event → Prop} (h : Reachable rules c w)
    (began : ∀ call, Q (.began call))
    (told : ∀ clock r choice e, c.choice r choice → e.Tells clock r choice → Q e) :
    ∀ e ∈ w.chronicle, Q e.event := by
  induction h with
  | opening clock => exact List.forall_mem_nil _
  | @move w v m before permitted moved ih =>
    cases World.moved moved with
    | started => exact List.forall_mem_cons.2 ⟨began _, ih⟩
    | ticked => exact ih
    | @served i choice call r next a asking answer_eq =>
      refine List.forall_mem_append.2 ⟨?_, ih⟩
      rintro ⟨j, e⟩ he
      exact told w.clock r choice e (permitted r (by rw [World.request?, asking]))
        (tells_of_answer answer_eq (mem_entries.1 he).2)

namespace Sound

/-- What is known of the end of each call, with a result or a failure, is known of one that has
ended. -/
theorem ended {E : Nat → (call : Call) → Except Failure call.Result → Chronicle → Prop}
    {result : Except Failure call.Result}
    (h : Sound c (fun i call a => E i call (.ok a)) (fun i call e => E i call (.error e)) w)
    (he : w.Ended i call result) : E i call result w.chronicle := by
  cases result with
  | ok a => exact (h.safe i _ he).2 _ (.refl h.lawful)
  | error e => exact (h.safe i _ he).2 _ (.refl h.lawful)

/-- What holds from a world on, if every operation that begins there or later keeps to it. -/
theorem follows (h : Sound c ok bad w)
    (hk : ∀ i, w.tasks.length ≤ i → ∀ call,
      KeepsLawFrom w.chronicle rules c i call (ok i call) (bad i call))
    (hf : Follows rules c.permits w v) : Sound c ok bad v := by
  induction hf with
  | refl => exact h
  | move m before permitted moved ih =>
    cases m with
    | start call =>
      exact ih.start ((hk _ before.length_tasks call).later before.chronicle_suffix) moved
    | tick t =>
      cases moved
      exact ih.tick permitted
    | serve i choice => exact ih.serve permitted moved

end Sound

/-- A call begins once. -/
theorem Lawful.began_unique {a b : Call} (h : Lawful c past) (ha : ⟨i, .began a⟩ ∈ past)
    (hb : ⟨i, .began b⟩ ∈ past) : a = b := by
  induction past with
  | nil => cases ha
  | cons e past ih =>
    rcases List.mem_cons.1 ha with rfl | ma
    · rcases List.mem_cons.1 hb with hb | mb
      · cases hb
        rfl
      · exact absurd mb (h.2.1 _)
    · rcases List.mem_cons.1 hb with rfl | mb
      · exact absurd ma (h.2.1 _)
      · exact ih h.1 ma mb

/-! ## Narrower conditions

What is safe among all choices of the surroundings is safe among fewer of them. -/

/-- The same conditions, except that only some choices are made. -/
def Conditions.among (c : Conditions) (choice : Effect → Choice → Prop) : Conditions :=
  { c with choice := choice }

variable {choice : Effect → Choice → Prop} {p old new : Proposal} {o : Order} {e : Event}

theorem Conditions.permits_of_among (hc : ∀ r ch, choice r ch → c.choice r ch) (w : World) (m : Move)
    (h : (c.among choice).permits w m) : c.permits w m := by
  cases m with
  | start call => trivial
  | tick t => exact h
  | serve i ch => exact fun r hr => hc r ch (h r hr)

theorem Creation.among (h : Creation c past i p) : Creation (c.among choice) past i p := by
  obtain ⟨call, policy_eq, sound, seen, window, drawn⟩ := h
  exact .created call policy_eq sound seen window drawn

theorem Change.among (h : Change c past i old new) : Change (c.among choice) past i old new := by
  cases h with
  | signed s call policy_eq still_open member unsigned signer_eq data_eq verified drawn
      stamped in_window =>
    exact .signed s call policy_eq still_open member unsigned signer_eq data_eq verified drawn
      stamped in_window
  | expired still_open seen overdue => exact .expired still_open seen overdue
  | claimed call policy_eq still_open quorum drawn seen in_window stamped =>
    exact .claimed call policy_eq still_open quorum drawn seen in_window stamped
  | recorded executed held once final drawn stamped =>
    exact .recorded executed held once final drawn stamped

theorem Due.among (h : Due c past i o) : Due (c.among choice) past i o := by
  obtain ⟨call, stored, executed, held, drawn, first⟩ := h
  exact .due call stored executed held drawn first

theorem Allowed.among (h : Allowed c past i e) : Allowed (c.among choice) past i e := by
  cases e with
  | wrote b p =>
    cases b with
    | none => exact ⟨h.1, h.2.among⟩
    | some old => exact ⟨h.1, h.2.among⟩
  | deployed o landing => exact Due.among h
  | _ => exact h

theorem Lawful.among (h : Lawful c past) : Lawful (c.among choice) past := by
  induction past with
  | nil => trivial
  | cons e past ih => exact ⟨ih h.1, h.2.among⟩

/-- The law does not depend on the choices. -/
theorem Lawful.among_iff : Lawful (c.among choice) past ↔ Lawful c past := by
  refine ⟨fun h => ?_, Lawful.among⟩
  have back : Lawful ((c.among choice).among c.choice) past := h.among
  exact back

theorem Within.among_iff {may : Event → Prop} {after : Chronicle} :
    Within (c.among choice) i may past after ↔ Within c i may past after :=
  and_congr Lawful.among_iff Iff.rfl

theorem Safe.among {α : Type} {may : Event → Prop} {good : α → Chronicle → Prop}
    {ill : Failure → Chronicle → Prop} {program : Service α}
    (hc : ∀ r ch, choice r ch → c.choice r ch) (h : Safe c i may good ill program past) :
    Safe (c.among choice) i may good ill program past := by
  induction program generalizing past with
  | done a => exact fun l hl => h l (Within.among_iff.1 hl)
  | fail f => exact fun l hl => h l (Within.among_iff.1 hl)
  | ask r next ih =>
    intro l hl clock hclock ch a hch ha
    obtain ⟨hmay, hlaw, hs⟩ := h l (Within.among_iff.1 hl) clock hclock ch a (hc r ch hch) ha
    exact ⟨hmay, Lawful.among_iff.2 hlaw, ih a.reply hs⟩

/-- Of the calls that a world has, nothing more is known than that they keep the law. What holds of
the calls that begin there or later, under narrower conditions, can be told apart. -/
theorem Sound.onwards (h : Sound c (fun _ _ _ _ => True) (fun _ _ => AnyFailure) w)
    (hc : ∀ r ch, choice r ch → c.choice r ch) :
    Sound (c.among choice) (fun i call a l => w.tasks.length ≤ i → ok i call a l)
      (fun i call f l => w.tasks.length ≤ i → bad i call f l) w where
  lawful := Lawful.among_iff.2 h.lawful
  store_eq := h.store_eq
  clock := h.clock
  owners := h.owners
  safe := by
    intro i t ht
    obtain ⟨began, safe⟩ := h.safe i t ht
    have old : ¬w.tasks.length ≤ i := Nat.not_le.2 (List.getElem?_eq_some_iff.1 ht).1
    exact ⟨began, (safe.among hc).mono (fun _ h => h) (fun _ _ _ _ hi => absurd hi old)
      fun _ _ _ _ hi => absurd hi old⟩

/-! ## Scripts -/

/-- Whether a move is permitted, where what is permitted can be computed. -/
def World.allows (choice : Effect → Choice → Bool) (later : Instant → Instant → Bool) (w : World) :
    Move → Bool
  | .start _ => true
  | .tick t => later w.clock t
  | .serve i ch =>
    match w.request? i with
    | some r => choice r ch
    | none => true

/-- Makes the moves of a script, each of them if it is allowed. -/
def World.play (rules : ExecutionRules) (allowed : World → Move → Bool) :
    World → List Move → Option World
  | w, [] => some w
  | w, m :: rest =>
    if allowed w m then (w.move rules m).bind fun v => v.play rules allowed rest else none

theorem Follows.of_play {allowed : World → Move → Bool} {moves : List Move}
    (hp : ∀ u m, allowed u m = true → permits u m) (hf : Follows rules permits u w)
    (hv : w.play rules allowed moves = some v) : Follows rules permits u v := by
  induction moves generalizing w with
  | nil =>
    cases hv
    exact hf
  | cons m rest ih =>
    rw [World.play] at hv
    split at hv
    case isFalse => cases hv
    case isTrue hm =>
      obtain ⟨x, hx, hv⟩ := Option.bind_eq_some_iff.1 hv
      exact ih (hf.move m (hp _ _ hm) hx) hv

/-- The call that a move starts. -/
def Move.call? : Move → Option Call
  | .start c => some c
  | _ => none

namespace World

/-- The calls that have been started, in their order. -/
def calls (w : World) : List Call := w.tasks.map (·.call)

theorem calls_move {m : Move} (h : w.move rules m = some v) :
    v.calls = w.calls ++ m.call?.toList := by
  cases moved h with
  | started ready => simp [calls, Move.call?]
  | ticked => simp [calls, Move.call?]
  | @served i choice call r next a task answered =>
    refine List.ext_getElem? fun j => ?_
    simp only [calls, Move.call?, List.map_set, Option.toList_none, List.append_nil]
    by_cases hij : i = j
    · subst hij
      have hi : i < (w.tasks.map (·.call)).length := by
        simpa using (List.getElem?_eq_some_iff.1 task).1
      rw [List.getElem?_set_self hi, List.getElem?_map, task]
      rfl
    · rw [List.getElem?_set_ne hij]

theorem calls_play {allowed : World → Move → Bool} {moves : List Move}
    (hv : w.play rules allowed moves = some v) :
    v.calls = w.calls ++ moves.filterMap Move.call? := by
  induction moves generalizing w with
  | nil =>
    cases hv
    simp
  | cons m rest ih =>
    rw [World.play] at hv
    split at hv
    case isFalse => cases hv
    case isTrue =>
      obtain ⟨x, hx, hv⟩ := Option.bind_eq_some_iff.1 hv
      rw [ih hv, calls_move hx, List.append_assoc, List.filterMap_cons]
      cases m.call? <;> rfl

/-- What a call has failed with. -/
def failure? (w : World) (i : Nat) : Option Failure :=
  match w.tasks[i]? with
  | some ⟨_, .fail e⟩ => some e
  | _ => none

def hasReturned (w : World) (i : Nat) : Bool :=
  match w.tasks[i]? with
  | some ⟨_, .done _⟩ => true
  | _ => false

theorem raised_of_failure? {e : Failure} (hc : w.calls[i]? = some call)
    (he : w.failure? i = some e) : w.Raised i call e := by
  unfold failure? at he
  split at he
  · rename_i call' e' ht
    simp only [calls, List.getElem?_map, ht, Option.map_some, Option.some.injEq] at hc
    subst hc
    rw [Raised, Ended, ht, Option.some.inj he]
    rfl
  · cases he

theorem returned_of_hasReturned (hc : w.calls[i]? = some call) (h : w.hasReturned i = true) :
    ∃ a, w.Returned i call a := by
  unfold hasReturned at h
  split at h
  · rename_i call' a ht
    simp only [calls, List.getElem?_map, ht, Option.map_some, Option.some.injEq] at hc
    subst hc
    exact ⟨a, ht⟩
  · cases h

end World

theorem Conditions.permits_of_allows {choice : Effect → Choice → Bool}
    {later : Instant → Instant → Bool} (hc : ∀ r ch, choice r ch = true → c.choice r ch)
    (hl : ∀ s t, later s t = true → c.later s t) (u : World) (m : Move)
    (h : u.allows choice later m = true) : c.permits u m := by
  cases m with
  | start call => trivial
  | tick t => exact hl _ _ h
  | serve i ch =>
    intro r hr
    rw [World.allows, hr] at h
    exact hc r ch h

end QuorumGate
