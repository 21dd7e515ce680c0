import QuorumGate.Proofs.Concurrency.Accounting
import QuorumGate.Proofs.Concurrency.Requests
import QuorumGate.Proofs.Deploying.Landings

/-!
# What a recorded outcome says of the wire

The deployer of a gate is a client over a carrier. The outcome on a record is then what the one
request means that has gone out for it: its call asks once, looks at the clock, and records nothing
else afterwards, whatever the store does to its writes.
-/

namespace QuorumGate

variable {rules : ExecutionRules} {c : Conditions} {w : World} {past news l : Chronicle} {i n : Nat}
  {id correlation : Text} {requested : Option Number} {limit : Number} {p q : Proposal}
  {x : Execution} {o : Order} {landing : Landing} {d : Deployment} {carrier : Outgoing → Arrival}

/-- Whoever goes to the deployer is told how the client's request lands. -/
def Conditions.Deploys (c : Conditions) (d : Deployment) (carrier : Outgoing → Arrival) : Prop :=
  ∀ o limit landing, c.choice (.deploy o limit) (.landing landing) → landing = d.landing carrier o

/-! ## Who deploys -/

namespace Effect

def Deploys : Effect → Prop
  | deploy .. => True
  | _ => False

theorem Incidental.not_deploys {r : Effect} (h : r.Incidental) : ¬r.Deploys := by
  cases r with
  | deploy => exact h.elim
  | _ => exact id

end Effect

namespace Executions

/-- Who records an outcome does not deploy. -/
theorem recordWithin_undeploying :
    Asks (fun r => ¬r.Deploys) (fun _ => True) (recordWithin id x correlation n p) := by
  induction n generalizing p with
  | zero => exact Asks.reject
  | succ n ih =>
    rw [recordWithin]
    refine Asks.write_bind (fun h => h) fun r => ?_
    cases r with
    | some stored => exact Asks.note_bind (fun h => h) trivial
    | none =>
      exact (Ledger.load_asks.mono (fun _ => Effect.Incidental.not_deploys) fun _ h => h).bind
        fun q _ => ih

end Executions

/-! ## How far a call has come -/

/-- What a call to execute has been told by the deployer: that it has no time to ask, or what has
come of the one order that it has given. -/
def Told (i : Nat) (id : Text) (limit : Number) (landing : Landing) (past : Chronicle) : Prop :=
  (limit.atMostZero = true ∧ landing = .timedOut ∧ deployments past i = []) ∨
    ∃ o, o.key = id ∧ deployments past i = [(o, landing)]

theorem Told.append (h : Told i id limit landing past)
    (hn : ∀ event, ⟨i, event⟩ ∈ news → event.deployment? = none) :
    Told i id limit landing (news ++ past) := by
  unfold Told
  rwa [deployments_append hn]

theorem Executions.Delivered.told {base : Chronicle} (h : Delivered c i o limit base landing past)
    (idle : deployments base i = []) : Told i o.key limit landing past := by
  cases h with
  | unasked no_time ahead =>
    exact .inl ⟨no_time, rfl, by rw [ahead.deployments_eq fun _ => False.elim, idle]⟩
  | asked in_time ahead after =>
    refine .inr ⟨o, rfl, ?_⟩
    rw [after.deployments_eq fun _ => False.elim, deployments_deployed,
      ahead.deployments_eq fun _ => False.elim, idle]

/-- How far a call to execute has come, with its chronicle cut where it last looked at the clock: it
leaves no finished execution before that, and only the one it was told of afterwards. -/
inductive Progress (i : Nat) (id : Text) (limit : Number) : Chronicle → Prop where
  | unfinished {e : Text} {past : Chronicle}
      (own : ∀ event, ⟨i, event⟩ ∈ past → event.Bears [.started e]) : Progress i id limit past
  | finished {e : Text} {landing : Landing} {now : Instant} {newer older : Chronicle}
      (claiming : ∀ event, ⟨i, event⟩ ∈ older → event.Bears [.started e])
      (told : Told i id limit landing older)
      (recording : ∀ event, ⟨i, event⟩ ∈ newer → event.deployment? = none ∧
        event.Bears [.started e, Executions.finished e limit landing now]) :
      Progress i id limit (newer ++ ⟨i, .saw now⟩ :: older)

namespace Progress

/-- What is known of a call later on was known of it before. -/
theorem of_suffix (h : Progress i id limit l) (hs : past <:+ l) : Progress i id limit past := by
  cases h with
  | unfinished own => exact .unfinished fun event he => own event (hs.subset he)
  | @finished e landing now newer older claiming told recording =>
    rcases List.suffix_or_suffix_of_suffix hs (List.suffix_append newer _) with early | late
    · refine .unfinished (e := e) fun event he => ?_
      rcases List.mem_cons.1 (early.subset he) with he | he
      · cases he
        trivial
      · exact claiming event he
    · obtain ⟨newer', rfl⟩ := late
      obtain ⟨newest, rest⟩ := hs
      rw [← List.append_assoc] at rest
      obtain rfl := List.append_cancel_right rest
      exact .finished claiming told fun event he => recording event (List.mem_append_right _ he)

/-- A finished execution that a call has left on a record is the one that it was told of. -/
theorem told_of_wrote (h : Progress i id limit past) {b : Option Proposal}
    (wrote : ⟨i, .wrote b q⟩ ∈ past) (hx : q.execution = some x) (final : x.outcome ≠ .inFlight) :
    ∃ landing, x.outcome = landing.outcome ∧ Told i id limit landing past := by
  have unfinished : ∀ {e}, x ∉ [Execution.started e] := by
    intro e mem
    cases List.mem_singleton.1 mem
    exact final rfl
  cases h with
  | unfinished own => exact absurd (own _ wrote x hx) unfinished
  | @finished e landing now newer older claiming told recording =>
    rcases List.mem_append.1 wrote with late | early
    · rcases List.mem_cons.1 ((recording _ late).2 x hx) with rfl | mem
      · exact absurd rfl final
      · obtain rfl := List.mem_singleton.1 mem
        have seen : Told i id limit landing ([⟨i, .saw now⟩] ++ older) := by
          refine told.append fun event he => ?_
          cases List.mem_singleton.1 he
          rfl
        exact ⟨landing, by simp, seen.append fun event he => (recording event he).1⟩
    · rcases List.mem_cons.1 early with early | early
      · cases early
      · exact absurd (claiming _ early x hx) unfinished

end Progress

namespace Executions

/-- A call to execute among rivals, over any store. -/
theorem execute_progress (call : ⟨i, .began (.execute id requested correlation)⟩ ∈ past)
    (unused : ∀ event, ⟨i, event⟩ ∈ past → event = .began (.execute id requested correlation)) :
    Safe c i (fun _ => True) (fun _ => Progress i id (rules.limit requested))
      (fun _ => Progress i id (rules.limit requested)) (execute rules id requested correlation)
      past := by
  have claims : ∀ event, ⟨i, event⟩ ∈ past → event.Claims [] := by
    intro event he
    rw [unused event he]
    trivial
  unfold execute
  refine Safe.draw_bind (fun _ => trivial) ?_
  intro e l₁ hl₁ hlaw₁
  have w₁ : Within c i (Event.Claims []) past (⟨i, .drew .execution e⟩ :: l₁) :=
    (Within.of_later hl₁).cons hlaw₁ trivial
  have own₁ : ∀ event, ⟨i, event⟩ ∈ (⟨i, .drew .execution e⟩ :: l₁ : Chronicle) →
      event.Claims [.started e] :=
    w₁.own (fun _ => Event.Claims.mono (List.nil_subset _))
      fun event he => (claims event he).mono (List.nil_subset _)
  refine Safe.bind (claim_safe (w₁.mem call) List.mem_cons_self
    fun event he => (own₁ event he).bears) (fun _ _ => trivial) ?_
    fun f l hl _ => .unfinished fun event he => (hl.own (fun _ h => h) own₁ event he).bears
  rintro p l₂ hl₂ ⟨h₂, rfl⟩
  have own₂ := hl₂.own (fun _ h => h) own₁
  refine Safe.note_bind ?_
  intro l₃ hl₃
  have h₃ := h₂.within hl₃ fun _ => False.elim
  have own₃ := hl₃.own (fun _ => False.elim) own₂
  have idle : deployments l₃ i = [] := by
    rw [← List.append_nil l₃, deployments_append fun event he => (own₃ event he).deployment?]
    rfl
  refine deploy_bind ?_ ?_
  · intro l hl
    refine (h₃.within hl fun _ => False.elim).due hl.lawful
      (hl.mem (hl₃.mem (hl₂.mem (w₁.mem call)))) ?_
    exact fun o landing he => hl.own (fun _ => False.elim) own₃ _ he
  intro landing now older delivered hlaw
  -- From here on the call records what it was told, and goes to the deployer no more.
  have concluded : ∀ l, Within c i (fun event => event.Bears
      [.started e, finished e (rules.limit requested) landing now] ∧ event.deployment? = none)
      (⟨i, .saw now⟩ :: older) l → Progress i p.id (rules.limit requested) l := by
    rintro l ⟨-, newer, rfl, recording⟩
    refine .finished ?_ (delivered.told idle) fun event he => (recording event he).symm
    exact delivered.within.own (fun _ => Event.Bears.mono (List.nil_subset _))
      fun event he => (own₃ event he).bears
  have w₄ : Within c i (Event.Bears []) l₃ (⟨i, .saw now⟩ :: older) :=
    delivered.within.cons hlaw trivial
  have held := (h₃.within w₄ fun _ => Event.Bears.mono (List.nil_subset _)).mono
    (List.subset_append_left [.started e] [finished e (rules.limit requested) landing now])
  refine Safe.bind ((recordWithin_safe held rfl (finished_id e _ landing now)
    (outcome_ne_inFlight e _ landing now)
    (finished_after (.head (delivered.within.mem_written h₃.known)))).asks
      recordWithin_undeploying ?_) (fun _ _ => trivial) ?_ fun f l hl _ => concluded l hl
  · intro r undeploying s clock l choice a answered event he
    cases event with
    | deployed o landing =>
      obtain ⟨⟨limit, rfl⟩, -⟩ := tells_of_answer answered he
      exact absurd trivial undeploying
    | _ => rfl
  · intro stored l hl _
    cases hf : (finished e (rules.limit requested) landing now).outcome.isFailure with
    | true =>
      rw [if_pos rfl]
      exact Safe.reject_bind fun l' hl' => concluded l' (hl.trans (.of_later hl'))
    | false =>
      rw [if_neg (by simp)]
      exact Safe.done fun l' hl' => concluded l' (hl.trans (.of_later hl'))

end Executions

/-- How far a call has come, if it is one to execute. -/
def Call.Progresses (rules : ExecutionRules) (i : Nat) : Call → Chronicle → Prop
  | .execute id requested _, past => Progress i id (rules.limit requested) past
  | _, _ => True

theorem Call.keepsProgress (c : Conditions) (i : Nat) (call : Call) :
    KeepsLaw rules c i call (fun _ => call.Progresses rules i)
      (fun _ => call.Progresses rules i) := by
  intro past hlaw began unused ready
  cases call with
  | execute id requested correlation => exact Executions.execute_progress began unused
  | _ => exact Call.keepsLaw c i _ past hlaw began unused ready

/-- At any time of a call to execute, since it could be served to its end. -/
theorem Reachable.progress (h : Reachable rules (.any c.founding) w)
    (called : w.calls[i]? = some (.execute id requested correlation)) :
    Progress i id (rules.limit requested) w.chronicle := by
  obtain ⟨v, result, follows, ended⟩ :=
    World.exists_end (c := .any c.founding) rules (fun _ _ _ => trivial) called
  have progress : Progress i id (rules.limit requested) v.chronicle :=
    ((h.follows follows).sound (Call.keepsProgress _)).ended
      (E := fun i call _ => call.Progresses rules i) ended
  exact progress.of_suffix follows.chronicle_suffix

/-! ## Recorded outcomes -/

/-- A call deploys once. -/
theorem Lawful.deployments_eq (h : Lawful c past) (told : ⟨i, .deployed o landing⟩ ∈ past) :
    deployments past i = [(o, landing)] := by
  induction past with
  | nil => cases told
  | cons e past ih =>
    rcases List.mem_cons.1 told with rfl | earlier
    · obtain ⟨-, due⟩ := h
      cases due with
      | due _ _ _ _ _ first =>
        have idle : deployments past i = [] :=
          List.eq_nil_iff_forall_not_mem.2 fun _ he => first _ _ (mem_deployments.1 he)
        rw [deployments_deployed, idle]
    · rw [← ih h.1 earlier]
      show deployments ([e] ++ past) i = deployments past i
      refine deployments_append fun event he => ?_
      obtain rfl := List.mem_singleton.1 he
      cases event with
      | deployed o' landing' =>
        cases h.2 with
        | due _ _ _ _ _ first => exact absurd earlier (first _ _)
      | _ => rfl

theorem Reachable.called {call : Call} (h : Reachable rules c w)
    (began : ⟨i, .began call⟩ ∈ w.chronicle) : w.calls[i]? = some call := by
  obtain ⟨⟨call', rest⟩, task⟩ : ∃ t, w.tasks[i]? = some t :=
    ⟨_, List.getElem?_eq_getElem (h.always.owners i _ began)⟩
  obtain rfl := h.lawful.began_unique (h.always.safe i _ task).1 began
  rw [World.calls, List.getElem?_map, task]
  rfl

/-- An outcome on a record is that of the landing which the owner of its execution was told. -/
theorem Reachable.told (h : Reachable rules (.any c.founding) w)
    (hp : Stored (.any c.founding) w.chronicle id p) (hx : p.execution = some x)
    (final : x.outcome ≠ .inFlight) :
    ∃ i limit landing, ⟨i, .drew .execution x.id⟩ ∈ w.chronicle ∧ x.outcome = landing.outcome ∧
      Told i id limit landing w.chronicle := by
  obtain ⟨i, requested, correlation, -, -, call, drawn, -⟩ := h.lawful.claim_of_executed hp hx
  obtain ⟨j, b, wrote⟩ := mem_written.1 (mem_written_of_proposal? hp)
  obtain rfl := h.lawful.drew_unique (h.lawful.holder wrote hx) drawn
  obtain ⟨landing, outcome, told⟩ := (h.progress (h.called call)).told_of_wrote wrote hx final
  exact ⟨j, _, landing, drawn, outcome, told⟩

namespace OneOfTwo

def client : Deployment := ⟨letter 'u', .whole 10⟩

/-- Whether nothing fails but on the wire, where the same arrives for every request. -/
def onlyWire (a : Arrival) (r : Effect) (choice : Choice) : Bool :=
  choice.isFaithful && match r, choice with
    | .deploy .., .landing l => l == .ofResult (Deployment.result a)
    | _, _ => true

def wired (a : Arrival) : Conditions :=
  (Conditions.any []).among fun r choice => onlyWire a r choice = true

/-- A proposal that is signed and goes to the deployer. -/
def wireMoves (a : Arrival) : List Move :=
  proposed policy ++ signed ++
  [.start (.execute (letter 'Q') none (letter 'r'))] ++
  serve 3 [.id (letter 'E'), .plain, .plain, .plain, .plain, .plain, .plain,
    .landing (.ofResult (Deployment.result a)), .plain, .plain, .plain]

/-- The answer is lost on its way. -/
def interrupted : World := ((World.opening [] start).play OneOfTwo.rules
  (World.allows (onlyWire (.interrupted .read)) fun _ _ => true)
  (wireMoves (.interrupted .read))).get (by decide +kernel)

def label : Text := "RemoteProtocolError"

end OneOfTwo

end QuorumGate
