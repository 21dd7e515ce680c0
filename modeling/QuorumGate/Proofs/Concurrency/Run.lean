import QuorumGate.Proofs.Concurrency.Safety

/-!
# Runs

If every operation keeps the law from its start on, then so does every reachable world: its
chronicle is lawful, its store is the one that the chronicle leaves, and all that is left of its
calls still keeps the law.
-/

namespace QuorumGate

/-- What every reachable world is like. -/
structure Sound (c : Conditions) (ok : Nat → (call : Call) → call.Result → Chronicle → Prop)
    (bad : Nat → Call → Failure → Chronicle → Prop) (w : World) : Prop where
  lawful : Lawful c w.chronicle
  store_eq : w.store = replay c.founding w.chronicle
  clock : ∀ i t, ⟨i, .saw t⟩ ∈ w.chronicle → c.later t w.clock
  owners : ∀ i e, ⟨i, e⟩ ∈ w.chronicle → i < w.tasks.length
  safe : ∀ i t, w.tasks[i]? = some t → ⟨i, .began t.call⟩ ∈ w.chronicle ∧
    Safe c i (fun _ => True) (ok i t.call) (bad i t.call) t.rest w.chronicle

variable {rules : ExecutionRules} {c : Conditions} {w v : World}
  {ok : Nat → (call : Call) → call.Result → Chronicle → Prop}
  {bad : Nat → Call → Failure → Chronicle → Prop}

/-- An operation keeps the law if, once it has begun, its program does. -/
def KeepsLaw (rules : ExecutionRules) (c : Conditions) (i : Nat) (call : Call)
    (ok : call.Result → Chronicle → Prop) (bad : Failure → Chronicle → Prop) : Prop :=
  ∀ past, Lawful c past → ⟨i, .began call⟩ ∈ past → (∀ e, ⟨i, e⟩ ∈ past → e = .began call) →
    call.isReady past = true → Safe c i (fun _ => True) ok bad (call.program rules) past

/-- The same of an operation that begins at a given chronicle or later. -/
def KeepsLawFrom (base : Chronicle) (rules : ExecutionRules) (c : Conditions) (i : Nat)
    (call : Call) (ok : call.Result → Chronicle → Prop) (bad : Failure → Chronicle → Prop) : Prop :=
  ∀ past, base <:+ past → Lawful c past → ⟨i, .began call⟩ ∈ past →
    (∀ e, ⟨i, e⟩ ∈ past → e = .began call) → call.isReady past = true →
      Safe c i (fun _ => True) ok bad (call.program rules) past

theorem KeepsLaw.onwards {i : Nat} {call : Call} {ok : call.Result → Chronicle → Prop}
    {bad : Failure → Chronicle → Prop} (h : KeepsLaw rules c i call ok bad) (base : Chronicle) :
    KeepsLawFrom base rules c i call ok bad := fun past _ => h past

theorem KeepsLawFrom.later {base after : Chronicle} {i : Nat} {call : Call}
    {ok : call.Result → Chronicle → Prop} {bad : Failure → Chronicle → Prop}
    (h : KeepsLawFrom base rules c i call ok bad) (hb : base <:+ after) :
    KeepsLawFrom after rules c i call ok bad := fun past hp => h past (hb.trans hp)

/-- What has been committed stays committed. -/
theorem Call.isReady_cons {past : Chronicle} {e : Entry} (call : Call)
    (h : call.isReady past = true) : call.isReady (e :: past) = true := by
  cases call with
  | expire p correlation =>
    refine Bool.or_eq_true_iff.2 ((Bool.or_eq_true_iff.1 h).imp_right fun hp => ?_)
    obtain ⟨j, b, hp⟩ := mem_written.1 (List.contains_iff_mem.1 hp)
    exact List.contains_iff_mem.2 (mem_written.2 ⟨j, b, List.mem_cons_of_mem e hp⟩)
  | _ => rfl

namespace Sound

theorem opening (clock : Instant) : Sound c ok bad (.opening c.founding clock) where
  lawful := trivial
  store_eq := rfl
  clock := by simp [World.opening]
  owners := by simp [World.opening]
  safe := by simp [World.opening]

/-- What others have added leaves a call safe. -/
theorem others {i j : Nat} {t : Task} {es : List Event} (h : Sound c ok bad w) (hne : i ≠ j)
    (hl : Lawful c (entries i es ++ w.chronicle)) (ht : w.tasks[j]? = some t) :
    ⟨j, .began t.call⟩ ∈ entries i es ++ w.chronicle ∧
      Safe c j (fun _ => True) (ok j t.call) (bad j t.call) t.rest
        (entries i es ++ w.chronicle) := by
  obtain ⟨hb, hs⟩ := h.safe j t ht
  have hlater : Later c j w.chronicle (entries i es ++ w.chronicle) :=
    ⟨hl, _, rfl, fun e he => hne (mem_entries.1 he).1.symm⟩
  exact ⟨List.mem_append_right _ hb, hs.later hlater⟩

theorem start {call : Call} (h : Sound c ok bad w)
    (hk : KeepsLawFrom w.chronicle rules c w.tasks.length call (ok w.tasks.length call)
      (bad w.tasks.length call))
    (hm : w.move rules (.start call) = some v) : Sound c ok bad v := by
  cases World.moved hm with
  | started ready =>
    have unused : ∀ e, ⟨w.tasks.length, e⟩ ∉ w.chronicle :=
      fun e he => Nat.lt_irrefl _ (h.owners _ e he)
    have hl : Lawful c (entries w.tasks.length [.began call] ++ w.chronicle) :=
      ⟨h.lawful, unused, ready⟩
    refine ⟨hl, ?_, ?_, ?_, ?_⟩
    · rw [h.store_eq]; rfl
    · intro i t ht
      rcases List.mem_cons.1 ht with ht | ht
      · cases ht
      · exact h.clock i t ht
    · intro i e he
      rw [List.length_append, List.length_singleton]
      rcases List.mem_cons.1 he with he | he
      · cases he; omega
      · exact Nat.lt_succ_of_lt (h.owners i e he)
    · intro i t ht
      by_cases hi : i = w.tasks.length
      · subst hi
        rw [List.getElem?_concat_length] at ht
        cases ht
        refine ⟨List.mem_cons_self, hk _ (List.suffix_cons _ _) hl List.mem_cons_self ?_ ?_⟩
        · intro e he
          rcases List.mem_cons.1 he with he | he
          · cases he; rfl
          · exact absurd he (unused e)
        · exact call.isReady_cons ready
      · have hlt : i < w.tasks.length := by
          have hlen := (List.getElem?_eq_some_iff.1 ht).1
          rw [List.length_append, List.length_singleton] at hlen
          omega
        rw [List.getElem?_append_left hlt] at ht
        exact h.others (Ne.symm hi) hl ht

theorem tick {t : Instant} (h : Sound c ok bad w) (ht : c.later w.clock t) :
    Sound c ok bad { w with clock := t } :=
  ⟨h.lawful, h.store_eq, fun i s hs => c.later_trans (h.clock i s hs) ht, h.owners, h.safe⟩

theorem serve {i : Nat} {choice : Choice} (h : Sound c ok bad w)
    (hc : c.permits w (.serve i choice)) (hm : w.move rules (.serve i choice) = some v) :
    Sound c ok bad v := by
  cases World.moved hm with
  | @served _ _ call r next a ht ha =>
    have hr : w.request? i = some r := by simp [World.request?, ht]
    obtain ⟨hb, hs⟩ := h.safe i _ ht
    rw [h.store_eq] at ha
    obtain ⟨-, hl, hs⟩ := hs w.chronicle (.refl h.lawful) w.clock h.clock choice a (hc r hr) ha
    have hi : i < w.tasks.length := (List.getElem?_eq_some_iff.1 ht).1
    refine ⟨hl, ?_, ?_, ?_, ?_⟩
    · simp only [answer_store ha, replay_entries]
    · intro j t hj
      rcases List.mem_append.1 hj with hj | hj
      · obtain rfl : t = w.clock := tells_of_answer ha (mem_entries.1 hj).2
        exact c.later_refl _
      · exact h.clock j t hj
    · intro j e he
      rw [List.length_set]
      rcases List.mem_append.1 he with he | he
      · rw [(mem_entries.1 he).1]
        exact hi
      · exact h.owners j e he
    · intro j t hj
      by_cases hij : i = j
      · subst hij
        rw [List.getElem?_set_self hi] at hj
        cases hj
        exact ⟨List.mem_append_right _ hb, hs⟩
      · rw [List.getElem?_set_ne hij] at hj
        exact h.others hij hl hj

end Sound

theorem Reachable.sound (hk : ∀ i call, KeepsLaw rules c i call (ok i call) (bad i call))
    (h : Reachable rules c w) : Sound c ok bad w := by
  induction h with
  | opening clock => exact .opening clock
  | move m before permitted moved ih =>
    cases m with
    | start call => exact ih.start ((hk _ call).onwards _) moved
    | tick t =>
      cases moved
      exact ih.tick permitted
    | serve i choice => exact ih.serve permitted moved

end QuorumGate
