import QuorumGate.Proofs.Concurrency.Law

/-!
# Keeping the law among rivals

A call keeps the law if each of its requests does, whatever the other calls have written since the
request before. `Safe` says so of a program by recursion: it holds at a chronicle and at all that
others can make of it. A world in which every call is safe stays so with every move.
-/

namespace QuorumGate

variable {c : Conditions} {past mid after : Chronicle} {i j : Nat}

/-- The chronicle has lawfully grown, and call `i` has added nothing but what it `may`. -/
def Within (c : Conditions) (i : Nat) (may : Event → Prop) (past after : Chronicle) : Prop :=
  Lawful c after ∧ ∃ news, after = news ++ past ∧ ∀ e, ⟨i, e⟩ ∈ news → may e

/-- Only others have added to the chronicle. -/
abbrev Later (c : Conditions) (i : Nat) : Chronicle → Chronicle → Prop :=
  Within c i fun _ => False

namespace Within

variable {may may' : Event → Prop}

theorem lawful (h : Within c i may past after) : Lawful c after := h.1

theorem suffix (h : Within c i may past after) : past <:+ after := by
  obtain ⟨-, news, rfl, -⟩ := h
  exact List.suffix_append _ _

theorem refl (h : Lawful c past) : Within c i may past past := ⟨h, [], rfl, by simp⟩

theorem trans (h : Within c i may past mid) (h' : Within c i may mid after) :
    Within c i may past after := by
  obtain ⟨-, news, rfl, hn⟩ := h
  obtain ⟨hl, more, rfl, hm⟩ := h'
  refine ⟨hl, more ++ news, by simp, ?_⟩
  intro e he
  rcases List.mem_append.1 he with he | he
  · exact hm e he
  · exact hn e he

theorem mono (h : Within c i may past after) (hm : ∀ e, may e → may' e) :
    Within c i may' past after := by
  obtain ⟨hl, news, rfl, hn⟩ := h
  exact ⟨hl, news, rfl, fun e he => hm e (hn e he)⟩

theorem of_later (h : Later c i past after) : Within c i may past after :=
  h.mono fun _ => False.elim

theorem mem {e : Entry} (h : Within c i may past after) (he : e ∈ past) : e ∈ after := by
  obtain ⟨-, news, rfl, -⟩ := h
  exact List.mem_append_right news he

theorem mem_written {p : Proposal} (h : Within c i may past after) (hp : p ∈ written past) :
    p ∈ written after := by
  obtain ⟨j, b, he⟩ := QuorumGate.mem_written.1 hp
  exact QuorumGate.mem_written.2 ⟨j, b, h.mem he⟩

theorem looked {p : Proposal} {t : Instant} (h : Within c i may past after)
    (ht : Looked past j p t) : Looked after j p t := ht.later h.suffix

theorem policy {id : Text} {P : Policy} (h : Within c i may past after)
    (hP : (replay c.founding past).policy? id = some P) :
    (replay c.founding after).policy? id = some P := by
  obtain ⟨-, news, rfl, -⟩ := h
  exact policy?_mono hP

/-- What holds of all that a call has done goes on to hold. -/
theorem own {P : Event → Prop} (h : Within c i may past after) (hm : ∀ e, may e → P e)
    (hP : ∀ e, ⟨i, e⟩ ∈ past → P e) : ∀ e, ⟨i, e⟩ ∈ after → P e := by
  obtain ⟨-, news, rfl, hn⟩ := h
  intro e he
  rcases List.mem_append.1 he with he | he
  · exact hm e (hn e he)
  · exact hP e he

theorem entries {es : List Event} (h : Lawful c (entries i es ++ past)) (hm : ∀ e ∈ es, may e) :
    Within c i may past (entries i es ++ past) :=
  ⟨h, _, rfl, fun e he => hm e (mem_entries.1 he).2⟩

theorem cons {e : Event} (h : Within c i may past after) (hl : Lawful c (⟨i, e⟩ :: after))
    (hm : may e) : Within c i may past (⟨i, e⟩ :: after) := by
  have added : Within c i may after (QuorumGate.entries i [e] ++ after) :=
    .entries hl (by simpa using hm)
  exact h.trans added

end Within

/-- A program keeps the law as the rest of call `i`: its requests add only what it `may`, and it
ends in what `ok` or `bad` says. -/
def Safe (c : Conditions) (i : Nat) (may : Event → Prop) (ok : α → Chronicle → Prop)
    (bad : Failure → Chronicle → Prop) : Service α → Chronicle → Prop
  | .done a, past => ∀ l, Later c i past l → ok a l
  | .fail e, past => ∀ l, Later c i past l → bad e l
  | .ask r next, past =>
    ∀ l, Later c i past l → ∀ clock, (∀ j t, ⟨j, .saw t⟩ ∈ l → c.later t clock) →
      ∀ choice a, c.choice r choice → answer (replay c.founding l) clock l r choice = some a →
        (∀ e ∈ a.events, may e) ∧ Lawful c (entries i a.events ++ l) ∧
          Safe c i may ok bad (next a.reply) (entries i a.events ++ l)

variable {α β : Type} {may may' : Event → Prop} {ok ok' : α → Chronicle → Prop}
  {bad bad' : Failure → Chronicle → Prop} {p : Service α}

namespace Safe

theorem later (h : Safe c i may ok bad p past) (hl : Later c i past after) :
    Safe c i may ok bad p after := by
  cases p with
  | done a => exact fun l hl' => h l (hl.trans hl')
  | fail e => exact fun l hl' => h l (hl.trans hl')
  | ask r next => exact fun l hl' => h l (hl.trans hl')

theorem of_later (h : ∀ l, Later c i past l → Safe c i may ok bad p l) :
    Safe c i may ok bad p past := by
  cases p with
  | done a => exact fun l hl => h l hl l (.refl hl.lawful)
  | fail e => exact fun l hl => h l hl l (.refl hl.lawful)
  | ask r next => exact fun l hl => h l hl l (.refl hl.lawful)

theorem done {a : α} (h : ∀ l, Later c i past l → ok a l) :
    Safe c i may ok bad (.done a : Service α) past := h

theorem fail {e : Failure} (h : ∀ l, Later c i past l → bad e l) :
    Safe c i may ok bad (.fail e : Service α) past := h

theorem reject {r : Rejection} (h : ∀ l, Later c i past l → bad (.rejected r) l) :
    Safe c i may ok bad (Service.reject r) past := h

theorem reject_bind {r : Rejection} {k : β → Service α}
    (h : ∀ l, Later c i past l → bad (.rejected r) l) :
    Safe c i may ok bad (Service.reject r >>= k) past := h

theorem mono (h : Safe c i may ok bad p past) (hm : ∀ e, may e → may' e)
    (hok : ∀ a l, Within c i may past l → ok a l → ok' a l)
    (hbad : ∀ e l, Within c i may past l → bad e l → bad' e l) :
    Safe c i may' ok' bad' p past := by
  induction p generalizing past with
  | done a => exact fun l hl => hok a l (.of_later hl) (h l hl)
  | fail e => exact fun l hl => hbad e l (.of_later hl) (h l hl)
  | ask r next ih =>
    intro l hl clock hclock choice a hc ha
    obtain ⟨hmay, hlaw, hs⟩ := h l hl clock hclock choice a hc ha
    have hw : Within c i may past (entries i a.events ++ l) :=
      (Within.of_later hl).trans (.entries hlaw hmay)
    exact ⟨fun e he => hm e (hmay e he), hlaw, ih a.reply hs
      (fun b l' hl' => hok b l' (hw.trans hl')) (fun e l' hl' => hbad e l' (hw.trans hl'))⟩

/-- What is known of a program in two ways is known together. -/
theorem both (h : Safe c i may ok bad p past) (h' : Safe c i may' ok' bad' p past) :
    Safe c i (fun e => may e ∧ may' e) (fun a l => ok a l ∧ ok' a l)
      (fun e l => bad e l ∧ bad' e l) p past := by
  induction p generalizing past with
  | done a => exact fun l hl => ⟨h l hl, h' l hl⟩
  | fail e => exact fun l hl => ⟨h l hl, h' l hl⟩
  | ask r next ih =>
    intro l hl clock hclock choice a hc ha
    obtain ⟨hmay, hlaw, hs⟩ := h l hl clock hclock choice a hc ha
    obtain ⟨hmay', -, hs'⟩ := h' l hl clock hclock choice a hc ha
    exact ⟨fun e he => ⟨hmay e he, hmay' e he⟩, hlaw, ih a.reply hs hs'⟩

/-- A program is followed by another one that starts where the first may end. -/
theorem bind {k : α → Service β} {ok' : β → Chronicle → Prop} (h : Safe c i may ok bad p past)
    (hm : ∀ e, may e → may' e)
    (hok : ∀ a l, Within c i may past l → ok a l → Safe c i may' ok' bad' (k a) l)
    (hbad : ∀ e l, Within c i may past l → bad e l → bad' e l) :
    Safe c i may' ok' bad' (p >>= k) past := by
  induction p generalizing past with
  | done a => exact of_later fun l hl => hok a l (.of_later hl) (h l hl)
  | fail e => exact fun l hl => hbad e l (.of_later hl) (h l hl)
  | ask r next ih =>
    intro l hl clock hclock choice a hc ha
    obtain ⟨hmay, hlaw, hs⟩ := h l hl clock hclock choice a hc ha
    have hw : Within c i may past (entries i a.events ++ l) :=
      (Within.of_later hl).trans (.entries hlaw hmay)
    exact ⟨fun e he => hm e (hmay e he), hlaw, ih a.reply hs
      (fun b l' hl' => hok b l' (hw.trans hl')) (fun e l' hl' => hbad e l' (hw.trans hl'))⟩

/-- A failure that is given as a value. -/
theorem attempt {ok' : Except Failure α → Chronicle → Prop} (h : Safe c i may ok bad p past)
    (hok : ∀ a l, Within c i may past l → ok a l → ok' (.ok a) l)
    (hbad : ∀ e l, Within c i may past l → bad e l → ok' (.error e) l) :
    Safe c i may ok' bad' (p.attempt : Service (Except Failure α)) past := by
  induction p generalizing past with
  | done a => exact fun l hl => hok a l (.of_later hl) (h l hl)
  | fail e => exact fun l hl => hbad e l (.of_later hl) (h l hl)
  | ask r next ih =>
    intro l hl clock hclock choice a hc ha
    obtain ⟨hmay, hlaw, hs⟩ := h l hl clock hclock choice a hc ha
    have hw : Within c i may past (entries i a.events ++ l) :=
      (Within.of_later hl).trans (.entries hlaw hmay)
    exact ⟨hmay, hlaw, ih a.reply hs
      (fun b l' hl' => hok b l' (hw.trans hl')) (fun e l' hl' => hbad e l' (hw.trans hl'))⟩

theorem ofExcept_bind {ε : Type} {x : Except ε α} {f : ε → Failure} {k : α → Service β}
    {ok' : β → Chronicle → Prop} (hok : ∀ a, x = .ok a → Safe c i may ok' bad (k a) past)
    (hbad : ∀ e l, x = .error e → Later c i past l → bad (f e) l) :
    Safe c i may ok' bad ((Program.ofExcept (x.mapError f) : Service α) >>= k) past := by
  cases x with
  | ok a => exact hok a rfl
  | error e => exact fun l hl => hbad e l rfl hl

/-! ## The requests -/

/-- The clock is read, and what it shows is not before anything that was seen. -/
theorem saw_bind {k : Instant → Service α} (hm : ∀ t, may (.saw t))
    (hk : ∀ t l, Later c i past l → Lawful c (⟨i, .saw t⟩ :: l) →
      Safe c i may ok bad (k t) (⟨i, .saw t⟩ :: l)) :
    Safe c i may ok bad (Service.now >>= k) past := by
  intro l hl clock hclock choice a hc ha
  cases comesTo ha
  have hlaw : Lawful c (⟨i, .saw clock⟩ :: l) := ⟨hl.lawful, hclock⟩
  exact ⟨by simpa using hm clock, hlaw, hk clock l hl hlaw⟩

theorem now_bind {k : Instant → Service α} (hm : ∀ t, may (.saw t))
    (hk : ∀ t l, Within c i may past l → ⟨i, .saw t⟩ ∈ l → Safe c i may ok bad (k t) l) :
    Safe c i may ok bad (Service.now >>= k) past := by
  refine saw_bind hm fun t l hl hlaw => ?_
  exact hk t _ ((Within.of_later hl).cons hlaw (hm t)) List.mem_cons_self

/-- The clock is read for the stamp of a copy. -/
theorem stamp_bind {old : Proposal} {k : Instant → Service α} (known : old ∈ written past)
    (hm : ∀ t, may (.saw t))
    (hk : ∀ t l, Within c i may past l → Looked l i old t → Safe c i may ok bad (k t) l) :
    Safe c i may ok bad (Service.now >>= k) past := by
  refine saw_bind hm fun t l hl hlaw => ?_
  exact hk t _ ((Within.of_later hl).cons hlaw (hm t)) (.head (hl.mem_written known))

/-- An identifier is drawn that nobody has drawn before. -/
theorem draw_bind {kind : IdKind} {k : Text → Service α} (hm : ∀ id, may (.drew kind id))
    (hk : ∀ id l, Later c i past l → Lawful c (⟨i, .drew kind id⟩ :: l) →
      Safe c i may ok bad (k id) (⟨i, .drew kind id⟩ :: l)) :
    Safe c i may ok bad (Service.fresh kind >>= k) past := by
  intro l hl clock hclock choice a hc ha
  cases comesTo ha with
  | @fresh _ id unused =>
    have hnew : ∀ j, ⟨j, .drew kind id⟩ ∉ l := by
      intro j hj
      have hd := List.all_eq_true.1 unused _ hj
      simp [Event.draws] at hd
    have hlaw : Lawful c (⟨i, .drew kind id⟩ :: l) := ⟨hl.lawful, hnew⟩
    exact ⟨by simpa using hm id, hlaw, hk id l hl hlaw⟩

theorem fresh_bind {kind : IdKind} {k : Text → Service α} (hm : ∀ id, may (.drew kind id))
    (hk : ∀ id l, Within c i may past l → ⟨i, .drew kind id⟩ ∈ l → Safe c i may ok bad (k id) l) :
    Safe c i may ok bad (Service.fresh kind >>= k) past := by
  refine draw_bind hm fun id l hl hlaw => ?_
  exact hk id _ ((Within.of_later hl).cons hlaw (hm id)) List.mem_cons_self

theorem fresh {kind : IdKind} :
    Safe c i (fun e => ∃ id, e = .drew kind id) (fun id l => ⟨i, .drew kind id⟩ ∈ l)
      (fun _ _ => False) (Service.fresh kind) past := by
  show Safe c i _ _ _ (Service.fresh kind >>= .done) past
  exact fresh_bind (fun id => ⟨id, rfl⟩) fun id l _ h => done fun l' hl' => hl'.mem h

theorem note_bind {level : Level} {channel : Channel} {text : Text} {k : Unit → Service α}
    (hk : ∀ l, Later c i past l → Safe c i may ok bad (k ()) l) :
    Safe c i may ok bad (Service.note level channel text >>= k) past := by
  intro l hl clock hclock choice a hc ha
  cases comesTo ha
  exact ⟨by simp, hl.lawful, hk l hl⟩

theorem verdict_bind {signer : Text} {payload : String} {signature : Text}
    {k : Bool → Service α} (hm : ∀ v, may (.verified signer payload signature v))
    (hk : ∀ v l, Later c i past l → Lawful c (⟨i, .verified signer payload signature v⟩ :: l) →
      Safe c i may ok bad (Program.ofExcept v >>= k)
        (⟨i, .verified signer payload signature v⟩ :: l)) :
    Safe c i may ok bad (Service.verify signer payload signature >>= k) past := by
  intro l hl clock hclock choice a hc ha
  cases comesTo ha with
  | @verified _ _ _ v =>
    have hlaw : Lawful c (⟨i, .verified signer payload signature v⟩ :: l) := ⟨hl.lawful, trivial⟩
    exact ⟨by simpa using hm v, hlaw, hk v l hl hlaw⟩

theorem verify_bind {signer : Text} {payload : String} {signature : Text} {k : Bool → Service α}
    (hm : ∀ v, may (.verified signer payload signature v))
    (hk : ∀ b l, Within c i may past l → ⟨i, .verified signer payload signature (.ok b)⟩ ∈ l →
      Safe c i may ok bad (k b) l)
    (hbad : ∀ e l, Within c i may past l → bad e l) :
    Safe c i may ok bad (Service.verify signer payload signature >>= k) past := by
  refine verdict_bind hm fun v l hl hlaw => ?_
  have hw := (Within.of_later hl).cons hlaw (hm v)
  cases v with
  | ok b => exact hk b _ hw List.mem_cons_self
  | error e => exact fun l' hl' => hbad e l' (hw.trans (.of_later hl'))

/-! ## The requests to the store -/

theorem ask_store {op : StoreOp} {correlation : Text} {next : Except Failure op.Result → Service α}
    (hlaw : ∀ l, Later c i past l → ∀ e ∈ (replay c.founding l).changes op,
      may e ∧ Allowed c l i e)
    (hm : ∀ e, may (.failed op e))
    (hok : ∀ l r, Later c i past l → ((replay c.founding l).perform op).1 = .ok r →
      Within c i may past (entries i ((replay c.founding l).changes op) ++ l) →
      Safe c i may ok bad (next (.ok r)) (entries i ((replay c.founding l).changes op) ++ l))
    (hbad : ∀ e l, Within c i may past l → Safe c i may ok bad (next (.error e)) l) :
    Safe c i may ok bad (.ask (.store op correlation) next) past := by
  intro l hl clock hclock choice a hc ha
  have hchanges : Lawful c (entries i ((replay c.founding l).changes op) ++ l) := by
    rcases (replay c.founding l).changes_cases op with he | ⟨e, he⟩
    · rw [he]
      exact hl.lawful
    · rw [he]
      exact ⟨hl.lawful, (hlaw l hl e (by simp [he])).2⟩
  have hw := (Within.of_later hl).trans (.entries hchanges fun e he => (hlaw l hl e he).1)
  have failed : ∀ e es, (∀ x ∈ es, may x) → Lawful c (entries i es ++ l) →
      (∀ x ∈ .failed op e :: es, may x) ∧ Lawful c (entries i (.failed op e :: es) ++ l) ∧
        Safe c i may ok bad (next (.error e)) (entries i (.failed op e :: es) ++ l) := by
    intro e es hes hlawful
    have hlawful' : Lawful c (entries i (.failed op e :: es) ++ l) := ⟨hlawful, trivial⟩
    have hes' : ∀ x ∈ Event.failed op e :: es, may x := by
      intro x hx
      rcases List.mem_cons.1 hx with rfl | hx
      · exact hm e
      · exact hes x hx
    exact ⟨hes', hlawful', hbad e _ ((Within.of_later hl).trans (.entries hlawful' hes'))⟩
  cases comesTo ha with
  | performed =>
    cases hr : ((replay c.founding l).perform op).1 with
    | ok r => exact ⟨fun e he => (hlaw l hl e he).1, hchanges, hok l r hl hr hw⟩
    | error e => exact failed e _ (fun x hx => (hlaw l hl x hx).1) hchanges
  | refused => exact failed _ [] (by simp) hl.lawful
  | lost => exact failed _ _ (fun x hx => (hlaw l hl x hx).1) hchanges

/-- A request that reads gives what the store holds at that moment, or fails. -/
theorem read_bind {op : StoreOp} {correlation : Text} {k : op.Result → Service α}
    (hread : ∀ s : Store, s.changes op = []) (hm : ∀ e, may (.failed op e))
    (hk : ∀ l r, Later c i past l → ((replay c.founding l).perform op).1 = .ok r →
      Safe c i may ok bad (k r) l)
    (hbad : ∀ e l, Within c i may past l → bad e l) :
    Safe c i may ok bad (Service.store op correlation >>= k) past := by
  show Safe c i may ok bad (.ask (.store op correlation) fun x => Program.ofExcept x >>= k) past
  refine ask_store ?_ hm ?_ ?_
  · simp [hread]
  · intro l r hl hr hw
    rw [hread]
    exact hk l r hl hr
  · exact fun e l hw l' hl' => hbad e l' (hw.trans (.of_later hl'))

/-- A request that writes succeeds, or is taken for a conflict, or fails. -/
theorem write_bind {op : StoreOp} {correlation : Text} {k : Option op.Result → Service α}
    (hlaw : ∀ l, Later c i past l → ∀ e ∈ (replay c.founding l).changes op,
      may e ∧ Allowed c l i e)
    (hm : ∀ e, may (.failed op e))
    (hok : ∀ l r, Later c i past l → ((replay c.founding l).perform op).1 = .ok r →
      Within c i may past (entries i ((replay c.founding l).changes op) ++ l) →
      Safe c i may ok bad (k (some r)) (entries i ((replay c.founding l).changes op) ++ l))
    (hnone : ∀ l, Within c i may past l → Safe c i may ok bad (k none) l)
    (hbad : ∀ e l, Within c i may past l → bad e l) :
    Safe c i may ok bad (Service.storeUnlessConflict op correlation >>= k) past := by
  refine ask_store hlaw hm hok ?_
  intro e l hw
  cases e with
  | conflict record expected found => exact hnone l hw
  | _ => exact fun l' hl' => hbad _ l' (hw.trans (.of_later hl'))

/-- A conditional write replaces the copy it was made from, or changes nothing. -/
theorem update_bind {old new : Proposal} {correlation : Text} {k : Option Proposal → Service α}
    (known : old ∈ written past) (hid : new.id = old.id)
    (hchange : ∀ l, Later c i past l → (replay c.founding l).proposal? old.id = some old →
      Change c l i old (Store.committed new old.version))
    (hm : may (.wrote (some old) (Store.committed new old.version)))
    (hmf : ∀ op e, may (.failed op e))
    (hok : ∀ l, Within c i may past l →
      ⟨i, .wrote (some old) (Store.committed new old.version)⟩ ∈ l →
      Safe c i may ok bad (k (some (Store.committed new old.version))) l)
    (hnone : ∀ l, Within c i may past l → Safe c i may ok bad (k none) l)
    (hbad : ∀ e l, Within c i may past l → bad e l) :
    Safe c i may ok bad
      (Service.storeUnlessConflict (.updateProposal new old.version) correlation >>= k) past := by
  -- The version of the copy names the copy: what it replaces can be nothing else.
  have hold : ∀ l q, Later c i past l → (replay c.founding l).proposal? new.id = some q →
      q.version = old.version → q = old := by
    intro l q hl hq hv
    rw [hid] at hq
    exact hl.lawful.eq_of_version (hl.mem_written known) hq hv
  refine write_bind ?_ (hmf _) ?_ hnone hbad
  · intro l hl e he
    obtain ⟨q, hq, hv, rfl⟩ := Store.changes_updateProposal new old.version he
    obtain rfl := hold l q hl hq hv
    exact ⟨hm, hq, hchange l hl (hid ▸ hq)⟩
  · intro l r hl hr hw
    obtain ⟨q, hq, hv, hr, hc⟩ := Store.perform_updateProposal hr
    obtain rfl := hold l q hl hq hv
    subst hr
    exact hok _ hw (by simp [hc])

end Safe

end QuorumGate
