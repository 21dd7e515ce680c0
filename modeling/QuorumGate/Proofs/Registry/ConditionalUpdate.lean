import QuorumGate.Proofs.Registry.RoundTrip

/-!
# Conditional updates

A registry applies an update if it holds the version that the update expects, and holds the version
of the body afterwards. Requests get lost on their way to it, and responses on their way back, while
other clients update the same records. However often a writer sends its update again, it is applied
once at most: as soon as it has been applied, the version that it expects is gone for good.
-/

namespace QuorumGate

/-- A record as a registry holds it. -/
structure Edition where
  version : Int
  body : Json.Members

/-- The records of a registry, by the URLs at which they are updated. -/
abbrev Shelf := Text → Option Edition

/-- The version that a body bears. -/
def Json.versionOf? (ms : Json.Members) : Option Int :=
  match Json.lookup "version" ms with
  | some (.number (.whole n)) => some n
  | _ => none

namespace Outgoing

def expected? (o : Outgoing) : Option Text := (o.headers.getD []).lookup ("If-Match" : Text)

/-- The edition that a request asks to have held. -/
def edition? (o : Outgoing) : Option Edition :=
  match o.body with
  | some (.object ms) => (Json.versionOf? ms).map fun version => ⟨version, ms⟩
  | _ => none

end Outgoing

namespace Shelf

def put (s : Shelf) (url : Text) (e : Edition) : Shelf := fun u => if u = url then some e else s u

/-- The edition that is held once a request has been applied, which takes the expected version. -/
def applied? (s : Shelf) (o : Outgoing) : Option Edition :=
  match s o.url with
  | some held => if o.expected? = some (held.version.repr : Text) then o.edition? else none
  | none => none

/-- The updates of other clients: each raises the version that it expects by one. -/
inductive Updated : Shelf → Shelf → Prop where
  | still (s : Shelf) : Updated s s
  | next {s t : Shelf} {url : Text} {held e : Edition} (held_eq : s url = some held)
      (version : e.version = held.version + 1) (rest : Updated (s.put url e) t) : Updated s t

end Shelf

/-- Whether nothing arrives that tells what a registry has done. -/
def Arrival.isGarbled : Arrival → Bool
  | .response r => Transport.unavailableStatuses.contains r.status
  | _ => true

/-- How a request is dealt with, what is applied of it, and what is held afterwards. -/
inductive Delivered (s : Shelf) (o : Outgoing) :
    Arrival → List (Text × Edition) → Shelf → Prop where
  | lost {a : Arrival} (garbled : a.isGarbled = true) : Delivered s o a [] s
  | answered {e : Edition} {r : Response} (applied : s.applied? o = some e)
      (status : r.status = 200) (payload : r.payload = .ok e.body) :
      Delivered s o (.response r) [(o.url, e)] (s.put o.url e)
  | refused {r : Response} (unapplied : s.applied? o = none)
      (status : r.status = 409 ∨ r.status = 412) : Delivered s o (.response r) [] s
  | unheard {e : Edition} {a : Arrival} (applied : s.applied? o = some e)
      (garbled : a.isGarbled = true) : Delivered s o a [(o.url, e)] (s.put o.url e)

/-- A run against a registry, with what has been applied of its requests, one after the other. Other
clients may update records before each request is delivered. -/
inductive RunsTo {α : Type} :
    Transport α → Shelf → List (Text × Edition) → Except Failure α → Shelf → Prop where
  | done (a : α) (s : Shelf) : RunsTo (.done a) s [] (.ok a) s
  | fail (e : Failure) (s : Shelf) : RunsTo (.fail e) s [] (.error e) s
  | send {o : Outgoing} {next : Arrival → Transport α} {s t u v : Shelf} {a : Arrival}
      {now later : List (Text × Edition)} {r : Except Failure α} (others : s.Updated t)
      (delivered : Delivered t o a now u) (rest : RunsTo (next a) u later r v) :
      RunsTo (.ask (Wire.send o) next) s (now ++ later) r v
  | pause {seconds : Number} {next : Unit → Transport α} {s t : Shelf}
      {later : List (Text × Edition)} {r : Except Failure α} (rest : RunsTo (next ()) s later r t) :
      RunsTo (.ask (Wire.pause seconds) next) s later r t
  | note {line : Note} {next : Unit → Transport α} {s t : Shelf}
      {later : List (Text × Edition)} {r : Except Failure α} (rest : RunsTo (next ()) s later r t) :
      RunsTo (.ask (Wire.note line) next) s later r t
  | fresh {kind : IdKind} {next : Text → Transport α} {s t : Shelf} {id : Text}
      {later : List (Text × Edition)} {r : Except Failure α} (rest : RunsTo (next id) s later r t) :
      RunsTo (.ask (Wire.fresh kind) next) s later r t

/-! ## Versions as texts

`If-Match` names a version by its digits, and the digits name no other. -/

theorem digits_inj {m n : Nat} (same : m.repr = n.repr) : m = n := by
  have digits : Nat.toDigits 10 m = Nat.toDigits 10 n := by
    simpa only [Nat.toList_repr] using congrArg String.toList same
  have read := congrArg (Nat.ofDigitChars 10 · 0) digits
  rwa [Nat.ofDigitChars_ten_toDigits, Nat.ofDigitChars_ten_toDigits] at read

/-- No digit is a sign. -/
theorem repr_ne_signed (m n : Nat) : m.repr ≠ "-" ++ n.repr := by
  intro same
  have digits : Nat.toDigits 10 m = "-".toList ++ Nat.toDigits 10 n := by
    simpa only [Nat.toList_repr, String.toList_append] using congrArg String.toList same
  have sign : '-' ∈ Nat.toDigits 10 m := by
    rw [digits]
    exact List.mem_append_left _ (by decide)
  have digit : ('-').isDigit = true := Nat.isDigit_of_mem_toDigits (by decide) (by decide) sign
  exact absurd digit (by decide)

theorem versionText_inj {m n : Int} (same : (m.repr : Text) = n.repr) : m = n := by
  have reprs : m.repr = n.repr := by simpa using congrArg Text.string? same
  rw [Int.repr_eq_if, Int.repr_eq_if] at reprs
  split at reprs <;> split at reprs
  · have := digits_inj reprs
    omega
  · cases repr_ne_signed _ _ reprs
  · cases repr_ne_signed _ _ reprs.symm
  · have := digits_inj ((String.append_right_inj "-").1 reprs)
    omega

/-! ## A version that is gone -/

/-- A registry holds a later version than the given one. -/
def Shelf.IsPast (s : Shelf) (url : Text) (version : Int) : Prop :=
  ∃ held, s url = some held ∧ version < held.version

variable {s t u : Shelf} {o : Outgoing} {url : Text} {version : Int} {e : Edition}

namespace Shelf

@[simp] theorem put_self (s : Shelf) (url : Text) (e : Edition) : s.put url e url = some e := by
  simp [put]

theorem IsPast.put {url' : Text} (h : s.IsPast url version)
    (later : ∀ held, s url' = some held → held.version ≤ e.version) :
    (s.put url' e).IsPast url version := by
  obtain ⟨held, hs, past⟩ := h
  by_cases same : url = url'
  · subst same
    have := later held hs
    exact ⟨e, put_self s url e, by omega⟩
  · exact ⟨held, by simp [Shelf.put, same, hs], past⟩

/-- Other clients never bring a version back. -/
theorem Updated.isPast (h : s.Updated t) (past : s.IsPast url version) : t.IsPast url version := by
  induction h with
  | still s => exact past
  | next held_eq raised rest ih =>
    apply ih
    apply past.put
    intro held same
    rw [held_eq] at same
    cases same
    omega

end Shelf

/-- A request to have an edition held in the place of the version before it. -/
structure Outgoing.Updates (o : Outgoing) (version : Int) (e : Edition) : Prop where
  expected : o.expected? = some (version.repr : Text)
  edition : o.edition? = some e
  raised : e.version = version + 1

namespace Outgoing.Updates

variable {own : Edition}

/-- It is applied to the version that it expects and to no other. -/
theorem of_applied (h : o.Updates version own) (applied : s.applied? o = some e) :
    e = own ∧ ∃ held, s o.url = some held ∧ held.version = version := by
  unfold Shelf.applied? at applied
  split at applied
  case h_2 => cases applied
  case h_1 held hs =>
    split at applied
    case isFalse => cases applied
    case isTrue same =>
      rw [h.edition] at applied
      rw [h.expected, Option.some.injEq] at same
      exact ⟨(Option.some.inj applied).symm, held, hs, (versionText_inj same).symm⟩

theorem unapplied (h : o.Updates version own) (past : s.IsPast o.url version) :
    s.applied? o = none := by
  cases applied : s.applied? o with
  | none => rfl
  | some e =>
    obtain ⟨-, held, hs, same⟩ := h.of_applied applied
    obtain ⟨held', hs', later⟩ := past
    rw [hs] at hs'
    cases hs'
    omega

/-- Once it has been applied the version that it expects is gone. -/
theorem past (h : o.Updates version own) : (s.put o.url own).IsPast o.url version := by
  have := h.raised
  exact ⟨own, Shelf.put_self s o.url own, by omega⟩

end Outgoing.Updates

/-! ## Sending an update again and again -/

variable {α β : Type} {r : Except Failure α} {log : List (Text × Edition)} {own : Edition}

namespace RunsTo

theorem done_inv {a : α} (h : RunsTo (.done a) s log r t) : log = [] ∧ r = .ok a ∧ t = s := by
  cases h
  exact ⟨rfl, rfl, rfl⟩

theorem fail_inv {e : Failure} (h : RunsTo (.fail e) s log r t) :
    log = [] ∧ r = .error e ∧ t = s := by
  cases h
  exact ⟨rfl, rfl, rfl⟩

theorem note_inv {level : Level} {channel : Channel} {text : Text} {k : Unit → Transport α}
    (h : RunsTo (Transport.note level channel text >>= k) s log r t) : RunsTo (k ()) s log r t := by
  cases h with
  | note rest => exact rest

/-- A pause that cannot be made ends the run. -/
theorem backOff_inv {p : Patience} {n : Nat} {k : Unit → Transport α}
    (h : RunsTo (Transport.backOff p n >>= k) s log r t) :
    RunsTo (k ()) s log r t ∨ (log = [] ∧ ∃ e, r = .error e) := by
  unfold Transport.backOff at h
  split at h
  · cases h with
    | pause rest => exact .inl rest
  · obtain ⟨rfl, rfl, -⟩ := fail_inv h
    exact .inr ⟨rfl, _, rfl⟩

/-- A run of two programs, one after the other. -/
theorem bind_inv {p : Transport β} {k : β → Transport α} (h : RunsTo (p >>= k) s log r t) :
    (∃ b u now later, RunsTo p s now (.ok b) u ∧ RunsTo (k b) u later r t ∧ log = now ++ later) ∨
      ∃ e, RunsTo p s log (.error e) t ∧ r = .error e := by
  induction p generalizing s log with
  | done b => exact .inl ⟨b, s, [], log, .done b s, h, rfl⟩
  | fail e =>
    obtain ⟨rfl, rfl, rfl⟩ := fail_inv h
    exact .inr ⟨e, .fail e _, rfl⟩
  | ask request next ih =>
    cases h with
    | send others delivered rest =>
      rcases ih _ rest with ⟨b, u, now, later, first, second, rfl⟩ | ⟨e, first, rfl⟩
      · exact .inl ⟨b, u, _, later, .send others delivered first, second,
          (List.append_assoc _ _ _).symm⟩
      · exact .inr ⟨e, .send others delivered first, rfl⟩
    | pause rest =>
      rcases ih _ rest with ⟨b, u, now, later, first, second, rfl⟩ | ⟨e, first, rfl⟩
      · exact .inl ⟨b, u, now, later, .pause first, second, rfl⟩
      · exact .inr ⟨e, .pause first, rfl⟩
    | note rest =>
      rcases ih _ rest with ⟨b, u, now, later, first, second, rfl⟩ | ⟨e, first, rfl⟩
      · exact .inl ⟨b, u, now, later, .note first, second, rfl⟩
      · exact .inr ⟨e, .note first, rfl⟩
    | fresh rest =>
      rcases ih _ rest with ⟨b, u, now, later, first, second, rfl⟩ | ⟨e, first, rfl⟩
      · exact .inl ⟨b, u, now, later, .fresh first, second, rfl⟩
      · exact .inr ⟨e, .fresh first, rfl⟩

end RunsTo

/-- An update is applied now or not at all, and if it is, then its version is gone. -/
theorem Delivered.cases {a : Arrival} (h : o.Updates version own)
    (delivered : Delivered s o a log t) :
    (log = [] ∧ t = s) ∨
      (log = [(o.url, own)] ∧ t.IsPast o.url version ∧ ¬s.IsPast o.url version) := by
  have landed : ∀ {e}, s.applied? o = some e → e = own ∧ ¬s.IsPast o.url version := by
    intro e applied
    refine ⟨(h.of_applied applied).1, fun past => ?_⟩
    rw [h.unapplied past] at applied
    cases applied
  cases delivered with
  | lost | refused => exact .inl ⟨rfl, rfl⟩
  | answered applied | unheard applied =>
    obtain ⟨rfl, before⟩ := landed applied
    exact .inr ⟨rfl, h.past, before⟩

/-- A success is only reported of an update that has just been applied. -/
theorem Delivered.of_success {x : Response} (h : o.Updates version own)
    (delivered : Delivered s o (.response x) log t) (success : x.status < 400) :
    log = [(o.url, own)] ∧ x.payload = .ok own.body := by
  have clear : (Arrival.response x).isGarbled = false := by
    simp [Arrival.isGarbled, Transport.unavailableStatuses]
    omega
  cases delivered with
  | answered applied status payload =>
    obtain ⟨rfl, -⟩ := h.of_applied applied
    exact ⟨rfl, payload⟩
  | refused unapplied status => omega
  | lost garbled | unheard _ garbled => simp [clear] at garbled

/-- What is left of the sendings of an update: it is applied once at most, and not at all if its
version is gone; it has been applied if a success is reported. -/
structure SentOnce (o : Outgoing) (version : Int) (own : Edition) (s : Shelf)
    (log : List (Text × Edition)) (r : Except Failure (Int × Json.Members)) : Prop where
  once : log = [] ∨ log = [(o.url, own)]
  past : s.IsPast o.url version → log = []
  success : ∀ status ms, r = .ok (status, ms) → status < 400 →
    log = [(o.url, own)] ∧ ms = own.body

namespace SentOnce

variable {result : Except Failure (Int × Json.Members)} {now later : List (Text × Edition)}
  {a : Arrival}

theorem of_error {e : Failure} : SentOnce o version own s [] (.error e) where
  once := .inl rfl
  past := fun _ => rfl
  success := fun _ _ h => by cases h

/-- The last sending decides. -/
theorem last (h : o.Updates version own) (others : s.Updated t) (delivered : Delivered t o a now u)
    (success : ∀ status ms, result = .ok (status, ms) → status < 400 →
      now = [(o.url, own)] ∧ ms = own.body) : SentOnce o version own s now result := by
  refine ⟨?_, ?_, success⟩
  · rcases delivered.cases h with ⟨none_yet, -⟩ | ⟨applied, -⟩
    · exact .inl none_yet
    · exact .inr applied
  · intro past
    rcases delivered.cases h with ⟨none_yet, -⟩ | ⟨-, -, before⟩
    · exact none_yet
    · exact absurd (others.isPast past) before

/-- One sending before the others. If it has been applied, then none of the others is. -/
theorem before (h : o.Updates version own) (others : s.Updated t)
    (delivered : Delivered t o a now u) (rest : SentOnce o version own u later result) :
    SentOnce o version own s (now ++ later) result := by
  rcases delivered.cases h with ⟨rfl, rfl⟩ | ⟨rfl, past, before⟩
  · exact ⟨rest.once, fun past => rest.past (others.isPast past), rest.success⟩
  · obtain rfl := rest.past past
    refine ⟨.inr rfl, fun past => absurd (others.isPast past) before, ?_⟩
    intro status ms returned success
    cases (rest.success status ms returned success).1

end SentOnce

theorem sendWithin_once {p : Patience} {left k : Nat} {result : Except Failure (Int × Json.Members)}
    (h : o.Updates version own) (run : RunsTo (Transport.sendWithin p o left k) s log result t) :
    SentOnce o version own s log result := by
  induction left generalizing k s log with
  | zero =>
    obtain ⟨rfl, rfl, -⟩ := run.done_inv
    refine ⟨.inl rfl, fun _ => rfl, ?_⟩
    rintro status ms ⟨⟩ success
    cases success
  | succ left ih =>
    -- What is done after a sending that is not the last one.
    have again : ∀ {u : Shelf} {later : List (Text × Edition)} {text : Text},
        RunsTo (do
          Transport.note .warning .transport text
          Transport.backOff p k
          Transport.sendWithin p o left (k + 1)) u later result t →
        SentOnce o version own u later result := by
      intro u later text rest
      rcases rest.note_inv.backOff_inv with rest | ⟨rfl, e, rfl⟩
      · exact ih rest
      · exact .of_error
    rw [Transport.sendWithin] at run
    cases run with
    | send others delivered rest =>
      rename_i a now later
      cases a with
      | response x =>
        simp only [Program.bind] at rest
        split at rest
        · exact .before h others delivered (again rest)
        · cases hp : x.payload with
          | error e =>
            rw [hp] at rest
            obtain ⟨rfl, rfl, -⟩ := rest.fail_inv
            exact .before h others delivered .of_error
          | ok ms =>
            rw [hp] at rest
            obtain ⟨rfl, rfl, -⟩ := rest.done_inv
            rw [List.append_nil]
            refine .last h others delivered ?_
            rintro status ms' ⟨⟩ success
            obtain ⟨applied, payload⟩ := delivered.of_success h success
            exact ⟨applied, Except.ok.inj (hp.symm.trans payload)⟩
      | interrupted i =>
        simp only [Program.bind] at rest
        split at rest
        · obtain ⟨rfl, rfl, -⟩ := rest.note_inv.done_inv
          rw [List.append_nil]
          refine .last h others delivered ?_
          rintro status ms ⟨⟩ success
          cases success
        · exact .before h others delivered (again rest)
      | broken label message =>
        obtain ⟨rfl, rfl, -⟩ := rest.fail_inv
        exact .before h others delivered .of_error
      | silence =>
        obtain ⟨rfl, rfl, -⟩ := rest.fail_inv
        exact .before h others delivered .of_error

/-! ## The update of a proposal -/

namespace Registry

variable {g : Registry} {p : Proposal} {correlation : Text}

/-- The URL at which a proposal is updated. -/
def proposalUrl (g : Registry) (id : Text) : Text :=
  g.baseUrl.dropSlashes ++ (proposalsPath ++ "/" ++ id)

/-- The edition that an update asks to have held. -/
def edition (p : Proposal) (expected : Int) : Edition :=
  ⟨expected + 1, (Store.committed p expected).members⟩

/-- What an update sends asks for the next version in the place of the expected one. -/
theorem updates_outgoing (g : Registry) (p : Proposal) (expected : Int)
    (method correlation : Text) :
    ({ g.outgoing
        { method := "PUT"
          path := proposalsPath ++ "/" ++ p.id
          body := some { p with version := expected + 1 }.toJson
          headers := [("If-Match", expected.repr)] } correlation with method := method } :
      Outgoing).Updates expected (edition p expected) where
  expected := by
    by_cases shown : correlation.isEmpty = true
    · simp [Outgoing.expected?, outgoing, Correlation.propagated, shown]
    · have other : (("If-Match" : Text) == ("X-Correlation-Id" : Text)) = false := by decide
      simp [Outgoing.expected?, outgoing, Correlation.propagated, shown, List.lookup_cons, other]
  edition := rfl
  raised := rfl

/-- A status that does not report success ends the run. -/
theorem checkStatus_inv {status : Int} {ms : Json.Members} {k : Unit → Transport α}
    (run : RunsTo (checkStatus status ms >>= k) s log r t) :
    (status < 400 ∧ RunsTo (k ()) s log r t) ∨ (log = [] ∧ ∃ e, r = .error e) := by
  by_cases success : status < 400
  · rw [checkStatus_ok success] at run
    exact .inl ⟨success, run⟩
  · have failed : 400 ≤ status := by omega
    rw [checkStatus, if_pos failed] at run
    obtain ⟨rfl, rfl, -⟩ := run.note_inv.fail_inv
    exact .inr ⟨rfl, _, rfl⟩

/-- However a registry and its clients deal with an update, it is applied once at most, and if the
call returns then it has been applied, with the next version. -/
theorem update_applied_once {result : Except Failure Proposal} {expected : Int}
    (run : RunsTo (g.update p expected correlation) s log result t) :
    (log = [] ∨ log = [(g.proposalUrl p.id, edition p expected)]) ∧
      ∀ q, result = .ok q → log = [(g.proposalUrl p.id, edition p expected)] ∧
        q = Store.committed p expected := by
  rw [update] at run
  rcases run.bind_inv with ⟨⟨status, ms⟩, u, now, later, first, second, rfl⟩ | ⟨e, first, rfl⟩
  · have sent := sendWithin_once (updates_outgoing g p expected _ correlation) first
    simp only at second
    split at second
    · obtain ⟨rfl, rfl, -⟩ := second.fail_inv
      rw [List.append_nil]
      exact ⟨sent.once, fun q returned => by cases returned⟩
    · rcases checkStatus_inv second with ⟨success, rest⟩ | ⟨rfl, e, rfl⟩
      · obtain ⟨applied, rfl⟩ := sent.success status ms rfl success
        have back : proposalRecord (.object (edition p expected).body) =
            .done (Store.committed p expected) := record_echoed (Proposal.ofJson_toJson _)
        rw [back] at rest
        obtain ⟨rfl, rfl, -⟩ := rest.done_inv
        rw [List.append_nil]
        exact ⟨sent.once, fun q returned => ⟨applied, (Except.ok.inj returned).symm⟩⟩
      · rw [List.append_nil]
        exact ⟨sent.once, fun q returned => by cases returned⟩
  · have sent := sendWithin_once (updates_outgoing g p expected _ correlation) first
    exact ⟨sent.once, fun q returned => by cases returned⟩

end Registry

namespace SignedOnce

/-- The registry holds the first version of the proposal. -/
def shelf : Shelf := fun url =>
  if url = registry.proposalUrl "P" then some ⟨1, proposal.members⟩ else none

def next : Text × Edition := (registry.proposalUrl "P", Registry.edition proposal 1)

def timedOut : Arrival := .interrupted .readTimeout

/-- The first request is lost and the second one answered. -/
theorem runs_answered {x : Response} (status : x.status = 200)
    (payload : x.payload = .ok next.2.body) :
    RunsTo (registry.update proposal 1 "r") shelf [next] (.ok (Store.committed proposal 1))
      (shelf.put next.1 next.2) := by
  have back : Registry.proposalRecord (.object next.2.body) =
      .done (Store.committed proposal 1) := Registry.record_echoed (Proposal.ofJson_toJson _)
  have log : [next] = [] ++ ([next] ++ []) := rfl
  rw [log]
  refine .send (a := timedOut) (.still _) (.lost rfl) (.note (.pause ?_))
  refine .send (a := .response x) (.still _) (.answered rfl status payload) ?_
  have final : registry.patience.statuses.contains 200 = false := rfl
  simp only [Program.bind, final, payload, status, Except.map, Program.ofExcept,
    Bool.false_eq_true, and_false, ↓reduceIte]
  rw [if_neg (by decide), Registry.checkStatus_ok (by decide), Program.done_bind, back]
  exact .done _ _

/-- The response to the first request is lost, and the second one is refused. -/
theorem runs_refused :
    RunsTo (registry.update proposal 1 "r") shelf [next] (.error (.conflict "P" 1 .nothing))
      (shelf.put next.1 next.2) := by
  have log : [next] = [next] ++ ([] ++ []) := rfl
  rw [log]
  refine .send (a := timedOut) (.still _) (.unheard rfl rfl) (.note (.pause ?_))
  exact .send (a := .response ⟨409, [], [], 1⟩) (.still _) (.refused rfl (.inl rfl)) (.fail _ _)

/-- It is applied once, whether the writer is told so or not. -/
theorem lands_once :
    (RunsTo (registry.update proposal 1 "r") shelf [next] (.ok (Store.committed proposal 1))
        (shelf.put next.1 next.2) ∧
      [next] = [(registry.proposalUrl proposal.id, Registry.edition proposal 1)]) ∧
    RunsTo (registry.update proposal 1 "r") shelf [next] (.error (.conflict "P" 1 .nothing))
        (shelf.put next.1 next.2) ∧
      ([next] = [] ∨
        [next] = [(registry.proposalUrl proposal.id, Registry.edition proposal 1)]) := by
  have answered := runs_answered (x := echo (.object next.2.body)) rfl echoes.body
  exact ⟨⟨answered, ((Registry.update_applied_once answered).2 _ rfl).1⟩, runs_refused,
    (Registry.update_applied_once runs_refused).1⟩

end SignedOnce

end QuorumGate
