import Mathlib.Data.List.Nodup
import QuorumGate.Proofs.Concurrency.Answers

/-!
# Signers side by side

Several signers sign one open proposal at the same time, each as often as he likes, and nobody else
writes to it. Every conflict of one call is paid for by the signature of another one, and there are
fewer signers than attempts, so that nobody runs out of attempts: each signer signs once.
-/

namespace QuorumGate

variable {rules : ExecutionRules} {u v w : World} {p q b old new : Proposal} {P : Policy}
  {signers : List Text} {added : List Signature} {news past : Chronicle} {i j : Nat}
  {id correlation signer : Text} {s t : Signature} {e : Failure} {call : Call}
  {request : SigningRequest}

/-- A call to sign a proposal, for a signer, that has begun since an earlier world. -/
structure SignsIn (w v : World) (id : Text) (i : Nat) (signer : Text) : Prop where
  since : w.tasks.length ≤ i
  call : ∃ request correlation, v.calls[i]? = some (.sign id request correlation) ∧
    request.signer.strip = signer

namespace SignsIn

theorem signer_unique {other : Text} (h : SignsIn w v id i signer)
    (h' : SignsIn w v id i other) : signer = other := by
  obtain ⟨request, correlation, hc, rfl⟩ := h.call
  obtain ⟨request', correlation', hc', rfl⟩ := h'.call
  rw [hc] at hc'
  cases hc'
  rfl

theorem of_calls (h : SignsIn w v id i signer) (hc : u.calls = v.calls) :
    SignsIn w u id i signer := ⟨h.since, hc ▸ h.call⟩

end SignsIn

/-- A round of signing: some members of the policy of an open proposal have not signed it yet, and
sign it now, each once or more often. Nobody else signs it or writes to it, and the surroundings are
quiet. There are fewer signers than attempts. -/
structure Round (rules : ExecutionRules) (p : Proposal) (P : Policy) (signers : List Text)
    (w v : World) : Prop where
  reached : Reachable rules (.any []) w
  stored : w.store.proposal? p.id = some p
  policy : w.store.policy? p.policyId = some P
  still_open : p.status.isTerminal = false
  in_window : p.isExpired w.clock = .ok false
  distinct : signers.Nodup
  authorised : ∀ s ∈ signers, s ∈ P.signers
  unsigned : ∀ s ∈ signers, p.hasSigned s = false
  few : signers.length < rules.attempts
  run : Follows rules (Quiet p) w v
  alone : ∀ e ∈ v.since w, ∀ b q, e.event = .wrote b q → q.id = p.id →
    ∃ signer, SignsIn w v p.id e.task signer
  named : ∀ i signer, SignsIn w v p.id i signer → signer ∈ signers
  covering : ∀ s ∈ signers, ∃ i, SignsIn w v p.id i s

/-- All calls of a round have ended. -/
def RoundOver (p : Proposal) (w v : World) : Prop :=
  ∀ i signer, SignsIn w v p.id i signer → v.HasEnded i

/-- A proposal to which signatures have been added in a round, and nothing else has been done. -/
structure Grown (w v : World) (p q : Proposal) (added : List Signature) : Prop where
  still_open : q.status.isTerminal = false
  origin : q.origin = p.origin
  signatures : q.signatures = p.signatures ++ added
  version : q.version = p.version + added.length
  drawn : ∀ s ∈ added, ∃ i, SignsIn w v p.id i s.signer ∧ ⟨i, .drew .signature s.id⟩ ∈ v.chronicle

namespace Round

/-! ## What is written in a round -/

variable (R : Round rules p P signers w v)
include R

theorem sequel : Sequel .quiet rules w v :=
  ⟨R.reached, ⟨_, rfl⟩, Conditions.quiet_dependable, R.run.mono Conditions.quiet_permits⟩

theorem lawful : Lawful .quiet v.chronicle := R.sequel.lawful

theorem stored_before : Stored .quiet w.chronicle p.id p := R.sequel.stored_before R.stored

theorem policy_after :
    (replay Conditions.quiet.founding v.chronicle).policy? p.policyId = some P := by
  have found := R.policy
  rw [R.reached.store_eq] at found
  rw [← World.since_append R.sequel.suffix]
  exact policy?_mono found

theorem known : p ∈ versions v.chronicle p.id := R.sequel.known R.stored

theorem not_mem_before (hi : w.tasks.length ≤ i) (e : Event) : ⟨i, e⟩ ∉ w.chronicle :=
  R.reached.not_mem_of_le hi e

/-- Whatever a call sees that has begun in a round is quiet. -/
theorem quiet {e : Event} (hi : w.tasks.length ≤ i) (he : ⟨i, e⟩ ∈ v.chronicle) : e.Quiet p := by
  rw [← World.since_append R.sequel.suffix] at he
  rcases List.mem_append.1 he with he | he
  · exact (R.run.quiet R.in_window).2 _ he
  · exact absurd he (R.not_mem_before hi e)

/-- A change that a call of a round makes is one more signature. -/
theorem grown_change (hb : past <:+ v.chronicle) (hc : Change .quiet past i old new)
    (hold : Grown w v p old added) (hi : SignsIn w v p.id i signer) :
    ∃ s, Grown w v p new (added ++ [s]) := by
  obtain ⟨request, correlation, called, rfl⟩ := hi.call
  have mine := R.sequel.began called
  cases hc with
  | @signed policy request' correlation' s call policy_eq still_open member unsigned signer_eq
      data_eq verified drawn =>
    have same := R.lawful.began_unique mine (hb.subset call)
    rw [Call.sign.injEq] at same
    obtain ⟨-, rfl, -⟩ := same
    refine ⟨s, Proposal.isTerminal_quorumStatus policy _, hold.origin, ?_, ?_, ?_⟩
    · rw [← List.append_assoc, ← hold.signatures]
      rfl
    · rw [List.length_append, List.length_singleton, Int.natCast_add, ← Int.add_assoc,
        ← hold.version]
      rfl
    · refine List.forall_mem_append.2 ⟨hold.drawn, List.forall_mem_singleton.2 ⟨i, ?_⟩⟩
      exact ⟨signer_eq ▸ hi, hb.subset drawn⟩
  | expired still_open seen overdue =>
    have in_window := R.quiet hi.since (hb.subset seen)
    rw [Proposal.isExpired_of_origin hold.origin] at overdue
    rw [Event.Quiet, overdue] at in_window
    cases in_window
  | claimed call => cases R.lawful.began_unique mine (hb.subset call)
  | recorded executed =>
    have still_open := hold.still_open
    rw [executed] at still_open
    cases still_open

/-- In the course of a round the proposal only grows. -/
theorem grown : ∃ q added, Stored .quiet v.chronicle p.id q ∧ Grown w v p q added := by
  have first : Grown w v p p [] :=
    ⟨R.still_open, rfl, (List.append_nil _).symm, by simp, by simp⟩
  have kept : ∀ past i old new, ⟨i, .wrote (some old) new⟩ :: past <:+ v.chronicle →
      (∃ signer, SignsIn w v p.id i signer) → Change .quiet past i old new →
      (∃ added, Grown w v p old added) → ∃ added, Grown w v p new added := by
    rintro past i old new hs ⟨signer, hi⟩ hc ⟨added, grown⟩
    obtain ⟨s, grown⟩ := R.grown_change ((List.suffix_cons _ past).trans hs) hc grown hi
    exact ⟨added ++ [s], grown⟩
  obtain ⟨q, hq, added, grown⟩ := R.sequel.stored_after
    (fun i => ∃ signer, SignsIn w v p.id i signer) R.stored_before ⟨[], first⟩ R.alone kept
  exact ⟨q, added, hq, grown⟩

/-! ## How the calls of a round end -/

/-- The stored record descends from all versions of the proposal, and they are of one origin. -/
theorem of_version (hb : b ∈ versions v.chronicle p.id) (hq : Stored .quiet v.chronicle p.id q) :
    Descends b q ∧ b.origin = p.origin :=
  ⟨Recent.of_stored List.suffix_rfl R.lawful hq b hb, R.lawful.version_origin R.known hb⟩

theorem version_open (hb : b ∈ versions v.chronicle p.id) (hq : Stored .quiet v.chronicle p.id q)
    (grown : Grown w v p q added) : b.status.isTerminal = false := by
  cases hs : b.status.isTerminal with
  | false => rfl
  | true =>
    have closed := (R.of_version hb hq).1.isTerminal hs
    rw [grown.still_open] at closed
    cases closed

/-- The calls of a round do not see the window closed. -/
theorem version_in_window {t : Instant} (hb : b ∈ versions v.chronicle p.id)
    (hq : Stored .quiet v.chronicle p.id q) (hi : w.tasks.length ≤ i)
    (seen : ⟨i, .saw t⟩ ∈ v.chronicle) : b.isExpired t = .ok false := by
  rw [Proposal.isExpired_of_origin (R.of_version hb hq).2]
  exact R.quiet hi seen

theorem stage_eq (hq : Stored .quiet v.chronicle p.id q) (grown : Grown w v p q added) :
    q.status = q.quorumStatus P := by
  have policy_eq : (replay Conditions.quiet.founding v.chronicle).policy? q.policyId = some P := by
    rw [Proposal.policyId_eq_of_origin grown.origin]
    exact R.policy_after
  exact Conditions.quiet_dependable.stage R.lawful (mem_versions_of_stored hq) policy_eq
    grown.still_open

/-- The signers of what is added have not signed before, and sign once. -/
theorem added_signers (hq : Stored .quiet v.chronicle p.id q) (grown : Grown w v p q added) :
    (added.map (·.signer)).Nodup ∧ ∀ s ∈ added, s.signer ∈ signers := by
  obtain ⟨Q, hQ⟩ := R.lawful.backed (mem_written_of_proposal? hq)
  have distinct := hQ.distinct
  rw [grown.signatures, List.map_append] at distinct
  refine ⟨(List.nodup_append.1 distinct).2.1, fun s hs => ?_⟩
  obtain ⟨i, hi, -⟩ := grown.drawn s hs
  exact R.named i _ hi

theorem length_added (hq : Stored .quiet v.chronicle p.id q) (grown : Grown w v p q added) :
    added.length ≤ signers.length := by
  obtain ⟨distinct, among⟩ := R.added_signers hq grown
  have subset : added.map (·.signer) ⊆ signers := by
    intro x hx
    obtain ⟨s, hs, rfl⟩ := List.mem_map.1 hx
    exact among s hs
  have bound := distinct.length_le_of_subset subset
  rwa [List.length_map] at bound

/-- A signature of a call is one of those that were added, for its signer. -/
theorem own_added (grown : Grown w v p q added) (hi : SignsIn w v p.id i signer)
    (hs : s ∈ ownSignatures v.chronicle i q) : s ∈ added ∧ s.signer = signer := by
  obtain ⟨mem, drawn⟩ := mem_ownSignatures.1 hs
  rw [grown.signatures] at mem
  rcases List.mem_append.1 mem with before | after
  · have known := (mem_versions.1 (mem_versions_of_stored R.stored_before)).1
    obtain ⟨j, hj⟩ := R.reached.lawful.signatureOf known s before
    obtain rfl := R.lawful.drew_unique drawn (R.sequel.suffix.subset hj.drawn)
    exact absurd hj.drawn (R.not_mem_before hi.since _)
  · obtain ⟨j, hj, drawn'⟩ := grown.drawn s after
    obtain rfl := R.lawful.drew_unique drawn drawn'
    exact ⟨after, hj.signer_unique hi⟩

/-- Who is turned away has signed before. -/
theorem again_of_refused (hq : Stored .quiet v.chronicle p.id q) (grown : Grown w v p q added)
    (hi : SignsIn w v p.id i signer)
    (refused : SigningRefused .quiet w.chronicle rules.attempts p.id signer i v.chronicle e) :
    e = .rejected (.alreadySigned signer p.id) ∧ ∃ s ∈ added, s.signer = signer := by
  have unsigned := R.unsigned signer (R.named i signer hi)
  cases refused with
  | missing unknown =>
    have known := mem_versions_of_stored R.stored_before
    rw [unknown] at known
    cases known
  | closed known terminal =>
    rw [R.version_open known hq grown] at terminal
    cases terminal
  | late known late =>
    obtain ⟨t, seen, overdue⟩ := late
    rw [R.version_in_window known hq hi.since seen] at overdue
    cases overdue
  | incomparable known seen fault =>
    rw [R.version_in_window known hq hi.since seen] at fault
    cases fault
  | stranger known policy_eq stranger =>
    rw [Proposal.policyId_eq_of_origin (R.of_version known hq).2, R.policy_after] at policy_eq
    cases policy_eq
    exact absurd (R.authorised signer (R.named i signer hi)) stranger
  | @again b known signed =>
    refine ⟨rfl, ?_⟩
    obtain ⟨s, hs, same⟩ := List.any_eq_true.1 signed
    have mem := (R.of_version known hq).1.signatures.subset hs
    rw [grown.signatures] at mem
    rcases List.mem_append.1 mem with before | after
    · have signed_before : p.hasSigned signer = true := List.any_eq_true.2 ⟨s, before, same⟩
      rw [unsigned] at signed_before
      cases signed_before
    · exact ⟨s, after, beq_iff_eq.1 same⟩
  | unverified verified => cases R.quiet hi.since verified
  | unchecked verified => cases R.quiet hi.since verified
  | outpaced known spent =>
    -- Every attempt was paid for by another signature, and there are not enough of them.
    have paid := spent Conditions.quiet_faithful p (mem_versions_of_stored R.stored_before)
    have newest := (R.of_version known hq).1.version_le
    have count := grown.version
    have bound := R.length_added hq grown
    have few := R.few
    omega

/-- A call of a round that returns has added one signature, for its signer. -/
theorem returned_adds {a : Proposal} (hq : Stored .quiet v.chronicle p.id q)
    (grown : Grown w v p q added) (hi : SignsIn w v p.id i signer)
    (hr : v.Returned i (.sign p.id request correlation) a) :
    ∃ s ∈ added, s.signer = signer ∧ ⟨i, .drew .signature s.id⟩ ∈ v.chronicle := by
  have recorded : Recorded .quiet i p.id a v.chronicle := R.sequel.ends hi.since hr
  obtain ⟨s, -, own⟩ := recorded.own
  have hs : s ∈ ownSignatures v.chronicle i q := by
    rw [own q hq]
    exact List.mem_singleton.2 rfl
  obtain ⟨mem, same⟩ := R.own_added grown hi hs
  exact ⟨s, mem, same, (mem_ownSignatures.1 hs).2⟩

/-- A call of a round that fails has added nothing, and its signer has signed by another one. -/
theorem raised_again (hq : Stored .quiet v.chronicle p.id q) (grown : Grown w v p q added)
    (hc : v.calls[i]? = some (.sign p.id request correlation)) (hi : w.tasks.length ≤ i)
    (hr : v.Raised i (.sign p.id request correlation) e) :
    e = .rejected (.alreadySigned request.signer.strip p.id) ∧
      (∃ s ∈ added, s.signer = request.signer.strip) ∧ ownSignatures v.chronicle i q = [] := by
  obtain ⟨reason, trace⟩ : Declined .quiet w.chronicle rules.attempts p.id request.signer.strip i e
    v.chronicle := R.sequel.ends hi hr
  obtain ⟨same, again⟩ := R.again_of_refused hq grown ⟨hi, request, correlation, hc, rfl⟩ reason
  refine ⟨same, again, ?_⟩
  rcases trace with clean | ⟨-, lossy, -⟩
  · exact clean q hq
  · exact absurd Conditions.quiet_faithful lossy

/-- When the round is over, each of the signers has signed. -/
theorem signers_added (ended : RoundOver p w v) (hq : Stored .quiet v.chronicle p.id q)
    (grown : Grown w v p q added) : ∀ x ∈ signers, ∃ s ∈ added, s.signer = x := by
  intro x hx
  obtain ⟨i, hi⟩ := R.covering x hx
  obtain ⟨request, correlation, hc, rfl⟩ := hi.call
  obtain ⟨result, he⟩ := (ended i _ hi).of_calls hc
  cases result with
  | ok a =>
    obtain ⟨s, hs, same, -⟩ := R.returned_adds hq grown hi he
    exact ⟨s, hs, same⟩
  | error e => exact (R.raised_again hq grown hc hi.since he).2.1

theorem added_perm (ended : RoundOver p w v) (hq : Stored .quiet v.chronicle p.id q)
    (grown : Grown w v p q added) : (added.map (·.signer)).Perm signers := by
  obtain ⟨distinct, among⟩ := R.added_signers hq grown
  refine (List.perm_ext_iff_of_nodup distinct R.distinct).2 fun x => ?_
  rw [List.mem_map]
  constructor
  · rintro ⟨s, hs, rfl⟩
    exact among s hs
  · exact R.signers_added ended hq grown x

/-- The call that has put the signature of a signer on the record returns, and all his other calls
are told that he has signed already. -/
theorem one_returns (ended : RoundOver p w v) (hq : Stored .quiet v.chronicle p.id q)
    (grown : Grown w v p q added) {x : Text} (hx : x ∈ signers) :
    ∃ i, SignsIn w v p.id i x ∧
      (∃ request correlation a, v.Returned i (.sign p.id request correlation) a) ∧
      ∀ j, SignsIn w v p.id j x → j ≠ i → ∃ request correlation,
        v.Raised j (.sign p.id request correlation) (.rejected (.alreadySigned x p.id)) := by
  obtain ⟨s, hs, rfl⟩ := R.signers_added ended hq grown x hx
  obtain ⟨i, hi, drawn⟩ := grown.drawn s hs
  refine ⟨i, hi, ?_, fun j hj hne => ?_⟩
  · obtain ⟨request, correlation, hc, same⟩ := hi.call
    obtain ⟨result, he⟩ := (ended i _ hi).of_calls hc
    cases result with
    | ok a => exact ⟨request, correlation, a, he⟩
    | error e =>
      have own : s ∈ ownSignatures v.chronicle i q := by
        rw [mem_ownSignatures, grown.signatures]
        exact ⟨List.mem_append_right _ hs, drawn⟩
      rw [(R.raised_again hq grown hc hi.since he).2.2] at own
      cases own
  · obtain ⟨request, correlation, hc, same⟩ := hj.call
    obtain ⟨result, he⟩ := (ended j _ hj).of_calls hc
    cases result with
    | ok a =>
      obtain ⟨t, ht, same, drawn'⟩ := R.returned_adds hq grown hj he
      obtain rfl := List.inj_on_of_nodup_map (R.added_signers hq grown).1 ht hs same
      exact absurd (R.lawful.drew_unique drawn' drawn) hne
    | error e =>
      obtain ⟨rfl, -⟩ := R.raised_again hq grown hc hj.since he
      exact ⟨request, correlation, same ▸ he⟩

/-! ## Rounds come to an end -/

/-- A call of a round is served, and the round goes on. -/
theorem serve {choice : Choice} (hi : SignsIn w v p.id i signer) (hq : choice.isQuiet = true)
    (hm : v.move rules (.serve i choice) = some u) : Round rules p P signers w u := by
  have calls : u.calls = v.calls := by simpa [Move.call?] using World.calls_move hm
  have back : ∀ j x, SignsIn w u p.id j x → SignsIn w v p.id j x :=
    fun j x h => h.of_calls calls.symm
  refine { R with
    run := R.run.move (.serve i choice) (fun _ _ => hq) hm
    alone := ?_
    named := ?_
    covering := ?_ }
  · refine World.writers_served (fun j => ∃ x, SignsIn w u p.id j x) R.sequel.suffix hm
      ⟨signer, hi.of_calls calls⟩ fun e he b q hw hid => ?_
    obtain ⟨x, hj⟩ := R.alone e he b q hw hid
    exact ⟨x, hj.of_calls calls⟩
  · exact fun j x h => R.named j x (back j x h)
  · intro x hx
    obtain ⟨j, hj⟩ := R.covering x hx
    exact ⟨j, hj.of_calls calls⟩

/-- However far a round has come, its calls can be served to their end. -/
theorem completes : ∃ u, Round rules p P signers w u ∧ Follows rules (Quiet p) v u ∧
    u.calls = v.calls ∧ RoundOver p w u := by
  have called : ∀ i, (∃ signer, SignsIn w v p.id i signer) → ∃ call, v.calls[i]? = some call := by
    rintro i ⟨signer, hi⟩
    obtain ⟨request, correlation, hc, -⟩ := hi.call
    exact ⟨_, hc⟩
  have served : ∀ u u' i choice, Round rules p P signers w u ∧ Follows rules (Quiet p) v u →
      u.calls = v.calls → (∃ signer, SignsIn w v p.id i signer) → choice.isQuiet = true →
      u.move rules (.serve i choice) = some u' →
        Round rules p P signers w u' ∧ Follows rules (Quiet p) v u' := by
    rintro u u' i choice ⟨R', follows⟩ calls ⟨signer, hi⟩ quiet moved
    exact ⟨R'.serve (hi.of_calls calls) quiet moved,
      follows.move (.serve i choice) (fun _ _ => quiet) moved⟩
  obtain ⟨u, ⟨last, follows⟩, calls, ended⟩ :=
    World.exists_ended rules (fun i => ∃ signer, SignsIn w v p.id i signer)
    (fun u => Round rules p P signers w u ∧ Follows rules (Quiet p) v u) called ⟨R, .refl⟩ served
  exact ⟨u, last, follows, calls, fun i signer h => ended i ⟨signer, h.of_calls calls.symm⟩⟩

/-- The calls of a round can be served to their end, whatever has happened so far. When they have
ended, each signer has signed once: one of his calls has returned, and all others were told that he
has signed already. Nothing but these signatures has been added, and the stage is as their number
says. -/
theorem each_signs_once :
    (∃ u, Round rules p P signers w u ∧ Follows rules (Quiet p) v u ∧ u.calls = v.calls ∧
      RoundOver p w u) ∧
    (RoundOver p w v → ∃ q added, v.store.proposal? p.id = some q ∧
      q.signatures = p.signatures ++ added ∧ (added.map (·.signer)).Perm signers ∧
      q.version = p.version + signers.length ∧
      (q.status = .approved ↔ P.threshold ≤ q.signatures.length) ∧
      ∀ x ∈ signers, ∃ i, SignsIn w v p.id i x ∧
        (∃ request correlation a, v.Returned i (.sign p.id request correlation) a) ∧
        ∀ j, SignsIn w v p.id j x → j ≠ i → ∃ request correlation,
          v.Raised j (.sign p.id request correlation) (.rejected (.alreadySigned x p.id))) := by
  refine ⟨R.completes, fun ended => ?_⟩
  obtain ⟨q, added, hq, grown⟩ := R.grown
  have perm := R.added_perm ended hq grown
  have count : added.length = signers.length := by rw [← perm.length_eq, List.length_map]
  refine ⟨q, added, by rw [R.sequel.sound.store_eq]; exact hq, grown.signatures, perm, ?_, ?_,
    fun x hx => R.one_returns ended hq grown hx⟩
  · rw [grown.version, count]
  · rw [R.stage_eq hq grown, Proposal.quorumStatus]
    split <;> simp_all

end Round

namespace OneOfTwo

/-- Whether a move is a quiet one. Time stands still. -/
def quietly : World → Move → Bool := World.allows (fun _ choice => choice.isQuiet) fun _ _ => false

theorem quiet_of_quietly (u : World) (m : Move) (h : quietly u m = true) : Quiet p u m := by
  cases m with
  | start call => trivial
  | tick t => cases h
  | serve i choice =>
    intro r hr
    rwa [quietly, World.allows, hr] at h

def asking : World :=
  ((World.opening [] start).play OneOfTwo.rules lossy (proposed policy)).get (by decide +kernel)

theorem play_asking : (World.opening [] start).play OneOfTwo.rules lossy (proposed policy) =
    some asking := (Option.some_get _).symm

def asked : Proposal := (asking.store.proposal? (letter 'Q')).get (by decide +kernel)

def askedPolicy : Policy := (asking.store.policy? asked.policyId).get (by decide +kernel)

/-- Two calls of one signer and one call of the other, who is the first to write. -/
def crowdMoves : List Move :=
  [.start (.sign (letter 'Q') ⟨letter 'a', none⟩ (letter 'r')),
    .start (.sign (letter 'Q') ⟨letter 'b', none⟩ (letter 'r')),
    .start (.sign (letter 'Q') ⟨letter 'a', none⟩ (letter 'r'))] ++
  serve 2 [.plain, .plain, .plain, .plain, .id (letter 'S')] ++
  serve 3 [.plain, .plain, .plain, .plain, .id (letter 'T')] ++
  serve 4 [.plain, .plain, .plain, .plain, .id (letter 'U')] ++
  serve 3 [.plain, .plain] ++
  serve 2 [.plain, .plain, .plain, .plain, .plain, .id (letter 'V'), .plain, .plain] ++
  serve 4 [.plain, .plain, .plain, .plain]

def crowd : World := (asking.play OneOfTwo.rules quietly crowdMoves).get (by decide +kernel)

theorem play_crowd : asking.play OneOfTwo.rules quietly crowdMoves = some crowd :=
  (Option.some_get _).symm

theorem calls_crowd : crowd.calls =
    [.createPolicy policy (letter 'r'), .createProposal draft (letter 'r'),
      .sign (letter 'Q') ⟨letter 'a', none⟩ (letter 'r'),
      .sign (letter 'Q') ⟨letter 'b', none⟩ (letter 'r'),
      .sign (letter 'Q') ⟨letter 'a', none⟩ (letter 'r')] := by
  rw [World.calls_play play_crowd, World.calls_play play_asking]
  rfl

theorem id_asked : asked.id = letter 'Q' := by decide +kernel

/-- The calls that sign in the crowd, each with its signer. -/
def crowdSigners : List (Nat × Text) := [(2, letter 'a'), (3, letter 'b'), (4, letter 'a')]

theorem signsIn_crowd {x : Text} (h : (i, x) ∈ crowdSigners) :
    SignsIn asking crowd asked.id i x := by
  have since : asking.tasks.length = 2 := by decide +kernel
  rw [id_asked]
  simp only [crowdSigners, List.mem_cons, Prod.mk.injEq, List.not_mem_nil, or_false] at h
  rcases h with ⟨rfl, rfl⟩ | ⟨rfl, rfl⟩ | ⟨rfl, rfl⟩ <;>
    exact ⟨by omega, _, _, by rw [calls_crowd]; rfl, by decide⟩

theorem mem_crowdSigners {x : Text} (h : SignsIn asking crowd asked.id i x) :
    (i, x) ∈ crowdSigners := by
  obtain ⟨request, correlation, hc, rfl⟩ := h.call
  rw [calls_crowd, id_asked] at hc
  rcases i with _ | _ | _ | _ | _ | i
  all_goals
    simp only [Nat.zero_add, List.getElem?_cons_zero, List.getElem?_cons_succ, List.getElem?_nil,
      Option.some.injEq, reduceCtorEq] at hc
  all_goals
    cases hc
    decide

theorem crowd_round :
    Round OneOfTwo.rules asked askedPolicy [letter 'a', letter 'b'] asking crowd where
  reached := (reachable_lossy play_asking).lenient
  stored := by
    rw [id_asked]
    exact (Option.some_get _).symm
  policy := (Option.some_get _).symm
  still_open := by decide +kernel
  in_window := by decide +kernel
  distinct := by decide +kernel
  authorised := by decide +kernel
  unsigned := by decide +kernel
  few := by decide
  run := Follows.of_play quiet_of_quietly .refl play_crowd
  alone := by
    have writers : (crowd.since asking).all (fun e =>
        e.event.written?.isNone || crowdSigners.any (·.1 == e.task)) = true := by decide +kernel
    intro e he b q hw _
    have writer := List.all_eq_true.1 writers e he
    rw [hw] at writer
    obtain ⟨⟨i, x⟩, hx, hi⟩ := List.any_eq_true.1 writer
    obtain rfl : i = e.task := beq_iff_eq.1 hi
    exact ⟨x, signsIn_crowd hx⟩
  named := by
    intro i x h
    have named : ∀ s ∈ crowdSigners, s.2 ∈ [letter 'a', letter 'b'] := by decide
    exact named _ (mem_crowdSigners h)
  covering := by
    intro x hx
    have found : ∀ x ∈ [letter 'a', letter 'b'], ∃ s ∈ crowdSigners, s.2 = x := by decide
    obtain ⟨⟨i, x⟩, hs, rfl⟩ := found x hx
    exact ⟨i, signsIn_crowd hs⟩

theorem crowd_over : RoundOver asked asking crowd := by
  intro i x h
  obtain ⟨request, correlation, hc, -⟩ := h.call
  have ended : ∀ s ∈ crowdSigners, crowd.hasEnded s.1 = true := by decide +kernel
  exact .of_hasEnded hc (ended _ (mem_crowdSigners h))

/-- Both have signed once, the one with two calls as well as the other. -/
theorem crowd_signed : ∃ q added, crowd.store.proposal? (letter 'Q') = some q ∧
    q.signatures = asked.signatures ++ added ∧
    (added.map (·.signer)).Perm [letter 'a', letter 'b'] ∧ q.version = 3 ∧
    q.status = .approved := by
  obtain ⟨q, added, hq, signatures, perm, version, approved, -⟩ :=
    (Round.each_signs_once crowd_round).2 crowd_over
  have first : asked.version = 1 := by decide +kernel
  have threshold : askedPolicy.threshold = 1 := by decide +kernel
  have count : added.length = 2 := by rw [← List.length_map, perm.length_eq]; rfl
  refine ⟨q, added, id_asked ▸ hq, signatures, perm, ?_, approved.2 ?_⟩
  · rw [version, first]
    rfl
  · rw [signatures, List.length_append, count, threshold]
    omega

end OneOfTwo

end QuorumGate
