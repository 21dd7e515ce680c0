import QuorumGate.Proofs.Concurrency.Requests
import QuorumGate.Proofs.Interpretation
import QuorumGate.Surface.Respond

/-!
# Answers and correlation ids

A request is worked on under one correlation id, its own or a new one. Whatever the store, the
verifier and the deployer reply meanwhile, the answer is marked with this id and every document in
it names it, unless the work ends in a way that nobody has foreseen: such an end is reported where
the id is no longer known.
-/

namespace QuorumGate

variable {α β σ : Type} {allowed : Effect → Prop} {ok : α → Prop} {ok' : β → Prop}
  {answers : (e : Effect) → StateM σ e.Reply}

namespace Surface

open Gate

/-- An answer as it leaves the work on a request: it has not been marked, and what it says of a
correlation id is right. -/
structure Outcoming.Unmarked (o : Outcoming) (c : Text) : Prop where
  unmarked : ∀ h ∈ o.headers, h.1 ≠ correlationHeader
  named : ∀ v id, o.body = some v → v.member? "correlation_id" = some id → id = .text c
  problem : ("content-type", (problemType : Text)) ∈ o.headers →
    ∃ p : Problem, o.body = some p.toJson
  status : o.status ≠ 500

variable {c : Text} {o : Outcoming} {g : Gate} {r : Incoming} {path : String} {s : σ}

theorem Page.mem_headers {p : Page} {h : String × Text} (hh : h ∈ p.answer.headers) :
    h = ("content-type", p.kind) ∨ ∃ e, h = ("content-encoding", e) := by
  rcases List.mem_cons.1 hh with rfl | hh
  · exact .inl rfl
  · cases packing : p.packing with
    | none => simp [packing] at hh
    | some e => exact .inr ⟨e, by simpa [packing] using hh⟩

namespace Outcoming.Unmarked

theorem answer {status : Int} {v : Json} (hs : status ≠ 500)
    (named : ∀ id, v.member? "correlation_id" = some id → id = .text c) :
    (Surface.answer status v).Unmarked c where
  unmarked := by
    intro h hh
    obtain rfl := List.mem_singleton.1 hh
    decide
  named := by
    intro w id hw hid
    obtain rfl : v = w := Option.some.inj hw
    exact named id hid
  problem := by
    intro hp
    have same : (problemType : Text) = jsonType :=
      congrArg Prod.snd (List.mem_singleton.1 hp)
    exact absurd same (by decide)
  status := hs

theorem single {status : Int} {k : Text} {v : Json} (hs : status ≠ 500)
    (hk : k ≠ "correlation_id") : (Surface.answer status (.object [(k, v)])).Unmarked c := by
  refine .answer hs fun id hid => ?_
  have other : ((("correlation_id" : Text) == k) = false) := beq_false_of_ne hk.symm
  simp [Json.member?, Json.lookup, List.lookup_cons, other] at hid

theorem withHeader {name : String} {value : Text} (h : o.Unmarked c)
    (mark : name ≠ correlationHeader) (kind : name ≠ "content-type") :
    (o.withHeader name value).Unmarked c where
  unmarked := by
    intro x hx
    rcases List.mem_cons.1 hx with rfl | hx
    · exact mark
    · exact h.unmarked x hx
  named := h.named
  problem := by
    intro hp
    rcases List.mem_cons.1 hp with hp | hp
    · exact absurd (congrArg Prod.fst hp).symm kind
    · exact h.problem hp
  status := h.status

theorem envelope {status : Int} {form : α → Json} {data : α} (hs : status ≠ 500) :
    (g.envelope c status form data).Unmarked c :=
  .answer hs fun _ hid => (Option.some.inj hid).symm

theorem invalid {issues : List Issue} : (Surface.invalid issues).Unmarked c :=
  .single (by decide) (by decide)

theorem plainAnswer {status : Int} {detail : String} (hs : status ≠ 500) :
    (Surface.plainAnswer status detail).Unmarked c :=
  .single hs (by decide)

/-- A page has headers of its own, and no document. -/
theorem page (p : Page) : p.answer.Unmarked c where
  unmarked := by
    intro h hh
    rcases Page.mem_headers hh with rfl | ⟨e, rfl⟩
    · show "content-type" ≠ correlationHeader
      decide
    · show "content-encoding" ≠ correlationHeader
      decide
  named := nofun
  problem := by
    intro hp
    rcases Page.mem_headers hp with same | ⟨e, same⟩
    · exact absurd (congrArg Prod.snd same).symm p.kind_ne
    · have same : "content-type" = "content-encoding" := congrArg Prod.fst same
      exact absurd same (by decide)
  status := by
    show (200 : Int) ≠ 500
    decide

theorem state {status : Int} {word : String} (hs : status ≠ 500) :
    (Gate.state status word).Unmarked c :=
  .single hs (by decide)

end Outcoming.Unmarked

/-! ## Requests that cannot be read -/

/-- What is answered when the work on a request has come to an end, if this end is foreseen: a
result or a refusal, which can also be written. -/
def foreseen? (path : String) (c : Text) (ended : Except Failure Outcoming) : Option Outcoming :=
  let told := match ended with
    | .ok o => some o
    | .error (.rejected e) => some (rejected path c e)
    | .error (.unavailable detail _ _) => some (unavailable path c detail)
    | .error _ => none
  told.filter fun o => o.body.all Json.isWritable

/-- What is answered when the work on a request has come to an end. -/
def ending (path : String) (c : Text) (ended : Except Failure Outcoming) : Outcoming :=
  match foreseen? path c ended with
  | some o => o.withHeader correlationHeader c
  | none => unforeseen path ""

namespace Listing

def request : Incoming :=
  ⟨"GET", "/api/v1/multisig/policies", "", [("X-Correlation-Id", "corr-1")], []⟩

end Listing

end Surface

end QuorumGate
