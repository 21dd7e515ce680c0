import QuorumGate.Proofs.Interpretation

/-!
# What a program has exchanged

Whoever answers a program may make each reply depend on all that was asked and replied before. What
holds of the exchanges and of the outcome then, whatever is replied, is found by recursion on the
program.
-/

namespace QuorumGate

/-- A request with the reply to it. -/
structure Exchange (I : Interface) where
  request : I.Request
  reply : I.Reply request

namespace Program

variable {I : Interface} {ε ζ α β : Type}

/-- Replies to each request in view of what has been exchanged, and keeps the exchange. -/
def recording (answer : List (Exchange I) → (r : I.Request) → I.Reply r) (r : I.Request) :
    StateM (List (Exchange I)) (I.Reply r) :=
  fun log => (answer log r, log ++ [⟨r, answer log r⟩])

/-- Whatever is replied from here on, something holds of all exchanges and of the outcome. -/
def Ensures (post : List (Exchange I) → Except ε α → Prop) :
    Program I ε α → List (Exchange I) → Prop
  | done a, log => post log (.ok a)
  | fail e, log => post log (.error e)
  | ask r next, log => ∀ reply, (next reply).Ensures post (log ++ [⟨r, reply⟩])

variable {p : Program I ε α} {log : List (Exchange I)}
  {post : List (Exchange I) → Except ε α → Prop} {post' : List (Exchange I) → Except ε β → Prop}

namespace Ensures

theorem bind {k : α → Program I ε β} (h : p.Ensures post log)
    (ok : ∀ log' a, log <+: log' → post log' (.ok a) → (k a).Ensures post' log')
    (error : ∀ log' e, post log' (.error e) → post' log' (.error e)) :
    (p >>= k).Ensures post' log := by
  induction p generalizing log with
  | done a => exact ok log a (List.prefix_refl log) h
  | fail e => exact error log e h
  | ask r next ih =>
    intro reply
    apply ih reply (h reply)
    intro log' a later
    exact ok log' a ((List.prefix_append log _).trans later)

/-- A failure that is given as a value. -/
theorem attempt (h : p.Ensures post log) :
    (p.attempt : Program I ζ (Except ε α)).Ensures (fun log' y => ∃ x, y = .ok x ∧ post log' x)
      log := by
  induction p generalizing log with
  | done a => exact ⟨_, rfl, h⟩
  | fail e => exact ⟨_, rfl, h⟩
  | ask r next ih => exact fun reply => ih reply (h reply)

/-- What is ensured for the exchanges of a program holds whatever has been exchanged before. -/
theorem interpret (h : p.Ensures post log)
    (answer : List (Exchange I) → (r : I.Request) → I.Reply r) (before : List (Exchange I)) :
    ∃ x own, p.interpret (recording answer) before = (x, before ++ own) ∧ post (log ++ own) x := by
  induction p generalizing log before with
  | done a =>
    refine ⟨_, [], Prod.ext rfl (List.append_nil before).symm, ?_⟩
    rw [List.append_nil]
    exact h
  | fail e =>
    refine ⟨_, [], Prod.ext rfl (List.append_nil before).symm, ?_⟩
    rw [List.append_nil]
    exact h
  | ask r next ih =>
    obtain ⟨x, own, run, holds⟩ :=
      ih (answer before r) (h (answer before r)) (before ++ [⟨r, answer before r⟩])
    refine ⟨x, ⟨r, answer before r⟩ :: own, ?_, ?_⟩
    · rw [List.append_assoc] at run
      exact run
    · rw [List.append_assoc] at holds
      exact holds

end Ensures

end Program

end QuorumGate
