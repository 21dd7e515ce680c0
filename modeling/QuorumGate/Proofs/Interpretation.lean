import QuorumGate.Program

/-!
# Programs that are answered out of a state

Whoever answers the requests of a program may keep a state. What a program comes to is then a
function of the state that it starts in, and so is the state that it leaves.
-/

namespace QuorumGate.Program

variable {I : Interface} {ε ζ α β σ : Type} {answer : (r : I.Request) → StateM σ (I.Reply r)}

theorem interpret_ask_bind (r : I.Request) (k : I.Reply r → Program I ε α) (s : σ) :
    (ask r done >>= k).interpret answer s =
      (k (answer r s).1).interpret answer (answer r s).2 := rfl

theorem interpret_bind (p : Program I ε α) (k : α → Program I ε β) (s : σ) :
    (p >>= k).interpret answer s =
      match p.interpret answer s with
      | (.ok a, t) => (k a).interpret answer t
      | (.error e, t) => (.error e, t) := by
  induction p generalizing s with
  | done a => rfl
  | fail e => rfl
  | ask r next ih => exact ih (answer r s).1 (answer r s).2

/-- A failure that is given as a value leaves the state that it has come to. -/
theorem interpret_attempt (p : Program I ε α) (s : σ) :
    (p.attempt : Program I ζ (Except ε α)).interpret answer s =
      (.ok (p.interpret answer s).1, (p.interpret answer s).2) := by
  induction p generalizing s with
  | done a => rfl
  | fail e => rfl
  | ask r next ih => exact ih (answer r s).1 (answer r s).2

/-- A program asks only for what is allowed. -/
def Only (allowed : I.Request → Prop) : Program I ε α → Prop
  | done _ | fail _ => True
  | ask r next => allowed r ∧ ∀ reply, (next reply).Only allowed

theorem Only.bind {allowed : I.Request → Prop} {p : Program I ε α} {k : α → Program I ε β}
    (h : p.Only allowed) (hk : ∀ a, (k a).Only allowed) : (p >>= k).Only allowed := by
  induction p with
  | done a => exact hk a
  | fail e => trivial
  | ask r next ih => exact ⟨h.1, fun reply => ih reply (h.2 reply)⟩

/-- What is kept beside the state for other requests neither matters nor changes. -/
theorem Only.interpret_beside {τ : Type} {allowed : I.Request → Prop} {p : Program I ε α}
    {answer' : (r : I.Request) → StateM (σ × τ) (I.Reply r)}
    (alike : ∀ r, allowed r → ∀ s t, answer' r (s, t) = ((answer r s).1, (answer r s).2, t))
    (h : p.Only allowed) (s : σ) (t : τ) :
    p.interpret answer' (s, t) = ((p.interpret answer s).1, (p.interpret answer s).2, t) := by
  induction p generalizing s with
  | done a => rfl
  | fail e => rfl
  | ask r next ih =>
    show (next (answer' r (s, t)).1).interpret answer' (answer' r (s, t)).2 = _
    rw [alike r h.1 s t]
    exact ih (answer r s).1 (h.2 _) (answer r s).2

end QuorumGate.Program
