/-!
# Programs over an interface

A program either ends, with a value or a failure, or asks a request and goes on with the reply.
What a request does is left to whoever answers it, so one program can be run against a store in
memory, a remote one, a script of answers, or side by side with rivals.
-/

namespace QuorumGate

/-- The requests that can be asked, and what a reply to each looks like. -/
structure Interface where
  Request : Type
  Reply : Request → Type

inductive Program (I : Interface) (ε α : Type) where
  | done (a : α)
  | fail (e : ε)
  | ask (r : I.Request) (next : I.Reply r → Program I ε α)

namespace Program

variable {I : Interface} {ε ζ α β : Type}

def bind : Program I ε α → (α → Program I ε β) → Program I ε β
  | done a, k => k a
  | fail e, _ => fail e
  | ask r next, k => ask r fun reply => (next reply).bind k

instance : Monad (Program I ε) where
  pure := done
  bind := bind

@[simp] theorem pure_eq (a : α) : (pure a : Program I ε α) = done a := rfl
@[simp] theorem done_bind (a : α) (k : α → Program I ε β) : (done a >>= k) = k a := rfl
@[simp] theorem fail_bind (e : ε) (k : α → Program I ε β) : (fail e >>= k) = fail e := rfl
@[simp] theorem ask_bind (r : I.Request) (next : I.Reply r → Program I ε α)
    (k : α → Program I ε β) : (ask r next >>= k) = ask r fun reply => next reply >>= k := rfl

theorem bind_done (p : Program I ε α) : (p >>= done) = p := by
  induction p with
  | done a => rfl
  | fail e => rfl
  | ask r next ih => simp [ih]

theorem bind_assoc (p : Program I ε α) (k : α → Program I ε β) (l : β → Program I ε ζ) :
    (p >>= k >>= l) = p >>= fun a => k a >>= l := by
  induction p with
  | done a => rfl
  | fail e => rfl
  | ask r next ih => simp [ih]

/-- Asks one request. -/
def request (r : I.Request) : Program I ε (I.Reply r) := ask r done

def ofExcept : Except ε α → Program I ε α
  | .ok a => done a
  | .error e => fail e

/-- Runs to the end, and gives a failure as a value. -/
def attempt : Program I ε α → Program I ζ (Except ε α)
  | done a => done (.ok a)
  | fail e => done (.error e)
  | ask r next => ask r fun reply => (next reply).attempt

/-- Goes on after a failure. -/
def recover : Program I ε α → (ε → Program I ζ α) → Program I ζ α
  | done a, _ => done a
  | fail e, handle => handle e
  | ask r next, handle => ask r fun reply => (next reply).recover handle

/-- Runs a program, with every request answered in the monad `m`. -/
def interpret {m : Type → Type} [Monad m] (answer : (r : I.Request) → m (I.Reply r)) :
    Program I ε α → m (Except ε α)
  | done a => pure (.ok a)
  | fail e => pure (.error e)
  | ask r next => do
    let reply ← answer r
    (next reply).interpret answer

end Program

end QuorumGate
