/-
  The certificate and key of the listener.

  The listener keeps the context it was opened with, but each handshake is served with the context of the last
  pair that could be loaded.  A pair that cannot be loaded changes nothing, so the two files may be replaced
  one after the other.
-/
import NetAttach.Failure
import NetAttach.PathName

namespace NetAttach

/-- What comes of loading a certificate and its key into a context. -/
inductive Loading (γ : Type) where
  | loaded (context : γ)
  /-- The files cannot be read, or do not belong together. -/
  | unusable (text : Text)
  | failed (f : Failure)

/-- The contexts of a listener, and how often the second one was replaced. -/
structure KeyPair (γ : Type) where
  listener : γ
  current : γ
  reloads : Nat
deriving DecidableEq

namespace KeyPair

variable {γ : Type}

/-- Why there is no pair to begin with. -/
inductive Error where
  | unusable (certificate : PathName) (text : Text)
  | failed (f : Failure)
deriving DecidableEq

/-- What is said when there is no pair. -/
def Error.message : Error → Text
  | unusable certificate text => "error loading certificate " ++ certificate.text ++ ": " ++ text
  | failed f => f.message

/-- Begin with the first pair. -/
def start (certificate : PathName) : Loading γ → Except Error (KeyPair γ)
  | .loaded context => .ok ⟨context, context, 0⟩
  | .unusable text => .error (.unusable certificate text)
  | .failed f => .error (.failed f)

/-- Replace the pair, if another one can be loaded. -/
def reload (k : KeyPair γ) : Loading γ → Except Failure Bool × KeyPair γ
  | .loaded context => (.ok true, { k with current := context, reloads := k.reloads + 1 })
  | .unusable _ => (.ok false, k)
  | .failed f => (.error f, k)

/-- The context with which a handshake goes on that begins with `initial`. -/
def serve [DecidableEq γ] (k : KeyPair γ) (initial : γ) : γ :=
  if k.current = initial then initial else k.current

/-- Whatever a handshake begins with, it is served with the current pair. -/
@[simp] theorem serve_eq_current [DecidableEq γ] (k : KeyPair γ) (initial : γ) :
    k.serve initial = k.current := by
  unfold serve
  split
  · next h => exact h.symm
  · rfl

@[simp] theorem listener_reload (k : KeyPair γ) (l : Loading γ) : (k.reload l).2.listener = k.listener := by
  cases l <;> rfl

end KeyPair

end NetAttach
