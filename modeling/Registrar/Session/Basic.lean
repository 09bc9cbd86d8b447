import Registrar.Counters
import Registrar.Session.Reply

/-!
# Sessions

A session is a conversation with the database, as a tree: it is over and has a
result, or it says one thing and goes on with the reply, or it counts something
and goes on. Nothing in a session is done yet. What is sent, in which order, and
after which replies, can be read off the tree; running it against a server is a
matter of its own.

## Main definitions

* `Session`: A conversation that ends in a result.
* `Session.ask`, `Session.count`: One step.
* `Session.bind`: One conversation after another.
-/

namespace Registrar

/-- A conversation with the database that ends in a result. -/
inductive Session (α : Type) : Type
  | done (result : α)
  | ask (command : Command) (next : Reply → Session α)
  | count (counter : Counter) (next : Session α)

namespace Session

variable {α β : Type}

/-- Go on with another conversation when the first is over. -/
def bind : Session α → (α → Session β) → Session β
  | done result, next => next result
  | ask command rest, next => ask command fun reply => (rest reply).bind next
  | count counter rest, next => count counter (rest.bind next)

instance : Monad Session where
  pure := done
  bind := bind

/-- Count one thing. -/
def tally (counter : Counter) : Session Unit :=
  count counter (done ())

theorem bind_done (session : Session α) : session.bind done = session := by
  induction session with
  | done result => rfl
  | ask command rest ih => exact congrArg (ask command) (funext ih)
  | count counter rest ih => exact congrArg (count counter) ih

theorem bind_assoc {γ : Type} (session : Session α) (f : α → Session β) (g : β → Session γ) :
    (session.bind f).bind g = session.bind fun a => (f a).bind g := by
  induction session with
  | done result => rfl
  | ask command rest ih => exact congrArg (ask command) (funext ih)
  | count counter rest ih => exact congrArg (count counter) ih

instance : LawfulMonad Session :=
  LawfulMonad.mk' Session (fun session => bind_done session) (fun _ _ => rfl)
    (fun session f g => bind_assoc session f g)

end Session

end Registrar
