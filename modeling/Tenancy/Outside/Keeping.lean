import Tenancy.Dict
import Tenancy.Outside

/-!
# A store of secrets within the program

A program can keep its secrets to itself: they are read from a dictionary and written to it, and the
world outside is never asked for any.
-/

namespace Tenancy.Outside

/-- The program with its secrets in a dictionary, which never fails. -/
def keeping {α : Type} (store : Dict String) : Program Outside α → Program Outside (α × Dict String)
  | .done v => .done (v, store)
  | .ask (.readSecret key) next => keeping store (next (.ok (store.get? key)))
  | .ask (.writeSecret key value) next => keeping (store.insert key value) (next (.ok ()))
  | .ask (.exchange r) next => .ask (.exchange r) fun a => keeping store (next a)
  | .ask (.cleanTopics tenant) next => .ask (.cleanTopics tenant) fun a => keeping store (next a)
  | .ask .entropy next => .ask .entropy fun a => keeping store (next a)
  | .ask .now next => .ask .now fun a => keeping store (next a)

end Tenancy.Outside
