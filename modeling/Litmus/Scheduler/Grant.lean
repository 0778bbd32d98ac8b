import Litmus.Class.Basic
import Litmus.Text.Bracketed

/-!
Grants: the threads that a scheduler has handed out for one class, one for each role.
-/
namespace Litmus

structure Grant where
  /-- The scheduler that issued the grant. -/
  issuer : Nat
  ticket : Nat
  shape : Class
  /-- The thread of each role. -/
  seats : List Nat
  /-- The same threads, ascending. -/
  threads : List Nat
deriving DecidableEq, Repr

namespace Grant

def issue (issuer ticket : Nat) (shape : Class) (seats : List Nat) : Grant :=
  { issuer, ticket, shape, seats, threads := seats.mergeSort }

def render (g : Grant) : String :=
  s!"#{g.ticket} {g.shape.render} -> {Text.numbers g.seats}"

end Grant
end Litmus
