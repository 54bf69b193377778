import PoolPlanner.Ledger.Basic

/-!
# Programs over the ledger

A hook reaches the shared ledger one operation at a time, and other hooks may come in between.  A
program is what a hook does, cut at these operations: it is finished, or it waits for the answer of
one operation.  Run alone, it is a function on ledgers; interleaved with others, it takes one step
at a time.
-/

namespace PoolPlanner

/-- What a hook still does. -/
inductive LedgerProgram (α : Type)
  | done (result : α)
  | claim (request : ClaimRequest) (next : Except ClaimRefusal Reservation → LedgerProgram α)
  | release (device owner : String) (next : LedgerProgram α)
  | lookUp (device : String) (next : Option Reservation → LedgerProgram α)

namespace LedgerProgram

variable {α β : Type}

def andThen (program : LedgerProgram α) (continuation : α → LedgerProgram β) :
    LedgerProgram β :=
  match program with
  | .done result => continuation result
  | .claim request next => .claim request fun answer => (next answer).andThen continuation
  | .release device owner next => .release device owner (next.andThen continuation)
  | .lookUp device next => .lookUp device fun answer => (next answer).andThen continuation

instance : Monad LedgerProgram where
  pure := .done
  bind := andThen

/-- The result of a program that runs alone, and the ledger afterwards. -/
def run (program : LedgerProgram α) (ledger : Ledger) : α × Ledger :=
  match program with
  | .done result => (result, ledger)
  | .claim request next =>
      let answered := ledger.claim request
      (next answered.1).run answered.2
  | .release device owner next => next.run (ledger.release device owner)
  | .lookUp device next => (next (ledger.reservation? device)).run ledger

/-- The first operation of a program, if it is not finished: what is left to do, and the ledger
afterwards. -/
def step? (program : LedgerProgram α) (ledger : Ledger) : Option (LedgerProgram α × Ledger) :=
  match program with
  | .done _ => none
  | .claim request next =>
      let answered := ledger.claim request
      some (next answered.1, answered.2)
  | .release device owner next => some (next, ledger.release device owner)
  | .lookUp device next => some (next (ledger.reservation? device), ledger)

end LedgerProgram
end PoolPlanner
