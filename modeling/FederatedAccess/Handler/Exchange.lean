import FederatedAccess.Handler.Error
import FederatedAccess.Time
import FederatedAccess.Wallet

/-!
# Exchanges with AAMs

An operation that may ask AAMs is a function of its surroundings and of what has happened so far. It
always says what has happened when it ends, with a result or without one. The surroundings answer
each call in view of all calls before it, so that nothing is assumed about the AAMs: they may change
their minds, fail and come back. Nor is anything assumed about the clocks, which may show another
time at each reading.

An `Exchange` only makes calls. A `WalletExchange` also changes a wallet; what it has changed before
an error stays changed.
-/

namespace FederatedAccess

/-- What has happened in an exchange. -/
structure History where
  /-- The calls, the earliest first. -/
  calls : List Call := []
  /-- How often the clocks were read. -/
  readings : Nat := 0
deriving DecidableEq

namespace History

def called (past : History) (call : Call) : History :=
  { past with calls := past.calls ++ [call] }

/-- The history with the clocks read once more. -/
def read (past : History) : History :=
  { past with readings := past.readings + 1 }

@[simp] theorem calls_called (past : History) (call : Call) :
    (past.called call).calls = past.calls ++ [call] := rfl

@[simp] theorem readings_called (past : History) (call : Call) :
    (past.called call).readings = past.readings := rfl

@[simp] theorem calls_read (past : History) : past.read.calls = past.calls := rfl

@[simp] theorem readings_read (past : History) : past.read.readings = past.readings + 1 := rfl

end History

/-- What operations do not decide themselves, as it is after some calls or some history. -/
structure Surroundings where
  /-- The answer to a call. -/
  answer : List Call → (call : Call) → Except CallError call.Answer
  /-- The clocks. -/
  clock : History → Time.Clock
  /-- A key that was not used before. -/
  freshKey : List Call → Ed25519.SecretKey
  /-- A name for a new token. -/
  freshTokenId : List Call → String

/-- An operation on a state that may end with an error; the state is kept in either case. -/
def Operation (σ α : Type) : Type :=
  Surroundings → σ → Except HandlerError α × σ

namespace Operation

variable {σ α β : Type}

def run (x : Operation σ α) (around : Surroundings) (s : σ) : Except HandlerError α × σ :=
  x around s

instance : Monad (Operation σ) where
  pure a := fun _ s => (.ok a, s)
  bind x f := fun around s =>
    match x around s with
    | (.ok a, s') => f a around s'
    | (.error e, s') => (.error e, s')

instance : LawfulMonad (Operation σ) := LawfulMonad.mk' _
  (fun x => by
    funext around s
    simp only [Functor.map]
    rcases x around s with ⟨_ | _, _⟩ <;> rfl)
  (fun _ _ => rfl)
  (fun x f g => by
    funext around s
    simp only [bind]
    rcases x around s with ⟨_ | _, _⟩ <;> rfl)

/-- Ends with a result that was found without asking anyone, or with its error. -/
def ofExcept (result : Except HandlerError α) : Operation σ α :=
  fun _ s => (result, s)

def fail (e : HandlerError) : Operation σ α :=
  ofExcept (.error e)

/-- Takes a value for the result of an operation that fails. -/
def withDefault (a : α) (x : Operation σ α) : Operation σ α :=
  fun around s =>
    match x around s with
    | (.ok b, s') => (.ok b, s')
    | (.error _, s') => (.ok a, s')

@[simp] theorem run_pure (a : α) (around : Surroundings) (s : σ) :
    (pure a : Operation σ α).run around s = (.ok a, s) := rfl

@[simp] theorem run_ofExcept (result : Except HandlerError α) (around : Surroundings) (s : σ) :
    (ofExcept result).run around s = (result, s) := rfl

@[simp] theorem run_fail (e : HandlerError) (around : Surroundings) (s : σ) :
    (fail e : Operation σ α).run around s = (.error e, s) := rfl

theorem run_bind (x : Operation σ α) (f : α → Operation σ β) (around : Surroundings) (s : σ) :
    (x >>= f).run around s =
      match x.run around s with
      | (.ok a, s') => (f a).run around s'
      | (.error e, s') => (.error e, s') := rfl

theorem run_withDefault (a : α) (x : Operation σ α) (around : Surroundings) (s : σ) :
    (withDefault a x).run around s =
      match x.run around s with
      | (.ok b, s') => (.ok b, s')
      | (.error _, s') => (.ok a, s') := rfl

end Operation

/-! ## Calls -/

/-- An operation that makes calls and reads the clocks; its state is what has happened so far. -/
abbrev Exchange := Operation History

namespace Exchange

/-- Makes a call. It counts as made whether or not it is answered. -/
def ask (call : Call) : Exchange call.Answer :=
  fun around past => ((around.answer past.calls call).mapError .call, past.called call)

def clock : Exchange Time.Clock :=
  fun around past => (.ok (around.clock past), past.read)

def freshKey : Exchange Ed25519.SecretKey :=
  fun around past => (.ok (around.freshKey past.calls), past)

def freshTokenId : Exchange String :=
  fun around past => (.ok (around.freshTokenId past.calls), past)

@[simp] theorem run_ask (call : Call) (around : Surroundings) (past : History) :
    Operation.run (ask call) around past =
      ((around.answer past.calls call).mapError .call, past.called call) := rfl

@[simp] theorem run_clock (around : Surroundings) (past : History) :
    Operation.run clock around past = (.ok (around.clock past), past.read) := rfl

@[simp] theorem run_freshKey (around : Surroundings) (past : History) :
    Operation.run freshKey around past = (.ok (around.freshKey past.calls), past) := rfl

@[simp] theorem run_freshTokenId (around : Surroundings) (past : History) :
    Operation.run freshTokenId around past =
      (.ok (around.freshTokenId past.calls), past) := rfl

end Exchange

/-! ## Calls and a wallet -/

/-- A wallet, and what has happened so far. -/
structure Session where
  wallet : Wallet := Catalog.empty
  past : History := {}

/-- The calls that were made, the earliest first. -/
def Session.calls (s : Session) : List Call := s.past.calls

/-- An operation that makes calls and changes a wallet. -/
abbrev WalletExchange := Operation Session

namespace WalletExchange

variable {α : Type}

/-- Makes calls and leaves the wallet alone. -/
def lift (x : Exchange α) : WalletExchange α :=
  fun around s =>
    let (result, past) := x around s.past
    (result, { s with past })

def wallet : WalletExchange Wallet :=
  fun _ s => (.ok s.wallet, s)

/-- Stores an entry under the name of its AAM. -/
def store (bound : BoundCredentials) : WalletExchange Unit :=
  fun _ s => (.ok (), { s with wallet := s.wallet.store bound })

/-- Keeps another entry under the name of an AAM. -/
def replace (aamId : String) (bound : BoundCredentials) : WalletExchange Unit :=
  fun _ s => (.ok (), { s with wallet := s.wallet.put aamId bound })

@[simp] theorem run_lift (x : Exchange α) (around : Surroundings) (s : Session) :
    Operation.run (lift x) around s =
      ((x.run around s.past).1, { s with past := (x.run around s.past).2 }) := rfl

@[simp] theorem run_wallet (around : Surroundings) (s : Session) :
    Operation.run wallet around s = (.ok s.wallet, s) := rfl

@[simp] theorem run_store (bound : BoundCredentials) (around : Surroundings) (s : Session) :
    Operation.run (store bound) around s =
      (.ok (), { s with wallet := s.wallet.store bound }) := rfl

@[simp] theorem run_replace (aamId : String) (bound : BoundCredentials) (around : Surroundings)
    (s : Session) :
    Operation.run (replace aamId bound) around s =
      (.ok (), { s with wallet := s.wallet.put aamId bound }) := rfl

end WalletExchange

end FederatedAccess
