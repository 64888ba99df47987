import FederatedAccess.Proofs.Catalog
import FederatedAccess.Proofs.Exchange
import Mathlib.Logic.Relation

/-!
# Changes of a session

Whatever an operation does to a wallet is a sequence of a few changes (`Session.Change`). Each of
them keeps what the entries say consistent: an entry is held under the name of its own AAM, and its
foreign tokens were obtained with the home token and the certificates that it holds now. Each
leaves the entries of all other AAMs alone. Both then hold for any sequence of changes, and so
after every operation that is shown to be one (`WalletExchange.Performs`).
-/

namespace FederatedAccess

/-! ## Answers that were given -/

/-- Among some calls is one that was answered in this way when it was made. -/
def Surroundings.Answered (around : Surroundings) (calls : List Call) (call : Call)
    (answer : call.Answer) : Prop :=
  ∃ before, before ++ [call] <+: calls ∧ around.answer before call = .ok answer

namespace Surroundings.Answered

variable {around : Surroundings} {calls later : List Call} {call : Call} {answer : call.Answer}

theorem mono (h : around.Answered calls call answer) (hlater : calls <+: later) :
    around.Answered later call answer := by
  obtain ⟨before, hmade, hanswer⟩ := h
  exact ⟨before, hmade.trans hlater, hanswer⟩

theorem of_last (h : around.answer calls call = .ok answer) :
    around.Answered (calls ++ [call]) call answer :=
  ⟨calls, List.prefix_refl _, h⟩

end Surroundings.Answered

/-! ## Consistent entries -/

namespace BoundCredentials

/-- Some AAM gave out the foreign token for the home token and the certificates in the entry. -/
def Obtained (around : Surroundings) (calls : List Call) (bound : BoundCredentials)
    (token : Token) : Prop :=
  ∃ homeToken, bound.home.token = some homeToken ∧ ∃ address,
    around.Answered calls (.foreignToken address homeToken bound.home.certificate
      bound.aam.certificate) token

/-- An entry that is held under a name after some calls belongs there, and so does its account. -/
structure Consistent (around : Surroundings) (calls : List Call) (aamId : String)
    (bound : BoundCredentials) : Prop where
  id_eq : bound.aam.id = aamId
  homeAam_id_eq : bound.home.homeAam.id = aamId
  obtained : ∀ issuer token, bound.foreign.get? issuer = some token →
    bound.Obtained around calls token

namespace Consistent

variable {around : Surroundings} {calls later : List Call} {aamId : String}
  {bound : BoundCredentials}

theorem mono (h : bound.Consistent around calls aamId) (hlater : calls <+: later) :
    bound.Consistent around later aamId := by
  refine ⟨h.id_eq, h.homeAam_id_eq, fun issuer token hcached => ?_⟩
  obtain ⟨homeToken, hhome, address, hanswered⟩ := h.obtained issuer token hcached
  exact ⟨homeToken, hhome, address, hanswered.mono hlater⟩

/-- With the home token gone, no foreign token can be there. -/
theorem foreign_eq_empty (h : bound.Consistent around calls aamId)
    (hnone : bound.home.token = none) : bound.foreign = Catalog.empty := by
  refine Catalog.ext (List.eq_nil_iff_forall_not_mem.2 ?_)
  rintro ⟨issuer, token⟩ hmem
  obtain ⟨homeToken, hhome, -⟩ := h.obtained issuer token (Dictionary.get?_of_mem hmem)
  rw [hnone] at hhome
  cases hhome

/-- Entries without foreign tokens are consistent under the name of their home AAM. -/
theorem of_empty (hid : bound.aam.id = aamId) (hhome : bound.home.homeAam.id = aamId)
    (hempty : bound.foreign = Catalog.empty) : bound.Consistent around calls aamId := by
  refine ⟨hid, hhome, fun issuer token hcached => ?_⟩
  rw [hempty] at hcached
  cases hcached

theorem withForeign (h : bound.Consistent around calls aamId) {issuer : String} {token : Token}
    (hobtained : bound.Obtained around calls token) :
    (bound.withForeign issuer token).Consistent around calls aamId := by
  refine ⟨h.id_eq, h.homeAam_id_eq, fun other found hcached => ?_⟩
  rw [BoundCredentials.withForeign, Dictionary.get?_put] at hcached
  split at hcached
  · cases hcached
    exact hobtained
  · exact h.obtained other found hcached

end Consistent

end BoundCredentials

namespace Session

/-- Every entry of the wallet is consistent with the calls that were made. -/
def Consistent (around : Surroundings) (s : Session) : Prop :=
  ∀ aamId bound, s.wallet.get? aamId = some bound → bound.Consistent around s.calls aamId

variable {around : Surroundings} {s s' : Session} {aamId : String} {bound : BoundCredentials}

theorem consistent_of_empty (past : History) : Session.Consistent around { past } := by
  intro aamId bound hfound
  have hnone : Dictionary.get? (Catalog.empty : Wallet) aamId = none := rfl
  cases hnone.symm.trans hfound

/-- A consistent entry may be put in the place of any other. -/
theorem Consistent.put (hs : s.Consistent around) (h : bound.Consistent around s.calls aamId) :
    Session.Consistent around { s with wallet := s.wallet.put aamId bound } := by
  intro other found hfound
  have hfound : (s.wallet.put aamId bound).get? other = some found := hfound
  rw [Dictionary.get?_put] at hfound
  split at hfound
  · rename_i heq
    cases hfound
    rw [heq]
    exact h
  · exact hs other found hfound

/-! ## One change -/

/-- What can happen to a session at once, while only some AAMs are concerned. -/
inductive Change (around : Surroundings) (concerned : String → Prop) : Session → Session → Prop
  /-- Calls are made and clocks are read. -/
  | elapsed {s : Session} {past : History} (later : s.calls <+: past.calls) :
    Change around concerned s { s with past }
  /-- An account is entered under the name of its home AAM, without foreign tokens. -/
  | entered {s : Session} {bound : BoundCredentials} (concerns : concerned bound.aam.id)
    (isHome : bound.home.homeAam = bound.aam) (isNew : bound.foreign = Catalog.empty) :
    Change around concerned s { s with wallet := s.wallet.store bound }
  /-- An entry gets another home token. -/
  | refreshed {s : Session} {aamId : String} {bound : BoundCredentials} {token : Token}
    (concerns : concerned aamId) (held : s.wallet.get? aamId = some bound) :
    Change around concerned s { s with wallet := s.wallet.put aamId (bound.refreshed token) }
  /-- An entry gets a foreign token that was obtained with what it holds. -/
  | acquired {s : Session} {aamId issuer : String} {bound : BoundCredentials} {token : Token}
    (concerns : concerned aamId) (held : s.wallet.get? aamId = some bound)
    (obtained : bound.Obtained around s.calls token) :
    Change around concerned s
      { s with wallet := s.wallet.put aamId (bound.withForeign issuer token) }
  /-- All entries lose their tokens. -/
  | cleared {s : Session} (concerns : ∀ aamId, concerned aamId) :
    Change around concerned s { s with wallet := s.wallet.clearTokens }
  /-- An entry is removed. -/
  | removed {s : Session} {aamId : String} (concerns : concerned aamId) :
    Change around concerned s { s with wallet := s.wallet.remove aamId }

variable {concerned : String → Prop}

/-- **Consistency, one change.** -/
theorem Change.consistent (change : Change around concerned s s') (hs : s.Consistent around) :
    s'.Consistent around := by
  cases change with
  | elapsed later => exact fun aamId bound hfound => (hs aamId bound hfound).mono later
  | entered _ isHome isNew => exact hs.put (.of_empty rfl (congrArg Aam.id isHome) isNew)
  | refreshed _ held =>
    have h := hs _ _ held
    exact hs.put (.of_empty h.id_eq h.homeAam_id_eq rfl)
  | acquired _ held obtained => exact hs.put ((hs _ _ held).withForeign obtained)
  | cleared =>
    intro aamId found hfound
    have hfound : s.wallet.clearTokens.get? aamId = some found := hfound
    rw [Wallet.clearTokens, Dictionary.get?_mapValues] at hfound
    obtain ⟨bound, hbound, rfl⟩ := Option.map_eq_some_iff.1 hfound
    have h := hs aamId bound hbound
    exact .of_empty h.id_eq h.homeAam_id_eq rfl
  | @removed removedId =>
    intro aamId bound hfound
    have hfound : Dictionary.get? (s.wallet.erase removedId) aamId = some bound := hfound
    rw [Dictionary.get?_erase] at hfound
    split at hfound
    · cases hfound
    · exact hs aamId bound hfound

/-- **Locality, one change.** -/
theorem Change.get?_eq (change : Change around concerned s s') {other : String}
    (hother : ¬ concerned other) : s'.wallet.get? other = s.wallet.get? other := by
  have hne : ∀ {aamId}, concerned aamId → other ≠ aamId := by
    rintro aamId hconcerned rfl
    exact hother hconcerned
  cases change with
  | elapsed => rfl
  | entered concerns => exact Dictionary.get?_put.trans (if_neg (hne concerns))
  | refreshed concerns => exact Dictionary.get?_put.trans (if_neg (hne concerns))
  | acquired concerns => exact Dictionary.get?_put.trans (if_neg (hne concerns))
  | cleared concerns => exact absurd (concerns other) hother
  | removed concerns => exact Dictionary.get?_erase.trans (if_neg (hne concerns))

/-! ## Many changes -/

def Changes (around : Surroundings) (concerned : String → Prop) : Session → Session → Prop :=
  Relation.ReflTransGen (Change around concerned)

theorem Changes.consistent (changes : Changes around concerned s s') (hs : s.Consistent around) :
    s'.Consistent around := by
  induction changes with
  | refl => exact hs
  | tail _ change ih => exact change.consistent ih

theorem Changes.get?_eq (changes : Changes around concerned s s') {other : String}
    (hother : ¬ concerned other) : s'.wallet.get? other = s.wallet.get? other := by
  induction changes with
  | refl => rfl
  | tail _ change ih => exact (change.get?_eq hother).trans ih

end Session

/-! ## Operations as changes -/

namespace WalletExchange

variable {α β : Type} {around : Surroundings} {concerned : String → Prop} {s : Session}

/-- Whatever the operation ends with, what it does to the session is a sequence of changes. -/
def Performs (around : Surroundings) (concerned : String → Prop) (s : Session)
    (x : WalletExchange α) : Prop :=
  Session.Changes around concerned s (x.run around s).2

namespace Performs

theorem pure (a : α) : Performs around concerned s (Pure.pure a) :=
  .refl

theorem fail (e : HandlerError) : Performs around concerned s (.fail e : WalletExchange α) :=
  .refl

theorem lift {x : Exchange α} (hx : x.Continues around) :
    Performs around concerned s (WalletExchange.lift x) :=
  .single (.elapsed (hx s.past))

theorem bind {x : WalletExchange α} {f : α → WalletExchange β} (hx : Performs around concerned s x)
    (hf : ∀ a s', x.run around s = (.ok a, s') → Performs around concerned s' (f a)) :
    Performs around concerned s (x >>= f) := by
  have hfirst : Session.Changes around concerned s (x.run around s).2 := hx
  show Session.Changes around concerned s ((x >>= f).run around s).2
  rcases hrun : x.run around s with ⟨e | a, s'⟩
  · rw [hrun] at hfirst
    rw [Operation.run_bind_error hrun]
    exact hfirst
  · rw [hrun] at hfirst
    rw [Operation.run_bind_ok hrun]
    exact hfirst.trans (hf a s' hrun)

/-- Calls come first, and only the past is different after them. -/
theorem lift_bind {x : Exchange α} {f : α → WalletExchange β} (hx : x.Continues around)
    (hf : ∀ a past, x.run around s.past = (.ok a, past) →
      Performs around concerned { s with past } (f a)) :
    Performs around concerned s (WalletExchange.lift x >>= f) := by
  refine bind (lift hx) fun a s' hrun => ?_
  obtain ⟨hresult, rfl⟩ := Prod.mk.inj hrun
  exact hf a _ (Prod.ext hresult rfl)

/-- The wallet is looked at, and nothing is changed by that. -/
theorem wallet_bind {f : Wallet → WalletExchange β}
    (hf : Performs around concerned s (f s.wallet)) :
    Performs around concerned s (WalletExchange.wallet >>= f) :=
  hf

end Performs

end WalletExchange

end FederatedAccess
