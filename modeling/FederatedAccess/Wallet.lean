import FederatedAccess.Credentials

/-!
# Wallets

What a caller has acquired from AAMs, under the names of the AAMs that it logged in to.
-/

namespace FederatedAccess

/-- Everything held towards one AAM. -/
structure BoundCredentials where
  /-- The AAM. -/
  aam : Aam
  /-- The account, its key and its home token. -/
  home : HomeCredentials
  /-- Foreign tokens obtained with the home token, by the AAMs that issued them. -/
  foreign : Dictionary Token := Catalog.empty

namespace BoundCredentials

/-- The entry with another home token. Foreign tokens obtained with the old one are forgotten. -/
def refreshed (bound : BoundCredentials) (token : Token) : BoundCredentials :=
  { bound with home := { bound.home with token := some token }, foreign := Catalog.empty }

/-- The entry with one more foreign token. -/
def withForeign (bound : BoundCredentials) (aamId : String) (token : Token) : BoundCredentials :=
  { bound with foreign := bound.foreign.put aamId token }

/-- The entry without its home token. -/
def withoutHomeToken (bound : BoundCredentials) : BoundCredentials :=
  { bound with home := { bound.home with token := none } }

/-- The entry without tokens. Key and certificate stay, so that a later login needs no new one. -/
def withoutTokens (bound : BoundCredentials) : BoundCredentials :=
  { bound.withoutHomeToken with foreign := Catalog.empty }

end BoundCredentials

/-- Credentials by the name of the AAM that they are held towards. -/
abbrev Wallet := Dictionary BoundCredentials

namespace Wallet

/-- The home token held towards an AAM. -/
def homeToken? (wallet : Wallet) (aamId : String) : Option Token :=
  (wallet.get? aamId).bind fun bound => bound.home.token

/-- Stores an entry under the name of its AAM, in place of the one that was there. -/
def store (wallet : Wallet) (bound : BoundCredentials) : Wallet :=
  wallet.put bound.aam.id bound

/-- The wallet without the entry of an AAM. -/
def remove (wallet : Wallet) (aamId : String) : Wallet :=
  wallet.erase aamId

/-- The wallet without the home token of an AAM. -/
def dropHomeToken (wallet : Wallet) (aamId : String) : Wallet :=
  match wallet.get? aamId with
  | some bound => wallet.put aamId bound.withoutHomeToken
  | none => wallet

/-- The wallet without tokens. -/
def clearTokens (wallet : Wallet) : Wallet :=
  wallet.mapValues BoundCredentials.withoutTokens

end Wallet

end FederatedAccess
