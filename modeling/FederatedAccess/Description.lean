import FederatedAccess.Configuration
import FederatedAccess.Rule.Operator
import FederatedAccess.Text.Quoted

/-!
# Descriptions

What a log may say about a value. Keys, passwords, proofs and the texts of tokens and certificates
are secrets or too long to read, so a description tells at most their lengths or that they are
there.
-/

namespace FederatedAccess

namespace Description

def field (name value : String) : String :=
  name ++ ": " ++ value

/-- The description of a record that tells all its fields. -/
def record (name : String) (fields : List String) : String :=
  name ++ " \x7b " ++ String.intercalate ", " fields ++ " \x7d"

/-- The description of a record that keeps some of its fields back. -/
def partialRecord (name : String) (fields : List String) : String :=
  record name (fields ++ [".."])

def ofBool (b : Bool) : String :=
  if b then "true" else "false"

def redacted : String := "[REDACTED]"

end Description

open Description

/-! ## Tokens and credentials -/

/-- The description of a kind of token. -/
def TokenType.description : TokenType → String
  | home => "Home"
  | foreign => "Foreign"
  | guest => "Guest"
  | null => "Null"

/-- The description of a certificate tells its length in octets. -/
def Certificate.description (certificate : Certificate) : String :=
  "Certificate(" ++ Numeral.ofNat certificate.text.utf8ByteSize ++ ")"

/-- The description of a token tells what it says about its holder, and not its text. -/
def Token.description (token : Token) : String :=
  partialRecord "Token"
    [field "token_type" token.tokenType.description, field "issuer" (Text.quoted token.issuer),
      field "subject" (Text.quoted token.subject),
      field "expiration" (Numeral.ofInt token.claims.expiration.toInt)]

/-- The description of an issuer tells its name. -/
def TokenIssuer.description (issuer : TokenIssuer) : String :=
  partialRecord "TokenIssuer"
    [field "issuer_id" (Text.quoted issuer.name), field "signing_key" (Text.quoted redacted)]

/-- The description of a login request tells nothing. -/
def LoginRequest.description (_ : LoginRequest) : String :=
  "LoginRequest(" ++ redacted ++ ")"

/-- The description of presented credentials tells how much there is of each part. -/
def SecurityCredentials.description (c : SecurityCredentials) : String :=
  partialRecord "SecurityCredentials"
    [field "token_len" (Numeral.ofNat c.token.utf8ByteSize),
      field "has_challenge" (ofBool (c.challenge ≠ "")),
      field "client_certificate" c.clientCertificate.description,
      field "client_certificate_signing_aam_certificate" c.signingCertificate.description,
      field "foreign_token_issuing_aam_certificate" c.foreignCertificate.description]

/-- The description of what a client holds tells whose it is. -/
def HomeCredentials.description (home : HomeCredentials) : String :=
  partialRecord "HomeCredentials"
    [field "home_aam" (Text.quoted home.homeAam.id),
      field "username" (Text.quoted home.username),
      field "client_identifier" (Text.quoted home.clientId),
      field "private_key" (Text.quoted redacted),
      field "home_token" (match home.token with
        | some token => "Some(" ++ token.description ++ ")"
        | none => "None")]

/-! ## Configuration -/

namespace Duration

/-- The decimal places of a part of a unit, without zeros at the end. -/
def placesText (places part : Nat) : String :=
  let digits := Numeral.natChars (Nat.pow 10 places + part)
  let kept := ((digits.drop 1).reverse.dropWhile (· = '0')).reverse
  if kept.isEmpty then "" else "." ++ String.ofList kept

/-- A span of time in the greatest unit of which it holds one. -/
def description (d : Duration) : String :=
  if 0 < d.seconds then
    Numeral.ofNat d.seconds.toNat ++ placesText 9 d.nanos ++ "s"
  else if 1000000 ≤ d.nanos then
    Numeral.ofNat (d.nanos / 1000000) ++ placesText 6 (d.nanos % 1000000) ++ "ms"
  else if 1000 ≤ d.nanos then
    Numeral.ofNat (d.nanos / 1000) ++ placesText 3 (d.nanos % 1000) ++ "µs"
  else Numeral.ofNat d.nanos ++ "ns"

end Duration

/-- The description of a mode of validation. -/
def ValidationMode.description : ValidationMode → String
  | remote => "Remote"
  | offline => "Offline"

/-- The description of a configuration tells everything but the password. -/
def Configuration.description (c : Configuration) : String :=
  record "ComponentSecurityHandlerConfig"
    [field "component_id" (Text.quoted c.componentId),
      field "local_aam_address" (Text.quoted c.localAddress),
      field "component_owner_username" (Text.quoted c.ownerUsername),
      field "component_owner_password" ("SecretBox<str>(" ++ redacted ++ ")"),
      field "validation_mode" c.validationMode.description,
      field "always_use_local_aam_for_validation" (ofBool c.alwaysLocal),
      field "trust_embedded_issuer_keys" (ofBool c.trustEmbeddedKeys),
      field "mutual_auth" (record "MutualAuthConfig"
        [field "freshness_threshold" c.authenticator.freshness.description]),
      field "token_validator" (record "TokenValidatorConfig"
        [field "expiration_leeway" c.validator.leeway.description])]

/-- Whether the description of a configuration contains its password, which then is part of what
every description says. -/
def Configuration.showsPassword (c : Configuration) : Bool :=
  TextRelation.contains.holds c.description c.ownerPassword

end FederatedAccess
