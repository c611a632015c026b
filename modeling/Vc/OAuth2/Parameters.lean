import Mathlib

/-!
# Request parameters of the token endpoints

Proof keys for code exchange (`pkg/oauth2/pkce.go`) and the normal form in which
the verifier compares redirect URIs.
-/

namespace Vc.OAuth2

/-! ## Proof keys -/

/-- Why a proof key is refused. -/
inductive PKCEError where
  | invalidRequest
  | invalidGrant
  deriving DecidableEq

/-- `CreateCodeChallenge`; `sha256` is the base64url text of a SHA-256 sum. -/
def createCodeChallenge (sha256 : String → String) (codeChallengeMethod codeVerifier : String) :
    String :=
  if codeChallengeMethod = "S256" then sha256 codeVerifier else codeVerifier

def validatePKCE (sha256 : String → String)
    (codeVerifier codeChallenge codeChallengeMethod : String) : Except PKCEError Unit :=
  if codeChallenge = "" then .ok ()
  else if codeVerifier = "" then .error .invalidRequest
  else if createCodeChallenge sha256 codeChallengeMethod codeVerifier ≠ codeChallenge then
    .error .invalidGrant
  else .ok ()

/-! ## Redirect URIs -/

/-- The value of a hexadecimal digit. -/
def unhex (digit : UInt8) : Option UInt8 :=
  if 48 ≤ digit ∧ digit ≤ 57 then some (digit - 48)
  else if 97 ≤ digit ∧ digit ≤ 102 then some (digit - 87)
  else if 65 ≤ digit ∧ digit ≤ 70 then some (digit - 55)
  else none

/-- `url.PathUnescape`: every `%` is followed by two digits and stands for their
byte. -/
def pathUnescape : List UInt8 → Option (List UInt8)
  | [] => some []
  | 37 :: high :: low :: rest =>
    match unhex high, unhex low, pathUnescape rest with
    | some high, some low, some rest => some ((high * 16 + low) :: rest)
    | _, _, _ => none
  | 37 :: _ => none
  | byte :: rest => (pathUnescape rest).map (byte :: ·)

/-- `normalizeRedirectURI`: the unescaped bytes, or the URI itself where it has a
malformed escape. -/
def normalizeRedirectURI (uri : String) : List UInt8 :=
  (pathUnescape uri.toUTF8.data.toList).getD uri.toUTF8.data.toList

example : normalizeRedirectURI "https://rp/%63b" = normalizeRedirectURI "https://rp/cb" := by
  decide

end Vc.OAuth2
