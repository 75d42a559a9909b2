import Mathlib.Tactic.Lemma

/-!
# What the SSO handlers report

The `get_user_info` of each handler in `app.core.sso_handlers`, from the fields of the provider's
answer that it reads to an `SSOUserInfo`. Above all they differ in what `email_verified` means.
-/

namespace InstantBoard.Auth

/-- `SUPPORTED_PROVIDERS` -/
def SUPPORTED_PROVIDERS : List String :=
  ["google", "azure_ad", "github", "apple", "facebook"]

structure SSOUserInfo where
  provider : String
  providerId : String
  email : Option String
  name : Option String
  avatarUrl : Option String
  emailVerified : Bool
deriving DecidableEq

/-- A text that is not falsy. -/
def truthy (s : Option String) : Option String :=
  s.filter (· ≠ "")

/-- `a or b` -/
def pyOr (a b : Option String) : Option String :=
  (truthy a).or b

structure GoogleUserInfo where
  sub : Option String
  email : Option String
  name : Option String
  picture : Option String
  emailVerified : Option Bool

structure AzureUserInfo where
  id : Option String
  mail : Option String
  userPrincipalName : Option String
  displayName : Option String

structure GitHubUser where
  id : Option Nat
  email : Option String
  name : Option String
  login : Option String
  avatarUrl : Option String

/-- An entry of `/user/emails`. -/
structure GitHubEmail where
  email : Option String
  primary : Bool
  verified : Bool

/-- The `email_verified` of Apple's claims. -/
inductive AppleFlag where
  | absent
  | bool (value : Bool)
  | str (value : String)
  | other

structure AppleClaims where
  sub : Option String
  email : Option String
  emailVerified : AppleFlag

structure FacebookUser where
  id : Option String
  name : Option String
  email : Option String
  /-- `picture.data.url` -/
  pictureUrl : Option String

def GoogleSSOHandler.getUserInfo (data : GoogleUserInfo) : SSOUserInfo where
  provider := "google"
  providerId := data.sub.getD ""
  email := data.email
  name := data.name
  avatarUrl := data.picture
  emailVerified := data.emailVerified.getD false

def AzureADSSOHandler.getUserInfo (data : AzureUserInfo) : SSOUserInfo where
  provider := "azure_ad"
  providerId := data.id.getD ""
  email := pyOr data.mail data.userPrincipalName
  name := data.displayName
  avatarUrl := none
  emailVerified := true

namespace GitHubSSOHandler

/-- `_fetch_primary_email`; no list is an answer other than 200. -/
def fetchPrimaryEmail : Option (List GitHubEmail) → Option String × Bool
  | none => (none, false)
  | some emails =>
    match emails.find? fun entry => entry.primary && entry.verified with
    | some entry => (entry.email, true)
    | none =>
      match emails.find? (·.verified) with
      | some entry => (entry.email, true)
      | none => (none, false)

/-- A public e-mail is taken as it is; only without one are the verified ones asked for. -/
def getUserInfo (data : GitHubUser) (emails : Option (List GitHubEmail)) : SSOUserInfo where
  provider := "github"
  providerId := (data.id.map toString).getD ""
  email := if (truthy data.email).isSome then data.email else (fetchPrimaryEmail emails).1
  name := pyOr data.name data.login
  avatarUrl := data.avatarUrl
  emailVerified := if (truthy data.email).isSome then false else (fetchPrimaryEmail emails).2

end GitHubSSOHandler

/-- `bool(email_verified)` of a text is that it is not empty. -/
def AppleFlag.toBool : AppleFlag → Bool
  | .bool value => value
  | .str value => decide (value ≠ "")
  | .absent | .other => false

def AppleSSOHandler.getUserInfo (claims : AppleClaims) : SSOUserInfo where
  provider := "apple"
  providerId := claims.sub.getD ""
  email := claims.email
  name := none
  avatarUrl := none
  emailVerified := claims.emailVerified.toBool

def FacebookSSOHandler.getUserInfo (data : FacebookUser) : SSOUserInfo where
  provider := "facebook"
  providerId := data.id.getD ""
  email := data.email
  name := data.name
  avatarUrl := data.pictureUrl
  emailVerified := (truthy data.email).isSome

/-- What the providers answer. -/
inductive ProviderAnswer where
  | google (data : GoogleUserInfo)
  | azureAd (data : AzureUserInfo)
  | github (data : GitHubUser) (emails : Option (List GitHubEmail))
  | apple (claims : AppleClaims)
  | facebook (data : FacebookUser)

/-- The handler of the provider. -/
def ProviderAnswer.userInfo : ProviderAnswer → SSOUserInfo
  | .google data => GoogleSSOHandler.getUserInfo data
  | .azureAd data => AzureADSSOHandler.getUserInfo data
  | .github data emails => GitHubSSOHandler.getUserInfo data emails
  | .apple claims => AppleSSOHandler.getUserInfo claims
  | .facebook data => FacebookSSOHandler.getUserInfo data

end InstantBoard.Auth
