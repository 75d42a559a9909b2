import InstantBoard.Lib.Expiring

/-!
# Tokens

The JWTs of `app.core.security` and their blacklist in Redis. A token text is what it carries: the
claims signed with the server's secret, or nothing it signed. The clock counts milliseconds since
the epoch; claims hold whole seconds.
-/

namespace InstantBoard.Auth

/-- `int(datetime.now(UTC).timestamp())`. -/
def unix (now : Nat) : Nat :=
  now / 1000

/-- `LOCAL_SSO_PROVIDER`. -/
def LOCAL_SSO_PROVIDER : String := "local"

structure Settings where
  jwtAccessTokenExpireMinutes : Nat
  jwtRefreshTokenExpireDays : Nat
  adminLoginEnabled : Bool

/-- The `data` a token is made from. -/
structure TokenData where
  sub : String
  tenantId : String
  role : String
  provider : String
deriving DecidableEq

/-- The payload of a token. -/
structure Claims where
  data : TokenData
  exp : Nat
  iat : Nat
  jti : String
  type : String
  refreshVersion : Option String
deriving DecidableEq

/-- `create_access_token(data)`; `uuid` is `str(uuid.uuid4())`. -/
def createAccessToken (settings : Settings) (now : Nat) (uuid : String) (data : TokenData) : Claims :=
  { data, exp := unix now + settings.jwtAccessTokenExpireMinutes * 60, iat := unix now, jti := uuid,
    type := "access", refreshVersion := none }

/-- `create_refresh_token(data)`. -/
def createRefreshToken (settings : Settings) (now : Nat) (uuid : String) (data : TokenData) : Claims :=
  { data, exp := unix now + settings.jwtRefreshTokenExpireDays * 86400, iat := unix now, jti := uuid,
    type := "refresh", refreshVersion := some uuid }

/-- A text presented as a token. -/
inductive Token where
  | signed (claims : Claims)
  | foreign (text : String)
deriving DecidableEq

/-- `decode_token`: the expiry second itself is still accepted. -/
def decodeToken (now : Nat) : Token → Option Claims
  | .signed c => if c.exp < unix now then none else some c
  | .foreign _ => none

/-- A token is decoded if it is signed and has not expired. -/
lemma decodeToken_eq_some {now : Nat} {t : Token} {c : Claims} :
    decodeToken now t = some c ↔ t = .signed c ∧ unix now ≤ c.exp := by
  cases t with
  | foreign => simp [decodeToken]
  | signed c' =>
    simp only [decodeToken, Option.ite_none_left_eq_some, Nat.not_lt, Option.some.injEq,
      Token.signed.injEq]
    constructor
    · rintro ⟨h, rfl⟩
      exact ⟨rfl, h⟩
    · rintro ⟨rfl, h⟩
      exact ⟨h, rfl⟩

/-- The blacklist: what Redis holds under the keys `token_blacklist:{jti}`. -/
abbrev Blacklist := Expiring.Store String String

def tokenBlacklistKey (jti : String) : String :=
  "token_blacklist:" ++ jti

/-- Every id has a key of its own. -/
lemma tokenBlacklistKey_inj {a b : String} : tokenBlacklistKey a = tokenBlacklistKey b ↔ a = b := by
  simp [tokenBlacklistKey]

/-- `is_refresh_token_blacklisted`, and `is_token_blacklisted` once the token is decoded. -/
def isBlacklisted (b : Blacklist) (now : Nat) (jti : String) : Bool :=
  (Expiring.get b now (tokenBlacklistKey jti)).isSome

/-- `ttl_seconds` in `add_token_to_blacklist`. -/
def remainingSeconds (now : Nat) (c : Claims) : Nat :=
  c.exp - unix now

/-- `redis_set` in `add_token_to_blacklist`; `none` is the error reply to `EX 0`. -/
def blacklistSet (b : Blacklist) (now : Nat) (jti : String) (ttlSeconds : Nat) : Option Blacklist :=
  Expiring.set b now (tokenBlacklistKey jti) "1" ttlSeconds

/-- The entry of a token written before its last second outlives every check made before it. -/
lemma lasts_of_remaining {written now : Nat} {c : Claims} {b b' : Blacklist}
    (hwritten : written ≤ now)
    (h : blacklistSet b now c.jti (remainingSeconds written c) = some b') :
    Expiring.Lasts b' (tokenBlacklistKey c.jti) (1000 * c.exp) := by
  apply (Expiring.lasts_set h).mono
  have hw : 1000 * unix written ≤ written := Nat.mul_div_le written 1000
  unfold remainingSeconds
  omega

end InstantBoard.Auth
