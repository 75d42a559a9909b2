import InstantBoard.Auth.Refresh

/-!
# Refreshing in a token's last second

`AuthService.refresh_token` as one call, with the clock readings it takes on its way. The token is
decoded twice and its remaining life is reckoned from a third reading; where that is past the last full
second and the second decoding was not, the write to the blacklist is refused (`refresh_unbroken_iff`).
What the interleaved model does before the write is that part of the call (`revoke_eq`).
-/

namespace InstantBoard.Auth

/-- The clock where a call reads it, one reading after the other. -/
structure Readings where
  /-- `decode_token` in `refresh_token` -/
  received : Nat
  /-- the blacklist lookup in Redis -/
  checked : Nat
  /-- `decode_token` in `add_token_to_blacklist` -/
  decoded : Nat
  /-- `now` in `add_token_to_blacklist` -/
  stamped : Nat
  /-- Redis takes the write -/
  written : Nat
  received_le : received ≤ checked
  checked_le : checked ≤ decoded
  decoded_le : decoded ≤ stamped
  stamped_le : stamped ≤ written

/-- The `SET` that `add_token_to_blacklist` issues: the id and the seconds it is to last. -/
structure BlacklistSet where
  jti : String
  ttlSeconds : Nat

/-- How a call ends: its answer, the blacklist, and the write it issued. -/
structure Refreshed where
  outcome : Outcome
  blacklist : Blacklist
  command : Option BlacklistSet

namespace AuthService

/-- `add_token_to_blacklist` up to the write. -/
def addTokenToBlacklist (decoded stamped : Nat) (token : Token) : Option BlacklistSet :=
  match decodeToken decoded token with
  | none => none
  | some c => if c.jti = "" then none else some ⟨c.jti, remainingSeconds stamped c⟩

/-- `refresh_token` from the user's row on. -/
def exchange (settings : Settings) (b : Blacklist) (r : Readings) (token : Token) (payload : Claims)
    (user : User) (access refresh : String) : Refreshed :=
  let tokens := issue settings r.written (tokenData payload user) access refresh
  match addTokenToBlacklist r.decoded r.stamped token with
  | none => ⟨tokens, b, none⟩
  | some command =>
    match blacklistSet b r.written command.jti command.ttlSeconds with
    | some b' => ⟨tokens, b', some command⟩
    | none => ⟨.error, b, some command⟩

/-- `refresh_token`. -/
def refreshToken (settings : Settings) (b : Blacklist) (users : String → Option User) (r : Readings)
    (token : Token) (access refresh : String) : Refreshed :=
  let rejected := fun message => Refreshed.mk (.invalidRefreshToken message) b none
  match decodeToken r.received token with
  | none => rejected "Invalid refresh token"
  | some payload =>
    if payload.type ≠ "refresh" then rejected "Invalid refresh token"
    else if payload.data.provider = LOCAL_SSO_PROVIDER ∧ settings.adminLoginEnabled = false then
      rejected "Admin login is disabled"
    else if (payload.refreshVersion.filter (· ≠ "")).any (isBlacklisted b r.checked) then
      rejected "Refresh token has been revoked"
    else
      match users payload.data.sub with
      | none => rejected "User not found"
      | some user => exchange settings b r token payload user access refresh

/-- The piece of the interleaved model that is before the write. -/
lemma revoke_eq (now : Nat) (token : Token) (payload : Claims) (user : User) :
    revoke now token payload (some user) =
      match addTokenToBlacklist now now token with
      | none => .issuing payload user
      | some command => .blacklisting payload user command.jti command.ttlSeconds := by
  unfold revoke addTokenToBlacklist
  dsimp only
  cases decodeToken now token with
  | none => rfl
  | some c =>
    dsimp only
    split <;> rfl

end AuthService

open AuthService

section

variable {settings : Settings} {b : Blacklist} {users : String → Option User} {r : Readings}
variable {token : Token} {access refresh : String} {c : Claims} {user : User}

/-- The call passes every check: the token is a refresh token in its life, not switched off, not
revoked, and of a user there is. -/
structure Admitted (settings : Settings) (b : Blacklist) (users : String → Option User)
    (r : Readings) (token : Token) (c : Claims) (user : User) : Prop where
  token_eq : token = .signed c
  alive : unix r.received ≤ c.exp
  refresh : c.type = "refresh"
  enabled : ¬ (c.data.provider = LOCAL_SSO_PROVIDER ∧ settings.adminLoginEnabled = false)
  notRevoked : (c.refreshVersion.filter (· ≠ "")).any (isBlacklisted b r.checked) = false
  user_eq : users c.data.sub = some user

/-- The answer is an error of the token, or new tokens with the old one on the blacklist for what was
left of its life; and no write without a time to live was issued. -/
structure Unbroken (token : Token) (r : Readings) (a : Refreshed) : Prop where
  answered : (∃ message, a.outcome = .invalidRefreshToken message) ∨
    (∃ access refresh expiresIn, a.outcome = .tokens access refresh expiresIn) ∧
      ∀ c, token = .signed c → unix r.stamped < c.exp →
        Expiring.Lasts a.blacklist (tokenBlacklistKey c.jti) (1000 * c.exp)
  positive : ∀ command, a.command = some command → 0 < command.ttlSeconds

/-! ## One call -/

/-- A token that passes the checks is exchanged. -/
lemma Admitted.refreshToken_eq (h : Admitted settings b users r token c user) :
    refreshToken settings b users r token access refresh =
      exchange settings b r token c user access refresh := by
  have hdecode : decodeToken r.received token = some c :=
    decodeToken_eq_some.2 ⟨h.token_eq, h.alive⟩
  unfold refreshToken
  simp only [hdecode, h.user_eq]
  have hfree : ¬ (c.refreshVersion.filter (· ≠ "")).any (isBlacklisted b r.checked) = true := by
    rw [h.notRevoked]
    exact nofun
  rw [if_neg (Decidable.not_not.2 h.refresh), if_neg h.enabled, if_neg hfree]

/-- A call that is not admitted leaves all as it is. -/
lemma rejected_of_not_admitted (h : ∀ c user, ¬ Admitted settings b users r token c user) :
    ∃ message, refreshToken settings b users r token access refresh =
      ⟨.invalidRefreshToken message, b, none⟩ := by
  unfold refreshToken
  dsimp only
  split
  next => exact ⟨_, rfl⟩
  next c hdecode =>
    obtain ⟨htoken, halive⟩ := decodeToken_eq_some.1 hdecode
    split
    next => exact ⟨_, rfl⟩
    next htype =>
      split
      next => exact ⟨_, rfl⟩
      next henabled =>
        split
        next => exact ⟨_, rfl⟩
        next hrevoked =>
          split
          next => exact ⟨_, rfl⟩
          next user huser =>
            refine absurd ?_ (h c user)
            exact ⟨htoken, halive, Decidable.not_not.1 htype, henabled,
              eq_false_of_ne_true hrevoked, huser⟩

/-- Seconds remain exactly before the last full one. -/
lemma remainingSeconds_pos {now : Nat} : 0 < remainingSeconds now c ↔ unix now < c.exp :=
  Nat.sub_pos_iff_lt

/-- While the second decoding takes the token, a call is unbroken if a second of it is left. -/
lemma unbroken_exchange_alive (hid : c.jti ≠ "") (halive : unix r.decoded ≤ c.exp) :
    Unbroken (.signed c) r (exchange settings b r (.signed c) c user access refresh) ↔
      unix r.stamped < c.exp := by
  have hadd : addTokenToBlacklist r.decoded r.stamped (.signed c) =
      some ⟨c.jti, remainingSeconds r.stamped c⟩ := by
    unfold addTokenToBlacklist
    rw [decodeToken_eq_some.2 ⟨rfl, halive⟩]
    exact if_neg hid
  unfold exchange
  simp only [hadd]
  rcases Nat.lt_or_ge (unix r.stamped) c.exp with hlt | hge
  · apply iff_of_true _ hlt
    have hpos := remainingSeconds_pos.2 hlt
    obtain ⟨b', hb'⟩ : ∃ b', blacklistSet b r.written c.jti (remainingSeconds r.stamped c) =
        some b' := by
      apply Option.ne_none_iff_exists'.1
      intro hnone
      exact Nat.ne_of_gt hpos (Expiring.set_eq_none_iff.1 hnone)
    rw [hb']
    refine ⟨.inr ⟨⟨_, _, _, rfl⟩, ?_⟩, ?_⟩
    · intro c' hc' _
      cases hc'
      exact lasts_of_remaining r.stamped_le hb'
    · intro command hcommand
      cases hcommand
      exact hpos
  · apply iff_of_false _ (Nat.not_lt.2 hge)
    have hzero : remainingSeconds r.stamped c = 0 := Nat.sub_eq_zero_of_le hge
    have hnone : blacklistSet b r.written c.jti (remainingSeconds r.stamped c) = none :=
      Expiring.set_eq_none_iff.2 hzero
    rw [hnone]
    intro h
    have hpos := h.positive _ rfl
    rw [hzero] at hpos
    exact absurd hpos (Nat.lt_irrefl 0)

/-- Where it takes the token no more, nothing needs to be written. -/
lemma unbroken_exchange_expired (hexpired : c.exp < unix r.decoded) :
    Unbroken (.signed c) r (exchange settings b r (.signed c) c user access refresh) := by
  have hnone : decodeToken r.decoded (.signed c) = none := by
    apply Option.eq_none_iff_forall_ne_some.2
    intro c' hc'
    obtain ⟨heq, hlife⟩ := decodeToken_eq_some.1 hc'
    cases heq
    exact Nat.not_lt.2 hlife hexpired
  have hadd : addTokenToBlacklist r.decoded r.stamped (.signed c) = none := by
    unfold addTokenToBlacklist
    rw [hnone]
  unfold exchange
  simp only [hadd]
  refine ⟨.inr ⟨⟨_, _, _, rfl⟩, ?_⟩, nofun⟩
  intro c' hc' hlt
  cases hc'
  have hle : unix r.decoded ≤ unix r.stamped := unix_mono r.decoded_le
  exact absurd (Nat.le_trans hle (Nat.le_of_lt hlt)) (Nat.not_le.2 hexpired)

/-- An admitted call is unbroken but where the second decoding still takes the token and no second of
it is left at the reading after that. -/
lemma unbroken_exchange_iff (hid : c.jti ≠ "") :
    Unbroken (.signed c) r (exchange settings b r (.signed c) c user access refresh) ↔
      ¬ (unix r.decoded ≤ c.exp ∧ c.exp ≤ unix r.stamped) := by
  rcases Nat.lt_or_ge c.exp (unix r.decoded) with hexpired | halive
  · exact iff_of_true (unbroken_exchange_expired hexpired) fun h => Nat.not_lt.2 h.1 hexpired
  · rw [unbroken_exchange_alive hid halive, ← Nat.not_le]
    exact not_congr ⟨fun hge => ⟨halive, hge⟩, fun h => h.2⟩

end

/-- When a refresh is unbroken, over all readings of the clock. -/
theorem refresh_unbroken_iff (settings : Settings) (b : Blacklist) (users : String → Option User)
    (r : Readings) (token : Token) (access refresh : String)
    (hid : ∀ c, token = .signed c → c.jti ≠ "") :
    Unbroken token r (refreshToken settings b users r token access refresh) ↔
      ∀ c user, Admitted settings b users r token c user →
        ¬ (unix r.decoded ≤ c.exp ∧ c.exp ≤ unix r.stamped) := by
  by_cases hsome : ∃ c user, Admitted settings b users r token c user
  · obtain ⟨c, user, h⟩ := hsome
    rw [h.refreshToken_eq]
    have hiff := @unbroken_exchange_iff settings b r access refresh c user (hid c h.token_eq)
    rw [← h.token_eq] at hiff
    rw [hiff]
    constructor
    · intro hc c' user' h'
      obtain rfl : c = c' := Token.signed.inj (h.token_eq.symm.trans h'.token_eq)
      exact hc
    · intro hall
      exact hall c user h
  · have hnot : ∀ c user, ¬ Admitted settings b users r token c user := fun c user h =>
      hsome ⟨c, user, h⟩
    obtain ⟨message, heq⟩ := @rejected_of_not_admitted settings b users r token access refresh hnot
    rw [heq]
    exact iff_of_true ⟨.inl ⟨message, rfl⟩, nofun⟩ fun c user h => absurd h (hnot c user)

namespace LastSecond

open Sample

/-- The refresh token of a login at the start of the clock; its last second is 604800. -/
def claims : Claims := createRefreshToken settings 0 "b" data

/-- A call that takes no time. -/
def atOnce (now : Nat) : Readings :=
  { received := now, checked := now, decoded := now, stamped := now, written := now,
    received_le := Nat.le_refl _, checked_le := Nat.le_refl _, decoded_le := Nat.le_refl _,
    stamped_le := Nat.le_refl _ }

/-- At one reading of the clock a token passes the checks until it expires. -/
lemma admitted {now : Nat} (h : unix now ≤ claims.exp) :
    Admitted settings (fun _ => none) users (atOnce now) (.signed claims) claims user where
  token_eq := rfl
  alive := h
  refresh := rfl
  enabled := by decide
  notRevoked := rfl
  user_eq := rfl

end LastSecond

open LastSecond Sample in
/-- A refresh one second before the last. -/
theorem refresh_unbroken_before_last_second :
    Unbroken (.signed claims) (atOnce 604799000)
      (refreshToken settings (fun _ => none) users (atOnce 604799000) (.signed claims) "a" "c") := by
  apply (refresh_unbroken_iff settings (fun _ => none) users (atOnce 604799000) (.signed claims)
    "a" "c" ?_).2
  · intro c user h hlast
    cases h.token_eq
    exact absurd hlast.2 (by decide)
  · intro c hc
    cases hc
    decide

open LastSecond Sample in
/-- In the last second the token is still taken, and Redis is asked to keep it for no time at all. -/
theorem refresh_breaks_in_last_second :
    ¬ ∀ (settings : Settings) (b : Blacklist) (users : String → Option User) (r : Readings)
      (token : Token) (access refresh : String), (∀ c, token = .signed c → c.jti ≠ "") →
        Unbroken token r (refreshToken settings b users r token access refresh) := by
  intro h
  have hunbroken := h settings (fun _ => none) users (atOnce 604800000) (.signed claims) "a" "c" (by
    intro c hc
    cases hc
    decide)
  rw [(admitted (by decide)).refreshToken_eq, unbroken_exchange_iff (by decide)] at hunbroken
  exact hunbroken (by decide)

end InstantBoard.Auth
