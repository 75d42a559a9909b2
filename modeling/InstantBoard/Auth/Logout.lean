import InstantBoard.Auth.Refresh

/-!
# Logging out

`AuthService.logout` cut at its two blacklist writes, beside the refresh requests of
`Auth.Refresh`, and the three places of the API that take an access token. Two of them ask the
blacklist; `sse_stream` decodes the token and takes it as it is. In every run in which no logout
shortens an entry, a token logged out is refused by a path exactly when that path is not
`sse_stream`, and its refresh token is turned away at every lookup but one made in or after the
token's last second, when the entry may have lapsed (`logout_revokes_iff`).
-/

namespace InstantBoard.Auth

open Transition

/-! ## Who takes an access token -/

/-- `extract_user_from_token` -/
def extractUserFromToken (now : Nat) (token : Token) : Option TokenData :=
  ((decodeToken now token).filter (·.type = "access")).map (·.data)

/-- `is_token_blacklisted` -/
def isTokenBlacklisted (b : Blacklist) (now : Nat) (token : Token) : Bool :=
  ((decodeToken now token).filter (·.jti ≠ "")).any fun c => isBlacklisted b now c.jti

/-- `InvalidToken`, by its message. -/
inductive AuthError where
  | invalidToken (message : String)
deriving DecidableEq

/-- The entry points that are presented a token. -/
inductive AuthPath where
  | getCurrentUser
  | getOptionalToken
  | sseStream
deriving DecidableEq

/-- What an entry point makes of a token. The blacklist answers at `now`; the token is decoded once
the answer is there. -/
def AuthPath.authenticate (b : Blacklist) (now later : Nat) (token : Token) :
    AuthPath → Except AuthError TokenData
  | .getCurrentUser =>
    if isTokenBlacklisted b now token then .error (.invalidToken "Token has been revoked")
    else match extractUserFromToken later token with
      | none => .error (.invalidToken "Invalid or expired JWT token")
      | some user =>
        if user.sub = "" then .error (.invalidToken "Token missing user_id") else .ok user
  | .getOptionalToken =>
    if isTokenBlacklisted b now token then .error (.invalidToken "Token has been revoked")
    else match extractUserFromToken later token with
      | none => .error (.invalidToken "Invalid or expired JWT token")
      | some user => .ok user
  -- no lookup
  | .sseStream =>
    match extractUserFromToken now token with
    | none => .error (.invalidToken "Invalid or expired JWT token")
    | some user => .ok user

/-! ## The logout -/

namespace Logout

/-- Where a logout waits. -/
inductive Phase where
  /-- `add_token_to_blacklist(access_token, ttl_seconds=remaining)` -/
  | access (jti : String) (ttlSeconds : Nat)
  /-- `add_token_to_blacklist(refresh_token_str, ...)` -/
  | refresh (jti : String) (ttlSeconds : Nat)
  /-- the scan over `session:*`, which touches no token -/
  | sessions
  | done
  /-- Redis answered a write with an error. -/
  | error

structure Request where
  accessToken : Token
  refreshToken : Option Token
  phase : Phase

/-- From the second `if`. -/
def revokeRefresh (settings : Settings) (now : Nat) : Option Token → Phase
  | none => .sessions
  | some token =>
    match decodeToken now token with
    | none => .sessions
    | some c =>
      if c.jti = "" then .sessions else .refresh c.jti (settings.jwtRefreshTokenExpireDays * 86400)

/-- `logout` up to its first wait. -/
def receive (settings : Settings) (now : Nat) (accessToken : Token) (refreshToken : Option Token) :
    Phase :=
  match decodeToken now accessToken with
  | none => revokeRefresh settings now refreshToken
  | some c =>
    if 0 < remainingSeconds now c ∧ c.jti ≠ "" then .access c.jti (remainingSeconds now c)
    else revokeRefresh settings now refreshToken

end Logout

/-! ## Both kinds of requests -/

/-- The server with its logouts. -/
structure World where
  server : Server
  logouts : Nat → Option Logout.Request

namespace World

def init (clock : Nat) (users : String → Option User) : World :=
  { server := Server.init clock users, logouts := fun _ => none }

def setLogout (w : World) (l : Nat) (q : Logout.Request) : World :=
  { w with logouts := fun l' => if l' = l then some q else w.logouts l' }

def setBlacklist (w : World) (b : Blacklist) : World :=
  { w with server := { w.server with blacklist := b } }

inductive Label where
  | server (label : Auth.Label)
  | logout (l : Nat) (accessToken : Token) (refreshToken : Option Token)
  | set (l : Nat)
  | scan (l : Nat)

/-- One step of the server or of a logout. -/
inductive Step (settings : Settings) : World → Label → World → Prop where
  | server {w a server} : Auth.Step settings w.server a server →
      Step settings w (.server a) { w with server }
  | logout {w l accessToken refreshToken} : w.logouts l = none → w.server.Knows accessToken →
      (∀ token, refreshToken = some token → w.server.Knows token) →
      Step settings w (.logout l accessToken refreshToken) (w.setLogout l ⟨accessToken, refreshToken,
        Logout.receive settings w.server.clock accessToken refreshToken⟩)
  | access {w l q jti ttl b} : w.logouts l = some q → q.phase = .access jti ttl →
      blacklistSet w.server.blacklist w.server.clock jti ttl = some b →
      Step settings w (.set l) ((w.setBlacklist b).setLogout l
        { q with phase := Logout.revokeRefresh settings w.server.clock q.refreshToken })
  | refresh {w l q jti ttl b} : w.logouts l = some q → q.phase = .refresh jti ttl →
      blacklistSet w.server.blacklist w.server.clock jti ttl = some b →
      Step settings w (.set l) ((w.setBlacklist b).setLogout l { q with phase := .sessions })
  | refused {w l q jti ttl} : w.logouts l = some q →
      q.phase = .access jti ttl ∨ q.phase = .refresh jti ttl →
      blacklistSet w.server.blacklist w.server.clock jti ttl = none →
      Step settings w (.set l) (w.setLogout l { q with phase := .error })
  | scan {w l q} : w.logouts l = some q → q.phase = .sessions →
      Step settings w (.scan l) (w.setLogout l { q with phase := .done })

/-- The condition on a step: what is logged out as a refresh token is one, or access tokens live no
longer than refresh tokens, so that its entry is not cut short. -/
def KeepsEntries (settings : Settings) : Label → Prop
  | .logout _ _ (some (.signed c)) => c.type = "refresh" ∨
      settings.jwtAccessTokenExpireMinutes * 60 ≤ settings.jwtRefreshTokenExpireDays * 86400
  | _ => True

end World

/-! ## What a logout leaves on the blacklist -/

/-- The seconds a token of the kind lives. -/
def Settings.life (settings : Settings) (c : Claims) : Nat :=
  if c.type = "refresh" then settings.jwtRefreshTokenExpireDays * 86400
  else settings.jwtAccessTokenExpireMinutes * 60

/-- The access token of a logout is on the blacklist up to its last second. -/
def Server.AccessRevoked (s : Server) (token : Token) : Prop :=
  ∀ c, token = .signed c → unix s.clock < c.exp → s.Revoked c

def Server.RefreshRevoked (s : Server) (token : Option Token) : Prop :=
  ∀ c, token = some (.signed c) → c.type = "refresh" → unix s.clock ≤ c.exp → s.Revoked c

/-- What the place of a logout says of its tokens. -/
def Logout.Phase.Sound (settings : Settings) (s : Server) (q : Logout.Request) :
    Logout.Phase → Prop
  | .access jti ttl => ∃ c ∈ s.signed, q.accessToken = .signed c ∧ jti = c.jti ∧
      ∃ written ≤ s.clock, ttl = remainingSeconds written c
  | .refresh jti ttl => s.AccessRevoked q.accessToken ∧
      ∃ c ∈ s.signed, q.refreshToken = some (.signed c) ∧ jti = c.jti ∧
        ttl = settings.jwtRefreshTokenExpireDays * 86400
  | .sessions | .done => s.AccessRevoked q.accessToken ∧ s.RefreshRevoked q.refreshToken
  | .error => True

structure Logout.Request.Sound (settings : Settings) (s : Server) (q : Logout.Request) : Prop where
  phase : q.phase.Sound settings s q
  access : s.Knows q.accessToken
  refresh : ∀ c, q.refreshToken = some (.signed c) → c ∈ s.signed ∧ (c.type = "refresh" ∨
    settings.jwtAccessTokenExpireMinutes * 60 ≤ settings.jwtRefreshTokenExpireDays * 86400)

structure World.Sound (settings : Settings) (w : World) : Prop where
  server : w.server.Sound
  /-- no token outlives its kind -/
  exp_le : ∀ c ∈ w.server.signed, c.exp ≤ unix w.server.clock + settings.life c
  logouts : ∀ l q, w.logouts l = some q → q.Sound settings w.server

/-! ## One step -/

/-- A write that lasts as long as its token revokes it and cuts no entry short. -/
lemma Server.Sound.extends_blacklist {s : Server} (h : s.Sound) {c : Claims} (hc : c ∈ s.signed)
    {ttl : Nat} {b : Blacklist} (hb : blacklistSet s.blacklist s.clock c.jti ttl = some b)
    (hlong : 1000 * c.exp ≤ s.clock + 1000 * ttl) :
    s.Extends { s with blacklist := b } ∧ Server.Revoked { s with blacklist := b } c := by
  have hlasts : Expiring.Lasts b (tokenBlacklistKey c.jti) (1000 * c.exp) :=
    (Expiring.lasts_set hb).mono hlong
  refine ⟨⟨Nat.le_refl _, fun _ hc' => hc', ?_⟩, hlasts⟩
  intro c' hc' hrev
  by_cases hj : c'.jti = c.jti
  · cases h.issued.distinct c' hc' c hc hj
    exact hlasts
  · exact (Expiring.lasts_set_ne hb (fun hk => hj (tokenBlacklistKey_inj.1 hk))).2 hrev

/-- A blacklist that grows keeps the server sound. -/
lemma Server.Sound.setBlacklist {s : Server} (h : s.Sound) {b : Blacklist}
    (ext : s.Extends { s with blacklist := b }) : Server.Sound { s with blacklist := b } where
  issued := h.issued
  requests := fun r q hq => (h.requests r q hq).extend ext

/-- An access token stays revoked. -/
lemma Server.AccessRevoked.extend {s t : Server} {token : Token} (h : s.AccessRevoked token)
    (hk : s.Knows token) (ext : s.Extends t) : t.AccessRevoked token := by
  intro c htok hlt
  apply ext.revoked c (hk c htok)
  apply h c htok
  exact Nat.lt_of_le_of_lt (unix_mono ext.clock) hlt

/-- A refresh token stays revoked. -/
lemma Server.RefreshRevoked.extend {s t : Server} {token : Option Token} (h : s.RefreshRevoked token)
    (hk : ∀ c, token = some (.signed c) → c ∈ s.signed) (ext : s.Extends t) :
    t.RefreshRevoked token := by
  intro c htok htype hle
  apply ext.revoked c (hk c htok)
  apply h c htok htype
  exact Nat.le_trans (unix_mono ext.clock) hle

/-- A logout stays sound while the server goes on. -/
lemma Logout.Request.Sound.extend {settings : Settings} {s t : Server} {q : Logout.Request}
    (h : q.Sound settings s) (ext : s.Extends t) : q.Sound settings t := by
  have hrefresh := fun c htok => (h.refresh c htok).1
  refine ⟨?_, fun c htok => ext.signed c (h.access c htok), ?_⟩
  · have hphase := h.phase
    cases hq : q.phase with
    | access jti ttl =>
      rw [hq] at hphase
      obtain ⟨c, hc, htok, hj, written, hw, httl⟩ := hphase
      exact ⟨c, ext.signed c hc, htok, hj, written, Nat.le_trans hw ext.clock, httl⟩
    | refresh jti ttl =>
      rw [hq] at hphase
      obtain ⟨hacc, c, hc, htok, hj, httl⟩ := hphase
      exact ⟨hacc.extend h.access ext, c, ext.signed c hc, htok, hj, httl⟩
    | sessions =>
      rw [hq] at hphase
      exact ⟨hphase.1.extend h.access ext, hphase.2.extend hrefresh ext⟩
    | done =>
      rw [hq] at hphase
      exact ⟨hphase.1.extend h.access ext, hphase.2.extend hrefresh ext⟩
    | error => trivial
  · intro c htok
    exact ⟨ext.signed c (h.refresh c htok).1, (h.refresh c htok).2⟩

namespace Logout

/-- After the access token is dealt with. -/
lemma revokeRefresh_sound {settings : Settings} {s : Server} (h : Issued s.signed)
    {q : Logout.Request} (hacc : s.AccessRevoked q.accessToken)
    (hk : ∀ c, q.refreshToken = some (.signed c) → c ∈ s.signed) :
    (revokeRefresh settings s.clock q.refreshToken).Sound settings s q := by
  unfold revokeRefresh
  split
  · rename_i hnone
    refine ⟨hacc, ?_⟩
    intro c htok
    rw [hnone] at htok
    cases htok
  · rename_i token htoken
    split
    · rename_i hdec
      -- the refresh token has expired
      refine ⟨hacc, ?_⟩
      intro c htok _ hle
      rw [htoken, Option.some.injEq] at htok
      rw [decodeToken_eq_some.2 ⟨htok, hle⟩] at hdec
      cases hdec
    · rename_i c hdec
      obtain ⟨rfl, _⟩ := decodeToken_eq_some.1 hdec
      have hc := hk c htoken
      rw [if_neg (h.named c hc)]
      exact ⟨hacc, c, hc, htoken, rfl, rfl⟩

/-- A logout begins sound. -/
lemma receive_sound {settings : Settings} {s : Server} (h : Issued s.signed)
    {accessToken : Token} {refreshToken : Option Token} (hk : s.Knows accessToken)
    (hk' : ∀ c, refreshToken = some (.signed c) → c ∈ s.signed) :
    (receive settings s.clock accessToken refreshToken).Sound settings s
      ⟨accessToken, refreshToken, receive settings s.clock accessToken refreshToken⟩ := by
  have skipped : s.AccessRevoked accessToken → (revokeRefresh settings s.clock refreshToken).Sound
      settings s ⟨accessToken, refreshToken, receive settings s.clock accessToken refreshToken⟩ :=
    fun hacc => revokeRefresh_sound (q := ⟨accessToken, refreshToken, _⟩) h hacc hk'
  generalize hq : Logout.Request.mk accessToken refreshToken
    (receive settings s.clock accessToken refreshToken) = q at skipped ⊢
  have htok : q.accessToken = accessToken := by rw [← hq]
  unfold receive
  split
  · rename_i hdec
    apply skipped
    intro c heq hlt
    rw [decodeToken_eq_some.2 ⟨heq, Nat.le_of_lt hlt⟩] at hdec
    cases hdec
  · rename_i c hdec
    obtain ⟨rfl, _⟩ := decodeToken_eq_some.1 hdec
    have hc := hk c rfl
    split
    · exact ⟨c, hc, htok, rfl, s.clock, Nat.le_refl _, rfl⟩
    · rename_i hno
      -- nothing is left of the token's life
      apply skipped
      intro c' heq hlt
      cases heq
      refine absurd ⟨?_, h.named c hc⟩ hno
      unfold remainingSeconds
      omega

end Logout

/-- No step makes a token that outlives its kind. -/
lemma Step.exp_le {settings : Settings} {s t : Server} {a : Label}
    (h : ∀ c ∈ s.signed, c.exp ≤ unix s.clock + settings.life c) (hst : Step settings s a t) :
    ∀ c ∈ t.signed, c.exp ≤ unix t.clock + settings.life c := by
  have signs : ∀ data access refresh, ∀ c ∈ (s.sign settings data access refresh).signed,
      c.exp ≤ unix s.clock + settings.life c := by
    intro data access refresh c hc
    simp only [Server.sign, List.mem_cons] at hc
    rcases hc with rfl | rfl | hc
    · exact Nat.le_refl _
    · exact Nat.le_refl _
    · exact h c hc
  cases hst with
  | @tick ms =>
    intro c hc
    have hle := h c hc
    have hmono : unix s.clock ≤ unix (s.clock + ms) := unix_mono (Nat.le_add_right _ _)
    show c.exp ≤ unix (s.clock + ms) + _
    omega
  | login => exact signs _ _ _
  | issue => exact signs _ _ _
  | _ => exact h

namespace World

/-- The logouts after one of them has gone on. -/
lemma logouts_setLogout {w : World} {l l' : Nat} {q q' : Logout.Request} :
    (w.setLogout l q).logouts l' = some q' ↔
      l' = l ∧ q' = q ∨ l' ≠ l ∧ w.logouts l' = some q' := by
  by_cases h : l' = l
  · simp [setLogout, h, eq_comm]
  · simp [setLogout, h]

/-- A logout moves on a server that has kept what it had. -/
lemma Sound.setLogout {settings : Settings} {w : World} (h : w.Sound settings) {b : Blacklist}
    (ext : w.server.Extends { w.server with blacklist := b }) {l : Nat} {q : Logout.Request}
    (hq : q.Sound settings { w.server with blacklist := b }) :
    ((w.setBlacklist b).setLogout l q).Sound settings where
  server := h.server.setBlacklist ext
  exp_le := h.exp_le
  logouts := by
    intro l' q' hl'
    rcases logouts_setLogout.1 hl' with ⟨_, rfl⟩ | ⟨_, hl'⟩
    · exact hq
    · exact (h.logouts l' q' hl').extend ext

/-- The lookups a token has left, in seconds, fit the time to live of a logout's entry. -/
lemma Sound.refresh_long {settings : Settings} {w : World} (h : w.Sound settings) {c : Claims}
    (hc : c ∈ w.server.signed) (hkind : c.type = "refresh" ∨
      settings.jwtAccessTokenExpireMinutes * 60 ≤ settings.jwtRefreshTokenExpireDays * 86400) :
    1000 * c.exp ≤ w.server.clock + 1000 * (settings.jwtRefreshTokenExpireDays * 86400) := by
  have hle := h.exp_le c hc
  have hlife : settings.life c ≤ settings.jwtRefreshTokenExpireDays * 86400 := by
    unfold Settings.life
    split
    · exact Nat.le_refl _
    · rename_i hno
      exact hkind.resolve_left hno
  have hclock : 1000 * unix w.server.clock ≤ w.server.clock := Nat.mul_div_le _ 1000
  omega

/-- Every step that cuts no entry short keeps the world sound. -/
lemma Step.sound {settings : Settings} {w w' : World} {a : Label} (hkeeps : KeepsEntries settings a)
    (h : w.Sound settings) (hst : Step settings w a w') : w'.Sound settings := by
  cases hst with
  | server hserver =>
    have ext := hserver.extends h.server
    exact ⟨hserver.sound h.server, hserver.exp_le h.exp_le,
      fun l q hq => (h.logouts l q hq).extend ext⟩
  | @logout l accessToken refreshToken hfree hk hk' =>
    have hk'' : ∀ c, refreshToken = some (.signed c) → c ∈ w.server.signed :=
      fun c htok => hk' _ htok c rfl
    refine h.setLogout (b := w.server.blacklist) (.refl _) ⟨?_, hk, ?_⟩
    · exact Logout.receive_sound h.server.issued hk hk''
    · intro c htok
      simp only at htok
      subst htok
      exact ⟨hk'' c rfl, hkeeps⟩
  | @access l q jti ttl b hl hphase hb =>
    have hq := h.logouts l q hl
    have hplace := hq.phase
    rw [hphase] at hplace
    obtain ⟨c, hc, htok, rfl, written, hw, rfl⟩ := hplace
    have hlong : 1000 * c.exp ≤ w.server.clock + 1000 * remainingSeconds written c := by
      have hle : 1000 * unix written ≤ written := Nat.mul_div_le _ 1000
      unfold remainingSeconds
      omega
    obtain ⟨ext, hrev⟩ := h.server.extends_blacklist hc hb hlong
    refine h.setLogout ext ⟨?_, (hq.extend ext).access, (hq.extend ext).refresh⟩
    apply Logout.revokeRefresh_sound (s := { w.server with blacklist := b })
      (q := { q with phase := _ }) h.server.issued
    · intro c' htok' _
      rw [htok] at htok'
      cases htok'
      exact hrev
    · exact fun c htok => (hq.refresh c htok).1
  | @refresh l q jti ttl b hl hphase hb =>
    have hq := h.logouts l q hl
    have hplace := hq.phase
    rw [hphase] at hplace
    obtain ⟨hacc, c, hc, htok, rfl, rfl⟩ := hplace
    have hlong := h.refresh_long hc (hq.refresh c htok).2
    obtain ⟨ext, hrev⟩ := h.server.extends_blacklist hc hb hlong
    refine h.setLogout ext ⟨⟨hacc.extend hq.access ext, ?_⟩, (hq.extend ext).access,
      (hq.extend ext).refresh⟩
    intro c' htok' _ _
    rw [htok] at htok'
    cases htok'
    exact hrev
  | @refused l q _ _ hl =>
    have hq := h.logouts l q hl
    exact h.setLogout (b := w.server.blacklist) (.refl _) ⟨trivial, hq.access, hq.refresh⟩
  | @scan l q hl hphase =>
    have hq := h.logouts l q hl
    have hplace := hq.phase
    rw [hphase] at hplace
    exact h.setLogout (b := w.server.blacklist) (.refl _) ⟨hplace, hq.access, hq.refresh⟩

/-- The world begins sound. -/
lemma sound_init (settings : Settings) (clock : Nat) (users : String → Option User) :
    (World.init clock users).Sound settings where
  server := Server.sound_init clock users
  exp_le := fun _ hc => absurd hc List.not_mem_nil
  logouts := fun _ _ h => by cases h

end World

/-! ## After a logout -/

/-- The entry point takes the token for invalid. -/
def AuthPath.Refuses (path : AuthPath) (s : Server) (later : Nat) (token : Token) : Prop :=
  ∃ message, path.authenticate s.blacklist s.clock later token = .error (.invalidToken message)

/-- `refresh_token` turns the token away, before its lookup or at it. -/
structure Server.RejectsRefresh (s : Server) (settings : Settings) (token : Token) : Prop where
  received : (∃ message, AuthService.receive settings s.clock token =
      .done (.invalidRefreshToken message)) ∨
    ∃ payload version, AuthService.receive settings s.clock token = .checking payload version
  lookedUp : ∀ r payload version, s.requests r = some ⟨token, .checking payload version⟩ →
    AuthService.check s.blacklist s.clock payload version =
      .done (.invalidRefreshToken "Refresh token has been revoked")

/-- The token is in or past its last second, and off the blacklist again. -/
def Server.EntryLapsed (s : Server) (c : Claims) : Prop :=
  c.exp ≤ unix s.clock ∧ isBlacklisted s.blacklist s.clock c.jti = false

/-- A revoked token is on the blacklist before its last second. -/
lemma Server.Revoked.blacklisted {s : Server} {c : Claims} (h : s.Revoked c)
    (hlt : unix s.clock < c.exp) : isBlacklisted s.blacklist s.clock c.jti = true := by
  apply Expiring.get_isSome_iff.2
  apply h.mono
  unfold unix at hlt
  omega

/-- The paths that ask the blacklist refuse a revoked access token; `sse_stream` takes it. -/
lemma refuses_iff {s : Server} {c : Claims} (hissued : Issued s.signed) (hc : c ∈ s.signed)
    (htype : c.type = "access") (hrev : s.Revoked c) (hlt : unix s.clock < c.exp) (later : Nat)
    (path : AuthPath) : path.Refuses s later (.signed c) ↔ path ≠ .sseStream := by
  have hdec : decodeToken s.clock (.signed c) = some c :=
    decodeToken_eq_some.2 ⟨rfl, Nat.le_of_lt hlt⟩
  have hlisted : isTokenBlacklisted s.blacklist s.clock (.signed c) = true := by
    simp [isTokenBlacklisted, hdec, hissued.named c hc, hrev.blacklisted hlt, Option.filter]
  have huser : extractUserFromToken s.clock (.signed c) = some c.data := by
    simp [extractUserFromToken, hdec, htype, Option.filter]
  unfold AuthPath.Refuses
  cases path with
  | getCurrentUser =>
    refine iff_of_true ⟨"Token has been revoked", ?_⟩ (by simp)
    show (if _ then _ else _) = _
    rw [if_pos hlisted]
  | getOptionalToken =>
    refine iff_of_true ⟨"Token has been revoked", ?_⟩ (by simp)
    show (if _ then _ else _) = _
    rw [if_pos hlisted]
  | sseStream =>
    refine iff_of_false ?_ (by simp)
    rintro ⟨message, h⟩
    simp only [AuthPath.authenticate, huser] at h
    cases h

/-- A revoked refresh token is turned away while its entry has not lapsed. -/
lemma Server.Sound.rejectsRefresh {s : Server} (h : s.Sound) {settings : Settings} {c : Claims}
    (hc : c ∈ s.signed) (hrev : s.RefreshRevoked (some (.signed c))) (htype : c.type = "refresh")
    (hlapsed : ¬ s.EntryLapsed c) : s.RejectsRefresh settings (.signed c) := by
  constructor
  · rcases AuthService.receive_cases settings s.clock (.signed c) with hrej | ⟨c', htok, _, _, hcase⟩
    · exact .inl hrej
    · cases htok
      rcases hcase with ⟨version, _, hreceive⟩ | ⟨hnone, _⟩
      · exact .inr ⟨c, version, hreceive⟩
      · simp [h.issued.version c hc htype, h.issued.named c hc] at hnone
  · intro r payload version hr
    obtain ⟨c', _, htok, _, hphase⟩ := h.waiting hr (by simp)
    cases htok
    obtain ⟨rfl, rfl⟩ := hphase
    have hlisted : Auth.isBlacklisted s.blacklist s.clock payload.jti = true := by
      by_cases hlt : unix s.clock < payload.exp
      · exact (hrev payload rfl htype (Nat.le_of_lt hlt)).blacklisted hlt
      · rw [← Bool.not_eq_false]
        exact fun hno => hlapsed ⟨Nat.not_lt.1 hlt, hno⟩
    unfold AuthService.check
    rw [if_pos hlisted]

/-- After a logout, in every run whose logouts cut no entry short: until it expires, its access
token is refused by exactly the paths other than `sse_stream`, and its refresh token is turned away
unless its entry has lapsed in its last second. -/
theorem logout_revokes_iff {settings : Settings} {clock : Nat} {users : String → Option User}
    {ls : List World.Label} {w : World}
    (run : Guarded (World.Step settings) (fun _ a => World.KeepsEntries settings a)
      (World.init clock users) ls w)
    {l : Nat} {q : Logout.Request} (hl : w.logouts l = some q) (hdone : q.phase = .done) :
    (∀ c, q.accessToken = .signed c → c.type = "access" → unix w.server.clock < c.exp →
      ∀ later path, AuthPath.Refuses path w.server later q.accessToken ↔ path ≠ .sseStream) ∧
    (∀ c, q.refreshToken = some (.signed c) → c.type = "refresh" → ¬ w.server.EntryLapsed c →
      w.server.RejectsRefresh settings (.signed c)) := by
  have h : w.Sound settings :=
    run.invariant World.Step.sound (World.sound_init settings clock users)
  have hq := h.logouts l q hl
  have hplace := hq.phase
  rw [hdone] at hplace
  constructor
  · intro c htok htype hlt later path
    rw [htok]
    exact refuses_iff h.server.issued (hq.access c htok) htype (hplace.1 c htok hlt) hlt later path
  · intro c htok htype hlapsed
    have hrev := hplace.2
    rw [htok] at hrev
    exact h.server.rejectsRefresh (hq.refresh c htok).1 hrev htype hlapsed

/-! ## One logout -/

namespace FirstLogout

open Sample

def access : Claims := createAccessToken settings 0 "a" data

def refresh : Claims := createRefreshToken settings 0 "b" data

/-- A login, and two seconds later its logout. -/
def labels : List World.Label :=
  [.server (.login data "a" "b"), .server (.tick 2000), .logout 0 (.signed access) (some (.signed refresh)),
    .set 0, .set 0, .scan 0]

/-- The world when the logout comes. -/
def before : World :=
  { World.init 0 users with
    server := { (Server.init 0 users).sign settings data "a" "b" with clock := 2000 } }

/-- The access token has an hour less two seconds left. -/
lemma receive_eq : Logout.receive settings 2000 (.signed access) (some (.signed refresh)) =
    .access "a" 3598 := by
  have hdec : decodeToken 2000 (.signed access) = some access :=
    decodeToken_eq_some.2 ⟨rfl, by decide⟩
  have hrem : remainingSeconds 2000 access = 3598 := by decide
  have hjti : access.jti = "a" := rfl
  simp [Logout.receive, hdec, hrem, hjti]

/-- The refresh token is to be revoked for a week. -/
lemma revokeRefresh_eq : Logout.revokeRefresh settings 2000 (some (.signed refresh)) =
    .refresh "b" 604800 := by
  have hdec : decodeToken 2000 (.signed refresh) = some refresh :=
    decodeToken_eq_some.2 ⟨rfl, by decide⟩
  have hjti : refresh.jti = "b" := rfl
  simp [Logout.revokeRefresh, hdec, hjti, settings]

/-- The logout runs to its end within two seconds. -/
lemma run : ∃ w, Guarded (World.Step settings) (fun _ a => World.KeepsEntries settings a)
    (World.init 0 users) labels w ∧
      (w.logouts 0 = some ⟨.signed access, some (.signed refresh), .done⟩ ∧
        unix w.server.clock = 2) := by
  have known : ∀ {s : Server} {c : Claims}, c ∈ s.signed → s.Knows (.signed c) := by
    intro s c hc c' h
    cases h
    exact hc
  have fresh : (Server.init 0 users).Fresh "a" "b" :=
    ⟨by decide, by decide, by decide, fun _ hc => absurd hc List.not_mem_nil⟩
  refine Guarded.exists_cons trivial (.server (.login fresh)) ?_
  refine Guarded.exists_cons (t := before) trivial (.server .tick) ?_
  refine Guarded.exists_cons (.inl rfl) (.logout rfl (known List.mem_cons_self) ?_) ?_
  · intro token htoken
    cases htoken
    exact known (List.mem_cons_of_mem _ List.mem_cons_self)
  refine Guarded.exists_cons trivial (.access rfl receive_eq rfl) ?_
  refine Guarded.exists_cons trivial (.refresh rfl revokeRefresh_eq rfl) ?_
  refine Guarded.exists_cons trivial (.scan rfl rfl) ?_
  exact ⟨_, .nil, rfl, by decide⟩

end FirstLogout

open FirstLogout Sample in
/-- What the logout leaves of the session. -/
theorem firstLogout_revokes_iff : ∃ w : World,
    (∀ path, AuthPath.Refuses path w.server w.server.clock (.signed access) ↔ path ≠ .sseStream) ∧
      w.server.RejectsRefresh settings (.signed refresh) := by
  obtain ⟨w, run, hl, hclock⟩ := run
  obtain ⟨haccess, hrefresh⟩ := logout_revokes_iff run hl rfl
  refine ⟨w, haccess access rfl rfl ?_ w.server.clock, hrefresh refresh rfl rfl ?_⟩
  · rw [hclock]
    decide
  · rintro ⟨hle, _⟩
    rw [hclock] at hle
    exact absurd hle (by decide)

open FirstLogout Sample in
/-- The stream opens with a token that has been logged out. -/
theorem sseStream_after_logout : ¬ ∀ (settings : Settings) (clock : Nat)
    (users : String → Option User) (ls : List World.Label) (w : World),
      Steps (World.Step settings) (World.init clock users) ls w →
      ∀ l q c, w.logouts l = some q → q.phase = .done → q.accessToken = .signed c →
        c.type = "access" → unix w.server.clock < c.exp →
        ∀ path, AuthPath.Refuses path w.server w.server.clock (.signed c) := by
  intro h
  obtain ⟨w, run, hl, hclock⟩ := run
  have hlt : unix w.server.clock < access.exp := by
    rw [hclock]
    decide
  obtain ⟨message, hrefused⟩ := h _ _ _ _ w run.steps 0 _ access hl rfl rfl rfl hlt .sseStream
  have hdec : decodeToken w.server.clock (.signed access) = some access :=
    decodeToken_eq_some.2 ⟨rfl, Nat.le_of_lt hlt⟩
  have huser : extractUserFromToken w.server.clock (.signed access) = some access.data := by
    rw [extractUserFromToken, hdec]
    rfl
  simp only [AuthPath.authenticate, huser] at hrefused
  cases hrefused

end InstantBoard.Auth
