import InstantBoard.Auth.Token
import InstantBoard.Lib.Transition

/-!
# Refreshing a session

`AuthService.refresh_token` cut where it waits: for the blacklist lookup, for the user's row, for
the blacklist write. `Step` lets any number of such requests take their pieces in any order while
the clock runs. `Server.Sound` is what holds in every reachable state; it says among other things
that a token exchanged for new ones is on the blacklist up to its last second.
-/

namespace InstantBoard.Auth

open Transition

structure User where
  id : String
  tenantId : String
  role : String
  ssoProvider : String

/-- What a request is answered with. -/
inductive Outcome where
  | tokens (access refresh : Claims) (expiresIn : Nat)
  | invalidRefreshToken (message : String)
  /-- Redis answered the write with an error. -/
  | error
deriving DecidableEq

/-- Where a request waits. -/
inductive Phase where
  /-- `is_refresh_token_blacklisted` -/
  | checking (payload : Claims) (version : String)
  /-- `db.execute(select(User))` -/
  | reading (payload : Claims)
  | found (payload : Claims) (user : Option User)
  /-- `redis_set` in `add_token_to_blacklist` -/
  | blacklisting (payload : Claims) (user : User) (jti : String) (ttlSeconds : Nat)
  | issuing (payload : Claims) (user : User)
  | done (outcome : Outcome)

structure Request where
  token : Token
  phase : Phase

/-! ## The code between the waits -/

namespace AuthService

/-- `refresh_token` up to the lookup. -/
def receive (settings : Settings) (now : Nat) (token : Token) : Phase :=
  match decodeToken now token with
  | none => .done (.invalidRefreshToken "Invalid refresh token")
  | some payload =>
    if payload.type ≠ "refresh" then .done (.invalidRefreshToken "Invalid refresh token")
    -- the kill-switch comes before the rotation: nothing is revoked
    else if payload.data.provider = LOCAL_SSO_PROVIDER ∧ settings.adminLoginEnabled = false then
      .done (.invalidRefreshToken "Admin login is disabled")
    else
      match payload.refreshVersion.filter (· ≠ "") with
      | some version => .checking payload version
      -- a payload without a version is not looked up
      | none => .reading payload

/-- The lookup. -/
def check (b : Blacklist) (now : Nat) (payload : Claims) (version : String) : Phase :=
  if isBlacklisted b now version then .done (.invalidRefreshToken "Refresh token has been revoked")
  else .reading payload

/-- From the user's row to the write; the token is decoded once more, at a later clock. -/
def revoke (now : Nat) (token : Token) (payload : Claims) : Option User → Phase
  | none => .done (.invalidRefreshToken "User not found")
  | some user =>
    match decodeToken now token with
    -- expired meanwhile: nothing is written, and the request goes on
    | none => .issuing payload user
    | some c =>
      if c.jti = "" then .issuing payload user
      else .blacklisting payload user c.jti (remainingSeconds now c)

def tokenData (payload : Claims) (user : User) : TokenData :=
  { sub := user.id, tenantId := user.tenantId, role := user.role,
    provider := if payload.data.provider = "" then user.ssoProvider else payload.data.provider }

/-- The answer, with the two fresh ids. -/
def issue (settings : Settings) (now : Nat) (data : TokenData) (access refresh : String) : Outcome :=
  .tokens (createAccessToken settings now access data) (createRefreshToken settings now refresh data)
    (settings.jwtAccessTokenExpireMinutes * 60)

end AuthService

/-! ## The server -/

structure Server where
  clock : Nat
  users : String → Option User
  blacklist : Blacklist
  /-- Every payload signed so far. -/
  signed : List Claims
  requests : Nat → Option Request

def Server.init (clock : Nat) (users : String → Option User) : Server :=
  { clock, users, blacklist := fun _ => none, signed := [], requests := fun _ => none }

/-- Ids as `uuid4` makes them: unlike each other and unlike any used before. -/
structure Server.Fresh (s : Server) (access refresh : String) : Prop where
  access_ne : access ≠ ""
  refresh_ne : refresh ≠ ""
  differ : access ≠ refresh
  unused : ∀ c ∈ s.signed, c.jti ≠ access ∧ c.jti ≠ refresh

/-- A signature cannot be made without the secret. -/
def Server.Knows (s : Server) (token : Token) : Prop :=
  ∀ c, token = .signed c → c ∈ s.signed

def Server.sign (s : Server) (settings : Settings) (data : TokenData) (access refresh : String) :
    Server :=
  { s with signed := createAccessToken settings s.clock access data ::
      createRefreshToken settings s.clock refresh data :: s.signed }

def Server.setPhase (s : Server) (r : Nat) (token : Token) (phase : Phase) : Server :=
  { s with requests := fun r' => if r' = r then some ⟨token, phase⟩ else s.requests r' }

inductive Label where
  | tick (ms : Nat)
  | users (users : String → Option User)
  | login (data : TokenData) (access refresh : String)
  | enter (r : Nat) (token : Token)
  | get (r : Nat)
  | select (r : Nat)
  | resume (r : Nat)
  | set (r : Nat)
  | issue (r : Nat) (access refresh : String)

/-- One step of the clock, of the users table, of a login or of a request. -/
inductive Step (settings : Settings) : Server → Label → Server → Prop where
  | tick {s ms} : Step settings s (.tick ms) { s with clock := s.clock + ms }
  | users {s users} : Step settings s (.users users) { s with users }
  | login {s data access refresh} : s.Fresh access refresh →
      Step settings s (.login data access refresh) (s.sign settings data access refresh)
  | enter {s r token} : s.requests r = none → s.Knows token →
      Step settings s (.enter r token)
        (s.setPhase r token (AuthService.receive settings s.clock token))
  | get {s r token payload version} : s.requests r = some ⟨token, .checking payload version⟩ →
      Step settings s (.get r)
        (s.setPhase r token (AuthService.check s.blacklist s.clock payload version))
  | select {s r token payload} : s.requests r = some ⟨token, .reading payload⟩ →
      Step settings s (.select r)
        (s.setPhase r token (.found payload (s.users payload.data.sub)))
  | resume {s r token payload user} : s.requests r = some ⟨token, .found payload user⟩ →
      Step settings s (.resume r)
        (s.setPhase r token (AuthService.revoke s.clock token payload user))
  | set {s r token payload user jti ttl b} :
      s.requests r = some ⟨token, .blacklisting payload user jti ttl⟩ →
      blacklistSet s.blacklist s.clock jti ttl = some b →
      Step settings s (.set r)
        ({ s with blacklist := b }.setPhase r token (.issuing payload user))
  | refused {s r token payload user jti ttl} :
      s.requests r = some ⟨token, .blacklisting payload user jti ttl⟩ →
      blacklistSet s.blacklist s.clock jti ttl = none →
      Step settings s (.set r) (s.setPhase r token (.done .error))
  | issue {s r token payload user access refresh} :
      s.requests r = some ⟨token, .issuing payload user⟩ → s.Fresh access refresh →
      Step settings s (.issue r access refresh)
        ((s.sign settings (AuthService.tokenData payload user) access refresh).setPhase r token
          (.done (AuthService.issue settings s.clock (AuthService.tokenData payload user) access
            refresh)))

/-- The requests after one of them has gone on. -/
lemma requests_setPhase {s : Server} {r r' : Nat} {token : Token} {phase : Phase} {q : Request} :
    (s.setPhase r token phase).requests r' = some q ↔
      r' = r ∧ q = ⟨token, phase⟩ ∨ r' ≠ r ∧ s.requests r' = some q := by
  by_cases h : r' = r
  · simp [Server.setPhase, h, eq_comm]
  · simp [Server.setPhase, h]

/-! ## Exchanged tokens are revoked -/

/-- The token is on the blacklist up to its last second. -/
def Server.Revoked (s : Server) (c : Claims) : Prop :=
  Expiring.Lasts s.blacklist (tokenBlacklistKey c.jti) (1000 * c.exp)

/-- What the place of a request says of its token. -/
def Phase.Sound (s : Server) (c : Claims) : Phase → Prop
  | .checking payload version => payload = c ∧ version = c.jti
  | .reading payload => payload = c
  | .found payload _ => payload = c
  | .blacklisting payload _ jti ttl =>
    payload = c ∧ jti = c.jti ∧ ∃ written ≤ s.clock, ttl = remainingSeconds written c
  | .issuing payload _ => payload = c ∧ (unix s.clock < c.exp → s.Revoked c)
  | .done (.tokens _ _ _) => unix s.clock < c.exp → s.Revoked c
  | .done _ => True

/-- A request past its admission presents a refresh token the server signed. -/
def Request.Sound (s : Server) (q : Request) : Prop :=
  (∃ message, q.phase = .done (.invalidRefreshToken message)) ∨
    ∃ c ∈ s.signed, q.token = .signed c ∧ c.type = "refresh" ∧ q.phase.Sound s c

/-- An id belongs to one payload, and a refresh token's version is its id. -/
structure Issued (signed : List Claims) : Prop where
  distinct : ∀ c ∈ signed, ∀ c' ∈ signed, c.jti = c'.jti → c = c'
  named : ∀ c ∈ signed, c.jti ≠ ""
  version : ∀ c ∈ signed, c.type = "refresh" → c.refreshVersion = some c.jti

structure Server.Sound (s : Server) : Prop where
  issued : Issued s.signed
  requests : ∀ r q, s.requests r = some q → q.Sound s

/-- What the server never takes back. -/
structure Server.Extends (s t : Server) : Prop where
  clock : s.clock ≤ t.clock
  signed : ∀ c ∈ s.signed, c ∈ t.signed
  revoked : ∀ c ∈ s.signed, s.Revoked c → t.Revoked c

/-- A server goes on from itself. -/
lemma Server.Extends.refl (s : Server) : s.Extends s :=
  ⟨Nat.le_refl _, fun _ hc => hc, fun _ _ h => h⟩

/-- Seconds follow milliseconds. -/
lemma unix_mono {a b : Nat} (h : a ≤ b) : unix a ≤ unix b :=
  Nat.div_le_div_right h

/-- A phase stays sound while the server goes on. -/
lemma Phase.Sound.extend {s t : Server} {c : Claims} {phase : Phase} (h : phase.Sound s c)
    (hc : c ∈ s.signed) (ext : s.Extends t) : phase.Sound t c := by
  have later : (unix s.clock < c.exp → s.Revoked c) → unix t.clock < c.exp → t.Revoked c := by
    intro hrev hlt
    apply ext.revoked c hc
    apply hrev
    exact Nat.lt_of_le_of_lt (unix_mono ext.clock) hlt
  cases phase with
  | checking => exact h
  | reading => exact h
  | found => exact h
  | blacklisting =>
    obtain ⟨hp, hj, written, hw, httl⟩ := h
    exact ⟨hp, hj, written, Nat.le_trans hw ext.clock, httl⟩
  | issuing => exact ⟨h.1, later h.2⟩
  | done outcome =>
    cases outcome with
    | tokens => exact later h
    | invalidRefreshToken => trivial
    | error => trivial

/-- A request stays sound while the server goes on. -/
lemma Request.Sound.extend {s t : Server} {q : Request} (h : q.Sound s) (ext : s.Extends t) :
    q.Sound t := by
  rcases h with h | ⟨c, hc, htok, htype, hphase⟩
  · exact .inl h
  · exact .inr ⟨c, ext.signed c hc, htok, htype, hphase.extend hc ext⟩

/-! ## One step -/

/-- Tokens that are signed with fresh ids keep the rules for issued ones. -/
lemma Issued.sign {s : Server} (h : Issued s.signed) {settings : Settings} {data : TokenData}
    {access refresh : String} (fresh : s.Fresh access refresh) :
    Issued (s.sign settings data access refresh).signed := by
  constructor
  · intro c hc c' hc' hj
    -- the two new payloads have fresh ids, unlike each other and the old ones
    simp only [Server.sign, List.mem_cons] at hc hc'
    rcases hc with rfl | rfl | hc <;> rcases hc' with rfl | rfl | hc'
    · rfl
    · exact absurd hj fresh.differ
    · exact absurd hj.symm (fresh.unused c' hc').1
    · exact absurd hj.symm fresh.differ
    · rfl
    · exact absurd hj.symm (fresh.unused c' hc').2
    · exact absurd hj (fresh.unused c hc).1
    · exact absurd hj (fresh.unused c hc).2
    · exact h.distinct c hc c' hc' hj
  · intro c hc
    simp only [Server.sign, List.mem_cons] at hc
    rcases hc with rfl | rfl | hc
    · exact fresh.access_ne
    · exact fresh.refresh_ne
    · exact h.named c hc
  · intro c hc htype
    simp only [Server.sign, List.mem_cons] at hc
    rcases hc with rfl | rfl | hc
    · simp [createAccessToken] at htype
    · rfl
    · exact h.version c hc htype

/-- Signing goes on from the server. -/
lemma Server.extends_sign {s : Server} {settings : Settings} {data : TokenData}
    {access refresh : String} : s.Extends (s.sign settings data access refresh) :=
  ⟨Nat.le_refl _, fun _ hc => List.mem_cons_of_mem _ (List.mem_cons_of_mem _ hc), fun _ _ h => h⟩

/-- A request that goes on changes nothing else. -/
lemma Server.extends_setPhase {s t : Server} (ext : s.Extends t) {r : Nat} {token : Token}
    {phase : Phase} : s.Extends (t.setPhase r token phase) :=
  ⟨ext.clock, ext.signed, ext.revoked⟩

/-- The write of a sound request revokes its token. -/
lemma Server.Sound.revoked_set {s : Server} (h : s.Sound) {r : Nat} {q : Request}
    (hr : s.requests r = some q) {payload : Claims} {user : User} {jti : String} {ttl : Nat}
    (hq : q.phase = .blacklisting payload user jti ttl) {b : Blacklist}
    (hb : blacklistSet s.blacklist s.clock jti ttl = some b) :
    s.Extends { s with blacklist := b } ∧
      Expiring.Lasts b (tokenBlacklistKey payload.jti) (1000 * payload.exp) := by
  have hs := h.requests r q hr
  rcases hs with ⟨_, hdone⟩ | ⟨c, hc, _, _, hphase⟩
  · rw [hq] at hdone
    cases hdone
  · rw [hq] at hphase
    obtain ⟨rfl, rfl, written, hw, rfl⟩ := hphase
    have hlasts := lasts_of_remaining hw hb
    refine ⟨⟨Nat.le_refl _, fun _ hc' => hc', ?_⟩, hlasts⟩
    intro c' hc' hrev
    -- the write may only prolong the entry of its own token
    by_cases hj : c'.jti = payload.jti
    · cases h.issued.distinct c' hc' payload hc hj
      exact hlasts
    · exact (Expiring.lasts_set_ne hb (fun hk => hj (tokenBlacklistKey_inj.1 hk))).2 hrev

/-- What a step leaves in place. -/
lemma Step.extends {settings : Settings} {s t : Server} {a : Label} (hst : Step settings s a t)
    (h : s.Sound) : s.Extends t := by
  cases hst with
  | tick => exact ⟨Nat.le_add_right _ _, fun _ hc => hc, fun _ _ hrev => hrev⟩
  | users => exact ⟨Nat.le_refl _, fun _ hc => hc, fun _ _ hrev => hrev⟩
  | login => exact Server.extends_sign
  | enter => exact Server.extends_setPhase (.refl s)
  | get => exact Server.extends_setPhase (.refl s)
  | select => exact Server.extends_setPhase (.refl s)
  | resume => exact Server.extends_setPhase (.refl s)
  | set hr hb => exact Server.extends_setPhase (h.revoked_set hr rfl hb).1
  | refused => exact Server.extends_setPhase (.refl s)
  | issue => exact Server.extends_setPhase Server.extends_sign

namespace AuthService

/-- A request is refused, or holds a refresh token whose version is checked next, if it has one. -/
lemma receive_cases (settings : Settings) (now : Nat) (token : Token) :
    (∃ message, receive settings now token = .done (.invalidRefreshToken message)) ∨
      ∃ c, token = .signed c ∧ unix now ≤ c.exp ∧ c.type = "refresh" ∧
        ((∃ version, c.refreshVersion = some version ∧
          receive settings now token = .checking c version) ∨
        (c.refreshVersion.filter (· ≠ "") = none ∧ receive settings now token = .reading c)) := by
  unfold receive
  split
  · exact .inl ⟨_, rfl⟩
  · rename_i c hc
    obtain ⟨rfl, hexp⟩ := decodeToken_eq_some.1 hc
    split
    · exact .inl ⟨_, rfl⟩
    · rename_i htype
      split
      · exact .inl ⟨_, rfl⟩
      · refine .inr ⟨c, rfl, hexp, Decidable.not_not.1 htype, ?_⟩
        split
        · rename_i version hv
          exact .inl ⟨version, (Option.filter_eq_some_iff.1 hv).1, rfl⟩
        · rename_i hv
          exact .inr ⟨hv, rfl⟩

/-- A valid refresh token of an enabled provider is looked up under its version. -/
lemma receive_refresh {settings : Settings} {now : Nat} {c : Claims} {version : String}
    (hexp : unix now ≤ c.exp) (htype : c.type = "refresh")
    (henabled : ¬ (c.data.provider = LOCAL_SSO_PROVIDER ∧ settings.adminLoginEnabled = false))
    (hversion : c.refreshVersion = some version) (hne : version ≠ "") :
    receive settings now (.signed c) = .checking c version := by
  have hdec : decodeToken now (.signed c) = some c := decodeToken_eq_some.2 ⟨rfl, hexp⟩
  simp [receive, hdec, htype, henabled, hversion, Option.filter, hne]

/-- An admitted refresh token is looked up under its id. -/
lemma receive_sound {settings : Settings} {s : Server} (h : Issued s.signed) {token : Token}
    (hk : s.Knows token) : Request.Sound s ⟨token, receive settings s.clock token⟩ := by
  rcases receive_cases settings s.clock token with hrej | ⟨c, rfl, _, htype, hcases⟩
  · exact .inl hrej
  · have hc := hk c rfl
    have hversion := h.version c hc htype
    rcases hcases with ⟨version, hv, hreceive⟩ | ⟨hv, _⟩
    · refine .inr ⟨c, hc, rfl, htype, ?_⟩
      rw [hversion] at hv
      cases hv
      rw [hreceive]
      exact ⟨rfl, rfl⟩
    · simp [hversion, h.named c hc] at hv

/-- The check of the version is sound. -/
lemma check_sound {s : Server} {c : Claims} (hc : c ∈ s.signed) (htype : c.type = "refresh") :
    Request.Sound s ⟨.signed c, check s.blacklist s.clock c c.jti⟩ := by
  unfold check
  split
  · exact .inl ⟨_, rfl⟩
  · exact .inr ⟨c, hc, rfl, htype, rfl⟩

/-- The revocation is sound. -/
lemma revoke_sound {s : Server} (h : Issued s.signed) {c : Claims} (hc : c ∈ s.signed)
    (htype : c.type = "refresh") (user : Option User) :
    Request.Sound s ⟨.signed c, revoke s.clock (.signed c) c user⟩ := by
  cases user with
  | none => exact .inl ⟨_, rfl⟩
  | some user =>
    refine .inr ⟨c, hc, rfl, htype, ?_⟩
    unfold revoke
    cases hd : decodeToken s.clock (.signed c) with
    | none =>
      -- the token expired while the request waited: nothing is written
      refine ⟨rfl, fun hlt => ?_⟩
      have hno := decodeToken_eq_some.2 ⟨rfl, Nat.le_of_lt hlt⟩
      rw [hd] at hno
      cases hno
    | some c' =>
      obtain ⟨heq, _⟩ := decodeToken_eq_some.1 hd
      cases heq
      show Phase.Sound s c (if c.jti = "" then _ else _)
      rw [if_neg (h.named c hc)]
      exact ⟨rfl, rfl, s.clock, Nat.le_refl _, rfl⟩

end AuthService

/-- A sound request that waits presents the token it waits for. -/
lemma Server.Sound.waiting {s : Server} (h : s.Sound) {r : Nat} {q : Request}
    (hr : s.requests r = some q) (hq : ∀ o, q.phase ≠ .done o) :
    ∃ c ∈ s.signed, q.token = .signed c ∧ c.type = "refresh" ∧ q.phase.Sound s c := by
  rcases h.requests r q hr with ⟨_, hdone⟩ | hc
  · exact absurd hdone (hq _)
  · exact hc

/-- A step that moves one request to a sound place keeps all requests sound. -/
lemma Server.Sound.setPhase {s t : Server} (h : s.Sound) (ext : s.Extends t)
    (same : t.requests = s.requests) {r : Nat} {token : Token} {phase : Phase}
    (hr : Request.Sound t ⟨token, phase⟩) :
    ∀ r' q, (t.setPhase r token phase).requests r' = some q → q.Sound (t.setPhase r token phase) := by
  intro r' q hq
  have frame : t.Extends (t.setPhase r token phase) := Server.extends_setPhase (.refl t)
  rcases requests_setPhase.1 hq with ⟨_, rfl⟩ | ⟨_, hs⟩
  · exact hr.extend frame
  · rw [same] at hs
    exact ((h.requests r' q hs).extend ext).extend frame

/-- Every step keeps the server sound. -/
lemma Step.sound {settings : Settings} {s t : Server} {a : Label} (hst : Step settings s a t)
    (h : s.Sound) : t.Sound := by
  have ext := hst.extends h
  constructor
  · cases hst with
    | login fresh => exact h.issued.sign fresh
    | issue _ fresh => exact h.issued.sign fresh
    | _ => exact h.issued
  · cases hst with
    | tick => exact fun r q hq => (h.requests r q hq).extend ext
    | users => exact fun r q hq => (h.requests r q hq).extend ext
    | login => exact fun r q hq => (h.requests r q hq).extend ext
    | enter _ hk =>
      apply h.setPhase (.refl s) rfl
      exact AuthService.receive_sound h.issued hk
    | get hr =>
      obtain ⟨c, hc, rfl, htype, rfl, rfl⟩ := h.waiting hr (by simp)
      apply h.setPhase (.refl s) rfl
      exact AuthService.check_sound hc htype
    | select hr =>
      obtain ⟨c, hc, htok, htype, hphase⟩ := h.waiting hr (by simp)
      apply h.setPhase (.refl s) rfl
      exact .inr ⟨c, hc, htok, htype, hphase⟩
    | resume hr =>
      obtain ⟨c, hc, rfl, htype, rfl⟩ := h.waiting hr (by simp)
      apply h.setPhase (.refl s) rfl
      exact AuthService.revoke_sound h.issued hc htype _
    | set hr hb =>
      obtain ⟨c, hc, htok, htype, rfl, _⟩ := h.waiting hr (by simp)
      have hset := h.revoked_set hr rfl hb
      apply h.setPhase hset.1 rfl
      exact .inr ⟨_, hc, htok, htype, rfl, fun _ => hset.2⟩
    | refused hr =>
      obtain ⟨c, hc, htok, htype, _⟩ := h.waiting hr (by simp)
      apply h.setPhase (.refl s) rfl
      exact .inr ⟨c, hc, htok, htype, trivial⟩
    | issue hr =>
      obtain ⟨c, hc, htok, htype, rfl, hrev⟩ := h.waiting hr (by simp)
      apply h.setPhase Server.extends_sign rfl
      exact .inr ⟨_, Server.extends_sign.signed _ hc, htok, htype, hrev⟩

/-- A server begins sound. -/
lemma Server.sound_init (clock : Nat) (users : String → Option User) :
    (Server.init clock users).Sound where
  issued := ⟨fun _ hc => absurd hc List.not_mem_nil, fun _ hc => absurd hc List.not_mem_nil,
    fun _ hc => absurd hc List.not_mem_nil⟩
  requests := fun _ _ h => by cases h

/-! ## Sample values -/

namespace Sample

def settings : Settings :=
  { jwtAccessTokenExpireMinutes := 60, jwtRefreshTokenExpireDays := 7, adminLoginEnabled := false }

def user : User := { id := "u", tenantId := "t", role := "user", ssoProvider := "github" }

def users (id : String) : Option User :=
  if id = "u" then some user else none

def data : TokenData := { sub := "u", tenantId := "t", role := "user", provider := "github" }

end Sample

end InstantBoard.Auth
