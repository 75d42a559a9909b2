import InstantBoard.Auth.Refresh
import Mathlib.Data.List.Infix

/-!
# The browser's session

The response interceptor of `utils/api.ts`, with the tokens it keeps in `localStorage`, against
`AuthService.refresh_token`. Requests of the page run in parallel; which status the API answers one
with is left open. The interceptor stores the new access token of a refresh and not the refresh
token that came with it, while the server has revoked the old one: after the first 401 the session
has no accepted refresh token left, up to the last second of the old one, when its blacklist entry
may have lapsed (`survives_iff`).
-/

namespace InstantBoard.Auth

open Transition

/-! ## The page -/

/-- Where a request of the page stands. -/
inductive CallPhase where
  | sent
  /-- `axios.post("/api/v1/auth/refresh", { refresh_token })` -/
  | refreshing (refreshToken : Token)
  | settled

structure Call where
  url : String
  retry : Bool
  authorization : Option Token
  phase : CallPhase

structure LocalStorage where
  accessToken : Option Token
  refreshToken : Option Token
  sessionEntry : Option String

structure Browser where
  localStorage : LocalStorage
  /-- `window.location.href`, once the page has been sent to a login page. -/
  location : Option String
  calls : Nat → Option Call

namespace Browser

def setCall (b : Browser) (q : Nat) (call : Call) : Browser :=
  { b with calls := fun q' => if q' = q then some call else b.calls q' }

def clearSessionAndRedirectToLogin (b : Browser) : Browser :=
  { b with
    localStorage := { accessToken := none, refreshToken := none, sessionEntry := none }
    location := some (if b.localStorage.sessionEntry = some "admin" then "/ibadmin" else "/login") }

/-- The 401s of the login flows are the caller's. -/
def isLoginFlow (url : String) : Bool :=
  decide ("/auth/sso/".toList <:+: url.toList) || decide ("/auth/admin/login".toList <:+: url.toList)

/-- The request interceptor. -/
def request (b : Browser) (q : Nat) (url : String) : Browser :=
  b.setCall q ⟨url, false, b.localStorage.accessToken, .sent⟩

/-- The response interceptor; `none` is a request without a response. -/
def respond (b : Browser) (q : Nat) (call : Call) (status : Option Nat) : Browser :=
  -- rethrown to the caller, whatever the status
  if isLoginFlow call.url then b.setCall q { call with phase := .settled }
  -- `_retry` keeps the repeated request from refreshing again
  else if status = some 401 ∧ call.retry = false then
    match b.localStorage.refreshToken with
    | some refreshToken => b.setCall q { call with retry := true, phase := .refreshing refreshToken }
    | none =>
      b.clearSessionAndRedirectToLogin.setCall q { call with retry := true, phase := .settled }
  else b.setCall q { call with phase := .settled }

/-- The rest of the interceptor; `none` is a refresh that got no response. -/
def refreshed (b : Browser) (q : Nat) (call : Call) : Option Outcome → Browser
  -- `data.refresh_token` is not stored
  | some (.tokens access _ _) =>
    { b with localStorage := { b.localStorage with accessToken := some (.signed access) } }.setCall q
      { call with authorization := some (.signed access), phase := .sent }
  | _ => b.clearSessionAndRedirectToLogin.setCall q { call with phase := .settled }

end Browser

/-! ## Both parties -/

structure Session where
  server : Server
  browser : Browser

namespace Session

/-- Right after a login, with nothing under way. -/
def start (settings : Settings) (clock : Nat) (users : String → Option User) (data : TokenData)
    (access refresh entry : String) : Session :=
  { server := (Server.init clock users).sign settings data access refresh
    browser :=
      { localStorage :=
          { accessToken := some (.signed (createAccessToken settings clock access data))
            refreshToken := some (.signed (createRefreshToken settings clock refresh data))
            sessionEntry := some entry }
        location := none
        calls := fun _ => none } }

inductive Label where
  | send (q : Nat) (url : String)
  | answer (q : Nat) (url : String) (status : Option Nat)
  | server (label : Auth.Label)
  | refreshed (q : Nat)
  | lost (q : Nat)

/-- The server's steps: the clock, and the refresh requests the page has posted. -/
def Admits (w : Session) : Auth.Label → Prop
  | .enter q token => ∃ call, w.browser.calls q = some call ∧ call.phase = .refreshing token
  | .users _ => False
  | .login _ _ _ => False
  | _ => True

/-- The answer starts no new session. -/
def Unentered (url : String) (status : Option Nat) : Prop :=
  Browser.isLoginFlow url = true → ∀ code, status = some code → 400 ≤ code

inductive Step (settings : Settings) : Session → Label → Session → Prop where
  | send {w q url} : w.browser.calls q = none →
      Step settings w (.send q url) { w with browser := w.browser.request q url }
  | answer {w q call url status} : w.browser.calls q = some call → call.phase = .sent →
      call.url = url → Unentered url status →
      Step settings w (.answer q url status) { w with browser := w.browser.respond q call status }
  | server {w a server} : w.Admits a → Auth.Step settings w.server a server →
      Step settings w (.server a) { w with server }
  | refreshed {w q call token outcome} : w.browser.calls q = some call →
      call.phase = .refreshing token → w.server.requests q = some ⟨token, .done outcome⟩ →
      Step settings w (.refreshed q) { w with browser := w.browser.refreshed q call (some outcome) }
  | lost {w q call token} : w.browser.calls q = some call → call.phase = .refreshing token →
      Step settings w (.lost q) { w with browser := w.browser.refreshed q call none }

/-- An answer that sends the page to refresh its session. -/
def Label.IsRefused : Label → Prop
  | .answer _ url status => Browser.isLoginFlow url = false ∧ status = some 401
  | _ => False

/-- No request of the page is under way. -/
def Quiet (w : Session) : Prop :=
  ∀ q call, w.browser.calls q = some call → call.phase = .settled

/-- Some refresh token of the session has not expired. -/
def Alive (w : Session) : Prop :=
  ∃ c ∈ w.server.signed, c.type = "refresh" ∧ unix w.server.clock < c.exp

end Session

/-- A request with this token alone would be answered with new tokens. -/
def Server.Accepts (s : Server) (settings : Settings) (token : Token) : Prop :=
  ∃ payload version, AuthService.receive settings s.clock token = .checking payload version ∧
    isBlacklisted s.blacklist s.clock version = false ∧ (s.users payload.data.sub).isSome = true

/-- The session has not been sent to the login page, and it holds an accepted refresh token. -/
def Session.Survives (w : Session) (settings : Settings) : Prop :=
  w.browser.location = none ∧
    ∃ token, w.browser.localStorage.refreshToken = some token ∧ w.server.Accepts settings token

/-- The page still holds the token, which is in its last second and off the blacklist again. -/
def Session.Lapsed (w : Session) (c : Claims) : Prop :=
  unix w.server.clock = c.exp ∧ w.browser.location = none ∧
    w.browser.localStorage.refreshToken = some (.signed c) ∧
    isBlacklisted w.server.blacklist w.server.clock c.jti = false

/-! ## Before the first 401 -/

/-- The refresh token of the login. -/
abbrev loginToken (settings : Settings) (clock : Nat) (data : TokenData) (refresh : String) : Claims :=
  createRefreshToken settings clock refresh data

namespace Session

/-- The calls after one of them has gone on. -/
lemma calls_setCall {b : Browser} {q q' : Nat} {call call' : Call} :
    (b.setCall q call).calls q' = some call' ↔
      q' = q ∧ call' = call ∨ q' ≠ q ∧ b.calls q' = some call' := by
  by_cases h : q' = q
  · simp [Browser.setCall, h, eq_comm]
  · simp [Browser.setCall, h]

/-- Nothing has happened to the session `w₀` but requests and time. -/
structure Calm (w₀ w : Session) : Prop where
  users : w.server.users = w₀.server.users
  signed : w.server.signed = w₀.server.signed
  blacklist : w.server.blacklist = w₀.server.blacklist
  idle : ∀ r, w.server.requests r = none
  localStorage : w.browser.localStorage = w₀.browser.localStorage
  location : w.browser.location = none
  unrefreshed : ∀ q call, w.browser.calls q = some call →
    call.retry = false ∧ (call.phase = .sent ∨ call.phase = .settled)

/-- A call that is sent or settled leaves the browser calm. -/
lemma Calm.setCall {w₀ w : Session} (h : Calm w₀ w) {q : Nat} {call : Call}
    (hretry : call.retry = false) (hphase : call.phase = .sent ∨ call.phase = .settled) :
    Calm w₀ { w with browser := w.browser.setCall q call } where
  users := h.users
  signed := h.signed
  blacklist := h.blacklist
  idle := h.idle
  localStorage := h.localStorage
  location := h.location
  unrefreshed := by
    intro q' call' hq
    rcases calls_setCall.1 hq with ⟨_, rfl⟩ | ⟨_, hq⟩
    · exact ⟨hretry, hphase⟩
    · exact h.unrefreshed q' call' hq

/-- A calm session has no refresh under way. -/
lemma Calm.not_refreshing {w₀ w : Session} (h : Calm w₀ w) {q : Nat} {call : Call} {token : Token}
    (hq : w.browser.calls q = some call) : call.phase ≠ .refreshing token := by
  intro hphase
  rcases (h.unrefreshed q call hq).2 with h' | h' <;> rw [hphase] at h' <;> cases h'

/-- An answer other than a 401 leaves the session calm. -/
lemma Calm.step {settings : Settings} {w₀ w w' : Session} {a : Label} (h : Calm w₀ w)
    (ha : ¬ a.IsRefused) (hst : Step settings w a w') : Calm w₀ w' := by
  cases hst with
  | send => exact h.setCall rfl (.inl rfl)
  | @answer q call url status hq hsent hurl =>
    have hretry := (h.unrefreshed q call hq).1
    show Calm w₀ { w with browser := w.browser.respond q call status }
    unfold Browser.respond
    split
    · exact h.setCall hretry (.inr rfl)
    · rename_i hflow
      rw [hurl, Bool.not_eq_true] at hflow
      rw [if_neg (fun h401 => ha ⟨hflow, h401.1⟩)]
      exact h.setCall hretry (.inr rfl)
  | server hadm hserver =>
    -- no refresh has been posted, so the server has no request to move
    cases hserver with
    | tick => exact ⟨h.users, h.signed, h.blacklist, h.idle, h.localStorage, h.location, h.unrefreshed⟩
    | users => exact hadm.elim
    | login => exact hadm.elim
    | enter =>
      obtain ⟨call, hq, hphase⟩ := hadm
      exact absurd hphase (h.not_refreshing hq)
    | get hr => rw [h.idle] at hr; cases hr
    | select hr => rw [h.idle] at hr; cases hr
    | resume hr => rw [h.idle] at hr; cases hr
    | set hr => rw [h.idle] at hr; cases hr
    | refused hr => rw [h.idle] at hr; cases hr
    | issue hr => rw [h.idle] at hr; cases hr
  | refreshed hq hphase => exact absurd hphase (h.not_refreshing hq)
  | lost hq hphase => exact absurd hphase (h.not_refreshing hq)

/-! ## After the first 401 -/

/-- The one refresh token the page ever holds is gone, on the blacklist, or being exchanged. -/
structure Spent (c : Claims) (w : Session) : Prop where
  sound : w.server.Sound
  known : c ∈ w.server.signed
  posted : ∀ q call token, w.browser.calls q = some call → call.phase = .refreshing token →
    token = .signed c
  spent : w.browser.localStorage.refreshToken = none ∨
    w.browser.localStorage.refreshToken = some (.signed c) ∧
      ((∃ q call, w.browser.calls q = some call ∧ call.phase = .refreshing (.signed c)) ∨
        (unix w.server.clock < c.exp → w.server.Revoked c))

/-- The page moves on one request while no refresh of another ends. -/
lemma Spent.setCall {c : Claims} {w : Session} (h : Spent c w) {q : Nat} {call call' : Call}
    (hq : w.browser.calls q = none ∨ w.browser.calls q = some call ∧ call.phase = .sent)
    (hposted : ∀ token, call'.phase = .refreshing token → token = .signed c) :
    Spent c { w with browser := w.browser.setCall q call' } where
  sound := h.sound
  known := h.known
  posted := by
    intro q' call'' token hq' hphase
    rcases calls_setCall.1 hq' with ⟨_, rfl⟩ | ⟨_, hq'⟩
    · exact hposted token hphase
    · exact h.posted q' call'' token hq' hphase
  spent := by
    rcases h.spent with hnone | ⟨htok, ⟨q', call'', hq', hphase⟩ | hrev⟩
    · exact .inl hnone
    · refine .inr ⟨htok, .inl ⟨q', call'', calls_setCall.2 (.inr ⟨?_, hq'⟩), hphase⟩⟩
      rintro rfl
      rcases hq with hq | ⟨hq, hsent⟩ <;> rw [hq] at hq' <;> cases hq'
      rw [hsent] at hphase
      cases hphase
    · exact .inr ⟨htok, .inr hrev⟩

/-- The page is sent to the login page. -/
lemma Spent.clear {c : Claims} {w : Session} (h : Spent c w) {q : Nat} {call : Call}
    (hsettled : call.phase = .settled) :
    Spent c { w with browser := w.browser.clearSessionAndRedirectToLogin.setCall q call } where
  sound := h.sound
  known := h.known
  posted := by
    intro q' call' token hq' hphase
    rcases calls_setCall.1 hq' with ⟨_, rfl⟩ | ⟨_, hq'⟩
    · rw [hsettled] at hphase
      cases hphase
    · exact h.posted q' call' token hq' hphase
  spent := .inl rfl

/-- A refresh answered with tokens has revoked the one that was posted. -/
lemma revoked_of_tokens {s : Server} (h : s.Sound) {r : Nat} {c access refresh : Claims}
    {expiresIn : Nat} (hr : s.requests r = some ⟨.signed c, .done (.tokens access refresh expiresIn)⟩) :
    unix s.clock < c.exp → s.Revoked c := by
  rcases h.requests r _ hr with ⟨_, hdone⟩ | ⟨c', _, htok, _, hphase⟩
  · cases hdone
  · cases htok
    exact hphase

/-- A spent token stays spent. -/
lemma Spent.step {settings : Settings} {c : Claims} {w w' : Session} {a : Label} (h : Spent c w)
    (hst : Step settings w a w') : Spent c w' := by
  cases hst with
  | send hq =>
    exact @Spent.setCall c w h _ ⟨"", false, none, .sent⟩ _ (.inl hq) (fun _ hphase => by cases hphase)
  | @answer q call url status hq hsent =>
    have hsettle : ∀ retry, Spent c
        { w with browser := w.browser.setCall q { call with retry, phase := .settled } } :=
      fun _ => h.setCall (.inr ⟨hq, hsent⟩) (fun _ hphase => by cases hphase)
    show Spent c { w with browser := w.browser.respond q call status }
    unfold Browser.respond
    split
    · exact hsettle call.retry
    · split
      · split
        · rename_i refreshToken htok
          apply h.setCall (.inr ⟨hq, hsent⟩)
          intro token hphase
          cases hphase
          rcases h.spent with hnone | ⟨htok', _⟩
          · rw [htok] at hnone
            cases hnone
          · rw [htok] at htok'
            cases htok'
            rfl
        · exact h.clear rfl
      · exact hsettle call.retry
  | server _ hserver =>
    -- the server takes nothing back: a revoked token stays revoked up to its last second
    have ext := hserver.extends h.sound
    refine ⟨hserver.sound h.sound, ext.signed c h.known, h.posted, ?_⟩
    rcases h.spent with hnone | ⟨htok, hpending | hrev⟩
    · exact .inl hnone
    · exact .inr ⟨htok, .inl hpending⟩
    · refine .inr ⟨htok, .inr fun hlt => ext.revoked c h.known (hrev ?_)⟩
      exact Nat.lt_of_le_of_lt (unix_mono ext.clock) hlt
  | @refreshed q call token outcome hq hphase hdone =>
    have htoken := h.posted q call token hq hphase
    subst htoken
    cases outcome with
    -- the page keeps the posted token, which the server has revoked before this answer
    | tokens access refresh expiresIn =>
      refine ⟨h.sound, h.known, ?_, ?_⟩
      · intro q' call' token hq' hphase'
        rcases calls_setCall.1 hq' with ⟨_, rfl⟩ | ⟨_, hq'⟩
        · cases hphase'
        · exact h.posted q' call' token hq' hphase'
      · rcases h.spent with hnone | ⟨htok, _⟩
        · exact .inl hnone
        · exact .inr ⟨htok, .inr (revoked_of_tokens h.sound hdone)⟩
    | invalidRefreshToken => exact h.clear rfl
    | error => exact h.clear rfl
  | lost => exact h.clear rfl

/-! ## Runs -/

/-- The first 401 has the page post the refresh token of the login. -/
lemma Calm.spent {settings : Settings} {w₀ w w' : Session} {a : Label} {c : Claims}
    (h : Calm w₀ w) (hsound : w.server.Sound) (hc : c ∈ w.server.signed)
    (htok : w₀.browser.localStorage.refreshToken = some (.signed c))
    (ha : a.IsRefused) (hst : Step settings w a w') : Spent c w' := by
  cases hst with
  | @answer q call url status hq hsent hurl =>
    obtain ⟨hflow, h401⟩ := ha
    have hretry := (h.unrefreshed q call hq).1
    have hstored : w.browser.localStorage.refreshToken = some (.signed c) := by
      rw [h.localStorage, htok]
    have hresp : w.browser.respond q call status =
        w.browser.setCall q { call with retry := true, phase := .refreshing (.signed c) } := by
      rw [Browser.respond, hurl, hflow, if_neg Bool.false_ne_true, if_pos ⟨h401, hretry⟩, hstored]
    rw [hresp]
    refine ⟨hsound, hc, ?_, .inr ⟨hstored, .inl ⟨q, _, calls_setCall.2 (.inl ⟨rfl, rfl⟩), rfl⟩⟩⟩
    intro q' call' token hq' hphase
    rcases calls_setCall.1 hq' with ⟨_, rfl⟩ | ⟨_, hq'⟩
    · cases hphase
      rfl
    · exact absurd hphase (h.not_refreshing hq')
  | send => exact ha.elim
  | server => exact ha.elim
  | refreshed => exact ha.elim
  | lost => exact ha.elim

/-- A step keeps the server sound and what it has signed. -/
lemma Step.sound {settings : Settings} {w w' : Session} {a : Label} (hst : Step settings w a w')
    (h : w.server.Sound) {c : Claims} (hc : c ∈ w.server.signed) :
    w'.server.Sound ∧ c ∈ w'.server.signed := by
  cases hst with
  | server _ hserver => exact ⟨hserver.sound h, (hserver.extends h).signed c hc⟩
  | send => exact ⟨h, hc⟩
  | answer => exact ⟨h, hc⟩
  | refreshed => exact ⟨h, hc⟩
  | lost => exact ⟨h, hc⟩

/-- No step touches the users. -/
lemma Step.users {settings : Settings} {w w' : Session} {a : Label} (hst : Step settings w a w') :
    w'.server.users = w.server.users := by
  cases hst with
  | server hadm hserver =>
    cases hserver with
    | users => exact hadm.elim
    | _ => rfl
  | _ => rfl

/-- No run touches the users. -/
lemma users_steps {settings : Settings} {w w' : Session} {ls : List Label}
    (run : Steps (Step settings) w ls w') : w'.server.users = w.server.users := by
  apply run.invariant (I := fun v => v.server.users = w.server.users) _ rfl
  exact fun h hst => hst.users.trans h

/-- A run is calm as long as no request has been answered with 401, and spent from then on. -/
lemma calm_or_spent {settings : Settings} {w₀ w w' : Session} {ls : List Label} {c : Claims}
    (run : Steps (Step settings) w ls w') (h : Calm w₀ w) (hsound : w.server.Sound)
    (hc : c ∈ w.server.signed)
    (htok : w₀.browser.localStorage.refreshToken = some (.signed c)) :
    ((∀ a ∈ ls, ¬ a.IsRefused) ∧ Calm w₀ w') ∨ ((∃ a ∈ ls, a.IsRefused) ∧ Spent c w') := by
  -- up to the first 401 the induction carries `Calm`; from there `Spent` is an invariant of its own
  induction run with
  | nil => exact .inl ⟨fun _ ha => absurd ha List.not_mem_nil, h⟩
  | @cons w v w' a ls hst run ih =>
    by_cases ha : a.IsRefused
    · have hspent := h.spent hsound hc htok ha hst
      exact .inr ⟨⟨a, List.mem_cons_self, ha⟩, run.invariant (fun h hst => h.step hst) hspent⟩
    · obtain ⟨hsound', hc'⟩ := hst.sound hsound hc
      rcases ih (h.step ha hst) hsound' hc' with ⟨hls, hcalm⟩ | ⟨⟨b, hb, hrefused⟩, hspent⟩
      · exact .inl ⟨List.forall_mem_cons.2 ⟨ha, hls⟩, hcalm⟩
      · exact .inr ⟨⟨b, List.mem_cons_of_mem _ hb, hrefused⟩, hspent⟩

end Session

/-- A login that this server answers: the user exists and the way of logging in is enabled. -/
structure LoggedIn (settings : Settings) (users : String → Option User) (data : TokenData)
    (access refresh : String) : Prop where
  known : (users data.sub).isSome = true
  enabled : data.provider = LOCAL_SSO_PROVIDER → settings.adminLoginEnabled = true
  access_ne : access ≠ ""
  refresh_ne : refresh ≠ ""
  differ : access ≠ refresh

/-- An accepted token has not expired and its version is not on the blacklist. -/
lemma Server.Accepts.unexpired {s : Server} {settings : Settings} {c : Claims}
    (h : s.Accepts settings (.signed c)) :
    unix s.clock ≤ c.exp ∧ ∃ version, c.refreshVersion = some version ∧
      isBlacklisted s.blacklist s.clock version = false := by
  obtain ⟨payload, version, hreceive, hfree, _⟩ := h
  rcases AuthService.receive_cases settings s.clock (.signed c) with ⟨_, hrej⟩ | ⟨c', htok, hexp, _, hc⟩
  · rw [hrej] at hreceive
    cases hreceive
  · cases htok
    rcases hc with ⟨version', hv, hcheck⟩ | ⟨_, hread⟩
    · rw [hcheck] at hreceive
      cases hreceive
      exact ⟨hexp, version, hv, hfree⟩
    · rw [hread] at hreceive
      cases hreceive

/-- A revoked token is not accepted. -/
lemma Server.Revoked.not_accepts {s : Server} {settings : Settings} {c : Claims}
    (h : s.Revoked c) (hversion : c.refreshVersion = some c.jti) (hlt : unix s.clock < c.exp) :
    ¬ s.Accepts settings (.signed c) := by
  intro hacc
  obtain ⟨_, version, hv, hfree⟩ := hacc.unexpired
  rw [hversion] at hv
  cases hv
  have hlasts : Expiring.Lasts s.blacklist (tokenBlacklistKey c.jti) s.clock := by
    apply h.mono
    unfold unix at hlt
    omega
  have hblacklisted : isBlacklisted s.blacklist s.clock c.jti = true :=
    Expiring.get_isSome_iff.2 hlasts
  rw [hblacklisted] at hfree
  cases hfree

section
variable {settings : Settings} {clock : Nat} {users : String → Option User} {data : TokenData}
  {access refresh entry : String}

/-- A session begins with a sound server. -/
lemma Session.sound_start (h : LoggedIn settings users data access refresh) :
    (Session.start settings clock users data access refresh entry).server.Sound where
  issued := (Server.sound_init clock users).issued.sign
    ⟨h.access_ne, h.refresh_ne, h.differ, fun _ hc => absurd hc List.not_mem_nil⟩
  requests := fun _ _ hr => by cases hr

/-- A session begins calm. -/
lemma Session.calm_start :
    Calm (Session.start settings clock users data access refresh entry)
      (Session.start settings clock users data access refresh entry) where
  users := rfl
  signed := rfl
  blacklist := rfl
  idle := fun _ => rfl
  localStorage := rfl
  location := rfl
  unrefreshed := fun _ _ hq => by cases hq

/-- The login token is looked up as long as it is valid. -/
lemma LoggedIn.receive (h : LoggedIn settings users data access refresh) {now : Nat}
    (hexp : unix now ≤ (loginToken settings clock data refresh).exp) :
    AuthService.receive settings now (.signed (loginToken settings clock data refresh)) =
      .checking (loginToken settings clock data refresh) refresh := by
  apply AuthService.receive_refresh hexp rfl _ rfl h.refresh_ne
  rintro ⟨hlocal, hoff⟩
  rw [h.enabled hlocal] at hoff
  cases hoff

/-- The login token is accepted as long as the session stays calm and the token is valid. -/
lemma Session.Calm.survives {w : Session} (h : LoggedIn settings users data access refresh)
    (hcalm : Calm (Session.start settings clock users data access refresh entry) w)
    (halive : w.Alive) : w.Survives settings := by
  obtain ⟨c, hc, htype, hlt⟩ := halive
  rw [hcalm.signed] at hc
  have hlogin : c = loginToken settings clock data refresh := by
    rcases List.mem_cons.1 hc with rfl | hc
    · simp [createAccessToken] at htype
    · rcases List.mem_cons.1 hc with rfl | hc
      · rfl
      · cases hc
  subst hlogin
  refine ⟨hcalm.location, .signed (loginToken settings clock data refresh), ?_, ?_⟩
  · rw [hcalm.localStorage]
    rfl
  · refine ⟨loginToken settings clock data refresh, refresh, ?_, ?_, ?_⟩
    · exact h.receive (Nat.le_of_lt hlt)
    · rw [hcalm.blacklist]
      rfl
    · rw [hcalm.users]
      exact h.known

/-- Once a request has been answered with 401, an accepted refresh token is one whose blacklist
entry has lapsed. -/
lemma Session.Spent.lapsed {w : Session}
    (hspent : Spent (loginToken settings clock data refresh) w) (hquiet : w.Quiet)
    (hsurv : w.Survives settings) : w.Lapsed (loginToken settings clock data refresh) := by
  obtain ⟨hlocation, token, htok, hacc⟩ := hsurv
  rcases hspent.spent with hnone | ⟨htok', ⟨q, call, hq, hphase⟩ | hrev⟩
  · rw [hnone] at htok
    cases htok
  · have hsettled := hquiet q call hq
    rw [hsettled] at hphase
    cases hphase
  · rw [htok'] at htok
    cases htok
    obtain ⟨hle, version, hv, hfree⟩ := hacc.unexpired
    cases hv
    refine ⟨?_, hlocation, htok', hfree⟩
    by_contra hne
    have hlt := Nat.lt_of_le_of_ne hle hne
    exact (hrev hlt).not_accepts rfl hlt hacc

/-- A token whose blacklist entry has lapsed is accepted in its last second. -/
lemma Session.Lapsed.survives {w : Session} (h : LoggedIn settings users data access refresh)
    (hlapsed : w.Lapsed (loginToken settings clock data refresh)) (husers : w.server.users = users) :
    w.Survives settings := by
  obtain ⟨hexp, hlocation, htok, hfree⟩ := hlapsed
  refine ⟨hlocation, _, htok, loginToken settings clock data refresh, refresh, ?_, hfree, ?_⟩
  · exact h.receive (Nat.le_of_eq hexp)
  · rw [husers]
    exact h.known

/-- A session in which no request is under way and whose refresh tokens have not all expired
survives if and only if no request has been answered with 401, or its first refresh token is in its
last second and off the blacklist again. -/
theorem survives_iff {w : Session} {ls : List Session.Label}
    (h : LoggedIn settings users data access refresh)
    (run : Steps (Session.Step settings)
      (Session.start settings clock users data access refresh entry) ls w)
    (hquiet : w.Quiet) (halive : w.Alive) :
    w.Survives settings ↔
      (∀ a ∈ ls, ¬ a.IsRefused) ∨ w.Lapsed (createRefreshToken settings clock refresh data) := by
  have hknown : loginToken settings clock data refresh ∈
      (Session.start settings clock users data access refresh entry).server.signed :=
    List.mem_cons_of_mem _ List.mem_cons_self
  have husers : w.server.users = users := Session.users_steps run
  constructor
  · intro hsurv
    rcases Session.calm_or_spent run Session.calm_start (Session.sound_start h) hknown rfl with
      ⟨hls, _⟩ | ⟨_, hspent⟩
    · exact .inl hls
    · exact .inr (hspent.lapsed hquiet hsurv)
  · rintro (hls | hlapsed)
    · rcases Session.calm_or_spent run Session.calm_start (Session.sound_start h) hknown rfl with
        ⟨_, hcalm⟩ | ⟨⟨a, ha, hrefused⟩, _⟩
      · exact hcalm.survives h halive
      · exact absurd hrefused (hls a ha)
    · exact hlapsed.survives h husers

end

/-! ## One refresh -/

namespace FirstRefresh

open Sample Session

/-- An hour after the login the access token has expired, a request of the page is answered with
401, the session is refreshed and the request is repeated. -/
def labels : List Session.Label :=
  [.server (.tick 3601000), .send 0 "/tech/news", .answer 0 "/tech/news" (some 401),
    .server (.enter 0 (.signed (createRefreshToken settings 0 "b" data))), .server (.get 0),
    .server (.select 0), .server (.resume 0), .server (.set 0), .server (.issue 0 "c" "d"),
    .refreshed 0, .answer 0 "/tech/news" (some 200)]

/-- The two tokens are those of a login. -/
lemma loggedIn : LoggedIn settings users data "a" "b" :=
  ⟨rfl, by decide, by decide, by decide, by decide⟩

/-- The session when the access token has expired. -/
def expired : Session :=
  { Session.start settings 0 users data "a" "b" "sso" with
    server := { (Server.init 0 users).sign settings data "a" "b" with clock := 3601000 } }

/-- The session outlasts its access token. -/
lemma run : ∃ w, Steps (Session.Step settings)
    (Session.start settings 0 users data "a" "b" "sso") labels w ∧ w.Quiet ∧ w.Alive ∧
      unix w.server.clock = 3601 := by
  have known : ∀ {s : Server} {c : Claims}, c ∈ s.signed → s.Knows (.signed c) := by
    intro s c hc c' h
    cases h
    exact hc
  refine Steps.exists_cons (t := expired) (.server trivial .tick) ?_
  refine Steps.exists_cons (.send rfl) ?_
  refine Steps.exists_cons (.answer rfl rfl rfl (fun h => absurd h (by decide))) ?_
  refine Steps.exists_cons (.server ⟨_, rfl, rfl⟩
    (.enter rfl (known (List.mem_cons_of_mem _ List.mem_cons_self)))) ?_
  refine Steps.exists_cons (.server trivial (.get rfl)) ?_
  refine Steps.exists_cons (.server trivial (.select rfl)) ?_
  refine Steps.exists_cons (.server trivial (.resume rfl)) ?_
  refine Steps.exists_cons (.server trivial (.set rfl rfl)) ?_
  refine Steps.exists_cons (.server trivial (.issue rfl ⟨by decide, by decide, by decide, by decide⟩)) ?_
  refine Steps.exists_cons (.refreshed rfl rfl rfl) ?_
  refine Steps.exists_cons (.answer rfl rfl rfl (fun h => absurd h (by decide))) ?_
  refine Steps.exists_nil ⟨?_, ?_, by decide⟩
  · intro q call hq
    cases q with
    | zero =>
      cases hq
      rfl
    | succ q => cases hq
  · exact ⟨createRefreshToken settings 0 "b" data, by decide, rfl, by decide⟩

end FirstRefresh

open FirstRefresh Sample in
/-- The equivalence for the session refreshed once. -/
theorem firstRefresh_survives_iff : ∃ w : Session,
    Steps (Session.Step settings) (Session.start settings 0 users data "a" "b" "sso") labels w ∧
      (w.Survives settings ↔
        (∀ a ∈ labels, ¬ a.IsRefused) ∨ w.Lapsed (createRefreshToken settings 0 "b" data)) := by
  obtain ⟨w, run, hquiet, halive, _⟩ := run
  exact ⟨w, run, survives_iff loggedIn run hquiet halive⟩

open FirstRefresh Sample in
/-- The session is lost with its first refresh. -/
theorem firstRefresh_not_survives :
    ¬ ∀ (settings : Settings) (clock : Nat) (users : String → Option User) (data : TokenData)
        (access refresh entry : String) (w : Session) (ls : List Session.Label),
        LoggedIn settings users data access refresh →
        Steps (Session.Step settings)
          (Session.start settings clock users data access refresh entry) ls w →
        w.Quiet → w.Alive → w.Survives settings := by
  intro h
  obtain ⟨w, run, hquiet, halive, hclock⟩ := run
  have hsurv := h settings 0 users data "a" "b" "sso" w labels loggedIn run hquiet halive
  rcases Session.calm_or_spent run Session.calm_start (Session.sound_start loggedIn)
    (List.mem_cons_of_mem _ List.mem_cons_self) rfl with ⟨hcalm, _⟩ | ⟨_, hspent⟩
  · have hrefused : Session.Label.IsRefused (.answer 0 "/tech/news" (some 401)) :=
      ⟨by decide, rfl⟩
    exact hcalm _ (by simp [labels]) hrefused
  · have hexp : unix w.server.clock = (loginToken settings 0 data "b").exp :=
      (hspent.lapsed hquiet hsurv).1
    rw [hclock] at hexp
    exact absurd hexp (by decide)

end InstantBoard.Auth
