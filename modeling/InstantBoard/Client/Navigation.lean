import InstantBoard.Lib.Transition
import Mathlib.Tactic.Lemma
import Mathlib.Tactic.SplitIfs

/-!
# Sessions and pages of the frontend

The auth store with its copy in `localStorage`, and the router's `beforeEach` guard, on one browser
tab. The guard of an admin page may wait for `/auth/me`; meanwhile the user goes elsewhere, logs in or
out, and answers arrive in any order. A guard that has been superseded shows no page, but it still
stores the user it was answered with, and still drops the session of a user that is no admin.

`settle_lands`: a navigation left alone ends on the page the access table says, after at most two
redirects and one request. `page_admissible`: in a run the page shown is at every moment one the
session may see, as long as no logout request fails, and no superseded guard takes the session or the
user, while a page or a guard needs them (`Tab.Keeps`). A step that keeps the invariant of runs keeps
to that (`keeps_of_sound`); the page shown alone may outlive a step that does not.
-/

namespace InstantBoard.Client.Navigation

open Transition

/-! ## Routes -/

/-- The named routes, and a path that matches none. -/
inductive Route where
  | finance
  | tech
  | category (slug : String)
  | dashboard
  | settings
  | login
  | ssoCallback
  | adminLogin
  | unmatched (path : String)
deriving DecidableEq

/-- `meta.public` -/
def Route.isPublic : Route → Bool
  | .login => true
  | .ssoCallback => true
  | .adminLogin => true
  | _ => false

/-- `meta.requiresAdmin` -/
def Route.requiresAdmin : Route → Bool
  | .dashboard => true
  | _ => false

def ADMIN_ENTRY_ROUTES : List Route :=
  [.dashboard, .settings]

/-! ## The auth store -/

inductive SessionEntry where
  | sso
  | admin
deriving DecidableEq

structure User where
  id : String
  role : String

structure LocalStorage where
  accessToken : Option String
  refreshToken : Option String
  sessionEntry : Option String

/-- What a login answers; the tokens are not empty. -/
structure AuthTokens where
  accessToken : String
  refreshToken : String
  nonempty : accessToken ≠ ""

structure AuthStore where
  user : Option User
  token : String
  refreshToken : String
  sessionEntry : SessionEntry

def readStoredSessionEntry (s : LocalStorage) : SessionEntry :=
  if s.sessionEntry = some "admin" then .admin else .sso

/-- A token is stored. -/
def LocalStorage.hasToken (s : LocalStorage) : Bool :=
  s.accessToken.any (· ≠ "")

/-- The store of a page that has just been loaded. -/
def AuthStore.init (s : LocalStorage) : AuthStore where
  user := none
  token := s.accessToken.getD ""
  refreshToken := s.refreshToken.getD ""
  sessionEntry := readStoredSessionEntry s

/-- A guard that waits for `/auth/me`, with the entry it has read. -/
structure Guard where
  dest : Route
  entry : SessionEntry

structure Tab where
  localStorage : LocalStorage
  store : AuthStore
  /-- The page shown, once the first navigation has landed. -/
  shown : Option Route
  /-- The navigation under way. -/
  pending : Option Guard
  /-- The guards that still wait though their navigation is superseded. -/
  superseded : List SessionEntry

namespace Tab

def isAdmin (t : Tab) : Bool :=
  t.store.user.any (·.role == "admin")

/-- `storeLoginResponse` and `setSessionEntry`. -/
def logIn (t : Tab) (tokens : AuthTokens) (user : User) (entry : SessionEntry) : Tab :=
  { t with
    localStorage :=
      { accessToken := some tokens.accessToken
        refreshToken := some tokens.refreshToken
        sessionEntry := some (match entry with | .sso => "sso" | .admin => "admin") }
    store :=
      { user := some user, token := tokens.accessToken, refreshToken := tokens.refreshToken,
        sessionEntry := entry } }

def clearSession (t : Tab) : Tab :=
  { t with
    localStorage := { accessToken := none, refreshToken := none, sessionEntry := none }
    store := { user := none, token := "", refreshToken := "", sessionEntry := .sso } }

end Tab

/-! ## The guard -/

/-- Where a session that is logged in is sent from the login page. -/
def SessionEntry.home : SessionEntry → Route
  | .admin => .dashboard
  | .sso => .finance

inductive Verdict where
  | next
  | redirect (dest : Route)
  /-- `await authStore.fetchCurrentUser()` -/
  | fetch (entry : SessionEntry)

namespace Tab

/-- The rest of the guard, once the user is loaded. -/
def checkRole (t : Tab) : SessionEntry → Verdict × Tab
  | .admin =>
    if t.isAdmin = true then (.next, t)
    -- the token is an admin's no longer
    else (.redirect .adminLogin, t.clearSession)
  | .sso =>
    if t.isAdmin = true then (.next, t)
    else (.redirect .finance, t)

/-- Checks the role, of a user that is loaded first. -/
def withUser (t : Tab) (entry : SessionEntry) : Verdict × Tab :=
  if t.store.user.isNone = true then (.fetch entry, t) else t.checkRole entry

def beforeEach (t : Tab) (dest : Route) : Verdict × Tab :=
  let token := t.localStorage.hasToken
  let entry := readStoredSessionEntry t.localStorage
  if dest = .adminLogin then
    if token = true ∧ entry = .admin then (.redirect .dashboard, t) else (.next, t)
  else if dest = .login ∨ dest = .ssoCallback then
    if dest = .login ∧ token = true then (.redirect entry.home, t) else (.next, t)
  else if token = false then (.redirect .login, t)
  else if entry = .admin then
    if dest ∉ ADMIN_ENTRY_ROUTES then (.redirect .dashboard, t) else t.withUser .admin
  else if dest.requiresAdmin = true then t.withUser .sso
  else (.next, t)

/-- Follows the guard through its redirects; going to the page that is shown is no navigation. -/
def follow : Nat → Tab → Route → Tab
  | 0, t, _ => t
  | n + 1, t, dest =>
    if t.shown = some dest then t
    else match t.beforeEach dest with
      | (.next, t) => { t with shown := some dest }
      | (.redirect dest', t) => follow n t dest'
      | (.fetch entry, t) => { t with pending := some ⟨dest, entry⟩ }

/-- The guard that waits lands nowhere any longer. -/
def supersede (t : Tab) : Tab :=
  { t with
    pending := none
    superseded := t.pending.toList.map (·.entry) ++ t.superseded }

/-- `router.push`; no navigation is redirected three times (`follow_add_three`). -/
def push (t : Tab) (dest : Route) : Tab :=
  follow 3 t.supersede dest

/-- `/auth/me` answers, `none` being a request that fails. -/
def setUser (t : Tab) (user : Option User) : Tab :=
  { t with store := { t.store with user } }

/-- The guard of the navigation under way goes on. -/
def answered (t : Tab) (g : Guard) (user : Option User) : Tab :=
  match ({ t with pending := none }.setUser user).checkRole g.entry with
  | (.next, t) => { t with shown := some g.dest }
  | (.redirect dest, t) => follow 3 t dest
  | (.fetch _, t) => t

/-- A superseded guard goes on. -/
def answeredLate (t : Tab) (entry : SessionEntry) (user : Option User) : Tab :=
  ((t.setUser user).checkRole entry).2

/-- A page load at a path. -/
def load (t : Tab) (dest : Route) : Tab :=
  push { t with store := .init t.localStorage, shown := none, pending := none, superseded := [] } dest

/-- `clearSessionAndRedirectToLogin` of the response interceptor, which loads the login page. -/
def expire (t : Tab) : Tab :=
  load { t with localStorage := { accessToken := none, refreshToken := none, sessionEntry := none } }
    (if t.localStorage.sessionEntry = some "admin" then .adminLogin else .login)

end Tab

/-! ## Runs -/

inductive Label where
  | push (dest : Route)
  | load (dest : Route)
  | answer (user : Option User)
  | answerLate (entry : SessionEntry) (user : Option User)
  | ssoLogin (tokens : AuthTokens) (user : User)
  | adminLogin (tokens : AuthTokens) (user : User)
  | logout (entry : SessionEntry)
  | logoutFails
  | refreshed (token : String)
  | expire

/-- One step of the tab. What a response makes the page do is one step up to its next request. -/
inductive Step : Tab → Label → Tab → Prop where
  | push {t dest} : Step t (.push dest) (t.push dest)
  | load {t dest} : Step t (.load dest) (t.load dest)
  | answer {t g user} : t.pending = some g → Step t (.answer user) (t.answered g user)
  | answerLate {t entry user l₁ l₂} : t.superseded = l₁ ++ entry :: l₂ →
      Step t (.answerLate entry user)
        ({ t with superseded := l₁ ++ l₂ }.answeredLate entry user)
  /-- Whether the redirect of a superseded guard is followed is left to the router. -/
  | redirectLate {t entry user dest t' l₁ l₂} : t.superseded = l₁ ++ entry :: l₂ →
      ({ t with superseded := l₁ ++ l₂ }.setUser user).checkRole entry = (.redirect dest, t') →
      Step t (.answerLate entry user) (t'.push dest)
  /-- `handleCallback`, after the login has been answered. -/
  | ssoLogin {t tokens user} :
      Step t (.ssoLogin tokens user) ((t.logIn tokens user .sso).push .finance)
  /-- The backend's local admins have the role `admin`. -/
  | adminLogin {t tokens user} : user.role = "admin" →
      Step t (.adminLogin tokens user) ((t.logIn tokens user .admin).push .dashboard)
  /-- The entry has been read when the logout was sent. -/
  | logout {t entry} :
      Step t (.logout entry)
        (t.clearSession.push (match entry with | .admin => .adminLogin | .sso => .login))
  /-- The session is cleared, and the exception keeps the page from going to the login. -/
  | logoutFails {t} : Step t .logoutFails t.clearSession
  | refreshed {t token} : token ≠ "" →
      Step t (.refreshed token)
        { t with localStorage := { t.localStorage with accessToken := some token } }
  | expire {t} : Step t .expire t.expire

/-! ## The access table -/

/-- Whom a session belongs to, as far as its pages are concerned. -/
inductive Visitor where
  | anonymous
  | member
  | ssoAdmin
  | admin
  /-- An admin session whose user is no admin. -/
  | impostor
deriving DecidableEq

namespace Visitor

def allowed : Visitor → Route → Bool
  | anonymous, r => r.isPublic
  | member, r => r ≠ .login ∧ r ≠ .dashboard
  | ssoAdmin, r => r ≠ .login
  | admin, r => r = .dashboard ∨ r = .settings ∨ r = .ssoCallback
  | impostor, r => r = .ssoCallback

/-- Where a visitor is sent from a page that is not allowed. -/
def home : Visitor → Route
  | anonymous => .login
  | member => .finance
  | ssoAdmin => .finance
  | admin => .dashboard
  | impostor => .adminLogin

def landing (v : Visitor) (r : Route) : Route :=
  if v.allowed r = true then r else v.home

end Visitor

namespace Tab

/-- The user that is loaded, or else the one the backend answers. -/
def knownUser (t : Tab) (user : Option User) : Option User :=
  t.store.user.or user

def visitor (t : Tab) (user : Option User) : Visitor :=
  let isAdmin := (t.knownUser user).any (·.role == "admin")
  if t.localStorage.hasToken = false then .anonymous
  else match readStoredSessionEntry t.localStorage with
    | .sso => if isAdmin = true then .ssoAdmin else .member
    | .admin => if isAdmin = true then .admin else .impostor

/-- The answer of the backend to the guard that waits, if one does. -/
def conclude (t : Tab) (user : Option User) : Tab :=
  match t.pending with
  | some g => t.answered g user
  | none => t

/-- A navigation that is left alone. -/
def settle (t : Tab) (dest : Route) (user : Option User) : Tab :=
  (t.push dest).conclude user

/-- The session of the tab may see the page. -/
structure Admissible (t : Tab) (r : Route) : Prop where
  token : r.isPublic = false → t.localStorage.hasToken = true
  entry : r.isPublic = false → readStoredSessionEntry t.localStorage = .admin →
    r ∈ ADMIN_ENTRY_ROUTES
  role : r.isPublic = false → readStoredSessionEntry t.localStorage = .admin ∨
    r.requiresAdmin = true → t.isAdmin = true

/-- The page shown is one the session may see. -/
def Proper (t : Tab) : Prop :=
  ∀ r, t.shown = some r → t.Admissible r

/-- What leaves a session as it is, or makes it an admin's, leaves it its page. -/
lemma Admissible.mono {t t' : Tab} {r : Route} (h : t.Admissible r)
    (htoken : t.localStorage.hasToken = true → t'.localStorage.hasToken = true)
    (hentry : readStoredSessionEntry t'.localStorage = readStoredSessionEntry t.localStorage)
    (hrole : t.isAdmin = true → t'.isAdmin = true) : t'.Admissible r where
  token hr := htoken (h.token hr)
  entry hr he := h.entry hr (hentry ▸ he)
  role hr he := hrole (h.role hr (hentry ▸ he))

/-- What leaves a session as it is, or makes it an admin's, leaves the page shown proper. -/
lemma Proper.mono {t t' : Tab} (h : t.Proper) (hshown : t'.shown = t.shown)
    (htoken : t.localStorage.hasToken = true → t'.localStorage.hasToken = true)
    (hentry : readStoredSessionEntry t'.localStorage = readStoredSessionEntry t.localStorage)
    (hrole : t.isAdmin = true → t'.isAdmin = true) : t'.Proper :=
  fun r hr => (h r (hshown ▸ hr)).mono htoken hentry hrole

/-- A superseded guard shows nothing. -/
lemma Proper.supersede {t : Tab} (h : t.Proper) : t.supersede.Proper :=
  h.mono rfl id rfl id

/-- The navigation has ended on a page, with these contents of `localStorage`. -/
structure Ends (t : Tab) (r : Route) (s : LocalStorage) : Prop where
  shown : t.shown = some r
  pending : t.pending = none
  localStorage : t.localStorage = s

end Tab

def LocalStorage.empty : LocalStorage where
  accessToken := none
  refreshToken := none
  sessionEntry := none

/-! ## One navigation -/

namespace Tab

variable {t t' : Tab} {dest dest' : Route} {user : Option User} {n : Nat}

/-- A navigation that passes lands. -/
lemma follow_next (h : t.beforeEach dest = (.next, t)) :
    follow (n + 1) t dest = { t with shown := some dest } := by
  unfold follow
  split
  · rename_i hshown
    rw [← hshown]
  · rw [h]

/-- A navigation that is redirected goes on to the other page. -/
lemma follow_redirect (hne : t.shown ≠ some dest) (h : t.beforeEach dest = (.redirect dest', t')) :
    follow (n + 1) t dest = follow n t' dest' := by
  rw [follow, if_neg hne, h]

/-- A navigation whose guard asks for the user waits. -/
lemma follow_fetch {entry : SessionEntry} (hne : t.shown ≠ some dest)
    (h : t.beforeEach dest = (.fetch entry, t')) :
    follow (n + 1) t dest = { t' with pending := some ⟨dest, entry⟩ } := by
  rw [follow, if_neg hne, h]

/-- Where no guard waits there is nothing to answer. -/
lemma conclude_of_pending (h : t.pending = none) : t.conclude user = t := by
  unfold conclude
  rw [h]

/-- A guard that lets a navigation pass. -/
lemma ends_next (hpending : t.pending = none) (h : t.beforeEach dest = (.next, t)) :
    ((follow (n + 1) t dest).conclude user).Ends dest t.localStorage := by
  have hend : ({ t with shown := some dest } : Tab).pending = none := hpending
  rw [follow_next h, conclude_of_pending hend]
  exact ⟨rfl, hpending, rfl⟩

/-- Everybody may see the callback page. -/
lemma beforeEach_ssoCallback : t.beforeEach .ssoCallback = (.next, t) := by
  simp [beforeEach]

/-- Without a session the admin's login page is shown. -/
lemma beforeEach_adminLogin_cleared :
    t.clearSession.beforeEach .adminLogin = (.next, t.clearSession) := by
  simp [beforeEach, clearSession, LocalStorage.hasToken]

/-- A session of the SSO entry may see the news of the markets. -/
lemma beforeEach_finance (htoken : t.localStorage.hasToken = true)
    (hentry : readStoredSessionEntry t.localStorage = .sso) : t.beforeEach .finance = (.next, t) := by
  simp [beforeEach, htoken, hentry, Route.requiresAdmin]

/-- An admin passes. -/
lemma checkRole_admin {entry : SessionEntry} (h : t.isAdmin = true) :
    t.checkRole entry = (.next, t) := by
  cases entry <;> simp [checkRole, h]

/-- Somebody else of the SSO entry is sent to the markets. -/
lemma checkRole_sso_denied (h : t.isAdmin = false) :
    t.checkRole .sso = (.redirect .finance, t) := by
  simp [checkRole, h]

/-- Somebody else of the admin entry is logged out. -/
lemma checkRole_admin_denied (h : t.isAdmin = false) :
    t.checkRole .admin = (.redirect .adminLogin, t.clearSession) := by
  simp [checkRole, h]

/-- A user that is loaded is checked at once. -/
lemma withUser_loaded {entry : SessionEntry} {u : User} (h : t.store.user = some u) :
    t.withUser entry = t.checkRole entry := by
  simp [withUser, h]

/-- A user that is not loaded is asked for. -/
lemma withUser_unloaded {entry : SessionEntry} (h : t.store.user = none) :
    t.withUser entry = (.fetch entry, t) := by
  simp [withUser, h]

/-- The role is that of the user loaded. -/
lemma isAdmin_of_loaded {u : User} (h : t.store.user = some u) :
    t.isAdmin = (t.knownUser user).any (·.role == "admin") := by
  simp [isAdmin, knownUser, h]

/-- The role is that of the user answered. -/
lemma isAdmin_setUser (h : t.store.user = none) :
    (({ t with pending := none } : Tab).setUser user).isAdmin =
      (t.knownUser user).any (·.role == "admin") := by
  simp [isAdmin, knownUser, setUser, h]

/-- A guard that lets pass shows its page. -/
lemma answered_of_next {g : Guard}
    (h : (({ t with pending := none } : Tab).setUser user).checkRole g.entry = (.next, t')) :
    t.answered g user = { t' with shown := some g.dest } := by
  unfold answered
  rw [h]

/-- A guard that redirects goes on to the other page. -/
lemma answered_of_redirect {g : Guard}
    (h : (({ t with pending := none } : Tab).setUser user).checkRole g.entry = (.redirect dest', t')) :
    t.answered g user = follow 3 t' dest' := by
  unfold answered
  rw [h]

section

variable {entry : SessionEntry} (hpending : t.pending = none) (hne : t.shown ≠ some dest)
  (h : t.beforeEach dest = t.withUser entry)

include hpending hne h

/-- A page that needs an admin, for one. -/
lemma ends_withUser_admin (hadmin : (t.knownUser user).any (·.role == "admin") = true) :
    ((follow (n + 1) t dest).conclude user).Ends dest t.localStorage := by
  cases huser : t.store.user with
  | some u =>
    have hrole : t.isAdmin = true := (isAdmin_of_loaded huser).trans hadmin
    rw [withUser_loaded huser, checkRole_admin hrole] at h
    exact ends_next hpending h
  | none =>
    rw [withUser_unloaded huser] at h
    rw [follow_fetch hne h]
    have hrole := (isAdmin_setUser huser).trans hadmin
    show (answered _ ⟨dest, entry⟩ user).Ends dest t.localStorage
    rw [@answered_of_next { t with pending := some ⟨dest, entry⟩ } _ user ⟨dest, entry⟩
      (checkRole_admin hrole)]
    exact ⟨rfl, rfl, rfl⟩

end

/-- A page that needs an admin, for another visitor of the SSO entry. -/
lemma ends_withUser_member (hpending : t.pending = none) (hne : t.shown ≠ some dest)
    (h : t.beforeEach dest = t.withUser .sso) (htoken : t.localStorage.hasToken = true)
    (hentry : readStoredSessionEntry t.localStorage = .sso)
    (hdenied : (t.knownUser user).any (·.role == "admin") = false) :
    ((follow (n + 2) t dest).conclude user).Ends .finance t.localStorage := by
  cases huser : t.store.user with
  | some u =>
    have hrole : t.isAdmin = false := (isAdmin_of_loaded huser).trans hdenied
    rw [withUser_loaded huser, checkRole_sso_denied hrole] at h
    rw [follow_redirect hne h]
    exact ends_next hpending (beforeEach_finance htoken hentry)
  | none =>
    rw [withUser_unloaded huser] at h
    rw [follow_fetch hne h]
    have hrole := (isAdmin_setUser huser).trans hdenied
    show (answered _ ⟨dest, .sso⟩ user).Ends .finance t.localStorage
    rw [@answered_of_redirect { t with pending := some ⟨dest, .sso⟩ } _ _ user ⟨dest, .sso⟩
      (checkRole_sso_denied hrole)]
    rw [follow_next (@beforeEach_finance (({ t with pending := none } : Tab).setUser user) htoken
      hentry)]
    exact ⟨rfl, rfl, rfl⟩

/-- A page that needs an admin, for a visitor of the admin entry who is none. -/
lemma ends_withUser_impostor (hpending : t.pending = none) (hne : t.shown ≠ some dest)
    (h : t.beforeEach dest = t.withUser .admin)
    (hdenied : (t.knownUser user).any (·.role == "admin") = false) :
    ((follow (n + 2) t dest).conclude user).Ends .adminLogin .empty := by
  cases huser : t.store.user with
  | some u =>
    have hrole : t.isAdmin = false := (isAdmin_of_loaded huser).trans hdenied
    rw [withUser_loaded huser, checkRole_admin_denied hrole] at h
    rw [follow_redirect hne h]
    exact ends_next hpending beforeEach_adminLogin_cleared
  | none =>
    rw [withUser_unloaded huser] at h
    rw [follow_fetch hne h]
    have hrole := (isAdmin_setUser huser).trans hdenied
    show (answered _ ⟨dest, .admin⟩ user).Ends .adminLogin .empty
    rw [@answered_of_redirect { t with pending := some ⟨dest, .admin⟩ } _ _ user ⟨dest, .admin⟩
      (checkRole_admin_denied hrole)]
    rw [follow_next beforeEach_adminLogin_cleared]
    exact ⟨rfl, rfl, rfl⟩

/-- The branches of the guard for the pages below the login. -/
lemma beforeEach_private (hdest : dest.isPublic = false) : t.beforeEach dest =
    if t.localStorage.hasToken = false then (.redirect .login, t)
    else if readStoredSessionEntry t.localStorage = .admin then
      if dest ∉ ADMIN_ENTRY_ROUTES then (.redirect .dashboard, t) else t.withUser .admin
    else if dest.requiresAdmin = true then t.withUser .sso
    else (.next, t) := by
  have h₁ : dest ≠ .adminLogin := by
    rintro rfl
    cases hdest
  have h₂ : ¬(dest = .login ∨ dest = .ssoCallback) := by
    rintro (rfl | rfl) <;> cases hdest
  simp only [beforeEach, if_neg h₁, if_neg h₂]

/-- The dashboard asks for the role of the SSO entry. -/
lemma beforeEach_dashboard_sso (htoken : t.localStorage.hasToken = true)
    (hentry : readStoredSessionEntry t.localStorage = .sso) :
    t.beforeEach .dashboard = t.withUser .sso := by
  rw [beforeEach_private rfl]
  simp [htoken, hentry, Route.requiresAdmin]

/-- The two pages of the admin entry ask for its role. -/
lemma beforeEach_admin (htoken : t.localStorage.hasToken = true)
    (hentry : readStoredSessionEntry t.localStorage = .admin) (hdest : dest ∈ ADMIN_ENTRY_ROUTES) :
    t.beforeEach dest = t.withUser .admin := by
  have hprivate : dest.isPublic = false := by
    simp only [ADMIN_ENTRY_ROUTES, List.mem_cons, List.not_mem_nil, or_false] at hdest
    obtain rfl | rfl := hdest <;> rfl
  rw [beforeEach_private hprivate]
  simp [htoken, hentry, hdest]

/-- The guard of the admin entry, away from its two pages and the callback. -/
lemma beforeEach_bounce (htoken : t.localStorage.hasToken = true)
    (hentry : readStoredSessionEntry t.localStorage = .admin) (hdest : dest ∉ ADMIN_ENTRY_ROUTES)
    (hcallback : dest ≠ .ssoCallback) : t.beforeEach dest = (.redirect .dashboard, t) := by
  cases hpublic : dest.isPublic with
  | true =>
    cases dest with
    | login => simp [beforeEach, htoken, hentry, SessionEntry.home]
    | ssoCallback => exact absurd rfl hcallback
    | adminLogin => simp [beforeEach, htoken, hentry]
    | _ => cases hpublic
  | false => simp [beforeEach_private hpublic, htoken, hentry, hdest]

/-- A page that is shown already. -/
lemma ends_shown (hpending : t.pending = none) (hshown : t.shown = some dest) :
    ((follow n t dest).conclude user).Ends dest t.localStorage := by
  have h : follow n t dest = t := by
    cases n with
    | zero => rfl
    | succ n => rw [follow, if_pos hshown]
  rw [h, conclude_of_pending hpending]
  exact ⟨hshown, hpending, rfl⟩

/-- Where somebody without a session ends. -/
lemma ends_anonymous (hpending : t.pending = none) (hne : t.shown ≠ some dest)
    (htoken : t.localStorage.hasToken = false) :
    ((follow (n + 2) t dest).conclude user).Ends (Visitor.anonymous.landing dest) t.localStorage := by
  have hlogin : t.beforeEach .login = (.next, t) := by
    simp [beforeEach, htoken]
  cases hdest : dest.isPublic with
  | true =>
    have hnext : t.beforeEach dest = (.next, t) := by
      cases dest with
      | login => exact hlogin
      | ssoCallback => exact beforeEach_ssoCallback
      | adminLogin => simp [beforeEach, htoken]
      | _ => cases hdest
    have hallowed : Visitor.anonymous.allowed dest = true := hdest
    rw [Visitor.landing, if_pos hallowed]
    exact ends_next hpending hnext
  | false =>
    have hredirect : t.beforeEach dest = (.redirect .login, t) := by
      rw [beforeEach_private hdest, if_pos htoken]
    have hdenied : ¬ Visitor.anonymous.allowed dest = true := by
      simp [Visitor.allowed, hdest]
    rw [Visitor.landing, if_neg hdenied, follow_redirect hne hredirect]
    exact ends_next hpending hlogin

section

variable (hpending : t.pending = none) (hne : t.shown ≠ some dest)
  (htoken : t.localStorage.hasToken = true)

include hpending hne htoken

/-- The pages of the SSO entry that need no admin. -/
lemma ends_sso (hentry : readStoredSessionEntry t.localStorage = .sso) (hlogin : dest ≠ .login)
    (hdest : dest.requiresAdmin = false) :
    ((follow (n + 1) t dest).conclude user).Ends dest t.localStorage := by
  have hnext : t.beforeEach dest = (.next, t) := by
    cases hpublic : dest.isPublic with
    | true =>
      cases dest with
      | login => exact absurd rfl hlogin
      | ssoCallback => exact beforeEach_ssoCallback
      | adminLogin => simp [beforeEach, hentry]
      | _ => cases hpublic
    | false => simp [beforeEach_private hpublic, htoken, hentry, hdest]
  exact ends_next hpending hnext

/-- Somebody who is logged in is sent away from the login page. -/
lemma ends_sso_login (hentry : readStoredSessionEntry t.localStorage = .sso) (hdest : dest = .login) :
    ((follow (n + 2) t dest).conclude user).Ends .finance t.localStorage := by
  subst hdest
  have hredirect : t.beforeEach .login = (.redirect .finance, t) := by
    simp [beforeEach, htoken, hentry, SessionEntry.home]
  rw [follow_redirect hne hredirect]
  exact ends_next hpending (beforeEach_finance htoken hentry)

/-- Where a member ends. -/
lemma ends_member (hentry : readStoredSessionEntry t.localStorage = .sso)
    (hdenied : (t.knownUser user).any (·.role == "admin") = false) :
    ((follow (n + 2) t dest).conclude user).Ends (Visitor.member.landing dest) t.localStorage := by
  by_cases hlogin : dest = .login
  · subst hlogin
    exact ends_sso_login hpending hne htoken hentry rfl
  · by_cases hdashboard : dest = .dashboard
    · subst hdashboard
      have hrole := beforeEach_dashboard_sso htoken hentry
      exact ends_withUser_member hpending hne hrole htoken hentry hdenied
    · have hdest : dest.requiresAdmin = false := by
        cases dest <;> first | rfl | exact absurd rfl hdashboard
      rw [Visitor.landing, if_pos (by simp [Visitor.allowed, hlogin, hdashboard])]
      exact ends_sso hpending hne htoken hentry hlogin hdest

/-- Where an admin of the SSO entry ends. -/
lemma ends_ssoAdmin (hentry : readStoredSessionEntry t.localStorage = .sso)
    (hadmin : (t.knownUser user).any (·.role == "admin") = true) :
    ((follow (n + 2) t dest).conclude user).Ends (Visitor.ssoAdmin.landing dest) t.localStorage := by
  by_cases hlogin : dest = .login
  · subst hlogin
    exact ends_sso_login hpending hne htoken hentry rfl
  · rw [Visitor.landing, if_pos (by simp [Visitor.allowed, hlogin])]
    by_cases hdashboard : dest = .dashboard
    · subst hdashboard
      have hrole := beforeEach_dashboard_sso htoken hentry
      exact ends_withUser_admin hpending hne hrole hadmin
    · have hdest : dest.requiresAdmin = false := by
        cases dest <;> first | rfl | exact absurd rfl hdashboard
      exact ends_sso hpending hne htoken hentry hlogin hdest

/-- Where an admin of the admin entry ends. -/
lemma ends_admin (hentry : readStoredSessionEntry t.localStorage = .admin)
    (hadmin : (t.knownUser user).any (·.role == "admin") = true) :
    ((follow (n + 2) t dest).conclude user).Ends (Visitor.admin.landing dest) t.localStorage := by
  by_cases hcallback : dest = .ssoCallback
  · subst hcallback
    exact ends_next hpending beforeEach_ssoCallback
  · by_cases hdest : dest ∈ ADMIN_ENTRY_ROUTES
    · have hallowed : Visitor.admin.allowed dest = true := by
        simp only [ADMIN_ENTRY_ROUTES, List.mem_cons, List.not_mem_nil, or_false] at hdest
        obtain rfl | rfl := hdest <;> rfl
      rw [Visitor.landing, if_pos hallowed]
      exact ends_withUser_admin hpending hne (beforeEach_admin htoken hentry hdest) hadmin
    · have hdenied : ¬ Visitor.admin.allowed dest = true := by
        simp only [ADMIN_ENTRY_ROUTES, List.mem_cons, List.not_mem_nil, or_false, not_or] at hdest
        simp [Visitor.allowed, hdest, hcallback]
      rw [Visitor.landing, if_neg hdenied,
        follow_redirect hne (beforeEach_bounce htoken hentry hdest hcallback)]
      by_cases hshown : t.shown = some .dashboard
      · exact ends_shown hpending hshown
      · have hrole := beforeEach_admin htoken hentry (List.mem_cons_self : Route.dashboard ∈ _)
        exact ends_withUser_admin hpending hshown hrole hadmin

/-- Where an impostor ends. -/
lemma ends_impostor (hentry : readStoredSessionEntry t.localStorage = .admin)
    (hproper : t.Proper) (hdenied : (t.knownUser user).any (·.role == "admin") = false)
    (hcallback : dest ≠ .ssoCallback) :
    ((follow (n + 3) t dest).conclude user).Ends .adminLogin .empty := by
  by_cases hdest : dest ∈ ADMIN_ENTRY_ROUTES
  · exact ends_withUser_impostor hpending hne (beforeEach_admin htoken hentry hdest) hdenied
  · rw [follow_redirect hne (beforeEach_bounce htoken hentry hdest hcallback)]
    -- a dashboard that is shown has an admin for its user
    have hshown : t.shown ≠ some .dashboard := by
      intro hshown
      have hrole : t.isAdmin = true := (hproper _ hshown).role rfl (.inl hentry)
      obtain ⟨u, huser⟩ : ∃ u, t.store.user = some u := by
        cases huser : t.store.user with
        | none => simp [isAdmin, huser] at hrole
        | some u => exact ⟨u, rfl⟩
      rw [isAdmin_of_loaded huser, hdenied] at hrole
      cases hrole
    have hrole := beforeEach_admin htoken hentry (List.mem_cons_self : Route.dashboard ∈ _)
    exact ends_withUser_impostor hpending hshown hrole hdenied

end

end Tab

/-- A navigation left alone ends where the access table sends the visitor. -/
lemma Tab.ends_settle {t : Tab} {dest : Route} {user : Option User} (hproper : t.Proper)
    (hdest : t.shown ≠ some dest) :
    (t.settle dest user).Ends ((t.visitor user).landing dest)
      (if t.visitor user = .impostor ∧ dest ≠ .ssoCallback then .empty else t.localStorage) := by
  have hproper' : t.supersede.Proper := hproper.supersede
  have hpending : t.supersede.pending = none := rfl
  have hne : t.supersede.shown ≠ some dest := hdest
  show ((Tab.follow 3 t.supersede dest).conclude user).Ends _ _
  cases htoken : t.localStorage.hasToken with
  | false =>
    have hv : t.visitor user = .anonymous := by
      simp [Tab.visitor, htoken]
    rw [hv, if_neg (fun h => nomatch h.1)]
    exact Tab.ends_anonymous hpending hne htoken
  | true =>
    have htoken' : t.supersede.localStorage.hasToken = true := htoken
    cases hentry : readStoredSessionEntry t.localStorage with
    | sso =>
      cases hrole : (t.knownUser user).any (·.role == "admin") with
      | true =>
        have hv : t.visitor user = .ssoAdmin := by
          simp only [Tab.visitor, htoken, hentry, hrole, if_true, Bool.true_eq_false, if_false]
        rw [hv, if_neg (fun h => nomatch h.1)]
        exact Tab.ends_ssoAdmin hpending hne htoken' hentry hrole
      | false =>
        have hv : t.visitor user = .member := by
          simp only [Tab.visitor, htoken, hentry, hrole, Bool.true_eq_false, Bool.false_eq_true,
            if_false]
        rw [hv, if_neg (fun h => nomatch h.1)]
        exact Tab.ends_member hpending hne htoken' hentry hrole
    | admin =>
      cases hrole : (t.knownUser user).any (·.role == "admin") with
      | true =>
        have hv : t.visitor user = .admin := by
          simp only [Tab.visitor, htoken, hentry, hrole, if_true, Bool.true_eq_false, if_false]
        rw [hv, if_neg (fun h => nomatch h.1)]
        exact Tab.ends_admin hpending hne htoken' hentry hrole
      | false =>
        have hv : t.visitor user = .impostor := by
          simp only [Tab.visitor, htoken, hentry, hrole, Bool.true_eq_false, Bool.false_eq_true,
            if_false]
        rw [hv]
        by_cases hcallback : dest = .ssoCallback
        · subst hcallback
          rw [if_neg (fun h => h.2 rfl)]
          exact Tab.ends_next hpending Tab.beforeEach_ssoCallback
        · have hdenied : ¬ Visitor.impostor.allowed dest = true := by
            simp [Visitor.allowed, hcallback]
          rw [if_pos ⟨rfl, hcallback⟩, Visitor.landing, if_neg hdenied]
          exact Tab.ends_impostor hpending hne htoken' hentry hproper' hrole hcallback

/-! ## Redirects -/

namespace Tab

variable {t t' : Tab} {dest dest' : Route} {n m : Nat}

/-- A check that redirects logs out on the admin entry, or goes to the markets on the other. -/
lemma checkRole_redirect {entry : SessionEntry} (h : t.checkRole entry = (.redirect dest', t')) :
    (entry = .admin ∧ dest' = .adminLogin ∧ t' = t.clearSession) ∨
      (entry = .sso ∧ dest' = .finance ∧ t' = t) := by
  cases hrole : t.isAdmin with
  | true =>
    rw [checkRole_admin hrole] at h
    cases h
  | false =>
    cases entry with
    | admin =>
      rw [checkRole_admin_denied hrole] at h
      cases h
      exact .inl ⟨rfl, rfl, rfl⟩
    | sso =>
      rw [checkRole_sso_denied hrole] at h
      cases h
      exact .inr ⟨rfl, rfl, rfl⟩

/-- A redirect comes from the check. -/
lemma withUser_redirect {entry : SessionEntry} (h : t.withUser entry = (.redirect dest', t')) :
    t.checkRole entry = (.redirect dest', t') := by
  cases huser : t.store.user with
  | none =>
    rw [withUser_unloaded huser] at h
    cases h
  | some u => rw [← h, withUser_loaded huser]

/-- A redirect goes to a page that lets the visitor in, or to the dashboard of the admin entry. -/
lemma redirect_cases (h : t.beforeEach dest = (.redirect dest', t')) :
    (t'.beforeEach dest' = (.next, t') ∧ t'.pending = t.pending) ∨
      (dest' = .dashboard ∧ t' = t ∧ t.localStorage.hasToken = true ∧
        readStoredSessionEntry t.localStorage = .admin) := by
  cases htoken : t.localStorage.hasToken with
  | false =>
    have hlogin : dest' = .login ∧ t' = t := by
      cases hpublic : dest.isPublic with
      | true => cases dest <;> simp [beforeEach, htoken, Route.isPublic] at h hpublic
      | false =>
        rw [beforeEach_private hpublic, if_pos htoken] at h
        cases h
        exact ⟨rfl, rfl⟩
    obtain ⟨rfl, rfl⟩ := hlogin
    exact .inl ⟨by simp [beforeEach, htoken], rfl⟩
  | true =>
    cases hentry : readStoredSessionEntry t.localStorage with
    | admin =>
      by_cases hcallback : dest = .ssoCallback
      · rw [hcallback, beforeEach_ssoCallback] at h
        cases h
      · by_cases hdest : dest ∈ ADMIN_ENTRY_ROUTES
        · rw [beforeEach_admin htoken hentry hdest] at h
          obtain ⟨-, rfl, rfl⟩ | ⟨hsso, -⟩ := checkRole_redirect (withUser_redirect h)
          · exact .inl ⟨beforeEach_adminLogin_cleared, rfl⟩
          · cases hsso
        · rw [beforeEach_bounce htoken hentry hdest hcallback] at h
          cases h
          exact .inr ⟨rfl, rfl, rfl, rfl⟩
    | sso =>
      have hfinance : dest' = .finance ∧ t' = t := by
        by_cases hdashboard : dest = .dashboard
        · rw [hdashboard, beforeEach_dashboard_sso htoken hentry] at h
          obtain ⟨hadmin, -⟩ | ⟨-, hfinance⟩ := checkRole_redirect (withUser_redirect h)
          · cases hadmin
          · exact hfinance
        · cases hpublic : dest.isPublic with
          | true =>
            cases dest with
            | login =>
              simp [beforeEach, htoken, hentry, SessionEntry.home] at h
              exact ⟨h.1.symm, h.2.symm⟩
            | ssoCallback => simp [beforeEach] at h
            | adminLogin => simp [beforeEach, hentry] at h
            | _ => cases hpublic
          | false =>
            have hdest : dest.requiresAdmin = false := by
              cases dest <;> first | rfl | exact absurd rfl hdashboard
            rw [beforeEach_private hpublic] at h
            simp [htoken, hentry, hdest] at h
      obtain ⟨rfl, rfl⟩ := hfinance
      exact .inl ⟨beforeEach_finance htoken hentry, rfl⟩

/-- Navigations that agree on their redirects. -/
lemma follow_congr (h : ∀ dest' t', t.beforeEach dest = (.redirect dest', t') →
    follow n t' dest' = follow m t' dest') : follow (n + 1) t dest = follow (m + 1) t dest := by
  unfold follow
  split
  · rfl
  · split
    · rfl
    · exact h _ _ ‹_›
    · rfl

/-- No navigation is redirected three times. -/
lemma follow_add_three : follow (n + 3) t dest = follow 3 t dest := by
  refine follow_congr fun dest₁ t₁ h₁ => ?_
  obtain ⟨hnext, -⟩ | ⟨rfl, rfl, htoken, hentry⟩ := redirect_cases h₁
  · rw [follow_next hnext, follow_next hnext]
  · -- the dashboard of the admin entry
    refine follow_congr fun dest₂ t₂ h₂ => ?_
    rw [beforeEach_admin htoken hentry List.mem_cons_self] at h₂
    obtain ⟨-, rfl, rfl⟩ | ⟨hsso, -⟩ := checkRole_redirect (withUser_redirect h₂)
    · rw [follow_next beforeEach_adminLogin_cleared, follow_next beforeEach_adminLogin_cleared]
    · cases hsso

end Tab

/-! ## What the guard lets through, and what it waits for -/

namespace Tab

variable {t t' : Tab} {dest : Route} {user : Option User}

/-- A check lets an admin pass. -/
lemma checkRole_next {entry : SessionEntry} (h : t.checkRole entry = (.next, t')) :
    t' = t ∧ t.isAdmin = true := by
  cases hrole : t.isAdmin with
  | true =>
    rw [checkRole_admin hrole] at h
    cases h
    exact ⟨rfl, rfl⟩
  | false =>
    cases entry with
    | admin =>
      rw [checkRole_admin_denied hrole] at h
      cases h
    | sso =>
      rw [checkRole_sso_denied hrole] at h
      cases h

/-- A check lets an admin pass who is loaded. -/
lemma withUser_next {entry : SessionEntry} (h : t.withUser entry = (.next, t')) :
    t' = t ∧ t.isAdmin = true := by
  cases huser : t.store.user with
  | none =>
    rw [withUser_unloaded huser] at h
    cases h
  | some u =>
    rw [withUser_loaded huser] at h
    exact checkRole_next h

/-- Asking for the user changes nothing else. -/
lemma withUser_fetch {entry entry' : SessionEntry} (h : t.withUser entry = (.fetch entry', t')) :
    entry' = entry ∧ t' = t := by
  cases huser : t.store.user with
  | none =>
    rw [withUser_unloaded huser] at h
    cases h
    exact ⟨rfl, rfl⟩
  | some u =>
    rw [withUser_loaded huser] at h
    cases entry <;> simp only [checkRole] at h <;> split at h <;> cases h

/-- The guard of a public page waits for nothing. -/
lemma beforeEach_public (hdest : dest.isPublic = true) :
    t.beforeEach dest = (.next, t) ∨ ∃ dest', t.beforeEach dest = (.redirect dest', t) := by
  cases dest with
  | login =>
    by_cases htoken : t.localStorage.hasToken = true
    · exact .inr ⟨_, by simp only [beforeEach, htoken]; rfl⟩
    · exact .inl (by simp [beforeEach, htoken])
  | ssoCallback => exact .inl beforeEach_ssoCallback
  | adminLogin =>
    by_cases h : t.localStorage.hasToken = true ∧ readStoredSessionEntry t.localStorage = .admin
    · exact .inr ⟨.dashboard, by simp only [beforeEach, if_true, if_pos h]⟩
    · exact .inl (by simp only [beforeEach, if_true, if_neg h])
  | _ => cases hdest

/-- The guard lets a visitor pass who may see the page. -/
lemma next_cases (h : t.beforeEach dest = (.next, t')) : t' = t ∧ t.Admissible dest := by
  cases hpublic : dest.isPublic with
  | true =>
    have ht : t' = t := by
      obtain hnext | ⟨dest', hredirect⟩ := @beforeEach_public t dest hpublic
      · rw [hnext] at h
        cases h
        rfl
      · rw [hredirect] at h
        cases h
    refine ⟨ht, ?_, ?_, ?_⟩ <;> rw [hpublic] <;> rintro ⟨⟩
  | false =>
    rw [beforeEach_private hpublic] at h
    split_ifs at h with htoken hentry hdest hadmin
    · cases h
    · obtain ⟨rfl, hrole⟩ := withUser_next h
      exact ⟨rfl, fun _ => by simpa using htoken, fun _ _ => hdest, fun _ _ => hrole⟩
    · cases h
    · obtain ⟨rfl, hrole⟩ := withUser_next h
      exact ⟨rfl, fun _ => by simpa using htoken, fun _ he => absurd he hentry, fun _ _ => hrole⟩
    · cases h
      exact ⟨rfl, fun _ => by simpa using htoken, fun _ he => absurd he hentry,
        fun _ he => absurd he (by simp [hentry, hadmin])⟩

/-- The guard that waits is for the session as it is. -/
def Waits (t : Tab) (g : Guard) : Prop :=
  t.localStorage.hasToken = true ∧ readStoredSessionEntry t.localStorage = g.entry ∧
    (g.entry = .admin → g.dest ∈ ADMIN_ENTRY_ROUTES)

/-- A guard that asks for the user waits for the session as it is. -/
lemma fetch_cases {entry : SessionEntry} (h : t.beforeEach dest = (.fetch entry, t')) :
    t' = t ∧ t.Waits ⟨dest, entry⟩ := by
  cases hpublic : dest.isPublic with
  | true =>
    obtain hnext | ⟨dest', hredirect⟩ := @beforeEach_public t dest hpublic
    · rw [hnext] at h
      cases h
    · rw [hredirect] at h
      cases h
  | false =>
    rw [beforeEach_private hpublic] at h
    split_ifs at h with htoken hentry hdest hadmin
    · cases h
    · obtain ⟨rfl, rfl⟩ := withUser_fetch h
      exact ⟨rfl, by simpa using htoken, hentry, fun _ => hdest⟩
    · cases h
    · obtain ⟨rfl, rfl⟩ := withUser_fetch h
      have hsso : readStoredSessionEntry t'.localStorage = .sso := by
        cases he : readStoredSessionEntry t'.localStorage with
        | sso => rfl
        | admin => exact absurd he hentry
      exact ⟨rfl, by simpa using htoken, hsso, fun he => nomatch he⟩
    · cases h

end Tab

/-! ## One navigation, its redirects and its requests -/

/-- A navigation and where it ends, with the redirects and the requests for the user on the way. -/
inductive Journey (user : Option User) : Tab → Route → Nat → Nat → Tab → Prop where
  | here {t dest} : t.shown = some dest → Journey user t dest 0 0 t
  | lands {t t' dest} : t.shown ≠ some dest → t.beforeEach dest = (.next, t') →
      Journey user t dest 0 0 { t' with shown := some dest }
  | redirected {t t' t'' dest dest' redirects requests} : t.shown ≠ some dest →
      t.beforeEach dest = (.redirect dest', t') → Journey user t' dest' redirects requests t'' →
      Journey user t dest (redirects + 1) requests t''
  | fetched {t t' t'' dest entry} : t.shown ≠ some dest → t.beforeEach dest = (.fetch entry, t') →
      (t'.setUser user).checkRole entry = (.next, t'') →
      Journey user t dest 0 1 { t'' with shown := some dest }
  | fetchedRedirected {t t' t'' last dest dest' entry redirects requests} : t.shown ≠ some dest →
      t.beforeEach dest = (.fetch entry, t') →
      (t'.setUser user).checkRole entry = (.redirect dest', t'') →
      Journey user t'' dest' redirects requests last →
      Journey user t dest (redirects + 1) (requests + 1) last

/-- What the journey of a navigation may come to. -/
def Short (user : Option User) (t : Tab) (dest : Route) (t' : Tab) : Prop :=
  ∃ redirects requests, Journey user t dest redirects requests t' ∧ redirects ≤ 2 ∧ requests ≤ 1

namespace Tab

variable {t t' : Tab} {dest dest' : Route} {user : Option User} {n : Nat}

/-- A navigation that the guard lets pass. -/
lemma journey_of_next (h : t.beforeEach dest = (.next, t)) :
    Journey user t dest 0 0 (follow (n + 1) t dest) := by
  by_cases hshown : t.shown = some dest
  · rw [follow, if_pos hshown]
    exact .here hshown
  · rw [follow_next h]
    exact .lands hshown h

/-- After a navigation that lands no guard waits. -/
lemma pending_follow_next (hpending : t.pending = none) (h : t.beforeEach dest = (.next, t)) :
    (follow (n + 1) t dest).pending = none := by
  rw [follow_next h]
  exact hpending

/-- A navigation whose guard asks for the user is redirected at most once. -/
lemma journey_of_fetch {entry : SessionEntry} (hpending : t.pending = none)
    (hne : t.shown ≠ some dest) (h : t.beforeEach dest = (.fetch entry, t')) :
    ∃ redirects, Journey user t dest redirects 1 ((follow (n + 1) t dest).conclude user) ∧
      redirects ≤ 1 := by
  obtain ⟨rfl, htoken, hentry, -⟩ := fetch_cases h
  have hself : ({ t' with pending := none } : Tab) = t' := by
    rw [← hpending]
  rw [follow_fetch hne h]
  show ∃ redirects, Journey user t' dest redirects 1
    (answered { t' with pending := some ⟨dest, entry⟩ } ⟨dest, entry⟩ user) ∧ redirects ≤ 1
  unfold answered
  dsimp only
  rw [hself]
  split
  · rename_i hcheck
    exact ⟨0, .fetched hne h hcheck, Nat.zero_le 1⟩
  · rename_i hcheck
    refine ⟨1, .fetchedRedirected hne h hcheck ?_, Nat.le_refl 1⟩
    obtain ⟨rfl, rfl, rfl⟩ | ⟨rfl, rfl, rfl⟩ := checkRole_redirect hcheck
    · exact journey_of_next beforeEach_adminLogin_cleared
    · exact journey_of_next (beforeEach_finance htoken hentry)
  · rename_i hcheck
    cases entry <;> simp only [checkRole] at hcheck <;> split at hcheck <;> cases hcheck

/-- A navigation that is left alone is redirected at most twice, and asks for the user at most once. -/
lemma follow_short (hpending : t.pending = none) (hne : t.shown ≠ some dest) :
    Short user t dest ((follow 3 t dest).conclude user) := by
  cases h : t.beforeEach dest with
  | mk verdict t' =>
    cases verdict with
    | next =>
      obtain ⟨rfl, -⟩ := next_cases h
      rw [conclude_of_pending (pending_follow_next hpending h)]
      exact ⟨0, 0, journey_of_next h, by omega, by omega⟩
    | fetch entry =>
      obtain ⟨redirects, hjourney, hle⟩ := @journey_of_fetch t t' dest user 2 entry hpending hne h
      exact ⟨redirects, 1, hjourney, by omega, by omega⟩
    | redirect dest' =>
      rw [follow_redirect hne h]
      obtain ⟨hnext, hpending'⟩ | ⟨rfl, rfl, htoken, hentry⟩ := redirect_cases h
      · rw [conclude_of_pending (pending_follow_next (hpending'.trans hpending) hnext)]
        exact ⟨1, 0, .redirected hne h (journey_of_next hnext), by omega, by omega⟩
      · -- the dashboard of the admin entry
        by_cases hshown : t'.shown = some .dashboard
        · rw [follow, if_pos hshown, conclude_of_pending hpending]
          exact ⟨1, 0, .redirected hne h (.here hshown), by omega, by omega⟩
        · cases h' : t'.beforeEach .dashboard with
          | mk verdict t'' =>
            cases verdict with
            | next =>
              obtain ⟨rfl, -⟩ := next_cases h'
              rw [conclude_of_pending (pending_follow_next hpending h')]
              exact ⟨1, 0, .redirected hne h (journey_of_next h'), by omega, by omega⟩
            | fetch entry =>
              obtain ⟨redirects, hjourney, hle⟩ :=
                @journey_of_fetch t' t'' .dashboard user 1 entry hpending hshown h'
              exact ⟨redirects + 1, 1, .redirected hne h hjourney, by omega, by omega⟩
            | redirect dest'' =>
              rw [follow_redirect hshown h']
              rw [beforeEach_admin htoken hentry List.mem_cons_self] at h'
              obtain ⟨-, rfl, rfl⟩ | ⟨hsso, -⟩ := checkRole_redirect (withUser_redirect h')
              · have hnext := @beforeEach_adminLogin_cleared t'
                have hcleared : t'.clearSession.pending = none := hpending
                rw [conclude_of_pending (pending_follow_next hcleared hnext)]
                rw [← beforeEach_admin htoken hentry List.mem_cons_self] at h'
                exact ⟨2, 0, .redirected hne h (.redirected hshown h' (journey_of_next hnext)),
                  by omega, by omega⟩
              · cases hsso

end Tab

/-! ## Runs keep to the access table -/

namespace Tab

variable {t t' : Tab} {dest : Route} {user : Option User}

/-- The invariant of the runs. -/
structure Sound (t : Tab) : Prop where
  proper : t.Proper
  waits : ∀ g, t.pending = some g → t.Waits g

/-- A navigation that lands. -/
lemma sound_shown (hpending : t.pending = none) (h : t.Admissible dest) :
    ({ t with shown := some dest } : Tab).Sound where
  proper r hr := by
    cases hr
    exact h.mono id rfl id
  waits g hg := by
    rw [show ({ t with shown := some dest } : Tab).pending = none from hpending] at hg
    cases hg

/-- A navigation that lands is sound. -/
lemma sound_follow_next {n : Nat} (hpending : t.pending = none) (h : t.beforeEach dest = (.next, t)) :
    (follow (n + 1) t dest).Sound := by
  rw [follow_next h]
  exact sound_shown hpending (next_cases h).2

/-- A navigation from a page the session may see. -/
lemma sound_follow (hproper : t.Proper) (hpending : t.pending = none) : (follow 3 t dest).Sound := by
  have hself : t.Sound := ⟨hproper, fun g hg => nomatch hpending.symm.trans hg⟩
  have waiting {dest : Route} {entry t'} (h : t.beforeEach dest = (.fetch entry, t')) :
      ({ t' with pending := some ⟨dest, entry⟩ } : Tab).Sound := by
    obtain ⟨rfl, hwaits⟩ := fetch_cases h
    refine ⟨hproper.mono rfl id rfl id, fun g hg => ?_⟩
    cases hg
    exact hwaits
  rw [follow]
  split
  · exact hself
  · split
    · rename_i h
      obtain ⟨rfl, hadm⟩ := next_cases h
      exact sound_shown hpending hadm
    · rename_i h
      obtain ⟨hnext, hp⟩ | ⟨rfl, rfl, htoken, hentry⟩ := redirect_cases h
      · exact sound_follow_next (hp.trans hpending) hnext
      · rw [follow]
        split
        · exact hself
        · split
          · rename_i h
            obtain ⟨rfl, hadm⟩ := next_cases h
            exact sound_shown hpending hadm
          · rename_i h
            rw [beforeEach_admin htoken hentry List.mem_cons_self] at h
            obtain ⟨-, rfl, rfl⟩ | ⟨hsso, -⟩ := checkRole_redirect (withUser_redirect h)
            · exact sound_follow_next hpending beforeEach_adminLogin_cleared
            · cases hsso
          · exact waiting ‹_›
    · exact waiting ‹_›

/-- A navigation keeps the invariant. -/
lemma Sound.push (h : t.Sound) : (t.push dest).Sound :=
  sound_follow h.proper.supersede rfl

/-- A navigation that lands whatever page is shown. -/
lemma sound_push_next (h : t.supersede.beforeEach dest = (.next, t.supersede)) : (t.push dest).Sound :=
  sound_follow_next rfl h

/-- A page load establishes the invariant. -/
lemma sound_load : (t.load dest).Sound := by
  refine Sound.push ⟨fun r hr => ?_, fun g hg => ?_⟩
  · cases hr
  · cases hg

/-- The guard of the navigation under way goes on, whatever user it is answered with. -/
lemma Sound.answered {g : Guard} (h : t.Sound) (hg : t.pending = some g) :
    (t.answered g user).Sound := by
  obtain ⟨htoken, hentry, hdest⟩ := h.waits g hg
  unfold Tab.answered
  split
  · rename_i hcheck
    obtain ⟨rfl, hrole⟩ := checkRole_next hcheck
    exact sound_shown rfl ⟨fun _ => htoken, fun _ he => hdest (hentry ▸ he), fun _ _ => hrole⟩
  · rename_i hcheck
    obtain ⟨-, rfl, rfl⟩ | ⟨hsso, rfl, rfl⟩ := checkRole_redirect hcheck
    · exact sound_follow_next rfl beforeEach_adminLogin_cleared
    · exact sound_follow_next rfl (beforeEach_finance htoken (hentry.trans hsso))
  · rename_i hcheck
    cases hg : g.entry <;> simp only [hg, checkRole] at hcheck <;> split at hcheck <;> cases hcheck

/-- The step leaves its session to the page that is shown, and to the guard that waits. -/
def Keeps (t : Tab) : Label → Prop
  | .logoutFails => (∀ r, t.shown = some r → r.isPublic = true) ∧ t.pending = none
  | .answerLate entry user =>
    user.any (·.role == "admin") = true ∨
      match entry with
      | .admin => (∀ r, t.shown = some r → r.isPublic = true) ∧ t.pending = none
      | .sso => ∀ r, t.shown = some r → r.isPublic = false →
          readStoredSessionEntry t.localStorage = .sso ∧ r.requiresAdmin = false
  | _ => True

/-- On a public page, with no guard waiting, nothing is asked of the session. -/
lemma sound_of_public (hshown : ∀ r, t.shown = some r → r.isPublic = true)
    (hpending : t.pending = none) : t.Sound where
  proper r hr := by
    refine ⟨?_, ?_, ?_⟩ <;> rw [hshown r hr] <;> rintro ⟨⟩
  waits g hg := nomatch hpending.symm.trans hg

/-- The user of a superseded guard is stored. -/
lemma Sound.setUser (h : t.Sound) (hkeep : user.any (·.role == "admin") = true ∨
    ∀ r, t.shown = some r → r.isPublic = false →
      readStoredSessionEntry t.localStorage = .sso ∧ r.requiresAdmin = false) :
    (t.setUser user).Sound := by
  refine ⟨?_, h.waits⟩
  obtain hadmin | hneedless := hkeep
  · exact h.proper.mono rfl id rfl fun _ => hadmin
  · intro r hr
    refine ⟨(h.proper r hr).token, (h.proper r hr).entry, fun hpublic he => ?_⟩
    obtain ⟨hsso, hdest⟩ := hneedless r hr hpublic
    obtain hadmin | hadmin := he
    · exact nomatch hsso.symm.trans hadmin
    · exact nomatch hdest.symm.trans hadmin

/-- A superseded guard goes on. -/
lemma Sound.answeredLate {entry : SessionEntry} (h : t.Sound)
    (hkeep : t.Keeps (.answerLate entry user)) : (t.answeredLate entry user).Sound := by
  unfold Tab.answeredLate
  cases hrole : (t.setUser user).isAdmin with
  | true =>
    rw [checkRole_admin hrole]
    exact h.setUser (.inl hrole)
  | false =>
    obtain hadmin | hkeep := hkeep
    · exact nomatch hrole.symm.trans hadmin
    · cases entry with
      | admin =>
        rw [checkRole_admin_denied hrole]
        exact sound_of_public hkeep.1 hkeep.2
      | sso =>
        rw [checkRole_sso_denied hrole]
        exact h.setUser (.inr hkeep)

/-- A superseded guard goes on, and takes the page with it. -/
lemma Sound.redirectedLate {entry : SessionEntry} (h : t.Sound)
    (hkeep : t.Keeps (.answerLate entry user))
    (hcheck : (t.setUser user).checkRole entry = (.redirect dest, t')) : (t'.push dest).Sound := by
  have hlate := h.answeredLate hkeep
  obtain ⟨rfl, rfl, rfl⟩ | ⟨rfl, rfl, rfl⟩ := checkRole_redirect hcheck
  · exact sound_push_next (@beforeEach_adminLogin_cleared (t.setUser user).supersede)
  · rw [Tab.answeredLate, hcheck] at hlate
    exact hlate.push

/-- An admin who is loaded sees the dashboard. -/
lemma beforeEach_dashboard_loaded {u : User} (htoken : t.localStorage.hasToken = true)
    (hentry : readStoredSessionEntry t.localStorage = .admin) (huser : t.store.user = some u)
    (hrole : u.role = "admin") : t.beforeEach .dashboard = (.next, t) := by
  have hadmin : t.isAdmin = true := by
    simp [isAdmin, huser, hrole]
  rw [beforeEach_admin htoken hentry List.mem_cons_self, withUser_loaded huser,
    checkRole_admin hadmin]

end Tab

/-- One step. -/
lemma step_sound {t t' : Tab} {l : Label} (hkeep : t.Keeps l) (h : t.Sound) (step : Step t l t') :
    t'.Sound := by
  have hdrop (late : List SessionEntry) : ({ t with superseded := late } : Tab).Sound :=
    ⟨h.proper.mono rfl id rfl id, h.waits⟩
  cases step with
  | push => exact h.push
  | load => exact Tab.sound_load
  | answer hg => exact h.answered hg
  | answerLate => exact (hdrop _).answeredLate hkeep
  | @redirectLate _ _ _ _ l₁ l₂ _ hcheck => exact (hdrop (l₁ ++ l₂)).redirectedLate hkeep hcheck
  | @ssoLogin tokens user =>
    refine Tab.sound_push_next (Tab.beforeEach_finance ?_ rfl)
    simp [Tab.supersede, Tab.logIn, LocalStorage.hasToken, tokens.nonempty]
  | @adminLogin tokens user hrole =>
    refine Tab.sound_push_next (Tab.beforeEach_dashboard_loaded ?_ rfl rfl hrole)
    simp [Tab.supersede, Tab.logIn, LocalStorage.hasToken, tokens.nonempty]
  | @logout entry =>
    cases entry <;> refine Tab.sound_push_next ?_ <;>
      simp [Tab.beforeEach, Tab.supersede, Tab.clearSession, LocalStorage.hasToken]
  | logoutFails => exact Tab.sound_of_public hkeep.1 hkeep.2
  | @refreshed token htoken =>
    have htoken' : LocalStorage.hasToken { t.localStorage with accessToken := some token } = true := by
      simp [LocalStorage.hasToken, htoken]
    exact ⟨h.proper.mono rfl (fun _ => htoken') rfl id, fun g hg => ⟨htoken', (h.waits g hg).2⟩⟩
  | expire => exact Tab.sound_load

/-- A step that keeps the invariant keeps the session: no weaker condition would keep the invariant. -/
lemma keeps_of_sound {t : Tab} :
    (t.clearSession.Sound → t.Keeps .logoutFails) ∧
      ∀ entry user, (t.answeredLate entry user).Sound → t.Keeps (.answerLate entry user) := by
  have hcleared {t : Tab} (h : t.clearSession.Sound) :
      (∀ r, t.shown = some r → r.isPublic = true) ∧ t.pending = none := by
    constructor
    · intro r hr
      cases hpublic : r.isPublic with
      | true => rfl
      | false => exact nomatch (h.proper r hr).token hpublic
    · cases hpending : t.pending with
      | none => rfl
      | some g => exact nomatch (h.waits g hpending).1
  refine ⟨hcleared, fun entry user h => ?_⟩
  cases hrole : (t.setUser user).isAdmin with
  | true => exact .inl hrole
  | false =>
    right
    cases entry with
    | admin =>
      rw [Tab.answeredLate, Tab.checkRole_admin_denied hrole] at h
      exact hcleared h
    | sso =>
      rw [Tab.answeredLate, Tab.checkRole_sso_denied hrole] at h
      intro r hr hpublic
      have hneedless (he : readStoredSessionEntry t.localStorage = .admin ∨
          r.requiresAdmin = true) : False :=
        nomatch hrole.symm.trans ((h.proper r hr).role hpublic he)
      constructor
      · cases hentry : readStoredSessionEntry t.localStorage with
        | sso => rfl
        | admin => exact (hneedless (.inl hentry)).elim
      · cases hdest : r.requiresAdmin with
        | false => rfl
        | true => exact (hneedless (.inr hdest)).elim

/-- The page shown is at every moment one the session may see. -/
theorem page_admissible {t₀ t : Tab} {dest : Route} {ls : List Label}
    (run : Guarded Step Tab.Keeps (t₀.load dest) ls t) : t.Proper :=
  (run.invariant (fun hkeep h step => step_sound hkeep h step) Tab.sound_load).proper

/-- A login, and a page of the other entry. -/
theorem page_admissible_bounced :
    (((((⟨.empty, .init .empty, none, none, []⟩ : Tab).load .tech).logIn ⟨"a", "r", by decide⟩
      ⟨"u", "admin"⟩ .admin).push .dashboard).push .tech).Proper := by
  refine page_admissible (.cons ?_ (.adminLogin rfl) (.cons ?_ .push .nil)) <;> trivial

end InstantBoard.Client.Navigation
