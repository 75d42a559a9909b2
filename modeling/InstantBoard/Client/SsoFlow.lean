import InstantBoard.Auth.Identities
import InstantBoard.Lib.Transition

/-!
# The SSO flow

`loginWithSSO` asks the API for an authorization URL with a fresh state, keeps the state and the provider
in the session storage of the tab and leaves for the provider. The provider sends the browser back to
`/auth/callback` with a code and the state; `SSOCallbackView` and `handleCallback` compare the state with
the one that is kept, and post the code to `sso_login`, which exchanges it for the account.

The runs have any number of browsers and tabs with any number of flows at once, tabs that are duplicated,
callbacks that are visited again from the history, requests that are answered late or not at all, and
somebody who has codes of his own and opens callbacks in any tab with any state but one that was given to
that browser.

`sso_sessions_approved`: the account a browser is signed in to was approved by that browser, at the
provider and for a flow that it has begun, and never at Apple, whose answer comes as a form and not in the
URL. `sso_flow_completes`: a flow of another provider that is left alone signs in.
-/

namespace InstantBoard.Client.SsoFlow

open Auth Transition

/-! ## The authorization URL -/

/-- The identifiers of the application at the providers. -/
structure ClientIds where
  googleOauthClientId : Option String
  azureAdClientId : Option String
  githubOauthClientId : Option String
  appleClientId : Option String
  facebookAppId : Option String

variable (ids : ClientIds) (state redirectUri : String)

/-- The parameters of `GoogleSSOHandler.get_authorize_url`. -/
def googleParams : List (String × String) :=
  [("client_id", ids.googleOauthClientId.getD ""),
   ("redirect_uri", redirectUri),
   ("response_type", "code"),
   ("scope", "openid email profile"),
   ("state", state),
   ("access_type", "offline")]

/-- Of `AzureADSSOHandler.get_authorize_url`. -/
def azureParams : List (String × String) :=
  [("client_id", ids.azureAdClientId.getD ""),
   ("redirect_uri", redirectUri),
   ("response_type", "code"),
   ("scope", "openid email profile User.Read"),
   ("state", state),
   ("response_mode", "query")]

/-- Of `GitHubSSOHandler.get_authorize_url`. -/
def githubParams : List (String × String) :=
  [("client_id", ids.githubOauthClientId.getD ""),
   ("redirect_uri", redirectUri),
   ("scope", "user:email read:user"),
   ("state", state)]

/-- Of `AppleSSOHandler.get_authorize_url`. -/
def appleParams : List (String × String) :=
  [("client_id", ids.appleClientId.getD ""),
   ("redirect_uri", redirectUri),
   ("response_type", "code"),
   ("scope", "email name"),
   ("state", state),
   ("response_mode", "form_post")]

/-- Of `FacebookSSOHandler.get_authorize_url`. -/
def facebookParams : List (String × String) :=
  [("client_id", ids.facebookAppId.getD ""),
   ("redirect_uri", redirectUri),
   ("scope", "email public_profile"),
   ("state", state),
   ("response_type", "code")]

/-- The parameters of the URL of a provider, `SSOHandlerFactory._handlers` choosing the handler. -/
def authorizeParams (provider : String) : List (String × String) :=
  if provider = "google" then googleParams ids state redirectUri
  else if provider = "azure_ad" then azureParams ids state redirectUri
  else if provider = "github" then githubParams ids state redirectUri
  else if provider = "apple" then appleParams ids state redirectUri
  else if provider = "facebook" then facebookParams ids state redirectUri
  else []

/-- What a provider puts into the query of the redirect: nothing where it answers with a form. -/
structure Query where
  code : Option String
  state : Option String
  deriving DecidableEq

def redirectQuery (params : List (String × String)) (code : String) : Query :=
  if params.lookup "response_mode" = some "form_post" then ⟨none, none⟩
  else ⟨some code, params.lookup "state"⟩

/-! ## The tab -/

/-- `oauth_state` and `oauth_provider` in the session storage of a tab. -/
structure OAuthItems where
  state : Option String
  provider : Option String
  deriving DecidableEq

/-- The storage as it is when a tab is opened. -/
def OAuthItems.removed : OAuthItems :=
  ⟨none, none⟩

/-- Where a callback goes. -/
inductive Landing where
  /-- `/login?error=csrf_mismatch` -/
  | csrfMismatch
  | codeMissing
  /-- `authStore.login` posts the code. -/
  | posts (provider code : String)
  deriving DecidableEq

/-- `handleCallback`, up to the request. -/
def handleCallback (items : OAuthItems) (provider code state : String) : Landing × OAuthItems :=
  match truthy items.state with
  | none => (.csrfMismatch, .removed)
  | some storedState =>
    if storedState ≠ state then (.csrfMismatch, .removed) else (.posts provider code, .removed)

/-- `SSOCallbackView` -/
def callbackView (items : OAuthItems) (query : Query) : Landing × OAuthItems :=
  match truthy items.provider, truthy query.state with
  | some provider, some state =>
    match truthy query.code with
    | some code => handleCallback items provider code state
    | none => (.codeMissing, items)
  | _, _ => (.csrfMismatch, items)

/-- A callback posts a code only with the state that is kept. -/
lemma callbackView_posts {items items' : OAuthItems} {query : Query} {provider code : String}
    (h : callbackView items query = (.posts provider code, items')) :
    items' = .removed ∧ items.provider = some provider ∧ query.code = some code ∧
      ∃ state, query.state = some state ∧ items.state = some state := by
  have htruthy : ∀ {s : Option String} {v : String}, truthy s = some v → s = some v :=
    fun h => (Option.filter_eq_some_iff.1 h).1
  unfold callbackView at h
  split at h
  · rename_i provider' state hprovider hstate
    split at h
    · rename_i code' hcode
      unfold handleCallback at h
      split at h
      · cases h
      · rename_i stored hstored
        split at h
        · cases h
        · rename_i heq
          cases h
          refine ⟨rfl, htruthy hprovider, htruthy hcode, state, htruthy hstate, ?_⟩
          rw [← not_ne_iff.1 heq]
          exact htruthy hstored
    · cases h
  · cases h

/-! ## The system -/

/-- A state the API has given out, with the browser that got it. -/
structure Flow where
  state : String
  provider : String
  browser : Option Nat

/-- A code a provider has given out for an account. -/
structure Code where
  value : String
  provider : String
  info : SSOUserInfo

/-- A browser was at a provider with a state, and an account was approved there. -/
structure Approval where
  browser : Nat
  provider : String
  state : String
  code : String
  info : SSOUserInfo

/-- A callback a browser was sent to. -/
structure Visit where
  browser : Nat
  query : Query

/-- A request of `authStore.login`. -/
structure Request where
  tab : Nat
  provider : String
  code : String

/-- What `storeLoginResponse` keeps. -/
structure SsoSession where
  provider : String
  user : UserRow

/-- The deployment, and which browser a tab is of. -/
structure Env where
  ids : ClientIds
  redirectUri : String
  settings : LoginSettings
  browserOf : Nat → Nat

structure World where
  flows : List Flow
  storage : Nat → OAuthItems
  codes : List Code
  /-- The codes that have been exchanged. -/
  exchanged : List String
  approvals : List Approval
  visits : List Visit
  requests : List Request
  db : UserTables
  session : Nat → Option SsoSession

inductive Action where
  /-- The answer of `/authorize` arrives in a tab, which leaves for the provider. -/
  | authorize (tab : Nat) (provider state : String)
  | authorizeElsewhere (provider state : String)
  /-- An account is approved in a tab that is at a provider with a state. -/
  | approve (tab : Nat) (provider state code : String) (info : SSOUserInfo)
  | approveElsewhere (provider code : String) (info : SSOUserInfo)
  | duplicate (tab copy : Nat)
  | close (tab : Nat)
  /-- A tab opens a callback that its browser was sent to. -/
  | visit (tab index : Nat)
  /-- A tab is made to open a callback. -/
  | lure (tab : Nat) (query : Query)
  | answer (index : Nat) (newTenantId newUserId : String)
  /-- A request is handled, and its answer is lost. -/
  | lose (index : Nat) (newTenantId newUserId : String)
  | fail (index : Nat)
  /-- Another login. -/
  | login (l : LoginLabel)
  | signOut (browser : Nat)

namespace World

def initial (db : UserTables) : World where
  flows := []
  storage := fun _ => .removed
  codes := []
  exchanged := []
  approvals := []
  visits := []
  requests := []
  db
  session := fun _ => none

variable (env : Env)

/-- The provider is supported and enabled. -/
def Enabled (provider : String) : Prop :=
  provider ∈ SUPPORTED_PROVIDERS ∧ provider ∈ env.settings.enabledSsoProviders

instance (provider : String) : Decidable (Enabled env provider) :=
  inferInstanceAs (Decidable (_ ∧ _))

/-- The state is new. -/
def Fresh (w : World) (state : String) : Prop :=
  state ≠ "" ∧ ∀ f ∈ w.flows, f.state ≠ state

instance (w : World) (state : String) : Decidable (w.Fresh state) :=
  inferInstanceAs (Decidable (_ ∧ _))

/-- The code is new. -/
def NewCode (w : World) (code : String) : Prop :=
  code ≠ "" ∧ ∀ k ∈ w.codes, k.value ≠ code

instance (w : World) (code : String) : Decidable (w.NewCode code) :=
  inferInstanceAs (Decidable (_ ∧ _))

/-- The state was not given to the browser. -/
def Foreign (w : World) (browser : Nat) (state : Option String) : Prop :=
  ∀ f ∈ w.flows, f.browser = some browser → state ≠ some f.state

instance (w : World) (browser : Nat) (state : Option String) : Decidable (w.Foreign browser state) :=
  inferInstanceAs (Decidable (∀ _ ∈ _, _ → _))

def setStorage (w : World) (tab : Nat) (items : OAuthItems) : World :=
  { w with storage := fun t => if t = tab then items else w.storage t }

/-- A tab opens a callback. -/
def land (w : World) (tab : Nat) (query : Query) : World :=
  let (landing, items) := callbackView (w.storage tab) query
  let w := w.setStorage tab items
  match landing with
  | .posts provider code => { w with requests := w.requests ++ [⟨tab, provider, code⟩] }
  | .csrfMismatch | .codeMissing => w

/-- The account a provider gives for a code of its own, once. -/
def exchange (w : World) (provider code : String) : Option SSOUserInfo :=
  if code ∈ w.exchanged then none
  else (w.codes.find? fun k => k.value = code ∧ k.provider = provider).map (·.info)

/-- `sso_login`: the user who is signed in, and the world. -/
def ssoLogin (w : World) (provider code newTenantId newUserId : String) : Option UserRow × World :=
  if Enabled env provider then
    match w.exchange provider code with
    | none => (none, w)
    | some info =>
      let w := { w with exchanged := w.exchanged ++ [code] }
      match w.db.login env.settings (.sso provider info newTenantId newUserId) with
      | .ok (user, db) => (some user, { w with db })
      | .error _ => (none, w)
  else (none, w)

/-- `storeLoginResponse`, and `setSessionEntry("sso")`. -/
def store (w : World) (browser : Nat) (provider : String) (user : Option UserRow) : World :=
  match user with
  | some user =>
    { w with session := fun b => if b = browser then some ⟨provider, user⟩ else w.session b }
  | none => w

def next (w : World) : Action → Option World
  | .authorize tab provider state =>
    if Enabled env provider ∧ w.Fresh state then
      let flow : Flow := ⟨state, provider, some (env.browserOf tab)⟩
      some (World.setStorage { w with flows := w.flows ++ [flow] } tab ⟨some state, some provider⟩)
    else none
  | .authorizeElsewhere provider state =>
    if w.Fresh state then some { w with flows := w.flows ++ [⟨state, provider, none⟩] } else none
  | .approve tab provider state code info =>
    if w.NewCode code then
      some { w with
        codes := w.codes ++ [⟨code, provider, info⟩]
        approvals := w.approvals ++ [⟨env.browserOf tab, provider, state, code, info⟩]
        visits := w.visits ++ [⟨env.browserOf tab,
          redirectQuery (authorizeParams env.ids state env.redirectUri provider) code⟩] }
    else none
  | .approveElsewhere provider code info =>
    if w.NewCode code then some { w with codes := w.codes ++ [⟨code, provider, info⟩] } else none
  | .duplicate tab copy =>
    if env.browserOf copy = env.browserOf tab then some (w.setStorage copy (w.storage tab)) else none
  | .close tab => some (w.setStorage tab .removed)
  | .visit tab index =>
    (w.visits[index]?.filter fun v => v.browser = env.browserOf tab).map fun v => w.land tab v.query
  | .lure tab query =>
    if w.Foreign (env.browserOf tab) query.state then some (w.land tab query) else none
  | .answer index newTenantId newUserId =>
    w.requests[index]?.map fun r =>
      let (user, w) := ssoLogin env { w with requests := w.requests.eraseIdx index } r.provider r.code
        newTenantId newUserId
      w.store (env.browserOf r.tab) r.provider user
  | .lose index newTenantId newUserId =>
    w.requests[index]?.map fun r =>
      (ssoLogin env { w with requests := w.requests.eraseIdx index } r.provider r.code newTenantId
        newUserId).2
  | .fail index => w.requests[index]?.map fun _ => { w with requests := w.requests.eraseIdx index }
  | .login l => some { w with db := w.db.next env.settings l }
  | .signOut browser => some { w with session := fun b => if b = browser then none else w.session b }

end World

def FlowStep (env : Env) (w : World) (a : Action) (w' : World) : Prop :=
  w.next env a = some w'

/-! ## What a session goes back to -/

section

variable (flows : List Flow) (approvals : List Approval) (browser : Nat)

/-- A code of a flow of the browser that was approved in the browser, where the provider answers in the
URL. -/
structure Redeems (code : String) (f : Flow) (a : Approval) : Prop where
  flow : f ∈ flows
  approval : a ∈ approvals
  begun : f.browser = some browser
  approved : a.browser = browser
  state : a.state = f.state
  code : a.code = code
  notApple : a.provider ≠ "apple"

/-- The user of a session was approved in the browser, for a flow of the browser. -/
def Approved (s : SsoSession) : Prop :=
  ∃ code f a, Redeems flows approvals browser code f a ∧ f.provider = s.provider ∧
    a.provider = s.provider ∧ a.info.providerId ≠ "" ∧
    s.user.identity = (s.provider, a.info.providerId)

end

structure Sound (env : Env) (w : World) : Prop where
  /-- What a tab keeps is a state of its browser, with the provider. -/
  stored : ∀ tab state, (w.storage tab).state = some state → ∃ f ∈ w.flows, f.state = state ∧
    f.browser = some (env.browserOf tab) ∧ (w.storage tab).provider = some f.provider
  states : ∀ f ∈ w.flows, ∀ f' ∈ w.flows, f.state = f'.state → f = f'
  visits : ∀ v ∈ w.visits, ∀ code state, v.query = ⟨some code, some state⟩ → ∃ a ∈ w.approvals,
    a.browser = v.browser ∧ a.code = code ∧ a.state = state ∧ a.provider ≠ "apple"
  approvals : ∀ a ∈ w.approvals, (⟨a.code, a.provider, a.info⟩ : Code) ∈ w.codes
  codes : ∀ k ∈ w.codes, ∀ k' ∈ w.codes, k.value = k'.value → k = k'
  exchanged : ∀ code ∈ w.exchanged, ∃ k ∈ w.codes, k.value = code
  requests : ∀ r ∈ w.requests, ∃ f a,
    Redeems w.flows w.approvals (env.browserOf r.tab) r.code f a ∧ f.provider = r.provider
  sessions : ∀ b s, w.session b = some s → Approved w.flows w.approvals b s
  valid : w.db.Valid

variable {env : Env} {w w' : World} {a : Action}

section

variable {flows flows' : List Flow} {approvals approvals' : List Approval} {browser : Nat}

/-- A code is still for its flow when there are more flows and approvals. -/
lemma Redeems.mono {code : String} {f : Flow} {ap : Approval}
    (h : Redeems flows approvals browser code f ap) (hflows : ∀ f ∈ flows, f ∈ flows')
    (happrovals : ∀ a ∈ approvals, a ∈ approvals') : Redeems flows' approvals' browser code f ap :=
  ⟨hflows f h.flow, happrovals ap h.approval, h.begun, h.approved, h.state, h.code, h.notApple⟩

/-- A session is still approved when there are more flows and approvals. -/
lemma Approved.mono {s : SsoSession} (h : Approved flows approvals browser s)
    (hflows : ∀ f ∈ flows, f ∈ flows') (happrovals : ∀ a ∈ approvals, a ∈ approvals') :
    Approved flows' approvals' browser s := by
  obtain ⟨code, f, ap, hredeems, hrest⟩ := h
  exact ⟨code, f, ap, hredeems.mono hflows happrovals, hrest⟩

end

/-! ## One step -/

/-- The world begins sound. -/
lemma Sound.initial {db : UserTables} (hv : db.Valid) : Sound env (.initial db) where
  stored := fun tab state h => by cases h
  states := fun f hf => nomatch hf
  visits := fun v hv => nomatch hv
  approvals := fun a ha => nomatch ha
  codes := fun k hk => nomatch hk
  exchanged := fun code hcode => nomatch hcode
  requests := fun r hr => nomatch hr
  sessions := fun b s h => by cases h
  valid := hv

/-- What is in a list is in a longer one. -/
lemma mem_snoc {α : Type} {l : List α} {x : α} : ∀ y ∈ l, y ∈ l ++ [x] :=
  fun _ hy => List.mem_append_left _ hy

/-- A new state is given out. -/
lemma Sound.addFlow (h : Sound env w) {f : Flow} (hfresh : w.Fresh f.state) :
    Sound env { w with flows := w.flows ++ [f] } where
  stored := by
    intro tab state hstate
    obtain ⟨f', hf', hrest⟩ := h.stored tab state hstate
    exact ⟨f', mem_snoc f' hf', hrest⟩
  states := by
    intro f₁ h₁ f₂ h₂ heq
    rcases List.mem_append.1 h₁ with h₁ | h₁ <;> rcases List.mem_append.1 h₂ with h₂ | h₂
    · exact h.states f₁ h₁ f₂ h₂ heq
    · rw [List.mem_singleton.1 h₂] at heq
      exact absurd heq (hfresh.2 f₁ h₁)
    · rw [List.mem_singleton.1 h₁] at heq
      exact absurd heq.symm (hfresh.2 f₂ h₂)
    · rw [List.mem_singleton.1 h₁, List.mem_singleton.1 h₂]
  visits := h.visits
  approvals := h.approvals
  codes := h.codes
  exchanged := h.exchanged
  requests := by
    intro r hr
    obtain ⟨f', ap, hredeems, hprovider⟩ := h.requests r hr
    exact ⟨f', ap, hredeems.mono mem_snoc fun _ ha => ha, hprovider⟩
  sessions := fun b s hs => (h.sessions b s hs).mono mem_snoc fun _ ha => ha
  valid := h.valid

/-- What a tab keeps changes to something of its browser, or nothing. -/
lemma Sound.setStorage (h : Sound env w) {tab : Nat} {items : OAuthItems}
    (hitems : ∀ state, items.state = some state → ∃ f ∈ w.flows, f.state = state ∧
      f.browser = some (env.browserOf tab) ∧ items.provider = some f.provider) :
    Sound env (w.setStorage tab items) where
  stored := by
    intro t state
    show (if t = tab then items else w.storage t).state = some state → _
    intro hstate
    by_cases ht : t = tab
    · rw [if_pos ht] at hstate
      obtain ⟨f, hf, hof, hbrowser, hprovider⟩ := hitems state hstate
      refine ⟨f, hf, hof, ht ▸ hbrowser, ?_⟩
      show (if t = tab then items else w.storage t).provider = _
      rw [if_pos ht, hprovider]
    · rw [if_neg ht] at hstate
      obtain ⟨f, hf, hof, hbrowser, hprovider⟩ := h.stored t state hstate
      refine ⟨f, hf, hof, hbrowser, ?_⟩
      show (if t = tab then items else w.storage t).provider = _
      rw [if_neg ht, hprovider]
  states := h.states
  visits := h.visits
  approvals := h.approvals
  codes := h.codes
  exchanged := h.exchanged
  requests := h.requests
  sessions := h.sessions
  valid := h.valid

/-- A provider gives out a new code. -/
lemma Sound.addCode (h : Sound env w) {k : Code} (hnew : w.NewCode k.value) :
    Sound env { w with codes := w.codes ++ [k] } where
  stored := h.stored
  states := h.states
  visits := h.visits
  approvals := fun ap ha => mem_snoc _ (h.approvals ap ha)
  codes := by
    intro k₁ h₁ k₂ h₂ heq
    rcases List.mem_append.1 h₁ with h₁ | h₁ <;> rcases List.mem_append.1 h₂ with h₂ | h₂
    · exact h.codes k₁ h₁ k₂ h₂ heq
    · rw [List.mem_singleton.1 h₂] at heq
      exact absurd heq (hnew.2 k₁ h₁)
    · rw [List.mem_singleton.1 h₁] at heq
      exact absurd heq.symm (hnew.2 k₂ h₂)
    · rw [List.mem_singleton.1 h₁, List.mem_singleton.1 h₂]
  exchanged := by
    intro code hcode
    obtain ⟨k', hk', hvalue⟩ := h.exchanged code hcode
    exact ⟨k', mem_snoc k' hk', hvalue⟩
  requests := h.requests
  sessions := h.sessions
  valid := h.valid

/-- A code comes in the URL only from a provider that does not answer with a form, with the state it
was given. -/
lemma redirectQuery_eq {ids : ClientIds} {state redirectUri provider code code' state' : String}
    (h : redirectQuery (authorizeParams ids state redirectUri provider) code =
      ⟨some code', some state'⟩) : code' = code ∧ state' = state ∧ provider ≠ "apple" := by
  unfold authorizeParams at h
  split_ifs at h with hgoogle hazure hgithub happle hfacebook
  · cases h
    exact ⟨rfl, rfl, by rw [hgoogle]; decide⟩
  · cases h
    exact ⟨rfl, rfl, by rw [hazure]; decide⟩
  · cases h
    exact ⟨rfl, rfl, by rw [hgithub]; decide⟩
  · cases h
  · cases h
    exact ⟨rfl, rfl, by rw [hfacebook]; decide⟩
  · cases h

/-- An account is approved, and the browser is sent back. -/
lemma Sound.approve (h : Sound env w) {ap : Approval} {v : Visit}
    (hcode : (⟨ap.code, ap.provider, ap.info⟩ : Code) ∈ w.codes)
    (hvisit : ∀ code state, v.query = ⟨some code, some state⟩ →
      ap.browser = v.browser ∧ ap.code = code ∧ ap.state = state ∧ ap.provider ≠ "apple") :
    Sound env { w with approvals := w.approvals ++ [ap], visits := w.visits ++ [v] } where
  stored := h.stored
  states := h.states
  visits := by
    intro v' hv' code state hquery
    rcases List.mem_append.1 hv' with hv' | hv'
    · obtain ⟨ap', ha', hrest⟩ := h.visits v' hv' code state hquery
      exact ⟨ap', mem_snoc _ ha', hrest⟩
    · rw [List.mem_singleton.1 hv'] at hquery ⊢
      exact ⟨ap, List.mem_append_right _ List.mem_cons_self, hvisit code state hquery⟩
  approvals := by
    intro ap' ha'
    rcases List.mem_append.1 ha' with ha' | ha'
    · exact h.approvals ap' ha'
    · rw [List.mem_singleton.1 ha']
      exact hcode
  codes := h.codes
  exchanged := h.exchanged
  requests := fun r hr => by
    obtain ⟨f, ap', hredeems, hprovider⟩ := h.requests r hr
    exact ⟨f, ap', hredeems.mono (fun _ hf => hf) mem_snoc, hprovider⟩
  sessions := fun b s hs => (h.sessions b s hs).mono (fun _ hf => hf) mem_snoc
  valid := h.valid

/-- A callback leaves nothing behind, or what was there. -/
lemma callbackView_items (items : OAuthItems) (query : Query) :
    (callbackView items query).2 = .removed ∨ (callbackView items query).2 = items := by
  unfold callbackView handleCallback
  split
  · split
    · split
      · exact .inl rfl
      · split
        · exact .inl rfl
        · exact .inl rfl
    · exact .inr rfl
  · exact .inr rfl

/-- A tab opens a callback: where the state is of its browser, the code was approved there. -/
lemma Sound.land (h : Sound env w) {tab : Nat} {query : Query}
    (hquery : ∀ code state, query = ⟨some code, some state⟩ →
      ∀ f ∈ w.flows, f.browser = some (env.browserOf tab) → f.state = state →
        ∃ a ∈ w.approvals, a.browser = env.browserOf tab ∧ a.code = code ∧ a.state = state ∧
          a.provider ≠ "apple") : Sound env (w.land tab query) := by
  have hstored : Sound env (w.setStorage tab (callbackView (w.storage tab) query).2) := by
    apply h.setStorage
    intro state hstate
    rcases callbackView_items (w.storage tab) query with hitems | hitems
    · rw [hitems] at hstate
      cases hstate
    · rw [hitems] at hstate ⊢
      exact h.stored tab state hstate
  unfold World.land
  dsimp only
  cases hview : callbackView (w.storage tab) query with
  | mk landing items =>
    rw [hview] at hstored
    cases landing with
    | csrfMismatch => exact hstored
    | codeMissing => exact hstored
    | posts provider code =>
      refine { hstored with requests := ?_ }
      intro r hr
      rcases List.mem_append.1 hr with hr | hr
      · exact hstored.requests r hr
      · rw [List.mem_singleton.1 hr]
        obtain ⟨_, hprovider, hcode, state, hof, hstate⟩ := callbackView_posts hview
        obtain ⟨f, hf, hfstate, hbrowser, hfprovider⟩ := h.stored tab state hstate
        have heq : query = ⟨some code, some state⟩ := by
          rw [← hcode, ← hof]
        obtain ⟨ap, ha, habrowser, hacode, hastate, happle⟩ :=
          hquery code state heq f hf hbrowser hfstate
        refine ⟨f, ap, ⟨hf, ha, hbrowser, habrowser, hastate.trans hfstate.symm, hacode, happle⟩, ?_⟩
        exact Option.some.inj (hfprovider.symm.trans hprovider)

/-! ## The login -/

/-- An SSO login ends with a row of the identity. -/
lemma identity_of_login {settings : LoginSettings} {db db' : UserTables} (hv : db.Valid)
    {provider newTenantId newUserId : String} {info : SSOUserInfo} {u : UserRow}
    (h : db.login settings (.sso provider info newTenantId newUserId) = .ok (u, db')) :
    info.providerId ≠ "" ∧ u.identity = (provider, info.providerId) := by
  refine ⟨(ssoLogin_eq_ok.1 h).2.1, ?_⟩
  cases ssoWay_of_login hv h with
  | found _ hidentity _ => exact hidentity
  | rebound _ _ _ _ _ _ => rfl
  | created _ _ _ _ => rfl

/-- What `sso_login` leaves, and whom it signs in. -/
structure LoggedIn (env : Env) (w w' : World) (provider code : String) (user : Option UserRow) :
    Prop where
  sound : Sound env w'
  flows : w'.flows = w.flows
  approvals : w'.approvals = w.approvals
  codes : w'.codes = w.codes
  user : ∀ u, user = some u → ∃ info, (⟨code, provider, info⟩ : Code) ∈ w.codes ∧
    info.providerId ≠ "" ∧ u.identity = (provider, info.providerId)

/-- What a login leaves. -/
lemma Sound.ssoLogin (h : Sound env w) (provider code newTenantId newUserId : String) :
    LoggedIn env w (World.ssoLogin env w provider code newTenantId newUserId).2 provider code
      (World.ssoLogin env w provider code newTenantId newUserId).1 := by
  have hsame : LoggedIn env w w provider code none := ⟨h, rfl, rfl, rfl, fun u hu => by cases hu⟩
  unfold World.ssoLogin
  split
  · cases hexchange : w.exchange provider code with
    | none => exact hsame
    | some info =>
      have hcode : (⟨code, provider, info⟩ : Code) ∈ w.codes := by
        unfold World.exchange at hexchange
        split at hexchange
        · cases hexchange
        · obtain ⟨k, hk, hinfo⟩ := Option.map_eq_some_iff.1 hexchange
          have hfound := List.find?_some hk
          obtain ⟨hvalue, hprovider⟩ := of_decide_eq_true hfound
          have hmem := List.mem_of_find?_eq_some hk
          obtain ⟨value, provider', info'⟩ := k
          obtain rfl : value = code := hvalue
          obtain rfl : provider' = provider := hprovider
          obtain rfl : info' = info := hinfo
          exact hmem
      have hused : Sound env { w with exchanged := w.exchanged ++ [code] } := by
        refine { h with exchanged := ?_ }
        intro c hc
        rcases List.mem_append.1 hc with hc | hc
        · exact h.exchanged c hc
        · rw [List.mem_singleton.1 hc]
          exact ⟨_, hcode, rfl⟩
      dsimp only
      cases hlogin : w.db.login env.settings (.sso provider info newTenantId newUserId) with
      | error e => exact ⟨hused, rfl, rfl, rfl, fun u hu => by cases hu⟩
      | ok result =>
        obtain ⟨user, db⟩ := result
        refine ⟨{ hused with valid := h.valid.login hlogin }, rfl, rfl, rfl, ?_⟩
        intro u hu
        cases hu
        exact ⟨info, hcode, identity_of_login h.valid hlogin⟩
  · exact hsame

/-- A session that is approved may be stored. -/
lemma Sound.store (h : Sound env w) {browser : Nat} {provider : String} {user : Option UserRow}
    (huser : ∀ u, user = some u → Approved w.flows w.approvals browser ⟨provider, u⟩) :
    Sound env (w.store browser provider user) := by
  cases user with
  | none => exact h
  | some u =>
    refine { h with sessions := ?_ }
    intro b s hs
    have hs' : (if b = browser then some ⟨provider, u⟩ else w.session b) = some s := hs
    split at hs'
    · rename_i hb
      cases hs'
      rw [hb]
      exact huser u rfl
    · exact h.sessions b s hs'

/-- A request that is taken out. -/
lemma Sound.eraseRequest (h : Sound env w) (index : Nat) :
    Sound env { w with requests := w.requests.eraseIdx index } :=
  { h with requests := fun r hr => h.requests r (List.mem_of_mem_eraseIdx hr) }

/-- A step keeps the world sound. -/
lemma Sound.step (h : Sound env w) (hstep : FlowStep env w a w') : Sound env w' := by
  unfold FlowStep at hstep
  cases a with
  | authorize tab provider state =>
    obtain ⟨⟨_, hfresh⟩, heq⟩ := Option.ite_none_right_eq_some.1 hstep
    cases heq
    apply (h.addFlow (f := ⟨state, provider, some (env.browserOf tab)⟩) hfresh).setStorage
    intro state' hstate
    cases hstate
    exact ⟨_, List.mem_append_right _ List.mem_cons_self, rfl, rfl, rfl⟩
  | authorizeElsewhere provider state =>
    obtain ⟨hfresh, heq⟩ := Option.ite_none_right_eq_some.1 hstep
    cases heq
    exact h.addFlow hfresh
  | approve tab provider state code info =>
    obtain ⟨hnew, heq⟩ := Option.ite_none_right_eq_some.1 hstep
    cases heq
    have hcode := h.addCode (k := ⟨code, provider, info⟩) hnew
    refine hcode.approve (List.mem_append_right _ List.mem_cons_self) ?_
    intro code' state' hquery
    obtain ⟨hc, hs, happle⟩ := redirectQuery_eq hquery
    exact ⟨rfl, hc.symm, hs.symm, happle⟩
  | approveElsewhere provider code info =>
    obtain ⟨hnew, heq⟩ := Option.ite_none_right_eq_some.1 hstep
    cases heq
    exact h.addCode hnew
  | duplicate tab copy =>
    obtain ⟨hbrowser, heq⟩ := Option.ite_none_right_eq_some.1 hstep
    cases heq
    apply h.setStorage
    intro state hstate
    rw [hbrowser]
    exact h.stored tab state hstate
  | close tab =>
    cases hstep
    apply h.setStorage
    intro state hstate
    cases hstate
  | visit tab index =>
    obtain ⟨v, hv, rfl⟩ := Option.map_eq_some_iff.1 hstep
    obtain ⟨hget, hbrowser⟩ := Option.filter_eq_some_iff.1 hv
    apply h.land
    intro code state hquery f _ _ _
    obtain ⟨ap, ha, habrowser, hrest⟩ := h.visits v (List.mem_of_getElem? hget) code state hquery
    exact ⟨ap, ha, habrowser.trans (of_decide_eq_true hbrowser), hrest⟩
  | lure tab query =>
    obtain ⟨hforeign, heq⟩ := Option.ite_none_right_eq_some.1 hstep
    cases heq
    apply h.land
    intro code state hquery f hf hbrowser hstate
    rw [hquery] at hforeign
    exact absurd (congrArg some hstate.symm) (hforeign f hf hbrowser)
  | answer index newTenantId newUserId =>
    obtain ⟨r, hr, rfl⟩ := Option.map_eq_some_iff.1 hstep
    have hlogin := (h.eraseRequest index).ssoLogin r.provider r.code newTenantId newUserId
    apply hlogin.sound.store
    intro u hu
    rw [hlogin.flows, hlogin.approvals]
    obtain ⟨info, hcode, hid, hidentity⟩ := hlogin.user u hu
    obtain ⟨f, ap, hredeems, hprovider⟩ := h.requests r (List.mem_of_getElem? hr)
    -- the code that was exchanged is the one that was approved
    have heq := h.codes _ hcode _ (h.approvals ap hredeems.approval) hredeems.code.symm
    obtain ⟨_, hof, hinfo⟩ := Code.mk.inj heq
    exact ⟨r.code, f, ap, hredeems, hprovider, hof.symm, hinfo ▸ hid, hinfo ▸ hidentity⟩
  | lose index newTenantId newUserId =>
    obtain ⟨r, _, rfl⟩ := Option.map_eq_some_iff.1 hstep
    exact ((h.eraseRequest index).ssoLogin r.provider r.code newTenantId newUserId).sound
  | fail index =>
    obtain ⟨r, _, rfl⟩ := Option.map_eq_some_iff.1 hstep
    exact h.eraseRequest index
  | login l =>
    cases hstep
    exact { h with valid := LoginStep.valid h.valid rfl }
  | signOut browser =>
    cases hstep
    refine { h with sessions := ?_ }
    intro b s hs
    have hs' : (if b = browser then none else w.session b) = some s := hs
    split at hs'
    · cases hs'
    · exact h.sessions b s hs'

/-! ## Every run -/

/-- Whatever flows, callbacks, answers and other logins interleave: the user a browser is signed in as
has the identity of an account that was approved in this browser, at the provider and with the state of a
flow this browser has begun. The provider is not Apple. -/
theorem sso_sessions_approved {db : UserTables} (hv : db.Valid)
    (h : Reachable (FlowStep env) (.initial db) w) {browser : Nat} {s : SsoSession}
    (hs : w.session browser = some s) :
    s.provider ≠ "apple" ∧ ∃ f ∈ w.flows, ∃ a ∈ w.approvals,
      f.browser = some browser ∧ a.browser = browser ∧ a.state = f.state ∧
      f.provider = s.provider ∧ a.provider = s.provider ∧
      s.user.identity = (s.provider, a.info.providerId) ∧ a.info.providerId ≠ "" := by
  have hsound : Sound env w := h.invariant Sound.step (.initial hv)
  obtain ⟨code, f, ap, hredeems, hflow, hprovider, hid, hidentity⟩ := hsound.sessions browser s hs
  refine ⟨?_, f, hredeems.flow, ap, hredeems.approval, hredeems.begun, hredeems.approved,
    hredeems.state, hflow, hprovider, hidentity, hid⟩
  rw [← hprovider]
  exact hredeems.notApple

/-! ## A flow that is left alone -/

/-- All providers but Apple come back with a code and the state in the query. -/
lemma redirectQuery_of_ne_apple {ids : ClientIds} {state redirectUri provider : String}
    (hp : provider ∈ SUPPORTED_PROVIDERS) (happle : provider ≠ "apple") (code : String) :
    redirectQuery (authorizeParams ids state redirectUri provider) code = ⟨some code, some state⟩ := by
  simp only [SUPPORTED_PROVIDERS, List.mem_cons, List.not_mem_nil, or_false] at hp
  rcases hp with rfl | rfl | rfl | rfl | rfl
  · rfl
  · rfl
  · rfl
  · exact absurd rfl happle
  · rfl

/-- A text that is not empty is truthy. -/
lemma truthy_some {v : String} (h : v ≠ "") : truthy (some v) = some v :=
  Option.filter_eq_some_iff.2 ⟨rfl, decide_eq_true h⟩

/-- With the state that was stored the code is posted, and nothing is kept. -/
lemma callbackView_kept {provider code state : String} (hprovider : provider ≠ "") (hcode : code ≠ "")
    (hstate : state ≠ "") :
    callbackView ⟨some state, some provider⟩ ⟨some code, some state⟩ =
      (.posts provider code, .removed) := by
  unfold callbackView handleCallback
  simp only [truthy_some hprovider, truthy_some hcode, truthy_some hstate, ne_eq, not_true_eq_false,
    if_false]

/-- The name of a provider is not empty. -/
lemma supported_ne_empty {provider : String} (hp : provider ∈ SUPPORTED_PROVIDERS) : provider ≠ "" := by
  rintro rfl
  exact absurd hp (by decide)

/-- A tab comes back with the state it keeps. -/
lemma World.land_kept {tab : Nat} {provider code state : String} (hprovider : provider ≠ "")
    (hcode : code ≠ "") (hstate : state ≠ "")
    (hstored : w.storage tab = ⟨some state, some provider⟩) :
    w.land tab ⟨some code, some state⟩ =
      { w.setStorage tab .removed with requests := w.requests ++ [⟨tab, provider, code⟩] } := by
  unfold World.land
  rw [hstored, callbackView_kept hprovider hcode hstate]
  rfl

/-- A code that has just been given out is exchanged for its account. -/
lemma World.exchange_new {codes : List Code} {provider code : String} {info : SSOUserInfo}
    (hcodes : w.codes = codes ++ [⟨code, provider, info⟩]) (hnew : ∀ k ∈ codes, k.value ≠ code)
    (hunused : code ∉ w.exchanged) : w.exchange provider code = some info := by
  have hnone : codes.find? (fun k => k.value = code ∧ k.provider = provider) = none := by
    apply List.find?_eq_none.2
    intro k hk hfound
    exact hnew k hk (of_decide_eq_true hfound).1
  unfold World.exchange
  rw [if_neg hunused, hcodes, List.find?_append, hnone, Option.none_or]
  simp

/-- A browser follows a redirect of its own. -/
lemma FlowStep.visit {tab index : Nat} {v : Visit} (hv : w.visits[index]? = some v)
    (hbrowser : v.browser = env.browserOf tab) :
    FlowStep env w (.visit tab index) (w.land tab v.query) := by
  show ((w.visits[index]?.filter _).map _) = _
  rw [hv, Option.filter_some, if_pos (decide_eq_true hbrowser)]
  rfl

/-- A request is answered by the login. -/
lemma FlowStep.answer {index : Nat} {r : Request} {newTenantId newUserId : String}
    (hr : w.requests[index]? = some r) {user : Option UserRow}
    (hlogin : World.ssoLogin env { w with requests := w.requests.eraseIdx index } r.provider r.code
      newTenantId newUserId = (user, w')) :
    FlowStep env w (.answer index newTenantId newUserId)
      (w'.store (env.browserOf r.tab) r.provider user) := by
  show w.requests[index]?.map _ = _
  rw [hr, Option.map_some, hlogin]

/-- `sso_login` where the code is exchanged and the row is found or made. -/
lemma World.ssoLogin_eq {provider code newTenantId newUserId : String} {info : SSOUserInfo}
    {user : UserRow} {db' : UserTables} (henabled : World.Enabled env provider)
    (hexchange : w.exchange provider code = some info)
    (hlogin : w.db.login env.settings (.sso provider info newTenantId newUserId) = .ok (user, db')) :
    World.ssoLogin env w provider code newTenantId newUserId =
      (some user, { w with exchanged := w.exchanged ++ [code], db := db' }) := by
  unfold World.ssoLogin
  rw [if_pos henabled, hexchange]
  dsimp only
  rw [hlogin]

/-- The four steps of a flow: begun in a tab, approved, back in the tab, answered. -/
def flowActions (w : World) (tab : Nat) (provider state code : String) (info : SSOUserInfo)
    (newTenantId newUserId : String) : List Action :=
  [.authorize tab provider state, .approve tab provider state code info, .visit tab w.visits.length,
    .answer w.requests.length newTenantId newUserId]

/-- Whatever has happened before: a flow of an enabled provider but Apple that is left alone signs its
browser in as the user of the account, and keeps nothing of the flow. -/
theorem sso_flow_completes {db : UserTables} (hv : db.Valid)
    (h : Reachable (FlowStep env) (.initial db) w) {tab : Nat} {provider state code : String}
    {info : SSOUserInfo} {newTenantId newUserId : String} {user : UserRow} {db' : UserTables}
    (henabled : World.Enabled env provider) (happle : provider ≠ "apple") (hfresh : w.Fresh state)
    (hnew : w.NewCode code)
    (hlogin : w.db.login env.settings (.sso provider info newTenantId newUserId) = .ok (user, db')) :
    ∃ w', Steps (FlowStep env) w
        (flowActions w tab provider state code info newTenantId newUserId) w' ∧
      w'.session (env.browserOf tab) = some ⟨provider, user⟩ ∧ w'.storage tab = .removed := by
  have hsound : Sound env w := h.invariant Sound.step (.initial hv)
  have hnewCode := hnew.2
  have hunused : code ∉ w.exchanged := by
    intro hcode
    obtain ⟨k, hk, hvalue⟩ := hsound.exchanged code hcode
    exact hnew.2 k hk hvalue
  obtain ⟨w₁, hbegun, hstored, hcodes, hexchanged, hvisits, hrequests, hdb⟩ : ∃ w₁,
      FlowStep env w (.authorize tab provider state) w₁ ∧
      w₁.storage tab = ⟨some state, some provider⟩ ∧ w₁.codes = w.codes ∧
      w₁.exchanged = w.exchanged ∧ w₁.visits = w.visits ∧ w₁.requests = w.requests ∧ w₁.db = w.db :=
    ⟨_, if_pos ⟨henabled, hfresh⟩, if_pos rfl, rfl, rfl, rfl, rfl, rfl⟩
  rw [← hcodes] at hnewCode
  rw [← hexchanged] at hunused
  obtain ⟨w₂, happroved, hstored₂, hcodes₂, hexchanged₂, hvisits₂, hrequests₂, hdb₂⟩ : ∃ w₂,
      FlowStep env w₁ (.approve tab provider state code info) w₂ ∧
      w₂.storage tab = w₁.storage tab ∧ w₂.codes = w₁.codes ++ [⟨code, provider, info⟩] ∧
      w₂.exchanged = w₁.exchanged ∧
      w₂.visits = w₁.visits ++ [⟨env.browserOf tab, ⟨some code, some state⟩⟩] ∧
      w₂.requests = w₁.requests ∧ w₂.db = w₁.db := by
    rw [← @redirectQuery_of_ne_apple env.ids state env.redirectUri provider henabled.1 happle code]
    exact ⟨_, if_pos ⟨hnew.1, hnewCode⟩, rfl, rfl, rfl, rfl, rfl, rfl⟩
  -- the tab comes back and posts the code
  have hland := World.land_kept (supported_ne_empty henabled.1) hnew.1 hfresh.1
    (hstored₂.trans hstored)
  have hback : FlowStep env w₂ (.visit tab w.visits.length) (w₂.land tab ⟨some code, some state⟩) := by
    refine FlowStep.visit (v := ⟨env.browserOf tab, ⟨some code, some state⟩⟩) ?_ rfl
    rw [hvisits₂, hvisits]
    exact List.getElem?_concat_length
  rw [hland, hrequests₂, hrequests] at hback
  -- the code is exchanged, and the user signed in
  have hexchange := World.exchange_new hcodes₂ hnewCode (hexchanged₂ ▸ hunused)
  rw [← hdb, ← hdb₂] at hlogin
  refine ⟨_, .cons hbegun (.cons happroved (.cons hback (.single (FlowStep.answer
    (r := ⟨tab, provider, code⟩) List.getElem?_concat_length
      (World.ssoLogin_eq henabled hexchange hlogin))))), ?_, ?_⟩
  · exact if_pos rfl
  · exact if_pos rfl

namespace Sample

open Auth.Sample (loginSettings tables tables_valid gitHubUser)

/-- Tabs `2 * b` and `2 * b + 1` are of browser `b`. -/
def deployment : Env where
  ids := ⟨none, none, some "app", none, none⟩
  redirectUri := "https://board.example/auth/callback"
  settings := loginSettings
  browserOf tab := tab / 2

/-- A GitHub account. -/
def account : SSOUserInfo := gitHubUser 7 "ann@x.io"

/-- The row of the account. -/
def row : UserRow := newUser "u7" "t1" "github" account

/-- The account's login succeeds in the tables. -/
lemma login_account : ∃ db', tables.login loginSettings (.sso "github" account "t2" "u7") =
    .ok (row, db') :=
  ⟨_, rfl⟩

end Sample

open Sample Auth.Sample in
/-- A flow with a fresh installation. -/
theorem sso_flow_completes_once : ∃ w', Steps (FlowStep deployment) (.initial tables)
      (flowActions (.initial tables) 0 "github" "state-1" "code-1" account "t2" "u7") w' ∧
    w'.session 0 = some ⟨"github", row⟩ ∧ w'.storage 0 = .removed := by
  obtain ⟨db', hlogin⟩ := login_account
  exact @sso_flow_completes deployment _ tables tables_valid .refl 0 "github" "state-1" "code-1" account
    "t2" "u7" row _ (by decide) (by decide) (by decide) (by decide) hlogin

open Sample Auth.Sample in
/-- Somebody opens a callback with a code of his own in a tab that has begun a flow: the flow is over, and
the browser is signed in only after another flow of its own. -/
theorem sso_sessions_approved_lured : ∃ w, Reachable (FlowStep deployment) (.initial tables) w ∧
    ∃ a ∈ w.approvals, a.browser = 0 ∧ row.identity = ("github", a.info.providerId) := by
  have hrun : Steps (FlowStep deployment) (.initial tables)
      [.authorize 0 "github" "state-1", .authorizeElsewhere "github" "state-2",
        .approveElsewhere "github" "code-2" (gitHubUser 8 "eve@x.io"),
        .lure 0 ⟨some "code-2", some "state-2"⟩,
        .authorize 1 "github" "state-3", .approve 1 "github" "state-3" "code-3" account,
        .visit 1 0, .answer 0 "t2" "u7"] _ :=
    .cons rfl (.cons rfl (.cons rfl (.cons rfl (.cons rfl (.cons rfl (.cons rfl (.cons rfl .nil)))))))
  obtain ⟨_, f, _, ap, hap, _, hbrowser, _, _, _, hidentity, _⟩ :=
    @sso_sessions_approved deployment _ tables tables_valid ⟨_, hrun⟩ 0 ⟨"github", row⟩ rfl
  exact ⟨_, ⟨_, hrun⟩, ap, hap, hbrowser, hidentity⟩

end InstantBoard.Client.SsoFlow
