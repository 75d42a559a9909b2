import InstantBoard.Auth.SsoHandlers
import InstantBoard.Auth.Users
import InstantBoard.Lib.Fallible
import InstantBoard.Lib.Transition

/-!
# Logins and their rows

What `sso_login` and `admin_login` do to the users table. An SSO login finds the row of its
identity, or takes the one with its e-mail in the default tenant, or makes a new one; an admin
login keeps to the row `local:{email}`. A login whose flush raises leaves the tables as they were.
`Resolves` lists what `_get_or_create_user` does on tables that keep their constraints.
-/

namespace InstantBoard.Auth

open Fallible Transition

structure LoginSettings where
  enabledSsoProviders : List String
  defaultTenantSlug : String
  defaultTenantName : String

inductive LoginError where
  | validationError
  | invalidOAuthCode
  | db (e : DbError)
deriving DecidableEq

/-- The row of a known identity with the profile brought up to date. -/
def UserRow.refresh (u : UserRow) (info : SSOUserInfo) : UserRow :=
  { u with
    email := (truthy info.email).getD u.email
    name := (truthy info.name).getD u.name
    avatarUrl := pyOr info.avatarUrl u.avatarUrl }

/-- The row found by its e-mail, bound to the identity of the login. -/
def UserRow.rebind (u : UserRow) (provider : String) (info : SSOUserInfo) : UserRow :=
  { u with
    ssoProvider := provider
    ssoProviderId := info.providerId
    name := (truthy info.name).getD u.name
    avatarUrl := pyOr info.avatarUrl u.avatarUrl }

/-- `email` of a new row. -/
def newEmail (provider : String) (info : SSOUserInfo) : String :=
  (truthy info.email).getD (provider ++ "_" ++ info.providerId ++ "@sso.instantboard.dev")

def newUser (id tenantId provider : String) (info : SSOUserInfo) : UserRow where
  id
  tenantId
  email := newEmail provider info
  name := (truthy info.name).getD (provider ++ " User")
  avatarUrl := info.avatarUrl
  ssoProvider := provider
  ssoProviderId := info.providerId
  role := "member"

def defaultTenant (settings : LoginSettings) (id : String) : TenantRow where
  id
  name := settings.defaultTenantName
  slug := settings.defaultTenantSlug
  plan := "free"
  maxSources := 50

def systemTenant : TenantRow where
  id := SYSTEM_TENANT_ID
  name := "System"
  slug := "system"
  plan := "enterprise"
  maxSources := 200

namespace AuthService

/-- The tenant with a slug, made when there is none. -/
def getTenant (db : UserTables) (new : TenantRow) : Except DbError (TenantRow × UserTables) := do
  match ← scalarOneOrNone (db.tenants.filter (·.slug = new.slug)) with
  | some tenant => return (tenant, db)
  | none => return (new, ← db.insertTenant new)

/-- `_get_default_tenant` -/
def getDefaultTenant (settings : LoginSettings) (newId : String) (db : UserTables) :
    Except DbError (TenantRow × UserTables) :=
  getTenant db (defaultTenant settings newId)

/-- `_get_system_tenant` -/
def getSystemTenant (db : UserTables) : Except DbError (TenantRow × UserTables) :=
  getTenant db systemTenant

/-- A row that the e-mail fallback may take. -/
def byEmail (tenantId email : String) (u : UserRow) : Bool :=
  u.email = email ∧ u.tenantId = tenantId ∧ u.ssoProvider ≠ LOCAL_SSO_PROVIDER

/-- The e-mail fallback's query, left out without an e-mail. -/
def existingByEmail (db : UserTables) (tenantId : String) (info : SSOUserInfo) :
    Except DbError (Option UserRow) :=
  match truthy info.email with
  | none => .ok none
  | some email => scalarOneOrNone (db.users.filter (byEmail tenantId email))

/-- `_get_or_create_user`, with the ids of the rows it may make. -/
def getOrCreateUser (settings : LoginSettings) (newTenantId newUserId provider : String)
    (info : SSOUserInfo) (db : UserTables) : Except DbError (UserRow × UserTables) := do
  match ← scalarOneOrNone (db.users.filter (·.identity = (provider, info.providerId))) with
  | some user => return (user.refresh info, ← db.update (user.refresh info))
  | none =>
    let (tenant, db) ← getDefaultTenant settings newTenantId db
    match ← existingByEmail db tenant.id info with
    | some user => return (user.rebind provider info, ← db.update (user.rebind provider info))
    | none =>
      let user := newUser newUserId tenant.id provider info
      return (user, ← db.insert user)

/-- `sso_login` from the profile on. -/
def ssoLogin (settings : LoginSettings) (newTenantId newUserId provider : String)
    (info : SSOUserInfo) (db : UserTables) : Except LoginError (UserRow × UserTables) :=
  if ¬ (provider ∈ SUPPORTED_PROVIDERS ∧ provider ∈ settings.enabledSsoProviders) then
    .error .validationError
  else if info.providerId = "" then .error .invalidOAuthCode
  else (getOrCreateUser settings newTenantId newUserId provider info db).mapError .db

/-- `_local_provider_id` -/
def localProviderId (email : String) : String :=
  LOCAL_SSO_PROVIDER ++ ":" ++ email

/-- `email.split("@", 1)[0] or "Admin"`, cut to its column. -/
def adminName (email : String) : String :=
  let name := String.ofList (email.toList.takeWhile (· ≠ '@'))
  String.ofList ((if name = "" then "Admin" else name).toList.take 100)

def newAdmin (id tenantId email : String) : UserRow where
  id
  tenantId
  email
  name := adminName email
  avatarUrl := none
  ssoProvider := LOCAL_SSO_PROVIDER
  ssoProviderId := localProviderId email
  role := "admin"

/-- `_upsert_admin_user` -/
def upsertAdminUser (newUserId email : String) (user : Option UserRow) (db : UserTables) :
    Except DbError (UserRow × UserTables) := do
  match user with
  | some user =>
    let user := { user with email, role := "admin" }
    return (user, ← db.update user)
  | none =>
    let (tenant, db) ← getSystemTenant db
    let user := newAdmin newUserId tenant.id email
    return (user, ← db.insert user)

/-- `admin_login` on the tables, once the password is accepted. -/
def adminLogin (newUserId email : String) (db : UserTables) :
    Except DbError (UserRow × UserTables) := do
  let user ← scalarOneOrNone
    (db.users.filter (·.identity = (LOCAL_SSO_PROVIDER, localProviderId email)))
  upsertAdminUser newUserId email user db

end AuthService

/-! ## Runs of logins -/

inductive LoginLabel where
  | sso (provider : String) (info : SSOUserInfo) (newTenantId newUserId : String)
  | admin (email newUserId : String)

/-- The row a login ends with, and the tables. -/
def UserTables.login (settings : LoginSettings) (db : UserTables) :
    LoginLabel → Except LoginError (UserRow × UserTables)
  | .sso provider info newTenantId newUserId =>
    AuthService.ssoLogin settings newTenantId newUserId provider info db
  | .admin email newUserId => (AuthService.adminLogin newUserId email db).mapError .db

/-- A login commits its tables, or is rolled back. -/
def UserTables.next (settings : LoginSettings) (db : UserTables) (l : LoginLabel) : UserTables :=
  match db.login settings l with
  | .ok (_, db') => db'
  | .error _ => db

def LoginStep (settings : LoginSettings) (db : UserTables) (l : LoginLabel) (db' : UserTables) :
    Prop :=
  db' = db.next settings l

/-! ## What a login finds -/

namespace UserTables

/-- Nobody has the identity, or exactly one row does. -/
lemma Valid.byIdentity {db : UserTables} (h : db.Valid) (i : String × String) :
    (∃ u ∈ db.users, u.identity = i ∧
        scalarOneOrNone (db.users.filter (·.identity = i)) = .ok (some u)) ∨
      (∀ u ∈ db.users, u.identity ≠ i) ∧
        scalarOneOrNone (db.users.filter (·.identity = i)) = .ok none := by
  rcases h.identities.scalarOneOrNone (p := fun u => decide (u.identity = i)) (k := i)
    (fun u _ hu => of_decide_eq_true hu) with ⟨u, hu, hi, heq⟩ | ⟨hno, heq⟩
  · exact .inl ⟨u, hu, of_decide_eq_true hi, scalarOneOrNone_ok heq⟩
  · exact .inr ⟨fun u hu => of_decide_eq_false (hno u hu), scalarOneOrNone_ok heq⟩

/-- The query for the tenant with a slug finds the one there is, or none. -/
lemma Valid.bySlug {db : UserTables} (h : db.Valid) (slug : String) :
    (∃ t ∈ db.tenants, t.slug = slug ∧
        scalarOneOrNone (db.tenants.filter (·.slug = slug)) = .ok (some t)) ∨
      (∀ t ∈ db.tenants, t.slug ≠ slug) ∧
        scalarOneOrNone (db.tenants.filter (·.slug = slug)) = .ok none := by
  rcases h.slugs.scalarOneOrNone (p := fun t => decide (t.slug = slug)) (k := slug)
    (fun t _ ht => of_decide_eq_true ht) with ⟨t, ht, hs, heq⟩ | ⟨hno, heq⟩
  · exact .inl ⟨t, ht, of_decide_eq_true hs, scalarOneOrNone_ok heq⟩
  · exact .inr ⟨fun t ht => of_decide_eq_false (hno t ht), scalarOneOrNone_ok heq⟩

end UserTables

namespace AuthService

/-- What the query by e-mail selects. -/
lemma byEmail_eq_true {tenantId email : String} {u : UserRow} : byEmail tenantId email u = true ↔
    u.email = email ∧ u.tenantId = tenantId ∧ u.ssoProvider ≠ LOCAL_SSO_PROVIDER := by
  simp [byEmail]

/-- The fallback finds the one row with the address, or none it may take. -/
lemma existingByEmail_cases {db : UserTables} (h : db.Valid) (tenantId : String)
    (info : SSOUserInfo) :
    (∃ u ∈ db.users, ∃ email, truthy info.email = some email ∧ byEmail tenantId email u = true ∧
        existingByEmail db tenantId info = .ok (some u)) ∨
      (∀ email, truthy info.email = some email → ∀ u ∈ db.users,
        byEmail tenantId email u = false) ∧ existingByEmail db tenantId info = .ok none := by
  unfold existingByEmail
  cases htruthy : truthy info.email with
  | none => exact .inr ⟨(fun _ h => by cases h), rfl⟩
  | some email =>
    rcases h.addresses.scalarOneOrNone (p := byEmail tenantId email) (k := (tenantId, email))
      (fun u _ hu => by
        obtain ⟨rfl, rfl, _⟩ := byEmail_eq_true.1 hu
        rfl) with ⟨u, hu, hby, heq⟩ | ⟨hno, heq⟩
    · exact .inl ⟨u, hu, email, rfl, hby, scalarOneOrNone_ok heq⟩
    · right
      refine ⟨?_, scalarOneOrNone_ok heq⟩
      intro email' he
      cases he
      exact hno

/-- The tenant is there, or is inserted. -/
lemma getTenant_cases {db : UserTables} (h : db.Valid) (new : TenantRow) :
    (∃ t ∈ db.tenants, t.slug = new.slug ∧ getTenant db new = .ok (t, db)) ∨
      (∀ t ∈ db.tenants, t.slug ≠ new.slug) ∧
        getTenant db new = (db.insertTenant new).map fun db' => (new, db') := by
  unfold getTenant
  rcases h.bySlug new.slug with ⟨t, ht, hslug, heq⟩ | ⟨hno, heq⟩
  · left
    refine ⟨t, ht, hslug, ?_⟩
    rw [heq]
    rfl
  · right
    refine ⟨hno, ?_⟩
    rw [heq]
    cases db.insertTenant new with
    | error e => rfl
    | ok db' => rfl

/-- What is known of a tenant that was found or made. -/
structure TenantFound (db : UserTables) (new t : TenantRow) (db' : UserTables) : Prop where
  valid : db'.Valid
  users : db'.users = db.users
  mem : t ∈ db'.tenants
  slug : t.slug = new.slug
  kept : ∀ t' ∈ db.tenants, t' ∈ db'.tenants
  origin : t ∈ db.tenants ∨ t = new ∧ ∀ t' ∈ db.tenants, t'.id ≠ new.id

/-- The tenant of a login is found or made. -/
lemma getTenant_found {db db' : UserTables} (h : db.Valid) {new t : TenantRow}
    (ht : getTenant db new = .ok (t, db')) : TenantFound db new t db' := by
  rcases getTenant_cases h new with ⟨t', hmem, hslug, heq⟩ | ⟨_, heq⟩
  · rw [heq] at ht
    cases ht
    exact ⟨h, rfl, hmem, hslug, fun _ h => h, .inl hmem⟩
  · rw [heq] at ht
    cases hins : db.insertTenant new with
    | error e =>
      rw [hins] at ht
      cases ht
    | ok db₁ =>
      rw [hins] at ht
      cases ht
      have hvalid := h.insertTenant hins
      obtain ⟨_, ⟨_, hfree⟩, rfl⟩ := flush_eq_ok.1 hins
      exact ⟨hvalid, rfl, List.mem_append_right _ (List.mem_singleton.2 rfl), rfl,
        fun t' ht' => List.mem_append_left _ ht', .inr ⟨rfl, fun t' ht' => (hfree t' ht').1⟩⟩

/-- What `_get_or_create_user` does. -/
inductive Resolves (settings : LoginSettings) (newTenantId newUserId provider : String)
    (info : SSOUserInfo) (db : UserTables) : Except DbError (UserRow × UserTables) → Prop where
  | found {u} : u ∈ db.users → u.identity = (provider, info.providerId) →
      Resolves settings newTenantId newUserId provider info db
        ((db.update (u.refresh info)).map fun db' => (u.refresh info, db'))
  | noTenant {e} : (∀ u ∈ db.users, u.identity ≠ (provider, info.providerId)) →
      getDefaultTenant settings newTenantId db = .error e →
      Resolves settings newTenantId newUserId provider info db (.error e)
  | rebound {t db₁ u email} : (∀ u ∈ db.users, u.identity ≠ (provider, info.providerId)) →
      getDefaultTenant settings newTenantId db = .ok (t, db₁) → u ∈ db.users →
      truthy info.email = some email → byEmail t.id email u = true →
      Resolves settings newTenantId newUserId provider info db
        ((db₁.update (u.rebind provider info)).map fun db' => (u.rebind provider info, db'))
  | created {t db₁} : (∀ u ∈ db.users, u.identity ≠ (provider, info.providerId)) →
      getDefaultTenant settings newTenantId db = .ok (t, db₁) →
      (∀ email, truthy info.email = some email → ∀ u ∈ db.users, byEmail t.id email u = false) →
      Resolves settings newTenantId newUserId provider info db
        ((db₁.insert (newUser newUserId t.id provider info)).map fun db' =>
          (newUser newUserId t.id provider info, db'))

/-- On valid tables every login takes one of the four ways. -/
lemma getOrCreateUser_resolves {db : UserTables} (h : db.Valid) (settings : LoginSettings)
    (newTenantId newUserId provider : String) (info : SSOUserInfo) :
    Resolves settings newTenantId newUserId provider info db
      (getOrCreateUser settings newTenantId newUserId provider info db) := by
  unfold getOrCreateUser
  rcases h.byIdentity (provider, info.providerId) with ⟨u, hu, hi, heq⟩ | ⟨hno, heq⟩
  · rw [heq]
    show Resolves _ _ _ _ _ _ (do return (u.refresh info, ← db.update (u.refresh info)))
    rw [bind_pair]
    exact .found hu hi
  · rw [heq]
    cases htenant : getDefaultTenant settings newTenantId db with
    | error e => exact .noTenant hno htenant
    | ok found =>
      obtain ⟨t, db₁⟩ := found
      have hfound := getTenant_found h htenant
      show Resolves _ _ _ _ _ _ (do
        match ← existingByEmail db₁ t.id info with
        | some user => return (user.rebind provider info, ← db₁.update (user.rebind provider info))
        | none =>
          let user := newUser newUserId t.id provider info
          return (user, ← db₁.insert user))
      rcases existingByEmail_cases hfound.valid t.id info with
        ⟨u, hu, email, hemail, hby, hex⟩ | ⟨hnone, hex⟩
      · rw [hex]
        show Resolves _ _ _ _ _ _
          (do return (u.rebind provider info, ← db₁.update (u.rebind provider info)))
        rw [bind_pair]
        exact .rebound hno htenant (hfound.users ▸ hu) hemail hby
      · rw [hex]
        show Resolves _ _ _ _ _ _ (do
          return (newUser newUserId t.id provider info,
            ← db₁.insert (newUser newUserId t.id provider info)))
        rw [bind_pair]
        refine .created hno htenant ?_
        rw [← hfound.users]
        exact hnone

end AuthService

/-! ## Sample values -/

namespace Sample

def loginSettings : LoginSettings where
  enabledSsoProviders := ["google", "github"]
  defaultTenantSlug := "default"
  defaultTenantName := "Default Tenant"

/-- The tables as seeded: both tenants, no users. -/
def tables : UserTables where
  tenants := [systemTenant, defaultTenant loginSettings "t1"]
  users := []

/-- The tables meet their constraints. -/
lemma tables_valid : tables.Valid where
  tenantIds := by decide +kernel
  slugs := by decide +kernel
  ids := Table.unique_nil
  addresses := Table.unique_nil
  identities := Table.unique_nil
  fits := fun _ hu => absurd hu List.not_mem_nil
  tenants := fun _ hu => absurd hu List.not_mem_nil

/-- A profile of GitHub with a public e-mail. -/
def gitHubUser (id : Nat) (email : String) : SSOUserInfo :=
  GitHubSSOHandler.getUserInfo
    { id := some id, email := some email, name := some "Ann", login := some "ann", avatarUrl := none }
    none

end Sample

end InstantBoard.Auth
