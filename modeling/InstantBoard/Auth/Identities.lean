import InstantBoard.Auth.SsoLogin
import InstantBoard.Lib.Fallible

/-!
# Local and SSO identities

The two ways to log in keep to rows of their own: an SSO login never touches a row of the local
provider, moves an account to another identity only inside the default tenant, and changes nobody's
role or tenant; an admin login touches no row but the one of its e-mail (`logins_apart`). This holds
on any tables that keep their constraints, so in particular after any run of logins.
-/

namespace InstantBoard.Auth

open Fallible Transition

/-- The tenant with the slug has this id. -/
def UserTables.HasTenant (db : UserTables) (slug id : String) : Prop :=
  ∃ t ∈ db.tenants, t.slug = slug ∧ t.id = id

/-- What an SSO login may do that ends with the row `u`. -/
structure SsoRules (settings : LoginSettings) (db db' : UserTables) (u : UserRow) : Prop where
  returned : u ∈ db'.users ∧ u.ssoProvider ≠ LOCAL_SSO_PROVIDER ∧
    ∀ r ∈ db.users, r.ssoProvider = LOCAL_SSO_PROVIDER → r.id ≠ u.id
  locals : ∀ r : UserRow, r.ssoProvider = LOCAL_SSO_PROVIDER → (r ∈ db'.users ↔ r ∈ db.users)
  kept : ∀ r ∈ db.users, ∃ r' ∈ db'.users,
    r'.id = r.id ∧ r'.role = r.role ∧ r'.tenantId = r.tenantId
  rebound : ∀ r ∈ db.users, ∀ r' ∈ db'.users, r'.id = r.id → r'.identity ≠ r.identity →
    db'.HasTenant settings.defaultTenantSlug r.tenantId
  created : ∀ r' ∈ db'.users, (∃ r ∈ db.users, r.id = r'.id) ∨
    r'.role = "member" ∧ db'.HasTenant settings.defaultTenantSlug r'.tenantId

/-- What a login may do to the tables. -/
def UserTables.Respects (settings : LoginSettings) (db : UserTables) : LoginLabel → Prop
  | .sso provider info newTenantId newUserId =>
    match db.login settings (.sso provider info newTenantId newUserId) with
    | .ok (u, db') => SsoRules settings db db' u
    | .error _ => db.next settings (.sso provider info newTenantId newUserId) = db
  | .admin email newUserId =>
    -- rows of any other key are neither created nor modified
    ∀ r : UserRow, r.identity ≠ (LOCAL_SSO_PROVIDER, AuthService.localProviderId email) →
      (r ∈ (db.next settings (.admin email newUserId)).users ↔ r ∈ db.users)

/-- An SSO login that succeeds is one of a supported provider. -/
lemma ssoLogin_eq_ok {settings : LoginSettings} {newTenantId newUserId provider : String}
    {info : SSOUserInfo} {db db' : UserTables} {u : UserRow} :
    AuthService.ssoLogin settings newTenantId newUserId provider info db = .ok (u, db') ↔
      (provider ∈ SUPPORTED_PROVIDERS ∧ provider ∈ settings.enabledSsoProviders) ∧
        info.providerId ≠ "" ∧
        AuthService.getOrCreateUser settings newTenantId newUserId provider info db =
          .ok (u, db') := by
  unfold AuthService.ssoLogin
  split
  · rename_i h
    exact ⟨(fun h => by cases h), fun h' => absurd h'.1 h⟩
  · rename_i h
    split
    · rename_i hid
      exact ⟨(fun h => by cases h), fun h' => absurd hid h'.2.1⟩
    · rename_i hid
      rw [mapError_eq_ok]
      exact ⟨fun h' => ⟨Decidable.not_not.1 h, hid, h'⟩, fun h' => h'.2.2⟩

/-- No supported provider is the local one. -/
lemma ne_local_of_supported {provider : String} (h : provider ∈ SUPPORTED_PROVIDERS) :
    provider ≠ LOCAL_SSO_PROVIDER := by
  rintro rfl
  exact absurd h (by decide)

/-! ## SSO logins -/

/-- The ways in which an SSO login succeeds, with the row it ends with. -/
inductive SsoWay (settings : LoginSettings) (newTenantId newUserId provider : String)
    (info : SSOUserInfo) (db db' : UserTables) : UserRow → Prop where
  | found {old} : old ∈ db.users → old.identity = (provider, info.providerId) →
      db.update (old.refresh info) = .ok db' →
      SsoWay settings newTenantId newUserId provider info db db' (old.refresh info)
  | rebound {t db₁ old email} : (∀ u ∈ db.users, u.identity ≠ (provider, info.providerId)) →
      AuthService.TenantFound db (defaultTenant settings newTenantId) t db₁ → old ∈ db.users →
      truthy info.email = some email → AuthService.byEmail t.id email old = true →
      db₁.update (old.rebind provider info) = .ok db' →
      SsoWay settings newTenantId newUserId provider info db db' (old.rebind provider info)
  | created {t db₁} : (∀ u ∈ db.users, u.identity ≠ (provider, info.providerId)) →
      AuthService.TenantFound db (defaultTenant settings newTenantId) t db₁ →
      (∀ email, truthy info.email = some email →
        ∀ u ∈ db.users, AuthService.byEmail t.id email u = false) →
      db₁.insert (newUser newUserId t.id provider info) = .ok db' →
      SsoWay settings newTenantId newUserId provider info db db'
        (newUser newUserId t.id provider info)

/-- A login goes one of the three ways. -/
lemma ssoWay_of_login {settings : LoginSettings} {newTenantId newUserId provider : String}
    {info : SSOUserInfo} {db db' : UserTables} {u : UserRow} (hv : db.Valid)
    (h : AuthService.ssoLogin settings newTenantId newUserId provider info db = .ok (u, db')) :
    SsoWay settings newTenantId newUserId provider info db db' u := by
  obtain ⟨_, _, hget⟩ := ssoLogin_eq_ok.1 h
  have hway := AuthService.getOrCreateUser_resolves hv settings newTenantId newUserId provider info
  rw [hget] at hway
  generalize hres : (Except.ok (u, db') : Except DbError (UserRow × UserTables)) = res at hway
  cases hway with
  | found hold hi =>
    obtain ⟨_, hu, heq⟩ := map_eq_ok.1 hres.symm
    cases heq
    exact .found hold hi hu
  | noTenant => cases hres
  | rebound hno htenant hold hemail hby =>
    obtain ⟨_, hu, heq⟩ := map_eq_ok.1 hres.symm
    cases heq
    exact .rebound hno (AuthService.getTenant_found hv htenant) hold hemail hby hu
  | created hno htenant hnone =>
    obtain ⟨_, hu, heq⟩ := map_eq_ok.1 hres.symm
    cases heq
    exact .created hno (AuthService.getTenant_found hv htenant) hnone hu

/-- A row is written in its place, with its role and tenant, by one that is not local over one
that is not. -/
lemma SsoRules.replace {settings : LoginSettings} {db db₁ db' : UserTables} (hv : db.Valid)
    {old u : UserRow} (hold : old ∈ db.users) (husers : db₁.users = db.users)
    (hu : db₁.update u = .ok db') (hid : old.id = u.id) (hrole : u.role = old.role)
    (htenant : u.tenantId = old.tenantId) (hlocal : old.ssoProvider ≠ LOCAL_SSO_PROVIDER)
    (hlocal' : u.ssoProvider ≠ LOCAL_SSO_PROVIDER)
    (hrebound : u.identity ≠ old.identity →
      db₁.HasTenant settings.defaultTenantSlug old.tenantId) :
    SsoRules settings db db' u := by
  obtain ⟨_, _, rfl⟩ := flush_eq_ok.1 hu
  have mem : ∀ r, r ∈ Table.replace (·.id) u db₁.users ↔
      r = u ∨ r ∈ db.users ∧ r.id ≠ u.id := by
    intro r
    rw [Table.mem_replace, husers]
    constructor
    · rintro (⟨hr, _⟩ | hr)
      · exact .inl hr
      · exact .inr hr
    · rintro (hr | hr)
      · exact .inl ⟨hr, old, hold, hid⟩
      · exact .inr hr
  -- the row written over is the only one with its id
  have same : ∀ r ∈ db.users, r.id = u.id → r = old :=
    fun r hr heq => hv.ids.eq_of_mem hr hold (heq.trans hid.symm)
  have localId : ∀ r ∈ db.users, r.ssoProvider = LOCAL_SSO_PROVIDER → r.id ≠ u.id := by
    intro r hr hl heq
    rw [same r hr heq] at hl
    exact hlocal hl
  refine ⟨⟨(mem u).2 (.inl rfl), hlocal', localId⟩, ?_, ?_, ?_, ?_⟩
  · intro r hl
    rw [mem]
    constructor
    · rintro (rfl | hr)
      · exact absurd hl hlocal'
      · exact hr.1
    · exact fun hr => .inr ⟨hr, localId r hr hl⟩
  · intro r hr
    by_cases heq : r.id = u.id
    · have := same r hr heq
      subst this
      exact ⟨u, (mem u).2 (.inl rfl), heq.symm, hrole, htenant⟩
    · exact ⟨r, (mem r).2 (.inr ⟨hr, heq⟩), rfl, rfl, rfl⟩
  · intro r hr r' hr' heq hne
    rcases (mem r').1 hr' with rfl | ⟨hr', _⟩
    · have := same r hr heq.symm
      subst this
      exact hrebound hne
    · exact absurd (congrArg UserRow.identity (hv.ids.eq_of_mem hr' hr heq)) hne
  · intro r' hr'
    rcases (mem r').1 hr' with rfl | ⟨hr', _⟩
    · exact .inl ⟨old, hold, hid⟩
    · exact .inl ⟨r', hr', rfl⟩

/-- A member of the default tenant is added. -/
lemma SsoRules.append {settings : LoginSettings} {db db₁ db' : UserTables} {u : UserRow}
    (hv : db.Valid) (husers : db₁.users = db.users) (hu : db₁.insert u = .ok db')
    (hrole : u.role = "member") (hlocal : u.ssoProvider ≠ LOCAL_SSO_PROVIDER)
    (htenant : db₁.HasTenant settings.defaultTenantSlug u.tenantId) :
    SsoRules settings db db' u := by
  obtain ⟨_, ⟨_, _, hnew, _⟩, rfl⟩ := flush_eq_ok.1 hu
  rw [husers] at hnew ⊢
  have mem : ∀ r, r ∈ db.users ++ [u] ↔ r ∈ db.users ∨ r = u := by
    intro r
    rw [List.mem_append, List.mem_singleton]
  refine ⟨⟨(mem u).2 (.inr rfl), hlocal, fun r hr _ => hnew r hr⟩, ?_, ?_, ?_, ?_⟩
  · intro r hl
    rw [mem]
    constructor
    · rintro (hr | rfl)
      · exact hr
      · exact absurd hl hlocal
    · exact .inl
  · intro r hr
    exact ⟨r, (mem r).2 (.inl hr), rfl, rfl, rfl⟩
  · intro r hr r' hr' heq hne
    rcases (mem r').1 hr' with hr' | rfl
    · exact absurd (congrArg UserRow.identity (hv.ids.eq_of_mem hr' hr heq)) hne
    · exact absurd heq.symm (hnew r hr)
  · intro r' hr'
    rcases (mem r').1 hr' with hr' | rfl
    · exact .inl ⟨r', hr', rfl⟩
    · exact .inr ⟨hrole, htenant⟩

/-- A login keeps the rules. -/
lemma ssoRules_of_login {settings : LoginSettings} {newTenantId newUserId provider : String}
    {info : SSOUserInfo} {db db' : UserTables} {u : UserRow} (hv : db.Valid)
    (h : AuthService.ssoLogin settings newTenantId newUserId provider info db = .ok (u, db')) :
    SsoRules settings db db' u := by
  obtain ⟨⟨hsupported, _⟩, _, _⟩ := ssoLogin_eq_ok.1 h
  have hlocal := ne_local_of_supported hsupported
  cases ssoWay_of_login hv h with
  | @found old hold hi hu =>
    have hprov : old.ssoProvider = provider := congrArg Prod.fst hi
    refine SsoRules.replace hv hold rfl hu rfl rfl rfl ?_ ?_ (fun hne => absurd rfl hne)
    · rw [hprov]
      exact hlocal
    · show old.ssoProvider ≠ _
      rw [hprov]
      exact hlocal
  | @rebound t db₁ old email _ hfound hold _ hby hu =>
    obtain ⟨_, hid, hprov⟩ := AuthService.byEmail_eq_true.1 hby
    refine SsoRules.replace hv hold hfound.users hu rfl rfl rfl hprov hlocal (fun _ => ?_)
    exact ⟨t, hfound.mem, hfound.slug, hid.symm⟩
  | @created t db₁ _ hfound _ hu =>
    exact SsoRules.append hv hfound.users hu rfl hlocal ⟨t, hfound.mem, hfound.slug, rfl⟩

/-! ## Admin logins -/

/-- What an admin login does: it changes the row of its e-mail or adds one. -/
lemma adminLogin_cases {db db' : UserTables} (hv : db.Valid) {newUserId email : String}
    {u : UserRow} (h : AuthService.adminLogin newUserId email db = .ok (u, db')) :
    u.identity = (LOCAL_SSO_PROVIDER, AuthService.localProviderId email) ∧
      ((∃ old ∈ db.users, old.id = u.id ∧ old.tenantId = u.tenantId ∧ old.identity = u.identity ∧
          db.update u = .ok db') ∨
        ∃ t db₁, AuthService.TenantFound db systemTenant t db₁ ∧ db₁.insert u = .ok db') := by
  unfold AuthService.adminLogin at h
  rcases hv.byIdentity (LOCAL_SSO_PROVIDER, AuthService.localProviderId email) with
    ⟨old, hold, hi, heq⟩ | ⟨_, heq⟩
  · rw [heq] at h
    obtain ⟨_, hfound, h⟩ := bind_eq_ok.1 h
    cases hfound
    obtain ⟨db'', hu, h⟩ := bind_eq_ok.1 h
    cases h
    exact ⟨hi, .inl ⟨old, hold, rfl, rfl, rfl, hu⟩⟩
  · rw [heq] at h
    obtain ⟨_, hfound, h⟩ := bind_eq_ok.1 h
    cases hfound
    obtain ⟨⟨t, db₁⟩, htenant, h⟩ := bind_eq_ok.1 h
    obtain ⟨db'', hu, h⟩ := bind_eq_ok.1 h
    cases h
    exact ⟨rfl, .inr ⟨t, db₁, AuthService.getTenant_found hv htenant, hu⟩⟩

/-- An admin login leaves the rows of every other key alone. -/
lemma adminLogin_others {db db' : UserTables} (hv : db.Valid) {newUserId email : String}
    {u : UserRow} (h : AuthService.adminLogin newUserId email db = .ok (u, db')) {r : UserRow}
    (hr : r.identity ≠ (LOCAL_SSO_PROVIDER, AuthService.localProviderId email)) :
    r ∈ db'.users ↔ r ∈ db.users := by
  obtain ⟨hkey, ⟨old, hold, hid, _, hi, hu⟩ | ⟨t, db₁, hfound, hu⟩⟩ := adminLogin_cases hv h
  · obtain ⟨_, _, rfl⟩ := flush_eq_ok.1 hu
    rw [Table.mem_replace]
    constructor
    · rintro (⟨rfl, _⟩ | ⟨hmem, _⟩)
      · exact absurd hkey hr
      · exact hmem
    · intro hmem
      right
      refine ⟨hmem, ?_⟩
      intro heq
      have := hv.ids.eq_of_mem hmem hold (heq.trans hid.symm)
      subst this
      exact hr (hi.trans hkey)
  · obtain ⟨_, _, rfl⟩ := flush_eq_ok.1 hu
    rw [List.mem_append, List.mem_singleton, hfound.users]
    constructor
    · rintro (hmem | rfl)
      · exact hmem
      · exact absurd hkey hr
    · exact .inl

/-! ## Every run of logins -/

/-- The constraints hold after a login. -/
lemma UserTables.Valid.login {settings : LoginSettings} {db db' : UserTables} (hv : db.Valid)
    {l : LoginLabel} {u : UserRow} (h : db.login settings l = .ok (u, db')) : db'.Valid := by
  cases l with
  | admin email newUserId =>
    obtain ⟨_, ⟨old, hold, hid, htenant, _, hu⟩ | ⟨t, db₁, hfound, hu⟩⟩ :=
      adminLogin_cases hv (mapError_eq_ok.1 h)
    · exact hv.update hold hid htenant hu
    · exact hfound.valid.insert hu
  | sso provider info newTenantId newUserId =>
    cases ssoWay_of_login hv h with
    | @found old hold _ hu => exact hv.update (u := old.refresh info) hold rfl rfl hu
    | @rebound t db₁ old email _ hfound hold _ _ hu =>
      have hold' : old ∈ db₁.users := by
        rw [hfound.users]
        exact hold
      exact hfound.valid.update (u := old.rebind provider info) hold' rfl rfl hu
    | created _ hfound _ hu => exact hfound.valid.insert hu

/-- A login keeps the constraints. -/
lemma LoginStep.valid {settings : LoginSettings} {db db' : UserTables} {l : LoginLabel}
    (hv : db.Valid) (hst : LoginStep settings db l db') : db'.Valid := by
  rw [hst]
  unfold UserTables.next
  split
  · rename_i h
    exact hv.login h
  · exact hv

/-- After any run of logins on tables that keep their constraints, every login keeps to the rows
of its own kind. -/
theorem logins_apart {settings : LoginSettings} {db₀ db : UserTables} {ls : List LoginLabel}
    (hv : db₀.Valid) (run : Steps (LoginStep settings) db₀ ls db) (l : LoginLabel) :
    db.Respects settings l := by
  have hvalid : db.Valid := run.invariant (fun h hst => hst.valid h) hv
  cases l with
  | sso provider info newTenantId newUserId =>
    show (match db.login settings (.sso provider info newTenantId newUserId) with
      | .ok (u, db') => SsoRules settings db db' u
      | .error _ => db.next settings (.sso provider info newTenantId newUserId) = db)
    cases h : db.login settings (.sso provider info newTenantId newUserId) with
    | ok found => exact ssoRules_of_login hvalid h
    | error e =>
      show db.next settings _ = db
      unfold UserTables.next
      rw [h]
  | admin email newUserId =>
    intro r hr
    unfold UserTables.next
    split
    · rename_i u db' h
      exact adminLogin_others hvalid (mapError_eq_ok.1 h) hr
    · exact Iff.rfl

/-- An SSO login with the admin's e-mail, on the tables that an SSO and an admin login left. -/
theorem logins_apart_same_email :
    ((Sample.tables.next Sample.loginSettings
        (.sso "github" (Sample.gitHubUser 1 "root@x.io") "t2" "u1")).next Sample.loginSettings
          (.admin "root@x.io" "u2")).Respects Sample.loginSettings
            (.sso "google" (Sample.gitHubUser 2 "root@x.io") "t2" "u3") :=
  logins_apart Sample.tables_valid (.cons rfl (.cons rfl .nil)) _

end InstantBoard.Auth
