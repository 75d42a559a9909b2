import InstantBoard.Auth.Identities

/-!
# One account for each identity

An SSO login writes the e-mail of its profile into a row whose address is unique in its tenant, and
looks accounts up by that e-mail as well. A login is served from the caller's own row, as it should
be, exactly when no row of another identity has the e-mail it writes (`serves_iff`): otherwise the
flush raises, or the login takes the other row over. The fallback is meant to take a row over; the
login still ends with one row for its identity unless the address it writes is another row's. In a
run in which no login meets another identity's e-mail every account stays with its identity.
-/

namespace InstantBoard.Auth

open Fallible Transition

/-- The profile's values fit their columns. -/
structure SSOUserInfo.Fits (provider : String) (info : SSOUserInfo) : Prop where
  providerId : varchar 255 info.providerId = true
  email : varchar 255 (newEmail provider info) = true
  name : (truthy info.name).all (varchar 100) = true
  avatarUrl : info.avatarUrl.all storable = true

/-- The profile's values fit the row they are written into. -/
structure SSOUserInfo.FitsRow (info : SSOUserInfo) : Prop where
  providerId : varchar 255 info.providerId = true
  name : (truthy info.name).all (varchar 100) = true
  avatarUrl : (truthy info.avatarUrl).all storable = true

/-- A login that reaches the tables with values that fit, and with new ids for what it makes. -/
structure UserTables.Admissible (settings : LoginSettings) (db : UserTables)
    (newTenantId newUserId provider : String) (info : SSOUserInfo) : Prop where
  supported : provider ∈ SUPPORTED_PROVIDERS ∧ provider ∈ settings.enabledSsoProviders
  named : info.providerId ≠ ""
  fits : info.Fits provider
  freshTenant : ∀ t ∈ db.tenants, t.id ≠ newTenantId
  freshUser : ∀ u ∈ db.users, u.id ≠ newUserId

/-- The login ends with exactly one row for its identity. -/
def UserTables.EndsWithRow (settings : LoginSettings) (db : UserTables)
    (newTenantId newUserId provider : String) (info : SSOUserInfo) : Prop :=
  ∃ u db', AuthService.ssoLogin settings newTenantId newUserId provider info db = .ok (u, db') ∧
    u ∈ db'.users ∧ u.identity = (provider, info.providerId) ∧
    ∀ r ∈ db'.users, r.identity = (provider, info.providerId) → r = u

/-- The login ends with exactly one row for its identity, which is the one the identity had or one
that was nobody's. -/
def UserTables.Serves (settings : LoginSettings) (db : UserTables)
    (newTenantId newUserId provider : String) (info : SSOUserInfo) : Prop :=
  ∃ u db', AuthService.ssoLogin settings newTenantId newUserId provider info db = .ok (u, db') ∧
    u ∈ db'.users ∧ u.identity = (provider, info.providerId) ∧
    (∀ r ∈ db'.users, r.identity = (provider, info.providerId) → r = u) ∧
    (∀ r ∈ db.users, r.id = u.id ↔ r.identity = (provider, info.providerId))

/-- The address that the login writes is no other row's. A row that the fallback takes keeps its
own. -/
structure UserTables.AddressFree (settings : LoginSettings) (db : UserTables) (provider : String)
    (info : SSOUserInfo) : Prop where
  known : ∀ u ∈ db.users, u.identity = (provider, info.providerId) →
    ∀ r ∈ db.users, r.identity ≠ (provider, info.providerId) →
      r.address ≠ (u.tenantId, (truthy info.email).getD u.email)
  new : (∀ u ∈ db.users, u.identity ≠ (provider, info.providerId)) →
    ∀ t ∈ db.tenants, t.slug = settings.defaultTenantSlug →
      (∀ email, truthy info.email = some email →
        ∀ u ∈ db.users, AuthService.byEmail t.id email u = false) →
      ∀ r ∈ db.users, r.address ≠ (t.id, newEmail provider info)

/-- No row of another identity has the e-mail that the login writes. -/
structure UserTables.EmailFree (settings : LoginSettings) (db : UserTables) (provider : String)
    (info : SSOUserInfo) : Prop where
  known : ∀ u ∈ db.users, u.identity = (provider, info.providerId) →
    ∀ r ∈ db.users, r.identity ≠ (provider, info.providerId) →
      r.address ≠ (u.tenantId, (truthy info.email).getD u.email)
  new : (∀ u ∈ db.users, u.identity ≠ (provider, info.providerId)) →
    ∀ t ∈ db.tenants, t.slug = settings.defaultTenantSlug →
      ∀ r ∈ db.users, r.address ≠ (t.id, newEmail provider info)

/-- The settings fit the tenant's columns. -/
def LoginSettings.Fits (settings : LoginSettings) : Prop :=
  varchar 100 settings.defaultTenantName = true ∧ varchar 50 settings.defaultTenantSlug = true

/-! ## Values that fit -/

/-- A row fits its columns if each value does. -/
lemma fits_iff {u : UserRow} : u.fits = true ↔ varchar 255 u.email = true ∧
    varchar 100 u.name = true ∧ u.avatarUrl.all storable = true ∧
    varchar 20 u.ssoProvider = true ∧ varchar 255 u.ssoProviderId = true ∧
    varchar 20 u.role = true := by
  simp only [UserRow.fits, Bool.and_eq_true]
  tauto

/-- What holds of an optional text holds of it where it is truthy. -/
lemma all_truthy {s : Option String} {p : String → Bool} (h : s.all p = true) :
    (truthy s).all p = true := by
  cases s with
  | none => rfl
  | some a =>
    by_cases ha : a = ""
    · simp [truthy, Option.filter, ha]
    · simpa [truthy, Option.filter, ha] using h

/-- What holds of both texts holds of `a or b`. -/
lemma all_pyOr {a b : Option String} {p : String → Bool} (ha : a.all p = true)
    (hb : b.all p = true) : (pyOr a b).all p = true := by
  have ht := all_truthy ha
  unfold pyOr
  cases h : truthy a with
  | none => exact hb
  | some s =>
    rw [h] at ht
    exact ht

/-- A default that fits changes nothing about whether the text fits. -/
lemma all_getD {s : Option String} {d : String} {p : String → Bool} (hd : p d = true) :
    p (s.getD d) = true ↔ s.all p = true := by
  cases s with
  | none => exact iff_of_true hd rfl
  | some a => exact Iff.rfl

/-- A new e-mail is the profile's when it has one. -/
lemma newEmail_of_truthy {provider email : String} {info : SSOUserInfo}
    (h : truthy info.email = some email) : newEmail provider info = email := by
  unfold newEmail
  rw [h]
  rfl

/-- A row that is refreshed from a profile that fits still fits. -/
lemma refresh_fits {u : UserRow} {provider : String} {info : SSOUserInfo} (hu : u.fits = true)
    (h : info.Fits provider) : (u.refresh info).fits = true := by
  obtain ⟨hemail, hname, havatar, hrest⟩ := fits_iff.1 hu
  refine fits_iff.2 ⟨?_, (all_getD hname).2 h.name, all_pyOr h.avatarUrl havatar, hrest⟩
  show varchar 255 ((truthy info.email).getD u.email) = true
  cases ht : truthy info.email with
  | none => exact hemail
  | some email =>
    have := h.email
    rw [newEmail_of_truthy ht] at this
    exact this

/-- The name of a provider, and the user name made of it, fit their columns. -/
lemma varchar_of_supported {provider : String} (h : provider ∈ SUPPORTED_PROVIDERS) :
    varchar 20 provider = true ∧ varchar 100 (provider ++ " User") = true := by
  have hall : ∀ provider ∈ SUPPORTED_PROVIDERS,
      varchar 20 provider = true ∧ varchar 100 (provider ++ " User") = true := by
    decide +kernel
  exact hall provider h

/-- The row of a new user fits if the profile does. -/
lemma newUser_fits {id tenantId provider : String} {info : SSOUserInfo}
    (hp : provider ∈ SUPPORTED_PROVIDERS) (h : info.Fits provider) :
    (newUser id tenantId provider info).fits = true := by
  obtain ⟨hprov, hname⟩ := varchar_of_supported hp
  refine fits_iff.2 ⟨h.email, (all_getD hname).2 h.name, h.avatarUrl, hprov, h.providerId, ?_⟩
  show varchar 20 "member" = true
  decide +kernel

/-- The row of a new user passes the check constraints. -/
lemma newUser_checked {id tenantId provider : String} {info : SSOUserInfo}
    (hp : provider ∈ SUPPORTED_PROVIDERS) : (newUser id tenantId provider info).checked = true := by
  have hprov : provider ∈ ssoProviders := List.mem_append_left ["local"] hp
  simp [UserRow.checked, newUser, hprov, roles]

/-- A row that is bound to a login still fits when the profile does. -/
lemma rebind_fits_iff {r : UserRow} {provider : String} {info : SSOUserInfo} (hr : r.fits = true)
    (hp : provider ∈ SUPPORTED_PROVIDERS) :
    (r.rebind provider info).fits = true ↔ info.FitsRow := by
  obtain ⟨hemail, hname, havatar, _, _, hrole⟩ := fits_iff.1 hr
  have hprov := (varchar_of_supported hp).1
  have hpic : (pyOr info.avatarUrl r.avatarUrl).all storable = true ↔
      (truthy info.avatarUrl).all storable = true := by
    unfold pyOr
    cases truthy info.avatarUrl with
    | none => exact iff_of_true havatar rfl
    | some a => exact Iff.rfl
  rw [fits_iff]
  show varchar 255 r.email = true ∧ varchar 100 ((truthy info.name).getD r.name) = true ∧
    (pyOr info.avatarUrl r.avatarUrl).all storable = true ∧ varchar 20 provider = true ∧
    varchar 255 info.providerId = true ∧ varchar 20 r.role = true ↔ _
  rw [all_getD hname, hpic]
  constructor
  · rintro ⟨_, hn, ha, _, hid, _⟩
    exact ⟨hid, hn, ha⟩
  · intro h
    exact ⟨hemail, h.name, h.avatarUrl, hprov, h.providerId, hrole⟩

/-- A profile that fits has what its row needs. -/
lemma SSOUserInfo.Fits.row {provider : String} {info : SSOUserInfo} (h : info.Fits provider) :
    info.FitsRow :=
  ⟨h.providerId, h.name, all_truthy h.avatarUrl⟩

/-- Binding a row to an identity that nobody has is flushed. -/
lemma rebind_flush {db : UserTables} (hv : db.Valid) {old : UserRow} (hold : old ∈ db.users)
    {provider : String} (hp : provider ∈ SUPPORTED_PROVIDERS) {info : SSOUserInfo}
    (hfits : info.FitsRow) (hno : ∀ u ∈ db.users, u.identity ≠ (provider, info.providerId)) :
    db.update (old.rebind provider info) =
      .ok { db with users := Table.replace (·.id) (old.rebind provider info) db.users } := by
  apply flush_ok ((rebind_fits_iff (hv.fits old hold).1 hp).2 hfits)
  constructor
  · have hrole := (hv.fits old hold).2
    have hprov : provider ∈ ssoProviders := List.mem_append_left ["local"] hp
    simp only [UserRow.checked, Bool.and_eq_true, decide_eq_true_eq] at hrole ⊢
    exact ⟨hprov, hrole.2⟩
  · intro r hr hne
    exact ⟨(hv.freeFor hold r hr hne).1, hno r hr⟩

/-! ## The default tenant -/

namespace AuthService

/-- A tenant that was made for the login has no users yet. -/
lemma TenantFound.no_user {db db₁ : UserTables} (hv : db.Valid) {new t : TenantRow}
    (h : TenantFound db new t db₁) : t ∈ db.tenants ∨ ∀ u ∈ db.users, u.tenantId ≠ t.id := by
  rcases h.origin with hmem | ⟨rfl, hfree⟩
  · exact .inl hmem
  · right
    intro u hu heq
    obtain ⟨t', ht', hid⟩ := hv.tenants u hu
    exact hfree t' ht' (hid.trans heq)

/-- Nobody in the default tenant has the e-mail of a new row. -/
lemma TenantFound.address_ne {settings : LoginSettings} {db db₁ : UserTables} (hv : db.Valid)
    {newTenantId provider : String} {info : SSOUserInfo} {t : TenantRow}
    (h : TenantFound db (defaultTenant settings newTenantId) t db₁)
    (hfree : db.EmailFree settings provider info)
    (hno : ∀ u ∈ db.users, u.identity ≠ (provider, info.providerId)) :
    ∀ r ∈ db.users, r.address ≠ (t.id, newEmail provider info) := by
  rcases h.no_user hv with hmem | hnone
  · exact hfree.new hno t hmem h.slug
  · intro r hr heq
    exact hnone r hr (congrArg Prod.fst heq)

/-- Where the fallback finds nobody, a free address is one of nobody. -/
lemma TenantFound.address_ne_of_none {settings : LoginSettings} {db db₁ : UserTables}
    (hv : db.Valid) {newTenantId provider : String} {info : SSOUserInfo} {t : TenantRow}
    (h : TenantFound db (defaultTenant settings newTenantId) t db₁)
    (hfree : db.AddressFree settings provider info)
    (hno : ∀ u ∈ db.users, u.identity ≠ (provider, info.providerId))
    (hnone : ∀ email, truthy info.email = some email →
      ∀ u ∈ db.users, byEmail t.id email u = false) :
    ∀ r ∈ db.users, r.address ≠ (t.id, newEmail provider info) := by
  rcases h.no_user hv with hmem | hnone'
  · exact hfree.new hno t hmem h.slug hnone
  · intro r hr heq
    exact hnone' r hr (congrArg Prod.fst heq)

/-- The default tenant of the login is the one with the slug. -/
lemma TenantFound.eq_of_slug {db db₁ : UserTables} {new t t' : TenantRow}
    (h : TenantFound db new t db₁) (ht' : t' ∈ db.tenants) (hslug : t'.slug = new.slug) : t' = t :=
  h.valid.slugs.eq_of_mem (h.kept t' ht') h.mem (hslug.trans h.slug.symm)

/-- The default tenant is found or made. -/
lemma getDefaultTenant_ok {settings : LoginSettings} (hs : settings.Fits) {db : UserTables}
    (hv : db.Valid) {newTenantId : String} (hfresh : ∀ t ∈ db.tenants, t.id ≠ newTenantId) :
    ∃ t db₁, getDefaultTenant settings newTenantId db = .ok (t, db₁) := by
  rcases getTenant_cases hv (defaultTenant settings newTenantId) with
    ⟨t, _, _, heq⟩ | ⟨hno, heq⟩
  · exact ⟨t, db, heq⟩
  · have hfits : (defaultTenant settings newTenantId).fits = true := by
      have hplan : varchar 20 "free" = true := by decide +kernel
      simp [TenantRow.fits, defaultTenant, hs.1, hs.2, hplan]
    have hins : db.insertTenant (defaultTenant settings newTenantId) = .ok _ :=
      flush_ok hfits ⟨by simp [TenantRow.checked, defaultTenant],
        fun t ht => ⟨hfresh t ht, hno t ht⟩⟩
    rw [hins] at heq
    exact ⟨_, _, heq⟩

/-- Under a free e-mail the fallback finds nobody. -/
lemma not_byEmail {db : UserTables} {tenantId email provider : String} {info : SSOUserInfo}
    (hemail : truthy info.email = some email)
    (hfree : ∀ r ∈ db.users, r.address ≠ (tenantId, newEmail provider info)) {u : UserRow}
    (hu : u ∈ db.users) : ¬ byEmail tenantId email u = true := by
  intro hby
  obtain ⟨he, hid, _⟩ := byEmail_eq_true.1 hby
  apply hfree u hu
  rw [newEmail_of_truthy hemail, ← he, ← hid]
  rfl

end AuthService

/-! ## One login -/

section

variable {settings : LoginSettings} {db : UserTables} {newTenantId newUserId provider : String}
  {info : SSOUserInfo}

/-- A login that finds its row and writes a free e-mail is served from it. -/
lemma serves_of_found (hv : db.Valid)
    (ha : db.Admissible settings newTenantId newUserId provider info) {old : UserRow}
    (hold : old ∈ db.users) (hi : old.identity = (provider, info.providerId))
    (hfree : ∀ r ∈ db.users, r.identity ≠ (provider, info.providerId) →
      r.address ≠ (old.refresh info).address)
    (hget : AuthService.getOrCreateUser settings newTenantId newUserId provider info db =
      (db.update (old.refresh info)).map fun db' => (old.refresh info, db')) :
    db.Serves settings newTenantId newUserId provider info := by
  have hid : ∀ r ∈ db.users, r.id = old.id → r = old :=
    fun r hr heq => hv.ids.eq_of_mem hr hold heq
  have howner : ∀ r ∈ db.users, r.identity = (provider, info.providerId) → r = old :=
    fun r hr heq => hv.identities.eq_of_mem hr hold (heq.trans hi.symm)
  have hfree : db.FreeFor (old.refresh info) := by
    intro r hr hne
    have hother : r.identity ≠ (provider, info.providerId) := by
      intro heq
      have hrow := howner r hr heq
      subst hrow
      exact hne rfl
    refine ⟨hfree r hr hother, ?_⟩
    show r.identity ≠ old.identity
    rw [hi]
    exact hother
  have hflush : db.update (old.refresh info) = .ok _ :=
    flush_ok (refresh_fits (hv.fits old hold).1 ha.fits) ⟨(hv.fits old hold).2, hfree⟩
  have hlogin := ssoLogin_eq_ok.2 ⟨ha.supported, ha.named, hget.trans (by rw [hflush]; rfl)⟩
  refine ⟨_, _, hlogin, Table.mem_replace.2 (.inl ⟨rfl, old, hold, rfl⟩), hi, ?_, ?_⟩
  · intro r hr hri
    rcases Table.mem_replace.1 hr with ⟨rfl, _⟩ | ⟨hr, hne⟩
    · rfl
    · exact absurd (congrArg (fun u : UserRow => u.id) (howner r hr hri)) hne
  · intro r hr
    constructor
    · intro heq
      rw [hid r hr heq]
      exact hi
    · intro hri
      rw [howner r hr hri]
      rfl

/-- A login that makes a row with a free e-mail is served from it. -/
lemma serves_of_created
    (ha : db.Admissible settings newTenantId newUserId provider info) {t : TenantRow}
    {db₁ : UserTables}
    (hfound : AuthService.TenantFound db (defaultTenant settings newTenantId) t db₁)
    (hno : ∀ u ∈ db.users, u.identity ≠ (provider, info.providerId))
    (hfree : ∀ r ∈ db.users, r.address ≠ (t.id, newEmail provider info))
    (hget : AuthService.getOrCreateUser settings newTenantId newUserId provider info db =
      (db₁.insert (newUser newUserId t.id provider info)).map fun db' =>
        (newUser newUserId t.id provider info, db')) :
    db.Serves settings newTenantId newUserId provider info := by
  have hfree : db₁.FreeFor (newUser newUserId t.id provider info) := by
    intro r hr _
    rw [hfound.users] at hr
    exact ⟨hfree r hr, hno r hr⟩
  have hnew : ∀ r ∈ db₁.users, r.id ≠ newUserId := by
    rw [hfound.users]
    exact ha.freshUser
  have hflush : db₁.insert (newUser newUserId t.id provider info) = .ok _ :=
    flush_ok (newUser_fits ha.supported.1 ha.fits)
      ⟨newUser_checked ha.supported.1, hfree, hnew, t, hfound.mem, rfl⟩
  have hlogin := ssoLogin_eq_ok.2 ⟨ha.supported, ha.named, hget.trans (by rw [hflush]; rfl)⟩
  refine ⟨_, _, hlogin, List.mem_append_right _ (List.mem_singleton.2 rfl), rfl, ?_, ?_⟩
  · intro r hr hri
    rcases List.mem_append.1 hr with hr | hr
    · rw [hfound.users] at hr
      exact absurd hri (hno r hr)
    · exact List.mem_singleton.1 hr
  · intro r hr
    exact iff_of_false (ha.freshUser r hr) (hno r hr)

/-- A login that takes a row over ends with it. -/
lemma endsWithRow_of_rebound (ha : db.Admissible settings newTenantId newUserId provider info)
    {new t : TenantRow} {db₁ : UserTables} {old : UserRow}
    (hfound : AuthService.TenantFound db new t db₁) (hold : old ∈ db.users)
    (hno : ∀ u ∈ db.users, u.identity ≠ (provider, info.providerId))
    (hget : AuthService.getOrCreateUser settings newTenantId newUserId provider info db =
      (db₁.update (old.rebind provider info)).map fun db' => (old.rebind provider info, db')) :
    db.EndsWithRow settings newTenantId newUserId provider info := by
  rw [← hfound.users] at hold hno
  have hflush := rebind_flush hfound.valid hold ha.supported.1 ha.fits.row hno
  have hlogin := ssoLogin_eq_ok.2 ⟨ha.supported, ha.named, hget.trans (by rw [hflush]; rfl)⟩
  refine ⟨_, _, hlogin, Table.mem_replace.2 (.inl ⟨rfl, old, hold, rfl⟩), rfl, ?_⟩
  intro r hr hri
  rcases Table.mem_replace.1 hr with ⟨rfl, _⟩ | ⟨hr, _⟩
  · rfl
  · exact absurd hri (hno r hr)

/-- Where a login is served, it ends with the row of the account. -/
lemma UserTables.Serves.endsWithRow
    (h : db.Serves settings newTenantId newUserId provider info) :
    db.EndsWithRow settings newTenantId newUserId provider info := by
  obtain ⟨u, db', hlogin, hu, hi, huniq, _⟩ := h
  exact ⟨u, db', hlogin, hu, hi, huniq⟩

/-- A login that succeeds has written a free address. -/
lemma addressFree_of_login (hv : db.Valid) {u : UserRow} {db' : UserTables}
    (hlogin : AuthService.ssoLogin settings newTenantId newUserId provider info db = .ok (u, db')) :
    db.AddressFree settings provider info := by
  cases ssoWay_of_login hv hlogin with
  | @found old hold hi hu =>
    obtain ⟨_, ⟨_, hfree⟩, _⟩ := flush_eq_ok.1 hu
    refine ⟨?_, fun hno => absurd hi (hno old hold)⟩
    intro u' hu' hi' r hr hri
    have := hv.identities.eq_of_mem hu' hold (hi'.trans hi.symm)
    subst this
    apply (hfree r hr ?_).1
    intro heq
    have := hv.ids.eq_of_mem hr hold heq
    subst this
    exact hri hi'
  | @rebound t db₁ old email hno hfound hold hemail hby _ =>
    refine ⟨fun u hu hi => absurd hi (hno u hu), ?_⟩
    intro _ t' ht' hslug hnone
    have := hfound.eq_of_slug ht' hslug
    subst this
    rw [hnone email hemail old hold] at hby
    cases hby
  | @created t db₁ hno hfound _ hu =>
    obtain ⟨_, ⟨_, hfree, hnew, _⟩, _⟩ := flush_eq_ok.1 hu
    refine ⟨fun u hu hi => absurd hi (hno u hu), ?_⟩
    intro _ t' ht' hslug _ r hr
    have := hfound.eq_of_slug ht' hslug
    subst this
    have hr' : r ∈ db₁.users := hfound.users.symm ▸ hr
    exact (hfree r hr' (hnew r hr')).1

/-- On valid tables an admissible login ends with its row exactly when the address it writes is
free. -/
lemma login_endsWithRow_iff (hs : settings.Fits) (hv : db.Valid)
    (ha : db.Admissible settings newTenantId newUserId provider info) :
    db.EndsWithRow settings newTenantId newUserId provider info ↔
      db.AddressFree settings provider info := by
  constructor
  · rintro ⟨u, db', hlogin, _⟩
    exact addressFree_of_login hv hlogin
  · intro hfree
    have hway :=
      AuthService.getOrCreateUser_resolves hv settings newTenantId newUserId provider info
    generalize hget : AuthService.getOrCreateUser settings newTenantId newUserId provider info db =
      res at hway
    cases hway with
    | @found old hold hi =>
      exact (serves_of_found hv ha hold hi (hfree.known old hold hi) hget).endsWithRow
    | noTenant _ htenant =>
      obtain ⟨t, db₁, hok⟩ := AuthService.getDefaultTenant_ok hs hv ha.freshTenant
      rw [hok] at htenant
      cases htenant
    | @rebound t db₁ old email hno htenant hold _ _ =>
      exact endsWithRow_of_rebound ha (AuthService.getTenant_found hv htenant) hold hno hget
    | @created t db₁ hno htenant hnone =>
      have hfound := AuthService.getTenant_found hv htenant
      exact (serves_of_created ha hfound hno
        (hfound.address_ne_of_none hv hfree hno hnone) hget).endsWithRow

/-- A login that is served from its own row takes no other over. -/
lemma UserTables.Serves.not_byEmail (hv : db.Valid)
    (h : db.Serves settings newTenantId newUserId provider info)
    (hno : ∀ u ∈ db.users, u.identity ≠ (provider, info.providerId)) {t : TenantRow}
    (ht : t ∈ db.tenants) (hslug : t.slug = settings.defaultTenantSlug) :
    ∀ email, truthy info.email = some email →
      ∀ u ∈ db.users, AuthService.byEmail t.id email u = false := by
  obtain ⟨u, db', hlogin, _, _, _, hown⟩ := h
  cases ssoWay_of_login hv hlogin with
  | @found old hold hi _ => exact absurd hi (hno old hold)
  | @rebound t' db₁ old email _ _ hold _ _ _ => exact absurd ((hown old hold).1 rfl) (hno old hold)
  | @created t' db₁ _ hfound hnone _ =>
    have := hfound.eq_of_slug ht hslug
    subst this
    exact hnone

/-- On valid tables an admissible login is served from its own row exactly when the e-mail it
writes is free. -/
lemma login_serves_iff (hs : settings.Fits) (hv : db.Valid)
    (ha : db.Admissible settings newTenantId newUserId provider info) :
    db.Serves settings newTenantId newUserId provider info ↔
      db.EmailFree settings provider info := by
  constructor
  · intro h
    have hfree := (login_endsWithRow_iff hs hv ha).1 h.endsWithRow
    refine ⟨hfree.known, ?_⟩
    intro hno t ht hslug
    exact hfree.new hno t ht hslug (h.not_byEmail hv hno ht hslug)
  · intro hfree
    have hway :=
      AuthService.getOrCreateUser_resolves hv settings newTenantId newUserId provider info
    generalize hget : AuthService.getOrCreateUser settings newTenantId newUserId provider info db =
      res at hway
    cases hway with
    | @found old hold hi =>
      exact serves_of_found hv ha hold hi (hfree.known old hold hi) hget
    | noTenant _ htenant =>
      obtain ⟨t, db₁, hok⟩ := AuthService.getDefaultTenant_ok hs hv ha.freshTenant
      rw [hok] at htenant
      cases htenant
    | @rebound t db₁ old email hno htenant hold hemail hby =>
      have hfound := AuthService.getTenant_found hv htenant
      exact absurd hby (AuthService.not_byEmail hemail (hfound.address_ne hv hfree hno) hold)
    | @created t db₁ hno htenant _ =>
      have hfound := AuthService.getTenant_found hv htenant
      exact serves_of_created ha hfound hno (hfound.address_ne hv hfree hno) hget

end

/-! ## Every run of logins -/

/-- The login meets no other identity's e-mail. -/
def UserTables.Undisturbed (settings : LoginSettings) (db : UserTables) : LoginLabel → Prop
  | .sso provider info _ _ => db.EmailFree settings provider info
  | .admin _ _ => True

/-- Every account has stayed with its identity. -/
def UserTables.KeepsAccounts (db db' : UserTables) : Prop :=
  ∀ r ∈ db.users, ∃ r' ∈ db'.users, r'.id = r.id ∧ r'.identity = r.identity

/-- An update of a row that keeps its identity keeps the accounts. -/
lemma keepsAccounts_update {db db₁ db' : UserTables} (hv : db.Valid) (husers : db₁.users = db.users)
    {old u : UserRow} (hold : old ∈ db.users) (hid : old.id = u.id) (hi : u.identity = old.identity)
    (hu : db₁.update u = .ok db') : db.KeepsAccounts db' := by
  obtain ⟨_, _, rfl⟩ := flush_eq_ok.1 hu
  intro r hr
  by_cases heq : r.id = u.id
  · have := hv.ids.eq_of_mem hr hold (heq.trans hid.symm)
    subst this
    have hr' : r ∈ db₁.users := husers.symm ▸ hr
    exact ⟨u, Table.mem_replace.2 (.inl ⟨rfl, r, hr', heq⟩), heq.symm, hi⟩
  · have hr' : r ∈ db₁.users := husers.symm ▸ hr
    exact ⟨r, Table.mem_replace.2 (.inr ⟨hr', heq⟩), rfl, rfl⟩

/-- An insert keeps the accounts. -/
lemma keepsAccounts_insert {db db₁ db' : UserTables} (husers : db₁.users = db.users) {u : UserRow}
    (hu : db₁.insert u = .ok db') : db.KeepsAccounts db' := by
  obtain ⟨_, _, rfl⟩ := flush_eq_ok.1 hu
  intro r hr
  exact ⟨r, List.mem_append_left _ (husers.symm ▸ hr), rfl, rfl⟩

/-- An undisturbed login keeps every account with its identity. -/
lemma LoginStep.keepsAccounts {settings : LoginSettings} {db db' : UserTables} {l : LoginLabel}
    (hv : db.Valid) (hl : db.Undisturbed settings l) (hst : LoginStep settings db l db') :
    db.KeepsAccounts db' := by
  rw [hst]
  unfold UserTables.next
  split
  · rename_i u db'' h
    cases l with
    | admin email newUserId =>
      obtain ⟨_, ⟨old, hold, hid, _, hi, hu⟩ | ⟨t, db₁, hfound, hu⟩⟩ :=
        adminLogin_cases hv (mapError_eq_ok.1 h)
      · exact keepsAccounts_update hv rfl hold hid hi.symm hu
      · exact keepsAccounts_insert hfound.users hu
    | sso provider info newTenantId newUserId =>
      cases ssoWay_of_login hv h with
      | @found old hold _ hu =>
        exact keepsAccounts_update (u := old.refresh info) hv rfl hold rfl rfl hu
      | rebound hno hfound hold hemail hby _ =>
        exact absurd hby (AuthService.not_byEmail hemail (hfound.address_ne hv hl hno) hold)
      | created _ hfound _ hu => exact keepsAccounts_insert hfound.users hu
  · exact fun r hr => ⟨r, hr, rfl, rfl⟩

/-- After any run of logins, an admissible login ends with one row for its identity exactly when the
address it writes is free, and is served from its own row exactly when no other identity's row has
the e-mail; in a run whose logins all write free e-mails no account is ever lost. -/
theorem serves_iff {settings : LoginSettings} (hs : settings.Fits) {db₀ db : UserTables}
    (hv : db₀.Valid) {ls : List LoginLabel} (run : Steps (LoginStep settings) db₀ ls db) :
    (∀ newTenantId newUserId provider info,
      db.Admissible settings newTenantId newUserId provider info →
      (db.EndsWithRow settings newTenantId newUserId provider info ↔
        db.AddressFree settings provider info) ∧
      (db.Serves settings newTenantId newUserId provider info ↔
        db.EmailFree settings provider info)) ∧
    (Guarded (LoginStep settings) (UserTables.Undisturbed settings) db₀ ls db →
      db₀.KeepsAccounts db) := by
  have hvalid : db.Valid := run.invariant (fun h hst => hst.valid h) hv
  refine ⟨fun _ _ _ _ ha =>
    ⟨login_endsWithRow_iff hs hvalid ha, login_serves_iff hs hvalid ha⟩, ?_⟩
  intro guarded
  have both : db.Valid ∧ db₀.KeepsAccounts db := by
    refine guarded.invariant (I := fun db => db.Valid ∧ db₀.KeepsAccounts db) ?_
      ⟨hv, fun r hr => ⟨r, hr, rfl, rfl⟩⟩
    rintro s a t hc ⟨hvs, hkept⟩ hst
    refine ⟨hst.valid hvs, ?_⟩
    intro r hr
    obtain ⟨r₁, hr₁, hid₁, hi₁⟩ := hkept r hr
    obtain ⟨r₂, hr₂, hid₂, hi₂⟩ := hst.keepsAccounts hvs hc r₁ hr₁
    exact ⟨r₂, hr₂, hid₂.trans hid₁, hi₂.trans hi₁⟩
  exact both.2

/-- Whether a login raises what a violated constraint raises. -/
def UserTables.violates (settings : LoginSettings) (db : UserTables) (l : LoginLabel) : Bool :=
  match db.login settings l with
  | .ok _ => false
  | .error e => decide (e = .db .integrityError)

namespace Sample

/-- Two identities have logged in, each with its own e-mail. -/
def twoAccounts : UserTables :=
  (tables.next loginSettings (.sso "github" (gitHubUser 1 "ann@x.io") "t2" "u1")).next
    loginSettings (.sso "github" (gitHubUser 2 "bob@x.io") "t2" "u2")

/-- A GitHub user with an id and an e-mail that fit has a profile that fits. -/
lemma gitHubUser_fits {id : Nat} {email : String} (hid : varchar 255 (toString id) = true)
    (he : varchar 255 email = true) (hne : email ≠ "") : (gitHubUser id email).Fits "github" := by
  have hemail : (gitHubUser id email).email = some email := by
    simp [gitHubUser, GitHubSSOHandler.getUserInfo, truthy, Option.filter, hne]
  constructor
  · exact hid
  · have htruthy : truthy (gitHubUser id email).email = some email := by
      simp [truthy, hemail, Option.filter, hne]
    rw [newEmail_of_truthy htruthy]
    exact he
  · show (truthy (some "Ann")).all (varchar 100) = true
    decide +kernel
  · rfl

end Sample

open Sample in
/-- Bob's login with an e-mail of his own. -/
theorem serves_second_login :
    (twoAccounts.EndsWithRow loginSettings "t3" "u3" "github" (gitHubUser 2 "rob@x.io") ↔
      twoAccounts.AddressFree loginSettings "github" (gitHubUser 2 "rob@x.io")) ∧
    (twoAccounts.Serves loginSettings "t3" "u3" "github" (gitHubUser 2 "rob@x.io") ↔
      twoAccounts.EmailFree loginSettings "github" (gitHubUser 2 "rob@x.io")) := by
  have hs : loginSettings.Fits := by
    constructor <;> decide +kernel
  refine (serves_iff hs tables_valid (.cons rfl (.cons rfl .nil))).1 _ _ _ _ ⟨?_, ?_, ?_, ?_, ?_⟩
  · decide +kernel
  · decide +kernel
  · exact gitHubUser_fits (by decide +kernel) (by decide +kernel) (by decide)
  · decide +kernel
  · decide +kernel

open Sample in
/-- Ann takes over Bob's e-mail address: her next login raises. -/
theorem profile_change_not_served : ¬ ∀ (settings : LoginSettings) (db₀ db : UserTables)
    (ls : List LoginLabel), settings.Fits → db₀.Valid → Steps (LoginStep settings) db₀ ls db →
      ∀ newTenantId newUserId provider info,
        db.Admissible settings newTenantId newUserId provider info →
        db.EndsWithRow settings newTenantId newUserId provider info := by
  intro h
  have hs : loginSettings.Fits := by
    constructor <;> decide +kernel
  have ha : twoAccounts.Admissible loginSettings "t3" "u3" "github" (gitHubUser 1 "bob@x.io") := by
    refine ⟨by decide +kernel, by decide +kernel, ?_, by decide +kernel, by decide +kernel⟩
    exact gitHubUser_fits (by decide +kernel) (by decide +kernel) (by decide)
  obtain ⟨u, db', hlogin, _⟩ := h loginSettings tables twoAccounts _ hs tables_valid
    (.cons rfl (.cons rfl .nil)) "t3" "u3" "github" (gitHubUser 1 "bob@x.io") ha
  have hviolates : twoAccounts.violates loginSettings
      (.sso "github" (gitHubUser 1 "bob@x.io") "t3" "u3") = true := by decide +kernel
  unfold UserTables.violates at hviolates
  change (match AuthService.ssoLogin loginSettings "t3" "u3" "github" (gitHubUser 1 "bob@x.io")
    twoAccounts with | .ok _ => false | .error e => decide (e = .db .integrityError)) = true
    at hviolates
  rw [hlogin] at hviolates
  cases hviolates

end InstantBoard.Auth
