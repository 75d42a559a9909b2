import InstantBoard.Auth.Accounts

/-!
# Accounts taken over by e-mail

The e-mail fallback of `_get_or_create_user` binds the account it finds to the identity of the
login without looking at `email_verified`. An unverified e-mail gives access to another identity's
account exactly when the login's own identity is unknown and a row of the default tenant that is not
local has the e-mail (`takeovers_verified_iff`). The GitHub handler reports every public e-mail as
unverified.
-/

namespace InstantBoard.Auth

open Fallible Transition

/-- The login is answered with the row, or the row is bound to its identity. -/
def UserRow.GivenTo (r : UserRow) (i : String × String) (u : UserRow) (db' : UserTables) : Prop :=
  r.id = u.id ∨ ∃ r' ∈ db'.users, r'.id = r.id ∧ r'.identity = i

/-- Another identity's account is given only to a login whose e-mail is verified. -/
def UserTables.TakeoversVerified (settings : LoginSettings) (db : UserTables)
    (newTenantId newUserId provider : String) (info : SSOUserInfo) : Prop :=
  ∀ u db', AuthService.ssoLogin settings newTenantId newUserId provider info db = .ok (u, db') →
    ∀ r ∈ db.users, r.identity ≠ (provider, info.providerId) →
      r.GivenTo (provider, info.providerId) u db' → info.emailVerified = true

/-- An unverified login of an unknown identity with the e-mail of an account. -/
structure UserTables.Exposed (settings : LoginSettings) (db : UserTables) (provider : String)
    (info : SSOUserInfo) : Prop where
  supported : provider ∈ SUPPORTED_PROVIDERS ∧ provider ∈ settings.enabledSsoProviders
  named : info.providerId ≠ ""
  unverified : info.emailVerified = false
  unknown : ∀ u ∈ db.users, u.identity ≠ (provider, info.providerId)
  fits : info.FitsRow
  account : ∃ t ∈ db.tenants, t.slug = settings.defaultTenantSlug ∧
    ∃ email, truthy info.email = some email ∧
      ∃ r ∈ db.users, AuthService.byEmail t.id email r = true

/-- In a table that one row has been written to, a row bound to the identity is that row. -/
lemma given_eq {db : UserTables} (hv : db.Valid) {i : String × String} {r u : UserRow}
    {db' : UserTables} (hr : r ∈ db.users) (hi : r.identity ≠ i)
    (hmem : ∀ r' ∈ db'.users, r' = u ∨ r' ∈ db.users) (h : r.GivenTo i u db') : r.id = u.id := by
  rcases h with hid | ⟨r', hr', hid, hi'⟩
  · exact hid
  · rcases hmem r' hr' with rfl | hr'
    · exact hid.symm
    · have := hv.ids.eq_of_mem hr' hr hid
      subst this
      exact absurd hi' hi

/-- After an update there are the new row and old ones. -/
lemma mem_of_update {db₁ db' : UserTables} {u : UserRow} (hu : db₁.update u = .ok db') :
    ∀ r ∈ db'.users, r = u ∨ r ∈ db₁.users := by
  obtain ⟨_, _, rfl⟩ := flush_eq_ok.1 hu
  intro r hr
  rcases Table.mem_replace.1 hr with ⟨rfl, _⟩ | ⟨hr, _⟩
  · exact .inl rfl
  · exact .inr hr

/-- After an insert there are the new row and old ones. -/
lemma mem_of_insert {db₁ db' : UserTables} {u : UserRow} (hu : db₁.insert u = .ok db') :
    ∀ r ∈ db'.users, r = u ∨ r ∈ db₁.users := by
  obtain ⟨_, _, rfl⟩ := flush_eq_ok.1 hu
  intro r hr
  rcases List.mem_append.1 hr with hr | hr
  · exact .inr hr
  · exact .inl (List.mem_singleton.1 hr)

section

variable {settings : LoginSettings} {db : UserTables} {newTenantId newUserId provider : String}
  {info : SSOUserInfo}

/-- An account that is given away was taken by its e-mail. -/
lemma exposed_of_given (hv : db.Valid) {u : UserRow} {db' : UserTables}
    (h : AuthService.ssoLogin settings newTenantId newUserId provider info db = .ok (u, db'))
    {r : UserRow} (hr : r ∈ db.users) (hi : r.identity ≠ (provider, info.providerId))
    (hgiven : r.GivenTo (provider, info.providerId) u db') (hno : info.emailVerified = false) :
    db.Exposed settings provider info := by
  obtain ⟨hsupported, hnamed, _⟩ := ssoLogin_eq_ok.1 h
  cases ssoWay_of_login hv h with
  | @found old hold hown hu =>
    have hmem := mem_of_update (u := old.refresh info) hu
    have hid : r.id = old.id := given_eq (u := old.refresh info) hv hr hi hmem hgiven
    have := hv.ids.eq_of_mem hr hold hid
    subst this
    exact absurd hown hi
  | @rebound t db₁ old email hunknown hfound hold hemail hby hu =>
    obtain ⟨hfits, _⟩ := flush_eq_ok.1 hu
    refine ⟨hsupported, hnamed, hno, hunknown,
      (rebind_fits_iff (hv.fits old hold).1 hsupported.1).1 hfits, t, ?_, hfound.slug, email, hemail,
      old, hold, hby⟩
    -- a tenant made for this login would have no users
    rcases hfound.no_user hv with hmem | hnone
    · exact hmem
    · exact absurd (AuthService.byEmail_eq_true.1 hby).2.1 (hnone old hold)
  | @created t db₁ _ hfound _ hu =>
    have hmem : ∀ r' ∈ _, r' = _ ∨ r' ∈ db.users := hfound.users ▸ mem_of_insert hu
    have hid := given_eq hv hr hi hmem hgiven
    obtain ⟨_, ⟨_, _, hnew, _⟩, _⟩ := flush_eq_ok.1 hu
    exact absurd hid (hnew r (hfound.users.symm ▸ hr))

variable (newTenantId newUserId) in
/-- An exposed account is given away. -/
lemma given_of_exposed (hv : db.Valid) (h : db.Exposed settings provider info) :
    ∃ u db', AuthService.ssoLogin settings newTenantId newUserId provider info db = .ok (u, db') ∧
      ∃ r ∈ db.users, r.identity ≠ (provider, info.providerId) ∧
        r.GivenTo (provider, info.providerId) u db' := by
  obtain ⟨t, ht, hslug, email, hemail, r, hr, hby⟩ := h.account
  have hway := AuthService.getOrCreateUser_resolves hv settings newTenantId newUserId provider info
  generalize hget : AuthService.getOrCreateUser settings newTenantId newUserId provider info db =
    res at hway
  have htenant : AuthService.getDefaultTenant settings newTenantId db = .ok (t, db) := by
    rcases AuthService.getTenant_cases hv (defaultTenant settings newTenantId) with
      ⟨t', ht', hslug', heq⟩ | ⟨hno, _⟩
    · have := hv.slugs.eq_of_mem ht' ht (hslug'.trans hslug.symm)
      subst this
      exact heq
    · exact absurd hslug (hno t ht)
  cases hway with
  | found hold hown => exact absurd hown (h.unknown _ hold)
  | noTenant _ herr =>
    rw [htenant] at herr
    cases herr
  | @rebound t' db₁ old email' _ htenant' hold hemail' hby' =>
    rw [htenant] at htenant'
    cases htenant'
    rw [hemail] at hemail'
    cases hemail'
    obtain ⟨he, hid, _⟩ := AuthService.byEmail_eq_true.1 hby
    obtain ⟨he', hid', _⟩ := AuthService.byEmail_eq_true.1 hby'
    have haddr : old.address = r.address := by
      show (old.tenantId, old.email) = (r.tenantId, r.email)
      rw [he, hid, he', hid']
    have := hv.addresses.eq_of_mem hold hr haddr
    subst this
    have hflush := rebind_flush hv hold h.supported.1 h.fits h.unknown
    have hlogin := ssoLogin_eq_ok.2 ⟨h.supported, h.named, hget.trans (by rw [hflush]; rfl)⟩
    exact ⟨_, _, hlogin, old, hold, h.unknown old hold, .inl rfl⟩
  | @created t' db₁ _ htenant' hnone =>
    rw [htenant] at htenant'
    cases htenant'
    rw [hnone email hemail r hr] at hby
    cases hby

/-- On any tables that keep their constraints, an account changes hands by a verified e-mail only,
exactly when no unverified login meets an account it may take. -/
theorem takeovers_verified_iff (hv : db.Valid) :
    db.TakeoversVerified settings newTenantId newUserId provider info ↔
      ¬ db.Exposed settings provider info := by
  constructor
  · intro hall hexposed
    obtain ⟨u, db', hlogin, r, hr, hi, hgiven⟩ :=
      given_of_exposed newTenantId newUserId hv hexposed
    have hverified := hall u db' hlogin r hr hi hgiven
    rw [hexposed.unverified] at hverified
    cases hverified
  · intro hno u db' hlogin r hr hi hgiven
    cases hverified : info.emailVerified with
    | true => rfl
    | false => exact absurd (exposed_of_given hv hlogin hr hi hgiven hverified) hno

end

namespace Sample

/-- The tables meet their constraints. -/
lemma twoAccounts_valid : twoAccounts.Valid :=
  LoginStep.valid (LoginStep.valid tables_valid rfl) rfl

end Sample

open Sample in
/-- A third GitHub account with Ann's public e-mail. -/
theorem takeovers_verified_at_public_email :
    twoAccounts.TakeoversVerified loginSettings "t3" "u3" "github" (gitHubUser 3 "ann@x.io") ↔
      ¬ twoAccounts.Exposed loginSettings "github" (gitHubUser 3 "ann@x.io") :=
  takeovers_verified_iff twoAccounts_valid

open Sample in
/-- The login with the public e-mail is answered with Ann's account. -/
theorem takeover_by_public_email : ¬ ∀ (settings : LoginSettings) (db : UserTables)
    (newTenantId newUserId : String) (answer : ProviderAnswer), db.Valid →
      db.TakeoversVerified settings newTenantId newUserId answer.userInfo.provider
        answer.userInfo := by
  intro h
  have hexposed : twoAccounts.Exposed loginSettings "github" (gitHubUser 3 "ann@x.io") := by
    refine ⟨by decide +kernel, by decide +kernel, rfl, by decide +kernel, ?_, ?_⟩
    · constructor <;> decide +kernel
    · exact ⟨defaultTenant loginSettings "t1", .tail _ (.head _), rfl, "ann@x.io", rfl,
        newUser "u1" "t1" "github" (gitHubUser 1 "ann@x.io"), .head _, by decide +kernel⟩
  obtain ⟨u, db', hlogin, r, hr, hi, hgiven⟩ :=
    given_of_exposed "t3" "u3" twoAccounts_valid hexposed
  have hverified := h loginSettings twoAccounts "t3" "u3"
    (.github { id := some 3, email := some "ann@x.io", name := some "Ann", login := some "ann",
               avatarUrl := none } none) twoAccounts_valid u db' hlogin r hr hi hgiven
  cases hverified

end InstantBoard.Auth
