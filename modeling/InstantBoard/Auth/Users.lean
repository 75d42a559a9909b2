import InstantBoard.Auth.Refresh
import InstantBoard.Columns
import InstantBoard.Models

/-!
# The users table

The rows of `users` with the constraints a flush is checked against: the lengths of the columns,
the two CHECKs and the two unique keys. A flush that violates one raises, and the request's
transaction is rolled back.
-/

namespace InstantBoard

namespace Auth

structure UserRow extends User where
  email : String
  name : String
  avatarUrl : Option String
  ssoProviderId : String

structure TenantRow extends Tenant where
  name : String
  slug : String
  plan : String

/-- `uq_users_sso` -/
def UserRow.identity (u : UserRow) : String × String :=
  (u.ssoProvider, u.ssoProviderId)

/-- `uq_users_tenant_email` -/
def UserRow.address (u : UserRow) : String × String :=
  (u.tenantId, u.email)

/-- `chk_users_sso_provider` -/
def ssoProviders : List String :=
  ["google", "azure_ad", "github", "apple", "facebook", "local"]

/-- `chk_users_role` -/
def roles : List String :=
  ["admin", "member", "viewer"]

/-- The values fit their columns. -/
def UserRow.fits (u : UserRow) : Bool :=
  varchar 255 u.email && varchar 100 u.name && u.avatarUrl.all storable &&
    varchar 20 u.ssoProvider && varchar 255 u.ssoProviderId && varchar 20 u.role

/-- The CHECKs. -/
def UserRow.checked (u : UserRow) : Bool :=
  decide (u.ssoProvider ∈ ssoProviders) && decide (u.role ∈ roles)

def TenantRow.fits (t : TenantRow) : Bool :=
  varchar 100 t.name && varchar 50 t.slug && varchar 20 t.plan

/-- `chk_tenants_plan` -/
def TenantRow.checked (t : TenantRow) : Bool :=
  decide (t.plan ∈ ["free", "pro", "enterprise"])

structure UserTables where
  tenants : List TenantRow
  users : List UserRow

namespace UserTables

/-- No other row has the address or the identity. -/
def FreeFor (db : UserTables) (u : UserRow) : Prop :=
  ∀ r ∈ db.users, r.id ≠ u.id → r.address ≠ u.address ∧ r.identity ≠ u.identity

instance (db : UserTables) (u : UserRow) : Decidable (db.FreeFor u) :=
  inferInstanceAs (Decidable (∀ r ∈ db.users, _ → _))

/-- The flush of a changed row. -/
def update (db : UserTables) (u : UserRow) : Except DbError UserTables :=
  flushRow u.fits (u.checked = true ∧ db.FreeFor u)
    { db with users := Table.replace (·.id) u db.users }

/-- The flush of a new row. -/
def insert (db : UserTables) (u : UserRow) : Except DbError UserTables :=
  flushRow u.fits (u.checked = true ∧ db.FreeFor u ∧ (∀ r ∈ db.users, r.id ≠ u.id) ∧
    ∃ t ∈ db.tenants, t.id = u.tenantId) { db with users := db.users ++ [u] }

/-- The flush of a new tenant. -/
def insertTenant (db : UserTables) (t : TenantRow) : Except DbError UserTables :=
  flushRow t.fits (t.checked = true ∧ ∀ r ∈ db.tenants, r.id ≠ t.id ∧ r.slug ≠ t.slug)
    { db with tenants := db.tenants ++ [t] }

/-- What the constraints say of the tables. -/
structure Valid (db : UserTables) : Prop where
  tenantIds : Table.Unique (fun t : TenantRow => t.id) db.tenants
  slugs : Table.Unique (fun t : TenantRow => t.slug) db.tenants
  ids : Table.Unique (fun u : UserRow => u.id) db.users
  addresses : Table.Unique UserRow.address db.users
  identities : Table.Unique UserRow.identity db.users
  fits : ∀ u ∈ db.users, u.fits = true ∧ u.checked = true
  /-- `users.tenant_id` references `tenants.id` -/
  tenants : ∀ u ∈ db.users, ∃ t ∈ db.tenants, t.id = u.tenantId

/-- The row of a user is free for that user. -/
lemma Valid.freeFor {db : UserTables} (h : db.Valid) {u : UserRow} (hu : u ∈ db.users) :
    db.FreeFor u := by
  intro r hr hne
  constructor
  · intro haddr
    exact hne (congrArg (fun u : UserRow => u.id) (h.addresses.eq_of_mem hr hu haddr))
  · intro hid
    exact hne (congrArg (fun u : UserRow => u.id) (h.identities.eq_of_mem hr hu hid))

/-- A flush keeps the constraints. -/
lemma Valid.update {db db' : UserTables} (h : db.Valid) {u old : UserRow} (hold : old ∈ db.users)
    (hid : old.id = u.id) (htenant : old.tenantId = u.tenantId) (hu : db.update u = .ok db') :
    db'.Valid := by
  obtain ⟨hfits, ⟨hchecked, hfree⟩, rfl⟩ := flush_eq_ok.1 hu
  refine ⟨h.tenantIds, h.slugs, h.ids.replace_id u, ?_, ?_, ?_, ?_⟩
  · exact h.ids.replace h.addresses (fun r hr hne => (hfree r hr hne).1)
  · exact h.ids.replace h.identities (fun r hr hne => (hfree r hr hne).2)
  · intro r hr
    rcases Table.mem_replace.1 hr with ⟨rfl, _⟩ | ⟨hr, _⟩
    · exact ⟨hfits, hchecked⟩
    · exact h.fits r hr
  · intro r hr
    rcases Table.mem_replace.1 hr with ⟨rfl, _⟩ | ⟨hr, _⟩
    · rw [← htenant]
      exact h.tenants old hold
    · exact h.tenants r hr

/-- An insert keeps the constraints. -/
lemma Valid.insert {db db' : UserTables} (h : db.Valid) {u : UserRow} (hu : db.insert u = .ok db') :
    db'.Valid := by
  obtain ⟨hfits, ⟨hchecked, hfree, hnew, htenant⟩, rfl⟩ := flush_eq_ok.1 hu
  refine ⟨h.tenantIds, h.slugs, h.ids.append hnew, ?_, ?_, ?_, ?_⟩
  · exact h.addresses.append (fun r hr => (hfree r hr (hnew r hr)).1)
  · exact h.identities.append (fun r hr => (hfree r hr (hnew r hr)).2)
  · intro r hr
    rcases List.mem_append.1 hr with hr | hr
    · exact h.fits r hr
    · rw [List.mem_singleton.1 hr]
      exact ⟨hfits, hchecked⟩
  · intro r hr
    rcases List.mem_append.1 hr with hr | hr
    · exact h.tenants r hr
    · rw [List.mem_singleton.1 hr]
      exact htenant

/-- A new tenant keeps the constraints. -/
lemma Valid.insertTenant {db db' : UserTables} (h : db.Valid) {t : TenantRow}
    (ht : db.insertTenant t = .ok db') : db'.Valid := by
  obtain ⟨_, ⟨_, hnew⟩, rfl⟩ := flush_eq_ok.1 ht
  refine ⟨h.tenantIds.append (fun r hr => (hnew r hr).1), h.slugs.append (fun r hr => (hnew r hr).2),
    h.ids, h.addresses, h.identities, h.fits, ?_⟩
  intro u hu
  obtain ⟨t', ht', hid⟩ := h.tenants u hu
  exact ⟨t', List.mem_append_left _ ht', hid⟩

end UserTables

end Auth

end InstantBoard
