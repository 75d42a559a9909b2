import InstantBoard.Python.Value

/-!
# Rows of the relational store

The columns of `tenants`, `categories` and `sources` that the modelled code reads or writes. Ids
are the text of their UUIDs.
-/

namespace InstantBoard

/-- `str(SYSTEM_TENANT_ID)`. -/
def SYSTEM_TENANT_ID : String := "00000000-0000-0000-0000-000000000000"

structure Tenant where
  id : String
  maxSources : Nat

structure Category where
  id : String
  tenantId : String
  slug : String
  type : String
  refreshIntervalSeconds : Int
  keywordsFilter : List String

structure Source where
  id : String
  tenantId : String
  categoryId : String
  name : String
  sourceType : String
  url : String
  config : Dict
  refreshIntervalSeconds : Option Int
  isActive : Bool
  priority : Int

/-- The tables the source service works on. -/
structure Tables where
  tenants : List Tenant
  categories : List Category
  sources : List Source

/-- `select(Tenant).where(Tenant.id == tenant_id)`. -/
def Tables.tenant? (db : Tables) (id : String) : Option Tenant :=
  db.tenants.find? (·.id == id)

/-- `select(Category).where(Category.id == category_id)`. -/
def Tables.category? (db : Tables) (id : String) : Option Category :=
  db.categories.find? (·.id == id)

/-- `select(Source).where(Source.id == source_id)`. -/
def Tables.source? (db : Tables) (id : String) : Option Source :=
  db.sources.find? (·.id == id)

end InstantBoard
