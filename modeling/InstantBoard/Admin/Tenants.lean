import InstantBoard.Columns
import InstantBoard.Lib.Transition
import InstantBoard.Python.Value

/-!
# Tenant administration

`create_tenant`, `get_tenant`, `update_tenant` and `delete_tenant` of the admin API, each in the session
of its own that `get_db` opens and closes. What a request writes it flushes, so its answer is built from
rows that are there; nobody commits, and closing the session rolls the transaction back.

The effect of a request lasts exactly when there is none: the request is refused, or it sets fields to
what they are (`lasts_iff`).
-/

namespace InstantBoard.Admin

open Fallible Transition

/-! ## The session -/

/-- A session: the committed tables, and the tables as its open transaction sees them. -/
structure Session (σ : Type) where
  committed : σ
  current : σ

namespace Session

variable {σ ε α : Type}

/-- What the statements of `f` flush stays in the transaction. -/
def flush (f : σ → Except ε (α × σ)) (s : Session σ) : Except ε α × Session σ :=
  match f s.current with
  | .error e => (.error e, s)
  | .ok (a, db) => (.ok a, { s with current := db })

/-- `session.close()` rolls back what is not committed. -/
def close (s : Session σ) : σ :=
  s.committed

/-- `get_db`: a session around the handler. -/
def within (handler : Session σ → Except ε α × Session σ) (db : σ) : Except ε α × σ :=
  let (answer, s) := handler { committed := db, current := db }
  (answer, s.close)

/-- Nothing that is only flushed gets out of a session. -/
lemma within_flush (f : σ → Except ε (α × σ)) (db : σ) :
    within (flush f) db = ((f db).map Prod.fst, db) := by
  unfold within flush
  cases f db with
  | error e => rfl
  | ok r => rfl

end Session

/-! ## Rows -/

/-- A row of `tenants`. -/
structure TenantRecord where
  id : String
  name : String
  slug : String
  plan : String
  settings : Dict
  maxUsers : Int
  maxCategories : Int
  maxSources : Int
  isActive : Bool
  createdAt : Int
  updatedAt : Int
  deriving DecidableEq

/-- What the libraries make of values: `uuid.UUID(text)`, and what a JSONB column takes. -/
structure Values where
  uuid : String → Option String
  jsonb : Dict → Bool

/-- The values fit their columns. -/
def TenantRecord.fits (values : Values) (t : TenantRecord) : Bool :=
  varchar 100 t.name && varchar 50 t.slug && varchar 20 t.plan && values.jsonb t.settings &&
    [t.maxUsers, t.maxCategories, t.maxSources].all int4

def tenantPlans : List String :=
  ["free", "pro", "enterprise"]

/-- `chk_tenants_plan` -/
def TenantRecord.checked (t : TenantRecord) : Bool :=
  decide (t.plan ∈ tenantPlans)

/-- The keys of the table. -/
structure Keyed (db : List TenantRecord) : Prop where
  ids : Table.Unique (fun t : TenantRecord => t.id) db
  slugs : Table.Unique (fun t : TenantRecord => t.slug) db

/-- The flush of a new row. -/
def insert (values : Values) (db : List TenantRecord) (t : TenantRecord) :
    Except DbError (List TenantRecord) :=
  flushRow (t.fits values) (t.checked = true ∧ ∀ r ∈ db, r.id ≠ t.id ∧ r.slug ≠ t.slug)
    (db ++ [t])

/-- The flush of a loaded row; where nothing has changed there is no statement. -/
def update (values : Values) (db : List TenantRecord) (old t : TenantRecord) :
    Except DbError (List TenantRecord) :=
  if t = old then .ok db
  else flushRow (t.fits values) (t.checked = true ∧ ∀ r ∈ db, r.id ≠ t.id → r.slug ≠ t.slug)
    (Table.replace (·.id) t db)

/-! ## Requests -/

structure TenantCreate where
  name : String
  slug : String
  plan : String
  settings : Option Dict
  maxUsers : Int
  maxCategories : Int
  maxSources : Int

def TenantCreate.valid (data : TenantCreate) : Bool :=
  decide (data.name.length ≤ 100) && decide (data.slug.length ≤ 50) &&
    decide (data.plan ∈ tenantPlans)

/-- The fields of a `TenantUpdate` that are set and not `None`. -/
structure TenantUpdate where
  name : Option String
  slug : Option String
  plan : Option String
  settings : Option Dict
  maxUsers : Option Int
  maxCategories : Option Int
  maxSources : Option Int
  isActive : Option Bool

def TenantUpdate.valid (data : TenantUpdate) : Bool :=
  data.name.all (fun s => decide (s.length ≤ 100)) &&
    data.slug.all (fun s => decide (s.length ≤ 50)) &&
    data.plan.all fun s => decide (s ∈ tenantPlans)

structure TenantResponse where
  id : String
  name : String
  slug : String
  plan : String
  settings : Dict
  maxUsers : Int
  maxCategories : Int
  maxSources : Int
  isActive : Bool
  createdAt : Int
  updatedAt : Int
  deriving DecidableEq

/-- `_tenant_to_response` -/
def tenantToResponse (t : TenantRecord) : TenantResponse where
  id := t.id
  name := t.name
  slug := t.slug
  plan := t.plan
  settings := t.settings
  maxUsers := t.maxUsers
  maxCategories := t.maxCategories
  maxSources := t.maxSources
  isActive := t.isActive
  createdAt := t.createdAt
  updatedAt := t.updatedAt

inductive AdminError where
  | unprocessable
  | forbidden (message : String)
  | validationError (message : String) (details : List (String × String))
  | notFound (message : String)
  | db (e : DbError)

/-- `require_admin` -/
def requireAdmin (role : Option String) : Except AdminError Unit :=
  if role = some "admin" then .ok () else .error (.forbidden "Admin access required")

/-- The request model of the route. -/
def validated (valid : Bool) : Except AdminError Unit :=
  if valid then .ok () else .error .unprocessable

/-- The check of a slug against the rows that have it. -/
def checkSlug (slug : String) (taken : List TenantRecord) : Except AdminError Unit :=
  match scalarOneOrNone taken with
  | .error e => .error (.db e)
  | .ok none => .ok ()
  | .ok (some _) =>
    .error (.validationError ("Tenant with slug '" ++ slug ++ "' already exists")
      [("slug", "Slug must be unique")])

/-- The tenant among the rows that a query by its key selects. -/
def oneTenant (tenantId : String) (rows : List TenantRecord) : Except AdminError TenantRecord :=
  match scalarOneOrNone rows with
  | .error e => .error (.db e)
  | .ok none => .error (.notFound ("Tenant not found: " ++ tenantId))
  | .ok (some tenant) => .ok tenant

/-- The tenant of the path. -/
def findTenant (values : Values) (db : List TenantRecord) (tenantId : String) :
    Except AdminError TenantRecord :=
  match values.uuid tenantId with
  | none => .error (.validationError ("Invalid tenant ID: " ++ tenantId) [])
  | some tid => oneTenant tenantId (db.filter (·.id = tid))

def TenantCreate.row (data : TenantCreate) (id : String) (now : Int) : TenantRecord where
  id
  name := data.name
  slug := data.slug
  plan := data.plan
  settings := data.settings.getD []
  maxUsers := data.maxUsers
  maxCategories := data.maxCategories
  maxSources := data.maxSources
  isActive := true
  createdAt := now
  updatedAt := now

/-- `setattr` for each field that is set. -/
def TenantUpdate.apply (data : TenantUpdate) (t : TenantRecord) : TenantRecord :=
  { t with
    name := data.name.getD t.name
    slug := data.slug.getD t.slug
    plan := data.plan.getD t.plan
    settings := data.settings.getD t.settings
    maxUsers := data.maxUsers.getD t.maxUsers
    maxCategories := data.maxCategories.getD t.maxCategories
    maxSources := data.maxSources.getD t.maxSources
    isActive := data.isActive.getD t.isActive }

/-- `onupdate` writes the clock when a column has changed. -/
def TenantRecord.touch (t old : TenantRecord) (now : Int) : TenantRecord :=
  if t = old then t else { t with updatedAt := now }

/-- `create_tenant`; `id` is the key that the flush gives the row. -/
def createTenant (values : Values) (role : Option String) (data : TenantCreate) (id : String)
    (now : Int) (db : List TenantRecord) :
    Except AdminError (TenantResponse × List TenantRecord) := do
  validated data.valid
  requireAdmin role
  checkSlug data.slug (db.filter (·.slug = data.slug))
  let tenant := data.row id now
  let db' ← (insert values db tenant).mapError .db
  return (tenantToResponse tenant, db')

/-- `get_tenant` -/
def getTenant (values : Values) (role : Option String) (db : List TenantRecord)
    (tenantId : String) : Except AdminError TenantResponse := do
  requireAdmin role
  let tenant ← findTenant values db tenantId
  return tenantToResponse tenant

/-- The rows that a new slug must not meet; an empty one is not checked. -/
def takenBy (db : List TenantRecord) (tenant : TenantRecord) (slug : String) : List TenantRecord :=
  if slug = "" then [] else db.filter fun t => t.slug = slug ∧ t.id ≠ tenant.id

/-- `update_tenant` -/
def updateTenant (values : Values) (role : Option String) (tenantId : String) (data : TenantUpdate)
    (now : Int) (db : List TenantRecord) :
    Except AdminError (TenantResponse × List TenantRecord) := do
  validated data.valid
  requireAdmin role
  let tenant ← findTenant values db tenantId
  let slug := data.slug.getD ""
  checkSlug slug (takenBy db tenant slug)
  let row := (data.apply tenant).touch tenant now
  let db' ← (update values db tenant row).mapError .db
  return (tenantToResponse row, db')

/-- `delete_tenant`; every foreign key to a tenant cascades. -/
def deleteTenant (values : Values) (role : Option String) (tenantId : String)
    (db : List TenantRecord) : Except AdminError (Unit × List TenantRecord) := do
  requireAdmin role
  let tenant ← findTenant values db tenantId
  if tenant.slug = "system" then
    .error (.forbidden "Cannot delete the system tenant")
  else .ok ((), db.filter (·.id ≠ tenant.id))

/-! ## Runs -/

/-- A request with the role of the user who sends it. -/
inductive AdminRequest where
  | create (role : Option String) (data : TenantCreate) (id : String) (now : Int)
  | update (role : Option String) (tenantId : String) (data : TenantUpdate) (now : Int)
  | delete (role : Option String) (tenantId : String)

/-- The answer to a request that succeeds. -/
inductive Answer where
  | created (r : TenantResponse)
  | updated (tenantId : String) (r : TenantResponse)
  | deleted (tenantId : String)

/-- The handler of a request. -/
def AdminRequest.handle (values : Values) (db : List TenantRecord) :
    AdminRequest → Except AdminError (Answer × List TenantRecord)
  | .create role data id now =>
    (createTenant values role data id now db).map fun r => (.created r.1, r.2)
  | .update role tenantId data now =>
    (updateTenant values role tenantId data now db).map fun r => (.updated tenantId r.1, r.2)
  | .delete role tenantId =>
    (deleteTenant values role tenantId db).map fun r => (.deleted tenantId, r.2)

/-- The request in a session of its own: the answer, and the committed table after it. -/
def AdminRequest.serve (values : Values) (db : List TenantRecord) (req : AdminRequest) :
    Except AdminError Answer × List TenantRecord :=
  Session.within (Session.flush fun db => req.handle values db) db

def AdminStep (values : Values) (db : List TenantRecord) (req : AdminRequest)
    (db' : List TenantRecord) : Prop :=
  db' = (req.serve values db).2

/-- What an answer says about the table is so: a created tenant is found and its slug is taken, an
updated one reads back, and a deleted one is gone. -/
def Answer.Holds (values : Values) (db : List TenantRecord) : Answer → Prop
  | .created r =>
    getTenant values (some "admin") db r.id = .ok r ∧ ∃ t ∈ db, t.slug = r.slug
  | .updated tenantId r => getTenant values (some "admin") db tenantId = .ok r
  | .deleted tenantId => ∀ r, getTenant values (some "admin") db tenantId ≠ .ok r

/-- The effect of a request lasts: what its answer says holds of the table that the next request
finds, and an error has changed nothing. -/
structure Lasts (values : Values) (db : List TenantRecord) (req : AdminRequest) : Prop where
  success : ∀ answer, (req.serve values db).1 = .ok answer →
    answer.Holds values (req.serve values db).2
  failure : ∀ e, (req.serve values db).1 = .error e → (req.serve values db).2 = db

/-- The row is the one of the path. -/
def AtPath (values : Values) (db : List TenantRecord) (tenantId : String) (t : TenantRecord) : Prop :=
  t ∈ db ∧ values.uuid tenantId = some t.id

/-- The new values can be stored. -/
def Admissible (values : Values) (db : List TenantRecord) (t : TenantRecord) : Prop :=
  t.fits values = true ∧ t.checked = true ∧ ∀ r ∈ db, r.id ≠ t.id → r.slug ≠ t.slug

/-- The requests that are not refused. -/
def Accepted (values : Values) (db : List TenantRecord) : AdminRequest → Prop
  | .create role data id now => data.valid = true ∧ role = some "admin" ∧
    (∀ t ∈ db, t.id ≠ id ∧ t.slug ≠ data.slug) ∧ (data.row id now).fits values = true
  | .update role tenantId data now => data.valid = true ∧ role = some "admin" ∧
    ∃ t, AtPath values db tenantId t ∧
      (data.apply t = t ∨ Admissible values db ((data.apply t).touch t now))
  | .delete role tenantId => role = some "admin" ∧
    ∃ t, AtPath values db tenantId t ∧ t.slug ≠ "system"

/-- An update to the values that are there. -/
def Unchanged (values : Values) (db : List TenantRecord) : AdminRequest → Prop
  | .create _ _ _ _ | .delete _ _ => False
  | .update _ tenantId data _ => ∀ t, AtPath values db tenantId t → data.apply t = t

/-- A request with nothing to commit. -/
def Idle (values : Values) (db : List TenantRecord) (req : AdminRequest) : Prop :=
  ¬ Accepted values db req ∨ Unchanged values db req

section

variable {values : Values} {db db' : List TenantRecord}

/-- Only the role `admin` is let in. -/
lemma requireAdmin_eq_ok {role : Option String} : requireAdmin role = .ok () ↔ role = some "admin" := by
  unfold requireAdmin
  split
  · rename_i h
    exact iff_of_true rfl h
  · rename_i h
    exact iff_of_false (fun h' => by cases h') h

/-- A body is taken exactly if it is valid. -/
lemma validated_eq_ok {valid : Bool} : validated valid = .ok () ↔ valid = true := by
  cases valid with
  | false => exact iff_of_false (fun h => by cases h) Bool.false_ne_true
  | true => exact iff_of_true rfl rfl

/-- A slug is free if no row has it. -/
lemma checkSlug_eq_ok {slug : String} {taken : List TenantRecord} :
    checkSlug slug taken = .ok () ↔ taken = [] := by
  cases taken with
  | nil => exact iff_of_true rfl rfl
  | cons t taken =>
    cases taken with
    | nil => exact iff_of_false (fun h => by cases h) (List.cons_ne_nil _ _)
    | cons t' taken => exact iff_of_false (fun h => by cases h) (List.cons_ne_nil _ _)

/-- The query for one row answers the row there is. -/
lemma oneTenant_eq_ok {tenantId : String} {rows : List TenantRecord} {t : TenantRecord} :
    oneTenant tenantId rows = .ok t ↔ rows = [t] := by
  cases rows with
  | nil => exact iff_of_false (fun h => by cases h) (List.cons_ne_nil _ _).symm
  | cons a rows =>
    cases rows with
    | nil =>
      constructor
      · intro h
        cases h
        rfl
      · intro h
        cases h
        rfl
    | cons b rows => exact iff_of_false (fun h => by cases h) fun h => by cases h

/-- A tenant is found exactly if its id is the one in the path. -/
lemma findTenant_eq_ok (hdb : Keyed db) {tenantId : String} {t : TenantRecord} :
    findTenant values db tenantId = .ok t ↔ AtPath values db tenantId t := by
  unfold findTenant AtPath
  cases hkey : values.uuid tenantId with
  | none => exact iff_of_false (fun h => by cases h) fun h => by cases h.2
  | some tid =>
    show oneTenant tenantId (db.filter fun t => decide (t.id = tid)) = .ok t ↔ _
    rw [oneTenant_eq_ok]
    rcases hdb.ids.scalarOneOrNone (p := fun t => decide (t.id = tid)) (k := tid)
      (fun t _ h => of_decide_eq_true h) with ⟨row, hrow, hid, hfound⟩ | ⟨hnone, hfound⟩
    · have hid : row.id = tid := of_decide_eq_true hid
      rw [Table.scalarOneOrNone_eq_some.1 hfound]
      constructor
      · intro h
        cases h
        exact ⟨hrow, congrArg some hid.symm⟩
      · rintro ⟨hmem, heq⟩
        have heq : row.id = t.id := hid.trans (Option.some.inj heq)
        rw [hdb.ids.eq_of_mem hrow hmem heq]
    · rw [Table.scalarOneOrNone_eq_none.1 hfound]
      refine iff_of_false (fun h => by cases h) ?_
      rintro ⟨hmem, heq⟩
      have hne := of_decide_eq_false (hnone t hmem)
      exact hne (Option.some.inj heq).symm

/-- An admin reads the tenant that is found. -/
lemma getTenant_eq_ok (hdb : Keyed db) {tenantId : String} {t : TenantRecord}
    (ht : AtPath values db tenantId t) :
    getTenant values (some "admin") db tenantId = .ok (tenantToResponse t) := by
  unfold getTenant
  rw [(findTenant_eq_ok hdb).2 ht]
  rfl

/-- A read leaves the table as it is. -/
lemma serve_eq (req : AdminRequest) :
    req.serve values db = ((req.handle values db).map Prod.fst, db) :=
  Session.within_flush _ db

/-- What lasts is what the table says already. -/
lemma lasts_iff_holds (req : AdminRequest) :
    Lasts values db req ↔
      ∀ answer db', req.handle values db = .ok (answer, db') → answer.Holds values db := by
  constructor
  · rintro ⟨hsuccess, -⟩ answer db' hhandle
    rw [serve_eq, hhandle] at hsuccess
    exact hsuccess answer rfl
  · intro h
    refine ⟨?_, fun e _ => by rw [serve_eq]⟩
    intro answer hanswer
    rw [serve_eq] at hanswer ⊢
    obtain ⟨⟨a, db'⟩, hhandle, rfl⟩ := map_eq_ok.1 hanswer
    exact h a db' hhandle

/-! ## What each request does -/

/-- A plan that the request model takes passes the CHECK. -/
lemma TenantCreate.row_checked {data : TenantCreate} (hvalid : data.valid = true) (id : String)
    (now : Int) : (data.row id now).checked = true :=
  (Bool.and_eq_true_iff.1 hvalid).2

/-- A tenant is created exactly if the request is accepted: its row is appended. -/
lemma createTenant_eq_ok {role : Option String} {data : TenantCreate} {id : String} {now : Int}
    {r : TenantResponse × List TenantRecord} :
    createTenant values role data id now db = .ok r ↔
      Accepted values db (.create role data id now) ∧
        r = (tenantToResponse (data.row id now), db ++ [data.row id now]) := by
  constructor
  · intro h
    obtain ⟨_, hvalid, h⟩ := bind_eq_ok.1 h
    obtain ⟨_, hrole, h⟩ := bind_eq_ok.1 h
    obtain ⟨_, hslug, h⟩ := bind_eq_ok.1 h
    obtain ⟨_, hinsert, h⟩ := bind_eq_ok.1 h
    obtain ⟨hfits, ⟨_, hfresh⟩, rfl⟩ := flush_eq_ok.1 (mapError_eq_ok.1 hinsert)
    cases h
    exact ⟨⟨validated_eq_ok.1 hvalid, requireAdmin_eq_ok.1 hrole, hfresh, hfits⟩, rfl⟩
  · rintro ⟨⟨hvalid, hrole, hfresh, hfits⟩, rfl⟩
    have hslug : db.filter (·.slug = data.slug) = [] := by
      apply List.filter_eq_nil_iff.2
      intro t ht
      simpa using (hfresh t ht).2
    have hinsert : insert values db (data.row id now) = .ok (db ++ [data.row id now]) :=
      flush_ok hfits ⟨TenantCreate.row_checked hvalid id now, hfresh⟩
    exact bind_eq_ok.2 ⟨(), validated_eq_ok.2 hvalid, bind_eq_ok.2 ⟨(), requireAdmin_eq_ok.2 hrole,
      bind_eq_ok.2 ⟨(), checkSlug_eq_ok.2 hslug,
        bind_eq_ok.2 ⟨_, mapError_eq_ok.2 hinsert, rfl⟩⟩⟩⟩

/-- The time of the update is not the slug. -/
lemma touch_slug (t old : TenantRecord) (now : Int) : (t.touch old now).slug = t.slug := by
  unfold TenantRecord.touch
  split
  · rfl
  · rfl

/-- The time of the update is not the id. -/
lemma touch_id (t old : TenantRecord) (now : Int) : (t.touch old now).id = t.id := by
  unfold TenantRecord.touch
  split
  · rfl
  · rfl

/-- The clock is not the only column that changes. -/
lemma touch_eq_old {data : TenantUpdate} {old : TenantRecord} {now : Int} :
    (data.apply old).touch old now = old ↔ data.apply old = old := by
  unfold TenantRecord.touch
  split
  · rfl
  · rename_i hne
    refine iff_of_false ?_ hne
    intro h
    apply hne
    calc data.apply old
        = { { data.apply old with updatedAt := now } with updatedAt := old.updatedAt } := rfl
      _ = { old with updatedAt := old.updatedAt } := by rw [h]
      _ = old := rfl

/-- A row that is flushed is the old one, or it is admissible and takes its place. -/
lemma update_eq_ok {old t : TenantRecord} :
    update values db old t = .ok db' ↔
      t = old ∧ db' = db ∨ t ≠ old ∧ Admissible values db t ∧ db' = Table.replace (·.id) t db := by
  unfold update
  split
  · rename_i h
    constructor
    · intro heq
      cases heq
      exact .inl ⟨h, rfl⟩
    · rintro (⟨_, rfl⟩ | ⟨hne, _⟩)
      · rfl
      · exact absurd h hne
  · rename_i h
    rw [flush_eq_ok]
    constructor
    · rintro ⟨hfits, ⟨hchecked, hfree⟩, rfl⟩
      exact .inr ⟨h, ⟨hfits, hchecked, hfree⟩, rfl⟩
    · rintro (⟨heq, _⟩ | ⟨_, ⟨hfits, hchecked, hfree⟩, rfl⟩)
      · exact absurd heq h
      · exact ⟨hfits, ⟨hchecked, hfree⟩, rfl⟩

/-- No other tenant has the slug, or it is empty and not looked for. -/
lemma takenBy_eq_nil {tenant : TenantRecord} {slug : String} :
    takenBy db tenant slug = [] ↔ slug = "" ∨ ∀ t ∈ db, t.id ≠ tenant.id → t.slug ≠ slug := by
  unfold takenBy
  split
  · rename_i h
    exact iff_of_true rfl (.inl h)
  · rename_i h
    rw [List.filter_eq_nil_iff]
    constructor
    · intro hall
      right
      intro t ht hid hslug
      exact hall t ht (decide_eq_true ⟨hslug, hid⟩)
    · rintro (hempty | hfree) t ht htaken
      · exact h hempty
      · obtain ⟨hslug, hid⟩ := of_decide_eq_true htaken
        exact hfree t ht hid hslug

/-- An accepted update answers with the row it writes. -/
lemma updateTenant_eq_ok (hdb : Keyed db) {role : Option String} {tenantId : String}
    {data : TenantUpdate} {now : Int} {r : TenantResponse × List TenantRecord}
    (h : updateTenant values role tenantId data now db = .ok r) :
    Accepted values db (.update role tenantId data now) ∧
      ∃ t, AtPath values db tenantId t ∧ r.1 = tenantToResponse ((data.apply t).touch t now) := by
  obtain ⟨_, hvalid, h⟩ := bind_eq_ok.1 h
  obtain ⟨_, hrole, h⟩ := bind_eq_ok.1 h
  obtain ⟨t, ht, h⟩ := bind_eq_ok.1 h
  obtain ⟨_, _, h⟩ := bind_eq_ok.1 h
  obtain ⟨db', hupdate, h⟩ := bind_eq_ok.1 h
  cases h
  have hpath := (findTenant_eq_ok hdb).1 ht
  refine ⟨⟨validated_eq_ok.1 hvalid, requireAdmin_eq_ok.1 hrole, t, hpath, ?_⟩, t, hpath, rfl⟩
  rcases update_eq_ok.1 (mapError_eq_ok.1 hupdate) with ⟨heq, _⟩ | ⟨_, hadmissible, _⟩
  · exact .inl (touch_eq_old.1 heq)
  · exact .inr hadmissible

/-- The new slug meets no other row. -/
lemma takenBy_of_accepted (hdb : Keyed db) {data : TenantUpdate} {t : TenantRecord} {now : Int}
    (ht : t ∈ db) (h : data.apply t = t ∨ Admissible values db ((data.apply t).touch t now)) :
    takenBy db t (data.slug.getD "") = [] := by
  apply takenBy_eq_nil.2
  cases hslug : data.slug with
  | none => exact .inl rfl
  | some slug =>
    right
    have happly : (data.apply t).slug = slug := by
      show data.slug.getD t.slug = slug
      rw [hslug]
      rfl
    show ∀ r ∈ db, r.id ≠ t.id → r.slug ≠ slug
    intro r hr hid
    rcases h with hsame | ⟨_, _, hfree⟩
    · rw [hsame] at happly
      intro heq
      have hsame := hdb.slugs.eq_of_mem hr ht (heq.trans happly.symm)
      exact hid (congrArg TenantRecord.id hsame)
    · have hfree := hfree r hr
      rw [touch_id, touch_slug, happly] at hfree
      exact hfree hid

/-- An accepted update goes through. -/
lemma updateTenant_of_accepted (hdb : Keyed db) {role : Option String} {tenantId : String}
    {data : TenantUpdate} {now : Int} (h : Accepted values db (.update role tenantId data now)) :
    ∃ r, updateTenant values role tenantId data now db = .ok r := by
  obtain ⟨hvalid, hrole, t, hpath, hwrite⟩ := h
  have hupdate : ∃ db', update values db t ((data.apply t).touch t now) = .ok db' := by
    by_cases hsame : data.apply t = t
    · exact ⟨db, update_eq_ok.2 (.inl ⟨touch_eq_old.2 hsame, rfl⟩)⟩
    · have hne : (data.apply t).touch t now ≠ t := fun heq => hsame (touch_eq_old.1 heq)
      exact ⟨_, update_eq_ok.2 (.inr ⟨hne, hwrite.resolve_left hsame, rfl⟩)⟩
  obtain ⟨db', hupdate⟩ := hupdate
  exact ⟨_, bind_eq_ok.2 ⟨(), validated_eq_ok.2 hvalid, bind_eq_ok.2 ⟨(), requireAdmin_eq_ok.2 hrole,
    bind_eq_ok.2 ⟨t, (findTenant_eq_ok hdb).2 hpath, bind_eq_ok.2
      ⟨(), checkSlug_eq_ok.2 (takenBy_of_accepted hdb hpath.1 hwrite),
        bind_eq_ok.2 ⟨_, mapError_eq_ok.2 hupdate, rfl⟩⟩⟩⟩⟩⟩

/-- A delete goes through exactly if it is accepted. -/
lemma deleteTenant_eq_ok (hdb : Keyed db) {role : Option String} {tenantId : String} :
    (∃ r, deleteTenant values role tenantId db = .ok r) ↔
      Accepted values db (.delete role tenantId) := by
  constructor
  · rintro ⟨r, h⟩
    obtain ⟨_, hrole, h⟩ := bind_eq_ok.1 h
    obtain ⟨t, ht, h⟩ := bind_eq_ok.1 h
    split at h
    · cases h
    · rename_i hsystem
      exact ⟨requireAdmin_eq_ok.1 hrole, t, (findTenant_eq_ok hdb).1 ht, hsystem⟩
  · rintro ⟨hrole, t, hpath, hsystem⟩
    exact ⟨_, bind_eq_ok.2 ⟨(), requireAdmin_eq_ok.2 hrole,
      bind_eq_ok.2 ⟨t, (findTenant_eq_ok hdb).2 hpath, if_neg hsystem⟩⟩⟩

/-- A response shows every column of its row. -/
lemma tenantToResponse_inj {t t' : TenantRecord} (h : tenantToResponse t = tenantToResponse t') :
    t = t' := by
  cases t
  cases t'
  cases h
  rfl

/-- A path is that of one tenant. -/
lemma AtPath.eq (hdb : Keyed db) {tenantId : String} {t t' : TenantRecord}
    (h : AtPath values db tenantId t) (h' : AtPath values db tenantId t') : t = t' := by
  apply hdb.ids.eq_of_mem h.1 h'.1
  exact Option.some.inj (h.2.symm.trans h'.2)

/-- The effect of a request lasts exactly when there is nothing to commit. -/
lemma lasts_iff (hdb : Keyed db) (req : AdminRequest) :
    Lasts values db req ↔ Idle values db req := by
  rw [lasts_iff_holds]
  cases req with
  | create role data id now =>
    by_cases hacc : Accepted values db (.create role data id now)
    · refine iff_of_false ?_ fun hidle => hidle.elim (fun hne => hne hacc) fun hno => hno
      intro h
      have hok := createTenant_eq_ok.2 ⟨hacc, rfl⟩
      obtain ⟨_, t, ht, hslug⟩ := h _ _ (map_eq_ok.2 ⟨_, hok, rfl⟩)
      exact (hacc.2.2.1 t ht).2 hslug
    · refine iff_of_true ?_ (.inl hacc)
      intro answer db' h
      obtain ⟨r, hr, _⟩ := map_eq_ok.1 h
      exact absurd (createTenant_eq_ok.1 hr).1 hacc
  | update role tenantId data now =>
    by_cases hacc : Accepted values db (.update role tenantId data now)
    · obtain ⟨r, hok⟩ := updateTenant_of_accepted hdb hacc
      obtain ⟨_, t, hpath, hr⟩ := updateTenant_eq_ok hdb hok
      have hget := getTenant_eq_ok hdb hpath
      constructor
      · intro h
        have hholds := h _ _ (map_eq_ok.2 ⟨r, hok, rfl⟩)
        right
        intro t' hpath'
        rw [hpath'.eq hdb hpath]
        have hresponse := hget.symm.trans hholds
        rw [hr] at hresponse
        exact touch_eq_old.1 (tenantToResponse_inj (Except.ok.inj hresponse)).symm
      · intro hidle answer db' h
        have hsame := hidle.resolve_left (fun hne => hne hacc) t hpath
        obtain ⟨r', hr', heq⟩ := map_eq_ok.1 h
        cases heq
        rw [hok] at hr'
        cases hr'
        show getTenant values (some "admin") db tenantId = .ok r.1
        rw [hget, hr, touch_eq_old.2 hsame]
    · refine iff_of_true ?_ (.inl hacc)
      intro answer db' h
      obtain ⟨r, hr, _⟩ := map_eq_ok.1 h
      exact absurd (updateTenant_eq_ok hdb hr).1 hacc
  | delete role tenantId =>
    by_cases hacc : Accepted values db (.delete role tenantId)
    · refine iff_of_false ?_ fun hidle => hidle.elim (fun hne => hne hacc) fun hno => hno
      intro h
      obtain ⟨r, hok⟩ := (deleteTenant_eq_ok hdb).2 hacc
      obtain ⟨_, t, hpath, _⟩ := hacc
      exact h _ _ (map_eq_ok.2 ⟨r, hok, rfl⟩) _ (getTenant_eq_ok hdb hpath)
    · refine iff_of_true ?_ (.inl hacc)
      intro answer db' h
      obtain ⟨r, hr, _⟩ := map_eq_ok.1 h
      exact absurd ((deleteTenant_eq_ok hdb).1 ⟨r, hr⟩) hacc

end

/-- In a run of admin requests, each in its own session, all effects last exactly when no request has
anything to commit. -/
theorem all_last_iff (values : Values) {db₀ db : List TenantRecord} {reqs : List AdminRequest}
    (h₀ : Keyed db₀) :
    Guarded (AdminStep values) (Lasts values) db₀ reqs db ↔
      Guarded (AdminStep values) (Idle values) db₀ reqs db := by
  refine Guarded.congr (W := Keyed) ?_ (fun hdb _ => lasts_iff hdb _) h₀
  intro db req db' hdb hst
  rw [show db' = db from hst.trans (by rw [serve_eq])]
  exact hdb

namespace Sample

/-- Keys that are their texts. -/
def values : Values where
  uuid := some
  jsonb _ := true

def acme : TenantCreate where
  name := "Acme"
  slug := "acme"
  plan := "free"
  settings := none
  maxUsers := 5
  maxCategories := 10
  maxSources := 50

def renameTo (name : String) : TenantUpdate where
  name := some name
  slug := none
  plan := none
  settings := none
  maxUsers := none
  maxCategories := none
  maxSources := none
  isActive := none

end Sample

open Sample

/-- A tenant is given the name it has. -/
theorem rename_to_same_lasts : ∃ db, Guarded (AdminStep values) (Lasts values) [acme.row "t1" 0]
    [.update (some "admin") "t1" (renameTo "Acme") 1] db := by
  refine ⟨_, (all_last_iff values ⟨by decide, by decide⟩).2 (.cons (.inr ?_) rfl .nil)⟩
  rintro t ⟨ht, _⟩
  rw [List.mem_singleton.1 ht]
  rfl

/-- A tenant that was created is not found by the next request. -/
theorem created_tenant_lost : ¬ ∀ reqs db, Steps (AdminStep values) [] reqs db →
    Guarded (AdminStep values) (Lasts values) [] reqs db := by
  intro h
  have hguarded := h [.create (some "admin") acme "t1" 0] _ (.cons rfl .nil)
  cases hguarded with
  | cons hlasts _ _ =>
    obtain ⟨_, t, ht, _⟩ := hlasts.success _ rfl
    cases ht

end InstantBoard.Admin
