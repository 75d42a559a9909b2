import InstantBoard.Lib.Table
import InstantBoard.Scheduler.Jobs

/-!
# The settings of a tenant

`TenantSettingsService.update_overrides` with its validation, `extract_overrides`, and what
`resolve_effective_interval` makes of an override. The pattern for colours also takes a newline at the
end, and the scheduler passes over the empty slug; apart from these the three take the same values
(`overrides_exact_iff`).
-/

namespace InstantBoard.TenantSettingsService

open AsyncSchedulerManager

/-- The columns of `tenants` that are read or written here. -/
structure TenantRow where
  id : String
  settings : Dict
  deriving DecidableEq

/-- The body of `PUT /tenant/settings`. -/
structure TenantSettingsUpdate where
  refreshOverrides : Option Dict
  colorOverrides : Option Dict

structure TenantSettingsResponse where
  refreshOverrides : List (String × Int)
  colorOverrides : List (String × String)

structure Detail where
  field : String
  message : String

structure ValidationError where
  message : String
  details : Option (List Detail)

/-! ## The code -/

/-- `[0-9a-fA-F]` -/
def hexDigit (c : Char) : Bool :=
  (48 ≤ c.toNat && c.toNat ≤ 57) || (97 ≤ c.toNat && c.toNat ≤ 102) ||
    (65 ≤ c.toNat && c.toNat ≤ 70)

/-- `COLOR_PATTERN.match(value)`; `$` is at the end of the text and before a newline that ends it. -/
def colorPattern (value : String) : Bool :=
  match value.toList with
  | '#' :: rest =>
    decide ((rest.take 6).length = 6) && (rest.take 6).all hexDigit &&
      (decide (rest.drop 6 = []) || decide (rest.drop 6 = ['\n']))
  | _ => false

/-- The entries of a stored map whose values are of one type. -/
def entriesOf {α : Type} (value : Json → Option α) (raw : Option Json) : List (String × α) :=
  match raw with
  | some (.obj fields) => fields.filterMap fun field => (value field.2).map (field.1, ·)
  | _ => []

def intValue : Json → Option Int
  | .int i => some i
  | _ => none

def strValue : Json → Option String
  | .str s => some s
  | _ => none

/-- `extract_overrides`. -/
def extractOverrides (settings : Dict) : TenantSettingsResponse :=
  { refreshOverrides := entriesOf intValue (settings.get? "refresh_overrides")
    colorOverrides := entriesOf strValue (settings.get? "color_overrides") }

/-- `_valid_category_slugs`. -/
def validCategorySlugs (categories : List Category) (tenantId : String) : List String :=
  (categories.filter fun c => c.tenantId == tenantId || c.tenantId == SYSTEM_TENANT_ID).map (·.slug)

/-- The first check of an entry of either map. -/
def slugDetails (field : String) (validSlugs : List String) (slug : String) : List Detail :=
  if slug ∈ validSlugs then []
  else [⟨field ++ "." ++ slug,
    "Unknown category slug '" ++ slug ++ "' (must be a system or own category)"⟩]

def refreshDetails (validSlugs : List String) (entry : String × Json) : List Detail :=
  slugDetails "refresh_overrides" validSlugs entry.1 ++
    match intValue entry.2 with
    | none =>
      [⟨"refresh_overrides." ++ entry.1, "Refresh override must be an integer number of seconds"⟩]
    | some i =>
      if REFRESH_OVERRIDE_MIN_SECONDS ≤ i ∧ i ≤ REFRESH_OVERRIDE_MAX_SECONDS then []
      else [⟨"refresh_overrides." ++ entry.1,
        "Refresh override must be between 10 and 86400 seconds"⟩]

def colorDetails (validSlugs : List String) (entry : String × Json) : List Detail :=
  slugDetails "color_overrides" validSlugs entry.1 ++
    if (strValue entry.2).any colorPattern then []
    else [⟨"color_overrides." ++ entry.1, "Color override must match #RRGGBB (e.g. #FF0000)"⟩]

/-- `_validate_overrides`: the details of the error. -/
def validateOverrides (validSlugs : List String) (refreshOverrides colorOverrides : Dict) :
    List Detail :=
  refreshOverrides.flatMap (refreshDetails validSlugs) ++
    colorOverrides.flatMap (colorDetails validSlugs)

/-- The settings with the two maps replaced. -/
def withOverrides (settings : Dict) (refreshOverrides colorOverrides : Dict) : Dict :=
  (settings.set "refresh_overrides" (.obj refreshOverrides)).set "color_overrides"
    (.obj colorOverrides)

/-- `update_overrides`: the answer and the table. -/
def updateOverrides (tenants : List TenantRow) (categories : List Category) (tenantId : String)
    (data : TenantSettingsUpdate) :
    Except ValidationError TenantSettingsResponse × List TenantRow :=
  match tenants.find? (·.id == tenantId) with
  | none => (.error ⟨"Tenant not found: " ++ tenantId, none⟩, tenants)
  | some tenant =>
    let refreshOverrides := data.refreshOverrides.getD []
    let colorOverrides := data.colorOverrides.getD []
    let details := validateOverrides (validCategorySlugs categories tenantId) refreshOverrides
      colorOverrides
    if details.isEmpty then
      let tenant := { tenant with
        settings := withOverrides tenant.settings refreshOverrides colorOverrides }
      (.ok (extractOverrides tenant.settings), Table.replace (·.id) tenant tenants)
    else (.error ⟨"Tenant settings validation failed", some details⟩, tenants)

/-! ## What an override should be -/

/-- `#` and six hexadecimal digits. -/
def HexColor (value : String) : Prop :=
  ∃ digits : List Char, digits.length = 6 ∧ (∀ d ∈ digits, hexDigit d = true) ∧
    value.toList = '#' :: digits

/-- A colour and a newline. -/
def ColorLine (value : String) : Prop :=
  ∃ digits : List Char, digits.length = 6 ∧ (∀ d ∈ digits, hexDigit d = true) ∧
    value.toList = '#' :: (digits ++ ['\n'])

/-- The pattern takes hex colours, with a newline behind or not. -/
lemma colorPattern_iff (value : String) :
    colorPattern value = true ↔ HexColor value ∨ ColorLine value := by
  unfold colorPattern HexColor ColorLine
  split
  next rest heq =>
    simp only [Bool.and_eq_true, Bool.or_eq_true, decide_eq_true_eq, List.all_eq_true]
    constructor
    · intro ⟨⟨hlen, hall⟩, hend⟩
      have hrest := List.take_append_drop 6 rest
      rcases hend with hend | hend
      · left
        refine ⟨rest.take 6, hlen, hall, ?_⟩
        rw [hend, List.append_nil] at hrest
        rw [heq, hrest]
      · right
        refine ⟨rest.take 6, hlen, hall, ?_⟩
        rw [hend] at hrest
        rw [heq, hrest]
    · intro h
      rcases h with ⟨digits, hlen, hall, hvalue⟩ | ⟨digits, hlen, hall, hvalue⟩
      · obtain rfl : rest = digits := List.tail_eq_of_cons_eq (heq.symm.trans hvalue)
        rw [List.take_of_length_le hlen.le, List.drop_of_length_le hlen.le]
        exact ⟨⟨hlen, hall⟩, .inl rfl⟩
      · obtain rfl : rest = digits ++ ['\n'] := List.tail_eq_of_cons_eq (heq.symm.trans hvalue)
        rw [List.take_left' hlen, List.drop_left' hlen]
        exact ⟨⟨hlen, hall⟩, .inr rfl⟩
  next hnot =>
    apply iff_of_false nofun
    intro h
    rcases h with ⟨digits, _, _, hvalue⟩ | ⟨digits, _, _, hvalue⟩
    · exact hnot _ hvalue
    · exact hnot _ hvalue

/-- A hex colour has no newline behind. -/
lemma HexColor.not_colorLine {value : String} (h : HexColor value) : ¬ ColorLine value := by
  obtain ⟨digits, hlen, _, hvalue⟩ := h
  intro ⟨digits', hlen', _, hvalue'⟩
  have hlength := congrArg List.length (hvalue.symm.trans hvalue')
  rw [List.length_cons, List.length_cons, List.length_append, hlen, hlen'] at hlength
  cases hlength

/-- An integer in the limits. -/
def RefreshInRange (value : Json) : Prop :=
  ∃ i, value = .int i ∧ REFRESH_OVERRIDE_MIN_SECONDS ≤ i ∧ i ≤ REFRESH_OVERRIDE_MAX_SECONDS

/-- Every entry of both maps is for a slug there is and has a value of its kind. -/
structure Fits (color : String → Prop) (validSlugs : List String)
    (refreshOverrides colorOverrides : Dict) : Prop where
  refresh : ∀ entry ∈ refreshOverrides, entry.1 ∈ validSlugs ∧ RefreshInRange entry.2
  color : ∀ entry ∈ colorOverrides, entry.1 ∈ validSlugs ∧
    ∃ value, entry.2 = .str value ∧ color value

/-- What a request should be to be accepted. -/
abbrev Acceptable := Fits HexColor

/-- What it has to be: a colour may end in a newline. -/
abbrev Taken := Fits fun value => HexColor value ∨ ColorLine value

variable {validSlugs : List String} {refreshOverrides colorOverrides settings : Dict}

/-- What is acceptable is taken. -/
lemma Acceptable.taken (h : Acceptable validSlugs refreshOverrides colorOverrides) :
    Taken validSlugs refreshOverrides colorOverrides := by
  refine ⟨h.refresh, ?_⟩
  intro entry hentry
  obtain ⟨hslug, value, hvalue, hcolor⟩ := h.color entry hentry
  exact ⟨hslug, value, hvalue, .inl hcolor⟩

/-! ## The validation -/

/-- A slug is not complained of if it is valid. -/
lemma slugDetails_eq_nil {field slug : String} : slugDetails field validSlugs slug = [] ↔
    slug ∈ validSlugs := by
  unfold slugDetails
  split
  · exact iff_of_true rfl ‹_›
  · exact iff_of_false nofun ‹_›

/-- Only an integer is read as one. -/
lemma intValue_eq_some {value : Json} {i : Int} : intValue value = some i ↔ value = .int i := by
  cases value <;> simp [intValue]

/-- Only a string is read as one. -/
lemma strValue_eq_some {value : Json} {text : String} :
    strValue value = some text ↔ value = .str text := by
  cases value <;> simp [strValue]

/-- A refresh entry is not complained of if it is in range. -/
lemma refreshDetails_eq_nil {entry : String × Json} : refreshDetails validSlugs entry = [] ↔
    entry.1 ∈ validSlugs ∧ RefreshInRange entry.2 := by
  unfold refreshDetails RefreshInRange
  rw [List.append_eq_nil_iff, slugDetails_eq_nil]
  apply and_congr_right
  intro _
  cases hvalue : intValue entry.2 with
  | none =>
    apply iff_of_false nofun
    intro ⟨i, heq, _⟩
    rw [intValue_eq_some.2 heq] at hvalue
    cases hvalue
  | some i =>
    have heq := intValue_eq_some.1 hvalue
    dsimp only
    split
    next hrange => exact iff_of_true rfl ⟨i, heq, hrange⟩
    next hrange =>
      apply iff_of_false nofun
      intro ⟨j, hj, hin⟩
      rw [heq] at hj
      cases hj
      exact hrange hin

/-- A colour entry is not complained of if its pattern is right. -/
lemma colorDetails_eq_nil {entry : String × Json} : colorDetails validSlugs entry = [] ↔
    entry.1 ∈ validSlugs ∧ ∃ value, entry.2 = .str value ∧ (HexColor value ∨ ColorLine value) := by
  unfold colorDetails
  rw [List.append_eq_nil_iff, slugDetails_eq_nil]
  apply and_congr_right
  intro _
  have hany : (strValue entry.2).any colorPattern = true ↔
      ∃ value, entry.2 = .str value ∧ (HexColor value ∨ ColorLine value) := by
    rw [Option.any_eq_true]
    simp only [strValue_eq_some, colorPattern_iff]
  rw [← hany]
  split
  · exact iff_of_true rfl ‹_›
  · exact iff_of_false nofun ‹_›

/-- A request passes the validation exactly if it fits, up to a newline after a colour. -/
lemma validateOverrides_eq_nil :
    validateOverrides validSlugs refreshOverrides colorOverrides = [] ↔
      Taken validSlugs refreshOverrides colorOverrides := by
  unfold validateOverrides
  rw [List.append_eq_nil_iff, List.flatMap_eq_nil_iff, List.flatMap_eq_nil_iff]
  simp only [refreshDetails_eq_nil, colorDetails_eq_nil]
  exact ⟨fun h => ⟨h.1, h.2⟩, fun h => ⟨h.refresh, h.color⟩⟩

/-- Every detail names the map and the entry it is about. -/
lemma field_of_detail {detail : Detail}
    (h : detail ∈ validateOverrides validSlugs refreshOverrides colorOverrides) :
    (∃ entry ∈ refreshOverrides, detail.field = "refresh_overrides." ++ entry.1) ∨
      ∃ entry ∈ colorOverrides, detail.field = "color_overrides." ++ entry.1 := by
  have hslug : ∀ {field slug : String}, detail ∈ slugDetails field validSlugs slug →
      detail.field = field ++ "." ++ slug := by
    intro field slug hmem
    unfold slugDetails at hmem
    split at hmem
    · cases hmem
    · rw [List.mem_singleton.1 hmem]
  rcases List.mem_append.1 h with h | h
  · left
    obtain ⟨entry, hentry, hdetail⟩ := List.mem_flatMap.1 h
    refine ⟨entry, hentry, ?_⟩
    rcases List.mem_append.1 hdetail with hdetail | hdetail
    · exact hslug hdetail
    · split at hdetail
      · rw [List.mem_singleton.1 hdetail]
      · split at hdetail
        · cases hdetail
        · rw [List.mem_singleton.1 hdetail]
  · right
    obtain ⟨entry, hentry, hdetail⟩ := List.mem_flatMap.1 h
    refine ⟨entry, hentry, ?_⟩
    rcases List.mem_append.1 hdetail with hdetail | hdetail
    · exact hslug hdetail
    · split at hdetail
      · cases hdetail
      · rw [List.mem_singleton.1 hdetail]

/-! ## Reading back -/

/-- The settings with the overrides, key by key. -/
lemma get?_withOverrides (settings refreshOverrides colorOverrides : Dict) (key : String) :
    (withOverrides settings refreshOverrides colorOverrides).get? key =
      if key = "color_overrides" then some (.obj colorOverrides)
      else if key = "refresh_overrides" then some (.obj refreshOverrides)
      else settings.get? key := by
  unfold withOverrides
  rw [Dict.get?_set, Dict.get?_set]

/-- The entries of a map whose values are all of the type are all of its entries. -/
lemma map_entriesOf {α : Type} {value : Json → Option α} {back : α → Json} {fields : Dict}
    (h : ∀ field ∈ fields, ∃ a, value field.2 = some a ∧ back a = field.2) :
    (entriesOf value (some (.obj fields))).map (fun entry => (entry.1, back entry.2)) = fields := by
  show (fields.filterMap fun field => (value field.2).map (field.1, ·)).map _ = fields
  induction fields with
  | nil => rfl
  | cons field fields ih =>
    obtain ⟨a, hvalue, hback⟩ := h field List.mem_cons_self
    have hrest := ih fun field' hfield' => h field' (List.mem_cons_of_mem field hfield')
    simp only [List.filterMap_cons, hvalue, Option.map_some, List.map_cons, hback]
    rw [hrest]

/-- What is read is an entry. -/
lemma mem_of_get? {d : Dict} {key : String} {value : Json} (h : d.get? key = some value) :
    (key, value) ∈ d := by
  induction d with
  | nil => cases h
  | cons entry d ih =>
    rw [Dict.get?_cons] at h
    split at h
    next hkey =>
      cases h
      rw [hkey]
      exact List.mem_cons_self
    next => exact List.mem_cons_of_mem entry (ih h)

/-- An override in range is what the scheduler takes, unless its slug is empty. -/
lemma resolveEffectiveInterval_override {slug : String} {i : Int} (hslug : slug ≠ "")
    (hset : settings.get? "refresh_overrides" = some (.obj refreshOverrides))
    (hget : Dict.get? refreshOverrides slug = some (.int i))
    (hrange : REFRESH_OVERRIDE_MIN_SECONDS ≤ i ∧ i ≤ REFRESH_OVERRIDE_MAX_SECONDS)
    (sourceInterval : Option Int) (sourceType : String) :
    resolveEffectiveInterval sourceInterval sourceType slug (some settings) = i := by
  have hoverride : refreshOverride slug (some settings) = some i := by
    unfold refreshOverride
    rw [Option.bind_some, hset]
    dsimp only
    rw [hget]
    exact if_pos hrange
  unfold resolveEffectiveInterval
  rw [if_neg hslug, hoverride]

/-- The empty slug has no override. -/
lemma resolveEffectiveInterval_empty {i : Int} (h : REFRESH_OVERRIDE_MIN_SECONDS ≤ i)
    (sourceType : String) (tenantSettings : Option Dict) :
    resolveEffectiveInterval (some i) sourceType "" tenantSettings = i := by
  unfold resolveEffectiveInterval
  have hne : i ≠ 0 := by
    unfold REFRESH_OVERRIDE_MIN_SECONDS at h
    omega
  dsimp only
  exact if_pos ⟨hne, h⟩

/-! ## One request -/

/-- What an accepted request leaves in the settings. -/
structure Honoured (settings settings' refreshOverrides colorOverrides : Dict)
    (response : TenantSettingsResponse) : Prop where
  others : ∀ key, key ≠ "refresh_overrides" → key ≠ "color_overrides" →
    settings'.get? key = settings.get? key
  response_eq : response = extractOverrides settings'
  refresh : response.refreshOverrides.map (fun entry => (entry.1, Json.int entry.2)) =
    refreshOverrides
  color : response.colorOverrides.map (fun entry => (entry.1, Json.str entry.2)) = colorOverrides
  /-- The scheduler takes every override, for a row and for the payload of an event. -/
  row : ∀ slug i, Dict.get? refreshOverrides slug = some (.int i) →
    ∀ sourceInterval sourceType,
      resolveEffectiveInterval sourceInterval sourceType slug (some settings') = i
  payload : ∀ source i,
    Dict.get? refreshOverrides (textField source "category_slug") = some (.int i) →
      sourceInterval source (some settings') = i

/-- What a request to a tenant's row should do. -/
structure Exact (tenants : List TenantRow) (categories : List Category) (tenant : TenantRow)
    (data : TenantSettingsUpdate) : Prop where
  succeeds_iff :
    (∃ response, (updateOverrides tenants categories tenant.id data).1 = .ok response) ↔
      Acceptable (validCategorySlugs categories tenant.id) (data.refreshOverrides.getD [])
        (data.colorOverrides.getD [])
  honoured : ∀ response, (updateOverrides tenants categories tenant.id data).1 = .ok response →
    ∃ settings', (updateOverrides tenants categories tenant.id data).2 =
        Table.replace (·.id) { tenant with settings := settings' } tenants ∧
      Honoured tenant.settings settings' (data.refreshOverrides.getD [])
        (data.colorOverrides.getD []) response
  unchanged : ∀ e, (updateOverrides tenants categories tenant.id data).1 = .error e →
    (updateOverrides tenants categories tenant.id data).2 = tenants

variable {tenants : List TenantRow} {categories : List Category} {tenant : TenantRow}
variable {data : TenantSettingsUpdate}

/-- Overrides that are taken are stored and answered. -/
lemma updateOverrides_of_taken (h : tenants.find? (·.id == tenant.id) = some tenant)
    (ht : Taken (validCategorySlugs categories tenant.id) (data.refreshOverrides.getD [])
      (data.colorOverrides.getD [])) :
    updateOverrides tenants categories tenant.id data =
      (.ok (extractOverrides (withOverrides tenant.settings (data.refreshOverrides.getD [])
        (data.colorOverrides.getD []))),
      Table.replace (·.id) { tenant with
        settings := withOverrides tenant.settings (data.refreshOverrides.getD [])
          (data.colorOverrides.getD []) } tenants) := by
  unfold updateOverrides
  rw [h]
  dsimp only
  rw [validateOverrides_eq_nil.2 ht]
  rfl

/-- Any other ones are refused and change nothing. -/
lemma updateOverrides_of_not_taken (h : tenants.find? (·.id == tenant.id) = some tenant)
    (ht : ¬ Taken (validCategorySlugs categories tenant.id) (data.refreshOverrides.getD [])
      (data.colorOverrides.getD [])) :
    ∃ e, updateOverrides tenants categories tenant.id data = (.error e, tenants) := by
  unfold updateOverrides
  rw [h]
  dsimp only
  rw [if_neg]
  · exact ⟨_, rfl⟩
  · intro hempty
    exact ht (validateOverrides_eq_nil.1 (List.isEmpty_iff.1 hempty))

/-- What is written is read back, and taken by the scheduler if no override is for the empty slug. -/
lemma honoured_withOverrides (settings : Dict)
    (h : Taken validSlugs refreshOverrides colorOverrides)
    (hempty : Dict.get? refreshOverrides "" = none) :
    Honoured settings (withOverrides settings refreshOverrides colorOverrides) refreshOverrides
      colorOverrides (extractOverrides (withOverrides settings refreshOverrides colorOverrides)) := by
  have hrefresh : (withOverrides settings refreshOverrides colorOverrides).get?
      "refresh_overrides" = some (.obj refreshOverrides) := by
    rw [get?_withOverrides]
    rfl
  have hcolor : (withOverrides settings refreshOverrides colorOverrides).get?
      "color_overrides" = some (.obj colorOverrides) := by
    rw [get?_withOverrides]
    rfl
  have hrow : ∀ slug i, Dict.get? refreshOverrides slug = some (.int i) →
      ∀ sourceInterval sourceType, resolveEffectiveInterval sourceInterval sourceType slug
        (some (withOverrides settings refreshOverrides colorOverrides)) = i := by
    intro slug i hget
    obtain ⟨_, j, hj, hrange⟩ := h.refresh (slug, .int i) (mem_of_get? hget)
    cases hj
    apply resolveEffectiveInterval_override _ hrefresh hget hrange
    rintro rfl
    rw [hempty] at hget
    cases hget
  refine ⟨?_, rfl, ?_, ?_, hrow, ?_⟩
  · intro key hr hc
    rw [get?_withOverrides, if_neg hc, if_neg hr]
  · unfold extractOverrides
    dsimp only
    rw [hrefresh]
    apply map_entriesOf
    intro entry hentry
    obtain ⟨_, i, hi, _⟩ := h.refresh entry hentry
    exact ⟨i, intValue_eq_some.2 hi, hi.symm⟩
  · unfold extractOverrides
    dsimp only
    rw [hcolor]
    apply map_entriesOf
    intro entry hentry
    obtain ⟨_, value, hvalue, _⟩ := h.color entry hentry
    exact ⟨value, strValue_eq_some.2 hvalue, hvalue.symm⟩
  · intro source i hget
    exact hrow _ i hget _ _

/-- A request does what it should exactly if, where it is accepted, no colour ends in a newline and no
interval is for the empty slug. -/
theorem overrides_exact_iff (h : tenants.find? (·.id == tenant.id) = some tenant) :
    Exact tenants categories tenant data ↔
      (Taken (validCategorySlugs categories tenant.id) (data.refreshOverrides.getD [])
          (data.colorOverrides.getD []) →
        (∀ entry ∈ data.colorOverrides.getD [], ∀ value, entry.2 = .str value → ¬ ColorLine value) ∧
          Dict.get? (data.refreshOverrides.getD []) "" = none) := by
  constructor
  · intro hexact ht
    have heq := updateOverrides_of_taken h ht
    have hok := congrArg Prod.fst heq
    constructor
    · intro entry hentry value hvalue
      obtain ⟨_, value', hvalue', hcolor⟩ := (hexact.succeeds_iff.1 ⟨_, hok⟩).color entry hentry
      rw [hvalue] at hvalue'
      cases hvalue'
      exact hcolor.not_colorLine
    · apply Option.eq_none_iff_forall_ne_some.2
      intro value hget
      obtain ⟨_, i, rfl, hmin, _⟩ := ht.refresh _ (mem_of_get? hget)
      obtain ⟨settings', _, hhonoured⟩ := hexact.honoured _ hok
      have hrow := hhonoured.row "" i hget (some (i + 1)) "rss"
      rw [resolveEffectiveInterval_empty (by omega)] at hrow
      omega
  · intro hcond
    by_cases ht : Taken (validCategorySlugs categories tenant.id) (data.refreshOverrides.getD [])
        (data.colorOverrides.getD [])
    · obtain ⟨hline, hempty⟩ := hcond ht
      have heq := updateOverrides_of_taken h ht
      have hacceptable : Acceptable (validCategorySlugs categories tenant.id)
          (data.refreshOverrides.getD []) (data.colorOverrides.getD []) := by
        refine ⟨ht.refresh, ?_⟩
        intro entry hentry
        obtain ⟨hslug, value, hvalue, hcolor⟩ := ht.color entry hentry
        exact ⟨hslug, value, hvalue, hcolor.resolve_right (hline entry hentry value hvalue)⟩
      refine ⟨?_, ?_, ?_⟩
      · rw [heq]
        exact iff_of_true ⟨_, rfl⟩ hacceptable
      · intro response hresponse
        rw [heq] at hresponse ⊢
        cases hresponse
        exact ⟨_, rfl, honoured_withOverrides tenant.settings ht hempty⟩
      · intro e he
        rw [heq] at he
        cases he
    · obtain ⟨e, heq⟩ := updateOverrides_of_not_taken h ht
      refine ⟨?_, ?_, ?_⟩
      · rw [heq]
        apply iff_of_false nofun
        exact fun ha => ht ha.taken
      · intro response hresponse
        rw [heq] at hresponse
        cases hresponse
      · intro e' _
        rw [heq]

namespace Sample

def acme : TenantRow := { id := "1", settings := [("color_scheme", .str "international")] }

def finance : Category :=
  { id := "2", tenantId := SYSTEM_TENANT_ID, slug := "finance", type := "finance",
    refreshIntervalSeconds := 60, keywordsFilter := [] }

/-- An interval and a colour for the category. -/
def request (color : String) : TenantSettingsUpdate :=
  { refreshOverrides := some [("finance", .int 60)],
    colorOverrides := some [("finance", .str color)] }

/-- The sample overrides are taken with a newline behind the colour too. -/
lemma taken {color : String} (h : HexColor color ∨ ColorLine color) :
    Taken (validCategorySlugs [finance] acme.id) [("finance", .int 60)]
      [("finance", .str color)] := by
  have hslug : "finance" ∈ validCategorySlugs [finance] acme.id := by decide
  constructor
  · intro entry hentry
    rw [List.mem_singleton.1 hentry]
    exact ⟨hslug, 60, rfl, by decide⟩
  · intro entry hentry
    rw [List.mem_singleton.1 hentry]
    exact ⟨hslug, color, rfl, h⟩

def digits : List Char := ['F', 'F', '0', '0', '0', '0']

/-- The digits of the sample are hexadecimal. -/
lemma digits_hex : ∀ d ∈ digits, hexDigit d = true :=
  List.all_eq_true.1 (by decide)

/-- Red is a hex colour. -/
lemma red : HexColor "#FF0000" :=
  ⟨digits, rfl, digits_hex, by decide⟩

/-- Red with a newline behind is not, but the pattern takes it. -/
lemma redLine : ColorLine "#FF0000\n" :=
  ⟨digits, rfl, digits_hex, by decide⟩

end Sample

open Sample in
/-- An interval of a minute and red. -/
theorem red_exact : Exact [acme] [finance] acme (request "#FF0000") := by
  apply (overrides_exact_iff rfl).2
  intro _
  constructor
  · intro entry hentry value hvalue
    rw [List.mem_singleton.1 hentry] at hvalue
    cases hvalue
    exact red.not_colorLine
  · rfl

open Sample in
/-- Red with a newline is accepted as well. -/
theorem newline_not_exact :
    ¬ ∀ (tenants : List TenantRow) (categories : List Category) (tenant : TenantRow)
      (data : TenantSettingsUpdate), tenants.find? (·.id == tenant.id) = some tenant →
        Exact tenants categories tenant data := by
  intro h
  have hexact := h [acme] [finance] acme (request "#FF0000\n") rfl
  have heq := @updateOverrides_of_taken [acme] [finance] acme (request "#FF0000\n") rfl
    (taken (.inr redLine))
  have hacceptable := hexact.succeeds_iff.1 ⟨_, congrArg Prod.fst heq⟩
  obtain ⟨_, value, hvalue, hcolor⟩ := hacceptable.color _ List.mem_cons_self
  cases hvalue
  exact hcolor.not_colorLine redLine

end InstantBoard.TenantSettingsService
