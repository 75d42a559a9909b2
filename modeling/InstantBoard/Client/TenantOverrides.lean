import InstantBoard.Services.CategoryReads
import InstantBoard.Services.TenantSettings
import Mathlib.Data.List.DropRight

/-!
# The form for the overrides of a tenant

`TenantOverrides.vue` has two inputs for each category of the first page of the list. It fills them from
`GET /tenant/settings`, and saves them all at once with `PUT /tenant/settings`, which replaces both maps:
an input that is left empty is left out, and its override is gone.

`save_exact`: what saving comes to, for any inputs. The trimming of the form makes the validation of the
service exact. `save_untouched`: the round trip of a form nobody has touched, in which an override that
has no row does not survive.
-/

namespace InstantBoard.Client.TenantOverrides

open CategoryService (CategoryResponse CategoryTables CategoryPage ListCategories)
open TenantSettingsService AsyncSchedulerManager

/-! ## The form -/

/-- An input of type number, by what its text reads as. -/
inductive RefreshInput where
  | empty
  | integer (seconds : Int)
  /-- Anything else. -/
  | fraction
  deriving DecidableEq

/-- Whitespace and line terminators. -/
def isSpace (c : Char) : Bool :=
  let n := c.toNat
  (9 ≤ n && n ≤ 13) || n == 32 || n == 0xA0 || n == 0x1680 || (0x2000 ≤ n && n ≤ 0x200A) ||
    n == 0x2028 || n == 0x2029 || n == 0x202F || n == 0x205F || n == 0x3000 || n == 0xFEFF

/-- `String.prototype.trim` -/
def trim (s : String) : String :=
  String.ofList ((s.toList.dropWhile isSpace).rdropWhile isSpace)

/-- The state of the component. -/
structure Editor where
  categories : List CategoryResponse
  refreshInputs : String → RefreshInput
  colorInputs : String → String
  loading : Bool
  loadError : String
  saving : Bool
  saveMessage : String
  saveError : String
  saveErrorKey : Nat

def Editor.init : Editor where
  categories := []
  refreshInputs := fun _ => .empty
  colorInputs := fun _ => ""
  loading := true
  loadError := ""
  saving := false
  saveMessage := ""
  saveError := ""
  saveErrorKey := 0

namespace Editor

/-- There is a row for the slug. -/
def Shows (e : Editor) (slug : String) : Prop :=
  slug ∈ e.categories.map (·.slug)

instance (e : Editor) (slug : String) : Decidable (e.Shows slug) :=
  inferInstanceAs (Decidable (_ ∈ _))

/-- A property of an object that comes from JSON. -/
inductive Property (α : Type) where
  | own (value : α)
  /-- A function of `Object.prototype`. -/
  | inherited
  | undefined

/-- The functions of `Object.prototype`. -/
def OBJECT_PROTOTYPE : List String :=
  ["constructor", "hasOwnProperty", "isPrototypeOf", "propertyIsEnumerable", "toLocaleString",
   "toString", "valueOf", "__defineGetter__", "__defineSetter__", "__lookupGetter__",
   "__lookupSetter__"]

/-- `fields[slug]` -/
def property {α : Type} (fields : List (String × α)) (slug : String) : Property α :=
  match fields.lookup slug with
  | some value => .own value
  | none => if slug ∈ OBJECT_PROTOTYPE then .inherited else .undefined

/-- The text of an inherited function, up to its name. -/
def nativeCode : String := "function () { [native code] }"

def fillInputs (e : Editor) (settings : TenantSettingsResponse) : Editor :=
  { e with
    refreshInputs := fun slug =>
      if e.Shows slug then
        match property settings.refreshOverrides slug with
        | .own interval => .integer interval
        | .inherited => .fraction
        | .undefined => .empty
      else .empty
    colorInputs := fun slug =>
      if e.Shows slug then
        match property settings.colorOverrides slug with
        | .own color => color
        | .inherited => nativeCode
        | .undefined => ""
      else "" }

/-- `loadData`; an error comes with the message that is shown. -/
def loadData (e : Editor) (answer : Except String (CategoryPage × TenantSettingsResponse)) : Editor :=
  match answer with
  | .error message => { e with loading := false, loadError := message }
  | .ok (page, settings) =>
    { e with categories := page.data, loading := false, loadError := "" }.fillInputs settings

/-- `refreshInputs.value[slug]`: `__proto__` is no key, and reads as an object. -/
def refreshOf (e : Editor) (slug : String) : RefreshInput :=
  if slug = "__proto__" then .fraction else e.refreshInputs slug

/-- The loop of `save` over the rows. -/
def assemble (e : Editor) :
    List CategoryResponse → Dict → Dict → Except String (Dict × Dict)
  | [], refresh, color => .ok (refresh, color)
  | cat :: rows, refresh, color =>
    let rawColor := trim (e.colorInputs cat.slug)
    let color' := if rawColor ≠ "" then color.set cat.slug (.str rawColor) else color
    match e.refreshOf cat.slug with
    | .empty => e.assemble rows refresh color'
    | .integer seconds => e.assemble rows (refresh.set cat.slug (.int seconds)) color'
    | .fraction => .error ("「" ++ cat.name ++ "」的刷新频率必须是整数秒")

def payload (e : Editor) : Except String TenantSettingsUpdate :=
  (e.assemble e.categories [] []).map fun (refresh, color) =>
    { refreshOverrides := some refresh, colorOverrides := some color }

def failed (e : Editor) (message : String) : Editor :=
  { e with saving := false, saveMessage := "", saveError := message, saveErrorKey := e.saveErrorKey + 1 }

/-- `firstValidationDetail(err) || getApiErrorMessage(err, ...)` -/
def messageOf (error : ValidationError) : String :=
  match error.details with
  | some (detail :: _) => if detail.message = "" then error.message else detail.message
  | _ => error.message

end Editor

/-- How the request of `save` ends. -/
inductive Reply where
  | answers
  /-- `require_admin` -/
  | forbids
  /-- The request fails, whether or not it has been handled. -/
  | fails (handled : Bool) (message : String)

/-- `save`, with the tenants it leaves. -/
def Editor.save (e : Editor) (tenants : List TenantRow) (categories : List Category)
    (tenantId : String) (reply : Reply) : Editor × List TenantRow :=
  match e.payload with
  | .error message => (e.failed message, tenants)
  | .ok payload =>
    let (answer, tenants') := updateOverrides tenants categories tenantId payload
    match reply with
    | .forbids => (e.failed "无权限：仅租户管理员可修改覆盖配置", tenants)
    | .fails handled message => (e.failed message, if handled = true then tenants' else tenants)
    | .answers =>
      match answer with
      | .error error => (e.failed (messageOf error), tenants')
      | .ok response =>
        ({ e with saving := false, saveMessage := "已保存", saveError := "" }.fillInputs response,
          tenants')

/-! ## What the inputs say -/

namespace Editor

/-- The interval of a row. -/
def seconds (e : Editor) (slug : String) : Option Int :=
  match e.refreshOf slug with
  | .integer seconds => some seconds
  | _ => none

/-- The colour of a row. -/
def color (e : Editor) (slug : String) : Option String :=
  if trim (e.colorInputs slug) = "" then none else some (trim (e.colorInputs slug))

/-- The rows are as the form asks for: whole seconds in the limits, `#RRGGBB`, or empty. -/
structure Valid (e : Editor) : Prop where
  whole : ∀ slug, e.Shows slug → e.refreshOf slug ≠ .fraction
  refresh : ∀ slug, e.Shows slug → ∀ i, e.seconds slug = some i →
    REFRESH_OVERRIDE_MIN_SECONDS ≤ i ∧ i ≤ REFRESH_OVERRIDE_MAX_SECONDS
  color : ∀ slug, e.Shows slug → ∀ c, e.color slug = some c → HexColor c

/-! ## The request -/

/-- The entry of a row, if it has one. -/
def setEntry (d : Dict) (slug : String) (value : Option Json) : Dict :=
  match value with
  | some value => d.set slug value
  | none => d

/-- An entry is set under its own slug, and only when there is a value. -/
lemma get?_setEntry (d : Dict) (slug slug' : String) (value : Option Json) :
    (setEntry d slug value).get? slug' =
      if slug' = slug then value.or (d.get? slug') else d.get? slug' := by
  cases value with
  | none =>
    rw [Option.none_or, ite_self]
    rfl
  | some value => exact Dict.get?_set d slug slug' value

/-- An entry after a `set` is the new one or an old one. -/
lemma mem_set {d : Dict} {key : String} {value : Json} {entry : String × Json}
    (h : entry ∈ d.set key value) : entry = (key, value) ∨ entry ∈ d := by
  induction d with
  | nil => exact .inl (List.mem_singleton.1 h)
  | cons kv d ih =>
    obtain ⟨k, v⟩ := kv
    unfold Dict.set at h
    split at h
    · rename_i hk
      rcases List.mem_cons.1 h with rfl | h
      · exact .inl (by rw [hk])
      · exact .inr (List.mem_cons_of_mem _ h)
    · rcases List.mem_cons.1 h with rfl | h
      · exact .inr List.mem_cons_self
      · rcases ih h with rfl | h
        · exact .inl rfl
        · exact .inr (List.mem_cons_of_mem _ h)

/-- An entry after `setEntry` is the new one or an old one. -/
lemma mem_setEntry {d : Dict} {slug : String} {value : Option Json} {entry : String × Json}
    (h : entry ∈ setEntry d slug value) :
    (entry.1 = slug ∧ value = some entry.2) ∨ entry ∈ d := by
  cases value with
  | none => exact .inr h
  | some value =>
    rcases mem_set h with rfl | h
    · exact .inl ⟨rfl, rfl⟩
    · exact .inr h

variable {e : Editor} {cat : CategoryResponse} {rows : List CategoryResponse}
variable {refresh color refresh' color' : Dict}

/-- One category's turn: a fraction refuses, else both dicts take what was entered. -/
lemma assemble_cons : e.assemble (cat :: rows) refresh color =
    if e.refreshOf cat.slug = .fraction then
      .error ("「" ++ cat.name ++ "」的刷新频率必须是整数秒")
    else e.assemble rows (setEntry refresh cat.slug ((e.seconds cat.slug).map .int))
      (setEntry color cat.slug ((e.color cat.slug).map .str)) := by
  have hcolor : setEntry color cat.slug ((e.color cat.slug).map .str) =
      if trim (e.colorInputs cat.slug) ≠ "" then
        color.set cat.slug (.str (trim (e.colorInputs cat.slug))) else color := by
    unfold Editor.color
    by_cases hempty : trim (e.colorInputs cat.slug) = ""
    · rw [if_pos hempty, if_neg (not_not_intro hempty)]
      rfl
    · rw [if_neg hempty, if_pos hempty]
      rfl
  rw [assemble, hcolor]
  unfold seconds
  cases e.refreshOf cat.slug <;> simp [setEntry]

/-- Which entries the loop leaves. -/
lemma get?_of_assemble (h : e.assemble rows refresh color = .ok (refresh', color')) (slug : String) :
    refresh'.get? slug =
        (if slug ∈ rows.map (·.slug) then (e.seconds slug).map Json.int else none).or
          (refresh.get? slug) ∧
      color'.get? slug =
        (if slug ∈ rows.map (·.slug) then (e.color slug).map Json.str else none).or
          (color.get? slug) := by
  induction rows generalizing refresh color with
  | nil =>
    cases h
    exact ⟨rfl, rfl⟩
  | cons cat rows ih =>
    rw [assemble_cons] at h
    split at h
    · cases h
    · obtain ⟨hrefresh, hcolor⟩ := ih h
      rw [hrefresh, hcolor, get?_setEntry, get?_setEntry]
      by_cases hslug : slug = cat.slug
      · subst hslug
        simp only [List.map_cons, List.mem_cons, true_or, if_true]
        constructor <;> split <;> cases (Option.map _ _ : Option Json) <;> simp
      · simp only [List.map_cons, List.mem_cons, hslug, false_or, if_false]
        exact ⟨trivial, trivial⟩

/-- What is assembled was entered for a category shown, or was there before. -/
lemma mem_of_assemble (h : e.assemble rows refresh color = .ok (refresh', color'))
    (entry : String × Json) :
    (entry ∈ refresh' → (entry.1 ∈ rows.map (·.slug) ∧
        (e.seconds entry.1).map Json.int = some entry.2) ∨ entry ∈ refresh) ∧
      (entry ∈ color' → (entry.1 ∈ rows.map (·.slug) ∧
        (e.color entry.1).map Json.str = some entry.2) ∨ entry ∈ color) := by
  induction rows generalizing refresh color with
  | nil =>
    cases h
    exact ⟨.inr, .inr⟩
  | cons cat rows ih =>
    rw [assemble_cons] at h
    split at h
    · cases h
    · obtain ⟨hrefresh, hcolor⟩ := ih h
      have hlater {value : Option Json} {d : Dict} {slug : String} {f : String → Option Json}
          (hvalue : value = f slug) :
          (entry.1 ∈ rows.map (·.slug) ∧ f entry.1 = some entry.2) ∨ entry ∈ setEntry d slug value →
            (entry.1 ∈ slug :: rows.map (·.slug) ∧ f entry.1 = some entry.2) ∨ entry ∈ d := by
        rintro (⟨hmem, heq⟩ | hmem)
        · exact .inl ⟨List.mem_cons_of_mem _ hmem, heq⟩
        · rcases mem_setEntry hmem with ⟨rfl, heq⟩ | hmem
          · exact .inl ⟨List.mem_cons_self, hvalue ▸ heq⟩
          · exact .inr hmem
      exact ⟨fun hmem => hlater (f := fun slug => (e.seconds slug).map Json.int) rfl (hrefresh hmem),
        fun hmem => hlater (f := fun slug => (e.color slug).map Json.str) rfl (hcolor hmem)⟩

/-- The loop stops at an input that is no whole number. -/
lemma assemble_ok_iff : (∃ out, e.assemble rows refresh color = .ok out) ↔
    ∀ slug ∈ rows.map (·.slug), e.refreshOf slug ≠ .fraction := by
  induction rows generalizing refresh color with
  | nil => exact iff_of_true ⟨_, rfl⟩ fun slug h => nomatch h
  | cons cat rows ih =>
    rw [assemble_cons, List.map_cons, List.forall_mem_cons]
    split
    · rename_i hfraction
      exact iff_of_false (fun ⟨_, h⟩ => nomatch h) fun h => h.1 hfraction
    · rename_i hwhole
      rw [ih]
      exact ⟨fun h => ⟨hwhole, h⟩, fun h => h.2⟩

/-- The request has what the rows say. -/
lemma get?_of_rows (h : e.assemble e.categories [] [] = .ok (refresh, color)) (slug : String) :
    refresh.get? slug = (if e.Shows slug then (e.seconds slug).map Json.int else none) ∧
      color.get? slug = (if e.Shows slug then (e.color slug).map Json.str else none) := by
  obtain ⟨hrefresh, hcolor⟩ := get?_of_assemble h slug
  exact ⟨hrefresh.trans Option.or_none, hcolor.trans Option.or_none⟩

/-- A trimmed text does not end in a newline. -/
lemma not_colorLine_trim (s : String) : ¬ ColorLine (trim s) := by
  intro ⟨digits, _, _, heq⟩
  have htrim : (s.toList.dropWhile isSpace).rdropWhile isSpace = '#' :: (digits ++ ['\n']) := by
    rw [← heq, trim, String.toList_ofList]
  have hne : (s.toList.dropWhile isSpace).rdropWhile isSpace ≠ [] := by
    rw [htrim]
    exact List.cons_ne_nil _ _
  have hlast := List.rdropWhile_last_not isSpace _ hne
  have hnewline : ((s.toList.dropWhile isSpace).rdropWhile isSpace).getLast hne = '\n' := by
    simp only [htrim, ← List.cons_append, List.getLast_concat]
  rw [hnewline] at hlast
  exact hlast (by decide)

/-- Every row with an entry is for a category that can have one. -/
def Known (e : Editor) (slugs : List String) : Prop :=
  ∀ slug, e.Shows slug → ((e.seconds slug).isSome ∨ (e.color slug).isSome) → slug ∈ slugs

variable {slugs : List String}

/-- The service takes what the form sends exactly if the rows are valid. -/
lemma taken_iff (h : e.assemble e.categories [] [] = .ok (refresh, color)) :
    Taken slugs refresh color ↔ e.Valid ∧ e.Known slugs := by
  have hget := get?_of_rows h
  have hmem := mem_of_assemble h
  constructor
  · intro ht
    have hseconds : ∀ slug, e.Shows slug → ∀ i, e.seconds slug = some i →
        slug ∈ slugs ∧ RefreshInRange (.int i) := by
      intro slug hshows i hi
      apply ht.refresh (slug, .int i)
      apply mem_of_get?
      rw [(hget slug).1, if_pos hshows, hi]
      rfl
    have hcolor : ∀ slug, e.Shows slug → ∀ c, e.color slug = some c →
        slug ∈ slugs ∧ HexColor c := by
      intro slug hshows c hc
      have hentry : (slug, Json.str c) ∈ color := by
        apply mem_of_get?
        rw [(hget slug).2, if_pos hshows, hc]
        rfl
      obtain ⟨hslug, value, hvalue, hhex⟩ := ht.color _ hentry
      cases hvalue
      refine ⟨hslug, hhex.resolve_right ?_⟩
      unfold Editor.color at hc
      split at hc
      · cases hc
      · cases hc
        exact not_colorLine_trim _
    refine ⟨⟨assemble_ok_iff.1 ⟨_, h⟩, ?_, fun slug hshows c hc => (hcolor slug hshows c hc).2⟩, ?_⟩
    · intro slug hshows i hi
      obtain ⟨_, j, hj, hrange⟩ := hseconds slug hshows i hi
      cases hj
      exact hrange
    · intro slug hshows hentry
      rcases hentry with hentry | hentry
      · obtain ⟨i, hi⟩ := Option.isSome_iff_exists.1 hentry
        exact (hseconds slug hshows i hi).1
      · obtain ⟨c, hc⟩ := Option.isSome_iff_exists.1 hentry
        exact (hcolor slug hshows c hc).1
  · intro ⟨hvalid, hknown⟩
    constructor
    · intro entry hentry
      obtain ⟨hshows, heq⟩ | hnil := (hmem entry).1 hentry
      · obtain ⟨i, hi, heq⟩ := Option.map_eq_some_iff.1 heq
        exact ⟨hknown _ hshows (.inl (Option.isSome_of_eq_some hi)), i, heq.symm,
          hvalid.refresh _ hshows i hi⟩
      · cases hnil
    · intro entry hentry
      obtain ⟨hshows, heq⟩ | hnil := (hmem entry).2 hentry
      · obtain ⟨c, hc, heq⟩ := Option.map_eq_some_iff.1 heq
        exact ⟨hknown _ hshows (.inr (Option.isSome_of_eq_some hc)), c, heq.symm,
          .inl (hvalid.color _ hshows c hc)⟩
      · cases hnil

/-- Nothing of a colour is trimmed. -/
lemma trim_of_hexColor {c : String} (h : HexColor c) : trim c = c ∧ c ≠ "" := by
  obtain ⟨digits, _, hhex, heq⟩ := h
  have hspace : ∀ d, hexDigit d = true → isSpace d = false := by
    intro d hd
    unfold hexDigit at hd
    unfold isSpace
    simp only [Bool.or_eq_true, Bool.and_eq_true, decide_eq_true_eq] at hd
    simp only [Bool.or_eq_false_iff, Bool.and_eq_false_iff, decide_eq_false_iff_not, beq_eq_false_iff_ne]
    omega
  have hstart : c.toList.dropWhile isSpace = c.toList := by
    rw [heq]
    exact List.dropWhile_cons_of_neg (by decide)
  have hend : c.toList.rdropWhile isSpace = c.toList := by
    apply List.rdropWhile_eq_self_iff.2
    intro hne
    have hmem := List.getLast_mem hne
    generalize c.toList.getLast hne = d at hmem
    rw [heq] at hmem
    rcases List.mem_cons.1 hmem with rfl | hmem
    · decide
    · rw [hspace _ (hhex _ hmem)]
      exact Bool.false_ne_true
  constructor
  · rw [trim, hstart, hend, String.ofList_toList]
  · rintro rfl
    cases heq

/-! ## The answer -/

/-- Looking up an entry that has been extracted. -/
lemma lookup_entriesOf {α : Type} {value : Json → Option α} {fields : Dict}
    (h : ∀ field ∈ fields, ∃ a, value field.2 = some a) (slug : String) :
    (entriesOf value (some (.obj fields))).lookup slug = (Dict.get? fields slug).bind value := by
  show (fields.filterMap fun field => (value field.2).map (field.1, ·)).lookup slug = _
  induction fields with
  | nil => rfl
  | cons field fields ih =>
    obtain ⟨k, v⟩ := field
    obtain ⟨a, hvalue⟩ := h (k, v) List.mem_cons_self
    have hrest := ih fun field hfield => h field (List.mem_cons_of_mem _ hfield)
    rw [List.filterMap_cons, hvalue, Dict.get?_cons]
    by_cases hslug : slug = k
    · rw [if_pos hslug, Option.bind_some, hvalue, hslug]
      exact List.lookup_cons_self
    · rw [if_neg hslug, ← hrest]
      rw [Option.map_some, List.lookup_cons, beq_false_of_ne hslug]

variable {settings : Dict}

/-- The stored maps. -/
structure Stores (settings refresh color : Dict) : Prop where
  refresh : settings.get? "refresh_overrides" = some (.obj refresh)
  color : settings.get? "color_overrides" = some (.obj color)

/-- The settings with the overrides store the two dicts. -/
lemma stores_withOverrides : Stores (withOverrides settings refresh color) refresh color := by
  constructor
  · rw [get?_withOverrides]
    rfl
  · rw [get?_withOverrides]
    rfl

/-- What `fillInputs` shows of what is stored. -/
lemma fillInputs_extractOverrides (h : Taken slugs refresh color)
    (hstores : Stores settings refresh color) {slug : String} (hshows : e.Shows slug) :
    (e.fillInputs (extractOverrides settings)).refreshInputs slug =
        (match (refresh.get? slug).bind intValue with
        | some i => RefreshInput.integer i
        | none => if slug ∈ OBJECT_PROTOTYPE then .fraction else .empty) ∧
      (e.fillInputs (extractOverrides settings)).colorInputs slug =
        (match (color.get? slug).bind strValue with
        | some c => c
        | none => if slug ∈ OBJECT_PROTOTYPE then nativeCode else "") := by
  have hrefresh : (extractOverrides settings).refreshOverrides.lookup slug =
      (refresh.get? slug).bind intValue := by
    unfold extractOverrides
    rw [hstores.refresh]
    apply lookup_entriesOf
    intro field hfield
    obtain ⟨_, i, hi, _⟩ := h.refresh field hfield
    exact ⟨i, intValue_eq_some.2 hi⟩
  have hcolor : (extractOverrides settings).colorOverrides.lookup slug =
      (color.get? slug).bind strValue := by
    unfold extractOverrides
    rw [hstores.color]
    apply lookup_entriesOf
    intro field hfield
    obtain ⟨_, value, hvalue, _⟩ := h.color field hfield
    exact ⟨value, strValue_eq_some.2 hvalue⟩
  unfold fillInputs property
  dsimp only
  rw [if_pos hshows, if_pos hshows, hrefresh, hcolor]
  constructor
  · cases (refresh.get? slug).bind intValue with
    | some i => rfl
    | none => by_cases hslug : slug ∈ OBJECT_PROTOTYPE <;> simp only [hslug, if_true, if_false]
  · cases (color.get? slug).bind strValue with
    | some c => rfl
    | none => by_cases hslug : slug ∈ OBJECT_PROTOTYPE <;> simp only [hslug, if_true, if_false]

/-- A row that `loadData` has filled says what is stored. -/
lemma row_of_load (h : Acceptable slugs refresh color) (hstores : Stores settings refresh color)
    {page : CategoryPage} {slug : String} (hshows : slug ∈ page.data.map (·.slug))
    (hproto : slug ≠ "__proto__") (hplain : slug ∉ OBJECT_PROTOTYPE) :
    (e.loadData (.ok (page, extractOverrides settings))).refreshOf slug ≠ .fraction ∧
      ((e.loadData (.ok (page, extractOverrides settings))).seconds slug).map Json.int =
        refresh.get? slug ∧
      ((e.loadData (.ok (page, extractOverrides settings))).color slug).map Json.str =
        color.get? slug := by
  obtain ⟨hinterval, htext⟩ := @fillInputs_extractOverrides
    { e with categories := page.data, loading := false, loadError := "" } refresh color slugs settings
    h.taken hstores slug hshows
  rw [if_neg hplain] at hinterval htext
  have hof : (e.loadData (.ok (page, extractOverrides settings))).refreshOf slug =
      match (refresh.get? slug).bind intValue with
      | some i => .integer i
      | none => .empty := (if_neg hproto).trans hinterval
  have hinput : (e.loadData (.ok (page, extractOverrides settings))).colorInputs slug =
      match (color.get? slug).bind strValue with
      | some c => c
      | none => "" := htext
  unfold seconds Editor.color
  rw [hof, hinput]
  refine ⟨?_, ?_, ?_⟩
  · cases (refresh.get? slug).bind intValue <;> exact nofun
  · cases hget : refresh.get? slug with
    | none => rfl
    | some value =>
      obtain ⟨_, i, hi, _⟩ := h.refresh _ (mem_of_get? hget)
      obtain rfl : value = .int i := hi
      rfl
  · cases hget : color.get? slug with
    | none =>
      rw [Option.bind_none]
      rfl
    | some value =>
      obtain ⟨_, c, hc, hhex⟩ := h.color _ (mem_of_get? hget)
      obtain rfl : value = .str c := hc
      obtain ⟨htrim, hne⟩ := trim_of_hexColor hhex
      show Option.map Json.str (if trim c = "" then none else some (trim c)) = _
      rw [htrim, if_neg hne]
      rfl

end Editor

/-! ## Saving -/

/-- The stored override of a slug. -/
def override (settings : Dict) (map slug : String) : Option Json :=
  match settings.get? map with
  | some (.obj fields) => Dict.get? fields slug
  | _ => none

variable (e e' : Editor) (tenant : TenantRow) (tenants tenants' : List TenantRow)

/-- A save that goes through: the rows are what is stored, and what is shown. -/
structure Saved : Prop where
  message : e'.saveMessage = "已保存" ∧ e'.saveError = ""
  rows : e'.categories = e.categories
  stored : ∃ settings', tenants' = Table.replace (·.id) { tenant with settings := settings' } tenants ∧
    (∀ slug, override settings' "refresh_overrides" slug =
      if e.Shows slug then (e.seconds slug).map Json.int else none) ∧
    (∀ slug, override settings' "color_overrides" slug =
      if e.Shows slug then (e.color slug).map Json.str else none) ∧
    ∀ key, key ≠ "refresh_overrides" → key ≠ "color_overrides" →
      settings'.get? key = tenant.settings.get? key
  /-- A property of every object is shown where there is no override. -/
  shown : ∀ slug, e.Shows slug →
    e'.refreshInputs slug =
        (if e.seconds slug = none ∧ slug ∈ Editor.OBJECT_PROTOTYPE then .fraction
        else e.refreshInputs slug) ∧
      e'.colorInputs slug =
        (if e.color slug = none ∧ slug ∈ Editor.OBJECT_PROTOTYPE then Editor.nativeCode
        else trim (e.colorInputs slug))

/-- A save that changes nothing but the error that is shown. -/
structure Refused : Prop where
  message : e'.saveMessage = "" ∧ e'.saveErrorKey = e.saveErrorKey + 1
  inputs : e'.categories = e.categories ∧ e'.refreshInputs = e.refreshInputs ∧
    e'.colorInputs = e.colorInputs
  unchanged : tenants' = tenants

variable {e e' tenant tenants tenants'} {categories : List Category}

/-- An input in whole seconds shows again. -/
lemma refreshInputs_of_seconds {slug : String} (h : e.refreshOf slug ≠ .fraction) :
    e.refreshInputs slug =
      match e.seconds slug with
      | some i => .integer i
      | none => .empty := by
  have hinput : e.refreshOf slug = e.refreshInputs slug := by
    unfold Editor.refreshOf at h ⊢
    split at h
    · exact absurd rfl h
    · rw [if_neg ‹_›]
  unfold Editor.seconds
  cases hof : e.refreshOf slug with
  | empty => rw [← hinput, hof]
  | integer i => rw [← hinput, hof]
  | fraction => exact absurd hof h

/-- A colour input, trimmed, is the colour read from it. -/
lemma trim_of_color (e : Editor) (slug : String) : trim (e.colorInputs slug) =
    match e.color slug with
    | some c => c
    | none => "" := by
  unfold Editor.color
  by_cases hempty : trim (e.colorInputs slug) = ""
  · rw [if_pos hempty, hempty]
  · rw [if_neg hempty]

/-- When the service takes the payload, the save is the one promised. -/
lemma saved_of_taken {refresh color : Dict} {slugs : List String}
    (h : e.assemble e.categories [] [] = .ok (refresh, color)) (ht : Taken slugs refresh color)
    (hvalid : e.Valid) :
    Saved e
      ({ e with saving := false, saveMessage := "已保存", saveError := "" }.fillInputs
        (extractOverrides (withOverrides tenant.settings refresh color))) tenant tenants
      (Table.replace (·.id) { tenant with settings := withOverrides tenant.settings refresh color }
        tenants) := by
  refine ⟨⟨rfl, rfl⟩, rfl, ⟨_, rfl, ?_, ?_, ?_⟩, ?_⟩
  · intro slug
    rw [← (Editor.get?_of_rows h slug).1]
    unfold override
    rw [get?_withOverrides]
    rfl
  · intro slug
    rw [← (Editor.get?_of_rows h slug).2]
    unfold override
    rw [get?_withOverrides]
    rfl
  · intro key hrefresh hcolor
    rw [get?_withOverrides, if_neg hcolor, if_neg hrefresh]
  · intro slug hshows
    obtain ⟨hrefresh, hcolor⟩ := Editor.get?_of_rows h slug
    rw [if_pos hshows] at hrefresh hcolor
    have hfill := @Editor.fillInputs_extractOverrides
      { e with saving := false, saveMessage := "已保存", saveError := "" } refresh color slugs
      (withOverrides tenant.settings refresh color) ht Editor.stores_withOverrides slug hshows
    rw [hfill.1, hfill.2, hrefresh, hcolor, refreshInputs_of_seconds (hvalid.whole slug hshows),
      trim_of_color]
    constructor
    · cases e.seconds slug with
      | some i => rfl
      | none => by_cases hslug : slug ∈ Editor.OBJECT_PROTOTYPE <;> simp [hslug]
    · cases e.color slug with
      | some c => rfl
      | none => by_cases hslug : slug ∈ Editor.OBJECT_PROTOTYPE <;> simp [hslug]

/-- Valid inputs for known categories are saved. -/
lemma saved_of_valid (h : tenants.find? (·.id == tenant.id) = some tenant)
    (hsave : e.save tenants categories tenant.id .answers = (e', tenants')) (hvalid : e.Valid)
    (hknown : e.Known (validCategorySlugs categories tenant.id)) :
    Saved e e' tenant tenants tenants' := by
  unfold Editor.save Editor.payload at hsave
  obtain ⟨⟨refresh, color⟩, hrows⟩ := (@Editor.assemble_ok_iff e _ [] []).2 hvalid.whole
  have ht : Taken (validCategorySlugs categories tenant.id) refresh color :=
    (Editor.taken_iff hrows).2 ⟨hvalid, hknown⟩
  have hupdate := @updateOverrides_of_taken tenants categories tenant
    ⟨some refresh, some color⟩ h ht
  rw [hrows] at hsave
  simp only [Except.map, hupdate] at hsave
  cases hsave
  exact saved_of_taken hrows ht hvalid

/-- Any other inputs are refused and leave the tables. -/
lemma refused_of_not_valid (h : tenants.find? (·.id == tenant.id) = some tenant)
    (hsave : e.save tenants categories tenant.id .answers = (e', tenants'))
    (hnot : ¬ (e.Valid ∧ e.Known (validCategorySlugs categories tenant.id))) :
    Refused e e' tenants tenants' := by
  unfold Editor.save Editor.payload at hsave
  cases hrows : e.assemble e.categories [] [] with
  | error message =>
    rw [hrows] at hsave
    cases hsave
    exact ⟨⟨rfl, rfl⟩, ⟨rfl, rfl, rfl⟩, rfl⟩
  | ok out =>
    obtain ⟨refresh, color⟩ := out
    rw [hrows] at hsave
    have ht : ¬ Taken (validCategorySlugs categories tenant.id) refresh color := fun ht =>
      hnot ((Editor.taken_iff hrows).1 ht)
    obtain ⟨error, hupdate⟩ := @updateOverrides_of_not_taken tenants categories tenant
      ⟨some refresh, some color⟩ h ht
    simp only [Except.map, hupdate] at hsave
    cases hsave
    exact ⟨⟨rfl, rfl⟩, ⟨rfl, rfl, rfl⟩, rfl⟩

/-- A save goes through exactly if the rows are valid and those with an entry are for categories that
are there: the rows are then all the overrides the tenant has. Otherwise nothing is stored. -/
theorem save_exact (h : tenants.find? (·.id == tenant.id) = some tenant)
    (hsave : e.save tenants categories tenant.id .answers = (e', tenants')) :
    (e.Valid ∧ e.Known (validCategorySlugs categories tenant.id) →
        Saved e e' tenant tenants tenants') ∧
      (¬ (e.Valid ∧ e.Known (validCategorySlugs categories tenant.id)) →
        Refused e e' tenants tenants') :=
  ⟨fun hvalid => saved_of_valid h hsave hvalid.1 hvalid.2, refused_of_not_valid h hsave⟩

namespace Sample

open TenantSettingsService.Sample (acme finance)

/-- The row of the category. -/
def row : CategoryResponse where
  id := "2"
  name := "财经"
  slug := "finance"
  description := none
  icon := "trending-up"
  color := "#1E90FF"
  type := "finance"
  refreshIntervalSeconds := 60
  isActive := true
  sourceCount := 3
  createdAt := 0
  updatedAt := 0

def page : CategoryPage := { data := [row], total := 1, page := 1, pageSize := 100 }

/-- Two minutes, and a colour with blanks around it. -/
def filled : Editor :=
  { Editor.init with
    categories := [row]
    refreshInputs := fun slug => if slug = "finance" then .integer 120 else .empty
    colorInputs := fun slug => if slug = "finance" then " #FF0000 " else "" }

/-- The filled form is valid and its category is known. -/
lemma filled_valid : filled.Valid ∧ filled.Known (validCategorySlugs [finance] acme.id) := by
  have hrow : ∀ {slug}, filled.Shows slug → slug = "finance" := fun h => List.mem_singleton.1 h
  refine ⟨⟨?_, ?_, ?_⟩, ?_⟩
  · intro slug hshows
    cases hrow hshows
    decide
  · intro slug hshows i hi
    cases hrow hshows
    obtain rfl : 120 = i := Option.some.inj hi
    decide
  · intro slug hshows c hc
    cases hrow hshows
    have hred : filled.color "finance" = some "#FF0000" := by decide
    obtain rfl : "#FF0000" = c := Option.some.inj (hred.symm.trans hc)
    exact TenantSettingsService.Sample.red
  · intro slug hshows _
    cases hrow hshows
    decide

end Sample

open Sample TenantSettingsService.Sample in
/-- Both inputs are stored, the colour without its blanks. -/
theorem save_exact_finance : Saved filled (filled.save [acme] [finance] acme.id .answers).1 acme [acme]
    (filled.save [acme] [finance] acme.id .answers).2 :=
  (@save_exact filled _ acme [acme] _ [finance] rfl rfl).1 filled_valid

/-- A form that has just been loaded is saved as it is: what it does not show is lost. -/
theorem save_untouched (h : tenants.find? (·.id == tenant.id) = some tenant) {slugs : List String}
    {refresh color : Dict} (hstored : Acceptable slugs refresh color)
    (hstores : Editor.Stores tenant.settings refresh color) {page : CategoryPage}
    (hplain : ∀ slug ∈ page.data.map (·.slug), slug ≠ "__proto__" ∧ slug ∉ Editor.OBJECT_PROTOTYPE ∧
      slug ∈ validCategorySlugs categories tenant.id)
    (hsave : (e.loadData (.ok (page, extractOverrides tenant.settings))).save tenants categories
      tenant.id .answers = (e', tenants')) :
    ∃ settings', tenants' = Table.replace (·.id) { tenant with settings := settings' } tenants ∧
      ∀ map ∈ ["refresh_overrides", "color_overrides"], ∀ slug, override settings' map slug =
        if slug ∈ page.data.map (·.slug) then override tenant.settings map slug else none := by
  have hrow : ∀ slug ∈ page.data.map (·.slug), _ := fun slug hshows =>
    @Editor.row_of_load e refresh color slugs tenant.settings hstored hstores page slug hshows
      (hplain slug hshows).1 (hplain slug hshows).2.1
  have hvalid : (e.loadData (.ok (page, extractOverrides tenant.settings))).Valid := by
    refine ⟨fun slug hshows => (hrow slug hshows).1, ?_, ?_⟩
    · intro slug hshows i hi
      have hget := (hrow slug hshows).2.1
      rw [hi] at hget
      obtain ⟨_, j, hj, hrange⟩ := hstored.refresh _ (mem_of_get? hget.symm)
      cases hj
      exact hrange
    · intro slug hshows c hc
      have hget := (hrow slug hshows).2.2
      rw [hc] at hget
      obtain ⟨_, value, hvalue, hhex⟩ := hstored.color _ (mem_of_get? hget.symm)
      cases hvalue
      exact hhex
  have hsaved := saved_of_valid h hsave hvalid fun slug hshows _ => (hplain slug hshows).2.2
  obtain ⟨settings', htenants, hrefresh, hcolor, _⟩ := hsaved.stored
  refine ⟨settings', htenants, ?_⟩
  intro map hmap slug
  have hrefresh' : override tenant.settings "refresh_overrides" slug = refresh.get? slug := by
    unfold override
    rw [hstores.refresh]
  have hcolor' : override tenant.settings "color_overrides" slug = color.get? slug := by
    unfold override
    rw [hstores.color]
  rcases List.mem_pair.1 hmap with rfl | rfl
  · rw [hrefresh, hrefresh']
    by_cases hshows : slug ∈ page.data.map (·.slug)
    · rw [if_pos hshows, ← (hrow slug hshows).2.1]
      exact if_pos hshows
    · rw [if_neg hshows]
      exact if_neg hshows
  · rw [hcolor, hcolor']
    by_cases hshows : slug ∈ page.data.map (·.slug)
    · rw [if_pos hshows, ← (hrow slug hshows).2.2]
      exact if_pos hshows
    · rw [if_neg hshows]
      exact if_neg hshows

open Sample TenantSettingsService.Sample in
/-- The interval of the row is kept, the one of a category that is gone is not. -/
theorem save_untouched_gone :
    let initech : TenantRow :=
      { id := "7", settings := withOverrides [] [("finance", .int 120), ("gone", .int 30)] [] }
    let settled := (Editor.init.loadData (.ok (page, extractOverrides initech.settings))).save [initech]
      [finance] initech.id .answers
    ∃ settings', settled.2 =
        Table.replace (·.id) { initech with settings := settings' } [initech] ∧
      override settings' "refresh_overrides" "finance" = some (.int 120) ∧
      override settings' "refresh_overrides" "gone" = none := by
  intro initech settled
  have hstored : Acceptable ["finance", "gone"] [("finance", .int 120), ("gone", .int 30)] [] := by
    constructor
    · intro entry hentry
      rcases List.mem_pair.1 hentry with rfl | rfl
      · exact ⟨by decide, 120, rfl, by decide⟩
      · exact ⟨by decide, 30, rfl, by decide⟩
    · intro entry hentry
      cases hentry
  have hplain : ∀ slug ∈ page.data.map (·.slug), slug ≠ "__proto__" ∧
      slug ∉ Editor.OBJECT_PROTOTYPE ∧ slug ∈ validCategorySlugs [finance] initech.id := by
    intro slug hslug
    obtain rfl : slug = "finance" := List.mem_singleton.1 hslug
    decide
  obtain ⟨settings', htenants, hkept⟩ := @save_untouched Editor.init settled.1 initech [initech]
    settled.2 [finance] rfl _ _ _ hstored Editor.stores_withOverrides page hplain rfl
  refine ⟨settings', htenants, ?_, ?_⟩
  · exact hkept "refresh_overrides" List.mem_cons_self "finance"
  · exact hkept "refresh_overrides" List.mem_cons_self "gone"

end InstantBoard.Client.TenantOverrides
