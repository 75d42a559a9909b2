import InstantBoard.Columns
import InstantBoard.Lib.Edits
import InstantBoard.Lib.ReadCommitted

/-!
# The tags of an item

`add_tag` and `remove_tag` of `ItemService` read the list of tags of an item, check it and write it back
as a whole, each in a transaction of its own. Nothing is locked in between, so what others commit after
the read is overwritten.

`undisturbed_iff`: the lists are in every state what the answered requests make of them one after the
other exactly when no request is disturbed, that is, when the list it has read is still there as far as
it decides what is written.
-/

namespace InstantBoard.ItemService

open Edits ReadCommitted Transition

def MAX_ITEM_TAGS : Nat := 20

/-- `USER_TAG_PATTERN.fullmatch(tag)` -/
def userTagPattern (tag : String) : Bool :=
  decide (1 ≤ tag.length ∧ tag.length ≤ 32) &&
    tag.toList.all fun c => ('a' ≤ c && c ≤ 'z') || ('0' ≤ c && c ≤ '9') || c = '-'

/-- What the service reads and writes of a row of `items`. -/
structure TaggedItem where
  id : String
  tenantId : String
  topicTags : Option (List String)
deriving DecidableEq

inductive ItemError where
  | validationError (message : String) (details : List (String × String))
  | itemNotFound (message : String)
  | db (e : DbError)
  /-- The row to write is gone. -/
  | staleData

structure ItemTagsResponse where
  itemId : String
  topicTags : List String
deriving DecidableEq

/-- `list(item.topic_tags or [])` -/
def TaggedItem.tags (item : TaggedItem) : List String :=
  item.topicTags.getD []

/-- `_get_tenant_item`; `uuid` is the key that a text for a UUID stands for. -/
def getTenantItem (uuid : String → Option String) (itemId tenantId : String)
    (items : List TaggedItem) : Except ItemError TaggedItem :=
  match uuid itemId with
  | none => .error (.itemNotFound "Item not found")
  | some key =>
    match scalarOneOrNone (items.filter (·.id = key)) with
    | .error e => .error (.db e)
    | .ok none => .error (.itemNotFound "Item not found")
    | .ok (some item) =>
      if item.tenantId ≠ tenantId then
        .error (.itemNotFound "Item not accessible for this tenant")
      else .ok item

/-- `UPDATE items SET topic_tags = ... WHERE id = ...` -/
def writeTags (id : String) (tags : List String) (items : List TaggedItem) :
    Except ItemError (List TaggedItem) :=
  if items.any (·.id = id) then
    .ok (items.map fun item => if item.id = id then { item with topicTags := some tags } else item)
  else .error .staleData

/-- The answer of a request with the tags it has set. -/
def TaggedItem.response (item : TaggedItem) (tags : List String) : ItemTagsResponse where
  itemId := item.id
  topicTags := tags

/-- `add_tag` with the item it has read. -/
def addTo (tag : String) (item : TaggedItem) : Txn (List TaggedItem) ItemError ItemTagsResponse :=
  if tag ∈ item.tags then
    .commit .ok (item.response item.tags)
  else if MAX_ITEM_TAGS ≤ item.tags.length then
    .fail (.validationError
      ("Tag limit reached (max " ++ toString MAX_ITEM_TAGS ++ " per item)")
      [("tag", "Item already has " ++ toString item.tags.length ++ " tags (max " ++
        toString MAX_ITEM_TAGS ++ ")")])
  else
    .commit (writeTags item.id (item.tags ++ [tag])) (item.response (item.tags ++ [tag]))

/-- `add_tag` -/
def addTag (uuid : String → Option String) (itemId tag tenantId : String) :
    Txn (List TaggedItem) ItemError ItemTagsResponse :=
  if userTagPattern tag then .ask (getTenantItem uuid itemId tenantId) (addTo tag)
  else .fail (.validationError "Invalid tag format"
    [("tag", "Tag must be 1-32 chars of lowercase letters, digits or hyphens")])

/-- `remove_tag` with the item it has read. -/
def removeFrom (tag : String) (item : TaggedItem) :
    Txn (List TaggedItem) ItemError ItemTagsResponse :=
  if tag ∈ item.tags then
    .commit (writeTags item.id (item.tags.filter (· ≠ tag)))
      (item.response (item.tags.filter (· ≠ tag)))
  else
    .fail (.validationError "Tag not found on this item"
      [("tag", "Tag '" ++ tag ++ "' is not in the item's topic_tags")])

/-- `remove_tag` -/
def removeTag (uuid : String → Option String) (itemId tag tenantId : String) :
    Txn (List TaggedItem) ItemError ItemTagsResponse :=
  .ask (getTenantItem uuid itemId tenantId) (removeFrom tag)

structure TagRequest where
  edit : Edit String
  itemId : String
  tenantId : String

def TagRequest.program (uuid : String → Option String) (r : TagRequest) :
    Txn (List TaggedItem) ItemError ItemTagsResponse :=
  match r.edit with
  | .add tag => addTag uuid r.itemId tag r.tenantId
  | .remove tag => removeTag uuid r.itemId tag r.tenantId

/-! ## What the answered requests dictate -/

/-- The tags of the item with the key; none when there is no such item. -/
def tagsOf (items : List TaggedItem) (key : String) : List String :=
  ((items.find? (·.id = key)).map (·.tags)).getD []

/-- The edits of an item that were answered with success, in the order of their commits. -/
def editsOf (uuid : String → Option String)
    (w : World TagRequest (List TaggedItem) ItemTagsResponse) (key : String) : List (Edit String) :=
  (w.answered.filter fun a => uuid a.1.itemId = some key).map (·.1.edit)

/-- The tags are what the edits make of those at the start. -/
structure AsDictated (start : List String) (edits : List (Edit String)) (tags : List String) :
    Prop where
  exact : tags = replay start edits
  added : ∀ before tag after, edits = before ++ .add tag :: after → .remove tag ∉ after → tag ∈ tags
  removed : ∀ before tag after, edits = before ++ .remove tag :: after → .add tag ∉ after →
    tag ∉ tags
  others : ∀ tag, .add tag ∉ edits → .remove tag ∉ edits → (tag ∈ tags ↔ tag ∈ start)
  nodup : tags.Nodup
  order : ∀ before after, edits = before ++ after →
    ((replay start before).filter fun tag => Edit.remove tag ∉ after).Sublist tags
  capped : ∀ before tag, edits = before ++ [.add tag] → tags.length ≤ MAX_ITEM_TAGS

/-- The tags of every item are what its edits dictate. -/
def NoneLost (uuid : String → Option String) (items₀ : List TaggedItem)
    (w : World TagRequest (List TaggedItem) ItemTagsResponse) : Prop :=
  ∀ key, AsDictated (tagsOf items₀ key) (editsOf uuid w key) (tagsOf w.committed key)

/-- The tags that an edit has read and those that are there when it commits, where its write is what
it would have been with these. -/
def Harmless : Edit String → List String → List String → Prop
  | .add tag, seen, tags =>
    if tag ∈ seen then tag ∈ tags ∧ tags.length ≤ MAX_ITEM_TAGS
    else tags = seen ∨ tags = seen ++ [tag]
  | .remove tag, seen, tags => tags.filter (· ≠ tag) = seen.filter (· ≠ tag)

/-- A request that commits in this step is not disturbed by what was committed since its read. -/
def Undisturbed (uuid : String → Option String)
    (w : World TagRequest (List TaggedItem) ItemTagsResponse) : Label TagRequest → Prop
  | .next i => ∀ r seen reads key, w.active[i]? = some (r, seen :: reads) →
      (w.commit? (TagRequest.program uuid) i).isSome → uuid r.itemId = some key →
      Harmless r.edit (tagsOf seen key) (tagsOf w.committed key)
  | .begin _ | .abort _ => True

/-- The edits say it all. -/
lemma asDictated_iff {start tags : List String} {edits : List (Edit String)} (h : start.Nodup) :
    AsDictated start edits tags ↔ tags = replay start edits ∧
      ∀ before tag, edits = before ++ [.add tag] → tags.length ≤ MAX_ITEM_TAGS := by
  constructor
  · exact fun h => ⟨h.exact, h.capped⟩
  · rintro ⟨rfl, hcapped⟩
    refine ⟨rfl, ?_, ?_, ?_, nodup_replay h, ?_, hcapped⟩
    · rintro before tag after rfl hafter
      exact mem_replay_add hafter
    · rintro before tag after rfl hafter
      exact not_mem_replay_remove hafter
    · intro tag hadd hremove
      exact mem_replay_iff hadd hremove
    · rintro before after rfl
      rw [replay_append]
      exact sublist_replay

/-! ## One request -/

section

variable {uuid : String → Option String} {items items' : List TaggedItem} {item : TaggedItem}

/-- An item that is read has its id and its tags. -/
lemma getTenantItem_ok {itemId tenantId : String}
    (h : getTenantItem uuid itemId tenantId items = .ok item) :
    uuid itemId = some item.id ∧ item.tags = tagsOf items item.id := by
  unfold getTenantItem at h
  split at h
  · cases h
  · rename_i key hkey
    split at h
    · cases h
    · cases h
    · rename_i found hone
      split at h
      · cases h
      · cases h
        have hrows := scalarOneOrNone_eq_some hone
        have hid : item ∈ items.filter (·.id = key) := by
          rw [hrows]
          exact List.mem_singleton_self item
        have hkey' : item.id = key := of_decide_eq_true (List.mem_filter.1 hid).2
        subst hkey'
        refine ⟨hkey, ?_⟩
        unfold tagsOf
        rw [← List.head?_filter, hrows]
        rfl

/-- A write sets the tags of one item. -/
lemma writeTags_ok {id : String} {tags : List String} (h : writeTags id tags items = .ok items') :
    tagsOf items' id = tags ∧ ∀ key, key ≠ id → tagsOf items' key = tagsOf items key := by
  unfold writeTags at h
  split at h
  · rename_i hany
    cases h
    have hfind : ∀ key, (items.map fun item =>
        if item.id = id then { item with topicTags := some tags } else item).find? (·.id = key) =
        (items.find? (·.id = key)).map fun item =>
          if item.id = id then { item with topicTags := some tags } else item := by
      intro key
      rw [List.find?_map]
      congr 2
      funext item
      show decide ((if item.id = id then { item with topicTags := some tags } else item).id = key) = _
      split
      · rfl
      · rfl
    constructor
    · unfold tagsOf
      rw [hfind]
      cases hitem : items.find? (·.id = id) with
      | none =>
        obtain ⟨item, hmem, hid⟩ := List.any_eq_true.1 hany
        exact absurd hid (List.find?_eq_none.1 hitem item hmem)
      | some item =>
        have hid : item.id = id := by simpa using List.find?_some hitem
        simp [hid, TaggedItem.tags]
    · intro key hne
      unfold tagsOf
      rw [hfind]
      cases hitem : items.find? (·.id = key) with
      | none => rfl
      | some item =>
        have hid : item.id = key := by simpa using List.find?_some hitem
        simp [hid, hne]
  · cases h

/-- What a request that commits has read, and what it writes. -/
inductive Planned : Edit String → TaggedItem → (List TaggedItem → Except ItemError (List TaggedItem)) →
    Prop where
  | noop {tag item} : tag ∈ item.tags → Planned (.add tag) item .ok
  | added {tag item} : tag ∉ item.tags → item.tags.length < MAX_ITEM_TAGS →
      Planned (.add tag) item (writeTags item.id (item.tags ++ [tag]))
  | removed {tag item} : tag ∈ item.tags →
      Planned (.remove tag) item (writeTags item.id (item.tags.filter (· ≠ tag)))

/-- A request that comes to its commit has read the item, and plans its write with the tags it has. -/
lemma planned_of_commit {r : TagRequest} {reads : List (List TaggedItem)}
    {write : List TaggedItem → Except ItemError (List TaggedItem)} {answer : ItemTagsResponse}
    (h : (r.program uuid).resume reads = .commit write answer) :
    ∃ seen rest item, reads = seen :: rest ∧
      getTenantItem uuid r.itemId r.tenantId seen = .ok item ∧ Planned r.edit item write := by
  obtain ⟨edit, itemId, tenantId⟩ := r
  cases edit with
  | add tag =>
    change (addTag uuid itemId tag tenantId).resume reads = _ at h
    unfold addTag at h
    split at h
    · obtain ⟨seen, rest, item, rfl, hitem, h⟩ := Txn.resume_ask h
      refine ⟨seen, rest, item, rfl, hitem, ?_⟩
      unfold addTo at h
      split at h
      · rename_i htag
        cases h
        exact .noop htag
      · rename_i htag
        split at h
        · cases h
        · rename_i hroom
          cases h
          exact .added htag (Nat.lt_of_not_le hroom)
    · cases h
  | remove tag =>
    obtain ⟨seen, rest, item, rfl, hitem, h⟩ := Txn.resume_ask h
    refine ⟨seen, rest, item, rfl, hitem, ?_⟩
    unfold removeFrom at h
    split at h
    · rename_i htag
      cases h
      exact .removed htag
    · cases h

/-! ## Steps -/

/-- What a commit leaves of its item is what the edit makes of the tags there, within the bound, exactly
when it is harmless. -/
lemma Planned.harmless_iff {edit : Edit String} {write : List TaggedItem → Except ItemError (List TaggedItem)}
    (h : Planned edit item write) (hw : write items = .ok items') :
    tagsOf items' item.id = edit.apply (tagsOf items item.id) ∧
        (∀ tag, edit = .add tag → (tagsOf items' item.id).length ≤ MAX_ITEM_TAGS) ↔
      Harmless edit item.tags (tagsOf items item.id) := by
  cases h with
  | @noop tag item htag =>
    cases hw
    show _ ↔ (if tag ∈ item.tags then _ else _)
    rw [if_pos htag]
    constructor
    · rintro ⟨hsame, hcap⟩
      refine ⟨?_, hcap tag rfl⟩
      rw [hsame]
      exact mem_apply_add.2 (.inr rfl)
    · rintro ⟨hmem, hcap⟩
      exact ⟨(apply_add_of_mem hmem).symm, fun _ _ => hcap⟩
  | @added tag item htag hroom =>
    rw [(writeTags_ok hw).1]
    show _ ↔ (if tag ∈ item.tags then _ else _)
    rw [if_neg htag]
    have hcap : (item.tags ++ [tag]).length ≤ MAX_ITEM_TAGS := by
      rw [List.length_append]
      exact hroom
    constructor
    · rintro ⟨hsame, _⟩
      by_cases hmem : tag ∈ tagsOf items item.id
      · rw [apply_add_of_mem hmem] at hsame
        exact .inr hsame.symm
      · rw [apply_add_of_not_mem hmem] at hsame
        exact .inl (List.append_cancel_right hsame).symm
    · intro hsame
      refine ⟨?_, fun _ _ => hcap⟩
      rcases hsame with hsame | hsame
      · rw [hsame, apply_add_of_not_mem htag]
      · rw [hsame, apply_add_of_mem (List.mem_append_right _ (List.mem_singleton_self tag))]
  | @removed tag item htag =>
    rw [(writeTags_ok hw).1]
    show _ ∧ _ ↔ List.filter _ _ = List.filter _ _
    rw [apply_remove]
    constructor
    · exact fun h => h.1.symm
    · exact fun h => ⟨h.symm, fun _ heq => by cases heq⟩

/-- A commit leaves the tags of the other items as they are. -/
lemma Planned.frame {edit : Edit String} {write : List TaggedItem → Except ItemError (List TaggedItem)}
    (h : Planned edit item write) (hw : write items = .ok items') {key : String} (hne : key ≠ item.id) :
    tagsOf items' key = tagsOf items key := by
  cases h with
  | noop _ =>
    cases hw
    rfl
  | added _ _ => exact (writeTags_ok hw).2 key hne
  | removed _ => exact (writeTags_ok hw).2 key hne

end

section

variable {uuid : String → Option String} {items₀ : List TaggedItem}
  {w w' : World TagRequest (List TaggedItem) ItemTagsResponse}

/-- One more answer is one more edit of its item. -/
lemma editsOf_commit {r : TagRequest} {answer : ItemTagsResponse} {key id : String}
    (hanswered : w'.answered = w.answered ++ [(r, answer)]) (hid : uuid r.itemId = some id) :
    editsOf uuid w' key = editsOf uuid w key ++ if key = id then [r.edit] else [] := by
  unfold editsOf
  rw [hanswered, List.filter_append, List.map_append]
  congr 1
  by_cases hkey : key = id
  · subst hkey
    simp [hid]
  · have hkey' : ¬ id = key := fun h => hkey h.symm
    simp [hid, hkey, hkey']

/-- In a state where nothing is lost, a step loses nothing exactly when it is undisturbed. -/
lemma Step.noneLost_iff {l : Label TagRequest} (hnodup : ∀ key, (tagsOf items₀ key).Nodup)
    (h : NoneLost uuid items₀ w) (hst : Step (TagRequest.program uuid) w l w') :
    NoneLost uuid items₀ w' ↔ Undisturbed uuid w l := by
  cases hst.outcome with
  | kept hnone hcommitted hanswered =>
    apply iff_of_true
    · intro key
      unfold editsOf
      rw [hcommitted, hanswered]
      exact h key
    · cases l with
      | begin r => exact trivial
      | abort i => exact trivial
      | next i =>
        intro r seen reads key _ hsome _
        rw [hnone i rfl] at hsome
        cases hsome
  | @committed i r answer items _ hcommit hcommitted hanswered =>
    obtain ⟨reads, write, hactive, hres, hwrite⟩ := commit?_eq_some.1 hcommit
    obtain ⟨seen, rest, item, rfl, hitem, hplan⟩ := planned_of_commit hres
    obtain ⟨hkey, htags⟩ := getTenantItem_ok hitem
    have hundisturbed : Undisturbed uuid w (.next i) ↔
        Harmless r.edit item.tags (tagsOf w.committed item.id) := by
      rw [htags]
      constructor
      · intro hun
        apply hun r seen rest item.id hactive ?_ hkey
        rw [hcommit]
        rfl
      · intro hun r' seen' rest' key' hactive' _ hkey'
        rw [hactive] at hactive'
        cases hactive'
        rw [hkey] at hkey'
        cases hkey'
        exact hun
    rw [hundisturbed, ← hplan.harmless_iff hwrite]
    have hexact := (h item.id).exact
    constructor
    · intro hnext
      have hedits : editsOf uuid _ item.id = _ := editsOf_commit hanswered hkey
      rw [if_pos rfl] at hedits
      have hdictated := hnext item.id
      rw [hcommitted, hedits] at hdictated
      refine ⟨?_, ?_⟩
      · rw [hdictated.exact, replay_append, hexact]
        rfl
      · intro tag htag
        rw [htag] at hdictated
        exact hdictated.capped _ tag rfl
    · rintro ⟨hsame, hcap⟩ key
      rw [hcommitted, editsOf_commit hanswered hkey]
      by_cases hne : key = item.id
      · subst hne
        rw [if_pos rfl, asDictated_iff (hnodup _)]
        refine ⟨?_, ?_⟩
        · rw [hsame, hexact, replay_append]
          rfl
        · intro before tag hlast
          have hedit := (List.append_inj' hlast rfl).2
          exact hcap tag (List.singleton_inj.1 hedit)
      · rw [if_neg hne, List.append_nil, hplan.frame hwrite hne]
        exact h key

/-- At the start no edit is lost. -/
lemma noneLost_start (hnodup : ∀ key, (tagsOf items₀ key).Nodup) :
    NoneLost uuid items₀ (.start items₀) := by
  intro key
  apply (asDictated_iff (hnodup key)).2
  refine ⟨rfl, ?_⟩
  intro before tag h
  cases before with
  | nil => cases h
  | cons e before => cases h

end

/-- The tags are distinct at the start and no request of a run is disturbed exactly when in every state
on the way the tags of every item are what the edits that were answered with success make of those at
the start. -/
theorem undisturbed_iff {uuid : String → Option String} {items₀ : List TaggedItem}
    {ls : List (Label TagRequest)} {w : World TagRequest (List TaggedItem) ItemTagsResponse} :
    (∀ key, (tagsOf items₀ key).Nodup) ∧
        Guarded (Step (TagRequest.program uuid)) (Undisturbed uuid) (.start items₀) ls w ↔
      Steps (Step (TagRequest.program uuid)) (.start items₀) ls w ∧
        ∀ before u, before <+: ls → Steps (Step (TagRequest.program uuid)) (.start items₀) before u →
          NoneLost uuid items₀ u := by
  rw [← Guarded.along_iff (R := Step (TagRequest.program uuid))
    (fun h h' => Eq.trans h (Eq.symm h'))]
  have hiff : ∀ hnodup : ∀ key, (tagsOf items₀ key).Nodup,
      (Guarded (Step (TagRequest.program uuid)) (Undisturbed uuid) (.start items₀) ls w ↔ _) :=
    fun hnodup =>
    Guarded.iff_along (R := Step (TagRequest.program uuid)) (C := Undisturbed uuid)
      (W := fun _ => True) (fun _ _ => trivial)
      (fun _ h hst => Step.noneLost_iff hnodup h hst) trivial (noneLost_start hnodup)
  constructor
  · rintro ⟨hnodup, run⟩
    exact (hiff hnodup).1 run
  · rintro ⟨run, hend⟩
    have hnodup : ∀ key, (tagsOf items₀ key).Nodup := fun key => (run.head hend key).nodup
    exact ⟨hnodup, (hiff hnodup).2 ⟨run, hend⟩⟩

namespace Sample

def article : List TaggedItem :=
  [{ id := "i", tenantId := "t", topicTags := some ["tech"] }]

def adding (tag : String) : TagRequest where
  edit := .add tag
  itemId := "i"
  tenantId := "t"

/-- Both read the item before one of them commits. -/
def overlapping : List (Label TagRequest) :=
  [.begin (adding "a"), .begin (adding "b"), .next 0, .next 1, .next 0, .next 0]

def overwritten : World TagRequest (List TaggedItem) ItemTagsResponse :=
  overlapping.foldl (World.step (TagRequest.program some)) (.start article)

end Sample

open Sample in
/-- Of two tags that are added at the same time the first is lost. -/
theorem first_add_lost : ¬ ∀ (uuid : String → Option String) (items₀ : List TaggedItem)
    (ls : List (Label TagRequest)) (w : World TagRequest (List TaggedItem) ItemTagsResponse),
    (∀ key, (tagsOf items₀ key).Nodup) →
      Steps (Step (TagRequest.program uuid)) (.start items₀) ls w → NoneLost uuid items₀ w := by
  intro h
  have hnodup : ∀ key, (tagsOf article key).Nodup := by
    intro key
    unfold tagsOf
    cases hfind : article.find? (·.id = key) with
    | none => exact List.nodup_nil
    | some item =>
      obtain rfl := List.mem_singleton.1 (List.mem_of_find?_eq_some hfind)
      decide
  have run : Steps (Step (TagRequest.program some)) (.start article) overlapping overwritten :=
    .cons rfl (.cons rfl (.cons rfl (.cons rfl (.cons rfl (.cons rfl .nil)))))
  have hlost := (h some article overlapping overwritten hnodup run "i").added [] "a" [.add "b"]
  have hedits : editsOf some overwritten "i" = [.add "a", .add "b"] := by
    decide +kernel
  have htags : tagsOf overwritten.committed "i" = ["tech", "b"] := by
    decide +kernel
  rw [hedits, htags] at hlost
  exact absurd (hlost rfl (by decide)) (by decide)

end InstantBoard.ItemService
