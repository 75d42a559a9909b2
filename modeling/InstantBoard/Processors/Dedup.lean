import InstantBoard.Processors.Base

/-!
# The dedup processor

The Redis set at `RedisKeys.dedup_key(tenant_id, source_id)` of one source, with its expiry, and
`DedupProcessor`. Each await of an item comes with what it does: it completes, it raises, or the
task is cancelled in it; an add that does not complete can have reached Redis or not, and its
`expire` too.
-/

namespace InstantBoard

/-- A set key: its members and when it expires, in seconds of the server's clock. -/
structure RedisSet where
  members : List String
  expiresAt : Option Nat
  deriving DecidableEq

namespace RedisSet

def empty : RedisSet := ⟨[], none⟩

/-- What the key holds at a time. -/
def live (s : RedisSet) (now : Nat) : RedisSet :=
  match s.expiresAt with
  | none => s
  | some t => if t ≤ now then empty else s

/-- `SADD`. -/
def sadd (s : RedisSet) (now : Nat) (member : String) : RedisSet :=
  { s.live now with members := (s.live now).members.insert member }

/-- `EXPIRE`. -/
def expire (s : RedisSet) (now ttl : Nat) : RedisSet :=
  { s with expiresAt := some (now + ttl) }

/-- The time of the key is over. -/
def Expired (s : RedisSet) (now : Nat) : Prop :=
  ∃ t, s.expiresAt = some t ∧ t ≤ now

/-- A member is held until the key expires. -/
lemma mem_live_iff {s : RedisSet} {now : Nat} {m : String} :
    m ∈ (s.live now).members ↔ m ∈ s.members ∧ ¬ s.Expired now := by
  unfold RedisSet.live Expired
  cases s.expiresAt with
  | none => simp
  | some t => by_cases h : t ≤ now <;> simp [h, empty]

/-- A member of the live set is in the set. -/
lemma mem_live {s : RedisSet} {now : Nat} {m : String} (h : m ∈ (s.live now).members) :
    m ∈ s.members := by
  unfold RedisSet.live at h
  split at h
  · exact h
  · split at h
    · cases h
    · exact h

end RedisSet

/-- How an await ends. -/
inductive Await where
  | completes
  | raises
  | cancelled
  deriving DecidableEq

/-- How far an interrupted `redis_sadd` got: nowhere, past its `SADD`, or past its `EXPIRE`. -/
inductive SaddEffect where
  | nothing
  | added
  | expires
  deriving DecidableEq

/-- How `redis_sadd` ends. -/
inductive SaddReply where
  | completes
  | raises (effect : SaddEffect)
  | cancelled (effect : SaddEffect)
  deriving DecidableEq

/-- What Redis does for one item. -/
structure DedupEnv where
  checkedAt : Nat
  check : Await
  addedAt : Nat
  add : SaddReply

namespace DedupProcessor

def DEDUP_TTL_SECONDS : Nat := 86400

/-- `redis_sadd(dedup_key, dedup_member, ttl=DEDUP_TTL_SECONDS)`, as far as it gets. -/
def redisSadd (s : RedisSet) (now : Nat) (member : String) : SaddEffect → RedisSet
  | .nothing => s
  | .added => s.sadd now member
  | .expires => (s.sadd now member).expire now DEDUP_TTL_SECONDS

/-- `_content_hash(item.get("title", ""), item.get("url", ""))`. -/
def contentHash (py : Stdlib) (item : Dict) : String :=
  py.md5 ((item.getD "title" (.str "")).format py ++ ":" ++ (item.getD "url" (.str "")).format py)

/-- What the `try` block decides about an item. -/
inductive Verdict where
  | passes
  | duplicate
  | cancelled
  deriving DecidableEq

/-- The `try` block. -/
def check (env : DedupEnv) (hash : String) (s : RedisSet) : Verdict × RedisSet :=
  match env.check with
  | .cancelled => (.cancelled, s)
  | .raises => (.passes, s)
  | .completes =>
    if hash ∈ (s.live env.checkedAt).members then (.duplicate, s)
    else match env.add with
      | .completes => (.passes, redisSadd s env.addedAt hash .expires)
      -- the failure is logged and the item goes on without dedup
      | .raises effect => (.passes, redisSadd s env.addedAt hash effect)
      | .cancelled effect => (.cancelled, redisSadd s env.addedAt hash effect)

/-- `process`. -/
def process (py : Stdlib) (env : DedupEnv) (item : Dict) (s : RedisSet) :
    Option Outcome × RedisSet :=
  match check env (contentHash py item) s with
  | (.passes, s) =>
    (some (.returned (item.set "_dedup_hash" (.str (contentHash py item)))), s)
  | (.duplicate, s) => (some .rejected, s)
  | (.cancelled, s) => (none, s)

/-- Whether an item's add reaches Redis. -/
def marks (env : DedupEnv) (hash : String) (s : RedisSet) : Bool :=
  env.check = .completes && hash ∉ (s.live env.checkedAt).members &&
    env.add ≠ .raises .nothing && env.add ≠ .cancelled .nothing

/-- The check is answered and an add would reach Redis. -/
def Written (env : DedupEnv) : Prop :=
  env.check = .completes ∧ env.add ≠ .raises .nothing ∧ env.add ≠ .cancelled .nothing

/-- The add finds the set expired, and starts it anew. -/
def StartsOver (env : DedupEnv) (hash : String) (s : RedisSet) : Prop :=
  marks env hash s = true ∧ s.Expired env.addedAt

/-- A member after `SADD` was there or is the one added. -/
lemma mem_redisSadd {s : RedisSet} {now : Nat} {member m : String} {effect : SaddEffect}
    (h : m ∈ (redisSadd s now member effect).members) :
    m ∈ s.members ∨ (effect ≠ .nothing ∧ m = member) := by
  have key : m ∈ (s.live now).members.insert member → m ∈ s.members ∨ m = member := by
    intro h
    obtain h | h := List.mem_insert_iff.1 h
    · exact Or.inr h
    · exact Or.inl (RedisSet.mem_live h)
  cases effect with
  | nothing => exact Or.inl h
  | added =>
    obtain h | h := key h
    · exact Or.inl h
    · exact Or.inr ⟨nofun, h⟩
  | expires =>
    obtain h | h := key h
    · exact Or.inl h
    · exact Or.inr ⟨nofun, h⟩

/-- The check adds at most the item's own hash, and only by a mark. -/
lemma mem_check {env : DedupEnv} {hash m : String} {s : RedisSet}
    (h : m ∈ (check env hash s).2.members) :
    m ∈ s.members ∨ (marks env hash s ∧ m = hash) := by
  unfold check at h
  split at h
  next => exact Or.inl h
  next => exact Or.inl h
  next hc =>
    split at h
    · exact Or.inl h
    · next hn =>
      split at h
      next ha =>
        obtain h | ⟨-, h⟩ := mem_redisSadd h
        · exact Or.inl h
        · exact Or.inr ⟨by simp [marks, hc, hn, ha], h⟩
      next ha =>
        obtain h | ⟨he, h⟩ := mem_redisSadd h
        · exact Or.inl h
        · exact Or.inr ⟨by simp [marks, hc, hn, ha, he], h⟩
      next ha =>
        obtain h | ⟨he, h⟩ := mem_redisSadd h
        · exact Or.inl h
        · exact Or.inr ⟨by simp [marks, hc, hn, ha, he], h⟩

/-- What an add that reaches Redis leaves. -/
lemma mem_redisSadd_iff {s : RedisSet} {now : Nat} {member m : String} {effect : SaddEffect}
    (h : effect ≠ .nothing) :
    m ∈ (redisSadd s now member effect).members ↔
      (m ∈ s.members ∧ ¬ s.Expired now) ∨ m = member := by
  have key : m ∈ (s.sadd now member).members ↔ (m ∈ s.members ∧ ¬ s.Expired now) ∨ m = member := by
    unfold RedisSet.sadd
    rw [List.mem_insert_iff, RedisSet.mem_live_iff]
    exact or_comm
  cases effect with
  | nothing => exact absurd rfl h
  | added => exact key
  | expires => exact key

/-- What the set holds after an item: what it held, unless the add found it expired, and the item's own
hash if Redis answered and took it. -/
lemma mem_check_iff {env : DedupEnv} {hash m : String} {s : RedisSet} :
    m ∈ (check env hash s).2.members ↔
      (m ∈ s.members ∧ ¬ StartsOver env hash s) ∨ (m = hash ∧ Written env) := by
  unfold check StartsOver Written marks
  cases hcheck : env.check with
  | cancelled => simp
  | raises => simp
  | completes =>
    by_cases hin : hash ∈ (s.live env.checkedAt).members
    · have hmem := RedisSet.mem_live hin
      simp only [hin, if_true]
      constructor
      · intro h
        exact .inl ⟨h, by simp⟩
      · rintro (⟨h, _⟩ | ⟨rfl, _⟩)
        · exact h
        · exact hmem
    · cases hadd : env.add with
      | completes => simp [hin, mem_redisSadd_iff]
      | raises effect =>
        cases effect with
        | nothing => simp [hin, redisSadd]
        | added => simp [hin, mem_redisSadd_iff]
        | expires => simp [hin, mem_redisSadd_iff]
      | cancelled effect =>
        cases effect with
        | nothing => simp [hin, redisSadd]
        | added => simp [hin, mem_redisSadd_iff]
        | expires => simp [hin, mem_redisSadd_iff]

/-- An item is a duplicate exactly if Redis answers and holds its hash. -/
lemma check_eq_duplicate_iff {env : DedupEnv} {hash : String} {s : RedisSet} :
    (check env hash s).1 = .duplicate ↔
      env.check = .completes ∧ hash ∈ s.members ∧ ¬ s.Expired env.checkedAt := by
  unfold check
  cases env.check with
  | cancelled => simp
  | raises => simp
  | completes =>
    by_cases hin : hash ∈ (s.live env.checkedAt).members
    · simp only [hin, if_true, true_and]
      exact iff_of_true trivial (RedisSet.mem_live_iff.1 hin)
    · have hnot := fun h => hin (RedisSet.mem_live_iff.2 h)
      simp only [hin, if_false]
      refine iff_of_false (fun h => ?_) (fun h => hnot h.2)
      cases hadd : env.add <;> rw [hadd] at h <;> cases h

/-- A duplicate was a member when it was looked up. -/
lemma mem_of_duplicate {env : DedupEnv} {hash : String} {s : RedisSet}
    (h : (check env hash s).1 = .duplicate) : hash ∈ s.members := by
  unfold check at h
  split at h
  next => cases h
  next => cases h
  next =>
    split at h
    · next hm => exact RedisSet.mem_live hm
    · split at h <;> cases h

end DedupProcessor

end InstantBoard
