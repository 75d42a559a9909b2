import InstantBoard.Auth.AdminLogin

/-!
# The life of a failure counter

A counter is made by `INCR` and gets its window by an `EXPIRE` of its own. Between the two it has no
deadline, and when the `EXPIRE` is lost it never gets one: the next failures find the counter there.
`expires_iff` says exactly which interruptions lose it. In all other runs every counter has its
window, but for those whose `EXPIRE` is still to come, and a failure after a quiet window starts
from one and locks nothing.
-/

namespace InstantBoard.Auth

open Transition

/-- The window of a failure counter; the locks have none. -/
def RedisKeys.window : RedisKeys → Option Nat
  | .adminLoginFail _ => some ADMIN_LOGIN_WINDOW_SECONDS
  | .adminLoginFailIp _ => some ADMIN_LOGIN_IP_WINDOW_SECONDS
  | .adminLoginLock _ | .adminLoginLockIp _ => none

namespace AdminLogin

/-- A counter is to last for the window of its dimension. -/
lemma window_counterKey (d : Dimension) (a : Attempt) :
    (d.counterKey a).window = some d.windowSeconds := by
  cases d <;> rfl

/-- A lock is no counter. -/
lemma window_lockKey (d : Dimension) (a : Attempt) : (d.lockKey a).window = none := by
  cases d <;> rfl

/-! ## Counters with a deadline -/

/-- The counter, if it is there, has a time to live of at most its window. -/
def Server.Expires (s : Server) (k : RedisKeys) (window : Nat) : Prop :=
  ∀ e, Keyspace.find s.redis s.clock k = some e →
    ∃ deadline, e.deadline = some deadline ∧ deadline ≤ s.clock + 1000 * window

/-- The attempt stands between `incr` and `expire` on the counter. -/
def Attempt.AboutToExpire (a : Attempt) (k : RedisKeys) : Prop :=
  ∃ d count, a.phase = .expire d count ∧ d.counterKey a = k

/-- Some attempt but the `i`-th does. -/
def Server.OthersExpire (s : Server) (i : Nat) (k : RedisKeys) : Prop :=
  ∃ (j : Nat) (a : Attempt), j ≠ i ∧ s.attempts[j]? = some a ∧ a.AboutToExpire k

def Server.AboutToExpire (s : Server) (k : RedisKeys) : Prop :=
  ∃ (j : Nat) (a : Attempt), s.attempts[j]? = some a ∧ a.AboutToExpire k

/-- Every counter expires, but for those whose `expire` is still to come. -/
def Server.CountersExpire (s : Server) : Prop :=
  ∀ k window, k.window = some window → ¬ s.AboutToExpire k → s.Expires k window

/-- The condition on an interrupted attempt: an `expire` is lost only where the counter does not
need it or another is to come, and an `incr` that makes a counter only in the latter case. -/
def Attempt.Spares (s : Server) (i : Nat) (a : Attempt) (applied : Bool) : Prop :=
  match a.phase, applied with
  | .expire d _, false =>
    (∀ e, Keyspace.find s.redis s.clock (d.counterKey a) = some e → e.deadline ≠ none) ∨
      s.OthersExpire i (d.counterKey a)
  | .incr d, true =>
    Keyspace.Holds s.redis s.clock (d.counterKey a) ∨ s.OthersExpire i (d.counterKey a)
  | _, _ => True

/-- The condition on a step: an interruption spares the counters. -/
def Spares (s : Server) : Label → Prop
  | .fail i applied | .cancel i applied => ∀ a, s.attempts[i]? = some a → a.Spares s i applied
  | _ => True

/-- At the start there is no counter. -/
lemma countersExpire_init (clock : Nat) : (Server.init clock).CountersExpire := by
  intro k window _ _ e h
  cases h

/-! ## One command -/

/-- The keyspace keeps within the windows. -/
def Within (now : Nat) (redis : Redis) : Prop :=
  ∀ k window e deadline, k.window = some window → redis k = some e → e.deadline = some deadline →
    deadline ≤ now + 1000 * window

/-- A write within the window keeps all deadlines within theirs. -/
lemma within_put {now : Nat} {redis : Redis} (h : Within now redis) {k : RedisKeys}
    {e : Option (Keyspace.Entry Nat)}
    (hk : ∀ window e' deadline, k.window = some window → e = some e' →
      e'.deadline = some deadline → deadline ≤ now + 1000 * window) :
    Within now (Keyspace.put redis k e) := by
  intro k' window e' deadline hwindow he hd
  by_cases hkk : k' = k
  · subst hkk
    rw [Keyspace.put_same] at he
    exact hk window e' deadline hwindow he hd
  · rw [Keyspace.put_ne hkk] at he
    exact h k' window e' deadline hwindow he hd

/-- No command gives a counter more than its window. -/
lemma within_exec {env : Env} {now : Nat} {redis : Redis} (h : Within now redis) (a : Attempt) :
    Within now (exec env now redis a).1 := by
  unfold exec
  split
  case h_4 d _ =>
    show Within now (Keyspace.incr redis now (d.counterKey a)).1
    by_cases hk : Keyspace.Holds redis now (d.counterKey a)
    · obtain ⟨e, he⟩ := Option.isSome_iff_exists.1 hk
      rw [Keyspace.incr_of_find he]
      apply within_put h
      rintro window e' deadline hwindow he' hd
      cases he'
      exact h _ window e deadline hwindow (Keyspace.find_eq_some.1 he).1 hd
    · rw [Keyspace.incr_of_not_holds hk]
      apply within_put h
      rintro window e' deadline _ he' hd
      cases he'
      cases hd
  case h_5 d count _ =>
    show Within now (Keyspace.expire redis now (d.counterKey a) d.windowSeconds)
    by_cases hk : Keyspace.Holds redis now (d.counterKey a)
    · obtain ⟨e, he⟩ := Option.isSome_iff_exists.1 hk
      rw [Keyspace.expire_of_find he]
      apply within_put h
      rintro window e' deadline hwindow he' hd
      cases he'
      cases hd
      rw [window_counterKey] at hwindow
      cases hwindow
      exact Nat.le_refl _
    · rw [Keyspace.expire_of_not_holds hk]
      exact h
  case h_6 d _ =>
    apply within_put h
    intro window _ _ hwindow
    rw [window_lockKey] at hwindow
    cases hwindow
  case h_7 =>
    apply within_put h
    intro _ _ _ _ he
    cases he
  all_goals exact h

/-- A step keeps all deadlines within their windows. -/
lemma within_step {env : Env} {s t : Server} {l : Label} (h : Within s.clock s.redis)
    (hst : Step env s l t) : Within t.clock t.redis := by
  have interrupted : ∀ a applied, Within s.clock (s.interrupt env a applied).redis := by
    intro a applied
    unfold Server.interrupt
    split
    · exact within_exec h a
    · exact h
  have clock : ∀ a applied, (s.interrupt env a applied).clock = s.clock := by
    intro a applied
    unfold Server.interrupt
    split <;> rfl
  cases hst.stepped with
  | tick =>
    intro k window e deadline hwindow he hd
    have := h k window e deadline hwindow he hd
    show deadline ≤ s.clock + _ + _
    omega
  | enter => exact h
  | run => exact within_exec h _
  | @fail i a applied =>
    show Within (s.interrupt env a applied).clock (s.interrupt env a applied).redis
    rw [clock]
    exact interrupted a applied
  | @cancel i a applied =>
    show Within (s.interrupt env a applied).clock (s.interrupt env a applied).redis
    rw [clock]
    exact interrupted a applied

/-- Within the windows, a counter expires when it has a deadline at all. -/
lemma expires_of_deadline {s : Server} (h : Within s.clock s.redis) {k : RedisKeys} {window : Nat}
    (hwindow : k.window = some window)
    (hd : ∀ e, Keyspace.find s.redis s.clock k = some e → e.deadline ≠ none) :
    s.Expires k window := by
  intro e he
  obtain ⟨deadline, hdeadline⟩ := Option.ne_none_iff_exists'.1 (hd e he)
  exact ⟨deadline, hdeadline, h k window e deadline hwindow (Keyspace.find_eq_some.1 he).1 hdeadline⟩

/-- Whether a key expires is a matter of its entry and the clock. -/
lemma expires_congr {s u : Server} (hclock : u.clock = s.clock) {k : RedisKeys}
    (h : u.redis k = s.redis k) (window : Nat) : u.Expires k window ↔ s.Expires k window := by
  unfold Server.Expires Keyspace.find
  rw [h, hclock]

/-- Counting on keeps the deadline; a counter just made has none. -/
lemma expires_incr {env : Env} {s : Server} {a : Attempt} {d : Dimension}
    (hphase : a.phase = .incr d) (window : Nat) :
    (s.apply env a).Expires (d.counterKey a) window ↔
      Keyspace.Holds s.redis s.clock (d.counterKey a) ∧ s.Expires (d.counterKey a) window := by
  have hredis : (s.apply env a).redis = (Keyspace.incr s.redis s.clock (d.counterKey a)).1 := by
    simp only [Server.apply, exec, hphase]
  have hclock : (s.apply env a).clock = s.clock := rfl
  unfold Server.Expires
  rw [hredis, hclock]
  by_cases hk : Keyspace.Holds s.redis s.clock (d.counterKey a)
  · obtain ⟨e, he⟩ := Option.isSome_iff_exists.1 hk
    rw [Keyspace.find_incr_of_find he, he]
    simp [hk]
  · rw [Keyspace.find_incr_of_not_holds hk]
    simp [hk]

/-- An EXPIRE that goes through makes the counter expire. -/
lemma expires_expire {env : Env} {s : Server} {a : Attempt} {d : Dimension} {count : Nat}
    (hphase : a.phase = .expire d count) :
    (s.apply env a).Expires (d.counterKey a) d.windowSeconds := by
  have hredis : (s.apply env a).redis =
      Keyspace.expire s.redis s.clock (d.counterKey a) d.windowSeconds := by
    simp only [Server.apply, exec, hphase]
  have hclock : (s.apply env a).clock = s.clock := rfl
  intro e he
  rw [hredis, hclock] at he
  by_cases hk : Keyspace.Holds s.redis s.clock (d.counterKey a)
  · obtain ⟨e', he'⟩ := Option.isSome_iff_exists.1 hk
    rw [Keyspace.expire_of_find he'] at he
    have := (Keyspace.find_eq_some.1 he).1
    rw [Keyspace.put_same, Option.some.injEq] at this
    subst this
    exact ⟨_, rfl, Nat.le_refl _⟩
  · rw [Keyspace.expire_of_not_holds hk] at he
    exact absurd (Option.isSome_iff_exists.2 ⟨e, he⟩) hk

/-- A counter that is cleared has nothing to expire. -/
lemma expires_clear {env : Env} {s : Server} {a : Attempt} (hphase : a.phase = .clear)
    (window : Nat) : (s.apply env a).Expires (.adminLoginFail a.email) window := by
  have hredis : (s.apply env a).redis = Keyspace.delete s.redis (.adminLoginFail a.email) := by
    simp only [Server.apply, exec, hphase]
  intro e he
  rw [hredis, Keyspace.find_delete] at he
  cases he

/-- A command that touches a counter is its `incr`, its `expire` or its `delete`. -/
lemma touched_counter {a : Attempt} {k : RedisKeys} {window : Nat}
    (h : a.touched = some k) (hwindow : k.window = some window) :
    (∃ d, a.phase = .incr d ∧ k = d.counterKey a) ∨
      (∃ d count, a.phase = .expire d count ∧ k = d.counterKey a) ∨
      a.phase = .clear ∧ k = .adminLoginFail a.email := by
  unfold Attempt.touched at h
  split at h
  · cases h
    exact .inl ⟨_, ‹_›, rfl⟩
  · cases h
    exact .inr (.inl ⟨_, _, ‹_›, rfl⟩)
  · cases h
    rw [window_lockKey] at hwindow
    cases hwindow
  · cases h
    exact .inr (.inr ⟨‹_›, rfl⟩)
  all_goals cases h

/-! ## One step -/

/-- An EXPIRE is pending from this attempt or from another. -/
lemma aboutToExpire_iff {s : Server} {i : Nat} {a : Attempt} (hi : s.attempts[i]? = some a)
    (k : RedisKeys) : s.AboutToExpire k ↔ s.OthersExpire i k ∨ a.AboutToExpire k := by
  constructor
  · rintro ⟨j, b, hj, hb⟩
    by_cases hji : j = i
    · subst hji
      rw [hi, Option.some.injEq] at hj
      subst hj
      exact .inr hb
    · exact .inl ⟨j, b, hji, hj, hb⟩
  · rintro (⟨j, b, _, hj, hb⟩ | ha)
    · exact ⟨j, b, hj, hb⟩
    · exact ⟨i, a, hi, ha⟩

/-- After a change of phase an EXPIRE is pending from the others, or from the new phase. -/
lemma aboutToExpire_setPhase {s u : Server} (hu : u.attempts = s.attempts) {i : Nat} {a : Attempt}
    (hi : s.attempts[i]? = some a) (phase : Phase) (k : RedisKeys) :
    (u.setPhase i a phase).AboutToExpire k ↔
      s.OthersExpire i k ∨ Attempt.AboutToExpire { a with phase } k := by
  have hlt : i < s.attempts.length := (List.getElem?_eq_some_iff.1 hi).1
  have hset : (u.setPhase i a phase).attempts[i]? = some { a with phase } := by
    simp [Server.setPhase, hu, hlt]
  rw [aboutToExpire_iff hset]
  have hothers : (u.setPhase i a phase).OthersExpire i k ↔ s.OthersExpire i k := by
    unfold Server.OthersExpire
    apply exists_congr
    intro j
    apply exists_congr
    intro b
    apply and_congr_right
    intro hji
    rw [Server.setPhase, hu, List.getElem?_set_ne (Ne.symm hji)]
  rw [hothers]

/-- The counters after an attempt has moved. -/
lemma countersExpire_setPhase {s u : Server} (hu : u.attempts = s.attempts) {i : Nat} {a : Attempt}
    (hi : s.attempts[i]? = some a) (phase : Phase) :
    (u.setPhase i a phase).CountersExpire ↔
      ∀ k window, k.window = some window → ¬ s.OthersExpire i k →
        ¬ Attempt.AboutToExpire { a with phase } k → u.Expires k window := by
  unfold Server.CountersExpire
  apply forall_congr'
  intro k
  apply forall_congr'
  intro window
  apply forall_congr'
  intro _
  rw [aboutToExpire_setPhase hu hi, not_or, and_imp]
  rfl

/-- A pending EXPIRE is on the key that the attempt touches. -/
lemma touched_of_aboutToExpire {a : Attempt} {k : RedisKeys} (h : a.AboutToExpire k) :
    a.touched = some k := by
  obtain ⟨d, count, hphase, rfl⟩ := h
  simp only [Attempt.touched, hphase]

/-- Before the step, all counters but those about to get their window have it. -/
lemma Server.CountersExpire.expires {s : Server} (h : s.CountersExpire) {i : Nat} {a : Attempt}
    (hi : s.attempts[i]? = some a) {k : RedisKeys} {window : Nat} (hwindow : k.window = some window)
    (hothers : ¬ s.OthersExpire i k) (ha : ¬ a.AboutToExpire k) : s.Expires k window := by
  apply h k window hwindow
  rw [aboutToExpire_iff hi]
  rintro (ho | he)
  · exact hothers ho
  · exact ha he

/-- An attempt at its INCR has no EXPIRE pending. -/
lemma not_aboutToExpire_of_incr {a : Attempt} {d : Dimension} (hphase : a.phase = .incr d)
    (k : RedisKeys) : ¬ a.AboutToExpire k := by
  rintro ⟨d', count, hp, _⟩
  rw [hphase] at hp
  cases hp

/-- A piece that touches the counter, but for an `incr`, leaves it with its window, and so does
one that does not touch it. -/
lemma Server.CountersExpire.apply {env : Env} {s : Server} (h : s.CountersExpire) {i : Nat}
    {a : Attempt} (hi : s.attempts[i]? = some a) {k : RedisKeys} {window : Nat}
    (hwindow : k.window = some window) (hothers : ¬ s.OthersExpire i k)
    (hincr : ∀ d, a.phase = .incr d → k = d.counterKey a →
      Keyspace.Holds s.redis s.clock (d.counterKey a)) : (s.apply env a).Expires k window := by
  by_cases ht : a.touched = some k
  · rcases touched_counter ht hwindow with ⟨d, hphase, rfl⟩ | ⟨d, count, hphase, rfl⟩ |
      ⟨hphase, rfl⟩
    · rw [expires_incr hphase]
      exact ⟨hincr d hphase rfl,
        h.expires hi hwindow hothers (not_aboutToExpire_of_incr hphase _)⟩
    · rw [window_counterKey, Option.some.injEq] at hwindow
      subst hwindow
      exact expires_expire hphase
    · exact expires_clear hphase window
  · rw [expires_congr (s := s) (u := s.apply env a) rfl (exec_of_not_touched ht)]
    exact h.expires hi hwindow hothers (fun ha => ht (touched_of_aboutToExpire ha))

/-- A piece that is answered keeps the counters. -/
lemma Server.CountersExpire.run {env : Env} {s : Server} (h : s.CountersExpire) {i : Nat}
    {a : Attempt} (hi : s.attempts[i]? = some a) :
    ((s.apply env a).setPhase i a (exec env s.clock s.redis a).2).CountersExpire := by
  rw [countersExpire_setPhase (s := s) (u := s.apply env a) rfl hi]
  intro k window hwindow hothers hnext
  apply h.apply hi hwindow hothers
  rintro d hphase rfl
  -- a counter just made is about to get its window
  by_contra hno
  apply hnext
  refine ⟨d, 1, ?_, by cases d <;> rfl⟩
  unfold exec
  rw [hphase]
  show counted d (Keyspace.incr s.redis s.clock (d.counterKey a)).2 = _
  rw [Keyspace.incr_of_not_holds hno]
  rfl

/-- An interruption keeps the counters exactly when it spares them. -/
lemma Server.CountersExpire.interrupt_iff {env : Env} {s : Server} (h : s.CountersExpire)
    (hW : Within s.clock s.redis) {i : Nat} {a : Attempt} (hi : s.attempts[i]? = some a)
    {applied : Bool} {phase : Phase} (hphase : ∀ d count, phase ≠ .expire d count) :
    ((s.interrupt env a applied).setPhase i a phase).CountersExpire ↔ a.Spares s i applied := by
  have hu : (s.interrupt env a applied).attempts = s.attempts := by
    unfold Server.interrupt
    split <;> rfl
  have noexpire : ∀ k, ¬ Attempt.AboutToExpire { a with phase } k := by
    rintro k ⟨d, count, hp, _⟩
    exact hphase d count hp
  rw [countersExpire_setPhase hu hi]
  constructor
  · intro hall
    unfold Attempt.Spares
    split
    · rename_i d count hexpire
      refine or_iff_not_imp_right.2 (fun hothers e he => ?_)
      have hs : s.interrupt env a false = s := rfl
      have hex := hall _ _ (window_counterKey d a) hothers (noexpire _)
      rw [hs] at hex
      obtain ⟨deadline, hd, _⟩ := hex e he
      rw [hd]
      exact Option.some_ne_none _
    · rename_i d hincr
      refine or_iff_not_imp_right.2 (fun hothers => ?_)
      have hs : s.interrupt env a true = s.apply env a := by
        simp [Server.interrupt, hincr, Phase.onRedis]
      have hex := hall _ _ (window_counterKey d a) hothers (noexpire _)
      rw [hs, expires_incr hincr] at hex
      exact hex.1
    · trivial
  · intro hspares k window hwindow hothers _
    cases happ : applied && a.phase.onRedis with
    | true =>
      have hs : s.interrupt env a applied = s.apply env a := by
        simp only [Server.interrupt, happ, if_true]
      rw [hs]
      apply h.apply hi hwindow hothers
      rintro d hincr rfl
      rw [(Bool.and_eq_true_iff.1 happ).1] at hspares
      simp only [Attempt.Spares, hincr] at hspares
      exact hspares.resolve_right hothers
    | false =>
      have hs : s.interrupt env a applied = s := by
        simp [Server.interrupt, happ]
      rw [hs]
      by_cases ha : a.AboutToExpire k
      · obtain ⟨d, count, hexpire, rfl⟩ := ha
        have hnot : applied = false := by
          rw [hexpire] at happ
          simpa [Phase.onRedis] using happ
        rw [hnot] at hspares
        simp only [Attempt.Spares, hexpire] at hspares
        exact expires_of_deadline hW hwindow (hspares.resolve_right hothers)
      · exact h.expires hi hwindow hothers ha

/-- After an exception no EXPIRE is pending. -/
lemma raised_ne_expire (phase : Phase) (hdone : phase.isDone = false) (d : Dimension) (count : Nat) :
    raised phase ≠ .expire d count := by
  cases phase <;> simp [raised]

/-- Every step keeps the counters exactly when it spares them. -/
lemma Step.countersExpire_iff {env : Env} {s t : Server} {l : Label}
    (hW : Within s.clock s.redis) (h : s.CountersExpire) (hst : Step env s l t) :
    t.CountersExpire ↔ Spares s l := by
  have one : ∀ {i : Nat} {a : Attempt} {applied : Bool}, s.attempts[i]? = some a →
      ((∀ b, s.attempts[i]? = some b → b.Spares s i applied) ↔ a.Spares s i applied) := by
    intro i a applied hi
    constructor
    · exact fun hall => hall a hi
    · intro ha b hb
      rw [hi, Option.some.injEq] at hb
      exact hb ▸ ha
  cases hst.stepped with
  | @tick ms =>
    refine iff_of_true ?_ trivial
    intro k window hwindow hno e he
    have hle := Nat.le_add_right s.clock ms
    obtain ⟨deadline, hd, hbound⟩ := h k window hwindow hno e (Keyspace.find_later he hle)
    refine ⟨deadline, hd, ?_⟩
    show deadline ≤ s.clock + ms + _
    omega
  | enter =>
    refine iff_of_true ?_ trivial
    intro k window hwindow hno
    apply h k window hwindow
    rintro ⟨j, b, hj, hb⟩
    exact hno ⟨j, b, List.getElem?_append_left (List.getElem?_eq_some_iff.1 hj).1 ▸ hj, hb⟩
  | run hi _ => exact iff_of_true (h.run hi) trivial
  | @fail i a applied hi hdone =>
    rw [h.interrupt_iff hW hi (raised_ne_expire _ hdone)]
    exact (one hi).symm
  | @cancel i a applied hi _ =>
    rw [h.interrupt_iff hW hi (fun _ _ => by simp)]
    exact (one hi).symm

/-! ## After a quiet window -/

/-- An attempt does not begin with an EXPIRE. -/
lemma receive_ne_expire (env : Env) (email clientIp password : String) (d : Dimension)
    (count : Nat) : (receive env email clientIp password).phase ≠ .expire d count := by
  unfold receive
  split <;> simp

/-- No EXPIRE follows the comparison. -/
lemma compared_ne_expire (d d' : Dimension) (count count' : Nat) :
    compared d count ≠ .expire d' count' := by
  unfold compared
  split
  · simp
  · cases d <;> simp [registered]

/-- Only an `incr` that answers one leads to an `expire`. -/
lemma exec_eq_expire {env : Env} {now : Nat} {redis : Redis} {a : Attempt} {d : Dimension}
    {count : Nat} (h : (exec env now redis a).2 = .expire d count) :
    a.phase = .incr d ∧ count = 1 := by
  unfold exec at h
  split at h
  case h_2 =>
    unfold checked at h
    split at h <;> cases h
  case h_3 =>
    show _
    revert h
    show (if _ then Phase.clear else Phase.incr .email) = _ → _
    split <;> intro h <;> cases h
  case h_4 d' hphase =>
    change counted d' _ = _ at h
    unfold counted at h
    split at h
    · cases h
      exact ⟨hphase, ‹_›⟩
    · exact absurd h (compared_ne_expire _ _ _ _)
  case h_5 => exact absurd h (compared_ne_expire _ _ _ _)
  case h_6 d' _ => cases d' <;> cases h
  all_goals cases h

/-- The step counts a failure on the counter. -/
def Counts (s : Server) (k : RedisKeys) : Label → Prop
  | .run i | .fail i true | .cancel i true =>
    ∃ a d, s.attempts[i]? = some a ∧ a.phase = .incr d ∧ d.counterKey a = k
  | _ => False

/-- Nobody is about to give the counter a window, and what it has ends at a fixed moment. -/
structure Server.Ends (s : Server) (k : RedisKeys) (moment : Nat) : Prop where
  quiet : ¬ s.AboutToExpire k
  ends : ∀ e, Keyspace.find s.redis s.clock k = some e →
    ∃ deadline, e.deadline = some deadline ∧ deadline ≤ moment

/-- A change of phase that leaves no EXPIRE pending keeps the end of the window. -/
lemma Server.Ends.setPhase {s u : Server} {k : RedisKeys} {moment : Nat} (h : s.Ends k moment)
    (hu : u.attempts = s.attempts) {i : Nat} {a : Attempt} (hi : s.attempts[i]? = some a)
    {phase : Phase} (hphase : ¬ Attempt.AboutToExpire { a with phase } k)
    (hends : ∀ e, Keyspace.find u.redis u.clock k = some e →
      ∃ deadline, e.deadline = some deadline ∧ deadline ≤ moment) :
    (u.setPhase i a phase).Ends k moment := by
  refine ⟨?_, hends⟩
  rw [aboutToExpire_setPhase hu hi]
  rintro (ho | ha)
  · exact h.quiet ((aboutToExpire_iff hi k).2 (.inl ho))
  · exact hphase ha

/-- A piece that does not count on the counter leaves its end in place. -/
lemma Server.Ends.apply {env : Env} {s : Server} {k : RedisKeys} {window moment : Nat}
    (h : s.Ends k moment) (hwindow : k.window = some window) {i : Nat} {a : Attempt}
    (hi : s.attempts[i]? = some a) (hcount : ∀ d, a.phase = .incr d → d.counterKey a ≠ k) :
    ∀ e, Keyspace.find (s.apply env a).redis s.clock k = some e →
      ∃ deadline, e.deadline = some deadline ∧ deadline ≤ moment := by
  intro e he
  by_cases ht : a.touched = some k
  · rcases touched_counter ht hwindow with ⟨d, hphase, rfl⟩ | ⟨d, count, hphase, rfl⟩ |
      ⟨hphase, rfl⟩
    · exact absurd rfl (hcount d hphase)
    · exact absurd ((aboutToExpire_iff hi _).2 (.inr ⟨d, count, hphase, rfl⟩)) h.quiet
    · have hnone : Keyspace.find (s.apply env a).redis s.clock (.adminLoginFail a.email) = none := by
        simp only [Server.apply, exec, hphase]
        exact Keyspace.find_delete
      rw [hnone] at he
      cases he
  · apply h.ends e
    have hsame : (s.apply env a).redis k = s.redis k := exec_of_not_touched ht
    unfold Keyspace.find at he ⊢
    rwa [hsame] at he

/-- A step that does not count keeps the end of the window. -/
lemma Server.Ends.step {env : Env} {s t : Server} {k : RedisKeys} {window moment : Nat}
    (hwindow : k.window = some window) {l : Label} (hcount : ¬ Counts s k l)
    (h : s.Ends k moment) (hst : Step env s l t) : t.Ends k moment := by
  have interrupted : ∀ {i : Nat} {a : Attempt} {applied : Bool}, s.attempts[i]? = some a →
      (applied = true → ∀ d, a.phase = .incr d → d.counterKey a ≠ k) →
      ∀ e, Keyspace.find (s.interrupt env a applied).redis (s.interrupt env a applied).clock k =
        some e → ∃ deadline, e.deadline = some deadline ∧ deadline ≤ moment := by
    intro i a applied hi hc
    unfold Server.interrupt
    split
    · rename_i happ
      exact h.apply hwindow hi (hc (Bool.and_eq_true_iff.1 happ).1)
    · exact h.ends
  have hu : ∀ a applied, (s.interrupt env a applied).attempts = s.attempts := by
    intro a applied
    unfold Server.interrupt
    split <;> rfl
  cases hst.stepped with
  | tick => exact ⟨h.quiet, fun e he => h.ends e (Keyspace.find_later he (Nat.le_add_right _ _))⟩
  | enter =>
    refine ⟨?_, h.ends⟩
    rintro ⟨j, b, hj, hb⟩
    rcases List.mem_append.1 (List.mem_of_getElem? hj) with hmem | hmem
    · obtain ⟨j', hj'⟩ := List.mem_iff_getElem?.1 hmem
      exact h.quiet ⟨j', b, hj', hb⟩
    · rw [List.mem_singleton.1 hmem] at hb
      obtain ⟨d, count, hp, _⟩ := hb
      exact receive_ne_expire env _ _ _ d count hp
  | @run i a hi _ =>
    have hc : ∀ d, a.phase = .incr d → d.counterKey a ≠ k :=
      fun d hphase hk => hcount ⟨a, d, hi, hphase, hk⟩
    apply h.setPhase (u := s.apply env a) rfl hi ?_ (h.apply hwindow hi hc)
    rintro ⟨d, count, hnext, hk⟩
    obtain ⟨hphase, _⟩ := exec_eq_expire hnext
    exact hc d hphase (by cases d <;> exact hk)
  | @fail i a applied hi hdone =>
    apply h.setPhase (hu a applied) hi ?_ (interrupted hi ?_)
    · rintro ⟨d, count, hp, _⟩
      exact raised_ne_expire _ hdone _ _ hp
    · rintro rfl d hphase hk
      exact hcount ⟨a, d, hi, hphase, hk⟩
  | @cancel i a applied hi _ =>
    apply h.setPhase (hu a applied) hi ?_ (interrupted hi ?_)
    · rintro ⟨d, count, hp, _⟩
      cases hp
    · rintro rfl d hphase hk
      exact hcount ⟨a, d, hi, hphase, hk⟩

/-! ## A failure that starts from one -/

/-- What is left of an attempt that has counted a first failure in a dimension. -/
def Phase.Beyond (d : Dimension) : Phase → Prop
  | .expire d' count => d' = d ∧ count = 1 ∨ d = .email ∧ d' = .ip
  | .incr d' | .lock d' => d = .email ∧ d' = .ip
  | .done _ => True
  | _ => False

/-- Beyond a dimension its lock is not written. -/
lemma Phase.Beyond.ne_lock {d : Dimension} {phase : Phase} (h : phase.Beyond d) :
    phase ≠ .lock d := by
  rintro rfl
  obtain ⟨rfl, hd⟩ := h
  cases hd

/-- What follows a registered failure is beyond its dimension. -/
lemma beyond_registered (d : Dimension) : (registered d).Beyond d := by
  cases d with
  | email => exact ⟨rfl, rfl⟩
  | ip => trivial

/-- What follows the comparison of the client is beyond the e-mail. -/
lemma beyond_compared_ip (count : Nat) : (compared .ip count).Beyond .email := by
  unfold compared
  split
  · exact ⟨rfl, rfl⟩
  · trivial

/-- A first failure stays below the threshold, and the other dimension does not lock this one. -/
lemma beyond_exec {env : Env} {now : Nat} {redis : Redis} {a : Attempt} {d : Dimension}
    (h : a.phase.Beyond d) : (exec env now redis a).2.Beyond d := by
  unfold exec
  cases hphase : a.phase with
  | incr d' =>
    rw [hphase] at h
    obtain ⟨rfl, rfl⟩ := h
    show (counted .ip _).Beyond .email
    unfold counted
    split
    · exact .inr ⟨rfl, rfl⟩
    · exact beyond_compared_ip _
  | expire d' count =>
    rw [hphase] at h
    rcases h with ⟨rfl, rfl⟩ | ⟨rfl, rfl⟩
    · show (compared d' 1).Beyond d'
      unfold compared
      rw [if_neg (Nat.not_le.2 d'.one_lt_threshold)]
      exact beyond_registered d'
    · exact beyond_compared_ip count
  | lock d' =>
    rw [hphase] at h
    obtain ⟨rfl, rfl⟩ := h
    trivial
  | done => trivial
  | _ =>
    rw [hphase] at h
    cases h

/-- What follows an exception is beyond the dimension still. -/
lemma beyond_raised {phase : Phase} {d : Dimension} (h : phase.Beyond d) :
    (raised phase).Beyond d := by
  cases phase <;> trivial

/-- The attempt at a place stays beyond the dimension. -/
lemma Step.beyond {env : Env} {s t : Server} {l : Label} (hst : Step env s l t) {i : Nat}
    {d : Dimension} (h : ∃ a, s.attempts[i]? = some a ∧ a.phase.Beyond d) :
    ∃ a, t.attempts[i]? = some a ∧ a.phase.Beyond d := by
  obtain ⟨a, hi, ha⟩ := h
  have hlt : i < s.attempts.length := (List.getElem?_eq_some_iff.1 hi).1
  have moved : ∀ {u : Server} {j : Nat} {b : Attempt} {phase : Phase},
      u.attempts = s.attempts → s.attempts[j]? = some b → (b.phase.Beyond d → phase.Beyond d) →
      ∃ a, (u.setPhase j b phase).attempts[i]? = some a ∧ a.phase.Beyond d := by
    intro u j b phase hu hj hphase
    show ∃ a, (u.attempts.set j { b with phase })[i]? = some a ∧ _
    rw [hu]
    by_cases hji : j = i
    · subst hji
      rw [hi, Option.some.injEq] at hj
      subst hj
      exact ⟨{ a with phase }, by simp [hlt], hphase ha⟩
    · exact ⟨a, by rw [List.getElem?_set_ne hji, hi], ha⟩
  have hu : ∀ b applied, (s.interrupt env b applied).attempts = s.attempts := by
    intro b applied
    unfold Server.interrupt
    split <;> rfl
  cases hst.stepped with
  | tick => exact ⟨a, hi, ha⟩
  | enter => exact ⟨a, by rw [List.getElem?_append_left hlt, hi], ha⟩
  | run hj _ => exact moved (u := s.apply env _) rfl hj beyond_exec
  | fail hj _ => exact moved (hu _ _) hj beyond_raised
  | cancel hj _ => exact moved (hu _ _) hj (fun _ => trivial)

/-- The failure that the `i`-th attempt is about to count locks nothing in its dimension. -/
def Server.CountsAlone (env : Env) (s : Server) (i : Nat) (d : Dimension) : Prop :=
  ∀ u, Step env s (.run i) u → ∀ ls v, Steps (Step env) u ls v →
    ∀ a, v.attempts[i]? = some a → a.phase ≠ .lock d

/-- Where there is no counter yet, the attempt counts alone. -/
lemma countsAlone_of_not_holds {env : Env} {s : Server} {i : Nat} {a : Attempt} {d : Dimension}
    (hi : s.attempts[i]? = some a) (hphase : a.phase = .incr d)
    (hno : ¬ Keyspace.Holds s.redis s.clock (d.counterKey a)) : s.CountsAlone env i d := by
  intro u hst ls v run b hb
  have hlt : i < s.attempts.length := (List.getElem?_eq_some_iff.1 hi).1
  have start : ∃ a, u.attempts[i]? = some a ∧ a.phase.Beyond d := by
    cases hst.stepped with
    | run hj _ =>
      rw [hi, Option.some.injEq] at hj
      subst hj
      refine ⟨{ a with phase := .expire d 1 }, ?_, .inl ⟨rfl, rfl⟩⟩
      have hnext : (exec env s.clock s.redis a).2 = .expire d 1 := by
        simp only [exec, hphase, Keyspace.incr_of_not_holds hno]
        rfl
      simp [Server.setPhase, Server.apply, hnext, hlt]
  obtain ⟨c, hc, hbeyond⟩ := run.invariant
    (I := fun s => ∃ a, s.attempts[i]? = some a ∧ a.phase.Beyond d)
    (fun h hst => hst.beyond h) start
  rw [hb, Option.some.injEq] at hc
  subst hc
  exact hbeyond.ne_lock

/-- The counters of a run all expire, but while an `expire` of theirs is to come, exactly when its
interruptions spare them; and in such a run, once a counter has seen a full window without a
failure, the next failure locks nothing. -/
theorem expires_iff {env : Env} {clock : Nat} {ls : List Label} {s : Server} :
    (Guarded (Step env) Spares (Server.init clock) ls s ↔
      Guarded (Step env) (fun s _ => s.CountersExpire) (Server.init clock) ls s ∧
        s.CountersExpire) ∧
    (Guarded (Step env) Spares (Server.init clock) ls s →
      ∀ k window, k.window = some window → ¬ s.AboutToExpire k →
      ∀ ms t, Guarded (Step env) (fun s l => ¬ Counts s k l) s ms t →
      s.clock + 1000 * window < t.clock →
      ∀ i a d, t.attempts[i]? = some a → a.phase = .incr d → d.counterKey a = k →
        t.CountsAlone env i d) := by
  have along : Guarded (Step env) Spares (Server.init clock) ls s ↔
      Guarded (Step env) (fun s _ => s.CountersExpire) (Server.init clock) ls s ∧
        s.CountersExpire := by
    apply Guarded.iff_along (W := fun s => Within s.clock s.redis)
    · exact fun hW hst => within_step hW hst
    · exact fun hW h hst => hst.countersExpire_iff hW h
    · exact fun k window e deadline _ h => by cases h
    · exact countersExpire_init clock
  refine ⟨along, ?_⟩
  rintro run k window hwindow hquiet ms t rest hlate i a d hi hphase rfl
  have hends : s.Ends (d.counterKey a) (s.clock + 1000 * window) :=
    ⟨hquiet, (along.1 run).2 _ window hwindow hquiet⟩
  have hlater : t.Ends (d.counterKey a) (s.clock + 1000 * window) := by
    refine Guarded.invariant (I := fun u => u.Ends (d.counterKey a) (s.clock + 1000 * window)) ?_
      rest hends
    exact fun hc h hst => Server.Ends.step hwindow hc h hst
  apply countsAlone_of_not_holds hi hphase
  intro hholds
  obtain ⟨e, he⟩ := Option.isSome_iff_exists.1 hholds
  obtain ⟨deadline, hd, hle⟩ := hlater.ends e he
  -- the entry has ended before now
  obtain ⟨v, dl⟩ := e
  cases hd
  have hlive := Keyspace.live_some.1 (Keyspace.find_eq_some.1 he).2
  omega

namespace Sample

/-- Neither an exception nor a cancellation. -/
def Answered (_ : Server) : Label → Prop
  | .fail _ _ | .cancel _ _ => False
  | _ => True

/-- Nobody is about to count a failure. -/
def Quiet (s : Server) (_ : Label) : Prop :=
  ∀ a ∈ s.attempts, a.phase ≠ .incr .email ∧ a.phase ≠ .incr .ip

instance (s : Server) : (l : Label) → Decidable (Answered s l)
  | .fail _ _ | .cancel _ _ => isFalse id
  | .tick _ | .enter _ _ _ | .run _ => isTrue trivial

instance (s : Server) (l : Label) : Decidable (Quiet s l) :=
  inferInstanceAs (Decidable (∀ a ∈ s.attempts, _ ∧ _))

/-- A command that is answered spares the counter. -/
lemma Answered.spares {s : Server} {l : Label} (h : Answered s l) : Spares s l := by
  cases l with
  | fail => cases h
  | cancel => cases h
  | _ => trivial

/-- A quiet step does not count. -/
lemma Quiet.not_counts {s : Server} {l : Label} (h : Quiet s l) (k : RedisKeys) :
    ¬ Counts s k l := by
  intro hcounts
  unfold Counts at hcounts
  split at hcounts
  case h_4 => exact hcounts
  all_goals
    obtain ⟨a, d, hi, hphase, _⟩ := hcounts
    have hne := h a (List.mem_of_getElem? hi)
    cases d
    · exact hne.1 hphase
    · exact hne.2 hphase

/-- The second attempt is about to be counted, more than a window later. -/
def late (t : Server) : Bool :=
  decide (901000 < t.clock) && t.attempts[1]?.any fun a : Attempt =>
    decide (a.email = "root@x.io" ∧ a.phase = .incr .email)

def wait : List Label :=
  [.tick 901001, .enter "root@x.io" "10.0.0.2" "other", .run 1, .run 1, .run 1]

end Sample

/-- A failure, a quarter of an hour without any, and the next one. -/
theorem expires_two_failures : ∃ (t : Server) (a : Attempt), 901000 < t.clock ∧
    t.attempts[1]? = some a ∧ a.phase = .incr .email ∧ t.CountsAlone Sample.env 1 .email := by
  obtain ⟨s, run, hs⟩ := Guarded.exists_of_walk (R := Step Sample.env) (C := Sample.Answered)
    (f := Server.step Sample.env) id
    [.enter "root@x.io" "10.0.0.1" "guess", .run 0, .run 0, .run 0, .run 0, .run 0, .run 0, .run 0]
    (s := Server.init 0)
    (p := fun s => decide (s.clock = 0) && s.attempts.all (·.phase.isDone) &&
      (walk (Server.step Sample.env) Sample.Quiet s Sample.wait).any Sample.late)
    (by decide +kernel)
  simp only [Bool.and_eq_true, decide_eq_true_eq] at hs
  obtain ⟨⟨hclock, hdone⟩, hwalk⟩ := hs
  obtain ⟨t, rest, ht⟩ := Guarded.exists_of_walk (R := Step Sample.env) id _ hwalk
  simp only [Sample.late, Bool.and_eq_true, decide_eq_true_eq, Option.any_eq_true] at ht
  obtain ⟨hlate, a, hi, hemail, hphase⟩ := ht
  refine ⟨t, a, hlate, hi, hphase, ?_⟩
  refine expires_iff.2 (run.mono Sample.Answered.spares) (.adminLoginFail "root@x.io") 900 rfl ?_ _ t
    (rest.mono (fun h => h.not_counts _)) ?_ 1 a .email hi hphase ?_
  · rintro ⟨j, b, hj, d, count, hb, _⟩
    have hdone' := List.all_eq_true.1 hdone b (List.mem_of_getElem? hj)
    rw [hb] at hdone'
    cases hdone'
  · omega
  · rw [← hemail]
    rfl

/-- A first failure whose `expire` raises without having been carried out. -/
theorem not_expires_after_lost_expire : ¬ ∀ (env : Env) (clock : Nat) (ls : List Label)
    (s : Server), Steps (Step env) (Server.init clock) ls s →
      (∀ a ∈ s.attempts, a.phase.isDone = true) →
      ∀ k window, k.window = some window → s.Expires k window := by
  intro h
  obtain ⟨s, run, hs⟩ := Guarded.exists_of_walk (R := Step Sample.env) (C := fun _ _ => True)
    (f := Server.step Sample.env) id
    [.enter "root@x.io" "10.0.0.1" "guess", .run 0, .run 0, .run 0, .run 0, .fail 0 false]
    (s := Server.init 0)
    (p := fun s => s.attempts.all (·.phase.isDone) &&
      (Keyspace.find s.redis s.clock (.adminLoginFail "root@x.io")).any (·.deadline = none))
    (by decide +kernel)
  obtain ⟨hdone, hcounter⟩ := Bool.and_eq_true_iff.1 hs
  obtain ⟨e, he, hnone⟩ := (Option.any_eq_true _ _).1 hcounter
  obtain ⟨deadline, hd, _⟩ := h _ _ _ _ run.steps (List.all_eq_true.1 hdone) _ _ rfl e he
  rw [of_decide_eq_true hnone] at hd
  cases hd

end AdminLogin

end InstantBoard.Auth
