import InstantBoard.Auth.AdminLogin

/-!
# Rejected passwords before a lock

The lock of an e-mail is read before its password is verified, and the failure is counted after
that: attempts that have read the lock and are not counted yet go on whatever the counter says, so
that any number of passwords can be rejected before the lock is there
(`withstands_fails_concurrently`). The bound holds in every run in which an attempt that finds the
e-mail unlocked leaves room for the ones already past the lock, and no rejected password stays
uncounted (`withstands_of_room`): the counter and the attempts past the lock together never exceed
the limit.
-/

namespace InstantBoard.Auth.AdminLogin

open Transition

/-! ## What the bound says -/

/-- The failure counter of an e-mail. -/
def Server.failures (s : Server) (email : String) : Option Nat :=
  (Keyspace.find s.redis s.clock (.adminLoginFail email)).map (·.value)

def Server.Locked (s : Server) (email : String) : Prop :=
  Keyspace.Holds s.redis s.clock (.adminLoginLock email)

instance (s : Server) (email : String) : Decidable (s.Locked email) :=
  inferInstanceAs (Decidable (Keyspace.Holds _ _ _))

/-- The attempt is turned away, its password not being verified: it is not about to be verified,
it finds the lock, and having found it is rejected. -/
def Attempt.TurnedAway (env : Env) (s : Server) (a : Attempt) : Prop :=
  a.phase ≠ .lookup ∧
    (a.phase = .emailLock → (exec env s.clock s.redis a).2 = .ipLock true) ∧
    ∀ emailLocked, a.phase = .ipLock emailLocked →
      (exec env s.clock s.redis a).2 = .done .invalidCredentials

/-- The limit on rejected passwords while the counter is there and the lock is not, and no
verification while the lock is there. -/
structure Server.Withstands (env : Env) (s : Server) (email : String) : Prop where
  bounded : (s.failures email).isSome = true → ¬ s.Locked email →
    s.rejected email ≤ ADMIN_LOGIN_MAX_FAILURES
  refused : s.Locked email → ∀ a ∈ s.attempts, a.email = email → a.TurnedAway env s

/-- Redis answers every command. -/
def Healthy (s : Server) : Label → Prop
  | .fail i _ => ∀ a, s.attempts[i]? = some a → a.phase.onRedis = false
  | _ => True

instance (s : Server) : (l : Label) → Decidable (Healthy s l)
  | .fail i _ =>
    inferInstanceAs (Decidable (∀ a ∈ s.attempts[i]?, a.phase.onRedis = false))
  | .tick _ | .enter _ _ _ | .run _ | .cancel _ _ => isTrue trivial

/-! ## Attempts past the lock -/

/-- Past the lock of the e-mail and not counted. -/
def Phase.isPast : Phase → Bool
  | .ipLock false | .lookup | .incr .email => true
  | _ => false

/-- Rejected and not counted. -/
def Phase.isUncounted : Phase → Bool
  | .incr .email => true
  | _ => false

/-- About to lock the e-mail. -/
def Phase.isLocking : Phase → Bool
  | .expire .email count => decide (count ≥ ADMIN_LOGIN_MAX_FAILURES)
  | .lock .email => true
  | _ => false

/-- One for an attempt of the e-mail in such a phase. -/
def weight (p : Phase → Bool) (email : String) (a : Attempt) : Nat :=
  if a.email = email ∧ p a.phase = true then 1 else 0

/-- How many attempts of the e-mail are in such a phase. -/
def Server.among (s : Server) (p : Phase → Bool) (email : String) : Nat :=
  Pool.weigh (weight p email) s.attempts

/-- The condition on a step: who finds the e-mail unlocked leaves room for those past the lock and
not counted, with no lock about to be written; a rejected password is counted. -/
def LeavesRoom (s : Server) : Label → Prop
  | .run i => ∀ a, s.attempts[i]? = some a → a.phase = .emailLock → ¬ s.Locked a.email →
    (s.failures a.email).getD 0 + s.among Phase.isPast a.email < ADMIN_LOGIN_MAX_FAILURES ∧
      s.among Phase.isLocking a.email = 0
  | .cancel i applied => ∀ a, s.attempts[i]? = some a → a.phase = .incr .email → applied = true
  | _ => True

instance (s : Server) : (l : Label) → Decidable (LeavesRoom s l)
  | .run i => inferInstanceAs (Decidable (∀ a ∈ s.attempts[i]?, a.phase = .emailLock →
      ¬ s.Locked a.email → _ ∧ _))
  | .cancel i applied => inferInstanceAs (Decidable (∀ a ∈ s.attempts[i]?,
      a.phase = .incr .email → applied = true))
  | .tick _ | .enter _ _ _ | .fail _ _ => isTrue trivial

/-- The invariant for one e-mail. -/
structure Room (email : String) (s : Server) : Prop where
  room : (s.failures email).getD 0 + s.among Phase.isPast email ≤ ADMIN_LOGIN_MAX_FAILURES
  tallied : ∀ n, s.failures email = some n →
    s.rejected email ≤ n + s.among Phase.isUncounted email
  shut : s.Locked email ∨ 0 < s.among Phase.isLocking email → s.among Phase.isPast email = 0

/-- A server that starts has room. -/
lemma room_init (clock : Nat) (email : String) : Room email (Server.init clock) where
  room := Nat.zero_le _
  tallied := fun _ h => by cases h
  shut := fun _ => rfl

/-- An attempt that stays or goes on into the phases of `q` weighs no more there. -/
lemma weight_le {p q : Phase → Bool} {email : String} {a b : Attempt} (he : b.email = a.email)
    (h : a.email = email → p a.phase = true → q b.phase = true) :
    weight p email a ≤ weight q email b := by
  unfold weight
  split
  · rename_i hp
    rw [if_pos ⟨he.trans hp.1, h hp.1 hp.2⟩]
  · exact Nat.zero_le _

/-- Larger weights weigh more. -/
lemma weigh_le {f g : Attempt → Nat} (h : ∀ a, f a ≤ g a) (l : List Attempt) :
    Pool.weigh f l ≤ Pool.weigh g l := by
  induction l with
  | nil => exact Nat.le_refl _
  | cons a l ih =>
    simp only [Pool.weigh_cons]
    exact Nat.add_le_add (h a) ih

/-- Who is uncounted is past the lock. -/
lemma uncounted_le_past (s : Server) (email : String) :
    s.among Phase.isUncounted email ≤ s.among Phase.isPast email := by
  apply weigh_le
  intro a
  apply weight_le rfl
  intro _ h
  unfold Phase.isUncounted at h
  split at h
  · rename_i hp
    rw [hp]
    rfl
  · cases h

/-- An attempt in one of the phases weighs one for its own address. -/
lemma weight_pos_of {p : Phase → Bool} {a : Attempt} (h : p a.phase = true) :
    weight p a.email a = 1 :=
  if_pos ⟨rfl, h⟩

/-- An attempt in none of the phases weighs nothing. -/
lemma weight_zero_of {p : Phase → Bool} {a : Attempt} {email : String} (h : p a.phase = false) :
    weight p email a = 0 := by
  unfold weight
  rw [if_neg]
  intro hp
  rw [h] at hp
  cases hp.2

/-- An attempt in one of the phases is counted. -/
lemma among_pos {s : Server} {p : Phase → Bool} {a : Attempt} (ha : a ∈ s.attempts)
    (h : p a.phase = true) : 0 < s.among p a.email := by
  unfold Server.among
  obtain ⟨l, m, hlm⟩ := List.append_of_mem ha
  rw [hlm, Pool.weigh_append, Pool.weigh_cons, weight_pos_of h]
  omega

/-- The count after an attempt has gone on: its old weight goes, its new one comes. -/
lemma among_setPhase {s : Server} {i : Nat} {a : Attempt} (hi : s.attempts[i]? = some a)
    (p : Phase → Bool) (email : String) (phase : Phase) :
    (s.setPhase i a phase).among p email + weight p email a =
      s.among p email + weight p email { a with phase } :=
  Pool.weigh_set hi

/-- What the invariant rests on stays within what it was. -/
lemma Room.of_kept {email : String} {s t : Server} (h : Room email s)
    (hf : t.failures email = s.failures email ∨ t.failures email = none)
    (hl : t.Locked email → s.Locked email) (hr : t.rejected email = s.rejected email)
    (hpast : t.among Phase.isPast email ≤ s.among Phase.isPast email)
    (hun : s.among Phase.isUncounted email ≤ t.among Phase.isUncounted email)
    (hlocking : t.among Phase.isLocking email ≤ s.among Phase.isLocking email) : Room email t := by
  obtain ⟨room, tallied, shut⟩ := h
  constructor
  · rcases hf with hf | hf
    · rw [hf]
      omega
    · rw [hf]
      show 0 + _ ≤ _
      omega
  · intro n hn
    rcases hf with hf | hf
    · have := tallied n (hf ▸ hn)
      omega
    · rw [hf] at hn
      cases hn
  · intro hs
    have h0 : s.among Phase.isPast email = 0 := by
      apply shut
      rcases hs with hs | hs
      · exact .inl (hl hs)
      · exact .inr (by omega)
    omega

/-- From the invariant to the bound. -/
lemma Room.withstands {email : String} {s : Server} (h : Room email s) (env : Env) :
    s.Withstands env email := by
  constructor
  · intro hc _
    obtain ⟨n, hn⟩ := Option.isSome_iff_exists.1 hc
    have hroom := h.room
    have htally := h.tallied n hn
    have hle := uncounted_le_past s email
    rw [hn] at hroom
    simp only [Option.getD_some] at hroom
    omega
  · intro hl a ha hemail
    subst hemail
    have h0 := h.shut (.inl hl)
    have nopast : a.phase.isPast = false := by
      cases hp : a.phase.isPast with
      | false => rfl
      | true =>
        have := among_pos (p := Phase.isPast) ha hp
        omega
    refine ⟨?_, ?_, ?_⟩
    · intro hphase
      rw [hphase] at nopast
      cases nopast
    · intro hphase
      unfold exec
      rw [hphase]
      show Phase.ipLock _ = _
      rw [decide_eq_true (show Keyspace.Holds _ _ _ from hl)]
    · intro emailLocked hphase
      rw [hphase] at nopast
      cases emailLocked with
      | false => cases nopast
      | true =>
        unfold exec
        rw [hphase]
        rfl

/-! ## One step -/

/-- The counter that an attempt touches is that of its own address. -/
lemma touched_fail {a : Attempt} {email : String} (h : a.touched = some (.adminLoginFail email)) :
    a.email = email := by
  unfold Attempt.touched at h
  split at h
  case h_1 d _ => cases d <;> cases h; rfl
  case h_2 d _ _ => cases d <;> cases h; rfl
  case h_3 d _ => cases d <;> cases h
  case h_4 => cases h; rfl
  all_goals cases h

/-- The lock that an attempt touches is that of its own address. -/
lemma touched_lock {a : Attempt} {email : String} (h : a.touched = some (.adminLoginLock email)) :
    a.email = email := by
  unfold Attempt.touched at h
  split at h
  case h_1 d _ => cases d <;> cases h
  case h_2 d _ _ => cases d <;> cases h
  case h_3 d _ => cases d <;> cases h; rfl
  all_goals cases h

/-- The failures are those of the counter's key. -/
lemma failures_congr {s t : Server} {email : String} (hclock : t.clock = s.clock)
    (h : t.redis (.adminLoginFail email) = s.redis (.adminLoginFail email)) :
    t.failures email = s.failures email := by
  unfold Server.failures Keyspace.find
  rw [h, hclock]

/-- The lock is that of the lock's key. -/
lemma locked_congr {s t : Server} {email : String} (hclock : t.clock = s.clock)
    (h : t.redis (.adminLoginLock email) = s.redis (.adminLoginLock email)) :
    t.Locked email ↔ s.Locked email := by
  unfold Server.Locked Keyspace.Holds Keyspace.find
  rw [h, hclock]

/-- An attempt moves to a phase that weighs no more, the keys of the e-mail being kept. -/
lemma Room.setPhase {email : String} {s u : Server} (h : Room email s)
    (hu : u.attempts = s.attempts)
    (hf : u.failures email = s.failures email ∨ u.failures email = none)
    (hl : u.Locked email → s.Locked email) (hr : u.rejected email = s.rejected email)
    {i : Nat} {a : Attempt} (hi : s.attempts[i]? = some a) {phase : Phase}
    (hpast : a.email = email → phase.isPast = true → a.phase.isPast = true)
    (hun : a.email = email → a.phase.isUncounted = true → phase.isUncounted = true)
    (hlocking : a.email = email → phase.isLocking = true → a.phase.isLocking = true) :
    Room email (u.setPhase i a phase) := by
  have hi' : u.attempts[i]? = some a := hu ▸ hi
  have same : ∀ p, u.among p email = s.among p email := by
    intro p
    unfold Server.among
    rw [hu]
  have h₁ := among_setPhase hi' Phase.isPast email phase
  have h₂ := among_setPhase hi' Phase.isUncounted email phase
  have h₃ := among_setPhase hi' Phase.isLocking email phase
  have w₁ : weight Phase.isPast email { a with phase } ≤ weight Phase.isPast email a :=
    weight_le rfl hpast
  have w₂ : weight Phase.isUncounted email a ≤ weight Phase.isUncounted email { a with phase } :=
    weight_le rfl hun
  have w₃ : weight Phase.isLocking email { a with phase } ≤ weight Phase.isLocking email a :=
    weight_le rfl hlocking
  rw [same] at h₁ h₂ h₃
  refine h.of_kept (t := u.setPhase i a phase) hf hl hr ?_ ?_ ?_
  · omega
  · omega
  · omega

/-- A command on another key leaves the failures. -/
lemma apply_failures {env : Env} {s : Server} {a : Attempt} {email : String}
    (h : a.touched ≠ some (.adminLoginFail email)) :
    (s.apply env a).failures email = s.failures email :=
  failures_congr rfl (exec_of_not_touched h)

/-- A command on another key leaves the lock. -/
lemma apply_locked {env : Env} {s : Server} {a : Attempt} {email : String}
    (h : a.touched ≠ some (.adminLoginLock email)) :
    (s.apply env a).Locked email ↔ s.Locked email :=
  locked_congr rfl (exec_of_not_touched h)

/-- An attempt on another address is not tallied. -/
lemma tally_of_ne {env : Env} {s : Server} {a : Attempt} {email : String} (h : a.email ≠ email) :
    s.tally env a email = s.rejected email := by
  unfold Server.tally
  cases a.phase with
  | lookup =>
    show (if _ then s.rejected else _) email = _
    split
    · rfl
    · exact if_neg (Ne.symm h)
  | incr d =>
    cases d with
    | email =>
      show (if _ then s.rejected else _) email = _
      split
      · rfl
      · exact if_neg (Ne.symm h)
    | ip => rfl
  | _ => rfl

/-- Attempts for other e-mails do not matter. -/
lemma Room.foreign {email : String} {s : Server} (h : Room email s) (env : Env) {i : Nat}
    {a : Attempt} (hi : s.attempts[i]? = some a) (hne : a.email ≠ email) (phase : Phase) :
    Room email ((s.apply env a).setPhase i a phase) := by
  refine h.setPhase (u := s.apply env a) rfl ?_ ?_ (tally_of_ne hne) hi ?_ ?_ ?_
  · exact .inl (apply_failures (fun ht => hne (touched_fail ht)))
  · exact (apply_locked (fun ht => hne (touched_lock ht))).1
  · exact fun he => absurd he hne
  · exact fun he => absurd he hne
  · exact fun he => absurd he hne

/-- An attempt finds the e-mail unlocked, with room left. -/
lemma Room.read {s : Server} {i : Nat} {a : Attempt} (h : Room a.email s)
    (hi : s.attempts[i]? = some a) (hphase : a.phase = .emailLock) (hl : ¬ s.Locked a.email)
    (hroom : (s.failures a.email).getD 0 + s.among Phase.isPast a.email < ADMIN_LOGIN_MAX_FAILURES)
    (hlocking : s.among Phase.isLocking a.email = 0) :
    Room a.email (s.setPhase i a (.ipLock false)) := by
  have h₁ := among_setPhase hi Phase.isPast a.email (.ipLock false)
  have h₂ := among_setPhase hi Phase.isUncounted a.email (.ipLock false)
  have h₃ := among_setPhase hi Phase.isLocking a.email (.ipLock false)
  simp only [weight, hphase, Phase.isPast, Phase.isUncounted, Phase.isLocking, true_and, and_false,
    if_true, if_false, reduceCtorEq] at h₁ h₂ h₃
  constructor
  · show (s.failures a.email).getD 0 + _ ≤ _
    omega
  · intro n hn
    have ht : s.rejected a.email ≤ n + s.among Phase.isUncounted a.email := h.tallied n hn
    show s.rejected a.email ≤ n + _
    omega
  · rintro (hs | hs)
    · exact absurd hs hl
    · omega

/-- A password is rejected. -/
lemma Room.reject {env : Env} {s : Server} {i : Nat} {a : Attempt} (h : Room a.email s)
    (hi : s.attempts[i]? = some a) (hphase : a.phase = .lookup)
    (hno : env.passwordOk a.email a.password = false) :
    Room a.email ((s.apply env a).setPhase i a (.incr .email)) := by
  have h₁ := among_setPhase (s := s.apply env a) hi Phase.isPast a.email (.incr .email)
  have h₂ := among_setPhase (s := s.apply env a) hi Phase.isUncounted a.email (.incr .email)
  have h₃ := among_setPhase (s := s.apply env a) hi Phase.isLocking a.email (.incr .email)
  simp only [weight, hphase, Phase.isPast, Phase.isUncounted, Phase.isLocking, true_and, and_false,
    if_true, if_false, reduceCtorEq] at h₁ h₂ h₃
  have hf : (s.apply env a).failures a.email = s.failures a.email :=
    apply_failures (by simp [Attempt.touched, hphase])
  have hr : (s.apply env a).rejected a.email = s.rejected a.email + 1 := by
    simp [Server.apply, Server.tally, hphase, hno]
  have same : ∀ p, (s.apply env a).among p a.email = s.among p a.email := fun _ => rfl
  rw [same] at h₁ h₂ h₃
  constructor
  · have := h.room
    show ((s.apply env a).failures a.email).getD 0 + _ ≤ _
    rw [hf]
    omega
  · intro n hn
    have ht := h.tallied n (hf ▸ hn)
    show (s.apply env a).rejected a.email ≤ n + _
    omega
  · intro hs
    have h0 : s.among Phase.isPast a.email = 0 := by
      apply h.shut
      rcases hs with hs | hs
      · exact .inl ((apply_locked (by simp [Attempt.touched, hphase])).1 hs)
      · exact .inr (by omega)
    omega

/-- What `incr` makes of the counter and of the tally. -/
lemma apply_incr (env : Env) (s : Server) {a : Attempt} (hphase : a.phase = .incr .email) :
    (s.failures a.email = none ∧ (s.apply env a).failures a.email = some 1 ∧
        (s.apply env a).rejected a.email = 1 ∧
        (Keyspace.incr s.redis s.clock (.adminLoginFail a.email)).2 = 1) ∨
      ∃ n, s.failures a.email = some n ∧ (s.apply env a).failures a.email = some (n + 1) ∧
        (s.apply env a).rejected a.email = s.rejected a.email ∧
        (Keyspace.incr s.redis s.clock (.adminLoginFail a.email)).2 = n + 1 := by
  have hredis : (s.apply env a).redis =
      (Keyspace.incr s.redis s.clock (.adminLoginFail a.email)).1 := by
    simp only [Server.apply, exec, hphase, Dimension.counterKey]
  have hrej : (s.apply env a).rejected a.email =
      if Keyspace.Holds s.redis s.clock (.adminLoginFail a.email) then s.rejected a.email
      else 1 := by
    simp only [Server.apply, Server.tally, hphase]
    split
    · rfl
    · exact if_pos rfl
  have hclock : (s.apply env a).clock = s.clock := rfl
  unfold Server.failures
  rw [hredis, hrej, hclock]
  cases hf : Keyspace.find s.redis s.clock (.adminLoginFail a.email) with
  | none =>
    have hno : ¬ Keyspace.Holds s.redis s.clock (.adminLoginFail a.email) :=
      Option.not_isSome_iff_eq_none.2 hf
    left
    rw [Keyspace.find_incr_of_not_holds hno, if_neg hno, Keyspace.incr_of_not_holds hno]
    exact ⟨rfl, rfl, rfl, rfl⟩
  | some e =>
    have hyes : Keyspace.Holds s.redis s.clock (.adminLoginFail a.email) :=
      Option.isSome_iff_exists.2 ⟨e, hf⟩
    right
    rw [Keyspace.find_incr_of_find hf, if_pos hyes, Keyspace.incr_of_find hf]
    exact ⟨e.value, rfl, rfl, rfl, rfl⟩

/-- A failure is counted: the attempt's place goes to the counter. -/
lemma Room.incr {env : Env} {s : Server} {i : Nat} {a : Attempt} (h : Room a.email s)
    (hi : s.attempts[i]? = some a) (hphase : a.phase = .incr .email) {phase : Phase}
    (hpast : phase.isPast = false) (hlocking : phase.isLocking = true →
      (Keyspace.incr s.redis s.clock (.adminLoginFail a.email)).2 ≥ ADMIN_LOGIN_MAX_FAILURES) :
    Room a.email ((s.apply env a).setPhase i a phase) := by
  have h₁ := among_setPhase (s := s.apply env a) hi Phase.isPast a.email phase
  have h₂ := among_setPhase (s := s.apply env a) hi Phase.isUncounted a.email phase
  have h₃ := among_setPhase (s := s.apply env a) hi Phase.isLocking a.email phase
  have w₁ : weight Phase.isPast a.email a = 1 := weight_pos_of (by rw [hphase]; rfl)
  have w₁' : weight Phase.isPast a.email { a with phase } = 0 := weight_zero_of hpast
  have w₂ : weight Phase.isUncounted a.email a = 1 := weight_pos_of (by rw [hphase]; rfl)
  have w₃ : weight Phase.isLocking a.email a = 0 := weight_zero_of (by rw [hphase]; rfl)
  have same : ∀ p, (s.apply env a).among p a.email = s.among p a.email := fun _ => rfl
  rw [same] at h₁ h₂ h₃
  have hl : ((s.apply env a).setPhase i a phase).Locked a.email ↔ s.Locked a.email :=
    apply_locked (by simp [Attempt.touched, hphase, Dimension.counterKey])
  have hroom := h.room
  -- the attempt itself is past the lock: nobody locks, and nobody has locked
  have hopen : ¬ (s.Locked a.email ∨ 0 < s.among Phase.isLocking a.email) := by
    intro hs
    have := h.shut hs
    omega
  constructor
  · show ((s.apply env a).failures a.email).getD 0 + _ ≤ _
    rcases apply_incr env s hphase with ⟨hf, hf', _, _⟩ | ⟨n, hf, hf', _, _⟩
    · rw [hf] at hroom
      rw [hf']
      simp only [Option.getD_none, Option.getD_some] at hroom ⊢
      omega
    · rw [hf] at hroom
      rw [hf']
      simp only [Option.getD_some] at hroom ⊢
      omega
  · intro n hn
    have hn' : (s.apply env a).failures a.email = some n := hn
    show (s.apply env a).rejected a.email ≤ n + _
    rcases apply_incr env s hphase with ⟨_, hf', hr, _⟩ | ⟨m, hf, hf', hr, _⟩
    · rw [hf', Option.some.injEq] at hn'
      omega
    · rw [hf', Option.some.injEq] at hn'
      have := h.tallied m hf
      omega
  · intro hs
    cases hlk : phase.isLocking with
    | false =>
      have w₃' : weight Phase.isLocking a.email { a with phase } = 0 := weight_zero_of hlk
      rcases hs with hs | hs
      · exact absurd (.inl (hl.1 hs)) hopen
      · exact absurd (.inr (by omega)) hopen
    | true =>
      -- the counter has reached the limit, so that the places are used up
      have hcount := hlocking hlk
      rcases apply_incr env s hphase with ⟨_, _, _, hc⟩ | ⟨m, hf, _, _, hc⟩
      · rw [hc] at hcount
        exact absurd hcount (by decide)
      · rw [hf] at hroom
        simp only [Option.getD_some] at hroom
        omega

/-- The pieces that reach the counter, the lock or the password of the e-mail. -/
def Phase.onEmail : Phase → Bool
  | .lookup | .incr .email | .expire .email _ | .lock .email | .clear => true
  | _ => false

/-- A phase that is not on the address leaves its counter, its lock and its tally. -/
lemma apply_of_not_onEmail (env : Env) (s : Server) {a : Attempt} (h : a.phase.onEmail = false) :
    (s.apply env a).failures a.email = s.failures a.email ∧
      ((s.apply env a).Locked a.email ↔ s.Locked a.email) ∧
      (s.apply env a).rejected a.email = s.rejected a.email := by
  have hkeys : a.touched ≠ some (.adminLoginFail a.email) ∧
      a.touched ≠ some (.adminLoginLock a.email) := by
    unfold Attempt.touched
    unfold Phase.onEmail at h
    cases hphase : a.phase with
    | incr d => cases d <;> simp_all [Dimension.counterKey]
    | expire d => cases d <;> simp_all [Dimension.counterKey]
    | lock d => cases d <;> simp_all [Dimension.lockKey]
    | clear => simp [hphase] at h
    | _ => simp
  have htally : s.tally env a = s.rejected := by
    unfold Server.tally
    unfold Phase.onEmail at h
    cases hphase : a.phase with
    | lookup => simp [hphase] at h
    | incr d => cases d <;> simp_all
    | _ => rfl
  exact ⟨apply_failures hkeys.1, apply_locked hkeys.2, congrFun htally _⟩

/-- The e-mail is locked: nobody is past its lock. -/
lemma Room.lock {env : Env} {s : Server} {i : Nat} {a : Attempt} (h : Room a.email s)
    (hi : s.attempts[i]? = some a) (hphase : a.phase = .lock .email) {phase : Phase}
    (hpast : phase.isPast = false) : Room a.email ((s.apply env a).setPhase i a phase) := by
  have h₁ := among_setPhase (s := s.apply env a) hi Phase.isPast a.email phase
  have h₂ := among_setPhase (s := s.apply env a) hi Phase.isUncounted a.email phase
  have w₁ : weight Phase.isPast a.email { a with phase } = 0 := weight_zero_of hpast
  have w₂ : weight Phase.isUncounted a.email a = 0 := weight_zero_of (by rw [hphase]; rfl)
  have same : ∀ p, (s.apply env a).among p a.email = s.among p a.email := fun _ => rfl
  rw [same] at h₁ h₂
  have hf : ((s.apply env a).setPhase i a phase).failures a.email = s.failures a.email :=
    apply_failures (by simp [Attempt.touched, hphase, Dimension.lockKey])
  have hr : s.tally env a a.email = s.rejected a.email := by
    simp only [Server.tally, hphase]
  have hlocking : 0 < s.among Phase.isLocking a.email :=
    among_pos (List.mem_of_getElem? hi) (by rw [hphase]; rfl)
  have h0 := h.shut (.inr hlocking)
  constructor
  · have := h.room
    rw [hf]
    omega
  · intro n hn
    have ht := h.tallied n (hf ▸ hn)
    show s.tally env a a.email ≤ _
    omega
  · intro _
    omega

/-- A piece after which the attempt is not past the lock. -/
lemma Room.applied {env : Env} {s : Server} {i : Nat} {a : Attempt} (h : Room a.email s)
    (hi : s.attempts[i]? = some a) (hlookup : a.phase ≠ .lookup) {phase : Phase}
    (hpast : phase.isPast = false) (hlocking : phase.isLocking = true →
      a.phase.isLocking = true ∨ a.phase = .incr .email ∧
        (Keyspace.incr s.redis s.clock (.adminLoginFail a.email)).2 ≥ ADMIN_LOGIN_MAX_FAILURES) :
    Room a.email ((s.apply env a).setPhase i a phase) := by
  have nopast : phase.isPast = true → a.phase.isPast = true := by
    intro hp
    rw [hpast] at hp
    cases hp
  have uncounted : a.phase ≠ .incr .email → a.phase.isUncounted = true →
      phase.isUncounted = true := by
    intro hne hu
    unfold Phase.isUncounted at hu
    split at hu
    · exact absurd ‹_› hne
    · cases hu
  have locks : a.phase ≠ .incr .email → phase.isLocking = true → a.phase.isLocking = true := by
    intro hne hlk
    rcases hlocking hlk with ha | ha
    · exact ha
    · exact absurd ha.1 hne
  cases hphase : a.phase.onEmail with
  | false =>
    obtain ⟨hf, hl, hr⟩ := apply_of_not_onEmail env s hphase
    have hne : a.phase ≠ .incr .email := by
      intro he
      rw [he] at hphase
      cases hphase
    exact h.setPhase (u := s.apply env a) rfl (.inl hf) hl.1 hr hi (fun _ => nopast)
      (fun _ => uncounted hne) (fun _ => locks hne)
  | true =>
    unfold Phase.onEmail at hphase
    split at hphase
    · exact absurd ‹_› hlookup
    · rename_i hincr
      apply h.incr hi hincr hpast
      intro hlk
      rcases hlocking hlk with ha | ha
      · rw [hincr] at ha
        cases ha
      · exact ha.2
    · rename_i hexpire
      have hne : a.phase ≠ .incr .email := by simp [hexpire]
      refine h.setPhase (u := s.apply env a) rfl (.inl ?_) (apply_locked ?_).1 ?_ hi
        (fun _ => nopast) (fun _ => uncounted hne) (fun _ => locks hne)
      · show Option.map _ (Keyspace.find (exec env s.clock s.redis a).1 s.clock _) = _
        unfold exec
        rw [hexpire]
        exact Keyspace.find_expire_value
      · simp [Attempt.touched, hexpire, Dimension.counterKey]
      · show s.tally env a a.email = _
        simp only [Server.tally, hexpire]
    · exact h.lock hi ‹_› hpast
    · rename_i hclear
      have hne : a.phase ≠ .incr .email := by simp [hclear]
      refine h.setPhase (u := s.apply env a) rfl (.inr ?_) (apply_locked ?_).1 ?_ hi
        (fun _ => nopast) (fun _ => uncounted hne) (fun _ => locks hne)
      · show Option.map _ (Keyspace.find (exec env s.clock s.redis a).1 s.clock _) = _
        unfold exec
        rw [hclear]
        show Option.map _ (Keyspace.find (Keyspace.delete _ _) _ _) = _
        rw [Keyspace.find_delete]
        rfl
      · simp [Attempt.touched, hclear]
      · show s.tally env a a.email = _
        simp only [Server.tally, hclear]
    · cases hphase

/-- An attempt is interrupted before its piece. -/
lemma Room.stopped {email : String} {s : Server} {i : Nat} {a : Attempt} (h : Room email s)
    (hi : s.attempts[i]? = some a) {outcome : Outcome}
    (hun : a.email = email → a.phase.isUncounted = false) :
    Room email (s.setPhase i a (.done outcome)) := by
  refine h.setPhase rfl (.inl rfl) id rfl hi ?_ ?_ ?_
  · intro _ hp
    cases hp
  · intro he hu
    rw [hun he] at hu
    cases hu
  · intro _ hp
    cases hp

/-- Time makes no less room. -/
lemma Room.tick {email : String} {s : Server} (h : Room email s) (ms : Nat) :
    Room email { s with clock := s.clock + ms } := by
  refine h.of_kept ?_ ?_ rfl (Nat.le_refl _) (Nat.le_refl _) (Nat.le_refl _)
  · show Option.map _ (Keyspace.find s.redis (s.clock + ms) _) = _ ∨
      Option.map _ (Keyspace.find s.redis (s.clock + ms) _) = none
    cases hf : Keyspace.find s.redis (s.clock + ms) (.adminLoginFail email) with
    | none => exact .inr rfl
    | some e =>
      left
      unfold Server.failures
      rw [Keyspace.find_later hf (Nat.le_add_right _ _)]
  · intro hl
    obtain ⟨e, he⟩ := Option.isSome_iff_exists.1 hl
    exact Option.isSome_iff_exists.2 ⟨e, Keyspace.find_later he (Nat.le_add_right _ _)⟩

/-- A new attempt takes no room. -/
lemma Room.enter {email : String} {s : Server} (h : Room email s) (env : Env)
    (e clientIp password : String) :
    Room email { s with attempts := s.attempts ++ [receive env e clientIp password] } := by
  have among_eq : ∀ p : Phase → Bool, p .emailLock = false →
      (∀ outcome, p (.done outcome) = false) →
      Server.among { s with attempts := s.attempts ++ [receive env e clientIp password] } p email =
        s.among p email := by
    intro p h₁ h₂
    have hw : weight p email (receive env e clientIp password) = 0 := by
      apply weight_zero_of
      unfold receive
      split
      · exact h₁
      · exact h₂ _
    simp [Server.among, hw]
  refine h.of_kept (.inl rfl) id rfl ?_ ?_ ?_
  · exact Nat.le_of_eq (among_eq Phase.isPast rfl (fun _ => rfl))
  · exact Nat.le_of_eq (among_eq Phase.isUncounted rfl (fun _ => rfl)).symm
  · exact Nat.le_of_eq (among_eq Phase.isLocking rfl (fun _ => rfl))

/-- After the comparison an attempt is not past the check. -/
lemma isPast_compared (d : Dimension) (count : Nat) : (compared d count).isPast = false := by
  unfold compared
  split
  · rfl
  · cases d <;> rfl

/-- After the count an attempt is not past the check. -/
lemma isPast_counted (d : Dimension) (count : Nat) : (counted d count).isPast = false := by
  unfold counted
  split
  · rfl
  · exact isPast_compared d count

/-- Only the e-mail's counter at its limit leads to the e-mail's lock. -/
lemma isLocking_compared {d : Dimension} {count : Nat} (h : (compared d count).isLocking = true) :
    d = .email ∧ count ≥ ADMIN_LOGIN_MAX_FAILURES := by
  unfold compared at h
  split at h
  · rename_i hc
    cases d with
    | email => exact ⟨rfl, hc⟩
    | ip => cases h
  · cases d <;> cases h

/-- A count leads to the lock only for the address and from the limit on. -/
lemma isLocking_counted {d : Dimension} {count : Nat} (h : (counted d count).isLocking = true) :
    d = .email ∧ count ≥ ADMIN_LOGIN_MAX_FAILURES := by
  unfold counted at h
  split at h
  · cases d with
    | email => exact ⟨rfl, of_decide_eq_true h⟩
    | ip => cases h
  · exact isLocking_compared h

/-- A piece that is answered. -/
lemma Room.run {env : Env} {s : Server} {i : Nat} {a : Attempt} (h : Room a.email s)
    (hi : s.attempts[i]? = some a) (hroom : LeavesRoom s (.run i)) :
    Room a.email ((s.apply env a).setPhase i a (exec env s.clock s.redis a).2) := by
  have hnext : ∀ phase, a.phase = phase →
      (exec env s.clock s.redis a).2 = (exec env s.clock s.redis { a with phase }).2 := by
    rintro _ rfl
    rfl
  cases hphase : a.phase with
  | emailLock =>
    rw [hnext _ hphase]
    by_cases hl : s.Locked a.email
    · apply h.applied hi (by simp [hphase])
      · show Phase.isPast (.ipLock (decide (s.Locked a.email))) = false
        rw [decide_eq_true hl]
        rfl
      · intro hlk
        cases hlk
    · obtain ⟨hlt, hlocking⟩ := hroom a hi hphase hl
      have hsame : s.apply env a = s := by
        simp only [Server.apply, exec, Server.tally, hphase]
      rw [hsame]
      show Room a.email (s.setPhase i a (.ipLock (decide (s.Locked a.email))))
      rw [decide_eq_false hl]
      exact h.read hi hphase hl hlt hlocking
  | ipLock emailLocked =>
    rw [hnext _ hphase]
    have hsame : s.apply env a = s := by
      simp only [Server.apply, exec, Server.tally, hphase]
    rw [hsame]
    refine h.setPhase rfl (.inl rfl) id rfl hi ?_ ?_ ?_
    · intro _ hp
      rw [hphase]
      cases emailLocked with
      | false => rfl
      | true => cases hp
    · intro _ hu
      rw [hphase] at hu
      cases hu
    · intro _ hlk
      simp only [exec, checked] at hlk
      split at hlk <;> cases hlk
  | lookup =>
    rw [hnext _ hphase]
    show Room a.email ((s.apply env a).setPhase i a
      (if env.passwordOk a.email a.password then .clear else .incr .email))
    cases hok : env.passwordOk a.email a.password with
    | false => exact h.reject hi hphase hok
    | true =>
      have hsame : s.apply env a = s := by
        simp only [Server.apply, exec, Server.tally, hphase, hok, if_true]
      rw [hsame]
      refine h.setPhase rfl (.inl rfl) id rfl hi ?_ ?_ ?_
      · intro _ hp
        cases hp
      · intro _ hu
        rw [hphase] at hu
        cases hu
      · intro _ hlk
        cases hlk
  | incr d =>
    rw [hnext _ hphase]
    apply h.applied hi (by simp [hphase]) (isPast_counted _ _)
    intro hlk
    obtain ⟨rfl, hc⟩ := isLocking_counted hlk
    exact .inr ⟨hphase, hc⟩
  | expire d count =>
    rw [hnext _ hphase]
    apply h.applied hi (by simp [hphase]) (isPast_compared _ _)
    intro hlk
    obtain ⟨rfl, hc⟩ := isLocking_compared hlk
    left
    rw [hphase]
    exact decide_eq_true hc
  | lock d =>
    rw [hnext _ hphase]
    apply h.applied hi (by simp [hphase])
    · cases d <;> rfl
    · intro hlk
      cases d <;> cases hlk
  | clear =>
    rw [hnext _ hphase]
    apply h.applied hi (by simp [hphase]) rfl
    intro hlk
    cases hlk
  | upsert =>
    rw [hnext _ hphase]
    apply h.applied hi (by simp [hphase]) rfl
    intro hlk
    cases hlk
  | done =>
    rw [hnext _ hphase]
    apply h.applied hi (by simp [hphase]) rfl
    intro hlk
    cases hlk

/-- An attempt that stops after its Redis command, or before it. -/
lemma Room.interrupt {email : String} {env : Env} {s : Server} {i : Nat} {a : Attempt}
    (h : Room email s) (hi : s.attempts[i]? = some a) {applied : Bool}
    (hcount : a.phase = .incr .email → applied = true) {outcome : Outcome} :
    Room email ((s.interrupt env a applied).setPhase i a (.done outcome)) := by
  unfold Server.interrupt
  split
  · rename_i happ
    obtain ⟨_, hredis⟩ := Bool.and_eq_true_iff.1 happ
    by_cases he : a.email = email
    · subst he
      apply h.applied hi
      · intro hlookup
        rw [hlookup] at hredis
        cases hredis
      · rfl
      · intro hlk
        cases hlk
    · exact h.foreign env hi he _
  · rename_i happ
    apply h.stopped hi
    intro _
    cases hu : a.phase.isUncounted with
    | false => rfl
    | true =>
      unfold Phase.isUncounted at hu
      split at hu
      · rename_i hincr
        rw [hcount hincr, hincr] at happ
        exact absurd rfl happ
      · cases hu

/-- Every step that leaves room keeps the invariant. -/
lemma Room.step {email : String} {env : Env} {s t : Server} {l : Label}
    (hc : Healthy s l ∧ LeavesRoom s l) (h : Room email s) (hst : Step env s l t) :
    Room email t := by
  obtain ⟨healthy, room⟩ := hc
  cases hst.stepped with
  | tick => exact h.tick _
  | enter => exact h.enter env _ _ _
  | @run i a hi _ =>
    by_cases he : a.email = email
    · subst he
      exact h.run hi room
    · exact h.foreign env hi he _
  | @fail i a applied hi hdone =>
    -- only the database fails: nothing was verified yet, or all was well
    have hredis := healthy a hi
    have hsame : s.interrupt env a applied = s := by
      simp [Server.interrupt, hredis]
    rw [hsame]
    cases hphase : a.phase with
    | lookup => exact h.stopped hi (fun _ => by rw [hphase]; rfl)
    | upsert => exact h.stopped hi (fun _ => by rw [hphase]; rfl)
    | done =>
      rw [hphase] at hdone
      cases hdone
    | _ =>
      rw [hphase] at hredis
      cases hredis
  | @cancel i a applied hi _ => exact h.interrupt hi (room a hi)

/-! ## Every run -/

/-- In every run of a healthy Redis in which each attempt that finds its e-mail unlocked leaves
room, and no rejected password goes uncounted, the bound holds in every state. -/
theorem withstands_of_room {env : Env} {clock : Nat} {ls : List Label} {s : Server}
    (run : Guarded (Step env) (fun s l => Healthy s l ∧ LeavesRoom s l) (Server.init clock) ls s)
    (email : String) : s.Withstands env email := by
  have h : Room email s := run.invariant Room.step (room_init clock email)
  exact h.withstands env

/-- Two attempts side by side, both counted. -/
theorem withstands_two_attempts : ∃ s : Server,
    s.Withstands Sample.env "root@x.io" ∧ s.rejected "root@x.io" = 2 := by
  obtain ⟨s, run, hs⟩ := Guarded.exists_of_walk (R := Step Sample.env)
    (C := fun s l => Healthy s l ∧ LeavesRoom s l) (f := Server.step Sample.env) id
    [.enter " root@x.io" "10.0.0.1" "guess", .enter "root@x.io" "10.0.0.2" "other",
      .run 0, .run 1, .run 0, .run 1, .run 0, .run 0, .run 1, .run 1]
    (s := Server.init 0) (p := fun s => decide (s.rejected "root@x.io" = 2))
    (by decide +kernel)
  exact ⟨s, withstands_of_room run "root@x.io", of_decide_eq_true hs⟩

/-! ## Six guesses at once -/

namespace Sample

/-- Six attempts read the lock; then the first is counted, and the others are verified. -/
def burst : List Label :=
  (List.replicate 6 (.enter "root@x.io" "10.0.0.1" "guess")) ++
    (List.range 6).map .run ++ (List.range 6).map .run ++ [.run 0, .run 0] ++
    [.run 1, .run 2, .run 3, .run 4, .run 5]

end Sample

/-- Six rejected passwords, the counter at one, and no lock. -/
theorem withstands_fails_concurrently : ¬ ∀ (env : Env) (clock : Nat) (ls : List Label) (s : Server),
    Guarded (Step env) Healthy (Server.init clock) ls s → ∀ email, s.Withstands env email := by
  intro h
  obtain ⟨s, run, hs⟩ := Guarded.exists_of_walk (R := Step Sample.env) (C := Healthy)
    (f := Server.step Sample.env) id Sample.burst (s := Server.init 0)
    (p := fun s => decide ((s.failures "root@x.io").isSome = true ∧ ¬ s.Locked "root@x.io" ∧
      s.rejected "root@x.io" = 6))
    (by decide +kernel)
  obtain ⟨hcounter, hopen, hsix⟩ := of_decide_eq_true hs
  have hle := (h _ _ _ _ run "root@x.io").bounded hcounter hopen
  rw [hsix] at hle
  exact absurd hle (by decide)

end InstantBoard.Auth.AdminLogin
