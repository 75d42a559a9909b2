import InstantBoard.Auth.Token
import InstantBoard.Lib.Keyspace
import InstantBoard.Lib.Pool
import InstantBoard.Lib.Transition
import InstantBoard.Python.Stdlib

/-!
# The local admin login

`AuthService.admin_login` with its failure counters and locks, cut where an attempt waits: for each
Redis command, for the admin's row and for its upsert. Any number of attempts take their pieces in
any order while the clock runs; a piece may be answered, may raise, or may be the one the request is
cancelled in, and a Redis command that raises may have been carried out all the same. The users
table is left to `Auth.Users`: here the upsert succeeds or fails.
-/

namespace InstantBoard.Auth

open Transition

/-! ## Keys and limits -/

/-- The keys of `RedisKeys` the login uses. -/
inductive RedisKeys where
  | adminLoginFail (email : String)
  | adminLoginLock (email : String)
  | adminLoginFailIp (ip : String)
  | adminLoginLockIp (ip : String)
deriving DecidableEq

/-- The key as Redis sees it. -/
def RedisKeys.text : RedisKeys → String
  | .adminLoginFail email => "admin_login:fail:" ++ email
  | .adminLoginLock email => "admin_login:lock:" ++ email
  | .adminLoginFailIp ip => "admin_login:fail_ip:" ++ ip
  | .adminLoginLockIp ip => "admin_login:lock_ip:" ++ ip

/-- Texts that differ within their fixed beginnings differ. -/
lemma append_ne_append {p q a b : String} (n : Nat) (hp : n < p.toList.length)
    (hq : n < q.toList.length) (hne : p.toList[n]? ≠ q.toList[n]?) : p ++ a ≠ q ++ b := by
  intro h
  have hn := congrArg (fun s => s.toList[n]?) h
  simp only [String.toList_append] at hn
  rw [List.getElem?_append_left hp, List.getElem?_append_left hq] at hn
  exact hne hn

/-- No two keys are the same text, so that the keyspace may be addressed by `RedisKeys`. -/
lemma RedisKeys.text_injective {k k' : RedisKeys} (h : k.text = k'.text) : k = k' := by
  cases k <;> cases k'
  case adminLoginFail.adminLoginFail => rw [(String.append_right_inj _).1 h]
  case adminLoginLock.adminLoginLock => rw [(String.append_right_inj _).1 h]
  case adminLoginFailIp.adminLoginFailIp => rw [(String.append_right_inj _).1 h]
  case adminLoginLockIp.adminLoginLockIp => rw [(String.append_right_inj _).1 h]
  -- `fail:` against `fail_ip:`, and the same for the locks
  case adminLoginFail.adminLoginFailIp =>
    exact absurd h (append_ne_append 16 (by decide) (by decide) (by decide))
  case adminLoginFailIp.adminLoginFail =>
    exact absurd h (append_ne_append 16 (by decide) (by decide) (by decide))
  case adminLoginLock.adminLoginLockIp =>
    exact absurd h (append_ne_append 16 (by decide) (by decide) (by decide))
  case adminLoginLockIp.adminLoginLock =>
    exact absurd h (append_ne_append 16 (by decide) (by decide) (by decide))
  all_goals exact absurd h (append_ne_append 12 (by decide) (by decide) (by decide))

/-- The counters and the locks; a lock's `"1"` is the number one. -/
abbrev Redis := Keyspace.Space RedisKeys Nat

/-- `ADMIN_LOGIN_MAX_FAILURES` and the constants beside it. -/
def ADMIN_LOGIN_MAX_FAILURES : Nat := 5
def ADMIN_LOGIN_WINDOW_SECONDS : Nat := 900
def ADMIN_LOGIN_LOCK_SECONDS : Nat := 900
def ADMIN_LOGIN_IP_MAX_FAILURES : Nat := 20
def ADMIN_LOGIN_IP_WINDOW_SECONDS : Nat := 3600
def ADMIN_LOGIN_IP_LOCK_SECONDS : Nat := 3600

namespace AdminLogin

/-- The two calls of `_register_admin_login_failure`. -/
inductive Dimension where
  | email
  | ip
deriving DecidableEq

namespace Dimension

def threshold : Dimension → Nat
  | email => ADMIN_LOGIN_MAX_FAILURES
  | ip => ADMIN_LOGIN_IP_MAX_FAILURES

def windowSeconds : Dimension → Nat
  | email => ADMIN_LOGIN_WINDOW_SECONDS
  | ip => ADMIN_LOGIN_IP_WINDOW_SECONDS

def lockSeconds : Dimension → Nat
  | email => ADMIN_LOGIN_LOCK_SECONDS
  | ip => ADMIN_LOGIN_IP_LOCK_SECONDS

/-- One failure alone locks nothing. -/
lemma one_lt_threshold (d : Dimension) : 1 < d.threshold := by
  cases d <;> decide

end Dimension

/-! ## One attempt -/

inductive Outcome where
  | loggedIn
  | adminLoginDisabled
  | invalidCredentials
  /-- the database raised -/
  | error
  | cancelled
deriving DecidableEq

/-- Where an attempt waits. -/
inductive Phase where
  /-- the first `redis.get` of `_check_admin_login_locks` -/
  | emailLock
  | ipLock (emailLocked : Bool)
  /-- `db.execute(select(User))`; the password is verified right after it -/
  | lookup
  | incr (d : Dimension)
  | expire (d : Dimension) (count : Nat)
  | lock (d : Dimension)
  /-- `_clear_admin_login_failures` -/
  | clear
  /-- `_upsert_admin_user` and the commit -/
  | upsert
  | done (outcome : Outcome)
deriving DecidableEq

/-- The attempt waits for Redis. -/
def Phase.onRedis : Phase → Bool
  | .emailLock | .ipLock _ | .incr _ | .expire _ _ | .lock _ | .clear => true
  | .lookup | .upsert | .done _ => false

def Phase.isDone : Phase → Bool
  | .done _ => true
  | _ => false

structure Attempt where
  email : String
  clientIp : String
  password : String
  phase : Phase
deriving DecidableEq

def Dimension.counterKey (a : Attempt) : Dimension → RedisKeys
  | email => .adminLoginFail a.email
  | ip => .adminLoginFailIp a.clientIp

def Dimension.lockKey (a : Attempt) : Dimension → RedisKeys
  | email => .adminLoginLock a.email
  | ip => .adminLoginLockIp a.clientIp

/-- The settings, and what is not in the repository. -/
structure Env where
  py : Stdlib
  adminEmail : Option String
  adminPasswordHash : Option String
  /-- `pwd_context.verify`; `none` is a `ValueError` -/
  verifyPassword : String → String → Option Bool

/-- `settings.admin_login_enabled` -/
def Env.adminLoginEnabled (env : Env) : Bool :=
  env.adminEmail.any (· ≠ "") && env.adminPasswordHash.any (· ≠ "")

/-- `email.strip().lower()` -/
def Env.normalize (env : Env) (email : String) : String :=
  env.py.lower (Text.strip email)

def Env.configuredEmail (env : Env) : String :=
  env.normalize (env.adminEmail.getD "")

/-- `password_ok`. The dummy verification of an unknown e-mail has no effect but its time. -/
def Env.passwordOk (env : Env) (email password : String) : Bool :=
  if email = env.configuredEmail then
    (env.verifyPassword password (env.adminPasswordHash.getD "")).getD false
  else false

/-- `admin_login` up to its first wait. -/
def receive (env : Env) (email clientIp password : String) : Attempt :=
  { email := env.normalize email, clientIp, password,
    phase := if env.adminLoginEnabled then .emailLock else .done .adminLoginDisabled }

/-- After both locks are read. -/
def checked (emailLocked ipLocked : Bool) : Phase :=
  if emailLocked || ipLocked then .done .invalidCredentials else .lookup

/-- The end of one `_register_admin_login_failure`. -/
def registered : Dimension → Phase
  | .email => .incr .ip
  | .ip => .done .invalidCredentials

/-- The second `if` of `_register_admin_login_failure`. -/
def compared (d : Dimension) (count : Nat) : Phase :=
  if count ≥ d.threshold then .lock d else registered d

/-- From the answer of `incr`. -/
def counted (d : Dimension) (count : Nat) : Phase :=
  if count = 1 then .expire d count else compared d count

/-- The piece an attempt waits for: what it does to Redis and where the attempt waits next. -/
def exec (env : Env) (now : Nat) (redis : Redis) (a : Attempt) : Redis × Phase :=
  match a.phase with
  | .emailLock => (redis, .ipLock (decide (Keyspace.Holds redis now (.adminLoginLock a.email))))
  | .ipLock emailLocked =>
    (redis, checked emailLocked (decide (Keyspace.Holds redis now (.adminLoginLockIp a.clientIp))))
  | .lookup => (redis, if env.passwordOk a.email a.password then .clear else .incr .email)
  | .incr d =>
    ((Keyspace.incr redis now (d.counterKey a)).1,
      counted d (Keyspace.incr redis now (d.counterKey a)).2)
  | .expire d count =>
    (Keyspace.expire redis now (d.counterKey a) d.windowSeconds, compared d count)
  | .lock d => (Keyspace.set redis now (d.lockKey a) 1 d.lockSeconds, registered d)
  | .clear => (Keyspace.delete redis (.adminLoginFail a.email), .upsert)
  | .upsert => (redis, .done .loggedIn)
  | .done outcome => (redis, .done outcome)

/-- Where an exception leaves the attempt: Redis failures fail open. -/
def raised : Phase → Phase
  | .emailLock | .ipLock _ => .lookup
  -- one `try` around both dimensions
  | .incr _ | .expire _ _ | .lock _ => .done .invalidCredentials
  | .clear => .upsert
  | .lookup | .upsert => .done .error
  | .done outcome => .done outcome

/-! ## The server -/

structure Server where
  clock : Nat
  redis : Redis
  attempts : List Attempt
  /-- The passwords of an e-mail verified and rejected since its counter was made. The code does
  not keep this number. -/
  rejected : String → Nat

def Server.init (clock : Nat) : Server :=
  { clock, redis := fun _ => none, attempts := [], rejected := fun _ => 0 }

inductive Label where
  | tick (ms : Nat)
  | enter (email clientIp password : String)
  | run (i : Nat)
  /-- An exception; `applied` says whether Redis had carried out the command. -/
  | fail (i : Nat) (applied : Bool)
  | cancel (i : Nat) (applied : Bool)
deriving DecidableEq

/-- The rejected passwords after a piece of an attempt. -/
def Server.tally (s : Server) (env : Env) (a : Attempt) : String → Nat :=
  match a.phase with
  | .lookup =>
    if env.passwordOk a.email a.password then s.rejected
    else fun e => if e = a.email then s.rejected e + 1 else s.rejected e
  | .incr .email =>
    if Keyspace.Holds s.redis s.clock (.adminLoginFail a.email) then s.rejected
    -- the counter is made: this failure is its first
    else fun e => if e = a.email then 1 else s.rejected e
  | _ => s.rejected

/-- The piece an attempt waits for is carried out. -/
def Server.apply (s : Server) (env : Env) (a : Attempt) : Server :=
  { s with redis := (exec env s.clock s.redis a).1, rejected := s.tally env a }

def Server.setPhase (s : Server) (i : Nat) (a : Attempt) (phase : Phase) : Server :=
  { s with attempts := s.attempts.set i { a with phase } }

/-- An interrupted piece: only a Redis command may have been carried out. -/
def Server.interrupt (s : Server) (env : Env) (a : Attempt) (applied : Bool) : Server :=
  if applied && a.phase.onRedis then s.apply env a else s

def Server.step (env : Env) (s : Server) : Label → Option Server
  | .tick ms => some { s with clock := s.clock + ms }
  | .enter email clientIp password =>
    some { s with attempts := s.attempts ++ [receive env email clientIp password] }
  | .run i =>
    (s.attempts[i]?.filter (!·.phase.isDone)).map fun a =>
      (s.apply env a).setPhase i a (exec env s.clock s.redis a).2
  | .fail i applied =>
    (s.attempts[i]?.filter (!·.phase.isDone)).map fun a =>
      (s.interrupt env a applied).setPhase i a (raised a.phase)
  | .cancel i applied =>
    (s.attempts[i]?.filter (!·.phase.isDone)).map fun a =>
      (s.interrupt env a applied).setPhase i a (.done .cancelled)

/-- One step of the clock or of an attempt. -/
def Step (env : Env) (s : Server) (l : Label) (t : Server) : Prop :=
  s.step env l = some t

/-- Everything a step can do. -/
inductive Stepped (env : Env) (s : Server) : Label → Server → Prop where
  | tick {ms} : Stepped env s (.tick ms) { s with clock := s.clock + ms }
  | enter {email clientIp password} : Stepped env s (.enter email clientIp password)
      { s with attempts := s.attempts ++ [receive env email clientIp password] }
  | run {i a} : s.attempts[i]? = some a → a.phase.isDone = false →
      Stepped env s (.run i) ((s.apply env a).setPhase i a (exec env s.clock s.redis a).2)
  | fail {i a applied} : s.attempts[i]? = some a → a.phase.isDone = false →
      Stepped env s (.fail i applied) ((s.interrupt env a applied).setPhase i a (raised a.phase))
  | cancel {i a applied} : s.attempts[i]? = some a → a.phase.isDone = false →
      Stepped env s (.cancel i applied)
        ((s.interrupt env a applied).setPhase i a (.done .cancelled))

/-- What a step is, by its label. -/
lemma Step.stepped {env : Env} {s t : Server} {l : Label} (h : Step env s l t) :
    Stepped env s l t := by
  cases l with
  | tick =>
    cases h
    exact .tick
  | enter =>
    cases h
    exact .enter
  | run i =>
    obtain ⟨a, ha, rfl⟩ := Option.map_eq_some_iff.1 h
    obtain ⟨hi, hdone⟩ := Option.filter_eq_some_iff.1 ha
    exact .run hi (by simpa using hdone)
  | fail i applied =>
    obtain ⟨a, ha, rfl⟩ := Option.map_eq_some_iff.1 h
    obtain ⟨hi, hdone⟩ := Option.filter_eq_some_iff.1 ha
    exact .fail hi (by simpa using hdone)
  | cancel i applied =>
    obtain ⟨a, ha, rfl⟩ := Option.map_eq_some_iff.1 h
    obtain ⟨hi, hdone⟩ := Option.filter_eq_some_iff.1 ha
    exact .cancel hi (by simpa using hdone)

/-- The key a piece writes. -/
def Attempt.touched (a : Attempt) : Option RedisKeys :=
  match a.phase with
  | .incr d | .expire d _ => some (d.counterKey a)
  | .lock d => some (d.lockKey a)
  | .clear => some (.adminLoginFail a.email)
  | .emailLock | .ipLock _ | .lookup | .upsert | .done _ => none

/-- A piece leaves the other keys alone. -/
lemma exec_of_not_touched {env : Env} {now : Nat} {redis : Redis} {a : Attempt} {k : RedisKeys}
    (h : a.touched ≠ some k) : (exec env now redis a).1 k = redis k := by
  have hk : ∀ k', a.touched = some k' → k ≠ k' := by
    intro k' hk' heq
    exact h (heq ▸ hk')
  unfold Attempt.touched at hk
  unfold exec
  split <;> rename_i hphase <;> rw [hphase] at hk
  case h_4 => exact Keyspace.incr_ne (hk _ rfl)
  case h_5 => exact Keyspace.expire_ne (hk _ rfl)
  case h_6 => exact Keyspace.set_ne (hk _ rfl)
  case h_7 => exact Keyspace.delete_ne (hk _ rfl)

/-! ## Sample values -/

namespace Sample

/-- Texts that `lower` leaves alone; the other functions are not used. -/
def py : Stdlib where
  lower := id
  reprStr := id
  md5 := id
  urlparse := fun _ => none
  parseQs := fun _ => []
  urlencode := fun _ => ""
  urlunparse := fun _ => ""
  strptime := fun _ _ => none
  fromisoformat := fun _ => none

/-- The hash stands for the password it was made from. -/
def env : Env where
  py
  adminEmail := some "root@x.io"
  adminPasswordHash := some "secret"
  verifyPassword := fun password hash => some (password == hash)

end Sample

end AdminLogin

end InstantBoard.Auth
