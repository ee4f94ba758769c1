import YoAuthorize.Backend.LicenseTerms
import YoAuthorize.Lib.FixedWindow

/-!
# Rate limits

`enforce_rate_limit` (`routes.rs`) and its script, which Redis runs as one step.  The
times are those of Redis, in milliseconds.  A request may not reach Redis, and the
count of one that does may not reach the server.
-/

namespace YoAuthorize.Backend

open Octets
open FixedWindow (Counter Counters Hit find step admitted)

/-- The keys of Redis that hold counters. -/
abbrev Redis : Type := Counters String

namespace Redis

/-- `INCR`. -/
def incr (redis : Redis) (now : Nat) (key : String) : Redis × Nat :=
  match find redis now key with
  | none => (redis.insert key { count := 1 }, 1)
  | some counter =>
      (redis.insert key { counter with count := counter.count + 1 }, counter.count + 1)

/-- `TTL`, in seconds. -/
def ttl (redis : Redis) (now : Nat) (key : String) : Int :=
  match find redis now key with
  | none => -2
  | some counter =>
      match counter.expiry with
      | none => -1
      | some expiry => ((expiry - now + 500) / 1000 : Nat)

/-- `EXPIRE`, of a number of seconds. -/
def expire (redis : Redis) (now : Nat) (key : String) (seconds : Nat) : Redis :=
  match find redis now key with
  | none => redis
  | some counter =>
      if seconds = 0 then redis.erase key
      else redis.insert key { counter with expiry := some (now + seconds * 1000) }

/-- `SCRIPT`. -/
def script (redis : Redis) (now : Nat) (key : String) (seconds : Nat) : Redis × Nat :=
  let (redis, count) := redis.incr now key
  if count = 1 ∨ redis.ttl now key < 0 then (redis.expire now key seconds, count)
  else (redis, count)

end Redis

/-- The calls of `enforce_rate_limit`. -/
inductive Scope : Type
  | register
  | login
  | forgotPassword
  | activationGlobal
  | activationMachine
  deriving DecidableEq, Repr

namespace Scope

def name : Scope → String
  | register => "register"
  | login => "login"
  | forgotPassword => "forgot-password"
  | activationGlobal => "activation-global"
  | activationMachine => "activation-machine"

def limit : Scope → Nat
  | register => 3
  | login => 10
  | forgotPassword => 3
  | activationGlobal => 1000
  | activationMachine => 10

/-- In seconds. -/
def window : Scope → Nat
  | register => 60 * 60
  | login => 15 * 60
  | forgotPassword => 60 * 60
  | activationGlobal => 60
  | activationMachine => 10 * 60

def all : List Scope := [register, login, forgotPassword, activationGlobal, activationMachine]

end Scope

/-- The part of a key before the digest of its subject. -/
def rateLimitPrefix (scope : Scope) : String := "ya:rate:" ++ scope.name ++ ":"

def rateLimitKey (sha256 : Bytes → Bytes) (scope : Scope) (subject : String) : String :=
  rateLimitPrefix scope ++ String.ofList ((sha256 (utf8 subject)).flatMap hexByte)

/-- How a request to Redis ends. -/
inductive RedisReply : Type
  | unreachable
  | lost
  | answered
  deriving DecidableEq, Repr

structure LimitedRequest : Type where
  scope : Scope
  subject : String
  time : Nat
  reply : RedisReply

def enforceRateLimit (sha256 : Bytes → Bytes) (redis : Redis) (request : LimitedRequest) :
    Redis × Except ApiError Unit :=
  let key := rateLimitKey sha256 request.scope request.subject
  let scripted := redis.script request.time key request.scope.window
  match request.reply with
  | .unreachable => (redis, .error .internal)
  | .lost => (scripted.1, .error .internal)
  | .answered =>
      (scripted.1, if scripted.2 > request.scope.limit then .error .rateLimited else .ok ())

/-! ## Keys -/

/-- The scope whose keys begin like this one. -/
def scopeOf (key : String) : Option Scope :=
  Scope.all.find? fun scope => (rateLimitPrefix scope).toList.isPrefixOf key.toList

theorem scopeOf_rateLimitKey (sha256 : Bytes → Bytes) (scope : Scope) (subject : String) :
    scopeOf (rateLimitKey sha256 scope subject) = some scope := by
  unfold scopeOf rateLimitKey
  rw [String.toList_append]
  cases scope <;> rfl

theorem hexByte_inj {left right : UInt8} (same : hexByte left = hexByte right) : left = right := by
  have digits : ∀ first second : Fin 16, Nat.digitChar first = Nat.digitChar second →
      first = second := by
    decide
  have leftBound := left.toNat_lt
  have rightBound := right.toNat_lt
  obtain ⟨high, low⟩ := List.cons.inj same
  have high := digits ⟨left.toNat / 16, by omega⟩ ⟨right.toNat / 16, by omega⟩ high
  have low := digits ⟨left.toNat % 16, by omega⟩ ⟨right.toNat % 16, by omega⟩
    (List.cons.inj low).1
  have highs : left.toNat / 16 = right.toNat / 16 := congrArg Fin.val high
  have lows : left.toNat % 16 = right.toNat % 16 := congrArg Fin.val low
  exact UInt8.toNat_inj.mp (by omega)

theorem flatMap_hexByte_inj {left right : Bytes}
    (same : left.flatMap hexByte = right.flatMap hexByte) : left = right := by
  induction left generalizing right with
  | nil =>
      cases right with
      | nil => rfl
      | cons byte right => cases same
  | cons byte left ih =>
      cases right with
      | nil => cases same
      | cons other right =>
          rw [List.flatMap_cons, List.flatMap_cons] at same
          obtain ⟨head, tail⟩ := List.append_inj same rfl
          rw [hexByte_inj head, ih tail]

/-- Two requests share a counter only within a scope and for one digest. -/
theorem rateLimitKey_inj {sha256 : Bytes → Bytes} {scope other : Scope} {subject name : String}
    (same : rateLimitKey sha256 scope subject = rateLimitKey sha256 other name) :
    scope = other ∧ sha256 (utf8 subject) = sha256 (utf8 name) := by
  have scopes := congrArg scopeOf same
  rw [scopeOf_rateLimitKey, scopeOf_rateLimitKey, Option.some.injEq] at scopes
  subst scopes
  have digits := congrArg String.toList same
  rw [rateLimitKey, rateLimitKey, String.toList_append, String.toList_append,
    List.append_cancel_left_eq, String.toList_ofList, String.toList_ofList] at digits
  exact ⟨rfl, flatMap_hexByte_inj digits⟩

/-! ## The script counts a hit -/

/-- `INCR` leaves no key at zero. -/
def Redis.Counting (redis : Redis) : Prop :=
  ∀ ⦃key counter⦄, redis.lookup key = some counter → 0 < counter.count

theorem counting_empty : Redis.Counting (∅ : Redis) := by
  intro key counter present
  cases present

theorem find_insert_unlimited (redis : Redis) (now : Nat) (key : String) (count : Nat) :
    find (redis.insert key { count }) now key = some { count } := by
  rw [find, AList.lookup_insert]
  rfl

theorem Redis.script_eq {redis : Redis} (counting : redis.Counting) {seconds : Nat}
    (positive : 0 < seconds) (now : Nat) (key : String) :
    redis.script now key seconds =
      (redis.insert key (Counter.hit (seconds * 1000) now (find redis now key)),
        (Counter.hit (seconds * 1000) now (find redis now key)).count) := by
  have lasting : ¬ seconds = 0 := by omega
  unfold script incr
  cases found : find redis now key with
  | none =>
      dsimp only
      rw [if_pos (.inl rfl), expire, find_insert_unlimited]
      dsimp only
      rw [if_neg lasting, AList.insert_insert]
      rfl
  | some counter =>
      obtain ⟨present, live⟩ := FixedWindow.find_eq_some.mp found
      have counted := counting present
      have several : ¬ counter.count + 1 = 1 := by omega
      dsimp only
      cases expiry : counter.expiry with
      | none =>
          have unlimited : find (redis.insert key { counter with count := counter.count + 1 }) now
              key = some { counter with count := counter.count + 1 } := by
            rw [find, AList.lookup_insert, Option.filter, Counter.live, expiry]
            rfl
          have endless : ttl (redis.insert key { counter with count := counter.count + 1 }) now key
              < 0 := by
            rw [ttl, unlimited]
            dsimp only
            rw [expiry]
            exact Int.negSucc_lt_zero 0
          rw [expiry] at endless unlimited
          rw [if_pos (.inr endless), expire, unlimited]
          dsimp only
          rw [if_neg lasting, AList.insert_insert, Counter.hit, expiry]
          rfl
      | some time =>
          rw [Counter.live, expiry] at live
          have limited : find (redis.insert key { counter with count := counter.count + 1 }) now
              key = some { counter with count := counter.count + 1 } := by
            rw [find, AList.lookup_insert, Option.filter, Counter.live, expiry, live]
            rfl
          have bounded : ¬ ttl (redis.insert key { counter with count := counter.count + 1 }) now
              key < 0 := by
            rw [ttl, limited]
            dsimp only
            rw [expiry]
            dsimp only
            omega
          rw [expiry] at bounded
          rw [if_neg (not_or.mpr ⟨several, bounded⟩), Counter.hit, expiry]
          rfl

/-- The window of a key, in milliseconds. -/
def windowOf (key : String) : Nat := (scopeOf key).elim 0 fun scope => scope.window * 1000

def limitOf (key : String) : Nat := (scopeOf key).elim 0 Scope.limit

/-- The hit of a request that reaches Redis. -/
def LimitedRequest.hit (sha256 : Bytes → Bytes) (request : LimitedRequest) : Hit String where
  key := rateLimitKey sha256 request.scope request.subject
  time := request.time

theorem Scope.window_pos (scope : Scope) : 0 < scope.window := by
  cases scope <;> decide

section

variable {sha256 : Bytes → Bytes} {redis : Redis} {request : LimitedRequest}

theorem windowOf_key (scope : Scope) (subject : String) :
    windowOf (rateLimitKey sha256 scope subject) = scope.window * 1000 := by
  rw [windowOf, scopeOf_rateLimitKey]
  rfl

theorem limitOf_key (scope : Scope) (subject : String) :
    limitOf (rateLimitKey sha256 scope subject) = scope.limit := by
  rw [limitOf, scopeOf_rateLimitKey]
  rfl

theorem counting_step (counting : redis.Counting) (hit : Hit String) :
    Redis.Counting (step windowOf redis hit) := by
  intro key counter present
  by_cases same : key = hit.key
  · subst same
    rw [step, AList.lookup_insert] at present
    cases present
    unfold FixedWindow.counted
    cases find redis hit.time hit.key with
    | none => exact Nat.one_pos
    | some counter => exact Nat.succ_pos _
  · rw [step, AList.lookup_insert_ne same] at present
    exact counting present

theorem script_hit (counting : redis.Counting) :
    redis.script request.time (rateLimitKey sha256 request.scope request.subject)
        request.scope.window =
      (step windowOf redis (request.hit sha256),
        (FixedWindow.counted windowOf redis (request.hit sha256)).count) := by
  rw [Redis.script_eq counting request.scope.window_pos, step, FixedWindow.counted,
    show windowOf (request.hit sha256).key = request.scope.window * 1000 from windowOf_key _ _]
  rfl

end

/-! ## Runs -/

/-- The requests in their order, with the answers to them. -/
def serveLimited (sha256 : Bytes → Bytes) :
    Redis → List LimitedRequest → List (LimitedRequest × Except ApiError Unit)
  | _, [] => []
  | redis, request :: requests =>
      (request, (enforceRateLimit sha256 redis request).2) ::
        serveLimited sha256 (enforceRateLimit sha256 redis request).1 requests

/-- What the requests leave in Redis. -/
def redisAfter (sha256 : Bytes → Bytes) (redis : Redis) (requests : List LimitedRequest) : Redis :=
  requests.foldl (fun redis request => (enforceRateLimit sha256 redis request).1) redis

/-- How often a subject was let through. -/
def granted (scope : Scope) (subject : String)
    (answers : List (LimitedRequest × Except ApiError Unit)) : Nat :=
  answers.countP fun entry => entry.1.scope = scope ∧ entry.1.subject = subject ∧ entry.2.isOk

def reached (sha256 : Bytes → Bytes) (requests : List LimitedRequest) : List (Hit String) :=
  (requests.filter fun request => request.reply ≠ .unreachable).map (LimitedRequest.hit sha256)

section

variable {sha256 : Bytes → Bytes} {redis : Redis} {requests : List LimitedRequest}

/-- What one request does. -/
theorem enforceRateLimit_cases (counting : redis.Counting) (request : LimitedRequest) :
    (request.reply = .unreachable ∧
        enforceRateLimit sha256 redis request = (redis, .error .internal)) ∨
      request.reply ≠ .unreachable ∧
        (enforceRateLimit sha256 redis request).1 = step windowOf redis (request.hit sha256) ∧
        ((enforceRateLimit sha256 redis request).2 = .ok () →
          FixedWindow.admits windowOf limitOf redis (request.hit sha256) = true) ∧
        ((enforceRateLimit sha256 redis request).2 = .error .rateLimited →
          FixedWindow.admits windowOf limitOf redis (request.hit sha256) = false) := by
  have scripted := @script_hit sha256 redis request counting
  unfold enforceRateLimit FixedWindow.admits
  rw [show limitOf (request.hit sha256).key = request.scope.limit from limitOf_key _ _]
  dsimp only
  cases reply : request.reply with
  | unreachable => exact .inl ⟨rfl, rfl⟩
  | lost =>
      refine .inr ⟨by decide, by rw [scripted], fun wrong => ?_, fun wrong => ?_⟩
      · cases wrong
      · cases wrong
  | answered =>
      refine .inr ⟨by decide, by rw [scripted], fun passes => ?_, fun refuses => ?_⟩
      · rw [scripted] at passes
        dsimp only at passes
        split at passes
        · cases passes
        · exact decide_eq_true (by omega)
      · rw [scripted] at refuses
        dsimp only at refuses
        split at refuses
        · exact decide_eq_false (by omega)
        · cases refuses

theorem reached_unreachable {request : LimitedRequest} (lost : request.reply = .unreachable) :
    reached sha256 (request :: requests) = reached sha256 requests := by
  rw [reached, List.filter_cons_of_neg (by rw [lost]; decide)]
  rfl

theorem reached_cons {request : LimitedRequest} (reaches : request.reply ≠ .unreachable) :
    reached sha256 (request :: requests) = request.hit sha256 :: reached sha256 requests := by
  have keeps : decide (request.reply ≠ .unreachable) = true := decide_eq_true reaches
  rw [reached, List.filter_cons, if_pos keeps]
  rfl

theorem redisAfter_eq (counting : redis.Counting) :
    redisAfter sha256 redis requests =
      FixedWindow.run windowOf redis (reached sha256 requests) := by
  induction requests generalizing redis with
  | nil => rfl
  | cons request requests ih =>
      change redisAfter sha256 (enforceRateLimit sha256 redis request).1 requests = _
      rcases enforceRateLimit_cases counting request with ⟨reply, same⟩ | ⟨reply, same, -, -⟩
      · rw [same, ih counting, reached_unreachable reply]
      · rw [same, ih (counting_step counting _), reached_cons reply]
        rfl

theorem counting_redisAfter (counting : redis.Counting) :
    (redisAfter sha256 redis requests).Counting := by
  induction requests generalizing redis with
  | nil => exact counting
  | cons request requests ih =>
      change (redisAfter sha256 (enforceRateLimit sha256 redis request).1 requests).Counting
      rcases enforceRateLimit_cases counting request with ⟨-, same⟩ | ⟨-, same, -, -⟩
      · rw [same]
        exact ih counting
      · rw [same]
        exact ih (counting_step counting _)

theorem granted_le_admitted (counting : redis.Counting) (scope : Scope) (subject : String) :
    granted scope subject (serveLimited sha256 redis requests) ≤
      admitted windowOf limitOf (rateLimitKey sha256 scope subject) redis
        (reached sha256 requests) := by
  induction requests generalizing redis with
  | nil => exact Nat.zero_le _
  | cons request requests ih =>
      have later := fun {after : Redis} counting => @ih after counting
      unfold granted at later ⊢
      rw [serveLimited, List.countP_cons]
      rcases enforceRateLimit_cases counting request with ⟨reply, same⟩ | ⟨reply, same, passes, -⟩
      · rw [same, reached_unreachable reply]
        simpa [Except.isOk, Except.toBool] using later counting
      · rw [same, reached_cons reply, admitted, Nat.add_comm]
        refine Nat.add_le_add ?_ (later (counting_step counting _))
        split
        · rename_i counts
          obtain ⟨rfl, rfl, ok⟩ := of_decide_eq_true counts
          cases answer : (enforceRateLimit sha256 redis request).2 with
          | error error =>
              rw [answer] at ok
              cases ok
          | ok _ =>
              have same : (request.hit sha256).key =
                rateLimitKey sha256 request.scope request.subject := rfl
              rw [if_pos ⟨same, passes answer⟩]
        · exact Nat.zero_le _

theorem mem_reached {hit : Hit String} (mem : hit ∈ reached sha256 requests) :
    ∃ request ∈ requests, request.reply ≠ .unreachable ∧ hit = request.hit sha256 := by
  obtain ⟨request, there, rfl⟩ := List.mem_map.mp mem
  obtain ⟨there, reaches⟩ := List.mem_filter.mp there
  exact ⟨request, there, of_decide_eq_true reaches, rfl⟩

theorem ordered_reached (ordered : (requests.map LimitedRequest.time).Pairwise (· ≤ ·)) :
    ((reached sha256 requests).map Hit.time).Pairwise (· ≤ ·) := by
  rw [List.pairwise_map] at ordered
  rw [reached, List.map_map, List.pairwise_map]
  exact ordered.filter _

/-- Within `n` windows, a subject is let through at most `n + 1` times the limit. -/
theorem granted_le (counting : redis.Counting) (scope : Scope) (subject : String) {start n : Nat}
    (ordered : (requests.map LimitedRequest.time).Pairwise (· ≤ ·))
    (inside : ∀ request ∈ requests,
      start ≤ request.time ∧ request.time < start + n * (scope.window * 1000)) :
    granted scope subject (serveLimited sha256 redis requests) ≤ (n + 1) * scope.limit := by
  refine Nat.le_trans (granted_le_admitted counting scope subject) ?_
  rw [← limitOf_key scope subject]
  have within : ∀ hit ∈ reached sha256 requests, start ≤ hit.time ∧
      hit.time < start + n * windowOf (rateLimitKey sha256 scope subject) := by
    intro hit mem
    obtain ⟨request, there, -, rfl⟩ := mem_reached mem
    rw [windowOf_key]
    exact inside request there
  exact FixedWindow.admitted_le (ordered_reached ordered) within

/-- Where a subject is refused, the window up to the request is full. -/
theorem full_of_rateLimited (counting : redis.Counting) {request : LimitedRequest} {start : Nat}
    (fresh : find redis start (rateLimitKey sha256 request.scope request.subject) = none)
    (ordered : ((requests ++ [request]).map LimitedRequest.time).Pairwise (· ≤ ·))
    (begun : ∀ other ∈ requests ++ [request], start ≤ other.time)
    (refused : (enforceRateLimit sha256 (redisAfter sha256 redis requests) request).2 =
      .error .rateLimited) :
    request.scope.limit ≤ requests.countP fun other =>
      other.reply ≠ .unreachable ∧ other.scope = request.scope ∧
        sha256 (utf8 other.subject) = sha256 (utf8 request.subject) ∧
        request.time ≤ other.time + request.scope.window * 1000 := by
  rw [List.map_append, List.pairwise_append] at ordered
  obtain ⟨earlier, -, last⟩ := ordered
  have refusal : FixedWindow.admits windowOf limitOf
      (FixedWindow.run windowOf redis (reached sha256 requests)) (request.hit sha256) = false := by
    rw [← redisAfter_eq counting]
    rcases enforceRateLimit_cases (counting_redisAfter counting) request with
      ⟨-, same⟩ | ⟨-, -, -, refuses⟩
    · rw [same] at refused
      cases refused
    · exact refuses refused
  have inside : ∀ hit ∈ reached sha256 requests,
      start ≤ hit.time ∧ hit.time ≤ (request.hit sha256).time := by
    intro hit mem
    obtain ⟨other, there, -, rfl⟩ := mem_reached mem
    exact ⟨begun other (List.mem_append_left _ there),
      last _ (List.mem_map_of_mem there) _ List.mem_cons_self⟩
  have full : limitOf (request.hit sha256).key ≤ _ :=
    FixedWindow.full_of_refused fresh (ordered_reached earlier) inside
      (begun request (List.mem_append_right _ List.mem_cons_self)) refusal
  rw [show limitOf (request.hit sha256).key = request.scope.limit from limitOf_key _ _,
    FixedWindow.recent, reached, List.countP_map, List.countP_filter] at full
  refine Nat.le_trans full (List.countP_mono_left fun other _ counts => ?_)
  rw [Bool.and_eq_true, decide_eq_true_eq] at counts
  obtain ⟨counts, reaches⟩ := counts
  obtain ⟨same, late⟩ := of_decide_eq_true counts
  obtain ⟨scope, digest⟩ := rateLimitKey_inj same
  rw [show windowOf (request.hit sha256).key = request.scope.window * 1000 from
    windowOf_key _ _] at late
  exact decide_eq_true ⟨reaches, scope, digest, late⟩

end

/-! ## Logins of one user -/

def referenceLogin : LimitedRequest where
  scope := .login
  subject := "user@example.com"
  time := 5
  reply := .answered

theorem ordered_referenceLogin (count : Nat) :
    ((List.replicate count referenceLogin).map LimitedRequest.time).Pairwise (· ≤ ·) := by
  rw [List.map_replicate]
  exact List.pairwise_replicate_of_refl

/-- Of thirty logins at once, ten are refused at least. -/
theorem granted_referenceLogin :
    granted .login "user@example.com"
      (serveLimited id (∅ : Redis) (List.replicate 30 referenceLogin)) ≤ (1 + 1) * 10 := by
  have inside : ∀ request ∈ List.replicate 30 referenceLogin,
      0 ≤ request.time ∧ request.time < 0 + 1 * (Scope.login.window * 1000) := by
    intro request mem
    rw [List.eq_of_mem_replicate mem]
    decide
  exact granted_le counting_empty .login "user@example.com" (ordered_referenceLogin 30) inside

/-- The eleventh login of the window is refused. -/
theorem full_referenceLogin :
    referenceLogin.scope.limit ≤ (List.replicate 10 referenceLogin).countP fun other =>
      other.reply ≠ .unreachable ∧ other.scope = referenceLogin.scope ∧
        id (utf8 other.subject) = id (utf8 referenceLogin.subject) ∧
        referenceLogin.time ≤ other.time + referenceLogin.scope.window * 1000 := by
  have fresh : find (∅ : Redis) 0
      (rateLimitKey id referenceLogin.scope referenceLogin.subject) = none := rfl
  have ordered : ((List.replicate 10 referenceLogin ++ [referenceLogin]).map
      LimitedRequest.time).Pairwise (· ≤ ·) := ordered_referenceLogin 11
  have refused : (enforceRateLimit id (redisAfter id (∅ : Redis)
      (List.replicate 10 referenceLogin)) referenceLogin).2 = .error .rateLimited := by
    decide +kernel
  exact full_of_rateLimited counting_empty fresh ordered (fun _ _ => Nat.zero_le _) refused

end YoAuthorize.Backend
