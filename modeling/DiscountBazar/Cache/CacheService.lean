/-
The cache in Redis (`cacheService.js`).

A reader asks the cache first and stores what it had to fetch; a writer changes the source and then
deletes keys, by name or with a scan for a pattern. Every Redis command is atomic, Redis is up, and
the commands of any number of callers interleave. How Redis matches a pattern is a parameter.
-/
import DiscountBazar.Lib.Tasks
import Mathlib.Data.Int.Notation
import Mathlib.Logic.Function.Basic

namespace DiscountBazar.Cache

open Tasks Function
open Prog (perform)

/-! ## Keys -/

/-- A key, or a pattern, by its characters. -/
abbrev Key := List Char

/-- What `buildKey` is called with. -/
structure KeyParts where
  service : Key
  entity : Key
  identifier : Key := []
  deriving DecidableEq

def cacheColon : Key := ['c', 'a', 'c', 'h', 'e', ':']

def buildKey (version : Key) (parts : KeyParts) : Key :=
  let base :=
    if version = [] then cacheColon ++ parts.service ++ ':' :: parts.entity
    else cacheColon ++ version ++ ':' :: parts.service ++ ':' :: parts.entity
  if parts.identifier = [] then base else base ++ ':' :: parts.identifier

/-- What `replace(/^cache:/, template)` puts in, where `rest` follows the match: the template with
its `$` patterns expanded. -/
def expand (rest : Key) : Key → Key
  | c :: d :: template =>
    if c = '$' then
      if d = '$' then '$' :: expand rest template
      else if d = '&' then cacheColon ++ expand rest template
      -- the text before the match, which is empty, and the text after it
      else if d = Char.ofNat 96 then expand rest template
      else if d = Char.ofNat 39 then rest ++ expand rest template
      else c :: expand rest (d :: template)
    else c :: expand rest (d :: template)
  | template => template

/-- The `patterns` that `invalidate` deletes. -/
def patterns (version key : Key) : List Key :=
  let template := cacheColon ++ version ++ [':']
  if version ≠ [] ∧ cacheColon <+: key ∧ ¬ template <+: key then
    let rest := key.drop cacheColon.length
    [key, expand rest template ++ rest]
  else [key]

/-- `CACHE_ENABLED`, `CACHE_KEY_VERSION`, what Redis matches patterns with, and the key whose
history is kept. -/
structure Env where
  cacheEnabled : Bool := true
  cacheKeyVersion : Key := []
  globMatch : Key → Key → Bool
  watched : KeyParts

def Env.key (env : Env) : Key := buildKey env.cacheKeyVersion env.watched

/-- The caller invalidates the watched key: by the key, by its unversioned form, or by a pattern that
one of them matches. -/
def Env.Invalidates (env : Env) (target : Key) : Prop :=
  target = env.key ∨ target = buildKey [] env.watched ∨
    '*' ∈ target ∧
      (env.globMatch target env.key = true ∨ env.globMatch target (buildKey [] env.watched) = true)

/-- Deleting a candidate deletes the watched key. -/
def Env.Clears (env : Env) (candidate : Key) : Prop :=
  if '*' ∈ candidate then env.globMatch candidate env.key = true else candidate = env.key

/-- The string itself, or the form with the version put in, is the watched key or matches it. -/
def Env.Reaches (env : Env) (target : Key) : Prop :=
  ∃ candidate ∈ patterns env.cacheKeyVersion target, env.Clears candidate

instance (env : Env) (target : Key) : Decidable (env.Invalidates target) := by
  unfold Env.Invalidates
  infer_instance

instance (env : Env) (candidate : Key) : Decidable (env.Clears candidate) := by
  unfold Env.Clears
  infer_instance

instance (env : Env) (target : Key) : Decidable (env.Reaches target) := by
  unfold Env.Reaches
  infer_instance

/-! ## Redis and the source -/

/-- A value by the number of changes of the source that it shows; `null` and `undefined` are stored
as well, and read as a miss. -/
structure Value where
  shows : ℕ
  isNull : Bool := false

/-- The history of a task: the change it has made; whether it is scanning for a pattern that the
watched key matches; whether the key has been there all the while and was not returned yet, was
stored since, or was returned last and is still there. -/
structure Call where
  change : ℕ := 0
  scanning : Bool := false
  there : Bool := false
  stored : Bool := false
  taken : Bool := false

/-- The number of changes of the source, and the cache. As history, for the watched key: the last
change after which it was deleted, the last one it was invalidated for, and for every answer the
change it may not be older than and the one it shows. -/
structure Shared where
  changes : ℕ := 0
  cache : Key → Option Value
  calls : ℕ → Call := fun _ => {}
  cleared : ℕ := 0
  promised : ℕ := 0
  given : List (ℕ × ℕ) := []

/-- No answer is older than a change whose invalidation had returned when it was asked for. -/
def Fresh (s : Shared) : Prop := ∀ answer ∈ s.given, answer.1 ≤ answer.2

instance (s : Shared) : Decidable (Fresh s) :=
  inferInstanceAs (Decidable (∀ answer ∈ s.given, answer.1 ≤ answer.2))

inductive Kind where
  | get (key : Key)
  | setex (key : Key) (value : Value)
  | del (keys : List Key)
  | scan (cursor : ℕ) (pattern : Key)
  | publish (patterns : List Key)
  /-- `fetchFn()` -/
  | fetch
  /-- The writer changes the source. -/
  | change
  /-- `getOrSet` is called; the answer is history. -/
  | enter (key : Key)
  /-- `getOrSet` returns. -/
  | answer (since : ℕ) (value : Value)
  /-- `invalidate` returns. -/
  | returned (target : Key)

@[reducible] def Kind.Reply : Kind → Type
  | .get _ => Option Value
  | .scan _ _ => ℕ × List Key
  | .fetch => Value
  | .enter _ => ℕ
  | _ => Unit

inductive CacheError where
  /-- `fetchFn` throws. -/
  | fetchFailed
  /-- The scan takes more rounds than the task is given. -/
  | unfinished

/-- Whether `fetchFn` throws or finds nothing, and what a `SCAN` answers. -/
structure Choice where
  throws : Bool := false
  isNull : Bool := false
  next : ℕ := 0
  keys : List Key := []

namespace Shared

variable (env : Env) (i : ℕ)

def drop (keys : List Key) (s : Shared) : Shared :=
  { s with
    cache := fun key => if key ∈ keys then none else s.cache key
    calls := fun j =>
      { s.calls j with
        there := (s.calls j).there && decide (env.key ∉ keys)
        taken := (s.calls j).taken && decide (env.key ∉ keys) } }

def store (key : Key) (value : Value) (s : Shared) : Shared :=
  { s with
    cache := update s.cache key (some value)
    calls := fun j => { s.calls j with stored := (s.calls j).stored || decide (key = env.key) } }

/-- The watched key is deleted for the change of the task. -/
def clear (s : Shared) : Shared := { s with cleared := max s.cleared (s.calls i).change }

/-- The history of the task where it asks for the next round of a scan. -/
def round (cursor : ℕ) (s : Shared) : Call :=
  if cursor = 0 then
    { change := (s.calls i).change, there := (s.cache env.key).isSome }
  else s.calls i

def reply (cursor : ℕ) (pattern : Key) (c : Choice) (s : Shared) : Shared :=
  { s with
    calls := update s.calls i
      { s.round env i cursor with
        scanning := decide (c.next ≠ 0) && env.globMatch pattern env.key
        there := (s.round env i cursor).there && decide (env.key ∉ c.keys)
        taken := decide (env.key ∈ c.keys) } }

/-- What Redis can answer: keys that are there and match, and in all rounds together every matching
key that was there from the first round to the last. -/
def CanReply (cursor : ℕ) (pattern : Key) (c : Choice) (s : Shared) : Prop :=
  (∀ key ∈ c.keys, (s.cache key).isSome = true ∧ env.globMatch pattern key = true) ∧
    (c.next = 0 → env.globMatch pattern env.key = true → (s.round env i cursor).there = true →
      env.key ∈ c.keys)

instance (cursor : ℕ) (pattern : Key) (c : Choice) (s : Shared) :
    Decidable (s.CanReply env i cursor pattern c) := by
  unfold CanReply
  infer_instance

/-- The scan is over and has left the watched key out: from here on nothing deletes it any more. -/
def Passed (pattern : Key) (c : Choice) : Prop :=
  c.next = 0 ∧ env.globMatch pattern env.key = true ∧ env.key ∉ c.keys

instance (pattern : Key) (c : Choice) : Decidable (Passed env pattern c) := by
  unfold Passed
  infer_instance

end Shared

open Shared in
/-- What an operation of this task answers and leaves. -/
def performOp (env : Env) (i : ℕ) (kind : Kind) (c : Choice) (s : Shared) :
    Option (Except CacheError kind.Reply × Shared) :=
  match kind with
  | .get key => some (.ok (s.cache key), s)
  | .setex key value => some (.ok (), s.store env key value)
  | .del keys =>
    -- what a scan deletes counts with its last round
    some (.ok (), if env.key ∈ keys ∧ (s.calls i).scanning = false then (s.drop env keys).clear i
      else s.drop env keys)
  | .scan cursor pattern =>
    if s.CanReply env i cursor pattern c then
      some (.ok (c.next, c.keys), if Passed env pattern c then (s.reply env i cursor pattern c).clear i
        else s.reply env i cursor pattern c)
    else none
  | .publish _ => some (.ok (), s)
  | .fetch => some (if c.throws then .error .fetchFailed else .ok ⟨s.changes, c.isNull⟩, s)
  | .change =>
    some (.ok (), { s with
      changes := s.changes + 1
      calls := update s.calls i { s.calls i with change := s.changes + 1 } })
  | .enter key => some (.ok (if key = env.key then s.promised else 0), s)
  | .answer since value => some (.ok (), { s with given := (since, value.shows) :: s.given })
  | .returned target =>
    some (.ok (), if env.Invalidates target then
      { s with promised := max s.promised (s.calls i).change } else s)

/-! ## The service -/

abbrev M := Prog Kind Kind.Reply CacheError

section Service

variable (env : Env)

def get (key : Key) : M (Option Value) :=
  if env.cacheEnabled then do
    let data ← perform (Kind.get key)
    pure (data.filter (fun value => !value.isNull))
  else pure none

def set (key : Key) (value : Value) (ttlSeconds : ℤ) : M Unit :=
  if env.cacheEnabled then
    if ttlSeconds ≤ 0 then perform (Kind.del [key]) else perform (Kind.setex key value)
  else pure ()

/-- The value from the cache, or the one that is fetched and stored. -/
def getOrSet (key : Key) (ttlSeconds : ℤ) : M Value := do
  let cached ← get env key
  match cached with
  | some value => pure value
  | none => do
      let value ← perform Kind.fetch
      set env key value ttlSeconds
      pure value

def delFound (keys : List Key) : M Unit :=
  if keys = [] then pure () else perform (Kind.del keys)

/-- The loop of `delPattern` from a cursor on. A task is given a number of rounds, which may be any,
and gets no further than they do. -/
def scanFrom (pattern : Key) : ℕ → ℕ → M Unit
  | 0, _ => Prog.throw .unfinished
  | rounds + 1, cursor => do
      let found ← perform (Kind.scan cursor pattern)
      delFound found.2
      if found.1 = 0 then pure () else scanFrom pattern rounds found.1

def delPattern (rounds : ℕ) (pattern : Key) : M Unit := scanFrom pattern rounds 0

/-- `delPattern` or `del`, as the candidate has it. -/
def delCandidate (rounds : ℕ) (candidate : Key) : M Unit :=
  if '*' ∈ candidate then delPattern rounds candidate else perform (Kind.del [candidate])

def invalidate (rounds : ℕ) (key : Key) : M Unit :=
  if env.cacheEnabled then do
    Prog.forEach (delCandidate rounds) (patterns env.cacheKeyVersion key)
    perform (Kind.publish (patterns env.cacheKeyVersion key))
  else pure ()

/-! ## Its callers -/

inductive Caller where
  | read (parts : KeyParts) (ttlSeconds : ℤ)
  | write (targets : List Key) (rounds : ℕ)

def entry : Caller → M Unit
  | .read parts ttlSeconds => do
      let key := buildKey env.cacheKeyVersion parts
      let since ← perform (Kind.enter key)
      let value ← getOrSet env key ttlSeconds
      perform (Kind.answer since value)
  | .write targets rounds => do
      perform Kind.change
      Prog.forEach (fun target => do
        invalidate env rounds target
        perform (Kind.returned target)) targets

/-- A key runs out, is evicted or is deleted by somebody else; the source is changed by somebody who
does not invalidate. -/
inductive Event where
  | drop (key : Key)
  | edit

def outside : Event → Shared → Option Shared
  | .drop key, s => some (s.drop env [key])
  | .edit, s => some { s with changes := s.changes + 1 }

/-- Any number of readers and writers that come at any times. -/
def callers : System Kind Kind.Reply CacheError Shared Choice Event Caller where
  perform := performOp env
  outside := outside env
  entry := entry env
  mayStart := fun _ _ => true

end Service

abbrev Act := Action Choice Event Caller

end DiscountBazar.Cache
