import Mathlib.Logic.Function.Basic
import Ksmppd.Lib.Words
import Ksmppd.Types

/-!
# Command — commands as hiredis reads them

`smpp_redis_command` formats a command and hands the text to `redisCommand` as *its* format.
`redisCommand` gets no further arguments: it splits the text at spaces, takes two percent signs
for one, and has nothing to put in for any other directive.
-/

namespace Ksmppd
namespace Redis

open Lib

/-- ' ' -/
def blank : UInt8 := 32

/-- '%' -/
def percent : UInt8 := 37

theorem blank_ne_percent : blank ≠ percent := by decide

/-- The arguments of the command `redisCommand(conn, fmt)` sends; `none` where `fmt` has a
directive. -/
def redisCommandArgs (fmt : Octstr) : Option (List Octstr) := splitWords blank percent fmt []

/-- `SMPP_REDIS_QUEUE_PUSH` with the key and the payload filled in, both C strings. -/
def smppRedisQueuePush (listKey payload : Octstr) : Octstr :=
  octstrImm "LPUSH " ++ listKey ++ [blank] ++ payload

abbrev RedisLists := Octstr → List Octstr

/-- What Redis makes of the arguments of an `LPUSH`: each value becomes the head of the list. -/
def redisPush (lists : RedisLists) : Option (List Octstr) → RedisLists
  | some (name :: key :: value :: values) =>
      if name = octstrImm "LPUSH" then
        Function.update lists key ((value :: values).reverse ++ lists key)
      else lists
  | _ => lists

/-- What a following `LPOP` of the list replies. -/
def redisPop (lists : RedisLists) (key : Octstr) (count : Nat) : List Octstr :=
  (lists key).take count

/-- `smpp_redis_lpush`. -/
def smppRedisLpush (lists : RedisLists) (listKey payload : Octstr) : RedisLists :=
  redisPush lists (redisCommandArgs (smppRedisQueuePush listKey payload))

theorem smppRedisQueuePush_eq (listKey payload : Octstr) :
    smppRedisQueuePush listKey payload =
      joinWords blank [octstrImm "LPUSH", listKey, payload] := by
  have hname : octstrImm "LPUSH " = octstrImm "LPUSH" ++ [blank] := by decide
  simp [smppRedisQueuePush, hname, joinWords, List.intercalate, List.intersperse]

/-- The text is the three-argument command exactly if key and payload are plain. -/
theorem redisCommandArgs_push_iff {listKey payload : Octstr} (hkey : listKey ≠ [])
    (hpayload : payload ≠ []) :
    redisCommandArgs (smppRedisQueuePush listKey payload) =
        some [octstrImm "LPUSH", listKey, payload] ↔
      Plain blank percent listKey ∧ Plain blank percent payload := by
  have hwords : ∀ w ∈ [octstrImm "LPUSH", listKey, payload], w ≠ [] := by
    simp only [List.mem_cons, List.not_mem_nil, or_false]
    rintro w (rfl | rfl | rfl)
    · decide
    · exact hkey
    · exact hpayload
  have hname : Plain blank percent (octstrImm "LPUSH") := by decide
  rw [smppRedisQueuePush_eq, redisCommandArgs, splitWords_join_iff blank_ne_percent hwords]
  simp [hname]

/-- The three-argument command puts the payload where `LPOP` finds it. -/
theorem redisPop_smppRedisLpush {listKey payload : Octstr}
    (hargs : redisCommandArgs (smppRedisQueuePush listKey payload) =
      some [octstrImm "LPUSH", listKey, payload]) (lists : RedisLists) {count : Nat}
    (hcount : 0 < count) :
    (redisPop (smppRedisLpush lists listKey payload) listKey count).head? = some payload := by
  cases count with
  | zero => cases hcount
  | succ count => simp [redisPop, smppRedisLpush, hargs, redisPush]

end Redis
end Ksmppd
