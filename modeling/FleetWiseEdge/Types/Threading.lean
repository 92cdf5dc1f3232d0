namespace Platform

structure Signal where
  mNotify : Bool := false
deriving Repr, DecidableEq

namespace Signal

def notify (_signal : Signal) : Signal :=
  { mNotify := true }

/--
A wait with `WaitWithPredicate` returns only when the signal is set, `none` is a thread that stays blocked.
-/
def waitWithPredicate (signal : Signal) : Option Signal :=
  if signal.mNotify then
    some { mNotify := false }
  else
    none

def waitWithTimeout (_signal : Signal) : Signal :=
  { mNotify := false }

@[simp]
theorem notify_mNotify (signal : Signal) : signal.notify.mNotify = true := rfl

theorem waitWithPredicate_eq_some {signal signal' : Signal}
    : signal.waitWithPredicate = some signal'
        ↔
      signal.mNotify = true ∧ signal' = { mNotify := false } := by
  unfold waitWithPredicate
  split
  . next hset => simp [hset, eq_comm]
  . next hset => simp [hset]

theorem waitWithPredicate_eq_none {signal : Signal}
    : signal.waitWithPredicate = none ↔ signal.mNotify = false := by
  simp [waitWithPredicate]

end Signal

end Platform
