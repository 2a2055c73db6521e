import FrameFilter.Log.Level

namespace FrameFilter.Log

structure Logger where
  name     : Text
  level    : Level
  handlers : Nat
  deriving DecidableEq

namespace Logger

-- What a logger is called by. The one above all others can also be asked for without a name.
def nameOf (name : Text) : Text :=
  if name = [] then "root".toList else name

def bare (name : Text) : Logger where
  name     := name
  level    := .unset
  handlers := 0

-- Each handler writes every record, so a logger gets no second one.
def attach (l : Logger) (setting : Option Text) : Logger where
  name     := l.name
  level    := .configured l.name setting
  handlers := l.handlers + 1

end Logger

-- The loggers that have been asked for, the last one first.
structure Registry where
  loggers : List Logger

namespace Registry

def empty : Registry where
  loggers := []

def lookup (r : Registry) (name : Text) : Logger :=
  (r.loggers.find? (·.name = Logger.nameOf name)).getD (.bare <| Logger.nameOf name)

-- Sees to it that a logger is ready. One that is ready already stays as it is, whatever the setting
-- has become in the meantime.
def obtain (r : Registry) (name : Text) (setting : Option Text) : Registry :=
  let logger := r.lookup name
  if logger.handlers = 0 then { loggers := logger.attach setting :: r.loggers } else r

variable {r : Registry}

theorem lookup_empty : empty.lookup name = .bare (Logger.nameOf name) :=
  rfl

theorem name_lookup : (r.lookup name).name = Logger.nameOf name := by
  simp only [lookup]
  cases h : r.loggers.find? (·.name = Logger.nameOf name)
  case none   => rfl
  case some l => simpa using List.find?_some h

theorem lookup_obtain_of_ne (h : Logger.nameOf name ≠ Logger.nameOf other) :
    (r.obtain other setting).lookup name = r.lookup name := by
  simp only [obtain]
  split
  case isTrue  =>
    have : (r.lookup other).name = Logger.nameOf other := name_lookup
    simp_all [lookup, Logger.attach, Ne.symm h]
  case isFalse => rfl

end Registry
end FrameFilter.Log
