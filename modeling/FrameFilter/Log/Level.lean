import FrameFilter.Text.Upper

namespace FrameFilter.Log

inductive Level where
  | unset
  | debug
  | info
  | warning
  | error
  | critical
  deriving DecidableEq

namespace Level

def severity : Level → Nat
  | unset    => 0
  | debug    => 10
  | info     => 20
  | warning  => 30
  | error    => 40
  | critical => 50

def name : Level → Text
  | unset    => "NOTSET".toList
  | debug    => "DEBUG".toList
  | info     => "INFO".toList
  | warning  => "WARNING".toList
  | error    => "ERROR".toList
  | critical => "CRITICAL".toList

-- Two levels have a second name.
def ofName? (t : Text) : Option Level :=
  if t = "WARN".toList then some warning
  else if t = "FATAL".toList then some critical
  else [unset, debug, info, warning, error, critical].find? (·.name = t)

-- Records are about the run as a whole where the logger is a command's, and only about problems
-- elsewhere.
def default (logger : Text) : Level :=
  if ".cli".toList.isSuffixOf logger then info else warning

-- The level of a logger under a setting, which may be absent. Case does not matter in a setting,
-- but blanks do, and one that names no level is as good as none.
def configured (logger : Text) (setting : Option Text) : Level :=
  (setting.bind fun t => ofName? t.upper).getD (default logger)

-- A logger without a level of its own takes the one of the root.
def effective : Level → Level
  | unset => warning
  | l     => l

-- Whether a logger of this level lets a record through.
def admits (threshold record : Level) : Bool :=
  threshold.effective.severity ≤ record.severity

theorem ofName?_name (l : Level) : ofName? l.name = some l := by
  cases l <;> decide

end Level
end FrameFilter.Log
