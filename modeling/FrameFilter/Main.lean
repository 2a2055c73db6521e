import FrameFilter.Command.Run
import Std.Time.Format

namespace FrameFilter.Command

def settingName : String :=
  "GORTAIL_LOG_LEVEL"

def usage : String :=
  "usage: [--prefix TEXT] [--separator TEXT] [--strict-hex] [--summary]"

def time : IO Text :=
  return (← Std.Time.PlainDateTime.now).format "uuuu-MM-dd HH:mm:ss,SSS" |>.toList

def perform (setting : Option Text) (e : Event) : IO Unit := do
  let output ← IO.getStdout
  output.putStr <| String.ofList e.output
  output.flush
  let diagnostics ← IO.getStderr
  diagnostics.putStr <| String.ofList <| e.diagnostics setting (← time)
  diagnostics.flush

def act (setting : Option Text) (s : Session) (a : Session.Action) : IO Session := do
  let step := s.act a
  step.events.forM (perform setting)
  return step.session

-- The system hands out text up to the next line feed, which may be more than one line.
partial def actOnInput (setting : Option Text) (s : Session) : IO Session := do
  let text ← (← IO.getStdin).getLine
  if text.isEmpty then
    return s
  else
    actOnInput setting <| ← (inputLines text.toList).foldlM (act setting · <| .line ·) s

end FrameFilter.Command

open FrameFilter Command in
def main (arguments : List String) : IO UInt32 := do
  let options := Options.read (arguments.map (·.toList))
  match options with
  | .error (.refused _) => IO.eprintln usage
  | .error (.answered _) => IO.println usage
  | .ok options =>
    let setting := (← IO.getEnv settingName).map (·.toList)
    (opening options).forM (perform setting)
    let session ← actOnInput setting (.start options.settings)
    let session ← act setting session .finish
    (closing options session.counters).forM (perform setting)
  return status options
