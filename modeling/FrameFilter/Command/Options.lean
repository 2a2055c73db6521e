import FrameFilter.Session.Basic

namespace FrameFilter.Command

-- One occurrence of an option, with what it asks for.
inductive Choice where
  | allow (text : Text)
  | separator (text : Text)
  | mode (mode : Hex.Mode)
  | summary (isWanted : Bool)
  deriving DecidableEq

-- Why a list of arguments is refused.
inductive Fault where
  | unknown (argument : Text)
  | positional (argument : Text)
  | missingValue (argument : Text)
  | unwantedValue (argument : Text)
  deriving DecidableEq

-- Why there is nothing to run. An inquiry is answered instead, which is no fault.
inductive Stop where
  | refused (fault : Fault)
  | answered (inquiry : Text)
  deriving DecidableEq

-- What an argument is when it stands where an option can stand.
inductive Argument where
  | complete (choice : Choice)
  | awaiting (choice : Text → Choice)
  | inquiry
  | positional
  | terminator
  | wrong (fault : Fault)

namespace Argument

-- The options that ask about the program.
def inquiries : List Text :=
  ["help".toList, "install-completion".toList, "show-completion".toList]

-- The options whose name is a word, without the two hyphens that start them. Names are not
-- abbreviated.
def ofWord (argument name : Text) (value : Option Text) : Argument :=
  if name = "prefix".toList then valued .allow
  else if name = "separator".toList then valued .separator
  else if name = "strict-hex".toList then flag (complete <| .mode .strict)
  else if name = "lenient-hex".toList then flag (complete <| .mode .lenient)
  else if name = "summary".toList then flag (complete <| .summary true)
  else if name = "no-summary".toList then flag (complete <| .summary false)
  else if inquiries.any (· = name) then flag inquiry
  else wrong (.unknown argument)
where
  valued (choice : Text → Choice) : Argument :=
    match value with
    | none   => .awaiting choice
    | some v => complete (choice v)
  flag (a : Argument) : Argument :=
    match value with
    | none   => a
    | some _ => wrong (.unwantedValue argument)

-- After a word the first equals sign starts the value. After the one option that is a letter all
-- that follows is the value. A hyphen alone is no option.
def ofText (argument : Text) : Argument :=
  match argument with
  | ['-', '-'] => terminator
  | '-' :: '-' :: word =>
    match word.span (· != '=') with
    | (name, [])     => ofWord argument name none
    | (name, _ :: v) => ofWord argument name (some v)
  | ['-', 'p']    => .awaiting .allow
  | '-' :: 'p' :: v => complete (.allow v)
  | '-' :: _ :: _ => wrong (.unknown argument)
  | _             => positional

end Argument

-- Arguments taken apart, each kind in the order in which they come.
structure Reading where
  choices     : List Choice := []
  inquiries   : List Text   := []
  positionals : List Text   := []

namespace Reading

def choose (c : Choice) (r : Reading) : Reading :=
  { r with choices := c :: r.choices }

def inquire (a : Text) (r : Reading) : Reading :=
  { r with inquiries := a :: r.inquiries }

def pass (a : Text) (r : Reading) : Reading :=
  { r with positionals := a :: r.positionals }

-- The value that an option still needs is the next argument, even if it looks like an option.
def ofArguments : List Text → Except Fault Reading
  | [] => .ok {}
  | argument :: rest =>
    match Argument.ofText argument with
    | .complete c  => (ofArguments rest).map (choose c)
    | .awaiting c  =>
      match rest with
      | []        => .error (.missingValue argument)
      | v :: rest => (ofArguments rest).map (choose (c v))
    | .inquiry     => (ofArguments rest).map (inquire argument)
    | .positional  => (ofArguments rest).map (pass argument)
    | .terminator  => .ok { positionals := rest }
    | .wrong fault => .error fault

-- An inquiry is answered even if there are arguments that do not belong.
def settle (r : Reading) : Except Stop (List Choice) :=
  match r.inquiries, r.positionals with
  | a :: _, _ => .error (.answered a)
  | [], a :: _ => .error (.refused (.positional a))
  | [], []     => .ok r.choices

end Reading

-- The choices in the order of their arguments.
def read (arguments : List Text) : Except Stop (List Choice) := do
  (← (Reading.ofArguments arguments).mapError .refused).settle

structure Options where
  settings : Settings := {}
  summary  : Bool     := false

namespace Options

def choose (o : Options) : Choice → Options
  | .allow t     => { o with settings := { o.settings with allowed := t } }
  | .separator t => { o with settings := { o.settings with separator := t } }
  | .mode m      => { o with settings := { o.settings with mode := m } }
  | .summary b   => { o with summary := b }

-- Of several occurrences of an option the last one counts.
def ofChoices (cs : List Choice) : Options :=
  cs.foldl choose {}

def read (arguments : List Text) : Except Stop Options :=
  return ofChoices (← Command.read arguments)

end Options
end FrameFilter.Command
