import ClientGen.Text.Class

/-! The arguments of the command line. Options may stand before and after the document, long ones may be
shortened, and short ones put together; the last of several wins. -/

set_option autoImplicit false

namespace ClientGen.Command

structure Arguments where
  document : String
  target : String := "typescript"
  className : String := "Client"
  moduleName : Option String := none
  output : Option String := none
  beautify : Bool := true
  verbose : Bool := false
  deriving DecidableEq, Repr

/-- Why the command ends before it has begun: help was asked for, or the arguments make no sense. -/
inductive Refusal where
  | help
  | usage
  deriving DecidableEq, Repr

inductive Flag where
  | help
  | target
  | className
  | moduleName
  | output
  | noBeautify
  | verbose
  deriving DecidableEq, Repr

namespace Flag

def takesValue : Flag → Bool
  | .target | .className | .moduleName | .output => true
  | _ => false

def short? : Char → Option Flag
  | 'h' => some .help
  | 't' => some .target
  | 'c' => some .className
  | 'm' => some .moduleName
  | 'o' => some .output
  | 'v' => some .verbose
  | _ => none

def longNames : List (String × Flag) :=
  [("help", .help), ("target", .target), ("class-name", .className), ("module-name", .moduleName),
    ("output", .output), ("no-beautify", .noBeautify), ("verbose", .verbose)]

/-- The flags whose long names begin so; a whole name means its own flag only. -/
def long (name : String) : List Flag :=
  match longNames.lookup name with
  | some flag => [flag]
  | none => (longNames.filter fun (long, _) => name.toList.isPrefixOf long.toList).map (·.2)

end Flag

inductive Word where
  /-- Two hyphens, after which nothing is an option. -/
  | separator
  | plain (s : String)
  | long (flag : Flag) (given : Option String)
  /-- A short option, and what follows it in the same word: a value after an equals sign, or more letters. -/
  | short (flag : Flag) (afterEquals : Bool) (more : List Char)
  | unknown

private def isNegativeNumber (text : List Char) : Bool :=
  match text with
  | '-' :: rest =>
    let (whole, after) := rest.span Text.isDecimalDigit
    match after with
    | [] => !whole.isEmpty
    | '.' :: digits => !digits.isEmpty && digits.all Text.isDecimalDigit
    | _ => false
  | _ => false

private def splitEquals (text : List Char) : String × Option String :=
  let (name, rest) := text.span (· ≠ '=')
  (String.ofList name, match rest with
    | [] => none
    | _ :: given => some (String.ofList given))

private def otherwise (text : List Char) : Word :=
  if isNegativeNumber text || text.contains ' ' then .plain (String.ofList text) else .unknown

private def classifyOption (text : List Char) : Except Refusal Word :=
  match text with
  | '-' :: '-' :: name =>
    let (name, given) := splitEquals name
    -- A beginning that several flags share names none of them.
    match Flag.long name with
    | [flag] => .ok (.long flag given)
    | [] => .ok (otherwise text)
    | _ => .error .usage
  | '-' :: c :: rest =>
    match Flag.short? c, rest with
    | some flag, '=' :: given => .ok (.short flag true given)
    | some flag, more => .ok (.short flag false more)
    | none, _ => .ok (otherwise text)
  | text => .ok (.plain (String.ofList text))

/-- The forms of all arguments; after a separator all are plain. -/
private def classify : List String → Except Refusal (List Word)
  | [] => .ok []
  | "--" :: rest => .ok (.separator :: rest.map .plain)
  | word :: rest => do
    let first ← classifyOption word.toList
    return first :: (← classify rest)

structure Progress where
  document : Option String := none
  arguments : Arguments := { document := "" }
  /-- Flags that wait for the value of the last of them. -/
  pending : List Flag := []
  surplus : Bool := false
  afterDocument : Bool := false

namespace Progress

def apply (progress : Progress) (value : String) (flag : Flag) : Except Refusal Progress :=
  let arguments := progress.arguments
  match flag with
  | .help => .error .help
  | .target =>
    if ["javascript", "typescript", "flow"].contains value then
      .ok { progress with arguments := { arguments with target := value } }
    else .error .usage
  | .className => .ok { progress with arguments := { arguments with className := value } }
  | .moduleName => .ok { progress with arguments := { arguments with moduleName := some value } }
  | .output => .ok { progress with arguments := { arguments with output := some value } }
  | .noBeautify => .ok { progress with arguments := { arguments with beautify := false } }
  | .verbose => .ok { progress with arguments := { arguments with verbose := true } }

/-- Takes flags, the last of which may have a value or wait for one. -/
def take (progress : Progress) (flags : List Flag) (given : Option String) :
    Except Refusal Progress :=
  -- The flags are applied together with the value that the last of them waits for.
  let waits := (flags.getLast?.map Flag.takesValue).getD false && given.isNone
  if waits then .ok { progress with pending := flags }
  else flags.foldlM (apply · (given.getD "")) progress

/-- Takes the flags of one word of short options. A flag that takes no value leaves the rest of the word to
further flags; a letter that names no flag leaves the rest to nobody. -/
def takeGroup (progress : Progress) (flags : List Flag) (flag : Flag) (afterEquals : Bool) :
    List Char → Except Refusal Progress
  | [] =>
    if !afterEquals then take progress (flags ++ [flag]) none
    else if flag.takesValue then take progress (flags ++ [flag]) (some "")
    else .error .usage
  | c :: rest =>
    if flag.takesValue then take progress (flags ++ [flag]) (some (String.ofList (c :: rest)))
    else if afterEquals || c = '-' then .error .usage
    else match Flag.short? c, rest with
      | some next, '=' :: given => takeGroup progress (flags ++ [flag]) next true given
      | some next, rest => takeGroup progress (flags ++ [flag]) next false rest
      | none, _ => take { progress with surplus := true } (flags ++ [flag]) none

def step (progress : Progress) (word : Word) : Except Refusal Progress :=
  match progress.pending, word with
  | flag :: flags, .plain value =>
    (flag :: flags).foldlM (apply · value) { progress with pending := [] }
  | _ :: _, _ => .error .usage
  | [], .separator =>
    -- A separator right after the document is taken with it; later there is nothing it could begin.
    let surplus := progress.surplus || (progress.document.isSome && !progress.afterDocument)
    .ok { progress with surplus, afterDocument := false }
  | [], .plain s =>
    match progress.document with
    | none => .ok { progress with document := some s, afterDocument := true }
    | some _ => .ok { progress with surplus := true, afterDocument := false }
  | [], .unknown => .ok { progress with surplus := true, afterDocument := false }
  | [], .long flag given =>
    if given.isSome && !flag.takesValue then .error .usage
    else take { progress with afterDocument := false } [flag] given
  | [], .short flag afterEquals more =>
    takeGroup { progress with afterDocument := false } [] flag afterEquals more

end Progress

def Arguments.read (words : List String) : Except Refusal Arguments := do
  let progress ← (← classify words).foldlM Progress.step {}
  match progress.document, progress.surplus, progress.pending with
  | some document, false, [] => return { progress.arguments with document := document }
  | _, _, _ => throw .usage

end ClientGen.Command
