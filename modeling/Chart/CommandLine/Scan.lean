import Chart.CommandLine.Spec
import Chart.Text.Digit

/-!
# CommandLine/Scan — telling flags from plain arguments

Scanning assigns the arguments to the flags and slots that are offered, without looking at what they
mean.  First every argument gets a **mark**, flag or plain; then the flags are taken one by one, and the
slots are filled from **each run of plain arguments**, as many slots as possible at a time.

* `Mark.ofArgument` — the mark of an argument; flags may be abbreviated.
* `Scan.ofArguments` — the occurrences of flags and slots in order, and how the scan ended.
-/

namespace Chart

/-- What an argument looks like. -/
inductive Mark where
  | plain
  /-- Two hyphens: all further arguments are plain. -/
  | separator
  /-- A flag by one of its names, and the text attached to it. -/
  | flag (flag : Flag) (name : Text) (attached : Option Text)
  /-- It looks like a flag, but no such flag is offered. -/
  | unknown

namespace Mark

/-- Whether an argument looks like a flag. -/
def isFlag : Mark → Bool
  | flag _ _ _ | unknown => true
  | plain | separator => false

/-- The spellings of the flags that are offered. -/
def spellings (offered : List Flag) : List (Text × Flag) :=
  offered.flatMap fun flag => flag.names.map fun name => (name, flag)

/-- A text up to its first equals sign, and what follows the sign if there is one. -/
def cutEquals (argument : Text) : Text × Option Text :=
  match argument.span (· != '=') with
  | (name, _ :: rest) => (name, some rest)
  | (name, []) => (name, none)

/-- Whether a text consists of decimal digits. -/
def areDigits (t : Text) : Bool := t.all fun c => (Text.digitValue? c).isSome

/-- Whether an argument is a negative number, of digits with at most one point; a line break may
follow. -/
def isNegativeNumber (argument : Text) : Bool :=
  let argument := if argument.getLast? = some '\n' then argument.dropLast else argument
  match argument with
  | '-' :: digits =>
    match digits.span (· != '.') with
    | (whole, []) => !whole.isEmpty && areDigits whole
    | (whole, _ :: fraction) => !fraction.isEmpty && areDigits whole && areDigits fraction
  | _ => false

/-- The flags that an argument may abbreviate: a long name by its beginning, a short one with its
argument directly behind it. -/
def candidates (offered : List Flag) (argument : Text) : List (Text × Mark) :=
  match argument with
  | '-' :: '-' :: _ =>
    let (beginning, attached) := cutEquals argument
    ((spellings offered).filter fun s => beginning.isPrefixOf s.1).map fun (name, f) =>
      (name, flag f name attached)
  | '-' :: letter :: rest =>
    ((spellings offered).filter fun s => s.1 == ['-', letter]).map fun (name, f) =>
      (name, flag f name (some rest))
  | _ => []

/-- **The mark of an argument** that no separator precedes. -/
def ofArgument (offered : List Flag) (argument : Text) : Except UsageError Mark :=
  if argument.head? ≠ some '-' then .ok plain
  else
    match (spellings offered).lookup argument with
    | some f => .ok (flag f argument none)
    | none =>
      if argument.length = 1 then .ok plain
      else
        let (name, attached) := cutEquals argument
        match (spellings offered).lookup name, attached with
        | some f, some text => .ok (flag f name (some text))
        | _, _ =>
          match candidates offered argument with
          | [(_, mark)] => .ok mark
          | [] =>
            if isNegativeNumber argument || argument.contains ' ' then .ok plain else .ok unknown
          | several => .error (.ambiguous argument (several.map Prod.fst))

/-- The arguments with their marks. -/
def ofArguments (offered : List Flag) : List Text → Except UsageError (List (Mark × Text))
  | [] => .ok []
  | argument :: rest =>
    if argument = "--".toList then
      .ok ((separator, argument) :: rest.map fun a => (plain, a))
    else
      match ofArgument offered argument with
      | .error e => .error e
      | .ok mark => (ofArguments offered rest).map ((mark, argument) :: ·)

end Mark

/-- An assignment of arguments. -/
inductive Occurrence where
  /-- A flag by one of its names, with its argument. -/
  | flag (flag : Flag) (name : Text) (argument : Option Text)
  /-- A slot with its arguments. -/
  | slot (slot : Slot) (arguments : List Text)

/-- **What a scan found**: the assignments in order, and the arguments left over or the error that ended
the scan after them. -/
structure Scan where
  occurrences : List Occurrence
  ending : Except UsageError (List Text)

namespace Scan

/-- The scan with assignments and left over arguments before it. -/
def after (occurrences : List Occurrence) (leftOver : List Text) (s : Scan) : Scan :=
  ⟨occurrences ++ s.occurrences, s.ending.map (leftOver ++ ·)⟩

/-! ## Slots -/

/-- The separators at the start of marked arguments, and the others. -/
def cutSeparators (rest : List (Mark × Text)) : List (Mark × Text) × List (Mark × Text) :=
  rest.span fun
    | (.separator, _) => true
    | _ => false

/-- The arguments that a slot takes, separators around a plain argument among them, and the others. -/
def take? (slot : Slot) (rest : List (Mark × Text)) :
    Option (List (Mark × Text) × List (Mark × Text)) :=
  let (before, rest) := cutSeparators rest
  match rest with
  | (.plain, argument) :: rest =>
    match slot with
    | .command => some (before ++ (.plain, argument) :: rest, [])
    | .grammarFile | .input =>
      let (behind, rest) := cutSeparators rest
      some (before ++ (.plain, argument) :: behind, rest)
  | rest =>
    match slot with
    | .input => some (before, rest)
    | .command | .grammarFile => none

/-- **The slots that can be filled from the start of marked arguments**, the slots that cannot, and the
arguments behind.  Of the arguments of a slot the first separator is dropped, but a command keeps
all. -/
def fillSlots : List Slot → List (Mark × Text) →
    List Occurrence × List Slot × List (Mark × Text)
  | [], rest => ([], [], rest)
  | slot :: slots, rest =>
    match take? slot rest with
    | none => ([], slot :: slots, rest)
    | some (taken, rest) =>
      let arguments := taken.map Prod.snd
      let arguments := if slot = .command then arguments else arguments.erase "--".toList
      let (occurrences, slots, rest) := fillSlots slots rest
      (.slot slot arguments :: occurrences, slots, rest)

/-! ## Flags -/

/-- **The flags of a cluster** such as `-ab`, for the text behind the first one: a flag that takes an
argument takes all of the text, and any other short flag may be followed directly by the letter of the
next one.  A flag with no text behind it is given back, as it may take the next argument. -/
def cluster (offered : List Flag) (flag : Flag) (name : Text) :
    Text → Except UsageError (List Occurrence × Option (Flag × Text))
  | [] =>
    if flag.takesArgument then .ok ([.flag flag name (some [])], none)
    else .error (.ignoredArgument flag [])
  | c :: rest =>
    if flag.takesArgument then .ok ([.flag flag name (some (c :: rest))], none)
    else if name.length ≠ 2 then .error (.ignoredArgument flag (c :: rest))
    else
      match (Mark.spellings offered).lookup ['-', c] with
      | none => .error (.ignoredArgument flag (c :: rest))
      | some next =>
        if rest.isEmpty then .ok ([.flag flag name none], some (next, ['-', c]))
        else
          (cluster offered next ['-', c] rest).map fun (occurrences, last) =>
            (.flag flag name none :: occurrences, last)

/-- The flags in an argument that starts with a flag, of which the last one may be given back. -/
def flagsOf (offered : List Flag) (flag : Flag) (name : Text) :
    Option Text → Except UsageError (List Occurrence × Option (Flag × Text))
  | none => .ok ([], some (flag, name))
  | some text => cluster offered flag name text

/-- The assignments of a flag and the text attached to it, and the marked arguments behind it. -/
def takeFlag (offered : List Flag) (flag : Flag) (name : Text) (attached : Option Text)
    (rest : List (Mark × Text)) : Except UsageError (List Occurrence × List (Mark × Text)) :=
  match flagsOf offered flag name attached with
  | .error e => .error e
  | .ok (occurrences, none) => .ok (occurrences, rest)
  | .ok (occurrences, some (flag, name)) =>
    if flag.takesArgument then
      match rest with
      | (.plain, argument) :: rest => .ok (occurrences ++ [.flag flag name (some argument)], rest)
      | _ => .error (.missingArgument flag)
    else .ok (occurrences ++ [.flag flag name none], rest)

/-- The scan of marked arguments with some slots still to be filled.  The fuel bounds the number of
flags and runs of plain arguments, of which each has an argument of its own. -/
def ofMarks (offered : List Flag) : Nat → List Slot → List (Mark × Text) → Scan
  | 0, _, _ => ⟨[], .ok []⟩
  | fuel + 1, slots, rest =>
    let (run, tail) := rest.span fun m => !m.1.isFlag
    match tail with
    | [] =>
      let (occurrences, _, behind) := fillSlots slots rest
      ⟨occurrences, .ok (behind.map Prod.snd)⟩
    | (mark, argument) :: behind =>
      let (filled, unfilled, rest') := if run.isEmpty then ([], slots, rest) else fillSlots slots rest
      if rest'.length < rest.length then (ofMarks offered fuel unfilled rest').after filled []
      else
        let leftOver := run.map Prod.snd
        match mark with
        | .flag flag name attached =>
          match takeFlag offered flag name attached behind with
          | .error e => ⟨filled, .error e⟩
          | .ok (occurrences, behind) =>
            (ofMarks offered fuel unfilled behind).after (filled ++ occurrences) leftOver
        | _ => (ofMarks offered fuel unfilled behind).after filled (leftOver ++ [argument])

/-- **The scan of arguments** for the flags and slots that are offered. -/
def ofArguments (offered : List Flag) (slots : List Slot) (arguments : List Text) : Scan :=
  match Mark.ofArguments offered arguments with
  | .error e => ⟨[], .error e⟩
  | .ok marked => ofMarks offered (marked.length + 1) slots marked

end Scan

end Chart
