/-
The simulator's command line. General options may stand before the subcommand and after it; an
option takes its value from the same word or from the next one, and a word in one dash may hold
several flags. Values are read in the order in which the line settles them, so the first value
that cannot be read decides the error.
-/
import FlashGate.Text.Number

namespace FlashGate.Simulator

/-! ## Commands and values -/

/-- What the simulator is asked to do. -/
inductive Subcommand where
  /-- Rounds of erase, write and read-back from several clients. -/
  | stress (threads iterations : Nat)
  /-- Compares raw and nibble-swapped reads in a low-level window. -/
  | lowlevel (address : UInt32) (length : Nat)
  /-- Prints a range. -/
  | dump (address : UInt32) (length : Nat)
  deriving DecidableEq, Repr

/-- A whole command line. -/
structure Invocation where
  params : String := ""
  /-- Size of the emulated chip. -/
  size : UInt32 := 0x100000
  subcommand : Subcommand
  deriving DecidableEq, Repr

/-- What a command line asks for. -/
inductive Request where
  | run (i : Invocation)
  | version
  | help
  deriving DecidableEq, Repr

/-- Why a command line cannot be used. -/
inductive UsageError where
  /-- A value that cannot be read, and the reason. -/
  | value (reason : String)
  /-- A missing, unknown, repeated or surplus word. -/
  | form
  deriving DecidableEq, Repr

/-- The arguments that carry a value. -/
inductive Argument where
  | params
  | size
  | threads
  | iterations
  | address
  | length
  deriving DecidableEq, Repr

/-- A value that was read. -/
inductive Value where
  | text (s : String)
  | word (w : UInt32)
  | count (n : Nat)
  deriving DecidableEq, Repr

/-- The reason why a word cannot be read. -/
def wordReason : Text.Radix × Text.NumberError → String
  | (.hexadecimal, e) => "Invalid hex value: " ++ e.message
  | (.decimal, e) => "Invalid number: " ++ e.message

/-- Reads a word argument. -/
def readWordValue (text : String) : Except UsageError Value :=
  match Text.readWord text.toList with
  | .ok w => .ok (.word w)
  | .error e => .error (.value (wordReason e))

/-- Reads a count argument. -/
def readCountValue (text : String) : Except UsageError Value :=
  match Text.readCount text.toList with
  | .ok n => .ok (.count n)
  | .error e => .error (.value e.message)

/-- Reads the value of an argument. -/
def Argument.read : Argument → String → Except UsageError Value
  | .params, s => .ok (.text s)
  | .size, s => readWordValue s
  | .address, s => readWordValue s
  | .threads, s => readCountValue s
  | .iterations, s => readCountValue s
  | .length, s => readCountValue s

/-! ## What a level of the line knows -/

/-- What an option or a flag means. -/
inductive Meaning where
  | verbose
  | version
  | help
  | option (a : Argument)
  deriving DecidableEq, Repr

/-- The options and positional arguments of one level of the line: before the subcommand, or after
it. -/
structure Level where
  long : List (String × Meaning)
  short : List (Char × Meaning)
  positional : List Argument := []

namespace Level

/-- The options that every level has. -/
def generalLong : List (String × Meaning) :=
  [("verbose", .verbose), ("params", .option .params), ("size", .option .size), ("help", .help)]

/-- The short forms that every level has. -/
def generalShort : List (Char × Meaning) := [('v', .verbose), ('h', .help)]

/-- The level before the subcommand. -/
def root : Level where
  long := ("version", .version) :: generalLong
  short := ('V', .version) :: generalShort

def stress : Level where
  long := [("threads", .option .threads), ("iterations", .option .iterations)] ++ generalLong
  short := [('t', .option .threads), ('i', .option .iterations)] ++ generalShort

def lowlevel : Level where
  long := [("address", .option .address), ("length", .option .length)] ++ generalLong
  short := [('a', .option .address), ('l', .option .length)] ++ generalShort

def dump : Level where
  long := generalLong
  short := generalShort
  positional := [.address, .length]

/-- The level of a subcommand. -/
def ofName? : String → Option Level
  | "stress" => some stress
  | "lowlevel" => some lowlevel
  | "dump" => some dump
  | _ => none

end Level

/-! ## Reading one level -/

/-- An argument whose value is not read yet; the value is missing while its word is still to
come. -/
structure Pending where
  argument : Argument
  value : Option String
  deriving DecidableEq, Repr

/-- How far the reading of a level has come. -/
structure Reading where
  values : List (Argument × Value) := []
  pending : Option Pending := none
  /-- Number of positional arguments so far. -/
  positionals : Nat := 0
  /-- Whether only positional arguments may follow. -/
  trailing : Bool := false

/-- Why the reading of a level stops before its end. -/
inductive Stop where
  | error (e : UsageError)
  | version
  | help

namespace Reading

/-- The value of an argument, if it was given. -/
def find? (r : Reading) (a : Argument) : Option Value :=
  (r.values.find? fun v => v.1 = a).map (·.2)

/-- Takes a value for an argument. An argument may be given once. -/
def accept (r : Reading) (a : Argument) (text : String) : Except Stop Reading :=
  if (r.find? a).isSome then .error (.error .form)
  else
    match a.read text with
    | .ok v => .ok { r with values := r.values ++ [(a, v)] }
    | .error e => .error (.error e)

/-- Reads the value that is pending. -/
def settle (r : Reading) : Except Stop Reading :=
  match r.pending with
  | none => .ok r
  | some ⟨_, none⟩ => .error (.error .form)
  | some ⟨a, some text⟩ => accept { r with pending := none } a text

/-- Gives an argument a value that stands in the same word. -/
def attach (r : Reading) (a : Argument) (text : String) : Except Stop Reading := do
  (← r.settle).accept a text

/-- Lets an argument wait for the next word. -/
def await (r : Reading) (a : Argument) : Except Stop Reading := do
  return { (← r.settle) with pending := some ⟨a, none⟩ }

/-- Takes a flag. -/
def flag (r : Reading) (stop : Option Stop) : Except Stop Reading := do
  let r ← r.settle
  match stop with
  | none => return r
  | some s => throw s

/-- Takes a word with two dashes. -/
def longWord (l : Level) (r : Reading) (body : List Char) : Except Stop Reading :=
  let name := String.ofList (body.takeWhile (· ≠ '='))
  let attached := match body.dropWhile (· ≠ '=') with
    | [] => none
    | _ :: value => some (String.ofList value)
  match l.long.lookup name, attached with
  | some (.option a), some text => r.attach a text
  | some (.option a), none => r.await a
  | some .verbose, none => r.flag none
  | some .version, none => r.flag (some .version)
  | some .help, none => r.flag (some .help)
  | _, _ => .error (.error .form)

/-- Takes the letters of a word with one dash. The letters after an option are its value, an equals
sign in front left out. -/
def shortWord (l : Level) (r : Reading) : List Char → Except Stop Reading
  | [] => .ok r
  | c :: rest =>
    match l.short.lookup c with
    | some .verbose => do shortWord l (← r.flag none) rest
    | some .version => r.flag (some .version)
    | some .help => r.flag (some .help)
    | some (.option a) =>
      match rest with
      | [] => r.await a
      | '=' :: value => r.attach a (String.ofList value)
      | value => r.attach a (String.ofList value)
    | none => .error (.error .form)

/-- Takes a positional argument, if the level has one more. -/
def positional (l : Level) (r : Reading) (text : String) : Except Stop Reading :=
  match l.positional[r.positionals]? with
  | none => .error (.error .form)
  | some a => do
    let r ← r.settle
    return { r with pending := some ⟨a, some text⟩, positionals := r.positionals + 1 }

/-- The value that a word gives to an option that waits for it: any word that does not start with
a dash, or a dash alone. -/
def awaited? (r : Reading) (text : String) : Option Pending :=
  match r.pending with
  | some ⟨a, none⟩ =>
    match text.toList with
    | '-' :: _ :: _ => none
    | _ => some ⟨a, some text⟩
  | _ => none

/-- Takes one word. -/
def word (l : Level) (r : Reading) (text : String) : Except Stop Reading :=
  if r.trailing then r.positional l text
  else
    match r.awaited? text with
    | some p => .ok { r with pending := some p }
    | none =>
      match text.toList with
      | ['-', '-'] => .ok { r with trailing := true }
      | '-' :: '-' :: body => r.longWord l body
      | '-' :: c :: letters => r.shortWord l (c :: letters)
      | _ => r.positional l text

/-- Takes all words of a level. -/
def words (l : Level) : Reading → List String → Except Stop Reading
  | r, [] => .ok r
  | r, text :: rest => do words l (← r.word l text) rest

end Reading

/-! ## Reading the line -/

/-- A word given for an argument, or its default. -/
def Reading.wordOr (r : Reading) (a : Argument) (default : UInt32) : UInt32 :=
  match r.find? a with
  | some (.word w) => w
  | _ => default

/-- A count given for an argument, or its default. -/
def Reading.countOr (r : Reading) (a : Argument) (default : Nat) : Nat :=
  match r.find? a with
  | some (.count n) => n
  | _ => default

/-- A text given for an argument, or its default. -/
def Reading.textOr (r : Reading) (a : Argument) (default : String) : String :=
  match r.find? a with
  | some (.text s) => s
  | _ => default

/-- The subcommand of a name and its arguments. Only the address of a dump has to be given. -/
def subcommand? (name : String) (r : Reading) : Option Subcommand :=
  match name with
  | "stress" => some (.stress (r.countOr .threads 4) (r.countOr .iterations 100))
  | "lowlevel" => some (.lowlevel (r.wordOr .address 0x1000) (r.countOr .length 4096))
  | "dump" =>
    match r.find? .address with
    | some (.word address) => some (.dump address (r.countOr .length 256))
    | _ => none
  | _ => none

/-- The invocation of a subcommand: a general option after the subcommand wins over the same one
before it. -/
def invocation (root sub : Reading) (s : Subcommand) : Invocation where
  params := sub.textOr .params (root.textOr .params "")
  size := sub.wordOr .size (root.wordOr .size 0x100000)
  subcommand := s

/-- Reads a subcommand and its words. What is pending before the subcommand is read after them. -/
def readSubcommand (root : Reading) (name : String) (l : Level) (rest : List String) :
    Except Stop Request := do
  let sub ← (← Reading.words l {} rest).settle
  match subcommand? name sub with
  | none => throw (.error .form)
  | some s =>
    let root ← root.settle
    return .run (invocation root sub s)

/-- Whether an option waits for its value. -/
def Reading.isAwaiting (r : Reading) : Bool :=
  match r.pending with
  | some ⟨_, none⟩ => true
  | _ => false

/-- Reads the words after `help`: at most one, and that a subcommand or `help` itself, since neither
has subcommands of its own. Every word there is a name, also one that starts with a dash. -/
def readHelp : List String → Except Stop Request
  | [] => .error .help
  | ["help"] => .error .help
  | [name] => if (Level.ofName? name).isSome then .error .help else .error (.error .form)
  | _ => .error (.error .form)

/-- Reads the words before the subcommand, and then the subcommand. What is pending before `help` is
never read. -/
def readRoot : Reading → List String → Except Stop Request
  | r, [] => do
    let _ ← r.settle
    throw (.error .form)
  | r, text :: rest =>
    if r.trailing || r.isAwaiting then do readRoot (← r.word .root text) rest
    else
      match text, Level.ofName? text with
      | _, some l => readSubcommand r text l rest
      | "help", none => readHelp rest
      | _, none => do readRoot (← r.word .root text) rest

/-- Reads a command line. -/
def Request.ofWords (words : List String) : Except UsageError Request :=
  match readRoot {} words with
  | .ok r => .ok r
  | .error .version => .ok .version
  | .error .help => .ok .help
  | .error (.error e) => .error e

end FlashGate.Simulator
