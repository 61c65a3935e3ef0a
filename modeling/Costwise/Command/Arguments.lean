import Costwise.Command.Options

/-!
# The Command Line

What the words of a command line mean. An option has a long name, and often a
letter. Letters can stand together behind one dash. A value follows its option
as the next word, or in the same word: behind an equals sign after a long name,
or directly behind a letter. Two dashes alone end the options. Whatever is
typed twice, the last one counts.

## Main definitions

* `Switch`, `Slot`: Options without and with a value.
* `Request`: What is asked of the analysis.
* `Request.read?`: The meaning of the words behind the name of the command.
* `Job`: What is to be done.
* `Job.ofArguments?`: The meaning of a command line.
-/

namespace Costwise

namespace Command

/-- An option without a value. -/
inductive Switch where
  /-- Show the explanation. -/
  | explain
  /-- Do not show the explanation. -/
  | noExplain
  /-- Show advice. -/
  | suggest
  /-- Show costly places. -/
  | bottlenecks
  /-- Show what each verdict rests on. -/
  | detailed
  /-- Debug. -/
  | debug
  /-- Show progress. -/
  | verbose
  deriving DecidableEq, Repr

/-- An option with a value. -/
inductive Slot where
  /-- A source. -/
  | code
  /-- The output format. -/
  | format
  /-- Where to save the report. -/
  | output
  /-- The settings file. -/
  | config
  /-- The log file. -/
  | logFile
  deriving DecidableEq, Repr

/-- An option. -/
inductive Choice where
  /-- Without a value. -/
  | switch (switch : Switch)
  /-- With a value. -/
  | slot (slot : Slot)
  deriving DecidableEq, Repr

/-- The option of a long name. -/
def Choice.ofName? : String → Option Choice
  | "--code" => some (.slot .code)
  | "--format" => some (.slot .format)
  | "--output" => some (.slot .output)
  | "--config" => some (.slot .config)
  | "--log-file" => some (.slot .logFile)
  | "--explain" => some (.switch .explain)
  | "--no-explain" => some (.switch .noExplain)
  | "--suggest" => some (.switch .suggest)
  | "--bottlenecks" => some (.switch .bottlenecks)
  | "--detailed" => some (.switch .detailed)
  | "--debug" => some (.switch .debug)
  | "--verbose" => some (.switch .verbose)
  | _ => none

/-- The option of a letter. -/
def Choice.ofLetter? : Char → Option Choice
  | 'c' => some (.slot .code)
  | 'f' => some (.slot .format)
  | 'o' => some (.slot .output)
  | 's' => some (.switch .suggest)
  | 'b' => some (.switch .bottlenecks)
  | 'd' => some (.switch .detailed)
  | 'v' => some (.switch .verbose)
  | _ => none

/-- What is asked of the analysis. -/
structure Request where
  /-- What is to be changed in the settings. -/
  overrides : Overrides := {}
  /-- The path of the source. -/
  path : Option String := none
  /-- The source itself. -/
  code : Option String := none
  /-- Where to save the report. -/
  output : Option String := none
  /-- Whether to show what each verdict rests on. -/
  detailed : Bool := false
  deriving DecidableEq, Repr

namespace Request

/-- A request with one more switch. -/
def turn (request : Request) : Switch → Request
  | .explain => { request with overrides.explain := some true }
  | .noExplain => { request with overrides.explain := some false }
  | .suggest => { request with overrides.suggest := true }
  | .bottlenecks => { request with overrides.bottlenecks := true }
  | .detailed => { request with detailed := true }
  | .debug => { request with overrides.debug := true }
  | .verbose => { request with overrides.verbose := true }

/-- A request with one more value. -/
def assign (request : Request) (value : String) : Slot → Request
  | .code => { request with code := some value }
  | .format => { request with overrides.format := some value }
  | .output => { request with output := some value }
  | .config => { request with overrides.config := some value }
  | .logFile => { request with overrides.logFile := some value }

end Request

/-- What one word of options means: switches, and then perhaps an option with a
    value, which may be in the same word. -/
structure Word where
  /-- The switches. -/
  switches : List Switch := []
  /-- The option with a value. -/
  slot : Option (Slot × Option String) := none
  deriving DecidableEq, Repr

namespace Word

/-- The meaning of letters that stand together. Behind a letter that takes a value
    the rest of the word is the value. -/
def ofLetters? : List Char → Option Word
  | [] => some {}
  | c :: rest =>
    match Choice.ofLetter? c with
    | none => none
    | some (.switch switch) =>
      (ofLetters? rest).map fun word => { word with switches := switch :: word.switches }
    | some (.slot slot) =>
      some { slot := some (slot, if rest = [] then none else some (String.ofList rest)) }

/-- The meaning of a long name with what follows it behind an equals sign. -/
def ofLong? (name : String) (value : Option String) : Option Word :=
  match Choice.ofName? name, value with
  | some (.switch switch), none => some { switches := [switch] }
  | some (.switch _), some _ => none
  | some (.slot slot), value => some { slot := some (slot, value) }
  | none, _ => none

/-- What stands behind the first equals sign, if there is one. -/
def afterEquals? (letters : List Char) : Option String :=
  match letters.dropWhile (· != '=') with
  | [] => none
  | _ :: value => some (String.ofList value)

/-- The meaning of a word that begins with a dash and is longer than that. -/
def ofOption? (typed : List Char) : Option Word :=
  match typed with
  | '-' :: '-' :: _ =>
    ofLong? (String.ofList (typed.takeWhile (· != '='))) (afterEquals? typed)
  | _ => ofLetters? typed.tail

/-- Whether a word is one of options. -/
def isOption (typed : String) : Bool :=
  match typed.toList with
  | '-' :: _ :: _ => true
  | _ => false

end Word

namespace Request

/-- Reads the words behind the name of the command. Gives the request and the words
    that are no options, unless an option is unknown, lacks its value or has one too
    many. -/
def readWords (request : Request) : List String → Option (Request × List String)
  | [] => some (request, [])
  | typed :: rest =>
    if typed = "--" then some (request, rest)
    else if Word.isOption typed then
      match Word.ofOption? typed.toList with
      | none => none
      | some word =>
        let request := word.switches.foldl turn request
        match word.slot, rest with
        | none, rest => readWords request rest
        | some (slot, some value), rest => readWords (request.assign value slot) rest
        | some (_, none), [] => none
        | some (slot, none), value :: rest => readWords (request.assign value slot) rest
    else (readWords request rest).map fun (request, words) => (request, typed :: words)

/-- The request of the words behind the name of the command. There can be one path. -/
def read? (words : List String) : Option Request :=
  match readWords {} words with
  | some (request, []) => some request
  | some (request, [path]) => some { request with path := some path }
  | _ => none

end Request

/-- What is to be done. -/
inductive Job where
  /-- Analyse a source. -/
  | analyze (request : Request)
  /-- List the growth classes. -/
  | classes
  deriving DecidableEq, Repr

namespace Job

/-- The name of a command. -/
def name : Job → String
  | analyze _ => "analyze"
  | classes => "classes"

/-- The job of a command line that begins with the name of the command. -/
def ofWords? : List String → Option Job
  | "analyze" :: words => (Request.read? words).map .analyze
  | ["classes"] => some .classes
  | ["classes", "--"] => some .classes
  | _ => none

/-- The job of a command line, if it has a meaning. -/
def ofArguments? : List String → Option Job
  | "--" :: words => ofWords? words
  | words => ofWords? words

end Job

end Command

end Costwise
