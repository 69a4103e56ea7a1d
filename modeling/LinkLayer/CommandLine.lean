/-
  LinkLayer.CommandLine
  ─────────────────────
  **THE COMMAND LINE.**

      [-v] [-c FILE] run [-l URI]… [-p URI]… [-i NAME]
      [-v] [-c FILE] genkey
      help [COMMAND]

  Options are short or long.  A value stands behind its option or is attached
  to it: `-c FILE`, `-cFILE`, `-c=FILE`, `--config FILE`, `--config=FILE`.
  Short options without a value may be joined.  An option belongs to the
  command before which, or behind which, it is listed above, and only there
  it is known.  Listeners and peers may be given several times, everything
  else once.

  An option that takes a value is complete when the next one begins or the
  words end, and only then it is checked; so of two faults the one further
  to the right can be the one that is reported.
-/

namespace LinkLayer

/-! ## §1. Requests and refusals. -/

/-- What is to be done. -/
inductive Command where
  | genkey
  | run (listen peers : List String) (sourceInterface : Option String)
  deriving Repr, DecidableEq

/-- A command with the options that stand before it. -/
structure CommandLine where
  verbose : Bool
  config : Option String
  command : Command
  deriving Repr, DecidableEq

namespace CommandLine

/-- Why the words of a command line are not carried out. -/
inductive Refusal where
  /-- Help was asked for. -/
  | help
  /-- The version was asked for. -/
  | version
  /-- There are no words at all, which is answered by the help. -/
  | nothingGiven
  | missingCommand
  | unknownCommand
  | unknownArgument
  | missingValue
  | unwantedValue
  | givenTwice
  deriving Repr, DecidableEq

/-- The exit code of the program for a refusal. -/
def Refusal.exitCode : Refusal → Nat
  | .help | .version => 0
  | _ => 2

/-- What the program prints for a refusal, its help apart. -/
def Refusal.lines : Refusal → List String
  | .version => ["meshlink-cli 0.1.0"]
  | _ => []

/-! ## §2. Options. -/

/-- An option. -/
inductive Switch where
  | verbose
  | config
  | help
  | version
  | listen
  | peer
  | sourceInterface
  deriving Repr, DecidableEq

/-- Whether an option takes a value. -/
def Switch.takesValue : Switch → Bool
  | .config | .listen | .peer | .sourceInterface => true
  | _ => false

/-- Where options stand: before the command, behind `run`, or behind
`genkey`. -/
inductive Place where
  | top
  | run
  | genkey
  deriving Repr, DecidableEq

/-- The options of a place, with their letters and names. -/
def Place.switches : Place → List (Char × String × Switch)
  | .top => [('v', "verbose", .verbose), ('c', "config", .config), ('h', "help", .help),
      ('V', "version", .version)]
  | .run => [('l', "listen", .listen), ('p', "peer", .peer),
      ('i', "interface", .sourceInterface), ('h', "help", .help)]
  | .genkey => [('h', "help", .help)]

/-- The option with a letter. -/
def Place.short? (p : Place) (c : Char) : Option Switch :=
  (p.switches.find? (·.1 = c)).map (·.2.2)

/-- The option with a name. -/
def Place.long? (p : Place) (name : String) : Option Switch :=
  (p.switches.find? (·.2.1 = name)).map (·.2.2)

/-- The commands that can stand at a place. -/
def Place.commands : Place → List String
  | .top => ["run", "genkey", "help"]
  | _ => []

/-! ## §3. What was chosen. -/

/-- The options that are complete. -/
structure Chosen where
  verbose : Bool := false
  config : Option String := none
  listen : List String := []
  peers : List String := []
  sourceInterface : Option String := none
  deriving Repr, DecidableEq

/-- What was read: the complete options, and the one that is not. -/
structure Progress where
  chosen : Chosen := {}
  pending : Option (Switch × Option String) := none
  deriving Repr, DecidableEq

namespace Progress

/-- Whether the next word is a value. -/
def awaitsValue (p : Progress) : Bool :=
  match p.pending with
  | some (_, none) => true
  | _ => false

/-- Choose an option with its value. -/
def choose (c : Chosen) : Switch → Option String → Except Refusal Chosen
  | .help, _ => .error .help
  | .version, _ => .error .version
  | .verbose, _ => if c.verbose then .error .givenTwice else .ok { c with verbose := true }
  | _, none => .error .missingValue
  | .config, some value =>
      if c.config.isSome then .error .givenTwice else .ok { c with config := some value }
  | .sourceInterface, some value =>
      if c.sourceInterface.isSome then .error .givenTwice
      else .ok { c with sourceInterface := some value }
  | .listen, some value => .ok { c with listen := c.listen ++ [value] }
  | .peer, some value => .ok { c with peers := c.peers ++ [value] }

/-- Complete the option that is not. -/
def complete (p : Progress) : Except Refusal Chosen :=
  match p.pending with
  | none => .ok p.chosen
  | some (switch, value) => choose p.chosen switch value

/-- Choose an option that is complete. -/
def add (p : Progress) (switch : Switch) (value : Option String) : Except Refusal Progress :=
  match p.complete with
  | .error e => .error e
  | .ok chosen =>
      match choose chosen switch value with
      | .error e => .error e
      | .ok chosen => .ok { chosen }

/-- Begin an option whose value is to come. -/
def «open» (p : Progress) (switch : Switch) : Except Refusal Progress :=
  match p.complete with
  | .error e => .error e
  | .ok chosen => .ok { chosen, pending := some (switch, none) }

/-- Take a word as the value that is to come. -/
def takeValue (p : Progress) (value : String) : Progress :=
  { p with pending := p.pending.map fun q => (q.1, some value) }

end Progress

/-! ## §4. Words. -/

/-- What a word looks like. -/
inductive Word where
  | separator
  | long (name : List Char) (value : Option (List Char))
  | short (letters : List Char)
  | plain
  deriving Repr, DecidableEq

/-- Name and attached value of a long option. -/
def splitValue (cs : List Char) : List Char × Option (List Char) :=
  match cs.dropWhile (· ≠ '=') with
  | _ :: value => (cs.takeWhile (· ≠ '='), some value)
  | [] => (cs, none)

/-- What some characters look like. -/
def Word.of : List Char → Word
  | ['-', '-'] => .separator
  | '-' :: '-' :: rest => .long (splitValue rest).1 (splitValue rest).2
  | '-' :: c :: rest => .short (c :: rest)
  | _ => .plain

/-- A long option. -/
def readLong (place : Place) (p : Progress) (name : List Char) (value : Option (List Char)) :
    Except Refusal Progress :=
  match place.long? (String.ofList name) with
  | none => .error .unknownArgument
  | some switch =>
      match switch.takesValue, value with
      | true, some value => p.add switch (some (String.ofList value))
      | true, none => p.open switch
      | false, some _ => .error .unwantedValue
      | false, none => p.add switch none

/-- The value that is attached to a letter. -/
def attached : List Char → Option (List Char)
  | [] => none
  | '=' :: value => some value
  | value => some value

/-- Joined short options. -/
def readShort (place : Place) : Progress → List Char → Except Refusal Progress
  | p, [] => .ok p
  | p, c :: rest =>
      match place.short? c with
      | none => .error .unknownArgument
      | some switch =>
          if switch.takesValue then
            match attached rest with
            | some value => p.add switch (some (String.ofList value))
            | none => p.open switch
          else
            match p.add switch none with
            | .error e => .error e
            | .ok p => readShort place p rest

/-- The refusal of a word that is no option and no command. -/
def refuse (place : Place) (isBehindSeparator : Bool) (word : String) : Refusal :=
  if place.commands = [] then .unknownArgument
  else if isBehindSeparator && word ∈ place.commands then .unknownArgument
  else .unknownCommand

/-! ## §5. Reading. -/

/-- Read the options of a place, up to a command or to the end. -/
def readOptions (place : Place) :
    Progress → List String → Except Refusal (Progress × Option (String × List String))
  | p, [] => .ok (p, none)
  | p, word :: rest =>
      if !p.awaitsValue && word ∈ place.commands then .ok (p, some (word, rest))
      else
        match Word.of word.toList with
        | .separator =>
            match rest with
            | [] => .ok (p, none)
            | next :: _ => .error (refuse place true next)
        | .long name value =>
            match readLong place p name value with
            | .error e => .error e
            | .ok p => readOptions place p rest
        | .short letters =>
            match readShort place p letters with
            | .error e => .error e
            | .ok p => readOptions place p rest
        | .plain =>
            if p.awaitsValue then readOptions place (p.takeValue word) rest
            else .error (refuse place false word)

/-- The options behind a command, to the end. -/
def readAll (place : Place) (words : List String) : Except Refusal Chosen :=
  match readOptions place {} words with
  | .error e => .error e
  | .ok (p, _) => p.complete

/-- The refusal that a request for help comes to: the help, unless it is about
something that is no command. -/
def helpAbout : List String → Refusal
  | [] => .help
  | [topic] => if topic ∈ Place.top.commands then .help else .unknownCommand
  | _ => .unknownCommand

/-- A command and the options behind it. -/
def readCommand (name : String) (words : List String) : Except Refusal Command :=
  if name = "run" then
    match readAll .run words with
    | .error e => .error e
    | .ok c => .ok (.run c.listen c.peers c.sourceInterface)
  else if name = "genkey" then
    match readAll .genkey words with
    | .error e => .error e
    | .ok _ => .ok .genkey
  else .error (helpAbout words)

/-- The words of a command line.  The options before a command are completed
after those behind it. -/
def parse (words : List String) : Except Refusal CommandLine :=
  match readOptions .top {} words with
  | .error e => .error e
  | .ok (p, none) =>
      match p.complete with
      | .error e => .error e
      | .ok chosen => .error (if chosen = {} then .nothingGiven else .missingCommand)
  | .ok (p, some (name, rest)) =>
      match readCommand name rest with
      | .error e => .error e
      | .ok command =>
          match p.complete with
          | .error e => .error e
          | .ok chosen => .ok ⟨chosen.verbose, chosen.config, command⟩

end CommandLine

end LinkLayer
