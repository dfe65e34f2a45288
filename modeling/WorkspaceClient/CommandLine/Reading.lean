import WorkspaceClient.CommandLine.Level

/-
  This file defines the reading of the words of a command
  line, level by level.

  A level reads words until one of them names a level below
  it. A parameter that takes a value may be named before its
  value comes; it is settled when the next parameter is
  read, or at the end.

  Key definitions include:
    * `Word`
    * `Reading`
    * `Reading.settle`
    * `Reading.take`
    * `Reading.finish`
    * `readWords`
-/

namespace WorkspaceClient
namespace CommandLine

------------------------------------------------------------
-- Words
------------------------------------------------------------

/-
  A word is a long name with an optional value, a group of
  letters, or neither.
-/
inductive Word where
  | long (name : String) (value : Option String)
  | letters (letters : List Char)
  | plain
  deriving DecidableEq, Repr

/- A name, and the value after an equals sign. -/
def Word.ofLong
    (body : List Char) : Word :=
  let (name, value) := Text.splitAtFirst (· == '=') body
  .long (String.ofList name) (value.map String.ofList)

/- What a text is as a word. -/
def Word.ofText
    (s : String) : Word :=
  match s.toList with
  | '-' :: '-' :: c :: body => .ofLong (c :: body)
  | ['-', '-'] => .plain
  | '-' :: c :: body => .letters (c :: body)
  | _ => .plain

/- The word after which all words are plain. -/
def separator : String :=
  "--"

------------------------------------------------------------
-- Readings
------------------------------------------------------------

/-
  The parameters that the words of a level have given, and
  the one that is not settled, with its value if it has come.
-/
structure Reading where
  level : Level
  given : List (Parameter × Option String)
  pending : Option (Parameter × Option String)
  deriving DecidableEq, Repr

namespace Reading

/- A level of which no word has been read. -/
def start
    (level : Level) : Reading :=
  { level, given := [], pending := none }

/- Whether a parameter has been given. -/
def has
    (r : Reading)
    (p : Parameter) : Bool :=
  r.given.any fun g => g.1 == p

/- Whether a parameter waits for its value. -/
def isAwaiting
    (r : Reading) : Bool :=
  match r.pending with
  | some (_, none) => true
  | _ => false

/- Add a parameter with its value. -/
def add
    (r : Reading)
    (p : Parameter)
    (value : Option String) : Except Misuse Reading := do
  match p with
  | .help => throw .help
  | .version => throw .version
  | _ =>
      if r.has p && !p.mayRepeat then
        throw .givenTwice
      else
        match value with
        | some v => p.check v
        | none => pure ()
        return { r with given := r.given ++ [(p, value)] }

/- Settle the parameter that is not settled. -/
def settle
    (r : Reading) : Except Misuse Reading :=
  match r.pending with
  | none => .ok r
  | some (_, none) => .error .invalidValue
  | some (p, some value) =>
      { r with pending := none }.add p (some value)

/- Settle, and then add a parameter. -/
def put
    (r : Reading)
    (p : Parameter)
    (value : Option String) : Except Misuse Reading := do
  (← r.settle).add p value

/- Settle, and then leave a parameter unsettled. -/
def leave
    (r : Reading)
    (p : Parameter)
    (value : Option String) : Except Misuse Reading := do
  return { (← r.settle) with pending := some (p, value) }

------------------------------------------------------------
-- Taking words
------------------------------------------------------------

/- Take a long name. -/
def takeLong
    (r : Reading)
    (name : String)
    (value : Option String) : Except Misuse Reading :=
  match r.level.long? name, value with
  | none, _ => .error .unknownArgument
  | some p, some v =>
      if p.takesValue then
        r.put p (some v)
      else
        .error .unexpectedValue
  | some p, none =>
      if p.takesValue then
        r.leave p none
      else
        r.put p none

/- The value that follows a letter in the same word. -/
def attached : List Char → List Char
  | '=' :: value => value
  | value => value

/- Take a group of letters. -/
def takeLetters
    (r : Reading) : List Char → Except Misuse Reading
  | [] => .ok r
  | letter :: rest =>
      match r.level.short? letter with
      | none => .error .unknownArgument
      | some p =>
          if !p.takesValue then do
            takeLetters (← r.put p none) rest
          else if rest.isEmpty then
            r.leave p none
          else
            r.put p (some (String.ofList (attached rest)))

/- Whether a name is one of a command below a level. -/
def names
    (l : Level)
    (word : String) : Bool :=
  (l.child? word).isSome || (l.isGroup && word == helpName)

/- Take a word by its position. -/
def takePlain
    (r : Reading)
    (separated : Bool)
    (word : String) : Except Misuse Reading :=
  let taken :=
    r.has .user || r.pending.any fun g => g.1 == .user
  if r.level.parameters.contains .user && !taken then
    r.leave .user (some word)
  else if r.level.isGroup
      && !(separated && names r.level word) then
    .error .unknownCommand
  else
    .error .unknownArgument

/- Take a word that names no level. -/
def take
    (r : Reading)
    (word : String) : Except Misuse Reading :=
  match Word.ofText word, r.pending with
  | .long name value, _ => r.takeLong name value
  | .letters letters, _ => r.takeLetters letters
  | .plain, some (p, none) =>
      .ok { r with pending := some (p, some word) }
  | .plain, _ => r.takePlain false word

------------------------------------------------------------
-- Ends of levels
------------------------------------------------------------

/- The value that the environment gives a parameter. -/
def fromEnvironment
    (environment : String → Option String)
    (p : Parameter) : Option String :=
  p.variableName?.bind environment

/- Check the values that the environment gives a level. -/
def checkEnvironment
    (r : Reading)
    (environment : String → Option String) :
    Except Misuse Unit :=
  r.level.parameters.forM fun p =>
    match r.has p, fromEnvironment environment p with
    | false, some value => p.check value
    | _, _ => .ok ()

/- Whether anything is given to a level. -/
def isGiven
    (r : Reading)
    (environment : String → Option String) : Bool :=
  !r.given.isEmpty || r.level.parameters.any fun p =>
    (fromEnvironment environment p).isSome

/- End a level, of which a command below may be chosen. -/
def finish
    (r : Reading)
    (environment : String → Option String)
    (hasCommand : Bool) : Except Misuse Reading := do
  let r ← r.settle
  r.checkEnvironment environment
  if r.level.isGroup && !hasCommand then
    if r.isGiven environment then
      throw .missingCommand
    else
      throw .helpForMissingCommand
  else if r.level.parameters.contains .user
      && !r.has .user then
    throw .missingArgument
  else
    return r

end Reading

------------------------------------------------------------
-- Command lines
------------------------------------------------------------

/- Asking for the explanation of the command at a path. -/
def askHelp
    (l : Level) : List String → Misuse
  | [] => .help
  | name :: rest =>
      match l.child? name with
      | some c => askHelp c rest
      | none =>
          if l.isGroup && name == helpName && rest.isEmpty then
            .help
          else
            .unknownCommand

/-
  Read words from a level on: that level and the levels
  below it that the words choose. The lower level is ended
  first.
-/
def readFrom
    (environment : String → Option String)
    (r : Reading)
    (separated : Bool) :
    List String → Except Misuse (List Reading)
  | [] => do
      return [← r.finish environment false]
  | word :: rest =>
      if separated then do
        readFrom environment (← r.takePlain true word) true
          rest
      else if !r.isAwaiting && Reading.names r.level word then
        match r.level.child? word with
        | none => .error (askHelp r.level rest)
        | some c => do
            let below ← readFrom environment (.start c) false
              rest
            return (← r.finish environment true) :: below
      else if word = separator then
        readFrom environment r true rest
      else do
        readFrom environment (← r.take word) false rest

/- Read all words of a command line. -/
def readWords
    (environment : String → Option String)
    (words : List String) :
    Except Misuse (List Reading) :=
  readFrom environment (.start .root) false words

end CommandLine
end WorkspaceClient
