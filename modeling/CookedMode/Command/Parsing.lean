import CookedMode.Command.Mistake

/-!
# Reading a command line

The words of a verb are classed first and then taken from left to right.  A verb below
gets all the words after its name.  Words that mean nothing are gathered, and refused
when all else is done.
-/

namespace CookedMode.Command

/-- A value attached to an option, after an equals sign or directly. -/
structure Attached where
  afterSign : Bool
  value : List Char
  deriving DecidableEq, Repr

/-- A word and its class. -/
inductive Word where
  /-- The first word that says that no options follow. -/
  | separator
  | plain (text : String)
  /-- An option under one of its names. -/
  | option (text : String) (option : Opt) (name : String) (attached : Option Attached)
  /-- An option that the verb does not have. -/
  | unknown (text : String)

/-- The word that says that no options follow. -/
def separatorText : String := "--"

/-- The text of a word. -/
def Word.text : Word → String
  | separator => separatorText
  | plain text | option text _ _ _ | unknown text => text

/-- The option of a name. -/
def optionOf? (options : List Opt) (name : String) : Option Opt :=
  options.find? (·.names.contains name)

/-- Every name of an option with some front part. -/
def namesFrom (options : List Opt) (front : String) : List (String × Opt) :=
  options.flatMap fun option =>
    (option.names.filter (front.toList.isPrefixOf ·.toList)).map (·, option)

/-- A text cut at its first equals sign, if it has one. -/
def cutAtSign (text : List Char) : List Char × Option Attached :=
  (text.takeWhile (· != '='),
    match text.dropWhile (· != '=') with
    | [] => none
    | _ :: value => some ⟨true, value⟩)

/-- Whether a text looks like a negative number.  A line feed may end it. -/
def looksNegative (text : List Char) : Bool :=
  let isDigit (char : Char) : Bool := (Text.digit? char).isSome
  let text := if text.getLast? == some '\n' then text.dropLast else text
  match text with
  | '-' :: number =>
    match number.dropWhile isDigit with
    | [] => !number.isEmpty
    | '.' :: fraction => !fraction.isEmpty && fraction.all isDigit
    | _ => false
  | _ => false

/-- Class a word that is no name of an option. -/
def classShortened (options : List Opt) (word : String) : Except Mistake Word :=
  let (front, attached) := cutAtSign word.toList
  let candidates : List (String × Opt) × Option Attached :=
    match word.toList with
    | '-' :: '-' :: _ => (namesFrom options (String.ofList front), attached)
    | first :: second :: value =>
      let name := String.ofList [first, second]
      (((optionOf? options name).map (name, ·)).toList, some ⟨false, value⟩)
    | _ => ([], none)
  match candidates with
  | ([(name, option)], attached) => .ok (.option word option name attached)
  | ([], _) =>
    if looksNegative word.toList || word.toList.contains ' ' then .ok (.plain word)
    else .ok (.unknown word)
  | (several, _) => .error (.ambiguous word (several.map (·.1)))

/-- Class a word that is not the separator. -/
def classWord (options : List Opt) (word : String) : Except Mistake Word :=
  if word.toList.head? != some '-' then .ok (.plain word)
  else
    match optionOf? options word with
    | some option => .ok (.option word option word none)
    | none =>
      if word == "-" then .ok (.plain word)
      else
        let (front, attached) := cutAtSign word.toList
        match attached, optionOf? options (String.ofList front) with
        | some _, some option => .ok (.option word option (String.ofList front) attached)
        | _, _ => classShortened options word

/-- Class the words of a verb.  After the first separator all are plain. -/
def classWords (options : List Opt) : List String → Except Mistake (List Word)
  | [] => .ok []
  | word :: rest =>
    if word == separatorText then .ok (.separator :: rest.map .plain)
    else
      match classWord options word, classWords options rest with
      | .error mistake, _ => .error mistake
      | .ok _, .error mistake => .error mistake
      | .ok word, .ok rest => .ok (word :: rest)

/-- An option to be performed, and its value, if it has one. -/
structure Use where
  option : Opt
  value : Option String := none

/-- The options that a word stands for, and what is left of the word.  Short options
without values may share a word, and the last of them may take a value. -/
def usesOf (options : List Opt) (name : List Char) (option : Opt) :
    Bool → List Char → Except Mistake (List Use × List String)
  | afterSign, value =>
    if option.takesValue then .ok ([{ option, value := some (String.ofList value) }], [])
    else
      match value with
      | [] => .error (.needlessValue option.names "")
      | char :: rest =>
        if name.length ≠ 2 || afterSign || char == '-' then
          .error (.needlessValue option.names (String.ofList value))
        else
          match optionOf? options (String.ofList ['-', char]) with
          | none => .ok ([{ option }], [String.ofList ('-' :: value)])
          | some next =>
            let more : Except Mistake (List Use × List String) :=
              match rest with
              | [] => .ok ([{ option := next }], [])
              | '=' :: rest => usesOf options ['-', char] next true rest
              | rest => usesOf options ['-', char] next false rest
            more.map fun (uses, left) => ({ option } :: uses, left)
termination_by _ value => value.length
decreasing_by all_goals simp_all +arith

/-- Why reading stops before the end. -/
inductive Stop where
  | help (verb : Verb) (path : List String)
  | version
  | refused (mistake : Mistake) (verb : Verb) (path : List String)

/-- What the words so far say. -/
structure Gathered where
  settings : Settings := {}
  /-- The words that mean nothing. -/
  meaningless : List String := []

/-- A word means nothing. -/
def Gathered.leave (gathered : Gathered) (words : List String) : Gathered :=
  { gathered with meaningless := gathered.meaningless ++ words }

/-- A word is the operand. -/
def Gathered.take (gathered : Gathered) (operand : Operand) (text : String) : Gathered :=
  { gathered with settings := operand.setting text gathered.settings }

/-- What stops an option from being performed. -/
inductive Halt where
  | help
  | version
  | mistake (cause : Mistake)

/-- Perform an option. -/
def Use.perform (settings : Settings) (use : Use) : Except Halt Settings :=
  match use.option.effect with
  | .help => .error .help
  | .version => .error .version
  | .set setting => .ok (setting settings)
  | .take _ kind setting =>
    match use.value with
    | none => .error (.mistake (.noValue use.option.names))
    | some value =>
      match setting value with
      | some setting => .ok (setting settings)
      | none => .error (.mistake (.badValue use.option.names kind value))

/-- Perform options in order. -/
def performAll (gathered : Gathered) (uses : List Use) : Except Halt Gathered :=
  (uses.foldlM Use.perform gathered.settings).map fun settings => { gathered with settings }

/-- What a plain word would be. -/
inductive Wanted where
  | nothing
  | operand (operand : Operand)
  /-- The name of a member. -/
  | member

/-- Where the words of a verb lead to. -/
inductive Reached where
  /-- To their end, while something may still be wanted. -/
  | finish (gathered : Gathered) (wanted : Wanted)
  /-- To the name of a member, which gets the other words. -/
  | member (gathered : Gathered) (name : String) (words : List String)

/-- The options of a word, what is left of it, and whether the last of the options takes
the next word as its value. -/
def usesOfWord (options : List Opt) (option : Opt) (name : String)
    (attached : Option Attached) : Except Mistake (List Use × List String × Bool) :=
  let uses : Except Mistake (List Use × List String) :=
    match attached with
    | none => .ok ([{ option }], [])
    | some attached => usesOf options name.toList option attached.afterSign attached.value
  uses.map fun (uses, left) =>
    (uses, left, uses.getLast?.any fun use => use.option.takesValue && use.value.isNone)

/-- Give a value to the last one of some options. -/
def giveValue (value : String) : List Use → List Use
  | [] => []
  | [use] => [{ use with value := some value }]
  | use :: rest => use :: giveValue value rest

/-- Take words from left to right.  `behind` tells that the operand comes right before
them: a separator there means nothing, as one in front of the operand does. -/
def takeWords (options : List Opt) (wanted : Wanted) (gathered : Gathered) (behind : Bool) :
    List Word → Except Halt Reached
  | [] => .ok (.finish gathered wanted)
  | .unknown text :: rest => takeWords options wanted (gathered.leave [text]) false rest
  | .separator :: rest =>
    match wanted with
    | .nothing =>
      takeWords options .nothing (if behind then gathered else gathered.leave [separatorText])
        false rest
    | .operand operand => takeWords options (.operand operand) gathered false rest
    | .member =>
      if rest.isEmpty then .ok (.finish gathered .member)
      else .ok (.member gathered separatorText (rest.map Word.text))
  | .plain text :: rest =>
    match wanted with
    | .nothing => takeWords options .nothing (gathered.leave [text]) false rest
    | .operand operand => takeWords options .nothing (gathered.take operand text) true rest
    | .member => .ok (.member gathered text (rest.map Word.text))
  | .option _ option name attached :: rest =>
    match usesOfWord options option name attached with
    | .error mistake => .error (.mistake mistake)
    | .ok (uses, left, false) =>
      match performAll (gathered.leave left) uses with
      | .error halt => .error halt
      | .ok gathered => takeWords options wanted gathered false rest
    | .ok (uses, left, true) =>
      match rest with
      | .plain text :: rest =>
        match performAll (gathered.leave left) (giveValue text uses) with
        | .error halt => .error halt
        | .ok gathered => takeWords options wanted gathered false rest
      | _ => .error (.mistake (.noValue ((uses.getLast?.getD { option }).option.names)))

/-- What the words of a verb come to. -/
structure Read where
  settings : Settings
  command : Command
  meaningless : List String

/-- What stops the reading of a verb. -/
def Halt.at (verb : Verb) (path : List String) : Halt → Stop
  | help => .help verb path
  | version => .version
  | mistake cause => .refused cause verb path

/-- Class the words of a verb and take them. -/
def Verb.takeWords (verb : Verb) (path : List String) (settings : Settings) (wanted : Wanted)
    (words : List String) : Except Stop Reached :=
  match classWords verb.options words with
  | .error mistake => .error (.refused mistake verb path)
  | .ok words =>
    (Command.takeWords verb.options wanted { settings } false words).mapError (·.at verb path)

mutual

/-- Read the words of the verb that some names lead to. -/
def readVerb (path : List String) (settings : Settings) (words : List String) :
    Verb → Except Stop Read
  | .simple name summary options operand command =>
    let verb := Verb.simple name summary options operand command
    let wanted := (operand.map Wanted.operand).getD .nothing
    match verb.takeWords path settings wanted words with
    | .error stop => .error stop
    | .ok (.finish _ (.operand operand)) =>
      .error (.refused (.missing operand.name) verb path)
    | .ok (.finish gathered _) =>
      .ok ⟨gathered.settings, command gathered.settings, gathered.meaningless⟩
    | .ok (.member gathered _ words) =>
      .ok ⟨gathered.settings, command gathered.settings, gathered.meaningless ++ words⟩
  | .group name summary options choice members =>
    let verb := Verb.group name summary options choice members
    match verb.takeWords path settings .member words with
    | .error stop => .error stop
    | .ok (.finish _ _) => .error (.refused (.missing choice) verb path)
    | .ok (.member gathered member words) =>
      match readMember path gathered.settings member words members with
      | none =>
        .error (.refused (.unknownVerb choice member (members.map Verb.name)) verb path)
      | some (.error stop) => .error stop
      | some (.ok read) =>
        .ok { read with meaningless := gathered.meaningless ++ read.meaningless }

/-- Read the words of a member, if there is one of that name. -/
def readMember (path : List String) (settings : Settings) (name : String)
    (words : List String) : List Verb → Option (Except Stop Read)
  | [] => none
  | verb :: rest =>
    if verb.name == name then some (readVerb (path ++ [name]) settings words verb)
    else readMember path settings name words rest

end

/-! ## The whole command line -/

/-- What a command line says. -/
structure Arguments where
  config : String
  verbose : Bool
  command : Command
  deriving DecidableEq, Repr

/-- The names that lead to the whole program. -/
def programPath : List String := [programName]

/-- Read a command line.  The configuration has a path also when none is given. -/
def Arguments.ofWords (standardConfig : String) (words : List String) :
    Except Stop Arguments :=
  match readVerb programPath {} words program with
  | .error stop => .error stop
  | .ok ⟨settings, command, []⟩ =>
    .ok
      { config := settings.config.getD standardConfig
        verbose := settings.verbose
        command }
  | .ok ⟨_, _, words⟩ => .error (.refused (.meaningless words) program programPath)

end CookedMode.Command
