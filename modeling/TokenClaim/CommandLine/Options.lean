/-!
Options and operands on a command line. An option is `--name value` or `--name=value`; after a lone
`--` everything is an operand.
-/

set_option autoImplicit false

namespace TokenClaim.CommandLine

inductive Token where
  | option (name : String) (value : Option String)
  | operand (word : String)
  /-- A word after the lone `--`: an operand that no option takes as its value. -/
  | trailing (word : String)
  deriving DecidableEq

/-- The token that a word is before the lone `--`. Options have no short names. -/
def Token.ofWord? (word : String) : Option Token :=
  match word.toList with
  | '-' :: '-' :: characters =>
    let name := String.ofList (characters.takeWhile (· != '='))
    match characters.dropWhile (· != '=') with
    | [] => some (option name none)
    | _ :: value => some (option name (some (String.ofList value)))
  | ['-'] => some (operand word)
  | '-' :: _ => none
  | _ => some (operand word)

def Token.ofWords? : List String → Option (List Token)
  | [] => some []
  | "--" :: rest => some (rest.map trailing)
  | word :: rest => do return (← ofWord? word) :: (← ofWords? rest)

inductive OptionKind where
  | valued
  /-- On if no value follows it. -/
  | switch
  deriving DecidableEq

structure Arguments where
  options : List (String × String)
  operands : List String
  deriving DecidableEq

namespace Arguments

def withOption (name value : String) (arguments : Arguments) : Arguments :=
  { arguments with options := (name, value) :: arguments.options }

def withOperand (word : String) (arguments : Arguments) : Arguments :=
  { arguments with operands := word :: arguments.operands }

/-- Give each option its value. An operand behind an option is the option's value. -/
def ofTokens? (kindOf : String → Option OptionKind) : List Token → Option Arguments
  | [] => some ⟨[], []⟩
  | .operand word :: rest => (ofTokens? kindOf rest).map (withOperand word)
  | .trailing word :: rest => (ofTokens? kindOf rest).map (withOperand word)
  | .option name (some value) :: rest =>
    if (kindOf name).isSome then (ofTokens? kindOf rest).map (withOption name value) else none
  | .option name none :: .operand value :: rest =>
    if (kindOf name).isSome then (ofTokens? kindOf rest).map (withOption name value) else none
  -- Nothing that could be a value follows.
  | .option name none :: rest =>
    if kindOf name = some .switch then (ofTokens? kindOf rest).map (withOption name "true")
    else none

def Distinct (arguments : Arguments) : Prop := (arguments.options.map Prod.fst).Nodup

instance (arguments : Arguments) : Decidable arguments.Distinct :=
  inferInstanceAs (Decidable (List.Nodup _))

def value? (arguments : Arguments) (name : String) : Option String :=
  (arguments.options.find? (·.1 = name)).map Prod.snd

def optional {α : Type} (read : String → Option α) (name : String) (arguments : Arguments) :
    Option (Option α) :=
  match arguments.value? name with
  | some value => (read value).map some
  | none => some none

def required {α : Type} (read : String → Option α) (name : String) (arguments : Arguments) :
    Option α :=
  (arguments.value? name).bind read

def orFrom (name : String) (value : Option String) (arguments : Arguments) : Arguments :=
  match arguments.value? name, value with
  | none, some value => arguments.withOption name value
  | _, _ => arguments

end Arguments

def splitCommand (isOption : String → Bool) :
    List Token → Option (List (String × String) × String × List Token)
  | .operand word :: rest => some ([], word, rest)
  | .option name (some value) :: rest | .option name none :: .operand value :: rest =>
    if isOption name then
      (splitCommand isOption rest).map fun (options, split) => ((name, value) :: options, split)
    else none
  | _ => none

end TokenClaim.CommandLine
