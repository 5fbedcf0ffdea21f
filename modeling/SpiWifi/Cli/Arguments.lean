/-!
# Arguments

The grammar of the command line. Options may stand before, between and after the other arguments, a
double dash ends them, short ones can be clustered, and a value follows its option or is attached to
it. Arguments are taken from left to right, and the first that is out of place, or asks for help,
decides.
-/

namespace SpiWifi.Cli

/-- An option of a subcommand. -/
structure Switch where
  long : String
  short : Option Char
  takesValue : Bool
  /-- Which values it takes. -/
  accepts : String → Bool

/-- Why arguments are not taken to the end. -/
inductive Stop where
  | help
  | misuse
  deriving DecidableEq

/-- The arguments taken so far. -/
structure Given where
  /-- Options by their long name, with their values. -/
  options : List (String × String)
  /-- The other arguments. -/
  words : List String
  /-- An option whose value comes next. -/
  waiting : Option Switch
  /-- Whether options have ended. -/
  ended : Bool

namespace Given

def none : Given := ⟨[], [], Option.none, false⟩

def has (g : Given) (long : String) : Bool := g.options.any fun o => o.1 == long

def value? (g : Given) (long : String) : Option String :=
  (g.options.find? fun o => o.1 == long).map Prod.snd

/-- Takes an option, which may come once. -/
def take (g : Given) (o : Switch) (value : String) : Except Stop Given :=
  if g.has o.long || !o.accepts value then .error .misuse
  else .ok { g with options := g.options ++ [(o.long, value)], waiting := Option.none }

end Given

structure Grammar where
  switches : List Switch
  /-- The most arguments that are no options. -/
  wordLimit : Option Nat

def takeWord (grammar : Grammar) (g : Given) (word : String) : Except Stop Given :=
  if grammar.wordLimit.any (· ≤ g.words.length) then .error .misuse
  else .ok { g with words := g.words ++ [word] }

/-- The characters before the first equals sign, and those after it if there is one. -/
def splitEquals (cs : List Char) : List Char × Option (List Char) :=
  match cs.dropWhile (· != '=') with
  | [] => (cs, none)
  | _ :: value => (cs.takeWhile (· != '='), some value)

def takeLong (grammar : Grammar) (g : Given) (cs : List Char) : Except Stop Given :=
  let (name, value) := splitEquals cs
  if String.ofList name = "help" then .error (if value.isNone then .help else .misuse)
  else
    match grammar.switches.find? fun o => o.long == String.ofList name with
    | none => .error .misuse
    | some o =>
      match o.takesValue, value with
      | true, some v => g.take o (String.ofList v)
      | true, none => .ok { g with waiting := some o }
      | false, some _ => .error .misuse
      | false, none => g.take o ""

/-- Takes a cluster of short options. The first that wants a value takes what is left of the
cluster, without an equals sign in front; if nothing is left its value comes next. -/
def takeShorts (grammar : Grammar) (g : Given) : List Char → Except Stop Given
  | [] => .ok g
  | c :: rest =>
    if c = 'h' then .error .help
    else
      match grammar.switches.find? fun o => o.short == some c with
      | none => .error .misuse
      | some o =>
        if o.takesValue then
          match rest with
          | [] => .ok { g with waiting := some o }
          | '=' :: value => g.take o (String.ofList value)
          | value => g.take o (String.ofList value)
        else
          match g.take o "" with
          | .error stop => .error stop
          | .ok g => takeShorts grammar g rest

def takeArgument (grammar : Grammar) (g : Given) (argument : String) : Except Stop Given :=
  if g.ended then takeWord grammar g argument
  else
    match argument.toList with
    | ['-', '-'] => .ok { g with ended := true }
    | '-' :: '-' :: cs => if g.waiting.isSome then .error .misuse else takeLong grammar g cs
    | '-' :: c :: cs =>
      if g.waiting.isSome then .error .misuse else takeShorts grammar g (c :: cs)
    | _ =>
      match g.waiting with
      | some o => g.take o argument
      | none => takeWord grammar g argument

def takeAll (grammar : Grammar) (arguments : List String) : Except Stop Given := do
  let g ← arguments.foldlM (takeArgument grammar) .none
  if g.waiting.isSome then throw .misuse
  return g

inductive Request where
  | encode (name : String) (params : List String) (reply : Bool)
  | decode (frame : String) (reply json : Bool)
  | demo (ssid : String) (passphrase : Option String) (message : String)
  | config (json : Bool)
  | version
  | help
  | misuse
  deriving DecidableEq

namespace Request

def ofStop : Stop → Request
  | .help => help
  | .misuse => misuse

def flagSwitch (long : String) (short : Option Char) : Switch := ⟨long, short, false, fun _ => true⟩

def textSwitch (long : String) (short : Option Char) : Switch := ⟨long, short, true, fun _ => true⟩

def replySwitch : Switch := flagSwitch "reply" (some 'r')

def encodeGrammar : Grammar := ⟨[replySwitch], none⟩

def decodeGrammar : Grammar := ⟨[replySwitch, flagSwitch "json" none], some 1⟩

def demoGrammar : Grammar :=
  ⟨[textSwitch "ssid" none, textSwitch "passphrase" none, textSwitch "message" (some 'm')], some 0⟩

def formats : List String := ["yaml", "json"]

def configGrammar : Grammar := ⟨[⟨"format", some 'f', true, formats.contains⟩], some 0⟩

def ofGiven (grammar : Grammar) (arguments : List String) (make : Given → Request) : Request :=
  match takeAll grammar arguments with
  | .error stop => ofStop stop
  | .ok g => make g

def ofEncode (g : Given) : Request :=
  match g.words with
  | name :: params => encode name params (g.has "reply")
  | [] => misuse

def ofDecode (g : Given) : Request :=
  match g.words with
  | [frame] => decode frame (g.has "reply") (g.has "json")
  | _ => misuse

def ofDemo (g : Given) : Request :=
  demo ((g.value? "ssid").getD "demo-net") (g.value? "passphrase")
    ((g.value? "message").getD "hello over spi")

def ofConfig (g : Given) : Request := config (g.value? "format" == some "json")

def topics : List String := ["encode", "decode", "demo", "config", "help"]

def ofHelp (arguments : List String) : Request :=
  match arguments with
  | [] => help
  | [topic] => if topics.contains topic then help else misuse
  | _ => misuse

def ofOption (argument : String) : Request :=
  match argument.toList with
  | '-' :: 'h' :: _ => help
  | '-' :: 'V' :: _ => version
  | _ =>
    if argument = "--help" then help
    else if argument = "--version" then version
    else misuse

def ofArguments : List String → Request
  | "encode" :: rest => ofGiven encodeGrammar rest ofEncode
  | "decode" :: rest => ofGiven decodeGrammar rest ofDecode
  | "demo" :: rest => ofGiven demoGrammar rest ofDemo
  | "config" :: rest => ofGiven configGrammar rest ofConfig
  | "help" :: rest => ofHelp rest
  | argument :: _ => ofOption argument
  | [] => misuse

end Request

end SpiWifi.Cli
