import Plotline.Compile.Config

/-!
# Options

The words of a command. Flags stand alone, as a long name or as letters behind one dash, and may
each be given once. Settings have a value, behind an equals sign or in the next word. Behind `--`
no word is an option.
-/

namespace Plotline

inductive Flag
  | tier (t : Tier)
  | live
  | verbose
  | full
  | json
  | version
  | help
deriving DecidableEq, Repr

namespace Flag

def long : List (String × Flag) :=
  [("basic", .tier .basic), ("large", .tier .large), ("massive", .tier .massive), ("recode", .live),
    ("verbose", .verbose), ("debug", .full), ("json", .json), ("version", .version),
    ("help", .help)]

def short : List (Char × Flag) :=
  [('B', .tier .basic), ('L', .tier .large), ('M', .tier .massive), ('r', .live), ('v', .verbose),
    ('d', .full), ('V', .version), ('h', .help)]

end Flag

inductive Setting
  | source
  | address
  | config
deriving DecidableEq, Repr

namespace Setting

def long : List (String × Setting) :=
  [("source", .source), ("address", .address), ("config", .config)]

/-- Whether the value is a path, which is never empty. -/
def isPath (s : Setting) : Bool := s ≠ .address

end Setting

/-- Why the words are no command to compile. -/
inductive Stop
  | rejected
  | version
  | help
deriving DecidableEq, Repr

/-- What the words read so far have given. -/
structure Seen where
  flags : List Flag := []
  settings : List (Setting × String) := []
  document : Option String := none
deriving DecidableEq, Repr

namespace Seen

def flag (s : Seen) (f : Flag) : Except Stop Seen :=
  match f with
  | .version => .error .version
  | .help => .error .help
  | f => if f ∈ s.flags then .error .rejected else .ok { s with flags := f :: s.flags }

def setting (s : Seen) (name : Setting) (value : String) : Except Stop Seen :=
  if (s.settings.lookup name).isSome ∨ (name.isPath ∧ value = "") then .error .rejected
  else .ok { s with settings := (name, value) :: s.settings }

/-- A word that is no option names the document of the script. -/
def word (s : Seen) (value : String) : Except Stop Seen :=
  if s.document.isSome ∨ value = "" then .error .rejected
  else .ok { s with document := some value }

/-- Letters behind one dash. -/
def letters (s : Seen) : List Char → Except Stop Seen
  | [] => .ok s
  | c :: cs =>
    match Flag.short.lookup c with
    | some f => do (← s.flag f).letters cs
    | none => .error .rejected

def words (s : Seen) : List String → Except Stop Seen
  | [] => .ok s
  | v :: vs => do (← s.word v).words vs

end Seen

/-- Whether a word is read as an option. -/
def looksLikeOption (word : String) : Bool :=
  match word.toList with
  | '-' :: _ :: _ => true
  | _ => false

/-- The words in their order. -/
def readWords (s : Seen) : List String → Except Stop Seen
  | [] => .ok s
  | w :: ws =>
    match w.toList with
    | ['-', '-'] => s.words ws
    | '-' :: '-' :: cs => do
      let name := String.ofList (cs.takeWhile (· ≠ '='))
      let value := (cs.dropWhile (· ≠ '=')).tail?.map String.ofList
      match Flag.long.lookup name, Setting.long.lookup name, value with
      | some f, _, none => readWords (← s.flag f) ws
      | none, some setting, some value => readWords (← s.setting setting value) ws
      | none, some setting, none =>
        match ws with
        | [] => .error .rejected
        | value :: ws =>
          if looksLikeOption value then .error .rejected
          else readWords (← s.setting setting value) ws
      | _, _, _ => .error .rejected
    | '-' :: c :: cs => do readWords (← s.letters (c :: cs)) ws
    | _ => do readWords (← s.word w) ws

/-- A command to compile the script in a document. -/
structure Options where
  document : String
  tier : Option Tier := none
  live : Bool := false
  verbose : Bool := false
  full : Bool := false
  json : Bool := false
  source : Option String := none
  address : Option String := none
  config : Option String := none
deriving DecidableEq, Repr

namespace Options

/-- The command that the words give. A plot has one tier, and structured output leaves no choice
of delivery or detail. -/
def ofSeen (s : Seen) : Except Stop Options :=
  let tiers := Tier.all.filter fun t => .tier t ∈ s.flags
  let json := Flag.json ∈ s.flags
  let live := Flag.live ∈ s.flags
  let full := Flag.full ∈ s.flags
  match s.document with
  | none => .error .rejected
  | some document =>
    if 1 < tiers.length ∨ (json ∧ (live ∨ full)) then .error .rejected
    else .ok {
      document, tier := tiers.head?, live, verbose := .verbose ∈ s.flags, full, json
      source := s.settings.lookup .source
      address := s.settings.lookup .address
      config := s.settings.lookup .config }

def ofWords (words : List String) : Except Stop Options := do ofSeen (← readWords {} words)

/-- A configuration in which the options are followed. -/
def configure (o : Options) (c : Config) : Config :=
  { tier := o.tier.getD c.tier
    delivery := if o.live then .live else c.delivery
    verbose := o.verbose || c.verbose
    errorDetail := if o.full then .full else c.errorDetail
    session := { c.session with address := o.address.getD c.session.address } }

end Options

end Plotline
