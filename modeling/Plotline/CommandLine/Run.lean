import Plotline.CommandLine.Options
import Plotline.Compile.Compilation
import Plotline.Delivery.Address
import Plotline.Delivery.Session

/-!
# Running a command

What a command does, over a `World` that it reads files from, prints to and connects through.
-/

namespace Plotline

/-- What surrounds a command. Reading and connecting give a reason when they fail. -/
structure World (m : Type → Type) where
  content : String → m (Except String String)
  print : String → m Unit
  complain : String → m Unit
  warn : Warning → m Unit
  connect : Address → SessionConfig → m (Except String (Link m))

namespace World

variable {m : Type → Type} [Monad m] (w : World m)

/-- The text of a file. -/
def text (path : String) : ExceptT String m String :=
  ExceptT.adapt (fun reason => "cannot read " ++ path ++ ": " ++ reason) (w.content path)

/-- The configuration of a command. -/
def config (o : Options) : ExceptT String m Config := do
  match o.config with
  | none => return o.configure {}
  | some path =>
    match Config.ofText? (← w.text path) with
    | some c => return o.configure c
    | none => throw ("invalid config " ++ path)

/-- Delivers templates over a new connection. -/
def deliver (session : SessionConfig) (templates : List TemplateCode) :
    m (Except DeliveryError Progress) := do
  match Address.ofText session.address with
  | .error reason => return .error (.refused session.address reason)
  | .ok address =>
    match ← w.connect address session with
    | .error reason => return .error (.refused session.address reason)
    | .ok link =>
      let (result, _) ← ({} : Session).deliver link session.timeout templates
      match result with
      | .error e => e.warning?.forM w.warn
      | .ok _ => pure ()
      return result

/-- Compiles and prints the result as a document. -/
def runStructured (config : Config) (document : String) : ExceptT String m Unit := do
  if config.delivery = .live then throw "--json cannot be used with live delivery"
  let result := CompileResult.ofText document config.tier
  match result.outcome with
  | .ok c => c.warnings.forM fun x => w.warn x
  | .error _ => pure ()
  w.print result.toJson.pretty
  if !result.succeeded then throw "compilation failed"

/-- Compiles and delivers. -/
def runPlain (config : Config) (document : String) (source : Option String) :
    ExceptT String m Unit := do
  let report (e : CompileError) := e.report config.errorDetail source
  let c ← (compileText document config.tier).mapError report
  c.warnings.forM fun x => w.warn x
  w.print ("Compiled " ++ toString c.templates.length ++ " template(s) for a " ++
    config.tier.name ++ " plot (" ++ toString config.tier.capacity ++ " slots)")
  if config.verbose then w.print c.listing
  match config.delivery with
  | .offline =>
    c.package.giveCommands.forM fun command => w.print command
    if config.verbose then w.print ("Artifact: " ++ c.package.artifact)
  | .live =>
    match ← w.deliver config.session c.codes with
    | .ok progress => w.print ("Delivered " ++ progress.label)
    | .error e => throw (report (.delivery e))

def perform (o : Options) : ExceptT String m Unit := do
  let config ← w.config o
  let document ← w.text o.document
  let source ← o.source.mapM w.text
  if o.json then w.runStructured config document else w.runPlain config document source

/-- The name and version of the program. -/
def versionText : String := "kindling 0.1.0"

def helpText : String :=
  "Compile Kindling scripts into plot code templates\n\nUsage: kindling [OPTIONS] <AST>"

/-- Runs the command that the words give, and gives the exit code. -/
def run (words : List String) : m UInt32 := do
  match Options.ofWords words with
  | .error .version =>
    w.print versionText
    return 0
  | .error .help =>
    w.print helpText
    return 0
  | .error .rejected =>
    w.complain helpText
    return 2
  | .ok o =>
    match ← (w.perform o).run with
    | .ok () => return 0
    | .error text =>
      w.complain text
      return 1

end World

end Plotline
