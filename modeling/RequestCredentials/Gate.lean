import RequestCredentials.Files
import RequestCredentials.Request.Search
import RequestCredentials.Request.Http
/-
  The gate — locating credentials in the requests that pass a proxy

  The gate holds the credentials of the configured declaration. It notes on
  each request what it found, under `metadataKey` in the request's metadata,
  and, when enforcement is on, answers requests without a credential itself.
  When the configured declaration cannot be loaded, enforcement answers every
  request.

  A request on which the search breaks down is let through with an error
  notice. A configuration file is passed over without any notice if its path
  starts in a home directory that is not known, if its path or content is not
  text, or if it holds too long a number: what was loaded before stays in use.
-/

namespace RequestCredentials

/-! ## Options -/

structure GateOptions where
  /-- The path of the declaration file; none if empty. -/
  config : Text
  /-- Requests without a credential are rejected. -/
  enforce : Bool
  /-- What happens at every location is told. -/
  verbose : Bool

/-- The options that are set anew. -/
structure OptionUpdate where
  config : Option Text
  enforce : Option Bool
  verbose : Option Bool

/-- The options after an update. -/
def GateOptions.update (o : GateOptions) (u : OptionUpdate) : GateOptions :=
  ⟨u.config.getD o.config, u.enforce.getD o.enforce, u.verbose.getD o.verbose⟩

/-- The words that switch an option on in the environment, in any case. -/
def affirmatives : List Text := ["1", "true", "yes"]

/-- The truth value of an environment variable that may not be set. -/
def environmentFlag (value : Option Text) : Except SystemTextFault Bool := do
  let value := value.getD []
  let _ ← systemText value
  return affirmatives.contains value.lower

/-! ## Notices -/

inductive Level where
  | debug
  | info
  | warning
  | error
  deriving DecidableEq

def Level.name : Level → String
  | debug => "DEBUG"
  | info => "INFO"
  | warning => "WARNING"
  | error => "ERROR"

/-- What the gate tells its operator. -/
inductive Notice where
  | verboseOn
  | disabled
  | loaded (path : Text)
  | enforcing
  | loadFailed (path : Text) (refusal : Refusal)
  | rejectingAll
  | passingAll
  | found (host kind : Text) (location : Location)
  | tried (host kind : Text) (location : Location) (failure : Option Failure)
  | brokeDown (host : Text) (fault : Fault)

namespace Notice

def level : Notice → Level
  | verboseOn => .info
  | disabled => .info
  | loaded _ => .info
  | enforcing => .info
  | loadFailed _ _ => .error
  | rejectingAll => .warning
  | passingAll => .warning
  | found _ _ _ => .debug
  | tried _ _ _ _ => .debug
  | brokeDown _ _ => .error

def message : Notice → Text
  | verboseOn => "Verbose logging ENABLED"
  | disabled => "No credentials config, credloc addon disabled"
  | loaded path => "Credential locations loaded from " ++ path
  | enforcing => "ENFORCE: requests without a credential are rejected"
  | loadFailed path refusal =>
    "Failed to load credentials config " ++ path ++ ": " ++ refusal.message
  | rejectingAll => "ENFORCE: no valid credentials config, rejecting every request"
  | passingAll => "No valid credentials config, requests pass through unchecked"
  | found host kind location => host ++ ": " ++ kind ++ " credential from " ++ location.label
  | tried host kind location failure =>
    let result : Text := match failure with
      | some f => f.message
      | none => "None"
    host ++ ": " ++ kind ++ " at " ++ location.label ++ ": " ++ result
  | brokeDown host fault => "Error in request hook for " ++ host ++ ": " ++ fault.message

end Notice

/-! ## The gate -/

structure Gate where
  options : GateOptions
  credentials : Option (List Credential)
  enabled : Bool
  /-- The configured declaration could not be loaded. -/
  loadFailed : Bool

/-- The answer to a request without a credential. -/
def Response.forbidden : Response := ⟨403, "Access forbidden.\n"⟩

/-- The name under which the gate notes what it found. -/
def metadataKey : Text := "credloc"

/-- The note of a match. -/
def Match.note (m : Match) : Tree :=
  .dict [("found", .bool true), ("kind", .text m.kind), ("value", .text m.value),
    ("location", .text m.location.label), ("index", .int m.index)]

/-- The note of a search that found nothing. -/
def notFoundNote : Tree := .dict [("found", .bool false)]

namespace Gate

/-- The notices that the operator sees. -/
def shown (g : Gate) (notices : List Notice) : List Notice :=
  notices.filter fun n => g.options.verbose || n.level ≠ .debug

/-- The gate after the configured declaration was looked for in the files, and its notices. -/
def reload (g : Gate) (files : Files) : Gate × List Notice :=
  let path := g.options.config
  if path = [] then
    ({ g with credentials := none, enabled := false, loadFailed := false },
      if g.enabled then [.disabled] else [])
  else match files.load path with
    | .ok credentials =>
      ({ g with credentials := some credentials, enabled := true, loadFailed := false },
        .loaded path :: if g.options.enforce then [.enforcing] else [])
    | .error (.refused refusal) =>
      ({ g with credentials := none, enabled := false, loadFailed := true },
        [.loadFailed path refusal, if g.options.enforce then .rejectingAll else .passingAll])
    | .error .noHome => (g, [])
    | .error (.badPath _) => (g, [])
    | .error (.notText _) => (g, [])
    | .error (.tooManyDigits _) => (g, [])

/-- Sets options; the declaration is loaded whenever its path is among them. -/
def configure (g : Gate) (files : Files) (update : OptionUpdate) : Gate × List Notice :=
  let g := { g with options := g.options.update update }
  let verbose := if update.verbose = some true then [Notice.verboseOn] else []
  match update.config with
  | none => (g, verbose)
  | some _ =>
    let (g, notices) := g.reload files
    (g, verbose ++ notices)

/-- The exchange with a note of what was found. -/
def noted (x : Exchange) (note : Tree) : Exchange :=
  { x with metadata := Tree.setEntry metadataKey note x.metadata }

/-- The exchange when nothing was found. -/
def miss (g : Gate) (x : Exchange) : Exchange :=
  let x := noted x notFoundNote
  if g.options.enforce then { x with response := some .forbidden } else x

/-- Checks an exchange for these credentials, given what locations see of its request, and says what
to tell the operator. -/
def checkRequest (g : Gate) (credentials : List Credential) (x : Exchange) (r : Request) :
    Exchange × List Notice :=
  match r.find credentials with
  | .error fault => (x, [.brokeDown x.host fault])
  | .ok (some m) => (noted x m.note, [.found x.host m.kind m.location])
  | .ok none =>
    if g.options.verbose then
      match r.survey credentials with
      | .error fault => (noted x notFoundNote, [.brokeDown x.host fault])
      | .ok outcomes => (g.miss x, outcomes.map fun o => .tried x.host o.kind o.location o.failure?)
    else (g.miss x, [])

/-- Checks an exchange for these credentials, and says what to tell the operator. -/
def check (g : Gate) (credentials : List Credential) (x : Exchange) : Exchange × List Notice :=
  match x.request with
  | .error fault => (x, [.brokeDown x.host fault])
  | .ok r => g.checkRequest credentials x r

/-- What becomes of an exchange, and what to tell the operator. -/
def pass (g : Gate) (x : Exchange) : Exchange × List Notice :=
  if g.loadFailed && g.options.enforce then (g.miss x, [])
  else if g.enabled then
    match g.credentials with
    | some credentials => g.check credentials x
    | none => (x, [])
  else (x, [])

end Gate

/-! ## Runs -/

/-- A gate and the files that it is configured from. -/
structure Proxy where
  files : Files
  gate : Gate

inductive Proxy.Event where
  | write (path : Text) (content : Option Bytes)
  | configure (update : OptionUpdate)
  | request (x : Exchange)

namespace Proxy

/-- A proxy as it starts, with some files and options and without a declaration. -/
def start (files : Files) (options : GateOptions) : Proxy := ⟨files, options, none, false, false⟩

/-- The proxy after an event, what became of the request if it was one, and the notices shown. -/
def step (p : Proxy) : Event → Proxy × Option Exchange × List Notice
  | .write path content => (⟨p.files.write path content, p.gate⟩, none, [])
  | .configure update =>
    let (gate, notices) := p.gate.configure p.files update
    (⟨p.files, gate⟩, none, gate.shown notices)
  | .request x =>
    let (x, notices) := p.gate.pass x
    (p, some x, p.gate.shown notices)

end Proxy

end RequestCredentials
