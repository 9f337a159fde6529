import WorkflowDocs.Decimal.Reading

/-!
# Showing a site

A site is shown by a local server, on a port that is free. The server runs until it is
interrupted.

## Main definitions

* `Host`: what the machine allows
* `Host.isBusy?`, `Host.findPort?`: ports that can be used
* `Host.serve`: a session, with the lines it prints
-/

namespace WorkflowDocs

/-- How a server stops. -/
inductive Stop where
  /-- The user interrupts it. -/
  | interrupt
  /-- It stops of itself. -/
  | ending
  /-- It fails, with a message. -/
  | failure (message : String)
  deriving DecidableEq, Repr, Inhabited

/-- What the machine allows: the ports in use, the directory of the site and whether it is there,
whether a browser can be opened, why a server cannot be started, and how it stops. -/
structure Host where
  busy : List Int := []
  site : String
  siteExists : Bool := true
  hasBrowser : Bool := true
  startError : Option String := none
  stop : Stop := .interrupt
  deriving DecidableEq, Repr, Inhabited

/-- Why a session ends before anything is decided. -/
inductive ServeError where
  /-- The port is not a number. -/
  | unreadablePort
  /-- The number is not a port. -/
  | portOutOfRange
  deriving DecidableEq, Repr, Inhabited

/-- How a session ends: with an exit code, by itself, or by an error. -/
inductive SessionEnd where
  | exit (code : Nat)
  | returned
  | error (e : ServeError)
  deriving DecidableEq, Repr, Inhabited

/-- A server that was started: its port, and the address that was opened in a browser. -/
structure Served where
  port : Int
  opened : Option String
  deriving DecidableEq, Repr, Inhabited

/-- What a session prints, how it ends, and the server it started. -/
structure Session where
  lines : List String
  ending : SessionEnd
  served : Option Served := none
  deriving DecidableEq, Repr, Inhabited

/-- All that a session prints. -/
def Session.output (s : Session) : String :=
  String.join (s.lines.map (· ++ "\n"))

/-- A session that prints lines before those of another. -/
def Session.after (s : Session) (lines : List String) : Session :=
  { s with lines := lines ++ s.lines }

/-- The greatest port number. -/
def lastPort : Int := 65535

/-- The port that is used when none is asked for. -/
def standardPort : Int := 8000

/-- The number of ports that are tried in place of one in use. -/
def portAttempts : Nat := 10

namespace Host

/-- Whether a port is in use. -/
def isBusy? (h : Host) (port : Int) : Except ServeError Bool :=
  if port < 0 || lastPort < port then .error .portOutOfRange else .ok (h.busy.contains port)

/-- The first port that is not in use among `attempts` ports. -/
def findPort? (h : Host) (start : Int) : Nat → Except ServeError (Option Int)
  | 0 => .ok none
  | attempts + 1 => do
    if ← h.isBusy? start then h.findPort? (start + 1) attempts else return some start

/-- The address of a site on this machine. -/
def address (port : Int) : String :=
  "http://localhost:" ++ Decimal.intText port

/-- The lines that end a session, and how it ends. -/
def stopping (h : Host) : List String × SessionEnd :=
  match h.stop with
  | .interrupt => (["", "👋 Server stopped"], .exit 0)
  | .ending => ([], .returned)
  | .failure message => (["❌ Error starting server: " ++ message], .exit 1)

/-- A session on a port. -/
def serveOn (h : Host) (port : Int) : Session :=
  match h.startError with
  | some message => ⟨["❌ Error starting server: " ++ message], .exit 1, none⟩
  | none =>
    let lines := ["🚀 Starting HTTP server for WDL Atlas...", "📁 Serving directory: " ++ h.site,
      "🌐 Open your browser at: " ++ address port, "⏹️  Press Ctrl+C to stop the server", "",
      if h.hasBrowser then "✓ Browser opened automatically"
      else "ℹ️  Could not open browser automatically. Please open manually.", ""]
    ⟨lines ++ h.stopping.1, h.stopping.2,
      some ⟨port, if h.hasBrowser then some (address port) else none⟩⟩

/-- A session on a port, if the site is there. -/
def serveSite (h : Host) (port : Int) : Session :=
  if h.siteExists then h.serveOn port
  else ⟨["❌ Error: Documentation directory not found at " ++ h.site,
      "   Please run 'wdlatlas generate' first to generate the HTMLs."], .exit 1, none⟩

/-- A session on a port that is not in use, in place of one that is. -/
def serveElsewhere (h : Host) (program : String) (port : Int) : Session :=
  let warning := "⚠️  Warning: Port " ++ Decimal.intText port ++ " is already in use."
  match h.findPort? (port + 1) portAttempts with
  | .error e => ⟨[warning], .error e, none⟩
  | .ok (some other) =>
    (h.serveSite other).after [warning, "✓ Using alternative port: " ++ Decimal.intText other]
  | .ok none =>
    ⟨[warning, "❌ Error: Could not find an available port.",
      "   Please specify a different port: python " ++ program ++ " <port>"], .exit 1, none⟩

/-- The session of a command line; `program` is the name that the program is called by. -/
def serve (h : Host) (program : String) (args : List String) : Session :=
  match args.head?.elim (some standardPort) Decimal.readWhole? with
  | none => ⟨[], .error .unreadablePort, none⟩
  | some port =>
    match h.isBusy? port with
    | .error e => ⟨[], .error e, none⟩
    | .ok true => h.serveElsewhere program port
    | .ok false => h.serveSite port

end Host

end WorkflowDocs
