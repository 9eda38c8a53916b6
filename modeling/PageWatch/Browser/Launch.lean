import PageWatch.Files
import PageWatch.Text.Printable

/-!
# Launching a browser

A browser is started with a fixed list of arguments. It announces on its error stream
the address under which it can be driven; a launch reads that stream, line by line, up
to the announcement.
-/

namespace PageWatch.Browser

/-! ## Arguments -/

def drivenArguments : List String :=
  ["--disable-background-networking",
   "--enable-features=NetworkService,NetworkServiceInProcess",
   "--disable-background-timer-throttling",
   "--disable-backgrounding-occluded-windows",
   "--disable-breakpad",
   "--disable-client-side-phishing-detection",
   "--disable-component-extensions-with-background-pages",
   "--disable-default-apps",
   "--disable-dev-shm-usage",
   "--disable-features=TranslateUI",
   "--disable-hang-monitor",
   "--disable-ipc-flooding-protection",
   "--disable-popup-blocking",
   "--disable-prompt-on-repost",
   "--disable-renderer-backgrounding",
   "--disable-sync",
   "--force-color-profile=srgb",
   "--metrics-recording-only",
   "--no-first-run",
   "--enable-automation",
   "--password-store=basic",
   "--use-mock-keychain",
   "--enable-blink-features=IdleDetection",
   "--lang=en_US"]

/-- What keeps a browser with a throwaway profile quiet. -/
def quietArguments : List String :=
  ["--no-first-run",
   "--no-default-browser-check",
   "--disable-background-networking",
   "--disable-default-apps",
   "--disable-extensions",
   "--disable-popup-blocking",
   "--disable-sync"]

/-- The width and the height of the browser's window. -/
def windowSize : Nat × Nat := (1280, 720)

/-- The arguments that a browser is started with. It always gets a window of its own
size, which a visible browser leaves unused as well. -/
def launchArguments (headless : Bool) (profile : String) : List String :=
  let (width, height) := windowSize
  drivenArguments ++ (if headless then ["--headless=new"] else []) ++ quietArguments ++
    ["--remote-debugging-port=0",
     "--disable-extensions",
     "--user-data-dir=" ++ profile,
     s!"--window-size={width},{height}",
     "--headless", "--hide-scrollbars", "--mute-audio"]

/-! ## Errors -/

/-- Why the system refuses to start a file. -/
inductive StartFault where
  | missing
  | forbidden
  | notExecutable
  deriving DecidableEq, Repr, Inhabited

/-- The system's wording. -/
def StartFault.message : StartFault → String
  | .missing => ReadFault.missing.message
  | .forbidden => ReadFault.forbidden.message
  | .notExecutable => "Exec format error (os error 8)"

/-- What comes of starting a file. -/
inductive Startup where
  | refused (fault : StartFault)
  /-- It runs, and writes some bytes to its error stream before it closes it. -/
  | speaks (bytes : List UInt8)
  deriving DecidableEq, Repr, Inhabited

/-- What comes of starting what a path leads to; `running` says it of a program. -/
def Startup.ofEntry (running : ByteArray → Startup) : Entry → Startup
  | .absent _ => .refused .missing
  | .directory | .file _ false => .refused .forbidden
  | .file bytes true => running bytes

/-- Why a browser cannot be driven. -/
inductive LaunchError where
  | notStarted (fault : StartFault)
  /-- The error stream ended before the announcement. -/
  | ended (said : List UInt8)
  /-- A line of the error stream is no text. -/
  | garbled (said : List UInt8)
  /-- Nothing answers at the announced address. -/
  | unreachable (address : String)
  deriving DecidableEq, Repr, Inhabited

def text? (bytes : List UInt8) : Option String :=
  String.fromUTF8? (ByteArray.mk bytes.toArray)

/-- What a browser said, as it is shown in a message: as a text where it is one, and
byte by byte otherwise. -/
def showSaid (said : List UInt8) : String :=
  let inner := match text? said with
    | some text => Text.inspect text
    | none => "[" ++ ", ".intercalate (said.map fun byte => toString byte.toNat) ++ "]"
  "BrowserStderr(" ++ inner ++ ")"

/-- The wording of a broken error stream, followed by that of its cause. -/
def brokenStream (said : List UInt8) (cause : String) : List String :=
  ["Input/Output error while resolving websocket URL from browser process, stderr: " ++
    showSaid said ++ ": " ++ cause, cause]

/-- The wording of an error, followed by those of its causes. -/
def LaunchError.messages (error : LaunchError) : List String :=
  "Failed to launch Chrome" :: match error with
    | notStarted fault => [fault.message, fault.message]
    | ended said => brokenStream said "unexpected end of stream"
    | garbled said => brokenStream said ReadFault.notText.message
    | unreachable _ =>
      let cause := "Connection refused (os error 111)"
      ["IO error: " ++ cause, "IO error: " ++ cause, cause]

/-! ## The announcement -/

/-- The bytes up to and with the first line feed, and those after it. -/
def firstLine : List UInt8 → List UInt8 × List UInt8
  | [] => ([], [])
  | byte :: rest =>
    if byte = 10 then ([byte], rest)
    else
      let (line, rest) := firstLine rest
      (byte :: line, rest)

theorem length_firstLine_snd (bytes : List UInt8) :
    (firstLine bytes).2.length ≤ bytes.length - 1 := by
  induction bytes with
  | nil => simp [firstLine]
  | cons byte rest ih =>
    unfold firstLine
    split
    · simp
    · simp only [List.length_cons, Nat.add_sub_cancel]
      omega

def announced? (line : String) : Option String :=
  match line.splitOn "listening on " with
  | [] | [_] => none
  | parts =>
    let address := parts.getLastD ""
    if address.startsWith "ws" && (address.splitOn "devtools/browser").length ≠ 1 then
      some address.trimAscii.toString
    else none

/-- Reads an error stream up to the announcement; `said` is what came before. -/
def listen (said : List UInt8) : List UInt8 → Except LaunchError String
  | [] => .error (.ended said)
  | byte :: rest =>
    let line := (firstLine (byte :: rest)).1
    let said := said ++ line
    match text? line with
    | none => .error (.garbled said)
    | some text =>
      match announced? text with
      | some address => .ok address
      | none => listen said (firstLine (byte :: rest)).2
termination_by bytes => bytes.length
decreasing_by
  have := length_firstLine_snd (byte :: rest)
  simp only [List.length_cons] at *
  omega

/-- Why a browser that was started so cannot be driven. No connection is made to an
announced address. -/
def launchError : Startup → LaunchError
  | .refused fault => .notStarted fault
  | .speaks bytes =>
    match listen [] bytes with
    | .ok address => .unreachable address
    | .error error => error

end PageWatch.Browser
