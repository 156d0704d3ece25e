import ProofGutter.Session

/-!
# The program

The outer layer: it reads files, variables and the clock, passes messages on, and prints. The
verifier is not started from here. Whoever starts it names the two ends of its streams, pipes as a
rule, in the variables `VERIFIER_OUTPUT` and `VERIFIER_INPUT`.
-/

namespace ProofGutter.Program

/-- A connection to a verifier. Messages are taken in behind the back of those who send some. -/
structure Connection where
  /-- Where the verifier reads. -/
  sink : IO.FS.Handle
  client : IO.Ref Client

namespace Connection

/-- Sends a message; a verifier that is gone does not get it. -/
def send (c : Connection) (message : Json) : IO Unit := do
  try
    c.sink.write ⟨(Frame.encode message).toArray⟩
    c.sink.flush
  catch _ => return

/-- The lines of a header, up to a blank one. -/
partial def headerLines (source : IO.FS.Handle) (before : String) : IO String := do
  let line ← source.getLine
  if (Text.trim line.toList).isEmpty then return before ++ line
  else headerLines source (before ++ line)

/-- The next message. -/
def nextMessage (source : IO.FS.Handle) : IO (Frame.Reading (Option Json)) := do
  let header := Frame.utf8 (← headerLines source "")
  match (Frame.readHeader header).result with
  | .ok (some length) =>
    if Frame.maxLength < length then return Frame.read header
    else return Frame.read (header ++ (← source.read (.ofNat length)).data.toList)
  | _ => return Frame.read header

/-- Takes in messages until they end. -/
partial def listen (c : Connection) (source : IO.FS.Handle) : IO Unit := do
  let reading ← try nextMessage source catch _ => pure ⟨.error .notText, [], true⟩
  match reading.result with
  | .ok none => c.client.modify (·.stop .exited)
  | .error e => c.client.modify (·.stop (.failed e.message))
  | .ok (some frame) =>
    let reply ← c.client.modifyGet fun client =>
      let (received, client) := client.receive frame
      (received.reply, client)
    if let some reply := reply then c.send reply
    listen c source

/-- Waits for the response to a request. -/
partial def await (c : Connection) (id deadline : Nat) : IO Unit := do
  let client ← c.client.get
  if client.responses.any fun entry => entry.1 = id then return
  else if client.ended || deadline ≤ (← IO.monoMsNow) then return
  else
    IO.sleep 5
    await c id deadline

/-- Sends a request and waits for its response, half a minute at most. -/
def request (c : Connection) (method : Method) (params : Option Json) :
    IO (Except ClientError Json) := do
  let (message, id) ← c.client.modifyGet fun client =>
    let (message, next) := client.request method params
    ((message, client.nextId), next)
  c.send message.toJson
  c.await id ((← IO.monoMsNow) + 30000)
  let response ← c.client.modifyGet (·.settle id)
  return response.elim (.error (.noResponse method)) .ok

end Connection

/-- What there is at a path. -/
def fileAt (path : String) : IO Config.File := do
  try return .bytes (← IO.FS.readBinFile path).data.toList
  catch
    | .noFileOrDirectory .. => return .absent
    | _ => return .directory

/-- The number of this process. -/
def process : IO Nat := do
  try
    let status ← IO.FS.readFile "/proc/self/stat"
    return (Text.Digits.number? 10 (status.toList.takeWhile Char.isDigit)).getD 0
  catch _ => return 0

/-- The configuration that the options ask for. -/
def configuration (o : Options) (directory : String) : IO (Except Config.Error Config) := do
  let home := (← IO.getEnv "HOME").getD "/"
  let path := o.config.getD (Config.usualPath home)
  match Config.ofFile path (← fileAt (Path.absolute directory path)) with
  | .error e => return .error e
  | .ok config =>
    let values ← config.references.mapM fun name => do
      return (name.toList, (← IO.getEnv name).map String.toList)
    return .ok (config.expandVariables fun name => (values.lookup name).join)

/-- Watches a document until the watch ends. -/
partial def watch (c : Connection) (w : Watch) (start deadline : Nat) : IO (Outcome × Watch) := do
  let events ← c.client.modifyGet (·.take Session.eventBudget)
  let (outcome, w) := w.frame deadline ((← IO.monoMsNow) - start) events
  match outcome with
  | some outcome => return (outcome, w)
  | none =>
    IO.sleep (.ofNat Session.framePeriod)
    watch c w start deadline

/-- Says why the program cannot go on. -/
def giveUp (message : String) : IO Ending := do
  IO.eprintln message
  return .failure

/-- Prints counterexamples: whether each has a text. -/
def printCounterExamples (c : Connection) (uri : String) : IO Bool := do
  let response ← c.request .counterExample (some (Message.counterExampleParams uri))
  match response.bind Client.counterExamples with
  | .error e =>
    IO.eprintln e.message
    return true
  | .ok items =>
    let (text, complete) := CounterExample.print items
    IO.print text
    return complete

/-- Closes the document and asks the verifier to end, as far as it still listens. -/
def leave (c : Connection) (uri : String) : IO Unit := do
  let client ← c.client.get
  if client.running then
    if let .ok (some message, next) := client.closeDocument uri then
      c.client.modify fun now => { now with versions := next.versions }
      c.send message.toJson
    let response ← c.request .shutdown none
    if response.toOption.any fun r => (r.get? "error").isNone then
      c.send (Message.toJson ⟨none, .exit, none⟩)

/-- Shows a document that was read from a path. -/
def present (c : Connection) (o : Options) (config : Config) (path text : String) : IO Ending := do
  match (← c.client.get).openDocument path text with
  | .error e => giveUp e.message
  | .ok (uri, message, client) =>
    c.client.modify fun now => { now with versions := client.versions }
    c.send message.toJson
    let terminal : Terminal := { uri := uri, language := config.display.language, text := text }
    let w := Watch.start config.display.settings terminal config.display.language
    let (outcome, w) ← watch c w (← IO.monoMsNow) (o.timeout * 1000)
    let w := o.line.elim w fun n => w.moveCursor (if n = 0 then 0 else n - 1)
    IO.print w.terminal.render
    let failed := w.failed outcome
    let complete ←
      if failed && o.counterExamples && (← c.client.get).running then printCounterExamples c uri
      else pure true
    if !complete then return .fault
    leave c uri
    return if failed then .failure else .success

/-- Connects to the verifier and greets it. -/
def connect (config : Config) (root : String) : IO (Except ClientError Connection) := do
  match ← IO.getEnv "VERIFIER_INPUT", ← IO.getEnv "VERIFIER_OUTPUT", Url.ofPath? root with
  | some sink, some source, some uri =>
    let sink ← IO.FS.Handle.mk sink .write
    let source ← IO.FS.Handle.mk source .read
    let c : Connection := ⟨sink, ← IO.mkRef { language := config.display.language }⟩
    let _ ← IO.asTask (c.listen source) .dedicated
    match ← c.request .start (some (Message.startParams (← process) uri)) with
    | .error e => return .error e
    | .ok response =>
      match Incoming.error? response with
      | some message => return .error (.startFailed message)
      | none =>
        c.send (Message.toJson ⟨none, .started, some (.object [])⟩)
        return .ok c
  | _, _, none => return .error (.noAddress root)
  | _, _, _ => return .error (.notFound config.launch.command)

/-- Shows the document that the options name. -/
def run (o : Options) : IO Ending := do
  let directory := (← IO.currentDir).toString
  match ← configuration o directory with
  | .error e => giveUp e.message
  | .ok config =>
    let path := Path.absolute directory o.file
    match ← fileAt path with
    | .bytes contents =>
      match String.fromUTF8? ⟨contents.toArray⟩ with
      | none => giveUp ("reading " ++ path)
      | some text =>
        match ← connect config (Path.directory path) with
        | .error e => giveUp e.message
        | .ok c => present c o config path text
    | _ => giveUp ("reading " ++ path)

end ProofGutter.Program

open ProofGutter in
/-- Shows the document that the command line names. -/
def main (arguments : List String) : IO UInt32 := do
  let ending ← match Arguments.read arguments with
    | .error _ =>
      IO.eprintln "For more information, try '--help'."
      pure .misuse
    | .ok .help =>
      IO.print Arguments.help
      pure .success
    | .ok (.watch options) => Program.run options
  return .ofNat ending.code
