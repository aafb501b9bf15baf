import ScriptHost.Guest.Attributes

/-! Output: what writing to standard output does, whichever object stands there. -/
namespace ScriptHost.GuestM

/-- Reports emitted lines to the log and to the hooks that listen. -/
def emit (label : String) (listeners : Nat) (lines : List String) : GuestM Unit :=
  lines.forM fun line => do
    record .info .script (label ++ ": " ++ line)
    (List.range listeners).forM fun hook => notify (.output hook label line)

/-- Does something to a line writer, which is as it was made unless it is in use already. -/
def strike (output : Identity) (made : LineWriter) (listeners : Nat) (stroke : LineWriter.Stroke) : GuestM Unit := do
  let (writer, listeners) := (← get).writers.getD output (made, listeners)
  let (lines, writer) := writer.strike stroke
  modify fun g => { g with
    strokes := g.strokes.push (output, stroke)
    writers := g.writers.insert output (writer, listeners) }
  emit writer.label listeners lines

/-- Writes a string to a line writer object. -/
def writeLines (output : Identity) (text : List Char) : GuestM Unit := do
  match ← bodyOf output with
  | .output made listeners => strike output made listeners (.write text)
  | _ => return ()

/-- Emits what a line writer object still holds. -/
def flushLines (output : Identity) : GuestM Unit := do
  match ← bodyOf output with
  | .output made listeners => strike output made listeners .flush
  | _ => return ()

/-- Writes an object to an output object; the result is the number of code points. -/
def writeTo (output value : Identity) : GuestM Identity := do
  let g ← get
  match g.body output, g.body value with
  | .output _ _, .text t =>
    let s ← liftExcept t.encode
    writeLines output s.toList
    int t.length
  | .output _ _, _ =>
    typeError ("argument 'text': '" ++ g.classTitle value ++ "' object cannot be converted to 'PyString'")
  | _, .text t =>
    modify fun g => { g with captured := g.captured ++ t }
    int t.length
  | _, _ => typeError ("string argument expected, got '" ++ g.classLabel value ++ "'")

/-- Writes the readable form of an object to a file. -/
def writeForm (file value : Identity) : GuestM Unit := do
  let write ← attributeOf file "write"
  let g ← get
  let shown ← if g.isText value && g.isExact value then pure value else text (← plainText value)
  discard (call write [shown])

/-- The text that separates or ends what is printed, unless the usual one does. -/
def delimiter? (name : String) (id? : Option Identity) : GuestM (Option Identity) := do
  let g ← get
  match id?.filter fun id => !g.isNone id with
  | .none => return .none
  | some id =>
    if g.isText id then return some id
    else typeError (name ++ " must be None or a string, not " ++ g.classLabel id)

/-- Prints objects with spaces between them and an ending behind them. -/
def print (values : List Identity) (ending : Option Identity) : GuestM Unit := do
  match (← get).stdout with
  | .none => raise (.of "RuntimeError" "lost sys.stdout")
  | some output =>
    unless (← get).isNone output do
      let ending ← delimiter? "end" ending
      let mut isFirst := true
      for value in values do
        unless isFirst do writeForm output (← string " ")
        writeForm output value
        isFirst := false
      writeForm output (ending.getD (← string "\n"))

end ScriptHost.GuestM
