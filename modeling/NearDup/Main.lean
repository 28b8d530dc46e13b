import NearDup.Startup

/-! The program. It starts the application from its environment and its files, and then answers the
requests on standard input, one a line: method, target and, after a further space, a JSON body. It
stops where the input ends. -/

namespace NearDup

/-- The variables in a block of assignments with zero bytes between them. -/
def variablesOf (block : Bytes) : Environment :=
  (Text.splitAt '\x00' ((Text.decode? block).getD "")).filterMap fun assignment =>
    match Text.splitAt '=' assignment with
    | name :: value :: values => some (name, "=".intercalate (value :: values))
    | _ => none

def requestOfLine (line : String) : Http.Request :=
  match Text.splitAt ' ' (Text.trim line) with
  | method :: target :: body =>
    ⟨method, target, [("content-type", "application/json")], Text.encode (" ".intercalate body)⟩
  | _ => ⟨"GET", "/", [], []⟩

def Http.Response.line (r : Http.Response) : String :=
  match r.body with
  | some body => toString r.status ++ " " ++ body.render
  | none => toString r.status

/-- Adds what stands at a path on the disk to a tree. -/
def readInto (files : Tree) (path : Path) : IO Tree := do
  let entry? ← try
      let bytes ← IO.FS.readBinFile path.text
      pure (some (Entry.file bytes.toList))
    catch
      | .noFileOrDirectory .. => pure none
      | _ => pure (some Entry.dir)
  match entry? with
  | some entry => return ((files.plant path entry).toOption).getD files
  | none => return files

/-- Writes the snapshot of a session to the disk if it is not the one of the session before. -/
def writeBack (before after : Session) : IO Unit := do
  match after.connection.storage.backend with
  | .memory _ => return
  | .file snapshot =>
    if snapshot.store = before.connection.storage.backend.store then return
    let write := snapshot.write snapshot.store
    if let some parent := snapshot.path.parent? then
      if !parent.text.isEmpty then IO.FS.createDirAll parent.text
    IO.FS.writeBinFile write.sibling.text (ByteArray.mk write.bytes.toArray)
    IO.FS.rename write.sibling.text snapshot.path.text

/-- Answers requests until the input ends. -/
partial def serve (app : App) (session : Session) (origin : Nat) : IO Unit := do
  let line ← (← IO.getStdin).getLine
  if line.isEmpty then return
  let now ← IO.monoMsNow
  let current := session.wait (now - origin - session.clock)
  let (response, next) := app.answer current (requestOfLine line)
  writeBack session next
  IO.println response.line
  serve app next origin

end NearDup

open NearDup in
def main : IO UInt32 := do
  let environment ← try
      pure (variablesOf (← IO.FS.readBinFile "/proc/self/environ").toList)
    catch _ => pure []
  let files ← readInto .empty Startup.envFile
  let paths := match Startup.config? files environment with
    | .ok config => Startup.paths config
    | .error _ => []
  let files ← paths.foldlM readInto files
  match Startup.start? files environment with
  | .error e =>
    IO.eprint e.report
    return 1
  | .ok s =>
    s.openingLines.forM fun line => IO.println line
    serve s.app (.start (.direct s.storage)) (← IO.monoMsNow)
    Startup.closingLines.forM fun line => IO.println line
    return 0
