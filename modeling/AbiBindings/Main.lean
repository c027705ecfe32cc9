import AbiBindings.CommandLine.Run

/-!
# The program

Reads the environment and the files that a command line names, runs it, and writes what has changed.
No connection is opened: every node counts as one that does not listen.
-/

namespace AbiBindings.CommandLine

/-- The variables that matter to a run. -/
def variableNames : List String := Logging.Filter.variableName :: overrides.map (·.key)

/-- The files that a command line names. -/
def Invocation.paths (i : Invocation) : List String :=
  i.settings?.toList ++
    match i.command with
    | .generate abiFile _ codeFile? _ _ => abiFile :: codeFile?.toList
    | _ => []

/-- The tree with a file that a path leads to, and the directories above it. -/
def addFile (t : Files.Tree) (path : String) (content : Bytes) : Files.Tree :=
  let parts := Files.Path.parts path
  let names := parts.filter (!Files.Path.isStay ·)
  let place := Files.Tree.start parts ++ names
  let above := (List.range (place.length - 1)).map fun n => place.take (n + 1)
  (above.foldl (fun t p => if Files.Place.isGiven p then t else t.put p .directory) t).put place
    (.file content)

/-- The path that leads to a place. -/
def pathOf (p : Files.Place) : String :=
  match p with
  | "/" :: names => "/" ++ "/".intercalate names
  | names => "/".intercalate names

/-- Reads the files of some paths; what cannot be read is left out. -/
def readFiles (paths : List String) : IO Files.Tree :=
  paths.foldlM (fun (t : Files.Tree) (path : String) => do
    try
      let content ← IO.FS.readBinFile path
      pure (addFile t path content.data.toList)
    catch _ => pure t) .empty

/-- Writes what a run has changed. -/
def writeChanges (before after : Files.Tree) : IO Unit :=
  after.entries.forM fun (place, node) =>
    if before.at? place == some node then pure ()
    else
      match node with
      | .directory => IO.FS.createDirAll (pathOf place)
      | .file content => IO.FS.writeBinFile (pathOf place) ⟨content.toArray⟩

/-- Runs the words of a command line. -/
def runWords (words : List String) : IO UInt32 := do
  let values ← variableNames.mapM fun name => do pure (name, ← IO.getEnv name)
  let env : Environment := fun name => (values.lookup name).join
  let paths := match Invocation.ofWords words with
    | .ok i => i.paths
    | .error _ => []
  let files ← readFiles paths
  let reach : Rpc.Url → Rpc.Endpoint Unit := fun url => .unreachable url.text
  let (report, _) := run reach words env files (.start ())
  writeChanges files report.files
  IO.print report.printed
  IO.eprint (report.complaint?.getD "")
  pure (UInt32.ofNat report.code)

end AbiBindings.CommandLine

/-- The program. -/
def main (words : List String) : IO UInt32 := AbiBindings.CommandLine.runWords words
