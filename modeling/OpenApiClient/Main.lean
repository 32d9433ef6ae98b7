import OpenApiClient.CommandLine.Run

set_option autoImplicit false

namespace OpenApiClient.Main

def isSource (path : String) : Bool :=
  Path.baseName path = Settings.fileName ||
    (Load.formatOfExtension? (Path.extension path)).isSome

def contentOf (bytes : ByteArray) : FileContent :=
  match String.fromUTF8? bytes with
  | some text => .text text
  | none => .bytes

def pathOf (place : Place) : String := "/" ++ String.intercalate "/" place

partial def image (place : Place) (tree : FileTree) : IO FileTree := do
  let path := (← IO.currentDir) / pathOf place
  if ← path.isDir then
    let entries ← path.readDir
    entries.foldlM (fun tree entry => image (place ++ [entry.fileName]) tree)
      (tree.put place .folder)
  else if !(← path.pathExists) then pure tree
  else if isSource (pathOf place) then
    let bytes ← IO.FS.readBinFile path
    pure (tree.put place (.file (contentOf bytes)))
  else pure (tree.put place (.file .bytes))

def reach (path : String) (tree : FileTree) : IO FileTree := do
  let folder ← IO.currentDir
  let mut tree := tree
  let mut place := tree.start path
  for name in Path.names path do
    place := Path.step place name
    if place ≠ [] ∧ (← (folder / pathOf place).isDir) then tree := tree.put place .folder
  image place tree

def surroundings (words : List String) : IO FileTree := do
  let here := (← IO.currentDir).toString
  let home := Path.normalNames true (Path.names here)
  let tree ← reach here ⟨[], ⟨home, 0⟩⟩
  match CommandLine.parse words with
  | .arguments arguments =>
      match CommandLine.resolve tree arguments with
      | .ok settings =>
          [settings.url, settings.folder].foldlM (fun tree value =>
            match value with
            | .scalar (.text path) => reach path tree
            | _ => pure tree) tree
      | .error _ => pure tree
  | _ => pure tree

def removeOld (old new : FileTree) : IO Unit := do
  let gone := old.stored.reverse.filter fun entry =>
    new.stored.get? entry.1 != some entry.2 && new.stored.get? entry.1 != some .folder
  gone.forM fun (place, stored) => do
    match stored with
    | .folder => IO.FS.removeDir (pathOf place)
    | .file _ => IO.FS.removeFile (pathOf place)

def writeNew (old new : FileTree) : IO Unit :=
  new.stored.forM fun (place, stored) => do
    -- What a run has left alone is not written again.
    if old.stored.get? place == some stored then pure ()
    else
      match stored with
      | .folder => IO.FS.createDirAll (pathOf place)
      | .file (.text text) => IO.FS.writeFile (pathOf place) text
      | .file .bytes => pure ()

def status : CommandLine.Ending → UInt32
  | .exit n => UInt32.ofNat n
  | .crash _ => 1

end OpenApiClient.Main

open OpenApiClient in
def main (words : List String) : IO UInt32 := do
  let tree ← Main.surroundings words
  let folder ← IO.currentDir
  let outcome := CommandLine.run ⟨folder.toString, fun _ => .unreached "no network"⟩ tree words
  let out ← IO.getStdout
  let err ← IO.getStderr
  out.putStr outcome.session.output
  outcome.logLines.forM fun line => err.putStrLn line
  if outcome.usage then err.putStrLn "usage: openapi-codegen [options] [file]"
  Main.removeOld tree outcome.session.tree
  Main.writeNew tree outcome.session.tree
  pure (Main.status outcome.ending)
