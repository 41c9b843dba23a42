import BotPayload.Files.Tree
import BotPayload.Argument
import BotPayload.Request

/-!
Attaching files: what a caller names and hands over, and the upload that comes of it. A file given
by its path alone is uploaded under its own name; a spoiler is uploaded under a name that says so.
-/

namespace BotPayload

inductive FileName where
  | missing
  | text (s : String)
  | path (p : Path)
  | foreign (v : Value)

inductive FileSource where
  | bytes (data : List UInt8)
  /-- A stream, of which the first bytes have been read already. -/
  | stream (data : List UInt8) (position : Nat)
  | text (path : String)
  | path (p : Path)
  | foreign (v : Value)

namespace Attachment

def spoilerMark : String := "SPOILER_"

/-- The data of the file at a path, which errors name as `shown`. -/
def readPath (fs : FileSystem) (p : Path) (shown : String) : Except Error (List UInt8) :=
  if p.text.toList.contains '\x00' then .error .nulInPath
  else
    match fs.locate p with
    | .data bytes => .ok bytes
    | .directory => .error (.isDirectory p.text)
    | .beneathFile => .error (.notDirectory p.text)
    | .nowhere => .error (.refused "File" (.fileNotFound shown))
    | .tooLong => .error (.pathTooLong p.text)

def readSource (fs : FileSystem) : FileSource → Except Error (List UInt8)
  | .bytes data => .ok data
  | .stream data position => .ok (data.drop position)
  | .text s => readPath fs (Path.ofText s) s
  | .path p => readPath fs p p.text
  | .foreign _ => .error .wrongKind

/-- The name and the source of a file: a file without a source is read from the path that names
it. -/
def resolve (name : FileName) (source : Option FileSource) : Except Error (String × FileSource) :=
  match name, source with
  | .missing, _ => .error (.refused "Name" .missing)
  | .text s, some source => .ok (s, source)
  | .path p, some source => .ok (p.text, source)
  | .foreign v, some source => do return (← v.write, source)
  | .text s, none => let p := Path.ofText s; .ok (p.name, .path p)
  | .path p, none => .ok (p.name, .path p)
  | .foreign _, none => .error .wrongKind

def uploadName (spoiler : Bool) (name : String) : String :=
  if spoiler && !spoilerMark.toList.isPrefixOf name.toList then spoilerMark ++ name else name

end Attachment

end BotPayload
