import Storefront.Table
import Storefront.Text.Address
import Storefront.Text.FilePath
import Storefront.Time.Timestamp

/-! # The page cache

Pages are kept in memory, and in a folder with one file for each address. A page counts as fresh for
some time after it has been written; a page that is not fresh is dropped where it is found.
-/
namespace Storefront

structure CachedPage where
  written : Timestamp
  content : String
deriving DecidableEq

/-- A file of the folder. Its content is text only if it is encoded well. -/
structure PageFile where
  written : Timestamp
  bytes : ByteArray

/-- Where the files are: nowhere, in a folder, or in a place that something else takes up. -/
inductive PageFolder
  | absent
  | files (table : Table String PageFile)
  | blocked

namespace PageFolder

def file? : PageFolder → String → Option PageFile
  | files table, name => table.get? name
  | _, _ => none

def put (folder : PageFolder) (name : String) (file : PageFile) : PageFolder :=
  match folder with
  | files table => files (table.insert name file)
  | other => other

def erase (folder : PageFolder) (name : String) : PageFolder :=
  match folder with
  | files table => files (table.erase name)
  | other => other

def listing : PageFolder → List (String × Nat)
  | files table =>
    (table.entries.map fun (name, file) => (name, file.bytes.size)).mergeSort fun a b => !decide (b.1 < a.1)
  | _ => []

end PageFolder

structure PageCache where
  /-- How many seconds a page counts as fresh. -/
  ttl : Nat
  memory : Table String CachedPage := {}
  folder : PageFolder

namespace PageCache

def fileName (url : String) : String := String.ofList (Text.fileName url.toList) ++ ".html"

def pathIn (folder url : String) : String := String.ofList (Text.joinPath folder.toList (fileName url).toList)

def isFresh (ttl : Nat) (written now : Timestamp) : Bool := now.before (written.addSeconds ttl)

def fromMemory (c : PageCache) (now : Timestamp) (url : String) : Option String × PageCache :=
  match c.memory.get? url with
  | none => (none, c)
  | some page =>
    if isFresh c.ttl page.written now then (some page.content, c)
    else (none, { c with memory := c.memory.erase url })

/-- The page in the folder, which is kept in memory from then on with the age of its file. -/
def fromFolder (c : PageCache) (now : Timestamp) (url : String) : Option String × PageCache :=
  match c.folder.file? (fileName url) with
  | none => (none, c)
  | some file =>
    if file.bytes.size = 0 || !isFresh c.ttl file.written now then
      (none, { c with folder := c.folder.erase (fileName url) })
    else match String.fromUTF8? file.bytes with
      | none => (none, c)
      | some content => (some content, { c with memory := c.memory.insert url ⟨file.written, content⟩ })

def get (c : PageCache) (now : Timestamp) (url : String) : Option String × PageCache :=
  match c.fromMemory now url with
  | (some content, c) => (some content, c)
  | (none, c) => c.fromFolder now url

def put (c : PageCache) (now : Timestamp) (url content : String) : PageCache :=
  { c with
    memory := c.memory.insert url ⟨now, content⟩
    folder := c.folder.put (fileName url) ⟨now, content.toUTF8⟩ }

def invalidate (c : PageCache) (url : String) : PageCache :=
  { c with memory := c.memory.erase url, folder := c.folder.erase (fileName url) }

/-- The same folder with nothing in memory. -/
def reopen (c : PageCache) : PageCache := { c with memory := {} }

end PageCache
end Storefront
