/-
  TunnelBroker.Store.Location — where a database is, as a URL says it.

  A URL names a file (`sqlite:sessions.db`, `sqlite:///var/sessions.db`) or a place in memory
  (`sqlite::memory:`, or no name at all), which is empty at first. Parameters may follow a question mark:
  `mode`, `cache`, `immutable` and `vfs`, and no others.

  - `Location.read?`: the location that a URL names.
-/

import TunnelBroker.Text.Percent
import TunnelBroker.Text.Split

namespace TunnelBroker.Store

structure Location where
  /-- The file with the database; without one it is in memory. -/
  file : Option String := none
  readOnly : Bool := false
  /-- A file that is not there is made. -/
  creates : Bool := false
  deriving DecidableEq, Repr

/-! ## URLs -/

/-- The characters that do not count at the ends of a URL. -/
def isUrlBlank (c : Char) : Bool := c.toNat ≤ 32

/-- A URL without what does not count in it: blanks and controls around it, tabs and line ends anywhere. -/
def urlChars (url : String) : List Char :=
  let trimmed := (url.toList.dropWhile isUrlBlank).reverse.dropWhile isUrlBlank
  trimmed.reverse.filter fun c => !"\t\n\r".toList.contains c

/-- The characters that no name of a host has. -/
def isHostChar (c : Char) : Bool := !"\x00\t\n\r #/:<>?@[\\]^|".toList.contains c

/-- A host and a port after it, either of which may be missing; a port does not stand alone. -/
def isHost (cs : List Char) : Bool :=
  match Text.cut? ':' cs with
  | none => cs.all isHostChar
  | some (host, port) =>
    !host.isEmpty && host.all isHostChar && port.all Text.isDigit && Text.ofDigits port ≤ 65535

/-- What may follow two slashes: a host, or a user, an at sign and a host. -/
def isAuthority (cs : List Char) : Bool :=
  match Text.cut? '@' cs.reverse with
  | none => isHost cs
  | some (host, _) => !host.isEmpty && isHost host.reverse

/-- Whether a text is a URL whose scheme, in any case, is that of these databases. -/
def isDatabaseUrl (url : String) : Bool :=
  match Text.cut? ':' (urlChars url) with
  | some (scheme, rest) =>
    (String.ofList scheme).toLower == "sqlite" &&
      match rest with
      | '/' :: '/' :: rest => isAuthority (rest.takeWhile fun c => !"/?#".toList.contains c)
      | _ => true
  | none => false

/-- The text after as many repetitions of `start` as it begins with; `most` bounds their number. -/
def afterAll (start : List Char) : (most : Nat) → List Char → List Char
  | 0, cs => cs
  | most + 1, cs => if Text.startsWith start cs then afterAll start most (cs.drop start.length) else cs

/-- A URL without its scheme, which counts as often as it is written. -/
def afterScheme (url : List Char) : List Char :=
  afterAll "sqlite:".toList url.length (afterAll "sqlite://".toList url.length url)

/-! ## Parameters -/

/-- What the parameters of a URL ask for. -/
structure Options where
  readOnly : Bool := false
  creates : Bool := false
  inMemory : Bool := false
  immutable : Bool := false
  fileSystem : String := "unix"
  deriving DecidableEq, Repr

namespace Options

/-- The ways in which files can be locked. -/
def fileSystems : List String := ["unix", "unix-none", "unix-dotfile", "unix-excl"]

def set (o : Options) : (name value : String) → Option Options
  | "mode", "ro" => some { o with readOnly := true }
  | "mode", "rw" => some o
  | "mode", "rwc" => some { o with creates := true }
  | "mode", "memory" => some { o with inMemory := true }
  | "cache", "private" => some o
  | "cache", "shared" => some o
  | "immutable", "true" => some { o with immutable := true }
  | "immutable", "1" => some { o with immutable := true }
  | "immutable", "false" => some { o with immutable := false }
  | "immutable", "0" => some { o with immutable := false }
  | "vfs", name => some { o with fileSystem := name }
  | _, _ => none

/-- A name or a value of a parameter. A plus sign stands for a blank. -/
def decode? (cs : List Char) : Option String :=
  Text.percentDecode? (cs.map fun c => if c = '+' then ' ' else c)

/-- Follows one parameter after the other; empty ones do not count. -/
def read? (cs : List Char) : Option Options :=
  ((Text.cutAll '&' cs).filter (!·.isEmpty)).foldlM (fun o parameter => do
    let (name, value) := (Text.cut? '=' parameter).getD (parameter, [])
    o.set (← decode? name) (← decode? value)) {}

end Options

/-! ## Locations -/

namespace Location

/-- The path that the name of a file means. It may be a URL of its own, on this host. -/
def path? (name : String) : Option String :=
  match name.toList with
  | 'f' :: 'i' :: 'l' :: 'e' :: ':' :: rest =>
    match rest.takeWhile fun c => c != '?' && c != '#' with
    | '/' :: '/' :: rest =>
      if ["", "localhost"].contains (String.ofList (rest.takeWhile (· != '/'))) then
        Text.percentDecode? (rest.dropWhile (· != '/'))
      else none
    | path => Text.percentDecode? path
  | _ => some name

/-- The location that a URL names. -/
def read? (url : String) : Option Location := do
  let rest := afterScheme url.toList
  let name := rest.takeWhile (· != '?')
  let file ← path? (← Text.percentDecode? name)
  let o ← Options.read? (rest.drop (name.length + 1))
  if !isDatabaseUrl url || !Options.fileSystems.contains o.fileSystem || file.contains '\x00' then none
  else if o.inMemory || file == "" || file == ":memory:" then some { readOnly := o.readOnly }
  else some { file, readOnly := o.readOnly || o.immutable, creates := o.creates }

end Location

end TunnelBroker.Store
