/-! # Resource identifiers

The forms of a URI that may stand for an endpoint: absolute, with scheme and authority; an authority
alone; a path alone; and the asterisk. A fragment is passed over.

* `Uri.ofString?` takes a text apart. -/

namespace Dynamo

/-- **The parts of a URI.** -/
structure Uri where
  scheme : Option String
  authority : Option String
  /-- The path as it is written, which may be empty. -/
  path : String
  query : Option String
  deriving DecidableEq, Repr, Inhabited

namespace Uri

/-- The greatest number of bytes. -/
def maxLength : Nat := 65534

/-- The greatest length of a scheme. -/
def maxSchemeLength : Nat := 64

/-- Is the code point one of these ranges'? -/
def inRanges (ranges : List (Nat × Nat)) (c : Char) : Bool :=
  ranges.any fun r => r.1 ≤ c.toNat && c.toNat ≤ r.2

/-- May the character stand in a scheme? -/
def isSchemeChar (c : Char) : Bool :=
  c.isAlphanum || c = '+' || c = '-' || c = '.' || c = '~'

/-- May the character stand in an authority? The percent sign has a rule of its own. -/
def isAuthorityChar (c : Char) : Bool :=
  inRanges [(0x21, 0x21), (0x24, 0x24), (0x26, 0x3B), (0x3D, 0x3D), (0x40, 0x5B), (0x5D, 0x5D),
    (0x5F, 0x5F), (0x61, 0x7A), (0x7E, 0x7E)] c

/-- May the character stand in a path? -/
def isPathChar (c : Char) : Bool :=
  c = '"' || 0x80 ≤ c.toNat ||
    inRanges [(0x21, 0x21), (0x24, 0x3B), (0x3D, 0x3D), (0x40, 0x5F), (0x61, 0x7E)] c

/-- May the character stand in a query? -/
def isQueryChar (c : Char) : Bool :=
  0x80 ≤ c.toNat || inRanges [(0x21, 0x21), (0x24, 0x3B), (0x3D, 0x3D), (0x3F, 0x7E)] c

/-! ### Schemes -/

/-- The rest of a text that begins with `start`, given in lower case. -/
def dropStart? (start : String) (cs : List Char) : Option (List Char) :=
  let n := start.toList.length
  if (cs.take n).map Char.toLower = start.toList then some (cs.drop n) else none

/-- The scheme of a text, if it has one, and the rest; `none` if the scheme is too long. -/
def scheme? (cs : List Char) : Option (Option String × List Char) :=
  match dropStart? "http://" cs, dropStart? "https://" cs with
  | some rest, _ => some (some "http", rest)
  | _, some rest => some (some "https", rest)
  | _, _ =>
    let name := cs.takeWhile isSchemeChar
    match cs.dropWhile isSchemeChar with
    | ':' :: '/' :: '/' :: rest =>
      if name = [] ∧ rest = [] then some (none, cs)
      else if name.length ≤ maxSchemeLength then some (some (String.ofList name), rest)
      else none
    | _ => some (none, cs)

/-! ### Authorities -/

/-- What was seen of an authority. -/
structure AuthorityScan where
  /-- The colons outside brackets and user information. -/
  colons : Nat := 0
  opened : Bool := false
  closed : Bool := false
  /-- A percent sign outside brackets and user information. -/
  percent : Bool := false
  /-- Was the last character an `@`? -/
  afterAt : Bool := false

/-- Looks at one character of an authority. -/
def AuthorityScan.step? (s : AuthorityScan) (c : Char) : Option AuthorityScan :=
  let s := { s with afterAt := c = '@' }
  if c = ':' then if s.colons < 8 then some { s with colons := s.colons + 1 } else none
  else if c = '[' then if s.percent || s.opened then none else some { s with opened := true }
  else if c = ']' then
    if !s.opened || s.closed then none
    else some { s with closed := true, colons := 0, percent := false }
  else if c = '@' then some { s with colons := 0, percent := false }
  else if c = '%' then some { s with percent := true }
  else if isAuthorityChar c then some s
  else none

/-- Is the authority one: with at most one port, with closed brackets, and with a host? -/
def isAuthority (cs : List Char) : Bool :=
  match cs.foldlM AuthorityScan.step? {} with
  | none => false
  | some s => s.opened = s.closed && s.colons ≤ 1 && !s.afterAt && !s.percent

/-- Does the character end an authority? -/
def endsAuthority (c : Char) : Bool := c = '/' || c = '?' || c = '#'

/-! ### Paths and queries -/

/-- The path and the query of a text. -/
def target? (cs : List Char) : Option (String × Option String) :=
  let path := cs.takeWhile fun c => c ≠ '?' && c ≠ '#'
  if path.all isPathChar then
    match cs.dropWhile fun c => c ≠ '?' && c ≠ '#' with
    | '?' :: cs =>
      let query := cs.takeWhile (· ≠ '#')
      if query.all isQueryChar then some (String.ofList path, some (String.ofList query)) else none
    | _ => some (String.ofList path, none)
  else none

/-! ### The whole -/

/-- The parts of a text that does not begin with a slash. -/
def full? (cs : List Char) : Option Uri := do
  let (scheme, cs) ← scheme? cs
  let authority := cs.takeWhile (!endsAuthority ·)
  let rest := cs.dropWhile (!endsAuthority ·)
  if !isAuthority authority || authority = [] then none
  else if scheme = none then
    if rest = [] then some ⟨none, some (String.ofList authority), "", none⟩ else none
  else
    let (path, query) ← target? rest
    some ⟨scheme, some (String.ofList authority), path, query⟩

/-- The parts of a text. -/
def ofChars? : List Char → Option Uri
  | ['*'] => some ⟨none, none, "*", none⟩
  | '/' :: cs => (target? ('/' :: cs)).map fun t => ⟨none, none, t.1, t.2⟩
  | cs => full? cs

/-- **The parts of a text**, if it is a URI. -/
def ofString? (s : String) : Option Uri :=
  if maxLength < s.utf8ByteSize then none else ofChars? s.toList

/-- The path that a request names: never empty. -/
def requestPath (u : Uri) : String := if u.path.isEmpty then "/" else u.path

/-- The query as it is written behind the path. -/
def queryText (u : Uri) : String := (u.query.map ("?" ++ ·)).getD ""

end Uri

end Dynamo
