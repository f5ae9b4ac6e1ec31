import Concord.Python.IpAddress

/-!
# `urlsplit`

The scheme and the network location of a URL, and its host, as `urllib.parse.urlsplit` has them.
-/

namespace Concord.Python

/-- What is used of the Unicode tables: `str.lower`, `repr` and the normal form NFKC. -/
structure Unicode where
  lower : Text → Text
  repr : Text → Text
  nfkc : Text → Text

def asciiText : Unicode where
  lower := List.map Char.toLower
  repr s := '\'' :: s ++ ['\'']
  nfkc s := s

structure SplitResult where
  scheme : Text
  netloc : Text
  deriving DecidableEq

/-- The scheme before the first colon, in lower case, and the rest. -/
def splitScheme (url : Text) : Text × Text :=
  match url.span (· ≠ ':') with
  | (c :: cs, _ :: rest) =>
    if c.isAlpha ∧ (c :: cs).all fun c => c.isAlphanum ∨ c ∈ ['+', '-', '.'] then
      ((c :: cs).map Char.toLower, rest)
    else ([], url)
  | _ => ([], url)

/-- `_splitnetloc`. -/
def splitNetloc : Text → Text
  | '/' :: '/' :: s => s.takeWhile (· ∉ ['/', '?', '#'])
  | _ => []

/-- What is behind the last `@`. -/
def hostInfo (netloc : Text) : Text := (netloc.reverse.takeWhile (· ≠ '@')).reverse

def bracketed (info : Text) : Text := (info.dropWhile (· ≠ '[')).drop 1

/-- `_hostinfo`, the host. -/
def rawHost (netloc : Text) : Text :=
  let info := hostInfo netloc
  if '[' ∈ info then (bracketed info).takeWhile (· ≠ ']') else info.takeWhile (· ≠ ':')

/-- `_check_bracketed_host`. -/
def bracketedHostOk (host : Text) : Bool :=
  match host with
  | 'v' :: rest =>
    let name := rest.dropWhile fun c => (hexValue c).isSome
    name.length < rest.length ∧ name.head? = some '.' ∧ 1 < name.length
  | _ =>
    match ipAddress host with
    | some (.v6 _) => true
    | _ => false

/-- `_check_bracketed_netloc`. -/
def bracketedNetlocOk (netloc : Text) : Bool :=
  let info := hostInfo netloc
  let port := ((bracketed info).dropWhile (· ≠ ']')).drop 1
  ('[' ∉ info ∨ info.head? = some '[' ∧ (port = [] ∨ port.head? = some ':')) ∧
    bracketedHostOk (rawHost netloc) = true

/-- `_checknetloc`. -/
def netlocOk (py : Unicode) (netloc : Text) : Bool :=
  let n := netloc.filter (· ∉ ['@', ':', '#', '?'])
  netloc.all (fun c => c.toNat < 128) || py.nfkc n = n ||
    (py.nfkc n).all (· ∉ ['/', '?', '#', '@', ':'])

/-- `urlsplit`; `none` is a `ValueError`. -/
def urlsplit (py : Unicode) (url : Text) : Option SplitResult :=
  let url := (url.dropWhile fun c => c.toNat ≤ 0x20).filter (· ∉ ['\t', '\r', '\n'])
  let netloc := splitNetloc (splitScheme url).2
  if ('[' ∈ netloc ↔ ']' ∈ netloc) ∧ ('[' ∈ netloc → bracketedNetlocOk netloc = true) ∧
      netlocOk py netloc = true then
    some ⟨(splitScheme url).1, netloc⟩
  else none

/-- `SplitResult.hostname`: a scope is not put in lower case. -/
def SplitResult.hostname (r : SplitResult) (py : Unicode) : Option Text :=
  let host := rawHost r.netloc
  if host = [] then none
  else some (py.lower (host.takeWhile (· ≠ '%')) ++ host.dropWhile (· ≠ '%'))

example : [" HTTPS://user@Example.com:8443/a?b", "https://[FE80::1%Eth0]/", "https://[127.0.0.1]/",
      "/etc/passwd", "https://[::1"].map (fun url => (urlsplit asciiText url.toList).map fun r =>
        (r.scheme, r.hostname asciiText)) =
    [some ("https".toList, some "example.com".toList),
      some ("https".toList, some "fe80::1%Eth0".toList), none, some ([], none), none] := by
  decide +kernel

end Concord.Python
